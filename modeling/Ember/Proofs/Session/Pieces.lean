import Ember.Proofs.Session.World
import Ember.Proofs.Syntax.Sequence

/-!
# A source in pieces

A source that is evaluated at once, and the same source cut into pieces that a session
evaluates one after the other. Both come to the same and leave the same scopes behind,
but for the places of the function literals: what is one program at once is many
programs in pieces.
-/

namespace Ember

open Text (joined)
open Grammar (Derives Tier)

section Turns

variable {State : Type} (sink : Sink State) (depth : Nat) (scope : ScopeId)

/-- Whether the evaluation of a source gets behind its last statement. An error ends it
before, and so does a return outside of all functions. -/
def runsThrough (source : String) (world : World) (trace : State) : Bool :=
  match (Parsing.ofSource source).result with
  | .error _ => false
  | .ok program =>
    (runStatements sink depth scope world program
      (sink.recordAll (Parsing.ofSource source).events trace)).1.isOk

theorem runsThrough_of_ok {source : String} (world : World) (trace : State) {program : Program}
    (parsed : (Parsing.ofSource source).result = .ok program) :
    runsThrough sink depth scope source world trace =
      (runStatements sink depth scope world program
        (sink.recordAll (Parsing.ofSource source).events trace)).1.isOk := by
  rw [runsThrough, parsed]

/-- Evaluates sources one after the other, until one does not run through. This is the
evaluation of the last one that was evaluated. -/
def evaluateInTurn (first : String) : List String → World → State → Evaluation State
  | [], world, trace => evaluateWith sink depth first scope world trace
  | next :: rest, world, trace =>
    let evaluation := evaluateWith sink depth first scope world trace
    if runsThrough sink depth scope first world trace then
      evaluateInTurn next rest evaluation.world evaluation.trace
    else evaluation

section Steps

variable {sink depth scope} {first : String} {world : World} {trace : State}

theorem evaluateInTurn_of_runsThrough (through : runsThrough sink depth scope first world trace)
    (next : String) (rest : List String) :
    evaluateInTurn sink depth scope first (next :: rest) world trace =
      evaluateInTurn sink depth scope next rest
        (evaluateWith sink depth first scope world trace).world
        (evaluateWith sink depth first scope world trace).trace :=
  if_pos through

theorem evaluateInTurn_of_ends (ends : runsThrough sink depth scope first world trace = false)
    (next : String) (rest : List String) :
    evaluateInTurn sink depth scope first (next :: rest) world trace =
      evaluateWith sink depth first scope world trace :=
  if_neg (Bool.eq_false_iff.mp ends)

end Steps

end Turns

section Places

/-- In which of some pieces, given their sizes, a statement stands, and where there. -/
def locate : List Nat → Nat → Nat × Nat
  | [], index => (0, index)
  | size :: sizes, index =>
    if index < size then (0, index)
    else ((locate sizes (index - size)).1 + 1, (locate sizes (index - size)).2)

theorem locate_of_lt {size index : Nat} (sizes : List Nat) (inside : index < size) :
    locate (size :: sizes) index = (0, index) := by
  rw [locate, if_pos inside]

theorem locate_add (size : Nat) (sizes : List Nat) (index : Nat) :
    locate (size :: sizes) (size + index) =
      ((locate sizes index).1 + 1, (locate sizes index).2) := by
  rw [locate, if_neg (Nat.not_lt.mpr (Nat.le_add_right _ _)), Nat.add_sub_cancel_left]

/-- No two statements stand at one place. -/
theorem locate_injective (sizes : List Nat) : Function.Injective (locate sizes) := by
  induction sizes with
  | nil =>
      intro first second same
      exact (Prod.mk.inj same).2
  | cons size sizes ih =>
      intro first second same
      rw [locate, locate] at same
      split at same <;> split at same <;> rw [Prod.mk.injEq] at same
      · exact same.2
      · exact absurd same.1.symm (Nat.succ_ne_zero _)
      · exact absurd same.1 (Nat.succ_ne_zero _)
      · have again := ih (Prod.ext (Nat.succ.inj same.1) same.2)
        omega

/-- The places of one program, and those of its pieces as programs of their own. The
places of programs before are kept. -/
def Renaming.pieces (programs : Nat) (sizes : List Nat) : Renaming where
  site left right := (left = right ∧ left.program < programs) ∨
    ∃ path index, left = ⟨programs, path ++ [index]⟩ ∧
      right = ⟨programs + (locate sizes index).1, path ++ [(locate sizes index).2]⟩
  child := by
    rintro left right (⟨rfl, below⟩ | ⟨path, index, rfl, rfl⟩) position
    · exact .inl ⟨rfl, below⟩
    · exact .inr ⟨position :: path, index, rfl, rfl⟩
  oneToOne := by
    rintro first second left right (⟨rfl, below⟩ | ⟨path, index, rfl, rfl⟩)
      (⟨rfl, otherBelow⟩ | ⟨otherPath, otherIndex, rfl, rfl⟩)
    · rfl
    · constructor <;> rintro rfl <;> dsimp only at below <;> omega
    · constructor <;> rintro rfl <;> dsimp only at otherBelow <;> omega
    · constructor
      · intro same
        rw [Site.mk.injEq] at same
        obtain ⟨rfl, last⟩ := List.append_inj' same.2 rfl
        cases last
        rfl
      · intro same
        rw [Site.mk.injEq, Nat.add_left_cancel_iff] at same
        obtain ⟨rfl, last⟩ := List.append_inj' same.2 rfl
        cases locate_injective sizes (Prod.ext same.1 (List.singleton_inj.mp last))
        rfl

end Places

section Statements

variable {State : Type} (recur : Node → Context → Eval State Value) (context : Context)

/-- Statements one after the other are evaluated one after the other. -/
theorem evalStatements_append (position : Nat) (last : Value) (first second : List Stmt) :
    evalStatements recur context position last (first ++ second) =
      evalStatements recur context position last first >>= fun value =>
        evalStatements recur context (position + first.length) value second := by
  induction first generalizing position last with
  | nil => rfl
  | cons statement rest ih =>
      rw [List.cons_append, evalStatements, evalStatements, bind_assoc]
      congr 1
      funext value
      rw [ih, List.length_cons, Nat.add_right_comm, Nat.add_assoc]

/-- What came before is not the value of statements that there are. -/
theorem evalStatements_of_ne_nil (position : Nat) (last : Value) {statements : List Stmt}
    (nonempty : statements ≠ []) :
    evalStatements recur context position last statements =
      evalStatements recur context position .null statements := by
  cases statements with
  | nil => exact absurd rfl nonempty
  | cons statement rest => rfl

end Statements

section Turns

variable {State : Type} (sink : Sink State) (depth : Nat) (scope : ScopeId) {moved : Renaming}

/-- The first of some pieces, at its position in the whole program and as a program of
its own. -/
theorem runStatements_alike {number position : Nat} {program : Program} {sizes : List Nat}
    {left : Machine State} {world : World}
    (places : ∀ index, moved.site ⟨number, [position + index]⟩
      ⟨world.programs + (locate (program.length :: sizes) index).1,
        [(locate (program.length :: sizes) index).2]⟩)
    (stores : moved.view.Stores left.store world.store) (noted : State) :
    EndsAlike (Alike moved.view.likeness) (Alike moved.view.likeness)
        (evalStatements (evalNode sink depth) ⟨scope, .root number⟩ position .null program left).1
        (runStatements sink depth scope world program noted).1 ∧
      moved.view.Stores
        (evalStatements (evalNode sink depth) ⟨scope, .root number⟩ position .null program
          left).2.store
        (runStatements sink depth scope world program noted).2.store := by
  let same := moved.view.correspondence sink sink
  have contexts : ∀ index < program.length,
      same.context (Context.child ⟨scope, .root number⟩ (position + index))
        (Context.child ⟨scope, .root world.programs⟩ (0 + index)) := by
    intro index inside
    have place := places index
    rw [locate_of_lt _ inside] at place
    rw [Nat.zero_add]
    exact ⟨place, rfl, trivial⟩
  have passes : ∀ statement ∈ program, statement.all same.test same.stmtTest :=
    fun statement _ => hereditary_all_true.everyStmt statement
  have related := Correspondence.related_evalStatements (same.related_evalNode depth) contexts
    passes .null
  obtain ⟨ends, after⟩ := related left ⟨world.store, noted⟩ ⟨stores, trivial⟩
  exact ⟨ends, after.1⟩

/-- The pieces from some one on, as a part of the whole program and in turn. -/
theorem evaluateInTurn_alike {number position : Nat} {first : String} {rest : List String}
    {program : Program} {others : List Program}
    (parsed : (Parsing.ofSource first).result = .ok program)
    (parsedRest : List.Forall₂
      (fun source program => (Parsing.ofSource source).result = .ok program) rest others)
    (nonempty : ∀ other ∈ others, other ≠ []) {left : Machine State} {world : World}
    {trace : State}
    (places : ∀ index, moved.site ⟨number, [position + index]⟩
      ⟨world.programs + (locate (program.length :: others.map List.length) index).1,
        [(locate (program.length :: others.map List.length) index).2]⟩)
    (stores : moved.view.Stores left.store world.store) :
    OutcomesAlike moved.view.likeness
        (.ofResult (evalStatements (evalNode sink depth) ⟨scope, .root number⟩ position .null
          (program ++ others.flatten) left).1)
        (evaluateInTurn sink depth scope first rest world trace).outcome ∧
      moved.view.Stores
        (evalStatements (evalNode sink depth) ⟨scope, .root number⟩ position .null
          (program ++ others.flatten) left).2.store
        (evaluateInTurn sink depth scope first rest world trace).world.store := by
  induction parsedRest generalizing first program position left world trace with
  | nil =>
      obtain ⟨outcome, final⟩ := evaluateWith_of_ok sink depth scope world trace parsed
      rw [List.flatten_nil, List.append_nil, evaluateInTurn, outcome, final]
      obtain ⟨ends, after⟩ := runStatements_alike sink depth scope places stores _
      exact ⟨ends.outcomes, after⟩
  | @cons next nextProgram rest others nextParsed othersParsed ih =>
      rw [List.forall_mem_cons] at nonempty
      obtain ⟨outcome, final⟩ := evaluateWith_of_ok sink depth scope world trace parsed
      have ends := runsThrough_of_ok sink depth scope world trace parsed
      have ran := runStatements_alike sink depth scope places stores
        (sink.recordAll (Parsing.ofSource first).events trace)
      rw [evalStatements_append, Eval.bind_apply]
      generalize runStatements sink depth scope world program _ = rightEnd at ran outcome final ends
      generalize evalStatements _ _ position .null program left = leftEnd at ran ⊢
      rcases leftEnd with ⟨leftEnd, leftAfter⟩
      rcases rightEnd with ⟨rightEnd, rightAfter⟩
      obtain ⟨alike, after⟩ := ran
      cases alike with
      | ok _ =>
          have further : ∀ index, moved.site ⟨number, [position + program.length + index]⟩
              ⟨world.programs + 1 + (locate (nextProgram.length :: others.map List.length) index).1,
                [(locate (nextProgram.length :: others.map List.length) index).2]⟩ := by
            intro index
            have place := places (program.length + index)
            rwa [locate_add, ← Nat.add_assoc, Nat.add_comm _ 1, ← Nat.add_assoc] at place
          have more : nextProgram ++ others.flatten ≠ [] := by simp [nonempty.1]
          rw [evaluateInTurn_of_runsThrough ends, final]
          dsimp only
          rw [List.flatten_cons, evalStatements_of_ne_nil _ _ _ _ more]
          exact ih nextParsed nonempty.2 further after
      | returned alike =>
          rw [evaluateInTurn_of_ends ends, outcome, final]
          exact ⟨.value alike, after⟩
      | failed error =>
          rw [evaluateInTurn_of_ends ends, outcome, final]
          exact ⟨.faulty _, after⟩
      | exhausted =>
          rw [evaluateInTurn_of_ends ends, outcome, final]
          exact ⟨.exhausted, after⟩

/-- A source that is cut into pieces behind semicolons, each of which is a program and
not empty, comes to the same as its pieces in turn, and leaves the same scopes with the
same bindings, in every sound world. Only functions that it makes have other places. -/
theorem evaluateWith_joined (first : String) (rest : List String) {world : World}
    (sound : world.Sound) (trace : State)
    (parsed : ∀ source ∈ first :: rest,
      ∃ program, (Parsing.ofSource source).result = .ok program ∧ program ≠ [])
    (closed : ∀ source ∈ (first :: rest).dropLast, endsInSemicolon source) :
    ∃ moved : Renaming, (∀ place, place.program < world.programs → moved.site place place) ∧
      OutcomesAlike moved.view.likeness
        (evaluateWith sink depth (joined "\n" (first :: rest)) scope world trace).outcome
        (evaluateInTurn sink depth scope first rest world trace).outcome ∧
      moved.view.Stores
        (evaluateWith sink depth (joined "\n" (first :: rest)) scope world trace).world.store
        (evaluateInTurn sink depth scope first rest world trace).world.store := by
  choose! program parsed nonempty using parsed
  have each : List.Forall₂ (fun source program => (Parsing.ofSource source).result = .ok program)
      (first :: rest) ((first :: rest).map program) :=
    List.forall₂_map_right_iff.mpr (List.forall₂_same.mpr parsed)
  have whole := Parsing.result_joined each (List.cons_ne_nil _ _) closed
  obtain ⟨outcome, final⟩ := evaluateWith_of_ok sink depth scope world trace whole
  rw [List.forall_mem_cons] at parsed nonempty
  let sizes := (program first).length :: (rest.map program).map List.length
  have kept : ∀ place, place.program < world.programs →
      (Renaming.pieces world.programs sizes).site place place :=
    fun place below => .inl ⟨rfl, below⟩
  have places : ∀ index, (Renaming.pieces world.programs sizes).site
      ⟨world.programs, [0 + index]⟩
      ⟨world.programs + (locate sizes index).1, [(locate sizes index).2]⟩ := by
    intro index
    rw [Nat.zero_add]
    exact .inr ⟨[], index, rfl, rfl⟩
  refine ⟨Renaming.pieces world.programs sizes, kept, ?_⟩
  rw [outcome, final]
  exact evaluateInTurn_alike sink depth scope parsed.1
    (List.forall₂_map_right_iff.mpr (List.forall₂_same.mpr parsed.2))
    (List.forall_mem_map.mpr nonempty.2) places (sound.stores kept)

end Turns

/-- A function that one piece makes and the next one gives back. -/
theorem evaluateWith_joined_function :
    ∃ moved : Renaming, OutcomesAlike moved.view.likeness
      (evaluateWith .silent 5 (joined "\n" ["let f = fn(x) \x7b x \x7d;", "f"]) 0
        (World.empty.enter none).2 ()).outcome
      (evaluateInTurn .silent 5 0 "let f = fn(x) \x7b x \x7d;" ["f"]
        (World.empty.enter none).2 ()).outcome := by
  have name (found : String) {tier : Tier} :
      Derives (.expression tier) [.identifier found] (.identifier found) :=
    (Derives.identifier found).looser tier.rank_le
  have literal := Derives.function (.lastItem (.listedName "x"))
    (.block (.lastExpression (name "x")))
  have binding : (Parsing.ofSource "let f = fn(x) \x7b x \x7d;").result =
      .ok [.binding "f" (.function ["x"] [.expression (.identifier "x")])] :=
    Parsing.result_of_derives (by decide +kernel)
      (.moreStatements (.binding "f" (literal.looser (by decide))) .noStatements)
  have use : (Parsing.ofSource "f").result = .ok [.expression (.identifier "f")] :=
    Parsing.result_of_derives (by decide +kernel) (.lastExpression (name "f"))
  have parsed : ∀ source ∈ ["let f = fn(x) \x7b x \x7d;", "f"],
      ∃ program, (Parsing.ofSource source).result = .ok program ∧ program ≠ [] := by
    rw [List.forall_mem_cons, List.forall_mem_singleton]
    exact ⟨⟨_, binding, nofun⟩, ⟨_, use, nofun⟩⟩
  have closed : ∀ source ∈ ["let f = fn(x) \x7b x \x7d;", "f"].dropLast,
      endsInSemicolon source :=
    List.forall_mem_singleton.mpr (by decide +kernel)
  obtain ⟨moved, -, outcomes, -⟩ := evaluateWith_joined .silent 5 0 _ _
    (World.sound_empty.enter none) () parsed closed
  exact ⟨moved, outcomes⟩

end Ember
