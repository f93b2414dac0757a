import Mathlib.Logic.Relation
import Ember.Proofs.Evaluation.Activation
import Ember.Proofs.Session.Basic

/-!
# Chronicles

A chronicle is a world with all that led to it: which programs were parsed, and the histories
of their runs. Scopes are opened, names are bound, programs are parsed and run, in any order
and each as often as one likes, also one program many times.

Functions are told apart by the place of their literal and by the scope in which it was
evaluated. In a chronicle this is the identity of the literal and of the call that was running:
no two literals share a place, and no two calls share a scope.
-/

namespace Ember

/-- What happens while a program runs. -/
def NumberedProgram.history (program : NumberedProgram) (depth : Nat) (scope : ScopeId)
    (store : Store) : List Moment :=
  (followBlock depth ⟨scope, .root program.number⟩ program.statements store).2.trace

/-- A run leaves the store that its history leaves, and who listens hears of this history. -/
theorem NumberedProgram.run_eq {State : Type} (program : NumberedProgram) (sink : Sink State)
    (depth : Nat) (scope : ScopeId) (world : World) (trace : State) :
    let followed := followBlock depth ⟨scope, .root program.number⟩ program.statements world.store
    program.run sink depth scope world trace =
      (.ofResult followed.1, { world with store := followed.2.store },
        sink.hearAll (events (program.history depth scope world.store)) trace) := by
  simp only [run, evalProgram, evalBlock_eq_followBlock, history]

/-- The place and the value, if a function literal comes to a value. -/
def Moment.made? : Moment → Option (Context × Value)
  | .ended (.expr (.function _ _)) place (.value value) _ => some (place, value)
  | _ => none

theorem Moment.exists_of_made? {history : List Moment} {time : Nat} {place : Context}
    {value : Value} (made : history[time]?.bind Moment.made? = some (place, value)) :
    ∃ parameters body store, history[time]? =
      some (.ended (.expr (.function parameters body)) place (.value value) store) := by
  obtain ⟨moment, found, made⟩ := Option.bind_eq_some_iff.mp made
  unfold Moment.made? at made
  split at made
  · cases made
    exact ⟨_, _, _, found⟩
  · cases made

/-- A run that came to an end: the store that it started from, and what happened. -/
structure Run where
  before : Store
  history : List Moment

/-- The call that is running at a time, if it is not the program itself. -/
def Run.call? (run : Run) (time : Nat) : Option Nat :=
  activation? (pending (run.history.take time))

/-- A world, the programs that were parsed, each at its number, and the runs of them. -/
structure Chronicle where
  world : World
  programs : List Program
  runs : List Run

namespace Chronicle

/-- Nothing has happened yet. -/
def start : Chronicle := ⟨.empty, [], []⟩

section Happenings

variable (chronicle : Chronicle)

/-- A scope is opened. -/
def enter (outer : Option ScopeId) : Chronicle :=
  { chronicle with world := (chronicle.world.enter outer).2 }

/-- A name is bound. -/
def define (scope : ScopeId) (name : String) (value : Value) : Chronicle :=
  { chronicle with world := chronicle.world.define scope name value }

/-- A program gets a number. -/
def parse (program : Program) : Chronicle :=
  { chronicle with
    world := (chronicle.world.number program).2
    programs := chronicle.programs ++ [program] }

/-- A program runs. -/
def run {State : Type} (sink : Sink State) (depth : Nat) (scope : ScopeId) (trace : State)
    (program : NumberedProgram) : Chronicle :=
  { chronicle with
    world := (program.run sink depth scope chronicle.world trace).2.1
    runs := chronicle.runs ++
      [⟨chronicle.world.store, program.history depth scope chronicle.world.store⟩] }

end Happenings

/-- What can happen next. The values that are bound from outside may contain any functions
whose bodies stand in the programs. A program that runs comes to an end. -/
inductive Step (chronicle : Chronicle) : Chronicle → Prop where
  | enter (outer : Option ScopeId) : Step chronicle (chronicle.enter outer)
  | define (scope : ScopeId) (name : String) {value : Value} :
      value.Each (Closure.Grounded chronicle.programs) →
        Step chronicle (chronicle.define scope name value)
  | parse (program : Program) : Step chronicle (chronicle.parse program)
  | run {State : Type} (sink : Sink State) (depth : Nat) (scope : ScopeId) (trace : State)
      {program : NumberedProgram} :
      chronicle.programs[program.number]? = some program.statements →
        (program.run sink depth scope chronicle.world trace).1 ≠ .exhausted →
          Step chronicle (chronicle.run sink depth scope trace program)

/-- What can happen, step by step. -/
abbrev Steps : Chronicle → Chronicle → Prop :=
  Relation.ReflTransGen Step

/-- In one run, while a call or the program itself is running, a function literal comes to a
value at a place. -/
def Makes (chronicle : Chronicle) (number : Nat) (call : Option Nat) (place : Context)
    (value : Value) : Prop :=
  ∃ run time, chronicle.runs[number]? = some run ∧
    run.history[time]?.bind Moment.made? = some (place, value) ∧ run.call? time = call

/-- Each scope that a call opened has one owner: the number of a run, and the call in it. What
ends in a call ends in a scope of which this call is the owner. -/
def Activated (owner : ScopeId → Nat × Nat) (larger number : Nat) (run : Run)
    (past : List Moment) : Moment → Prop
  | .begun _ _ => True
  | .ended _ place _ _ => ∀ call, activation? (pending past) = some call →
      (owner place.scope).1 = number ∧
        Tracking.Opened run.before.scopes.size larger (fun opened => (owner opened).2) past
          place.scope

/-- What holds of every chronicle: programs have the numbers of their places in the list, the
bodies of all functions stand in programs, and so does every node of a run, and no scope
belongs to two calls. -/
structure Sound (chronicle : Chronicle) : Prop where
  counted : chronicle.world.programs = chronicle.programs.length
  grounded : chronicle.world.store.Each (Closure.Grounded chronicle.programs)
  faithful : ∀ run ∈ chronicle.runs,
    Throughout (Tracking.Faithful chronicle.programs) [] run.history
  owned : ∃ owner, ∀ number run, chronicle.runs[number]? = some run →
    Throughout (Activated owner chronicle.world.store.scopes.size number run) [] run.history

theorem sound_start : start.Sound := by
  refine ⟨rfl, ?_, List.forall_mem_nil _, fun _ => (0, 0), ?_⟩
  · intro scope current opened
    cases opened
  · intro number run impossible
    cases impossible

/-- Old runs stay as they are when the store grows and new scopes get their owners. -/
theorem Activated.grow {owner other : ScopeId → Nat × Nat} {size larger number : Nat} {run : Run}
    (grown : size ≤ larger) (same : ∀ opened < size, other opened = owner opened)
    {past : List Moment} {moment : Moment}
    (activated : Activated owner size number run past moment) :
    Activated other larger number run past moment := by
  cases moment with
  | begun => trivial
  | ended node place result store =>
      intro call running
      obtain ⟨owned, opened⟩ := activated call running
      have kept := same place.scope opened.present
      exact ⟨kept ▸ owned, opened.mono (Nat.le_refl _) grown (congrArg Prod.snd kept)⟩

namespace Sound

variable {chronicle : Chronicle} (sound : chronicle.Sound)

include sound

/-- The store may be replaced by a larger one in which the same holds. -/
theorem extend {store : Store} (grounded : store.Each (Closure.Grounded chronicle.programs))
    (grown : chronicle.world.store.scopes.size ≤ store.scopes.size) :
    Sound { chronicle with world := { chronicle.world with store } } := by
  obtain ⟨owner, owned⟩ := sound.owned
  refine ⟨sound.counted, grounded, sound.faithful, owner, ?_⟩
  intro number run found
  exact (owned number run found).mono fun _ _ activated => activated.grow grown fun _ _ => rfl

/-- One more program moves nothing. -/
theorem parse (program : Program) : (chronicle.parse program).Sound := by
  refine ⟨?_, ?_, ?_, sound.owned⟩
  · rw [Chronicle.parse, List.length_append]
    exact congrArg (· + 1) sound.counted
  · refine sound.grounded.mono ?_
    rintro closure ⟨parameters, placed⟩
    exact ⟨parameters, placed.more [program]⟩
  · intro run member
    refine (sound.faithful run member).mono ?_
    intro past moment faithful
    cases moment with
    | begun => trivial
    | ended node place result store => exact ⟨faithful.1.more [program], faithful.2⟩

/-- A run adds scopes of its own. -/
theorem run {State : Type} (sink : Sink State) (depth : Nat) (scope : ScopeId) (trace : State)
    {program : NumberedProgram}
    (numbered : chronicle.programs[program.number]? = some program.statements)
    (ended : (program.run sink depth scope chronicle.world trace).1 ≠ .exhausted) :
    (chronicle.run sink depth scope trace program).Sound := by
  rw [Chronicle.run]
  rw [NumberedProgram.run_eq] at ended ⊢
  have unbounded : (followBlock depth ⟨scope, .root program.number⟩ program.statements
      chronicle.world.store).1 ≠ .error .exhausted := by
    intro exhausted
    rw [exhausted] at ended
    exact ended rfl
  have passes := Tracking.passes_followBlock numbered sound.grounded unbounded
  have extended := sound.extend passes.grounded passes.grown
  refine ⟨extended.counted, extended.grounded, ?_, ?_⟩
  · exact List.forall_mem_append.mpr ⟨sound.faithful, List.forall_mem_singleton.mpr passes.faithful⟩
  · obtain ⟨early, ownedBefore⟩ := sound.owned
    obtain ⟨late, ownedHere⟩ := passes.owned
    -- Scopes that there were before keep their owners; all others were opened in this run.
    let owner (opened : ScopeId) : Nat × Nat :=
      if opened < chronicle.world.store.scopes.size then early opened
      else (chronicle.runs.length, late opened)
    refine ⟨owner, ?_⟩
    intro number ran found
    rcases Nat.lt_or_ge number chronicle.runs.length with before | behind
    · rw [List.getElem?_append_left before] at found
      refine (ownedBefore number ran found).mono fun _ _ activated => ?_
      exact activated.grow passes.grown fun _ present => if_pos present
    · rw [List.getElem?_append_right behind, List.getElem?_singleton] at found
      split at found
      · next last =>
        cases found
        obtain rfl : number = chronicle.runs.length :=
          Nat.le_antisymm (Nat.sub_eq_zero_iff_le.mp last) behind
        refine ownedHere.mono ?_
        intro past moment owned
        cases moment with
        | begun => trivial
        | ended node place result store =>
            intro call running
            rcases owned with ⟨-, outside⟩ | opened
            · cases outside.symm.trans running
            · have new : owner place.scope = (chronicle.runs.length, late place.scope) :=
                if_neg (Nat.not_lt.mpr opened.since)
              exact ⟨congrArg Prod.fst new,
                opened.mono (Nat.le_refl _) (Nat.le_refl _) (congrArg Prod.snd new)⟩
      · cases found

theorem step {next : Chronicle} (happens : chronicle.Step next) : next.Sound := by
  cases happens with
  | enter outer =>
      have grown : chronicle.world.store.scopes.size ≤
          (chronicle.world.store.enter outer).2.scopes.size := by
        rw [Store.size_enter]
        exact Nat.le_succ _
      exact sound.extend (sound.grounded.enter outer) grown
  | define scope name good =>
      exact sound.extend (sound.grounded.define scope name good)
        (Nat.le_of_eq (Store.size_define _ _ _ _).symm)
  | parse program => exact sound.parse program
  | run sink depth scope trace numbered ended =>
      exact sound.run sink depth scope trace numbered ended

theorem steps {later : Chronicle} (happen : chronicle.Steps later) : later.Sound := by
  induction happen with
  | refl => exact sound
  | tail _ happens ih => exact ih.step happens

/-- What is evaluated in a call is evaluated in a scope that was seen nowhere before. -/
theorem unseen {run : Run} (member : run ∈ chronicle.runs) {time : Nat} {node : Node}
    {place : Context} {result : NodeResult} {store : Store}
    (ended : run.history[time]? = some (.ended node place result store)) {call : Nat}
    (running : run.call? time = some call) :
    run.before.scope? place.scope = none ∧
      ∀ node place' result store, Moment.ended node place' result store ∈ run.history.take call →
        store.scope? place.scope = none := by
  obtain ⟨owner, owned⟩ := sound.owned
  obtain ⟨number, found⟩ := List.getElem?_of_mem member
  have opened := ((owned number run found).at? ended call running).2
  have owns : (owner place.scope).2 = call :=
    Option.some.inj (opened.running.symm.trans running)
  have began : call ≤ time := by
    obtain ⟨waiting, pends, rfl⟩ := exists_mem_of_activation? running
    exact Nat.le_of_lt
      (Nat.lt_of_lt_of_le (time_lt_of_mem_pending pends) (List.length_take_le _ _))
  refine ⟨Array.getElem?_eq_none opened.since, ?_⟩
  intro node place' result store earlier
  refine Array.getElem?_eq_none (opened.unseen (.ended node place' result store) ?_)
  rwa [owns, List.take_take, Nat.min_eq_left began]

variable {number number' : Nat} {call call' : Option Nat} {place place' : Context}
  {value value' : Value}

/-- A function that is made is told by its place alone: the literal stands there. -/
theorem made (makes : chronicle.Makes number call place value) :
    ∃ parameters body, Placed chronicle.programs place.site (.expr (.function parameters body)) ∧
      value = .function ⟨place.site, place.scope, parameters, body⟩ := by
  obtain ⟨run, time, found, made, -⟩ := makes
  obtain ⟨parameters, body, store, ended⟩ := Moment.exists_of_made? made
  have faithful := (sound.faithful run (List.mem_of_getElem? found)).at? ended
  refine ⟨parameters, body, faithful.1, ?_⟩
  injection faithful.2 parameters body rfl

theorem equals_iff (makes : chronicle.Makes number call place value)
    (makes' : chronicle.Makes number' call' place' value') :
    value.equals value' = true ↔ place.site = place'.site ∧ place.scope = place'.scope := by
  obtain ⟨parameters, body, placed, rfl⟩ := sound.made makes
  obtain ⟨parameters', body', placed', rfl⟩ := sound.made makes'
  rw [Value.equals, beq_iff_eq]
  constructor
  · intro same
    injection same with sites scopes
    exact ⟨sites, scopes⟩
  · rintro ⟨sites, scopes⟩
    rw [← sites] at placed'
    cases placed.unique placed'
    rw [sites, scopes]

/-- Functions that are made in one scope are made in one call. -/
theorem call_eq {call call' : Nat} (makes : chronicle.Makes number (some call) place value)
    (makes' : chronicle.Makes number' (some call') place' value')
    (same : place.scope = place'.scope) : (number, call) = (number', call') := by
  obtain ⟨owner, owned⟩ := sound.owned
  have owner_eq {number call : Nat} {place : Context} {value : Value}
      (makes : chronicle.Makes number (some call) place value) :
      owner place.scope = (number, call) := by
    obtain ⟨run, time, found, made, running⟩ := makes
    obtain ⟨_, _, _, ended⟩ := Moment.exists_of_made? made
    obtain ⟨numbered, opened⟩ := (owned number run found).at? ended call running
    exact Prod.ext numbered (Option.some.inj (opened.running.symm.trans running))
  rw [← owner_eq makes, ← owner_eq makes', same]

end Sound

/-- Evaluating a source is a way in which a chronicle goes on: the source is parsed, and then
it runs. -/
theorem Sound.exists_evaluateWith {chronicle : Chronicle} (sound : chronicle.Sound) {State : Type}
    (sink : Sink State) (depth : Nat) (source : String) (scope : ScopeId) (trace : State)
    (ended : (evaluateWith sink depth source scope chronicle.world trace).outcome ≠ .exhausted) :
    ∃ later, chronicle.Steps later ∧
      later.world = (evaluateWith sink depth source scope chronicle.world trace).world := by
  cases parsed : (Parsing.ofSource source).result with
  | error errors =>
      exact ⟨chronicle, .refl, (evaluateWith_of_error sink depth scope _ trace parsed).2.symm⟩
  | ok program =>
      let numbered := chronicle.world.number program
      let noted := sink.recordAll (Parsing.ofSource source).events trace
      have found : (chronicle.parse program).programs[numbered.1.number]? =
          some numbered.1.statements := by
        change (chronicle.programs ++ [program])[chronicle.world.programs]? = some program
        rw [sound.counted, List.getElem?_concat_length]
      have ran : (numbered.1.run sink depth scope numbered.2 noted).1 ≠ .exhausted := by
        intro exhausted
        apply ended
        simp only [evaluateWith, parsed]
        rw [exhausted]
      have reads : chronicle.Step (chronicle.parse program) := .parse program
      exact ⟨_, (Relation.ReflTransGen.single reads).tail (.run sink depth scope noted found ran),
        (evaluateWith_of_ok sink depth scope chronicle.world trace parsed).2.symm⟩

/-- Functions are equal when they were made by one literal in one scope. Calling a function
opens a scope that there was not before, and what is evaluated in the call is evaluated in a
scope that was seen nowhere when the call began. So functions that were made in two calls are
never equal, be the literal the same and the bindings, too. One literal makes equal functions
in one scope, in one run or in two, whatever was bound in between. Different literals never
make equal functions, even if they read the same. -/
theorem closure_identity {chronicle : Chronicle} (reached : start.Steps chronicle) :
    (∀ {State : Type} (recur : Node → Context → Eval State Value) (closure : Closure)
      (arguments : List Value) (machine : Machine State),
      closure.parameters.length = arguments.length →
        ∃ opened entered, machine.store.scope? opened = none ∧
          entered.scope? opened = some ⟨[], some closure.scope⟩ ∧
          (∀ other, other ≠ opened → entered.scope? other = machine.store.scope? other) ∧
          applyClosure recur closure arguments machine =
            (do
              bindAll opened (closure.parameters.zip arguments)
              Eval.catchReturn (evalBlock recur ⟨opened, closure.site⟩ closure.body))
              ⟨entered, machine.trace⟩) ∧
    (∀ run ∈ chronicle.runs, ∀ time node place result store call,
      run.history[time]? = some (.ended node place result store) → run.call? time = some call →
        run.before.scope? place.scope = none ∧
          ∀ node place' result store,
            Moment.ended node place' result store ∈ run.history.take call →
              store.scope? place.scope = none) ∧
    (∀ number call place value, chronicle.Makes number call place value →
      ∃ parameters body,
        Placed chronicle.programs place.site (.expr (.function parameters body)) ∧
          value = .function ⟨place.site, place.scope, parameters, body⟩) ∧
    (∀ number call place value number' call' place' value',
      chronicle.Makes number (some call) place value →
        chronicle.Makes number' (some call') place' value' →
          (number, call) ≠ (number', call') → value.equals value' = false) ∧
    (∀ number call place value number' call' place' value',
      chronicle.Makes number call place value → chronicle.Makes number' call' place' value' →
        place.site = place'.site → place.scope = place'.scope → value.equals value' = true) ∧
    ∀ number call place value number' call' place' value',
      chronicle.Makes number call place value → chronicle.Makes number' call' place' value' →
        place.site ≠ place'.site → value.equals value' = false := by
  have sound := sound_start.steps reached
  refine ⟨?_, ?_, ?_, ?_, ?_, ?_⟩
  · intro State recur closure arguments machine matching
    exact applyClosure_opens recur matching machine
  · intro run member time node place result store call ended running
    exact sound.unseen member ended running
  · intro number call place value makes
    exact sound.made makes
  · intro number call place value number' call' place' value' makes makes' apart
    rw [Bool.eq_false_iff, ne_eq, sound.equals_iff makes makes']
    rintro ⟨-, scopes⟩
    exact apart (sound.call_eq makes makes' scopes)
  · intro number call place value number' call' place' value' makes makes' sites scopes
    exact (sound.equals_iff makes makes').mpr ⟨sites, scopes⟩
  · intro number call place value number' call' place' value' makes makes' apart
    rw [Bool.eq_false_iff, ne_eq, sound.equals_iff makes makes']
    rintro ⟨sites, -⟩
    exact apart sites

/-- A program that reads `let make = fn() { fn() { } }; [make(), make()]`. -/
def pairing : NumberedProgram where
  number := 0
  statements :=
    [.binding "make" (.function [] [.expression (.function [] [])]),
      .expression (.array [.call (.identifier "make") [], .call (.identifier "make") []])]

/-- The program runs twice in one scope. -/
def twice : Chronicle :=
  let read := (start.enter none).parse pairing.statements
  (read.run .silent 5 0 () pairing).run .silent 5 0 () pairing

theorem steps_twice : start.Steps twice := by
  let read := (start.enter none).parse pairing.statements
  have reads : start.Steps read :=
    (Relation.ReflTransGen.single (.enter none)).tail (.parse pairing.statements)
  have once : start.Steps (read.run .silent 5 0 () pairing) :=
    reads.tail (.run .silent 5 0 () rfl (by decide +kernel))
  exact once.tail (.run .silent 5 0 () rfl (by decide +kernel))

/-- The inner literal is evaluated in two calls, and makes two functions. The outer one is
evaluated twice in the same scope, once in each run, and makes one. -/
theorem closure_identity_twice :
    let maker : Context := ⟨0, ⟨0, [0, 0]⟩⟩
    let made (scope : ScopeId) : Context := ⟨scope, ⟨0, [0, 0, 0, 0]⟩⟩
    let outer : Value := .function ⟨maker.site, 0, [], [.expression (.function [] [])]⟩
    let inner (scope : ScopeId) : Value := .function ⟨(made scope).site, scope, [], []⟩
    start.Steps twice ∧
      twice.Makes 0 (some 6) (made 1) (inner 1) ∧ twice.Makes 0 (some 14) (made 2) (inner 2) ∧
      (inner 1).equals (inner 2) = false ∧
      twice.Makes 0 none maker outer ∧ twice.Makes 1 none maker outer ∧
      outer.equals outer = true ∧ outer.equals (inner 1) = false := by
  intro maker made outer inner
  have first : twice.Makes 0 (some 6) (made 1) (inner 1) :=
    ⟨_, 11, rfl, by decide +kernel, by decide +kernel⟩
  have second : twice.Makes 0 (some 14) (made 2) (inner 2) :=
    ⟨_, 19, rfl, by decide +kernel, by decide +kernel⟩
  have before : twice.Makes 0 none maker outer := ⟨_, 2, rfl, by decide +kernel, by decide +kernel⟩
  have again : twice.Makes 1 none maker outer := ⟨_, 2, rfl, by decide +kernel, by decide +kernel⟩
  obtain ⟨-, -, -, calls, literals, apart⟩ := closure_identity steps_twice
  exact ⟨steps_twice, first, second, calls _ _ _ _ _ _ _ _ first second (by decide), before, again,
    literals _ _ _ _ _ _ _ _ before again rfl rfl,
    apart _ _ _ _ _ _ _ _ before first (by decide)⟩

end Chronicle

end Ember
