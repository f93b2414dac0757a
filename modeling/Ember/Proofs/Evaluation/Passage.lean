import Mathlib.Data.List.Induction
import Ember.Proofs.Evaluation.History
import Ember.Proofs.Evaluation.Judgement

/-!
# Passages

A computation takes the store from one state to another and adds to the history. What may be
relied on before and what is known afterwards is a passage, if passages of computations that
follow each other make up the passage of both. Then it is enough to look at single nodes: what
their beginning and their end contribute, and what is known of the names that are looked up
and bound.

The nodes that are pending can be told from the history alone. A node that begins is pending
until it ends, and nodes end in the reverse order.
-/

namespace Ember

/-- A node that was begun and has not ended, and how many moments there were before. -/
structure Pending where
  time : Nat
  node : Node
  deriving DecidableEq, Repr

/-- The nodes that are pending after one more moment, the innermost first. -/
def Moment.pend (time : Nat) (stack : List Pending) : Moment → List Pending
  | .begun node _ => ⟨time, node⟩ :: stack
  | .ended _ _ _ _ => stack.tail

/-- The nodes that are pending after some more moments. -/
def pendingFrom (time : Nat) (stack : List Pending) : List Moment → List Pending
  | [] => stack
  | moment :: rest => pendingFrom (time + 1) (moment.pend time stack) rest

/-- The nodes that are pending at the end of a history. -/
def pending (history : List Moment) : List Pending :=
  pendingFrom 0 [] history

theorem pendingFrom_concat (time : Nat) (stack : List Pending) (history : List Moment)
    (moment : Moment) :
    pendingFrom time stack (history ++ [moment]) =
      moment.pend (time + history.length) (pendingFrom time stack history) := by
  induction history generalizing time stack with
  | nil => rfl
  | cons first rest ih =>
      rw [List.cons_append, pendingFrom, ih, pendingFrom, List.length_cons, Nat.add_assoc,
        Nat.add_comm 1]

theorem pending_concat (history : List Moment) (moment : Moment) :
    pending (history ++ [moment]) = moment.pend history.length (pending history) := by
  rw [pending, pendingFrom_concat, Nat.zero_add]
  rfl

theorem pending_begun (history : List Moment) (node : Node) (context : Context) :
    pending (history ++ [.begun node context]) = ⟨history.length, node⟩ :: pending history :=
  pending_concat history (.begun node context)

theorem time_lt_of_mem_pending {history : List Moment} {waiting : Pending}
    (member : waiting ∈ pending history) : waiting.time < history.length := by
  induction history using List.reverseRecOn with
  | nil => cases member
  | append_singleton history moment ih =>
      rw [pending_concat] at member
      rw [List.length_append, List.length_singleton]
      cases moment with
      | begun node place =>
          rcases List.mem_cons.mp member with rfl | older
          · exact Nat.lt_succ_self _
          · exact Nat.lt_succ_of_lt (ih older)
      | ended node place result store =>
          exact Nat.lt_succ_of_lt (ih (List.mem_of_mem_tail member))

/-- The beginning of a node and its end leave pending what was pending before. -/
theorem pending_noted {history added : List Moment} {node : Node} {context : Context}
    (balanced : pending (history ++ [.begun node context] ++ added) =
      pending (history ++ [.begun node context])) (result : NodeResult) (store : Store) :
    pending (history ++ .begun node context :: (added ++ [.ended node context result store])) =
      pending history := by
  have regrouped : history ++ .begun node context ::
      (added ++ [.ended node context result store]) =
        (history ++ [.begun node context] ++ added) ++ [.ended node context result store] := by
    simp
  rw [regrouped, pending_concat, balanced, pending_concat]
  rfl

/-- Whether one node is a statement directly in a call: then it belongs to the body of the
function that is called, since the parts of a call itself are expressions. -/
def Pending.isBodyOf (inner outer : Pending) : Bool :=
  match inner.node, outer.node with
  | .stmt _, .expr (.call _ _) => true
  | _, _ => false

/-- The call of a function that is running, told by the time at which it began: the innermost
one with a statement of the body pending in it. There is none while the program itself runs. -/
def activation? : List Pending → Option Nat
  | inner :: outer :: rest =>
    if inner.isBodyOf outer then some outer.time else activation? (outer :: rest)
  | _ => none

/-- The activation that a node belongs to, if it begins while others are pending. -/
def level? (stack : List Pending) (node : Node) : Option Nat :=
  activation? (⟨0, node⟩ :: stack)

theorem activation?_cons (time : Nat) (node : Node) (stack : List Pending) :
    activation? (⟨time, node⟩ :: stack) = level? stack node := by
  cases stack with
  | nil => rfl
  | cons outer rest => rfl

/-- The call that is running is pending. -/
theorem exists_mem_of_activation? {stack : List Pending} {call : Nat}
    (running : activation? stack = some call) : ∃ waiting ∈ stack, waiting.time = call := by
  match stack with
  | [] => cases running
  | [_] => cases running
  | inner :: outer :: rest =>
      rw [activation?] at running
      split at running
      · cases running
        exact ⟨outer, .tail inner (.head rest), rfl⟩
      · obtain ⟨waiting, member, time⟩ := exists_mem_of_activation? running
        exact ⟨waiting, .tail inner member, time⟩

/-- Where no function is running none was running around it. -/
theorem activation?_tail {stack : List Pending} (outside : activation? stack = none) :
    activation? stack.tail = none := by
  match stack with
  | [] => rfl
  | [_] => rfl
  | inner :: outer :: rest =>
      rw [activation?] at outside
      split at outside
      · cases outside
      · exact outside

/-- The parts of a node belong to the same activation. -/
theorem level?_part {node part : Node} {path : List Nat} (inside : node.Part path part) (time : Nat)
    (stack : List Pending) : level? (⟨time, node⟩ :: stack) part = level? stack node := by
  have apart : (Pending.mk 0 part).isBodyOf ⟨time, node⟩ = false := by
    cases node with
    | stmt statement => cases part <;> rfl
    | expr expression =>
        cases expression with
        | call callee arguments =>
            obtain ⟨expression, rfl⟩ := inside.eq_expr
            rfl
        | _ => cases part <;> rfl
  rw [level?, activation?, apart, activation?_cons]
  rfl

/-- The statements of a body belong to the activation of the call. -/
theorem level?_body (time : Nat) (callee : Expr) (arguments : List Expr) (statement : Stmt)
    (stack : List Pending) :
    level? (⟨time, .expr (.call callee arguments)⟩ :: stack) (.stmt statement) = some time :=
  rfl

/-- A law holds of all moments that were added to a history, given what stands before each. -/
def Throughout (law : List Moment → Moment → Prop) : List Moment → List Moment → Prop
  | _, [] => True
  | history, moment :: rest => law history moment ∧ Throughout law (history ++ [moment]) rest

namespace Throughout

variable {law weaker : List Moment → Moment → Prop}

theorem append {history first second : List Moment} (before : Throughout law history first)
    (behind : Throughout law (history ++ first) second) :
    Throughout law history (first ++ second) := by
  induction first generalizing history with
  | nil => simpa using behind
  | cons moment rest ih =>
      refine ⟨before.1, ih before.2 ?_⟩
      simpa using behind

theorem mono {history added : List Moment} (holds : Throughout law history added)
    (weakened : ∀ earlier moment, law (history ++ earlier) moment →
      weaker (history ++ earlier) moment) : Throughout weaker history added := by
  induction added generalizing history with
  | nil => trivial
  | cons moment rest ih =>
      have here := weakened [] moment
      rw [List.append_nil] at here
      refine ⟨here holds.1, ih holds.2 ?_⟩
      intro earlier later held
      rw [List.append_assoc] at held ⊢
      exact weakened _ later held

/-- A law for a node is one for its beginning, for what is inside, and for its end. -/
theorem noted {history added : List Moment} {node : Node} {context : Context} {result : NodeResult}
    {store : Store} (begun : law history (.begun node context))
    (inside : Throughout law (history ++ [.begun node context]) added)
    (ended : law (history ++ [.begun node context] ++ added) (.ended node context result store)) :
    Throughout law history (.begun node context :: (added ++ [.ended node context result store])) :=
  ⟨begun, inside.append ⟨ended, trivial⟩⟩

/-- A law that holds throughout holds of every single moment. -/
theorem holds {history added earlier later : List Moment} {moment : Moment}
    (throughout : Throughout law history added) (split : added = earlier ++ moment :: later) :
    law (history ++ earlier) moment := by
  subst split
  induction earlier generalizing history with
  | nil =>
      rw [List.append_nil]
      exact throughout.1
  | cons first rest ih =>
      have further := ih throughout.2
      rwa [List.append_assoc, List.singleton_append] at further

theorem at? {history : List Moment} {time : Nat} {moment : Moment}
    (throughout : Throughout law [] history) (found : history[time]? = some moment) :
    law (history.take time) moment := by
  obtain ⟨inside, rfl⟩ := List.getElem?_eq_some_iff.mp found
  have split : history = history.take time ++ history[time] :: history.drop (time + 1) := by
    rw [List.getElem_cons_drop, List.take_append_drop]
  exact throughout.holds split

end Throughout

/-- What is known of computations that follow each other. -/
structure Passage where
  /-- What a computation may rely on. -/
  begins : Store → List Moment → Prop
  /-- What is known of a computation that starts with a store and a history, adds to the
  history, and leaves a store. -/
  passes : Store → List Moment → List Moment → Store → Prop
  /-- Whether the bound on the nesting may be reached. -/
  mayExhaust : Prop
  nothing {store : Store} {history : List Moment} :
    begins store history → passes store history [] store
  onward {store after : Store} {history added : List Moment} :
    begins store history → passes store history added after → begins after (history ++ added)
  andThen {store middle after : Store} {history first second : List Moment} :
    passes store history first middle → passes middle (history ++ first) second after →
      passes store history (first ++ second) after

namespace Passage

/-- A computation that ends as expected, and passes as it should. -/
def Carries (passage : Passage) (property : Closure → Prop) (α : Type) (expected : α → Prop)
    (computation : Eval (List Moment) α) : Prop :=
  ∀ store history, passage.begins store history →
    (passage.mayExhaust ∧ ∃ last, computation ⟨store, history⟩ = (.error .exhausted, last)) ∨
      ∃ outcome after added, computation ⟨store, history⟩ = (outcome, ⟨after, history ++ added⟩) ∧
        Eval.Ends property expected outcome ∧ passage.passes store history added after

variable {passage : Passage} {property : Closure → Prop} {α β : Type} {expected : α → Prop}
  {following : β → Prop}

namespace Carries

/-- A computation that has nothing to do but to end. -/
theorem still {computation : Eval (List Moment) α} {outcome : Except Signal α}
    (same : ∀ machine, computation machine = (outcome, machine))
    (ends : Eval.Ends property expected outcome) :
    passage.Carries property α expected computation := by
  intro store history begins
  refine .inr ⟨outcome, store, [], ?_, ends, passage.nothing begins⟩
  rw [same, List.append_nil]

theorem bind {computation : Eval (List Moment) α} {next : α → Eval (List Moment) β}
    (carries : passage.Carries property α expected computation)
    (further : ∀ result, expected result → passage.Carries property β following (next result)) :
    passage.Carries property β following (computation >>= next) := by
  intro store history begins
  rcases carries store history begins with
    ⟨may, last, run⟩ | ⟨outcome, middle, first, run, ends, passes⟩
  · rw [Eval.bind_apply, run]
    exact .inl ⟨may, last, rfl⟩
  · rw [Eval.bind_apply, run]
    cases outcome with
    | error signal => exact .inr ⟨_, _, _, rfl, ends.passedOn following, passes⟩
    | ok result =>
        rcases further result ends middle _ (passage.onward begins passes) with
          exhausted | ⟨outcome, after, second, run, ends, passesOn⟩
        · exact .inl exhausted
        · refine .inr ⟨outcome, after, first ++ second, ?_, ends, passage.andThen passes passesOn⟩
          rw [← List.append_assoc]
          exact run

theorem attempt {computation : Eval (List Moment) α}
    (carries : passage.Carries property α expected computation) :
    passage.Carries property (Except EvalError α)
      (fun result => ∀ value, result = .ok value → expected value) computation.attempt := by
  intro store history begins
  rcases carries store history begins with
    ⟨may, last, run⟩ | ⟨outcome, after, added, run, ends, passes⟩
  · rw [Eval.attempt, run]
    exact .inl ⟨may, last, rfl⟩
  · rw [Eval.attempt, run]
    rcases outcome with (value | error | _) | result
    · exact .inr ⟨_, _, _, rfl, ends, passes⟩
    · refine .inr ⟨_, _, _, rfl, ?_, passes⟩
      intro value impossible
      cases impossible
    · exact ends.elim
    · refine .inr ⟨_, _, _, rfl, ?_, passes⟩
      intro value same
      cases same
      exact ends

theorem catchReturn {computation : Eval (List Moment) Value}
    (carries : passage.Carries property Value (Value.Each property) computation) :
    passage.Carries property Value (Value.Each property) computation.catchReturn := by
  intro store history begins
  rcases carries store history begins with
    ⟨may, last, run⟩ | ⟨outcome, after, added, run, ends, passes⟩
  · rw [Eval.catchReturn, run]
    exact .inl ⟨may, last, rfl⟩
  · rw [Eval.catchReturn, run]
    rcases outcome with (value | error | _) | result
    · exact .inr ⟨_, _, _, rfl, ends, passes⟩
    · exact .inr ⟨_, _, _, rfl, ends, passes⟩
    · exact ends.elim
    · exact .inr ⟨_, _, _, rfl, ends, passes⟩

/-- The passage of a node, from the one of what happens between its beginning and its end. -/
theorem noted {node : Node} {context : Context} {computation : Eval (List Moment) Value}
    {inside : List Moment → Passage}
    (carries : ∀ history, (inside history).Carries property Value (Value.Each property) computation)
    (may : ∀ history, (inside history).mayExhaust → passage.mayExhaust)
    (begin : ∀ store history, passage.begins store history →
      (inside history).begins store (history ++ [.begun node context]))
    (finish : ∀ store history outcome after added result, passage.begins store history →
      computation ⟨store, history ++ [.begun node context]⟩ =
        (outcome, ⟨after, history ++ [.begun node context] ++ added⟩) →
      Eval.Ends property (Value.Each property) outcome → Eval.report? outcome = some result →
      (inside history).passes store (history ++ [.begun node context]) added after →
        passage.passes store history
          (.begun node context :: (added ++ [.ended node context result after])) after) :
    passage.Carries property Value (Value.Each property) (computation.noted node context) := by
  intro store history begins
  rcases carries history store _ (begin store history begins) with
    ⟨exhausts, last, run⟩ | ⟨outcome, after, added, run, ends, passes⟩
  · rw [Eval.noted_eq run]
    exact .inl ⟨may history exhausts, _, rfl⟩
  · have reported : ∃ result, Eval.report? outcome = some result := by
      rcases outcome with (value | error | _) | value
      · exact ⟨_, rfl⟩
      · exact ⟨_, rfl⟩
      · exact ends.elim
      · exact ⟨_, rfl⟩
    obtain ⟨result, reported⟩ := reported
    refine .inr ⟨outcome, after, _, ?_, ends,
      finish store history outcome after added result begins run ends reported passes⟩
    rw [Eval.noted_eq run, reported]
    simp

end Carries

/-- What a passage has to say of the names in a scope, to be a judgement. -/
theorem judgement {scope : ScopeId}
    (find : ∀ store history name value, passage.begins store history →
      store.find? name scope = some value → value.Each property)
    (define : ∀ store history name value, passage.begins store history → value.Each property →
      passage.passes store history [] (store.define scope name value)) :
    Eval.Judgement scope property (passage.Carries property) where
  pure expected := .still (fun _ => rfl) expected
  fail error := .still (fun _ => rfl) trivial
  leave good := .still (fun _ => rfl) good
  bind carries further := carries.bind further
  attempt carries := carries.attempt
  find name := by
    intro store history begins
    rw [Eval.find]
    cases found : store.find? name scope with
    | none =>
        refine .inr ⟨.error (.failed (.unknownIdentifier name)), store, [], ?_, trivial,
          passage.nothing begins⟩
        rw [List.append_nil]
    | some value =>
        refine .inr ⟨.ok value, store, [], ?_, find store history name value begins found,
          passage.nothing begins⟩
        rw [List.append_nil]
  define name value good := by
    intro store history begins
    refine .inr ⟨.ok (), store.define scope name value, [], ?_, trivial,
      define store history name value begins good⟩
    rw [List.append_nil]
    rfl

end Passage

end Ember
