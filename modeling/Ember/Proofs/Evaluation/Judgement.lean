import Ember.Evaluation.Program
import Ember.Proofs.Evaluation.Place
import Ember.Proofs.Value.Captures

/-!
# Judgements about evaluation

A judgement says of a computation what it does, given what it may rely on, and of which kind
its result is. Good values are those all of whose functions have some property. If a judgement
has rules for the steps of the evaluator in one scope, then it can be passed of every node
whose parts it is passed of: the proof goes once through the productions.

Left open is what a function literal comes to, and what it means to call a function.
-/

namespace Ember

namespace Eval

variable {State : Type}

/-- What holds of the end of a computation: of its result, or of the value that a return
carries. The bound on the nesting is not reached. -/
def Ends (property : Closure → Prop) {α : Type} (expected : α → Prop) : Except Signal α → Prop
  | .ok result => expected result
  | .error (.returned value) => value.Each property
  | .error (.failed _) => True
  | .error .exhausted => False

/-- A signal is passed on as it is. -/
theorem Ends.passedOn {property : Closure → Prop} {α β : Type} {expected : α → Prop}
    {signal : Signal} (ends : Ends property expected (.error signal)) (following : β → Prop) :
    Ends property following (.error signal) := by
  cases signal with
  | returned value => exact ends
  | failed error => trivial
  | exhausted => exact ends

/-- A judgement about computations in one scope, with a rule for each step of the evaluator
that does not open a scope. -/
structure Judgement (scope : ScopeId) (property : Closure → Prop)
    (holds : (α : Type) → (α → Prop) → Eval State α → Prop) : Prop where
  pure {α : Type} {expected : α → Prop} {result : α} :
    expected result → holds α expected (Pure.pure result)
  fail {α : Type} {expected : α → Prop} (error : EvalError) :
    holds α expected (Eval.signal (.failed error))
  leave {α : Type} {expected : α → Prop} {value : Value} :
    value.Each property → holds α expected (Eval.signal (.returned value))
  bind {α β : Type} {expected : α → Prop} {following : β → Prop} {computation : Eval State α}
    {next : α → Eval State β} :
    holds α expected computation → (∀ result, expected result → holds β following (next result)) →
      holds β following (computation >>= next)
  attempt {α : Type} {expected : α → Prop} {computation : Eval State α} :
    holds α expected computation →
      holds (Except EvalError α) (fun result => ∀ value, result = .ok value → expected value)
        computation.attempt
  find (name : String) : holds Value (Value.Each property) (Eval.find scope name)
  define (name : String) {value : Value} :
    value.Each property → holds Unit (fun _ => True) (Eval.define scope name value)

namespace Judgement

variable {scope : ScopeId} {property : Closure → Prop}
  {holds : (α : Type) → (α → Prop) → Eval State α → Prop}
  (judgement : Judgement scope property holds)

include judgement

theorem ofOperation {α : Type} {expected : α → Prop} {operation : Except EvalError α}
    (good : ∀ result, operation = .ok result → expected result) :
    holds α expected (Eval.ofOperation operation) := by
  cases operation with
  | ok result => exact judgement.pure (good result rfl)
  | error error => exact judgement.fail error

theorem bindAll {pairs : List (String × Value)} (good : ∀ pair ∈ pairs, pair.2.Each property) :
    holds Unit (fun _ => True) (bindAll scope pairs) := by
  induction pairs with
  | nil => exact judgement.pure trivial
  | cons pair rest ih =>
      rw [List.forall_mem_cons] at good
      exact judgement.bind (judgement.define pair.1 good.1) fun _ _ => ih good.2

section Productions

variable {recur : Node → Context → Eval State Value} {context : Context}

theorem evalAll {expressions : List Expr} {position : Nat}
    (inner : ∀ (index : Nat) (expression : Expr), expressions[index]? = some expression →
      holds Value (Value.Each property)
        (recur (.expr expression) (context.child (position + index)))) :
    holds (List Value) (fun values => ∀ value ∈ values, value.Each property)
      (evalAll recur context position expressions) := by
  induction expressions generalizing position with
  | nil => exact judgement.pure (List.forall_mem_nil _)
  | cons expression rest ih =>
      apply judgement.bind (inner 0 expression rfl)
      intro value good
      refine judgement.bind (ih fun index other found => ?_) fun values others =>
        judgement.pure (List.forall_mem_cons.mpr ⟨good, others⟩)
      rw [Nat.add_assoc, Nat.add_comm 1]
      exact inner (index + 1) other found

theorem evalStatements {statements : List Stmt} {position : Nat} {last : Value}
    (good : last.Each property)
    (inner : ∀ (index : Nat) (statement : Stmt), statements[index]? = some statement →
      holds Value (Value.Each property)
        (recur (.stmt statement) (context.child (position + index)))) :
    holds Value (Value.Each property)
      (evalStatements recur context position last statements) := by
  induction statements generalizing position last with
  | nil => exact judgement.pure good
  | cons statement rest ih =>
      apply judgement.bind (inner 0 statement rfl)
      intro value good
      refine ih good fun index other found => ?_
      rw [Nat.add_assoc, Nat.add_comm 1]
      exact inner (index + 1) other found

theorem evalBlock {block : Block}
    (inner : ∀ (index : Nat) (statement : Stmt), block[index]? = some statement →
      holds Value (Value.Each property) (recur (.stmt statement) (context.child index))) :
    holds Value (Value.Each property) (evalBlock recur context block) := by
  refine judgement.evalStatements Value.each_null fun index statement found => ?_
  rw [Nat.zero_add]
  exact inner index statement found

theorem evalEntries {pairs : List (Expr × Expr)} {position : Nat} {entries : Bindings Key Value}
    (good : ∀ entry ∈ entries, entry.2.Each property)
    (inner : ∀ (index : Nat) (expression : Expr), (Expr.ofPairs pairs)[index]? = some expression →
      holds Value (Value.Each property)
        (recur (.expr expression) (context.child (position + index)))) :
    holds (Bindings Key Value) (fun entries => ∀ entry ∈ entries, entry.2.Each property)
      (evalEntries recur context position entries pairs) := by
  induction pairs generalizing position entries with
  | nil => exact judgement.pure good
  | cons pair rest ih =>
      apply judgement.bind (inner 0 pair.1 rfl)
      intro keyValue _
      have usable : holds Key (fun _ => True) (Eval.ofOperation keyValue.asKey) :=
        judgement.ofOperation fun _ _ => trivial
      apply judgement.bind usable
      intro key _
      apply judgement.bind (inner 1 pair.2 rfl)
      intro entry entryGood
      refine ih (Bindings.forall_put good entryGood) fun index other found => ?_
      rw [Nat.add_assoc, Nat.add_comm 2]
      exact inner (index + 2) other found

theorem applyBuiltin (callee : Expr) {arguments : List Value}
    (good : ∀ argument ∈ arguments, argument.Each property) (failure : EvalError) :
    holds Value (Value.Each property) (applyBuiltin callee arguments failure) := by
  unfold Ember.applyBuiltin
  split
  · exact judgement.ofOperation fun _ applied => Builtin.each_apply good applied
  · exact judgement.fail _

theorem applyCallee (callee : Expr) {arguments : List Value} {function : Except EvalError Value}
    (good : ∀ argument ∈ arguments, argument.Each property)
    (found : ∀ value, function = .ok value → value.Each property)
    (calls : ∀ closure, property closure →
      holds Value (Value.Each property) (applyClosure recur closure arguments)) :
    holds Value (Value.Each property) (applyCallee recur callee arguments function) := by
  unfold Ember.applyCallee
  split
  · exact calls _ (Value.each_function.mp (found _ rfl))
  · exact judgement.applyBuiltin callee good _
  · exact judgement.applyBuiltin callee good _

variable {node : Node} (here : context.scope = scope)
  (literal : ∀ parameters body, node = .expr (.function parameters body) →
    property ⟨context.site, scope, parameters, body⟩)
  (calls : ∀ callee arguments, node = .expr (.call callee arguments) →
    ∀ closure values, property closure → (∀ value ∈ values, value.Each property) →
      holds Value (Value.Each property) (applyClosure recur closure values))
  (inner : ∀ path part, node.Part path part →
    holds Value (Value.Each property) (recur part (context.under path)))

include here literal calls inner

/-- The judgement can be passed of a node if it can be passed of its parts. -/
theorem node_step : holds Value (Value.Each property) (node.step recur context) := by
  subst here
  have part {position : Nat} {expressions : List Expr} {expression : Expr}
      (turns : (Tree.node node).children = Tree.ofExprs expressions)
      (turned : expressions[position]? = some expression) :
      holds Value (Value.Each property) (recur (.expr expression) (context.child position)) := by
    apply inner [position] _ (.child _)
    rw [turns, Tree.ofExprs, List.getElem?_map, turned]
    rfl
  have branch {position : Nat} {block : Block}
      (turned : (Tree.node node).children[position]? = some (.block block)) :
      holds Value (Value.Each property) (Ember.evalBlock recur (context.child position) block) :=
    judgement.evalBlock fun index statement found =>
      inner [index, position] _ (.statement turned found)
  cases node with
  | stmt statement =>
      cases statement with
      | binding name value =>
          apply judgement.bind (part rfl rfl)
          intro bound good
          exact judgement.bind (judgement.define name good) fun _ _ => judgement.pure good
      | leaving value => exact judgement.bind (part rfl rfl) fun _ good => judgement.leave good
      | expression value => exact part rfl rfl
  | expr expression =>
      cases expression with
      | identifier name => exact judgement.find name
      | integer value => exact judgement.pure (Value.each_integer value)
      | string content => exact judgement.pure (Value.each_string content)
      | boolean value => exact judgement.pure (Value.each_boolean value)
      | function parameters body =>
          exact judgement.pure (Value.each_function.mpr (literal parameters body rfl))
      | array elements =>
          refine judgement.bind (judgement.evalAll fun index element found => ?_) fun values good =>
            judgement.pure (Value.each_array.mpr good)
          rw [Nat.zero_add]
          exact part rfl found
      | hash pairs =>
          refine judgement.bind (judgement.evalEntries (List.forall_mem_nil _)
            fun index element found => ?_) fun entries good =>
              judgement.pure (Value.each_hash.mpr good)
          rw [Nat.zero_add]
          exact part rfl found
      | unary operator operand =>
          exact judgement.bind (part rfl rfl) fun _ _ => judgement.ofOperation fun _ applied =>
            (UnaryOperator.within_apply applied).each property
      | binary operator left right =>
          apply judgement.bind (part rfl rfl)
          intro leftValue _
          exact judgement.bind (part rfl rfl) fun _ _ => judgement.ofOperation fun _ applied =>
            (BinaryOperator.within_apply applied).each property
      | conditional condition consequence alternative =>
          have decided : holds Value (Value.Each property)
              (recur (.expr condition) (context.child 0)) :=
            inner [0] _ (.child rfl)
          apply judgement.bind decided
          intro value _
          split
          · exact branch rfl
          · cases alternative with
            | none => exact judgement.pure Value.each_null
            | some block => exact branch rfl
      | call callee arguments =>
          refine judgement.bind (judgement.evalAll fun index argument found => ?_)
            fun values good => ?_
          · rw [Nat.add_comm 1]
            exact part rfl found
          · refine judgement.bind (judgement.attempt (part rfl rfl)) fun function found => ?_
            exact judgement.applyCallee callee good found fun closure holds =>
              calls callee arguments rfl closure values holds good
      | index collection position =>
          apply judgement.bind (part rfl rfl)
          intro subject good
          exact judgement.bind (part rfl rfl) fun _ _ => judgement.ofOperation fun _ applied =>
            Value.each_elementAt good applied

end Productions

end Judgement

end Eval

end Ember
