import Ember.Evaluation.Program

/-!
# Congruences of computations

Many laws of the evaluator say that two computations have something in common: runs
with different sinks, runs with different bounds on the nesting, or one run compared
with itself. Such a law is a relation between computations with the same results. If the
steps of the evaluator respect it, so does the meaning of every node whose parts do, and
the proof goes once through the productions for all of them.

Calls are set apart. Only they catch what another node passes on, and a law about that
has to look at them itself.
-/

namespace Ember.Eval

/-- A relation between computations that the steps of the evaluator respect, apart from
those of a call. -/
structure Respects {Left Right : Type}
    (related : (α : Type) → Eval Left α → Eval Right α → Prop) : Prop where
  pure {α : Type} (result : α) : related α (Pure.pure result) (Pure.pure result)
  signal {α : Type} (cause : Signal) : related α (Eval.signal cause) (Eval.signal cause)
  bind {α β : Type} {left : Eval Left α} {right : Eval Right α} {leftNext : α → Eval Left β}
    {rightNext : α → Eval Right β} :
    related α left right → (∀ result, related β (leftNext result) (rightNext result)) →
      related β (left >>= leftNext) (right >>= rightNext)
  find (scope : ScopeId) (name : String) :
    related Value (Eval.find scope name) (Eval.find scope name)
  define (scope : ScopeId) (name : String) (value : Value) :
    related Unit (Eval.define scope name value) (Eval.define scope name value)

namespace Respects

variable {Left Right : Type} {related : (α : Type) → Eval Left α → Eval Right α → Prop}

theorem ofOperation (respects : Respects related) {α : Type} (operation : Except EvalError α) :
    related α (Eval.ofOperation operation) (Eval.ofOperation operation) := by
  cases operation with
  | ok result => exact respects.pure result
  | error error => exact respects.signal (.failed error)

theorem bindAll (respects : Respects related) (scope : ScopeId) (pairs : List (String × Value)) :
    related Unit (bindAll scope pairs) (bindAll scope pairs) := by
  induction pairs with
  | nil => exact respects.pure ()
  | cons pair rest ih => exact respects.bind (respects.define scope pair.1 pair.2) fun _ => ih

theorem applyBuiltin (respects : Respects related) (callee : Expr) (arguments : List Value)
    (failure : EvalError) :
    related Value (applyBuiltin callee arguments failure)
      (applyBuiltin callee arguments failure) := by
  unfold Ember.applyBuiltin
  split
  · exact respects.ofOperation _
  · exact respects.signal _

section Productions

variable (respects : Respects related)
variable {left : Node → Context → Eval Left Value} {right : Node → Context → Eval Right Value}
variable (inner : ∀ node context, related Value (left node context) (right node context))

include respects inner

theorem evalAll (context : Context) (position : Nat) (expressions : List Expr) :
    related (List Value) (evalAll left context position expressions)
      (evalAll right context position expressions) := by
  induction expressions generalizing position with
  | nil => exact respects.pure []
  | cons expression rest ih =>
      apply respects.bind (inner (.expr expression) (context.child position))
      intro value
      exact respects.bind (ih (position + 1)) fun _ => respects.pure _

theorem evalStatements (context : Context) (position : Nat) (last : Value)
    (statements : List Stmt) :
    related Value (evalStatements left context position last statements)
      (evalStatements right context position last statements) := by
  induction statements generalizing position last with
  | nil => exact respects.pure last
  | cons statement rest ih =>
      exact respects.bind (inner (.stmt statement) (context.child position)) fun value =>
        ih (position + 1) value

theorem evalBlock (context : Context) (block : Block) :
    related Value (evalBlock left context block) (evalBlock right context block) :=
  evalStatements respects inner context 0 .null block

theorem evalEntries (context : Context) (position : Nat) (entries : Bindings Key Value)
    (pairs : List (Expr × Expr)) :
    related (Bindings Key Value) (evalEntries left context position entries pairs)
      (evalEntries right context position entries pairs) := by
  induction pairs generalizing position entries with
  | nil => exact respects.pure entries
  | cons pair rest ih =>
      apply respects.bind (inner (.expr pair.1) (context.child position))
      intro keyValue
      apply respects.bind (respects.ofOperation keyValue.asKey)
      intro usable
      apply respects.bind (inner (.expr pair.2) (context.child (position + 1)))
      intro entry
      exact ih (position + 2) _

/-- The meaning of an expression. Of a call it has to be known. -/
theorem expr_step (context : Context) {expression : Expr}
    (calls : ∀ callee arguments, expression = .call callee arguments →
      related Value (expression.step left context) (expression.step right context)) :
    related Value (expression.step left context) (expression.step right context) := by
  cases expression with
  | identifier name => exact respects.find context.scope name
  | integer | string | boolean | function => exact respects.pure _
  | array elements =>
      exact respects.bind (evalAll respects inner context 0 elements) fun _ => respects.pure _
  | hash pairs =>
      exact respects.bind (evalEntries respects inner context 0 [] pairs) fun _ => respects.pure _
  | unary operator operand =>
      exact respects.bind (inner (.expr operand) (context.child 0)) fun _ =>
        respects.ofOperation _
  | binary operator first second =>
      apply respects.bind (inner (.expr first) (context.child 0))
      intro firstValue
      exact respects.bind (inner (.expr second) (context.child 1)) fun _ =>
        respects.ofOperation _
  | conditional condition consequence alternative =>
      apply respects.bind (inner (.expr condition) (context.child 0))
      intro value
      split
      · exact evalBlock respects inner (context.child 1) consequence
      · cases alternative with
        | none => exact respects.pure _
        | some block => exact evalBlock respects inner (context.child 2) block
  | call callee arguments => exact calls callee arguments rfl
  | index collection position =>
      apply respects.bind (inner (.expr collection) (context.child 0))
      intro subject
      exact respects.bind (inner (.expr position) (context.child 1)) fun _ =>
        respects.ofOperation _

theorem stmt_step (context : Context) (statement : Stmt) :
    related Value (statement.step left context) (statement.step right context) := by
  cases statement with
  | binding name value =>
      apply respects.bind (inner (.expr value) (context.child 0))
      intro bound
      exact respects.bind (respects.define context.scope name bound) fun _ => respects.pure bound
  | leaving value =>
      exact respects.bind (inner (.expr value) (context.child 0)) fun result =>
        respects.signal (.returned result)
  | expression value => exact inner (.expr value) (context.child 0)

end Productions

end Respects

/-- A relation between computations that all steps of the evaluator respect. -/
structure Congruence {Left Right : Type}
    (related : (α : Type) → Eval Left α → Eval Right α → Prop) : Prop
    extends Respects related where
  attempt {α : Type} {left : Eval Left α} {right : Eval Right α} :
    related α left right → related (Except EvalError α) left.attempt right.attempt
  catchReturn {left : Eval Left Value} {right : Eval Right Value} :
    related Value left right → related Value left.catchReturn right.catchReturn
  enter (outer : ScopeId) : related ScopeId (Eval.enter outer) (Eval.enter outer)

namespace Congruence

variable {Left Right : Type} {related : (α : Type) → Eval Left α → Eval Right α → Prop}
variable (congruence : Congruence related)
variable {left : Node → Context → Eval Left Value} {right : Node → Context → Eval Right Value}
variable (inner : ∀ node context, related Value (left node context) (right node context))

include congruence inner

theorem applyClosure (closure : Closure) (arguments : List Value) :
    related Value (applyClosure left closure arguments)
      (applyClosure right closure arguments) := by
  unfold Ember.applyClosure
  split
  · apply congruence.bind (congruence.enter closure.scope)
    intro scope
    apply congruence.bind (congruence.bindAll scope _)
    intro _
    exact congruence.catchReturn (congruence.evalBlock inner ⟨scope, closure.site⟩ closure.body)
  · exact congruence.signal _

theorem applyCallee (callee : Expr) (arguments : List Value) (function : Except EvalError Value) :
    related Value (applyCallee left callee arguments function)
      (applyCallee right callee arguments function) := by
  unfold Ember.applyCallee
  split
  · exact applyClosure congruence inner _ arguments
  · exact congruence.applyBuiltin callee arguments _
  · exact congruence.applyBuiltin callee arguments _

/-- The meaning of a node is related if that of its parts is. -/
theorem node_step (node : Node) (context : Context) :
    related Value (node.step left context) (node.step right context) := by
  cases node with
  | stmt statement => exact congruence.stmt_step inner context statement
  | expr expression =>
      apply congruence.expr_step inner context
      rintro callee arguments rfl
      apply congruence.bind (congruence.evalAll inner context 1 arguments)
      intro values
      apply congruence.bind (congruence.attempt (inner (.expr callee) (context.child 0)))
      intro function
      exact applyCallee congruence inner callee values function

end Congruence

section Depth

variable {State : Type}

/-- A computation that reaches its bound, or else does what another one does. -/
def Refines (α : Type) (left right : Eval State α) : Prop :=
  ∀ machine, (∃ after, left machine = (.error .exhausted, after)) ∨ left machine = right machine

theorem congruence_refines : Congruence (@Refines State) where
  pure _ _ := .inr rfl
  signal _ _ := .inr rfl
  bind := by
    intro α β left right leftNext rightNext refines nextRefines machine
    rw [bind_apply, bind_apply]
    rcases refines machine with ⟨after, exhausted⟩ | same
    · rw [exhausted]
      exact .inl ⟨after, rfl⟩
    · rw [same]
      rcases right machine with ⟨_ | result, after⟩
      · exact .inr rfl
      · exact nextRefines result after
  find _ _ _ := .inr rfl
  define _ _ _ _ := .inr rfl
  attempt := by
    intro α left right refines machine
    rw [attempt, attempt]
    rcases refines machine with ⟨after, exhausted⟩ | same
    · rw [exhausted]
      exact .inl ⟨after, rfl⟩
    · exact .inr (by rw [same])
  catchReturn := by
    intro left right refines machine
    rw [catchReturn, catchReturn]
    rcases refines machine with ⟨after, exhausted⟩ | same
    · rw [exhausted]
      exact .inl ⟨after, rfl⟩
    · exact .inr (by rw [same])
  enter _ _ := .inr rfl

theorem Refines.observe {left right : Eval State Value} (refines : Refines Value left right)
    (sink : Sink State) (kind : NodeKind) :
    Refines Value (left.observe sink kind) (right.observe sink kind) := by
  intro machine
  rw [Eval.observe, Eval.observe]
  rcases refines machine with ⟨after, exhausted⟩ | same
  · rw [exhausted]
    exact .inl ⟨after, rfl⟩
  · exact .inr (by rw [same])

/-- A larger bound on the nesting changes nothing about an evaluation that ends within a
smaller one. -/
theorem refines_evalNode (sink : Sink State) {depth larger : Nat} (enough : depth ≤ larger)
    (node : Node) (context : Context) :
    Refines Value (evalNode sink depth node context) (evalNode sink larger node context) := by
  induction depth generalizing larger node context with
  | zero =>
      intro machine
      exact .inl ⟨machine, rfl⟩
  | succ depth ih =>
      obtain ⟨larger, rfl⟩ : ∃ smaller, larger = smaller + 1 := ⟨larger - 1, by omega⟩
      apply Refines.observe
      exact congruence_refines.node_step (ih (Nat.le_of_succ_le_succ enough)) node context

end Depth

end Ember.Eval
