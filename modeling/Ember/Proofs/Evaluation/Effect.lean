import Ember.Evaluation.Program

/-!
# What evaluation writes

A node is evaluated in a scope, and there it can bind only the names of its own
`let` statements. The body of a function has a scope to itself, which is opened by
the call, so a `let` inside a function literal does not count for the node around
it. `Effect` says what writes are possible, and every evaluation is confined to
them, whether it ends with a value, a return or an error.
-/

namespace Ember

mutual

/-- The names of the `let` statements in an expression, outside of function
literals. -/
def Expr.lets : Expr → List String
  | .identifier _ | .integer _ | .string _ | .boolean _ | .function _ _ => []
  | .array elements => Expr.letsEach elements
  | .hash pairs => Expr.letsPairs pairs
  | .unary _ operand => operand.lets
  | .binary _ left right => left.lets ++ right.lets
  | .conditional condition consequence alternative =>
    condition.lets ++ (Stmt.letsEach consequence ++ Stmt.letsAlternative alternative)
  | .call callee arguments => callee.lets ++ Expr.letsEach arguments
  | .index collection position => collection.lets ++ position.lets
termination_by structural expression => expression

/-- The names of the `let` statements in some expressions. -/
def Expr.letsEach : List Expr → List String
  | [] => []
  | expression :: rest => expression.lets ++ Expr.letsEach rest
termination_by structural expressions => expressions

/-- The names of the `let` statements in keys and values. -/
def Expr.letsPairs : List (Expr × Expr) → List String
  | [] => []
  | (key, value) :: rest => key.lets ++ (value.lets ++ Expr.letsPairs rest)
termination_by structural pairs => pairs

/-- The names of the `let` statements in a statement, itself included. -/
def Stmt.lets : Stmt → List String
  | .binding name value => name :: value.lets
  | .leaving value => value.lets
  | .expression value => value.lets
termination_by structural statement => statement

/-- The names of the `let` statements among some statements. -/
def Stmt.letsEach : List Stmt → List String
  | [] => []
  | statement :: rest => statement.lets ++ Stmt.letsEach rest
termination_by structural statements => statements

/-- The names of the `let` statements in an `else` branch. -/
def Stmt.letsAlternative : Option (List Stmt) → List String
  | none => []
  | some block => Stmt.letsEach block
termination_by structural alternative => alternative

end

/-- The names of the `let` statements in a node. -/
def Node.lets : Node → List String
  | .expr expression => expression.lets
  | .stmt statement => statement.lets

/-- The names of the `let` statements of a program, outside of function literals. -/
def Program.lets (program : Program) : List String :=
  Stmt.letsEach program

/-- How a store can change while something is evaluated in a scope: the names given
can be bound in that scope, and functions can be called. A call opens a scope inside
the one in which the function was made, and what it writes, it writes there or in
further calls. -/
inductive Effect : ScopeId → List String → Store → Store → Prop where
  | nothing {scope : ScopeId} {names : List String} {store : Store} : Effect scope names store store
  | andThen {scope : ScopeId} {names : List String} {before middle after : Store} :
      Effect scope names before middle → Effect scope names middle after →
        Effect scope names before after
  | binding {scope : ScopeId} {names : List String} {store : Store} {name : String}
      (value : Value) : name ∈ names → Effect scope names store (store.define scope name value)
  | call {scope : ScopeId} {names : List String} {before after : Store} (closure : Closure) :
      Effect (before.enter (some closure.scope)).1
          (closure.parameters ++ Stmt.letsEach closure.body)
          (before.enter (some closure.scope)).2 after →
        Effect scope names before after

theorem Effect.weaken {scope : ScopeId} {names others : List String} {before after : Store}
    (effect : Effect scope names before after) (more : names ⊆ others) :
    Effect scope others before after := by
  induction effect with
  | nothing => exact .nothing
  | andThen _ _ firstIH secondIH => exact .andThen (firstIH more) (secondIH more)
  | binding value member => exact .binding value (more member)
  | call closure inside _ => exact .call closure inside

namespace Eval

variable {State Result Next : Type} {scope : ScopeId} {names : List String}

@[simp] theorem snd_attempt (computation : Eval State Result) (machine : Machine State) :
    (computation.attempt machine).2 = (computation machine).2 := by
  rw [attempt]
  rcases computation machine with ⟨(_ | _ | _) | _, after⟩ <;> rfl

@[simp] theorem snd_catchReturn (computation : Eval State Value) (machine : Machine State) :
    (computation.catchReturn machine).2 = (computation machine).2 := by
  rw [catchReturn]
  rcases computation machine with ⟨(_ | _ | _) | _, after⟩ <;> rfl

/-- A sink has no part in the store. -/
@[simp] theorem store_observe (sink : Sink State) (kind : NodeKind) (computation : Eval State Value)
    (machine : Machine State) :
    (computation.observe sink kind machine).2.store = (computation machine).2.store := by
  rw [observe]
  dsimp only
  split
  · rfl
  · split
    · rfl
    · rfl

/-- A computation that writes nothing else than the effect of a scope and some names
allows. -/
def Confined (scope : ScopeId) (names : List String) (computation : Eval State Result) : Prop :=
  ∀ machine, Effect scope names machine.store (computation machine).2.store

namespace Confined

theorem weaken {others : List String} {computation : Eval State Result}
    (confined : Confined scope names computation) (more : names ⊆ others) :
    Confined scope others computation := by
  intro machine
  exact (confined machine).weaken more

theorem pure (result : Result) : Confined scope names (pure result : Eval State Result) := by
  intro machine
  exact .nothing

theorem signal (cause : Signal) : Confined scope names (signal cause : Eval State Result) := by
  intro machine
  exact .nothing

theorem ofOperation (operation : Except EvalError Result) :
    Confined scope names (ofOperation operation : Eval State Result) := by
  cases operation with
  | ok result => exact pure result
  | error error => exact signal (.failed error)

theorem find (place : ScopeId) (name : String) :
    Confined scope names (find place name : Eval State Value) := by
  intro machine
  rw [Eval.find]
  split
  · exact .nothing
  · exact .nothing

theorem bind {computation : Eval State Result} {next : Result → Eval State Next}
    (confined : Confined scope names computation)
    (following : ∀ result, Confined scope names (next result)) :
    Confined scope names (computation >>= next) := by
  intro machine
  have first := confined machine
  rw [bind_apply]
  rcases outcome : computation machine with ⟨_ | result, middle⟩
  · rw [outcome] at first
    exact first
  · rw [outcome] at first
    exact .andThen first (following result middle)

theorem attempt {computation : Eval State Result} (confined : Confined scope names computation) :
    Confined scope names computation.attempt := by
  intro machine
  rw [snd_attempt]
  exact confined machine

theorem catchReturn {computation : Eval State Value} (confined : Confined scope names computation) :
    Confined scope names computation.catchReturn := by
  intro machine
  rw [snd_catchReturn]
  exact confined machine

theorem observe {computation : Eval State Value} (confined : Confined scope names computation)
    (sink : Sink State) (kind : NodeKind) :
    Confined scope names (computation.observe sink kind) := by
  intro machine
  rw [store_observe]
  exact confined machine

theorem define {name : String} (value : Value) (member : name ∈ names) :
    Confined scope names (define scope name value : Eval State Unit) := by
  intro machine
  exact .binding value member

/-- A call, in whatever scope it is made: the computation behind the opening of the
scope is confined to that scope. -/
theorem call (closure : Closure) {next : ScopeId → Eval State Result}
    (inside : ∀ opened,
      Confined opened (closure.parameters ++ Stmt.letsEach closure.body) (next opened)) :
    Confined scope names (enter closure.scope >>= next) := by
  intro machine
  exact .call closure (inside _ ⟨(machine.store.enter (some closure.scope)).2, machine.trace⟩)

end Confined

end Eval

section Productions

open Eval (Confined)

variable {State : Type} {recur : Node → Context → Eval State Value} {names : List String}

theorem confined_bindAll {scope : ScopeId} {pairs : List (String × Value)}
    (named : ∀ pair ∈ pairs, pair.1 ∈ names) :
    Confined scope names (bindAll scope pairs : Eval State Unit) := by
  induction pairs with
  | nil => exact .pure ()
  | cons pair rest ih =>
      rw [List.forall_mem_cons] at named
      apply Confined.bind
      · exact .define pair.2 named.1
      · intro _
        exact ih named.2

variable (inner : ∀ node context, Confined context.scope node.lets (recur node context))
include inner

/-- The part of a node has the names of its own `let` statements. -/
theorem confined_part (node : Node) (context : Context) (position : Nat)
    (part : node.lets ⊆ names) :
    Confined context.scope names (recur node (context.child position)) :=
  (inner node (context.child position)).weaken part

theorem confined_evalAll (context : Context) {expressions : List Expr}
    (parts : Expr.letsEach expressions ⊆ names) (position : Nat) :
    Confined context.scope names (evalAll recur context position expressions) := by
  induction expressions generalizing position with
  | nil => exact .pure []
  | cons expression rest ih =>
      rw [Expr.letsEach, List.append_subset] at parts
      apply Confined.bind
      · exact confined_part inner (.expr expression) context position parts.1
      · intro value
        apply (ih parts.2 (position + 1)).bind
        intro values
        exact .pure _

theorem confined_evalStatements (context : Context) {statements : List Stmt}
    (parts : Stmt.letsEach statements ⊆ names) (position : Nat) (last : Value) :
    Confined context.scope names (evalStatements recur context position last statements) := by
  induction statements generalizing position last with
  | nil => exact .pure last
  | cons statement rest ih =>
      rw [Stmt.letsEach, List.append_subset] at parts
      apply Confined.bind
      · exact confined_part inner (.stmt statement) context position parts.1
      · intro value
        exact ih parts.2 (position + 1) value

theorem confined_evalBlock (context : Context) {block : Block}
    (parts : Stmt.letsEach block ⊆ names) :
    Confined context.scope names (evalBlock recur context block) :=
  confined_evalStatements inner context parts 0 .null

theorem confined_evalEntries (context : Context) {pairs : List (Expr × Expr)}
    (parts : Expr.letsPairs pairs ⊆ names) (position : Nat) (entries : Bindings Key Value) :
    Confined context.scope names (evalEntries recur context position entries pairs) := by
  induction pairs generalizing position entries with
  | nil => exact .pure entries
  | cons pair rest ih =>
      rw [Expr.letsPairs, List.append_subset, List.append_subset] at parts
      apply Confined.bind
      · exact confined_part inner (.expr pair.1) context position parts.1
      · intro keyValue
        apply Confined.bind (.ofOperation _)
        intro usable
        apply Confined.bind
        · exact confined_part inner (.expr pair.2) context (position + 1) parts.2.1
        · intro entry
          exact ih parts.2.2 (position + 2) _

/-- A call writes in the scope that it opens, wherever it is made. -/
theorem confined_applyClosure (scope : ScopeId) (closure : Closure) (arguments : List Value) :
    Confined scope names (applyClosure recur closure arguments) := by
  rw [applyClosure]
  split
  · apply Confined.call closure
    intro opened
    apply Confined.bind
    · apply confined_bindAll
      intro pair member
      exact List.mem_append_left _ (List.of_mem_zip member).1
    · intro _
      apply Confined.catchReturn
      exact confined_evalBlock inner ⟨opened, closure.site⟩ (List.subset_append_right _ _)
  · exact .signal _

theorem confined_applyCallee (scope : ScopeId) (callee : Expr) (arguments : List Value)
    (function : Except EvalError Value) :
    Confined scope names (applyCallee recur callee arguments function) := by
  have named (failure : EvalError) :
      Confined scope names (applyBuiltin callee arguments failure : Eval State Value) := by
    rw [applyBuiltin]
    split
    · exact .ofOperation _
    · exact .signal _
  unfold applyCallee
  split
  · next closure => exact confined_applyClosure inner scope closure arguments
  · exact named _
  · exact named _

/-- The meaning of an expression is confined if that of its parts is. -/
theorem confined_expr_step (context : Context) (expression : Expr) :
    Confined context.scope expression.lets (expression.step recur context) := by
  cases expression with
  | identifier name => exact .find context.scope name
  | integer value => exact .pure _
  | string content => exact .pure _
  | boolean value => exact .pure _
  | function parameters body => exact .pure _
  | array elements =>
      apply (confined_evalAll inner context (List.Subset.refl _) 0).bind
      intro values
      exact .pure _
  | hash pairs =>
      apply (confined_evalEntries inner context (List.Subset.refl _) 0 []).bind
      intro entries
      exact .pure _
  | unary operator operand =>
      apply (confined_part inner (.expr operand) context 0 (List.Subset.refl _)).bind
      intro value
      exact .ofOperation _
  | binary operator left right =>
      apply (confined_part inner (.expr left) context 0 (List.subset_append_left _ _)).bind
      intro leftValue
      apply (confined_part inner (.expr right) context 1 (List.subset_append_right _ _)).bind
      intro rightValue
      exact .ofOperation _
  | conditional condition consequence alternative =>
      have parts : condition.lets ++
          (Stmt.letsEach consequence ++ Stmt.letsAlternative alternative) ⊆
            (Expr.conditional condition consequence alternative).lets :=
        List.Subset.refl _
      rw [List.append_subset, List.append_subset] at parts
      apply (confined_part inner (.expr condition) context 0 parts.1).bind
      intro value
      split
      · exact confined_evalBlock inner (context.child 1) parts.2.1
      · cases alternative with
        | none => exact .pure _
        | some block => exact confined_evalBlock inner (context.child 2) parts.2.2
  | call callee arguments =>
      apply (confined_evalAll inner context (List.subset_append_right _ _) 1).bind
      intro values
      apply Confined.bind
      · apply Confined.attempt
        exact confined_part inner (.expr callee) context 0 (List.subset_append_left _ _)
      · intro function
        exact confined_applyCallee inner context.scope callee values function
  | index collection position =>
      apply (confined_part inner (.expr collection) context 0 (List.subset_append_left _ _)).bind
      intro subject
      apply (confined_part inner (.expr position) context 1 (List.subset_append_right _ _)).bind
      intro place
      exact .ofOperation _

/-- So is the meaning of a statement. A `let` binds its name once its value is
there. -/
theorem confined_stmt_step (context : Context) (statement : Stmt) :
    Confined context.scope statement.lets (statement.step recur context) := by
  cases statement with
  | binding name value =>
      apply (confined_part inner (.expr value) context 0 (List.subset_cons_self _ _)).bind
      intro bound
      apply (Confined.define bound List.mem_cons_self).bind
      intro _
      exact .pure bound
  | leaving value =>
      apply (confined_part inner (.expr value) context 0 (List.Subset.refl _)).bind
      intro result
      exact .signal _
  | expression value =>
      exact confined_part inner (.expr value) context 0 (List.Subset.refl _)

theorem confined_node_step (context : Context) (node : Node) :
    Confined context.scope node.lets (node.step recur context) := by
  cases node with
  | expr expression => exact confined_expr_step inner context expression
  | stmt statement => exact confined_stmt_step inner context statement

end Productions

/-- Every evaluation of a node is confined to the scope of its context and to the
names of its own `let` statements. -/
theorem confined_evalNode {State : Type} (sink : Sink State) (depth : Nat) (node : Node)
    (context : Context) :
    Eval.Confined context.scope node.lets (evalNode sink depth node context) := by
  induction depth generalizing node context with
  | zero => exact .signal _
  | succ depth ih => exact (confined_node_step ih context node).observe sink node.kind

/-- Every evaluation of a program is. -/
theorem effect_evalProgram {State : Type} (sink : Sink State) (depth : Nat) (context : Context)
    (program : Program) (machine : Machine State) :
    Effect context.scope program.lets machine.store
      (evalProgram sink depth context program machine).2.store :=
  confined_evalBlock (confined_evalNode sink depth) context (List.Subset.refl _) machine

end Ember
