import Ember.Evaluation.Basic

/-!
# The meaning of nodes

What every expression and every statement comes to, given a way to evaluate the
nodes inside it and the bodies of the functions that it calls. Nothing here
speaks of how deep evaluations nest.
-/

namespace Ember

section Productions

variable {State : Type} (recur : Node → Context → Eval State Value)

/-- The values of some expressions, from left to right. -/
def evalAll (context : Context) (position : Nat) : List Expr → Eval State (List Value)
  | [] => pure []
  | expression :: rest => do
    let value ← recur (.expr expression) (context.child position)
    let values ← evalAll context (position + 1) rest
    return value :: values

/-- The value of the last of some statements, or the given one if there are
none. -/
def evalStatements (context : Context) (position : Nat) (last : Value) :
    List Stmt → Eval State Value
  | [] => pure last
  | statement :: rest => do
    let value ← recur (.stmt statement) (context.child position)
    evalStatements context (position + 1) value rest

/-- The value of a block: that of its last statement, or null. -/
def evalBlock (context : Context) (block : Block) : Eval State Value :=
  evalStatements recur context 0 .null block

/-- The entries of a hash literal. A key is checked before its value is
evaluated, and a later pair replaces an earlier one with the same key. -/
def evalEntries (context : Context) (position : Nat) (entries : Bindings Key Value) :
    List (Expr × Expr) → Eval State (Bindings Key Value)
  | [] => pure entries
  | (key, value) :: rest => do
    let keyValue ← recur (.expr key) (context.child position)
    let usable ← Eval.ofOperation keyValue.asKey
    let entry ← recur (.expr value) (context.child (position + 1))
    evalEntries context (position + 2) (Bindings.put usable entry entries) rest

/-- Binds the parameters of a call, in order. -/
def bindAll (scope : ScopeId) : List (String × Value) → Eval State Unit
  | [] => pure ()
  | (name, value) :: rest => do
    Eval.define scope name value
    bindAll scope rest

/-- Calls a function: its body is evaluated in a new scope inside the scope in
which the function was made. -/
def applyClosure (closure : Closure) (arguments : List Value) : Eval State Value := do
  if closure.parameters.length = arguments.length then
    let scope ← Eval.enter closure.scope
    bindAll scope (closure.parameters.zip arguments)
    Eval.catchReturn (evalBlock recur ⟨scope, closure.site⟩ closure.body)
  else
    Eval.signal (.failed (.wrongArgumentCount closure.parameters.length arguments.length))

/-- The built-in function that an expression names, if it names one. -/
def builtin? : Expr → Option Builtin
  | .identifier name => Builtin.ofName? name
  | _ => none

/-- Calls the built-in function that a callee names. If it names none, there is
no function to call, and that is the failure. -/
def applyBuiltin {State : Type} (callee : Expr) (arguments : List Value) (failure : EvalError) :
    Eval State Value :=
  match builtin? callee with
  | some builtin => Eval.ofOperation (builtin.apply arguments)
  | none => Eval.signal (.failed failure)

/-- Calls what a callee came to. If that is no function, or the callee has no
value at all, a built-in function of that name is called. -/
def applyCallee (callee : Expr) (arguments : List Value) :
    Except EvalError Value → Eval State Value
  | .ok (.function closure) => applyClosure recur closure arguments
  | .ok other => applyBuiltin callee arguments (.notAFunction other.type)
  | .error error => applyBuiltin callee arguments error

/-- The meaning of an expression. The arguments of a call are evaluated before
the callee. -/
def Expr.step (context : Context) : Expr → Eval State Value
  | .identifier name => Eval.find context.scope name
  | .integer value => pure (.integer value)
  | .string content => pure (.string content)
  | .boolean value => pure (.boolean value)
  | .array elements => do
    let values ← evalAll recur context 0 elements
    return .array values
  | .hash pairs => do
    let entries ← evalEntries recur context 0 [] pairs
    return .hash entries
  | .unary operator operand => do
    let value ← recur (.expr operand) (context.child 0)
    Eval.ofOperation (operator.apply value)
  | .binary operator left right => do
    let leftValue ← recur (.expr left) (context.child 0)
    let rightValue ← recur (.expr right) (context.child 1)
    Eval.ofOperation (operator.apply leftValue rightValue)
  | .conditional condition consequence alternative => do
    let value ← recur (.expr condition) (context.child 0)
    if value.isTruthy then
      evalBlock recur (context.child 1) consequence
    else
      match alternative with
      | some block => evalBlock recur (context.child 2) block
      | none => return .null
  | .function parameters body =>
    pure (.function ⟨context.site, context.scope, parameters, body⟩)
  | .call callee arguments => do
    let values ← evalAll recur context 1 arguments
    let function ← Eval.attempt (recur (.expr callee) (context.child 0))
    applyCallee recur callee values function
  | .index collection position => do
    let subject ← recur (.expr collection) (context.child 0)
    let place ← recur (.expr position) (context.child 1)
    Eval.ofOperation (subject.elementAt place)

/-- The meaning of a statement. -/
def Stmt.step (context : Context) : Stmt → Eval State Value
  | .binding name value => do
    let bound ← recur (.expr value) (context.child 0)
    Eval.define context.scope name bound
    return bound
  | .leaving value => do
    let result ← recur (.expr value) (context.child 0)
    Eval.signal (.returned result)
  | .expression value => recur (.expr value) (context.child 0)

/-- The meaning of a node. -/
def Node.step (context : Context) : Node → Eval State Value
  | .expr expression => expression.step recur context
  | .stmt statement => statement.step recur context

end Productions

end Ember
