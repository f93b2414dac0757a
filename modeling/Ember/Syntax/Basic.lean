import Ember.Integer

/-!
# Syntax trees

Expressions and statements of the language. A block is a list of statements and
a program is one too. Trees carry no positions and no identities: two trees are
equal when they have the same shape and the same leaves.
-/

namespace Ember

/-- Operators in front of one operand. -/
inductive UnaryOperator where
  | negate
  | not
  deriving DecidableEq, Repr

namespace UnaryOperator

/-- The spelling of an operator. -/
def text : UnaryOperator → String
  | .negate => "-"
  | .not => "!"

end UnaryOperator

/-- Operators between two operands. -/
inductive BinaryOperator where
  | add
  | subtract
  | multiply
  | divide
  | less
  | greater
  | equal
  | notEqual
  deriving DecidableEq, Repr

namespace BinaryOperator

/-- The spelling of an operator. -/
def text : BinaryOperator → String
  | .add => "+"
  | .subtract => "-"
  | .multiply => "*"
  | .divide => "/"
  | .less => "<"
  | .greater => ">"
  | .equal => "=="
  | .notEqual => "!="

end BinaryOperator

mutual

/-- Expressions. -/
inductive Expr where
  | identifier (name : String)
  | integer (value : Integer)
  | string (content : String)
  | boolean (value : Bool)
  | array (elements : List Expr)
  /-- A hash literal; the pairs stand in the order of the source. -/
  | hash (pairs : List (Expr × Expr))
  | unary (operator : UnaryOperator) (operand : Expr)
  | binary (operator : BinaryOperator) (left right : Expr)
  | conditional (condition : Expr) (consequence : List Stmt) (alternative : Option (List Stmt))
  | function (parameters : List String) (body : List Stmt)
  | call (callee : Expr) (arguments : List Expr)
  | index (collection position : Expr)
  deriving Repr

/-- Statements. -/
inductive Stmt where
  /-- Binds a name in the current scope. -/
  | binding (name : String) (value : Expr)
  /-- Leaves the function that is running, or the program. -/
  | leaving (value : Expr)
  | expression (value : Expr)
  deriving Repr

end

/-- A sequence of statements in braces. -/
abbrev Block := List Stmt

/-- A whole program. -/
abbrev Program := List Stmt

/-- The productions that evaluation reports on. -/
inductive NodeKind where
  | bindingStatement
  | leavingStatement
  | expressionStatement
  | identifier
  | integer
  | string
  | boolean
  | array
  | hash
  | unary
  | binary
  | conditional
  | function
  | call
  | index
  deriving DecidableEq, Repr

namespace NodeKind

/-- The name of a production. -/
def name : NodeKind → String
  | .bindingStatement => "LetStatement"
  | .leavingStatement => "ReturnStatement"
  | .expressionStatement => "ExpressionStatement"
  | .identifier => "Identifier"
  | .integer => "IntegerLiteral"
  | .string => "StringLiteral"
  | .boolean => "BooleanLiteral"
  | .array => "ArrayLiteral"
  | .hash => "HashLiteral"
  | .unary => "PrefixExpression"
  | .binary => "InfixExpression"
  | .conditional => "IfExpression"
  | .function => "FunctionLiteral"
  | .call => "CallExpression"
  | .index => "IndexExpression"

end NodeKind

/-- The production of an expression. -/
def Expr.kind : Expr → NodeKind
  | .identifier _ => .identifier
  | .integer _ => .integer
  | .string _ => .string
  | .boolean _ => .boolean
  | .array _ => .array
  | .hash _ => .hash
  | .unary _ _ => .unary
  | .binary _ _ _ => .binary
  | .conditional _ _ _ => .conditional
  | .function _ _ => .function
  | .call _ _ => .call
  | .index _ _ => .index

/-- The production of a statement. -/
def Stmt.kind : Stmt → NodeKind
  | .binding _ _ => .bindingStatement
  | .leaving _ => .leavingStatement
  | .expression _ => .expressionStatement

end Ember
