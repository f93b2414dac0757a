import Ember.Syntax.Basic
import Ember.Text.Joined

/-!
# Printed trees

The text of a tree. Operators and index expressions stand in parentheses; calls,
literals and conditions of `if` do not. Strings are written as they are, between
quotes.
-/

namespace Ember

open Text (joined)

/-- The text of a truth value. -/
def renderBool : Bool → String
  | true => "true"
  | false => "false"

/-- A text between braces. -/
def inBraces (content : String) : String :=
  "\x7b" ++ content ++ "\x7d"

mutual

/-- The text of an expression. -/
def Expr.render : Expr → String
  | .identifier name => name
  | .integer value => value.render
  | .string content => "\"" ++ content ++ "\""
  | .boolean value => renderBool value
  | .array elements => "[" ++ joined ", " (Expr.renderAll elements) ++ "]"
  | .hash pairs => inBraces (joined ", " (Expr.renderPairs pairs))
  | .unary operator operand => "(" ++ operator.text ++ operand.render ++ ")"
  | .binary operator left right =>
    "(" ++ left.render ++ " " ++ operator.text ++ " " ++ right.render ++ ")"
  | .conditional condition consequence alternative =>
    "if " ++ condition.render ++ " " ++ inBraces (joined " " (Stmt.renderAll consequence)) ++
      Stmt.renderAlternative alternative
  | .function parameters body =>
    "fn(" ++ joined ", " parameters ++ ") " ++ inBraces (joined " " (Stmt.renderAll body))
  | .call callee arguments =>
    callee.render ++ "(" ++ joined ", " (Expr.renderAll arguments) ++ ")"
  | .index collection position => "(" ++ collection.render ++ "[" ++ position.render ++ "])"
termination_by structural expression => expression

/-- The texts of some expressions, in order. -/
def Expr.renderAll : List Expr → List String
  | [] => []
  | expression :: rest => expression.render :: Expr.renderAll rest
termination_by structural expressions => expressions

/-- The texts of the pairs of a hash literal, in order. -/
def Expr.renderPairs : List (Expr × Expr) → List String
  | [] => []
  | (key, value) :: rest => (key.render ++ ": " ++ value.render) :: Expr.renderPairs rest
termination_by structural pairs => pairs

/-- The text of a statement, with its semicolon. -/
def Stmt.render : Stmt → String
  | .binding name value => "let " ++ name ++ " = " ++ value.render ++ ";"
  | .leaving value => "return " ++ value.render ++ ";"
  | .expression value => value.render ++ ";"
termination_by structural statement => statement

/-- The texts of some statements, in order. -/
def Stmt.renderAll : List Stmt → List String
  | [] => []
  | statement :: rest => statement.render :: Stmt.renderAll rest
termination_by structural statements => statements

/-- The text of an `else` branch, nothing if there is none. -/
def Stmt.renderAlternative : Option (List Stmt) → String
  | none => ""
  | some block => " else " ++ inBraces (joined " " (Stmt.renderAll block))
termination_by structural alternative => alternative

end

@[simp] theorem Expr.renderAll_eq_map (expressions : List Expr) :
    Expr.renderAll expressions = expressions.map Expr.render := by
  induction expressions with
  | nil => rfl
  | cons expression rest ih => simp [Expr.renderAll, ih]

@[simp] theorem Expr.renderPairs_eq_map (pairs : List (Expr × Expr)) :
    Expr.renderPairs pairs = pairs.map fun (key, value) => key.render ++ ": " ++ value.render := by
  induction pairs with
  | nil => rfl
  | cons pair rest ih => simp [Expr.renderPairs, ih]

@[simp] theorem Stmt.renderAll_eq_map (statements : List Stmt) :
    Stmt.renderAll statements = statements.map Stmt.render := by
  induction statements with
  | nil => rfl
  | cons statement rest ih => simp [Stmt.renderAll, ih]

/-- The text of a block, in its braces. -/
def Block.render (block : Block) : String :=
  inBraces (joined " " (block.map Stmt.render))

/-- The text of a program: one statement a line. -/
def Program.render (program : Program) : String :=
  Text.lines (program.map Stmt.render)

end Ember
