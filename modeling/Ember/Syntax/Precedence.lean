import Ember.Syntax.Basic
import Ember.Token.Basic

/-!
# Precedence

How strongly a token that follows an operand binds to it. A token that cannot
follow an operand has the lowest precedence.
-/

namespace Ember

/-- Binding strengths, from the weakest to the strongest. -/
inductive Precedence where
  | lowest
  | equality
  | comparison
  | sum
  | product
  | unary
  | call
  | index
  deriving DecidableEq, Repr

namespace Precedence

/-- The rank of a binding strength. -/
def rank : Precedence → Nat
  | .lowest => 0
  | .equality => 1
  | .comparison => 2
  | .sum => 3
  | .product => 4
  | .unary => 5
  | .call => 6
  | .index => 7

instance : LE Precedence := ⟨fun left right => left.rank ≤ right.rank⟩

instance : LT Precedence := ⟨fun left right => left.rank < right.rank⟩

instance (left right : Precedence) : Decidable (left ≤ right) :=
  inferInstanceAs (Decidable (left.rank ≤ right.rank))

instance (left right : Precedence) : Decidable (left < right) :=
  inferInstanceAs (Decidable (left.rank < right.rank))

end Precedence

/-- The binding strength of an operator between two operands. -/
def BinaryOperator.precedence : BinaryOperator → Precedence
  | .equal | .notEqual => .equality
  | .less | .greater => .comparison
  | .add | .subtract => .sum
  | .multiply | .divide => .product

/-- The ways in which an expression goes on after an operand. -/
inductive Continuation where
  | operation (operator : BinaryOperator)
  | call
  | index
  deriving DecidableEq, Repr

namespace Continuation

/-- The continuation that a token announces, if it announces one. -/
def ofKind? : TokenKind → Option Continuation
  | .symbol .plus => some (.operation .add)
  | .symbol .minus => some (.operation .subtract)
  | .symbol .asterisk => some (.operation .multiply)
  | .symbol .slash => some (.operation .divide)
  | .symbol .less => some (.operation .less)
  | .symbol .greater => some (.operation .greater)
  | .symbol .equal => some (.operation .equal)
  | .symbol .notEqual => some (.operation .notEqual)
  | .symbol .leftParen => some .call
  | .symbol .leftBracket => some .index
  | _ => none

/-- How strongly a continuation binds. -/
def precedence : Continuation → Precedence
  | .operation operator => operator.precedence
  | .call => .call
  | .index => .index

end Continuation

/-- How strongly a token binds to an operand in front of it. -/
def TokenKind.precedence (kind : TokenKind) : Precedence :=
  match Continuation.ofKind? kind with
  | some continuation => continuation.precedence
  | none => .lowest

end Ember
