import Ember.Proofs.Syntax.Reading
import Ember.Syntax.Precedence

/-!
# Formulas

Trees of operators over numbers and truth values. A formula can be written with
parentheses around every operation, or with no more of them than the precedences of
its operators ask for. Both texts are read as the same tree.
-/

namespace Ember

open Grammar (Tier)

/-- Trees of operators. A number is written without a sign, so it is not negative. -/
inductive Formula where
  | number (value : Integer) (natural : 0 ≤ value.toInt)
  | truth (value : Bool)
  | unary (operator : UnaryOperator) (operand : Formula)
  | binary (operator : BinaryOperator) (left right : Formula)
  deriving DecidableEq, Repr

namespace Formula

/-- The expression that a formula stands for. -/
def tree : Formula → Expr
  | .number value _ => .integer value
  | .truth value => .boolean value
  | .unary operator operand => .unary operator operand.tree
  | .binary operator left right => .binary operator left.tree right.tree

/-- How strongly the parts of a formula hold together. -/
def precedence : Formula → Precedence
  | .number _ _ | .truth _ => .index
  | .unary _ _ => .unary
  | .binary operator _ _ => operator.precedence

/-- A text, in parentheses if they are needed. -/
def enclosed (needed : Bool) (text : String) : String :=
  if needed then "(" ++ text ++ ")" else text

/-- The text of a formula with parentheses around all operations. -/
def full : Formula → String
  | .number value _ => value.render
  | .truth value => renderBool value
  | .unary operator operand => "(" ++ operator.text ++ operand.full ++ ")"
  | .binary operator left right =>
    "(" ++ left.full ++ " " ++ operator.text ++ " " ++ right.full ++ ")"

/-- The text of a formula with the parentheses that the precedences ask for. Operators
associate to the left, so that on the right an operand of the same precedence needs
them, too. -/
def minimal : Formula → String
  | .number value _ => value.render
  | .truth value => renderBool value
  | .unary operator operand =>
    operator.text ++ enclosed (operand.precedence < .unary) operand.minimal
  | .binary operator left right =>
    enclosed (left.precedence < operator.precedence) left.minimal ++ " " ++ operator.text ++ " " ++
      enclosed (right.precedence ≤ operator.precedence) right.minimal

/-- The tier of the grammar on which a formula stands without parentheses. -/
def tier : Formula → Tier
  | .number _ _ | .truth _ => .primary
  | .unary _ _ => .unary
  | .binary operator _ _ => operator.tier

theorem rank_precedence (formula : Formula) :
    formula.precedence.rank = formula.tier.rank + 1 := by
  cases formula with
  | number value natural => rfl
  | truth value => rfl
  | unary operator operand => rfl
  | binary operator left right => cases operator <;> rfl

/-- With parentheses around it where they are needed, a formula stands on the tier of
its place. -/
theorem readsAs_enclosed {formula : Formula} {text : String} {needed : Bool} {target : Tier}
    (read : ReadsAs text formula.tier formula.tree)
    (tight : needed = false → target.rank ≤ formula.tier.rank) :
    ReadsAs (enclosed needed text) target formula.tree := by
  cases needed with
  | true => exact (read.looser (Nat.zero_le _)).grouped.looser target.rank_le
  | false => exact read.looser (tight rfl)

/-- The text with the fewest parentheses is read as the tree of the formula. -/
theorem readsAs_minimal (formula : Formula) :
    ReadsAs formula.minimal formula.tier formula.tree := by
  induction formula with
  | number value natural => exact .integer natural
  | truth value => exact .boolean value
  | unary operator operand ih =>
      refine .unary operator (readsAs_enclosed ih ?_)
      intro bare
      have tight : ¬ operand.precedence.rank < Precedence.unary.rank := of_decide_eq_false bare
      rw [rank_precedence, Nat.not_lt] at tight
      exact Nat.le_of_succ_le_succ tight
  | binary operator left right leftIH rightIH =>
      have level : operator.precedence.rank = operator.tier.rank + 1 :=
        rank_precedence (.binary operator left right)
      refine .binary operator (readsAs_enclosed leftIH ?_) (readsAs_enclosed rightIH ?_)
      · intro bare
        have tight : ¬ left.precedence.rank < operator.precedence.rank := of_decide_eq_false bare
        rw [rank_precedence, level, Nat.not_lt] at tight
        exact Nat.le_of_succ_le_succ tight
      · intro bare
        have tight : ¬ right.precedence.rank ≤ operator.precedence.rank := of_decide_eq_false bare
        rw [rank_precedence, level, Nat.not_le] at tight
        have between : operator.tier.rank < 6 := by cases operator <;> decide
        rw [Tier.rank_tighter between]
        exact Nat.lt_of_succ_lt_succ tight

/-- The text with all parentheses is, too. -/
theorem readsAs_full (formula : Formula) : ReadsAs formula.full .primary formula.tree := by
  induction formula with
  | number value natural => exact .integer natural
  | truth value => exact .boolean value
  | unary operator operand ih =>
      have inside := ReadsAs.unary operator (ih.looser (by decide))
      exact (inside.looser (by decide)).grouped
  | binary operator left right leftIH rightIH =>
      have inside := ReadsAs.binary operator (leftIH.looser (Tier.rank_le _))
        (rightIH.looser (Tier.rank_le _))
      simpa only [full, tree, String.append_assoc] using (inside.looser (Nat.zero_le _)).grouped

end Formula

end Ember
