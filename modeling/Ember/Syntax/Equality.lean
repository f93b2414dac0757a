import Ember.Syntax.Basic

/-!
# Equality of trees

Trees are compared part by part. The comparison decides equality, and so every
type of trees has decidable equality.
-/

namespace Ember

mutual

/-- Whether two expressions are the same tree. -/
def Expr.same : Expr → Expr → Bool
  | .identifier left, .identifier right => left == right
  | .integer left, .integer right => left == right
  | .string left, .string right => left == right
  | .boolean left, .boolean right => left == right
  | .array left, .array right => Expr.sameAll left right
  | .hash left, .hash right => Expr.samePairs left right
  | .unary leftOperator left, .unary rightOperator right =>
    leftOperator == rightOperator && left.same right
  | .binary leftOperator left₁ left₂, .binary rightOperator right₁ right₂ =>
    leftOperator == rightOperator && left₁.same right₁ && left₂.same right₂
  | .conditional left leftBlock leftElse, .conditional right rightBlock rightElse =>
    left.same right && Stmt.sameAll leftBlock rightBlock &&
      Stmt.sameAlternative leftElse rightElse
  | .function leftNames leftBody, .function rightNames rightBody =>
    leftNames == rightNames && Stmt.sameAll leftBody rightBody
  | .call left leftArguments, .call right rightArguments =>
    left.same right && Expr.sameAll leftArguments rightArguments
  | .index left₁ left₂, .index right₁ right₂ => left₁.same right₁ && left₂.same right₂
  | _, _ => false
termination_by structural left => left

/-- Whether two lists hold the same expressions. -/
def Expr.sameAll : List Expr → List Expr → Bool
  | [], [] => true
  | left :: leftRest, right :: rightRest => left.same right && Expr.sameAll leftRest rightRest
  | _, _ => false
termination_by structural left => left

/-- Whether two lists hold the same pairs. -/
def Expr.samePairs : List (Expr × Expr) → List (Expr × Expr) → Bool
  | [], [] => true
  | (leftKey, leftValue) :: leftRest, (rightKey, rightValue) :: rightRest =>
    leftKey.same rightKey && leftValue.same rightValue && Expr.samePairs leftRest rightRest
  | _, _ => false
termination_by structural left => left

/-- Whether two statements are the same tree. -/
def Stmt.same : Stmt → Stmt → Bool
  | .binding leftName left, .binding rightName right => leftName == rightName && left.same right
  | .leaving left, .leaving right => left.same right
  | .expression left, .expression right => left.same right
  | _, _ => false
termination_by structural left => left

/-- Whether two lists hold the same statements. -/
def Stmt.sameAll : List Stmt → List Stmt → Bool
  | [], [] => true
  | left :: leftRest, right :: rightRest => left.same right && Stmt.sameAll leftRest rightRest
  | _, _ => false
termination_by structural left => left

/-- Whether two `else` branches are the same. -/
def Stmt.sameAlternative : Option (List Stmt) → Option (List Stmt) → Bool
  | none, none => true
  | some left, some right => Stmt.sameAll left right
  | _, _ => false
termination_by structural left => left

end

mutual

theorem Expr.same_iff (left right : Expr) : left.same right = true ↔ left = right := by
  cases left <;> cases right <;>
    simp [Expr.same, Expr.same_iff, Expr.sameAll_iff, Expr.samePairs_iff, Stmt.sameAll_iff,
      Stmt.sameAlternative_iff, and_assoc]
termination_by structural left

theorem Expr.sameAll_iff (left right : List Expr) :
    Expr.sameAll left right = true ↔ left = right := by
  cases left <;> cases right <;> simp [Expr.sameAll, Expr.same_iff, Expr.sameAll_iff]
termination_by structural left

theorem Expr.samePairs_iff (left right : List (Expr × Expr)) :
    Expr.samePairs left right = true ↔ left = right := by
  match left, right with
  | [], [] => simp [Expr.samePairs]
  | [], _ :: _ => simp [Expr.samePairs]
  | _ :: _, [] => simp [Expr.samePairs]
  | (leftKey, leftValue) :: leftRest, (rightKey, rightValue) :: rightRest =>
      simp [Expr.samePairs, Expr.same_iff, Expr.samePairs_iff]
termination_by structural left

theorem Stmt.same_iff (left right : Stmt) : left.same right = true ↔ left = right := by
  cases left <;> cases right <;> simp [Stmt.same, Expr.same_iff]
termination_by structural left

theorem Stmt.sameAll_iff (left right : List Stmt) :
    Stmt.sameAll left right = true ↔ left = right := by
  cases left <;> cases right <;> simp [Stmt.sameAll, Stmt.same_iff, Stmt.sameAll_iff]
termination_by structural left

theorem Stmt.sameAlternative_iff (left right : Option (List Stmt)) :
    Stmt.sameAlternative left right = true ↔ left = right := by
  cases left <;> cases right <;> simp [Stmt.sameAlternative, Stmt.sameAll_iff]
termination_by structural left

end

instance : DecidableEq Expr := fun left right =>
  decidable_of_iff _ (Expr.same_iff left right)

instance : DecidableEq Stmt := fun left right =>
  decidable_of_iff _ (Stmt.same_iff left right)

end Ember
