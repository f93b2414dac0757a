import Mathlib.Algebra.Group.Int.Defs
import Ember.Proofs.Session.Basic
import Ember.Proofs.Syntax.Formula
import Ember.Proofs.Syntax.Tree

/-!
# What formulas come to

The meaning of a formula in whole numbers without bounds, where only what lies outside
of the range is an overflow. Evaluation comes to the same value, or to the same error
with the same operands, for each of the texts of a formula. So no result wraps around.
-/

namespace Ember

/-- What a formula can come to. -/
inductive Datum where
  | number (value : Int)
  | truth (value : Bool)
  deriving DecidableEq, Repr

/-- Why a formula has no value. -/
inductive Fault where
  | overflow (left : Int) (operator : BinaryOperator) (right : Int)
  | negationOverflow (operand : Int)
  | divisionByZero
  | mismatch (left : ValueType) (operator : BinaryOperator) (right : ValueType)
  | unknownBinary (left : ValueType) (operator : BinaryOperator) (right : ValueType)
  | unknownUnary (operator : UnaryOperator) (operand : ValueType)
  deriving DecidableEq, Repr

namespace Datum

def type : Datum → ValueType
  | .number _ => .integer
  | .truth _ => .boolean

/-- Every number but zero holds. -/
def holds : Datum → Bool
  | .number value => value != 0
  | .truth value => value

/-- Numbers have a sign and 63 binary digits. -/
def fits : Datum → Bool
  | .number value => -2 ^ 63 ≤ value ∧ value ≤ 2 ^ 63 - 1
  | .truth _ => true

end Datum

/-- An operator between two numbers, whatever their size. Nothing is said of division
by zero. -/
def BinaryOperator.unbounded (operator : BinaryOperator) (left right : Int) : Datum :=
  match operator with
  | .add => .number (left + right)
  | .subtract => .number (left - right)
  | .multiply => .number (left * right)
  | .divide => .number (left.tdiv right)
  | .less => .truth (left < right)
  | .greater => .truth (right < left)
  | .equal => .truth (left == right)
  | .notEqual => .truth (left != right)

/-- An operator between two operands. -/
def BinaryOperator.between (operator : BinaryOperator) (left right : Datum) : Except Fault Datum :=
  match left, right with
  | .number left, .number right =>
    if operator = .divide ∧ right = 0 then .error .divisionByZero
    else if (operator.unbounded left right).fits then .ok (operator.unbounded left right)
    else .error (.overflow left operator right)
  | .truth left, .truth right =>
    match operator with
    | .equal => .ok (.truth (left == right))
    | .notEqual => .ok (.truth (left != right))
    | _ => .error (.unknownBinary .boolean operator .boolean)
  | left, right => .error (.mismatch left.type operator right.type)

/-- An operator in front of an operand. -/
def UnaryOperator.before (operator : UnaryOperator) (operand : Datum) : Except Fault Datum :=
  match operator, operand with
  | .not, operand => .ok (.truth !operand.holds)
  | .negate, .number value =>
    if value = -2 ^ 63 then .error (.negationOverflow value) else .ok (.number (-value))
  | .negate, .truth _ => .error (.unknownUnary .negate .boolean)

/-- The meaning of a formula. The left operand comes first, and what fails first is
what the formula fails with. -/
def Formula.meaning : Formula → Except Fault Datum
  | .number value _ => .ok (.number value.toInt)
  | .truth value => .ok (.truth value)
  | .unary operator operand => do
    let value ← operand.meaning
    operator.before value
  | .binary operator left right => do
    let leftValue ← left.meaning
    let rightValue ← right.meaning
    operator.between leftValue rightValue

/-- The number or the truth value that a value is. -/
def Value.datum? : Value → Option Datum
  | .integer value => some (.number value.toInt)
  | .boolean value => some (.truth value)
  | _ => none

/-- The fault that an error is; formulas have no others. -/
def EvalError.fault? : EvalError → Option Fault
  | .integerOverflow left operator right => some (.overflow left.toInt operator right.toInt)
  | .negationOverflow operand => some (.negationOverflow operand.toInt)
  | .divisionByZero => some .divisionByZero
  | .typeMismatch left operator right => some (.mismatch left operator right)
  | .unknownBinaryOperator left operator right => some (.unknownBinary left operator right)
  | .unknownUnaryOperator operator operand => some (.unknownUnary operator operand)
  | _ => none

/-- The meaning that the result of an operation shows. -/
def meaning? : Except EvalError Value → Option (Except Fault Datum)
  | .ok value => value.datum?.map .ok
  | .error error => error.fault?.map .error

/-- The meaning that an outcome shows: a value, or one error of evaluation. -/
def Outcome.meaning? : Outcome → Option (Except Fault Datum)
  | .value result => Ember.meaning? (.ok result)
  | .faulty [.evaluation error] => Ember.meaning? (.error error)
  | _ => none

/-- Operations one after the other show what the meanings of both show. -/
theorem meaning?_bind {result : Except EvalError Value} {meaning : Except Fault Datum}
    {next : Value → Except EvalError Value} {nextMeaning : Datum → Except Fault Datum}
    (shown : meaning? result = some meaning)
    (following : ∀ value datum, value.datum? = some datum →
      meaning? (next value) = some (nextMeaning datum)) :
    meaning? (result >>= next) = some (meaning >>= nextMeaning) := by
  cases result with
  | ok value =>
      obtain ⟨datum, isDatum, rfl⟩ := Option.map_eq_some_iff.mp shown
      exact following value datum isDatum
  | error error =>
      obtain ⟨fault, isFault, rfl⟩ := Option.map_eq_some_iff.mp shown
      exact shown

/-- A result in the range is kept and every other one is an overflow. -/
theorem meaning?_exactly (left : Integer) (operator : BinaryOperator) (right : Integer)
    (result : Int) :
    meaning? (exactly left operator right result) =
      some (if (Datum.number result).fits then .ok (.number result)
        else .error (.overflow left.toInt operator right.toInt)) := by
  have range : (Datum.number result).fits = true ↔
      -integerBound ≤ result ∧ result < integerBound := by
    simp only [Datum.fits, decide_eq_true_eq, integerBound]
    omega
  rw [exactly, Integer.ofInt?]
  by_cases inside : -integerBound ≤ result ∧ result < integerBound
  · rw [dif_pos inside, if_pos (range.mpr inside)]
    rfl
  · rw [dif_neg inside, if_neg (mt range.mp inside)]
    rfl

theorem meaning?_onIntegers (operator : BinaryOperator) (left right : Integer) :
    meaning? (operator.onIntegers left right) =
      some (operator.between (.number left.toInt) (.number right.toInt)) := by
  cases operator with
  | add => exact meaning?_exactly left .add right _
  | subtract => exact meaning?_exactly left .subtract right _
  | multiply => exact meaning?_exactly left .multiply right _
  | divide =>
      by_cases zero : right.toInt = 0
      · simp [BinaryOperator.onIntegers, BinaryOperator.between, zero, meaning?, EvalError.fault?]
      · have exact := meaning?_exactly left .divide right (left.toInt.tdiv right.toInt)
        rw [BinaryOperator.onIntegers, BinaryOperator.between, if_neg zero,
          if_neg fun both => zero both.2]
        exact exact
  | less | greater | equal | notEqual => rfl

/-- An operator between two values means what it means between what they are. -/
theorem meaning?_binary (operator : BinaryOperator) {left right : Value}
    {leftDatum rightDatum : Datum} (leftShown : left.datum? = some leftDatum)
    (rightShown : right.datum? = some rightDatum) :
    meaning? (operator.apply left right) = some (operator.between leftDatum rightDatum) := by
  cases left with
  | integer leftValue =>
      cases right with
      | integer rightValue =>
          cases leftShown
          cases rightShown
          exact meaning?_onIntegers operator leftValue rightValue
      | boolean rightValue =>
          cases leftShown
          cases rightShown
          rfl
      | string | array | hash | function | null => cases rightShown
  | boolean leftValue =>
      cases right with
      | boolean rightValue =>
          cases leftShown
          cases rightShown
          cases operator <;> cases leftValue <;> cases rightValue <;> rfl
      | integer rightValue =>
          cases leftShown
          cases rightShown
          rfl
      | string | array | hash | function | null => cases rightShown
  | string | array | hash | function | null => cases leftShown

/-- The lowest number is the only one whose negation is out of the range. -/
theorem meaning?_unary (operator : UnaryOperator) {operand : Value} {datum : Datum}
    (shown : operand.datum? = some datum) :
    meaning? (operator.apply operand) = some (operator.before datum) := by
  cases operand with
  | integer value =>
      cases shown
      cases operator with
      | not => rfl
      | negate =>
          have lower := value.lower
          have upper := value.upper
          simp only [integerBound] at lower upper
          simp only [UnaryOperator.apply, UnaryOperator.before, Integer.ofInt?]
          by_cases lowest : value.toInt = -2 ^ 63
          · rw [dif_neg (by simp only [integerBound]; omega), if_pos lowest]
            rfl
          · rw [dif_pos (by simp only [integerBound]; omega), if_neg lowest]
            rfl
  | boolean value =>
      cases shown
      cases operator <;> rfl
  | string | array | hash | function | null => cases shown

theorem Eval.ofOperation_bind {State Result Next : Type} (operation : Except EvalError Result)
    (next : Result → Except EvalError Next) :
    (ofOperation operation : Eval State Result) >>= (fun result => ofOperation (next result)) =
      ofOperation (operation >>= next) := by
  cases operation <;> rfl

/-- A formula is evaluated to a result that shows its meaning, and leaves everything as
it was. -/
theorem evalNode_formula (formula : Formula) {depth : Nat}
    (enough : formula.tree.height ≤ depth) (context : Context) :
    ∃ result, evalNode .silent depth (.expr formula.tree) context = Eval.ofOperation result ∧
      meaning? result = some formula.meaning := by
  induction formula generalizing depth context with
  | number value natural =>
      obtain ⟨depth, rfl⟩ := Expr.exists_depth enough
      rw [evalNode_silent]
      exact ⟨.ok (.integer value), rfl, rfl⟩
  | truth value =>
      obtain ⟨depth, rfl⟩ := Expr.exists_depth enough
      rw [evalNode_silent]
      exact ⟨.ok (.boolean value), rfl, rfl⟩
  | unary operator operand ih =>
      obtain ⟨depth, rfl⟩ := Expr.exists_depth enough
      obtain ⟨result, evaluated, shown⟩ := ih (Nat.le_of_succ_le_succ enough) (context.child 0)
      refine ⟨result >>= operator.apply, ?_, ?_⟩
      · rw [evalNode_silent, ← Eval.ofOperation_bind, ← evaluated]
        rfl
      · exact meaning?_bind shown fun value datum isDatum => meaning?_unary operator isDatum
  | binary operator left right leftIH rightIH =>
      obtain ⟨depth, rfl⟩ := Expr.exists_depth enough
      have each : left.tree.height ≤ depth ∧ right.tree.height ≤ depth :=
        Nat.max_le.mp (Nat.le_of_succ_le_succ enough)
      obtain ⟨leftResult, leftEvaluated, leftShown⟩ := leftIH each.1 (context.child 0)
      obtain ⟨rightResult, rightEvaluated, rightShown⟩ := rightIH each.2 (context.child 1)
      refine ⟨leftResult >>= fun leftValue => rightResult >>= operator.apply leftValue, ?_, ?_⟩
      · rw [evalNode_silent, ← Eval.ofOperation_bind, ← leftEvaluated]
        simp only [← Eval.ofOperation_bind, ← rightEvaluated]
        rfl
      · apply meaning?_bind leftShown
        intro leftValue leftDatum leftIsDatum
        apply meaning?_bind rightShown
        intro rightValue rightDatum rightIsDatum
        exact meaning?_binary operator leftIsDatum rightIsDatum

theorem Outcome.meaning?_ofResult_ofOperation {State : Type} (result : Except EvalError Value)
    (machine : Machine State) :
    (Outcome.ofResult (Eval.ofOperation result machine).1).meaning? = Ember.meaning? result := by
  cases result <;> rfl

/-- Each of the texts of a formula is read as the tree of the formula and comes to the
meaning of the formula, in every world. -/
theorem evaluate_formula (formula : Formula) {depth : Nat} (enough : formula.tree.height < depth)
    (world : World) :
    ∀ text ∈ [formula.minimal, formula.full],
      (Parsing.ofSource text).result = .ok [.expression formula.tree] ∧
        (evaluate depth text world).outcome.meaning? = some formula.meaning := by
  obtain ⟨depth, rfl⟩ := Nat.exists_eq_succ_of_ne_zero (Nat.ne_zero_of_lt enough)
  intro text member
  have read : ∃ tier, ReadsAs text tier formula.tree := by
    rw [List.mem_cons, List.mem_singleton] at member
    rcases member with rfl | rfl
    · exact ⟨_, formula.readsAs_minimal⟩
    · exact ⟨_, formula.readsAs_full⟩
  obtain ⟨tier, read⟩ := read
  obtain ⟨context, machine, _, outcome⟩ := evaluate_of_readsAs read world
  obtain ⟨result, evaluated, shown⟩ := evalNode_formula formula (Nat.le_of_lt_succ enough) context
  refine ⟨read.result_ofSource, ?_⟩
  rw [outcome depth, evaluated, Outcome.meaning?_ofResult_ofOperation, shown]

/-- The lowest number by minus one is one more than the largest number. -/
def lowestByMinusOne : Formula :=
  .binary .divide
    (.binary .subtract
      (.unary .negate (.number ⟨9223372036854775807, by decide, by decide⟩ (by decide)))
      (.number ⟨1, by decide, by decide⟩ (by decide)))
    (.unary .negate (.number ⟨1, by decide, by decide⟩ (by decide)))

theorem evaluate_lowestByMinusOne :
    lowestByMinusOne.minimal = "(-9223372036854775807 - 1) / -1" ∧
      (evaluate 5 "(-9223372036854775807 - 1) / -1" .empty).outcome.meaning? =
        some (.error (.overflow (-9223372036854775808) .divide (-1))) := by
  have written : lowestByMinusOne.minimal = "(-9223372036854775807 - 1) / -1" := by decide +kernel
  have enough : lowestByMinusOne.tree.height < 5 := by decide
  have evaluated := evaluate_formula lowestByMinusOne enough .empty _ List.mem_cons_self
  rw [written] at evaluated
  exact ⟨written, evaluated.2⟩

end Ember
