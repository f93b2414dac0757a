import Ember.Syntax.Basic

/-!
# Properties of whole trees

A test of single expressions and statements, carried to all that stand inside a
tree, and the induction by which properties of trees are proved: what passes from
the parts of a tree to the tree holds of every tree.
-/

namespace Ember

mutual

/-- Whether an expression passes a test, with all expressions and statements inside
it. -/
def Expr.all (test : Expr → Bool) (stmtTest : Stmt → Bool) : Expr → Bool
  | .identifier name => test (.identifier name)
  | .integer value => test (.integer value)
  | .string content => test (.string content)
  | .boolean value => test (.boolean value)
  | .array elements => test (.array elements) && Expr.allEach test stmtTest elements
  | .hash pairs => test (.hash pairs) && Expr.allPairs test stmtTest pairs
  | .unary operator operand => test (.unary operator operand) && operand.all test stmtTest
  | .binary operator left right =>
    test (.binary operator left right) && left.all test stmtTest && right.all test stmtTest
  | .conditional condition consequence alternative =>
    test (.conditional condition consequence alternative) && condition.all test stmtTest &&
      Stmt.allEach test stmtTest consequence && Stmt.allAlternative test stmtTest alternative
  | .function parameters body =>
    test (.function parameters body) && Stmt.allEach test stmtTest body
  | .call callee arguments =>
    test (.call callee arguments) && callee.all test stmtTest &&
      Expr.allEach test stmtTest arguments
  | .index collection position =>
    test (.index collection position) && collection.all test stmtTest && position.all test stmtTest
termination_by structural expression => expression

/-- Whether all of some expressions pass a test throughout. -/
def Expr.allEach (test : Expr → Bool) (stmtTest : Stmt → Bool) : List Expr → Bool
  | [] => true
  | expression :: rest => expression.all test stmtTest && Expr.allEach test stmtTest rest
termination_by structural expressions => expressions

/-- Whether all keys and values pass a test throughout. -/
def Expr.allPairs (test : Expr → Bool) (stmtTest : Stmt → Bool) : List (Expr × Expr) → Bool
  | [] => true
  | (key, value) :: rest =>
    key.all test stmtTest && value.all test stmtTest && Expr.allPairs test stmtTest rest
termination_by structural pairs => pairs

/-- Whether a statement passes a test, with all that stands inside it. -/
def Stmt.all (test : Expr → Bool) (stmtTest : Stmt → Bool) : Stmt → Bool
  | .binding name value => stmtTest (.binding name value) && value.all test stmtTest
  | .leaving value => stmtTest (.leaving value) && value.all test stmtTest
  | .expression value => stmtTest (.expression value) && value.all test stmtTest
termination_by structural statement => statement

/-- Whether all of some statements pass a test throughout. -/
def Stmt.allEach (test : Expr → Bool) (stmtTest : Stmt → Bool) : List Stmt → Bool
  | [] => true
  | statement :: rest => statement.all test stmtTest && Stmt.allEach test stmtTest rest
termination_by structural statements => statements

/-- Whether an `else` branch passes a test throughout. -/
def Stmt.allAlternative (test : Expr → Bool) (stmtTest : Stmt → Bool) :
    Option (List Stmt) → Bool
  | none => true
  | some block => Stmt.allEach test stmtTest block
termination_by structural alternative => alternative

end

section All

variable {test : Expr → Bool} {stmtTest : Stmt → Bool}

theorem Expr.allEach_iff {expressions : List Expr} :
    Expr.allEach test stmtTest expressions ↔
      ∀ expression ∈ expressions, expression.all test stmtTest := by
  induction expressions with
  | nil => simp [Expr.allEach]
  | cons expression rest ih => simp [Expr.allEach, ih]

theorem Expr.allPairs_iff {pairs : List (Expr × Expr)} :
    Expr.allPairs test stmtTest pairs ↔
      ∀ pair ∈ pairs, pair.1.all test stmtTest ∧ pair.2.all test stmtTest := by
  induction pairs with
  | nil => simp [Expr.allPairs]
  | cons pair rest ih => simp [Expr.allPairs, ih]

theorem Stmt.allEach_iff {statements : List Stmt} :
    Stmt.allEach test stmtTest statements ↔
      ∀ statement ∈ statements, statement.all test stmtTest := by
  induction statements with
  | nil => simp [Stmt.allEach]
  | cons statement rest ih => simp [Stmt.allEach, ih]

@[simp] theorem Expr.all_array {elements : List Expr} :
    (Expr.array elements).all test stmtTest ↔
      test (.array elements) ∧ ∀ element ∈ elements, element.all test stmtTest := by
  change (test (.array elements) && Expr.allEach test stmtTest elements) = true ↔ _
  rw [Bool.and_eq_true, Expr.allEach_iff]

@[simp] theorem Expr.all_hash {pairs : List (Expr × Expr)} :
    (Expr.hash pairs).all test stmtTest ↔
      test (.hash pairs) ∧ ∀ pair ∈ pairs, pair.1.all test stmtTest ∧ pair.2.all test stmtTest := by
  change (test (.hash pairs) && Expr.allPairs test stmtTest pairs) = true ↔ _
  rw [Bool.and_eq_true, Expr.allPairs_iff]

@[simp] theorem Expr.all_unary {operator : UnaryOperator} {operand : Expr} :
    (Expr.unary operator operand).all test stmtTest ↔
      test (.unary operator operand) ∧ operand.all test stmtTest := by
  change (test (.unary operator operand) && operand.all test stmtTest) = true ↔ _
  rw [Bool.and_eq_true]

@[simp] theorem Expr.all_binary {operator : BinaryOperator} {left right : Expr} :
    (Expr.binary operator left right).all test stmtTest ↔
      test (.binary operator left right) ∧ left.all test stmtTest ∧ right.all test stmtTest := by
  change (test (.binary operator left right) && left.all test stmtTest &&
    right.all test stmtTest) = true ↔ _
  rw [Bool.and_eq_true, Bool.and_eq_true, and_assoc]

@[simp] theorem Expr.all_conditional {condition : Expr} {consequence : Block}
    {alternative : Option Block} :
    (Expr.conditional condition consequence alternative).all test stmtTest ↔
      test (.conditional condition consequence alternative) ∧ condition.all test stmtTest ∧
        (∀ statement ∈ consequence, statement.all test stmtTest) ∧
        ∀ block ∈ alternative, ∀ statement ∈ block, statement.all test stmtTest := by
  change (test (.conditional condition consequence alternative) && condition.all test stmtTest &&
    Stmt.allEach test stmtTest consequence && Stmt.allAlternative test stmtTest alternative) =
      true ↔ _
  rw [Bool.and_eq_true, Bool.and_eq_true, Bool.and_eq_true, Stmt.allEach_iff, and_assoc, and_assoc]
  cases alternative with
  | none => simp [Stmt.allAlternative]
  | some block => simp [Stmt.allAlternative, Stmt.allEach_iff]

@[simp] theorem Expr.all_function {parameters : List String} {body : Block} :
    (Expr.function parameters body).all test stmtTest ↔
      test (.function parameters body) ∧ ∀ statement ∈ body, statement.all test stmtTest := by
  change (test (.function parameters body) && Stmt.allEach test stmtTest body) = true ↔ _
  rw [Bool.and_eq_true, Stmt.allEach_iff]

@[simp] theorem Expr.all_call {callee : Expr} {arguments : List Expr} :
    (Expr.call callee arguments).all test stmtTest ↔
      test (.call callee arguments) ∧ callee.all test stmtTest ∧
        ∀ argument ∈ arguments, argument.all test stmtTest := by
  change (test (.call callee arguments) && callee.all test stmtTest &&
    Expr.allEach test stmtTest arguments) = true ↔ _
  rw [Bool.and_eq_true, Bool.and_eq_true, Expr.allEach_iff, and_assoc]

@[simp] theorem Expr.all_index {collection position : Expr} :
    (Expr.index collection position).all test stmtTest ↔
      test (.index collection position) ∧ collection.all test stmtTest ∧
        position.all test stmtTest := by
  change (test (.index collection position) && collection.all test stmtTest &&
    position.all test stmtTest) = true ↔ _
  rw [Bool.and_eq_true, Bool.and_eq_true, and_assoc]

@[simp] theorem Stmt.all_binding {name : String} {value : Expr} :
    (Stmt.binding name value).all test stmtTest ↔
      stmtTest (.binding name value) ∧ value.all test stmtTest := by
  change (stmtTest (.binding name value) && value.all test stmtTest) = true ↔ _
  rw [Bool.and_eq_true]

@[simp] theorem Stmt.all_leaving {value : Expr} :
    (Stmt.leaving value).all test stmtTest ↔
      stmtTest (.leaving value) ∧ value.all test stmtTest := by
  change (stmtTest (.leaving value) && value.all test stmtTest) = true ↔ _
  rw [Bool.and_eq_true]

@[simp] theorem Stmt.all_expression {value : Expr} :
    (Stmt.expression value).all test stmtTest ↔
      stmtTest (.expression value) ∧ value.all test stmtTest := by
  change (stmtTest (.expression value) && value.all test stmtTest) = true ↔ _
  rw [Bool.and_eq_true]

end All

mutual

/-- How many nodes stand one below the other in an expression, at most. -/
def Expr.height : Expr → Nat
  | .identifier _ | .integer _ | .string _ | .boolean _ => 1
  | .array elements => Expr.heightEach elements + 1
  | .hash pairs => Expr.heightPairs pairs + 1
  | .unary _ operand => operand.height + 1
  | .binary _ left right => max left.height right.height + 1
  | .conditional condition consequence alternative =>
    max condition.height (max (Stmt.heightEach consequence) (Stmt.heightAlternative alternative)) + 1
  | .function _ body => Stmt.heightEach body + 1
  | .call callee arguments => max callee.height (Expr.heightEach arguments) + 1
  | .index collection position => max collection.height position.height + 1
termination_by structural expression => expression

/-- The height of the highest of some expressions. -/
def Expr.heightEach : List Expr → Nat
  | [] => 0
  | expression :: rest => max expression.height (Expr.heightEach rest)
termination_by structural expressions => expressions

/-- The height of the highest key or value. -/
def Expr.heightPairs : List (Expr × Expr) → Nat
  | [] => 0
  | (key, value) :: rest => max key.height (max value.height (Expr.heightPairs rest))
termination_by structural pairs => pairs

/-- The height of a statement. -/
def Stmt.height : Stmt → Nat
  | .binding _ value | .leaving value | .expression value => value.height + 1
termination_by structural statement => statement

/-- The height of the highest of some statements. -/
def Stmt.heightEach : List Stmt → Nat
  | [] => 0
  | statement :: rest => max statement.height (Stmt.heightEach rest)
termination_by structural statements => statements

/-- The height of an `else` branch. -/
def Stmt.heightAlternative : Option (List Stmt) → Nat
  | none => 0
  | some block => Stmt.heightEach block
termination_by structural alternative => alternative

end

theorem Expr.heightEach_le_iff {expressions : List Expr} {bound : Nat} :
    Expr.heightEach expressions ≤ bound ↔
      ∀ expression ∈ expressions, expression.height ≤ bound := by
  induction expressions with
  | nil => simp [Expr.heightEach]
  | cons expression rest ih => simp [Expr.heightEach, Nat.max_le, ih]

theorem Expr.heightPairs_le_iff {pairs : List (Expr × Expr)} {bound : Nat} :
    Expr.heightPairs pairs ≤ bound ↔
      ∀ pair ∈ pairs, pair.1.height ≤ bound ∧ pair.2.height ≤ bound := by
  induction pairs with
  | nil => simp [Expr.heightPairs]
  | cons pair rest ih => simp [Expr.heightPairs, Nat.max_le, ih, and_assoc]

theorem Stmt.heightEach_le_iff {statements : List Stmt} {bound : Nat} :
    Stmt.heightEach statements ≤ bound ↔
      ∀ statement ∈ statements, statement.height ≤ bound := by
  induction statements with
  | nil => simp [Stmt.heightEach]
  | cons statement rest ih => simp [Stmt.heightEach, Nat.max_le, ih]

/-- Below a bound that a tree keeps there is room for the parts of the tree. -/
theorem Expr.exists_depth {tree : Expr} {depth : Nat} (enough : tree.height ≤ depth) :
    ∃ below, depth = below + 1 := by
  have positive : 0 < tree.height := by cases tree <;> exact Nat.succ_pos _
  exact Nat.exists_eq_succ_of_ne_zero (Nat.ne_zero_of_lt (Nat.lt_of_lt_of_le positive enough))

/-- A property that passes from the parts of a tree to the tree. -/
structure Hereditary (P : Expr → Prop) (Q : Stmt → Prop) : Prop where
  identifier (name : String) : P (.identifier name)
  integer (value : Integer) : P (.integer value)
  string (content : String) : P (.string content)
  boolean (value : Bool) : P (.boolean value)
  array (elements : List Expr) : (∀ element ∈ elements, P element) → P (.array elements)
  hash (pairs : List (Expr × Expr)) : (∀ pair ∈ pairs, P pair.1 ∧ P pair.2) → P (.hash pairs)
  unary (operator : UnaryOperator) (operand : Expr) : P operand → P (.unary operator operand)
  binary (operator : BinaryOperator) (left right : Expr) :
    P left → P right → P (.binary operator left right)
  conditional (condition : Expr) (consequence : Block) (alternative : Option Block) :
    P condition → (∀ statement ∈ consequence, Q statement) →
      (∀ block ∈ alternative, ∀ statement ∈ block, Q statement) →
        P (.conditional condition consequence alternative)
  function (parameters : List String) (body : Block) :
    (∀ statement ∈ body, Q statement) → P (.function parameters body)
  call (callee : Expr) (arguments : List Expr) :
    P callee → (∀ argument ∈ arguments, P argument) → P (.call callee arguments)
  index (collection position : Expr) : P collection → P position → P (.index collection position)
  binding (name : String) (value : Expr) : P value → Q (.binding name value)
  leaving (value : Expr) : P value → Q (.leaving value)
  expression (value : Expr) : P value → Q (.expression value)

namespace Hereditary

variable {P : Expr → Prop} {Q : Stmt → Prop}

/-- What passes from the parts to the tree holds of every expression. -/
theorem everyExpr (step : Hereditary P Q) (expression : Expr) : P expression := by
  refine @Expr.rec P Q (fun elements => ∀ element ∈ elements, P element)
    (fun pairs => ∀ pair ∈ pairs, P pair.1 ∧ P pair.2)
    (fun block => ∀ statement ∈ block, Q statement)
    (fun alternative => ∀ block ∈ alternative, ∀ statement ∈ block, Q statement)
    (fun pair => P pair.1 ∧ P pair.2) step.identifier step.integer step.string step.boolean
    step.array step.hash step.unary step.binary step.conditional step.function step.call step.index
    step.binding step.leaving step.expression ?_ ?_ ?_ ?_ ?_ ?_ ?_ ?_ ?_ expression
  · intro element member
    cases member
  · intro first rest holds others
    exact List.forall_mem_cons.mpr ⟨holds, others⟩
  · intro pair member
    cases member
  · intro first rest holds others
    exact List.forall_mem_cons.mpr ⟨holds, others⟩
  · intro statement member
    cases member
  · intro first rest holds others
    exact List.forall_mem_cons.mpr ⟨holds, others⟩
  · intro block member
    cases member
  · intro block holds other member
    cases member
    exact holds
  · intro key value keyHolds valueHolds
    exact ⟨keyHolds, valueHolds⟩

/-- And of every statement. -/
theorem everyStmt (step : Hereditary P Q) (statement : Stmt) : Q statement := by
  cases statement with
  | binding name value => exact step.binding name value (step.everyExpr value)
  | leaving value => exact step.leaving value (step.everyExpr value)
  | expression value => exact step.expression value (step.everyExpr value)

end Hereditary

/-- Everything passes the test that everything passes. -/
theorem hereditary_all_true :
    Hereditary (fun expression => expression.all (fun _ => true) (fun _ => true))
      (fun statement => statement.all (fun _ => true) (fun _ => true)) where
  identifier _ := rfl
  integer _ := rfl
  string _ := rfl
  boolean _ := rfl
  array _ elements := Expr.all_array.mpr ⟨rfl, elements⟩
  hash _ pairs := Expr.all_hash.mpr ⟨rfl, pairs⟩
  unary _ _ operand := Expr.all_unary.mpr ⟨rfl, operand⟩
  binary _ _ _ left right := Expr.all_binary.mpr ⟨rfl, left, right⟩
  conditional _ _ _ condition consequence alternative :=
    Expr.all_conditional.mpr ⟨rfl, condition, consequence, alternative⟩
  function _ _ body := Expr.all_function.mpr ⟨rfl, body⟩
  call _ _ callee arguments := Expr.all_call.mpr ⟨rfl, callee, arguments⟩
  index _ _ collection position := Expr.all_index.mpr ⟨rfl, collection, position⟩
  binding _ _ value := Stmt.all_binding.mpr ⟨rfl, value⟩
  leaving _ value := Stmt.all_leaving.mpr ⟨rfl, value⟩
  expression _ value := Stmt.all_expression.mpr ⟨rfl, value⟩

end Ember
