import Ember.Proofs.Syntax.Spelling

/-!
# Trees that printing keeps

The grammar asks for parentheses around the condition of an `if`, and the printer
writes none. So the printed form stands for its tree if conditions are printed in
parentheses of their own, as operations and index expressions are, and calls and
literals are not. From the tokens of such a form the grammar derives the tree.
-/

namespace Ember

open Grammar (Tier Item Derives)

namespace Expr

/-- Whether an expression is printed in parentheses: prefix operations, infix
operations and index expressions are. -/
def isParenthesised : Expr → Bool
  | .unary _ _ | .binary _ _ _ | .index _ _ => true
  | _ => false

/-- Whether an expression is no conditional, or one whose condition is printed in
parentheses. -/
def hasParenthesisedCondition : Expr → Bool
  | .conditional condition _ _ => condition.isParenthesised
  | _ => true

/-- Whether all conditions that occur in an expression are printed in parentheses. -/
abbrev faithful (expression : Expr) : Bool :=
  expression.all hasParenthesisedCondition fun _ => true

/-- The kinds of an expression without the parentheses around it. -/
def inner : Expr → List TokenKind
  | .unary operator operand => .symbol operator.symbol :: operand.kinds
  | .binary operator left right => left.kinds ++ .symbol operator.symbol :: right.kinds
  | .index collection position =>
    collection.kinds ++ .symbol .leftBracket :: (position.kinds ++ [.symbol .rightBracket])
  | expression => expression.kinds

theorem kinds_eq_inParens {expression : Expr} (parenthesised : expression.isParenthesised) :
    expression.kinds = inParens expression.inner := by
  cases expression with
  | unary | binary | index => rfl
  | identifier | integer | string | boolean | array | hash | conditional | function | call =>
      cases parenthesised

end Expr

/-- Whether all conditions that occur in a statement are printed in parentheses. -/
abbrev Stmt.faithful (statement : Stmt) : Bool :=
  statement.all Expr.hasParenthesisedCondition fun _ => true

/-- Whether all conditions that occur in a program are printed in parentheses. -/
def Program.faithful (program : Program) : Bool :=
  program.all Stmt.faithful

/-- The grammar derives an expression from its printed form, also without the
parentheses around it where nothing stands beside it. -/
structure Expr.Derived (expression : Expr) : Prop where
  whole : Derives (.expression .suffixed) expression.kinds expression
  inner : expression.isParenthesised → Derives (.expression .equality) expression.inner expression

/-- The grammar derives a statement from its printed form without the semicolon. -/
def Stmt.Derived (statement : Stmt) : Prop :=
  ∃ kinds, statement.kinds = kinds ++ [.symbol .semicolon] ∧ Derives .statement kinds statement

namespace Expr.Derived

theorem plain {expression : Expr} {tier : Tier}
    (derivation : Derives (.expression tier) expression.kinds expression)
    (tight : Tier.suffixed.rank ≤ tier.rank) (bare : expression.isParenthesised = false) :
    expression.Derived := by
  constructor
  · exact derivation.looser tight
  · intro parenthesised
    cases bare.symm.trans parenthesised

theorem parenthesised {expression : Expr} {tier : Tier}
    (derivation : Derives (.expression tier) expression.inner expression)
    (parenthesised : expression.isParenthesised) : expression.Derived := by
  have inside : Derives (.expression .equality) expression.inner expression :=
    derivation.looser (Nat.zero_le _)
  constructor
  · rw [kinds_eq_inParens parenthesised]
    exact (Derives.grouped inside).looser (by decide)
  · intro _
    exact inside

/-- A derived expression stands on every tier of the operators. -/
theorem onTier {expression : Expr} (derived : expression.Derived) {tier : Tier}
    (loose : tier.rank ≤ Tier.suffixed.rank) :
    Derives (.expression tier) expression.kinds expression :=
  derived.whole.looser loose

end Expr.Derived

/-- Items with commas between them are a list. -/
theorem derives_listed_map {α β : Type} {sort : Item β} {spelling : α → List TokenKind}
    {tree : α → β} {items : List α}
    (each : ∀ item ∈ items, Derives (.item sort) (spelling item) (tree item)) :
    Derives (.list sort) (listed (items.map spelling)) (items.map tree) := by
  induction items with
  | nil => exact .noItems
  | cons item rest ih =>
      rw [List.forall_mem_cons] at each
      cases rest with
      | nil => exact .lastItem each.1
      | cons next others => exact .moreItems each.1 (ih each.2)

theorem derives_listed {α : Type} {sort : Item α} {spelling : α → List TokenKind} {items : List α}
    (each : ∀ item ∈ items, Derives (.item sort) (spelling item) item) :
    Derives (.list sort) (listed (items.map spelling)) items := by
  have whole := derives_listed_map each
  rwa [List.map_id'] at whole

theorem derives_names (names : List String) :
    Derives (.list .name) (listed (names.map fun name => [.identifier name])) names :=
  derives_listed fun name _ => .listedName name

theorem derives_expressions {expressions : List Expr}
    (each : ∀ expression ∈ expressions, expression.Derived) :
    Derives (.list .expression) (listed (Expr.kindsEach expressions)) expressions := by
  rw [Expr.kindsEach_eq_map]
  apply derives_listed
  intro expression member
  exact .listedExpression ((each expression member).onTier (by decide))

/-- Statements with their semicolons stand behind each other. -/
theorem derives_flatten {statements : List Stmt}
    (each : ∀ statement ∈ statements, statement.Derived) :
    Derives .statements (statements.map Stmt.kinds).flatten statements := by
  induction statements with
  | nil => exact .noStatements
  | cons statement rest ih =>
      rw [List.forall_mem_cons] at each
      rcases each.1 with ⟨kinds, split, derivation⟩
      rw [List.map_cons, List.flatten_cons, split, List.append_assoc]
      exact .moreStatements derivation (ih each.2)

theorem derives_blockKinds {statements : List Stmt}
    (each : ∀ statement ∈ statements, statement.Derived) :
    Derives .block (blockKinds (statements.map Stmt.kinds)) statements :=
  .block (derives_flatten each)

/-- The grammar derives a tree from its printed form if all conditions in it are
printed in parentheses. -/
theorem derived_of_faithful :
    Hereditary
      (fun expression => expression.writable → expression.faithful → expression.Derived)
      (fun statement => statement.writable → statement.faithful → statement.Derived) where
  identifier name _ _ := by
    exact .plain (.identifier name) (by decide) rfl
  integer value writable _ := by
    have readBack := Integer.ofDigits?_render (of_decide_eq_true writable)
    exact .plain (.integer (Integer.ofDigits?_eq_some_iff.mp readBack)) (by decide) rfl
  string content _ _ := by
    exact .plain (.string content) (by decide) rfl
  boolean value _ _ := by
    cases value with
    | true => exact .plain .trueWord (by decide) rfl
    | false => exact .plain .falseWord (by decide) rfl
  array elements ih writable faithful := by
    rw [Expr.all_array] at writable faithful
    have inside := derives_expressions fun element member =>
      ih element member (writable.2 element member) (faithful.2 element member)
    exact .plain (.array inside) (by decide) rfl
  hash pairs ih writable faithful := by
    rw [Expr.all_hash] at writable faithful
    have inside : Derives (.list .pair)
        (listed (pairs.map fun pair => pair.1.kinds ++ .symbol .colon :: pair.2.kinds)) pairs := by
      apply derives_listed
      intro pair member
      have key := (ih pair member).1 (writable.2 pair member).1 (faithful.2 pair member).1
      have value := (ih pair member).2 (writable.2 pair member).2 (faithful.2 pair member).2
      exact .listedPair (key.onTier (by decide)) (value.onTier (by decide))
    rw [← Expr.kindsPairs_eq_map] at inside
    exact .plain (.hash inside) (by decide) rfl
  unary operator operand ih writable faithful := by
    rw [Expr.all_unary] at writable faithful
    have derived := ih writable.2 faithful.2
    exact .parenthesised (.unary operator (derived.onTier (by decide))) rfl
  binary operator left right leftIH rightIH writable faithful := by
    rw [Expr.all_binary] at writable faithful
    have leftDerived := leftIH writable.2.1 faithful.2.1
    have rightDerived := rightIH writable.2.2 faithful.2.2
    exact .parenthesised (.binary operator (leftDerived.onTier (by cases operator <;> decide))
      (rightDerived.onTier (by cases operator <;> decide))) rfl
  conditional condition consequence alternative conditionIH consequenceIH alternativeIH writable
      faithful := by
    rw [Expr.all_conditional] at writable faithful
    rcases writable with ⟨-, conditionWritable, consequenceWritable, alternativeWritable⟩
    rcases faithful with ⟨parenthesised, conditionFaithful, consequenceFaithful,
      alternativeFaithful⟩
    have chosen := (conditionIH conditionWritable conditionFaithful).inner parenthesised
    have block := derives_blockKinds fun statement member => consequenceIH statement member
      (consequenceWritable statement member) (consequenceFaithful statement member)
    -- The parentheses of the condition are the ones that the grammar asks for.
    have spelled : condition.kinds = inParens condition.inner :=
      Expr.kinds_eq_inParens parenthesised
    cases alternative with
    | none =>
        have whole : Derives (.expression .primary)
            (Expr.conditional condition consequence none).kinds
            (.conditional condition consequence none) := by
          simpa [Expr.kinds, Stmt.kindsAlternative, spelled, inParens] using
            Derives.conditional chosen block
        exact .plain whole (by decide) rfl
    | some other =>
        have elseBlock := derives_blockKinds fun statement member =>
          alternativeIH other rfl statement member (alternativeWritable other rfl statement member)
            (alternativeFaithful other rfl statement member)
        have whole : Derives (.expression .primary)
            (Expr.conditional condition consequence (some other)).kinds
            (.conditional condition consequence (some other)) := by
          simpa [Expr.kinds, Stmt.kindsAlternative, spelled, inParens] using
            Derives.conditionalElse chosen block elseBlock
        exact .plain whole (by decide) rfl
  function parameters body ih writable faithful := by
    rw [Expr.all_function] at writable faithful
    have block := derives_blockKinds fun statement member =>
      ih statement member (writable.2 statement member) (faithful.2 statement member)
    have whole : Derives (.expression .primary) (Expr.function parameters body).kinds
        (.function parameters body) := by
      simpa [Expr.kinds, inParens] using Derives.function (derives_names parameters) block
    exact .plain whole (by decide) rfl
  call callee arguments calleeIH argumentsIH writable faithful := by
    rw [Expr.all_call] at writable faithful
    have calleeDerived := calleeIH writable.2.1 faithful.2.1
    have inside := derives_expressions fun argument member =>
      argumentsIH argument member (writable.2.2 argument member) (faithful.2.2 argument member)
    exact .plain (.call calleeDerived.whole inside) (by decide) rfl
  index collection position collectionIH positionIH writable faithful := by
    rw [Expr.all_index] at writable faithful
    have collectionDerived := collectionIH writable.2.1 faithful.2.1
    have positionDerived := positionIH writable.2.2 faithful.2.2
    exact .parenthesised (.index collectionDerived.whole (positionDerived.onTier (by decide))) rfl
  binding name value ih writable faithful := by
    rw [Stmt.all_binding] at writable faithful
    have derived := ih writable.2 faithful.2
    exact ⟨_, rfl, .binding name (derived.onTier (by decide))⟩
  leaving value ih writable faithful := by
    rw [Stmt.all_leaving] at writable faithful
    have derived := ih writable.2 faithful.2
    exact ⟨_, rfl, .leaving (derived.onTier (by decide))⟩
  expression value ih writable faithful := by
    rw [Stmt.all_expression] at writable faithful
    have derived := ih writable.2 faithful.2
    exact ⟨_, rfl, .expression (derived.onTier (by decide))⟩

end Ember
