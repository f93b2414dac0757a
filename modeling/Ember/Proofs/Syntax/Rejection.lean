import Ember.Proofs.Grammar.Completeness
import Ember.Proofs.Syntax.Faithful

/-!
# Printed trees that the parser rejects

A condition that is printed without parentheses is an error, and no parser can
leave an error behind: wherever such a condition stands in a tree, all that was
printed before it is read, and then parsing fails.
-/

namespace Ember

open Grammar (Tier Item Derives)
open Parser (Reaches Takes Fails expression behindOpening)

namespace Parser

/-- The parser fails wherever tokens of these kinds come first. -/
def FailsOn {α : Type} (parser : Parser α) (kinds : List TokenKind) : Prop :=
  ∀ ⦃tokens : List Token⦄ (rest : List Token) (openBraces : Nat),
    tokens.map Token.kind = kinds → Fails parser ⟨tokens ++ rest, openBraces⟩

end Parser

open Parser (FailsOn)

namespace Parser.FailsOn

variable {α β : Type} {kinds others : List TokenKind} {minimum : Precedence}

/-- What comes behind makes no difference. -/
theorem append {parser : Parser α} (failing : FailsOn parser kinds) (others : List TokenKind) :
    FailsOn parser (kinds ++ others) := by
  intro tokens rest openBraces spelled
  rcases List.map_eq_append_iff.mp spelled with ⟨first, more, rfl, firstSpelled, -⟩
  rw [List.append_assoc]
  exact failing (more ++ rest) openBraces firstSpelled

theorem bind {parser : Parser α} (failing : FailsOn parser kinds) (next : α → Parser β) :
    FailsOn (parser >>= next) kinds := by
  intro tokens rest openBraces spelled
  exact (failing rest openBraces spelled).bind next

/-- Behind an expected token. -/
theorem expect {next : Unit → Parser α} (failing : FailsOn (next ()) kinds) (kind : TokenKind) :
    FailsOn (Parser.expect kind >>= next) (kind :: kinds) := by
  intro tokens rest openBraces spelled
  rcases List.map_eq_cons_iff.mp spelled with ⟨token, more, rfl, fits, moreSpelled⟩
  exact (Reaches.expect fits (more ++ rest) openBraces next).fails
    (failing rest openBraces moreSpelled)

/-- Another token than the expected one. -/
theorem mismatch {kind first : TokenKind} (differs : first ≠ kind) (next : Unit → Parser α) :
    FailsOn (Parser.expect kind >>= next) (first :: kinds) := by
  intro tokens rest openBraces spelled
  rcases List.map_eq_cons_iff.mp spelled with ⟨token, more, rfl, rfl, -⟩
  apply Fails.expect
  exact differs

/-- The first token is looked at before anything is taken. -/
theorem look {first : TokenKind} {next : Token → Parser α}
    (failing : ∀ token : Token, token.kind = first → FailsOn (next token) (first :: kinds)) :
    FailsOn (peek >>= next) (first :: kinds) := by
  intro tokens rest openBraces spelled
  rcases List.map_eq_cons_iff.mp spelled with ⟨token, more, rfl, fits, -⟩
  apply (Reaches.look next _).fails
  exact failing token fits rest openBraces spelled

/-- Behind a name. -/
theorem behindName {found : String} {next : String → Parser α}
    (failing : FailsOn (next found) kinds) :
    FailsOn (Parser.name >>= next) (.identifier found :: kinds) := by
  intro tokens rest openBraces spelled
  rcases List.map_eq_cons_iff.mp spelled with ⟨token, more, rfl, fits, moreSpelled⟩
  apply ((takes_name fits (more ++ rest) openBraces).reaches next).fails
  exact failing rest openBraces moreSpelled

/-- Behind a token that opens an operand. -/
theorem opening {kind : TokenKind} {behind : Parser Expr} (failing : FailsOn behind kinds)
    (opens : behindOpening expression kind = some behind) :
    FailsOn (expression minimum) (kind :: kinds) := by
  intro tokens rest openBraces spelled
  rcases List.map_eq_cons_iff.mp spelled with ⟨token, more, rfl, rfl, moreSpelled⟩
  rw [expression_eq]
  apply Fails.bind
  exact (reaches_opening opens (more ++ rest) openBraces).fails
    (failing rest openBraces moreSpelled)

/-- Behind a derived expression and a token that does not extend it. -/
theorem behind {tier : Tier} {first : TokenKind} {tree : Expr} {next : Expr → Parser α}
    (failing : FailsOn (next tree) (first :: others))
    (derivation : Derives (.expression tier) kinds tree) (low : minimum ≤ tier.floor)
    (stops : first.precedence ≤ minimum ∧ first ≠ .keyword .elseWord) :
    FailsOn (expression minimum >>= next) (kinds ++ first :: others) := by
  intro tokens rest openBraces spelled
  rcases List.map_eq_append_iff.mp spelled with ⟨taken, more, rfl, takenSpelled, moreSpelled⟩
  rcases List.map_eq_cons_iff.mp moreSpelled with ⟨token, last, rfl, fits, -⟩
  have run : Takes (expression minimum) ⟨taken ++ (token :: last ++ rest), openBraces⟩ taken tree
      ⟨token :: last ++ rest, openBraces⟩ :=
    derivation.reads.taken low takenSpelled (Stops.cons fits stops _)
  rw [List.append_assoc]
  exact (run.reaches next).fails (failing rest openBraces moreSpelled)

/-- Behind a derived expression and a token that extends it. -/
theorem continued (next : Continuation) {left : Expr}
    (failing : FailsOn (continuation expression left next) others)
    (derivation : Derives (.expression next.tier) kinds left) (low : minimum ≤ next.tier.floor) :
    FailsOn (expression minimum) (kinds ++ .symbol next.symbol :: others) := by
  intro tokens rest openBraces spelled
  rcases Token.exists_split_at spelled with
    ⟨taken, mark, more, rfl, takenSpelled, fits, moreSpelled⟩
  have announced : Continuation.ofKind? mark.kind = some next := by
    rw [fits, Continuation.ofKind?_symbol]
  have operand := derivation.reads minimum openBraces low takenSpelled
    (Stops.continuation fits (more ++ rest))
  rw [List.append_assoc]
  apply operand.fails
  apply (reaches_continuation announced (Continuation.not_le_of_le_floor low)).fails
  exact (failing rest openBraces moreSpelled).bind _

/-- Behind a derived block. -/
theorem behindBlock {block : Block} {next : Block → Parser α}
    (failing : FailsOn (next block) others) (derivation : Derives .block kinds block) :
    FailsOn (Parser.block expression >>= next) (kinds ++ others) := by
  intro tokens rest openBraces spelled
  rcases List.map_eq_append_iff.mp spelled with ⟨taken, more, rfl, takenSpelled, moreSpelled⟩
  rw [List.append_assoc]
  apply ((derivation.reads (more ++ rest) openBraces takenSpelled).reaches next).fails
  exact failing rest openBraces moreSpelled

/-- Behind a derived list of names and its parenthesis. -/
theorem behindNames {names : List String} {next : List String → Parser α}
    (failing : FailsOn (next names) others) (derivation : Derives (.list .name) kinds names) :
    FailsOn (Parser.sequence Parser.name (.symbol .comma) (.symbol .rightParen) >>= next)
      (kinds ++ .symbol .rightParen :: others) := by
  intro tokens rest openBraces spelled
  rcases Token.exists_split_at spelled with
    ⟨taken, closing, more, rfl, takenSpelled, kind, moreSpelled⟩
  rw [List.append_assoc]
  have run := derivation.reads (more ++ rest) openBraces takenSpelled kind (by simp)
  apply (run.reaches next).fails
  exact failing rest openBraces moreSpelled

/-- An `else` branch fails with its block. -/
theorem alternative (failing : FailsOn (Parser.block expression) kinds) :
    FailsOn (Parser.alternative expression) (.keyword .elseWord :: kinds) := by
  rw [alternative_eq]
  apply FailsOn.look
  intro token kind
  rw [if_pos kind]
  exact FailsOn.expect (failing.bind _) _

section Sequence

variable {element : Parser α} {separator terminator : TokenKind}

/-- A sequence fails with its first element. -/
theorem sequence (failing : FailsOn element kinds)
    (begins : ∃ first others, kinds = first :: others ∧ first.beginsStatement)
    (properSeparator : separator ≠ .endOfInput) (properTerminator : terminator ≠ .endOfInput)
    (closes : terminator.beginsStatement = false) :
    FailsOn (Parser.sequence element separator terminator) kinds := by
  intro tokens rest openBraces spelled
  rcases Reads.goesOn begins spelled closes rest with ⟨differs, -⟩
  exact Fails.sequence properSeparator properTerminator differs (failing rest openBraces spelled)

/-- A sequence fails with what stands behind its first element. -/
theorem sequenceMore {value : α}
    (failing : FailsOn (Parser.sequence element separator terminator) others)
    (taken : ∀ {tokens rest : List Token} (openBraces : Nat), tokens.map Token.kind = kinds →
      (Token.next rest).kind = separator →
        Takes element ⟨tokens ++ rest, openBraces⟩ tokens value ⟨rest, openBraces⟩)
    (begins : ∃ first others, kinds = first :: others ∧ first.beginsStatement)
    (properSeparator : separator ≠ .endOfInput) (properTerminator : terminator ≠ .endOfInput)
    (closes : terminator.beginsStatement = false) :
    FailsOn (Parser.sequence element separator terminator) (kinds ++ separator :: others) := by
  intro tokens rest openBraces spelled
  rcases Token.exists_split_at spelled with
    ⟨first, mark, more, rfl, firstSpelled, kind, moreSpelled⟩
  rcases Reads.goesOn begins firstSpelled closes (mark :: (more ++ rest)) with ⟨differs, inside⟩
  have run : Takes element ⟨first ++ mark :: (more ++ rest), openBraces⟩ first value
      ⟨mark :: (more ++ rest), openBraces⟩ :=
    taken openBraces firstSpelled kind
  rw [List.append_assoc]
  apply (reaches_sequence_more properSeparator properTerminator differs inside run kind).fails
  exact (failing rest openBraces moreSpelled).bind _

end Sequence

/-- A list in which not all items are good, if the good ones are derived and the
others fail. -/
theorem listed {good : α → Prop} {spelling : α → List TokenKind} {items : List α} {sort : Item α}
    {terminator : TokenKind}
    (derived : ∀ item ∈ items, good item → Derives (.item sort) (spelling item) item)
    (failing : ∀ item ∈ items, ¬ good item → FailsOn sort.parser (spelling item))
    (begins : ∀ item ∈ items,
      ∃ first others, spelling item = first :: others ∧ first.beginsStatement)
    (bad : ¬ ∀ item ∈ items, good item)
    (among : terminator ∈ [.symbol .rightParen, .symbol .rightBracket, .symbol .rightBrace]) :
    FailsOn (Parser.sequence sort.parser (.symbol .comma) terminator)
      (Ember.listed (items.map spelling)) := by
  rcases Reads.terminator_cases among with ⟨proper, -, closes, -⟩
  induction items with
  | nil =>
      exfalso
      apply bad
      intro item member
      cases member
  | cons item rest ih =>
      rw [List.forall_mem_cons] at derived failing begins
      rw [List.forall_mem_cons] at bad
      by_cases fit : good item
      · have remaining : ¬ ∀ item ∈ rest, good item := by
          intro all
          exact bad ⟨fit, all⟩
        cases rest with
        | nil =>
            exfalso
            apply remaining
            intro item member
            cases member
        | cons next others =>
            have later := ih derived.2 failing.2 begins.2 remaining
            apply later.sequenceMore _ begins.1 (by simp) proper closes
            · exact item
            · intro tokens after openBraces spelled follows
              apply (derived.1 fit).reads openBraces spelled
              rw [Stops, follows]
              decide
      · have first : FailsOn (Parser.sequence sort.parser (.symbol .comma) terminator)
            (spelling item) :=
          (failing.1 fit).sequence begins.1 (by simp) proper closes
        cases rest with
        | nil => exact first
        | cons next others => exact first.append _

theorem braced {element : Parser α} {separator : TokenKind}
    (failing : FailsOn (Parser.sequence element separator (.symbol .rightBrace)) kinds) :
    FailsOn (Parser.braced element separator) kinds := by
  intro tokens rest openBraces spelled
  exact Fails.braced (failing rest (openBraces + 1) spelled)

end Parser.FailsOn

theorem Expr.begins_kinds (tree : Expr) :
    ∃ first others, tree.kinds = first :: others ∧ first.beginsStatement := by
  rcases Ember.begins_kinds.everyExpr tree with ⟨first, others, split, begins⟩
  exact ⟨first, others, split, TokenKind.beginsStatement_of_beginsExpression begins⟩

theorem Stmt.begins_kinds (statement : Stmt) :
    ∃ first others, statement.kinds = first :: others ∧ first.beginsStatement := by
  cases statement with
  | binding name value => exact ⟨_, _, rfl, rfl⟩
  | leaving value => exact ⟨_, _, rfl, rfl⟩
  | expression value =>
      rcases value.begins_kinds with ⟨first, others, split, begins⟩
      refine ⟨first, others ++ [.symbol .semicolon], ?_, begins⟩
      rw [Stmt.kinds, split, List.cons_append]

/-- A block in which not all statements are faithful. -/
theorem Parser.FailsOn.blockKinds {statements : List Stmt}
    (derived : ∀ statement ∈ statements, statement.faithful → statement.Derived)
    (failing : ∀ statement ∈ statements, ¬ statement.faithful →
      FailsOn Parser.statement statement.kinds)
    (bad : ¬ ∀ statement ∈ statements, statement.faithful) :
    FailsOn (Parser.block expression) (Ember.blockKinds (statements.map Stmt.kinds)) := by
  apply FailsOn.expect
  apply FailsOn.append
  apply FailsOn.braced
  change FailsOn (Parser.sequence Parser.statement (.symbol .semicolon) (.symbol .rightBrace)) _
  induction statements with
  | nil =>
      exfalso
      apply bad
      intro statement member
      cases member
  | cons statement rest ih =>
      rw [List.forall_mem_cons] at derived failing bad
      rw [List.map_cons, List.flatten_cons]
      by_cases fit : statement.faithful
      · have later := ih derived.2 failing.2 fun all => bad ⟨fit, all⟩
        rcases derived.1 fit with ⟨kinds, split, derivation⟩
        rw [split, List.append_assoc]
        exact later.sequenceMore derivation.reads (derivation.beginsStatement rfl) (by simp)
          (by simp) rfl
      · apply FailsOn.append
        exact (failing.1 fit).sequence statement.begins_kinds (by simp) (by simp) rfl

/-- What the parser makes of a printed expression. It fails if the expression is not
faithful, and it fails to take the expression for the condition of an `if` if it is
not faithful or has no parentheses. -/
structure Expr.Checked (tree : Expr) : Prop where
  operand : ¬ tree.faithful → ∀ minimum, minimum ≤ .unary → FailsOn (expression minimum) tree.kinds
  condition : ¬ (tree.faithful ∧ tree.isParenthesised) →
    FailsOn (Parser.conditional expression) tree.kinds

namespace Expr.Checked

/-- An expression that begins with a token of its own. -/
theorem plain {tree : Expr} {first : TokenKind} {others : List TokenKind}
    (split : tree.kinds = first :: others) (differs : first ≠ .symbol .leftParen)
    (failing : ¬ tree.faithful → ∀ minimum, FailsOn (expression minimum) tree.kinds) :
    tree.Checked := by
  constructor
  · intro bad minimum _
    exact failing bad minimum
  · intro _
    rw [split]
    exact FailsOn.mismatch differs _

/-- An expression that is printed in parentheses. -/
theorem parenthesised {tree : Expr} (parenthesised : tree.isParenthesised)
    (failing : ¬ tree.faithful → FailsOn (expression .lowest) tree.inner) : tree.Checked := by
  have spelled : tree.kinds = inParens tree.inner := kinds_eq_inParens parenthesised
  constructor
  · intro bad minimum _
    rw [spelled]
    exact (((failing bad).append _).bind _).opening rfl
  · intro bad
    have unfaithful : ¬ tree.faithful := fun faithful => bad ⟨faithful, parenthesised⟩
    rw [spelled]
    exact FailsOn.expect (((failing unfaithful).append _).bind _) _

/-- A call fails with its callee or its arguments. As a condition it fails in any
case: its first parentheses may be those of the callee, but then the parentheses of
the arguments stand where the block should be. -/
theorem call {callee : Expr} {arguments : List Expr} (calleeChecked : callee.Checked)
    (calleeDerived : callee.faithful → callee.Derived)
    (failing : ¬ (∀ argument ∈ arguments, argument.faithful) →
      FailsOn (Parser.sequence (expression .lowest) (.symbol .comma) (.symbol .rightParen))
        (listed (arguments.map Expr.kinds))) :
    (Expr.call callee arguments).Checked := by
  constructor
  · intro bad minimum low
    rw [all_call] at bad
    rw [kinds, kindsEach_eq_map]
    by_cases faithful : callee.faithful
    · have unfaithful : ¬ ∀ argument ∈ arguments, argument.faithful := by
        intro all
        exact bad ⟨rfl, faithful, all⟩
      exact (((failing unfaithful).append _).bind _).continued .call (calleeDerived faithful).whole
        low
    · exact (calleeChecked.operand faithful minimum low).append _
  · intro _
    rw [kinds]
    by_cases fits : callee.faithful ∧ callee.isParenthesised
    · have inside := (calleeDerived fits.1).inner fits.2
      rw [kinds_eq_inParens fits.2, inParens, List.cons_append, List.append_assoc]
      apply FailsOn.expect
      apply FailsOn.behind _ inside (by decide) (by decide)
      apply FailsOn.expect
      exact (FailsOn.mismatch (by simp) _).bind _
    · exact (calleeChecked.condition fits).append _

/-- Expressions with commas between them, not all of them faithful. -/
theorem listed {items : List Expr} {terminator : TokenKind}
    (derived : ∀ item ∈ items, item.faithful → item.Derived)
    (checked : ∀ item ∈ items, item.Checked) (bad : ¬ ∀ item ∈ items, item.faithful)
    (among : terminator ∈ [.symbol .rightParen, .symbol .rightBracket, .symbol .rightBrace]) :
    FailsOn (Parser.sequence (expression .lowest) (.symbol .comma) terminator)
      (Ember.listed (items.map Expr.kinds)) := by
  have fails : FailsOn (Parser.sequence (Item.parser .expression) (.symbol .comma) terminator)
      (Ember.listed (items.map Expr.kinds)) := by
    apply FailsOn.listed _ _ _ bad among
    · intro item member faithful
      exact .listedExpression ((derived item member faithful).onTier (by decide))
    · intro item member unfaithful
      exact (checked item member).operand unfaithful .lowest (by decide)
    · intro item _
      exact item.begins_kinds
  exact fails

/-- A key and a value, not both of them faithful. -/
theorem pair {key value : Expr} (keyDerived : key.faithful → key.Derived)
    (keyChecked : key.Checked) (valueChecked : value.Checked)
    (bad : ¬ (key.faithful ∧ value.faithful)) :
    FailsOn (Parser.pair expression) (key.kinds ++ .symbol .colon :: value.kinds) := by
  by_cases faithful : key.faithful
  · have unfaithful : ¬ value.faithful := fun other => bad ⟨faithful, other⟩
    have valueFails := valueChecked.operand unfaithful .lowest (by decide)
    exact (FailsOn.expect (valueFails.bind _) _).behind ((keyDerived faithful).onTier (by decide))
      (show Precedence.lowest ≤ Tier.equality.floor by decide) (by decide)
  · exact ((keyChecked.operand faithful .lowest (by decide)).append _).bind _

/-- A conditional fails with its condition, a block or the `else` branch. -/
theorem conditional {condition : Expr} {consequence : Block} {alternative : Option Block}
    (conditionDerived : condition.faithful → condition.Derived)
    (conditionChecked : condition.Checked)
    (consequenceDerived : ∀ statement ∈ consequence, statement.faithful → statement.Derived)
    (consequenceFails : ¬ (∀ statement ∈ consequence, statement.faithful) →
      FailsOn (Parser.block expression) (blockKinds (consequence.map Stmt.kinds)))
    (alternativeFails : ∀ block ∈ alternative, ¬ (∀ statement ∈ block, statement.faithful) →
      FailsOn (Parser.block expression) (blockKinds (block.map Stmt.kinds))) :
    (Expr.conditional condition consequence alternative).Checked := by
  apply plain rfl (by simp)
  intro bad minimum
  rw [all_conditional] at bad
  rw [kinds, Stmt.kindsEach_eq_map]
  apply FailsOn.opening _ rfl
  by_cases fits : condition.faithful ∧ condition.isParenthesised
  · have inside := (conditionDerived fits.1).inner fits.2
    rw [kinds_eq_inParens fits.2, inParens, List.cons_append, List.append_assoc]
    apply FailsOn.expect
    apply FailsOn.behind _ inside (by decide) (by decide)
    apply FailsOn.expect
    by_cases faithful : ∀ statement ∈ consequence, statement.faithful
    · have block := derives_blockKinds fun statement member =>
        consequenceDerived statement member (faithful statement member)
      apply FailsOn.behindBlock _ block
      apply FailsOn.bind
      cases alternative with
      | none =>
          exfalso
          apply bad
          refine ⟨fits.2, fits.1, faithful, ?_⟩
          intro block member
          cases member
      | some other =>
          have unfaithful : ¬ ∀ statement ∈ other, statement.faithful := by
            intro all
            apply bad
            refine ⟨fits.2, fits.1, faithful, ?_⟩
            intro block member
            cases member
            exact all
          rw [Stmt.kindsAlternative, Stmt.kindsEach_eq_map]
          exact (alternativeFails other rfl unfaithful).alternative
    · exact ((consequenceFails faithful).append _).bind _
  · exact (conditionChecked.condition fits).append _

end Expr.Checked

/-- The parser fails on the printed form of every tree that is not faithful. -/
theorem checked_of_writable :
    Hereditary (fun tree => tree.writable → tree.Checked)
      (fun statement => statement.writable → ¬ statement.faithful →
        FailsOn Parser.statement statement.kinds) where
  identifier name _ := .plain rfl (by simp) fun bad => absurd rfl bad
  integer value _ := .plain rfl (by simp) fun bad => absurd rfl bad
  string content _ := .plain rfl (by simp) fun bad => absurd rfl bad
  boolean value _ := .plain rfl (by simp) fun bad => absurd rfl bad
  array elements ih writable := by
    rw [Expr.all_array] at writable
    apply Expr.Checked.plain rfl (by simp)
    intro bad minimum
    rw [Expr.all_array] at bad
    rw [Expr.kinds, Expr.kindsEach_eq_map]
    apply FailsOn.opening _ rfl
    apply FailsOn.bind
    apply FailsOn.append
    apply Expr.Checked.listed
    · intro element member
      exact derived_of_faithful.everyExpr element (writable.2 element member)
    · intro element member
      exact ih element member (writable.2 element member)
    · intro all
      exact bad ⟨rfl, all⟩
    · simp
  hash pairs ih writable := by
    rw [Expr.all_hash] at writable
    apply Expr.Checked.plain rfl (by simp)
    intro bad minimum
    rw [Expr.all_hash] at bad
    rw [Expr.kinds, Expr.kindsPairs_eq_map]
    apply FailsOn.opening _ rfl
    apply FailsOn.bind
    apply FailsOn.append
    apply FailsOn.braced
    have unfaithful : ¬ ∀ pair ∈ pairs, pair.1.faithful ∧ pair.2.faithful := by
      intro all
      exact bad ⟨rfl, all⟩
    have fails : FailsOn
        (Parser.sequence (Item.parser .pair) (.symbol .comma) (.symbol .rightBrace))
        (listed (pairs.map fun pair => pair.1.kinds ++ .symbol .colon :: pair.2.kinds)) := by
      apply FailsOn.listed _ _ _ unfaithful (by simp)
      · intro pair member faithful
        have key := derived_of_faithful.everyExpr pair.1 (writable.2 pair member).1 faithful.1
        have value := derived_of_faithful.everyExpr pair.2 (writable.2 pair member).2 faithful.2
        exact .listedPair (key.onTier (by decide)) (value.onTier (by decide))
      · intro pair member unfaithful
        have derived := derived_of_faithful.everyExpr pair.1 (writable.2 pair member).1
        have key := (ih pair member).1 (writable.2 pair member).1
        have value := (ih pair member).2 (writable.2 pair member).2
        exact Expr.Checked.pair derived key value unfaithful
      · intro pair _
        rcases pair.1.begins_kinds with ⟨first, others, split, begins⟩
        exact ⟨first, _, by rw [split, List.cons_append], begins⟩
    exact fails
  unary operator operand ih writable := by
    rw [Expr.all_unary] at writable
    apply Expr.Checked.parenthesised rfl
    intro bad
    rw [Expr.all_unary] at bad
    have unfaithful : ¬ operand.faithful := fun faithful => bad ⟨rfl, faithful⟩
    have fails := ((ih writable.2).operand unfaithful .unary (by decide)).bind fun tree =>
      pure (Expr.unary operator tree)
    exact fails.opening (by cases operator <;> rfl)
  binary operator left right leftIH rightIH writable := by
    rw [Expr.all_binary] at writable
    apply Expr.Checked.parenthesised rfl
    intro bad
    rw [Expr.all_binary] at bad
    by_cases faithful : left.faithful
    · have unfaithful : ¬ right.faithful := fun other => bad ⟨rfl, faithful, other⟩
      have leftDerived := derived_of_faithful.everyExpr left writable.2.1 faithful
      have rightFails := (rightIH writable.2.2).operand unfaithful operator.precedence
        (by cases operator <;> decide)
      exact (rightFails.bind _).continued (.operation operator)
        (leftDerived.onTier (by cases operator <;> decide)) (by cases operator <;> decide)
    · exact ((leftIH writable.2.1).operand faithful .lowest (by decide)).append _
  conditional condition consequence alternative conditionIH consequenceIH alternativeIH
      writable := by
    rw [Expr.all_conditional] at writable
    rcases writable with ⟨-, conditionWritable, consequenceWritable, alternativeWritable⟩
    apply Expr.Checked.conditional
    · exact derived_of_faithful.everyExpr condition conditionWritable
    · exact conditionIH conditionWritable
    · intro statement member
      exact derived_of_faithful.everyStmt statement (consequenceWritable statement member)
    · apply FailsOn.blockKinds
      · intro statement member
        exact derived_of_faithful.everyStmt statement (consequenceWritable statement member)
      · intro statement member
        exact consequenceIH statement member (consequenceWritable statement member)
    · intro block member
      apply FailsOn.blockKinds
      · intro statement inside
        exact derived_of_faithful.everyStmt statement
          (alternativeWritable block member statement inside)
      · intro statement inside
        exact alternativeIH block member statement inside
          (alternativeWritable block member statement inside)
  function parameters body ih writable := by
    rw [Expr.all_function] at writable
    apply Expr.Checked.plain rfl (by simp)
    intro bad minimum
    rw [Expr.all_function] at bad
    rw [Expr.kinds, Stmt.kindsEach_eq_map, inParens, List.cons_append, List.append_assoc]
    apply FailsOn.opening _ rfl
    apply FailsOn.expect
    apply FailsOn.behindNames _ (derives_names parameters)
    apply FailsOn.bind
    apply FailsOn.blockKinds
    · intro statement member
      exact derived_of_faithful.everyStmt statement (writable.2 statement member)
    · intro statement member
      exact ih statement member (writable.2 statement member)
    · intro all
      exact bad ⟨rfl, all⟩
  call callee arguments calleeIH argumentsIH writable := by
    rw [Expr.all_call] at writable
    apply Expr.Checked.call
    · exact calleeIH writable.2.1
    · exact derived_of_faithful.everyExpr callee writable.2.1
    · intro bad
      apply Expr.Checked.listed _ _ bad (by simp)
      · intro argument member
        exact derived_of_faithful.everyExpr argument (writable.2.2 argument member)
      · intro argument member
        exact argumentsIH argument member (writable.2.2 argument member)
  index collection position collectionIH positionIH writable := by
    rw [Expr.all_index] at writable
    apply Expr.Checked.parenthesised rfl
    intro bad
    rw [Expr.all_index] at bad
    by_cases faithful : collection.faithful
    · have unfaithful : ¬ position.faithful := fun other => bad ⟨rfl, faithful, other⟩
      have collectionDerived := derived_of_faithful.everyExpr collection writable.2.1 faithful
      have positionFails := (positionIH writable.2.2).operand unfaithful .lowest (by decide)
      exact ((positionFails.append _).bind _).continued .index collectionDerived.whole (by decide)
    · exact ((collectionIH writable.2.1).operand faithful .lowest (by decide)).append _
  binding name value ih writable bad := by
    rw [Stmt.all_binding] at writable bad
    have unfaithful : ¬ value.faithful := fun faithful => bad ⟨rfl, faithful⟩
    have fails := (ih writable.2).operand unfaithful .lowest (by decide)
    apply FailsOn.look
    intro token kind
    rw [kind]
    apply FailsOn.expect
    apply FailsOn.behindName
    exact FailsOn.expect ((fails.append _).bind _) _
  leaving value ih writable bad := by
    rw [Stmt.all_leaving] at writable bad
    have unfaithful : ¬ value.faithful := fun faithful => bad ⟨rfl, faithful⟩
    have fails := (ih writable.2).operand unfaithful .lowest (by decide)
    apply FailsOn.look
    intro token kind
    rw [kind]
    exact FailsOn.expect ((fails.append _).bind _) _
  expression value ih writable bad := by
    rw [Stmt.all_expression] at writable bad
    have unfaithful : ¬ value.faithful := fun faithful => bad ⟨rfl, faithful⟩
    have fails := (ih writable.2).operand unfaithful .lowest (by decide)
    rcases begins_kinds.everyExpr value with ⟨first, others, split, begins⟩
    rw [split] at fails
    rw [Stmt.kinds, split]
    apply FailsOn.look
    intro token kind
    -- A token that begins an expression is not `let` or `return`.
    split
    · next isLet => simp [← kind, isLet, TokenKind.beginsExpression] at begins
    · next isReturn => simp [← kind, isReturn, TokenKind.beginsExpression] at begins
    · exact (fails.append _).bind _

end Ember
