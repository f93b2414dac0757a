import Ember.Proofs.Parser.Equations

/-!
# Congruences of parsers

Many laws of the parser say that two runs have something in common: runs on the
same tokens with different bounds on the nesting, runs on tokens that differ
only behind the next one, or one run compared with itself. Such a law is a
relation between parsers. If the combinators respect it, so do all productions,
and the proof goes once through the grammar for all of them.

The relations come in a family with one member for each bound on the number of
tokens left. A production consumes a token before it asks for an expression, so
the inner expressions need to be related only for smaller bounds.
-/

namespace Ember

namespace TokenKind

/-- The kinds that neither separate statements, nor open or close a block or a
hash literal, nor end the input. -/
def isPlain : TokenKind → Bool
  | .symbol .semicolon => false
  | .symbol .leftBrace => false
  | .symbol .rightBrace => false
  | .endOfInput => false
  | _ => true

theorem ne_endOfInput_of_isPlain {kind : TokenKind} (plain : kind.isPlain = true) :
    kind ≠ .endOfInput := by
  rintro rfl
  exact absurd plain (by decide)

/-- A token that announces a continuation is plain. -/
theorem isPlain_of_continuation {kind : TokenKind} {next : Continuation}
    (announced : Continuation.ofKind? kind = some next) : kind.isPlain = true := by
  cases kind with
  | symbol sign => cases sign <;> first | rfl | simp [Continuation.ofKind?] at announced
  | illegal | identifier | integer | string | keyword => rfl
  | endOfInput => simp [Continuation.ofKind?] at announced

end TokenKind

namespace Parser

/-- A family of relations between parsers that the combinators respect. Two runs
may see tokens that are only `alike`, and `expect` is respected for the kinds that
are `free`. -/
structure Respects (alike : Token → Token → Prop) (free : TokenKind → Prop)
    (related : Nat → (α : Type) → Parser α → Parser α → Prop) : Prop where
  alike_kind {left right : Token} : alike left right → left.kind = right.kind
  free_of_isPlain {kind : TokenKind} : kind.isPlain = true → free kind
  mono {bound smaller : Nat} {α : Type} {left right : Parser α} :
    smaller ≤ bound → related bound α left right → related smaller α left right
  pure {bound : Nat} {α : Type} (value : α) : related bound α (Pure.pure value) (Pure.pure value)
  bind {bound : Nat} {α β : Type} {left right : Parser α} {leftNext rightNext : α → Parser β} :
    related bound α left right →
      (∀ value, related bound β (leftNext value) (rightNext value)) →
        related bound β (left >>= leftNext) (right >>= rightNext)
  look {bound : Nat} {α : Type} {leftNext rightNext : Token → Parser α} :
    (∀ left right, alike left right → related bound α (leftNext left) (rightNext right)) →
      related bound α (peek >>= leftNext) (peek >>= rightNext)
  unexpected {bound : Nat} {α : Type} (expected : Expectation) {left right : Token} :
    alike left right →
      related bound α (fail (.unexpected expected left)) (fail (.unexpected expected right))
  missingOperand {bound : Nat} {α : Type} {left right : Token} :
    alike left right → related bound α (fail (.missingOperand left)) (fail (.missingOperand right))
  tooLarge {bound : Nat} {α : Type} (digits : String) {left right : Token} :
    alike left right →
      related bound α (fail (.integerTooLarge digits left.line))
        (fail (.integerTooLarge digits right.line))
  /-- What follows an expected token runs on fewer tokens. -/
  expect {bound : Nat} {α : Type} {kind : TokenKind} {left right : Parser α} :
    free kind → kind ≠ .endOfInput → (∀ smaller < bound, related smaller α left right) →
      related bound α (expect kind >>= fun _ => left) (expect kind >>= fun _ => right)

namespace Respects

variable {alike : Token → Token → Prop} {free : TokenKind → Prop}
variable {related : Nat → (α : Type) → Parser α → Parser α → Prop}
variable {bound : Nat} {α : Type}

theorem expect_plain (respects : Respects alike free related) {kind : TokenKind}
    {left right : Parser α} (plain : kind.isPlain = true)
    (behind : ∀ smaller < bound, related smaller α left right) :
    related bound α (Parser.expect kind >>= fun _ => left)
      (Parser.expect kind >>= fun _ => right) :=
  respects.expect (respects.free_of_isPlain plain) (TokenKind.ne_endOfInput_of_isPlain plain) behind

/-- Sequences of related elements are related. -/
theorem sequence (respects : Respects alike free related) {left right : Parser α}
    {separator terminator : TokenKind} (freeSeparator : free separator)
    (freeTerminator : free terminator) (properSeparator : separator ≠ .endOfInput)
    (properTerminator : terminator ≠ .endOfInput) (elements : related bound α left right) :
    related bound (List α) (sequence left separator terminator)
      (sequence right separator terminator) := by
  -- The rest of a sequence stands behind a separator, so the bound falls.
  induction bound using Nat.strongRecOn with
  | ind bound ih =>
      rw [sequence_eq left properSeparator properTerminator,
        sequence_eq right properSeparator properTerminator]
      apply respects.look
      intro leftToken rightToken same
      have sameEnd : leftToken.isEnd = rightToken.isEnd := by
        simp [Token.isEnd, respects.alike_kind same]
      rw [respects.alike_kind same, sameEnd]
      split
      · exact respects.expect freeTerminator properTerminator fun _ _ => respects.pure _
      · split
        · exact respects.unexpected _ same
        · refine respects.bind elements fun first => respects.look ?_
          intro leftNext rightNext sameNext
          rw [respects.alike_kind sameNext]
          split
          · apply respects.expect freeSeparator properSeparator
            intro smaller less
            exact respects.bind
              (ih smaller less (respects.mono (Nat.le_of_lt less) elements))
              fun _ => respects.pure _
          · split
            · exact respects.expect freeTerminator properTerminator fun _ _ => respects.pure _
            · exact respects.unexpected _ sameNext

theorem plainSequence (respects : Respects alike free related) {left right : Parser α}
    {separator terminator : TokenKind} (plainSeparator : separator.isPlain = true)
    (plainTerminator : terminator.isPlain = true) (elements : related bound α left right) :
    related bound (List α) (Parser.sequence left separator terminator)
      (Parser.sequence right separator terminator) :=
  respects.sequence (respects.free_of_isPlain plainSeparator)
    (respects.free_of_isPlain plainTerminator)
    (TokenKind.ne_endOfInput_of_isPlain plainSeparator)
    (TokenKind.ne_endOfInput_of_isPlain plainTerminator) elements

theorem name (respects : Respects alike free related) :
    related bound String Parser.name Parser.name := by
  rw [name_eq]
  apply respects.look
  intro left right same
  rw [respects.alike_kind same]
  split
  · exact respects.expect_plain (by rfl) fun _ _ => respects.pure _
  · exact respects.unexpected _ same

theorem terminated (respects : Respects alike free related) :
    related bound Unit Parser.terminated Parser.terminated := by
  apply respects.look
  intro left right same
  rw [respects.alike_kind same]
  split
  · exact respects.pure _
  · exact respects.unexpected _ same

/-- Where every kind is free, and the count of braces is kept alike, braces are
respected too. -/
theorem braced (respects : Respects alike free related) (allFree : ∀ kind, free kind)
    (opening : ∀ bound, related bound Unit openBrace openBrace)
    (closing : ∀ bound, related bound Unit closeBrace closeBrace) {left right : Parser α}
    {separator : TokenKind} (proper : separator ≠ .endOfInput)
    (elements : ∀ smaller < bound, related smaller α left right) :
    related bound (List α) (Parser.expect (.symbol .leftBrace) >>= fun _ => left.braced separator)
      (Parser.expect (.symbol .leftBrace) >>= fun _ => right.braced separator) := by
  apply respects.expect (allFree _) (by decide)
  intro smaller less
  apply respects.bind (opening smaller)
  intro _
  refine respects.bind ?_ fun _ => respects.bind (closing smaller) fun _ => respects.pure _
  exact respects.sequence (allFree _) (allFree _) proper (by decide) (elements smaller less)

end Respects

/-- A family of relations between parsers that the productions respect: beside the
combinators, the braces around blocks and hash literals. -/
structure Congruence (alike : Token → Token → Prop) (free : TokenKind → Prop)
    (related : Nat → (α : Type) → Parser α → Parser α → Prop) : Prop
    extends Respects alike free related where
  braces {bound : Nat} {α : Type} {left right : Parser α} {separator : TokenKind} :
    separator = .symbol .comma ∨ separator = .symbol .semicolon →
      (∀ smaller < bound, related smaller α left right) →
        related bound (List α)
          (Parser.expect (.symbol .leftBrace) >>= fun _ => left.braced separator)
          (Parser.expect (.symbol .leftBrace) >>= fun _ => right.braced separator)

namespace Congruence

variable {alike : Token → Token → Prop} {free : TokenKind → Prop}
variable {related : Nat → (α : Type) → Parser α → Parser α → Prop}
variable {bound : Nat} {left right : Precedence → Parser Expr}

section Productions

variable (congruence : Congruence alike free related)
variable (inner : ∀ minimum, related bound Expr (left minimum) (right minimum))

include congruence inner

omit inner in
theorem numeral (digits : String) {leftToken rightToken : Token}
    (same : alike leftToken rightToken) :
    related bound Expr (Parser.numeral digits leftToken.line)
      (Parser.numeral digits rightToken.line) := by
  unfold Parser.numeral
  cases Integer.ofDigits? digits with
  | none => exact congruence.tooLarge digits same
  | some value => exact congruence.pure _

theorem binding : related bound Stmt (Parser.binding left) (Parser.binding right) := by
  apply congruence.expect_plain (by rfl)
  intro smaller less
  apply congruence.bind congruence.name
  intro _
  apply congruence.expect_plain (by rfl)
  intro smallest lesser
  have value := congruence.mono (Nat.le_of_lt (Nat.lt_trans lesser less)) (inner .lowest)
  exact congruence.bind value fun _ => congruence.bind congruence.terminated fun _ =>
    congruence.pure _

theorem leaving : related bound Stmt (Parser.leaving left) (Parser.leaving right) := by
  apply congruence.expect_plain (by rfl)
  intro smaller less
  have value := congruence.mono (Nat.le_of_lt less) (inner .lowest)
  exact congruence.bind value fun _ => congruence.bind congruence.terminated fun _ =>
    congruence.pure _

theorem statementWith :
    related bound Stmt (Parser.statementWith left) (Parser.statementWith right) := by
  apply congruence.look
  intro leftToken rightToken same
  rw [congruence.alike_kind same]
  split
  · exact binding congruence inner
  · exact leaving congruence inner
  · exact congruence.bind (inner .lowest) fun _ => congruence.pure _

theorem unary (operator : UnaryOperator) :
    related bound Expr (Parser.unary left operator) (Parser.unary right operator) :=
  congruence.bind (inner .unary) fun _ => congruence.pure _

theorem grouped : related bound Expr (Parser.grouped left) (Parser.grouped right) :=
  congruence.bind (inner .lowest) fun _ =>
    congruence.expect_plain (by rfl) fun _ _ => congruence.pure _

theorem array : related bound Expr (Parser.array left) (Parser.array right) :=
  congruence.bind (congruence.plainSequence (by rfl) (by rfl) (inner .lowest)) fun _ =>
    congruence.pure _

theorem pair : related bound (Expr × Expr) (Parser.pair left) (Parser.pair right) := by
  apply congruence.bind (inner .lowest)
  intro _
  apply congruence.expect_plain (by rfl)
  intro smaller less
  exact congruence.bind (congruence.mono (Nat.le_of_lt less) (inner .lowest)) fun _ =>
    congruence.pure _

theorem continuation (operand : Expr) (next : Continuation) :
    related bound Expr (Parser.continuation left operand next)
      (Parser.continuation right operand next) := by
  cases next with
  | operation operator =>
      exact congruence.bind (inner operator.precedence) fun _ => congruence.pure _
  | call =>
      exact congruence.bind (congruence.plainSequence (by rfl) (by rfl) (inner .lowest)) fun _ =>
        congruence.pure _
  | index =>
      exact congruence.bind (inner .lowest) fun _ =>
        congruence.expect_plain (by rfl) fun _ _ => congruence.pure _

end Productions

section Guarded

variable (congruence : Congruence alike free related)
variable (inner : ∀ smaller < bound, ∀ minimum, related smaller Expr (left minimum) (right minimum))

include congruence inner

theorem block : related bound Block (Parser.block left) (Parser.block right) :=
  congruence.braces (.inr rfl) fun smaller less =>
    statementWith congruence (inner smaller less)

theorem hash :
    related bound Expr (Parser.expect (.symbol .leftBrace) >>= fun _ => Parser.hash left)
      (Parser.expect (.symbol .leftBrace) >>= fun _ => Parser.hash right) := by
  have pairs : related bound (List (Expr × Expr))
      (Parser.expect (.symbol .leftBrace) >>= fun _ => (Parser.pair left).braced (.symbol .comma))
      (Parser.expect (.symbol .leftBrace) >>= fun _ =>
        (Parser.pair right).braced (.symbol .comma)) :=
    congruence.braces (.inl rfl) fun smaller less => pair congruence (inner smaller less)
  simpa [Parser.hash, bind_assoc] using congruence.bind pairs fun _ => congruence.pure _

theorem alternative :
    related bound (Option Block) (Parser.alternative left) (Parser.alternative right) := by
  rw [alternative_eq, alternative_eq]
  apply congruence.look
  intro leftToken rightToken same
  rw [congruence.alike_kind same]
  split
  · apply congruence.expect_plain (by rfl)
    intro smaller less
    have branch := block congruence fun smallest lesser => inner smallest (Nat.lt_trans lesser less)
    exact congruence.bind branch fun _ => congruence.pure _
  · exact congruence.pure _

theorem conditional :
    related bound Expr (Parser.expect (.keyword .ifWord) >>= fun _ => Parser.conditional left)
      (Parser.expect (.keyword .ifWord) >>= fun _ => Parser.conditional right) := by
  apply congruence.expect_plain (by rfl)
  intro smaller less
  apply congruence.expect_plain (by rfl)
  intro middle lesser
  have below := Nat.lt_trans lesser less
  apply congruence.bind (inner middle below .lowest)
  intro _
  apply congruence.expect_plain (by rfl)
  intro smallest least
  have inside : ∀ inmost < smallest, ∀ minimum,
      related inmost Expr (left minimum) (right minimum) := fun inmost deep =>
    inner inmost (Nat.lt_trans deep (Nat.lt_trans least below))
  exact congruence.bind (block congruence inside) fun _ =>
    congruence.bind (alternative congruence inside) fun _ => congruence.pure _

theorem function :
    related bound Expr (Parser.expect (.keyword .fnWord) >>= fun _ => Parser.function left)
      (Parser.expect (.keyword .fnWord) >>= fun _ => Parser.function right) := by
  apply congruence.expect_plain (by rfl)
  intro smaller less
  apply congruence.expect_plain (by rfl)
  intro smallest lesser
  apply congruence.bind (congruence.plainSequence (by rfl) (by rfl) congruence.name)
  intro _
  have body := block congruence fun inmost deep =>
    inner inmost (Nat.lt_trans deep (Nat.lt_trans lesser less))
  exact congruence.bind body fun _ => congruence.pure _

theorem operand : related bound Expr (Parser.operand left) (Parser.operand right) := by
  rw [operand_eq, operand_eq]
  apply congruence.look
  intro leftToken rightToken same
  rw [congruence.alike_kind same]
  generalize rightToken.kind = kind
  cases kind with
  | identifier name => exact congruence.expect_plain (by rfl) fun _ _ => congruence.pure _
  | integer digits =>
      exact congruence.expect_plain (by rfl) fun _ _ => numeral congruence digits same
  | string content => exact congruence.expect_plain (by rfl) fun _ _ => congruence.pure _
  | symbol sign =>
      cases sign with
      | bang =>
          exact congruence.expect_plain (by rfl) fun _ less => unary congruence (inner _ less) .not
      | minus =>
          exact congruence.expect_plain (by rfl) fun _ less =>
            unary congruence (inner _ less) .negate
      | leftParen =>
          exact congruence.expect_plain (by rfl) fun _ less => grouped congruence (inner _ less)
      | leftBracket =>
          exact congruence.expect_plain (by rfl) fun _ less => array congruence (inner _ less)
      | leftBrace => exact hash congruence inner
      | _ => exact congruence.missingOperand same
  | keyword reserved =>
      cases reserved with
      | trueWord | falseWord =>
          exact congruence.expect_plain (by rfl) fun _ _ => congruence.pure _
      | ifWord => exact conditional congruence inner
      | fnWord => exact function congruence inner
      | _ => exact congruence.missingOperand same
  | illegal | endOfInput => exact congruence.missingOperand same

theorem extend (minimum : Precedence) (operand : Expr) :
    related bound Expr (Parser.extend left minimum operand)
      (Parser.extend right minimum operand) := by
  -- Every round consumes the token that announces it, so the bound falls.
  induction bound using Nat.strongRecOn generalizing operand with
  | ind bound ih =>
      rw [extend_eq, extend_eq]
      apply congruence.look
      intro leftToken rightToken same
      rw [congruence.alike_kind same]
      split
      · exact congruence.pure _
      · next next announced =>
          split
          · exact congruence.pure _
          · refine congruence.expect_plain (TokenKind.isPlain_of_continuation announced)
              fun smaller less => ?_
            exact congruence.bind (continuation congruence (inner smaller less) operand next)
              fun extended => ih smaller less
                (fun smallest lesser => inner smallest (Nat.lt_trans lesser less)) extended

/-- Expressions are related if the expressions inside them are, on fewer
tokens. -/
theorem expressionWith (minimum : Precedence) :
    related bound Expr (Parser.expressionWith left minimum)
      (Parser.expressionWith right minimum) :=
  congruence.bind (operand congruence inner) fun first => extend congruence inner minimum first

end Guarded

end Congruence

end Parser

end Ember
