import Ember.Proofs.Grammar.Soundness

/-!
# What is derived the parser takes

An expression is left-recursive and the parser is not, so a derived expression is
not simply taken: once its tokens are behind the cursor, the parser has its tree
as a left operand and goes on extending it. That is what `Reads` says of an
expression; an operator on the right continues where its left operand arrived.
-/

namespace Ember

open Grammar (Tier Item Nonterminal Derives)
open Parser (Reaches Takes expression)

namespace Token

variable {tokens : List Token} {kinds others : List TokenKind} {kind : TokenKind}

/-- The token of a kind that stands between others. -/
theorem exists_split_at (spelled : tokens.map Token.kind = kinds ++ kind :: others) :
    ∃ before mark behind, tokens = before ++ mark :: behind ∧ before.map Token.kind = kinds ∧
      mark.kind = kind ∧ behind.map Token.kind = others := by
  rcases List.map_eq_append_iff.mp spelled with ⟨before, _, split, beforeSpelled, spelled⟩
  rcases List.map_eq_cons_iff.mp spelled with ⟨mark, behind, rfl, fits, behindSpelled⟩
  exact ⟨before, mark, behind, split, beforeSpelled, fits, behindSpelled⟩

/-- The token of a kind that stands behind others. -/
theorem exists_split_last (spelled : tokens.map Token.kind = kinds ++ [kind]) :
    ∃ before last, tokens = before ++ [last] ∧ before.map Token.kind = kinds ∧
      last.kind = kind := by
  rcases exists_split_at spelled with ⟨before, last, behind, split, beforeSpelled, fits, nothing⟩
  rw [List.map_eq_nil_iff] at nothing
  rw [nothing] at split
  exact ⟨before, last, split, beforeSpelled, fits⟩

end Token

theorem Precedence.le_trans {first second third : Precedence} (here : first ≤ second)
    (there : second ≤ third) : first ≤ third :=
  Nat.le_trans here there

/-- The strongest minimum above which a parser takes all expressions of a tier. -/
def Grammar.Tier.floor : Tier → Precedence
  | .equality => .lowest
  | .comparison => .equality
  | .sum => .comparison
  | .product => .sum
  | .unary | .suffixed => .unary
  | .primary => .index

theorem Grammar.Tier.floor_le_tighter (tier : Tier) : tier.floor ≤ tier.tighter.floor := by
  cases tier <;> decide

theorem Grammar.Tier.ceiling_le_tighter (tier : Tier) :
    tier.ceiling ≤ tier.tighter.ceiling := by
  cases tier <;> decide

theorem Grammar.Tier.floor_le_ceiling (tier : Tier) : tier.floor ≤ tier.ceiling := by
  cases tier <;> decide

theorem BinaryOperator.precedence_le_floor (operator : BinaryOperator) :
    operator.precedence ≤ operator.tier.tighter.floor := by
  cases operator <;> decide

/-- A continuation is above every minimum that its tier allows. -/
theorem Continuation.not_le_of_le_floor {next : Continuation} {minimum : Precedence}
    (low : minimum ≤ next.tier.floor) : ¬ next.precedence ≤ minimum := by
  revert low
  cases next with
  | operation operator => cases operator <;> cases minimum <;> decide
  | call => cases minimum <;> decide
  | index => cases minimum <;> decide

theorem Continuation.precedence_le_ceiling (next : Continuation) :
    next.precedence ≤ next.tier.ceiling := by
  cases next with
  | operation operator => cases operator <;> decide
  | call => decide
  | index => decide

/-- The next token binds no more strongly than the limit, and it is no `else`, which
a conditional would take. -/
def Stops (limit : Precedence) (rest : List Token) : Prop :=
  (Token.next rest).kind.precedence ≤ limit ∧ (Token.next rest).kind ≠ .keyword .elseWord

namespace Stops

theorem cons {token : Token} {kind : TokenKind} {limit : Precedence} (fits : token.kind = kind)
    (weak : kind.precedence ≤ limit ∧ kind ≠ .keyword .elseWord) (rest : List Token) :
    Stops limit (token :: rest) := by
  simpa [Stops, fits] using weak

/-- The token that announces a continuation ends the operand before it. -/
theorem continuation {mark : Token} {next : Continuation} (kind : mark.kind = .symbol next.symbol)
    (rest : List Token) : Stops next.tier.ceiling (mark :: rest) := by
  apply cons kind
  constructor
  · rw [TokenKind.precedence, Continuation.ofKind?_symbol]
    exact next.precedence_le_ceiling
  · simp

theorem weaken {limit other : Precedence} {rest : List Token} (stops : Stops limit rest)
    (weaker : limit ≤ other) : Stops other rest :=
  ⟨Precedence.le_trans stops.1 weaker, stops.2⟩

theorem of_semicolon {rest : List Token} (follows : (Token.next rest).kind = .symbol .semicolon) :
    Stops .lowest rest := by
  rw [Stops, follows]
  decide

end Stops

/-- The parser of the items of a list. -/
def Grammar.Item.parser : {α : Type} → Item α → Parser α
  | _, .expression => Parser.expression .lowest
  | _, .pair => Parser.pair Parser.expression
  | _, .name => Parser.name

/-- How the parser reads what a nonterminal derives, wherever it stands. -/
def Reads : {α : Type} → Nonterminal α → List TokenKind → α → Prop
  | _, .expression tier, kinds, tree =>
    ∀ (minimum : Precedence) {tokens rest : List Token} (openBraces : Nat),
      minimum ≤ tier.floor → tokens.map Token.kind = kinds → Stops tier.ceiling rest →
        Reaches (expression minimum) ⟨tokens ++ rest, openBraces⟩ tokens
          (Parser.extend expression minimum tree) ⟨rest, openBraces⟩
  | _, .item item, kinds, value =>
    ∀ {tokens rest : List Token} (openBraces : Nat),
      tokens.map Token.kind = kinds → Stops .lowest rest →
        Takes item.parser ⟨tokens ++ rest, openBraces⟩ tokens value ⟨rest, openBraces⟩
  | _, .list item, kinds, values =>
    ∀ {terminator : TokenKind} {tokens : List Token} {closing : Token} (rest : List Token)
      (openBraces : Nat),
      tokens.map Token.kind = kinds → closing.kind = terminator →
        terminator ∈ [.symbol .rightParen, .symbol .rightBracket, .symbol .rightBrace] →
          Takes (Parser.sequence item.parser (.symbol .comma) terminator)
            ⟨tokens ++ closing :: rest, openBraces⟩ (tokens ++ [closing]) values ⟨rest, openBraces⟩
  | _, .statement, kinds, tree =>
    ∀ {tokens rest : List Token} (openBraces : Nat),
      tokens.map Token.kind = kinds → (Token.next rest).kind = .symbol .semicolon →
        Takes Parser.statement ⟨tokens ++ rest, openBraces⟩ tokens tree ⟨rest, openBraces⟩
  | _, .statements, kinds, statements =>
    ∀ {tokens : List Token} {closing : Token} (rest : List Token) (openBraces : Nat),
      tokens.map Token.kind = kinds → closing.kind = .symbol .rightBrace →
        Takes (Parser.sequence Parser.statement (.symbol .semicolon) (.symbol .rightBrace))
          ⟨tokens ++ closing :: rest, openBraces⟩ (tokens ++ [closing]) statements
          ⟨rest, openBraces⟩
  | _, .block, kinds, block =>
    ∀ {tokens : List Token} (rest : List Token) (openBraces : Nat), tokens.map Token.kind = kinds →
      Takes (Parser.block expression) ⟨tokens ++ rest, openBraces⟩ tokens block ⟨rest, openBraces⟩

namespace Reads

variable {minimum : Precedence} {tokens rest : List Token} {openBraces : Nat}

/-- Before a token that does not extend it an expression is taken. -/
theorem taken {tier : Tier} {kinds : List TokenKind} {tree : Expr}
    (reads : Reads (.expression tier) kinds tree) (low : minimum ≤ tier.floor)
    (spelled : tokens.map Token.kind = kinds) (stops : Stops minimum rest) :
    Takes (expression minimum) ⟨tokens ++ rest, openBraces⟩ tokens tree ⟨rest, openBraces⟩ := by
  have fits : minimum ≤ tier.ceiling := Precedence.le_trans low tier.floor_le_ceiling
  exact .of_reaches (reads minimum openBraces low spelled (stops.weaken fits))
    (Parser.takes_extend_of_le stops.1 tree)

/-- What an operand takes is a left operand. -/
theorem of_operand {cursor after : Cursor} {tree : Expr}
    (run : Takes (Parser.operand expression) cursor tokens tree after) :
    Reaches (expression minimum) cursor tokens (Parser.extend expression minimum tree) after := by
  conv =>
    arg 1
    rw [Parser.expression_eq]
  exact run.reaches _

/-- An operand behind the token that opens it. -/
theorem of_opening {behind : Parser Expr} {opening : Token} {others : List Token} {after : Cursor}
    {tree : Expr} (opens : Parser.behindOpening expression opening.kind = some behind)
    (run : Takes behind ⟨others, openBraces⟩ tokens tree after) :
    Reaches (expression minimum) ⟨opening :: others, openBraces⟩ (opening :: tokens)
      (Parser.extend expression minimum tree) after :=
  of_operand ((Parser.reaches_opening opens others openBraces).trans run)

theorem tighter {tier : Tier} {kinds : List TokenKind} {tree : Expr}
    (reads : Reads (.expression tier.tighter) kinds tree) :
    Reads (.expression tier) kinds tree := by
  intro minimum tokens rest openBraces low spelled stops
  exact reads minimum openBraces (Precedence.le_trans low tier.floor_le_tighter) spelled
    (stops.weaken tier.ceiling_le_tighter)

/-- Behind a left operand stands a continuation. -/
theorem continued (next : Continuation) {kinds : List TokenKind} {left tree : Expr} {mark : Token}
    {leftTokens others : List Token} (reads : Reads (.expression next.tier) kinds left)
    (low : minimum ≤ next.tier.floor) (spelled : leftTokens.map Token.kind = kinds)
    (kind : mark.kind = .symbol next.symbol)
    (run : Takes (Parser.continuation expression left next) ⟨others ++ rest, openBraces⟩ others tree
      ⟨rest, openBraces⟩) :
    Reaches (expression minimum) ⟨leftTokens ++ mark :: others ++ rest, openBraces⟩
      (leftTokens ++ mark :: others) (Parser.extend expression minimum tree)
      ⟨rest, openBraces⟩ := by
  have announced : Continuation.ofKind? mark.kind = some next := by
    rw [kind, Continuation.ofKind?_symbol]
  have operand := reads minimum openBraces low spelled (Stops.continuation kind (others ++ rest))
  have step := Parser.reaches_extend announced (Continuation.not_le_of_le_floor low) run
  simpa using operand.trans step

theorem binary {operator : BinaryOperator} {leftKinds rightKinds : List TokenKind}
    {left right : Expr} (leftReads : Reads (.expression operator.tier) leftKinds left)
    (rightReads : Reads (.expression operator.tier.tighter) rightKinds right) :
    Reads (.expression operator.tier) (leftKinds ++ .symbol operator.symbol :: rightKinds)
      (.binary operator left right) := by
  intro minimum tokens rest openBraces low spelled stops
  rcases Token.exists_split_at spelled with
    ⟨leftTokens, mark, rightTokens, rfl, leftSpelled, kind, rightSpelled⟩
  rw [BinaryOperator.ceiling_tier] at stops
  have rightRun : Takes (expression operator.precedence) ⟨rightTokens ++ rest, openBraces⟩
      rightTokens right ⟨rest, openBraces⟩ :=
    rightReads.taken operator.precedence_le_floor rightSpelled stops
  have step : Takes (Parser.continuation expression left (.operation operator))
      ⟨rightTokens ++ rest, openBraces⟩ rightTokens (.binary operator left right)
      ⟨rest, openBraces⟩ :=
    rightRun.reaches _
  exact continued (.operation operator) leftReads low leftSpelled kind step

theorem call {calleeKinds kinds : List TokenKind} {callee : Expr} {arguments : List Expr}
    (calleeReads : Reads (.expression .suffixed) calleeKinds callee)
    (listReads : Reads (.list .expression) kinds arguments) :
    Reads (.expression .suffixed)
      (calleeKinds ++ .symbol .leftParen :: (kinds ++ [.symbol .rightParen]))
      (.call callee arguments) := by
  intro minimum tokens rest openBraces low spelled stops
  rcases Token.exists_split_at spelled with
    ⟨calleeTokens, mark, _, rfl, calleeSpelled, kind, spelled⟩
  rcases Token.exists_split_last spelled with ⟨listTokens, closing, rfl, listSpelled, closingKind⟩
  have listRun := listReads rest openBraces listSpelled closingKind (by simp)
  have step : Takes (Parser.continuation expression callee .call)
      ⟨listTokens ++ [closing] ++ rest, openBraces⟩ (listTokens ++ [closing])
      (.call callee arguments) ⟨rest, openBraces⟩ := by
    rw [List.append_assoc]
    exact listRun.reaches _
  exact continued .call calleeReads low calleeSpelled kind step

theorem index {collectionKinds kinds : List TokenKind} {collection position : Expr}
    (collectionReads : Reads (.expression .suffixed) collectionKinds collection)
    (positionReads : Reads (.expression .equality) kinds position) :
    Reads (.expression .suffixed)
      (collectionKinds ++ .symbol .leftBracket :: (kinds ++ [.symbol .rightBracket]))
      (.index collection position) := by
  intro minimum tokens rest openBraces low spelled stops
  rcases Token.exists_split_at spelled with
    ⟨collectionTokens, mark, _, rfl, collectionSpelled, kind, spelled⟩
  rcases Token.exists_split_last spelled with
    ⟨positionTokens, closing, rfl, positionSpelled, closingKind⟩
  have positionRun : Takes (expression .lowest) ⟨positionTokens ++ closing :: rest, openBraces⟩
      positionTokens position ⟨closing :: rest, openBraces⟩ :=
    positionReads.taken (by decide) positionSpelled (Stops.cons closingKind (by decide) rest)
  have step : Takes (Parser.continuation expression collection .index)
      ⟨positionTokens ++ [closing] ++ rest, openBraces⟩ (positionTokens ++ [closing])
      (.index collection position) ⟨rest, openBraces⟩ := by
    rw [List.append_assoc]
    exact (positionRun.reaches _).trans (Reaches.expect closingKind rest openBraces _)
  exact continued .index collectionReads low collectionSpelled kind step

theorem unary {operator : UnaryOperator} {kinds : List TokenKind} {operand : Expr}
    (reads : Reads (.expression .unary) kinds operand) :
    Reads (.expression .unary) (.symbol operator.symbol :: kinds) (.unary operator operand) := by
  intro minimum tokens rest openBraces low spelled stops
  rcases List.map_eq_cons_iff.mp spelled with ⟨mark, operandTokens, rfl, kind, spelled⟩
  have operandRun : Takes (expression .unary) ⟨operandTokens ++ rest, openBraces⟩ operandTokens
      operand ⟨rest, openBraces⟩ :=
    reads.taken (by decide) spelled stops
  have opens : Parser.behindOpening expression mark.kind =
      some (Parser.unary expression operator) := by
    rw [kind]
    cases operator <;> rfl
  exact of_opening opens (operandRun.reaches _)

/-- A token that is an operand by itself. -/
theorem leaf {kind : TokenKind} {tree : Expr}
    (stands : ∀ {token : Token} (rest : List Token) (openBraces : Nat), token.kind = kind →
      Parser.operand expression ⟨token :: rest, openBraces⟩ = ⟨.ok tree, 1, openBraces⟩) :
    Reads (.expression .primary) [kind] tree := by
  intro minimum tokens rest openBraces low spelled stops
  rcases List.map_eq_singleton_iff.mp spelled with ⟨token, rfl, fits⟩
  exact of_operand ⟨rfl, stands rest openBraces fits⟩

theorem identifier (name : String) :
    Reads (.expression .primary) [.identifier name] (.identifier name) := by
  apply leaf
  intro token rest openBraces fits
  rw [Parser.operand, Parser.peek_bind_apply, Token.next_cons, fits]
  rfl

theorem integer {digits : String} {value : Integer}
    (denotes : value.toInt = (Nat.ofDigitChars 10 digits.toList 0 : Nat)) :
    Reads (.expression .primary) [.integer digits] (.integer value) := by
  apply leaf
  intro token rest openBraces fits
  rw [Parser.operand, Parser.peek_bind_apply, Token.next_cons, fits]
  dsimp only
  rw [Parser.numeral, Integer.ofDigits?_eq_some_iff.mpr denotes]
  rfl

theorem string (content : String) :
    Reads (.expression .primary) [.string content] (.string content) := by
  apply leaf
  intro token rest openBraces fits
  rw [Parser.operand, Parser.peek_bind_apply, Token.next_cons, fits]
  rfl

theorem trueWord : Reads (.expression .primary) [.keyword .trueWord] (.boolean true) := by
  apply leaf
  intro token rest openBraces fits
  rw [Parser.operand, Parser.peek_bind_apply, Token.next_cons, fits]
  rfl

theorem falseWord : Reads (.expression .primary) [.keyword .falseWord] (.boolean false) := by
  apply leaf
  intro token rest openBraces fits
  rw [Parser.operand, Parser.peek_bind_apply, Token.next_cons, fits]
  rfl

theorem grouped {kinds : List TokenKind} {tree : Expr}
    (reads : Reads (.expression .equality) kinds tree) :
    Reads (.expression .primary) (.symbol .leftParen :: (kinds ++ [.symbol .rightParen])) tree := by
  intro minimum tokens rest openBraces low spelled stops
  rcases List.map_eq_cons_iff.mp spelled with ⟨opening, _, rfl, kind, spelled⟩
  rcases Token.exists_split_last spelled with ⟨innerTokens, closing, rfl, innerSpelled, closingKind⟩
  have innerRun : Takes (expression .lowest) ⟨innerTokens ++ closing :: rest, openBraces⟩
      innerTokens tree ⟨closing :: rest, openBraces⟩ :=
    reads.taken (by decide) innerSpelled (Stops.cons closingKind (by decide) rest)
  rw [List.cons_append, List.append_assoc]
  apply of_opening (by rw [kind]; rfl)
  exact (innerRun.reaches _).trans (Reaches.expect closingKind rest openBraces _)

theorem array {kinds : List TokenKind} {elements : List Expr}
    (reads : Reads (.list .expression) kinds elements) :
    Reads (.expression .primary) (.symbol .leftBracket :: (kinds ++ [.symbol .rightBracket]))
      (.array elements) := by
  intro minimum tokens rest openBraces low spelled stops
  rcases List.map_eq_cons_iff.mp spelled with ⟨opening, _, rfl, kind, spelled⟩
  rcases Token.exists_split_last spelled with ⟨listTokens, closing, rfl, listSpelled, closingKind⟩
  have listRun := reads rest openBraces listSpelled closingKind (by simp)
  rw [List.cons_append, List.append_assoc]
  apply of_opening (by rw [kind]; rfl)
  exact listRun.reaches _

theorem hash {kinds : List TokenKind} {pairs : List (Expr × Expr)}
    (reads : Reads (.list .pair) kinds pairs) :
    Reads (.expression .primary) (.symbol .leftBrace :: (kinds ++ [.symbol .rightBrace]))
      (.hash pairs) := by
  intro minimum tokens rest openBraces low spelled stops
  rcases List.map_eq_cons_iff.mp spelled with ⟨opening, _, rfl, kind, spelled⟩
  rcases Token.exists_split_last spelled with ⟨listTokens, closing, rfl, listSpelled, closingKind⟩
  have listRun := reads rest (openBraces + 1) listSpelled closingKind (by simp)
  rw [List.cons_append, List.append_assoc]
  apply of_opening (by rw [kind]; rfl)
  exact (Parser.takes_braced listRun).reaches _

theorem block {kinds : List TokenKind} {statements : List Stmt}
    (reads : Reads .statements kinds statements) :
    Reads .block (.symbol .leftBrace :: (kinds ++ [.symbol .rightBrace])) statements := by
  intro tokens rest openBraces spelled
  rcases List.map_eq_cons_iff.mp spelled with ⟨opening, _, rfl, kind, spelled⟩
  rcases Token.exists_split_last spelled with ⟨innerTokens, closing, rfl, innerSpelled, closingKind⟩
  have innerRun := reads rest (openBraces + 1) innerSpelled closingKind
  rw [List.cons_append, List.append_assoc]
  exact (Reaches.expect kind _ openBraces _).trans (Parser.takes_braced innerRun)

/-- A conditional with what its parser takes for an `else` branch. -/
theorem takes_conditional {kinds blockKinds : List TokenKind} {condition : Expr}
    {consequence : Block} {alternative : Option Block}
    {conditionTokens blockTokens others : List Token} {opener opening closing : Token}
    (reads : Reads (.expression .equality) kinds condition)
    (blockReads : Reads .block blockKinds consequence)
    (openerKind : opener.kind = .keyword .ifWord) (openingKind : opening.kind = .symbol .leftParen)
    (spelled : conditionTokens.map Token.kind = kinds)
    (closingKind : closing.kind = .symbol .rightParen)
    (blockSpelled : blockTokens.map Token.kind = blockKinds)
    (run : Takes (Parser.alternative expression) ⟨others ++ rest, openBraces⟩ others alternative
      ⟨rest, openBraces⟩) :
    Takes (Parser.operand expression)
      ⟨opener :: opening :: (conditionTokens ++ closing :: (blockTokens ++ (others ++ rest))),
        openBraces⟩
      (opener :: opening :: (conditionTokens ++ closing :: (blockTokens ++ others)))
      (.conditional condition consequence alternative) ⟨rest, openBraces⟩ := by
  have conditionRun : Takes (expression .lowest)
      ⟨conditionTokens ++ closing :: (blockTokens ++ (others ++ rest)), openBraces⟩ conditionTokens
      condition ⟨closing :: (blockTokens ++ (others ++ rest)), openBraces⟩ :=
    reads.taken (by decide) spelled (Stops.cons closingKind (by decide) _)
  have blockRun := blockReads (others ++ rest) openBraces blockSpelled
  apply (Parser.reaches_opening (by rw [openerKind]; rfl) _ openBraces).trans
  apply (Reaches.expect openingKind _ openBraces _).trans
  apply (conditionRun.reaches _).trans
  apply (Reaches.expect closingKind _ openBraces _).trans
  exact (blockRun.reaches _).trans (run.reaches _)

theorem conditional {kinds blockKinds : List TokenKind} {condition : Expr} {consequence : Block}
    (reads : Reads (.expression .equality) kinds condition)
    (blockReads : Reads .block blockKinds consequence) :
    Reads (.expression .primary)
      (.keyword .ifWord :: .symbol .leftParen :: (kinds ++ .symbol .rightParen :: blockKinds))
      (.conditional condition consequence none) := by
  intro minimum tokens rest openBraces low spelled stops
  rcases List.map_eq_cons_iff.mp spelled with ⟨opener, _, rfl, openerKind, spelled⟩
  rcases List.map_eq_cons_iff.mp spelled with ⟨opening, _, rfl, openingKind, spelled⟩
  rcases Token.exists_split_at spelled with
    ⟨conditionTokens, closing, blockTokens, rfl, conditionSpelled, closingKind, blockSpelled⟩
  have missing : Takes (Parser.alternative expression) ⟨[] ++ rest, openBraces⟩ [] none
      ⟨rest, openBraces⟩ := by
    rw [Parser.alternative_eq]
    apply Reaches.trans (Reaches.look _ _)
    rw [List.nil_append, if_neg stops.2]
    exact Takes.pure none _
  have run := takes_conditional reads blockReads openerKind openingKind conditionSpelled closingKind
    blockSpelled missing
  exact of_operand (by simpa using run)

theorem conditionalElse {kinds blockKinds elseKinds : List TokenKind} {condition : Expr}
    {consequence alternative : Block} (reads : Reads (.expression .equality) kinds condition)
    (blockReads : Reads .block blockKinds consequence)
    (elseReads : Reads .block elseKinds alternative) :
    Reads (.expression .primary)
      (.keyword .ifWord :: .symbol .leftParen ::
        (kinds ++ .symbol .rightParen :: (blockKinds ++ .keyword .elseWord :: elseKinds)))
      (.conditional condition consequence (some alternative)) := by
  intro minimum tokens rest openBraces low spelled stops
  rcases List.map_eq_cons_iff.mp spelled with ⟨opener, _, rfl, openerKind, spelled⟩
  rcases List.map_eq_cons_iff.mp spelled with ⟨opening, _, rfl, openingKind, spelled⟩
  rcases Token.exists_split_at spelled with
    ⟨conditionTokens, closing, _, rfl, conditionSpelled, closingKind, spelled⟩
  rcases Token.exists_split_at spelled with
    ⟨blockTokens, branch, elseTokens, rfl, blockSpelled, branchKind, elseSpelled⟩
  have elseRun := elseReads rest openBraces elseSpelled
  have chosen : Takes (Parser.alternative expression) ⟨branch :: elseTokens ++ rest, openBraces⟩
      (branch :: elseTokens) (some alternative) ⟨rest, openBraces⟩ := by
    rw [Parser.alternative_eq]
    apply Reaches.trans (Reaches.look _ _)
    rw [List.cons_append, Token.next_cons, if_pos branchKind]
    exact (Reaches.expect branchKind _ openBraces _).trans (elseRun.reaches _)
  have run := takes_conditional reads blockReads openerKind openingKind conditionSpelled closingKind
    blockSpelled chosen
  exact of_operand (by simpa using run)

theorem function {kinds blockKinds : List TokenKind} {parameters : List String} {body : Block}
    (listReads : Reads (.list .name) kinds parameters) (blockReads : Reads .block blockKinds body) :
    Reads (.expression .primary)
      (.keyword .fnWord :: .symbol .leftParen :: (kinds ++ .symbol .rightParen :: blockKinds))
      (.function parameters body) := by
  intro minimum tokens rest openBraces low spelled stops
  rcases List.map_eq_cons_iff.mp spelled with ⟨opener, _, rfl, openerKind, spelled⟩
  rcases List.map_eq_cons_iff.mp spelled with ⟨opening, _, rfl, openingKind, spelled⟩
  rcases Token.exists_split_at spelled with
    ⟨listTokens, closing, blockTokens, rfl, listSpelled, closingKind, blockSpelled⟩
  have listRun := listReads (blockTokens ++ rest) openBraces listSpelled closingKind (by simp)
  have blockRun := blockReads rest openBraces blockSpelled
  have run : Takes (Parser.operand expression)
      ⟨opener :: opening :: (listTokens ++ closing :: (blockTokens ++ rest)), openBraces⟩
      (opener :: opening :: (listTokens ++ [closing] ++ blockTokens)) (.function parameters body)
      ⟨rest, openBraces⟩ := by
    apply (Parser.reaches_opening (by rw [openerKind]; rfl) _ openBraces).trans
    apply (Reaches.expect openingKind _ openBraces _).trans
    exact (listRun.reaches _).trans (blockRun.reaches _)
  exact of_operand (by simpa using run)

theorem listedPair {keyKinds valueKinds : List TokenKind} {key value : Expr}
    (keyReads : Reads (.expression .equality) keyKinds key)
    (valueReads : Reads (.expression .equality) valueKinds value) :
    Reads (.item .pair) (keyKinds ++ .symbol .colon :: valueKinds) (key, value) := by
  intro tokens rest openBraces spelled stops
  rcases Token.exists_split_at spelled with
    ⟨keyTokens, colon, valueTokens, rfl, keySpelled, kind, valueSpelled⟩
  have keyRun : Takes (expression .lowest) ⟨keyTokens ++ colon :: (valueTokens ++ rest), openBraces⟩
      keyTokens key ⟨colon :: (valueTokens ++ rest), openBraces⟩ :=
    keyReads.taken (by decide) keySpelled (Stops.cons kind (by decide) _)
  have valueRun : Takes (expression .lowest) ⟨valueTokens ++ rest, openBraces⟩ valueTokens value
      ⟨rest, openBraces⟩ :=
    valueReads.taken (by decide) valueSpelled stops
  rw [List.append_assoc]
  apply (keyRun.reaches _).trans
  exact (Reaches.expect kind _ openBraces _).trans (valueRun.reaches _)

theorem listedName (name : String) : Reads (.item .name) [.identifier name] name := by
  intro tokens rest openBraces spelled stops
  rcases List.map_eq_singleton_iff.mp spelled with ⟨token, rfl, kind⟩
  exact Parser.takes_name kind rest openBraces

/-- What was begun goes on before the first token of a part of it. -/
theorem goesOn {kinds : List TokenKind} {terminator : TokenKind}
    (begins : ∃ first others, kinds = first :: others ∧ first.beginsStatement)
    (spelled : tokens.map Token.kind = kinds) (closes : terminator.beginsStatement = false)
    (rest : List Token) :
    (Token.next (tokens ++ rest)).kind ≠ terminator ∧
      (Token.next (tokens ++ rest)).isEnd = false := by
  rcases begins with ⟨first, others, rfl, opens⟩
  rcases List.map_eq_cons_iff.mp spelled with ⟨token, more, rfl, rfl, -⟩
  rw [List.cons_append, Token.next_cons]
  constructor
  · rintro rfl
    simp [opens] at closes
  · rw [Token.isEnd, beq_eq_false_iff_ne]
    intro ended
    rw [ended] at opens
    cases opens

section List

variable {α : Type} {item : Item α} {kinds others : List TokenKind} {value : α} {values : List α}

/-- What ends a list stands nowhere else. -/
theorem terminator_cases {terminator : TokenKind}
    (among : terminator ∈ [.symbol .rightParen, .symbol .rightBracket, .symbol .rightBrace]) :
    terminator ≠ .endOfInput ∧ terminator ≠ .symbol .comma ∧
      terminator.beginsStatement = false ∧
      terminator.precedence ≤ .lowest ∧ terminator ≠ .keyword .elseWord := by
  simp only [List.mem_cons, List.not_mem_nil, or_false] at among
  rcases among with rfl | rfl | rfl <;> decide

theorem noItems (item : Item α) : Reads (.list item) [] [] := by
  intro terminator tokens closing rest openBraces spelled ends among
  rcases List.map_eq_nil_iff.mp spelled with rfl
  exact Parser.takes_sequence_nil (by simp) (terminator_cases among).1 ends rest openBraces

theorem lastItem (reads : Reads (.item item) kinds value)
    (begins : ∃ first others, kinds = first :: others ∧ first.beginsStatement) :
    Reads (.list item) kinds [value] := by
  intro terminator tokens closing rest openBraces spelled ends among
  rcases terminator_cases among with ⟨proper, distinct, closes, weak⟩
  rcases goesOn begins spelled closes (closing :: rest) with ⟨differs, inside⟩
  exact Parser.takes_sequence_last (by simp) proper distinct differs inside
    (reads openBraces spelled (Stops.cons ends weak rest)) ends

theorem moreItems (reads : Reads (.item item) kinds value)
    (begins : ∃ first others, kinds = first :: others ∧ first.beginsStatement)
    (othersRead : Reads (.list item) others values) :
    Reads (.list item) (kinds ++ .symbol .comma :: others) (value :: values) := by
  intro terminator tokens closing rest openBraces spelled ends among
  rcases terminator_cases among with ⟨proper, distinct, closes, weak⟩
  rcases Token.exists_split_at spelled with
    ⟨first, mark, more, rfl, firstSpelled, kind, moreSpelled⟩
  rcases goesOn begins firstSpelled closes (mark :: (more ++ closing :: rest)) with
    ⟨differs, inside⟩
  have firstRun := reads openBraces firstSpelled
    (Stops.cons kind (by decide) (more ++ closing :: rest))
  have step := Parser.reaches_sequence_more (by simp) proper differs inside firstRun kind
  have moreRun := othersRead rest openBraces moreSpelled ends among
  have whole : Takes (Parser.sequence item.parser (.symbol .comma) terminator)
      ⟨first ++ mark :: (more ++ closing :: rest), openBraces⟩
      (first ++ [mark] ++ (more ++ [closing])) (value :: values) ⟨rest, openBraces⟩ :=
    step.trans (moreRun.reaches _)
  simpa using whole

end List

theorem binding {name : String} {kinds : List TokenKind} {value : Expr}
    (reads : Reads (.expression .equality) kinds value) :
    Reads .statement (.keyword .letWord :: .identifier name :: .symbol .assign :: kinds)
      (.binding name value) := by
  intro tokens rest openBraces spelled follows
  rcases List.map_eq_cons_iff.mp spelled with ⟨opener, _, rfl, openerKind, spelled⟩
  rcases List.map_eq_cons_iff.mp spelled with ⟨word, _, rfl, wordKind, spelled⟩
  rcases List.map_eq_cons_iff.mp spelled with ⟨assign, valueTokens, rfl, assignKind, spelled⟩
  have valueRun : Takes (expression .lowest) ⟨valueTokens ++ rest, openBraces⟩ valueTokens value
      ⟨rest, openBraces⟩ :=
    reads.taken (by decide) spelled (Stops.of_semicolon follows)
  apply Reaches.trans (Reaches.look _ _)
  rw [List.cons_append, Token.next_cons, openerKind]
  apply (Reaches.expect openerKind _ openBraces _).trans
  apply ((Parser.takes_name wordKind _ openBraces).reaches _).trans
  apply (Reaches.expect assignKind _ openBraces _).trans
  exact Takes.of_reaches (valueRun.reaches _) (Reaches.terminated follows _)

theorem leaving {kinds : List TokenKind} {value : Expr}
    (reads : Reads (.expression .equality) kinds value) :
    Reads .statement (.keyword .returnWord :: kinds) (.leaving value) := by
  intro tokens rest openBraces spelled follows
  rcases List.map_eq_cons_iff.mp spelled with ⟨opener, valueTokens, rfl, openerKind, spelled⟩
  have valueRun : Takes (expression .lowest) ⟨valueTokens ++ rest, openBraces⟩ valueTokens value
      ⟨rest, openBraces⟩ :=
    reads.taken (by decide) spelled (Stops.of_semicolon follows)
  apply Reaches.trans (Reaches.look _ _)
  rw [List.cons_append, Token.next_cons, openerKind]
  apply (Reaches.expect openerKind _ openBraces _).trans
  exact Takes.of_reaches (valueRun.reaches _) (Reaches.terminated follows _)

/-- An expression is a statement before every token that ends it. -/
theorem takes_statement {kinds : List TokenKind} {value : Expr}
    (reads : Reads (.expression .equality) kinds value)
    (begins : ∃ first others, kinds = first :: others ∧ first.beginsExpression)
    (spelled : tokens.map Token.kind = kinds) (stops : Stops .lowest rest) :
    Takes Parser.statement ⟨tokens ++ rest, openBraces⟩ tokens (.expression value)
      ⟨rest, openBraces⟩ := by
  have run : Takes (expression .lowest) ⟨tokens ++ rest, openBraces⟩ tokens value
      ⟨rest, openBraces⟩ :=
    reads.taken (by decide) spelled stops
  rcases begins with ⟨first, others, rfl, opens⟩
  rcases List.map_eq_cons_iff.mp spelled with ⟨token, more, rfl, rfl, -⟩
  apply Reaches.trans (Reaches.look _ _)
  rw [List.cons_append, Token.next_cons]
  split
  · next kind => simp [kind, TokenKind.beginsExpression] at opens
  · next kind => simp [kind, TokenKind.beginsExpression] at opens
  · exact run.reaches _

theorem noStatements : Reads .statements [] [] := by
  intro tokens closing rest openBraces spelled ends
  rcases List.map_eq_nil_iff.mp spelled with rfl
  exact Parser.takes_sequence_nil (by simp) (by simp) ends rest openBraces

theorem lastExpression {kinds : List TokenKind} {value : Expr}
    (reads : Reads (.expression .equality) kinds value)
    (begins : ∃ first others, kinds = first :: others ∧ first.beginsExpression) :
    Reads .statements kinds [.expression value] := by
  intro tokens closing rest openBraces spelled ends
  rcases begins with ⟨first, others, split, opens⟩
  rcases goesOn ⟨first, others, split, TokenKind.beginsStatement_of_beginsExpression opens⟩ spelled
      (show TokenKind.beginsStatement (.symbol .rightBrace) = false from rfl) (closing :: rest) with
    ⟨differs, inside⟩
  have run : Takes Parser.statement ⟨tokens ++ closing :: rest, openBraces⟩ tokens
      (.expression value) ⟨closing :: rest, openBraces⟩ :=
    reads.takes_statement ⟨first, others, split, opens⟩ spelled
      (Stops.cons ends (by decide) rest)
  exact Parser.takes_sequence_last (by simp) (by simp) (by simp) differs inside run ends

theorem moreStatements {kinds others : List TokenKind} {statement : Stmt} {statements : List Stmt}
    (reads : Reads .statement kinds statement)
    (begins : ∃ first others, kinds = first :: others ∧ first.beginsStatement)
    (othersRead : Reads .statements others statements) :
    Reads .statements (kinds ++ .symbol .semicolon :: others) (statement :: statements) := by
  intro tokens closing rest openBraces spelled ends
  rcases Token.exists_split_at spelled with
    ⟨first, mark, more, rfl, firstSpelled, kind, moreSpelled⟩
  rcases goesOn begins firstSpelled (show TokenKind.beginsStatement (.symbol .rightBrace) = false
      from rfl) (mark :: (more ++ closing :: rest)) with ⟨differs, inside⟩
  have firstRun : Takes Parser.statement ⟨first ++ mark :: (more ++ closing :: rest), openBraces⟩
      first statement ⟨mark :: (more ++ closing :: rest), openBraces⟩ :=
    reads openBraces firstSpelled kind
  have step := Parser.reaches_sequence_more (by simp) (by simp) differs inside firstRun kind
  have moreRun := othersRead rest openBraces moreSpelled ends
  have whole : Takes (Parser.sequence Parser.statement (.symbol .semicolon) (.symbol .rightBrace))
      ⟨first ++ mark :: (more ++ closing :: rest), openBraces⟩
      (first ++ [mark] ++ (more ++ [closing])) (statement :: statements) ⟨rest, openBraces⟩ :=
    step.trans (moreRun.reaches _)
  simpa using whole

end Reads

/-- What is derived is read. -/
theorem Grammar.Derives.reads {α : Type} {nonterminal : Nonterminal α} {kinds : List TokenKind}
    {tree : α} (derivation : Derives nonterminal kinds tree) : Reads nonterminal kinds tree := by
  induction derivation with
  | tighter _ ih => exact ih.tighter
  | binary _ _ _ leftIH rightIH => exact leftIH.binary rightIH
  | unary _ _ ih => exact ih.unary
  | call _ _ calleeIH listIH => exact calleeIH.call listIH
  | index _ _ collectionIH positionIH => exact collectionIH.index positionIH
  | identifier name => exact Reads.identifier name
  | integer denotes => exact Reads.integer denotes
  | string content => exact Reads.string content
  | trueWord => exact Reads.trueWord
  | falseWord => exact Reads.falseWord
  | grouped _ ih => exact ih.grouped
  | array _ ih => exact ih.array
  | hash _ ih => exact ih.hash
  | conditional _ _ conditionIH blockIH => exact conditionIH.conditional blockIH
  | conditionalElse _ _ _ conditionIH blockIH elseIH =>
      exact conditionIH.conditionalElse blockIH elseIH
  | function _ _ listIH blockIH => exact listIH.function blockIH
  | listedExpression _ ih =>
      intro tokens rest openBraces spelled stops
      exact ih.taken (by decide) spelled stops
  | listedPair _ _ keyIH valueIH => exact keyIH.listedPair valueIH
  | listedName name => exact Reads.listedName name
  | @noItems _ item => exact Reads.noItems item
  | lastItem item ih => exact ih.lastItem (item.beginsStatement rfl)
  | moreItems item _ itemIH listIH => exact itemIH.moreItems (item.beginsStatement rfl) listIH
  | binding _ _ ih => exact ih.binding
  | leaving _ ih => exact ih.leaving
  | expression expression ih =>
      intro tokens rest openBraces spelled follows
      exact ih.takes_statement (expression.begins rfl) spelled (.of_semicolon follows)
  | noStatements => exact Reads.noStatements
  | lastExpression expression ih => exact ih.lastExpression (expression.begins rfl)
  | moreStatements statement _ statementIH statementsIH =>
      exact statementIH.moreStatements (statement.beginsStatement rfl) statementsIH
  | block _ ih => exact ih.block

end Ember
