import Ember.Syntax.Basic
import Ember.Token.Basic

/-!
# The grammar of the language

Which trees the grammar derives from which kinds of tokens. Binary operators stand
in four tiers and associate to the left; below them are the operators in front of
an operand, then calls and index expressions, then what stands for itself.

Every rule of `Derives` is one production of the grammar. Nothing here speaks of
how a tree is found.
-/

namespace Ember

/-- The symbol of an operator in front of an operand. -/
def UnaryOperator.symbol : UnaryOperator → Symbol
  | .negate => .minus
  | .not => .bang

/-- The symbol of an operator between two operands. -/
def BinaryOperator.symbol : BinaryOperator → Symbol
  | .add => .plus
  | .subtract => .minus
  | .multiply => .asterisk
  | .divide => .slash
  | .less => .less
  | .greater => .greater
  | .equal => .equal
  | .notEqual => .notEqual

namespace Grammar

/-- The tiers of expressions, from the loosest to the tightest. -/
inductive Tier where
  | equality
  | comparison
  | sum
  | product
  | unary
  /-- Operands with calls and index expressions behind them. -/
  | suffixed
  | primary
  deriving DecidableEq, Repr

namespace Tier

/-- The next tighter tier; there is none beyond the last. -/
def tighter : Tier → Tier
  | .equality => .comparison
  | .comparison => .sum
  | .sum => .product
  | .product => .unary
  | .unary => .suffixed
  | .suffixed => .primary
  | .primary => .primary

/-- The place of a tier, counted from the loosest one. -/
def rank : Tier → Nat
  | .equality => 0
  | .comparison => 1
  | .sum => 2
  | .product => 3
  | .unary => 4
  | .suffixed => 5
  | .primary => 6

theorem rank_le (tier : Tier) : tier.rank ≤ 6 := by
  cases tier <;> decide

theorem eq_of_rank_eq {left right : Tier} (same : left.rank = right.rank) : left = right := by
  cases left <;> cases right <;> first | rfl | simp [rank] at same

theorem rank_tighter {tier : Tier} (further : tier.rank < 6) :
    tier.tighter.rank = tier.rank + 1 := by
  cases tier <;> first | rfl | simp [rank] at further

end Tier

end Grammar

open Grammar (Tier)

/-- The tier on which an operator stands. -/
def BinaryOperator.tier : BinaryOperator → Tier
  | .equal | .notEqual => .equality
  | .less | .greater => .comparison
  | .add | .subtract => .sum
  | .multiply | .divide => .product

/-- Whether a token can stand first in an expression. -/
def TokenKind.beginsExpression : TokenKind → Bool
  | .identifier _ | .integer _ | .string _ => true
  | .keyword .trueWord | .keyword .falseWord | .keyword .ifWord | .keyword .fnWord => true
  | .symbol .bang | .symbol .minus | .symbol .leftParen | .symbol .leftBracket
  | .symbol .leftBrace => true
  | _ => false

/-- Whether a token can stand first in a statement. -/
def TokenKind.beginsStatement : TokenKind → Bool
  | .keyword .letWord | .keyword .returnWord => true
  | kind => kind.beginsExpression

theorem TokenKind.beginsStatement_of_beginsExpression {kind : TokenKind}
    (begins : kind.beginsExpression) : kind.beginsStatement := by
  unfold beginsStatement
  split <;> first | rfl | exact begins

namespace Grammar

/-- What the lists of the grammar hold. -/
inductive Item : Type → Type where
  | expression : Item Expr
  | pair : Item (Expr × Expr)
  | name : Item String

/-- The nonterminals, each with the type of its trees. -/
inductive Nonterminal : Type → Type 1 where
  | expression (tier : Tier) : Nonterminal Expr
  | item {α : Type} (item : Item α) : Nonterminal α
  /-- Items with commas between them. -/
  | list {α : Type} (item : Item α) : Nonterminal (List α)
  | statement : Nonterminal Stmt
  /-- Statements that end in semicolons, and perhaps an expression at the end. -/
  | statements : Nonterminal (List Stmt)
  | block : Nonterminal Block

namespace Nonterminal

/-- Whether a nonterminal needs tokens. -/
def isSubstantial {α : Type} : Nonterminal α → Bool
  | .expression _ | .item _ | .statement | .block => true
  | .list _ | .statements => false

/-- Whether a token can stand first in what a nonterminal derives. -/
def canBegin {α : Type} : Nonterminal α → TokenKind → Bool
  | .statement, kind | .statements, kind => kind.beginsStatement
  | .expression _, kind | .item _, kind | .list _, kind | .block, kind => kind.beginsExpression

end Nonterminal

/-- The trees that a nonterminal derives from the kinds of a run of tokens. -/
inductive Derives : {α : Type} → Nonterminal α → List TokenKind → α → Prop where
  /-- A tighter expression stands on every looser tier. -/
  | tighter {tier : Tier} {kinds : List TokenKind} {tree : Expr} :
      Derives (.expression tier.tighter) kinds tree → Derives (.expression tier) kinds tree
  /-- On the left of an operator its own tier goes on, so operators of one tier
  associate to the left. -/
  | binary (operator : BinaryOperator) {leftKinds rightKinds : List TokenKind} {left right : Expr} :
      Derives (.expression operator.tier) leftKinds left →
        Derives (.expression operator.tier.tighter) rightKinds right →
          Derives (.expression operator.tier)
            (leftKinds ++ .symbol operator.symbol :: rightKinds) (.binary operator left right)
  | unary (operator : UnaryOperator) {kinds : List TokenKind} {operand : Expr} :
      Derives (.expression .unary) kinds operand →
        Derives (.expression .unary) (.symbol operator.symbol :: kinds) (.unary operator operand)
  | call {calleeKinds kinds : List TokenKind} {callee : Expr} {arguments : List Expr} :
      Derives (.expression .suffixed) calleeKinds callee →
        Derives (.list .expression) kinds arguments →
          Derives (.expression .suffixed)
            (calleeKinds ++ .symbol .leftParen :: (kinds ++ [.symbol .rightParen]))
            (.call callee arguments)
  | index {collectionKinds kinds : List TokenKind} {collection position : Expr} :
      Derives (.expression .suffixed) collectionKinds collection →
        Derives (.expression .equality) kinds position →
          Derives (.expression .suffixed)
            (collectionKinds ++ .symbol .leftBracket :: (kinds ++ [.symbol .rightBracket]))
            (.index collection position)
  | identifier (name : String) :
      Derives (.expression .primary) [.identifier name] (.identifier name)
  /-- A numeral stands for the number it denotes, which must be in the range. -/
  | integer {digits : String} {value : Integer} :
      value.toInt = (Nat.ofDigitChars 10 digits.toList 0 : Nat) →
        Derives (.expression .primary) [.integer digits] (.integer value)
  | string (content : String) :
      Derives (.expression .primary) [.string content] (.string content)
  | trueWord : Derives (.expression .primary) [.keyword .trueWord] (.boolean true)
  | falseWord : Derives (.expression .primary) [.keyword .falseWord] (.boolean false)
  | grouped {kinds : List TokenKind} {tree : Expr} :
      Derives (.expression .equality) kinds tree →
        Derives (.expression .primary)
          (.symbol .leftParen :: (kinds ++ [.symbol .rightParen])) tree
  | array {kinds : List TokenKind} {elements : List Expr} :
      Derives (.list .expression) kinds elements →
        Derives (.expression .primary)
          (.symbol .leftBracket :: (kinds ++ [.symbol .rightBracket])) (.array elements)
  | hash {kinds : List TokenKind} {pairs : List (Expr × Expr)} :
      Derives (.list .pair) kinds pairs →
        Derives (.expression .primary)
          (.symbol .leftBrace :: (kinds ++ [.symbol .rightBrace])) (.hash pairs)
  | conditional {kinds blockKinds : List TokenKind} {condition : Expr} {consequence : Block} :
      Derives (.expression .equality) kinds condition →
        Derives .block blockKinds consequence →
          Derives (.expression .primary)
            (.keyword .ifWord :: .symbol .leftParen :: (kinds ++ .symbol .rightParen :: blockKinds))
            (.conditional condition consequence none)
  | conditionalElse {kinds blockKinds elseKinds : List TokenKind} {condition : Expr}
      {consequence alternative : Block} :
      Derives (.expression .equality) kinds condition →
        Derives .block blockKinds consequence →
          Derives .block elseKinds alternative →
            Derives (.expression .primary)
              (.keyword .ifWord :: .symbol .leftParen ::
                (kinds ++ .symbol .rightParen :: (blockKinds ++ .keyword .elseWord :: elseKinds)))
              (.conditional condition consequence (some alternative))
  | function {kinds blockKinds : List TokenKind} {parameters : List String} {body : Block} :
      Derives (.list .name) kinds parameters →
        Derives .block blockKinds body →
          Derives (.expression .primary)
            (.keyword .fnWord :: .symbol .leftParen :: (kinds ++ .symbol .rightParen :: blockKinds))
            (.function parameters body)
  | listedExpression {kinds : List TokenKind} {tree : Expr} :
      Derives (.expression .equality) kinds tree → Derives (.item .expression) kinds tree
  | listedPair {keyKinds valueKinds : List TokenKind} {key value : Expr} :
      Derives (.expression .equality) keyKinds key →
        Derives (.expression .equality) valueKinds value →
          Derives (.item .pair) (keyKinds ++ .symbol .colon :: valueKinds) (key, value)
  | listedName (name : String) : Derives (.item .name) [.identifier name] name
  | noItems {α : Type} {item : Item α} : Derives (.list item) [] []
  | lastItem {α : Type} {item : Item α} {kinds : List TokenKind} {value : α} :
      Derives (.item item) kinds value → Derives (.list item) kinds [value]
  /-- A comma stands behind an item; the list behind it may be empty. -/
  | moreItems {α : Type} {item : Item α} {kinds others : List TokenKind} {value : α}
      {values : List α} :
      Derives (.item item) kinds value →
        Derives (.list item) others values →
          Derives (.list item) (kinds ++ .symbol .comma :: others) (value :: values)
  | binding (name : String) {kinds : List TokenKind} {value : Expr} :
      Derives (.expression .equality) kinds value →
        Derives .statement
          (.keyword .letWord :: .identifier name :: .symbol .assign :: kinds) (.binding name value)
  | leaving {kinds : List TokenKind} {value : Expr} :
      Derives (.expression .equality) kinds value →
        Derives .statement (.keyword .returnWord :: kinds) (.leaving value)
  | expression {kinds : List TokenKind} {value : Expr} :
      Derives (.expression .equality) kinds value → Derives .statement kinds (.expression value)
  | noStatements : Derives .statements [] []
  /-- Only an expression can stand at the end without a semicolon. -/
  | lastExpression {kinds : List TokenKind} {value : Expr} :
      Derives (.expression .equality) kinds value →
        Derives .statements kinds [.expression value]
  | moreStatements {kinds others : List TokenKind} {statement : Stmt} {statements : List Stmt} :
      Derives .statement kinds statement →
        Derives .statements others statements →
          Derives .statements (kinds ++ .symbol .semicolon :: others) (statement :: statements)
  | block {kinds : List TokenKind} {statements : List Stmt} :
      Derives .statements kinds statements →
        Derives .block (.symbol .leftBrace :: (kinds ++ [.symbol .rightBrace])) statements

namespace Derives

/-- No tree is derived from an illegal token. -/
theorem illegal_notMem {α : Type} {nonterminal : Nonterminal α} {kinds : List TokenKind} {tree : α}
    (derivation : Derives nonterminal kinds tree) (fault : LexicalFault) :
    .illegal fault ∉ kinds := by
  induction derivation with
  | tighter _ ih | listedExpression _ ih | lastItem _ ih | expression _ ih
  | lastExpression _ ih => exact ih
  | binary _ _ _ leftIH rightIH | listedPair _ _ leftIH rightIH | moreItems _ _ leftIH rightIH
  | moreStatements _ _ leftIH rightIH | call _ _ leftIH rightIH | index _ _ leftIH rightIH
  | conditional _ _ leftIH rightIH | function _ _ leftIH rightIH => simp [leftIH, rightIH]
  | conditionalElse _ _ _ conditionIH consequenceIH alternativeIH =>
      simp [conditionIH, consequenceIH, alternativeIH]
  | unary _ _ ih | grouped _ ih | array _ ih | hash _ ih | binding _ _ ih | leaving _ ih
  | block _ ih => simp [ih]
  | identifier | integer | string | trueWord | falseWord | listedName | noItems
  | noStatements => simp

/-- No tree is derived from a numeral of a number outside the range. -/
theorem large_notMem {α : Type} {nonterminal : Nonterminal α} {kinds : List TokenKind} {tree : α}
    (derivation : Derives nonterminal kinds tree) {digits : String}
    (large : Integer.ofDigits? digits = none) : .integer digits ∉ kinds := by
  induction derivation with
  | tighter _ ih | listedExpression _ ih | lastItem _ ih | expression _ ih
  | lastExpression _ ih => exact ih
  | binary _ _ _ leftIH rightIH | listedPair _ _ leftIH rightIH | moreItems _ _ leftIH rightIH
  | moreStatements _ _ leftIH rightIH | call _ _ leftIH rightIH | index _ _ leftIH rightIH
  | conditional _ _ leftIH rightIH | function _ _ leftIH rightIH => simp [leftIH, rightIH]
  | conditionalElse _ _ _ conditionIH consequenceIH alternativeIH =>
      simp [conditionIH, consequenceIH, alternativeIH]
  | unary _ _ ih | grouped _ ih | array _ ih | hash _ ih | binding _ _ ih | leaving _ ih
  | block _ ih => simp [ih]
  | integer denoted =>
      have small := Integer.ofDigits?_eq_some_iff.mpr denoted
      simp only [List.mem_singleton, TokenKind.integer.injEq]
      rintro rfl
      rw [large] at small
      cases small
  | identifier | string | trueWord | falseWord | listedName | noItems | noStatements => simp

/-- An expression on some tier stands on all looser ones. -/
theorem looser {tier target : Tier} {kinds : List TokenKind} {tree : Expr}
    (derivation : Derives (.expression tier) kinds tree) (loose : target.rank ≤ tier.rank) :
    Derives (.expression target) kinds tree := by
  rcases Nat.exists_eq_add_of_le loose with ⟨steps, distance⟩
  clear loose
  induction steps generalizing target with
  | zero =>
      obtain rfl : tier = target := Tier.eq_of_rank_eq distance
      exact derivation
  | succ steps ih =>
      have climbs : target.tighter.rank = target.rank + 1 := by
        apply Tier.rank_tighter
        have bounded := tier.rank_le
        omega
      exact .tighter (ih (by omega))

theorem begins {α : Type} {nonterminal : Nonterminal α} {kinds : List TokenKind} {tree : α}
    (derivation : Derives nonterminal kinds tree) (substantial : nonterminal.isSubstantial) :
    ∃ first others, kinds = first :: others ∧ nonterminal.canBegin first := by
  induction derivation with
  | tighter _ ih | listedExpression _ ih => exact ih rfl
  | expression _ ih =>
      rcases ih rfl with ⟨first, others, rfl, opens⟩
      exact ⟨first, others, rfl, TokenKind.beginsStatement_of_beginsExpression opens⟩
  | binary _ _ _ leftIH _ | listedPair _ _ leftIH _ | call _ _ leftIH _ | index _ _ leftIH _ =>
      rcases leftIH rfl with ⟨first, others, rfl, opens⟩
      exact ⟨first, _, rfl, opens⟩
  | unary operator => exact ⟨_, _, rfl, by cases operator <;> rfl⟩
  | identifier | integer | string | trueWord | falseWord | grouped | array | hash | conditional
  | conditionalElse | function | listedName | binding | leaving | block =>
      exact ⟨_, _, rfl, rfl⟩
  | noItems | lastItem | moreItems | noStatements | lastExpression | moreStatements =>
      cases substantial

theorem beginsStatement {α : Type} {nonterminal : Nonterminal α} {kinds : List TokenKind} {tree : α}
    (derivation : Derives nonterminal kinds tree) (substantial : nonterminal.isSubstantial) :
    ∃ first others, kinds = first :: others ∧ first.beginsStatement := by
  rcases derivation.begins substantial with ⟨first, others, split, opens⟩
  refine ⟨first, others, split, ?_⟩
  cases nonterminal with
  | statement | statements => exact opens
  | expression | item | list | block =>
      exact TokenKind.beginsStatement_of_beginsExpression opens

/-- The ways in which statements are put together. Of other trees nothing is said:
an index of `Derives` that is a type cannot be inverted, so the nonterminal is. -/
def Decomposes : {α : Type} → Nonterminal α → List TokenKind → α → Prop
  | _, .statements, kinds, statements =>
    (kinds = [] ∧ statements = []) ∨
      (∃ value, Derives (.expression .equality) kinds value ∧ statements = [.expression value]) ∨
      ∃ firstKinds others first rest, Derives .statement firstKinds first ∧
        Derives .statements others rest ∧ kinds = firstKinds ++ .symbol .semicolon :: others ∧
        statements = first :: rest
  | _, .expression _, _, _ | _, .item _, _, _ | _, .list _, _, _ | _, .statement, _, _
  | _, .block, _, _ => True

theorem decomposes {α : Type} {nonterminal : Nonterminal α} {kinds : List TokenKind} {tree : α}
    (derivation : Derives nonterminal kinds tree) : Decomposes nonterminal kinds tree := by
  induction derivation with
  | noStatements => exact .inl ⟨rfl, rfl⟩
  | lastExpression derivation => exact .inr (.inl ⟨_, derivation, rfl⟩)
  | moreStatements first others => exact .inr (.inr ⟨_, _, _, _, first, others, rfl, rfl⟩)
  | _ => trivial

end Derives

end Grammar

end Ember
