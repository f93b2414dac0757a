import Ember.Proofs.Grammar.Basic
import Ember.Proofs.Syntax.Tree
import Ember.Proofs.Token.Lexing
import Ember.Syntax.Printer

/-!
# The tokens of printed trees

Printing writes one text for every tree, and the lexer reads it as the tokens that
are listed here. Names must be words that are free to use, numbers must not be
negative and strings must hold no quotes; the printer writes them as they are.
-/

namespace Ember

open Text (joined)

/-- Kinds in parentheses. -/
def inParens (kinds : List TokenKind) : List TokenKind :=
  .symbol .leftParen :: (kinds ++ [.symbol .rightParen])

/-- Kinds with commas between them. -/
def listed : List (List TokenKind) → List TokenKind
  | [] => []
  | [kinds] => kinds
  | kinds :: next :: rest => kinds ++ .symbol .comma :: listed (next :: rest)

/-- The kinds of a block with these statements. -/
def blockKinds (statements : List (List TokenKind)) : List TokenKind :=
  .symbol .leftBrace :: (statements.flatten ++ [.symbol .rightBrace])

mutual

/-- The kinds of the tokens of a printed expression. -/
def Expr.kinds : Expr → List TokenKind
  | .identifier name => [.identifier name]
  | .integer value => [.integer value.render]
  | .string content => [.string content]
  | .boolean value => [.keyword (if value then .trueWord else .falseWord)]
  | .array elements =>
    .symbol .leftBracket :: (listed (Expr.kindsEach elements) ++ [.symbol .rightBracket])
  | .hash pairs =>
    .symbol .leftBrace :: (listed (Expr.kindsPairs pairs) ++ [.symbol .rightBrace])
  | .unary operator operand => inParens (.symbol operator.symbol :: operand.kinds)
  | .binary operator left right =>
    inParens (left.kinds ++ .symbol operator.symbol :: right.kinds)
  | .conditional condition consequence alternative =>
    .keyword .ifWord :: (condition.kinds ++
      (blockKinds (Stmt.kindsEach consequence) ++ Stmt.kindsAlternative alternative))
  | .function parameters body =>
    .keyword .fnWord :: (inParens (listed (parameters.map fun name => [.identifier name])) ++
      blockKinds (Stmt.kindsEach body))
  | .call callee arguments => callee.kinds ++ inParens (listed (Expr.kindsEach arguments))
  | .index collection position =>
    inParens (collection.kinds ++
      .symbol .leftBracket :: (position.kinds ++ [.symbol .rightBracket]))
termination_by structural expression => expression

/-- The kinds of some printed expressions, in order. -/
def Expr.kindsEach : List Expr → List (List TokenKind)
  | [] => []
  | expression :: rest => expression.kinds :: Expr.kindsEach rest
termination_by structural expressions => expressions

/-- The kinds of the pairs of a printed hash literal, in order. -/
def Expr.kindsPairs : List (Expr × Expr) → List (List TokenKind)
  | [] => []
  | (key, value) :: rest => (key.kinds ++ .symbol .colon :: value.kinds) :: Expr.kindsPairs rest
termination_by structural pairs => pairs

/-- The kinds of a printed statement, with its semicolon. -/
def Stmt.kinds : Stmt → List TokenKind
  | .binding name value =>
    .keyword .letWord :: .identifier name :: .symbol .assign ::
      (value.kinds ++ [.symbol .semicolon])
  | .leaving value => .keyword .returnWord :: (value.kinds ++ [.symbol .semicolon])
  | .expression value => value.kinds ++ [.symbol .semicolon]
termination_by structural statement => statement

/-- The kinds of some printed statements, in order. -/
def Stmt.kindsEach : List Stmt → List (List TokenKind)
  | [] => []
  | statement :: rest => statement.kinds :: Stmt.kindsEach rest
termination_by structural statements => statements

/-- The kinds of a printed `else` branch. -/
def Stmt.kindsAlternative : Option (List Stmt) → List TokenKind
  | none => []
  | some block => .keyword .elseWord :: blockKinds (Stmt.kindsEach block)
termination_by structural alternative => alternative

end

@[simp] theorem Expr.kindsEach_eq_map (expressions : List Expr) :
    Expr.kindsEach expressions = expressions.map Expr.kinds := by
  induction expressions with
  | nil => rfl
  | cons expression rest ih => rw [Expr.kindsEach, List.map_cons, ih]

@[simp] theorem Expr.kindsPairs_eq_map (pairs : List (Expr × Expr)) :
    Expr.kindsPairs pairs =
      pairs.map fun pair => pair.1.kinds ++ .symbol .colon :: pair.2.kinds := by
  induction pairs with
  | nil => rfl
  | cons pair rest ih => rw [Expr.kindsPairs, List.map_cons, ih]

@[simp] theorem Stmt.kindsEach_eq_map (statements : List Stmt) :
    Stmt.kindsEach statements = statements.map Stmt.kinds := by
  induction statements with
  | nil => rfl
  | cons statement rest ih => rw [Stmt.kindsEach, List.map_cons, ih]

/-- Whether an expression is read back as it is written, apart from what stands
inside it. -/
def Expr.isWritable : Expr → Bool
  | .identifier name => isName name
  | .integer value => decide (0 ≤ value.toInt)
  | .string content => !content.toList.contains '"'
  | .function parameters _ => parameters.all isName
  | _ => true

/-- Whether a statement is read back as it is written, apart from what stands inside
it. -/
def Stmt.isWritable : Stmt → Bool
  | .binding name _ => isName name
  | _ => true

/-- Whether all of an expression is read back as it is written. -/
abbrev Expr.writable (expression : Expr) : Bool :=
  expression.all Expr.isWritable Stmt.isWritable

/-- Whether all of a statement is read back as it is written. -/
abbrev Stmt.writable (statement : Stmt) : Bool :=
  statement.all Expr.isWritable Stmt.isWritable

/-- The text of a number without a sign. -/
theorem Integer.render_of_nonneg {value : Integer} (nonnegative : 0 ≤ value.toInt) :
    value.render = value.toInt.natAbs.repr := by
  rw [Integer.render]
  obtain ⟨magnitude, same⟩ := Int.eq_ofNat_of_zero_le nonnegative
  rw [same]
  rfl

/-- The text of a number with a sign. -/
theorem Integer.render_of_neg {value : Integer} (negative : value.toInt < 0) :
    value.render = "-" ++ value.toInt.natAbs.repr := by
  rw [Integer.render]
  obtain ⟨magnitude, same⟩ := Int.eq_negSucc_of_lt_zero negative
  rw [same]
  rfl

/-- The decimal texts of different numbers are different. -/
theorem Integer.render_injective {left right : Integer} (same : left.render = right.render) :
    left = right := by
  have unsigned (number magnitude : Nat) : number.repr ≠ "-" ++ magnitude.repr := by
    intro signed
    have member : '-' ∈ Nat.toDigits 10 number := by
      rw [← Nat.toList_repr, signed, String.toList_append]
      exact List.mem_cons_self
    have digit : Char.isDigit '-' := Nat.isDigit_of_mem_toDigits (by decide) (by decide) member
    cases digit
  have magnitudes {first second : Nat} (same : first.repr = second.repr) : first = second := by
    have sameDigits : Nat.toDigits 10 first = Nat.toDigits 10 second := by
      rw [← Nat.toList_repr, same, Nat.toList_repr]
    calc
      first = Nat.ofDigitChars 10 (Nat.toDigits 10 first) 0 := Nat.ofDigitChars_ten_toDigits.symm
      _ = Nat.ofDigitChars 10 (Nat.toDigits 10 second) 0 := by rw [sameDigits]
      _ = second := Nat.ofDigitChars_ten_toDigits
  apply Integer.ext
  by_cases leftNegative : left.toInt < 0 <;> by_cases rightNegative : right.toInt < 0
  · rw [render_of_neg leftNegative, render_of_neg rightNegative, String.append_right_inj] at same
    have sameMagnitude := magnitudes same
    omega
  · rw [render_of_neg leftNegative, render_of_nonneg (Int.not_lt.mp rightNegative)] at same
    exact absurd same.symm (unsigned _ _)
  · rw [render_of_neg rightNegative, render_of_nonneg (Int.not_lt.mp leftNegative)] at same
    exact absurd same (unsigned _ _)
  · rw [render_of_nonneg (Int.not_lt.mp leftNegative),
      render_of_nonneg (Int.not_lt.mp rightNegative)] at same
    have sameMagnitude := magnitudes same
    omega

namespace Spells

variable {before : List Char → Prop} {text : String} {kinds : List TokenKind}

theorem cast {others : List TokenKind} (spelled : Spells before text kinds)
    (same : kinds = others) : Spells before text others :=
  same ▸ spelled

/-- A symbol that nothing continues. -/
theorem mark (sign : Symbol) (plain : ∀ rest, sign.Ends rest) :
    Spells before sign.text [.symbol sign] :=
  (symbol sign).weaken fun rest _ => plain rest

theorem keyword (reserved : Keyword) : Spells EndsWord reserved.text [.keyword reserved] := by
  have isWord : Lexeme.isWord reserved.text := by cases reserved <;> decide
  have spelled := word isWord
  rwa [TokenKind.ofWord, Keyword.ofText?_text] at spelled

theorem name {name : String} (named : isName name) :
    Spells EndsWord name [.identifier name] := by
  rw [isName, Bool.and_eq_true, Option.isNone_iff_eq_none] at named
  have spelled := word named.1
  rwa [TokenKind.ofWord, named.2] at spelled

/-- The numeral of a magnitude. -/
theorem digits (magnitude : Nat) : Spells EndsWord magnitude.repr [.integer magnitude.repr] := by
  apply numeral
  · rw [Nat.toList_repr]
    exact Nat.toDigits_ne_nil
  · intro char member
    rw [Nat.toList_repr] at member
    exact Nat.isDigit_of_mem_toDigits (by decide) (by decide) member

theorem integer {value : Integer} (nonnegative : 0 ≤ value.toInt) :
    Spells EndsWord value.render [.integer value.render] := by
  rw [Integer.render_of_nonneg nonnegative]
  exact digits _

/-- A space ends what stands before it. -/
theorem spaced (spelled : Spells EndsWord text kinds) : Spells before (text ++ " ") kinds := by
  have whole : Spells before (text ++ " ") (kinds ++ []) := by
    apply spelled.append space
    intro rest _ char member
    cases member
    rfl
  rwa [List.append_nil] at whole

/-- A symbol ends the words before it. -/
theorem endsWord (sign : Symbol) (rest : List Char) : EndsWord (sign.text.toList ++ rest) := by
  intro char member
  cases sign <;> (cases member; rfl)

/-- A text that a symbol follows. -/
theorem close (spelled : Spells EndsWord text kinds) (sign : Symbol)
    (plain : ∀ rest, sign.Ends rest) :
    Spells before (text ++ sign.text) (kinds ++ [.symbol sign]) :=
  spelled.append (mark sign plain) fun rest _ => endsWord sign rest

/-- A text behind a symbol. -/
theorem opened (spelled : Spells before text kinds) (sign : Symbol)
    (plain : ∀ rest, sign.Ends rest) :
    Spells before (sign.text ++ text) (.symbol sign :: kinds) :=
  (symbol sign).append spelled fun _ _ => plain _

/-- A symbol with a space behind it. -/
theorem markSpaced (sign : Symbol) (plain : ∀ rest, sign.Ends rest) :
    Spells before (sign.text ++ " ") [.symbol sign] :=
  (symbol sign).append space fun _ _ => plain _

/-- Texts with commas between them. -/
theorem list {α : Type} {render : α → String} {spelling : α → List TokenKind} {items : List α}
    (each : ∀ item ∈ items, Spells EndsWord (render item) (spelling item)) :
    Spells EndsWord (joined ", " (items.map render)) (listed (items.map spelling)) := by
  induction items with
  | nil => exact empty
  | cons item rest ih =>
      rw [List.forall_mem_cons] at each
      cases rest with
      | nil => exact each.1
      | cons next others =>
          have comma : Spells (fun _ => True) (Symbol.comma.text ++ " ") [.symbol .comma] :=
            markSpaced .comma fun _ => trivial
          have first := each.1.append comma fun rest _ => endsWord .comma (' ' :: rest)
          have whole := first.append (ih each.2) fun _ _ => trivial
          rw [List.append_assoc] at whole
          exact whole

/-- The tokens of an array literal, from those of its elements. -/
theorem array {α : Type} {render : α → String} {spelling : α → List TokenKind} {items : List α}
    (each : ∀ item ∈ items, Spells EndsWord (render item) (spelling item)) :
    Spells EndsWord ("[" ++ joined ", " (items.map render) ++ "]")
      (.symbol .leftBracket :: (listed (items.map spelling) ++ [.symbol .rightBracket])) := by
  have inside : Spells EndsWord _ (listed (items.map spelling)) := list each
  exact (inside.opened .leftBracket fun _ => trivial).close .rightBracket fun _ => trivial

/-- The tokens of a hash literal, from those of its keys and of its values. -/
theorem hash {α : Type} {keyText valueText : α → String}
    {keySpelling valueSpelling : α → List TokenKind} {items : List α}
    (keys : ∀ item ∈ items, Spells EndsWord (keyText item) (keySpelling item))
    (values : ∀ item ∈ items, Spells EndsWord (valueText item) (valueSpelling item)) :
    Spells EndsWord
      (inBraces (joined ", " (items.map fun item => keyText item ++ ": " ++ valueText item)))
      (.symbol .leftBrace :: (listed
        (items.map fun item => keySpelling item ++ .symbol .colon :: valueSpelling item) ++
          [.symbol .rightBrace])) := by
  have each : ∀ item ∈ items, Spells EndsWord (keyText item ++ ": " ++ valueText item)
      (keySpelling item ++ .symbol .colon :: valueSpelling item) := by
    intro item member
    have colon : Spells (fun _ => True) (Symbol.colon.text ++ " ") [.symbol .colon] :=
      markSpaced .colon fun _ => trivial
    have first := (keys item member).append colon fun rest _ =>
      endsWord .colon (' ' :: rest)
    exact (first.append (values item member) fun _ _ => trivial).cast (by simp)
  have inside : Spells EndsWord _ _ := list each
  exact (inside.opened .leftBrace fun _ => trivial).close .rightBrace fun _ => trivial

/-- Statements with spaces between them. -/
theorem statements {items : List Stmt}
    (each : ∀ item ∈ items, ∀ before, Spells before item.render item.kinds) :
    Spells before (joined " " (items.map Stmt.render)) (items.map Stmt.kinds).flatten := by
  induction items with
  | nil => exact empty
  | cons item rest ih =>
      rw [List.forall_mem_cons] at each
      cases rest with
      | nil =>
          rw [List.map_cons, List.map_nil, List.map_cons, List.map_nil, List.flatten_cons,
            List.flatten_nil, List.append_nil]
          exact each.1 before
      | cons next others =>
          have first : Spells (fun _ => True) (item.render ++ " ") (item.kinds ++ []) :=
            (each.1 fun _ => True).append space fun _ _ => trivial
          have whole := first.append (ih each.2) fun _ _ => trivial
          rw [List.append_nil] at whole
          exact whole

/-- A block of statements. -/
theorem block {items : List Stmt}
    (each : ∀ item ∈ items, ∀ before, Spells before item.render item.kinds) :
    Spells before (inBraces (joined " " (items.map Stmt.render)))
      (blockKinds (items.map Stmt.kinds)) := by
  have inside : Spells EndsWord (joined " " (items.map Stmt.render))
      (items.map Stmt.kinds).flatten :=
    statements each
  have whole : Spells before _ _ :=
    (inside.opened .leftBrace fun _ => trivial).close .rightBrace fun _ => trivial
  exact whole

end Spells

theorem UnaryOperator.text_symbol (operator : UnaryOperator) :
    operator.symbol.text = operator.text := by
  cases operator <;> rfl

theorem BinaryOperator.text_symbol (operator : BinaryOperator) :
    operator.symbol.text = operator.text := by
  cases operator <;> rfl

/-- A printed expression begins with a token that can begin an expression. -/
theorem begins_kinds :
    Hereditary
      (fun expression =>
        ∃ first others, expression.kinds = first :: others ∧ first.beginsExpression)
      (fun _ => True) where
  identifier _ := ⟨_, _, rfl, rfl⟩
  integer _ := ⟨_, _, rfl, rfl⟩
  string _ := ⟨_, _, rfl, rfl⟩
  boolean value := ⟨_, _, rfl, by cases value <;> rfl⟩
  array _ _ := ⟨_, _, rfl, rfl⟩
  hash _ _ := ⟨_, _, rfl, rfl⟩
  unary _ _ _ := ⟨_, _, rfl, rfl⟩
  binary _ _ _ _ _ := ⟨_, _, rfl, rfl⟩
  conditional _ _ _ _ _ _ := ⟨_, _, rfl, rfl⟩
  function _ _ _ := ⟨_, _, rfl, rfl⟩
  call callee arguments calleeIH _ := by
    rcases calleeIH with ⟨first, others, split, begins⟩
    exact ⟨first, others ++ _, by rw [Expr.kinds, split, List.cons_append], begins⟩
  index _ _ _ _ := ⟨_, _, rfl, rfl⟩
  binding _ _ _ := trivial
  leaving _ _ := trivial
  expression _ _ := trivial

/-- A text whose first token can begin an expression continues no operator. -/
theorem endsOperator_of_lexKinds {input : List Char} {kind : TokenKind} {others : List TokenKind}
    (same : lexKinds input = kind :: others) (begins : kind.beginsExpression) :
    EndsOperator input := by
  intro continued
  cases input with
  | nil => cases continued
  | cons char more =>
      cases continued
      rw [lexKinds_cons (by decide), List.cons.injEq] at same
      rw [← same.1] at begins
      cases more with
      | nil => cases begins
      | cons second rest =>
          rw [Lexeme.read] at begins
          split at begins
          · next pair =>
              unfold Symbol.ofPair? at pair
              split at pair
              · cases pair
                cases begins
              · cases pair
                cases begins
              · cases pair
          · cases begins

/-- Printing and reading keep to the kinds that are listed, for trees that can be
read back. -/
theorem spells_render :
    Hereditary
      (fun expression => expression.writable → Spells EndsWord expression.render expression.kinds)
      (fun statement => statement.writable →
        ∀ before, Spells before statement.render statement.kinds) where
  identifier name writable := by
    exact .name writable
  integer value writable := by
    exact .integer (of_decide_eq_true writable)
  string content writable := by
    apply Spells.string
    simpa [Expr.all, Expr.isWritable] using writable
  boolean value _ := by
    cases value with
    | true => exact .keyword .trueWord
    | false => exact .keyword .falseWord
  array elements ih writable := by
    rw [Expr.all_array] at writable
    rw [Expr.render, Expr.kinds, Expr.renderAll_eq_map, Expr.kindsEach_eq_map]
    exact .array fun element member => ih element member (writable.2 element member)
  hash pairs ih writable := by
    rw [Expr.all_hash] at writable
    rw [Expr.render, Expr.kinds, Expr.renderPairs_eq_map, Expr.kindsPairs_eq_map]
    exact .hash (fun pair member => (ih pair member).1 (writable.2 pair member).1)
      fun pair member => (ih pair member).2 (writable.2 pair member).2
  unary operator operand ih writable := by
    rw [Expr.all_unary] at writable
    have operandSpelled := ih writable.2
    have apart : ∀ rest, EndsWord rest → operator.symbol.Ends (operand.render.toList ++ rest) := by
      intro rest ends
      rcases begins_kinds.everyExpr operand with ⟨first, others, split, begins⟩
      have same := operandSpelled rest ends
      rw [split, List.cons_append] at same
      cases operator with
      | negate => trivial
      | not => exact endsOperator_of_lexKinds same begins
    have spelled := (Spells.symbol operator.symbol).opened .leftParen fun _ => trivial
    rw [Expr.render, Expr.kinds, ← operator.text_symbol]
    exact ((spelled.append operandSpelled apart).close .rightParen fun _ => trivial).cast
      (by simp [inParens])
  binary operator left right leftIH rightIH writable := by
    rw [Expr.all_binary] at writable
    have spaced : ∀ rest, True → operator.symbol.Ends (" ".toList ++ rest) := by
      intro rest _
      cases operator <;> trivial
    have leftSpelled : Spells (fun _ => True) _ _ :=
      ((leftIH writable.2.1).opened .leftParen fun _ => trivial).spaced
    have operatorSpelled : Spells (fun _ => True) _ _ :=
      (leftSpelled.append (Spells.symbol operator.symbol) fun _ _ => trivial).append Spells.space
        spaced
    rw [Expr.render, Expr.kinds, ← operator.text_symbol]
    exact ((operatorSpelled.append (rightIH writable.2.2) fun _ _ => trivial).close .rightParen
      fun _ => trivial).cast (by simp [inParens])
  conditional condition consequence alternative conditionIH consequenceIH alternativeIH
      writable := by
    rw [Expr.all_conditional] at writable
    rcases writable with ⟨-, conditionWritable, consequenceWritable, alternativeWritable⟩
    have opening : Spells (fun _ => True) (Keyword.ifWord.text ++ " ") [.keyword .ifWord] :=
      (Spells.keyword .ifWord).spaced
    have conditionSpelled : Spells (fun _ => True) _ _ :=
      (opening.append (conditionIH conditionWritable) fun _ _ => trivial).spaced
    have blockSpelled : Spells (fun _ => True) _ _ := Spells.block fun statement member =>
      consequenceIH statement member (consequenceWritable statement member)
    have alternativeSpelled : Spells EndsWord (Stmt.renderAlternative alternative)
        (Stmt.kindsAlternative alternative) := by
      cases alternative with
      | none => exact .empty
      | some block =>
          have gap : Spells (fun _ => True) " " [] := Spells.space
          have elseSpelled : Spells (fun _ => True) (" " ++ Keyword.elseWord.text ++ " ")
              [.keyword .elseWord] :=
            (gap.append (Spells.keyword .elseWord) fun _ _ => trivial).spaced
          have inside : Spells EndsWord _ _ := Spells.block fun statement member =>
            alternativeIH block rfl statement member
              (alternativeWritable block rfl statement member)
          rw [Stmt.renderAlternative, Stmt.kindsAlternative, Stmt.renderAll_eq_map,
            Stmt.kindsEach_eq_map]
          exact elseSpelled.append inside fun _ _ => trivial
    rw [Expr.render, Expr.kinds, Stmt.renderAll_eq_map, Stmt.kindsEach_eq_map]
    exact ((conditionSpelled.append blockSpelled fun _ _ => trivial).append alternativeSpelled
      fun _ _ => trivial).cast (by simp)
  function parameters body ih writable := by
    rw [Expr.all_function] at writable
    rcases writable with ⟨names, bodyWritable⟩
    have named : ∀ name ∈ parameters, Spells EndsWord name [.identifier name] := by
      intro name member
      exact .name (List.all_eq_true.mp names name member)
    have opening : Spells (fun _ => True) _ _ :=
      (Spells.keyword .fnWord).close .leftParen fun _ => trivial
    have closing : Spells (fun _ => True) (Symbol.rightParen.text ++ " ") [.symbol .rightParen] :=
      Spells.markSpaced .rightParen fun _ => trivial
    have parametersSpelled := (opening.append (Spells.list named) fun _ _ => trivial).append closing
      fun rest _ => Spells.endsWord .rightParen (' ' :: rest)
    have blockSpelled : Spells EndsWord _ _ := Spells.block fun statement member =>
      ih statement member (bodyWritable statement member)
    rw [Expr.render, Expr.kinds, Stmt.renderAll_eq_map, Stmt.kindsEach_eq_map]
    rw [List.map_id'] at parametersSpelled
    exact (parametersSpelled.append blockSpelled fun _ _ => trivial).cast (by simp [inParens])
  call callee arguments calleeIH argumentsIH writable := by
    rw [Expr.all_call] at writable
    have inside := Spells.list fun argument member =>
      argumentsIH argument member (writable.2.2 argument member)
    have calleeSpelled : Spells (fun _ => True) _ _ :=
      (calleeIH writable.2.1).close .leftParen fun _ => trivial
    rw [Expr.render, Expr.kinds, Expr.renderAll_eq_map, Expr.kindsEach_eq_map]
    exact ((calleeSpelled.append inside fun _ _ => trivial).close .rightParen
      fun _ => trivial).cast (by simp [inParens])
  index collection position collectionIH positionIH writable := by
    rw [Expr.all_index] at writable
    have collectionSpelled : Spells (fun _ => True) _ _ :=
      ((collectionIH writable.2.1).opened .leftParen fun _ => trivial).close .leftBracket
        fun _ => trivial
    have closing : Spells EndsWord (Symbol.rightBracket.text ++ Symbol.rightParen.text)
        [.symbol .rightBracket, .symbol .rightParen] :=
      (Spells.mark .rightParen fun _ => trivial).opened .rightBracket fun _ => trivial
    rw [Expr.render, Expr.kinds]
    exact ((collectionSpelled.append (positionIH writable.2.2) fun _ _ => trivial).append closing
      fun rest _ => Spells.endsWord .rightBracket (')' :: rest)).cast (by simp [inParens])
  binding name value ih writable before := by
    rw [Stmt.all_binding] at writable
    have opening : Spells (fun _ => True) (Keyword.letWord.text ++ " ") [.keyword .letWord] :=
      (Spells.keyword .letWord).spaced
    have gap : Spells (fun _ => True) " " [] := Spells.space
    have assign : Spells (fun _ => True) (" " ++ Symbol.assign.text ++ " ") [.symbol .assign] := by
      apply (gap.append (Spells.symbol .assign) fun _ _ => trivial).append Spells.space
      intro rest _ continued
      cases continued
    have nameSpelled := opening.append (Spells.name writable.1) fun _ _ => trivial
    have assigned := nameSpelled.append assign fun rest _ => by
      intro char member
      cases member
      rfl
    exact ((assigned.append (ih writable.2) fun _ _ => trivial).close .semicolon
      fun _ => trivial).cast (by simp [Stmt.kinds])
  leaving value ih writable before := by
    rw [Stmt.all_leaving] at writable
    have opening : Spells (fun _ => True) (Keyword.returnWord.text ++ " ") [.keyword .returnWord] :=
      (Spells.keyword .returnWord).spaced
    exact (opening.append (ih writable.2) fun _ _ => trivial).close .semicolon fun _ => trivial
  expression value ih writable before := by
    rw [Stmt.all_expression] at writable
    exact (ih writable.2).close .semicolon fun _ => trivial

/-- The kinds of the tokens of a printed program. -/
def Program.kinds (program : Program) : List TokenKind :=
  (program.map Stmt.kinds).flatten

/-- A printed program is read as the kinds that are listed. -/
theorem lexKinds_render {program : Program} (writable : ∀ statement ∈ program, statement.writable) :
    lexKinds program.render.toList = program.kinds ++ [.endOfInput] := by
  induction program with
  | nil => exact lexKinds_nil
  | cons statement rest ih =>
      rw [List.forall_mem_cons] at writable
      have lined : Program.render (statement :: rest) =
          statement.render ++ ("\n" ++ Program.render rest) := by
        simp [Program.render, Text.lines, String.append_assoc]
      have spelled := spells_render.everyStmt statement writable.1 fun _ => True
      rw [lined, String.toList_append, spelled _ trivial, String.toList_append]
      have passed : lexKinds ("\n".toList ++ (Program.render rest).toList) =
          lexKinds (Program.render rest).toList :=
        lexKinds_newline _
      rw [passed, ih writable.2, Program.kinds, Program.kinds, List.map_cons, List.flatten_cons,
        List.append_assoc]

namespace Grammar

/-- Whether all of an item is read back as it is written. -/
def Item.Writable : {α : Type} → Item α → α → Prop
  | _, .expression, tree => tree.writable
  | _, .pair, tree => tree.1.writable ∧ tree.2.writable
  | _, .name, tree => isName tree

/-- Whether all of a tree is read back as it is written, for trees of every sort. -/
def Nonterminal.Writable : {α : Type} → Nonterminal α → α → Prop
  | _, .expression _, tree => tree.writable
  | _, .item sort, tree => sort.Writable tree
  | _, .list sort, trees => ∀ tree ∈ trees, sort.Writable tree
  | _, .statement, tree => tree.writable
  | _, .statements, trees => ∀ tree ∈ trees, tree.writable
  | _, .block, trees => ∀ tree ∈ trees, tree.writable

/-- What is derived from the tokens of a text is read back as it is written. -/
theorem Derives.writable {α : Type} {nonterminal : Nonterminal α} {kinds : List TokenKind}
    {tree : α} (derivation : Derives nonterminal kinds tree)
    (lexical : ∀ kind ∈ kinds, kind.isLexical) :
    nonterminal.Writable tree := by
  induction derivation with
  | tighter _ ih | listedExpression _ ih => exact ih lexical
  | binary _ _ _ leftIH rightIH =>
      simp only [List.forall_mem_append, List.forall_mem_cons] at lexical
      exact Expr.all_binary.mpr ⟨rfl, leftIH lexical.1, rightIH lexical.2.2⟩
  | unary _ _ ih =>
      rw [List.forall_mem_cons] at lexical
      exact Expr.all_unary.mpr ⟨rfl, ih lexical.2⟩
  | call _ _ calleeIH listIH =>
      simp only [List.forall_mem_append, List.forall_mem_cons] at lexical
      exact Expr.all_call.mpr ⟨rfl, calleeIH lexical.1, listIH lexical.2.2.1⟩
  | index _ _ collectionIH positionIH =>
      simp only [List.forall_mem_append, List.forall_mem_cons] at lexical
      exact Expr.all_index.mpr ⟨rfl, collectionIH lexical.1, positionIH lexical.2.2.1⟩
  | identifier name => exact lexical _ (List.mem_singleton_self _)
  | @integer digits value denotes =>
      have nonnegative : 0 ≤ value.toInt := by
        rw [denotes]
        exact Int.natCast_nonneg _
      exact decide_eq_true nonnegative
  | string content => exact lexical _ (List.mem_singleton_self _)
  | trueWord | falseWord => rfl
  | grouped _ ih =>
      simp only [List.forall_mem_append, List.forall_mem_cons] at lexical
      exact ih lexical.2.1
  | array _ ih =>
      simp only [List.forall_mem_append, List.forall_mem_cons] at lexical
      exact Expr.all_array.mpr ⟨rfl, ih lexical.2.1⟩
  | hash _ ih =>
      simp only [List.forall_mem_append, List.forall_mem_cons] at lexical
      exact Expr.all_hash.mpr ⟨rfl, ih lexical.2.1⟩
  | conditional _ _ conditionIH blockIH =>
      simp only [List.forall_mem_append, List.forall_mem_cons] at lexical
      refine Expr.all_conditional.mpr ⟨rfl, conditionIH lexical.2.2.1, blockIH lexical.2.2.2.2, ?_⟩
      intro block member
      cases member
  | conditionalElse _ _ _ conditionIH blockIH elseIH =>
      simp only [List.forall_mem_append, List.forall_mem_cons] at lexical
      refine Expr.all_conditional.mpr
        ⟨rfl, conditionIH lexical.2.2.1, blockIH lexical.2.2.2.2.1, ?_⟩
      intro block member
      cases member
      exact elseIH lexical.2.2.2.2.2.2
  | function _ _ listIH blockIH =>
      simp only [List.forall_mem_append, List.forall_mem_cons] at lexical
      exact Expr.all_function.mpr
        ⟨List.all_eq_true.mpr (listIH lexical.2.2.1), blockIH lexical.2.2.2.2⟩
  | listedPair _ _ keyIH valueIH =>
      simp only [List.forall_mem_append, List.forall_mem_cons] at lexical
      exact ⟨keyIH lexical.1, valueIH lexical.2.2⟩
  | listedName name => exact lexical _ (List.mem_singleton_self _)
  | noItems =>
      intro tree member
      cases member
  | lastItem _ ih => exact List.forall_mem_singleton.mpr (ih lexical)
  | moreItems _ _ itemIH listIH =>
      simp only [List.forall_mem_append, List.forall_mem_cons] at lexical
      exact List.forall_mem_cons.mpr ⟨itemIH lexical.1, listIH lexical.2.2⟩
  | binding name _ ih =>
      simp only [List.forall_mem_cons] at lexical
      exact Stmt.all_binding.mpr ⟨lexical.2.1, ih lexical.2.2.2⟩
  | leaving _ ih =>
      rw [List.forall_mem_cons] at lexical
      exact Stmt.all_leaving.mpr ⟨rfl, ih lexical.2⟩
  | expression _ ih => exact Stmt.all_expression.mpr ⟨rfl, ih lexical⟩
  | noStatements =>
      intro statement member
      cases member
  | lastExpression _ ih =>
      exact List.forall_mem_singleton.mpr (Stmt.all_expression.mpr ⟨rfl, ih lexical⟩)
  | moreStatements _ _ statementIH statementsIH =>
      simp only [List.forall_mem_append, List.forall_mem_cons] at lexical
      exact List.forall_mem_cons.mpr ⟨statementIH lexical.1, statementsIH lexical.2.2⟩
  | block _ ih =>
      simp only [List.forall_mem_append, List.forall_mem_cons] at lexical
      exact ih lexical.2.1

end Grammar

end Ember
