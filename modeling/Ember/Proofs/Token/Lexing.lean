import Ember.Token.Lexer

/-!
# Kinds of the tokens of a text

What kinds of tokens a text has, wherever it begins. Blanks are passed over, and a
token is read alike before all texts that do not continue it. A word and a numeral
are continued by the characters of words, `=` and `!` by another `=`; nothing
continues any other token.
-/

namespace Ember

/-- The kinds of the tokens of a text. -/
def lexKinds (input : List Char) : List TokenKind :=
  (lexFrom .start input).map Token.kind

section Equations

variable {input following : List Char} {first : Char}

theorem lexFrom_eq_of_blank (position : Position)
    (nothing : input.dropWhile Text.isBlank = []) :
    lexFrom position input =
      [⟨.endOfInput, (position.advance input).line, (position.advance input).offset,
        (position.advance input).offset⟩] := by
  have blank := List.takeWhile_append_dropWhile (p := Text.isBlank) (l := input)
  rw [nothing, List.append_nil] at blank
  rw [lexFrom]
  split
  · rw [blank]
  · next remaining => simp [nothing] at remaining

theorem lexFrom_eq_cons (position : Position)
    (remaining : input.dropWhile Text.isBlank = first :: following) :
    lexFrom position input =
      ⟨(Lexeme.read first following).kind, (position.advance (input.takeWhile Text.isBlank)).line,
          (position.advance (input.takeWhile Text.isBlank)).offset,
          ((position.advance (input.takeWhile Text.isBlank)).advance
            (Lexeme.read first following).text).offset⟩ ::
        lexFrom ((position.advance (input.takeWhile Text.isBlank)).advance
          (Lexeme.read first following).text) (Lexeme.read first following).rest := by
  rw [lexFrom]
  split
  · next nothing => simp [nothing] at remaining
  · next other others again =>
      rw [again, List.cons.injEq] at remaining
      rcases remaining with ⟨rfl, rfl⟩
      rfl

theorem lexFrom_of_blank (position : Position) (nothing : input.dropWhile Text.isBlank = []) :
    (lexFrom position input).map Token.kind = [.endOfInput] := by
  rw [lexFrom_eq_of_blank position nothing]
  rfl

theorem lexFrom_cons (position : Position)
    (remaining : input.dropWhile Text.isBlank = first :: following) :
    ∃ behind, (lexFrom position input).map Token.kind =
      (Lexeme.read first following).kind ::
        (lexFrom behind (Lexeme.read first following).rest).map Token.kind := by
  rw [lexFrom_eq_cons position remaining]
  exact ⟨_, rfl⟩

theorem length_rest_read_lt_of_dropWhile
    (remaining : input.dropWhile Text.isBlank = first :: following) :
    (Lexeme.read first following).rest.length < input.length := by
  have shorter := Lexeme.length_rest_read_lt first following
  have suffix := (List.dropWhile_suffix (l := input) Text.isBlank).length_le
  rw [remaining] at suffix
  exact Nat.lt_of_lt_of_le shorter suffix

/-- The place where a text begins does not matter to its kinds. -/
theorem map_kind_lexFrom (position : Position) (input : List Char) :
    (lexFrom position input).map Token.kind = lexKinds input := by
  induction length : input.length using Nat.strongRecOn generalizing position input with
  | _ size ih =>
      rw [lexKinds]
      cases remaining : input.dropWhile Text.isBlank with
      | nil => rw [lexFrom_of_blank _ remaining, lexFrom_of_blank _ remaining]
      | cons first following =>
          have shorter := length_rest_read_lt_of_dropWhile remaining
          rw [length] at shorter
          rcases lexFrom_cons position remaining with ⟨here, unfolded⟩
          rcases lexFrom_cons .start remaining with ⟨there, unfoldedAtStart⟩
          rw [unfolded, unfoldedAtStart, ih _ shorter here _ rfl, ih _ shorter there _ rfl]

theorem lexKinds_of_dropWhile (remaining : input.dropWhile Text.isBlank = first :: following) :
    lexKinds input =
      (Lexeme.read first following).kind :: lexKinds (Lexeme.read first following).rest := by
  rcases lexFrom_cons .start remaining with ⟨behind, unfolded⟩
  rw [lexKinds, unfolded, map_kind_lexFrom]

@[simp] theorem lexKinds_nil : lexKinds [] = [.endOfInput] :=
  lexFrom_of_blank .start rfl

/-- Blanks are passed over. -/
theorem lexKinds_blank (blank : Text.isBlank first) : lexKinds (first :: following) =
    lexKinds following := by
  have same : (first :: following).dropWhile Text.isBlank = following.dropWhile Text.isBlank := by
    rw [List.dropWhile_cons, if_pos blank]
  cases remaining : following.dropWhile Text.isBlank with
  | nil =>
      rw [lexKinds, lexKinds, lexFrom_of_blank _ remaining,
        lexFrom_of_blank _ (same.trans remaining)]
  | cons next others =>
      rw [lexKinds_of_dropWhile remaining, lexKinds_of_dropWhile (same.trans remaining)]

/-- Anything else begins a token. -/
theorem lexKinds_cons (begins : Text.isBlank first = false) :
    lexKinds (first :: following) =
      (Lexeme.read first following).kind :: lexKinds (Lexeme.read first following).rest := by
  apply lexKinds_of_dropWhile
  rw [List.dropWhile_cons, if_neg (by simp [begins])]

@[simp] theorem lexKinds_newline (rest : List Char) : lexKinds ('\n' :: rest) = lexKinds rest :=
  lexKinds_blank (by decide)

end Equations

namespace Lexeme

/-- Whether a text is a word: a letter first, then letters and digits. -/
def isWord (text : String) : Bool :=
  match text.toList with
  | [] => false
  | first :: following => isLetter first && following.all isWordChar

theorem exists_of_isWord {text : String} (word : isWord text) :
    ∃ first following, text.toList = first :: following ∧ isLetter first ∧
      ∀ char ∈ following, isWordChar char := by
  unfold isWord at word
  split at word
  · cases word
  · next first following letters =>
      rw [Bool.and_eq_true, List.all_eq_true] at word
      exact ⟨first, following, letters, word.1, word.2⟩

theorem isLetter_iff {char : Char} :
    isLetter char ↔ ('A'.toNat ≤ char.toNat ∧ char.toNat ≤ 'Z'.toNat) ∨
      ('a'.toNat ≤ char.toNat ∧ char.toNat ≤ 'z'.toNat) ∨ char = '_' := by
  have letters : isLetter char =
      ((decide ('A'.val ≤ char.val ∧ char.val ≤ 'Z'.val) ||
        (decide ('a'.val ≤ char.val) && decide (char.val ≤ 'z'.val))) || char == '_') := rfl
  simp only [letters, Bool.or_eq_true, Bool.and_eq_true, decide_eq_true_eq, beq_iff_eq,
    UInt32.le_iff_toNat_le, or_assoc]
  exact Iff.rfl

theorem bounds_of_isWordChar {char : Char} (inside : isWordChar char) :
    0x20 < char.toNat ∧ char.toNat < 0x85 := by
  rw [isWordChar, Bool.or_eq_true, isLetter_iff, Char.isDigit_iff_toNat] at inside
  rcases inside with (⟨low, high⟩ | ⟨low, high⟩ | rfl) | ⟨low, high⟩
  · exact ⟨Nat.lt_of_lt_of_le (by decide) low, Nat.lt_of_le_of_lt high (by decide)⟩
  · exact ⟨Nat.lt_of_lt_of_le (by decide) low, Nat.lt_of_le_of_lt high (by decide)⟩
  · decide
  · exact ⟨Nat.lt_of_lt_of_le (by decide) low, Nat.lt_of_le_of_lt high (by decide)⟩

theorem isLetter_of_isDigit {char : Char} (digit : char.isDigit) : isLetter char = false := by
  rw [Char.isDigit_iff_toNat] at digit
  rw [Bool.eq_false_iff, ne_eq, isLetter_iff]
  rintro (⟨low, -⟩ | ⟨low, -⟩ | rfl)
  · exact absurd (Nat.le_trans low digit.2) (by decide)
  · exact absurd (Nat.le_trans low digit.2) (by decide)
  · exact absurd digit.2 (by decide)

/-- A character of words is no blank. -/
theorem isBlank_of_isWordChar {char : Char} (inside : isWordChar char) :
    Text.isBlank char = false := by
  rcases bounds_of_isWordChar inside with ⟨low, high⟩
  simp only [Text.isBlank, Text.blankRanges, List.any_cons, List.any_nil, Bool.or_false,
    Bool.or_eq_false_iff, Bool.and_eq_false_iff, decide_eq_false_iff_not]
  omega

/-- A character of words is no part of a symbol, and it is no quote. -/
theorem ofChar?_of_isWordChar {char : Char} (inside : isWordChar char) :
    Symbol.ofChar? char = none ∧ (∀ second, Symbol.ofPair? char second = none) ∧ char ≠ '"' := by
  refine ⟨?_, ?_, ?_⟩
  · unfold Symbol.ofChar?
    split <;> first | rfl | (revert inside; decide)
  · intro second
    unfold Symbol.ofPair?
    split <;> first | rfl | (revert inside; decide)
  · rintro rfl
    revert inside
    decide

/-- A character of words begins no token but a word or a numeral. -/
theorem read_of_isWordChar {first : Char} (inside : isWordChar first) (following : List Char) :
    read first following =
      if isLetter first then word first following else numeral first following := by
  rcases ofChar?_of_isWordChar inside with ⟨noSymbol, noPair, noQuote⟩
  have single : single first following =
      if isLetter first then word first following else numeral first following := by
    rw [single, noSymbol]
    dsimp only
    rw [if_neg noQuote]
    split
    · rfl
    · next noLetter =>
        rw [if_pos]
        simpa [isWordChar, noLetter] using inside
  cases following with
  | nil => exact single
  | cons second rest =>
      rw [read, noPair]
      exact single

theorem read_quote (following : List Char) : read '"' following = quoted following := by
  cases following <;> rfl

end Lexeme

/-- The text does not continue a word or a numeral. -/
def EndsWord (rest : List Char) : Prop :=
  ∀ char ∈ rest.head?, Lexeme.isWordChar char = false

/-- Where a run of characters of one sort stops. -/
theorem span_append {test : Char → Bool} {run rest : List Char} (passes : ∀ char ∈ run, test char)
    (stops : ∀ char ∈ rest.head?, test char = false) :
    (run ++ rest).takeWhile test = run ∧ (run ++ rest).dropWhile test = rest := by
  rw [List.takeWhile_append_of_pos passes, List.dropWhile_append_of_pos passes]
  cases rest with
  | nil => simp
  | cons char others => simp [stops char rfl]

/-- The text does not continue an `=` or a `!`. -/
def EndsOperator (rest : List Char) : Prop :=
  rest.head? ≠ some '='

/-- Where a symbol ends: nothing continues it, unless it is an `=` or a `!`. -/
def Symbol.Ends : Symbol → List Char → Prop
  | .assign, rest | .bang, rest => EndsOperator rest
  | _, _ => True

/-- A text is read as these kinds, before every text that meets a condition. -/
def Spells (before : List Char → Prop) (text : String) (kinds : List TokenKind) : Prop :=
  ∀ rest, before rest → lexKinds (text.toList ++ rest) = kinds ++ lexKinds rest

namespace Spells

variable {before between : List Char → Prop} {text other : String}
  {kinds others : List TokenKind}

theorem append (first : Spells between text kinds) (second : Spells before other others)
    (apart : ∀ rest, before rest → between (other.toList ++ rest)) :
    Spells before (text ++ other) (kinds ++ others) := by
  intro rest ends
  rw [String.toList_append, List.append_assoc, first _ (apart rest ends), second rest ends,
    List.append_assoc]

theorem weaken (spelled : Spells between text kinds) (weaker : ∀ rest, before rest → between rest) :
    Spells before text kinds := by
  intro rest ends
  exact spelled rest (weaker rest ends)

theorem empty : Spells before "" [] := by
  intro rest ends
  rfl

theorem space : Spells before " " [] := by
  intro rest ends
  exact lexKinds_blank (by decide)

/-- Nothing but another character of a symbol continues it. -/
theorem symbol (sign : Symbol) : Spells sign.Ends sign.text [.symbol sign] := by
  intro rest ends
  have single {char : Char} (spelled : Symbol.ofChar? char = some sign)
      (alone : ∀ second ∈ rest.head?, Symbol.ofPair? char second = none) :
      lexKinds (char :: rest) = .symbol sign :: lexKinds rest := by
    have begins : Text.isBlank char = false := by
      unfold Symbol.ofChar? at spelled
      split at spelled <;> first | decide | cases spelled
    have read : Lexeme.read char rest = ⟨.symbol sign, [char], rest⟩ := by
      cases rest with
      | nil => simp [Lexeme.read, Lexeme.single, spelled]
      | cons second others => simp [Lexeme.read, alone second rfl, Lexeme.single, spelled]
    rw [lexKinds_cons begins, read]
  have apart {char : Char} (second : Char) (continues : EndsOperator rest)
      (member : second ∈ rest.head?) : Symbol.ofPair? char second = none := by
    unfold Symbol.ofPair?
    split
    · exact absurd member continues
    · exact absurd member continues
    · rfl
  cases sign with
  | assign => exact single rfl fun second member => apart second ends member
  | bang => exact single rfl fun second member => apart second ends member
  | equal => exact lexKinds_cons (by decide)
  | notEqual => exact lexKinds_cons (by decide)
  | _ => exact single rfl fun second member => rfl

/-- A word is what its letters spell. -/
theorem word {word : String} (isWord : Lexeme.isWord word) :
    Spells EndsWord word [.ofWord word] := by
  intro rest ends
  rcases Lexeme.exists_of_isWord isWord with ⟨first, following, letters, isLetter, wordChars⟩
  have inside : Lexeme.isWordChar first := by simp [Lexeme.isWordChar, isLetter]
  rcases span_append wordChars ends with ⟨taken, dropped⟩
  rw [letters, List.cons_append, lexKinds_cons (Lexeme.isBlank_of_isWordChar inside),
    Lexeme.read_of_isWordChar inside, if_pos isLetter, Lexeme.word, taken, dropped, ← letters,
    String.ofList_toList]
  rfl

theorem numeral {digits : String} (nonempty : digits.toList ≠ [])
    (isDigits : ∀ char ∈ digits.toList, char.isDigit) :
    Spells EndsWord digits [.integer digits] := by
  intro rest ends
  rcases List.exists_cons_of_ne_nil nonempty with ⟨first, following, letters⟩
  rw [letters, List.forall_mem_cons] at isDigits
  have inside : Lexeme.isWordChar first := by simp [Lexeme.isWordChar, isDigits.1]
  have noLetter : ¬ Lexeme.isLetter first := by simp [Lexeme.isLetter_of_isDigit isDigits.1]
  have stops : ∀ char ∈ rest.head?, char.isDigit = false := by
    intro char member
    have outside := ends char member
    simp only [Lexeme.isWordChar, Bool.or_eq_false_iff] at outside
    exact outside.2
  rcases span_append isDigits.2 stops with ⟨taken, dropped⟩
  rw [letters, List.cons_append, lexKinds_cons (Lexeme.isBlank_of_isWordChar inside),
    Lexeme.read_of_isWordChar inside, if_neg noLetter, Lexeme.numeral, taken, dropped, ← letters,
    String.ofList_toList]
  rfl

/-- A text without quotes is taken as it stands. -/
theorem string {content : String} (closed : '"' ∉ content.toList) :
    Spells before ("\"" ++ content ++ "\"") [.string content] := by
  intro rest ends
  have passes : ∀ char ∈ content.toList, Lexeme.isStringChar char := by
    intro char member
    rw [Lexeme.isStringChar, bne_iff_ne]
    rintro rfl
    exact closed member
  have stops : ∀ char ∈ ('"' :: rest).head?, Lexeme.isStringChar char = false := by
    intro char member
    cases member
    rfl
  rcases span_append passes stops with ⟨taken, dropped⟩
  have letters : ("\"" ++ content ++ "\"").toList ++ rest =
      '"' :: (content.toList ++ '"' :: rest) := by
    simp
  rw [letters, lexKinds_cons (by decide), Lexeme.read_quote, Lexeme.quoted, taken, dropped,
    String.ofList_toList]
  rfl

end Spells

/-- Whether a name is a word that the language does not keep for itself. -/
def isName (name : String) : Bool :=
  Lexeme.isWord name && (Keyword.ofText? name).isNone

/-- Whether a token can be read from a text: names are words, and strings hold no
quotes. -/
def TokenKind.isLexical : TokenKind → Bool
  | .identifier name => isName name
  | .string content => !content.toList.contains '"'
  | _ => true

namespace Lexeme

theorem isLexical_word {first : Char} (letter : isLetter first) (following : List Char) :
    (word first following).kind.isLexical := by
  have isWord : isWord (String.ofList (first :: following.takeWhile isWordChar)) := by
    rw [isWord, String.toList_ofList]
    simp [letter]
  rw [word, TokenKind.ofWord]
  dsimp only
  split
  · rfl
  · next unreserved =>
      rw [TokenKind.isLexical, isName, isWord, unreserved]
      rfl

theorem isLexical_quoted (following : List Char) : (quoted following).kind.isLexical := by
  rw [quoted]
  split
  · rfl
  · have closed : '"' ∉ following.takeWhile isStringChar := by
      intro member
      have passes : isStringChar '"' := List.all_eq_true.mp List.all_takeWhile _ member
      cases passes
    simp [TokenKind.isLexical, closed]

theorem isLexical_read (first : Char) (following : List Char) :
    (read first following).kind.isLexical := by
  have single : (single first following).kind.isLexical := by
    rw [single]
    split
    · rfl
    · split
      · exact isLexical_quoted following
      · split
        · next letter => exact isLexical_word letter following
        · split <;> rfl
  cases following with
  | nil => exact single
  | cons second rest =>
      rw [read]
      split
      · rfl
      · exact single

end Lexeme

/-- All tokens of a text can be read from a text. -/
theorem isLexical_of_mem_lexKinds {input : List Char} {kind : TokenKind}
    (member : kind ∈ lexKinds input) : kind.isLexical := by
  induction length : input.length using Nat.strongRecOn generalizing input with
  | _ size ih =>
      cases remaining : input.dropWhile Text.isBlank with
      | nil =>
          rw [lexKinds, lexFrom_of_blank _ remaining, List.mem_singleton] at member
          rw [member]
          rfl
      | cons first following =>
          rw [lexKinds_of_dropWhile remaining, List.mem_cons] at member
          rcases member with rfl | later
          · exact Lexeme.isLexical_read first following
          · have shorter := length_rest_read_lt_of_dropWhile remaining
            rw [length] at shorter
            exact ih _ shorter later rfl

end Ember
