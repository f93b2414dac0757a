import Ember.Text.Blank
import Ember.Token.Basic

/-!
# From source text to tokens

The lexer takes the longest lexeme at the front of the input, after the blanks
there, until nothing is left; then comes the one token for the end of the input.
It always succeeds: a character that begins no token, and a string that is never
closed, become illegal tokens.

A lexeme keeps the characters it was read from. The place of the next token
follows from these characters alone, so the lexer carries no other state.
-/

namespace Ember

/-- A place in the source: a line, counted from one, and a byte offset. -/
structure Position where
  line : Nat
  offset : Nat
  deriving DecidableEq, Repr

namespace Position

/-- The place of the first character. -/
def start : Position := ⟨1, 0⟩

/-- The place after one more character. -/
def step (position : Position) (char : Char) : Position :=
  ⟨if char = '\n' then position.line + 1 else position.line, position.offset + char.utf8Size⟩

/-- The place after a run of characters. -/
def advance (position : Position) (text : List Char) : Position :=
  text.foldl step position

@[simp] theorem advance_nil (position : Position) : position.advance [] = position := rfl

@[simp] theorem advance_cons (position : Position) (char : Char) (text : List Char) :
    position.advance (char :: text) = (position.step char).advance text := rfl

@[simp] theorem advance_append (position : Position) (left right : List Char) :
    position.advance (left ++ right) = (position.advance left).advance right := by
  simp [advance]

end Position

/-- The first token of a text, as a kind, with the characters it was read from
and the characters after it. -/
structure Lexeme where
  kind : TokenKind
  text : List Char
  rest : List Char
  deriving DecidableEq, Repr

namespace Lexeme

/-- Characters that may begin a word. -/
def isLetter (char : Char) : Bool :=
  char.isAlpha || char == '_'

/-- Characters that may stand inside a word. -/
def isWordChar (char : Char) : Bool :=
  isLetter char || char.isDigit

/-- Everything but a quote may stand inside a string. -/
def isStringChar (char : Char) : Bool :=
  char != '"'

/-- A word, from its first letter. -/
def word (first : Char) (following : List Char) : Lexeme :=
  let text := first :: following.takeWhile isWordChar
  ⟨.ofWord (String.ofList text), text, following.dropWhile isWordChar⟩

/-- A numeral, from its first digit. -/
def numeral (first : Char) (following : List Char) : Lexeme :=
  let text := first :: following.takeWhile Char.isDigit
  ⟨.integer (String.ofList text), text, following.dropWhile Char.isDigit⟩

/-- A string, from what follows its opening quote. The content is taken as it
stands, line ends included. Without a closing quote all of the input is used up. -/
def quoted (following : List Char) : Lexeme :=
  let content := following.takeWhile isStringChar
  match following.dropWhile isStringChar with
  | [] => ⟨.illegal .unterminatedString, '"' :: following, []⟩
  | quote :: rest => ⟨.string (String.ofList content), '"' :: (content ++ [quote]), rest⟩

/-- A lexeme that begins with this character and is not spelled with two symbol
characters. -/
def single (first : Char) (following : List Char) : Lexeme :=
  match Symbol.ofChar? first with
  | some symbol => ⟨.symbol symbol, [first], following⟩
  | none =>
    if first = '"' then quoted following
    else if isLetter first then word first following
    else if first.isDigit then numeral first following
    else ⟨.illegal (.illegalCharacter first), [first], following⟩

/-- The longest lexeme at the front of a text without leading blanks. -/
def read (first : Char) : List Char → Lexeme
  | [] => single first []
  | second :: rest =>
    match Symbol.ofPair? first second with
    | some symbol => ⟨.symbol symbol, [first, second], rest⟩
    | none => single first (second :: rest)

theorem text_append_rest_word (first : Char) (following : List Char) :
    (word first following).text ++ (word first following).rest = first :: following := by
  simp [word]

theorem text_append_rest_numeral (first : Char) (following : List Char) :
    (numeral first following).text ++ (numeral first following).rest = first :: following := by
  simp [numeral]

theorem text_append_rest_quoted (following : List Char) :
    (quoted following).text ++ (quoted following).rest = '"' :: following := by
  unfold quoted
  split
  · simp
  · next quote rest remaining =>
      have whole := List.takeWhile_append_dropWhile (p := isStringChar) (l := following)
      rw [remaining] at whole
      simpa using whole

theorem text_append_rest_single (first : Char) (following : List Char) :
    (single first following).text ++ (single first following).rest = first :: following := by
  unfold single
  split
  · rfl
  · split
    · next isQuote => subst isQuote; exact text_append_rest_quoted following
    · split
      · exact text_append_rest_word first following
      · split
        · exact text_append_rest_numeral first following
        · rfl

/-- A lexeme and what follows it make up the text. -/
theorem text_append_rest_read (first : Char) (following : List Char) :
    (read first following).text ++ (read first following).rest = first :: following := by
  cases following with
  | nil => exact text_append_rest_single first []
  | cons second rest =>
      rw [read]
      split
      · rfl
      · exact text_append_rest_single first (second :: rest)

theorem text_ne_nil_single (first : Char) (following : List Char) :
    (single first following).text ≠ [] := by
  unfold single
  split
  · simp
  · split
    · unfold quoted
      split <;> simp
    · split
      · simp [word]
      · split <;> simp [numeral]

theorem text_ne_nil_read (first : Char) (following : List Char) :
    (read first following).text ≠ [] := by
  cases following with
  | nil => exact text_ne_nil_single first []
  | cons second rest =>
      rw [read]
      split
      · simp
      · exact text_ne_nil_single first (second :: rest)

/-- Reading a lexeme shortens the input. -/
theorem length_rest_read_lt (first : Char) (following : List Char) :
    (read first following).rest.length < (first :: following).length := by
  have whole := congrArg List.length (text_append_rest_read first following)
  have nonempty := List.length_pos_iff.mpr (text_ne_nil_read first following)
  rw [List.length_append] at whole
  omega

end Lexeme

/-- The tokens of a text that begins at the given place. -/
def lexFrom (position : Position) (input : List Char) : List Token :=
  let start := position.advance (input.takeWhile Text.isBlank)
  match _ : input.dropWhile Text.isBlank with
  | [] => [⟨.endOfInput, start.line, start.offset, start.offset⟩]
  | first :: following =>
    let lexeme := Lexeme.read first following
    let stop := start.advance lexeme.text
    ⟨lexeme.kind, start.line, start.offset, stop.offset⟩ :: lexFrom stop lexeme.rest
termination_by input.length
decreasing_by
  rename_i remaining
  have shorter := Lexeme.length_rest_read_lt first following
  have suffix := (List.dropWhile_suffix (l := input) Text.isBlank).length_le
  rw [remaining] at suffix
  omega

/-- The tokens of a source text. The last one, and only that, is the end of the
input. -/
def lex (source : String) : List Token :=
  lexFrom .start source.toList

end Ember
