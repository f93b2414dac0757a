import Ember.Proofs.Token.Lexing
import Ember.Text.Size

/-!
# Tokens tile the source

The tokens of a source lie one behind the other in it, and only blanks are left
between them. Every token is the longest match where it stands: its text is the
text by which its kind is shown, and nothing that follows could continue it.

Offsets count bytes. A token is placed by the characters before its text, so its
offsets are boundaries of characters by the way they are given.
-/

namespace Ember

open Text (byteSize byteSize_append)

theorem Text.byteSize_toList (text : String) : byteSize text.toList = text.utf8ByteSize := by
  conv =>
    rhs
    rw [← String.ofList_toList (s := text)]
  generalize text.toList = chars
  induction chars with
  | nil => rfl
  | cons char chars ih => simp [byteSize, ih, String.ofList_cons]

theorem Text.byteSize_pos {chars : List Char} (nonempty : chars ≠ []) : 0 < byteSize chars := by
  cases chars with
  | nil => exact absurd rfl nonempty
  | cons char rest => exact Nat.lt_add_right _ (Char.utf8Size_pos char)

/-- The place after some characters: their line ends and their bytes are added. -/
theorem Position.advance_eq (position : Position) (text : List Char) :
    position.advance text =
      ⟨position.line + text.count '\n', position.offset + byteSize text⟩ := by
  induction text generalizing position with
  | nil => rfl
  | cons char text ih =>
      rw [advance_cons, ih, step, byteSize, List.count_cons]
      by_cases lineEnd : char = '\n'
      · simp [lineEnd, Nat.add_assoc, Nat.add_comm 1]
      · simp [lineEnd, Nat.add_assoc]

theorem Position.line_le_advance (position : Position) (text : List Char) :
    position.line ≤ (position.advance text).line := by
  rw [advance_eq]
  exact Nat.le_add_right _ _

theorem Position.offset_advance_start (text : List Char) :
    (Position.start.advance text).offset = byteSize text := by
  rw [advance_eq]
  exact Nat.zero_add _

theorem Position.line_advance_start (text : List Char) :
    (Position.start.advance text).line = 1 + text.count '\n' := by
  rw [advance_eq]
  rfl

/-- The words that the language keeps for itself. -/
def reservedWords : List String :=
  ["fn", "let", "true", "false", "if", "else", "return"]

namespace TokenKind

/-- What a kind can carry: names are words that are free to use, numerals are digits,
strings hold no quotes, and a character is illegal only if it begins no token. -/
def IsProper : TokenKind → Prop
  | .identifier name => isName name
  | .integer digits => digits.toList ≠ [] ∧ ∀ char ∈ digits.toList, char.isDigit
  | .string content => '"' ∉ content.toList
  | .illegal (.illegalCharacter char) =>
    Text.isBlank char = false ∧ Lexeme.isWordChar char = false ∧ char ≠ '"' ∧
      Symbol.ofChar? char = none
  | .illegal .unterminatedString | .symbol _ | .keyword _ => True
  | .endOfInput => False

/-- The text of a token is the one by which its kind is shown, except for a string
without an end: that begins with a quote and holds no other one. -/
def IsSpelled : TokenKind → List Char → Prop
  | .illegal .unterminatedString, text => ∃ content, text = '"' :: content ∧ '"' ∉ content
  | kind, text => String.ofList text = kind.text

/-- Where a token ends: what follows does not continue it. A string without an end
goes up to the end of the input. -/
def Ends : TokenKind → List Char → Prop
  | .identifier _, after | .keyword _, after => EndsWord after
  | .integer _, after => ∀ char ∈ after.head?, char.isDigit = false
  | .symbol sign, after => sign.Ends after
  | .illegal .unterminatedString, after => after = []
  | .illegal (.illegalCharacter _), _ | .string _, _ | .endOfInput, _ => True

/-- A kind is read from a text, and it could not be read from more of what follows. -/
structure LongestMatch (kind : TokenKind) (text after : List Char) : Prop where
  proper : kind.IsProper
  spelled : kind.IsSpelled text
  ends : kind.Ends after
  keyword_iff : (∃ reserved, kind = .keyword reserved) ↔ String.ofList text ∈ reservedWords

end TokenKind

namespace Lexeme

theorem stops_dropWhile (test : Char → Bool) (chars : List Char) :
    ∀ char ∈ (chars.dropWhile test).head?, test char = false := by
  intro char member
  have stopped := List.head?_dropWhile_not test chars
  rw [Option.mem_def.mp member] at stopped
  exact stopped

/-- A word is a keyword if it is spelled like one. -/
theorem exists_ofText?_iff (word : String) :
    (∃ reserved, Keyword.ofText? word = some reserved) ↔ word ∈ reservedWords := by
  constructor
  · rintro ⟨reserved, found⟩
    rw [← Keyword.text_of_ofText? found]
    cases reserved <;> decide
  · intro member
    simp only [reservedWords, List.mem_cons, List.not_mem_nil, or_false] at member
    rcases member with rfl | rfl | rfl | rfl | rfl | rfl | rfl <;> exact ⟨_, rfl⟩

theorem longestMatch_word {first : Char} (letter : isLetter first) (following : List Char) :
    (word first following).kind.LongestMatch (word first following).text
      (word first following).rest := by
  have lexical := isLexical_word letter following
  have stops : EndsWord (word first following).rest := stops_dropWhile isWordChar following
  have iff := exists_ofText?_iff (String.ofList (word first following).text)
  have shown := TokenKind.text_ofWord (String.ofList (word first following).text)
  have kind : (word first following).kind =
      TokenKind.ofWord (String.ofList (word first following).text) := rfl
  rw [kind] at lexical ⊢
  cases found : Keyword.ofText? (String.ofList (word first following).text) with
  | some reserved =>
      rw [TokenKind.ofWord, found] at shown ⊢
      have listed := iff.mp ⟨reserved, found⟩
      exact ⟨trivial, shown.symm, stops, fun _ => listed, fun _ => ⟨reserved, rfl⟩⟩
  | none =>
      rw [TokenKind.ofWord, found] at shown lexical ⊢
      refine ⟨lexical, shown.symm, stops, ?_⟩
      rw [← iff, found]
      simp

/-- A keyword begins with a letter, so nothing else is spelled like one. -/
theorem keyword_iff_of_isLetter_eq_false {kind : TokenKind} {first : Char} {text : List Char}
    (other : isLetter first = false) (noKeyword : ∀ reserved, kind ≠ .keyword reserved) :
    (∃ reserved, kind = .keyword reserved) ↔ String.ofList (first :: text) ∈ reservedWords := by
  constructor
  · rintro ⟨reserved, same⟩
    exact absurd same (noKeyword reserved)
  · intro member
    rcases (exists_ofText?_iff _).mpr member with ⟨reserved, found⟩
    have same : reserved.text.toList = first :: text := by
      rw [Keyword.text_of_ofText? found, String.toList_ofList]
    cases reserved <;> (cases same; cases other)

theorem longestMatch_numeral {first : Char} (digit : first.isDigit) (following : List Char) :
    (numeral first following).kind.LongestMatch (numeral first following).text
      (numeral first following).rest where
  proper := by
    refine ⟨by simp, ?_⟩
    intro char member
    rw [String.toList_ofList, List.mem_cons] at member
    rcases member with rfl | inside
    · exact digit
    · exact List.all_eq_true.mp List.all_takeWhile char inside
  spelled := rfl
  ends := stops_dropWhile Char.isDigit following
  keyword_iff := keyword_iff_of_isLetter_eq_false (isLetter_of_isDigit digit) nofun

theorem longestMatch_quoted (following : List Char) :
    (quoted following).kind.LongestMatch (quoted following).text (quoted following).rest := by
  have isLetter : isLetter '"' = false := by decide
  have noQuote : '"' ∉ following.takeWhile isStringChar := by
    intro member
    have passes : isStringChar '"' := List.all_eq_true.mp List.all_takeWhile _ member
    cases passes
  have whole := List.takeWhile_append_dropWhile (p := isStringChar) (l := following)
  have stops := stops_dropWhile isStringChar following
  rw [quoted]
  cases remaining : following.dropWhile isStringChar with
  | nil =>
      rw [remaining, List.append_nil] at whole
      rw [whole] at noQuote
      exact ⟨trivial, ⟨following, rfl, noQuote⟩, rfl,
        keyword_iff_of_isLetter_eq_false isLetter (by simp)⟩
  | cons quote rest =>
      rw [remaining] at stops
      have isQuote : quote = '"' := by simpa [isStringChar] using stops quote rfl
      have proper : '"' ∉ (String.ofList (following.takeWhile isStringChar)).toList := by
        rwa [String.toList_ofList]
      refine ⟨proper, ?_, trivial, keyword_iff_of_isLetter_eq_false isLetter (by simp)⟩
      simp [TokenKind.IsSpelled, TokenKind.text, isQuote, String.ofList_cons, String.ofList_append,
        String.append_assoc]

/-- The characters of symbols begin no word. -/
theorem isLetter_of_ofChar? {first : Char} {sign : Symbol}
    (spelled : Symbol.ofChar? first = some sign) : isLetter first = false := by
  cases letter : isLetter first with
  | false => rfl
  | true =>
      have inside : isWordChar first := by simp [isWordChar, letter]
      rw [(ofChar?_of_isWordChar inside).1] at spelled
      cases spelled

theorem longestMatch_symbol {first : Char} {sign : Symbol} {following : List Char}
    (spelled : Symbol.ofChar? first = some sign)
    (alone : ∀ second ∈ following.head?, Symbol.ofPair? first second = none) :
    (TokenKind.symbol sign).LongestMatch [first] following where
  proper := trivial
  spelled := by
    unfold Symbol.ofChar? at spelled
    split at spelled <;> cases spelled <;> rfl
  ends := by
    have noEqual (twice : (Symbol.ofPair? first '=').isSome) : EndsOperator following := by
      intro continued
      rw [alone '=' continued] at twice
      cases twice
    unfold Symbol.ofChar? at spelled
    split at spelled <;> cases spelled <;> first | exact trivial | exact noEqual rfl
  keyword_iff := keyword_iff_of_isLetter_eq_false (isLetter_of_ofChar? spelled) nofun

theorem longestMatch_pair {first second : Char} {sign : Symbol} {following : List Char}
    (spelled : Symbol.ofPair? first second = some sign) :
    (TokenKind.symbol sign).LongestMatch [first, second] following := by
  unfold Symbol.ofPair? at spelled
  split at spelled
  · cases spelled
    exact ⟨trivial, rfl, trivial, keyword_iff_of_isLetter_eq_false (by decide) nofun⟩
  · cases spelled
    exact ⟨trivial, rfl, trivial, keyword_iff_of_isLetter_eq_false (by decide) nofun⟩
  · cases spelled

/-- What is read at the front of a text is the longest match there. -/
theorem longestMatch_read {first : Char} (begins : Text.isBlank first = false)
    (following : List Char) :
    (read first following).kind.LongestMatch (read first following).text
      (read first following).rest := by
  have single (alone : ∀ second ∈ following.head?, Symbol.ofPair? first second = none) :
      (single first following).kind.LongestMatch (single first following).text
        (single first following).rest := by
    unfold Lexeme.single
    split
    · next spelled => exact longestMatch_symbol spelled alone
    · next noSymbol =>
        split
        · exact longestMatch_quoted following
        · next noQuote =>
            split
            · next letter => exact longestMatch_word letter following
            · next noLetter =>
                rw [Bool.not_eq_true] at noLetter
                split
                · next digit => exact longestMatch_numeral digit following
                · next noDigit =>
                    rw [Bool.not_eq_true] at noDigit
                    have outside : isWordChar first = false := by
                      simp [isWordChar, noLetter, noDigit]
                    exact ⟨⟨begins, outside, noQuote, noSymbol⟩, rfl, trivial,
                      keyword_iff_of_isLetter_eq_false noLetter (by simp)⟩
  cases following with
  | nil => exact single (by simp)
  | cons second rest =>
      cases pair : Symbol.ofPair? first second with
      | some sign =>
          simp only [read, pair]
          exact longestMatch_pair pair
      | none =>
          simp only [read, pair]
          apply single
          rintro other ⟨⟩
          exact pair

end Lexeme

/-- Where the text of a token stands in a source. The offsets count bytes, and the
line is one more than the line ends before the text. -/
structure Token.StandsAt (token : Token) (source before text after : List Char) : Prop where
  whole : source = before ++ (text ++ after)
  start : token.start = byteSize before
  stop : token.stop = byteSize (before ++ text)
  line : token.line = 1 + before.count '\n'

/-- Only blanks stand between two offsets of a source. -/
def BlankBetween (source : List Char) (start stop : Nat) : Prop :=
  ∃ before blanks after, source = before ++ (blanks ++ after) ∧ start = byteSize before ∧
    stop = byteSize (before ++ blanks) ∧ ∀ char ∈ blanks, Text.isBlank char

/-- How tokens and the end of the input lie in a source, from an offset on. -/
structure Tiling (source : List Char) (reached : Nat) (tokens : List Token) (ending : Token) :
    Prop where
  /-- The end of the input stands behind all characters. -/
  ended : ending.kind = .endOfInput ∧ ending.StandsAt source source [] []
  /-- Every token has a text, and it is the longest match where it stands. -/
  matched : ∀ token ∈ tokens, token.kind ≠ .endOfInput ∧ token.start < token.stop ∧
    ∃ before text after, token.StandsAt source before text after ∧
      token.kind.LongestMatch text after
  /-- Before every token, and before the end, stand the blanks behind the token before it. -/
  gaps : ∀ gap ∈ (reached :: tokens.map Token.stop).zip (tokens.map Token.start ++ [ending.start]),
    gap.1 ≤ gap.2 ∧ BlankBetween source gap.1 gap.2
  /-- Nothing stands behind a string without an end. -/
  unterminated_last : ∀ front token others, tokens = front ++ token :: others →
    token.kind = .illegal .unterminatedString → others = []

theorem BlankBetween.le {source : List Char} {start stop : Nat}
    (blank : BlankBetween source start stop) : start ≤ stop := by
  rcases blank with ⟨before, blanks, after, -, rfl, rfl, -⟩
  rw [byteSize_append]
  exact Nat.le_add_right _ _

namespace Tiling

variable {before blanks : List Char}

/-- Blanks before the end of the input. -/
theorem ofBlanks (blank : ∀ char ∈ blanks, Text.isBlank char) {ending : Token}
    (kind : ending.kind = .endOfInput)
    (stands : ending.StandsAt (before ++ blanks) (before ++ blanks) [] []) :
    Tiling (before ++ blanks) (byteSize before) [] ending where
  ended := ⟨kind, stands⟩
  matched := nofun
  gaps := by
    intro gap member
    obtain rfl : gap = (byteSize before, ending.start) := by simpa using member
    have between : BlankBetween (before ++ blanks) (byteSize before) ending.start :=
      ⟨before, blanks, [], by simp, rfl, stands.start, blank⟩
    exact ⟨between.le, between⟩
  unterminated_last := by
    intro front token others split
    simp at split

/-- One more token, behind the blanks before it. -/
theorem cons {text after : List Char} {token ending : Token} {tokens : List Token}
    (blank : ∀ char ∈ blanks, Text.isBlank char) (nonempty : text ≠ [])
    (stands : token.StandsAt (before ++ (blanks ++ (text ++ after))) (before ++ blanks) text after)
    (longest : token.kind.LongestMatch text after)
    (last : token.kind = .illegal .unterminatedString → tokens = [])
    (rest : Tiling (before ++ (blanks ++ (text ++ after))) token.stop tokens ending) :
    Tiling (before ++ (blanks ++ (text ++ after))) (byteSize before) (token :: tokens) ending where
  ended := rest.ended
  matched := by
    rw [List.forall_mem_cons]
    refine ⟨⟨?_, ?_, before ++ blanks, text, after, stands, longest⟩, rest.matched⟩
    · intro kind
      have proper := longest.proper
      rw [kind] at proper
      exact proper
    · rw [stands.start, stands.stop, byteSize_append (before ++ blanks)]
      exact Nat.lt_add_of_pos_right (Text.byteSize_pos nonempty)
  gaps := by
    rw [List.map_cons, List.map_cons, List.cons_append, List.zip_cons_cons, List.forall_mem_cons]
    have between : BlankBetween (before ++ (blanks ++ (text ++ after))) (byteSize before)
        token.start :=
      ⟨before, blanks, text ++ after, rfl, rfl, stands.start, blank⟩
    exact ⟨⟨between.le, between⟩, rest.gaps⟩
  unterminated_last := by
    intro front other others split unterminated
    rcases List.cons_eq_append_iff.mp split with ⟨rfl, same⟩ | ⟨more, rfl, later⟩
    · rw [List.cons.injEq] at same
      rcases same with ⟨rfl, rfl⟩
      exact last unterminated
    · exact rest.unterminated_last more other others later unterminated

end Tiling

/-- The tokens of the rest of a source tile that rest. -/
theorem exists_tiling_lexFrom (before input : List Char) :
    ∃ tokens ending, lexFrom (Position.start.advance before) input = tokens ++ [ending] ∧
      Tiling (before ++ input) (byteSize before) tokens ending := by
  induction length : input.length using Nat.strongRecOn generalizing before input with
  | _ size ih =>
      have blank : ∀ char ∈ input.takeWhile Text.isBlank, Text.isBlank char :=
        List.all_eq_true.mp List.all_takeWhile
      have whole := List.takeWhile_append_dropWhile (p := Text.isBlank) (l := input)
      cases remaining : input.dropWhile Text.isBlank with
      | nil =>
          rw [remaining, List.append_nil] at whole
          rw [whole] at blank
          refine ⟨[], _, lexFrom_eq_of_blank _ remaining, .ofBlanks blank rfl ?_⟩
          rw [← Position.advance_append, Position.offset_advance_start, Position.line_advance_start]
          exact ⟨by simp, rfl, by simp, rfl⟩
      | cons first following =>
          have shorter := length_rest_read_lt_of_dropWhile remaining
          have split := Lexeme.text_append_rest_read first following
          have nonempty := Lexeme.text_ne_nil_read first following
          have begins : Text.isBlank first = false := by
            have stops := Lexeme.stops_dropWhile Text.isBlank input
            rw [remaining] at stops
            exact stops first rfl
          have longest := Lexeme.longestMatch_read begins following
          rw [remaining, ← split] at whole
          rw [lexFrom_eq_cons _ remaining]
          clear remaining split begins
          generalize input.takeWhile Text.isBlank = blanks at blank whole ⊢
          generalize Lexeme.read first following = lexeme at shorter nonempty longest whole ⊢
          subst whole length
          rw [← Position.advance_append, ← Position.advance_append, Position.offset_advance_start,
            Position.offset_advance_start, Position.line_advance_start]
          rcases ih _ shorter (before ++ blanks ++ lexeme.text) lexeme.rest rfl with
            ⟨tokens, ending, lexed, tiling⟩
          rw [List.append_assoc, List.append_assoc] at tiling
          refine ⟨_ :: tokens, ending, by rw [lexed, List.cons_append], .cons blank nonempty ?_
            longest ?_ ?_⟩
          · exact ⟨by simp, rfl, rfl, rfl⟩
          · intro (unterminated : lexeme.kind = .illegal .unterminatedString)
            have last : lexeme.rest = [] := by
              have ends := longest.ends
              rwa [unterminated] at ends
            rw [last, lexFrom_eq_of_blank _ rfl] at lexed
            exact (List.append_eq_singleton_iff.mp lexed.symm).elim And.left nofun
          · exact tiling

/-- The end of the input stands once among the tokens of a source, behind all others. -/
theorem exists_lex_eq (source : String) :
    ∃ tokens ending, lex source = tokens ++ [ending] ∧ (∀ token ∈ tokens, token.isEnd = false) ∧
      ending.isEnd := by
  rcases exists_tiling_lexFrom [] source.toList with ⟨tokens, ending, split, tiling⟩
  refine ⟨tokens, ending, split, fun token member => ?_, by simp [Token.isEnd, tiling.ended.1]⟩
  simpa [Token.isEnd] using (tiling.matched token member).1

/-- The tokens of a text begin on its first line or later, and none begins on an earlier
line than the one before it. -/
theorem lines_lexFrom (position : Position) (input : List Char) :
    (∀ token ∈ lexFrom position input, position.line ≤ token.line) ∧
      (lexFrom position input).Pairwise fun left right => left.line ≤ right.line := by
  induction length : input.length using Nat.strongRecOn generalizing position input with
  | _ size ih =>
      cases remaining : input.dropWhile Text.isBlank with
      | nil =>
          rw [lexFrom_eq_of_blank _ remaining]
          simp [Position.advance_eq]
      | cons first following =>
          have shorter := length_rest_read_lt_of_dropWhile remaining
          rw [lexFrom_eq_cons _ remaining]
          generalize Lexeme.read first following = lexeme at shorter ⊢
          generalize input.takeWhile Text.isBlank = blanks
          obtain ⟨later, ordered⟩ := ih _ (length ▸ shorter)
            ((position.advance blanks).advance lexeme.text) lexeme.rest rfl
          have beyond : ∀ token ∈ lexFrom ((position.advance blanks).advance lexeme.text)
              lexeme.rest, (position.advance blanks).line ≤ token.line := fun token member =>
            Nat.le_trans (Position.line_le_advance _ _) (later token member)
          rw [List.forall_mem_cons, List.pairwise_cons]
          refine ⟨⟨position.line_le_advance blanks, fun token member => ?_⟩, beyond, ordered⟩
          exact Nat.le_trans (position.line_le_advance blanks) (beyond token member)

/-- The tokens of a source tile it with longest matches, and the end of the input
stands once, behind them. -/
theorem lex_tiles (source : String) :
    ∃ tokens ending, lex source = tokens ++ [ending] ∧ ending.start = source.utf8ByteSize ∧
      Tiling source.toList 0 tokens ending := by
  rcases exists_tiling_lexFrom [] source.toList with ⟨tokens, ending, split, tiling⟩
  refine ⟨tokens, ending, split, ?_, tiling⟩
  rw [tiling.ended.2.start, List.nil_append, Text.byteSize_toList]

end Ember
