import Ember.Proofs.Token.Lexing

/-!
# Tokens of joined texts

A blank ends every token, unless it stands in a string. So the tokens of two texts
with a blank between them are the tokens of the one and then the tokens of the
other, if no string is left open in between. Only the places of the later tokens
depend on the text before them.
-/

namespace Ember

namespace Lexeme

/-- A run goes no further than to where it stopped, if the next text does not
continue it. -/
theorem span_append_of_stops {test : Char → Bool} {rest : List Char} (run : List Char)
    (stops : ∀ char ∈ rest.head?, test char = false) :
    (run ++ rest).takeWhile test = run.takeWhile test ∧
      (run ++ rest).dropWhile test = run.dropWhile test ++ rest := by
  induction run with
  | nil =>
      have nothing : ∀ char ∈ [], test char := nofun
      exact span_append nothing stops
  | cons char run ih =>
      rw [List.cons_append, List.takeWhile_cons, List.takeWhile_cons, List.dropWhile_cons,
        List.dropWhile_cons]
      split
      · exact ⟨congrArg (char :: ·) ih.1, ih.2⟩
      · exact ⟨rfl, rfl⟩

/-- Nothing continues a string that is closed. -/
theorem quoted_append (following rest : List Char)
    (closed : (quoted following).kind ≠ .illegal .unterminatedString) :
    quoted (following ++ rest) =
      ⟨(quoted following).kind, (quoted following).text, (quoted following).rest ++ rest⟩ := by
  have whole := List.takeWhile_append_dropWhile (p := isStringChar) (l := following)
  have passes : ∀ char ∈ following.takeWhile isStringChar, isStringChar char :=
    List.all_eq_true.mp List.all_takeWhile
  have stops := List.head?_dropWhile_not isStringChar following
  rw [quoted] at closed ⊢
  rw [quoted]
  cases remaining : following.dropWhile isStringChar with
  | nil => simp [remaining] at closed
  | cons quote others =>
      rw [remaining] at whole stops
      have stopsThere : ∀ char ∈ (quote :: (others ++ rest)).head?, isStringChar char = false := by
        rintro char ⟨⟩
        exact stops
      rcases span_append passes stopsThere with ⟨taken, dropped⟩
      rw [← List.cons_append, ← List.append_assoc, whole] at taken dropped
      rw [taken, dropped]
      rfl

variable {first blank : Char} (isBlank : Text.isBlank blank) (following rest : List Char)
include isBlank

theorem isWordChar_of_isBlank : isWordChar blank = false := by
  cases inside : isWordChar blank with
  | false => rfl
  | true =>
      rw [isBlank_of_isWordChar inside] at isBlank
      cases isBlank

/-- A blank behind a text continues none of its tokens. -/
theorem read_append_blank
    (closed : (read first following).kind ≠ .illegal .unterminatedString) :
    read first (following ++ blank :: rest) =
      ⟨(read first following).kind, (read first following).text,
        (read first following).rest ++ blank :: rest⟩ := by
  have outside := isWordChar_of_isBlank isBlank
  have single (closed : (single first following).kind ≠ .illegal .unterminatedString) :
      single first (following ++ blank :: rest) =
        ⟨(single first following).kind, (single first following).text,
          (single first following).rest ++ blank :: rest⟩ := by
    unfold Lexeme.single at closed ⊢
    split
    · rfl
    · next noSymbol =>
        rw [noSymbol] at closed
        split
        · next isQuote =>
            simp only [if_pos isQuote] at closed
            exact quoted_append following (blank :: rest) closed
        · split
          · have stops : ∀ char ∈ (blank :: rest).head?, isWordChar char = false := by
              rintro char ⟨⟩
              exact outside
            rcases span_append_of_stops following stops with ⟨taken, dropped⟩
            rw [word, word, taken, dropped]
          · split
            · have stops : ∀ char ∈ (blank :: rest).head?, char.isDigit = false := by
                rintro char ⟨⟩
                simp only [isWordChar, Bool.or_eq_false_iff] at outside
                exact outside.2
              rcases span_append_of_stops following stops with ⟨taken, dropped⟩
              rw [numeral, numeral, taken, dropped]
            · rfl
  cases following with
  | nil =>
      have noPair : Symbol.ofPair? first blank = none := by
        unfold Symbol.ofPair?
        split
        · cases isBlank
        · cases isBlank
        · rfl
      rw [List.nil_append] at single ⊢
      simp only [read, noPair]
      exact single closed
  | cons second others =>
      rw [List.cons_append] at single ⊢
      cases pair : Symbol.ofPair? first second with
      | some sign => simp only [read, pair]
      | none =>
          simp only [read, pair] at closed ⊢
          exact single closed

end Lexeme

/-- Blanks are passed over, and the place moves on behind them. -/
theorem lexFrom_blanks {blanks : List Char} (isBlank : ∀ char ∈ blanks, Text.isBlank char)
    (position : Position) (rest : List Char) :
    lexFrom position (blanks ++ rest) = lexFrom (position.advance blanks) rest := by
  have dropped : (blanks ++ rest).dropWhile Text.isBlank = rest.dropWhile Text.isBlank :=
    List.dropWhile_append_of_pos isBlank
  cases remaining : rest.dropWhile Text.isBlank with
  | nil =>
      rw [remaining] at dropped
      rw [lexFrom_eq_of_blank _ dropped, lexFrom_eq_of_blank _ remaining, Position.advance_append]
  | cons first following =>
      rw [remaining] at dropped
      rw [lexFrom_eq_cons _ dropped, lexFrom_eq_cons _ remaining,
        List.takeWhile_append_of_pos isBlank, Position.advance_append]

/-- A token begins at every character that is not blank. -/
theorem lexFrom_of_begins {first : Char} (begins : Text.isBlank first = false)
    (position : Position) (following : List Char) :
    lexFrom position (first :: following) =
      ⟨(Lexeme.read first following).kind, position.line, position.offset,
          (position.advance (Lexeme.read first following).text).offset⟩ ::
        lexFrom (position.advance (Lexeme.read first following).text)
          (Lexeme.read first following).rest := by
  have whole : (first :: following).dropWhile Text.isBlank = first :: following := by
    rw [List.dropWhile_cons, if_neg (by simp [begins])]
  have nothing : (first :: following).takeWhile Text.isBlank = [] := by
    rw [List.takeWhile_cons, if_neg (by simp [begins])]
  rw [lexFrom_eq_cons _ whole, nothing, Position.advance_nil]

theorem lexFrom_ne_nil (position : Position) (input : List Char) : lexFrom position input ≠ [] := by
  cases remaining : input.dropWhile Text.isBlank with
  | nil =>
      rw [lexFrom_eq_of_blank _ remaining]
      exact List.cons_ne_nil _ _
  | cons first following =>
      rw [lexFrom_eq_cons _ remaining]
      exact List.cons_ne_nil _ _

/-- The tokens of a text with a blank and another text behind it: all tokens of the
first one before its end, and then those of the other one. -/
theorem lexFrom_append_blank {blank : Char} (isBlank : Text.isBlank blank) (position : Position)
    (left right : List Char) (closed : .illegal .unterminatedString ∉ lexKinds left) :
    lexFrom position (left ++ blank :: right) =
      (lexFrom position left).dropLast ++
        lexFrom (position.advance (left ++ [blank])) right := by
  induction length : left.length using Nat.strongRecOn generalizing position left with
  | _ size ih =>
      have whole := List.takeWhile_append_dropWhile (p := Text.isBlank) (l := left)
      have leading : ∀ char ∈ left.takeWhile Text.isBlank, Text.isBlank char :=
        List.all_eq_true.mp List.all_takeWhile
      cases remaining : left.dropWhile Text.isBlank with
      | nil =>
          rw [remaining, List.append_nil] at whole
          rw [whole] at leading
          have blanks : ∀ char ∈ left ++ [blank], Text.isBlank char := by
            simpa [or_imp, forall_and] using ⟨leading, isBlank⟩
          rw [lexFrom_eq_of_blank _ remaining, List.append_cons, lexFrom_blanks blanks]
          rfl
      | cons first following =>
          have begins : Text.isBlank first = false := by
            have stopped := List.head?_dropWhile_not Text.isBlank left
            rwa [remaining] at stopped
          have shorter := length_rest_read_lt_of_dropWhile remaining
          rw [lexKinds_of_dropWhile remaining, List.mem_cons, not_or] at closed
          have read := Lexeme.read_append_blank isBlank following right (Ne.symm closed.1)
          have split := Lexeme.text_append_rest_read first following
          rw [remaining] at whole
          rw [← whole, List.append_assoc, lexFrom_blanks leading, lexFrom_blanks leading,
            List.cons_append, lexFrom_of_begins begins, lexFrom_of_begins begins, read,
            ih _ (length ▸ shorter) _ _ closed.2 rfl, List.dropLast_cons_of_ne_nil
              (lexFrom_ne_nil _ _), List.cons_append, ← split]
          simp only [List.append_assoc, Position.advance_append]

/-- A text in two parts has the kinds of the one and then those of the other. -/
theorem lexKinds_of_parts {whole left right : List Char} {behind : Position}
    (parts : lexFrom .start whole = (lexFrom .start left).dropLast ++ lexFrom behind right) :
    lexKinds whole = (lexKinds left).dropLast ++ lexKinds right := by
  rw [← map_kind_lexFrom .start whole, parts, List.map_append, List.map_dropLast, map_kind_lexFrom,
    map_kind_lexFrom]

/-- The kinds of the tokens of two texts with a blank between them. -/
theorem lexKinds_append_blank {blank : Char} (isBlank : Text.isBlank blank)
    (left right : List Char) (closed : .illegal .unterminatedString ∉ lexKinds left) :
    lexKinds (left ++ blank :: right) = (lexKinds left).dropLast ++ lexKinds right :=
  lexKinds_of_parts (lexFrom_append_blank isBlank .start left right closed)

end Ember
