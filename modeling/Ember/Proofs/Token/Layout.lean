import Ember.Proofs.Parser.Clause
import Ember.Proofs.Syntax.Spelling
import Ember.Proofs.Token.Composition
import Ember.Proofs.Token.Tiling

/-!
# Layout

The tokens of a source can be written out anew, each by the text that shows it, with any
blanks between two of them. Such a text has tokens of the same kinds as the source. That
holds for illegal tokens too: a string without an end stands last, and its opening quote
alone is such a string again.
-/

namespace Ember

/-- Blanks between two tokens: at least one. -/
structure Gap where
  text : String
  nonempty : text.toList ≠ []
  blank : ∀ char ∈ text.toList, Text.isBlank char

/-- The texts of tokens, with a gap between any two neighbours. -/
def spaced (gaps : Nat → Gap) : List TokenKind → String
  | [] => ""
  | [kind] => kind.text
  | kind :: next :: rest =>
    kind.text ++ ((gaps 0).text ++ spaced (fun place => gaps (place + 1)) (next :: rest))

/-- A source with another layout: its tokens, without the end of the input, with the given
gaps between them. -/
def relaid (gaps : Nat → Gap) (source : String) : String :=
  spaced gaps ((Token.beforeEnd (lex source)).map Token.kind)

theorem map_kind_lex (source : String) :
    (lex source).map Token.kind = lexKinds source.toList := rfl

/-- The tokens of two texts with a gap between them: all of the first one before its end,
and then those of the second one, from the place behind the gap. -/
theorem lexFrom_append_gap (position : Position) (left : List Char) (gap : Gap)
    (right : List Char) (closed : .illegal .unterminatedString ∉ lexKinds left) :
    lexFrom position (left ++ (gap.text.toList ++ right)) =
      (lexFrom position left).dropLast ++
        lexFrom (position.advance (left ++ gap.text.toList)) right := by
  rcases gap with ⟨text, nonempty, blank⟩
  obtain ⟨first, others, letters⟩ := List.exists_cons_of_ne_nil nonempty
  rw [letters, List.forall_mem_cons] at blank
  dsimp only
  rw [letters, List.cons_append, lexFrom_append_blank blank.1 _ _ _ closed,
    lexFrom_blanks blank.2, ← Position.advance_append, List.append_assoc, List.singleton_append]

/-- Behind a gap a text has the kinds that it has alone. -/
theorem lexKinds_append_gap (left : List Char) (gap : Gap) (right : List Char)
    (closed : .illegal .unterminatedString ∉ lexKinds left) :
    lexKinds (left ++ (gap.text.toList ++ right)) = (lexKinds left).dropLast ++ lexKinds right :=
  lexKinds_of_parts (lexFrom_append_gap .start left gap right closed)

/-- A text that is read as one token before the end of the input has that token alone. -/
theorem Spells.alone {before : List Char → Prop} {text : String} {kinds : List TokenKind}
    (spelled : Spells before text kinds) (ends : before []) :
    lexKinds text.toList = kinds ++ [.endOfInput] := by
  have whole := spelled [] ends
  rwa [List.append_nil, lexKinds_nil] at whole

/-- The text that shows a token is read as that token. -/
theorem TokenKind.lexKinds_text {kind : TokenKind} (proper : kind.IsProper) :
    lexKinds kind.text.toList = [kind, .endOfInput] := by
  have endsWord : EndsWord [] := nofun
  cases kind with
  | identifier name => exact (Spells.name proper).alone endsWord
  | integer digits => exact (Spells.numeral proper.1 proper.2).alone endsWord
  | string content =>
      have spelled : Spells (fun _ => True) _ [.string content] := Spells.string proper
      exact spelled.alone trivial
  | keyword reserved => exact (Spells.keyword reserved).alone endsWord
  | symbol sign =>
      apply (Spells.symbol sign).alone
      cases sign <;> first | exact trivial | exact nofun
  | endOfInput => exact proper.elim
  | illegal fault =>
      cases fault with
      | unterminatedString => decide +kernel
      | illegalCharacter char =>
          obtain ⟨begins, noWord, noQuote, noSymbol⟩ := proper
          rw [Lexeme.isWordChar, Bool.or_eq_false_iff] at noWord
          have read : Lexeme.read char [] = ⟨.illegal (.illegalCharacter char), [char], []⟩ := by
            simp [Lexeme.read, Lexeme.single, noSymbol, noQuote, noWord]
          rw [TokenKind.text, Char.toString_eq_singleton, String.toList_singleton,
            lexKinds_cons begins, read, lexKinds_nil]

/-- Tokens with gaps between them are read as these tokens, if no string without an end
stands before another token. -/
theorem lexKinds_spaced (gaps : Nat → Gap) {kinds : List TokenKind}
    (proper : ∀ kind ∈ kinds, kind.IsProper)
    (closed : .illegal .unterminatedString ∉ kinds.dropLast) :
    lexKinds (spaced gaps kinds).toList = kinds ++ [.endOfInput] := by
  induction kinds generalizing gaps with
  | nil => exact lexKinds_nil
  | cons kind rest ih =>
      rw [List.forall_mem_cons] at proper
      have alone := TokenKind.lexKinds_text proper.1
      cases rest with
      | nil => exact alone
      | cons next others =>
          rw [List.dropLast_cons_cons, List.mem_cons, not_or] at closed
          have closedAlone : .illegal .unterminatedString ∉ lexKinds kind.text.toList := by
            simp [alone, closed.1]
          rw [spaced, String.toList_append, String.toList_append,
            lexKinds_append_gap _ _ _ closedAlone, alone, ih _ proper.2 closed.2]
          rfl

/-- Only the last one of the tokens that tile a source is a string without an end. -/
theorem Tiling.unterminated_not_mem {source : List Char} {reached : Nat} {tokens : List Token}
    {ending : Token} (tiling : Tiling source reached tokens ending) :
    .illegal .unterminatedString ∉ (tokens.map Token.kind).dropLast := by
  rw [← List.map_dropLast, List.mem_map]
  rintro ⟨token, member, unterminated⟩
  rcases List.eq_nil_or_concat tokens with rfl | ⟨front, last, rfl⟩
  · cases member
  · rw [List.concat_eq_append, List.dropLast_concat] at member
    obtain ⟨before, behind, rfl⟩ := List.append_of_mem member
    have nothing := tiling.unterminated_last before token (behind ++ [last]) (by simp) unterminated
    simp at nothing

/-- The kinds of the tokens of a source are proper, and only the last one can be a string
without an end. The end of the input stands behind them. -/
theorem kinds_beforeEnd_lex (source : String) :
    let kinds := (Token.beforeEnd (lex source)).map Token.kind
    (∀ kind ∈ kinds, kind.IsProper) ∧ .illegal .unterminatedString ∉ kinds.dropLast ∧
      (lex source).map Token.kind = kinds ++ [.endOfInput] := by
  obtain ⟨tokens, ending, whole, tiling⟩ := exists_tiling_lexFrom [] source.toList
  have inside : ∀ token ∈ tokens, token.isEnd = false := by
    intro token member
    simpa [Token.isEnd] using (tiling.matched token member).1
  have ended : ending.isEnd := by simp [Token.isEnd, tiling.ended.1]
  have split : lex source = tokens ++ [ending] := whole
  rw [split, Token.beforeEnd_concat inside ended]
  refine ⟨?_, tiling.unterminated_not_mem, ?_⟩
  · intro kind member
    obtain ⟨token, inTokens, rfl⟩ := List.mem_map.mp member
    obtain ⟨-, -, before, text, after, -, longest⟩ := tiling.matched token inTokens
    exact longest.proper
  · rw [List.map_append, List.map_singleton, tiling.ended.1]

/-- Another layout leaves the kinds of all tokens as they are. -/
theorem map_kind_lex_relaid (gaps : Nat → Gap) (source : String) :
    (lex (relaid gaps source)).map Token.kind = (lex source).map Token.kind := by
  obtain ⟨proper, closed, whole⟩ := kinds_beforeEnd_lex source
  rw [whole, map_kind_lex, relaid]
  exact lexKinds_spaced gaps proper closed

end Ember
