import Ember.Proofs.Token.Layout

/-!
# Tokens behind another text

Where a text begins shows in the places of its tokens and nowhere else. If it begins some
lines and bytes further on, so do all its tokens; their kinds and their lengths stay. So the
tokens of two texts with blanks between them are known from those of the two texts alone: the
second ones are moved on by the line ends and the bytes in front of their text.
-/

namespace Ember

open Text (byteSize byteSize_toList)

namespace Position

variable (lines bytes : Nat) (position : Position)

/-- The place so many lines and bytes further on. -/
def shift : Position :=
  ⟨position.line + lines, position.offset + bytes⟩

theorem step_shift (char : Char) :
    (position.shift lines bytes).step char = (position.step char).shift lines bytes := by
  rw [step, step, shift, shift, mk.injEq]
  constructor
  · split
    · exact Nat.add_right_comm _ _ _
    · rfl
  · exact Nat.add_right_comm _ _ _

/-- From every place a text leads equally far on. -/
theorem advance_shift (text : List Char) :
    (position.shift lines bytes).advance text = (position.advance text).shift lines bytes := by
  induction text generalizing position with
  | nil => rfl
  | cons char text ih => rw [advance_cons, advance_cons, step_shift, ih]

end Position

/-- The same token, so many lines and bytes further on. -/
def Token.shift (lines bytes : Nat) (token : Token) : Token :=
  ⟨token.kind, token.line + lines, token.start + bytes, token.stop + bytes⟩

/-- A text that begins further on has the same tokens, each as much further on. -/
theorem lexFrom_shift (lines bytes : Nat) (position : Position) (input : List Char) :
    lexFrom (position.shift lines bytes) input =
      (lexFrom position input).map (Token.shift lines bytes) := by
  fun_induction lexFrom position input with
  | case1 position input start nothing =>
      rw [lexFrom]
      split
      · rw [Position.advance_shift]
        rfl
      · next remaining => simp [nothing] at remaining
  | case2 position input start first following remaining lexeme stop ih =>
      -- The same lexeme is read at both places, so the texts behind it are shifted alike.
      rw [lexFrom_eq_cons _ remaining, Position.advance_shift, Position.advance_shift, ih]
      rfl

/-- Behind other characters a text has the tokens that it has without them, moved on by their
line ends and bytes. -/
theorem lexFrom_advance (position : Position) (before input : List Char) :
    lexFrom (position.advance before) input =
      (lexFrom position input).map (Token.shift (before.count '\n') (byteSize before)) := by
  rw [Position.advance_eq]
  exact lexFrom_shift _ _ position input

/-- The tokens of a source before its end are all but the last one. -/
theorem dropLast_lex (source : String) : (lex source).dropLast = Token.beforeEnd (lex source) := by
  obtain ⟨tokens, ending, whole, inside, ended⟩ := exists_lex_eq source
  rw [whole, List.dropLast_concat, Token.beforeEnd_concat inside ended]

/-- Blanks part a source in two. If no string is left open in front of them, the tokens are
those of the front part before its end, and then those of the rest, its end included. These
have the lines and the offsets that they have in the rest alone, with the line ends and the
bytes in front of the rest added. -/
theorem lex_append_gap (left : String) (gap : Gap) (right : String)
    (closed : .illegal .unterminatedString ∉ (lex left).map Token.kind) :
    lex (left ++ gap.text ++ right) =
      Token.beforeEnd (lex left) ++
        (lex right).map (Token.shift ((left ++ gap.text).toList.count '\n')
          (left ++ gap.text).utf8ByteSize) := by
  calc lex (left ++ gap.text ++ right)
    _ = lexFrom .start (left.toList ++ (gap.text.toList ++ right.toList)) := by
      rw [lex, String.toList_append, String.toList_append, List.append_assoc]
    _ = (lex left).dropLast ++
        lexFrom (Position.start.advance (left ++ gap.text).toList) right.toList := by
      rw [lexFrom_append_gap _ _ _ _ closed, String.toList_append, lex]
    _ = Token.beforeEnd (lex left) ++
        (lex right).map (Token.shift ((left ++ gap.text).toList.count '\n')
          (left ++ gap.text).utf8ByteSize) := by
      rw [dropLast_lex, lexFrom_advance, byteSize_toList, ← lex]

/-- The string ends on its second line, and the wide space takes three bytes. -/
theorem lex_append_gap_wideSpace :
    lex ("\"é\n\"" ++ "\u3000\n" ++ "b=") =
      [⟨.string "é\n", 1, 0, 5⟩, ⟨.identifier "b", 3, 9, 10⟩, ⟨.symbol .assign, 3, 10, 11⟩,
        ⟨.endOfInput, 3, 11, 11⟩] := by
  have blank : ∀ char ∈ "\u3000\n".toList, Text.isBlank char := List.all_eq_true.mp (by decide)
  have joined := lex_append_gap "\"é\n\"" ⟨"\u3000\n", by decide, blank⟩ "b=" (by decide +kernel)
  dsimp only at joined
  rw [joined]
  decide +kernel

end Ember
