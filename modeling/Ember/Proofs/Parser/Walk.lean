import Ember.Proofs.Parser.Recursion
import Ember.Syntax.Program

/-!
# Walks of the parser

Which way a parser can take through the tokens. It passes a semicolon or a closing
brace only behind an opening one that is still counted, and it never passes the
end of the input. A parser that succeeds leaves the count of open braces as it
found it; one that fails leaves it where it stands.

Everything that is known of the count follows from the way: it is the number of
opening braces less the number of closing ones, and what is left of the clause is
what was left before, less the tokens on the way.
-/

namespace Ember

theorem braceDepth_of_isPlain {token : Token} (isPlain : token.kind.isPlain = true) (depth : Nat) :
    braceDepth depth token = depth := by
  unfold braceDepth
  split
  · next kind => simp [kind, TokenKind.isPlain] at isPlain
  · next kind => simp [kind, TokenKind.isPlain] at isPlain
  · rfl

/-- A way from a cursor over a number of tokens, and the braces that are counted as
open at its end. -/
inductive Walk : Cursor → Nat → Nat → Prop where
  | stay (cursor : Cursor) : Walk cursor 0 cursor.openBraces
  | plain {token : Token} {rest : List Token} {before consumed after : Nat} :
      token.kind.isPlain = true → Walk ⟨rest, before⟩ consumed after →
        Walk ⟨token :: rest, before⟩ (consumed + 1) after
  | opening {token : Token} {rest : List Token} {before consumed after : Nat} :
      token.kind = .symbol .leftBrace → Walk ⟨rest, before + 1⟩ consumed after →
        Walk ⟨token :: rest, before⟩ (consumed + 1) after
  | separating {token : Token} {rest : List Token} {before consumed after : Nat} :
      token.kind = .symbol .semicolon → Walk ⟨rest, before + 1⟩ consumed after →
        Walk ⟨token :: rest, before + 1⟩ (consumed + 1) after
  | closing {token : Token} {rest : List Token} {before consumed after : Nat} :
      token.kind = .symbol .rightBrace → Walk ⟨rest, before⟩ consumed after →
        Walk ⟨token :: rest, before + 1⟩ (consumed + 1) after

namespace Walk

/-- Ways can be put together. -/
theorem trans {cursor : Cursor} {consumed further middle after : Nat}
    (first : Walk cursor consumed middle)
    (second : Walk (cursor.after consumed middle) further after) :
    Walk cursor (consumed + further) after := by
  induction first with
  | stay cursor => simpa using second
  | plain isPlain _ ih =>
      rw [Nat.add_right_comm]
      exact .plain isPlain (ih second)
  | opening isOpening _ ih =>
      rw [Nat.add_right_comm]
      exact .opening isOpening (ih second)
  | separating isSeparating _ ih =>
      rw [Nat.add_right_comm]
      exact .separating isSeparating (ih second)
  | closing isClosing _ ih =>
      rw [Nat.add_right_comm]
      exact .closing isClosing (ih second)

theorem length_le {cursor : Cursor} {consumed after : Nat} (walk : Walk cursor consumed after) :
    consumed ≤ cursor.tokens.length := by
  induction walk with
  | stay => exact Nat.zero_le _
  | plain _ _ ih | opening _ _ ih | separating _ _ ih | closing _ _ ih =>
      exact Nat.succ_le_succ ih

/-- The end of the input is not on the way. -/
theorem isEnd_eq_false {cursor : Cursor} {consumed after : Nat}
    (walk : Walk cursor consumed after) :
    ∀ token ∈ cursor.tokens.take consumed, token.isEnd = false := by
  induction walk with
  | stay => simp
  | plain isPlain _ ih =>
      simp only [List.take_succ_cons, List.forall_mem_cons]
      exact ⟨by simpa [Token.isEnd] using TokenKind.ne_endOfInput_of_isPlain isPlain, ih⟩
  | opening kind _ ih | separating kind _ ih | closing kind _ ih =>
      simp only [List.take_succ_cons, List.forall_mem_cons]
      exact ⟨by simp [Token.isEnd, kind], ih⟩

/-- The count of open braces keeps step with the braces on the way. -/
theorem openBraces_add {cursor : Cursor} {consumed after : Nat}
    (walk : Walk cursor consumed after) :
    after + (cursor.tokens.take consumed).countP (·.kind = .symbol .rightBrace) =
      cursor.openBraces + (cursor.tokens.take consumed).countP (·.kind = .symbol .leftBrace) := by
  induction walk with
  | stay => rfl
  | @plain token _ _ _ _ isPlain _ ih =>
      have notOpening : token.kind ≠ .symbol .leftBrace := by
        intro kind
        simp [kind, TokenKind.isPlain] at isPlain
      have notClosing : token.kind ≠ .symbol .rightBrace := by
        intro kind
        simp [kind, TokenKind.isPlain] at isPlain
      simpa [notOpening, notClosing] using ih
  | opening kind _ ih =>
      simp [kind] at ih ⊢
      omega
  | separating kind _ ih =>
      simp [kind] at ih ⊢
      omega
  | closing kind _ ih =>
      simp [kind] at ih ⊢
      omega

/-- The clause ends where it would have ended without the way. -/
theorem clauseLength_eq {cursor : Cursor} {consumed after : Nat}
    (walk : Walk cursor consumed after) :
    clauseLength cursor.openBraces cursor.tokens =
      consumed + clauseLength after (cursor.tokens.drop consumed) := by
  induction walk with
  | stay => simp
  | @plain token rest before consumed after isPlain _ ih =>
      have goesOn : token.isEnd = false := by
        simpa [Token.isEnd] using TokenKind.ne_endOfInput_of_isPlain isPlain
      have inside : token.kind ≠ .symbol .semicolon := by
        intro kind
        simp [kind, TokenKind.isPlain] at isPlain
      simp only [clauseLength, goesOn, inside, braceDepth_of_isPlain isPlain, ih,
        List.drop_succ_cons]
      simp
      omega
  | opening kind _ ih =>
      simp only [clauseLength, Token.isEnd, braceDepth, kind, List.drop_succ_cons, ih]
      simp
      omega
  | separating kind _ ih =>
      simp only [clauseLength, Token.isEnd, braceDepth, kind, List.drop_succ_cons, ih]
      simp
      omega
  | closing kind _ ih =>
      simp only [clauseLength, Token.isEnd, braceDepth, kind, List.drop_succ_cons]
      simp [ih]
      omega

end Walk

namespace Reply

variable {α β : Type}

/-- A reply has a way, and a success leaves the count of open braces as it was. -/
structure Walks (reply : Reply α) (cursor : Cursor) : Prop where
  walk : Walk cursor reply.consumed reply.openBraces
  balanced {value : α} : reply.result = .ok value → reply.openBraces = cursor.openBraces

theorem Walks.failed {error : SyntaxError} {cursor : Cursor} {consumed openBraces : Nat}
    (walk : Walk cursor consumed openBraces) :
    (⟨.error error, consumed, openBraces⟩ : Reply α).Walks cursor := by
  refine ⟨walk, ?_⟩
  intro value success
  cases success

theorem Walks.stay (result : Except SyntaxError α) (cursor : Cursor) :
    (⟨result, 0, cursor.openBraces⟩ : Reply α).Walks cursor :=
  ⟨.stay cursor, fun _ => rfl⟩

/-- A reply inside braces has a way, but a success is already behind the brace that
is still counted. -/
structure WalksInside (reply : Reply α) (tokens : List Token) (openBraces : Nat) : Prop where
  failed {error : SyntaxError} : reply.result = .error error →
    Walk ⟨tokens, openBraces + 1⟩ reply.consumed reply.openBraces
  closed {value : α} : reply.result = .ok value →
    Walk ⟨tokens, openBraces + 1⟩ reply.consumed openBraces ∧ reply.openBraces = openBraces + 1

theorem WalksInside.error {error : SyntaxError} {tokens : List Token}
    {openBraces consumed after : Nat} (walk : Walk ⟨tokens, openBraces + 1⟩ consumed after) :
    (⟨.error error, consumed, after⟩ : Reply α).WalksInside tokens openBraces := by
  refine ⟨fun _ => walk, ?_⟩
  intro value success
  cases success

theorem WalksInside.ok {value : α} {tokens : List Token} {openBraces consumed : Nat}
    (walk : Walk ⟨tokens, openBraces + 1⟩ consumed openBraces) :
    (⟨.ok value, consumed, openBraces + 1⟩ : Reply α).WalksInside tokens openBraces := by
  refine ⟨?_, fun _ => ⟨walk, rfl⟩⟩
  intro error failure
  cases failure

end Reply

namespace Parser

/-- All replies of a parser have a way, on no more tokens than the bound. The other
parser has no part in it. -/
def Walks (bound : Nat) (α : Type) (parser _other : Parser α) : Prop :=
  ∀ cursor : Cursor, cursor.tokens.length ≤ bound → (parser cursor).Walks cursor

theorem respects_walks : Respects Eq (fun kind => kind.isPlain = true) Walks where
  alike_kind same := congrArg Token.kind same
  free_of_isPlain plain := plain
  mono less walks cursor few := walks cursor (Nat.le_trans few less)
  pure _ cursor _ := .stay _ cursor
  bind := by
    intro bound α β parser _ next _ walks nextWalks cursor few
    have walked := walks cursor few
    rw [bind_apply]
    generalize parser cursor = reply at walked ⊢
    rcases reply with ⟨_ | value, consumed, openBraces⟩
    · exact .failed walked.walk
    · have fewer : (cursor.after consumed openBraces).tokens.length ≤ bound := by
        simp only [Cursor.tokens_after, List.length_drop]
        omega
      have further := nextWalks value _ fewer
      refine ⟨walked.walk.trans further.walk, fun success => ?_⟩
      exact (further.balanced success).trans (walked.balanced rfl)
  look := by
    intro bound α next _ walks cursor few
    rw [peek_bind_apply]
    exact walks _ _ rfl cursor few
  unexpected _ _ _ _ cursor _ := .stay _ cursor
  missingOperand _ cursor _ := .stay _ cursor
  tooLarge _ _ _ _ cursor _ := .stay _ cursor
  expect := by
    intro bound α kind parser _ plain proper walks cursor few
    by_cases fits : (Token.next cursor.tokens).kind = kind
    · rcases cursor with ⟨tokens, openBraces⟩
      rcases exists_cons_of_next fits proper with ⟨token, rest, rfl, sameKind⟩
      simp only [List.length_cons] at few
      have walked := walks rest.length (by omega) ⟨rest, openBraces⟩ (Nat.le_refl _)
      rw [expect_bind_of_eq fits, advance_bind_apply]
      refine ⟨?_, walked.balanced⟩
      rw [Nat.add_comm 1]
      exact .plain (sameKind ▸ plain) walked.walk
    · rw [expect_bind_of_ne fits]
      exact .stay _ cursor

/-- Inside braces a sequence may also pass semicolons. -/
theorem walksInside_sequence {α : Type} {element : Parser α} {separator : TokenKind} {bound : Nat}
    (kinds : separator = .symbol .comma ∨ separator = .symbol .semicolon)
    (elements : Walks bound α element element) (tokens : List Token) (openBraces : Nat)
    (few : tokens.length ≤ bound) :
    (sequence element separator (.symbol .rightBrace) ⟨tokens, openBraces + 1⟩).WalksInside tokens
      openBraces := by
  induction bound using Nat.strongRecOn generalizing tokens with
  | ind bound ih =>
      rw [sequence]
      dsimp only
      split
      · next ended =>
          rcases exists_cons_of_next ended (by decide) with ⟨token, rest, rfl, kind⟩
          exact .ok (.closing kind (.stay _))
      · split
        · exact .error (.stay _)
        · have walked := elements ⟨tokens, openBraces + 1⟩ few
          generalize element ⟨tokens, openBraces + 1⟩ = reply at walked ⊢
          rcases reply with ⟨_ | first, consumed, stillOpen⟩
          · exact .error walked.walk
          · obtain rfl : stillOpen = openBraces + 1 := walked.balanced rfl
            dsimp only
            split
            · exact .error walked.walk
            · next token rest remaining =>
                have shorter : rest.length < bound := by
                  have lengths := congrArg List.length remaining
                  simp only [List.length_drop, List.length_cons] at lengths
                  omega
                have behind : (Cursor.mk tokens (openBraces + 1)).after consumed (openBraces + 1) =
                    ⟨token :: rest, openBraces + 1⟩ := by
                  simp [Cursor.after, remaining]
                have onward {further after : Nat}
                    (walk : Walk ⟨token :: rest, openBraces + 1⟩ (further + 1) after) :
                    Walk ⟨tokens, openBraces + 1⟩ (consumed + 1 + further) after := by
                  rw [Nat.add_assoc, Nat.add_comm 1]
                  exact walked.walk.trans (behind ▸ walk)
                split
                · next separated =>
                    have step {further after : Nat}
                        (walk : Walk ⟨rest, openBraces + 1⟩ further after) :
                        Walk ⟨token :: rest, openBraces + 1⟩ (further + 1) after := by
                      rcases kinds with rfl | rfl
                      · exact .plain (by rw [separated]; rfl) walk
                      · exact .separating separated walk
                    have following := ih rest.length shorter
                      (respects_walks.mono (Nat.le_of_lt shorter) elements) rest (Nat.le_refl _)
                    generalize sequence element separator (.symbol .rightBrace)
                      ⟨rest, openBraces + 1⟩ = reply at following ⊢
                    rcases reply with ⟨_ | others, further, after⟩
                    · exact .error (onward (step (following.failed rfl)))
                    · rcases following.closed rfl with ⟨walk, rfl⟩
                      exact .ok (onward (step walk))
                · split
                  · next ended =>
                      exact .ok (onward (.closing ended (.stay _)))
                  · exact .error walked.walk

theorem congruence_walks : Congruence Eq (fun kind => kind.isPlain = true) Walks where
  toRespects := respects_walks
  braces := by
    intro bound α element _ separator kinds elements cursor few
    by_cases fits : (Token.next cursor.tokens).kind = .symbol .leftBrace
    · rcases cursor with ⟨tokens, openBraces⟩
      rcases exists_cons_of_next fits (by decide) with ⟨token, rest, rfl, kind⟩
      simp only [List.length_cons] at few
      have inside := walksInside_sequence kinds (elements rest.length (by omega)) rest openBraces
        (Nat.le_refl _)
      rw [expect_bind_of_eq fits, advance_bind_apply, braced, bind_apply]
      simp only [openBrace, Cursor.after, List.drop_succ_cons, List.drop_zero, bind_apply]
      generalize sequence element separator (.symbol .rightBrace) ⟨rest, openBraces + 1⟩ = reply
        at inside ⊢
      rcases reply with ⟨_ | values, consumed, after⟩
      · refine .failed ?_
        have walk := Walk.opening kind (inside.failed rfl)
        simpa [Nat.add_comm] using walk
      · rcases inside.closed rfl with ⟨walk, rfl⟩
        have closed := Walk.opening kind walk
        refine ⟨?_, fun _ => rfl⟩
        simpa [closeBrace, Nat.add_comm] using closed
    · rw [expect_bind_of_ne fits]
      exact .stay _ cursor

/-- Every reply of the parser for expressions has a way. -/
theorem walks_expression (minimum : Precedence) (cursor : Cursor) :
    (expression minimum cursor).Walks cursor :=
  congruence_walks.expression cursor.tokens.length minimum cursor (Nat.le_refl _)

/-- Every reply of the parser for statements has a way. -/
theorem walks_statement (cursor : Cursor) : (statement cursor).Walks cursor :=
  congruence_walks.statement cursor.tokens.length cursor (Nat.le_refl _)

end Parser

end Ember
