import Ember.Proofs.Parser.Equations

/-!
# Runs of the parser

A run is told from what it takes. `Reaches` says that a parser, once it has taken
some tokens, has exactly the work of another parser left; `Takes` says that
nothing is left to do and a value is there. Runs compose along the combinators,
and a successful run can be taken apart along them.
-/

namespace Ember

/-- The reply of a parser that goes on behind some tokens. -/
def Reply.behind {α : Type} (reply : Reply α) (count : Nat) : Reply α :=
  ⟨reply.result, count + reply.consumed, reply.openBraces⟩

@[simp] theorem Reply.behind_zero {α : Type} (reply : Reply α) : reply.behind 0 = reply := by
  simp [Reply.behind]

@[simp] theorem Reply.behind_behind {α : Type} (reply : Reply α) (count before : Nat) :
    (reply.behind count).behind before = reply.behind (before + count) := by
  simp [Reply.behind, Nat.add_assoc]

namespace Parser

variable {α β : Type}

/-- The parser takes some tokens, and then it has the work of another one left. -/
structure Reaches (parser : Parser α) (cursor : Cursor) (taken : List Token)
    (remaining : Parser α) (after : Cursor) : Prop where
  tokens : cursor.tokens = taken ++ after.tokens
  reply : parser cursor = (remaining after).behind taken.length

/-- The parser takes some tokens and succeeds with a value. -/
def Takes (parser : Parser α) (cursor : Cursor) (taken : List Token) (value : α)
    (after : Cursor) : Prop :=
  Reaches parser cursor taken (pure value) after

/-- The parser does not succeed. -/
def Fails (parser : Parser α) (cursor : Cursor) : Prop :=
  ∃ error consumed openBraces, parser cursor = ⟨.error error, consumed, openBraces⟩

namespace Reaches

theorem refl (parser : Parser α) (cursor : Cursor) : Reaches parser cursor [] parser cursor :=
  ⟨rfl, by simp⟩

theorem trans {first second third : Parser α} {before middle after : Cursor}
    {taken further : List Token} (here : Reaches first before taken second middle)
    (there : Reaches second middle further third after) :
    Reaches first before (taken ++ further) third after := by
  constructor
  · rw [here.tokens, there.tokens, List.append_assoc]
  · rw [here.reply, there.reply, Reply.behind_behind, List.length_append]

/-- The part of a run before a continuation. -/
theorem bind {parser remaining : Parser α} {cursor after : Cursor} {taken : List Token}
    (run : Reaches parser cursor taken remaining after) (next : α → Parser β) :
    Reaches (parser >>= next) cursor taken (remaining >>= next) after := by
  refine ⟨run.tokens, ?_⟩
  have behind (openBraces count : Nat) : cursor.after (taken.length + count) openBraces =
      after.after count openBraces := by
    simp [Cursor.after, run.tokens, ← List.drop_drop]
  rw [bind_apply, bind_apply, run.reply]
  rcases remaining after with ⟨_ | value, consumed, openBraces⟩
  · rfl
  · simp [Reply.behind, behind, Nat.add_assoc]

theorem look (next : Token → Parser α) (cursor : Cursor) :
    Reaches (peek >>= next) cursor [] (next (Token.next cursor.tokens)) cursor :=
  ⟨rfl, by simp⟩

/-- A run behind an expected token. -/
theorem expect {kind : TokenKind} {token : Token} (fits : token.kind = kind) (rest : List Token)
    (openBraces : Nat) (next : Unit → Parser α) :
    Reaches (expect kind >>= next) ⟨token :: rest, openBraces⟩ [token] (next ())
      ⟨rest, openBraces⟩ := by
  refine ⟨rfl, ?_⟩
  have next : (Token.next (Cursor.mk (token :: rest) openBraces).tokens).kind = kind := fits
  rw [expect_bind_of_eq next, advance_bind_apply]
  rfl

theorem terminated {cursor : Cursor}
    (follows : (Token.next cursor.tokens).kind = .symbol .semicolon) (next : Unit → Parser α) :
    Reaches (terminated >>= next) cursor [] (next ()) cursor := by
  rw [Parser.terminated, bind_assoc]
  have run := look (fun token => (if token.kind = .symbol .semicolon then pure () else
    fail (.unexpected (.token (.symbol .semicolon)) token)) >>= next) cursor
  rwa [if_pos follows, pure_bind] at run

theorem fails {parser remaining : Parser α} {cursor after : Cursor} {taken : List Token}
    (run : Reaches parser cursor taken remaining after) (failure : Fails remaining after) :
    Fails parser cursor := by
  rcases failure with ⟨error, consumed, openBraces, failed⟩
  exact ⟨error, taken.length + consumed, openBraces, by rw [run.reply, failed]; rfl⟩

end Reaches

namespace Fails

theorem bind {parser : Parser α} {cursor : Cursor} (failure : Fails parser cursor)
    (next : α → Parser β) : Fails (parser >>= next) cursor := by
  rcases failure with ⟨error, consumed, openBraces, failed⟩
  exact ⟨error, consumed, openBraces, by rw [bind_apply, failed]⟩

/-- Another token than the expected one. -/
theorem expect {kind : TokenKind} {cursor : Cursor}
    (fitsNot : (Token.next cursor.tokens).kind ≠ kind) (next : Unit → Parser α) :
    Fails (expect kind >>= next) cursor :=
  ⟨_, _, _, expect_bind_of_ne fitsNot next⟩

/-- A sequence fails with its first element. -/
theorem sequence {element : Parser α} {separator terminator : TokenKind} {cursor : Cursor}
    (properSeparator : separator ≠ .endOfInput) (properTerminator : terminator ≠ .endOfInput)
    (goesOn : (Token.next cursor.tokens).kind ≠ terminator) (failure : Fails element cursor) :
    Fails (sequence element separator terminator) cursor := by
  rw [sequence_eq element properSeparator properTerminator]
  apply (Reaches.look _ cursor).fails
  rw [if_neg goesOn]
  split
  · exact ⟨_, _, _, rfl⟩
  · exact failure.bind _

theorem braced {element : Parser α} {separator : TokenKind} {tokens : List Token} {openBraces : Nat}
    (failure : Fails (Parser.sequence element separator (.symbol .rightBrace))
      ⟨tokens, openBraces + 1⟩) :
    Fails (braced element separator) ⟨tokens, openBraces⟩ := by
  rcases failure with ⟨error, consumed, stillOpen, failed⟩
  refine ⟨error, consumed, stillOpen, ?_⟩
  rw [Parser.braced, bind_apply]
  simp [openBrace, Cursor.after, bind_apply, failed]

end Fails

namespace Takes

theorem pure (value : α) (cursor : Cursor) : Takes (Pure.pure value) cursor [] value cursor :=
  .refl _ cursor

/-- What a parser replies is what it takes. -/
theorem of_reply {parser : Parser α} {cursor : Cursor} {value : α} {consumed openBraces : Nat}
    (reply : parser cursor = ⟨.ok value, consumed, openBraces⟩)
    (within : consumed ≤ cursor.tokens.length) :
    Takes parser cursor (cursor.tokens.take consumed) value (cursor.after consumed openBraces) := by
  refine ⟨(List.take_append_drop _ _).symm, ?_⟩
  rw [reply, List.length_take_of_le within]
  simp [Reply.behind]

/-- A run that ends where nothing more is taken. -/
theorem of_reaches {parser remaining : Parser α} {cursor middle after : Cursor}
    {taken : List Token} {value : α} (run : Reaches parser cursor taken remaining middle)
    (done : Takes remaining middle [] value after) : Takes parser cursor taken value after := by
  have whole := run.trans done
  rwa [List.append_nil] at whole

theorem reply_eq {parser : Parser α} {cursor after : Cursor} {taken : List Token} {value : α}
    (run : Takes parser cursor taken value after) :
    parser cursor = ⟨.ok value, taken.length, after.openBraces⟩ := by
  rw [run.reply]
  simp [Reply.behind]

/-- Behind a success the continuation is left to do. -/
theorem reaches {parser : Parser α} {cursor after : Cursor} {taken : List Token} {value : α}
    (run : Takes parser cursor taken value after) (next : α → Parser β) :
    Reaches (parser >>= next) cursor taken (next value) after := by
  have whole := run.bind next
  rwa [pure_bind] at whole

theorem bind {parser : Parser α} {next : α → Parser β} {cursor middle after : Cursor}
    {taken further : List Token} {value : α} {result : β}
    (first : Takes parser cursor taken value middle)
    (second : Takes (next value) middle further result after) :
    Takes (parser >>= next) cursor (taken ++ further) result after :=
  (first.reaches next).trans second

/-- A successful run through a continuation has two parts. -/
theorem of_bind {parser : Parser α} {next : α → Parser β} {cursor after : Cursor}
    {taken : List Token} {result : β} (run : Takes (parser >>= next) cursor taken result after) :
    ∃ first second value middle, taken = first ++ second ∧
      Takes parser cursor first value middle ∧ Takes (next value) middle second result after := by
  have whole := run.reply_eq
  rw [bind_apply] at whole
  cases here : parser cursor with
  | mk outcome consumed openBraces =>
      cases outcome with
      | error error => simp [here] at whole
      | ok value =>
          simp only [here, Reply.mk.injEq] at whole
          rcases whole with ⟨succeeded, counted, stillOpen⟩
          have within : consumed ≤ taken.length := Nat.le.intro counted
          have split : cursor.tokens.take consumed = taken.take consumed := by
            rw [run.tokens, List.take_append_of_le_length within]
          have first := of_reply here (by rw [run.tokens, List.length_append]; omega)
          rw [split] at first
          refine ⟨taken.take consumed, taken.drop consumed, value,
            cursor.after consumed openBraces, (List.take_append_drop _ _).symm, first, ?_⟩
          constructor
          · rw [Cursor.tokens_after, run.tokens, List.drop_append_of_le_length within]
          · cases there : next value (cursor.after consumed openBraces) with
            | mk nextOutcome further nextBraces =>
                rw [there] at succeeded counted stillOpen
                dsimp only at succeeded counted stillOpen
                subst succeeded stillOpen
                simp only [Reply.behind, pure_apply, List.length_drop, Reply.mk.injEq, true_and,
                  and_true]
                omega

theorem of_pure {value result : α} {cursor after : Cursor} {taken : List Token}
    (run : Takes (Pure.pure value) cursor taken result after) :
    taken = [] ∧ result = value ∧ after = cursor := by
  have whole := run.reply_eq
  simp only [pure_apply, Reply.mk.injEq, Except.ok.injEq] at whole
  rcases whole with ⟨rfl, empty, sameBraces⟩
  obtain rfl : taken = [] := List.eq_nil_of_length_eq_zero empty.symm
  refine ⟨rfl, rfl, ?_⟩
  rcases after with ⟨tokens, openBraces⟩
  have sameTokens := run.tokens
  rcases cursor with ⟨_, _⟩
  simp_all

/-- A step that takes no token and only counts. -/
theorem of_count {parser : Parser Unit} {cursor after : Cursor} {taken : List Token} {value : Unit}
    {counted : Nat} (run : Takes parser cursor taken value after)
    (counts : parser cursor = ⟨.ok (), 0, counted⟩) :
    taken = [] ∧ after = ⟨cursor.tokens, counted⟩ := by
  have whole := run.reply_eq
  rw [counts, Reply.mk.injEq] at whole
  rcases whole with ⟨-, empty, sameBraces⟩
  obtain rfl : taken = [] := List.eq_nil_of_length_eq_zero empty.symm
  refine ⟨rfl, ?_⟩
  rw [run.tokens, List.nil_append, sameBraces]

theorem of_look {next : Token → Parser α} {cursor after : Cursor} {taken : List Token} {value : α}
    (run : Takes (peek >>= next) cursor taken value after) :
    Takes (next (Token.next cursor.tokens)) cursor taken value after :=
  ⟨run.tokens, (peek_bind_apply next cursor).symm.trans run.reply⟩

theorem not_fail {error : SyntaxError} {cursor after : Cursor} {taken : List Token} {value : α} :
    ¬ Takes (fail error) cursor taken value after := by
  intro run
  have whole := run.reply_eq
  simp at whole

theorem not_fails {parser : Parser α} {cursor after : Cursor} {taken : List Token} {value : α}
    (run : Takes parser cursor taken value after) : ¬ Fails parser cursor := by
  rintro ⟨error, consumed, openBraces, failed⟩
  have whole := run.reply_eq
  rw [failed] at whole
  simp at whole

/-- A successful run through an expected token begins with that token. -/
theorem of_expect {kind : TokenKind} (proper : kind ≠ .endOfInput) {next : Unit → Parser α}
    {cursor after : Cursor} {taken : List Token} {value : α}
    (run : Takes (Parser.expect kind >>= next) cursor taken value after) :
    ∃ token rest, token.kind = kind ∧ taken = token :: rest ∧
      Takes (next ()) ⟨rest ++ after.tokens, cursor.openBraces⟩ rest value after := by
  have whole := run.reply_eq
  by_cases fits : (Token.next cursor.tokens).kind = kind
  · rcases exists_cons_of_next fits proper with ⟨token, others, remaining, sameKind⟩
    rw [expect_bind_of_eq fits, advance_bind_apply] at whole
    simp only [Reply.mk.injEq] at whole
    rcases whole with ⟨succeeded, counted, stillOpen⟩
    cases taken with
    | nil => simp at counted
    | cons first rest =>
        have sameTokens := run.tokens
        rw [remaining, List.cons_append, List.cons.injEq] at sameTokens
        rcases sameTokens with ⟨rfl, rfl⟩
        have behind : cursor.after 1 cursor.openBraces =
            ⟨rest ++ after.tokens, cursor.openBraces⟩ := by
          simp [Cursor.after, remaining]
        rw [behind] at succeeded counted stillOpen
        refine ⟨token, rest, sameKind, rfl, rfl, ?_⟩
        cases there : next () ⟨rest ++ after.tokens, cursor.openBraces⟩ with
        | mk outcome consumed openBraces =>
            rw [there] at succeeded counted stillOpen
            simp only [List.length_cons] at counted
            simp only [Reply.behind, pure_apply, Reply.mk.injEq]
            exact ⟨succeeded, by omega, stillOpen⟩
  · rw [expect_bind_of_ne fits] at whole
    simp at whole

theorem of_name {cursor after : Cursor} {taken : List Token} {found : String}
    (run : Takes name cursor taken found after) :
    ∃ token, token.kind = .identifier found ∧ taken = [token] := by
  rw [name_eq] at run
  replace run := run.of_look
  split at run
  · rcases run.of_expect (by simp) with ⟨token, rest, kind, rfl, done⟩
    rcases done.of_pure with ⟨rfl, rfl, -⟩
    exact ⟨token, kind, rfl⟩
  · exact absurd run not_fail

/-- A semicolon that must follow is there, and it stays. -/
theorem of_terminated {next : Unit → Parser α} {cursor after : Cursor} {taken : List Token}
    {value : α} (run : Takes (terminated >>= next) cursor taken value after) :
    (Token.next cursor.tokens).kind = .symbol .semicolon ∧
      Takes (next ()) cursor taken value after := by
  rw [terminated, bind_assoc] at run
  replace run := run.of_look
  split at run
  · next follows =>
      rw [pure_bind] at run
      exact ⟨follows, run⟩
  · exact absurd run not_fail

/-- A sequence ends at once, or it has a first element. Behind that stands a
separator and the rest of the sequence, or the end. -/
theorem of_sequence {element : Parser α} {separator terminator : TokenKind}
    (properSeparator : separator ≠ .endOfInput) (properTerminator : terminator ≠ .endOfInput)
    {cursor after : Cursor} {taken : List Token} {values : List α}
    (run : Takes (sequence element separator terminator) cursor taken values after) :
    (∃ closing, closing.kind = terminator ∧ taken = [closing] ∧ values = []) ∨
      ∃ first value middle, Takes element cursor first value middle ∧
        ((∃ mark rest others, mark.kind = separator ∧ taken = first ++ mark :: rest ∧
            values = value :: others ∧ middle.tokens = mark :: (rest ++ after.tokens) ∧
            Takes (sequence element separator terminator)
              ⟨rest ++ after.tokens, middle.openBraces⟩ rest others after) ∨
          ∃ closing, closing.kind = terminator ∧ taken = first ++ [closing] ∧ values = [value] ∧
            middle.tokens = closing :: after.tokens) := by
  rw [sequence_eq element properSeparator properTerminator] at run
  replace run := run.of_look
  split at run
  · rcases run.of_expect properTerminator with ⟨closing, rest, kind, rfl, done⟩
    rcases done.of_pure with ⟨rfl, rfl, -⟩
    exact .inl ⟨closing, kind, rfl, rfl⟩
  · split at run
    · exact absurd run not_fail
    · rcases run.of_bind with ⟨first, others, value, middle, rfl, here, there⟩
      replace there := there.of_look
      refine .inr ⟨first, value, middle, here, ?_⟩
      split at there
      · rcases there.of_expect properSeparator with ⟨mark, rest, kind, rfl, following⟩
        rcases following.of_bind with ⟨elements, nothing, values, last, rfl, more, done⟩
        rcases done.of_pure with ⟨rfl, rfl, rfl⟩
        rw [List.append_nil] at there more ⊢
        exact .inl ⟨mark, elements, values, kind, rfl, rfl, there.tokens, more⟩
      · split at there
        · rcases there.of_expect properTerminator with ⟨closing, rest, kind, rfl, done⟩
          rcases done.of_pure with ⟨rfl, rfl, -⟩
          exact .inr ⟨closing, kind, rfl, rfl, there.tokens⟩
        · exact absurd there not_fail

/-- The extension of an operand stops before a token that binds no more strongly
than the minimum, or it has one round and goes on. -/
theorem of_extend {inner : Precedence → Parser Expr} {minimum : Precedence} {left result : Expr}
    {cursor after : Cursor} {taken : List Token}
    (run : Takes (extend inner minimum left) cursor taken result after) :
    ((Token.next cursor.tokens).kind.precedence ≤ minimum ∧
        taken = [] ∧ result = left ∧ after = cursor) ∨
      ∃ token next first rest extended middle,
        Continuation.ofKind? token.kind = some next ∧ ¬ next.precedence ≤ minimum ∧
        Token.next cursor.tokens = token ∧ taken = token :: (first ++ rest) ∧
        Takes (continuation inner left next) ⟨first ++ rest ++ after.tokens, cursor.openBraces⟩
          first extended middle ∧
        Takes (extend inner minimum extended) middle rest result after := by
  rw [extend_eq] at run
  replace run := run.of_look
  cases announced : Continuation.ofKind? (Token.next cursor.tokens).kind with
  | none =>
      rw [announced] at run
      rcases run.of_pure with ⟨rfl, rfl, rfl⟩
      refine .inl ⟨?_, rfl, rfl, rfl⟩
      rw [TokenKind.precedence, announced]
      exact Nat.zero_le _
  | some next =>
      rw [announced] at run
      dsimp only at run
      split at run
      · next weak =>
          rcases run.of_pure with ⟨rfl, rfl, rfl⟩
          refine .inl ⟨?_, rfl, rfl, rfl⟩
          rw [TokenKind.precedence, announced]
          exact weak
      · next strong =>
          have proper : (Token.next cursor.tokens).kind ≠ .endOfInput := by
            intro ended
            rw [ended] at announced
            simp [Continuation.ofKind?] at announced
          rcases run.of_expect proper with ⟨token, others, kind, rfl, following⟩
          rcases following.of_bind with ⟨first, rest, extended, middle, rfl, here, there⟩
          have same : Token.next cursor.tokens = token := by
            rw [run.tokens]
            rfl
          exact .inr ⟨token, next, first, rest, extended, middle, kind ▸ announced, strong, same,
            rfl, here, there⟩

/-- Only the count of open braces tells a braced sequence from a plain one. -/
theorem of_braced {element : Parser α} {separator : TokenKind} {cursor after : Cursor}
    {taken : List Token} {values : List α}
    (run : Takes (braced element separator) cursor taken values after) :
    ∃ openBraces, Takes (sequence element separator (.symbol .rightBrace))
      ⟨cursor.tokens, cursor.openBraces + 1⟩ taken values ⟨after.tokens, openBraces⟩ := by
  rw [braced] at run
  rcases run.of_bind with ⟨nothing, others, _, middle, rfl, opening, inside⟩
  rcases opening.of_count rfl with ⟨rfl, rfl⟩
  rcases inside.of_bind with ⟨elements, rest, found, last, rfl, here, there⟩
  rcases there.of_bind with ⟨nothing, others, _, closed, rfl, closing, done⟩
  rcases closing.of_count rfl with ⟨rfl, rfl⟩
  rcases done.of_pure with ⟨rfl, rfl, rfl⟩
  simp only [List.nil_append, List.append_nil]
  exact ⟨last.openBraces, here⟩

end Takes

theorem takes_braced {element : Parser α} {separator : TokenKind} {tokens taken rest : List Token}
    {values : List α} {openBraces : Nat}
    (run : Takes (sequence element separator (.symbol .rightBrace)) ⟨tokens, openBraces + 1⟩ taken
      values ⟨rest, openBraces + 1⟩) :
    Takes (braced element separator) ⟨tokens, openBraces⟩ taken values ⟨rest, openBraces⟩ := by
  refine ⟨run.tokens, ?_⟩
  rw [braced, bind_apply]
  simp only [openBrace]
  have whole := run.reaches fun elements => do
    closeBrace
    return elements
  simp only [Cursor.after, List.drop_zero, Nat.zero_add, whole.reply]
  simp [Reply.behind, bind_apply, closeBrace]

section Sequence

variable {element : Parser α} {separator terminator : TokenKind}

/-- A sequence with nothing in it. -/
theorem takes_sequence_nil (properSeparator : separator ≠ .endOfInput)
    (properTerminator : terminator ≠ .endOfInput) {closing : Token}
    (ends : closing.kind = terminator) (rest : List Token) (openBraces : Nat) :
    Takes (sequence element separator terminator) ⟨closing :: rest, openBraces⟩ [closing] []
      ⟨rest, openBraces⟩ := by
  rw [sequence_eq element properSeparator properTerminator]
  apply (Reaches.look _ _).trans
  rw [Token.next_cons, if_pos ends]
  exact Reaches.expect ends rest openBraces _

/-- A sequence that ends behind its first element. -/
theorem takes_sequence_last (properSeparator : separator ≠ .endOfInput)
    (properTerminator : terminator ≠ .endOfInput) (distinct : terminator ≠ separator)
    {cursor : Cursor} {first rest : List Token} {closing : Token} {value : α} {openBraces : Nat}
    (goesOn : (Token.next cursor.tokens).kind ≠ terminator)
    (inside : (Token.next cursor.tokens).isEnd = false)
    (run : Takes element cursor first value ⟨closing :: rest, openBraces⟩)
    (ends : closing.kind = terminator) :
    Takes (sequence element separator terminator) cursor (first ++ [closing]) [value]
      ⟨rest, openBraces⟩ := by
  rw [sequence_eq element properSeparator properTerminator]
  apply (Reaches.look _ cursor).trans
  rw [if_neg goesOn, if_neg (by simp [inside])]
  refine (run.reaches _).trans ((Reaches.look _ _).trans ?_)
  rw [Token.next_cons, if_neg (by rw [ends]; exact distinct), if_pos ends]
  exact Reaches.expect ends rest openBraces _

/-- Behind a separator the rest of a sequence is left to read. -/
theorem reaches_sequence_more (properSeparator : separator ≠ .endOfInput)
    (properTerminator : terminator ≠ .endOfInput)
    {cursor : Cursor} {first rest : List Token} {mark : Token} {value : α} {openBraces : Nat}
    (goesOn : (Token.next cursor.tokens).kind ≠ terminator)
    (inside : (Token.next cursor.tokens).isEnd = false)
    (run : Takes element cursor first value ⟨mark :: rest, openBraces⟩)
    (separates : mark.kind = separator) :
    Reaches (sequence element separator terminator) cursor (first ++ [mark])
      (do
        let others ← sequence element separator terminator
        return value :: others) ⟨rest, openBraces⟩ := by
  conv =>
    arg 1
    rw [sequence_eq element properSeparator properTerminator]
  apply (Reaches.look _ cursor).trans
  rw [if_neg goesOn, if_neg (by simp [inside])]
  refine (run.reaches _).trans ((Reaches.look _ _).trans ?_)
  rw [Token.next_cons, if_pos separates]
  exact Reaches.expect separates rest openBraces _

end Sequence

theorem takes_name {token : Token} {found : String} (kind : token.kind = .identifier found)
    (rest : List Token) (openBraces : Nat) :
    Takes name ⟨token :: rest, openBraces⟩ [token] found ⟨rest, openBraces⟩ := by
  rw [name_eq]
  apply (Reaches.look _ _).trans
  rw [Token.next_cons, kind]
  exact Reaches.expect kind rest openBraces _

/-- A left operand stays as it is before a token that does not bind more strongly
than the minimum. -/
theorem takes_extend_of_le {inner : Precedence → Parser Expr} {minimum : Precedence}
    {cursor : Cursor} (weak : (Token.next cursor.tokens).kind.precedence ≤ minimum)
    (left : Expr) : Takes (extend inner minimum left) cursor [] left cursor := by
  rw [extend_eq]
  apply (Reaches.look _ cursor).trans
  rw [TokenKind.precedence] at weak
  cases announced : Continuation.ofKind? (Token.next cursor.tokens).kind with
  | none => exact Takes.pure left cursor
  | some next =>
      rw [announced] at weak
      dsimp only
      rw [if_pos weak]
      exact Takes.pure left cursor

/-- Behind a token that binds more strongly than the minimum the continuation that
it announces is left to read. -/
theorem reaches_continuation {inner : Precedence → Parser Expr} {minimum : Precedence} {left : Expr}
    {token : Token} {next : Continuation} {rest : List Token} {openBraces : Nat}
    (announced : Continuation.ofKind? token.kind = some next)
    (strong : ¬ next.precedence ≤ minimum) :
    Reaches (extend inner minimum left) ⟨token :: rest, openBraces⟩ [token]
      (continuation inner left next >>= extend inner minimum) ⟨rest, openBraces⟩ := by
  rw [extend_eq]
  apply (Reaches.look _ _).trans
  rw [Token.next_cons, announced]
  dsimp only
  rw [if_neg strong]
  exact Reaches.expect rfl rest openBraces _

/-- A token that binds more strongly than the minimum extends a left operand. -/
theorem reaches_extend {inner : Precedence → Parser Expr} {minimum : Precedence}
    {left extended : Expr} {token : Token} {next : Continuation} {rest taken : List Token}
    {openBraces : Nat}
    {after : Cursor} (announced : Continuation.ofKind? token.kind = some next)
    (strong : ¬ next.precedence ≤ minimum)
    (run : Takes (continuation inner left next) ⟨rest, openBraces⟩ taken extended after) :
    Reaches (extend inner minimum left) ⟨token :: rest, openBraces⟩ (token :: taken)
      (extend inner minimum extended) after :=
  (reaches_continuation announced strong).trans (run.reaches _)

/-- What is left to read of an operand behind a token that opens one. -/
def behindOpening (inner : Precedence → Parser Expr) : TokenKind → Option (Parser Expr)
  | .symbol .bang => some (unary inner .not)
  | .symbol .minus => some (unary inner .negate)
  | .symbol .leftParen => some (grouped inner)
  | .symbol .leftBracket => some (array inner)
  | .symbol .leftBrace => some (hash inner)
  | .keyword .ifWord => some (conditional inner)
  | .keyword .fnWord => some (function inner)
  | _ => none

/-- An operand goes on behind the token that opens it. -/
theorem reaches_opening {inner : Precedence → Parser Expr} {behind : Parser Expr} {token : Token}
    (opens : behindOpening inner token.kind = some behind) (rest : List Token) (openBraces : Nat) :
    Reaches (operand inner) ⟨token :: rest, openBraces⟩ [token] behind ⟨rest, openBraces⟩ := by
  rw [operand_eq]
  apply (Reaches.look _ _).trans
  rw [Token.next_cons]
  cases kind : token.kind with
  | illegal | identifier | integer | string | endOfInput =>
      rw [kind] at opens
      cases opens
  | symbol sign =>
      rw [kind] at opens
      cases sign <;> first | cases opens; done | (cases opens; exact Reaches.expect kind _ _ _)
  | keyword reserved =>
      rw [kind] at opens
      cases reserved <;> first | cases opens; done | (cases opens; exact Reaches.expect kind _ _ _)

end Parser

end Ember
