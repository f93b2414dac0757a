import Ember.Proofs.Parser.Clause
import Ember.Proofs.Parser.Lookahead

/-!
# Recovery

A program is parsed chunk by chunk. The chunks are found without the parser: a
chunk ends behind the first semicolon outside all braces. What comes of a chunk
is what would come of it if nothing else were there, whether the chunks before it
are faulty or not.

The parser finds the end of a chunk because a statement never passes a semicolon
outside all braces, and because the braces that it leaves open when it fails are
those that it has passed.
-/

namespace Ember

/-- The chunks of a token list before the end of the input, from inside a number of
braces. -/
def chunks : Nat → List Token → List (List Token)
  | _, [] => []
  | depth, token :: rest =>
    if token.isEnd then []
    else if token.kind = .symbol .semicolon ∧ depth = 0 then [token] :: chunks 0 rest
    else
      match chunks (braceDepth depth token) rest with
      | [] => [[token]]
      | chunk :: others => (token :: chunk) :: others

/-- Whether there is a semicolon outside all braces, from inside a number of
them. -/
def hasSemicolon : Nat → List Token → Bool
  | _, [] => false
  | depth, token :: rest =>
    if token.kind = .symbol .semicolon ∧ depth = 0 then true
    else hasSemicolon (braceDepth depth token) rest

section Length

variable {depth : Nat} {tokens : List Token}

theorem clauseLength_of_isEnd (ended : (Token.next tokens).isEnd) :
    clauseLength depth tokens = 0 := by
  cases tokens with
  | nil => rfl
  | cons token rest =>
      rw [Token.next_cons] at ended
      simp [clauseLength, ended]

theorem clauseLength_pos (goesOn : (Token.next tokens).isEnd = false) :
    0 < clauseLength depth tokens := by
  cases tokens with
  | nil => cases goesOn
  | cons token rest => exact Clause.clauseLength_pos goesOn

theorem clauseLength_le (depth : Nat) (tokens : List Token) :
    clauseLength depth tokens ≤ tokens.length := by
  induction tokens generalizing depth with
  | nil => exact Nat.le_refl 0
  | cons token rest ih =>
      rw [clauseLength, List.length_cons]
      split
      · exact Nat.zero_le _
      · split
        · exact Nat.le_add_left 1 _
        · rw [Nat.add_comm 1]
          exact Nat.succ_le_succ (ih _)

theorem chunks_of_isEnd (ended : (Token.next tokens).isEnd) : chunks depth tokens = [] := by
  cases tokens with
  | nil => rfl
  | cons token rest =>
      rw [Token.next_cons] at ended
      simp [chunks, ended]

/-- The first chunk has the length of a clause. -/
theorem chunks_eq (goesOn : (Token.next tokens).isEnd = false) :
    chunks depth tokens =
      tokens.take (clauseLength depth tokens) ::
        chunks 0 (tokens.drop (clauseLength depth tokens)) := by
  induction tokens generalizing depth with
  | nil => cases goesOn
  | cons token rest ih =>
      rw [Token.next_cons] at goesOn
      by_cases ends : token.kind = .symbol .semicolon ∧ depth = 0
      · simp [chunks, clauseLength, goesOn, ends]
      · rw [chunks, clauseLength, if_neg (by simp [goesOn]), if_neg ends, if_neg (by simp [goesOn]),
          if_neg ends, Nat.add_comm 1, List.take_succ_cons, List.drop_succ_cons]
        cases ended : (Token.next rest).isEnd with
        | true =>
            rw [clauseLength_of_isEnd ended, List.take_zero, List.drop_zero, chunks_of_isEnd ended,
              chunks_of_isEnd ended]
        | false => rw [ih ended]

/-- The chunks are all that stands before the end of the input. -/
theorem flatten_chunks (depth : Nat) (tokens : List Token) :
    (chunks depth tokens).flatten = Token.beforeEnd tokens := by
  induction tokens generalizing depth with
  | nil => rfl
  | cons token rest ih =>
      rw [chunks]
      split
      · next ended =>
          have nothing : Token.beforeEnd (token :: rest) = [] := Token.beforeEnd_of_isEnd ended
          rw [nothing, List.flatten_nil]
      · next goesOn =>
          rw [Bool.not_eq_true] at goesOn
          have onward : Token.beforeEnd (token :: rest) = token :: Token.beforeEnd rest := by
            simp [Token.beforeEnd, goesOn]
          rw [onward]
          split
          · rw [List.flatten_cons, ih, List.singleton_append]
          · rw [← ih (braceDepth depth token)]
            cases chunks (braceDepth depth token) rest with
            | nil => rfl
            | cons chunk others => rfl

theorem length_headD_chunks (depth : Nat) (tokens : List Token) :
    ((chunks depth tokens).headD []).length = clauseLength depth tokens := by
  cases ended : (Token.next tokens).isEnd with
  | true =>
      rw [chunks_of_isEnd ended, clauseLength_of_isEnd ended]
      rfl
  | false =>
      rw [chunks_eq ended, List.headD_cons]
      exact List.length_take_of_le (clauseLength_le depth tokens)

theorem isEnd_eq_false_of_mem_clause :
    ∀ token ∈ tokens.take (clauseLength depth tokens), token.isEnd = false := by
  induction tokens generalizing depth with
  | nil => simp
  | cons token rest ih =>
      rw [clauseLength]
      split
      · simp
      · next goesOn =>
          rw [Bool.not_eq_true] at goesOn
          split
          · simpa using goesOn
          · rw [Nat.add_comm 1, List.take_succ_cons, List.forall_mem_cons]
            exact ⟨goesOn, ih⟩

/-- The end of the input stays behind the first clause. -/
theorem Token.ending_drop_clauseLength (tokens : List Token) :
    ending (tokens.drop (clauseLength depth tokens)) = ending tokens := by
  have parts := List.take_append_drop (clauseLength depth tokens) tokens
  rw [← ending_append isEnd_eq_false_of_mem_clause (tokens.drop (clauseLength depth tokens)), parts]

/-- A clause has a semicolon of its own, or it goes up to the end of the input. -/
theorem hasSemicolon_or_isEnd (depth : Nat) (tokens : List Token) :
    hasSemicolon depth (tokens.take (clauseLength depth tokens)) ∨
      (Token.next (tokens.drop (clauseLength depth tokens))).isEnd := by
  induction tokens generalizing depth with
  | nil => exact .inr rfl
  | cons token rest ih =>
      rw [clauseLength]
      split
      · next ended => exact .inr ended
      · split
        · next ends => exact .inl (by simp [hasSemicolon, ends])
        · next inside =>
            rw [Nat.add_comm 1, List.take_succ_cons, List.drop_succ_cons, hasSemicolon,
              if_neg inside]
            exact ih _

/-- A clause is as long when it stands alone. -/
theorem clauseLength_take_append {rest : List Token} (ended : (Token.next rest).isEnd) :
    clauseLength depth (tokens.take (clauseLength depth tokens) ++ rest) =
      clauseLength depth tokens := by
  induction tokens generalizing depth with
  | nil => exact clauseLength_of_isEnd ended
  | cons token others ih =>
      by_cases atEnd : token.isEnd
      · simpa [clauseLength, atEnd] using clauseLength_of_isEnd ended
      · by_cases ends : token.kind = .symbol .semicolon ∧ depth = 0
        · simp [clauseLength, atEnd, ends]
        · have unfolded : clauseLength depth (token :: others) =
              clauseLength (braceDepth depth token) others + 1 := by
            rw [clauseLength, if_neg atEnd, if_neg ends, Nat.add_comm]
          rw [unfolded, List.take_succ_cons, List.cons_append, clauseLength, if_neg atEnd,
            if_neg ends, ih, Nat.add_comm]

end Length

/-- No way of the parser leads over a semicolon outside all braces. -/
theorem Walk.hasSemicolon_eq_false {cursor : Cursor} {consumed after : Nat}
    (walk : Walk cursor consumed after) :
    hasSemicolon cursor.openBraces (cursor.tokens.take consumed) = false := by
  induction walk with
  | stay => rfl
  | @plain token _ before _ _ isPlain _ ih =>
      have inside : token.kind ≠ .symbol .semicolon := by
        intro kind
        simp [kind, TokenKind.isPlain] at isPlain
      rw [List.take_succ_cons, hasSemicolon, if_neg (by simp [inside]),
        braceDepth_of_isPlain isPlain]
      exact ih
  | opening kind _ ih =>
      rw [List.take_succ_cons, hasSemicolon, if_neg (by simp [kind]), braceDepth, kind]
      exact ih
  | separating kind _ ih =>
      rw [List.take_succ_cons, hasSemicolon, if_neg (by simp), braceDepth, kind]
      exact ih
  | closing kind _ ih =>
      rw [List.take_succ_cons, hasSemicolon, if_neg (by simp), braceDepth, kind]
      exact ih

namespace Clause

/-- A clause ends where it ends without the parser. -/
theorem size_read (tokens : List Token) : (read tokens).size = clauseLength 0 tokens := by
  have walked := Parser.walks_statement tokens
  have whole : clauseLength 0 tokens =
      (Parser.statement tokens).consumed + clauseLength (Parser.statement tokens).openBraces
        (tokens.drop (Parser.statement tokens).consumed) :=
    walked.walk.clauseLength_eq
  cases reply : Parser.statement tokens with
  | mk result consumed openBraces =>
      rw [reply] at walked whole
      cases result with
      | error error => simp [read, reply, size, whole]
      | ok statement =>
          obtain rfl : openBraces = 0 := walked.balanced rfl
          simp only [read, reply]
          split
          · next semicolon =>
              rcases Parser.exists_cons_of_next semicolon (by simp) with
                ⟨mark, others, behind, kind⟩
              simp [size, whole, behind, clauseLength, Token.isEnd, kind]
          · split
            · next ended => simp [size, whole, clauseLength_of_isEnd ended]
            · simp [size, whole]

/-- A statement sees nothing of what stands behind its clause. A semicolon of its
own hides the rest, and behind a clause without one stands the end of the input. -/
theorem statement_take_append {tokens rest : List Token}
    (alone : hasSemicolon 0 (tokens.take (clauseLength 0 tokens)) ∨
      Token.next rest = Token.next (tokens.drop (clauseLength 0 tokens))) :
    Parser.statement (tokens.take (clauseLength 0 tokens) ++ rest : List Token) =
        Parser.statement tokens ∧
      Token.next ((tokens.take (clauseLength 0 tokens) ++ rest).drop
          (Parser.statement tokens).consumed) =
        Token.next (tokens.drop (Parser.statement tokens).consumed) := by
  have walk := (Parser.walks_statement tokens).walk
  have length : clauseLength 0 tokens =
      (Parser.statement tokens).consumed + clauseLength (Parser.statement tokens).openBraces
        (tokens.drop (Parser.statement tokens).consumed) :=
    walk.clauseLength_eq
  generalize consumption : (Parser.statement tokens).consumed = consumed at walk length ⊢
  generalize clauseLength 0 tokens = size at alone length ⊢
  have within : consumed ≤ tokens.length := walk.length_le
  have short : consumed ≤ size := by
    rw [length]
    exact Nat.le_add_right _ _
  have front : tokens.take size = tokens.take consumed ++ (tokens.take size).drop consumed := by
    have parts := (List.take_append_drop consumed (tokens.take size)).symm
    rwa [List.take_take, Nat.min_eq_left short] at parts
  have counted : (tokens.take consumed).length = consumed := List.length_take_of_le within
  have behind : tokens.drop consumed = (tokens.take size).drop consumed ++ tokens.drop size := by
    have parts := (List.take_append_drop size tokens).symm
    rw [front, List.append_assoc] at parts
    conv =>
      lhs
      rw [parts]
    exact List.drop_left' counted
  have same : Token.next ((tokens.take size).drop consumed ++ rest) =
      Token.next ((tokens.take size).drop consumed ++ tokens.drop size) := by
    cases inner : (tokens.take size).drop consumed with
    | nil =>
        rw [inner, List.append_nil] at front
        rcases alone with separated | atEnd
        · have unpassed : hasSemicolon 0 (tokens.take consumed) = false :=
            walk.hasSemicolon_eq_false
          rw [front, unpassed] at separated
          cases separated
        · exact atEnd
    | cons token more => rfl
  rw [front, List.append_assoc, List.drop_left' counted, behind]
  refine ⟨?_, same⟩
  have whole : tokens = tokens.take consumed ++ tokens.drop consumed :=
    (List.take_append_drop _ _).symm
  have alike : Parser.statement
        (tokens.take consumed ++ ((tokens.take size).drop consumed ++ rest) : List Token) =
      Parser.statement (tokens.take consumed ++ tokens.drop consumed : List Token) := by
    apply Parser.statement_append
    · rw [behind, same]
    · rw [← whole, counted]
      exact consumption
  rwa [← whole] at alike

/-- A clause is read alike wherever it stands. -/
theorem read_take_append {tokens rest : List Token} (ended : (Token.next rest).isEnd)
    (alone : hasSemicolon 0 (tokens.take (clauseLength 0 tokens)) ∨
      Token.next rest = Token.next (tokens.drop (clauseLength 0 tokens))) :
    read (tokens.take (clauseLength 0 tokens) ++ rest : List Token) = read tokens := by
  have sizes : (read (tokens.take (clauseLength 0 tokens) ++ rest : List Token)).size =
      (read tokens).size := by
    rw [size_read, size_read, clauseLength_take_append ended]
  rcases statement_take_append alone with ⟨sameReply, sameToken⟩
  generalize tokens.take (clauseLength 0 tokens) ++ rest = others at sizes sameReply sameToken ⊢
  simp only [size, read, sameReply] at sizes ⊢
  generalize Parser.statement tokens = reply at sizes sameToken ⊢
  rcases reply with ⟨error | statement, consumed, openBraces⟩
  · dsimp only at sizes ⊢
    rw [Nat.add_left_cancel sizes]
  · dsimp only at sameToken sizes ⊢
    rw [sameToken] at sizes ⊢
    split
    · rfl
    · next separated =>
        rw [if_neg separated, if_neg separated] at sizes
        split
        · rfl
        · next goesOn =>
            rw [if_neg goesOn, if_neg goesOn] at sizes
            have skipped : clauseLength openBraces (others.drop consumed) =
                clauseLength openBraces (tokens.drop consumed) :=
              Nat.add_left_cancel sizes
            rw [skipped]

end Clause

namespace Parsing

/-- What comes of a chunk when only the end of the input stands behind it. -/
def alone (chunk : List Token) (ending : Token) : Parsing :=
  ofTokens (chunk ++ [ending])

/-- The first chunk alone gives what it gives in its place. -/
theorem alone_take {tokens : List Token} {ending : Token}
    (goesOn : (Token.next tokens).isEnd = false) (ended : ending.isEnd)
    (fits : hasSemicolon 0 (tokens.take (clauseLength 0 tokens)) ∨
      ending = Token.next (tokens.drop (clauseLength 0 tokens))) :
    (alone (tokens.take (clauseLength 0 tokens)) ending).statements =
        (Clause.read tokens).statement.toList ∧
      (alone (tokens.take (clauseLength 0 tokens)) ending).errors =
        (Clause.read tokens).error.toList := by
  have begins : (Token.next (tokens.take (clauseLength 0 tokens) ++ [ending])).isEnd = false := by
    cases tokens with
    | nil => cases goesOn
    | cons token more =>
        have positive : 0 < clauseLength 0 (token :: more) := clauseLength_pos goesOn
        rcases Nat.exists_eq_succ_of_ne_zero (Nat.ne_of_gt positive) with ⟨length, unfolded⟩
        rw [unfolded, List.take_succ_cons, List.cons_append, Token.next_cons]
        exact goesOn
  have behind : (tokens.take (clauseLength 0 tokens) ++ [ending]).drop (clauseLength 0 tokens) =
      [ending] :=
    List.drop_left' (List.length_take_of_le (clauseLength_le 0 tokens))
  have same : Clause.read (tokens.take (clauseLength 0 tokens) ++ [ending] : List Token) =
      Clause.read tokens :=
    Clause.read_take_append ended fits
  have nothing : ofTokens [ending] = ⟨[.consumed ending], [], []⟩ := ofTokens_of_isEnd ended
  rw [alone, statements_ofTokens begins, errors_ofTokens begins, same, Clause.size_read, behind,
    nothing]
  exact ⟨List.append_nil _, List.append_nil _⟩

/-- The end of the input stands behind a clause that has no semicolon of its own. -/
theorem hasSemicolon_or_ending (tokens : List Token) :
    hasSemicolon 0 (tokens.take (clauseLength 0 tokens)) ∨
      Token.ending tokens = Token.next (tokens.drop (clauseLength 0 tokens)) := by
  rcases hasSemicolon_or_isEnd 0 tokens with separated | ended
  · exact .inl separated
  · right
    rw [← Token.ending_of_isEnd ended, Token.ending_drop_clauseLength]

/-- A program is what its chunks are, each alone. -/
theorem ofTokens_eq_flatMap_chunks (tokens : List Token) :
    (ofTokens tokens).statements =
        (chunks 0 tokens).flatMap (fun chunk => (alone chunk (Token.ending tokens)).statements) ∧
      (ofTokens tokens).errors =
        (chunks 0 tokens).flatMap (fun chunk => (alone chunk (Token.ending tokens)).errors) := by
  induction tokens using Clause.induct with
  | atEnd tokens ended =>
      rw [ofTokens_of_isEnd ended, chunks_of_isEnd ended]
      exact ⟨rfl, rfl⟩
  | clause tokens goesOn following =>
      rcases alone_take goesOn (Token.isEnd_ending tokens) (hasSemicolon_or_ending tokens) with
        ⟨sameStatements, sameErrors⟩
      rw [Clause.size_read, Token.ending_drop_clauseLength] at following
      rw [statements_ofTokens goesOn, errors_ofTokens goesOn, Clause.size_read, chunks_eq goesOn,
        List.flatMap_cons, List.flatMap_cons, sameStatements, sameErrors, following.1,
        following.2]
      exact ⟨rfl, rfl⟩

/-- Every chunk is the first one of some tokens before the same end. -/
theorem exists_of_mem_chunks {tokens chunk : List Token} (member : chunk ∈ chunks 0 tokens) :
    ∃ rest, (Token.next rest).isEnd = false ∧ chunk = rest.take (clauseLength 0 rest) ∧
      Token.ending rest = Token.ending tokens := by
  induction tokens using Clause.induct with
  | atEnd tokens ended => simp [chunks_of_isEnd ended] at member
  | clause tokens goesOn ih =>
      rw [Clause.size_read, Token.ending_drop_clauseLength] at ih
      rw [chunks_eq goesOn, List.mem_cons] at member
      rcases member with rfl | later
      · exact ⟨tokens, goesOn, rfl, rfl⟩
      · exact ih later

/-- A chunk gives at most one statement and at most one error. -/
theorem alone_of_mem_chunks {tokens chunk : List Token} (member : chunk ∈ chunks 0 tokens) :
    (alone chunk (Token.ending tokens)).statements.length ≤ 1 ∧
      (alone chunk (Token.ending tokens)).errors.length ≤ 1 := by
  rcases exists_of_mem_chunks member with ⟨rest, goesOn, rfl, same⟩
  rcases alone_take goesOn (Token.isEnd_ending rest) (hasSemicolon_or_ending rest) with
    ⟨sameStatements, sameErrors⟩
  rw [← same, sameStatements, sameErrors]
  exact ⟨Option.length_toList_le, Option.length_toList_le⟩

/-- A chunk with a semicolon of its own does not see which token ends the input. -/
theorem alone_eq_of_hasSemicolon {tokens chunk : List Token} {ending : Token}
    (member : chunk ∈ chunks 0 tokens) (separated : hasSemicolon 0 chunk) (ended : ending.isEnd) :
    (alone chunk ending).statements = (alone chunk (Token.ending tokens)).statements ∧
      (alone chunk ending).errors = (alone chunk (Token.ending tokens)).errors := by
  rcases exists_of_mem_chunks member with ⟨rest, goesOn, rfl, same⟩
  rcases alone_take goesOn ended (.inl separated) with ⟨statements, errors⟩
  rcases alone_take goesOn (Token.isEnd_ending tokens) (.inl separated) with
    ⟨sameStatements, sameErrors⟩
  exact ⟨statements.trans sameStatements.symm, errors.trans sameErrors.symm⟩

/-- Recovery is exact, from every state of a parser. The chunks make up the input
before its end, and what is reported of a program is what is reported of its chunks,
each alone: at most one statement and one error for each. The statements that are
reported are the program, unless there is an error. When a statement fails, the
braces counted as open are those that it has passed, and what is skipped ends where
the chunk ends. -/
theorem recovery_exact (cursor : Cursor) :
    (chunks 0 cursor.tokens).flatten = Token.beforeEnd cursor.tokens ∧
      (ofCursor cursor).reported = (chunks 0 cursor.tokens).flatMap
        (fun chunk => (alone chunk (Token.ending cursor.tokens)).reported) ∧
      (ofCursor cursor).errors = (chunks 0 cursor.tokens).flatMap
        (fun chunk => (alone chunk (Token.ending cursor.tokens)).errors) ∧
      (ofCursor cursor).result = (if (ofCursor cursor).errors = [] then
        .ok (ofCursor cursor).reported else .error (ofCursor cursor).errors) ∧
      (∀ chunk ∈ chunks 0 cursor.tokens,
        (alone chunk (Token.ending cursor.tokens)).reported.length ≤ 1 ∧
          (alone chunk (Token.ending cursor.tokens)).errors.length ≤ 1 ∧
          (hasSemicolon 0 chunk → ∀ ending : Token, ending.isEnd →
            (alone chunk ending).reported =
                (alone chunk (Token.ending cursor.tokens)).reported ∧
              (alone chunk ending).errors =
                (alone chunk (Token.ending cursor.tokens)).errors)) ∧
      ∀ error consumed openBraces,
        Parser.statement ⟨cursor.tokens, 0⟩ = ⟨.error error, consumed, openBraces⟩ →
          openBraces + (cursor.tokens.take consumed).countP (·.kind = .symbol .rightBrace) =
              (cursor.tokens.take consumed).countP (·.kind = .symbol .leftBrace) ∧
            consumed + clauseLength openBraces (cursor.tokens.drop consumed) =
              ((chunks 0 cursor.tokens).headD []).length := by
  have reports (chunk : List Token) (ending : Token) :
      (alone chunk ending).reported = (alone chunk ending).statements := reported_ofTokens _
  rw [ofCursor_eq]
  simp only [reported_ofTokens, reports]
  rcases ofTokens_eq_flatMap_chunks cursor.tokens with ⟨sameStatements, sameErrors⟩
  refine ⟨flatten_chunks 0 cursor.tokens, sameStatements, sameErrors, ?_, ?_, ?_⟩
  · rw [result]
    cases (ofTokens cursor.tokens).errors with
    | nil => rfl
    | cons error errors => rfl
  · intro chunk member
    rcases alone_of_mem_chunks member with ⟨oneStatement, oneError⟩
    exact ⟨oneStatement, oneError, fun separated ending ended =>
      alone_eq_of_hasSemicolon member separated ended⟩
  · intro error consumed openBraces reply
    have walk := (Parser.walks_statement ⟨cursor.tokens, 0⟩).walk
    rw [reply] at walk
    constructor
    · have counted := walk.openBraces_add
      rwa [Nat.zero_add] at counted
    · rw [length_headD_chunks]
      exact walk.clauseLength_eq.symm

end Parsing

end Ember
