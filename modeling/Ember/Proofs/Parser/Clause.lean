import Ember.Proofs.Parser.Run
import Ember.Proofs.Parser.Walk

/-!
# Clauses of a program

A program is what its first clause gives, and then the program behind that clause.
The braces that were counted before make no difference. What is to be shown of a program
is shown clause by clause, and so the statements that are reported are the ones that the
clauses give.
-/

namespace Ember

namespace Token

/-- The tokens before the end of the input. -/
def beforeEnd (tokens : List Token) : List Token :=
  tokens.takeWhile fun token => !token.isEnd

theorem beforeEnd_of_isEnd {tokens : List Token} (ended : (next tokens).isEnd) :
    beforeEnd tokens = [] := by
  cases tokens with
  | nil => rfl
  | cons token rest =>
      rw [next_cons] at ended
      simp [beforeEnd, ended]

theorem beforeEnd_append {taken : List Token} (inside : ∀ token ∈ taken, token.isEnd = false)
    (rest : List Token) : beforeEnd (taken ++ rest) = taken ++ beforeEnd rest := by
  induction taken with
  | nil => rfl
  | cons token taken ih =>
      rw [List.forall_mem_cons] at inside
      simpa [beforeEnd, inside.1] using ih inside.2

/-- The tokens before an end that stands last. -/
theorem beforeEnd_concat {tokens : List Token} {ending : Token}
    (inside : ∀ token ∈ tokens, token.isEnd = false) (ended : ending.isEnd) :
    beforeEnd (tokens ++ [ending]) = tokens := by
  have nothing : beforeEnd [ending] = [] := beforeEnd_of_isEnd ended
  rw [beforeEnd_append inside, nothing, List.append_nil]

theorem beforeEnd_semicolon {mark : Token} (kind : mark.kind = .symbol .semicolon)
    (rest : List Token) : beforeEnd (mark :: rest) = mark :: beforeEnd rest := by
  simp [beforeEnd, isEnd, kind]

/-- The token that ends the input. -/
def ending (tokens : List Token) : Token :=
  next (tokens.dropWhile fun token => !token.isEnd)

@[simp] theorem isEnd_ending (tokens : List Token) : (ending tokens).isEnd := by
  induction tokens with
  | nil => rfl
  | cons token rest ih =>
      cases ended : token.isEnd with
      | true => simp [ending, ended]
      | false => simpa [ending, ended] using ih

theorem ending_of_isEnd {tokens : List Token} (ended : (next tokens).isEnd) :
    ending tokens = next tokens := by
  cases tokens with
  | nil => rfl
  | cons token rest =>
      rw [next_cons] at ended
      simp [ending, ended]

theorem ending_append {taken : List Token} (inside : ∀ token ∈ taken, token.isEnd = false)
    (rest : List Token) : ending (taken ++ rest) = ending rest := by
  induction taken with
  | nil => rfl
  | cons token taken ih =>
      rw [List.forall_mem_cons] at inside
      simpa [ending, inside.1] using ih inside.2

/-- Behind the tokens before the end stands the end. -/
theorem exists_eq_beforeEnd_append (tokens : List Token) :
    ∃ rest, tokens = beforeEnd tokens ++ rest ∧ (next rest).isEnd :=
  ⟨tokens.dropWhile fun token => !token.isEnd, List.takeWhile_append_dropWhile.symm,
    isEnd_ending tokens⟩

end Token

namespace Clause

@[simp] theorem filterMap_statement?_events (clause : Clause) (tokens : List Token) :
    (clause.events tokens).filterMap ParseEvent.statement? = clause.statement.toList := by
  have consumed (some : List Token) :
      (some.map ParseEvent.consumed).filterMap ParseEvent.statement? = [] := by
    simp [List.filterMap_map, Function.comp_def, ParseEvent.statement?]
  rw [events, List.filterMap_append, List.filterMap_append, consumed, consumed]
  cases clause.statement <;> rfl

/-- What holds at the end of the input, and holds before a clause if it holds behind it, holds
of all tokens. -/
@[elab_as_elim]
theorem induct {motive : List Token → Prop}
    (atEnd : ∀ tokens, (Token.next tokens).isEnd → motive tokens)
    (clause : ∀ tokens, (Token.next tokens).isEnd = false →
      motive (tokens.drop (read tokens).size) → motive tokens)
    (tokens : List Token) : motive tokens := by
  induction length : tokens.length using Nat.strongRecOn generalizing tokens with
  | _ size ih =>
      cases ended : (Token.next tokens).isEnd with
      | true => exact atEnd tokens ended
      | false =>
          apply clause tokens ended
          apply ih _ _ _ rfl
          cases tokens with
          | nil => cases ended
          | cons token rest =>
              have positive : 0 < (read (token :: rest)).size := size_read_pos ended
              rw [List.length_drop, ← length, List.length_cons]
              omega

/-- A statement with a semicolon behind it is a clause. -/
theorem read_of_semicolon {tokens taken rest : List Token} {mark : Token} {statement : Stmt}
    {openBraces : Nat}
    (run : Parser.Takes Parser.statement tokens taken statement ⟨mark :: rest, openBraces⟩)
    (kind : mark.kind = .symbol .semicolon) :
    read tokens = ⟨some statement, none, taken.length, 1, openBraces⟩ := by
  have behind : tokens.drop taken.length = mark :: rest := by
    have whole : tokens = taken ++ mark :: rest := run.tokens
    rw [whole, List.drop_left]
  rw [read, run.reply_eq]
  simp [behind, kind]

/-- Behind such a clause stands what stands behind its semicolon. -/
theorem drop_size_of_semicolon {tokens taken rest : List Token} {mark : Token} {statement : Stmt}
    {openBraces : Nat}
    (run : Parser.Takes Parser.statement tokens taken statement ⟨mark :: rest, openBraces⟩)
    (kind : mark.kind = .symbol .semicolon) : tokens.drop (read tokens).size = rest := by
  have whole : tokens = taken ++ mark :: rest := run.tokens
  rw [read_of_semicolon run kind, size, whole, ← List.drop_drop, List.drop_left, List.drop_one,
    List.tail_cons]

/-- A statement at the end of the input is a clause. -/
theorem read_of_isEnd {tokens taken rest : List Token} {statement : Stmt} {openBraces : Nat}
    (run : Parser.Takes Parser.statement tokens taken statement ⟨rest, openBraces⟩)
    (ended : (Token.next rest).isEnd) :
    read tokens = ⟨some statement, none, taken.length, 0, openBraces⟩ := by
  have behind : tokens.drop taken.length = rest := by
    have whole : tokens = taken ++ rest := run.tokens
    rw [whole, List.drop_left]
  have kind : (Token.next rest).kind ≠ .symbol .semicolon := by
    intro semicolon
    simp [Token.isEnd, semicolon] at ended
  rw [read, run.reply_eq]
  simp [behind, ended, kind]

/-- A clause without an error is a statement, before a semicolon or the end. -/
theorem exists_takes {tokens : List Token} (succeeded : (read tokens).error = none) :
    ∃ taken statement rest openBraces,
      Parser.Takes Parser.statement tokens taken statement ⟨rest, openBraces⟩ ∧
        (∀ token ∈ taken, token.isEnd = false) ∧
        ((Token.next rest).isEnd ∨
          ∃ mark others, rest = mark :: others ∧ mark.kind = .symbol .semicolon) := by
  have walk := (Parser.walks_statement tokens).walk
  cases reply : Parser.statement tokens with
  | mk result consumed openBraces =>
      rw [reply] at walk
      cases result with
      | error error => simp [read, reply] at succeeded
      | ok statement =>
          refine ⟨tokens.take consumed, statement, tokens.drop consumed, openBraces,
            .of_reply reply walk.length_le, walk.isEnd_eq_false, ?_⟩
          simp only [read, reply] at succeeded
          split at succeeded
          · next semicolon =>
              rcases Parser.exists_cons_of_next semicolon (by simp) with
                ⟨mark, others, behind, kind⟩
              exact .inr ⟨mark, others, behind, kind⟩
          · split at succeeded
            · next ended => exact .inl ended
            · simp at succeeded

end Clause

namespace Parsing

/-- The count of open braces makes no difference. -/
theorem ofCursor_eq (cursor : Cursor) : ofCursor cursor = ofTokens cursor.tokens := by
  rcases cursor with ⟨_ | ⟨token, rest⟩, openBraces⟩
  · simp [ofTokens, ofCursor]
  · rw [ofTokens, ofCursor, ofCursor]
    rfl

/-- At the end of the input nothing is left to parse. -/
theorem ofTokens_of_isEnd {tokens : List Token} (ended : (Token.next tokens).isEnd) :
    ofTokens tokens = ⟨[.consumed (Token.next tokens)], [], []⟩ := by
  cases tokens with
  | nil => simp [ofTokens, ofCursor]
  | cons token rest =>
      rw [Token.next_cons] at ended
      rw [ofTokens, ofCursor, if_pos ended]
      rfl

/-- Before the end of the input stands a clause, and the rest behind it. -/
theorem ofTokens_eq {tokens : List Token} (goesOn : (Token.next tokens).isEnd = false) :
    ofTokens tokens =
      ⟨(Clause.read tokens).events tokens ++
          (ofTokens (tokens.drop (Clause.read tokens).size)).events,
        (Clause.read tokens).statement.toList ++
          (ofTokens (tokens.drop (Clause.read tokens).size)).statements,
        (Clause.read tokens).error.toList ++
          (ofTokens (tokens.drop (Clause.read tokens).size)).errors⟩ := by
  cases tokens with
  | nil => cases goesOn
  | cons token rest =>
      rw [Token.next_cons] at goesOn
      rw [ofTokens, ofCursor, if_neg (by simp [goesOn])]
      dsimp only
      rw [ofCursor_eq]
      rfl

theorem statements_ofTokens {tokens : List Token} (goesOn : (Token.next tokens).isEnd = false) :
    (ofTokens tokens).statements =
      (Clause.read tokens).statement.toList ++
        (ofTokens (tokens.drop (Clause.read tokens).size)).statements := by
  rw [ofTokens_eq goesOn]

theorem errors_ofTokens {tokens : List Token} (goesOn : (Token.next tokens).isEnd = false) :
    (ofTokens tokens).errors =
      (Clause.read tokens).error.toList ++
        (ofTokens (tokens.drop (Clause.read tokens).size)).errors := by
  rw [ofTokens_eq goesOn]

/-- The statements that are reported are those of the clauses. -/
theorem reported_ofTokens (tokens : List Token) :
    (ofTokens tokens).reported = (ofTokens tokens).statements := by
  induction tokens using Clause.induct with
  | atEnd tokens ended =>
      rw [ofTokens_of_isEnd ended]
      rfl
  | clause tokens goesOn ih =>
      rw [statements_ofTokens goesOn, ← ih, reported, ofTokens_eq goesOn, List.filterMap_append,
        Clause.filterMap_statement?_events]
      rfl

/-- A statement with its semicolon stands before the rest of the program. -/
theorem ofTokens_of_semicolon {tokens taken rest : List Token} {mark : Token} {statement : Stmt}
    {openBraces : Nat} (goesOn : (Token.next tokens).isEnd = false)
    (run : Parser.Takes Parser.statement tokens taken statement ⟨mark :: rest, openBraces⟩)
    (kind : mark.kind = .symbol .semicolon) :
    (ofTokens tokens).errors = (ofTokens rest).errors ∧
      (ofTokens tokens).statements = statement :: (ofTokens rest).statements := by
  rw [errors_ofTokens goesOn, statements_ofTokens goesOn, Clause.drop_size_of_semicolon run kind,
    Clause.read_of_semicolon run kind]
  exact ⟨rfl, rfl⟩

/-- A statement at the end of the input is the rest of the program. -/
theorem ofTokens_of_last {tokens taken rest : List Token} {statement : Stmt} {openBraces : Nat}
    (goesOn : (Token.next tokens).isEnd = false)
    (run : Parser.Takes Parser.statement tokens taken statement ⟨rest, openBraces⟩)
    (ended : (Token.next rest).isEnd) :
    (ofTokens tokens).errors = [] ∧ (ofTokens tokens).statements = [statement] := by
  have behind : tokens.drop taken.length = rest := by
    have whole : tokens = taken ++ rest := run.tokens
    rw [whole, List.drop_left]
  rw [errors_ofTokens goesOn, statements_ofTokens goesOn, Clause.read_of_isEnd run ended,
    Clause.size]
  dsimp only
  rw [Nat.add_zero, behind, ofTokens_of_isEnd ended]
  exact ⟨rfl, rfl⟩

end Parsing

end Ember
