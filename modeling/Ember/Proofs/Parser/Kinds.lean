import Ember.Proofs.Parser.Clause

/-!
# Parsing by kinds

The parser looks at the kinds of the tokens and at nothing else of them. So tokens of the
same kinds give the same statements, and the same errors but for the lines that these are
on. That holds over all recursion of the grammar, and where a faulty clause is skipped.
-/

namespace Ember

namespace SyntaxError

/-- What an error says apart from its line. -/
def unplaced : SyntaxError → SyntaxError
  | .lexical fault _ => .lexical fault 0
  | .unexpectedToken expected got _ => .unexpectedToken expected got 0
  | .prematureEnd expected _ => .prematureEnd expected 0
  | .noOperand got _ => .noOperand got 0
  | .integerTooLarge digits _ => .integerTooLarge digits 0

section Blame

variable {left right : Token} (same : left.kind = right.kind)
include same

theorem unplaced_unexpected (expected : Expectation) :
    (unexpected expected left).unplaced = (unexpected expected right).unplaced := by
  unfold unexpected
  rw [same]
  cases right.kind <;> rfl

theorem unplaced_missingOperand :
    (missingOperand left).unplaced = (missingOperand right).unplaced := by
  unfold missingOperand
  rw [same]
  cases right.kind <;> rfl

end Blame

end SyntaxError

/-- Replies that differ in nothing but the line of an error. -/
inductive Reply.SameButLine {α : Type} : Reply α → Reply α → Prop where
  | ok (value : α) (consumed openBraces : Nat) :
      SameButLine ⟨.ok value, consumed, openBraces⟩ ⟨.ok value, consumed, openBraces⟩
  | error {left right : SyntaxError} (consumed openBraces : Nat) :
      left.unplaced = right.unplaced →
        SameButLine ⟨.error left, consumed, openBraces⟩ ⟨.error right, consumed, openBraces⟩

/-- More tokens were consumed before the reply. -/
theorem Reply.SameButLine.behind {α : Type} {left right : Reply α} (same : left.SameButLine right)
    (taken : Nat) :
    SameButLine ⟨left.result, taken + left.consumed, left.openBraces⟩
      ⟨right.result, taken + right.consumed, right.openBraces⟩ := by
  cases same with
  | ok value consumed openBraces => exact .ok _ _ _
  | error consumed openBraces same => exact .error _ _ same

/-- Tokens of the same kinds, and the same count of open braces. -/
structure Cursor.SameKinds (left right : Cursor) : Prop where
  kinds : left.tokens.map Token.kind = right.tokens.map Token.kind
  openBraces : left.openBraces = right.openBraces

/-- The next tokens of lists with the same kinds are of one kind. -/
theorem Token.kind_next {left right : List Token}
    (same : left.map Token.kind = right.map Token.kind) :
    (Token.next left).kind = (Token.next right).kind := by
  cases left with
  | nil =>
      obtain rfl : right = [] := List.map_eq_nil_iff.mp same.symm
      rfl
  | cons token rest =>
      cases right with
      | nil => cases same
      | cons other others => exact (List.cons.inj same).1

theorem Token.map_kind_drop {left right : List Token}
    (same : left.map Token.kind = right.map Token.kind) (count : Nat) :
    (left.drop count).map Token.kind = (right.drop count).map Token.kind := by
  rw [List.map_drop, List.map_drop, same]

theorem Cursor.SameKinds.after {left right : Cursor} (same : left.SameKinds right)
    (consumed openBraces : Nat) :
    (left.after consumed openBraces).SameKinds (right.after consumed openBraces) :=
  ⟨Token.map_kind_drop same.kinds consumed, rfl⟩

namespace Parser

/-- On no more tokens than the bound, two parsers reply alike to tokens of the same
kinds. -/
def ReadsKinds (bound : Nat) (α : Type) (left right : Parser α) : Prop :=
  ∀ leftCursor rightCursor : Cursor, leftCursor.tokens.length ≤ bound →
    leftCursor.SameKinds rightCursor → (left leftCursor).SameButLine (right rightCursor)

theorem readsKinds_fail {bound : Nat} {α : Type} {left right : SyntaxError}
    (same : left.unplaced = right.unplaced) : ReadsKinds bound α (fail left) (fail right) := by
  rintro ⟨leftTokens, openBraces⟩ ⟨rightTokens, _⟩ _ ⟨kinds, rfl⟩
  exact .error _ _ same

theorem respects_readsKinds :
    Respects (fun left right => left.kind = right.kind) (fun _ => True) ReadsKinds where
  alike_kind same := same
  free_of_isPlain _ := trivial
  mono less reads left right few := reads left right (Nat.le_trans few less)
  pure := by
    rintro bound α value ⟨leftTokens, openBraces⟩ ⟨rightTokens, _⟩ _ ⟨kinds, rfl⟩
    exact .ok value 0 openBraces
  bind := by
    intro bound α β left right leftNext rightNext reads nextReads leftCursor rightCursor few same
    have first := reads leftCursor rightCursor few same
    rw [bind_apply, bind_apply]
    generalize left leftCursor = leftReply at first ⊢
    generalize right rightCursor = rightReply at first ⊢
    cases first with
    | error consumed openBraces unplaced => exact .error _ _ unplaced
    | ok value consumed openBraces =>
        have fewer : (leftCursor.after consumed openBraces).tokens.length ≤ bound := by
          simp only [Cursor.tokens_after, List.length_drop]
          omega
        exact (nextReads value _ _ fewer (same.after consumed openBraces)).behind consumed
  look := by
    intro bound α leftNext rightNext reads leftCursor rightCursor few same
    rw [peek_bind_apply, peek_bind_apply]
    exact reads _ _ (Token.kind_next same.kinds) leftCursor rightCursor few same
  unexpected expected _ _ same := readsKinds_fail (SyntaxError.unplaced_unexpected same expected)
  missingOperand same := readsKinds_fail (SyntaxError.unplaced_missingOperand same)
  tooLarge digits _ _ same := readsKinds_fail rfl
  expect := by
    intro bound α kind left right _ proper reads leftCursor rightCursor few same
    have nextKind := Token.kind_next same.kinds
    by_cases fits : (Token.next rightCursor.tokens).kind = kind
    · rcases exists_cons_of_next (nextKind.trans fits) proper with ⟨token, rest, remaining, _⟩
      rw [remaining, List.length_cons] at few
      rw [expect_bind_of_eq (nextKind.trans fits), expect_bind_of_eq fits, advance_bind_apply,
        advance_bind_apply, same.openBraces]
      exact (reads rest.length (by omega) _ _ (by simp [remaining]) (same.after 1 _)).behind 1
    · rw [expect_bind_of_ne (nextKind ▸ fits), expect_bind_of_ne fits, same.openBraces]
      exact .error _ _ (SyntaxError.unplaced_unexpected nextKind _)

theorem congruence_readsKinds :
    Congruence (fun left right => left.kind = right.kind) (fun _ => True) ReadsKinds where
  toRespects := respects_readsKinds
  braces kinds elements := by
    have counts (count : Nat → Nat) (bound : Nat) :
        ReadsKinds bound Unit (fun cursor => ⟨.ok (), 0, count cursor.openBraces⟩)
          (fun cursor => ⟨.ok (), 0, count cursor.openBraces⟩) := by
      rintro ⟨leftTokens, openBraces⟩ ⟨rightTokens, _⟩ _ ⟨-, rfl⟩
      exact .ok () 0 _
    refine respects_readsKinds.braced (fun _ => trivial) (counts (· + 1)) (counts (· - 1)) ?_
      elements
    rcases kinds with rfl | rfl <;> decide

/-- A statement is read from kinds. -/
theorem sameButLine_statement {left right : Cursor} (same : left.SameKinds right) :
    (statement left).SameButLine (statement right) :=
  congruence_readsKinds.statement _ left right (Nat.le_refl _) same

end Parser

/-- A clause ends where its kinds say. -/
theorem clauseLength_eq_of_kinds (depth : Nat) {left right : List Token}
    (same : left.map Token.kind = right.map Token.kind) :
    clauseLength depth left = clauseLength depth right := by
  induction left generalizing depth right with
  | nil =>
      obtain rfl : right = [] := List.map_eq_nil_iff.mp same.symm
      rfl
  | cons token rest ih =>
      cases right with
      | nil => cases same
      | cons other others =>
          obtain ⟨first, following⟩ := List.cons.inj same
          have sameEnd : token.isEnd = other.isEnd := by rw [Token.isEnd, Token.isEnd, first]
          have sameDepth : braceDepth depth token = braceDepth depth other := by
            rw [braceDepth, braceDepth, first]
          rw [clauseLength, clauseLength, sameEnd, first, sameDepth, ih _ following]

/-- What a clause is apart from the line of its error. -/
def Clause.unplaced (clause : Clause) : Clause :=
  { clause with error := clause.error.map SyntaxError.unplaced }

/-- A clause is read from kinds. -/
theorem Clause.unplaced_read {left right : List Token}
    (same : left.map Token.kind = right.map Token.kind) :
    (read left).unplaced = (read right).unplaced := by
  have cursors : Cursor.SameKinds left right := ⟨same, rfl⟩
  have first := Parser.sameButLine_statement cursors
  rw [read, read]
  dsimp only
  generalize Parser.statement left = leftReply at first ⊢
  generalize Parser.statement right = rightReply at first ⊢
  cases first with
  | error consumed openBraces unplaced =>
      simp only [Clause.unplaced, Option.map_some, unplaced,
        clauseLength_eq_of_kinds openBraces (Token.map_kind_drop same consumed)]
  | ok statement consumed openBraces =>
      have behind := Token.map_kind_drop same consumed
      have next := Token.kind_next behind
      have sameEnd : (Token.next (left.drop consumed)).isEnd =
          (Token.next (right.drop consumed)).isEnd := by
        rw [Token.isEnd, Token.isEnd, next]
      dsimp only
      rw [next, sameEnd, clauseLength_eq_of_kinds openBraces behind]
      by_cases semicolon : (Token.next (right.drop consumed)).kind = .symbol .semicolon
      · rw [if_pos semicolon, if_pos semicolon]
      · rw [if_neg semicolon, if_neg semicolon]
        by_cases ended : (Token.next (right.drop consumed)).isEnd
        · rw [if_pos ended, if_pos ended]
        · rw [if_neg ended, if_neg ended]
          simp only [Clause.unplaced, Option.map_some, SyntaxError.unplaced_unexpected next]

namespace Parsing

/-- A program is parsed from kinds: the statements are the same, and so are the errors but
for their lines. -/
theorem unplaced_ofTokens {left right : List Token}
    (same : left.map Token.kind = right.map Token.kind) :
    (ofTokens left).statements = (ofTokens right).statements ∧
      (ofTokens left).errors.map SyntaxError.unplaced =
        (ofTokens right).errors.map SyntaxError.unplaced := by
  have next {left right : List Token} (same : left.map Token.kind = right.map Token.kind) :
      (Token.next left).isEnd = (Token.next right).isEnd := by
    rw [Token.isEnd, Token.isEnd, Token.kind_next same]
  induction left using Clause.induct generalizing right with
  | atEnd left ended =>
      rw [ofTokens_of_isEnd ended, ofTokens_of_isEnd ((next same).symm.trans ended)]
      exact ⟨rfl, rfl⟩
  | clause left goesOn ih =>
      have goesOnRight := (next same).symm.trans goesOn
      have clause := Clause.unplaced_read same
      have sameStatement := congrArg Clause.statement clause
      have sameError : (Clause.read left).error.map _ = (Clause.read right).error.map _ :=
        congrArg Clause.error clause
      have sameSize : (Clause.read left).size = (Clause.read right).size := by
        show (Clause.read left).unplaced.size = (Clause.read right).unplaced.size
        rw [clause]
      obtain ⟨statements, errors⟩ := ih (Token.map_kind_drop same _)
      rw [statements_ofTokens goesOn, statements_ofTokens goesOnRight, errors_ofTokens goesOn,
        errors_ofTokens goesOnRight, List.map_append, List.map_append, ← sameSize, statements,
        errors, ← Option.toList_map, ← Option.toList_map, sameError]
      exact ⟨congrArg (·.toList ++ _) sameStatement, rfl⟩

/-- What a parse comes to apart from the lines of errors. -/
def unplacedResult (parsing : Parsing) : Except (List SyntaxError) Program :=
  parsing.result.mapError (List.map SyntaxError.unplaced)

theorem unplacedResult_ofTokens {left right : List Token}
    (same : left.map Token.kind = right.map Token.kind) :
    (ofTokens left).unplacedResult = (ofTokens right).unplacedResult := by
  obtain ⟨statements, errors⟩ := unplaced_ofTokens same
  rw [unplacedResult, unplacedResult, result, result, statements]
  generalize (ofTokens left).errors = leftErrors at errors
  generalize (ofTokens right).errors = rightErrors at errors
  cases leftErrors with
  | nil =>
      obtain rfl : rightErrors = [] := List.map_eq_nil_iff.mp errors.symm
      rfl
  | cons error rest =>
      cases rightErrors with
      | nil => cases errors
      | cons other others => exact congrArg Except.error errors

end Parsing

end Ember
