import Mathlib.Data.List.Forall2
import Ember.Proofs.Syntax.RoundTrip
import Ember.Proofs.Token.Composition
import Ember.Proofs.Token.Tiling

/-!
# Sources one after the other

A source whose last token is a semicolon can be continued on a new line: the tokens
of both are those of the one and then those of the other, and so are the statements.
For nothing but a semicolon ends a statement that others follow, and no expression
ends in one.
-/

namespace Ember

open Text (joined)
open Grammar (Derives Nonterminal)

namespace Grammar.Derives

/-- What needs tokens does not end in a semicolon. -/
theorem ends {α : Type} {nonterminal : Nonterminal α} {kinds : List TokenKind} {tree : α}
    (derivation : Derives nonterminal kinds tree) (substantial : nonterminal.isSubstantial) :
    ∃ last, kinds.getLast? = some last ∧ last ≠ .symbol .semicolon := by
  induction derivation with
  | tighter _ ih | listedExpression _ ih | expression _ ih => exact ih rfl
  | unary _ _ ih | binding _ _ ih | leaving _ ih | binary _ _ _ _ ih | listedPair _ _ _ ih
  | conditional _ _ _ ih | conditionalElse _ _ _ _ _ ih | function _ _ _ ih =>
      rcases ih rfl with ⟨last, ended, different⟩
      exact ⟨last, by simp [List.getLast?_append, List.getLast?_cons, ended], different⟩
  | identifier | integer | string | trueWord | falseWord | listedName => exact ⟨_, rfl, nofun⟩
  | grouped | call =>
      exact ⟨.symbol .rightParen, by simp [List.getLast?_append, List.getLast?_cons], by decide⟩
  | array | index =>
      exact ⟨.symbol .rightBracket, by simp [List.getLast?_append, List.getLast?_cons], by decide⟩
  | hash | block =>
      exact ⟨.symbol .rightBrace, by simp [List.getLast?_append, List.getLast?_cons], by decide⟩
  | noItems | lastItem | moreItems | noStatements | lastExpression | moreStatements =>
      cases substantial

theorem statements_of_nil {program : Program} (derivation : Derives .statements [] program) :
    program = [] := by
  rcases derivation.decomposes with ⟨-, rfl⟩ | ⟨value, whole, -⟩ | ⟨_, _, _, _, _, _, split, -⟩
  · rfl
  · rcases whole.begins rfl with ⟨_, _, impossible, -⟩
    cases impossible
  · exact absurd split.symm (by simp)

/-- Statements that end in a semicolon can be followed by others. -/
theorem append {kinds others : List TokenKind} {program following : Program}
    (first : Derives .statements kinds program) (closed : kinds.getLast? = some (.symbol .semicolon))
    (second : Derives .statements others following) :
    Derives .statements (kinds ++ others) (program ++ following) := by
  induction program generalizing kinds with
  | nil =>
      rcases first.decomposes with
        ⟨rfl, -⟩ | ⟨_, _, impossible⟩ | ⟨_, _, _, _, _, _, _, impossible⟩
      · cases closed
      · cases impossible
      · cases impossible
  | cons statement rest ih =>
      rcases first.decomposes with ⟨-, impossible⟩ | ⟨value, whole, -⟩ |
        ⟨firstKinds, moreKinds, _, _, firstDerived, moreDerived, rfl, same⟩
      · cases impossible
      · rcases whole.ends rfl with ⟨last, ended, different⟩
        exact absurd (Option.some.inj (ended.symm.trans closed)) different
      · rcases List.cons_eq_cons.mp same with ⟨rfl, rfl⟩
        rw [List.append_assoc, List.cons_append, List.cons_append]
        refine .moreStatements firstDerived ?_
        cases moreKinds with
        | nil =>
            obtain rfl := moreDerived.statements_of_nil
            exact second
        | cons next later =>
            refine ih moreDerived ?_
            simpa [List.getLast?_append, List.getLast?_cons] using closed

end Grammar.Derives

/-- The kinds of the tokens of a source, before the end of the input. -/
def sourceKinds (source : String) : List TokenKind :=
  (Token.beforeEnd (lex source)).map Token.kind

theorem lexKinds_eq_append (source : String) :
    lexKinds source.toList = sourceKinds source ++ [.endOfInput] := by
  rcases exists_lex_eq source with ⟨tokens, ending, whole, inside, last⟩
  have kind : ending.kind = .endOfInput := by simpa [Token.isEnd] using last
  rw [sourceKinds, whole, Token.beforeEnd_concat inside last, lexKinds, ← lex, whole,
    List.map_append, List.map_singleton, kind]

/-- On a new line the tokens of another source follow. -/
theorem sourceKinds_append {left : String}
    (closed : .illegal .unterminatedString ∉ sourceKinds left) (right : String) :
    sourceKinds (left ++ "\n" ++ right) = sourceKinds left ++ sourceKinds right := by
  have leftKinds := lexKinds_eq_append left
  have terminated : .illegal .unterminatedString ∉ lexKinds left.toList := by
    simpa [leftKinds] using closed
  have blank : Text.isBlank '\n' := by decide
  have whole := lexKinds_append_blank blank left.toList right.toList terminated
  have split : (left ++ "\n" ++ right).toList = left.toList ++ '\n' :: right.toList := by simp
  rw [← split, lexKinds_eq_append, lexKinds_eq_append right, leftKinds, List.dropLast_concat,
    ← List.append_assoc] at whole
  exact List.append_cancel_right whole

/-- Whether the last token of a source is a semicolon. -/
def endsInSemicolon (source : String) : Bool :=
  (sourceKinds source).getLast? = some (.symbol .semicolon)

namespace Parsing

/-- A source is a program exactly if the program is derived from its tokens. -/
theorem result_ofSource_iff {source : String} {program : Program} :
    (ofSource source).result = .ok program ↔
      Derives .statements (sourceKinds source) program := by
  constructor
  · intro parsed
    rcases result_eq_ok_iff.mp parsed with ⟨accepted, rfl⟩
    exact derives_of_accepted accepted
  · exact result_of_derives (lexKinds_eq_append source)

/-- Sources that end in semicolons, each on a new line behind the others, are the
programs of all of them one after the other. -/
theorem result_joined {sources : List String} {programs : List Program}
    (parsed : List.Forall₂ (fun source program => (ofSource source).result = .ok program)
      sources programs) (nonempty : sources ≠ [])
    (closed : ∀ source ∈ sources.dropLast, endsInSemicolon source) :
    (ofSource (joined "\n" sources)).result = .ok programs.flatten := by
  induction parsed with
  | nil => exact absurd rfl nonempty
  | @cons source program sources programs first others ih =>
      cases others with
      | nil => simpa using first
      | @cons next _ rest _ nextParsed othersParsed =>
          have closedFirst : endsInSemicolon source := closed source (by simp)
          have following := ih (by simp) fun other member => closed other (by simp [member])
          rw [result_ofSource_iff] at first following ⊢
          rw [joined, sourceKinds_append (first.illegal_notMem _), List.flatten_cons]
          exact first.append (of_decide_eq_true closedFirst) following

end Parsing

end Ember
