import Ember.Proofs.Syntax.RoundTrip

/-!
# Printed trees are told apart

The printer writes no parentheses around calls, around literals and around the condition of
an `if`, so the parser does not take every printed tree back. Still no two trees are printed
alike. The tokens of an expression say where it ends: behind it stands neither an opening
parenthesis, which would call it, nor an `else`, which would give it another branch. So
two rows of tokens that are the same begin with the same tree, and the same tokens are left
behind it.
-/

namespace Ember

open Grammar (Derives)

/-- An item that is told from all others by its tokens, wherever such tokens follow: no
other item begins the same row of tokens. -/
def Legible {α : Type} (spelling : α → List TokenKind) (follows : List TokenKind → Prop)
    (item : α) : Prop :=
  ∀ other rest otherRest, follows rest → follows otherRest →
    spelling item ++ rest = spelling other ++ otherRest → item = other ∧ rest = otherRest

/-- Tokens behind an operand: they hold no further branch of it. -/
def EndsOperand (rest : List TokenKind) : Prop :=
  rest.head? ≠ some (.keyword .elseWord)

/-- Tokens behind an expression: they do not call it, either. -/
def EndsExpression (rest : List TokenKind) : Prop :=
  EndsOperand rest ∧ rest.head? ≠ some (.symbol .leftParen)

/-- A symbol that opens no list of arguments ends the expression before it. -/
theorem endsExpression_symbol {sign : Symbol} (other : sign ≠ .leftParen)
    (rest : List TokenKind) : EndsExpression (.symbol sign :: rest) := by
  refine ⟨nofun, ?_⟩
  rintro ⟨⟩
  exact other rfl

section Rows

variable {α : Type} {spelling : α → List TokenKind} {items others : List α}
  {rest otherRest : List TokenKind}

/-- Items one behind the other are told apart if every single one is, and what stands behind
them begins with no item. -/
theorem eq_of_flatten_eq (legible : ∀ item ∈ items, Legible spelling (fun _ => True) item)
    (closed : ∀ item behind, rest ≠ spelling item ++ behind)
    (otherClosed : ∀ item behind, otherRest ≠ spelling item ++ behind)
    (same : (items.map spelling).flatten ++ rest = (others.map spelling).flatten ++ otherRest) :
    items = others ∧ rest = otherRest := by
  induction items generalizing others with
  | nil =>
      cases others with
      | nil => exact ⟨rfl, same⟩
      | cons other others =>
          rw [List.map_cons, List.flatten_cons, List.append_assoc] at same
          exact absurd same (closed other _)
  | cons item items ih =>
      rw [List.forall_mem_cons] at legible
      rw [List.map_cons, List.flatten_cons, List.append_assoc] at same
      cases others with
      | nil => exact absurd same.symm (otherClosed item _)
      | cons other others =>
          rw [List.map_cons, List.flatten_cons, List.append_assoc] at same
          obtain ⟨rfl, sameBehind⟩ := legible.1 other _ _ trivial trivial same
          obtain ⟨rfl, sameRest⟩ := ih legible.2 sameBehind
          exact ⟨rfl, sameRest⟩

/-- What stands behind the first item of a list. -/
def listedBehind : List (List TokenKind) → List TokenKind
  | [] => []
  | next :: rest => .symbol .comma :: listed (next :: rest)

theorem listed_cons (kinds : List TokenKind) (rest : List (List TokenKind)) :
    listed (kinds :: rest) = kinds ++ listedBehind rest := by
  cases rest with
  | nil => rw [listed, listedBehind, List.append_nil]
  | cons next rest => rfl

/-- Items with commas between them are told apart, too, if a symbol stands behind them that
begins no item. -/
theorem eq_of_listed_eq {close : Symbol} (closing : close ≠ .comma) (uncalled : close ≠ .leftParen)
    (closed : ∀ item behind rest, .symbol close :: rest ≠ spelling item ++ behind)
    (legible : ∀ item ∈ items, Legible spelling EndsExpression item)
    (same : listed (items.map spelling) ++ .symbol close :: rest =
      listed (others.map spelling) ++ .symbol close :: otherRest) :
    items = others ∧ rest = otherRest := by
  have ends (items : List α) (rest : List TokenKind) :
      EndsExpression (listedBehind (items.map spelling) ++ .symbol close :: rest) := by
    cases items with
    | nil => exact endsExpression_symbol uncalled rest
    | cons item items => exact endsExpression_symbol (by decide) _
  induction items generalizing others with
  | nil =>
      cases others with
      | nil => exact ⟨rfl, (List.cons.inj same).2⟩
      | cons other others =>
          rw [List.map_cons, listed_cons, List.append_assoc] at same
          exact absurd same (closed other _ rest)
  | cons item items ih =>
      rw [List.forall_mem_cons] at legible
      rw [List.map_cons, listed_cons, List.append_assoc] at same
      cases others with
      | nil => exact absurd same.symm (closed item _ otherRest)
      | cons other others =>
          rw [List.map_cons, listed_cons, List.append_assoc] at same
          obtain ⟨rfl, sameBehind⟩ := legible.1 other _ _ (ends items rest) (ends others _) same
          -- Behind equal items stands a comma in both rows, or the closing symbol.
          cases items with
          | nil =>
              cases others with
              | nil => exact ⟨rfl, (List.cons.inj sameBehind).2⟩
              | cons next more => exact absurd (List.cons.inj sameBehind).1 (by simpa using closing)
          | cons next more =>
              cases others with
              | nil =>
                  exact absurd (List.cons.inj sameBehind).1 (by simpa using closing.symm)
              | cons otherNext otherMore =>
                  have behindComma := (List.cons.inj sameBehind).2
                  rw [← List.map_cons, ← List.map_cons] at behindComma
                  obtain ⟨sameItems, sameRest⟩ := ih legible.2 behindComma
                  exact ⟨congrArg (item :: ·) sameItems, sameRest⟩

theorem inParens_append (kinds rest : List TokenKind) :
    inParens kinds ++ rest = .symbol .leftParen :: (kinds ++ .symbol .rightParen :: rest) := by
  rw [inParens, List.cons_append, List.append_assoc, List.singleton_append]

end Rows

/-- Whether a token can stand first in a printed expression. Signs stand behind a parenthesis
there. -/
def TokenKind.beginsPrinted : TokenKind → Bool
  | .symbol .bang | .symbol .minus => false
  | kind => kind.beginsExpression

/-- Whether an expression is a call. -/
def Expr.isCall : Expr → Bool
  | .call _ _ => true
  | _ => false

/-- What passes from the callee to the call, and holds of all that is no call, holds of every
expression. -/
@[elab_as_elim]
theorem Expr.inductCalls {P : Expr → Prop} (operand : ∀ tree : Expr, tree.isCall = false → P tree)
    (call : ∀ callee arguments, P callee → P (.call callee arguments)) (tree : Expr) : P tree :=
  Hereditary.everyExpr (Q := fun _ => True)
    { identifier := fun _ => operand _ rfl
      integer := fun _ => operand _ rfl
      string := fun _ => operand _ rfl
      boolean := fun _ => operand _ rfl
      array := fun _ _ => operand _ rfl
      hash := fun _ _ => operand _ rfl
      unary := fun _ _ _ => operand _ rfl
      binary := fun _ _ _ _ _ => operand _ rfl
      conditional := fun _ _ _ _ _ _ => operand _ rfl
      function := fun _ _ _ => operand _ rfl
      call := fun callee arguments holds _ => call callee arguments holds
      index := fun _ _ _ _ => operand _ rfl
      binding := fun _ _ _ => trivial
      leaving := fun _ _ => trivial
      expression := fun _ _ => trivial } tree

namespace Expr

/-- What is called in the end, by one call or several. -/
def head : Expr → Expr
  | .call callee _ => callee.head
  | tree => tree
termination_by structural tree => tree

/-- The lists of arguments with which the head of an expression is called, in order. -/
def calls : Expr → List (List Expr)
  | .call callee arguments => callee.calls ++ [arguments]
  | _ => []
termination_by structural tree => tree

theorem head_of_isCall {tree : Expr} (operand : tree.isCall = false) : tree.head = tree := by
  cases tree with
  | call => cases operand
  | _ => rfl

theorem calls_of_isCall {tree : Expr} (operand : tree.isCall = false) : tree.calls = [] := by
  cases tree with
  | call => cases operand
  | _ => rfl

theorem isCall_head (tree : Expr) : tree.head.isCall = false := by
  induction tree using inductCalls with
  | operand tree operand => rwa [head_of_isCall operand]
  | call callee arguments ih => exact ih

/-- An expression is its head, called with all the lists of arguments. -/
theorem foldl_calls (tree : Expr) : tree.calls.foldl .call tree.head = tree := by
  induction tree using inductCalls with
  | operand tree operand => rw [head_of_isCall operand, calls_of_isCall operand, List.foldl_nil]
  | call callee arguments ih =>
      rw [calls, head, List.foldl_append, ih, List.foldl_cons, List.foldl_nil]

/-- The kinds of a list of arguments. -/
def argumentKinds (arguments : List Expr) : List TokenKind :=
  inParens (listed (arguments.map kinds))

theorem kinds_eq_head_calls (tree : Expr) :
    tree.kinds = tree.head.kinds ++ (tree.calls.map argumentKinds).flatten := by
  induction tree using inductCalls with
  | operand tree operand =>
      rw [head_of_isCall operand, calls_of_isCall operand, List.map_nil, List.flatten_nil,
        List.append_nil]
  | call callee arguments ih =>
      rw [kinds, ih, kindsEach_eq_map, calls, head, List.map_append, List.flatten_append,
        List.map_singleton, List.flatten_singleton, List.append_assoc]
      rfl

/-- An operand is told from all other operands by its tokens. -/
def LegibleOperand (tree : Expr) : Prop :=
  ∀ other : Expr, other.isCall = false → ∀ rest otherRest, EndsOperand rest →
    EndsOperand otherRest → tree.kinds ++ rest = other.kinds ++ otherRest →
      tree = other ∧ rest = otherRest

/-- An expression whose head, and whose arguments, are told from others by their tokens. -/
structure Clear (tree : Expr) : Prop where
  head : tree.head.LegibleOperand
  calls : ∀ arguments ∈ tree.calls, ∀ argument ∈ arguments, Legible kinds EndsExpression argument

/-- Only tokens that can begin a printed expression do. -/
theorem cons_ne_kinds {kind : TokenKind} (other : kind.beginsPrinted = false) (tree : Expr)
    (behind rest : List TokenKind) : kind :: rest ≠ tree.kinds ++ behind := by
  have operand {tree : Expr} (operand : tree.isCall = false) (behind : List TokenKind) :
      kind :: rest ≠ tree.kinds ++ behind := by
    intro same
    cases tree with
    | call => cases operand
    | boolean value => cases value <;> (cases same; cases other)
    | _ =>
        cases same
        cases other
  rw [kinds_eq_head_calls, List.append_assoc]
  exact operand tree.isCall_head _

/-- Lists of arguments are told apart if the arguments are. -/
theorem legible_argumentKinds {arguments : List Expr}
    (legible : ∀ argument ∈ arguments, Legible kinds EndsExpression argument) :
    Legible argumentKinds (fun _ => True) arguments := by
  intro others rest otherRest _ _ same
  rw [argumentKinds, argumentKinds, inParens_append, inParens_append, List.cons.injEq] at same
  exact eq_of_listed_eq (by decide) (by decide) (cons_ne_kinds rfl) legible same.2

/-- Behind the head of an expression stand lists of arguments, or what follows the
expression. -/
theorem endsOperand_calls (calls : List (List Expr)) {rest : List TokenKind}
    (ends : EndsExpression rest) : EndsOperand ((calls.map argumentKinds).flatten ++ rest) := by
  cases calls with
  | nil => exact ends.1
  | cons arguments calls => exact nofun

theorem Clear.legible {tree : Expr} (clear : tree.Clear) : Legible kinds EndsExpression tree := by
  intro other rest otherRest ends otherEnds same
  rw [tree.kinds_eq_head_calls, other.kinds_eq_head_calls, List.append_assoc,
    List.append_assoc] at same
  obtain ⟨sameHead, sameBehind⟩ := clear.head other.head other.isCall_head _ _
    (endsOperand_calls _ ends) (endsOperand_calls _ otherEnds) same
  have uncalled {rest : List TokenKind} (ends : EndsExpression rest) (arguments : List Expr)
      (behind : List TokenKind) : rest ≠ argumentKinds arguments ++ behind := by
    rintro rfl
    exact ends.2 rfl
  obtain ⟨sameCalls, sameRest⟩ := eq_of_flatten_eq
    (fun arguments member => legible_argumentKinds (clear.calls arguments member))
    (uncalled ends) (uncalled otherEnds) sameBehind
  refine ⟨?_, sameRest⟩
  rw [← tree.foldl_calls, ← other.foldl_calls, sameHead, sameCalls]

/-- A symbol that opens no list of arguments ends an expression. -/
theorem Clear.eq_of_symbol {tree other : Expr} {sign otherSign : Symbol}
    {rest otherRest : List TokenKind} (clear : tree.Clear) (ends : sign ≠ .leftParen)
    (otherEnds : otherSign ≠ .leftParen)
    (same : tree.kinds ++ .symbol sign :: rest = other.kinds ++ .symbol otherSign :: otherRest) :
    tree = other ∧ sign = otherSign ∧ rest = otherRest := by
  obtain ⟨sameTree, sameRest⟩ := clear.legible other _ _ (endsExpression_symbol ends _)
    (endsExpression_symbol otherEnds _) same
  rw [List.cons.injEq, TokenKind.symbol.injEq] at sameRest
  exact ⟨sameTree, sameRest⟩

theorem Clear.of_operand {tree : Expr} (operand : tree.isCall = false)
    (legible : tree.LegibleOperand) : tree.Clear := by
  constructor
  · rwa [head_of_isCall operand]
  · rw [calls_of_isCall operand]
    exact List.forall_mem_nil _

theorem Clear.call {callee : Expr} {arguments : List Expr} (calleeClear : callee.Clear)
    (argumentsClear : ∀ argument ∈ arguments, argument.Clear) : (call callee arguments).Clear := by
  constructor
  · exact calleeClear.head
  · rw [Expr.calls, List.forall_mem_append, List.forall_mem_singleton]
    exact ⟨calleeClear.calls, fun argument member => (argumentsClear argument member).legible⟩

end Expr

/-- Only tokens that can begin a statement begin a printed one. -/
theorem Stmt.cons_ne_kinds {kind : TokenKind} (closing : kind.beginsStatement = false)
    (statement : Stmt) (behind rest : List TokenKind) :
    kind :: rest ≠ statement.kinds ++ behind := by
  obtain ⟨first, more, split, begins⟩ := statement.begins_kinds
  rw [split]
  rintro ⟨⟩
  cases closing.symm.trans begins

/-- Blocks are told apart if their statements are. -/
theorem legible_blockKinds {block : Block}
    (legible : ∀ statement ∈ block, Legible Stmt.kinds (fun _ => True) statement) :
    Legible (fun block : Block => blockKinds (block.map Stmt.kinds)) (fun _ => True) block := by
  intro other rest otherRest _ _ same
  simp only [blockKinds, List.cons_append, List.cons.injEq, true_and, List.append_assoc,
    List.nil_append] at same
  obtain ⟨sameBlock, sameRest⟩ := eq_of_flatten_eq legible
    (fun statement behind => statement.cons_ne_kinds rfl behind rest)
    (fun statement behind => statement.cons_ne_kinds rfl behind otherRest) same
  exact ⟨sameBlock, (List.cons.inj sameRest).2⟩

/-- An `else` that stands behind a block belongs to it, because none can follow. -/
theorem eq_of_kindsAlternative_eq {alternative other : Option Block}
    {rest otherRest : List TokenKind}
    (legible : ∀ block ∈ alternative, ∀ statement ∈ block,
      Legible Stmt.kinds (fun _ => True) statement)
    (ends : EndsOperand rest) (otherEnds : EndsOperand otherRest)
    (same : Stmt.kindsAlternative alternative ++ rest = Stmt.kindsAlternative other ++ otherRest) :
    alternative = other ∧ rest = otherRest := by
  cases alternative with
  | none =>
      cases other with
      | none => exact ⟨rfl, same⟩
      | some otherBlock => exact absurd (congrArg List.head? same) ends
  | some block =>
      cases other with
      | none => exact absurd (congrArg List.head? same.symm) otherEnds
      | some otherBlock =>
          simp only [Stmt.kindsAlternative, Stmt.kindsEach_eq_map, List.cons_append,
            List.cons.injEq, true_and] at same
          obtain ⟨rfl, sameRest⟩ := legible_blockKinds (legible block rfl) otherBlock _ _ trivial
            trivial same
          exact ⟨rfl, sameRest⟩

theorem legible_name (name : String) :
    Legible (fun name => [TokenKind.identifier name]) EndsExpression name := by
  intro other rest otherRest _ _ same
  simpa using same

/-- Keys are told from their values by the colon between them. -/
theorem legible_pair {key value : Expr} (keyClear : key.Clear) (valueClear : value.Clear) :
    Legible (fun pair : Expr × Expr => pair.1.kinds ++ .symbol .colon :: pair.2.kinds)
      EndsExpression (key, value) := by
  rintro ⟨otherKey, otherValue⟩ rest otherRest ends otherEnds same
  simp only [List.append_assoc, List.cons_append] at same
  obtain ⟨rfl, -, sameBehind⟩ := keyClear.eq_of_symbol (by decide) (by decide) same
  obtain ⟨rfl, sameRest⟩ := valueClear.legible otherValue _ _ ends otherEnds sameBehind
  exact ⟨rfl, sameRest⟩

theorem UnaryOperator.symbol_injective {left right : UnaryOperator}
    (same : left.symbol = right.symbol) : left = right := by
  cases left <;> cases right <;> first | rfl | cases same

/-- No operator is written like the parenthesis of a call or the bracket of an index. -/
theorem BinaryOperator.symbol_ne (operator : BinaryOperator) :
    operator.symbol ≠ .leftParen ∧ operator.symbol ≠ .leftBracket := by
  cases operator <;> decide

theorem BinaryOperator.symbol_injective {left right : BinaryOperator}
    (same : left.symbol = right.symbol) : left = right := by
  cases left <;> cases right <;> first | rfl | cases same

namespace Expr.LegibleOperand

theorem identifier (name : String) : (Expr.identifier name).LegibleOperand := by
  intro other operand rest otherRest _ _ same
  cases other with
  | identifier otherName =>
      simp only [kinds, List.cons_append, List.nil_append, List.cons.injEq,
        TokenKind.identifier.injEq] at same
      exact ⟨congrArg _ same.1, same.2⟩
  | call => cases operand
  | _ => cases same

theorem integer (value : Integer) : (Expr.integer value).LegibleOperand := by
  intro other operand rest otherRest _ _ same
  cases other with
  | integer otherValue =>
      simp only [kinds, List.cons_append, List.nil_append, List.cons.injEq,
        TokenKind.integer.injEq] at same
      exact ⟨congrArg _ (Integer.render_injective same.1), same.2⟩
  | call => cases operand
  | _ => cases same

theorem string (content : String) : (Expr.string content).LegibleOperand := by
  intro other operand rest otherRest _ _ same
  cases other with
  | string otherContent =>
      simp only [kinds, List.cons_append, List.nil_append, List.cons.injEq,
        TokenKind.string.injEq] at same
      exact ⟨congrArg _ same.1, same.2⟩
  | call => cases operand
  | _ => cases same

theorem boolean (value : Bool) : (Expr.boolean value).LegibleOperand := by
  intro other operand rest otherRest _ _ same
  cases other with
  | boolean otherValue => cases value <;> cases otherValue <;> cases same <;> exact ⟨rfl, rfl⟩
  | call => cases operand
  | _ => cases value <;> cases same

theorem array {elements : List Expr} (clear : ∀ element ∈ elements, element.Clear) :
    (Expr.array elements).LegibleOperand := by
  intro other operand rest otherRest _ _ same
  cases other with
  | array others =>
      simp only [kinds, kindsEach_eq_map, List.cons_append, List.cons.injEq, true_and,
        List.append_assoc, List.nil_append] at same
      obtain ⟨rfl, sameRest⟩ := eq_of_listed_eq (by decide) (by decide) (cons_ne_kinds rfl)
        (fun element member => (clear element member).legible) same
      exact ⟨rfl, sameRest⟩
  | call => cases operand
  | boolean value => cases value <;> cases same
  | _ => cases same

theorem hash {pairs : List (Expr × Expr)} (clear : ∀ pair ∈ pairs, pair.1.Clear ∧ pair.2.Clear) :
    (Expr.hash pairs).LegibleOperand := by
  intro other operand rest otherRest _ _ same
  cases other with
  | hash others =>
      simp only [kinds, kindsPairs_eq_map, List.cons_append, List.cons.injEq, true_and,
        List.append_assoc, List.nil_append] at same
      have closed (pair : Expr × Expr) (behind rest : List TokenKind) :
          .symbol .rightBrace :: rest ≠
            (pair.1.kinds ++ .symbol .colon :: pair.2.kinds) ++ behind := by
        rw [List.append_assoc]
        exact cons_ne_kinds rfl pair.1 _ rest
      obtain ⟨rfl, sameRest⟩ := eq_of_listed_eq (by decide) (by decide) closed
        (fun pair member => legible_pair (clear pair member).1 (clear pair member).2) same
      exact ⟨rfl, sameRest⟩
  | call => cases operand
  | boolean value => cases value <;> cases same
  | _ => cases same

/-- Operations and index expressions are told apart by what stands in their parentheses. -/
theorem of_inner {tree : Expr} (parenthesised : tree.isParenthesised)
    (inside : ∀ other : Expr, other.isParenthesised → ∀ rest otherRest,
      tree.inner ++ .symbol .rightParen :: rest = other.inner ++ .symbol .rightParen :: otherRest →
        tree = other ∧ rest = otherRest) : tree.LegibleOperand := by
  intro other operand rest otherRest _ _ same
  rw [kinds_eq_inParens parenthesised, inParens_append] at same
  by_cases otherParenthesised : other.isParenthesised
  · rw [kinds_eq_inParens otherParenthesised, inParens_append, List.cons.injEq] at same
    exact inside other otherParenthesised rest otherRest same.2
  · cases other with
    | unary | binary | index => exact absurd rfl otherParenthesised
    | call => cases operand
    | boolean value => cases value <;> cases same
    | _ => cases same

/-- What stands in the parentheses begins with a sign in a prefix operation only. -/
theorem sign_ne (operator : UnaryOperator) (tree : Expr) (behind rest : List TokenKind) :
    .symbol operator.symbol :: rest ≠ tree.kinds ++ behind :=
  cons_ne_kinds (by cases operator <;> rfl) tree behind rest

theorem unary (operator : UnaryOperator) {tree : Expr} (clear : tree.Clear) :
    (Expr.unary operator tree).LegibleOperand := by
  refine of_inner rfl ?_
  intro other parenthesised rest otherRest same
  cases other with
  | unary otherOperator otherTree =>
      simp only [inner, List.cons_append, List.cons.injEq, TokenKind.symbol.injEq] at same
      obtain ⟨rfl, -, sameRest⟩ := clear.eq_of_symbol (by decide) (by decide) same.2
      rw [UnaryOperator.symbol_injective same.1]
      exact ⟨rfl, sameRest⟩
  | binary | index =>
      simp only [inner, List.cons_append, List.append_assoc] at same
      exact absurd same (sign_ne _ _ _ _)
  | _ => cases parenthesised

theorem binary (operator : BinaryOperator) {left right : Expr} (leftClear : left.Clear)
    (rightClear : right.Clear) : (Expr.binary operator left right).LegibleOperand := by
  refine of_inner rfl ?_
  intro other parenthesised rest otherRest same
  cases other with
  | unary =>
      simp only [inner, List.cons_append, List.append_assoc] at same
      exact absurd same.symm (sign_ne _ _ _ _)
  | binary otherOperator otherLeft otherRight =>
      simp only [inner, List.cons_append, List.append_assoc] at same
      obtain ⟨rfl, sameOperator, sameBehind⟩ :=
        leftClear.eq_of_symbol operator.symbol_ne.1 otherOperator.symbol_ne.1 same
      obtain ⟨rfl, -, sameRest⟩ := rightClear.eq_of_symbol (by decide) (by decide) sameBehind
      rw [BinaryOperator.symbol_injective sameOperator]
      exact ⟨rfl, sameRest⟩
  | index collection position =>
      simp only [inner, List.cons_append, List.append_assoc] at same
      obtain ⟨-, bracket, -⟩ := leftClear.eq_of_symbol operator.symbol_ne.1 (by decide) same
      exact absurd bracket operator.symbol_ne.2
  | _ => cases parenthesised

theorem index {collection position : Expr} (collectionClear : collection.Clear)
    (positionClear : position.Clear) : (Expr.index collection position).LegibleOperand := by
  refine of_inner rfl ?_
  intro other parenthesised rest otherRest same
  cases other with
  | unary =>
      simp only [inner, List.cons_append, List.append_assoc] at same
      exact absurd same.symm (sign_ne _ _ _ _)
  | binary operator left right =>
      simp only [inner, List.cons_append, List.append_assoc] at same
      obtain ⟨-, bracket, -⟩ := collectionClear.eq_of_symbol (by decide) operator.symbol_ne.1 same
      exact absurd bracket.symm operator.symbol_ne.2
  | index otherCollection otherPosition =>
      simp only [inner, List.cons_append, List.append_assoc, List.nil_append] at same
      obtain ⟨rfl, -, sameBehind⟩ := collectionClear.eq_of_symbol (by decide) (by decide) same
      obtain ⟨rfl, -, sameRest⟩ := positionClear.eq_of_symbol (by decide) (by decide) sameBehind
      exact ⟨rfl, (List.cons.inj sameRest).2⟩
  | _ => cases parenthesised

theorem conditional {condition : Expr} {consequence : Block} {alternative : Option Block}
    (conditionClear : condition.Clear)
    (consequenceLegible : ∀ statement ∈ consequence, Legible Stmt.kinds (fun _ => True) statement)
    (alternativeLegible : ∀ block ∈ alternative, ∀ statement ∈ block,
      Legible Stmt.kinds (fun _ => True) statement) :
    (Expr.conditional condition consequence alternative).LegibleOperand := by
  intro other operand rest otherRest ends otherEnds same
  cases other with
  | conditional otherCondition otherConsequence otherAlternative =>
      simp only [kinds, Stmt.kindsEach_eq_map, List.cons_append, List.cons.injEq, true_and,
        List.append_assoc] at same
      obtain ⟨rfl, sameBlock⟩ := conditionClear.legible otherCondition _ _
        (endsExpression_symbol (by decide) _) (endsExpression_symbol (by decide) _) same
      obtain ⟨rfl, sameBehind⟩ := legible_blockKinds consequenceLegible otherConsequence _ _ trivial
        trivial sameBlock
      obtain ⟨rfl, sameRest⟩ :=
        eq_of_kindsAlternative_eq alternativeLegible ends otherEnds sameBehind
      exact ⟨rfl, sameRest⟩
  | call => cases operand
  | boolean value => cases value <;> cases same
  | _ => cases same

theorem function (parameters : List String) {body : Block}
    (legible : ∀ statement ∈ body, Legible Stmt.kinds (fun _ => True) statement) :
    (Expr.function parameters body).LegibleOperand := by
  intro other operand rest otherRest _ _ same
  cases other with
  | function otherParameters otherBody =>
      simp only [kinds, Stmt.kindsEach_eq_map, List.cons_append, List.append_assoc, inParens_append,
        List.cons.injEq, true_and] at same
      have closed (name : String) (behind rest : List TokenKind) :
          .symbol .rightParen :: rest ≠ [.identifier name] ++ behind := by simp
      obtain ⟨rfl, sameBehind⟩ := eq_of_listed_eq (by decide) (by decide) closed
        (fun name _ => legible_name name) same
      obtain ⟨rfl, sameRest⟩ := legible_blockKinds legible otherBody _ _ trivial trivial sameBehind
      exact ⟨rfl, sameRest⟩
  | call => cases operand
  | boolean value => cases value <;> cases same
  | _ => cases same

end Expr.LegibleOperand

/-- All expressions and all statements are told apart. -/
theorem clear_trees : Hereditary Expr.Clear (Legible Stmt.kinds fun _ => True) where
  identifier name := .of_operand rfl (.identifier name)
  integer value := .of_operand rfl (.integer value)
  string content := .of_operand rfl (.string content)
  boolean value := .of_operand rfl (.boolean value)
  array _ elements := .of_operand rfl (.array elements)
  hash _ pairs := .of_operand rfl (.hash pairs)
  unary operator _ operand := .of_operand rfl (.unary operator operand)
  binary operator _ _ left right := .of_operand rfl (.binary operator left right)
  conditional _ _ _ condition consequence alternative :=
    .of_operand rfl (.conditional condition consequence alternative)
  function parameters _ body := .of_operand rfl (.function parameters body)
  call _ _ callee arguments := .call callee arguments
  index _ _ collection position := .of_operand rfl (.index collection position)
  binding name value clear := by
    intro other rest otherRest _ _ same
    cases other with
    | binding otherName otherValue =>
        simp only [Stmt.kinds, List.cons_append, List.cons.injEq, true_and, List.append_assoc,
          List.nil_append, TokenKind.identifier.injEq] at same
        obtain ⟨rfl, sameValue⟩ := same
        obtain ⟨rfl, -, sameRest⟩ := clear.eq_of_symbol (by decide) (by decide) sameValue
        exact ⟨rfl, sameRest⟩
    | leaving otherValue => cases same
    | expression otherValue =>
        simp only [Stmt.kinds, List.cons_append, List.append_assoc] at same
        exact absurd same (Expr.cons_ne_kinds rfl _ _ _)
  leaving value clear := by
    intro other rest otherRest _ _ same
    cases other with
    | binding otherName otherValue => cases same
    | leaving otherValue =>
        simp only [Stmt.kinds, List.cons_append, List.cons.injEq, true_and, List.append_assoc,
          List.nil_append] at same
        obtain ⟨rfl, -, sameRest⟩ := clear.eq_of_symbol (by decide) (by decide) same
        exact ⟨rfl, sameRest⟩
    | expression otherValue =>
        simp only [Stmt.kinds, List.cons_append, List.append_assoc] at same
        exact absurd same (Expr.cons_ne_kinds rfl _ _ _)
  expression value clear := by
    intro other rest otherRest _ _ same
    cases other with
    | binding otherName otherValue =>
        simp only [Stmt.kinds, List.cons_append, List.append_assoc] at same
        exact absurd same.symm (Expr.cons_ne_kinds rfl _ _ _)
    | leaving otherValue =>
        simp only [Stmt.kinds, List.cons_append, List.append_assoc] at same
        exact absurd same.symm (Expr.cons_ne_kinds rfl _ _ _)
    | expression otherValue =>
        simp only [Stmt.kinds, List.cons_append, List.append_assoc, List.nil_append] at same
        obtain ⟨rfl, -, sameRest⟩ := clear.eq_of_symbol (by decide) (by decide) same
        exact ⟨rfl, sameRest⟩

/-- No two programs are printed with the same tokens. -/
theorem Program.eq_of_kinds_eq {left right : Program} (same : left.kinds = right.kinds) :
    left = right := by
  have ended (statement : Stmt) (behind : List TokenKind) :
      [.endOfInput] ≠ statement.kinds ++ behind := statement.cons_ne_kinds rfl behind []
  rw [Program.kinds, Program.kinds] at same
  exact (eq_of_flatten_eq (fun statement _ => clear_trees.everyStmt statement) ended ended
    (by rw [same])).1

namespace Parsing

/-- The printer is unambiguous: two programs that were parsed, from whatever sources, are the
same tree if their texts are the same. -/
theorem eq_of_render_eq {source otherSource : String} {program other : Program}
    (parsed : (ofSource source).result = .ok program)
    (otherParsed : (ofSource otherSource).result = .ok other)
    (same : program.render = other.render) : program = other := by
  have lexed := lexKinds_render (writable_of_parsed parsed)
  have otherLexed := lexKinds_render (writable_of_parsed otherParsed)
  rw [same, otherLexed] at lexed
  exact Program.eq_of_kinds_eq (List.append_cancel_right lexed.symm)

/-- Two sources with a name as a condition, which the parser does not take back: they have one
text, so they have one tree. -/
theorem eq_of_render_eq_nameCondition :
    ∃ program other,
      (ofSource "if (x) \x7by\x7d").result = .ok program ∧
        (ofSource "if ((x)) \x7b y; \x7d;").result = .ok other ∧
          program.render = other.render ∧ program = other := by
  have name (found : String) {tier : Grammar.Tier} :
      Derives (.expression tier) [.identifier found] (.identifier found) :=
    (Derives.identifier found).looser tier.rank_le
  have plain : (ofSource "if (x) \x7by\x7d").result =
      .ok [.expression (.conditional (.identifier "x") [.expression (.identifier "y")] none)] :=
    result_of_derives (by decide +kernel)
      (.lastExpression ((Derives.conditional (name "x")
        (.block (.lastExpression (name "y")))).looser (by decide)))
  have condition : Derives (.expression .equality)
      [.symbol .leftParen, .identifier "x", .symbol .rightParen] (.identifier "x") :=
    (Derives.grouped (name "x")).looser (by decide)
  have closed : (ofSource "if ((x)) \x7b y; \x7d;").result =
      .ok [.expression (.conditional (.identifier "x") [.expression (.identifier "y")] none)] :=
    result_of_derives (by decide +kernel)
      (.moreStatements (.expression ((Derives.conditional condition
        (.block (.moreStatements (.expression (name "y")) .noStatements))).looser (by decide)))
        .noStatements)
  exact ⟨_, _, plain, closed, rfl, eq_of_render_eq plain closed rfl⟩

end Parsing

end Ember
