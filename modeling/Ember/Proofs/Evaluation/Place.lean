import Ember.Evaluation.Basic
import Ember.Proofs.Syntax.Tree

/-!
# Places

A site is the way to a node from the root of its program. Here the way is gone: a tree and a
way have at most one node at the end, so the nodes of a program are told apart by their
sites, also where they look alike.
-/

namespace Ember

/-- What stands at a place: a node, or the statements of a block. -/
inductive Tree where
  | node (node : Node)
  | block (statements : Block)
  deriving DecidableEq, Repr

/-- The expressions of some pairs of a hash literal, in order. -/
def Expr.ofPairs : List (Expr × Expr) → List Expr
  | [] => []
  | (key, value) :: rest => key :: value :: ofPairs rest

theorem Expr.mem_ofPairs {pairs : List (Expr × Expr)} {part : Expr} :
    part ∈ ofPairs pairs ↔ ∃ pair ∈ pairs, part = pair.1 ∨ part = pair.2 := by
  induction pairs with
  | nil => simp [ofPairs]
  | cons pair rest ih => simp [ofPairs, ih, or_assoc]

namespace Tree

/-- Some expressions as trees. -/
def ofExprs (expressions : List Expr) : List Tree :=
  expressions.map fun expression => .node (.expr expression)

/-- Some statements as trees. -/
def ofStmts (statements : List Stmt) : List Tree :=
  statements.map fun statement => .node (.stmt statement)

/-- What stands one turn below a tree, in the order of the turns. The statements of a function
literal stand directly below it, those of a conditional one turn further. -/
def children : Tree → List Tree
  | .node (.expr (.array elements)) => ofExprs elements
  | .node (.expr (.hash pairs)) => ofExprs (Expr.ofPairs pairs)
  | .node (.expr (.unary _ operand)) => ofExprs [operand]
  | .node (.expr (.binary _ left right)) => ofExprs [left, right]
  | .node (.expr (.conditional condition consequence alternative)) =>
    .node (.expr condition) :: .block consequence :: alternative.toList.map .block
  | .node (.expr (.function _ body)) => ofStmts body
  | .node (.expr (.call callee arguments)) => ofExprs (callee :: arguments)
  | .node (.expr (.index collection position)) => ofExprs [collection, position]
  | .node (.expr (.identifier _)) | .node (.expr (.integer _)) | .node (.expr (.string _))
  | .node (.expr (.boolean _)) => []
  | .node (.stmt (.binding _ value)) | .node (.stmt (.leaving value))
  | .node (.stmt (.expression value)) => ofExprs [value]
  | .block statements => ofStmts statements

/-- What stands at the end of a way, the last turn first. -/
def at? (tree : Tree) : List Nat → Option Tree
  | [] => some tree
  | position :: path => (tree.at? path).bind fun below => below.children[position]?

@[simp] theorem at?_nil (tree : Tree) : tree.at? [] = some tree := rfl

@[simp] theorem at?_cons (tree : Tree) (position : Nat) (path : List Nat) :
    tree.at? (position :: path) =
      (tree.at? path).bind fun below => below.children[position]? := rfl

/-- A way can be gone on from where another one ends. -/
theorem at?_append (tree : Tree) (path first : List Nat) :
    tree.at? (path ++ first) = (tree.at? first).bind fun below => below.at? path := by
  induction path with
  | nil => simp
  | cons position path ih => simp [ih, Option.bind_assoc]

/-- Whether a tree passes tests, with all that stands inside it. -/
def Passes (test : Expr → Bool) (stmtTest : Stmt → Bool) : Tree → Prop
  | .node (.expr expression) => expression.all test stmtTest
  | .node (.stmt statement) => statement.all test stmtTest
  | .block statements => ∀ statement ∈ statements, statement.all test stmtTest

/-- How many nodes stand one below the other, at most. -/
def height : Tree → Nat
  | .node (.expr expression) => expression.height
  | .node (.stmt statement) => statement.height
  | .block statements => Stmt.heightEach statements

section Children

variable {test : Expr → Bool} {stmtTest : Stmt → Bool}

theorem passes_ofExprs {expressions : List Expr}
    (passes : ∀ expression ∈ expressions, expression.all test stmtTest) :
    ∀ below ∈ ofExprs expressions, below.Passes test stmtTest :=
  List.forall_mem_map.mpr passes

theorem passes_ofStmts {statements : List Stmt}
    (passes : ∀ statement ∈ statements, statement.all test stmtTest) :
    ∀ below ∈ ofStmts statements, below.Passes test stmtTest :=
  List.forall_mem_map.mpr passes

/-- What stands below a tree passes the tests that the tree passes. -/
theorem Passes.children {tree : Tree} (passes : tree.Passes test stmtTest) :
    ∀ below ∈ tree.children, below.Passes test stmtTest := by
  rcases tree with (expression | statement) | statements
  · cases expression with
    | identifier | integer | string | boolean => exact List.forall_mem_nil _
    | array elements => exact passes_ofExprs (Expr.all_array.mp passes).2
    | hash pairs =>
        have each := (Expr.all_hash.mp passes).2
        refine passes_ofExprs fun part member => ?_
        obtain ⟨pair, inside, rfl | rfl⟩ := Expr.mem_ofPairs.mp member
        · exact (each pair inside).1
        · exact (each pair inside).2
    | unary operator operand =>
        exact passes_ofExprs (List.forall_mem_singleton.mpr (Expr.all_unary.mp passes).2)
    | binary operator left right =>
        obtain ⟨-, first, second⟩ := Expr.all_binary.mp passes
        exact passes_ofExprs (by simp [first, second])
    | conditional condition consequence alternative =>
        obtain ⟨-, first, second, third⟩ := Expr.all_conditional.mp passes
        refine List.forall_mem_cons.mpr ⟨first, List.forall_mem_cons.mpr ⟨second, ?_⟩⟩
        intro below member
        obtain ⟨block, inside, rfl⟩ := List.mem_map.mp member
        exact third block (Option.mem_toList.mp inside)
    | function parameters body => exact passes_ofStmts (Expr.all_function.mp passes).2
    | call callee arguments =>
        obtain ⟨-, first, others⟩ := Expr.all_call.mp passes
        exact passes_ofExprs (List.forall_mem_cons.mpr ⟨first, others⟩)
    | index collection position =>
        obtain ⟨-, first, second⟩ := Expr.all_index.mp passes
        exact passes_ofExprs (by simp [first, second])
  · cases statement with
    | binding name value =>
        exact passes_ofExprs (List.forall_mem_singleton.mpr (Stmt.all_binding.mp passes).2)
    | leaving value =>
        exact passes_ofExprs (List.forall_mem_singleton.mpr (Stmt.all_leaving.mp passes).2)
    | expression value =>
        exact passes_ofExprs (List.forall_mem_singleton.mpr (Stmt.all_expression.mp passes).2)
  · exact passes_ofStmts passes

theorem Passes.at? {tree below : Tree} {path : List Nat} (passes : tree.Passes test stmtTest)
    (found : tree.at? path = some below) : below.Passes test stmtTest := by
  induction path generalizing below with
  | nil =>
      cases found
      exact passes
  | cons position path ih =>
      obtain ⟨middle, reached, turned⟩ := Option.bind_eq_some_iff.mp found
      exact (ih reached).children below (List.mem_of_getElem? turned)

theorem height_pos (node : Node) : 0 < (Tree.node node).height := by
  rcases node with expression | statement
  · cases expression <;> exact Nat.succ_pos _
  · cases statement <;> exact Nat.succ_pos _

theorem height_ofExprs {expressions : List Expr} {bound : Nat}
    (low : ∀ expression ∈ expressions, expression.height ≤ bound) :
    ∀ below ∈ ofExprs expressions, below.height < bound + 1 :=
  List.forall_mem_map.mpr fun expression member => Nat.lt_succ_of_le (low expression member)

theorem height_le_max (left right : Expr) :
    ∀ part ∈ [left, right], part.height ≤ max left.height right.height :=
  List.forall_mem_cons.mpr
    ⟨Nat.le_max_left _ _, List.forall_mem_singleton.mpr (Nat.le_max_right _ _)⟩

theorem height_ofStmts (statements : List Stmt) :
    ∀ below ∈ ofStmts statements, below.height ≤ Stmt.heightEach statements :=
  List.forall_mem_map.mpr (Stmt.heightEach_le_iff.mp (Nat.le_refl _))

/-- A node is higher than all that stands below it. -/
theorem height_children (node : Node) :
    ∀ below ∈ (Tree.node node).children, below.height < (Tree.node node).height := by
  rcases node with expression | statement
  · cases expression with
    | identifier | integer | string | boolean => exact List.forall_mem_nil _
    | array elements => exact height_ofExprs (Expr.heightEach_le_iff.mp (Nat.le_refl _))
    | hash pairs =>
        have each := Expr.heightPairs_le_iff.mp (Nat.le_refl (Expr.heightPairs pairs))
        refine height_ofExprs fun part member => ?_
        obtain ⟨pair, inside, rfl | rfl⟩ := Expr.mem_ofPairs.mp member
        · exact (each pair inside).1
        · exact (each pair inside).2
    | unary operator operand => exact height_ofExprs (by simp)
    | binary operator left right => exact height_ofExprs (height_le_max left right)
    | conditional condition consequence alternative =>
        refine List.forall_mem_cons.mpr ⟨?_, List.forall_mem_cons.mpr ⟨?_, ?_⟩⟩
        · exact Nat.lt_succ_of_le (Nat.le_max_left _ _)
        · exact Nat.lt_succ_of_le (Nat.le_trans (Nat.le_max_left _ _) (Nat.le_max_right _ _))
        · intro below member
          obtain ⟨block, inside, rfl⟩ := List.mem_map.mp member
          cases Option.mem_toList.mp inside
          exact Nat.lt_succ_of_le (Nat.le_trans (Nat.le_max_right _ _) (Nat.le_max_right _ _))
    | function parameters body =>
        intro below member
        exact Nat.lt_succ_of_le (height_ofStmts body below member)
    | call callee arguments =>
        refine height_ofExprs (List.forall_mem_cons.mpr ⟨Nat.le_max_left _ _, ?_⟩)
        intro argument member
        exact Nat.le_trans (Expr.heightEach_le_iff.mp (Nat.le_refl _) argument member)
          (Nat.le_max_right _ _)
    | index collection position => exact height_ofExprs (height_le_max collection position)
  · cases statement <;> exact height_ofExprs (by simp)

theorem height_children_le (tree : Tree) :
    ∀ below ∈ tree.children, below.height ≤ tree.height := by
  cases tree with
  | node node =>
      intro below member
      exact Nat.le_of_lt (height_children node below member)
  | block statements => exact height_ofStmts statements

/-- A node is higher than all that stands further on. -/
theorem height_at? {node : Node} {below : Tree} {path : List Nat} (further : path ≠ [])
    (found : (Tree.node node).at? path = some below) :
    below.height < (Tree.node node).height := by
  induction path generalizing below with
  | nil => exact absurd rfl further
  | cons position path ih =>
      obtain ⟨middle, reached, turned⟩ := Option.bind_eq_some_iff.mp found
      have member := List.mem_of_getElem? turned
      by_cases first : path = []
      · subst first
        cases reached
        exact height_children node below member
      · exact Nat.lt_of_le_of_lt (height_children_le middle below member) (ih first reached)

end Children

end Tree

/-- What stands directly inside a node, and the way to it: a node one turn below, or a
statement of a block that stands there. -/
inductive Node.Part (node : Node) : List Nat → Node → Prop where
  | child {position : Nat} {part : Node} :
      (Tree.node node).children[position]? = some (.node part) → Part node [position] part
  | statement {position index : Nat} {block : Block} {statement : Stmt} :
      (Tree.node node).children[position]? = some (.block block) →
        block[index]? = some statement → Part node [index, position] (.stmt statement)

namespace Node.Part

variable {node part : Node} {path : List Nat}

theorem at? (inside : node.Part path part) : (Tree.node node).at? path = some (.node part) := by
  cases inside with
  | child turned => exact turned
  | statement turned found =>
      rw [Tree.at?_cons, Tree.at?_cons, Tree.at?_nil, Option.bind_some, turned, Option.bind_some,
        Tree.children, Tree.ofStmts, List.getElem?_map, found]
      rfl

theorem height_lt (inside : node.Part path part) :
    (Tree.node part).height < (Tree.node node).height := by
  apply Tree.height_at? _ inside.at?
  cases inside <;> exact List.cons_ne_nil _ _

/-- The parts of a call are expressions. -/
theorem eq_expr {callee : Expr} {arguments : List Expr}
    (inside : Part (.expr (.call callee arguments)) path part) :
    ∃ expression, part = .expr expression := by
  cases inside with
  | child turned =>
      obtain ⟨expression, -, same⟩ := List.mem_map.mp (List.mem_of_getElem? turned)
      cases same
      exact ⟨expression, rfl⟩
  | statement turned _ =>
      obtain ⟨expression, -, same⟩ := List.mem_map.mp (List.mem_of_getElem? turned)
      cases same

end Node.Part

namespace Context

/-- The context of what stands at the end of a way. -/
def under (context : Context) (path : List Nat) : Context :=
  { context with site := { context.site with path := path ++ context.site.path } }

end Context

end Ember
