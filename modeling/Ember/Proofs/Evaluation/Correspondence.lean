import Ember.Evaluation.Program
import Ember.Proofs.Syntax.Tree
import Ember.Proofs.Value.Likeness

/-!
# Runs that correspond

Two evaluations of one program, with two sinks and from two stores. What has to be
the same of them is left open: a correspondence names which values match, and which
contexts, stores and traces correspond, with the laws of the few steps that depend on
these. Then every evaluation of every node corresponds to its counterpart, at every
bound on the nesting.

With one store on both sides this is an invariant of runs.
-/

namespace Ember

/-- Two ends of computations: related results, or signals that are alike. -/
inductive EndsAlike (alike : Value → Value → Prop) {α β : Type} (relation : α → β → Prop) :
    Except Signal α → Except Signal β → Prop where
  | ok {left : α} {right : β} :
      relation left right → EndsAlike alike relation (.ok left) (.ok right)
  | returned {left right : Value} : alike left right →
      EndsAlike alike relation (.error (.returned left)) (.error (.returned right))
  | failed (error : EvalError) :
      EndsAlike alike relation (.error (.failed error)) (.error (.failed error))
  | exhausted : EndsAlike alike relation (.error .exhausted) (.error .exhausted)

/-- Whether a node passes tests, with all that stands inside it. -/
def Node.all (test : Expr → Bool) (stmtTest : Stmt → Bool) : Node → Bool
  | .expr expression => expression.all test stmtTest
  | .stmt statement => statement.all test stmtTest

/-- What a sink keeps after a node, if it is told of it. -/
def Sink.afterNode {State : Type} (sink : Sink State) (kind : NodeKind)
    (result : Except Signal Value) (trace : State) : State :=
  match Eval.report? result with
  | none => trace
  | some report => if sink.enabled trace then sink.record (.node kind report) trace else trace

theorem Eval.observe_apply {State : Type} (sink : Sink State) (kind : NodeKind)
    (computation : Eval State Value) (machine : Machine State) :
    computation.observe sink kind machine =
      ((computation machine).1, ⟨(computation machine).2.store,
        sink.afterNode kind (computation machine).1 (computation machine).2.trace⟩) := by
  rw [observe, Sink.afterNode]
  dsimp only
  cases report? (computation machine).1 with
  | none => rfl
  | some report => cases sink.enabled (computation machine).2.trace <;> rfl

/-- What corresponds in two runs of one program. -/
structure Correspondence {Left Right : Type} (leftSink : Sink Left) (rightSink : Sink Right) where
  values : Matching
  /-- The tests that the expressions and the statements of the program pass. -/
  test : Expr → Bool
  stmtTest : Stmt → Bool
  /-- The names that are bound. -/
  binds : String → Prop
  context : Context → Context → Prop
  store : Store → Store → Prop
  trace : Left → Right → Prop
  child : ∀ {left right : Context}, context left right →
    ∀ position, context (left.child position) (right.child position)
  string : ∀ {content : String}, test (.string content) →
    values.alike (.string content) (.string content)
  binding : ∀ {name : String} {value : Expr}, stmtTest (.binding name value) → binds name
  find : ∀ {name : String} {left right : Context} {leftStore rightStore : Store},
    test (.identifier name) → context left right → store leftStore rightStore →
      Option.Rel values.alike (leftStore.find? name left.scope)
        (rightStore.find? name right.scope)
  define : ∀ {name : String} {left right : Context} {leftStore rightStore : Store}
    {leftValue rightValue : Value}, binds name → context left right → store leftStore rightStore →
      values.alike leftValue rightValue →
        store (leftStore.define left.scope name leftValue)
          (rightStore.define right.scope name rightValue)
  /-- Evaluating a function literal. -/
  function : ∀ {parameters : List String} {body : Block} {left right : Context},
    (Expr.function parameters body).all test stmtTest → context left right →
      values.closure ⟨left.site, left.scope, parameters, body⟩
        ⟨right.site, right.scope, parameters, body⟩
  parameters : ∀ {left right : Closure}, values.closure left right →
    left.parameters = right.parameters ∧ ∀ name ∈ left.parameters, binds name
  body : ∀ {left right : Closure}, values.closure left right →
    left.body = right.body ∧ ∀ statement ∈ left.body, statement.all test stmtTest
  /-- Opening the scope of a call. -/
  enter : ∀ {left right : Closure} {leftStore rightStore : Store}, values.closure left right →
    store leftStore rightStore →
      context ⟨(leftStore.enter (some left.scope)).1, left.site⟩
          ⟨(rightStore.enter (some right.scope)).1, right.site⟩ ∧
        store (leftStore.enter (some left.scope)).2 (rightStore.enter (some right.scope)).2
  observe : ∀ {kind : NodeKind} {left right : Except Signal Value} {leftTrace : Left}
    {rightTrace : Right}, EndsAlike values.alike values.alike left right →
      trace leftTrace rightTrace →
        trace (leftSink.afterNode kind left leftTrace) (rightSink.afterNode kind right rightTrace)

namespace Correspondence

variable {Left Right : Type} {leftSink : Sink Left} {rightSink : Sink Right}

/-- Machines with stores and traces that correspond. -/
def machine (same : Correspondence leftSink rightSink) (left : Machine Left)
    (right : Machine Right) : Prop :=
  same.store left.store right.store ∧ same.trace left.trace right.trace

/-- Computations that end alike, and with machines that correspond, if they are
started with such machines. -/
def Related (same : Correspondence leftSink rightSink) {α β : Type} (relation : α → β → Prop)
    (left : Eval Left α) (right : Eval Right β) : Prop :=
  ∀ leftMachine rightMachine, same.machine leftMachine rightMachine →
    EndsAlike same.values.alike relation (left leftMachine).1 (right rightMachine).1 ∧
      same.machine (left leftMachine).2 (right rightMachine).2

variable {same : Correspondence leftSink rightSink} {α β : Type} {relation : α → β → Prop}

namespace Related

theorem pure {left : α} {right : β} (related : relation left right) :
    same.Related relation (pure left) (pure right) := by
  intro leftMachine rightMachine machines
  exact ⟨.ok related, machines⟩

theorem fail (error : EvalError) :
    same.Related relation (Eval.signal (.failed error)) (Eval.signal (.failed error)) := by
  intro leftMachine rightMachine machines
  exact ⟨.failed error, machines⟩

theorem leave {left right : Value} (alike : same.values.alike left right) :
    same.Related relation (Eval.signal (.returned left)) (Eval.signal (.returned right)) := by
  intro leftMachine rightMachine machines
  exact ⟨.returned alike, machines⟩

theorem exhaust :
    same.Related relation (Eval.signal .exhausted) (Eval.signal .exhausted) := by
  intro leftMachine rightMachine machines
  exact ⟨.exhausted, machines⟩

theorem ofOperation {left : Except EvalError α} {right : Except EvalError β}
    (agree : Agree relation left right) :
    same.Related relation (Eval.ofOperation left) (Eval.ofOperation right) := by
  cases agree with
  | ok related => exact pure related
  | error error => exact fail error

/-- The check of a key. -/
theorem asKey {left right : Value} (alike : same.values.alike left right) :
    same.Related (fun leftKey rightKey => leftKey = rightKey ∧ left.asKey = .ok leftKey)
      (Eval.ofOperation left.asKey) (Eval.ofOperation right.asKey) := by
  rw [← (same.values.structural.shape alike).asKey_eq]
  apply ofOperation
  cases left.asKey with
  | ok key => exact .ok ⟨rfl, rfl⟩
  | error error => exact .error error

theorem bind {γ δ : Type} {following : γ → δ → Prop} {left : Eval Left α} {right : Eval Right β}
    {leftNext : α → Eval Left γ} {rightNext : β → Eval Right δ}
    (first : same.Related relation left right)
    (next : ∀ leftResult rightResult, relation leftResult rightResult →
      same.Related following (leftNext leftResult) (rightNext rightResult)) :
    same.Related following (left >>= leftNext) (right >>= rightNext) := by
  intro leftMachine rightMachine machines
  have ends := first leftMachine rightMachine machines
  rw [Eval.bind_apply, Eval.bind_apply]
  generalize left leftMachine = leftEnd at ends ⊢
  generalize right rightMachine = rightEnd at ends ⊢
  rcases leftEnd with ⟨leftEnd, leftAfter⟩
  rcases rightEnd with ⟨rightEnd, rightAfter⟩
  obtain ⟨ends, after⟩ := ends
  cases ends with
  | ok related => exact next _ _ related _ _ after
  | returned alike => exact ⟨.returned alike, after⟩
  | failed error => exact ⟨.failed error, after⟩
  | exhausted => exact ⟨.exhausted, after⟩

theorem attempt {left : Eval Left α} {right : Eval Right β}
    (related : same.Related relation left right) :
    same.Related (Agree relation) left.attempt right.attempt := by
  intro leftMachine rightMachine machines
  have ends := related leftMachine rightMachine machines
  rw [Eval.attempt, Eval.attempt]
  generalize left leftMachine = leftEnd at ends ⊢
  generalize right rightMachine = rightEnd at ends ⊢
  rcases leftEnd with ⟨leftEnd, leftAfter⟩
  rcases rightEnd with ⟨rightEnd, rightAfter⟩
  obtain ⟨ends, after⟩ := ends
  cases ends with
  | ok related => exact ⟨.ok (.ok related), after⟩
  | returned alike => exact ⟨.returned alike, after⟩
  | failed error => exact ⟨.ok (.error error), after⟩
  | exhausted => exact ⟨.exhausted, after⟩

theorem catchReturn {left : Eval Left Value} {right : Eval Right Value}
    (related : same.Related same.values.alike left right) :
    same.Related same.values.alike left.catchReturn right.catchReturn := by
  intro leftMachine rightMachine machines
  have ends := related leftMachine rightMachine machines
  rw [Eval.catchReturn, Eval.catchReturn]
  generalize left leftMachine = leftEnd at ends ⊢
  generalize right rightMachine = rightEnd at ends ⊢
  rcases leftEnd with ⟨leftEnd, leftAfter⟩
  rcases rightEnd with ⟨rightEnd, rightAfter⟩
  obtain ⟨ends, after⟩ := ends
  cases ends with
  | ok alike => exact ⟨.ok alike, after⟩
  | returned alike => exact ⟨.ok alike, after⟩
  | failed error => exact ⟨.failed error, after⟩
  | exhausted => exact ⟨.exhausted, after⟩

theorem observe {left : Eval Left Value} {right : Eval Right Value}
    (related : same.Related same.values.alike left right) (kind : NodeKind) :
    same.Related same.values.alike (left.observe leftSink kind)
      (right.observe rightSink kind) := by
  intro leftMachine rightMachine machines
  obtain ⟨ends, stores, traces⟩ := related leftMachine rightMachine machines
  rw [Eval.observe_apply, Eval.observe_apply]
  exact ⟨ends, stores, same.observe ends traces⟩

variable {left right : Context}

theorem find (contexts : same.context left right) {name : String}
    (passes : same.test (.identifier name)) :
    same.Related same.values.alike (Eval.find left.scope name)
      (Eval.find right.scope name) := by
  intro leftMachine rightMachine machines
  have found := same.find passes contexts machines.1
  rw [Eval.find, Eval.find]
  generalize leftMachine.store.find? name left.scope = leftFound at found ⊢
  generalize rightMachine.store.find? name right.scope = rightFound at found ⊢
  cases found with
  | some alike => exact ⟨.ok alike, machines⟩
  | none => exact ⟨.failed _, machines⟩

theorem define (contexts : same.context left right) {name : String} (bound : same.binds name)
    {leftValue rightValue : Value} (alike : same.values.alike leftValue rightValue) :
    same.Related (fun _ _ => True) (Eval.define left.scope name leftValue)
      (Eval.define right.scope name rightValue) := by
  intro leftMachine rightMachine machines
  exact ⟨.ok trivial, same.define bound contexts machines.1 alike, machines.2⟩

/-- A call, from the opening of its scope on. -/
theorem call {leftClosure rightClosure : Closure}
    (closures : same.values.closure leftClosure rightClosure)
    {leftNext : ScopeId → Eval Left α} {rightNext : ScopeId → Eval Right β}
    (next : ∀ leftScope rightScope,
      same.context ⟨leftScope, leftClosure.site⟩ ⟨rightScope, rightClosure.site⟩ →
        same.Related relation (leftNext leftScope) (rightNext rightScope)) :
    same.Related relation (Eval.enter leftClosure.scope >>= leftNext)
      (Eval.enter rightClosure.scope >>= rightNext) := by
  intro leftMachine rightMachine machines
  obtain ⟨contexts, stores⟩ := same.enter closures machines.1
  exact next _ _ contexts _ _ ⟨stores, machines.2⟩

end Related

section Productions

variable {left right : Context}

theorem related_bindAll (contexts : same.context left right) {names : List String}
    (bound : ∀ name ∈ names, same.binds name) {leftValues rightValues : List Value}
    (alike : List.Forall₂ same.values.alike leftValues rightValues) :
    same.Related (fun _ _ => True) (bindAll left.scope (names.zip leftValues))
      (bindAll right.scope (names.zip rightValues)) := by
  induction names generalizing leftValues rightValues with
  | nil => exact .pure trivial
  | cons name rest ih =>
      rw [List.forall_mem_cons] at bound
      cases alike with
      | nil => exact .pure trivial
      | cons first others =>
          apply (Related.define contexts bound.1 first).bind
          intro _ _ _
          exact ih bound.2 others

variable {leftRecur : Node → Context → Eval Left Value}
  {rightRecur : Node → Context → Eval Right Value}

/-- The parts of the program are evaluated alike wherever they stand. -/
abbrev RelatedParts (same : Correspondence leftSink rightSink)
    (leftRecur : Node → Context → Eval Left Value)
    (rightRecur : Node → Context → Eval Right Value) : Prop :=
  ∀ node, node.all same.test same.stmtTest → ∀ ⦃left right⦄, same.context left right →
    same.Related same.values.alike (leftRecur node left) (rightRecur node right)

variable (parts : same.RelatedParts leftRecur rightRecur)
include parts

theorem related_evalAll (contexts : same.context left right) {expressions : List Expr}
    (passes : ∀ expression ∈ expressions, expression.all same.test same.stmtTest)
    (position : Nat) :
    same.Related (List.Forall₂ same.values.alike)
      (evalAll leftRecur left position expressions)
      (evalAll rightRecur right position expressions) := by
  induction expressions generalizing position with
  | nil => exact .pure .nil
  | cons expression rest ih =>
      rw [List.forall_mem_cons] at passes
      apply (parts (.expr expression) passes.1 (same.child contexts position)).bind
      intro leftValue rightValue alike
      apply (ih passes.2 (position + 1)).bind
      intro leftValues rightValues others
      exact .pure (.cons alike others)

/-- Statements may stand at different positions in the two runs. -/
theorem related_evalStatements {statements : List Stmt} {leftPosition rightPosition : Nat}
    (contexts : ∀ index < statements.length, same.context (left.child (leftPosition + index))
      (right.child (rightPosition + index)))
    (passes : ∀ statement ∈ statements, statement.all same.test same.stmtTest)
    {leftLast rightLast : Value} (last : same.values.alike leftLast rightLast) :
    same.Related same.values.alike
      (evalStatements leftRecur left leftPosition leftLast statements)
      (evalStatements rightRecur right rightPosition rightLast statements) := by
  induction statements generalizing leftPosition rightPosition leftLast rightLast with
  | nil => exact .pure last
  | cons statement rest ih =>
      rw [List.forall_mem_cons] at passes
      apply (parts (.stmt statement) passes.1 (contexts 0 (Nat.succ_pos _))).bind
      intro leftValue rightValue alike
      refine ih ?_ passes.2 alike
      intro index inside
      simpa [Nat.add_assoc, Nat.add_comm 1] using contexts (index + 1) (Nat.succ_lt_succ inside)

theorem related_evalBlock (contexts : same.context left right) {block : Block}
    (passes : ∀ statement ∈ block, statement.all same.test same.stmtTest) :
    same.Related same.values.alike (evalBlock leftRecur left block)
      (evalBlock rightRecur right block) :=
  related_evalStatements parts (fun _ _ => same.child contexts _) passes same.values.structural.null

/-- Entries stay alike while they are put. -/
theorem related_evalEntries (contexts : same.context left right) {pairs : List (Expr × Expr)}
    (passes : ∀ pair ∈ pairs,
      pair.1.all same.test same.stmtTest ∧ pair.2.all same.test same.stmtTest)
    (position : Nat) {leftEntries rightEntries : Bindings Key Value}
    (entries : same.values.alike (.hash leftEntries) (.hash rightEntries)) :
    same.Related
      (fun leftAll rightAll => same.values.alike (.hash leftAll) (.hash rightAll))
      (evalEntries leftRecur left position leftEntries pairs)
      (evalEntries rightRecur right position rightEntries pairs) := by
  induction pairs generalizing position leftEntries rightEntries with
  | nil => exact .pure entries
  | cons pair rest ih =>
      rw [List.forall_mem_cons] at passes
      apply (parts (.expr pair.1) passes.1.1 (same.child contexts position)).bind
      intro leftKey rightKey keyAlike
      apply (Related.asKey keyAlike).bind
      rintro key _ ⟨rfl, usable⟩
      apply (parts (.expr pair.2) passes.1.2 (same.child contexts (position + 1))).bind
      intro leftValue rightValue alike
      exact ih passes.2 (position + 2) (same.values.put keyAlike usable alike entries)

theorem related_applyClosure {leftClosure rightClosure : Closure}
    (closures : same.values.closure leftClosure rightClosure) {leftValues rightValues : List Value}
    (alike : List.Forall₂ same.values.alike leftValues rightValues) :
    same.Related same.values.alike (applyClosure leftRecur leftClosure leftValues)
      (applyClosure rightRecur rightClosure rightValues) := by
  obtain ⟨parameters, bound⟩ := same.parameters closures
  obtain ⟨body, passes⟩ := same.body closures
  rw [applyClosure, applyClosure, ← parameters, ← body, alike.length_eq]
  split
  · apply Related.call closures
    intro leftScope rightScope contexts
    apply (related_bindAll contexts bound alike).bind
    intro _ _ _
    exact (related_evalBlock parts contexts passes).catchReturn
  · exact .fail _

theorem related_applyCallee (callee : Expr) {leftValues rightValues : List Value}
    (alike : List.Forall₂ same.values.alike leftValues rightValues)
    {leftFunction rightFunction : Except EvalError Value}
    (agree : Agree same.values.alike leftFunction rightFunction) :
    same.Related same.values.alike (applyCallee leftRecur callee leftValues leftFunction)
      (applyCallee rightRecur callee rightValues rightFunction) := by
  have named (failure : EvalError) : same.Related same.values.alike
      (applyBuiltin callee leftValues failure) (applyBuiltin callee rightValues failure) := by
    rw [applyBuiltin, applyBuiltin]
    split
    · exact .ofOperation (same.values.structural.builtin _ alike)
    · exact .fail failure
  cases agree with
  | error error => exact named error
  | ok functionAlike =>
      cases same.values.structural.shape functionAlike with
      | function =>
          exact related_applyClosure parts (same.values.function.mp functionAlike) alike
      | _ => exact named _

/-- The meaning of an expression corresponds if that of its parts does. -/
theorem related_expr_step (contexts : same.context left right) {expression : Expr}
    (passes : expression.all same.test same.stmtTest) :
    same.Related same.values.alike (expression.step leftRecur left)
      (expression.step rightRecur right) := by
  cases expression with
  | identifier name => exact .find contexts passes
  | integer value => exact .pure (same.values.structural.integer value)
  | string content => exact .pure (same.string passes)
  | boolean value => exact .pure (same.values.boolean value)
  | array elements =>
      rw [Expr.all_array] at passes
      apply (related_evalAll parts contexts passes.2 0).bind
      intro leftValues rightValues alike
      exact .pure (same.values.structural.array alike)
  | hash pairs =>
      rw [Expr.all_hash] at passes
      apply (related_evalEntries parts contexts passes.2 0 same.values.noEntries).bind
      intro leftEntries rightEntries alike
      exact .pure alike
  | unary operator operand =>
      rw [Expr.all_unary] at passes
      apply (parts (.expr operand) passes.2 (same.child contexts 0)).bind
      intro leftValue rightValue alike
      exact .ofOperation (same.values.unary operator alike)
  | binary operator first second =>
      rw [Expr.all_binary] at passes
      apply (parts (.expr first) passes.2.1 (same.child contexts 0)).bind
      intro leftFirst rightFirst firstAlike
      apply (parts (.expr second) passes.2.2 (same.child contexts 1)).bind
      intro leftSecond rightSecond secondAlike
      exact .ofOperation (same.values.binary operator firstAlike secondAlike)
  | conditional condition consequence alternative =>
      rw [Expr.all_conditional] at passes
      apply (parts (.expr condition) passes.2.1 (same.child contexts 0)).bind
      intro leftValue rightValue alike
      rw [(same.values.structural.shape alike).isTruthy_eq]
      split
      · exact related_evalBlock parts (same.child contexts 1) passes.2.2.1
      · cases alternative with
        | none => exact .pure same.values.structural.null
        | some block =>
            exact related_evalBlock parts (same.child contexts 2) (passes.2.2.2 block rfl)
  | function parameters body => 
      exact .pure (same.values.function.mpr (same.function passes contexts))
  | call callee arguments =>
      rw [Expr.all_call] at passes
      apply (related_evalAll parts contexts passes.2.2 1).bind
      intro leftValues rightValues alike
      apply (parts (.expr callee) passes.2.1 (same.child contexts 0)).attempt.bind
      intro leftFunction rightFunction agree
      exact related_applyCallee parts callee alike agree
  | index collection position =>
      rw [Expr.all_index] at passes
      apply (parts (.expr collection) passes.2.1 (same.child contexts 0)).bind
      intro leftSubject rightSubject subjectAlike
      apply (parts (.expr position) passes.2.2 (same.child contexts 1)).bind
      intro leftPlace rightPlace placeAlike
      exact .ofOperation (same.values.structural.elementAt subjectAlike placeAlike)

/-- So does the meaning of a statement. -/
theorem related_stmt_step (contexts : same.context left right) {statement : Stmt}
    (passes : statement.all same.test same.stmtTest) :
    same.Related same.values.alike (statement.step leftRecur left)
      (statement.step rightRecur right) := by
  cases statement with
  | binding name value =>
      rw [Stmt.all_binding] at passes
      apply (parts (.expr value) passes.2 (same.child contexts 0)).bind
      intro leftValue rightValue alike
      apply (Related.define contexts (same.binding passes.1) alike).bind
      intro _ _ _
      exact .pure alike
  | leaving value =>
      rw [Stmt.all_leaving] at passes
      apply (parts (.expr value) passes.2 (same.child contexts 0)).bind
      intro leftValue rightValue alike
      exact .leave alike
  | expression value =>
      rw [Stmt.all_expression] at passes
      exact parts (.expr value) passes.2 (same.child contexts 0)

end Productions

/-- Evaluations of a node correspond, at every bound on the nesting. -/
theorem related_evalNode (same : Correspondence leftSink rightSink) (depth : Nat) :
    same.RelatedParts (evalNode leftSink depth) (evalNode rightSink depth) := by
  induction depth with
  | zero =>
      intro node passes left right contexts
      exact .exhaust
  | succ depth ih =>
      intro node passes left right contexts
      apply Related.observe
      cases node with
      | expr expression => exact related_expr_step ih contexts passes
      | stmt statement => exact related_stmt_step ih contexts passes

end Correspondence

end Ember
