import Ember.Proofs.Evaluation.Passage
import Ember.Proofs.Evaluation.Signals
import Ember.Proofs.Scope.Chain

/-!
# Programs without functions

Evaluation is recursion over the syntax tree but for calls of functions, whose bodies come
from values. Where there are no functions there is only the tree: a program that contains no
function literal, in a scope from which no function can be found, comes to an end. It opens no
scope, nothing that it comes to has a function in it, and nodes are pending in one another no
deeper than the tree is high.

That no function can be found has to be kept on the way: by bindings, by what is taken out of
arrays and hashes, and by the built-in functions.
-/

namespace Ember

/-- Whether an expression is anything but a function literal. -/
def Expr.isFunctionless : Expr → Bool
  | .function _ _ => false
  | _ => true

/-- Some statements that contain no function literal, at any depth. -/
def Block.Functionless (block : Block) : Prop :=
  ∀ statement ∈ block, statement.all Expr.isFunctionless fun _ => true

instance (block : Block) : Decidable (Block.Functionless block) :=
  inferInstanceAs (Decidable (∀ _ ∈ _, _))

/-- A value that contains no function, at any depth. -/
def Value.Functionless (value : Value) : Prop :=
  value.Each fun _ => False

/-- No function can be found from a scope, at any depth of a value. -/
def Store.Functionless (store : Store) (scope : ScopeId) : Prop :=
  ∀ name value, store.find? name scope = some value → value.Functionless

/-- The result of a node that contains no function. -/
def NodeResult.Functionless : NodeResult → Prop
  | .value result | .returned result => result.Functionless
  | .failed _ => True

/-- Binding a name to such a value keeps functions away. -/
theorem Store.Functionless.define {store : Store} {scope : ScopeId}
    (functionless : store.Functionless scope) (name : String) {value : Value}
    (good : value.Functionless) : (store.define scope name value).Functionless scope := by
  intro asked result found
  by_cases same : asked = name
  · subst same
    have opened := store.scope?_define_self scope asked value
    cases current : store.scope? scope with
    | none =>
        rw [current, Option.map_none] at opened
        rw [find?, opened] at found
        cases found
    | some before =>
        rw [current, Option.map_some] at opened
        rw [find?_of_bound opened (Bindings.value?_put_self asked value before.bindings)] at found
        cases found
        exact good
  · rw [find?_define_of_not_firstHolder value fun bound => same bound.1] at found
    exact functionless asked result found

namespace Functionless

/-- How a call comes to a value: what is called is a built-in function, and the value is what
it gives for the arguments as they were evaluated since the call began. -/
inductive Called (past : List Moment) (place : Context) (arguments : List Expr) :
    Expr → Value → Prop where
  | builtin {name : String} {builtin : Builtin} {values : List Value} {value : Value}
      {before during rest : List Moment} :
      Builtin.ofName? name = some builtin → builtin.apply values = .ok value →
        past = before ++ .begun (.expr (.call (.identifier name) arguments)) place ::
            (during ++ rest) →
          pending past =
              ⟨before.length, .expr (.call (.identifier name) arguments)⟩ :: pending before →
            Evaluated place 1 arguments values during →
              Called past place arguments (.identifier name) value

/-- What is known of each moment, while there are so many scopes: no more nodes are pending
than the limit allows, none of them in the body of a function, and no function is come to. -/
def Law (limit size : Nat) (past : List Moment) : Moment → Prop
  | .begun node _ => (pending past).length < limit ∧ level? (pending past) node = none
  | .ended node place result store => result.Functionless ∧ store.scopes.size = size ∧
      ∀ callee arguments value, node = .expr (.call callee arguments) → result = .value value →
        Called past place arguments callee value

/-- What is known of a computation. -/
structure Passes (scope : ScopeId) (limit : Nat) (store : Store) (history added : List Moment)
    (after : Store) : Prop where
  functionless : after.Functionless scope
  size : after.scopes.size = store.scopes.size
  balanced : pending (history ++ added) = pending history
  law : Throughout (Law limit store.scopes.size) history added

/-- Computations in a scope from which no function can be found, while some nodes are
pending. -/
def passage (scope : ScopeId) (limit : Nat) (stack : List Pending) : Passage where
  begins store history := store.Functionless scope ∧ pending history = stack
  passes := Passes scope limit
  mayExhaust := False
  nothing begins := ⟨begins.1, rfl, by rw [List.append_nil], trivial⟩
  onward begins passes := ⟨passes.functionless, passes.balanced.trans begins.2⟩
  andThen := by
    intro store middle after history first second before behind
    refine ⟨behind.functionless, behind.size.trans before.size, ?_, ?_⟩
    · rw [← List.append_assoc, behind.balanced, before.balanced]
    · exact before.law.append (before.size ▸ behind.law)

/-- No function is found, and none is bound. -/
theorem judgement (scope : ScopeId) (limit : Nat) (stack : List Pending) :
    Eval.Judgement scope (fun _ => False) ((passage scope limit stack).Carries fun _ => False) := by
  apply Passage.judgement
  · intro store history name value begins found
    exact begins.1 name value found
  · intro store history name value begins good
    exact ⟨begins.1.define name good, Store.size_define _ _ _ _, by rw [List.append_nil], trivial⟩

theorem applyBuiltin_eq_ok {callee : Expr} {values : List Value} {failure : EvalError}
    {value : Value} {machine after : Machine (List Moment)}
    (applied : applyBuiltin callee values failure machine = (.ok value, after)) :
    ∃ name builtin, callee = .identifier name ∧ Builtin.ofName? name = some builtin ∧
      builtin.apply values = .ok value ∧ after = machine := by
  unfold applyBuiltin at applied
  cases named : builtin? callee with
  | none =>
      rw [named] at applied
      cases applied
  | some builtin =>
      rw [named] at applied
      cases result : builtin.apply values with
      | error error =>
          simp only [result] at applied
          cases applied
      | ok result =>
          simp only [result] at applied
          cases applied
          cases callee with
          | identifier name => exact ⟨name, builtin, rfl, named, result, rfl⟩
          | _ => cases named

variable {scope : ScopeId} {limit depth : Nat} {context : Context}

/-- A call comes to a value by a built-in function, since its callee comes to no function. -/
theorem called {callee : Expr} {arguments : List Expr} {stack : List Pending} {store after : Store}
    {before added : List Moment} {value : Value}
    (parts : ∀ path part, Node.Part (.expr (.call callee arguments)) path part →
      (passage scope limit stack).Carries (fun _ => False) Value (Value.Each fun _ => False)
        (followNode depth part (context.under path)))
    (begins : (passage scope limit stack).begins store
      (before ++ [.begun (.expr (.call callee arguments)) context]))
    (run : (Expr.call callee arguments).step (followNode depth) context
        ⟨store, before ++ [.begun (.expr (.call callee arguments)) context]⟩ =
      (.ok value, ⟨after, before ++ [.begun (.expr (.call callee arguments)) context] ++ added⟩))
    (balanced : pending (before ++ [.begun (.expr (.call callee arguments)) context] ++ added) =
      pending (before ++ [.begun (.expr (.call callee arguments)) context])) :
    Called (before ++ [.begun (.expr (.call callee arguments)) context] ++ added) context arguments
      callee value := by
  have given : (passage scope limit stack).Carries (fun _ => False) (List Value)
      (fun values => ∀ value ∈ values, value.Each fun _ => False)
      (evalAll (followNode depth) context 1 arguments) := by
    refine (judgement scope limit stack).evalAll fun index argument found => ?_
    apply parts [1 + index] _ (.child _)
    rw [Nat.add_comm, Tree.children, Tree.ofExprs, List.getElem?_map, List.getElem?_cons_succ,
      found]
    rfl
  rw [pending_begun] at balanced
  rw [Expr.step, Eval.bind_apply] at run
  rcases given store _ begins with ⟨impossible, -⟩ | ⟨first, middle, during, given, -, passes⟩
  · exact impossible.elim
  rw [given] at run
  cases first with
  | error signal => cases run
  | ok values =>
      obtain ⟨seen, split, evaluated⟩ := evaluated_evalAll given
      obtain rfl := List.append_cancel_left split
      rcases parts [0] (.expr callee) (.child rfl) middle _
        ((passage scope limit stack).onward begins passes) with
        ⟨impossible, -⟩ | ⟨second, last, rest, found, ends, -⟩
      · exact impossible.elim
      change followNode depth (.expr callee) (context.child 0) ⟨middle, _⟩ = _ at found
      dsimp only at run
      rw [Eval.bind_apply, Eval.attempt, found] at run
      -- Whatever else the callee comes to, a built-in function of its name is called.
      have answer {failure : EvalError} {machine : Machine (List Moment)}
          (applied : applyBuiltin callee values failure
            ⟨last, before ++ [.begun (.expr (.call callee arguments)) context] ++ during ++ rest⟩ =
              (.ok value, machine))
          (ended : machine.trace =
            before ++ [.begun (.expr (.call callee arguments)) context] ++ added) :
          Called (before ++ [.begun (.expr (.call callee arguments)) context] ++ added) context
            arguments callee value := by
        obtain ⟨name, builtin, rfl, known, gives, rfl⟩ := applyBuiltin_eq_ok applied
        have since : before ++ [.begun (.expr (.call (.identifier name) arguments)) context] ++
            added = before ++ .begun (.expr (.call (.identifier name) arguments)) context ::
              (during ++ rest) := by
          rw [← ended]
          simp
        exact .builtin known gives since balanced evaluated
      rcases second with (result | error | _) | function
      · cases run
      · exact answer run rfl
      · exact ends.elim
      · cases function with
        | function closure => exact (Value.each_function.mp ends).elim
        | _ => exact answer run rfl

/-- The result of a node that ends as it should contains no function. -/
theorem functionless_report {outcome : Except Signal Value} {result : NodeResult}
    (ends : Eval.Ends (fun _ => False) (Value.Each fun _ => False) outcome)
    (reported : Eval.report? outcome = some result) : result.Functionless := by
  rcases outcome with (value | error | _) | value <;> cases reported <;> exact ends

/-- The evaluation of a node that contains no function literal, while some nodes are pending. -/
theorem carries_followNode {node : Node} {stack : List Pending}
    (passes : (Tree.node node).Passes Expr.isFunctionless fun _ => true)
    (enough : (Tree.node node).height ≤ depth)
    (room : stack.length + (Tree.node node).height ≤ limit)
    (outside : level? stack node = none) (here : context.scope = scope) :
    (passage scope limit stack).Carries (fun _ => False) Value (Value.Each fun _ => False)
      (followNode depth node context) := by
  induction depth generalizing node stack context with
  | zero =>
      have positive := Tree.height_pos node
      omega
  | succ depth ih =>
      -- What is inside the node is evaluated while the node is pending, too.
      let inside (history : List Moment) : List Pending := ⟨history.length, node⟩ :: stack
      have parts (history : List Moment) (path : List Nat) (part : Node)
          (within : node.Part path part) :
          (passage scope limit (inside history)).Carries (fun _ => False) Value
            (Value.Each fun _ => False) (followNode depth part (context.under path)) := by
        have lower := within.height_lt
        refine ih (passes.at? within.at?) (by omega) ?_ ?_ here
        · rw [List.length_cons]
          omega
        · rw [level?_part within, outside]
      have step (history : List Moment) :
          (passage scope limit (inside history)).Carries (fun _ => False) Value
            (Value.Each fun _ => False) (node.step (followNode depth) context) := by
        refine (judgement scope limit (inside history)).node_step here ?_ ?_ (parts history)
        · rintro parameters body rfl
          exact absurd (Expr.all_function.mp passes).1 Bool.false_ne_true
        · intro callee arguments same closure values impossible
          exact impossible.elim
      have begun (store : Store) (history : List Moment)
          (begins : (passage scope limit stack).begins store history) :
          (passage scope limit (inside history)).begins store
            (history ++ [.begun node context]) := by
        refine ⟨begins.1, ?_⟩
        rw [pending_begun, begins.2]
      refine Passage.Carries.noted step (fun _ => id) begun ?_
      intro store history outcome after added result begins run ends reported passes
      have positive := Tree.height_pos node
      refine ⟨passes.functionless, passes.size, pending_noted passes.balanced result after, ?_⟩
      refine .noted ⟨?_, ?_⟩ passes.law ⟨functionless_report ends reported, passes.size, ?_⟩
      · rw [begins.2]
        omega
      · rw [begins.2, outside]
      · rintro callee arguments value rfl rfl
        obtain rfl : outcome = .ok value := by
          rcases outcome with (_ | _ | _) | _ <;> cases reported
          rfl
        exact called (parts history) (begun store history begins) run passes.balanced

/-- While the law holds no more nodes are pending than the limit allows, none of them in the
body of a function. -/
theorem pending_of_law {size : Nat} {history added earlier later : List Moment}
    (law : Throughout (Law limit size) history added) (split : added = earlier ++ later)
    (few : (pending history).length ≤ limit) (outside : activation? (pending history) = none) :
    (pending (history ++ earlier)).length ≤ limit ∧
      activation? (pending (history ++ earlier)) = none := by
  induction earlier generalizing history added with
  | nil =>
      rw [List.append_nil]
      exact ⟨few, outside⟩
  | cons moment rest ih =>
      subst split
      have step : (pending (history ++ [moment])).length ≤ limit ∧
          activation? (pending (history ++ [moment])) = none := by
        rw [pending_concat]
        cases moment with
        | begun node place =>
            refine ⟨law.1.1, ?_⟩
            rw [Moment.pend, activation?_cons]
            exact law.1.2
        | ended node place result store =>
            refine ⟨?_, activation?_tail outside⟩
            rw [Moment.pend, List.length_tail]
            omega
      have further := ih law.2 rfl step.1 step.2
      rwa [List.append_assoc, List.singleton_append] at further

end Functionless

/-- A program that contains no function literal, in a scope from which no function can be
found, always terminates: with a value or with an error of the language, as soon as the bound
on the nesting is at least the height of the syntax tree. It opens no scope, and nothing that
it comes to contains a function. At no time are more nodes pending in one another than the
tree is high, and no node is evaluated in the body of a function: a call that comes to a value
comes to what a built-in function gives for its arguments. -/
theorem evalProgram_functionless {State : Type} (sink : Sink State) {depth : Nat}
    {context : Context} {program : Program} {store : Store}
    (literals : Block.Functionless program) (functions : store.Functionless context.scope)
    (enough : Stmt.heightEach program ≤ depth) (trace : State) :
    let run := evalProgram sink depth context program ⟨store, trace⟩
    let history := (followBlock depth context program store).2.trace
    ((∃ value, run.1 = .value value ∧ value.Functionless) ∨ ∃ error, run.1 = .failed error) ∧
      run.2.store.scopes.size = store.scopes.size ∧ run.2.store.Functionless context.scope ∧
      run.2.trace = sink.hearAll (events history) trace ∧
      (∀ earlier later, history = earlier ++ later →
        (pending earlier).length ≤ Stmt.heightEach program ∧
          activation? (pending earlier) = none) ∧
      ∀ earlier node place result after later,
        history = earlier ++ .ended node place result after :: later →
          result.Functionless ∧ after.scopes.size = store.scopes.size ∧
            ∀ callee arguments value, node = .expr (.call callee arguments) →
              result = .value value → Functionless.Called earlier place arguments callee value := by
  intro run history
  let limit := Stmt.heightEach program
  have carries : (Functionless.passage context.scope limit []).Carries (fun _ => False) Value
      (Value.Each fun _ => False) (evalBlock (followNode depth) context program) := by
    refine (Functionless.judgement context.scope limit []).evalBlock fun index statement found => ?_
    have member := List.mem_of_getElem? found
    have low : statement.height ≤ limit :=
      Stmt.heightEach_le_iff.mp (Nat.le_refl _) statement member
    refine Functionless.carries_followNode (literals statement member) (Nat.le_trans low enough) ?_
      rfl rfl
    rw [List.length_nil, Nat.zero_add]
    exact low
  rcases carries store [] ⟨functions, rfl⟩ with
    ⟨impossible, -⟩ | ⟨outcome, after, added, followed, ends, passes⟩
  · exact impossible.elim
  have ran : run = (.ofResult outcome, ⟨after, sink.hearAll (events history) trace⟩) := by
    simp only [run, evalProgram, evalBlock_eq_followBlock, followBlock, followed, history]
  have told : history = added := by
    simp only [history, followBlock, followed, List.nil_append]
  rw [ran]
  refine ⟨?_, passes.size, passes.functionless, rfl, ?_, ?_⟩
  · rcases outcome with (value | error | _) | value
    · exact .inl ⟨value, rfl, ends⟩
    · exact .inr ⟨error, rfl⟩
    · exact ends.elim
    · exact .inl ⟨value, rfl, ends⟩
  · intro earlier later split
    rw [told] at split
    exact Functionless.pending_of_law passes.law split (Nat.zero_le _) rfl
  · intro earlier node place result middle later split
    rw [told] at split
    exact passes.law.holds split

/-- `let pair = [limit, "two"]; first(pair);` in a scope where `limit` is `true`: the bound on
the nesting is the height of the tree, and the call of `first` is the only one. -/
theorem evalProgram_functionless_first :
    let store : Store := ⟨#[⟨[("limit", .boolean true)], none⟩]⟩
    let program : Program :=
      [.binding "pair" (.array [.identifier "limit", .string "two"]),
        .expression (.call (.identifier "first") [.identifier "pair"])]
    let context : Context := ⟨0, .root 0⟩
    let run := evalProgram .recorder 3 context program ⟨store, #[]⟩
    Stmt.heightEach program = 3 ∧ run.1 = .value (.boolean true) ∧
      run.2.store.scopes.size = 1 ∧ run.2.store.Functionless 0 := by
  intro store program context run
  have functions : store.Functionless context.scope := by
    intro name value found
    rw [Store.find?] at found
    by_cases same : name = "limit"
    · subst same
      cases found
      exact Value.each_boolean true
    · simp [store, context, Store.scope?, Bindings.value?, Ne.symm same] at found
  have ended := evalProgram_functionless .recorder (by decide : Block.Functionless program)
    functions (by decide : Stmt.heightEach program ≤ 3) #[]
  exact ⟨by decide, by decide +kernel, ended.2.1, ended.2.2.1⟩

end Ember
