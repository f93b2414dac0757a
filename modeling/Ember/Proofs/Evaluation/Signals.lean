import Ember.Proofs.Evaluation.History

/-!
# Signals

An error or a return is passed on from a node to the one around it, unchanged, until the
program ends or a call consumes it. A call takes the value of a return as its own, and it
goes on after one error: that the name of a built-in function has no value, where that
name is what is called.

In a history this is a law about neighbours. Behind the end of a node that came to a
signal stands the end of another node, with the same store: no node is begun and nothing
is bound in between.
-/

namespace Ember

/-- What a node comes to if an operation on values is all that is left of it. -/
def NodeResult.ofOperation : Except EvalError Value → NodeResult
  | .ok result => .value result
  | .error error => .failed error

/-- What happens while the arguments of a call are evaluated: each ends with its value, at
its place from a position on, before the next one begins. -/
inductive Evaluated (context : Context) : Nat → List Expr → List Value → List Moment → Prop where
  | none {position : Nat} : Evaluated context position [] [] []
  | more {position : Nat} {argument : Expr} {arguments : List Expr} {value : Value}
      {values : List Value} {before history : List Moment} {store : Store} :
      Evaluated context (position + 1) arguments values history →
        Evaluated context position (argument :: arguments) (value :: values)
          (before ++ .ended (.expr argument) (context.child position) (.value value) store ::
            history)

/-- What may stand behind a moment, given all that stands before it. -/
inductive HandsOn (earlier : List Moment) : Moment → Moment → Prop where
  /-- There is nothing to pass on. -/
  | begun {node : Node} {context : Context} {next : Moment} :
      HandsOn earlier (.begun node context) next
  | value {node : Node} {context : Context} {result : Value} {store : Store} {next : Moment} :
      HandsOn earlier (.ended node context (.value result) store) next
  | failed {node outer : Node} {context place : Context} {error : EvalError} {store : Store} :
      HandsOn earlier (.ended node context (.failed error) store)
        (.ended outer place (.failed error) store)
  | returned {node outer : Node} {context place : Context} {result : Value} {store : Store} :
      HandsOn earlier (.ended node context (.returned result) store)
        (.ended outer place (.returned result) store)
  /-- A call consumes a return. -/
  | consumed {node : Node} {context place : Context} {result : Value} {store : Store}
      {callee : Expr} {arguments : List Expr} :
      HandsOn earlier (.ended node context (.returned result) store)
        (.ended (.expr (.call callee arguments)) place (.value result) store)
  /-- A call of a built-in function goes on after its name was found to have no value. By
  then its arguments are evaluated. -/
  | builtin {place : Context} {name : String} {builtin : Builtin} {arguments : List Expr}
      {values : List Value} {store : Store} {before during : List Moment} :
      earlier = before ++ .begun (.expr (.call (.identifier name) arguments)) place ::
          (during ++ [.begun (.expr (.identifier name)) (place.child 0)]) →
        Evaluated place 1 arguments values during → Builtin.ofName? name = some builtin →
          HandsOn earlier
            (.ended (.expr (.identifier name)) (place.child 0) (.failed (.unknownIdentifier name))
              store)
            (.ended (.expr (.call (.identifier name) arguments)) place
              (.ofOperation (builtin.apply values)) store)

/-- What a moment that is the last one says about the signal that a computation ends
with, if it ends with one, and about the store. -/
inductive Concludes : Moment → Option Signal → Store → Prop where
  | begun {node : Node} {context : Context} {cause : Option Signal} {store : Store} :
      Concludes (.begun node context) cause store
  | value {node : Node} {context : Context} {result : Value} {before : Store}
      {cause : Option Signal} {store : Store} :
      Concludes (.ended node context (.value result) before) cause store
  | failed {node : Node} {context : Context} {error : EvalError} {store : Store} :
      Concludes (.ended node context (.failed error) store) (some (.failed error)) store
  | returned {node : Node} {context : Context} {result : Value} {store : Store} :
      Concludes (.ended node context (.returned result) store) (some (.returned result)) store

/-- Every moment of a history is followed by one that may follow it. -/
def Orderly (history : List Moment) : Prop :=
  ∀ earlier moment next later, history = earlier ++ moment :: next :: later →
    HandsOn earlier moment next

theorem Orderly.concat {history : List Moment} {next : Moment} (orderly : Orderly history)
    (follows : ∀ earlier last, history = earlier ++ [last] → HandsOn earlier last next) :
    Orderly (history ++ [next]) := by
  intro earlier moment following later split
  rcases List.eq_nil_or_concat later with rfl | ⟨more, last, rfl⟩
  · have parts : history ++ [next] = (earlier ++ [moment]) ++ [following] := by simpa using split
    obtain ⟨same, only⟩ := List.append_inj' parts rfl
    cases only
    exact follows earlier moment same
  · have parts : history ++ [next] = (earlier ++ moment :: following :: more) ++ [last] := by
      simpa using split
    exact orderly earlier moment following more (List.append_inj' parts rfl).1

/-- A history that is orderly up to its last moment, which says how the run stands. -/
structure Settled (history : List Moment) (cause : Option Signal) (store : Store) : Prop where
  orderly : Orderly history
  concludes : ∀ earlier last, history = earlier ++ [last] → Concludes last cause store

namespace Settled

variable {history : List Moment} {cause : Option Signal} {store : Store}

theorem nil (cause : Option Signal) (store : Store) : Settled [] cause store := by
  constructor
  · intro earlier moment next later split
    simp at split
  · intro earlier last split
    simp at split

/-- Where no signal is on its way any may arise, and the store may change. -/
theorem quiet (settled : Settled history none store) (other : Option Signal) (after : Store) :
    Settled history other after := by
  refine ⟨settled.orderly, fun earlier last split => ?_⟩
  have concludes := settled.concludes earlier last split
  cases concludes with
  | begun => exact .begun
  | value => exact .value

theorem concat {next : Moment} (orderly : Orderly history)
    (follows : ∀ earlier last, history = earlier ++ [last] → HandsOn earlier last next)
    (concludes : Concludes next cause store) : Settled (history ++ [next]) cause store := by
  refine ⟨orderly.concat follows, fun earlier last split => ?_⟩
  obtain ⟨-, only⟩ := List.append_inj' split rfl
  cases only
  exact concludes

/-- A node may begin where no signal is on its way. -/
theorem begin (settled : Settled history none store) (node : Node) (context : Context) :
    Settled (history ++ [.begun node context]) none store := by
  refine concat settled.orderly (fun earlier last split => ?_) .begun
  have concludes := settled.concludes earlier last split
  cases concludes with
  | begun => exact .begun
  | value => exact .value

end Settled

namespace Eval

/-- The signal that a computation ends with, if it ends with one. -/
def signal? {α : Type} : Except Signal α → Option Signal
  | .ok _ => none
  | .error cause => some cause

/-- A computation that begins while no signal is on its way, and whose history shows the
signal that it ends with. The other computation has no part in it. -/
def Settles (α : Type) (computation _other : Eval (List Moment) α) : Prop :=
  ∀ store history, Settled history none store →
    Settled (computation ⟨store, history⟩).2.trace (signal? (computation ⟨store, history⟩).1)
      (computation ⟨store, history⟩).2.store

theorem respects_settles : Respects Settles where
  pure _ _ _ settled := settled
  signal _ _ _ settled := settled.quiet _ _
  bind := by
    intro α β computation _ next _ settles nextSettles store history settled
    have first := settles store history settled
    rw [bind_apply]
    generalize computation ⟨store, history⟩ = run at first ⊢
    rcases run with ⟨_ | result, after, more⟩
    · exact first
    · exact nextSettles result after more first
  find scope name store history settled := by
    rw [Eval.find]
    cases store.find? name scope with
    | none => exact settled.quiet _ _
    | some value => exact settled
  define _ _ _ _ _ settled := settled.quiet _ _

end Eval

/-- How a computation may leave the history for the end of the node that it belongs
to. -/
def Delivered (node : Node) (context : Context) (outcome : Except Signal Value)
    (history : List Moment) (store : Store) : Prop :=
  match Eval.report? outcome with
  | none => Settled history (Eval.signal? outcome) store
  | some result => Orderly history ∧ ∀ earlier last, history = earlier ++ [last] →
      HandsOn earlier last (.ended node context result store)

/-- A signal on its way can be passed on by every node. -/
theorem Settled.delivered {history : List Moment} {store : Store} (outcome : Except Signal Value)
    (settled : Settled history (Eval.signal? outcome) store) (node : Node) (context : Context) :
    Delivered node context outcome history store := by
  rw [Delivered]
  cases reported : Eval.report? outcome with
  | none => exact settled
  | some result =>
      refine ⟨settled.orderly, fun earlier last split => ?_⟩
      have concludes := settled.concludes earlier last split
      rcases outcome with (_ | _ | _) | _ <;> cases reported <;> cases concludes <;> constructor

/-- A return on its way can be consumed by a call. -/
theorem Settled.delivered_caught {history : List Moment} {result : Value} {store : Store}
    (settled : Settled history (some (.returned result)) store) (callee : Expr)
    (arguments : List Expr) (context : Context) :
    Delivered (.expr (.call callee arguments)) context (.ok result) history store := by
  refine ⟨settled.orderly, fun earlier last split => ?_⟩
  have concludes := settled.concludes earlier last split
  cases concludes with
  | begun => exact .begun
  | value => exact .value
  | returned => exact .consumed

theorem delivered_ofOperation {operation : Except EvalError Value} {node : Node}
    {context : Context} {history : List Moment} {store : Store} (orderly : Orderly history)
    (follows : ∀ earlier last, history = earlier ++ [last] →
      HandsOn earlier last (.ended node context (.ofOperation operation) store)) :
    Delivered node context (Eval.ofOperation operation ⟨store, history⟩).1
      (Eval.ofOperation operation ⟨store, history⟩).2.trace
      (Eval.ofOperation operation ⟨store, history⟩).2.store := by
  cases operation with
  | ok result => exact ⟨orderly, follows⟩
  | error error => exact ⟨orderly, follows⟩

namespace Eval

/-- A computation that leaves the history for the end of its node. -/
def Delivers (node : Node) (context : Context) (computation : Eval (List Moment) Value) : Prop :=
  ∀ store history, Settled history none store →
    Delivered node context (computation ⟨store, history⟩).1 (computation ⟨store, history⟩).2.trace
      (computation ⟨store, history⟩).2.store

theorem Settles.delivers {computation other : Eval (List Moment) Value}
    (settles : Settles Value computation other) (node : Node) (context : Context) :
    Delivers node context computation := by
  intro store history settled
  exact (settles store history settled).delivered _ node context

/-- The end of a node shows the signal that it came to, if what comes behind its beginning
leaves the history for it. -/
theorem settles_noted {node : Node} {context : Context} {computation : Eval (List Moment) Value}
    (delivers : ∀ store history, Settled (history ++ [.begun node context]) none store →
      Delivered node context (computation ⟨store, history ++ [.begun node context]⟩).1
        (computation ⟨store, history ++ [.begun node context]⟩).2.trace
        (computation ⟨store, history ++ [.begun node context]⟩).2.store) :
    Settles Value (computation.noted node context) (computation.noted node context) := by
  intro store history settled
  have left := delivers store history (settled.begin node context)
  rcases inside : computation ⟨store, history ++ [.begun node context]⟩ with ⟨outcome, after, more⟩
  rw [noted_eq inside]
  rw [inside, Delivered] at left
  dsimp only at left ⊢
  cases reported : report? outcome with
  | none =>
      rw [reported] at left
      exact left
  | some result =>
      rw [reported] at left
      refine .concat left.1 left.2 ?_
      rcases outcome with (_ | _ | _) | _ <;> cases reported <;> constructor

/-- A computation that only adds to the history. The other computation has no part in
it. -/
def Grows (α : Type) (computation _other : Eval (List Moment) α) : Prop :=
  ∀ store history, history <+: (computation ⟨store, history⟩).2.trace

theorem congruence_grows : Congruence Grows where
  pure _ _ history := List.prefix_rfl
  signal _ _ history := List.prefix_rfl
  bind := by
    intro α β computation _ next _ grows nextGrows store history
    have first := grows store history
    rw [bind_apply]
    generalize computation ⟨store, history⟩ = run at first ⊢
    rcases run with ⟨_ | result, after, more⟩
    · exact first
    · exact first.trans (nextGrows result after more)
  find scope name store history := by
    rw [Eval.find]
    cases store.find? name scope <;> exact List.prefix_rfl
  define _ _ _ _ history := List.prefix_rfl
  attempt := by
    intro α computation _ grows store history
    have first := grows store history
    rw [attempt]
    generalize computation ⟨store, history⟩ = run at first ⊢
    rcases run with ⟨(_ | _ | _) | _, after⟩ <;> exact first
  catchReturn := by
    intro computation _ grows store history
    have first := grows store history
    rw [catchReturn]
    generalize computation ⟨store, history⟩ = run at first ⊢
    rcases run with ⟨(_ | _ | _) | _, after⟩ <;> exact first
  enter _ _ history := List.prefix_rfl

theorem grows_followNode (depth : Nat) (node : Node) (context : Context) :
    Grows Value (followNode depth node context) (followNode depth node context) := by
  induction depth generalizing node context with
  | zero => exact congruence_grows.signal _
  | succ depth ih =>
      intro store history
      have grown := congruence_grows.node_step ih node context store
        (history ++ [.begun node context])
      rcases inside : node.step (followNode depth) context
        ⟨store, history ++ [.begun node context]⟩ with ⟨outcome, after, more⟩
      rw [followNode, noted_eq inside]
      rw [inside] at grown
      have begun := (List.prefix_append history [.begun node context]).trans grown
      cases report? outcome with
      | none => exact begun
      | some result => exact begun.trans (List.prefix_append _ _)

end Eval

/-- A node that comes to a value ends with it. -/
theorem followNode_eq_ok {depth : Nat} {node : Node} {context : Context} {store after : Store}
    {history more : List Moment} {result : Value}
    (run : followNode depth node context ⟨store, history⟩ = (.ok result, ⟨after, more⟩)) :
    ∃ middle, more = history ++ (middle ++ [.ended node context (.value result) after]) := by
  cases depth with
  | zero => cases run
  | succ depth =>
      rcases inside : node.step (followNode depth) context
        ⟨store, history ++ [.begun node context]⟩ with ⟨outcome, final, inner⟩
      have grown := Eval.congruence_grows.node_step (Eval.grows_followNode depth) node context store
        (history ++ [.begun node context])
      rw [inside] at grown
      obtain ⟨added, rfl⟩ := grown
      rw [followNode, Eval.noted_eq inside] at run
      cases run
      exact ⟨.begun node context :: added, by simp [Eval.report?]⟩

/-- Looking up a name fails only because it has no value, and nothing happens besides. -/
theorem followNode_identifier_eq_failed {depth : Nat} {name : String} {context : Context}
    {store after : Store} {history more : List Moment} {error : EvalError}
    (run : followNode depth (.expr (.identifier name)) context ⟨store, history⟩ =
      (.error (.failed error), ⟨after, more⟩)) :
    error = .unknownIdentifier name ∧ after = store ∧
      more = history ++ [.begun (.expr (.identifier name)) context] ++
        [.ended (.expr (.identifier name)) context (.failed (.unknownIdentifier name)) store] := by
  cases depth with
  | zero => cases run
  | succ depth =>
      rcases inside : Node.step (followNode depth) context (.expr (.identifier name))
        ⟨store, history ++ [.begun (.expr (.identifier name)) context]⟩ with
        ⟨outcome, final, inner⟩
      rw [followNode, Eval.noted_eq inside] at run
      change Eval.find context.scope name _ = _ at inside
      rw [Eval.find] at inside
      dsimp only at inside
      generalize store.find? name context.scope = found at inside
      cases found with
      | some value =>
          cases inside
          cases run
      | none =>
          cases inside
          cases run
          exact ⟨rfl, rfl, rfl⟩

/-- Arguments that come to values are evaluated to these, one after the other. -/
theorem evaluated_evalAll {depth : Nat} {context : Context} {position : Nat}
    {arguments : List Expr} {values : List Value} {store after : Store}
    {history more : List Moment}
    (run : evalAll (followNode depth) context position arguments ⟨store, history⟩ =
      (.ok values, ⟨after, more⟩)) :
    ∃ added, more = history ++ added ∧ Evaluated context position arguments values added := by
  induction arguments generalizing position values store history with
  | nil =>
      cases run
      exact ⟨[], (List.append_nil _).symm, .none⟩
  | cons argument rest ih =>
      rw [evalAll, Eval.bind_apply] at run
      rcases first : followNode depth (.expr argument) (context.child position)
        ⟨store, history⟩ with ⟨_ | value, middle, between⟩
      · rw [first] at run
        cases run
      · rw [first] at run
        dsimp only at run
        rw [Eval.bind_apply] at run
        rcases others : evalAll (followNode depth) context (position + 1) rest
          ⟨middle, between⟩ with ⟨_ | found, last, final⟩
        · rw [others] at run
          cases run
        · rw [others] at run
          cases run
          obtain ⟨before, rfl⟩ := followNode_eq_ok first
          obtain ⟨added, rfl, evaluated⟩ := ih others
          refine ⟨before ++ .ended (.expr argument) (context.child position) (.value value)
            middle :: added, by simp, .more evaluated⟩

namespace Eval

section Calls

variable {node : Node} {context : Context}

theorem Settles.bind_delivers {α : Type} {computation other : Eval (List Moment) α}
    {next : α → Eval (List Moment) Value} (settles : Settles α computation other)
    (delivers : ∀ result, Delivers node context (next result)) :
    Delivers node context (computation >>= next) := by
  intro store history settled
  have first := settles store history settled
  rw [bind_apply]
  generalize computation ⟨store, history⟩ = run at first ⊢
  rcases run with ⟨cause | result, after, more⟩
  · exact first.delivered (.error cause) node context
  · exact delivers result after more first

/-- The body of a function may end with a return, and the call consumes it. -/
theorem Settles.catchReturn_delivers {computation other : Eval (List Moment) Value}
    (settles : Settles Value computation other) (callee : Expr) (arguments : List Expr)
    (context : Context) :
    Delivers (.expr (.call callee arguments)) context computation.catchReturn := by
  intro store history settled
  have first := settles store history settled
  rw [catchReturn]
  generalize computation ⟨store, history⟩ = run at first ⊢
  rcases run with ⟨(result | error | _) | result, after, more⟩
  · exact first.delivered_caught callee arguments context
  · exact first.delivered (.error (.failed error)) _ _
  · exact first.delivered (.error .exhausted) _ _
  · exact first.delivered (.ok result) _ _

theorem settles_enter (outer : ScopeId) :
    Settles ScopeId (Eval.enter outer) (Eval.enter outer) := by
  intro store history settled
  exact settled.quiet _ _

variable {depth : Nat}
variable (inner : ∀ node context, Settles Value (followNode depth node context)
  (followNode depth node context))

include inner

theorem delivers_applyClosure (closure : Closure) (values : List Value) (callee : Expr)
    (arguments : List Expr) (context : Context) :
    Delivers (.expr (.call callee arguments)) context
      (applyClosure (followNode depth) closure values) := by
  unfold Ember.applyClosure
  split
  · apply (settles_enter closure.scope).bind_delivers
    intro scope
    apply (respects_settles.bindAll scope _).bind_delivers
    intro _
    exact (respects_settles.evalBlock inner ⟨scope, closure.site⟩ closure.body).catchReturn_delivers
      callee arguments context
  · exact (respects_settles.signal _).delivers _ context

/-- A call goes on after an error only if its callee is the name of a built-in function. -/
theorem delivered_call {context : Context} {callee : Expr} {arguments : List Expr} {store : Store}
    {before history : List Moment}
    (begun : history = before ++ [.begun (.expr (.call callee arguments)) context])
    (settled : Settled history none store) :
    Delivered (.expr (.call callee arguments)) context
      ((Expr.call callee arguments).step (followNode depth) context ⟨store, history⟩).1
      ((Expr.call callee arguments).step (followNode depth) context ⟨store, history⟩).2.trace
      ((Expr.call callee arguments).step (followNode depth) context ⟨store, history⟩).2.store := by
  have first := respects_settles.evalAll inner context 1 arguments store history settled
  rw [Expr.step, bind_apply]
  rcases given : evalAll (followNode depth) context 1 arguments ⟨store, history⟩ with
    ⟨cause | values, middle, between⟩
  · rw [given] at first
    exact first.delivered (.error cause) _ _
  rw [given] at first
  have second := inner (.expr callee) (context.child 0) middle between first
  dsimp only
  rw [bind_apply, attempt]
  rcases found : followNode depth (.expr callee) (context.child 0) ⟨middle, between⟩ with
    ⟨(result | error | _) | function, after, more⟩
  · rw [found] at second
    exact second.delivered (.error (.returned result)) _ _
  · rw [found] at second
    dsimp only
    rw [applyCallee, applyBuiltin]
    cases called : builtin? callee with
    | none => exact second.delivered (.error (.failed error)) _ _
    | some builtin =>
        cases callee with
        | identifier name =>
            obtain ⟨rfl, rfl, rfl⟩ := followNode_identifier_eq_failed found
            obtain ⟨during, rfl, evaluated⟩ := evaluated_evalAll given
            apply delivered_ofOperation second.orderly
            intro earlier last split
            obtain ⟨rfl, only⟩ := List.append_inj' split rfl
            cases only
            have since :
                history ++ during ++ [.begun (.expr (.identifier name)) (context.child 0)] =
                  before ++ .begun (.expr (.call (.identifier name) arguments)) context ::
                    (during ++ [.begun (.expr (.identifier name)) (context.child 0)]) := by
              simp [begun]
            exact .builtin since evaluated called
        | _ => cases called
  · rw [found] at second
    exact second.delivered (.error .exhausted) _ _
  · rw [found] at second
    dsimp only
    cases function with
    | function closure =>
        exact delivers_applyClosure inner closure values callee arguments context after more second
    | _ =>
        exact (respects_settles.applyBuiltin callee values _).delivers _ context after more
          second

end Calls

/-- The history of a node shows the signal that it comes to. -/
theorem settles_followNode (depth : Nat) (node : Node) (context : Context) :
    Settles Value (followNode depth node context) (followNode depth node context) := by
  induction depth generalizing node context with
  | zero => exact respects_settles.signal _
  | succ depth ih =>
      apply settles_noted
      intro store history settled
      cases node with
      | stmt statement =>
          have inside := respects_settles.stmt_step ih context statement
          exact inside.delivers _ _ store _ settled
      | expr expression =>
          cases expression with
          | call callee arguments => exact delivered_call ih rfl settled
          | _ =>
              refine (respects_settles.expr_step ih context ?_).delivers _ _ store _ settled
              intro callee arguments same
              cases same

end Eval

/-- What stands behind a moment, or else how the run ended at it. -/
theorem Settled.handsOn_or_concludes {history earlier later : List Moment} {moment : Moment}
    {cause : Option Signal} {store : Store} (settled : Settled history cause store)
    (split : history = earlier ++ moment :: later) :
    (later = [] ∧ Concludes moment cause store) ∨
      ∃ next more, later = next :: more ∧ HandsOn earlier moment next := by
  cases later with
  | nil => exact .inl ⟨rfl, settled.concludes earlier moment split⟩
  | cons next more => exact .inr ⟨next, more, rfl, settled.orderly earlier moment next more split⟩

/-- A computation whose last node came to a signal came to it as well. -/
theorem Concludes.eq_error {node : Node} {place : Context} {result : NodeResult}
    {after final : Store} {ending : Except Signal Value}
    (concludes : Concludes (.ended node place result after) (Eval.signal? ending) final) :
    (∃ value, result = .value value) ∨
      (∃ error, result = .failed error ∧ ending = .error (.failed error) ∧ final = after) ∨
      ∃ value, result = .returned value ∧ ending = .error (.returned value) ∧ final = after := by
  generalize caused : Eval.signal? ending = cause at concludes
  cases concludes with
  | value => exact .inl ⟨_, rfl⟩
  | failed =>
      cases ending <;> cases caused
      exact .inr (.inl ⟨_, rfl, rfl, rfl⟩)
  | returned =>
      cases ending <;> cases caused
      exact .inr (.inr ⟨_, rfl, rfl, rfl⟩)

/-- An event of a history is the end of a node. -/
theorem events_eq_append_node {history : List Moment} {first rest : List Event} {kind : NodeKind}
    {result : NodeResult} (split : events history = first ++ .node kind result :: rest) :
    ∃ earlier node place store later,
      history = earlier ++ .ended node place result store :: later ∧ node.kind = kind ∧
        events earlier = first ∧ events later = rest := by
  obtain ⟨front, back, rfl, rfl, behind⟩ := List.filterMap_eq_append_iff.mp split
  obtain ⟨silent, moment, later, rfl, unheard, heard, rfl⟩ := List.filterMap_eq_cons_iff.mp behind
  cases moment with
  | begun => cases heard
  | ended node place outcome store =>
      cases heard
      refine ⟨front ++ silent, node, place, store, later, by simp, rfl, ?_, rfl⟩
      rw [events_append, events, events, List.filterMap_eq_nil_iff.mpr unheard, List.append_nil]

/-- The history of a block shows the signal that it comes to. -/
theorem settled_followBlock (depth : Nat) (context : Context) (block : Block) (store : Store) :
    Settled (followBlock depth context block store).2.trace
      (Eval.signal? (followBlock depth context block store).1)
      (followBlock depth context block store).2.store :=
  Eval.respects_settles.evalBlock (Eval.settles_followNode depth) context block store []
    (.nil none store)

/-- Errors and returns are passed on unchanged. Behind the event of an error stands one with
the same error, unless it is the last and the program fails with it; only a call of a
built-in function goes on, after an error about its own name and with its arguments
evaluated. Behind the event of a return stands one with the same return or that of the
call that takes its value, unless it is the last and the program has that value. Until a
signal is consumed no node begins and no scope changes. -/
theorem evalProgram_signals (depth : Nat) (context : Context) (program : Program) (store : Store)
    (noted : Array Event) :
    let run := evalProgram .recorder depth context program ⟨store, noted⟩
    let history := (followBlock depth context program store).2.trace
    run.2.trace.toList = noted.toList ++ events history ∧
      (∀ first kind error rest, events history = first ++ .node kind (.failed error) :: rest →
        (rest = [] ∧ run.1 = .failed error) ∨
        (∃ outer more, rest = .node outer (.failed error) :: more) ∨
        ∃ name builtin arguments values place after before during earlier later,
          kind = .identifier ∧ error = .unknownIdentifier name ∧
          Builtin.ofName? name = some builtin ∧
          history = earlier ++
            .ended (.expr (.identifier name)) (place.child 0) (.failed error) after ::
            .ended (.expr (.call (.identifier name) arguments)) place
              (.ofOperation (builtin.apply values)) after :: later ∧
          earlier = before ++ .begun (.expr (.call (.identifier name) arguments)) place ::
            (during ++ [.begun (.expr (.identifier name)) (place.child 0)]) ∧
          Evaluated place 1 arguments values during ∧ events earlier = first ∧
          rest = .node .call (.ofOperation (builtin.apply values)) :: events later) ∧
      (∀ first kind value rest, events history = first ++ .node kind (.returned value) :: rest →
        (rest = [] ∧ run.1 = .value value) ∨
        (∃ outer more, rest = .node outer (.returned value) :: more) ∨
        ∃ more, rest = .node .call (.value value) :: more) ∧
      ∀ earlier node place result after later,
        history = earlier ++ .ended node place result after :: later →
        (∀ value, result ≠ .value value) →
          (later = [] ∧ run.2.store = after) ∨
          ∃ outer around outcome more, later = .ended outer around outcome after :: more := by
  intro run history
  have settled := settled_followBlock depth context program store
  have ran : run = (.ofResult (followBlock depth context program store).1,
      ⟨(followBlock depth context program store).2.store,
        Sink.recorder.hearAll (events history) noted⟩) := by
    simp only [run, evalProgram, evalBlock_eq_followBlock, history]
  rw [ran]
  change Settled history _ _ at settled
  generalize (followBlock depth context program store).1 = ending at settled ⊢
  generalize (followBlock depth context program store).2.store = final at settled ⊢
  refine ⟨?_, ?_, ?_, ?_⟩
  · rw [Sink.hearAll_recorder]
    simp
  · intro first kind error rest heard
    obtain ⟨earlier, node, place, after, later, split, rfl, rfl, rfl⟩ :=
      events_eq_append_node heard
    rcases settled.handsOn_or_concludes split with ⟨rfl, concludes⟩ | ⟨next, more, rfl, handsOn⟩
    · rcases concludes.eq_error with ⟨_, other⟩ | ⟨_, same, rfl, -⟩ | ⟨_, other, -⟩
      · cases other
      · cases same
        exact .inl ⟨rfl, rfl⟩
      · cases other
    · cases handsOn with
      | failed => exact .inr (.inl ⟨_, _, rfl⟩)
      | builtin begun evaluated named =>
          exact .inr (.inr ⟨_, _, _, _, _, _, _, _, _, _, rfl, rfl, named, split, begun, evaluated,
            rfl, rfl⟩)
  · intro first kind value rest heard
    obtain ⟨earlier, node, place, after, later, split, rfl, rfl, rfl⟩ :=
      events_eq_append_node heard
    rcases settled.handsOn_or_concludes split with ⟨rfl, concludes⟩ | ⟨next, more, rfl, handsOn⟩
    · rcases concludes.eq_error with ⟨_, other⟩ | ⟨_, other, -⟩ | ⟨_, same, rfl, -⟩
      · cases other
      · cases other
      · cases same
        exact .inl ⟨rfl, rfl⟩
    · cases handsOn with
      | returned => exact .inr (.inl ⟨_, _, rfl⟩)
      | consumed => exact .inr (.inr ⟨_, rfl⟩)
  · intro earlier node place result after later split signals
    rcases settled.handsOn_or_concludes split with ⟨rfl, concludes⟩ | ⟨next, more, rfl, handsOn⟩
    · rcases concludes.eq_error with ⟨value, rfl⟩ | ⟨_, -, -, rfl⟩ | ⟨_, -, -, rfl⟩
      · exact absurd rfl (signals value)
      · exact .inl ⟨rfl, rfl⟩
      · exact .inl ⟨rfl, rfl⟩
    · cases handsOn with
      | value => exact absurd rfl (signals _)
      | failed | returned | consumed | builtin => exact .inr ⟨_, _, _, _, rfl⟩

end Ember
