import Ember.Proofs.Evaluation.Locality
import Ember.Proofs.Evaluation.Passage

/-!
# Activations and scopes

A call of a function opens a scope for its body, and nothing else is evaluated there: the
scope of a node tells the activation that it belongs to. This is followed through a run,
together with the places of nodes. Every node is evaluated at its own place in one of the
programs, since the functions that are called have their bodies there.

In a segment of a run that belongs to one activation, all nodes are evaluated in the scope
of that activation, or in scopes that were opened since, each owned by one call. When that
call began, its scope was in no store yet.
-/

namespace Ember

/-- Something that holds of all functions in the values that are bound in a store. -/
def Store.Each (property : Closure → Prop) (store : Store) : Prop :=
  ∀ scope current, store.scope? scope = some current →
    ∀ binding ∈ current.bindings, binding.2.Each property

namespace Store.Each

variable {property : Closure → Prop} {store : Store}

theorem find? (each : store.Each property) {name : String} {scope : ScopeId} {value : Value}
    (found : store.find? name scope = some value) : value.Each property := by
  induction scope using Nat.strongRecOn with
  | _ scope ih =>
      rw [Store.find?] at found
      cases opened : store.scope? scope with
      | none =>
          rw [opened] at found
          cases found
      | some current =>
          rw [opened] at found
          dsimp only at found
          cases bound : Bindings.value? name current.bindings with
          | some other =>
              rw [bound] at found
              cases found
              exact each scope current opened _ (Bindings.mem_of_value? bound)
          | none =>
              rw [bound] at found
              dsimp only at found
              cases enclosed : current.outer with
              | none =>
                  rw [enclosed] at found
                  cases found
              | some outer =>
                  rw [enclosed] at found
                  dsimp only at found
                  split at found
                  · next older => exact ih outer older found
                  · cases found

theorem define (each : store.Each property) (scope : ScopeId) (name : String) {value : Value}
    (good : value.Each property) : (store.define scope name value).Each property := by
  intro other current opened
  by_cases same : other = scope
  · subst same
    rw [scope?_define_self, Option.map_eq_some_iff] at opened
    obtain ⟨before, openedBefore, rfl⟩ := opened
    exact Bindings.forall_put (each other before openedBefore) good
  · rw [scope?_define_of_ne store same] at opened
    exact each other current opened

theorem enter (each : store.Each property) (outer : Option ScopeId) :
    (store.enter outer).2.Each property := by
  intro scope current opened
  by_cases same : scope = (store.enter outer).1
  · rw [same, scope?_enter_self] at opened
    cases opened
    exact List.forall_mem_nil _
  · rw [scope?_enter_of_ne store outer same] at opened
    exact each scope current opened

theorem mono {weaker : Closure → Prop} (each : store.Each property)
    (weakened : ∀ closure, property closure → weaker closure) : store.Each weaker :=
  fun scope current opened binding member closure inside =>
    weakened closure (each scope current opened binding member closure inside)

end Store.Each

/-- A node that stands at a site, in one of some programs. -/
def Placed (programs : List Program) (site : Site) (node : Node) : Prop :=
  ∃ program, programs[site.program]? = some program ∧
    (Tree.block program).at? site.path = some (.node node)

namespace Placed

variable {programs : List Program} {site : Site} {node : Node}

/-- No two nodes stand at one site. -/
theorem unique {other : Node} (placed : Placed programs site node)
    (another : Placed programs site other) : node = other := by
  obtain ⟨program, numbered, found⟩ := placed
  obtain ⟨same, sameNumbered, foundToo⟩ := another
  cases numbered.symm.trans sameNumbered
  cases found.symm.trans foundToo
  rfl

/-- More programs move no node. -/
theorem more (placed : Placed programs site node) (others : List Program) :
    Placed (programs ++ others) site node := by
  obtain ⟨program, numbered, found⟩ := placed
  refine ⟨program, ?_, found⟩
  rw [List.getElem?_append_left (List.getElem?_eq_some_iff.mp numbered).1, numbered]

theorem statement {number index : Nat} {program : Program} {statement : Stmt}
    (numbered : programs[number]? = some program) (found : program[index]? = some statement) :
    Placed programs ((Site.root number).child index) (.stmt statement) := by
  refine ⟨program, numbered, ?_⟩
  rw [Site.child, Site.root, Tree.at?_cons, Tree.at?_nil, Option.bind_some, Tree.children,
    Tree.ofStmts, List.getElem?_map, found]
  rfl

/-- What stands inside a node that is placed is placed. -/
theorem part {context : Context} {path : List Nat} {part : Node}
    (placed : Placed programs context.site node) (inside : node.Part path part) :
    Placed programs (context.under path).site part := by
  obtain ⟨program, numbered, found⟩ := placed
  refine ⟨program, numbered, ?_⟩
  rw [Context.under, Tree.at?_append, found, Option.bind_some, inside.at?]

theorem body {parameters : List String} {body : Block} {index : Nat} {statement : Stmt}
    (placed : Placed programs site (.expr (.function parameters body)))
    (found : body[index]? = some statement) :
    Placed programs (site.child index) (.stmt statement) := by
  obtain ⟨program, numbered, reached⟩ := placed
  refine ⟨program, numbered, ?_⟩
  rw [Site.child, Tree.at?_cons, reached, Option.bind_some, Tree.children, Tree.ofStmts,
    List.getElem?_map, found]
  rfl

end Placed

/-- How many scopes are seen at a moment. -/
def Moment.scopes : Moment → Nat
  | .begun _ _ => 0
  | .ended _ _ _ store => store.scopes.size

/-- A function whose body is the one of the function literal at its site. -/
def Closure.Grounded (programs : List Program) (closure : Closure) : Prop :=
  ∃ parameters, Placed programs closure.site (.expr (.function parameters closure.body))

/-- Calling a function opens a scope that there was not before. -/
theorem applyClosure_opens {State : Type} (recur : Node → Context → Eval State Value)
    {closure : Closure} {arguments : List Value}
    (matching : closure.parameters.length = arguments.length) (machine : Machine State) :
    ∃ opened entered, machine.store.scope? opened = none ∧
      entered.scope? opened = some ⟨[], some closure.scope⟩ ∧
      (∀ other, other ≠ opened → entered.scope? other = machine.store.scope? other) ∧
      applyClosure recur closure arguments machine =
        (do
          bindAll opened (closure.parameters.zip arguments)
          Eval.catchReturn (evalBlock recur ⟨opened, closure.site⟩ closure.body))
          ⟨entered, machine.trace⟩ := by
  let outer := some closure.scope
  refine ⟨(machine.store.enter outer).1, (machine.store.enter outer).2, ?_,
    Store.scope?_enter_self _ _, fun other => Store.scope?_enter_of_ne _ _, ?_⟩
  · exact Array.getElem?_size
  · rw [applyClosure, if_pos matching]
    rfl

namespace Tracking

/-- Every node is evaluated at its own place, and a function literal comes to the function
that this place and the scope make. -/
def Faithful (programs : List Program) (_past : List Moment) : Moment → Prop
  | .begun _ _ => True
  | .ended node place result _ => Placed programs place.site node ∧
      ∀ parameters body, node = .expr (.function parameters body) →
        result = .value (.function ⟨place.site, place.scope, parameters, body⟩)

/-- A scope that was opened since there were so many, by the call that is running and owns it.
When the call began, the scope was not seen yet. -/
structure Opened (size larger : Nat) (owner : ScopeId → Nat) (past : List Moment)
    (scope : ScopeId) : Prop where
  since : size ≤ scope
  present : scope < larger
  running : activation? (pending past) = some (owner scope)
  unseen : ∀ moment ∈ past.take (owner scope), moment.scopes ≤ scope

theorem Opened.mono {size smaller larger largest : Nat} {owner other : ScopeId → Nat}
    {past : List Moment} {scope : ScopeId} (opened : Opened size larger owner past scope)
    (lower : smaller ≤ size) (upper : larger ≤ largest) (same : other scope = owner scope) :
    Opened smaller largest other past scope where
  since := Nat.le_trans lower opened.since
  present := Nat.lt_of_lt_of_le opened.present upper
  running := same ▸ opened.running
  unseen := same ▸ opened.unseen

/-- A node belongs to the activation at hand and is evaluated in its scope; or it is evaluated
in a scope that was opened since, and belongs to the call that owns this scope. -/
def Owned (scope : ScopeId) (level : Option Nat) (size larger : Nat) (owner : ScopeId → Nat)
    (past : List Moment) : Moment → Prop
  | .begun _ _ => True
  | .ended _ place _ _ =>
    (place.scope = scope ∧ activation? (pending past) = level) ∨
      Opened size larger owner past place.scope

/-- What a computation may rely on, while some nodes are pending. -/
structure Begins (programs : List Program) (stack : List Pending) (store : Store)
    (history : List Moment) : Prop where
  grounded : store.Each (Closure.Grounded programs)
  pending : pending history = stack
  seen : ∀ moment ∈ history, moment.scopes ≤ store.scopes.size

/-- What is known of a computation that belongs to an activation. -/
structure Passes (programs : List Program) (scope : ScopeId) (level : Option Nat) (store : Store)
    (history added : List Moment) (after : Store) : Prop where
  grounded : after.Each (Closure.Grounded programs)
  grown : store.scopes.size ≤ after.scopes.size
  balanced : pending (history ++ added) = pending history
  seen : ∀ moment ∈ added, moment.scopes ≤ after.scopes.size
  faithful : Throughout (Faithful programs) history added
  owned : ∃ owner,
    Throughout (Owned scope level store.scopes.size after.scopes.size owner) history added

theorem Begins.onward {programs : List Program} {stack : List Pending} {scope : ScopeId}
    {level : Option Nat} {store after : Store} {history added : List Moment}
    (begins : Begins programs stack store history)
    (passes : Passes programs scope level store history added after) :
    Begins programs stack after (history ++ added) where
  grounded := passes.grounded
  pending := passes.balanced.trans begins.pending
  seen := List.forall_mem_append.mpr
    ⟨fun moment member => Nat.le_trans (begins.seen moment member) passes.grown, passes.seen⟩

namespace Passes

variable {programs : List Program} {scope : ScopeId} {level : Option Nat}

/-- Nothing happens, and no scope is opened. -/
theorem still {store after : Store} (history : List Moment)
    (grounded : after.Each (Closure.Grounded programs))
    (same : after.scopes.size = store.scopes.size) :
    Passes programs scope level store history [] after where
  grounded := grounded
  grown := Nat.le_of_eq same.symm
  balanced := by rw [List.append_nil]
  seen := List.forall_mem_nil _
  faithful := trivial
  owned := ⟨fun _ => 0, trivial⟩

/-- Segments that follow each other open scopes one after the other. -/
theorem andThen {store middle after : Store} {history first second : List Moment}
    (before : Passes programs scope level store history first middle)
    (behind : Passes programs scope level middle (history ++ first) second after) :
    Passes programs scope level store history (first ++ second) after where
  grounded := behind.grounded
  grown := Nat.le_trans before.grown behind.grown
  balanced := by rw [← List.append_assoc, behind.balanced, before.balanced]
  seen := List.forall_mem_append.mpr
    ⟨fun moment member => Nat.le_trans (before.seen moment member) behind.grown, behind.seen⟩
  faithful := before.faithful.append behind.faithful
  owned := by
    obtain ⟨early, ownedBefore⟩ := before.owned
    obtain ⟨late, ownedBehind⟩ := behind.owned
    -- All scopes of the first segment lie below those of the second.
    let owner (opened : ScopeId) :=
      if opened < middle.scopes.size then early opened else late opened
    refine ⟨owner, (ownedBefore.mono ?_).append (ownedBehind.mono ?_)⟩
    · intro earlier moment owned
      cases moment with
      | begun => trivial
      | ended node place result store =>
          refine owned.imp_right fun opened => ?_
          exact opened.mono (Nat.le_refl _) behind.grown (if_pos opened.present)
    · intro earlier moment owned
      cases moment with
      | begun => trivial
      | ended node place result store =>
          refine owned.imp_right fun opened => ?_
          exact opened.mono before.grown (Nat.le_refl _) (if_neg (Nat.not_lt.mpr opened.since))

/-- What belongs to a call belongs to a segment around it: the call owns its scope, which was
not there before. -/
theorem enter {outer : Option ScopeId} {time : Nat} {store after : Store}
    {history added : List Moment}
    (inside : Passes programs store.scopes.size (some time) (store.enter outer).2 history added
      after)
    (begun : time ≤ history.length)
    (seen : ∀ moment ∈ history, moment.scopes ≤ store.scopes.size) :
    Passes programs scope level store history added after := by
  have larger : store.scopes.size < after.scopes.size := by
    have grown := inside.grown
    rwa [Store.size_enter] at grown
  refine ⟨inside.grounded, Nat.le_of_lt larger, inside.balanced, inside.seen, inside.faithful, ?_⟩
  obtain ⟨owner, owned⟩ := inside.owned
  refine ⟨fun opened => if opened = store.scopes.size then time else owner opened, owned.mono ?_⟩
  intro earlier moment owned
  cases moment with
  | begun => trivial
  | ended node place result store =>
      rcases owned with ⟨same, running⟩ | opened
      · refine .inr ⟨Nat.le_of_eq same.symm, same ▸ larger, ?_, ?_⟩
        · rw [running, if_pos same]
        · intro moment member
          rw [if_pos same, List.take_append_of_le_length begun] at member
          exact same ▸ seen moment (List.mem_of_mem_take member)
      · have since := opened.since
        rw [Store.size_enter] at since
        exact .inr (opened.mono (Store.size_enter _ _ ▸ Nat.le_succ _) (Nat.le_refl _)
          (if_neg (Nat.ne_of_gt since)))

end Passes

/-- Computations that belong to an activation, while some nodes are pending. -/
def passage (programs : List Program) (scope : ScopeId) (level : Option Nat)
    (stack : List Pending) : Passage where
  begins := Begins programs stack
  passes := Passes programs scope level
  mayExhaust := True
  nothing begins := .still _ begins.grounded rfl
  onward := Begins.onward
  andThen := Passes.andThen

variable {programs : List Program}

theorem judgement (programs : List Program) (scope : ScopeId) (level : Option Nat)
    (stack : List Pending) :
    Eval.Judgement scope (Closure.Grounded programs)
      ((passage programs scope level stack).Carries (Closure.Grounded programs)) := by
  apply Passage.judgement
  · intro store history name value begins found
    exact begins.grounded.find? found
  · intro store history name value begins good
    exact .still _ (begins.grounded.define scope name good) (Store.size_define _ _ _ _)

variable {depth : Nat}

/-- Calling a function, while the call is pending. -/
theorem carries_applyClosure {scope : ScopeId} {level : Option Nat} {stack : List Pending}
    {time : Nat} {callee : Expr} {arguments : List Expr}
    (inner : ∀ {stack : List Pending} {node : Node} {context : Context},
      Placed programs context.site node →
        (passage programs context.scope (level? stack node) stack).Carries
          (Closure.Grounded programs) Value (Value.Each (Closure.Grounded programs))
          (followNode depth node context))
    {closure : Closure} {values : List Value} (grounded : closure.Grounded programs)
    (good : ∀ value ∈ values, value.Each (Closure.Grounded programs)) :
    (passage programs scope level (⟨time, .expr (.call callee arguments)⟩ :: stack)).Carries
      (Closure.Grounded programs) Value (Value.Each (Closure.Grounded programs))
      (applyClosure (followNode depth) closure values) := by
  unfold applyClosure
  split
  · intro store history begins
    let opened := store.scopes.size
    let pendingCall : List Pending := ⟨time, .expr (.call callee arguments)⟩ :: stack
    have body : (passage programs opened (some time) pendingCall).Carries
        (Closure.Grounded programs) Value (Value.Each (Closure.Grounded programs))
        (do
          bindAll opened (closure.parameters.zip values)
          Eval.catchReturn (evalBlock (followNode depth) ⟨opened, closure.site⟩ closure.body)) := by
      have rules := judgement programs opened (some time) pendingCall
      refine rules.bind (rules.bindAll fun pair member => ?_) fun _ _ => ?_
      · exact good pair.2 (List.of_mem_zip member).2
      · obtain ⟨parameters, placed⟩ := grounded
        refine (rules.evalBlock fun index statement found => ?_).catchReturn
        have carries := @inner pendingCall _ (Context.child ⟨opened, closure.site⟩ index)
          (placed.body found)
        rwa [level?_body] at carries
    have entered : Begins programs pendingCall (store.enter (some closure.scope)).2 history :=
      ⟨begins.grounded.enter _, begins.pending, fun moment member =>
        Nat.le_trans (begins.seen moment member) (Store.size_enter _ _ ▸ Nat.le_succ _)⟩
    have begun : time < history.length :=
      time_lt_of_mem_pending (begins.pending ▸ List.mem_cons_self)
    rcases body _ history entered with ⟨may, last, run⟩ | ⟨outcome, after, added, run, ends, passes⟩
    · exact .inl ⟨may, last, run⟩
    · exact .inr ⟨outcome, after, added, run, ends, passes.enter (Nat.le_of_lt begun) begins.seen⟩
  · exact (judgement programs scope level _).fail _

/-- The evaluation of a node that stands at its place. -/
theorem carries_followNode {stack : List Pending} {node : Node} {context : Context}
    (placed : Placed programs context.site node) :
    (passage programs context.scope (level? stack node) stack).Carries
      (Closure.Grounded programs) Value (Value.Each (Closure.Grounded programs))
      (followNode depth node context) := by
  induction depth generalizing stack node context with
  | zero =>
      intro store history begins
      exact .inl ⟨trivial, _, rfl⟩
  | succ depth ih =>
      -- What is inside the node belongs to the same activation, but for the body of a function.
      let inside (history : List Moment) : Passage :=
        passage programs context.scope (level? stack node) (⟨history.length, node⟩ :: stack)
      have step (history : List Moment) :
          (inside history).Carries (Closure.Grounded programs) Value
            (Value.Each (Closure.Grounded programs)) (node.step (followNode depth) context) := by
        refine (judgement programs context.scope _ _).node_step rfl ?_ ?_ ?_
        · rintro parameters body rfl
          exact ⟨parameters, placed⟩
        · rintro callee arguments rfl closure values grounded good
          exact carries_applyClosure ih grounded good
        · intro path part within
          have carries := @ih (⟨history.length, node⟩ :: stack) part (context.under path)
            (placed.part within)
          rwa [level?_part within] at carries
      refine Passage.Carries.noted step (fun _ => id) ?_ ?_
      · intro store history begins
        refine ⟨begins.grounded, ?_, ?_⟩
        · rw [pending_begun, begins.pending]
        · exact List.forall_mem_append.mpr
            ⟨begins.seen, List.forall_mem_singleton.mpr (Nat.zero_le _)⟩
      · intro store history outcome after added result begins run ends reported passes
        obtain ⟨owner, owned⟩ := passes.owned
        refine ⟨passes.grounded, passes.grown, pending_noted passes.balanced result after,
          ?_, ?_, ?_⟩
        · refine List.forall_mem_cons.mpr ⟨Nat.zero_le _, ?_⟩
          exact List.forall_mem_append.mpr
            ⟨passes.seen, List.forall_mem_singleton.mpr (Nat.le_refl _)⟩
        · refine .noted trivial passes.faithful ⟨placed, ?_⟩
          rintro parameters body rfl
          have made := congrArg Prod.fst run
          cases made
          cases reported
          rfl
        · refine ⟨owner, .noted trivial owned (.inl ⟨rfl, ?_⟩)⟩
          rw [passes.balanced, pending_begun, begins.pending, activation?_cons]

/-- A whole run of a program belongs to no activation. -/
theorem passes_followBlock {number depth : Nat} {scope : ScopeId} {program : Program}
    {store : Store} (numbered : programs[number]? = some program)
    (grounded : store.Each (Closure.Grounded programs))
    (ended : (followBlock depth ⟨scope, .root number⟩ program store).1 ≠ .error .exhausted) :
    Passes programs scope none store []
      (followBlock depth ⟨scope, .root number⟩ program store).2.trace
      (followBlock depth ⟨scope, .root number⟩ program store).2.store := by
  have carries : (passage programs scope none []).Carries (Closure.Grounded programs) Value
      (Value.Each (Closure.Grounded programs))
      (evalBlock (followNode depth) ⟨scope, .root number⟩ program) :=
    (judgement programs scope none []).evalBlock fun index statement found =>
      carries_followNode (.statement numbered found)
  rcases carries store [] ⟨grounded, rfl, List.forall_mem_nil _⟩ with
    ⟨-, last, run⟩ | ⟨outcome, after, added, run, -, passes⟩
  · rw [followBlock, run] at ended
    exact absurd rfl ended
  · rw [followBlock, run]
    exact passes

end Tracking

end Ember
