import Mathlib.Data.Finset.Card
import Ember.Proofs.Evaluation.Effect
import Ember.Proofs.Scope.Chain

/-!
# Hosts

A host works with scopes by handles. It opens scopes and copies handles, binds names, looks
them up, and runs programs; the values that it comes by it may bind in any other scope, as
they are or as parts of new ones. Many handles and functions refer to one scope, and scopes
hold functions that refer back to them.

Whatever the host does, in any order, the store stays well formed: chains of scopes end,
nothing refers to a scope that is not there, and no scope is ever moved.
-/

namespace Ember

/-- The values that an event reports. -/
def Event.values : Event → List Value
  | .node _ (.value result) | .node _ (.returned result) => [result]
  | .node _ (.failed _) | .parse _ => []

/-- The value of a program, if it has one. -/
def Completion.values : Completion → List Value
  | .value result => [result]
  | .failed _ | .exhausted => []

/-- What passes to a store when a name is bound or a scope is opened passes along every
effect. -/
theorem Effect.preserves {property : Store → Prop}
    (define : ∀ store scope name value, property store → property (store.define scope name value))
    (enter : ∀ store outer, property store → property (store.enter outer).2) {scope : ScopeId}
    {names : List String} {before after : Store} (effect : Effect scope names before after)
    (holds : property before) : property after := by
  induction effect with
  | nothing => exact holds
  | andThen _ _ firstIH secondIH => exact secondIH (firstIH holds)
  | binding value _ => exact define _ _ _ value holds
  | call closure _ ih => exact ih (enter _ _ holds)

namespace Store

/-- All scopes are still there, and none was moved. -/
def Extends (before after : Store) : Prop :=
  ∀ scope current, before.scope? scope = some current →
    ∃ now, after.scope? scope = some now ∧ now.outer = current.outer

namespace Extends

theorem refl (store : Store) : store.Extends store :=
  fun _ current opened => ⟨current, opened, rfl⟩

theorem trans {before middle after : Store} (first : before.Extends middle)
    (second : middle.Extends after) : before.Extends after := by
  intro scope current opened
  obtain ⟨between, openedBetween, sameBetween⟩ := first scope current opened
  obtain ⟨now, openedNow, sameNow⟩ := second scope between openedBetween
  exact ⟨now, openedNow, sameNow.trans sameBetween⟩

theorem define (store : Store) (scope : ScopeId) (name : String) (value : Value) :
    store.Extends (store.define scope name value) := by
  intro other current opened
  have same := store.outer_define scope name value other
  rwa [opened, Option.map_some, Option.map_eq_some_iff] at same

theorem enter (store : Store) (outer : Option ScopeId) : store.Extends (store.enter outer).2 := by
  intro scope current opened
  have different : scope ≠ (store.enter outer).1 := Nat.ne_of_lt (lt_size_of_scope? opened)
  exact ⟨current, by rw [scope?_enter_of_ne store outer different, opened], rfl⟩

/-- Programs move no scopes. -/
theorem evalProgram {State : Type} (sink : Sink State) (depth : Nat) (context : Context)
    (program : Program) (machine : Machine State) :
    machine.store.Extends (evalProgram sink depth context program machine).2.store :=
  (effect_evalProgram sink depth context program machine).preserves
    (fun _ _ _ _ extended => extended.trans (.define _ _ _ _))
    (fun _ _ extended => extended.trans (.enter _ _)) (.refl machine.store)

theorem lt_size {before after : Store} (extended : before.Extends after) {scope : ScopeId}
    (opened : scope < before.scopes.size) : scope < after.scopes.size := by
  obtain ⟨current, here⟩ := Option.isSome_iff_exists.mp (isSome_scope?_iff.mpr opened)
  obtain ⟨now, there, -⟩ := extended scope current here
  exact lt_size_of_scope? there

end Extends

/-- No scope binds a name twice. -/
def Distinct (store : Store) : Prop :=
  ∀ scope current, store.scope? scope = some current → (Bindings.keys current.bindings).Nodup

theorem Distinct.define {store : Store} (distinct : store.Distinct) (scope : ScopeId)
    (name : String) (value : Value) : (store.define scope name value).Distinct := by
  intro other current opened
  by_cases same : other = scope
  · subst same
    rw [scope?_define_self, Option.map_eq_some_iff] at opened
    obtain ⟨before, openedBefore, rfl⟩ := opened
    exact Bindings.nodup_keys_put (distinct other before openedBefore) name value
  · rw [scope?_define_of_ne store same] at opened
    exact distinct other current opened

theorem Distinct.enter {store : Store} (distinct : store.Distinct) (outer : Option ScopeId) :
    (store.enter outer).2.Distinct := by
  intro scope current opened
  by_cases same : scope = (store.enter outer).1
  · rw [same, scope?_enter_self] at opened
    cases opened
    exact .nil
  · rw [scope?_enter_of_ne store outer same] at opened
    exact distinct scope current opened

end Store

/-- The region of all scopes that there are. -/
def Region.whole : Region := ⟨fun _ => False, 0⟩

theorem Region.reach_whole {size : Nat} {scope : ScopeId} :
    whole.reach size scope ↔ scope < size := by
  simp [reach, whole]

theorem Region.holds_whole {size : Nat} {value : Value} :
    whole.Holds size value ↔ value.Within (· < size) :=
  ⟨fun held => Value.Within.mono held fun _ => reach_whole.mp,
    fun within => within.mono fun _ => reach_whole.mpr⟩

/-- The value of a program is the one that its end carries. -/
theorem Region.EndHolds.values {region : Region} {size : Nat} {result : Except Signal Value}
    (holds : region.EndHolds size (region.Holds size) result) :
    ∀ value ∈ (Completion.ofResult result).values, region.Holds size value := by
  rcases result with (value | error | _) | value
  · exact List.forall_mem_singleton.mpr holds
  · exact List.forall_mem_nil _
  · exact List.forall_mem_nil _
  · exact List.forall_mem_singleton.mpr holds

/-- A recorder keeps no values but those that it has heard of. -/
def Region.recorded (region : Region) : region.Listener .recorder where
  kept size trace := ∀ event ∈ trace, ∀ value ∈ event.values, region.Holds size value
  mono grown kept event member value inside := (kept event member value inside).mono grown
  heard := by
    intro size kind result trace held kept
    have push {report : NodeResult}
        (reported : ∀ value ∈ (Event.node kind report).values, region.Holds size value) :
        ∀ event ∈ trace.push (.node kind report), ∀ value ∈ event.values,
          region.Holds size value := by
      intro event member
      rcases Array.mem_push.mp member with earlier | rfl
      · exact kept event earlier
      · exact reported
    rcases result with (value | error | _) | value
    · exact push (List.forall_mem_singleton.mpr held)
    · exact push (List.forall_mem_nil _)
    · exact kept
    · exact push (List.forall_mem_singleton.mpr held)

/-- What holds of the scopes that a host works with: every scope is enclosed in an older one
if in any, every function that a name is bound to was made in a scope that there is, and no
name is bound twice. -/
structure Store.WellFormed (store : Store) : Prop where
  whole : Region.whole.Stores store store
  distinct : store.Distinct

namespace Store.WellFormed

variable {store : Store}

theorem empty : Store.empty.WellFormed := by
  refine ⟨⟨rfl, Nat.le_refl _, ?_⟩, nofun⟩
  intro scope reached
  exact absurd (Region.reach_whole.mp reached) (Nat.not_lt_zero scope)

theorem enter (formed : store.WellFormed) {outer : Option ScopeId}
    (enclosed : ∀ scope ∈ outer, scope < store.scopes.size) : (store.enter outer).2.WellFormed :=
  ⟨formed.whole.enter fun scope member => Region.reach_whole.mpr (enclosed scope member),
    formed.distinct.enter outer⟩

/-- Such a value can be bound in such a store. -/
theorem define (formed : store.WellFormed) (scope : ScopeId) (name : String) {value : Value}
    (within : value.Within (· < store.scopes.size)) :
    (store.define scope name value).WellFormed :=
  ⟨formed.whole.define scope name (Region.holds_whole.mpr within),
    formed.distinct.define scope name value⟩

/-- What a well-formed store says of one of its scopes. -/
theorem scopes (formed : store.WellFormed) {scope : ScopeId} {current : Scope}
    (opened : store.scope? scope = some current) :
    Region.whole.Scopes store.scopes.size scope current current := by
  have related := formed.whole.scopes scope (Region.reach_whole.mpr (lt_size_of_scope? opened))
  rw [opened] at related
  cases related with
  | some scopes => exact scopes

theorem ordered (formed : store.WellFormed) : store.Ordered := by
  rintro inner outer ⟨current, opened, enclosed⟩
  exact Region.reach_whole.mp ((formed.scopes opened).enclosed outer enclosed)

theorem within (formed : store.WellFormed) {scope : ScopeId} {current : Scope}
    (opened : store.scope? scope = some current) {name : String} {value : Value}
    (bound : Bindings.value? name current.bindings = some value) :
    value.Within (· < store.scopes.size) :=
  Region.holds_whole.mp ((formed.scopes opened).held name value bound)

/-- What is found was made in scopes that there are. -/
theorem find? (formed : store.WellFormed) {scope : ScopeId} (opened : scope < store.scopes.size)
    {name : String} {value : Value} (found : store.find? name scope = some value) :
    value.Within (· < store.scopes.size) :=
  Region.holds_whole.mp
    ((formed.whole.find? (Region.reach_whole.mpr opened) name).2 value found)

end Store.WellFormed

/-- Programs leave a well-formed store well formed, and whatever they come to or report was
made in scopes that there are. -/
theorem Store.WellFormed.evalProgram {store : Store} (formed : store.WellFormed) (depth : Nat)
    {context : Context} (opened : context.scope < store.scopes.size) (program : Program) :
    let done := Ember.evalProgram .recorder depth context program ⟨store, #[]⟩
    done.2.store.WellFormed ∧
      (∀ value ∈ done.1.values, value.Within (· < done.2.store.scopes.size)) ∧
      ∀ event ∈ done.2.trace, ∀ value ∈ event.values,
        value.Within (· < done.2.store.scopes.size) := by
  intro done
  have machines : Region.whole.recorded.Machines ⟨store, #[]⟩ ⟨store, #[]⟩ :=
    ⟨formed.whole, rfl, by simp [Region.recorded]⟩
  have run := Region.whole.recorded.local_evalProgram depth context program
    (Region.reach_whole.mpr opened) machines
  refine ⟨⟨run.machines.stores, ?_⟩, ?_, ?_⟩
  · exact (effect_evalProgram .recorder depth context program ⟨store, #[]⟩).preserves
      (fun _ scope name value distinct => distinct.define scope name value)
      (fun _ outer distinct => distinct.enter outer) formed.distinct
  · intro value member
    exact Region.holds_whole.mp (run.holds.values value member)
  · intro event member value inside
    exact Region.holds_whole.mp (run.machines.kept event member value inside)

/-- What a host has at hand: a store, handles to scopes of it, and values. -/
structure Host where
  store : Store
  handles : List ScopeId
  values : List Value

namespace Host

/-- A host that has done nothing yet. -/
def start : Host := ⟨.empty, [], []⟩

/-- The scopes that a host can get at: by a handle, or by a function in a value that it
has. -/
def Refers (host : Host) (scope : ScopeId) : Prop :=
  scope ∈ host.handles ∨ ∃ value ∈ host.values, value.Captures scope

/-- Opens a scope, and has a handle to it. -/
def enter (host : Host) (outer : Option ScopeId) : Host :=
  { host with
    store := (host.store.enter outer).2
    handles := host.handles ++ [(host.store.enter outer).1] }

/-- Has one more handle to a scope. -/
def clone (host : Host) (scope : ScopeId) : Host :=
  { host with handles := host.handles ++ [scope] }

/-- Binds a name in a scope. -/
def set (host : Host) (scope : ScopeId) (name : String) (value : Value) : Host :=
  { host with store := host.store.define scope name value }

/-- Keeps some more values. -/
def keep (host : Host) (values : List Value) : Host :=
  { host with values := host.values ++ values }

/-- Runs a program, and keeps its value and all values that were reported on the way. A
recorder hears of all that any sink can hear of. -/
def run (host : Host) (depth : Nat) (context : Context) (program : Program) : Host :=
  let done := evalProgram .recorder depth context program ⟨host.store, #[]⟩
  { host with store := done.2.store }.keep
    (done.1.values ++ done.2.trace.toList.flatMap Event.values)

/-- What a host can do. A value that it binds somewhere is one that it has, or it is made of
such values, or it holds functions that are made for scopes that the host can get at. -/
inductive Step (host : Host) : Host → Prop where
  | create : Step host (host.enter none)
  | enclose {outer : ScopeId} : host.Refers outer → Step host (host.enter (some outer))
  | clone {scope : ScopeId} : host.Refers scope → Step host (host.clone scope)
  | set {scope : ScopeId} (name : String) {value : Value} : host.Refers scope →
      value.Within host.Refers → Step host (host.set scope name value)
  | get {scope : ScopeId} {name : String} {value : Value} : host.Refers scope →
      host.store.find? name scope = some value → Step host (host.keep [value])
  | run (depth : Nat) {context : Context} (program : Program) : host.Refers context.scope →
      Step host (host.run depth context program)

/-- What a host comes to, step by step. -/
abbrev Steps : Host → Host → Prop :=
  Relation.ReflTransGen Step

/-- A host with a well-formed store, that refers to nothing but scopes of it. -/
structure Sound (host : Host) : Prop where
  formed : host.store.WellFormed
  refers : ∀ scope, host.Refers scope → scope < host.store.scopes.size

/-- More values that were made in scopes that there are do no harm. -/
theorem Sound.keep {host : Host} (sound : host.Sound) {values : List Value}
    (within : ∀ value ∈ values, value.Within (· < host.store.scopes.size)) :
    (host.keep values).Sound := by
  refine ⟨sound.formed, ?_⟩
  rintro scope (handle | ⟨value, member, captures⟩)
  · exact sound.refers scope (.inl handle)
  · rcases List.mem_append.mp member with earlier | new
    · exact sound.refers scope (.inr ⟨value, earlier, captures⟩)
    · exact within value new scope captures

/-- Neither does one more handle. -/
theorem Sound.clone {host : Host} (sound : host.Sound) {scope : ScopeId}
    (opened : scope < host.store.scopes.size) : (host.clone scope).Sound := by
  refine ⟨sound.formed, ?_⟩
  rintro other (handle | captured)
  · rcases List.mem_append.mp handle with earlier | new
    · exact sound.refers other (.inl earlier)
    · cases List.mem_singleton.mp new
      exact opened
  · exact sound.refers other (.inr captured)

/-- The store may be replaced by a well-formed one that extends it. -/
theorem Sound.extend {host : Host} (sound : host.Sound) {store : Store}
    (formed : store.WellFormed) (extended : host.store.Extends store) :
    Sound { host with store } :=
  ⟨formed, fun scope refers => extended.lt_size (sound.refers scope refers)⟩

theorem Sound.enter {host : Host} (sound : host.Sound) {outer : Option ScopeId}
    (enclosed : ∀ scope ∈ outer, scope < host.store.scopes.size) : (host.enter outer).Sound := by
  have extended := sound.extend (sound.formed.enter enclosed) (.enter host.store outer)
  apply extended.clone
  rw [Store.size_enter]
  exact Nat.lt_succ_self _

/-- One step leaves a host sound. -/
theorem Sound.step {host next : Host} (sound : host.Sound) (step : host.Step next) :
    next.Sound := by
  cases step with
  | create => exact sound.enter nofun
  | enclose refers =>
      apply sound.enter
      rintro scope ⟨⟩
      exact sound.refers _ refers
  | clone refers => exact sound.clone (sound.refers _ refers)
  | set name refers within =>
      exact sound.extend (sound.formed.define _ name (within.mono sound.refers)) (.define _ _ _ _)
  | get refers found =>
      exact sound.keep (List.forall_mem_singleton.mpr
        (sound.formed.find? (sound.refers _ refers) found))
  | @run depth context program refers =>
      obtain ⟨formed, values, reported⟩ :=
        sound.formed.evalProgram depth (sound.refers _ refers) program
      have extended := sound.extend formed
        (.evalProgram .recorder depth context program ⟨host.store, #[]⟩)
      apply extended.keep
      intro value member
      rcases List.mem_append.mp member with result | traced
      · exact values value result
      · obtain ⟨event, inTrace, inside⟩ := List.mem_flatMap.mp traced
        exact reported event (Array.mem_toList_iff.mp inTrace) value inside

/-- So do any number of steps. -/
theorem Sound.steps {host later : Host} (sound : host.Sound) (steps : host.Steps later) :
    later.Sound := by
  induction steps with
  | refl => exact sound
  | tail _ step ih => exact ih.step step

theorem sound_start : start.Sound :=
  ⟨.empty, by simp [Refers, start]⟩

/-- What a host never loses: the scopes where they are, and its handles in their order. -/
structure Keeps (host later : Host) : Prop where
  scopes : host.store.Extends later.store
  handles : ∃ more, later.handles = host.handles ++ more

theorem Step.keeps {host next : Host} (step : host.Step next) : host.Keeps next := by
  have same : ∃ more, host.handles = host.handles ++ more := ⟨[], (List.append_nil _).symm⟩
  cases step with
  | create => exact ⟨.enter _ _, _, rfl⟩
  | enclose => exact ⟨.enter _ _, _, rfl⟩
  | clone => exact ⟨.refl _, _, rfl⟩
  | set => exact ⟨.define _ _ _ _, same⟩
  | get => exact ⟨.refl _, same⟩
  | @run depth context program =>
      exact ⟨.evalProgram .recorder depth context program ⟨host.store, #[]⟩, same⟩

theorem Steps.keeps {host later : Host} (steps : host.Steps later) : host.Keeps later := by
  induction steps with
  | refl => exact ⟨.refl _, [], (List.append_nil _).symm⟩
  | tail _ step ih =>
      obtain ⟨more, handles⟩ := ih.handles
      obtain ⟨further, handlesNext⟩ := step.keeps.handles
      refine ⟨ih.scopes.trans step.keeps.scopes, more ++ further, ?_⟩
      rw [handlesNext, handles, List.append_assoc]

/-- A handle stands for one scope, whatever happens. -/
theorem Keeps.handle {host later : Host} (keeps : host.Keeps later) {handle : Nat}
    (held : handle < host.handles.length) : later.handles[handle]? = host.handles[handle]? := by
  obtain ⟨more, handles⟩ := keeps.handles
  rw [handles, List.getElem?_append_left held]

/-- The scope of a handle. -/
def scope? (host : Host) (handle : Nat) : Option Scope :=
  host.handles[handle]?.bind host.store.scope?

/-- The value that a handle has for a name. -/
def get? (host : Host) (handle : Nat) (name : String) : Option Value :=
  host.handles[handle]?.bind (host.store.find? name)

end Host

/-- A scope of a well-formed store counts the names that it binds, each once. -/
theorem Store.Distinct.exists_names {store : Store} (distinct : store.Distinct) {scope : ScopeId}
    {current : Scope} (opened : store.scope? scope = some current) :
    ∃ names : Finset String, (∀ name, name ∈ names ↔ current.binds name) ∧
      current.size = names.card := by
  refine ⟨(Bindings.keys current.bindings).toFinset, ?_, ?_⟩
  · intro name
    rw [List.mem_toFinset, Scope.binds, Bindings.value?_isSome_iff]
  · rw [List.toFinset_card_of_nodup (distinct scope current opened), Bindings.keys,
      List.length_map]
    rfl

/-- Whatever a host does, the scopes stay well formed.

No way outward comes back to where it began; every handle of the host and every function in
its values, every scope around another and every function in a value that is bound refers to
a scope that there is; a scope is never moved; so every look-up ends, with what is found.

A scope that there is has the value that a name was given in it, and its other names as
before. From then on this value is found exactly from where that scope is the first to hold
the name, and all else is found as before. Handles to one scope give
the same answers ever after. A name that a scope binds itself is found there, and the size
of a scope counts these names, each once. -/
theorem Host.scopes_stay_well_formed {host : Host} (reachable : Host.start.Steps host) :
    (∀ scope, ¬ Relation.TransGen host.store.EnclosedIn scope scope) ∧
    (∀ scope, host.Refers scope → (host.store.scope? scope).isSome) ∧
    (∀ inner outer, host.store.EnclosedIn inner outer → (host.store.scope? outer).isSome) ∧
    (∀ scope current, host.store.scope? scope = some current →
      ∀ name, ∀ value ∈ Bindings.value? name current.bindings,
        ∀ captured, value.Captures captured → (host.store.scope? captured).isSome) ∧
    (∀ later, host.Steps later → ∀ scope current, host.store.scope? scope = some current →
      ∃ now, later.store.scope? scope = some now ∧ now.outer = current.outer) ∧
    (∀ scope, host.Refers scope → ∀ name result,
      host.store.Lookup name scope result ↔ host.store.find? name scope = result) ∧
    (∀ scope current name value, host.store.scope? scope = some current →
      ∃ now, (host.set scope name value).store.scope? scope = some now ∧
        Bindings.value? name now.bindings = some value ∧
        ∀ other, other ≠ name →
          Bindings.value? other now.bindings = Bindings.value? other current.bindings) ∧
    (∀ left right name asked value,
      let after := (host.set left name value).store
      (asked = name ∧ after.FirstHolder name right left → after.find? asked right = some value) ∧
        (¬ (asked = name ∧ after.FirstHolder name right left) →
          after.find? asked right = host.store.find? asked right)) ∧
    (∀ later, host.Steps later → ∀ first second, first < host.handles.length →
      host.handles[first]? = host.handles[second]? →
        later.scope? first = later.scope? second ∧
          ∀ name, later.get? first name = later.get? second name) ∧
    ∀ scope current, host.store.scope? scope = some current →
      (∀ name, current.binds name → ∃ value, Bindings.value? name current.bindings = some value ∧
        host.store.find? name scope = some value) ∧
      ∃ names : Finset String, (∀ name, name ∈ names ↔ current.binds name) ∧
        current.size = names.card := by
  have sound := Host.sound_start.steps reachable
  have ordered := sound.formed.ordered
  refine ⟨ordered.acyclic, ?_, ?_, ?_, ?_, ?_, ?_, ?_, ?_, ?_⟩
  · intro scope refers
    exact Store.isSome_scope?_iff.mpr (sound.refers scope refers)
  · rintro inner outer enclosed
    obtain ⟨current, here, -⟩ := id enclosed
    exact Store.isSome_scope?_iff.mpr
      (Nat.lt_trans (ordered inner outer enclosed) (Store.lt_size_of_scope? here))
  · intro scope current here name value bound captured captures
    exact Store.isSome_scope?_iff.mpr (sound.formed.within here bound captured captures)
  · intro later steps
    exact (Host.Steps.keeps steps).scopes
  · intro scope refers name result
    exact ordered.lookup_iff name (sound.refers scope refers) result
  · intro scope current name value opened
    exact Store.exists_scope?_define value opened
  · intro left right name asked value after
    refine ⟨?_, Store.find?_define_of_not_firstHolder value⟩
    rintro ⟨rfl, first⟩
    exact Store.find?_define_of_firstHolder value ordered first
  · intro later steps first second held same
    have keeps := Host.Steps.keeps steps
    have heldSecond : second < host.handles.length := by
      rw [List.getElem?_eq_getElem held] at same
      exact (List.getElem?_eq_some_iff.mp same.symm).1
    have sameLater : later.handles[first]? = later.handles[second]? := by
      rw [keeps.handle held, keeps.handle heldSecond, same]
    refine ⟨?_, fun name => ?_⟩
    · rw [Host.scope?, Host.scope?, sameLater]
    · rw [Host.get?, Host.get?, sameLater]
  · intro scope current here
    refine ⟨?_, sound.formed.distinct.exists_names here⟩
    intro name bound
    obtain ⟨value, found⟩ := Option.isSome_iff_exists.mp bound
    exact ⟨value, found, Store.find?_of_bound here found⟩

/-- A host with two handles to an outer scope and one to an inner scope. -/
def Host.withClone : Host :=
  ((Host.start.enter none).enter (some 0)).clone 0

/-- A function that was made in the inner scope. -/
def innerFunction : Closure :=
  ⟨.root 0, 1, [], [.expression (.identifier "f")]⟩

/-- The function is bound in the outer scope, so the inner scope is referred to from the scope
around it; then another name is bound in the inner scope, and the function is called from
there. -/
def Host.withCycle : Host :=
  (Host.withClone.set 0 "f" (.function innerFunction)).run 5 ⟨1, .root 1⟩
    [.binding "x" (.boolean true), .expression (.call (.identifier "f") [])]

theorem Host.steps_withCycle : Host.start.Steps Host.withCycle := by
  have first : Host.start.Steps (Host.start.enter none) := .single .create
  have second : Host.start.Steps ((Host.start.enter none).enter (some 0)) :=
    first.tail (.enclose (.inl (by decide)))
  have third : Host.start.Steps Host.withClone := second.tail (.clone (.inl (by decide)))
  have held : (Value.function innerFunction).Within Host.withClone.Refers :=
    Value.within_function.mpr (.inl (by decide))
  exact (third.tail (.set "f" (.inl (by decide)) held)).tail (.run 5 _ (.inl (by decide)))

/-- Functions and scopes may refer to each other in a circle. Still the chain outward does
not, and the two handles to the outer scope agree. What is bound in the outer scope is seen
through the inner one, unless that holds the name itself. -/
theorem Host.scopes_stay_well_formed_withCycle :
    Host.start.Steps Host.withCycle ∧
      (∀ scope, ¬ Relation.TransGen Host.withCycle.store.EnclosedIn scope scope) ∧
      (∀ name, Host.withCycle.get? 0 name = Host.withCycle.get? 2 name) ∧
      (∀ value, (Host.withCycle.set 0 "f" value).get? 1 "f" = some value) ∧
      ∀ value, (Host.withCycle.set 0 "x" value).get? 1 "x" = some (.boolean true) := by
  have formed := Host.scopes_stay_well_formed Host.steps_withCycle
  obtain ⟨acyclic, -, -, -, -, -, written, lookedUp, clones, -⟩ := formed
  have outer : Host.withCycle.store.scope? 0 = some ⟨[("f", .function innerFunction)], none⟩ := by
    decide +kernel
  have inner : Host.withCycle.store.scope? 1 = some ⟨[("x", .boolean true)], some 0⟩ := by
    decide +kernel
  have kept (name : String) (value : Value) :
      (Host.withCycle.set 0 name value).store.scope? 1 =
        some ⟨[("x", .boolean true)], some 0⟩ :=
    (Store.scope?_define_of_ne _ (by decide) name value).trans inner
  refine ⟨Host.steps_withCycle, acyclic, (clones _ .refl 0 2 (by decide) rfl).2, ?_, ?_⟩
  · intro value
    obtain ⟨now, opened, bound, -⟩ := written 0 _ "f" value outer
    have holds : now.binds "f" := by rw [Scope.binds, bound, Option.isSome_some]
    have first : (Host.withCycle.set 0 "f" value).store.FirstHolder "f" 1 0 :=
      .outward (kept "f" value) (by decide) rfl (.here opened holds)
    exact (lookedUp 0 1 "f" "f" value).1 ⟨rfl, first⟩
  · intro value
    have shadowed : ¬ ("x" = "x" ∧
        (Host.withCycle.set 0 "x" value).store.FirstHolder "x" 1 0) := by
      rintro ⟨-, first⟩
      cases first.eq_of_binds (kept "x" value) (by decide)
    exact ((lookedUp 0 1 "x" "x" value).2 shadowed).trans (Store.find?_of_bound inner rfl)

end Ember
