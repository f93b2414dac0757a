import Mathlib.Logic.Relation
import Ember.Proofs.Evaluation.Locality
import Ember.Store

/-!
# Chains of scopes

From every scope a chain leads outward. A look-up goes along it and stops at the first
scope that binds the name; that is what `Store.find?` comes to where every scope was opened
after the one around it. Binding a name in a scope is seen from the scopes on whose chains
it is now the first to hold the name, and from nowhere else.
-/

namespace Ember

/-- What a scope says to a look-up: a value, and where to go on without one. -/
def Scope.answer (name : String) (scope : Scope) : Option Value × Option ScopeId :=
  (Bindings.value? name scope.bindings, scope.outer)

namespace Store

/-- One scope stands directly inside another. -/
def EnclosedIn (store : Store) (inner outer : ScopeId) : Prop :=
  ∃ current, store.scope? inner = some current ∧ current.outer = some outer

/-- Every scope was opened after the scope around it. -/
def Ordered (store : Store) : Prop :=
  ∀ inner outer, store.EnclosedIn inner outer → outer < inner

/-- No way outward comes back to where it began. -/
theorem Ordered.acyclic {store : Store} (ordered : store.Ordered) (scope : ScopeId) :
    ¬ Relation.TransGen store.EnclosedIn scope scope := by
  have descends {inner outer : ScopeId} (chain : Relation.TransGen store.EnclosedIn inner outer) :
      outer < inner := by
    induction chain with
    | single step => exact ordered _ _ step
    | tail _ step ih => exact Nat.lt_trans (ordered _ _ step) ih
  intro cycle
  exact Nat.lt_irrefl scope (descends cycle)

/-- The look-up of a name, from scope to scope outward, for as long as that takes. -/
inductive Lookup (store : Store) (name : String) : ScopeId → Option Value → Prop where
  | found {scope : ScopeId} {current : Scope} {value : Value} :
      store.scope? scope = some current → Bindings.value? name current.bindings = some value →
        Lookup store name scope (some value)
  | outward {scope outer : ScopeId} {current : Scope} {result : Option Value} :
      store.scope? scope = some current → Bindings.value? name current.bindings = none →
        current.outer = some outer → Lookup store name outer result →
          Lookup store name scope result
  | missing {scope : ScopeId} {current : Scope} :
      store.scope? scope = some current → Bindings.value? name current.bindings = none →
        current.outer = none → Lookup store name scope none

/-- A look-up that ends gives what is found. -/
theorem Lookup.find?_eq {store : Store} (ordered : store.Ordered) {name : String} {scope : ScopeId}
    {result : Option Value} (lookup : store.Lookup name scope result) :
    store.find? name scope = result := by
  induction lookup with
  | found opened bound => exact find?_of_bound opened bound
  | outward opened unbound enclosed _ ih =>
      rw [find?_of_unbound opened unbound enclosed (ordered _ _ ⟨_, opened, enclosed⟩), ih]
  | missing opened unbound outermost =>
      rw [find?]
      simp [opened, unbound, outermost]

/-- Every look-up in a scope that there is ends. -/
theorem Ordered.exists_lookup {store : Store} (ordered : store.Ordered) (name : String)
    {scope : ScopeId} (opened : scope < store.scopes.size) :
    ∃ result, store.Lookup name scope result := by
  induction scope using Nat.strongRecOn with
  | _ scope ih =>
      obtain ⟨current, here⟩ := Option.isSome_iff_exists.mp (isSome_scope?_iff.mpr opened)
      cases bound : Bindings.value? name current.bindings with
      | some value => exact ⟨some value, .found here bound⟩
      | none =>
          cases enclosed : current.outer with
          | none => exact ⟨none, .missing here bound enclosed⟩
          | some outer =>
              have older := ordered scope outer ⟨current, here, enclosed⟩
              obtain ⟨result, lookup⟩ := ih outer older (Nat.lt_trans older opened)
              exact ⟨result, .outward here bound enclosed lookup⟩

/-- So a look-up ends with one result, and that is what is found. -/
theorem Ordered.lookup_iff {store : Store} (ordered : store.Ordered) (name : String)
    {scope : ScopeId} (opened : scope < store.scopes.size) (result : Option Value) :
    store.Lookup name scope result ↔ store.find? name scope = result := by
  constructor
  · intro lookup
    exact lookup.find?_eq ordered
  · rintro rfl
    obtain ⟨result, lookup⟩ := ordered.exists_lookup name opened
    rwa [lookup.find?_eq ordered]

/-- A name is found alike in two stores where the scopes at the beginning say the same, and
it is found alike from there on. -/
theorem find?_eq_of_answer {left right : Store} {name : String} {scope : ScopeId}
    (same : (left.scope? scope).map (Scope.answer name) =
      (right.scope? scope).map (Scope.answer name))
    (outward : ∀ current outer, left.scope? scope = some current →
      Bindings.value? name current.bindings = none → current.outer = some outer →
        outer < scope → left.find? name outer = right.find? name outer) :
    left.find? name scope = right.find? name scope := by
  rw [find?, find?]
  cases opened : left.scope? scope with
  | none =>
      rw [opened, Option.map_none, eq_comm, Option.map_eq_none_iff] at same
      rw [same]
  | some current =>
      rw [opened, Option.map_some, eq_comm, Option.map_eq_some_iff] at same
      obtain ⟨other, openedRight, answers⟩ := same
      obtain ⟨values, outers⟩ := Prod.mk.inj answers
      rw [openedRight]
      dsimp only
      rw [values, outers]
      cases bound : Bindings.value? name current.bindings with
      | some value => rfl
      | none =>
          cases enclosed : current.outer with
          | none => rfl
          | some outer =>
              dsimp only
              split
              · next older => exact outward current outer opened bound enclosed older
              · rfl

/-- The first scope on the chain outward, the scope at its beginning included, that holds a
name. -/
inductive FirstHolder (store : Store) (name : String) : ScopeId → ScopeId → Prop where
  | here {scope : ScopeId} {current : Scope} :
      store.scope? scope = some current → current.binds name → FirstHolder store name scope scope
  | outward {scope outer holder : ScopeId} {current : Scope} :
      store.scope? scope = some current → ¬ current.binds name → current.outer = some outer →
        FirstHolder store name outer holder → FirstHolder store name scope holder

/-- A name has the value that its first holder gives it. -/
theorem FirstHolder.find?_eq {store : Store} (ordered : store.Ordered) {name : String}
    {scope holder : ScopeId} (first : store.FirstHolder name scope holder) :
    ∃ current, store.scope? holder = some current ∧
      store.find? name scope = Bindings.value? name current.bindings := by
  induction first with
  | here opened bound =>
      obtain ⟨value, bound⟩ := Option.isSome_iff_exists.mp bound
      exact ⟨_, opened, by rw [find?_of_bound opened bound, bound]⟩
  | outward opened unbound enclosed _ ih =>
      have absent := Option.not_isSome_iff_eq_none.mp unbound
      rw [find?_of_unbound opened absent enclosed (ordered _ _ ⟨_, opened, enclosed⟩)]
      exact ih

/-- A scope that holds a name is the first to hold it on its chain. -/
theorem FirstHolder.eq_of_binds {store : Store} {name : String} {scope holder : ScopeId}
    {current : Scope} (first : store.FirstHolder name scope holder)
    (opened : store.scope? scope = some current) (binds : current.binds name) :
    holder = scope := by
  cases first with
  | here => rfl
  | outward openedHere unbound =>
      rw [opened, Option.some.injEq] at openedHere
      subst openedHere
      exact absurd binds unbound

section Define

variable (store : Store) (scope : ScopeId) (name : String) (value : Value)

/-- Binding a name moves no scope. -/
theorem outer_define (other : ScopeId) :
    ((store.define scope name value).scope? other).map Scope.outer =
      (store.scope? other).map Scope.outer := by
  by_cases same : other = scope
  · subst same
    rw [scope?_define_self, Option.map_map]
    rfl
  · rw [scope?_define_of_ne store same]

theorem enclosedIn_define {inner outer : ScopeId} :
    (store.define scope name value).EnclosedIn inner outer ↔ store.EnclosedIn inner outer := by
  have same := store.outer_define scope name value inner
  have reads (some : Store) :
      some.EnclosedIn inner outer ↔ (some.scope? inner).map Scope.outer = .some (.some outer) := by
    rw [Option.map_eq_some_iff]
    rfl
  rw [reads, reads, same]

variable {store}

theorem Ordered.define (ordered : store.Ordered) : (store.define scope name value).Ordered := by
  intro inner outer enclosed
  exact ordered inner outer ((store.enclosedIn_define scope name value).mp enclosed)

variable {scope name}

/-- A scope has the value that a name was given in it, and all other names as before. -/
theorem exists_scope?_define {current : Scope} (opened : store.scope? scope = some current) :
    ∃ now, (store.define scope name value).scope? scope = some now ∧
      Bindings.value? name now.bindings = some value ∧
      ∀ other, other ≠ name →
        Bindings.value? other now.bindings = Bindings.value? other current.bindings := by
  have written := store.scope?_define_self scope name value
  rw [opened, Option.map_some] at written
  refine ⟨_, written, Bindings.value?_put_self _ _ _, ?_⟩
  intro other different
  exact Bindings.value?_put_of_ne different value current.bindings

/-- Where a scope is the first to hold a name, the value that it was given is found. -/
theorem find?_define_of_firstHolder (ordered : store.Ordered) {place : ScopeId}
    (first : (store.define scope name value).FirstHolder name place scope) :
    (store.define scope name value).find? name place = some value := by
  obtain ⟨current, opened, found⟩ := first.find?_eq (ordered.define scope name value)
  rw [scope?_define_self, Option.map_eq_some_iff] at opened
  obtain ⟨before, -, rfl⟩ := opened
  rw [found, Bindings.value?_put_self]

/-- Everywhere else, and for all other names, nothing has changed. -/
theorem find?_define_of_not_firstHolder {asked : String} {place : ScopeId}
    (elsewhere : ¬ (asked = name ∧
      (store.define scope name value).FirstHolder name place scope)) :
    (store.define scope name value).find? asked place = store.find? asked place := by
  induction place using Nat.strongRecOn with
  | _ place ih =>
      apply find?_eq_of_answer
      · by_cases same : place = scope
        · subst same
          cases here : store.scope? place with
          | none => rw [scope?_define_self, here, Option.map_none]
          | some current =>
              have opened := store.scope?_define_self place name value
              rw [here, Option.map_some] at opened
              have different : asked ≠ name := by
                rintro rfl
                exact elsewhere ⟨rfl, .here opened (by simp [Scope.binds])⟩
              rw [opened, Option.map_some, Option.map_some, Scope.answer, Scope.answer,
                Bindings.value?_put_of_ne different]
        · rw [scope?_define_of_ne store same]
      · intro current outer opened unbound enclosed older
        -- If this place does not hold the name, the first holder outward is the first holder.
        apply ih outer older
        rintro ⟨rfl, first⟩
        exact elsewhere ⟨rfl, .outward opened (by simp [Scope.binds, unbound]) enclosed first⟩

end Define

end Store

end Ember
