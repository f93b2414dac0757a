import Ember.Text.Joined
import Ember.Text.Quoted
import Ember.Text.Sorted
import Ember.Value.Identity

/-!
# Scopes and the store

A scope binds names to values and may be enclosed in another scope. The store
holds all scopes that were ever opened, numbered in the order in which they were
opened; a scope is never removed, and its outer scope never changes. A name is
looked up in a scope and then outward.

A scope can be enclosed only in one that was opened before it, so that the
numbers fall on the way outward and every look-up ends.
-/

namespace Ember

/-- The bindings of one scope, and the scope around it. -/
structure Scope where
  bindings : Bindings String Value
  outer : Option ScopeId
  deriving DecidableEq, Repr

namespace Scope

/-- The number of names that a scope binds itself. -/
def size (scope : Scope) : Nat :=
  scope.bindings.length

/-- Whether a scope binds a name itself. -/
def binds (scope : Scope) (name : String) : Bool :=
  (Bindings.value? name scope.bindings).isSome

/-- A description of a scope for diagnosis: the names that it binds itself, in
order, and whether there is a scope around it. -/
def describe (scope : Scope) : String :=
  let names := Text.sorted (Bindings.keys scope.bindings)
  "Environment \x7b bindings: [" ++ Text.joined ", " (names.map Text.quoted) ++ "], enclosed: " ++
    (if scope.outer.isSome then "true" else "false") ++ " \x7d"

end Scope

/-- All scopes, each at its number. -/
structure Store where
  scopes : Array Scope
  deriving DecidableEq, Repr

namespace Store

/-- No scopes. -/
def empty : Store := ⟨#[]⟩

/-- The scope of a number, if it was opened. -/
def scope? (store : Store) (scope : ScopeId) : Option Scope :=
  store.scopes[scope]?

/-- Opens a scope without bindings. -/
def enter (store : Store) (outer : Option ScopeId) : ScopeId × Store :=
  (store.scopes.size, ⟨store.scopes.push ⟨[], outer⟩⟩)

/-- Binds a name in a scope itself, whatever the scopes around it hold. -/
def define (store : Store) (scope : ScopeId) (name : String) (value : Value) : Store :=
  ⟨store.scopes.modify scope fun current =>
    { current with bindings := Bindings.put name value current.bindings }⟩

/-- The value of a name in a scope, or in the nearest scope around it that binds
the name. -/
def find? (store : Store) (name : String) (scope : ScopeId) : Option Value :=
  match store.scope? scope with
  | none => none
  | some current =>
    match Bindings.value? name current.bindings with
    | some value => some value
    | none =>
      match current.outer with
      | none => none
      | some outer => if outer < scope then store.find? name outer else none
termination_by scope

/-- A name that a scope binds itself is found there. -/
theorem find?_of_bound {store : Store} {name : String} {scope : ScopeId} {current : Scope}
    {value : Value} (opened : store.scope? scope = some current)
    (bound : Bindings.value? name current.bindings = some value) :
    store.find? name scope = some value := by
  rw [find?]
  simp [opened, bound]

/-- A name that a scope does not bind itself is looked up in the scope around
it. -/
theorem find?_of_unbound {store : Store} {name : String} {scope outer : ScopeId}
    {current : Scope} (opened : store.scope? scope = some current)
    (unbound : Bindings.value? name current.bindings = none)
    (enclosed : current.outer = some outer) (older : outer < scope) :
    store.find? name scope = store.find? name outer := by
  rw [find?]
  simp [opened, unbound, enclosed, older]

theorem scope?_enter_self (store : Store) (outer : Option ScopeId) :
    (store.enter outer).2.scope? (store.enter outer).1 = some ⟨[], outer⟩ := by
  simp [enter, scope?]

/-- Opening a scope changes no other one. -/
theorem scope?_enter_of_ne (store : Store) (outer : Option ScopeId) {scope : ScopeId}
    (different : scope ≠ (store.enter outer).1) :
    (store.enter outer).2.scope? scope = store.scope? scope := by
  simp only [enter, ne_eq] at different
  simp [enter, scope?, Array.getElem?_push, different]

theorem scope?_define_self (store : Store) (scope : ScopeId) (name : String) (value : Value) :
    (store.define scope name value).scope? scope =
      (store.scope? scope).map fun current =>
        { current with bindings := Bindings.put name value current.bindings } := by
  simp [define, scope?, Array.getElem?_modify]

/-- Binding a name in one scope changes no other one. -/
theorem scope?_define_of_ne (store : Store) {scope other : ScopeId} (different : other ≠ scope)
    (name : String) (value : Value) :
    (store.define scope name value).scope? other = store.scope? other := by
  simp [define, scope?, Array.getElem?_modify, different.symm]

end Store

end Ember
