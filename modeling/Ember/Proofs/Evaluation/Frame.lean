import Ember.Proofs.Evaluation.Effect

/-!
# The frame of an evaluation

Scopes are shared: closures hold them, and scopes are enclosed in them. Still an
evaluation changes no scope that was there before, except the one in which it takes
place, and that one only at the names of its `let` statements.
-/

namespace Ember

/-- A scope that stays where it is, keeps its names, and has changed at most at some
of them. -/
structure Scope.Grows (names : List String) (before after : Scope) : Prop where
  outer : after.outer = before.outer
  kept : ∀ name, before.binds name → after.binds name
  confined : ∀ name, name ∉ names →
    Bindings.value? name after.bindings = Bindings.value? name before.bindings

namespace Scope.Grows

variable {names : List String}

theorem refl (scope : Scope) : Grows names scope scope := by
  constructor
  · rfl
  · intro name bound
    exact bound
  · intro name _
    rfl

theorem trans {before middle after : Scope} (first : Grows names before middle)
    (second : Grows names middle after) : Grows names before after := by
  constructor
  · rw [second.outer, first.outer]
  · intro name bound
    exact second.kept name (first.kept name bound)
  · intro name other
    rw [second.confined name other, first.confined name other]

theorem put (scope : Scope) {name : String} (value : Value) (member : name ∈ names) :
    Grows names scope { scope with bindings := Bindings.put name value scope.bindings } := by
  have elsewhere {other : String} (different : other ≠ name) :
      Bindings.value? other (Bindings.put name value scope.bindings) =
        Bindings.value? other scope.bindings :=
    Bindings.value?_put_of_ne different value scope.bindings
  constructor
  · rfl
  · intro other bound
    by_cases same : other = name
    · rw [same, binds, Bindings.value?_put_self]
      rfl
    · rw [binds, elsewhere same]
      exact bound
  · intro other free
    apply elsewhere
    rintro rfl
    exact free member

end Scope.Grows

/-- What an evaluation in a scope leaves of the scopes that were there before: all
others as they are, and the scope itself grown at some names. -/
structure Store.Frame (scope : ScopeId) (names : List String) (before after : Store) : Prop where
  others : ∀ other current, other ≠ scope → before.scope? other = some current →
    after.scope? other = some current
  own : ∀ current, before.scope? scope = some current →
    ∃ grown, after.scope? scope = some grown ∧ current.Grows names grown

/-- A scope that was there before is not the one that is opened, and it stays. -/
theorem Store.scope?_enter_of_some {store : Store} {scope : ScopeId} {current : Scope}
    (opened : store.scope? scope = some current) (outer : Option ScopeId) :
    scope ≠ (store.enter outer).1 ∧ (store.enter outer).2.scope? scope = some current := by
  have different : scope ≠ (store.enter outer).1 := by
    rintro rfl
    simp [scope?, enter] at opened
  constructor
  · exact different
  · rw [scope?_enter_of_ne store outer different, opened]

namespace Store.Frame

variable {scope : ScopeId} {names : List String}

theorem refl (store : Store) : Frame scope names store store := by
  constructor
  · intro other current _ opened
    exact opened
  · intro current opened
    exact ⟨current, opened, .refl current⟩

theorem trans {before middle after : Store} (first : Frame scope names before middle)
    (second : Frame scope names middle after) : Frame scope names before after := by
  constructor
  · intro other current different opened
    exact second.others other current different (first.others other current different opened)
  · intro current opened
    rcases first.own current opened with ⟨between, stillOpened, grows⟩
    rcases second.own between stillOpened with ⟨grown, remains, growsOn⟩
    exact ⟨grown, remains, grows.trans growsOn⟩

theorem define (store : Store) {name : String} (value : Value) (member : name ∈ names) :
    Frame scope names store (store.define scope name value) := by
  constructor
  · intro other current different opened
    rw [scope?_define_of_ne store different, opened]
  · intro current opened
    refine ⟨_, ?_, .put current value member⟩
    rw [scope?_define_self, opened]
    rfl

/-- Whatever is written in a scope that was opened, the scopes before it stay. -/
theorem enter {before after : Store} {outer : Option ScopeId} {others : List String}
    (inside : Frame (before.enter outer).1 others (before.enter outer).2 after) :
    Frame scope names before after := by
  have stays : ∀ other current, before.scope? other = some current →
      after.scope? other = some current := by
    intro other current opened
    rcases scope?_enter_of_some opened outer with ⟨different, entered⟩
    exact inside.others other current different entered
  constructor
  · intro other current _ opened
    exact stays other current opened
  · intro current opened
    exact ⟨current, stays scope current opened, .refl current⟩

end Store.Frame

/-- Every effect has its frame. -/
theorem Effect.frame {scope : ScopeId} {names : List String} {before after : Store}
    (effect : Effect scope names before after) : Store.Frame scope names before after := by
  induction effect with
  | nothing => exact .refl _
  | andThen _ _ firstIH secondIH => exact firstIH.trans secondIH
  | binding value member => exact .define _ value member
  | call closure _ insideIH => exact insideIH.enter

/-- However the evaluation of a program in a scope ends, all scopes that were there
before stay as they were, except the one of the program. That one stays where it is
and keeps its names, and at a name where it has changed, the program has a `let`
outside of function literals. All else that was written, was written in scopes that
calls have opened. -/
theorem evalProgram_frame {State : Type} (sink : Sink State) (depth : Nat) (context : Context)
    (program : Program) (machine : Machine State) :
    (∀ other current, other ≠ context.scope → machine.store.scope? other = some current →
      (evalProgram sink depth context program machine).2.store.scope? other = some current) ∧
    (∀ current, machine.store.scope? context.scope = some current →
      ∃ grown,
        (evalProgram sink depth context program machine).2.store.scope? context.scope = some grown ∧
          grown.outer = current.outer ∧ (∀ name, current.binds name → grown.binds name) ∧
          ∀ name,
            Bindings.value? name grown.bindings ≠ Bindings.value? name current.bindings →
              name ∈ program.lets) ∧
    Effect context.scope program.lets machine.store
      (evalProgram sink depth context program machine).2.store := by
  have effect := effect_evalProgram sink depth context program machine
  refine ⟨effect.frame.others, ?_, effect⟩
  intro current opened
  rcases effect.frame.own current opened with ⟨grown, remains, grows⟩
  refine ⟨grown, remains, grows.outer, grows.kept, ?_⟩
  intro name changed
  by_cases member : name ∈ program.lets
  · exact member
  · exact absurd (grows.confined name member) changed

end Ember
