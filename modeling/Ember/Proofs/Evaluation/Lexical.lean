import Ember.Proofs.Evaluation.Locality

/-!
# Lexical scoping

What an evaluation comes to is settled by the scopes that it can get to: from the scope of
the program, or from the scope of a function that is called and the functions among its
arguments, outward and through the functions that names are bound to. Two stores that agree
there give the same outcome and the same trace, whatever they hold elsewhere. So a call
does not depend on who makes it.
-/

namespace Ember

/-- Scopes in the same place that give every name the same value. -/
structure Scope.Agrees (left right : Scope) : Prop where
  outer : left.outer = right.outer
  bindings : ∀ name, Bindings.value? name left.bindings = Bindings.value? name right.bindings

namespace Store

/-- Two stores agree on a scope: neither has it, or it is the same in both. -/
def AgreeOn (left right : Store) (scope : ScopeId) : Prop :=
  Option.Rel Scope.Agrees (left.scope? scope) (right.scope? scope)

/-- Some scopes that no way leads out of: neither outward, nor by a function that is bound
in one of them, at any depth of a value. -/
structure Closed (store : Store) (reach : ScopeId → Prop) : Prop where
  outer : ∀ scope current, reach scope → store.scope? scope = some current →
    ∀ outer ∈ current.outer, reach outer
  captured : ∀ scope current, reach scope → store.scope? scope = some current →
    ∀ name, ∀ value ∈ Bindings.value? name current.bindings, value.Within reach

/-- The scopes that ways lead to from some others. -/
inductive Reachable (store : Store) (roots : ScopeId → Prop) : ScopeId → Prop where
  | root {scope : ScopeId} : roots scope → Reachable store roots scope
  | outer {scope outer : ScopeId} {current : Scope} : Reachable store roots scope →
      store.scope? scope = some current → outer ∈ current.outer → Reachable store roots outer
  | captured {scope other : ScopeId} {current : Scope} {name : String} {value : Value} :
      Reachable store roots scope → store.scope? scope = some current →
        value ∈ Bindings.value? name current.bindings → value.Captures other →
          Reachable store roots other

theorem closed_reachable (store : Store) (roots : ScopeId → Prop) :
    store.Closed (store.Reachable roots) where
  outer _ _ reached opened _ enclosed := .outer reached opened enclosed
  captured _ _ reached opened _ _ bound _ captures := .captured reached opened bound captures

/-- What can be reached lies in every closed set that holds the roots. -/
theorem Reachable.of_closed {store : Store} {roots reach : ScopeId → Prop} {scope : ScopeId}
    (reachable : store.Reachable roots scope) (closed : store.Closed reach)
    (inside : ∀ root, roots root → reach root) : reach scope := by
  induction reachable with
  | root isRoot => exact inside _ isRoot
  | outer _ opened enclosed ih => exact closed.outer _ _ ih opened _ enclosed
  | captured _ opened bound captures ih => exact closed.captured _ _ ih opened _ _ bound _ captures

end Store

section Runs

variable {left right : Store} {reach : ScopeId → Prop}

/-- A closed set of scopes is a region that stores can agree on. -/
theorem Store.Closed.stores (closed : left.Closed reach)
    (sameSize : left.scopes.size = right.scopes.size)
    (agree : ∀ scope, reach scope → left.AgreeOn right scope) :
    Region.Stores ⟨reach, left.scopes.size⟩ left right := by
  refine ⟨sameSize, Nat.le_refl _, ?_⟩
  rintro scope (reached | ⟨later, opened⟩)
  · have agreed := agree scope reached
    rw [AgreeOn] at agreed
    generalize opened : left.scope? scope = leftScope at agreed ⊢
    generalize right.scope? scope = rightScope at agreed ⊢
    cases agreed with
    | none => exact .none
    | some agreed =>
        refine .some ⟨agreed.outer, ?_, agreed.bindings, ?_⟩
        · intro outer enclosed
          exact .inl (closed.outer scope _ reached opened outer enclosed)
        · intro name value bound other captures
          exact .inl (closed.captured scope _ reached opened name value bound other captures)
  · exact absurd opened (Nat.not_lt.mpr later)

/-- Stores that agree on a region agree on all of its scopes, and on all that were opened
since it was laid out. -/
theorem Region.Stores.agreeOn {region : Region} (stores : region.Stores left right)
    {scope : ScopeId} (inside : region.known scope ∨ region.start ≤ scope) :
    left.AgreeOn right scope := by
  by_cases reached : region.reach left.scopes.size scope
  · have scopes := stores.scopes scope reached
    rw [Store.AgreeOn]
    generalize left.scope? scope = leftScope at scopes ⊢
    generalize right.scope? scope = rightScope at scopes ⊢
    cases scopes with
    | none => exact .none
    | some scopes => exact .some ⟨scopes.outer, scopes.bindings⟩
  · -- The scope was not opened yet, in either store.
    have beyond : left.scopes.size ≤ scope := by
      rcases inside with known | later
      · exact absurd (.inl known) reached
      · exact Nat.not_lt.mp fun opened => reached (.inr ⟨later, opened⟩)
    have leftNone : left.scope? scope = none := by simpa [Store.scope?] using beyond
    have rightNone : right.scope? scope = none := by
      simpa [Store.scope?, ← stores.size] using beyond
    rw [Store.AgreeOn, leftNone, rightNone]
    exact .none

end Runs

/-- Evaluation is local. Take two stores with the same number of scopes.

If they agree on some scopes that no way leads out of, then every program that is evaluated
in one of these ends in one store exactly if it ends in the other; with every sink and every
bound on the nesting it has the same outcome and the same trace; and the stores still agree
on these scopes, and on all that were opened meanwhile.

If they agree on what can be reached from the scope of a function and from the functions
among some arguments, then calling that function with these arguments has the same outcome
and the same trace, and the stores agree afterwards. The scope of the caller need not be
among these. -/
theorem evalProgram_lexical {State : Type} (sink : Sink State) (trace : State) {left right : Store}
    (sameSize : left.scopes.size = right.scopes.size) :
    (∀ reach : ScopeId → Prop, left.Closed reach →
      (∀ scope, reach scope → left.AgreeOn right scope) →
        ∀ (context : Context) (program : Program), reach context.scope →
          ((∃ depth, (evalProgram sink depth context program ⟨left, trace⟩).1 ≠ .exhausted) ↔
            ∃ depth, (evalProgram sink depth context program ⟨right, trace⟩).1 ≠ .exhausted) ∧
          ∀ depth,
            let leftEnd := evalProgram sink depth context program ⟨left, trace⟩
            let rightEnd := evalProgram sink depth context program ⟨right, trace⟩
            leftEnd.1 = rightEnd.1 ∧ leftEnd.2.trace = rightEnd.2.trace ∧
              ∀ scope, reach scope ∨ left.scopes.size ≤ scope →
                leftEnd.2.store.AgreeOn rightEnd.2.store scope) ∧
    ∀ (closure : Closure) (arguments : List Value),
      let reach := left.Reachable fun scope =>
        scope = closure.scope ∨ ∃ argument ∈ arguments, argument.Captures scope
      (∀ scope, reach scope → left.AgreeOn right scope) → ∀ depth,
        let leftEnd := applyClosure (evalNode sink depth) closure arguments ⟨left, trace⟩
        let rightEnd := applyClosure (evalNode sink depth) closure arguments ⟨right, trace⟩
        leftEnd.1 = rightEnd.1 ∧ leftEnd.2.trace = rightEnd.2.trace ∧
          ∀ scope, reach scope ∨ left.scopes.size ≤ scope →
            leftEnd.2.store.AgreeOn rightEnd.2.store scope := by
  constructor
  · intro reach closed agree context program inside
    let listener := Region.anyListener ⟨reach, left.scopes.size⟩ sink
    have machines : listener.Machines ⟨left, trace⟩ ⟨right, trace⟩ :=
      ⟨closed.stores sameSize agree, rfl, trivial⟩
    have runs (depth : Nat) :=
      listener.local_evalProgram depth context program (.inl inside) machines
    have outcomes (depth : Nat) : (evalProgram sink depth context program ⟨left, trace⟩).1 =
        (evalProgram sink depth context program ⟨right, trace⟩).1 :=
      congrArg Completion.ofResult (runs depth).result
    refine ⟨?_, fun depth => ⟨outcomes depth, (runs depth).machines.trace, ?_⟩⟩
    · simp only [outcomes]
    · intro scope reached
      exact (runs depth).machines.stores.agreeOn reached
  · intro closure arguments reach agree depth
    have closed : left.Closed reach := left.closed_reachable _
    let listener := Region.anyListener ⟨reach, left.scopes.size⟩ sink
    have held : ∀ argument ∈ arguments,
        Region.Holds ⟨reach, left.scopes.size⟩ left.scopes.size argument := by
      intro argument member scope captures
      exact .inl (.root (.inr ⟨argument, member, captures⟩))
    have run := Region.Listener.local_applyClosure (listener.localParts_evalNode depth)
      (.inl (.root (.inl rfl))) held ⟨left, trace⟩ ⟨right, trace⟩ (Nat.le_refl _)
      ⟨closed.stores sameSize agree, rfl, trivial⟩
    refine ⟨run.result, run.machines.trace, ?_⟩
    intro scope reached
    exact run.machines.stores.agreeOn reached

/-- A function that gives the value of `y`, made in the first scope. -/
def outerReader : Closure :=
  ⟨.root 0, 0, ["x"], [.expression (.identifier "y")]⟩

/-- The first scope binds `y` and the function. A caller stands inside it, with bindings of
its own. -/
def storeWithCaller (caller : Bindings String Value) : Store :=
  ⟨#[⟨[("y", .boolean true), ("read", .function outerReader)], none⟩, ⟨caller, some 0⟩]⟩

theorem closed_storeWithCaller (caller : Bindings String Value) :
    (storeWithCaller caller).Closed (· = 0) := by
  have outermost {scope : ScopeId} {current : Scope} (first : scope = 0)
      (opened : (storeWithCaller caller).scope? scope = some current) :
      current = ⟨[("y", .boolean true), ("read", .function outerReader)], none⟩ := by
    subst first
    exact (Option.some.inj opened).symm
  constructor
  · intro scope current first opened outer enclosed
    cases outermost first opened
    cases enclosed
  · intro scope current first opened name value bound
    cases outermost first opened
    have member := Bindings.mem_of_value? bound
    simp only [List.mem_cons, Prod.mk.injEq, List.not_mem_nil, or_false] at member
    rcases member with ⟨-, rfl⟩ | ⟨-, rfl⟩
    · exact Value.within_boolean true
    · exact Value.within_function.mpr rfl

theorem agreeOn_storeWithCaller (caller other : Bindings String Value) :
    (storeWithCaller caller).AgreeOn (storeWithCaller other) 0 :=
  .some ⟨rfl, fun _ => rfl⟩

/-- Two callers bind `y` in their own ways. A program in the scope around them and a call of
the function come to the same for both. -/
theorem evalProgram_lexical_callers :
    let left := storeWithCaller [("y", .boolean false)]
    let right := storeWithCaller [("y", .null), ("x", .null)]
    let program : Program := [.expression (.call (.identifier "read") [.boolean false])]
    left.scopes.size = right.scopes.size ∧ left.Closed (· = 0) ∧ left.AgreeOn right 0 ∧
      (evalProgram .silent 5 ⟨0, .root 1⟩ program ⟨left, ()⟩).1 =
        (evalProgram .silent 5 ⟨0, .root 1⟩ program ⟨right, ()⟩).1 ∧
      (applyClosure (evalNode .silent 3) outerReader [.null] ⟨left, ()⟩).1 =
        (applyClosure (evalNode .silent 3) outerReader [.null] ⟨right, ()⟩).1 := by
  intro left right program
  have closed : left.Closed (· = 0) := closed_storeWithCaller _
  have agree : left.AgreeOn right 0 := agreeOn_storeWithCaller _ _
  have sameSize : left.scopes.size = right.scopes.size := rfl
  obtain ⟨programs, calls⟩ := evalProgram_lexical .silent () sameSize
  refine ⟨sameSize, closed, agree, ?_, ?_⟩
  · have runs := programs (· = 0) closed (fun scope first => first ▸ agree) ⟨0, .root 1⟩ program rfl
    exact (runs.2 5).1
  · refine (calls outerReader [.null] ?_ 3).1
    intro scope reachable
    have first : scope = 0 := by
      apply reachable.of_closed closed
      rintro root (own | ⟨argument, member, captures⟩)
      · exact own
      · cases List.mem_singleton.mp member
        have nothing : Value.null.Within (· = 0) := Value.within_null
        exact nothing root captures
    exact first ▸ agree

end Ember
