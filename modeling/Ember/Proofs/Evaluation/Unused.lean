import Ember.Proofs.Evaluation.Correspondence
import Ember.Proofs.Value.Captures

/-!
# Unused names

A name that occurs neither in a program nor in a function that the program can come upon has
no part in the run of the program: whether a scope binds it, and to what, makes no
difference, also where it is the name of a built-in function.

The two runs, with and without the binding, make the same values. Their functions do not
mention the name, so the runs look up and bind other names only, and the stores stay the same
but for that one binding.
-/

namespace Ember

section Names

variable (name : String)

/-- Whether an expression by itself does not mention a name. -/
def Expr.avoids : Expr → Bool
  | .identifier found => found ≠ name
  | .function parameters _ => name ∉ parameters
  | _ => true

/-- Whether a statement by itself does not mention a name. -/
def Stmt.avoids : Stmt → Bool
  | .binding bound _ => bound ≠ name
  | _ => true

/-- A name that occurs nowhere in some statements. -/
def Block.Avoids (block : Block) : Prop :=
  ∀ statement ∈ block, statement.all (Expr.avoids name) (Stmt.avoids name)

instance (block : Block) : Decidable (Block.Avoids name block) :=
  inferInstanceAs (Decidable (∀ _ ∈ _, _))

/-- A name that occurs neither among the parameters nor in the body of a function. -/
structure Closure.Avoids (closure : Closure) : Prop where
  parameters : name ∉ closure.parameters
  body : Block.Avoids name closure.body

/-- A name that occurs in no function that is bound in a store, at any depth of a value. -/
def Store.Avoids (store : Store) : Prop :=
  ∀ scope current, store.scope? scope = some current →
    ∀ binding ∈ current.bindings, binding.2.Each (Closure.Avoids name)

end Names

section Itself

variable (property : Closure → Prop)

/-- The result of an operation is the same as itself. -/
theorem agree_self {operation : Except EvalError Value}
    (each : ∀ result, operation = .ok result → result.Each property) :
    Agree (fun left right => left = right ∧ left.Each property) operation operation := by
  cases operation with
  | ok result => exact .ok ⟨rfl, each result rfl⟩
  | error error => exact .error error

theorem structural_itself :
    Structural fun left right => left = right ∧ left.Each property where
  shape := by
    rintro value _ ⟨rfl, each⟩
    cases value with
    | array elements =>
        refine .array (List.forall₂_same.mpr ?_)
        exact fun element member => ⟨rfl, Value.each_array.mp each element member⟩
    | hash entries =>
        refine .hash ?_
        intro key
        cases found : Bindings.value? key entries with
        | none => exact .none
        | some value =>
            exact .some ⟨rfl, Value.each_hash.mp each _ (Bindings.mem_of_value? found)⟩
    | _ => constructor
  integer value := ⟨rfl, Value.each_of_parts rfl nofun⟩
  array := by
    intro left right same
    have elements : left = right ∧ ∀ element ∈ left, element.Each property := by
      induction same with
      | nil => exact ⟨rfl, List.forall_mem_nil _⟩
      | cons first _ ih =>
          exact ⟨congrArg₂ List.cons first.1 ih.1, List.forall_mem_cons.mpr ⟨first.2, ih.2⟩⟩
    exact ⟨congrArg Value.array elements.1, Value.each_array.mpr elements.2⟩
  null := ⟨rfl, Value.each_of_parts rfl nofun⟩

/-- Values match themselves only, and all functions in them have some property. -/
def Matching.itself : Matching where
  alike left right := left = right ∧ left.Each property
  closure left right := left = right ∧ property left
  structural := structural_itself property
  boolean value := ⟨rfl, Value.each_of_parts rfl nofun⟩
  function := by
    intro left right
    rw [Value.each_function, Value.function.injEq]
  noEntries := ⟨rfl, Value.each_hash.mpr (List.forall_mem_nil _)⟩
  put := by
    rintro _ _ _ _ _ _ key - - ⟨rfl, each⟩ ⟨⟨⟩, entriesEach⟩
    exact ⟨rfl, Value.each_hash.mpr (Bindings.forall_put (Value.each_hash.mp entriesEach) each)⟩
  unary := by
    rintro operator operand _ ⟨rfl, -⟩
    exact agree_self property fun _ applied => (UnaryOperator.within_apply applied).each property
  binary := by
    rintro operator left _ right _ ⟨rfl, -⟩ ⟨rfl, -⟩
    exact agree_self property fun _ applied => (BinaryOperator.within_apply applied).each property

end Itself

namespace Store

/-- What a scope itself binds a name to. -/
def bound? (store : Store) (name : String) (scope : ScopeId) : Option Value :=
  (store.scope? scope).bind fun current => Bindings.value? name current.bindings

theorem bound?_define_of_ne (store : Store) {name bound : String} (different : name ≠ bound)
    (scope place : ScopeId) (value : Value) :
    (store.define place bound value).bound? name scope = store.bound? name scope := by
  by_cases same : scope = place
  · subst same
    rw [bound?, bound?, scope?_define_self]
    cases store.scope? scope with
    | none => rfl
    | some current => exact Bindings.value?_put_of_ne different value current.bindings
  · rw [bound?, bound?, scope?_define_of_ne store same]

/-- A name that was bound anew has the new value, or the scope is another one. -/
theorem bound?_define_self (store : Store) (place : ScopeId) (name : String) (value : Value)
    (scope : ScopeId) :
    (store.define place name value).bound? name scope = some value ∨
      (store.define place name value).bound? name scope = store.bound? name scope := by
  by_cases same : scope = place
  · subst same
    rw [bound?, bound?, scope?_define_self]
    cases store.scope? scope with
    | none => exact .inr rfl
    | some current => exact .inl (Bindings.value?_put_self name value current.bindings)
  · exact .inr (by rw [bound?, bound?, scope?_define_of_ne store same])

theorem bound?_enter (store : Store) (name : String) (scope : ScopeId) (outer : Option ScopeId) :
    (store.enter outer).2.bound? name scope = store.bound? name scope := by
  by_cases same : scope = (store.enter outer).1
  · have absent : store.scope? scope = none := by simp [same, enter, scope?]
    rw [bound?, bound?, absent, same, scope?_enter_self]
    rfl
  · rw [bound?, bound?, scope?_enter_of_ne store outer same]

end Store

/-- Scopes in the same place that agree on all names but one. -/
structure Scope.AgreeExcept (name : String) (left right : Scope) : Prop where
  outer : left.outer = right.outer
  bindings : ∀ other, other ≠ name →
    Bindings.value? other left.bindings = Bindings.value? other right.bindings

/-- Stores that are the same but for what one scope binds a name to: something in one store,
something else in the other. No function that another name is bound to mentions the name. -/
structure Store.SameBut (name : String) (scope : ScopeId) (leftBound rightBound : Option Value)
    (left right : Store) : Prop where
  size : left.scopes.size = right.scopes.size
  others : ∀ other, other ≠ scope → left.scope? other = right.scope? other
  own : Option.Rel (Scope.AgreeExcept name) (left.scope? scope) (right.scope? scope)
  avoids : ∀ place other, other ≠ name → ∀ value ∈ left.bound? other place,
    value.Each (Closure.Avoids name)
  leftKept : left.bound? name scope = leftBound
  rightKept : right.bound? name scope = rightBound

namespace Store.SameBut

variable {name : String} {scope : ScopeId} {leftBound rightBound : Option Value}
  {left right : Store} (same : SameBut name scope leftBound rightBound left right)
include same

theorem scopes (place : ScopeId) :
    Option.Rel (Scope.AgreeExcept name) (left.scope? place) (right.scope? place) := by
  by_cases here : place = scope
  · rw [here]
    exact same.own
  · rw [← same.others place here]
    cases left.scope? place with
    | none => exact .none
    | some current => exact .some ⟨rfl, fun _ _ => rfl⟩

/-- Every other name is found alike. -/
theorem find? {other : String} (different : other ≠ name) (place : ScopeId) :
    left.find? other place = right.find? other place ∧
      ∀ value ∈ left.find? other place, value.Each (Closure.Avoids name) := by
  -- A look-up goes on in scopes with smaller numbers.
  induction place using Nat.strongRecOn with
  | _ place ih =>
      have scopes := same.scopes place
      have avoids := same.avoids place other different
      rw [Store.find?, Store.find?]
      rw [Store.bound?] at avoids
      generalize left.scope? place = leftScope at scopes avoids ⊢
      generalize right.scope? place = rightScope at scopes ⊢
      cases scopes with
      | none => simp
      | @some current _ scopes =>
          dsimp only at avoids ⊢
          rw [← scopes.bindings other different, ← scopes.outer]
          rw [Option.bind_some] at avoids
          cases bound : Bindings.value? other current.bindings with
          | some value =>
              rw [bound] at avoids
              exact ⟨rfl, avoids⟩
          | none =>
              cases current.outer with
              | none => simp
              | some outer =>
                  by_cases older : outer < place
                  · simpa [older] using ih outer older
                  · simp [older]

/-- Binding another name, to the same value in both. -/
theorem define (place : ScopeId) {bound : String} (different : bound ≠ name) {value : Value}
    (avoids : value.Each (Closure.Avoids name)) :
    SameBut name scope leftBound rightBound (left.define place bound value)
      (right.define place bound value) where
  size := by simpa [Store.define] using same.size
  others := by
    intro other apart
    by_cases here : other = place
    · rw [here] at apart ⊢
      rw [scope?_define_self, scope?_define_self, same.others place apart]
    · rw [scope?_define_of_ne left here, scope?_define_of_ne right here, same.others other apart]
  own := by
    have own := same.own
    by_cases here : scope = place
    · rw [here] at own ⊢
      rw [scope?_define_self, scope?_define_self]
      generalize left.scope? place = leftScope at own ⊢
      generalize right.scope? place = rightScope at own ⊢
      cases own with
      | none => exact .none
      | some own =>
          refine .some ⟨own.outer, ?_⟩
          intro other otherDifferent
          by_cases again : other = bound
          · rw [again, Bindings.value?_put_self, Bindings.value?_put_self]
          · rw [Bindings.value?_put_of_ne again, Bindings.value?_put_of_ne again,
              own.bindings other otherDifferent]
    · rw [scope?_define_of_ne left here, scope?_define_of_ne right here]
      exact own
  avoids := by
    intro other found otherDifferent
    by_cases again : found = bound
    · rw [again] at otherDifferent ⊢
      intro held member
      rcases bound?_define_self left place bound value other with new | old
      · rw [new] at member
        cases member
        exact avoids
      · rw [old] at member
        exact same.avoids other bound otherDifferent held member
    · rw [bound?_define_of_ne left again]
      exact same.avoids other found otherDifferent
  leftKept := (bound?_define_of_ne left different.symm scope place value).trans same.leftKept
  rightKept := (bound?_define_of_ne right different.symm scope place value).trans same.rightKept

theorem enter (outer : Option ScopeId) :
    SameBut name scope leftBound rightBound (left.enter outer).2 (right.enter outer).2 := by
  have next : (left.enter outer).1 = (right.enter outer).1 := same.size
  have opened (place : ScopeId) (here : place = (left.enter outer).1) :
      (left.enter outer).2.scope? place = some ⟨[], outer⟩ ∧
        (right.enter outer).2.scope? place = some ⟨[], outer⟩ := by
    rw [here, scope?_enter_self, next, scope?_enter_self]
    exact ⟨rfl, rfl⟩
  have unchanged (place : ScopeId) (elsewhere : place ≠ (left.enter outer).1) :
      (left.enter outer).2.scope? place = left.scope? place ∧
        (right.enter outer).2.scope? place = right.scope? place :=
    ⟨scope?_enter_of_ne left outer elsewhere, scope?_enter_of_ne right outer (next ▸ elsewhere)⟩
  refine ⟨by simpa [Store.enter] using same.size, ?_, ?_, ?_, ?_, ?_⟩
  · intro other apart
    by_cases here : other = (left.enter outer).1
    · rw [(opened other here).1, (opened other here).2]
    · rw [(unchanged other here).1, (unchanged other here).2, same.others other apart]
  · by_cases here : scope = (left.enter outer).1
    · rw [(opened scope here).1, (opened scope here).2]
      exact .some ⟨rfl, fun _ _ => rfl⟩
    · rw [(unchanged scope here).1, (unchanged scope here).2]
      exact same.own
  · intro place other different
    rw [bound?_enter]
    exact same.avoids place other different
  · rw [bound?_enter, same.leftKept]
  · rw [bound?_enter, same.rightKept]

end Store.SameBut

/-- Ends with values that match themselves are the same. -/
theorem EndsAlike.eq {property : Closure → Prop} {left right : Except Signal Value}
    (ends : EndsAlike (Matching.itself property).alike (Matching.itself property).alike
      left right) : left = right := by
  cases ends with
  | ok same => exact congrArg Except.ok same.1
  | returned same => exact congrArg (Except.error ∘ Signal.returned) same.1
  | failed | exhausted => rfl

/-- Runs from two stores that differ in a name that neither mentions. -/
def unusedCorrespondence {State : Type} (sink : Sink State) (name : String) (scope : ScopeId)
    (leftBound rightBound : Option Value) : Correspondence sink sink where
  values := .itself (Closure.Avoids name)
  test := Expr.avoids name
  stmtTest := Stmt.avoids name
  binds other := other ≠ name
  context left right := left = right
  store := Store.SameBut name scope leftBound rightBound
  trace left right := left = right
  child := by
    rintro context _ rfl position
    rfl
  string _ := ⟨rfl, Value.each_of_parts rfl nofun⟩
  binding passes := by simpa [Stmt.avoids] using passes
  find := by
    rintro other context _ left right passes rfl same
    have different : other ≠ name := by simpa [Expr.all, Expr.avoids] using passes
    obtain ⟨found, avoids⟩ := same.find? different context.scope
    rw [← found]
    generalize left.find? other context.scope = result at avoids ⊢
    cases result with
    | none => exact .none
    | some value => exact .some ⟨rfl, avoids value rfl⟩
  define := by
    rintro bound context _ left right value _ different rfl same ⟨rfl, avoids⟩
    exact same.define context.scope different avoids
  function := by
    rintro parameters body context _ passes rfl
    obtain ⟨unused, inside⟩ := Expr.all_function.mp passes
    exact ⟨rfl, by simpa [Expr.avoids] using unused, inside⟩
  parameters := by
    rintro closure _ ⟨rfl, avoids⟩
    exact ⟨rfl, fun other member same => avoids.parameters (same ▸ member)⟩
  body := by
    rintro closure _ ⟨rfl, avoids⟩
    exact ⟨rfl, avoids.body⟩
  enter := by
    rintro closure _ left right ⟨rfl, -⟩ same
    -- The scope of the call has the same number in both stores.
    refine ⟨?_, same.enter (some closure.scope)⟩
    rw [Store.enter, Store.enter, same.size]
  observe := by
    rintro kind left right trace _ ends rfl
    rw [ends.eq]

/-- Binding a name that nothing mentions leaves two such stores. -/
theorem Store.Avoids.sameBut {store : Store} {name : String} (avoids : store.Avoids name)
    (scope : ScopeId) (value : Value) :
    SameBut name scope (store.bound? name scope) ((store.define scope name value).bound? name scope)
      store (store.define scope name value) where
  size := by simp [Store.define]
  others other apart := (scope?_define_of_ne store apart name value).symm
  own := by
    rw [scope?_define_self]
    cases store.scope? scope with
    | none => exact .none
    | some current =>
        exact .some ⟨rfl, fun other different =>
          (Bindings.value?_put_of_ne different value current.bindings).symm⟩
  avoids := by
    intro place other _ held member
    obtain ⟨current, opened, bound⟩ := Option.bind_eq_some_iff.mp member
    exact avoids place current opened _ (Bindings.mem_of_value? bound)
  leftKept := rfl
  rightKept := rfl

/-- A name that occurs neither in a program nor in any function in the store has no part in the
run of the program. Binding it in the scope of the program, to any value, changes neither
whether the program ends, nor its outcome, nor its trace, and the stores are the same
afterwards but for that binding, which both runs leave as it was. -/
theorem evalProgram_unused {State : Type} (sink : Sink State) (trace : State) (store : Store)
    (context : Context) (program : Program) (value : Value) (name : String)
    (unused : Block.Avoids name program) (untouched : store.Avoids name) :
    let bound := store.define context.scope name value
    ((∃ depth, (evalProgram sink depth context program ⟨store, trace⟩).1 ≠ .exhausted) ↔
      ∃ depth, (evalProgram sink depth context program ⟨bound, trace⟩).1 ≠ .exhausted) ∧
    ∀ depth,
      let leftEnd := evalProgram sink depth context program ⟨store, trace⟩
      let rightEnd := evalProgram sink depth context program ⟨bound, trace⟩
      leftEnd.1 = rightEnd.1 ∧ leftEnd.2.trace = rightEnd.2.trace ∧
        (∀ scope, scope ≠ context.scope →
          leftEnd.2.store.scope? scope = rightEnd.2.store.scope? scope) ∧
        Option.Rel (Scope.AgreeExcept name) (leftEnd.2.store.scope? context.scope)
          (rightEnd.2.store.scope? context.scope) ∧
        leftEnd.2.store.bound? name context.scope = store.bound? name context.scope ∧
        rightEnd.2.store.bound? name context.scope = bound.bound? name context.scope := by
  intro bound
  let same := unusedCorrespondence sink name context.scope (store.bound? name context.scope)
    (bound.bound? name context.scope)
  have started : same.machine ⟨store, trace⟩ ⟨bound, trace⟩ :=
    ⟨untouched.sameBut context.scope value, rfl⟩
  have runs (depth : Nat) := Correspondence.related_evalBlock (same.related_evalNode depth)
    (show same.context context context from rfl) unused _ _ started
  have outcomes (depth : Nat) : (evalProgram sink depth context program ⟨store, trace⟩).1 =
      (evalProgram sink depth context program ⟨bound, trace⟩).1 :=
    congrArg Completion.ofResult (runs depth).1.eq
  refine ⟨by simp only [outcomes], ?_⟩
  intro depth
  obtain ⟨stores, traces⟩ := (runs depth).2
  exact ⟨outcomes depth, traces, stores.others, stores.own, stores.leftKept, stores.rightKept⟩

/-- A function that gives the first element of an array. -/
def firstReader : Closure :=
  ⟨.root 0, 0, ["y"], [.expression (.call (.identifier "first") [.identifier "y"])]⟩

/-- A name of a built-in function that is not called may be bound without any effect. -/
theorem evalProgram_unused_len :
    let store : Store := ⟨#[⟨[("read", .function firstReader)], none⟩]⟩
    let program : Program :=
      [.binding "z" (.call (.identifier "read") [.array [.boolean true]])]
    Block.Avoids "len" program ∧ store.Avoids "len" ∧
      (evalProgram .silent 6 ⟨0, .root 1⟩ program ⟨store, ()⟩).1 =
        (evalProgram .silent 6 ⟨0, .root 1⟩ program
          ⟨store.define 0 "len" (.boolean false), ()⟩).1 := by
  intro store program
  have unused : Block.Avoids "len" program := by decide
  have untouched : store.Avoids "len" := by
    intro scope current opened binding member
    have first : current = ⟨[("read", .function firstReader)], none⟩ := by
      cases scope with
      | zero => exact (Option.some.inj opened).symm
      | succ scope => simp [store, Store.scope?] at opened
    cases first
    cases List.mem_singleton.mp member
    exact Value.each_function.mpr ⟨by decide, by decide⟩
  exact ⟨unused, untouched, ((evalProgram_unused .silent () store ⟨0, .root 1⟩ program
    (.boolean false) "len" unused untouched).2 6).1⟩

end Ember
