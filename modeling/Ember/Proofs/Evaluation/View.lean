import Ember.Proofs.Evaluation.Correspondence

/-!
# Views of runs

Two runs that agree on the scopes that can be seen: these have the same numbers, the
same outer scopes and the same names in both stores, and values that are alike. The
functions in them were made in such scopes. The places of their literals may differ,
as long as they stand for each other one to one, and what the scopes hold that cannot
be seen may differ, too.
-/

namespace Ember

/-- What two runs have in common. -/
structure View where
  /-- The places that stand for each other. -/
  site : Site → Site → Prop
  /-- The scopes that can be seen. -/
  visible : ScopeId → Prop
  /-- The texts that there are. -/
  text : String → Prop
  test : Expr → Bool
  stmtTest : Stmt → Bool
  child : ∀ {left right : Site}, site left right →
    ∀ position, site (left.child position) (right.child position)
  oneToOne : ∀ {first second left right : Site}, site first left → site second right →
    (first = second ↔ left = right)
  append : ∀ {left right : String}, text left → text right → text (left ++ right)
  string : ∀ {content : String}, test (.string content) → text content

namespace View

/-- Functions from one scope that can be seen, with one body, at places that stand for
each other. -/
structure Closures (view : View) (left right : Closure) : Prop where
  site : view.site left.site right.site
  scope : left.scope = right.scope
  visible : view.visible left.scope
  parameters : left.parameters = right.parameters
  body : left.body = right.body
  passes : ∀ statement ∈ left.body, statement.all view.test view.stmtTest

theorem Closures.eq_iff {view : View} {first second left right : Closure}
    (firstAlike : view.Closures first left) (secondAlike : view.Closures second right) :
    first = second ↔ left = right := by
  have sites := view.oneToOne firstAlike.site secondAlike.site
  cases first
  cases second
  cases left
  cases right
  cases firstAlike.scope
  cases firstAlike.parameters
  cases firstAlike.body
  cases secondAlike.scope
  cases secondAlike.parameters
  cases secondAlike.body
  simpa using fun _ _ _ => sites

def likeness (view : View) : Likeness where
  closure := view.Closures
  text := view.text
  oneToOne := Closures.eq_iff
  append := view.append

/-- Contexts in one scope that can be seen. -/
structure Contexts (view : View) (left right : Context) : Prop where
  site : view.site left.site right.site
  scope : left.scope = right.scope
  visible : view.visible left.scope

/-- Scopes that look alike. -/
structure Scopes (view : View) (left right : Scope) : Prop where
  outer : left.outer = right.outer
  enclosed : ∀ outer ∈ left.outer, view.visible outer
  bindings : List.Forall₂
    (fun first second => first.1 = second.1 ∧ Alike view.likeness first.2 second.2)
    left.bindings right.bindings

/-- Stores that look alike. Scopes that are still to be opened can be seen. -/
structure Stores (view : View) (left right : Store) : Prop where
  size : left.scopes.size = right.scopes.size
  fresh : ∀ scope, left.scopes.size ≤ scope → view.visible scope
  scopes : ∀ scope, view.visible scope →
    Option.Rel view.Scopes (left.scope? scope) (right.scope? scope)

namespace Stores

variable {view : View} {left right : Store}

/-- A name is looked up alike in a scope that can be seen. -/
theorem find? (stores : view.Stores left right) {scope : ScopeId} (visible : view.visible scope)
    (name : String) :
    Option.Rel (Alike view.likeness) (left.find? name scope) (right.find? name scope) := by
  induction scope using Nat.strongRecOn with
  | _ scope ih =>
      have scopes := stores.scopes scope visible
      rw [Store.find?, Store.find?]
      generalize left.scope? scope = leftScope at scopes ⊢
      generalize right.scope? scope = rightScope at scopes ⊢
      cases scopes with
      | none => exact .none
      | @some leftScope rightScope scopes =>
          have found := Bindings.optionRel_value? scopes.bindings (fun _ _ pair => pair) name
          dsimp only
          rw [← scopes.outer]
          generalize Bindings.value? name leftScope.bindings = leftFound at found ⊢
          generalize Bindings.value? name rightScope.bindings = rightFound at found ⊢
          cases found with
          | some alike => exact .some alike
          | none =>
              cases enclosed : leftScope.outer with
              | none => exact .none
              | some outer =>
                  by_cases older : outer < scope
                  · simpa [older] using ih outer older (scopes.enclosed outer enclosed)
                  · simp [older]

theorem define (stores : view.Stores left right) (scope : ScopeId) (name : String)
    {leftValue rightValue : Value} (alike : Alike view.likeness leftValue rightValue) :
    view.Stores (left.define scope name leftValue) (right.define scope name rightValue) := by
  constructor
  · simpa [Store.define] using stores.size
  · simpa [Store.define] using stores.fresh
  · intro other visible
    have scopes := stores.scopes other visible
    by_cases same : other = scope
    · subst same
      rw [Store.scope?_define_self, Store.scope?_define_self]
      generalize left.scope? other = leftScope at scopes ⊢
      generalize right.scope? other = rightScope at scopes ⊢
      cases scopes with
      | none => exact .none
      | some scopes =>
          refine .some ⟨scopes.outer, scopes.enclosed, ?_⟩
          exact Bindings.forall₂_put scopes.bindings (fun _ _ pair => pair.1) ⟨rfl, alike⟩
    · rw [Store.scope?_define_of_ne left same, Store.scope?_define_of_ne right same]
      exact scopes

theorem enter (stores : view.Stores left right) {outer : Option ScopeId}
    (enclosed : ∀ scope ∈ outer, view.visible scope) :
    view.Stores (left.enter outer).2 (right.enter outer).2 := by
  constructor
  · simpa [Store.enter] using stores.size
  · intro scope opened
    apply stores.fresh
    simp only [Store.enter, Array.size_push] at opened
    exact Nat.le_of_succ_le opened
  · intro scope visible
    have next : (left.enter outer).1 = (right.enter outer).1 := stores.size
    by_cases same : scope = (left.enter outer).1
    · rw [same, Store.scope?_enter_self, next, Store.scope?_enter_self]
      exact .some ⟨rfl, enclosed, .nil⟩
    · rw [Store.scope?_enter_of_ne left outer same, Store.scope?_enter_of_ne right outer
        (next ▸ same)]
      exact stores.scopes scope visible

end Stores

/-- Runs with a view in common correspond. -/
def correspondence {Left Right : Type} (view : View) (leftSink : Sink Left)
    (rightSink : Sink Right) : Correspondence leftSink rightSink where
  values := view.likeness.matching
  test := view.test
  stmtTest := view.stmtTest
  binds _ := True
  context := view.Contexts
  store := view.Stores
  trace _ _ := True
  child contexts position :=
    ⟨view.child contexts.site position, contexts.scope, contexts.visible⟩
  string passes := .string (view.string passes)
  binding _ := trivial
  find _ contexts stores := by
    rw [← contexts.scope]
    exact stores.find? contexts.visible _
  define _ contexts stores alike := by
    rw [← contexts.scope]
    exact stores.define _ _ alike
  function passes contexts :=
    ⟨contexts.site, contexts.scope, contexts.visible, rfl, rfl, (Expr.all_function.mp passes).2⟩
  parameters closures := ⟨closures.parameters, fun _ _ => trivial⟩
  body closures := ⟨closures.body, closures.passes⟩
  enter closures stores := by
    refine ⟨⟨closures.site, stores.size, stores.fresh _ (Nat.le_refl _)⟩, ?_⟩
    rw [← closures.scope]
    apply stores.enter
    rintro scope ⟨⟩
    exact closures.visible
  observe _ _ := trivial

end View

end Ember
