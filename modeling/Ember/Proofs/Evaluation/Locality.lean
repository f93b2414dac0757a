import Ember.Proofs.Evaluation.Correspondence
import Ember.Proofs.Value.Captures

/-!
# Locality

An evaluation comes upon the scope that it is made in, the scopes around it and those of
the functions that it finds there, and what it opens itself. Nothing else has a part in it.

A region is a set of scopes that is left by no way outward and by no function; the scopes
that are opened in the course of a run are added to it. Two runs of one computation, from
stores that agree on the region, do the same, and the stores agree on the region
afterwards. With one store on both sides this says where the functions can have been made
that the run leaves in the store and in its result.
-/

namespace Ember

namespace Store

theorem size_define (store : Store) (scope : ScopeId) (name : String) (value : Value) :
    (store.define scope name value).scopes.size = store.scopes.size := by
  simp [define]

theorem size_enter (store : Store) (outer : Option ScopeId) :
    (store.enter outer).2.scopes.size = store.scopes.size + 1 := by
  simp [enter]

/-- The scopes that there are have the numbers below their count. -/
theorem isSome_scope?_iff {store : Store} {scope : ScopeId} :
    (store.scope? scope).isSome ↔ scope < store.scopes.size := by
  simp [scope?]

theorem lt_size_of_scope? {store : Store} {scope : ScopeId} {current : Scope}
    (opened : store.scope? scope = some current) : scope < store.scopes.size := by
  rw [← isSome_scope?_iff, opened]
  rfl

end Store

/-- Some scopes that were there when a run began, and how many there were. -/
structure Region where
  known : ScopeId → Prop
  start : Nat

namespace Region

/-- The scopes that can be come upon when there are so many: those known from the
beginning, and those opened since. -/
def reach (region : Region) (size : Nat) (scope : ScopeId) : Prop :=
  region.known scope ∨ (region.start ≤ scope ∧ scope < size)

theorem reach_mono {region : Region} {size larger : Nat} (grown : size ≤ larger) (scope : ScopeId)
    (reached : region.reach size scope) : region.reach larger scope := by
  rcases reached with known | ⟨later, opened⟩
  · exact .inl known
  · exact .inr ⟨later, Nat.lt_of_lt_of_le opened grown⟩

/-- A value that captures nothing but what can be come upon. -/
def Holds (region : Region) (size : Nat) (value : Value) : Prop :=
  value.Within (region.reach size)

theorem Holds.mono {region : Region} {size larger : Nat} {value : Value}
    (held : region.Holds size value) (grown : size ≤ larger) : region.Holds larger value :=
  Value.Within.mono held (region.reach_mono grown)

/-- Scopes that agree and lead nowhere else. When a scope was opened there were as many
scopes as its number says, and the scope around it was among them. -/
structure Scopes (region : Region) (size : Nat) (scope : ScopeId) (left right : Scope) : Prop where
  outer : left.outer = right.outer
  enclosed : ∀ outer ∈ left.outer, region.reach scope outer
  bindings : ∀ name, Bindings.value? name left.bindings = Bindings.value? name right.bindings
  held : ∀ name, ∀ value ∈ Bindings.value? name left.bindings, region.Holds size value

theorem Scopes.mono {region : Region} {size larger : Nat} {scope : ScopeId} {left right : Scope}
    (scopes : region.Scopes size scope left right) (grown : size ≤ larger) :
    region.Scopes larger scope left right :=
  ⟨scopes.outer, scopes.enclosed, scopes.bindings, fun name value bound =>
    (scopes.held name value bound).mono grown⟩

/-- Stores of one size that agree on a region. -/
structure Stores (region : Region) (left right : Store) : Prop where
  size : left.scopes.size = right.scopes.size
  started : region.start ≤ left.scopes.size
  scopes : ∀ scope, region.reach left.scopes.size scope →
    Option.Rel (region.Scopes left.scopes.size scope) (left.scope? scope) (right.scope? scope)

namespace Stores

variable {region : Region} {left right : Store}

/-- A name is found alike in a scope of the region, and what is found is held there. -/
theorem find? (stores : region.Stores left right) {scope : ScopeId}
    (reached : region.reach left.scopes.size scope) (name : String) :
    left.find? name scope = right.find? name scope ∧
      ∀ value ∈ left.find? name scope, region.Holds left.scopes.size value := by
  induction scope using Nat.strongRecOn with
  | _ scope ih =>
      have scopes := stores.scopes scope reached
      have nothing : ∀ value ∈ (none : Option Value), region.Holds left.scopes.size value := by
        intro value member
        cases member
      rw [Store.find?, Store.find?]
      generalize opened : left.scope? scope = leftScope at scopes ⊢
      generalize right.scope? scope = rightScope at scopes ⊢
      cases scopes with
      | none => exact ⟨rfl, nothing⟩
      | @some current other scopes =>
          dsimp only
          rw [← scopes.bindings, ← scopes.outer]
          cases bound : Bindings.value? name current.bindings with
          | some value =>
              refine ⟨rfl, ?_⟩
              rintro found ⟨⟩
              exact scopes.held name value bound
          | none =>
              cases enclosed : current.outer with
              | none => exact ⟨rfl, nothing⟩
              | some outer =>
                  have reachedOuter := region.reach_mono
                    (Nat.le_of_lt (Store.lt_size_of_scope? opened)) outer
                    (scopes.enclosed outer enclosed)
                  by_cases older : outer < scope
                  · simpa [older] using ih outer older reachedOuter
                  · simp [older]

theorem define (stores : region.Stores left right) (scope : ScopeId) (name : String) {value : Value}
    (held : region.Holds left.scopes.size value) :
    region.Stores (left.define scope name value) (right.define scope name value) := by
  constructor
  · rw [Store.size_define, Store.size_define, stores.size]
  · rw [Store.size_define]
    exact stores.started
  · rw [Store.size_define]
    intro other reached
    have scopes := stores.scopes other reached
    by_cases same : other = scope
    · subst same
      rw [Store.scope?_define_self, Store.scope?_define_self]
      generalize left.scope? other = leftScope at scopes ⊢
      generalize right.scope? other = rightScope at scopes ⊢
      cases scopes with
      | none => exact .none
      | some scopes =>
          refine .some ⟨scopes.outer, scopes.enclosed, ?_, ?_⟩
          · intro bound
            by_cases again : bound = name
            · rw [again, Bindings.value?_put_self, Bindings.value?_put_self]
            · rw [Bindings.value?_put_of_ne again, Bindings.value?_put_of_ne again]
              exact scopes.bindings bound
          · intro bound found member
            by_cases again : bound = name
            · rw [again, Bindings.value?_put_self] at member
              cases member
              exact held
            · rw [Bindings.value?_put_of_ne again] at member
              exact scopes.held bound found member
    · rw [Store.scope?_define_of_ne left same, Store.scope?_define_of_ne right same]
      exact scopes

theorem enter (stores : region.Stores left right) {outer : Option ScopeId}
    (enclosed : ∀ scope ∈ outer, region.reach left.scopes.size scope) :
    region.Stores (left.enter outer).2 (right.enter outer).2 := by
  constructor
  · rw [Store.size_enter, Store.size_enter, stores.size]
  · rw [Store.size_enter]
    exact Nat.le_succ_of_le stores.started
  · rw [Store.size_enter]
    intro scope reached
    have next : (left.enter outer).1 = (right.enter outer).1 := stores.size
    by_cases same : scope = (left.enter outer).1
    · rw [same, Store.scope?_enter_self, next, Store.scope?_enter_self, ← next]
      exact .some ⟨rfl, enclosed, fun _ => rfl, nofun⟩
    · have reachedBefore : region.reach left.scopes.size scope := by
        rcases reached with known | ⟨later, opened⟩
        · exact .inl known
        · exact .inr ⟨later, Nat.lt_of_le_of_ne (Nat.le_of_lt_succ opened) same⟩
      have scopes := stores.scopes scope reachedBefore
      rw [Store.scope?_enter_of_ne left outer same, Store.scope?_enter_of_ne right outer
        (next ▸ same)]
      generalize left.scope? scope = leftScope at scopes ⊢
      generalize right.scope? scope = rightScope at scopes ⊢
      cases scopes with
      | none => exact .none
      | some scopes => exact .some (scopes.mono (Nat.le_succ _))

end Stores

/-- What holds of a result, and of the value that a return carries, at the end of a
computation. -/
def EndHolds (region : Region) (size : Nat) {α : Type} (property : α → Prop) :
    Except Signal α → Prop
  | .ok result => property result
  | .error (.returned value) => region.Holds size value
  | .error (.failed _) | .error .exhausted => True

/-- What is known of what a sink keeps, while it hears of values that are held in a
region. -/
structure Listener (region : Region) {State : Type} (sink : Sink State) where
  kept : Nat → State → Prop
  mono : ∀ {size larger : Nat} {trace : State}, size ≤ larger → kept size trace →
    kept larger trace
  heard : ∀ {size : Nat} {kind : NodeKind} {result : Except Signal Value} {trace : State},
    region.EndHolds size (region.Holds size) result → kept size trace →
      kept size (sink.afterNode kind result trace)

/-- A sink of which nothing is known. -/
def anyListener (region : Region) {State : Type} (sink : Sink State) : region.Listener sink where
  kept _ _ := True
  mono _ _ := trivial
  heard _ _ := trivial

end Region

namespace Region.Listener

variable {region : Region} {State : Type} {sink : Sink State} (listener : region.Listener sink)

/-- Machines that agree on a region, and have heard the same. -/
structure Machines (left right : Machine State) : Prop where
  stores : region.Stores left.store right.store
  trace : left.trace = right.trace
  kept : listener.kept left.store.scopes.size left.trace

/-- Ends of two runs that began with so many scopes: the results are the same, and the
machines agree on the region. -/
structure Ends {α : Type} (size : Nat) (property : Nat → α → Prop)
    (left right : Except Signal α × Machine State) : Prop where
  result : left.1 = right.1
  grown : size ≤ left.2.store.scopes.size
  machines : listener.Machines left.2 right.2
  holds : region.EndHolds left.2.store.scopes.size (property left.2.store.scopes.size) left.1

/-- A computation that does the same on machines that agree on a region, once there are so
many scopes. -/
def Local {α : Type} (size : Nat) (property : Nat → α → Prop) (computation : Eval State α) : Prop :=
  ∀ left right : Machine State, size ≤ left.store.scopes.size → listener.Machines left right →
    listener.Ends left.store.scopes.size property (computation left) (computation right)

namespace Local

variable {listener} {α β : Type} {size : Nat} {property : Nat → α → Prop}
  {following : Nat → β → Prop}

theorem pure {result : α} (holds : ∀ larger, size ≤ larger → property larger result) :
    listener.Local size property (pure result) := by
  intro left right opened machines
  exact ⟨rfl, Nat.le_refl _, machines, holds _ opened⟩

/-- A value that is held will be held. -/
theorem value {value : Value} (held : region.Holds size value) :
    listener.Local size region.Holds (Pure.pure value) :=
  pure fun _ grown => held.mono grown

theorem fail (error : EvalError) :
    listener.Local size property (Eval.signal (.failed error)) := by
  intro left right opened machines
  exact ⟨rfl, Nat.le_refl _, machines, trivial⟩

theorem exhaust : listener.Local size property (Eval.signal .exhausted) := by
  intro left right opened machines
  exact ⟨rfl, Nat.le_refl _, machines, trivial⟩

theorem leave {value : Value} (held : region.Holds size value) :
    listener.Local size property (Eval.signal (.returned value)) := by
  intro left right opened machines
  exact ⟨rfl, Nat.le_refl _, machines, held.mono opened⟩

theorem ofOperation {operation : Except EvalError Value}
    (held : ∀ result, operation = .ok result → region.Holds size result) :
    listener.Local size region.Holds (Eval.ofOperation operation) := by
  cases operation with
  | ok result => exact value (held result rfl)
  | error error => exact fail error

/-- The two runs of a computation end with one result. -/
theorem exists_ends {computation : Eval State α} (first : listener.Local size property computation)
    {left right : Machine State} (opened : size ≤ left.store.scopes.size)
    (machines : listener.Machines left right) :
    ∃ result leftAfter rightAfter, computation left = (result, leftAfter) ∧
      computation right = (result, rightAfter) ∧
      left.store.scopes.size ≤ leftAfter.store.scopes.size ∧
      listener.Machines leftAfter rightAfter ∧
      region.EndHolds leftAfter.store.scopes.size (property leftAfter.store.scopes.size)
        result := by
  obtain ⟨result, grown, after, holds⟩ := first left right opened machines
  exact ⟨_, _, _, rfl, by rw [result], grown, after, holds⟩

theorem bind {computation : Eval State α} {next : α → Eval State β}
    (first : listener.Local size property computation)
    (second : ∀ larger result, size ≤ larger → property larger result →
      listener.Local larger following (next result)) :
    listener.Local size following (computation >>= next) := by
  intro left right opened machines
  obtain ⟨result, leftAfter, rightAfter, leftRun, rightRun, grown, after, holds⟩ :=
    first.exists_ends opened machines
  rw [Eval.bind_apply, Eval.bind_apply, leftRun, rightRun]
  cases result with
  | error signal => exact ⟨rfl, grown, after, by cases signal <;> exact holds⟩
  | ok result =>
      have ends := second _ result (Nat.le_trans opened grown) holds leftAfter rightAfter
        (Nat.le_refl _) after
      exact ⟨ends.result, Nat.le_trans grown ends.grown, ends.machines, ends.holds⟩

theorem attempt {computation : Eval State α} (first : listener.Local size property computation) :
    listener.Local size (fun larger result => ∀ value, result = .ok value → property larger value)
      computation.attempt := by
  intro left right opened machines
  obtain ⟨result, leftAfter, rightAfter, leftRun, rightRun, grown, after, holds⟩ :=
    first.exists_ends opened machines
  rw [Eval.attempt, Eval.attempt, leftRun, rightRun]
  rcases result with (value | error | _) | result
  · exact ⟨rfl, grown, after, holds⟩
  · refine ⟨rfl, grown, after, ?_⟩
    intro value impossible
    cases impossible
  · exact ⟨rfl, grown, after, trivial⟩
  · refine ⟨rfl, grown, after, ?_⟩
    rintro value ⟨⟩
    exact holds

theorem catchReturn {computation : Eval State Value}
    (first : listener.Local size region.Holds computation) :
    listener.Local size region.Holds computation.catchReturn := by
  intro left right opened machines
  obtain ⟨result, leftAfter, rightAfter, leftRun, rightRun, grown, after, holds⟩ :=
    first.exists_ends opened machines
  rw [Eval.catchReturn, Eval.catchReturn, leftRun, rightRun]
  rcases result with (value | error | _) | result
  · exact ⟨rfl, grown, after, holds⟩
  · exact ⟨rfl, grown, after, trivial⟩
  · exact ⟨rfl, grown, after, trivial⟩
  · exact ⟨rfl, grown, after, holds⟩

theorem observe {computation : Eval State Value}
    (first : listener.Local size region.Holds computation) (kind : NodeKind) :
    listener.Local size region.Holds (computation.observe sink kind) := by
  intro left right opened machines
  obtain ⟨result, grown, after, holds⟩ := first left right opened machines
  rw [Eval.observe_apply, Eval.observe_apply]
  refine ⟨result, grown, ⟨after.stores, ?_, listener.heard holds after.kept⟩, holds⟩
  rw [result, after.trace]

theorem find {scope : ScopeId} (reached : region.reach size scope) (name : String) :
    listener.Local size region.Holds (Eval.find scope name) := by
  intro left right opened machines
  obtain ⟨same, held⟩ := machines.stores.find? (region.reach_mono opened scope reached) name
  rw [Eval.find, Eval.find, ← same]
  cases found : left.store.find? name scope with
  | none => exact ⟨rfl, Nat.le_refl _, machines, trivial⟩
  | some value => exact ⟨rfl, Nat.le_refl _, machines, held value found⟩

theorem define (scope : ScopeId) (name : String) {value : Value}
    (held : region.Holds size value) :
    listener.Local size (fun _ _ => True) (Eval.define scope name value) := by
  intro left right opened machines
  have stores := machines.stores.define scope name (held.mono opened)
  have grown := left.store.size_define scope name value
  refine ⟨rfl, Nat.le_of_eq grown.symm, ⟨stores, machines.trace, ?_⟩, trivial⟩
  exact listener.mono (Nat.le_of_eq grown.symm) machines.kept

theorem enter {outer : ScopeId} (reached : region.reach size outer) :
    listener.Local size region.reach (Eval.enter outer) := by
  intro left right opened machines
  have enclosed : ∀ scope ∈ some outer, region.reach left.store.scopes.size scope := by
    rintro scope ⟨⟩
    exact region.reach_mono opened outer reached
  have stores := machines.stores.enter enclosed
  have grown := left.store.size_enter (some outer)
  have larger := Nat.le_of_lt (Nat.lt_of_lt_of_eq (Nat.lt_succ_self _) grown.symm)
  refine ⟨congrArg Except.ok machines.stores.size, larger,
    ⟨stores, machines.trace, listener.mono larger machines.kept⟩, ?_⟩
  exact .inr ⟨machines.stores.started, Nat.lt_of_lt_of_eq (Nat.lt_succ_self _) grown.symm⟩

end Local

section Productions

variable {listener} {size : Nat}

theorem local_bindAll (scope : ScopeId) {pairs : List (String × Value)}
    (held : ∀ pair ∈ pairs, region.Holds size pair.2) :
    listener.Local size (fun _ _ => True) (bindAll scope pairs) := by
  induction pairs generalizing size with
  | nil => exact .pure fun _ _ => trivial
  | cons pair rest ih =>
      rw [List.forall_mem_cons] at held
      apply (Local.define scope pair.1 held.1).bind
      intro larger _ grown _
      exact ih fun other member => (held.2 other member).mono grown

variable {recur : Node → Context → Eval State Value}

/-- The parts of a node are local, in whatever scope of the region they stand. -/
abbrev LocalParts (listener : region.Listener sink)
    (recur : Node → Context → Eval State Value) : Prop :=
  ∀ size node context, region.reach size context.scope →
    listener.Local size region.Holds (recur node context)

variable (parts : listener.LocalParts recur)
include parts

theorem local_evalAll {context : Context} (reached : region.reach size context.scope)
    (position : Nat) (expressions : List Expr) :
    listener.Local size (fun larger values => ∀ value ∈ values, region.Holds larger value)
      (evalAll recur context position expressions) := by
  induction expressions generalizing size position with
  | nil => exact .pure fun _ _ => List.forall_mem_nil _
  | cons expression rest ih =>
      apply (parts size (.expr expression) (context.child position) reached).bind
      intro larger value grown held
      apply (ih (region.reach_mono grown _ reached) (position + 1)).bind
      intro largest values further others
      refine .pure fun final last => List.forall_mem_cons.mpr ⟨?_, ?_⟩
      · exact held.mono (Nat.le_trans further last)
      · exact fun other member => (others other member).mono last

theorem local_evalStatements {context : Context} (reached : region.reach size context.scope)
    (position : Nat) {last : Value} (held : region.Holds size last) (statements : List Stmt) :
    listener.Local size region.Holds (evalStatements recur context position last statements) := by
  induction statements generalizing size position last with
  | nil => exact .value held
  | cons statement rest ih =>
      apply (parts size (.stmt statement) (context.child position) reached).bind
      intro larger value grown heldValue
      exact ih (region.reach_mono grown _ reached) (position + 1) heldValue

theorem local_evalBlock (context : Context) (reached : region.reach size context.scope)
    (block : Block) :
    listener.Local size region.Holds (evalBlock recur context block) :=
  local_evalStatements parts reached 0 Value.within_null block

theorem local_evalEntries {context : Context} (reached : region.reach size context.scope)
    (position : Nat) {entries : Bindings Key Value}
    (held : ∀ entry ∈ entries, region.Holds size entry.2) (pairs : List (Expr × Expr)) :
    listener.Local size (fun larger result => ∀ entry ∈ result, region.Holds larger entry.2)
      (evalEntries recur context position entries pairs) := by
  induction pairs generalizing size position entries with
  | nil => exact .pure fun _ grown entry member => (held entry member).mono grown
  | cons pair rest ih =>
      apply (parts size (.expr pair.1) (context.child position) reached).bind
      intro larger keyValue grown _
      have usable : listener.Local larger (fun _ _ => True) (Eval.ofOperation keyValue.asKey) := by
        cases keyValue.asKey with
        | ok key => exact .pure fun _ _ => trivial
        | error error => exact .fail error
      apply usable.bind
      intro middle key checked _
      have reachedLater := region.reach_mono (Nat.le_trans grown checked) _ reached
      apply (parts middle (.expr pair.2) (context.child (position + 1)) reachedLater).bind
      intro largest value further heldValue
      apply ih (region.reach_mono further _ reachedLater) (position + 2)
      apply Bindings.forall_put _ heldValue
      intro entry member
      exact (held entry member).mono (Nat.le_trans grown (Nat.le_trans checked further))

/-- A call is local, whoever makes it: it needs the scope of the function and what is held
in the arguments. -/
theorem local_applyClosure {closure : Closure} (reached : region.reach size closure.scope)
    {arguments : List Value} (held : ∀ argument ∈ arguments, region.Holds size argument) :
    listener.Local size region.Holds (applyClosure recur closure arguments) := by
  rw [applyClosure]
  split
  · apply (Local.enter reached).bind
    intro larger scope grown opened
    have bound : listener.Local larger (fun _ _ => True)
        (bindAll scope (closure.parameters.zip arguments)) := by
      apply local_bindAll
      intro pair member
      exact (held pair.2 (List.of_mem_zip member).2).mono grown
    apply bound.bind
    intro largest _ further _
    apply Local.catchReturn
    exact local_evalBlock parts ⟨scope, closure.site⟩ (region.reach_mono further _ opened)
      closure.body
  · exact .fail _

theorem local_applyCallee (callee : Expr) {arguments : List Value}
    (held : ∀ argument ∈ arguments, region.Holds size argument) {function : Except EvalError Value}
    (heldFunction : ∀ value, function = .ok value → region.Holds size value) :
    listener.Local size region.Holds (applyCallee recur callee arguments function) := by
  have named (failure : EvalError) :
      listener.Local size region.Holds (applyBuiltin callee arguments failure) := by
    rw [applyBuiltin]
    split
    · exact .ofOperation fun _ applied => Builtin.within_apply held applied
    · exact .fail failure
  unfold applyCallee
  split
  · next closure =>
      have reached := heldFunction (.function closure) rfl
      exact local_applyClosure parts (Value.within_function.mp reached) held
  · exact named _
  · exact named _

/-- The meaning of an expression is local if that of its parts is. -/
theorem local_expr_step {context : Context} (reached : region.reach size context.scope)
    (expression : Expr) :
    listener.Local size region.Holds (expression.step recur context) := by
  have part (expression : Expr) (position : Nat) {larger : Nat} (grown : size ≤ larger) :
      listener.Local larger region.Holds (recur (.expr expression) (context.child position)) :=
    parts larger (.expr expression) (context.child position) (region.reach_mono grown _ reached)
  cases expression with
  | identifier name => exact .find reached name
  | integer value => exact .value (Value.within_integer value)
  | string content => exact .value (Value.within_string content)
  | boolean value => exact .value (Value.within_boolean value)
  | function parameters body => exact .value (Value.within_function.mpr reached)
  | array elements =>
      apply (local_evalAll parts reached 0 elements).bind
      intro larger values _ held
      exact .value (Value.within_array.mpr held)
  | hash pairs =>
      apply (local_evalEntries parts reached 0 (List.forall_mem_nil _) pairs).bind
      intro larger entries _ held
      exact .value (Value.within_hash.mpr held)
  | unary operator operand =>
      apply (part operand 0 (Nat.le_refl _)).bind
      intro larger value _ _
      exact .ofOperation fun _ applied => UnaryOperator.within_apply applied
  | binary operator left right =>
      apply (part left 0 (Nat.le_refl _)).bind
      intro larger leftValue grown _
      apply (part right 1 grown).bind
      intro largest rightValue _ _
      exact .ofOperation fun _ applied => BinaryOperator.within_apply applied
  | conditional condition consequence alternative =>
      apply (part condition 0 (Nat.le_refl _)).bind
      intro larger value grown _
      have reachedLater := region.reach_mono grown _ reached
      split
      · exact local_evalBlock parts (context.child 1) reachedLater consequence
      · cases alternative with
        | none => exact .value Value.within_null
        | some block => exact local_evalBlock parts (context.child 2) reachedLater block
  | call callee arguments =>
      apply (local_evalAll parts reached 1 arguments).bind
      intro larger values grown held
      apply (part callee 0 grown).attempt.bind
      intro largest function further heldFunction
      exact local_applyCallee parts callee
        (fun argument member => (held argument member).mono further) heldFunction
  | index collection position =>
      apply (part collection 0 (Nat.le_refl _)).bind
      intro larger subject grown held
      apply (part position 1 grown).bind
      intro largest place further _
      exact .ofOperation fun _ applied => Value.within_elementAt (held.mono further) applied

/-- So is the meaning of a statement. -/
theorem local_stmt_step {context : Context} (reached : region.reach size context.scope)
    (statement : Stmt) :
    listener.Local size region.Holds (statement.step recur context) := by
  have part (value : Expr) :
      listener.Local size region.Holds (recur (.expr value) (context.child 0)) :=
    parts size (.expr value) (context.child 0) reached
  cases statement with
  | binding name value =>
      apply (part value).bind
      intro larger bound _ held
      apply (Local.define context.scope name held).bind
      intro largest _ further _
      exact .value (held.mono further)
  | leaving value =>
      apply (part value).bind
      intro larger result _ held
      exact .leave held
  | expression value => exact part value

end Productions

/-- Evaluation is local, at every bound on the nesting. -/
theorem localParts_evalNode (depth : Nat) : listener.LocalParts (evalNode sink depth) := by
  induction depth with
  | zero =>
      intro size node context reached
      exact .exhaust
  | succ depth ih =>
      intro size node context reached
      apply Local.observe
      cases node with
      | expr expression => exact local_expr_step ih reached expression
      | stmt statement => exact local_stmt_step ih reached statement

/-- Programs in a scope of the region. -/
theorem local_evalProgram (depth : Nat) (context : Context) (program : Program)
    {left right : Machine State} (reached : region.reach left.store.scopes.size context.scope)
    (machines : listener.Machines left right) :
    listener.Ends left.store.scopes.size region.Holds
      (evalBlock (evalNode sink depth) context program left)
      (evalBlock (evalNode sink depth) context program right) :=
  local_evalBlock (listener.localParts_evalNode depth) context reached program left right
    (Nat.le_refl _) machines

end Region.Listener

end Ember
