import Ember.Proofs.Session.Basic

/-!
# Sound worlds

Not every list of entries is a hash, and not every number is that of a program. In the
worlds of a session every hash has each of its keys once, and every function comes from
a program that was parsed before. Every evaluation of a source preserves that.
-/

namespace Ember

/-- What must hold of a single part of a value. -/
def Value.SoundPart (programs : Nat) : Value → Prop
  | .function closure => closure.site.program < programs
  | .hash entries => (Bindings.keys entries).Nodup
  | .integer _ | .boolean _ | .string _ | .array _ | .null => True

/-- A value that a session can hold after so many programs. -/
def Value.Sound (programs : Nat) (value : Value) : Prop :=
  ∀ part ∈ value.parts, part.SoundPart programs

/-- A world that holds only such values. -/
def World.Sound (world : World) : Prop :=
  ∀ scope current, world.store.scope? scope = some current →
    ∀ binding ∈ current.bindings, binding.2.Sound world.programs

namespace Value

variable {programs : Nat}

theorem sound_array {elements : List Value} :
    (Value.array elements).Sound programs ↔ ∀ element ∈ elements, element.Sound programs :=
  forall_parts_array.trans (and_iff_right trivial)

theorem sound_hash {entries : Bindings Key Value} :
    (Value.hash entries).Sound programs ↔
      (Bindings.keys entries).Nodup ∧ ∀ entry ∈ entries, entry.2.Sound programs := by
  refine forall_parts_hash.trans (and_congr_right fun _ => ?_)
  refine forall₂_congr fun entry _ => and_iff_right ?_
  cases entry.1 <;> trivial

end Value

/-- Places that stand for each other, one to one, with the places inside them. -/
structure Renaming where
  site : Site → Site → Prop
  child : ∀ {left right : Site}, site left right →
    ∀ position, site (left.child position) (right.child position)
  oneToOne : ∀ {first second left right : Site}, site first left → site second right →
    (first = second ↔ left = right)

/-- The view of two runs that differ at most in the places of function literals. -/
def Renaming.view (moved : Renaming) : View where
  site := moved.site
  visible _ := True
  text _ := True
  test _ := true
  stmtTest _ := true
  child := moved.child
  oneToOne := moved.oneToOne
  append _ _ := trivial
  string _ := trivial

/-- No renaming, and no places but those of so many programs. -/
def Renaming.within (programs : Nat) : Renaming where
  site left right := left = right ∧ left.program < programs
  child := by
    rintro left _ ⟨rfl, below⟩ position
    exact ⟨rfl, below⟩
  oneToOne := by
    rintro first second _ _ ⟨rfl, -⟩ ⟨rfl, -⟩
    rfl

section Kept

variable {moved : Renaming} {programs : Nat}
  (kept : ∀ place : Site, place.program < programs → moved.site place place)
include kept

/-- Where the places of the programs so far are kept, a sound value is like itself. -/
theorem Value.Sound.alike {value : Value} (sound : value.Sound programs) :
    Alike moved.view.likeness value value := by
  induction value using Value.induct with
  | integer value => exact .integer value
  | boolean value => exact .boolean value
  | string content => exact .string trivial
  | null => exact .null
  | function closure =>
      have placed := kept closure.site (sound _ (List.mem_singleton.mpr rfl))
      exact .function ⟨placed, rfl, trivial, rfl, rfl, fun statement _ =>
        hereditary_all_true.everyStmt statement⟩
  | array elements ih =>
      refine .array (List.forall₂_same.mpr ?_)
      intro element member
      exact ih element member (Value.sound_array.mp sound element member)
  | hash entries ih =>
      obtain ⟨different, each⟩ := Value.sound_hash.mp sound
      refine .hash different (List.forall₂_same.mpr ?_)
      intro entry member
      have usual : moved.view.likeness.key entry.1 := by
        cases entry.1 <;> trivial
      exact .entry usual (ih entry member (each entry member))

theorem World.Sound.stores {store : Store} (sound : World.Sound ⟨store, programs⟩) :
    moved.view.Stores store store := by
  refine ⟨rfl, fun _ _ => trivial, ?_⟩
  intro scope _
  cases opened : store.scope? scope with
  | none => exact .none
  | some current =>
      refine .some ⟨rfl, fun _ _ => trivial, List.forall₂_same.mpr ?_⟩
      intro binding member
      exact ⟨rfl, (sound scope current opened binding member).alike kept⟩

end Kept

/-- What is like itself without a renaming is sound. -/
theorem Alike.sound {programs : Nat} {left right : Value}
    (alike : Alike (Renaming.within programs).view.likeness left right) : left.Sound programs := by
  intro part member
  obtain ⟨_, partAlike⟩ := alike.exists_part member
  cases partAlike with
  | function closures => exact closures.site.2
  | hash different _ => exact different
  | _ => trivial

theorem View.Stores.sound {programs : Nat} {left right : Store}
    (stores : (Renaming.within programs).view.Stores left right) :
    World.Sound ⟨left, programs⟩ := by
  intro scope current (opened : left.scope? scope = some current) binding member
  have scopes := stores.scopes scope trivial
  rw [opened] at scopes
  generalize right.scope? scope = other at scopes
  cases scopes with
  | some scopes =>
      obtain ⟨_, _, alike⟩ := exists_of_forall₂ scopes.bindings member
      exact alike.sound

/-- And what is sound is like itself, also after more programs. -/
theorem World.Sound.within {world : World} (sound : world.Sound) {programs : Nat}
    (more : world.programs ≤ programs) :
    (Renaming.within programs).view.Stores world.store world.store := by
  apply sound.stores
  intro place below
  exact ⟨rfl, Nat.lt_of_lt_of_le below more⟩

namespace World

/-- The worlds of a session are sound: the first one is. -/
theorem sound_empty : World.empty.Sound := by
  intro scope current opened
  simp [World.empty, Store.empty, Store.scope?] at opened

namespace Sound

variable {world : World} (sound : world.Sound)
include sound

/-- Opening a scope leaves a world sound. -/
theorem enter (outer : Option ScopeId) : (world.enter outer).2.Sound :=
  ((sound.within (Nat.le_refl _)).enter fun _ _ => trivial).sound

/-- So does binding a sound value. -/
theorem define (scope : ScopeId) (name : String) {value : Value}
    (valueSound : value.Sound world.programs) : (world.define scope name value).Sound := by
  have alike : Alike (Renaming.within world.programs).view.likeness value value := by
    apply valueSound.alike
    intro place below
    exact ⟨rfl, below⟩
  exact ((sound.within (Nat.le_refl _)).define scope name alike).sound

/-- An evaluation of a source is like itself, without a renaming. -/
theorem alike_evaluateWith {State : Type} (sink : Sink State) (depth : Nat) (source : String)
    (scope : ScopeId) (trace : State) :
    OutcomesAlike (Renaming.within (world.programs + 1)).view.likeness
        (evaluateWith sink depth source scope world trace).outcome
        (evaluateWith sink depth source scope world trace).outcome ∧
      (Renaming.within (world.programs + 1)).view.Stores
        (evaluateWith sink depth source scope world trace).world.store
        (evaluateWith sink depth source scope world trace).world.store := by
  have contexts : (Renaming.within (world.programs + 1)).view.Contexts
      ⟨scope, .root world.programs⟩ ⟨scope, .root world.programs⟩ :=
    ⟨⟨rfl, Nat.lt_succ_self _⟩, rfl, trivial⟩
  exact View.evaluateWith _ sink sink depth source
    (fun _ _ statement _ => hereditary_all_true.everyStmt statement) contexts
    (sound.within (Nat.le_succ _)) trace trace

/-- So does every evaluation of a source. -/
theorem evaluateWith {State : Type} (sink : Sink State) (depth : Nat) (source : String)
    (scope : ScopeId) (trace : State) :
    (evaluateWith sink depth source scope world trace).world.Sound := by
  cases parsed : (Parsing.ofSource source).result with
  | error errors =>
      rw [(evaluateWith_of_error sink depth scope world trace parsed).2]
      exact sound
  | ok program =>
      have after := (sound.alike_evaluateWith sink depth source scope trace).2.sound
      rw [(evaluateWith_of_ok sink depth scope world trace parsed).2] at after ⊢
      exact after

/-- A source comes to a sound value. -/
theorem outcome {State : Type} {sink : Sink State} {depth : Nat} {source : String}
    {scope : ScopeId} {trace : State} {value : Value}
    (ended : (Ember.evaluateWith sink depth source scope world trace).outcome = .value value) :
    value.Sound (world.programs + 1) := by
  have alike := (sound.alike_evaluateWith sink depth source scope trace).1
  rw [ended] at alike
  cases alike with
  | value alike => exact alike.sound

end Sound

end World

end Ember
