import Mathlib.Data.List.Dedup
import Ember.Proofs.Value.Likeness

/-!
# Entries

Entries with different keys are a finite map: what is found for a key does not depend on
their order. Pairs that are put one after the other give such entries, and the last pair of
every key is the one that stays.
-/

namespace Ember.Bindings

variable {α β : Type} [DecidableEq α] {bindings : Bindings α β}

/-- Among different keys every entry is the one that is found for its key. -/
theorem value?_eq_some_iff (different : (keys bindings).Nodup) {key : α} {value : β} :
    value? key bindings = some value ↔ (key, value) ∈ bindings := by
  induction bindings with
  | nil => simp
  | cons pair rest ih =>
      obtain ⟨bound, found⟩ := pair
      obtain ⟨fresh, others⟩ := List.nodup_cons.mp different
      rw [value?, List.mem_cons, ← ih others]
      by_cases same : bound = key
      · subst same
        have absent : value? bound rest ≠ some value := by
          intro again
          exact fresh (List.mem_map.mpr ⟨_, (ih others).mp again, rfl⟩)
        simp [absent, eq_comm]
      · simp [same, Ne.symm same]

/-- A key that is not bound is not found. -/
theorem value?_eq_none_iff {key : α} : value? key bindings = none ↔ key ∉ keys bindings := by
  rw [← value?_isSome_iff, Option.not_isSome_iff_eq_none]

/-- The order of the entries has no part in what is found. -/
theorem value?_eq_of_perm {other : Bindings α β} (same : bindings.Perm other)
    (different : (keys bindings).Nodup) (key : α) : value? key bindings = value? key other := by
  have otherDifferent : (keys other).Nodup := ((same.map Prod.fst).nodup_iff).mp different
  apply Option.ext
  intro value
  rw [value?_eq_some_iff different, value?_eq_some_iff otherDifferent, same.mem_iff]

/-- Puts pairs one after the other. -/
def putAll (bindings : Bindings α β) (pairs : List (α × β)) : Bindings α β :=
  pairs.foldl (fun current pair => put pair.1 pair.2 current) bindings

@[simp] theorem putAll_nil : putAll bindings [] = bindings := rfl

@[simp] theorem putAll_cons (pair : α × β) (pairs : List (α × β)) :
    putAll bindings (pair :: pairs) = putAll (put pair.1 pair.2 bindings) pairs := rfl

/-- The last pair of a key wins. -/
theorem value?_putAll (key : α) (pairs : List (α × β)) :
    value? key (putAll bindings pairs) =
      (pairs.reverse.lookup key).or (value? key bindings) := by
  induction pairs generalizing bindings with
  | nil => rfl
  | cons pair rest ih =>
      obtain ⟨bound, value⟩ := pair
      rw [putAll_cons, ih, List.reverse_cons, List.lookup_append, Option.or_assoc]
      congr 1
      by_cases same : key = bound
      · simp [same]
      · have other : (key == bound) = false := beq_false_of_ne same
        simp [List.lookup_cons, value?_put_of_ne same, other]

theorem nodup_keys_putAll (different : (keys bindings).Nodup) (pairs : List (α × β)) :
    (keys (putAll bindings pairs)).Nodup := by
  induction pairs generalizing bindings with
  | nil => exact different
  | cons pair rest ih => exact ih (nodup_keys_put different pair.1 pair.2)

theorem nodup_keys_putAll_nil (pairs : List (α × β)) : (keys (putAll [] pairs)).Nodup :=
  nodup_keys_putAll (show (keys ([] : Bindings α β)).Nodup from List.nodup_nil) pairs

/-- Every entry was put for its key. -/
theorem mem_of_mem_putAll {pairs : List (α × β)} {entry : α × β}
    (member : entry ∈ putAll [] pairs) : entry ∈ pairs := by
  have found := (value?_eq_some_iff (nodup_keys_putAll_nil pairs)).mpr member
  rw [value?_putAll, value?_nil, Option.or_none, List.lookup_eq_some_iff] at found
  obtain ⟨before, behind, split, -⟩ := found
  rw [← List.mem_reverse, split]
  exact List.mem_append_right _ List.mem_cons_self

theorem mem_keys_putAll {key : α} {pairs : List (α × β)} :
    key ∈ keys (putAll bindings pairs) ↔ key ∈ keys bindings ∨ key ∈ pairs.map Prod.fst := by
  induction pairs generalizing bindings with
  | nil => simp
  | cons pair rest ih =>
      have put : key ∈ keys (put pair.1 pair.2 bindings) ↔ key ∈ keys bindings ∨ key = pair.1 := by
        rw [keys_put]
        split
        · next bound =>
            constructor
            · exact .inl
            · rintro (old | rfl)
              · exact old
              · exact bound
        · simp
      rw [putAll_cons, ih, put, List.map_cons, List.mem_cons, or_assoc]

/-- There are as many entries as there are different keys. -/
theorem length_putAll (pairs : List (α × β)) :
    (putAll [] pairs).length = (pairs.map Prod.fst).dedup.length := by
  have same : (keys (putAll [] pairs)).Perm (pairs.map Prod.fst).dedup := by
    rw [List.perm_ext_iff_of_nodup (nodup_keys_putAll_nil pairs) (List.nodup_dedup _)]
    intro key
    rw [mem_keys_putAll, List.mem_dedup]
    simp [keys]
  simpa [keys] using same.length_eq

theorem put_of_fresh {key : α} (fresh : key ∉ keys bindings) (value : β) :
    put key value bindings = bindings ++ [(key, value)] := by
  induction bindings with
  | nil => rfl
  | cons pair rest ih =>
      rw [keys, List.map_cons, List.mem_cons, not_or] at fresh
      rw [put, if_neg (Ne.symm fresh.1), ih fresh.2, List.cons_append]

/-- Pairs of different keys become entries as they are. -/
theorem putAll_of_nodup {pairs : List (α × β)} (different : (keys (bindings ++ pairs)).Nodup) :
    putAll bindings pairs = bindings ++ pairs := by
  induction pairs generalizing bindings with
  | nil => rw [putAll_nil, List.append_nil]
  | cons pair rest ih =>
      have fresh : pair.1 ∉ keys bindings := by
        rw [keys, List.map_append, List.nodup_append] at different
        intro bound
        exact different.2.2 _ bound _ List.mem_cons_self rfl
      rw [List.append_cons] at different ⊢
      rw [putAll_cons, put_of_fresh fresh, ih different]

end Ember.Bindings
