import Ember.Text.Cluster
import Ember.Text.Size

/-!
# Erasure

A backspace in a text takes back the cluster in front of it. It does nothing at
the beginning of the text, and it is never part of the result.

How much there is to take back is kept in one byte for each cluster. Of a
cluster of 256 bytes or more only the remainder is taken back.
-/

namespace Ember.Text

/-- Takes back what is in front of it. -/
def backspace : Char := '\x08'

/-- A text in the course of erasure. -/
structure Erasing where
  /-- The text so far, from its end. -/
  written : List Char
  /-- How much the backspaces to come take back, the next one first. -/
  sizes : List Nat
  deriving DecidableEq, Repr

namespace Erasing

/-- Goes on by one cluster. A backspace is a cluster of its own. -/
def next (state : Erasing) (cluster : List Char) : Erasing :=
  if cluster = [backspace] then
    match state.sizes with
    | [] => state
    | size :: sizes => ⟨dropBytes size state.written, sizes⟩
  else
    ⟨cluster.reverse ++ state.written, byteSize cluster % 256 :: state.sizes⟩

/-- A cluster of less than 256 bytes is gone after a backspace. -/
theorem next_next_backspace {state : Erasing} {cluster : List Char}
    (visible : cluster ≠ [backspace]) (small : byteSize cluster < 256) :
    (state.next cluster).next [backspace] = state := by
  simp only [next, if_neg visible, if_true, Nat.mod_eq_of_lt small]
  rw [← byteSize_reverse cluster, dropBytes_byteSize_append]

/-- Clusters among which there is no backspace are all written. -/
theorem written_foldl_next {clusters : List (List Char)} (state : Erasing)
    (absent : [backspace] ∉ clusters) :
    (clusters.foldl next state).written = clusters.flatten.reverse ++ state.written := by
  induction clusters generalizing state with
  | nil => rfl
  | cons cluster rest hypothesis =>
    simp only [List.mem_cons, not_or] at absent
    rw [List.foldl_cons, hypothesis _ absent.2, next, if_neg (Ne.symm absent.1)]
    simp

end Erasing

/-- What is left of a text when its backspaces have done their work. -/
def withErasures (text : String) : String :=
  String.ofList ((clusters text.toList).foldl Erasing.next ⟨[], []⟩).written.reverse

/-- A text without backspaces stays as it is. -/
theorem withErasures_of_notMem {text : String} (absent : backspace ∉ text.toList) :
    withErasures text = text := by
  have apart : [backspace] ∉ clusters text.toList := by
    intro present
    apply absent
    rw [← flatten_clusters text.toList]
    exact List.mem_flatten_of_mem present (List.mem_singleton_self _)
  simp [withErasures, Erasing.written_foldl_next _ apart]

end Ember.Text
