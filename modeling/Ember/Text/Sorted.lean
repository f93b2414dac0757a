/-!
# Sorted texts

Texts in the order of their code points.
-/

namespace Ember.Text

/-- The texts in ascending order; a text that occurs several times is kept as
often. -/
def sorted (texts : List String) : List String :=
  texts.mergeSort fun left right => decide (left ≤ right)

theorem sorted_perm (texts : List String) : (sorted texts).Perm texts :=
  List.mergeSort_perm texts _

end Ember.Text
