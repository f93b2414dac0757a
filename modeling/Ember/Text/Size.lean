/-!
# Sizes in bytes

How many bytes the characters of a text take, and the parts of a text that are
given by numbers of bytes.
-/

namespace Ember.Text

/-- The number of bytes that some characters take. -/
def byteSize : List Char → Nat
  | [] => 0
  | char :: rest => char.utf8Size + byteSize rest

/-- Sizes add up. -/
theorem byteSize_append (left right : List Char) :
    byteSize (left ++ right) = byteSize left + byteSize right := by
  induction left with
  | nil => simp [byteSize]
  | cons char left hypothesis =>
    rw [List.cons_append, byteSize, byteSize, hypothesis, Nat.add_assoc]

/-- The size does not depend on the direction. -/
theorem byteSize_reverse (chars : List Char) : byteSize chars.reverse = byteSize chars := by
  induction chars with
  | nil => rfl
  | cons char rest hypothesis =>
    rw [List.reverse_cons, byteSize_append, hypothesis, byteSize, byteSize, byteSize]
    exact Nat.add_comm _ _

/-- Characters without so many bytes in front. A character of which a part is to
go goes as a whole. -/
def dropBytes : Nat → List Char → List Char
  | 0, chars => chars
  | _ + 1, [] => []
  | bytes + 1, char :: rest => dropBytes (bytes + 1 - char.utf8Size) rest

/-- Dropping as many bytes as there are leaves nothing. -/
theorem dropBytes_byteSize_append (taken rest : List Char) :
    dropBytes (byteSize taken) (taken ++ rest) = rest := by
  induction taken with
  | nil => simp [byteSize, dropBytes]
  | cons char taken hypothesis =>
    have positive : 0 < char.utf8Size := Char.utf8Size_pos char
    have size : byteSize (char :: taken) = char.utf8Size + byteSize taken := rfl
    obtain ⟨bytes, successor⟩ : ∃ bytes, byteSize (char :: taken) = bytes + 1 :=
      ⟨byteSize (char :: taken) - 1, by omega⟩
    rw [successor, List.cons_append, dropBytes]
    have remainder : bytes + 1 - char.utf8Size = byteSize taken := by omega
    rw [remainder, hypothesis]

/-- As many characters as there is room for in so many bytes. -/
def takeBytes : Nat → List Char → List Char
  | _, [] => []
  | bytes, char :: rest =>
    if char.utf8Size ≤ bytes then char :: takeBytes (bytes - char.utf8Size) rest else []

/-- Characters have room in as many bytes as they take, and no more have. -/
theorem takeBytes_byteSize_append (taken rest : List Char) :
    takeBytes (byteSize taken) (taken ++ rest) = taken := by
  induction taken with
  | nil =>
    cases rest with
    | nil => rfl
    | cons char rest =>
      have positive : 0 < char.utf8Size := Char.utf8Size_pos char
      rw [List.nil_append, takeBytes, byteSize, if_neg (Nat.not_le_of_lt positive)]
  | cons char taken hypothesis =>
    rw [List.cons_append, takeBytes, byteSize, if_pos (Nat.le_add_right ..),
      Nat.add_sub_cancel_left, hypothesis]

end Ember.Text
