/-!
# Bindings

A finite map as the list of its pairs, in the order in which the keys were first
bound. Binding a key again replaces its value in place.
-/

namespace Ember

/-- The pairs of a finite map. -/
abbrev Bindings (Key Value : Type) := List (Key × Value)

namespace Bindings

variable {Key Value : Type} [DecidableEq Key]

/-- The value of a key, if it is bound. -/
def value? (key : Key) : Bindings Key Value → Option Value
  | [] => none
  | (bound, value) :: rest => if bound = key then some value else value? key rest

/-- Binds a key to a value. -/
def put (key : Key) (value : Value) : Bindings Key Value → Bindings Key Value
  | [] => [(key, value)]
  | (bound, old) :: rest =>
    if bound = key then (key, value) :: rest else (bound, old) :: put key value rest

/-- The bound keys, in order. -/
def keys (bindings : Bindings Key Value) : List Key :=
  bindings.map Prod.fst

@[simp] theorem value?_nil (key : Key) : value? key ([] : Bindings Key Value) = none := rfl

@[simp] theorem value?_put_self (key : Key) (value : Value) (bindings : Bindings Key Value) :
    value? key (put key value bindings) = some value := by
  induction bindings with
  | nil => simp [put, value?]
  | cons pair rest ih =>
      by_cases equal : pair.1 = key <;> simp [put, value?, equal, ih]

theorem value?_put_of_ne {key other : Key} (different : other ≠ key) (value : Value)
    (bindings : Bindings Key Value) :
    value? other (put key value bindings) = value? other bindings := by
  induction bindings with
  | nil => simp [put, value?, different.symm]
  | cons pair rest ih =>
      by_cases equal : pair.1 = key
      · simp [put, value?, equal, different.symm]
      · simp [put, value?, equal, ih]

/-- Putting a key keeps the bound keys in order and adds a new one at the end. -/
theorem keys_put (key : Key) (value : Value) (bindings : Bindings Key Value) :
    keys (put key value bindings) =
      if key ∈ keys bindings then keys bindings else keys bindings ++ [key] := by
  induction bindings with
  | nil => rfl
  | cons pair rest ih =>
      by_cases equal : pair.1 = key
      · simp [put, keys, equal]
      · have distinct : key ≠ pair.1 := fun same => equal same.symm
        simp only [put, equal, if_false, keys, List.map_cons, List.mem_cons, distinct, false_or]
        simp only [keys] at ih
        split <;> simp_all

theorem value?_isSome_iff (key : Key) (bindings : Bindings Key Value) :
    (value? key bindings).isSome ↔ key ∈ keys bindings := by
  induction bindings with
  | nil => simp [keys]
  | cons pair rest ih =>
      by_cases equal : pair.1 = key
      · simp [value?, keys, equal]
      · have distinct : key ≠ pair.1 := fun same => equal same.symm
        simpa [value?, keys, equal, distinct] using ih

end Bindings

end Ember
