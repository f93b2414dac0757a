import Ember.Proofs.Session.Basic
import Ember.Proofs.Value.Equivalence
import Ember.Proofs.Value.Printed

/-!
# Printed values come back

The text of a value is read as an expression that comes to an equal value in a scope
without bindings. Only null has no expression: its text is a name, and that name is not
bound. Whatever contains null fails for that name, and whatever does not contain it
comes back.
-/

namespace Ember

/-- A computation that changes nothing, and that fails for the name of null if null is to
come out of it, and has a fitting result otherwise. -/
inductive Echoes {α : Type} (machine : Machine Unit) (hasNull : Prop) (fits : α → Prop)
    (computation : Eval Unit α) : Prop where
  | unbound :
      hasNull →
        computation machine = (.error (.failed (.unknownIdentifier "null")), machine) →
          Echoes machine hasNull fits computation
  | result {result : α} :
      ¬hasNull → computation machine = (.ok result, machine) → fits result →
        Echoes machine hasNull fits computation

namespace Echoes

variable {α β : Type} {machine : Machine Unit} {hasNull nextNull : Prop} {fits : α → Prop}
  {nextFits : β → Prop} {computation : Eval Unit α}

theorem pure {result : α} (fitting : fits result) :
    Echoes machine False fits (pure result) :=
  .result id rfl fitting

theorem bind (first : Echoes machine hasNull fits computation) {next : α → Eval Unit β}
    (following : ∀ result, fits result → Echoes machine nextNull nextFits (next result)) :
    Echoes machine (hasNull ∨ nextNull) nextFits (computation >>= next) := by
  cases first with
  | unbound isNull failed => exact .unbound (.inl isNull) (by rw [Eval.bind_apply, failed])
  | @result result noNull evaluated fitting =>
      have step : (computation >>= next) machine = next result machine := by
        rw [Eval.bind_apply, evaluated]
      cases following result fitting with
      | unbound isNull failed => exact .unbound (.inr isNull) (step.trans failed)
      | result noNextNull nextEvaluated nextFitting =>
          exact .result (not_or.mpr ⟨noNull, noNextNull⟩) (step.trans nextEvaluated) nextFitting

theorem congr {otherNull : Prop} (same : hasNull ↔ otherNull)
    (echoes : Echoes machine hasNull fits computation) :
    Echoes machine otherNull fits computation := by
  cases echoes with
  | unbound isNull failed => exact .unbound (same.mp isNull) failed
  | result noNull evaluated fitting => exact .result (mt same.mpr noNull) evaluated fitting

/-- A value that is equal to that of a key stands for the key. -/
theorem asKey {key : Key} {value : Value} (equal : key.toValue.equals value)
    {next : Key → Eval Unit β} (following : Echoes machine nextNull nextFits (next key)) :
    Echoes machine nextNull nextFits (Eval.ofOperation value.asKey >>= next) := by
  have same : value = key.toValue := by
    cases key <;> cases value <;> simp_all [Key.toValue, Value.equals]
  have usable : value.asKey = .ok key := by rw [Value.asKey, same, Key.key?_toValue]
  rw [usable]
  exact following

end Echoes

/-- An expression that comes to a value again wherever no name is bound. -/
def Echoed (tree : Expr) (value : Value) : Prop :=
  ∀ depth (context : Context) (machine : Machine Unit), tree.height ≤ depth →
    machine.store.scope? context.scope = some ⟨[], none⟩ →
      Echoes machine (.null ∈ value.parts) (value.equals ·)
        (evalNode .silent depth (.expr tree) context)

/-- Entries for the same keys in the same order, with equal values. -/
structure Mirrors (items result : Bindings Key Value) : Prop where
  keys : Bindings.keys result = Bindings.keys items
  values : ∀ item ∈ items, ∃ other, Bindings.value? item.1 result = some other ∧
    item.2.equals other

namespace Mirrors

variable {items result : Bindings Key Value}

theorem put (mirrors : Mirrors items result) {key : Key} (fresh : key ∉ Bindings.keys items)
    {value other : Value} (equal : value.equals other) :
    Mirrors (items ++ [(key, value)]) (Bindings.put key other result) := by
  constructor
  · rw [Bindings.keys_put, mirrors.keys, if_neg fresh]
    simp [Bindings.keys]
  · intro item member
    rcases List.mem_append.mp member with old | new
    · have different : item.1 ≠ key := by
        rintro rfl
        exact fresh (List.mem_map_of_mem old)
      rw [Bindings.value?_put_of_ne different]
      exact mirrors.values item old
    · cases List.mem_singleton.mp new
      exact ⟨other, Bindings.value?_put_self key other result, equal⟩

/-- The order of the entries has no part in the equality of hashes. -/
theorem equals_hash (mirrors : Mirrors items result) {entries : Bindings Key Value}
    (same : items.Perm entries) : (Value.hash entries).equals (.hash result) := by
  have length : entries.length = result.length := by
    have keys := congrArg List.length mirrors.keys
    simp only [Bindings.keys, List.length_map] at keys
    rw [keys, same.length_eq]
  rw [Value.equals, Bool.and_eq_true, beq_iff_eq, Value.entriesAgree_iff]
  exact ⟨length, fun entry member => mirrors.values entry (same.symm.subset member)⟩

end Mirrors

@[simp] theorem Key.null_ne_toValue (key : Key) : Value.null ≠ key.toValue := by
  cases key <;> nofun

section Lists

variable {depth : Nat} {context : Context} {machine : Machine Unit}
  (empty : machine.store.scope? context.scope = some ⟨[], none⟩)
include empty

/-- The elements of an array come to equal values, one after the other. -/
theorem echoes_evalAll {elements : List Value} {tree : Value → Expr}
    (echoed : ∀ element ∈ elements, Echoed (tree element) element)
    (enough : ∀ element ∈ elements, (tree element).height ≤ depth) (position : Nat) :
    Echoes machine (∃ element ∈ elements, .null ∈ element.parts)
      (fun results => Value.allEqual elements results)
      (evalAll (evalNode .silent depth) context position (elements.map tree)) := by
  induction elements generalizing position with
  | nil => exact .congr (by simp) (.pure rfl)
  | cons element rest ih =>
      rw [List.forall_mem_cons] at echoed enough
      have first := echoed.1 depth (context.child position) machine enough.1 empty
      refine .congr ?_ (first.bind fun value equal =>
        (ih echoed.2 enough.2 (position + 1)).bind fun values othersEqual => .pure ?_)
      · simp
      · rw [Value.allEqual, equal, othersEqual]
        rfl

/-- So do the entries of a hash, where every key is put for the first time. -/
theorem echoes_evalEntries {items : List (Key × Value)} {keyTree valueTree : Key × Value → Expr}
    (keyEchoed : ∀ item ∈ items, Echoed (keyTree item) item.1.toValue)
    (valueEchoed : ∀ item ∈ items, Echoed (valueTree item) item.2)
    (enough : ∀ item ∈ items, (keyTree item).height ≤ depth ∧ (valueTree item).height ≤ depth)
    (position : Nat) {done entries : Bindings Key Value} (mirrors : Mirrors done entries)
    (different : (Bindings.keys (done ++ items)).Nodup) :
    Echoes machine (∃ item ∈ items, .null ∈ item.2.parts)
      (fun results => Mirrors (done ++ items) results)
      (evalEntries (evalNode .silent depth) context position entries
        (items.map fun item => (keyTree item, valueTree item))) := by
  induction items generalizing position done entries with
  | nil =>
      rw [List.append_nil]
      exact .congr (by simp) (.pure mirrors)
  | cons item rest ih =>
      rw [List.forall_mem_cons] at keyEchoed valueEchoed enough
      -- A key that was put before would be replaced, and its value lost.
      have fresh : item.1 ∉ Bindings.keys done := by
        rw [Bindings.keys, List.map_append, List.nodup_append] at different
        intro bound
        exact different.2.2 _ bound _ List.mem_cons_self rfl
      rw [List.append_cons] at different ⊢
      have key := keyEchoed.1 depth (context.child position) machine enough.1.1 empty
      have value := valueEchoed.1 depth (context.child (position + 1)) machine enough.1.2 empty
      have further (entry : Value) (equal : item.2.equals entry) :=
        ih keyEchoed.2 valueEchoed.2 enough.2 (position + 2) (mirrors.put fresh equal) different
      refine .congr ?_ (key.bind fun _ equal => .asKey equal (value.bind further))
      simp

end Lists

namespace Echoed

/-- The value of a key comes back from what comes to it. -/
theorem key {tree : Expr} (key : Key)
    (evaluated : ∀ depth context, tree.height ≤ depth →
      evalNode .silent depth (.expr tree) context = pure key.toValue) :
    Echoed tree key.toValue := by
  intro depth context machine enough _
  rw [evaluated depth context enough]
  refine .congr (by simp) (.pure ?_)
  cases key <;> simp [Key.toValue, Value.equals]

theorem literal {tree : Expr} (content : Key)
    (itself : ∀ recur context, tree.step recur context = (pure content.toValue : Eval Unit Value)) :
    Echoed tree content.toValue := by
  apply key
  intro depth context enough
  obtain ⟨depth, rfl⟩ := Expr.exists_depth enough
  rw [evalNode_silent]
  exact itself _ _

/-- A negative number comes back from its magnitude. -/
theorem negative {value magnitude : Integer} (opposite : value.toInt = -magnitude.toInt) :
    Echoed (.unary .negate (.integer magnitude)) (.integer value) := by
  apply key (.integer value)
  intro depth context enough
  obtain ⟨depth, rfl⟩ := Expr.exists_depth enough
  have room : (Expr.integer magnitude).height ≤ depth := Nat.le_of_succ_le_succ enough
  obtain ⟨depth, rfl⟩ := Expr.exists_depth room
  have negated : UnaryOperator.negate.apply (.integer magnitude) = .ok (.integer value) := by
    simp [UnaryOperator.apply, ← opposite]
  simp only [evalNode_silent, Node.step, Expr.step, pure_bind, negated]
  rfl

/-- The name of null is not bound. -/
theorem null : Echoed (.identifier "null") .null := by
  intro depth context machine enough empty
  obtain ⟨depth, rfl⟩ := Expr.exists_depth enough
  have unbound : machine.store.find? "null" context.scope = none := by
    rw [Store.find?, empty]
    rfl
  rw [evalNode_silent]
  refine .unbound List.mem_cons_self ?_
  change Eval.find context.scope "null" machine = _
  rw [Eval.find, unbound]

theorem array {elements : List Value} {tree : Value → Expr}
    (each : ∀ element ∈ elements, Echoed (tree element) element) :
    Echoed (.array (elements.map tree)) (.array elements) := by
  intro depth context machine enough empty
  obtain ⟨depth, rfl⟩ := Expr.exists_depth enough
  have room : ∀ element ∈ elements, (tree element).height ≤ depth := by
    simpa using Expr.heightEach_le_iff.mp (Nat.le_of_succ_le_succ enough)
  rw [evalNode_silent]
  refine .congr ?_ ((echoes_evalAll empty each room 0).bind fun values equal => .pure ?_)
  · simp [Value.mem_parts_array]
  · rwa [Value.equals]

theorem hash {items entries : List (Key × Value)} {keyTree valueTree : Key × Value → Expr}
    (keys : ∀ item ∈ items, Echoed (keyTree item) item.1.toValue)
    (values : ∀ item ∈ items, Echoed (valueTree item) item.2) (same : items.Perm entries)
    (different : (Bindings.keys entries).Nodup) :
    Echoed (.hash (items.map fun item => (keyTree item, valueTree item))) (.hash entries) := by
  intro depth context machine enough empty
  obtain ⟨depth, rfl⟩ := Expr.exists_depth enough
  have room : ∀ item ∈ items,
      (keyTree item).height ≤ depth ∧ (valueTree item).height ≤ depth := by
    intro item member
    exact Expr.heightPairs_le_iff.mp (Nat.le_of_succ_le_succ enough) _ (List.mem_map_of_mem member)
  have apart : (Bindings.keys items).Nodup := ((same.map Prod.fst).nodup_iff).mpr different
  have nothing : Mirrors [] [] := ⟨rfl, List.forall_mem_nil _⟩
  have evaluated := echoes_evalEntries empty keys values room 0 nothing apart
  rw [evalNode_silent]
  refine .congr ?_ (evaluated.bind fun results mirrors => .pure ?_)
  · simp [Value.mem_parts_hash, same.mem_iff]
  · exact mirrors.equals_hash same

end Echoed

/-- A value whose text is read as an expression that comes to the value again. -/
def Value.ReadsBack (value : Value) : Prop :=
  ∃ tree, ReadsAs value.render .unary tree ∧ Echoed tree value

instance : Nonempty Expr := ⟨.boolean true⟩

namespace Value.ReadsBack

theorem integer {value : Integer} (notLowest : value ≠ .lowest) :
    (Value.integer value).ReadsBack := by
  by_cases negative : value.toInt < 0
  · have inside : -value.toInt < integerBound := by
      have different : value.toInt ≠ -integerBound := fun same => notLowest (Integer.ext same)
      have lower := value.lower
      omega
    let magnitude : Integer := ⟨-value.toInt, by simp only [integerBound]; omega, inside⟩
    have natural : 0 ≤ magnitude.toInt := Int.le_of_lt (Int.neg_pos_of_neg negative)
    have text : (Value.integer value).render = UnaryOperator.negate.text ++ magnitude.render := by
      rw [Value.render, Integer.render_of_neg negative, Integer.render_of_nonneg natural,
        Int.natAbs_neg]
      rfl
    have read : ReadsAs magnitude.render .unary _ := (ReadsAs.integer natural).looser (by decide)
    have opposite : value.toInt = -magnitude.toInt := (Int.neg_neg _).symm
    rw [Value.ReadsBack, text]
    exact ⟨_, .unary .negate read, .negative opposite⟩
  · have read := ReadsAs.integer (Int.not_lt.mp negative)
    exact ⟨_, read.looser (by decide), .literal (.integer value) fun _ _ => rfl⟩

theorem boolean (value : Bool) : (Value.boolean value).ReadsBack :=
  ⟨_, (ReadsAs.boolean value).looser (by decide), .literal (.boolean value) fun _ _ => rfl⟩

theorem string {content : String} (closed : '"' ∉ content.toList) :
    (Value.string content).ReadsBack :=
  ⟨_, (ReadsAs.string closed).looser (by decide), .literal (.string content) fun _ _ => rfl⟩

theorem null : Value.null.ReadsBack :=
  ⟨_, (ReadsAs.identifier (by decide +kernel)).looser (by decide), .null⟩

theorem key {key : Key} (printable : key.toValue.Printable)
    (notLowest : key.toValue ≠ .integer .lowest) : key.toValue.ReadsBack := by
  cases key with
  | integer value => exact .integer (by rintro rfl; exact notLowest rfl)
  | boolean value => exact .boolean value
  | string content => exact .string printable

theorem array {elements : List Value} (each : ∀ element ∈ elements, element.ReadsBack) :
    (Value.array elements).ReadsBack := by
  choose! tree read echoed using each
  refine ⟨_, ?_, .array echoed⟩
  rw [Value.render, Value.renderAll_eq_map]
  exact (ReadsAs.array fun element member => (read element member).looser (by decide)).looser
    (by decide)

theorem hash {entries : List (Key × Value)} (different : (Bindings.keys entries).Nodup)
    (keys : ∀ entry ∈ entries, entry.1.toValue.ReadsBack)
    (values : ∀ entry ∈ entries, entry.2.ReadsBack) : (Value.hash entries).ReadsBack := by
  obtain ⟨items, same, text⟩ := Value.exists_render_hash entries
  simp only [← same.mem_iff] at keys values
  choose! keyTree keyRead keyEchoed using keys
  choose! valueTree valueRead valueEchoed using values
  refine ⟨_, ?_, .hash keyEchoed valueEchoed same different⟩
  rw [text]
  exact (ReadsAs.hash (fun item member => (keyRead item member).looser (by decide))
    fun item member => (valueRead item member).looser (by decide)).looser (by decide)

end Value.ReadsBack

/-- Every value without functions reads back, unless the lowest number is among its
parts. -/
theorem Value.readsBack {value : Value} (printable : ∀ part ∈ value.parts, part.Printable)
    (notLowest : .integer .lowest ∉ value.parts) : value.ReadsBack := by
  induction value using Value.induct with
  | integer value => exact .integer (by rintro rfl; exact notLowest List.mem_cons_self)
  | boolean value => exact .boolean value
  | string content => exact .string (printable _ List.mem_cons_self)
  | null => exact .null
  | function closure => exact (printable _ List.mem_cons_self).elim
  | array elements ih =>
      obtain ⟨-, each⟩ := Value.forall_parts_array.mp printable
      simp only [Value.mem_parts_array, not_or, not_exists, not_and] at notLowest
      exact .array fun element member =>
        ih element member (each element member) (notLowest.2 element member)
  | hash entries ih =>
      obtain ⟨different, each⟩ := Value.forall_parts_hash.mp printable
      simp only [Value.mem_parts_hash, not_or, not_exists, not_and] at notLowest
      exact .hash different
        (fun entry member => .key (each entry member).1 (Ne.symm (notLowest.2 entry member).1))
        fun entry member => ih entry member (each entry member).2 (notLowest.2 entry member).2

end Ember
