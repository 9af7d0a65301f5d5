import Placement.Value

/-!
# Placement.Proofs.Value — values that mean the same

A record keeps the order in which its fields were written, but nobody who looks
fields up can tell it. The `Meaning` of a value has a lookup function in place of
each record, so that two values have one meaning when they differ in such orders
only. A value that is no list and no record is known from its meaning
(`eq_of_meaning_eq`), and so is a list of texts (`asTexts?_of_meanings`).

A value that can be written is made of such values (`isWritable_of_get?`,
`isWritable_of_mem_elements`). Whether two values are the same one can be decided.
-/

namespace Placement

/-- What a value says, whatever the order of the fields of its records. -/
inductive Meaning where
  | null
  | bool (b : Bool)
  | int (n : Int)
  | double (x : Double)
  | text (t : Text)
  | moment (m : Moment)
  | list (items : List Meaning)
  | record (fields : Text → Option Meaning)

/-- The meaning of a field; none when it is no record or has no such field. -/
def Meaning.get? (name : Text) : Meaning → Option Meaning
  | .record fields => fields name
  | _ => none

namespace Value

mutual

/-- What a value says. -/
def meaning : Value → Meaning
  | .null => .null
  | .bool b => .bool b
  | .int n => .int n
  | .double x => .double x
  | .text t => .text t
  | .moment m => .moment m
  | .list items => .list (meanings items)
  | .record fields => .record (meaningAt fields)

/-- What the elements of a list say. -/
def meanings : List Value → List Meaning
  | [] => []
  | v :: vs => meaning v :: meanings vs

/-- What the fields of a record say under their names. -/
def meaningAt : List (Text × Value) → Text → Option Meaning
  | [], _ => none
  | (n, v) :: r, name => if n = name then some (meaning v) else meaningAt r name

end

/-- A field means what the value under its name means. -/
theorem meaningAt_eq (fields : Fields) (name : Text) :
    meaningAt fields name = (Fields.get? name fields).map meaning := by
  induction fields with
  | nil => rfl
  | cons f r ih =>
    rw [meaningAt, Fields.get?, ih]
    split <;> rfl

/-- The meaning of a field is the field of the meaning. -/
theorem meaning_get? (name : Text) (v : Value) :
    (v.get? name).map meaning = v.meaning.get? name := by
  cases v with
  | record fields => exact (meaningAt_eq fields name).symm
  | _ => rfl

/-! ## What is known from the meaning -/

/-- Whether a value is neither a list nor a record. -/
def isPlain : Value → Bool
  | .list _ | .record _ => false
  | _ => true

/-- A plain value is known from its meaning. -/
theorem eq_of_meaning_eq {v w : Value} (hw : w.isPlain = true) (h : v.meaning = w.meaning) :
    v = w := by
  cases v <;> cases w <;> first | cases h; rfl | cases h | cases hw

/-- A list of texts is known from its meaning. -/
theorem eq_map_text_iff {items : List Value} {ts : List Text} :
    items = ts.map .text ↔ meanings items = ts.map .text := by
  induction items generalizing ts with
  | nil => cases ts <;> simp [meanings]
  | cons v vs ih =>
    cases ts with
    | nil => simp [meanings]
    | cons t ts =>
      have hhead : v = .text t ↔ v.meaning = .text t :=
        ⟨fun h => h ▸ rfl, fun h => eq_of_meaning_eq (w := .text t) rfl h⟩
      rw [meanings, List.map_cons, List.map_cons, List.cons.injEq, List.cons.injEq, hhead, ih]

/-- Whether a list is one of texts, and of which, is known from its meaning. -/
theorem asTexts?_of_meanings {items others : List Value} (h : meanings items = meanings others) :
    asTexts? items = asTexts? others := by
  refine Option.ext fun ts => ?_
  rw [asTexts?_eq_some_iff, asTexts?_eq_some_iff, eq_map_text_iff, eq_map_text_iff, h]

/-! ## Values that can be written -/

/-- The elements of a list that can be written can be written. -/
theorem isWritable_of_mem {items : List Value} (h : areWritable items = true) {v : Value}
    (hv : v ∈ items) : v.isWritable = true := by
  induction items with
  | nil => cases hv
  | cons w ws ih =>
    rw [areWritable, Bool.and_eq_true] at h
    rcases List.mem_cons.mp hv with rfl | hmem
    · exact h.1
    · exact ih h.2 hmem

/-- The elements of a value that can be written can be written. -/
theorem isWritable_of_mem_elements {v w : Value} (h : v.isWritable = true)
    (hw : w ∈ v.elements) : w.isWritable = true := by
  cases v with
  | null => cases hw
  | list items =>
    rw [isWritable] at h
    exact isWritable_of_mem h hw
  | bool _ | int _ | double _ | text _ | moment _ | record _ =>
    rw [List.mem_singleton.mp hw]
    exact h

/-- The values of fields that can be written can be written. -/
theorem isWritable_of_field {fields : Fields} (h : fieldsAreWritable fields = true) {name : Text}
    {v : Value} (hv : Fields.get? name fields = some v) : v.isWritable = true := by
  induction fields with
  | nil => cases hv
  | cons f r ih =>
    obtain ⟨n, w⟩ := f
    rw [fieldsAreWritable, Bool.and_eq_true] at h
    rw [Fields.get?] at hv
    by_cases hn : n = name
    · rw [if_pos hn] at hv
      cases hv
      exact h.1
    · rw [if_neg hn] at hv
      exact ih h.2 hv

/-- The fields of a value that can be written can be written. -/
theorem isWritable_of_get? {v w : Value} (h : v.isWritable = true) {name : Text}
    (hw : v.get? name = some w) : w.isWritable = true := by
  cases v with
  | record fields =>
    rw [isWritable] at h
    exact isWritable_of_field h hw
  | _ => cases hw

/-- The first field that is there can be written. -/
theorem isWritable_of_firstOf? {v w : Value} (h : v.isWritable = true) {names : List Text}
    (hw : v.firstOf? names = some w) : w.isWritable = true := by
  rcases List.exists_of_findSome?_eq_some hw with ⟨name, -, hget⟩
  exact isWritable_of_get? h hget

/-- A value that can be written is written as a text. -/
theorem exists_plain_eq_ok {v : Value} (h : v.isWritable = true) : ∃ t, v.plain = .ok t := by
  unfold plain
  split
  · exact ⟨_, rfl⟩
  · exact ⟨_, if_pos h⟩

/-! ## Deciding equality -/

mutual

/-- Whether two values are the same one. -/
def same : Value → Value → Bool
  | .null, .null => true
  | .bool a, .bool b => a == b
  | .int m, .int n => m == n
  | .double x, .double y => x == y
  | .text t, .text u => t == u
  | .moment m, .moment n => m == n
  | .list items, .list others => sameItems items others
  | .record fields, .record others => sameFields fields others
  | _, _ => false

/-- Whether two lists have the same elements. -/
def sameItems : List Value → List Value → Bool
  | [], [] => true
  | v :: vs, w :: ws => same v w && sameItems vs ws
  | _, _ => false

/-- Whether two records have the same fields in the same order. -/
def sameFields : List (Text × Value) → List (Text × Value) → Bool
  | [], [] => true
  | (m, v) :: r, (n, w) :: s => m == n && same v w && sameFields r s
  | _, _ => false

end

mutual

/-- The comparison of values decides their equality. -/
theorem same_iff : (v w : Value) → (same v w = true ↔ v = w)
  | .null, w => by cases w <;> simp [same]
  | .bool a, w => by cases w <;> simp [same]
  | .int n, w => by cases w <;> simp [same]
  | .double x, w => by cases w <;> simp [same]
  | .text t, w => by cases w <;> simp [same]
  | .moment m, w => by cases w <;> simp [same]
  | .list items, w => by
    cases w with
    | list others => rw [same, sameItems_iff items others, Value.list.injEq]
    | _ => simp [same]
  | .record fields, w => by
    cases w with
    | record others => rw [same, sameFields_iff fields others, Value.record.injEq]
    | _ => simp [same]

/-- The comparison of lists decides their equality. -/
theorem sameItems_iff :
    (items others : List Value) → (sameItems items others = true ↔ items = others)
  | [], others => by cases others <;> simp [sameItems]
  | v :: vs, others => by
    cases others with
    | nil => simp [sameItems]
    | cons w ws =>
      rw [sameItems, Bool.and_eq_true, same_iff v w, sameItems_iff vs ws, List.cons.injEq]

/-- The comparison of records decides their equality. -/
theorem sameFields_iff :
    (fields others : List (Text × Value)) → (sameFields fields others = true ↔ fields = others)
  | [], others => by cases others <;> simp [sameFields]
  | (m, v) :: r, others => by
    cases others with
    | nil => simp [sameFields]
    | cons g s =>
      obtain ⟨n, w⟩ := g
      rw [sameFields, Bool.and_eq_true, Bool.and_eq_true, beq_iff_eq, same_iff v w,
        sameFields_iff r s, List.cons.injEq, Prod.mk.injEq]

end

instance : DecidableEq Value := fun v w => decidable_of_iff _ (same_iff v w)

end Value

end Placement
