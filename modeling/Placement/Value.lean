import Placement.Failure
import Placement.Number.Decimal
import Placement.Text.Quoted

/-!
# Placement.Value — values whose shape is only known when they arrive

Answers of a semantic backend, graph payloads and settings files hold values of
any shape. A record keeps its fields in the order in which they were written,
with one field to a name: putting a field again changes its value in place.

* `get?`, `put` — the fields of a record, with the laws that tie them;
* `asInt?`, `asText?` — reading a value as a number or a text;
* `shown`, `plain` — a value as messages show it, and as it stands by itself.
-/

namespace Placement

/-- A date or a time. Only settings files hold any, and nobody asks for more of one than this. -/
structure Moment where
  /-- The name of its kind. -/
  kind : Text
  /-- The text that a message shows. -/
  shown : Text
  /-- The text that stands in the file. -/
  written : Text
deriving DecidableEq, Repr

/-- A value of any shape. -/
inductive Value where
  | null
  | bool (b : Bool)
  | int (n : Int)
  | double (x : Double)
  | text (t : Text)
  | moment (m : Moment)
  | list (items : List Value)
  | record (fields : List (Text × Value))
deriving Repr, Inhabited

/-- The fields of a record, in the order in which they were written. -/
abbrev Fields := List (Text × Value)

/-! ## Fields -/

namespace Fields

/-- The value of a field. -/
def get? (name : Text) : Fields → Option Value
  | [] => none
  | (n, v) :: r => if n = name then some v else get? name r

/-- The fields with one of them set: in its place, or at the end when it is new. -/
def put (name : Text) (value : Value) : Fields → Fields
  | [] => [(name, value)]
  | (n, v) :: r => if n = name then (n, value) :: r else (n, v) :: put name value r

/-- The names of the fields. -/
def names (fields : Fields) : List Text := fields.map (·.1)

/-- A field has the value that it was set to. -/
@[simp]
theorem get?_put (name : Text) (value : Value) (fields : Fields) :
    get? name (put name value fields) = some value := by
  induction fields with
  | nil => simp [put, get?]
  | cons f r ih =>
    obtain ⟨n, v⟩ := f
    by_cases h : n = name <;> simp [put, get?, h, ih]

/-- Setting a field changes no other one. -/
theorem get?_put_of_ne {name other : Text} (h : other ≠ name) (value : Value) (fields : Fields) :
    get? other (put name value fields) = get? other fields := by
  induction fields with
  | nil => simp [put, get?, Ne.symm h]
  | cons f r ih =>
    obtain ⟨n, v⟩ := f
    by_cases hn : n = name
    · subst hn
      simp [put, get?, Ne.symm h]
    · rw [put, if_neg hn, get?, get?, ih]

/-- Of two values that a field is set to the second one stays. -/
theorem put_put (name : Text) (value first : Value) (fields : Fields) :
    put name value (put name first fields) = put name value fields := by
  induction fields with
  | nil => simp [put]
  | cons f r ih =>
    obtain ⟨n, v⟩ := f
    by_cases h : n = name <;> simp [put, h, ih]

end Fields

namespace Value

/-- The value of a field; nothing when the value is no record or has no such field. -/
def get? (name : Text) : Value → Option Value
  | .record fields => Fields.get? name fields
  | _ => none

/-- The value of the first of several fields that is there. -/
def firstOf? (names : List Text) (v : Value) : Option Value := names.findSome? (v.get? ·)

/-- An integer; the truth values count as one and zero. -/
def asInt? : Value → Option Int
  | .int n => some n
  | .bool b => some (if b then 1 else 0)
  | _ => none

/-- The text of a text value. -/
def asText? : Value → Option Text
  | .text t => some t
  | _ => none

/-- The elements, when every one of them is a text. -/
def asTexts? : List Value → Option (List Text)
  | [] => some []
  | .text t :: r => (asTexts? r).map (t :: ·)
  | _ :: _ => none

/-- A list of texts as a value. -/
def ofTexts (ts : List Text) : Value := .list (ts.map .text)

/-- A list of texts is read back. -/
theorem asTexts?_map_text (ts : List Text) : asTexts? (ts.map .text) = some ts := by
  induction ts with
  | nil => rfl
  | cons t r ih => simp [asTexts?, ih]

/-- A list is read as texts when it is one of these texts. -/
theorem asTexts?_eq_some_iff {items : List Value} {ts : List Text} :
    asTexts? items = some ts ↔ items = ts.map .text := by
  constructor
  · intro h
    -- one element that is no text refuses the whole list
    induction items generalizing ts with
    | nil => simp_all [asTexts?]
    | cons v r ih =>
      cases v with
      | text t =>
        rw [asTexts?, Option.map_eq_some_iff] at h
        obtain ⟨more, hmore, rfl⟩ := h
        rw [ih hmore, List.map_cons]
      | _ => simp [asTexts?] at h
  · rintro rfl
    exact asTexts?_map_text ts

/-- The elements of a list, one value standing for itself, and nothing for the missing value. -/
def elements : Value → List Value
  | .null => []
  | .list items => items
  | v => [v]

/-! ## Values in messages -/

/-- The name of a value's kind. -/
def kindName : Value → Text
  | .null => "NoneType".text
  | .bool _ => "bool".text
  | .int _ => "int".text
  | .double _ => "float".text
  | .text _ => "str".text
  | .moment m => m.kind
  | .list _ => "list".text
  | .record _ => "dict".text

mutual

/-- A value as a message shows it. -/
def shown : Value → Text
  | .null => "None".text
  | .bool b => if b then "True".text else "False".text
  | .int n => Text.ofInt n
  | .double x => Double.shortest "nan".text "inf".text x
  | .text t => Text.quoted t
  | .moment m => m.shown
  | .list items => .char '[' :: shownItems items ++ [.char ']']
  | .record fields => .char '{' :: shownFields fields ++ [.char '}']

/-- The elements of a list, with commas between them. -/
def shownItems : List Value → Text
  | [] => []
  | [v] => shown v
  | v :: vs => shown v ++ .char ',' :: .char ' ' :: shownItems vs

/-- The fields of a record, with commas between them. -/
def shownFields : List (Text × Value) → Text
  | [] => []
  | [(n, v)] => Text.quoted n ++ .char ':' :: .char ' ' :: shown v
  | (n, v) :: r =>
    Text.quoted n ++ .char ':' :: .char ' ' :: shown v ++ .char ',' :: .char ' ' :: shownFields r

end

mutual

/-- Whether every integer in a value has few enough digits to be written. -/
def isWritable : Value → Bool
  | .int n => Text.isWritable n
  | .list items => areWritable items
  | .record fields => fieldsAreWritable fields
  | _ => true

/-- Whether all elements of a list can be written. -/
def areWritable : List Value → Bool
  | [] => true
  | v :: vs => isWritable v && areWritable vs

/-- Whether the values of all fields can be written. -/
def fieldsAreWritable : List (Text × Value) → Bool
  | [] => true
  | (_, v) :: r => isWritable v && fieldsAreWritable r

end

/-- A value as it stands by itself, if it can be written: a text without quotes. -/
def plain (v : Value) : Except WriteFault Text :=
  match v with
  | .text t => .ok t
  | v => if v.isWritable then .ok v.shown else .error .longInteger

end Value

end Placement
