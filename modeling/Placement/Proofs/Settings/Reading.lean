import Placement.Proofs.Value
import Placement.Settings

/-!
# Placement.Proofs.Settings.Reading — what settings are read from a record

A setting `takes` the values of its kind. The settings that are read from a record
have under each name what the table `analysis` has there, if the setting takes it,
and the standard value otherwise (`valueOf_analysisIn`).

The operator lists are read from the meaning of the table `operators`
(`operatorsIn_of_meaning`).
-/

namespace Placement.Settings

variable {s s' : AnalysisSettings} {n m : Name} {v : Value} {fields : Fields}

/-! ## Names -/

theorem ofKey?_key (n : Name) : Name.ofKey? n.key = some n := by
  cases n <;> decide

/-- Different settings have different keys. -/
theorem key_inj : n.key = m.key ↔ n = m := by
  constructor
  · intro h
    have hsame : some n = some m := by rw [← ofKey?_key n, h, ofKey?_key]
    exact Option.some.inj hsame
  · rintro rfl
    rfl

/-- Whether a value is of the kind of a setting. -/
def Name.takes : Name → Value → Bool
  | .enabled, .bool _ => true
  | .enabled, _ => false
  | _, .int _ => true
  | _, _ => false

theorem isPlain_of_takes (h : n.takes v = true) : v.isPlain = true := by
  cases n <;> cases v <;> first | rfl | cases h

/-! ## Settings of the analysis -/

/-- A setting is taken from a value of its kind, and no other one is changed. -/
theorem valueOf_assign (s : AnalysisSettings) (m n : Name) (v : Value) :
    valueOf ((assign s m v).getD s) n = if n = m ∧ m.takes v = true then v else valueOf s n := by
  -- the settings are few, and each takes values of one kind
  cases m <;> cases v <;> cases n <;> rfl

/-- What a table has for a setting, if the setting takes it. -/
def taken? (fields : Fields) (n : Name) : Option Value :=
  (Fields.get? n.key fields).filter n.takes

/-- A setting is assigned what the table has under its key, if it takes it. -/
theorem value_assignFrom (fields : Fields) (s : AnalysisSettings) (m : Name) :
    (assignFrom fields s m).value = ((Fields.get? m.key fields).bind (assign s m)).getD s := by
  unfold assignFrom
  cases Fields.get? m.key fields with
  | none => rfl
  | some v =>
    simp only [Option.bind_some]
    cases assign s m v <;> rfl

/-- Assigning one setting changes no other one. -/
theorem valueOf_assignFrom (fields : Fields) (s : AnalysisSettings) (m n : Name) :
    valueOf (assignFrom fields s m).value n =
      if n = m then (taken? fields n).getD (valueOf s n) else valueOf s n := by
  rw [value_assignFrom]
  unfold taken?
  -- only the assigned name changes, and only if the value has its type
  cases hget : Fields.get? m.key fields with
  | none =>
    by_cases hn : n = m
    · subst hn
      rw [if_pos rfl, hget]
      rfl
    · rw [if_neg hn]
      rfl
  | some v =>
    rw [Option.bind_some, valueOf_assign]
    by_cases hn : n = m
    · subst hn
      rw [if_pos rfl, hget, Option.filter_some]
      cases n.takes v <;> simp
    · rw [if_neg hn, if_neg fun h => hn h.1]

/-- The settings are taken from the table one after the other. -/
theorem valueOf_foldlM_assignFrom (fields : Fields) {names : List Name} (hnames : names.Nodup)
    (s : AnalysisSettings) (n : Name) :
    valueOf (names.foldlM (assignFrom fields) s).value n =
      if n ∈ names then (taken? fields n).getD (valueOf s n) else valueOf s n := by
  induction names generalizing s with
  | nil => rfl
  | cons m more ih =>
    obtain ⟨hm, hmore⟩ := List.nodup_cons.mp hnames
    rw [List.foldlM_cons, Logged.value_bind, ih hmore, valueOf_assignFrom]
    by_cases hn : n = m
    · subst hn
      rw [if_neg hm, if_pos rfl, if_pos List.mem_cons_self]
    · rw [if_neg hn]
      simp only [List.mem_cons, hn, false_or]

/-- The settings are those that the table has, and the standard ones. -/
theorem valueOf_analysisIn {entry : Option Value} {found : Logged AnalysisSettings}
    (h : analysisIn entry = .ok found) (n : Name) :
    valueOf found.value n =
      (((entry.bind (Value.get? n.key)).filter n.takes)).getD (valueOf .standard n) := by
  have hall : n ∈ Name.all := by cases n <;> decide
  cases entry with
  | none =>
    cases h
    rfl
  | some v =>
    cases v with
    | record fields =>
      cases h
      rw [valueOf_foldlM_assignFrom fields (by decide), if_pos hall]
      rfl
    | _ =>
      -- what is no table has no fields, and is refused or left alone
      simp only [analysisIn] at h
      split at h <;> first | (cases h; rfl) | cases h

/-! ## Operator lists -/

/-- The texts of a list that holds nothing else. -/
def textsOf? : Value → Option (List Text)
  | .list items => Value.asTexts? items
  | _ => none

/-- An operator list is assigned when all entries are texts, and ignored otherwise. -/
theorem assignList_eq (fields : Fields) (o : Operators) (c : Operators.Category) :
    assignList fields o c =
      match (Fields.get? c.name fields).map textsOf? with
      | none => pure o
      | some (some names) => pure (o.set c (dedupe names))
      | some none => .withNotices [.ignoredOperators c.name] o := by
  unfold assignList
  cases Fields.get? c.name fields with
  | none => rfl
  | some v =>
    cases v with
    | list items =>
      simp only [Option.map_some, textsOf?]
      cases Value.asTexts? items <;> rfl
    | _ => rfl

/-- The texts of a list are known from its meaning. -/
theorem textsOf?_of_meaning {v w : Value} (h : v.meaning = w.meaning) :
    textsOf? v = textsOf? w := by
  cases v <;> cases w <;> first
    | rfl
    | exact Value.asTexts?_of_meanings (Meaning.list.inj h)
    | cases h

/-- The same holds where there may be no list. -/
theorem map_textsOf?_of_meaning {entry other : Option Value}
    (h : entry.map Value.meaning = other.map Value.meaning) :
    entry.map textsOf? = other.map textsOf? := by
  cases entry <;> cases other <;> first
    | rfl
    | rw [Option.map_some, Option.map_some, textsOf?_of_meaning (Option.some.inj h)]
    | cases h

/-- The lists that are read depend on the meaning of the table only. -/
theorem operatorsIn_of_meaning {entry other : Option Value}
    (h : entry.map Value.meaning = other.map Value.meaning) :
    operatorsIn entry = operatorsIn other := by
  -- the lists are taken from the table by name
  have hfields : ∀ {fields others : Fields},
      Value.meaningAt fields = Value.meaningAt others → assignList fields = assignList others := by
    intro fields others hmeaning
    funext o c
    have hname := congrFun hmeaning c.name
    rw [Value.meaningAt_eq, Value.meaningAt_eq] at hname
    rw [assignList_eq, assignList_eq, map_textsOf?_of_meaning hname]
  cases entry with
  | none =>
    cases other with
    | none => rfl
    | some w => cases h
  | some v =>
    cases other with
    | none => cases h
    | some w =>
      have hmeaning := Option.some.inj h
      cases v <;> cases w <;> first
        | rfl
        | rw [operatorsIn, operatorsIn, hfields (Meaning.record.inj hmeaning)]
        | cases hmeaning

end Placement.Settings
