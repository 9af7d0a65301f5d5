import Placement.Proofs.Location.Ticks

/-!
# Placement.Proofs.Location.Identity — the same place

Two locations are the same place when they have the same kind and the same label. Their
keys tell exactly this: a key is the name of the kind, which no other kind's name
begins, and behind it the label in brackets or nothing (`key_eq_iff`).

The display form and the canonical text put Tick layers without blanks around a text
that begins with the name of a kind. So the layers of both are counted to the depth of
the location, and what stripping leaves of the display form is the key (`key_identifies`).
-/

namespace Placement.Location

variable {l m : Location}

/-! ## Keys -/

/-- What the texts of a location show behind the name of its kind, without a lifetime. -/
def shownLabel (l : Location) : Text :=
  if l.hasParameter then .char '<' :: l.label ++ [.char '>'] else []

/-- A key is the name of the kind and behind it what is shown of the label. -/
theorem key_eq (l : Location) : l.key = l.kind.name ++ l.shownLabel := by
  have hkey : l.key =
      if l.hasParameter then l.kind.name ++ .char '<' :: l.label ++ [.char '>']
      else l.kind.name := rfl
  rw [hkey, shownLabel]
  cases l.hasParameter with
  | false => rw [if_neg Bool.false_ne_true, if_neg Bool.false_ne_true, List.append_nil]
  | true => rw [if_pos rfl, if_pos rfl, List.append_assoc]

/-- The kind that a text begins with, and what follows, are read off it again. -/
theorem lead?_name (kind : Kind) (rest : Text) :
    Kind.lead? (kind.name ++ rest) = some (kind, rest) := by
  cases kind <;> rfl

/-- The label of a location is known from its kind and what is shown of it. -/
theorem label_eq_of_shownLabel (hkind : l.kind = m.kind) (h : l.shownLabel = m.shownLabel) :
    l.label = m.label := by
  unfold shownLabel at h
  cases hl : l.hasParameter with
  | true =>
    cases hm : m.hasParameter with
    | true =>
      rw [hl, hm, if_pos rfl, if_pos rfl] at h
      exact List.append_cancel_right (List.cons.inj h).2
    | false =>
      rw [hl, hm, if_pos rfl, if_neg Bool.false_ne_true] at h
      cases h
  | false =>
    cases hm : m.hasParameter with
    | true =>
      rw [hl, hm, if_pos rfl, if_neg Bool.false_ne_true] at h
      cases h
    | false =>
      -- without a parameter both labels are the name of the one kind
      have hlabel : l.label = l.kind.name := by simpa [hasParameter] using hl
      have hother : m.label = m.kind.name := by simpa [hasParameter] using hm
      rw [hlabel, hother, hkind]

/-- Two locations have one key exactly when they agree in kind and label. -/
theorem key_eq_iff : l.key = m.key ↔ l.kind = m.kind ∧ l.label = m.label := by
  rw [key_eq, key_eq]
  constructor
  · intro h
    -- no name of a kind begins another one, so the kind is read off the key
    have hlead := congrArg Kind.lead? h
    rw [lead?_name, lead?_name, Option.some_inj, Prod.mk.injEq] at hlead
    exact ⟨hlead.1, label_eq_of_shownLabel hlead.1 hlead.2⟩
  · rintro ⟨hkind, hlabel⟩
    unfold shownLabel hasParameter
    rw [hkind, hlabel]

/-- A key has no blanks at its ends, since a kind has none and a label stands in brackets. -/
theorem trim_key (l : Location) : Text.trim l.key = l.key := by
  -- a key ends with a letter of a kind's name or with the closing bracket
  have hlast : l.key.getLast?.any Text.isBlank = false := by
    rw [key_eq]
    unfold shownLabel
    cases l.hasParameter with
    | false =>
      rw [if_neg Bool.false_ne_true, List.append_nil]
      cases l.kind <;> rfl
    | true =>
      rw [if_pos rfl, ← List.append_assoc, List.getLast?_concat]
      rfl
  apply Text.trim_eq_self _ hlast
  rw [key_eq]
  cases l.kind <;> rfl

/-! ## Texts of a location -/

/-- The display form is the key in as many layers as the location is deep. -/
theorem display_eq_wrapTicks (l : Location) : l.display = wrapTicks l.key l.tickDepth := rfl

theorem stripTicks_display (l : Location) : stripTicks l.display = l.key := by
  rw [display_eq_wrapTicks, stripTicks_wrapTicks, key_eq, stripTicks_name]

/-- The key of the display form is that of the location. -/
theorem keyOfText_display (l : Location) : keyOfText l.display = l.key := by
  have hkey := keyOfText_wrapTicks_trim l.key l.tickDepth
  rw [trim_key, ← display_eq_wrapTicks] at hkey
  rw [hkey, keyOfText, trim_key, key_eq, stripTicks_name]

theorem countTicks_display (l : Location) : countTicks l.display = l.tickDepth := by
  rw [display_eq_wrapTicks, countTicks_wrapTicks, key_eq, countTicks_name, Nat.zero_add]

/-- In the canonical text the depth is counted. -/
theorem countTicks_canonical (l : Location) : countTicks l.canonical = l.tickDepth := by
  unfold canonical
  rw [countTicks_wrapTicks]
  cases l.hasParameter with
  | false => rw [if_neg Bool.false_ne_true, countTicks_name, Nat.zero_add]
  | true =>
    rw [if_pos rfl, List.append_assoc, List.append_assoc, countTicks_name, Nat.zero_add]

/-- A location is identified by its kind and its label: they decide its key, which is also the key
of its display form, and the depth is what is counted in either of its texts. -/
theorem key_identifies (l m : Location) :
    (l.key = m.key ↔ l.kind = m.kind ∧ l.label = m.label) ∧
      (keyOfText l.display = l.key ∧ stripTicks l.display = l.key) ∧
      (countTicks l.display = l.tickDepth ∧ countTicks l.canonical = l.tickDepth) ∧
      ∀ depth, idOfText (l.withTickDepth depth).display = l.id := by
  refine ⟨key_eq_iff, ⟨keyOfText_display l, stripTicks_display l⟩,
    ⟨countTicks_display l, countTicks_canonical l⟩, ?_⟩
  intro depth
  have hkey : keyOfText (l.withTickDepth depth).display = l.key :=
    keyOfText_display (l.withTickDepth depth)
  exact congrArg idOfKey hkey

end Placement.Location
