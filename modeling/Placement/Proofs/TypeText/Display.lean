import Placement.Proofs.TypeText.Canonical

/-!
# Placement.Proofs.TypeText.Display — reading the display form of a location

The display form of a location shows its kind, and the label as the only parameter of
the kind, without a lifetime. A kind without a parameter has no bracket, and is then
not read as a location (`value_parse_name`). A label that begins as a lifetime does is
taken for one, and whatever is read instead of it is another label
(`value_kindAndLabel_lifetime`). Any other label is read as in the canonical text: the
bracket behind it belongs to it unless the label is sealed.

So the display form gives a location back exactly when it shows a label that is no
lifetime and is sealed (`parse_display_eq_some_iff`).
-/

namespace Placement.TypeText

open Depth (KeepsAngles Sealed)

variable {kind : Kind} {label rest t : Text} {l : Location}

/-! ## Kinds without a parameter -/

theorem innermost_name (kind : Kind) : Innermost kind.name := by
  cases kind <;> exact ⟨single_kind _, rfl, rfl, rfl⟩

/-- The name of a kind alone is not read as a location, whatever Tick layers are around it. -/
theorem value_parse_name (kind : Kind) {n : Nat} (hn : n ≤ maxNesting) :
    (parse (Location.wrapTicks kind.name n)).value = none := by
  have hnone : (kindAndLabel kind.name).value = none := by cases kind <;> rfl
  rw [value_parse_wrapTicks (innermost_name kind) hn, hnone, Option.map_none]

/-! ## A label alone -/

theorem keepsAngles_join_singleton (h : Single label) : KeepsAngles .top none (join [label]) := by
  rw [join_singleton]
  exact h.keeps

/-- One parameter alone is the label unless it begins as a lifetime does. -/
theorem label?_join_singleton (h : Single label) :
    label? (parameters (readOf (join [label]))) =
      if label.head? = some (.char '\x27') then none else some (readOf label) := by
  rw [join_singleton, (single_readOf h).parameters_eq, ← head?_readOf h.nonempty]
  rfl

/-- What is read in a bracket is no longer than what stands behind it. -/
theorem length_openBody_le (rest : Text) : (openBody rest).length ≤ rest.length := by
  unfold openBody
  cases hclosing : Depth.closing? ⟨1, 0⟩ (some (.char '<')) rest with
  | none => exact Nat.le_refl _
  | some found =>
    rw [Depth.eq_append_of_closing? hclosing, List.length_append]
    exact Nat.le_add_right _ _

/-- A label that is read behind a bracket is no longer than what stands there. -/
theorem length_le_of_label? {rest : Text} (h : label? (parameters (openBody rest)) = some label) :
    label.length ≤ rest.length := by
  have hpart := length_le_of_mem_parameters (mem_of_label? h)
  exact Nat.le_trans hpart (length_openBody_le rest)

/-- A kind with its bracket takes up some of the text that it stands in. -/
theorem length_lt_of_mem_findFrom {before : Option CodePoint} {found : Kind × Text}
    (h : found ∈ Text.Pattern.findFrom openKind 0 before t) : found.2.length + 1 < t.length := by
  rcases Text.Pattern.exists_of_mem_findFrom h with ⟨front, c, back, left, ht, hread⟩
  have hname := List.length_pos_iff.mpr (single_kind found.1).nonempty
  rw [ht, openKind_eq_some hread, List.length_append, List.length_append, List.length_cons]
  omega

/-- A label that begins as a lifetime does is not read as the label of its kind. -/
theorem value_kindAndLabel_lifetime (h : Single label)
    (hlifetime : label.head? = some (.char '\x27')) (kind : Kind) :
    (kindAndLabel (generic kind.name [label])).value ≠ some (kind, label) := by
  have hnone := label?_join_singleton h
  rw [if_pos hlifetime, ← openBody_concat (keepsAngles_join_singleton h)] at hnone
  unfold kindAndLabel
  rw [Logged.value_bind, generic, findAll_kind, value_firstLabelled_cons, hnone]
  cases hmore : (firstLabelled (kind.name ++ .char '<' :: (join [label] ++ [.char '>']))
      (Text.Pattern.findFrom openKind 0 (some (.char '<'))
        (join [label] ++ [.char '>']))).value with
  | some found =>
    -- a kind further on stands in the label, and so its own label is shorter
    rintro ⟨⟩
    rcases exists_of_firstLabelled hmore with ⟨found, hfound, hlabel⟩
    have hle := length_le_of_label? hlabel
    have hlt := length_lt_of_mem_findFrom hfound
    rw [join_singleton, List.length_append, List.length_singleton] at hlt
    omega
  | none =>
    -- otherwise the kind stands for itself, and its name is no lifetime
    rintro ⟨⟩
    cases kind <;> exact absurd hlifetime (by decide)

/-! ## Display forms -/

/-- The display form is the kind with its label, if it has one, in Tick layers. -/
theorem display_eq (l : Location) :
    l.display = Location.wrapTicks
      (if l.hasParameter then generic l.kind.name [l.label] else l.kind.name) l.tickDepth := by
  unfold Location.display
  rw [generic, join_singleton, List.append_assoc]
  rfl

/-- The display form of a location that was read from any text gives it back exactly when it shows
the label, the label does not begin as a lifetime does, and it is sealed: it leaves no angle bracket
open and does not end in a dash. -/
theorem parse_display_eq_some_iff (h : (parse t).value = some l) :
    (parse l.display).value = some l ↔
      l.hasParameter = true ∧ l.label.head? ≠ some (.char '\x27') ∧ Sealed .top none l.label := by
  have hread := readable_of_parse h
  have hkeeps := keepsAngles_join_singleton hread.label
  have hshown := value_parse_wrapTicks (innermost_kind hkeeps l.kind) hread.ticks
  rw [display_eq]
  -- without a parameter the kind stands without a bracket behind it and is not found
  cases hparameter : l.hasParameter with
  | false =>
    rw [if_neg Bool.false_ne_true, value_parse_name l.kind hread.ticks]
    exact iff_of_false (Option.some_ne_none l).symm fun hall => Bool.false_ne_true hall.1
  | true =>
    rw [if_pos rfl, hshown, eq_self, true_and]
    -- a label that looks like a lifetime is skipped as one
    by_cases hlifetime : l.label.head? = some (.char '\x27')
    · have hother := value_kindAndLabel_lifetime hread.label hlifetime l.kind
      refine iff_of_false ?_ fun hall => hall.1 hlifetime
      intro hsame
      rcases Option.map_eq_some_iff.mp hsame with ⟨⟨kind, label⟩, hfound, hsame⟩
      exact hother (hfound.trans (by rw [← hsame]))
    · have hlabel := label?_join_singleton hread.label
      rw [if_neg hlifetime] at hlabel
      rw [value_kindAndLabel hkeeps l.kind hlabel, Option.map_some, Option.some_inj,
        ← readOf_eq_self_iff]
      constructor
      · intro hsame
        exact ⟨hlifetime, congrArg Location.label hsame⟩
      · rintro ⟨-, hsame⟩
        rw [hsame]

/-- A label that closes its brackets, in the Tick layers of a singleton. -/
theorem parse_display_eq_some_iff_shard :
    (parse "Singleton<usize, Tick<Tick<Cluster<'a, Shard<Key>>>>, Bounded>".text).value =
        some ⟨.cluster, "Shard<Key>".text, 2⟩ ∧
      (parse (Location.display ⟨.cluster, "Shard<Key>".text, 2⟩)).value =
        some ⟨.cluster, "Shard<Key>".text, 2⟩ := by
  have hparse :
      (parse "Singleton<usize, Tick<Tick<Cluster<'a, Shard<Key>>>>, Bounded>".text).value =
        some ⟨.cluster, "Shard<Key>".text, 2⟩ := by decide +kernel
  exact ⟨hparse, (parse_display_eq_some_iff hparse).mpr (by decide)⟩

/-- Without a parameter the display form is the name of the kind, which is not read back. -/
theorem display_not_read_back :
    (parse "Tick<Cluster<'a>>".text).value = some ⟨.cluster, "Cluster".text, 1⟩ ∧
      (parse (Location.display ⟨.cluster, "Cluster".text, 1⟩)).value = none := by
  decide +kernel

end Placement.TypeText
