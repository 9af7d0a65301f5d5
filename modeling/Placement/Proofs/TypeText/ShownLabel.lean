import Placement.Location.Display
import Placement.Proofs.Location.Ticks
import Placement.Proofs.TypeText.Display
import Placement.Proofs.Words

/-!
# Placement.Proofs.TypeText.ShownLabel — the label that a reader is shown

The label for a reader is taken from a text of the location, and not from the
location: the Tick layers are stripped (`stripTicks_wrapTicks`), and what stands in the
bracket of the kind is read up to the first bracket that closes, whichever one that is
(`exists_firstParameter?`). A lifetime in front is dropped, and a label has none of its
own (`dropLifetime_eq_self`).

So a label is shown as it was read when no bracket closes in it, and too short
otherwise, in the display form (`labelOf_display_iff`) as in the canonical text
(`labelOf_canonical_iff`). For a location without a parameter the display form shows
the kind, and the canonical text its lifetime (`labelOf_printed_iff`).
-/

namespace Placement.TypeText

open Location (labelOf stripTicks stripTicks_wrapTicks stripTicks_name dropLifetime firstParameter?)

variable {label t : Text} {l : Location}

/-! ## Layers and kinds -/

/-- What a reader is shown for a kind in Tick layers, with some text behind its name. -/
theorem labelOf_wrapTicks (kind : Kind) (rest : Text) (n : Nat) :
    labelOf (Location.wrapTicks (kind.name ++ rest) n) =
      match firstParameter? rest with
      | some parameter => dropLifetime (Text.trim parameter)
      | none => kind.name := by
  have hfilled : (Location.wrapTicks (kind.name ++ rest) n).isEmpty = false := by
    cases n with
    | zero => cases kind <;> rfl
    | succ n => rfl
  unfold labelOf
  rw [hfilled, if_neg Bool.false_ne_true, stripTicks_wrapTicks, stripTicks_name]
  cases kind <;> rfl

/-! ## The first closing bracket -/

/-- A text without closing brackets is read up to the first one behind it. -/
theorem firstParameter?_append (hne : t ≠ []) (ht : .char '>' ∉ t) (rest : Text) :
    firstParameter? (.char '<' :: (t ++ .char '>' :: rest)) = some t := by
  rcases List.exists_cons_of_ne_nil hne with ⟨c, r, rfl⟩
  rw [firstParameter?, Text.span_ne_append ht]

/-- What is read in a bracket has no closing one in it, and is all of a text that has none. -/
theorem exists_firstParameter? (hne : t ≠ []) (hhead : t.head? ≠ some (.char '>')) :
    ∃ front, firstParameter? (.char '<' :: (t ++ [.char '>'])) = some front ∧ .char '>' ∉ front ∧
      (.char '>' ∉ t → front = t) := by
  by_cases ht : .char '>' ∈ t
  · rcases List.eq_append_cons_of_mem ht with ⟨front, back, rfl, hfront⟩
    -- the bracket is not the first character, so something is read in front of it
    have hfilled : front ≠ [] := by
      rintro rfl
      exact hhead rfl
    refine ⟨front, ?_, hfront, fun hnone => absurd ht hnone⟩
    rw [List.append_assoc, List.cons_append, firstParameter?_append hfilled hfront]
  · exact ⟨t, firstParameter?_append hne ht [], ht, fun _ => rfl⟩

/-! ## Lifetimes -/

/-- Dropping a lifetime adds no characters. -/
theorem mem_of_mem_dropLifetime {c : CodePoint} (h : c ∈ dropLifetime t) : c ∈ t := by
  unfold dropLifetime at h
  split at h
  · rename_i r
    split at h
    · rename_i x name rest hspan
      have hr := (Text.span_eq_iff.mp hspan).1
      have hrest : c ∈ rest := (List.dropWhile_sublist _).mem h
      rw [hr]
      simp [hrest]
    · exact h
  · exact h

/-- A label has no lifetime of its own: the comma behind it would part the two. -/
theorem dropLifetime_eq_self (h : Single label) : dropLifetime label = label := by
  unfold dropLifetime
  split
  · rename_i r
    split
    · rename_i x name rest hspan
      rcases Text.span_eq_iff.mp hspan with ⟨rfl, hname, -⟩
      -- a lifetime is plain, so the comma behind it stands outside all brackets
      have hplain : ∀ c ∈ .char '\x27' :: x :: name, Depth.isPlain c = true := by
        refine List.forall_mem_cons.mpr ⟨by decide, fun c hc => isPlain_of_isIdent ?_⟩
        rw [Text.isIdent]
        rcases Bool.or_eq_true_iff.mp (hname c hc) with hsmall | hline
        · rw [hsmall, Bool.or_true, Bool.true_or, Bool.true_or]
        · rw [hline, Bool.or_true]
      exact absurd (Depth.leads_of_isPlain hplain).ends
        (h.uncut (.char '\x27' :: x :: name) rest rfl)
    · rfl
  · rfl

/-- Behind a lifetime the label is shown. -/
theorem dropLifetime_join_anonymous (h : Single label) :
    dropLifetime (Text.trim (join [anonymous, label])) = label := by
  have hlast : (join [anonymous, label]).getLast?.any Text.isBlank = false := by
    rw [join_anonymous, List.getLast?_append, List.getLast?_eq_some_getLast h.nonempty,
      Option.some_or, ← List.getLast?_eq_some_getLast h.nonempty]
    exact h.last
  rw [Text.trim_eq_self rfl hlast, join_anonymous]
  exact Text.trimLeft_eq_self h.head

/-! ## What is shown -/

/-- What is shown for a kind with parameters has no closing bracket in it, and is all that stands
behind the lifetime when the parameters have none. -/
theorem labelOf_parameters (hne : t ≠ []) (hhead : t.head? ≠ some (.char '>')) (kind : Kind)
    (n : Nat) :
    .char '>' ∉ labelOf (Location.wrapTicks (kind.name ++ .char '<' :: (t ++ [.char '>'])) n) ∧
      (.char '>' ∉ t →
        labelOf (Location.wrapTicks (kind.name ++ .char '<' :: (t ++ [.char '>'])) n) =
          dropLifetime (Text.trim t)) := by
  rcases exists_firstParameter? hne hhead with ⟨front, hread, hclean, hwhole⟩
  rw [labelOf_wrapTicks, hread]
  constructor
  · intro hmem
    exact hclean (Text.mem_of_mem_trim (mem_of_mem_dropLifetime hmem))
  · intro hnone
    rw [hwhole hnone]

/-- The label in the display form is shown when no bracket closes in it. -/
theorem labelOf_display_iff (h : Single l.label) :
    labelOf l.display = l.label ↔ (l.hasParameter = true → .char '>' ∉ l.label) := by
  rw [display_eq]
  cases hparameter : l.hasParameter with
  | false =>
    have hlabel : l.label = l.kind.name := by simpa [Location.hasParameter] using hparameter
    have hshown := labelOf_wrapTicks l.kind [] l.tickDepth
    rw [List.append_nil] at hshown
    rw [if_neg Bool.false_ne_true, hshown, hlabel]
    exact iff_of_true rfl fun htrue => absurd htrue Bool.false_ne_true
  -- the pattern stops at the first closing bracket, so a label without one is read whole
  | true =>
    rcases labelOf_parameters h.nonempty h.head?_ne l.kind l.tickDepth with ⟨hclean, hwhole⟩
    rw [if_pos rfl, generic, join_singleton]
    constructor
    · intro hsame _
      rwa [hsame] at hclean
    · intro hnone
      rw [hwhole (hnone rfl), h.trim, dropLifetime_eq_self h]

/-- The label in the canonical text is shown when it has one in which no bracket closes. -/
theorem labelOf_canonical_iff (h : Single l.label) :
    labelOf l.canonical = l.label ↔ l.hasParameter = true ∧ .char '>' ∉ l.label := by
  rw [canonical_eq]
  cases hparameter : l.hasParameter with
  | false =>
    have hlabel : l.label = l.kind.name := by simpa [Location.hasParameter] using hparameter
    have hshown : labelOf (Location.wrapTicks (generic l.kind.name [anonymous]) l.tickDepth) =
        anonymous := labelOf_wrapTicks l.kind "<'_>".text l.tickDepth
    rw [if_neg Bool.false_ne_true, hshown, hlabel]
    refine iff_of_false ?_ fun hall => Bool.false_ne_true hall.1
    cases l.kind <;> decide
  | true =>
    have hhead : (join [anonymous, l.label]).head? = some (.char '\x27') := by
      rw [join_anonymous]
      rfl
    have hne : join [anonymous, l.label] ≠ [] := List.ne_nil_of_mem (List.mem_of_head? hhead)
    -- no bracket closes in the lifetime in front of the label
    have hmem : .char '>' ∈ join [anonymous, l.label] ↔ .char '>' ∈ l.label := by
      rw [join_anonymous, List.mem_append]
      exact or_iff_right (by decide)
    rcases labelOf_parameters hne (by rw [hhead]; decide) l.kind l.tickDepth with ⟨hclean, hwhole⟩
    rw [if_pos rfl, generic, eq_self, true_and]
    constructor
    · intro hsame
      rwa [hsame] at hclean
    · intro hnone
      rw [hwhole (mt hmem.mp hnone), dropLifetime_join_anonymous h]

/-- The label of a location that was read from any text is shown for its display form exactly when
no angle bracket closes in it or it is not in that form at all, and for its canonical text exactly
when it is in that text and no angle bracket closes in it. -/
theorem labelOf_printed_iff (h : (parse t).value = some l) :
    (labelOf l.display = l.label ↔ (l.hasParameter = true → .char '>' ∉ l.label)) ∧
      (labelOf l.canonical = l.label ↔ l.hasParameter = true ∧ .char '>' ∉ l.label) := by
  have hlabel := (readable_of_parse h).label
  exact ⟨labelOf_display_iff hlabel, labelOf_canonical_iff hlabel⟩

/-- A label without brackets, in two Tick layers of a stream. -/
theorem labelOf_printed_iff_leader :
    (parse "Stream<u8, Tick<Tick<Process<'a, Leader>>>, Bounded>".text).value =
        some ⟨.process, "Leader".text, 2⟩ ∧
      labelOf (Location.display ⟨.process, "Leader".text, 2⟩) = "Leader".text ∧
      labelOf (Location.canonical ⟨.process, "Leader".text, 2⟩) = "Leader".text := by
  have hparse : (parse "Stream<u8, Tick<Tick<Process<'a, Leader>>>, Bounded>".text).value =
      some ⟨.process, "Leader".text, 2⟩ := by decide +kernel
  rcases labelOf_printed_iff hparse with ⟨hdisplay, hcanonical⟩
  exact ⟨hparse, hdisplay.mpr fun _ => by decide, hcanonical.mpr (by decide)⟩

/-- Of a generic label the end is not shown, and the lifetime is for a location without a
parameter. -/
theorem labelOf_not_label :
    ((parse "Stream<u8, Cluster<'a, Shard<Key>>>".text).value =
        some ⟨.cluster, "Shard<Key>".text, 0⟩ ∧
      labelOf (Location.display ⟨.cluster, "Shard<Key>".text, 0⟩) = "Shard<Key".text) ∧
    (parse "Process<'a>".text).value = some ⟨.process, "Process".text, 0⟩ ∧
      labelOf (Location.canonical ⟨.process, "Process".text, 0⟩) = "'_".text := by
  have hshard := labelOf_wrapTicks .cluster "<Shard<Key>>".text 0
  have hlifetime := labelOf_wrapTicks .process "<'_>".text 0
  exact ⟨⟨by decide +kernel, hshard⟩, by decide +kernel, hlifetime⟩

end Placement.TypeText
