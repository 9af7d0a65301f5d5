import Placement.Proofs.BracketCount
import Placement.Proofs.TypeText.Single

/-!
# Placement.Proofs.TypeText.Splitting — a list and its parameters

Splitting a parameter list loses nothing, whatever brackets it holds: the text `Lists` its
parameters (`lists_parameters`), which is to say that they stand in it one behind the other,
a comma behind each but the last, with nothing but blanks and further commas around them.
Splitting them once more, joined, gives the same ones (`parameters_join_parameters`), and a
warning comes exactly when the brackets do not match (`exists_warning_iff`). Together this
is `split_stable`.
-/

namespace Placement.TypeText

open Depth (Leads count)

variable {t u p gap : Text} {parts qs : List Text}

/-! ## Listed parameters -/

/-- A text of blanks and commas. -/
def Gap (t : Text) : Prop := ∀ c ∈ t, Text.isBlank c = true ∨ c = ','

/-- Up to blanks the text is at its end, or goes on with a comma. -/
def Delimits (t : Text) : Prop := ∀ c r, Text.trimLeft t = c :: r → c = ','

/-- Some texts stand in a text one behind the other, with gaps around them and a comma behind each
but the last. -/
inductive Lists : Text → List Text → Prop
  | nil {gap : Text} (h : Gap gap) : Lists gap []
  | cons {gap p rest : Text} {parts : List Text} (h : Gap gap) (hends : Delimits rest)
      (hrest : Lists rest parts) : Lists (gap ++ (p ++ rest)) (p :: parts)

theorem delimits_nil : Delimits [] := fun _ _ h => absurd h.symm (List.cons_ne_nil _ _)

/-- A comma delimits. -/
theorem delimits_comma (t : Text) : Delimits (.char ',' :: t) := by
  intro c r h
  rw [Text.trimLeft_cons_of_not_isBlank (by decide)] at h
  exact (List.cons.inj h).1.symm

/-- Blanks in front make no difference. -/
theorem Delimits.behind_blanks {blanks : Text} (h : Delimits t)
    (hblanks : ∀ c ∈ blanks, Text.isBlank c = true) : Delimits (blanks ++ t) := by
  intro c r ht
  rw [Text.trimLeft, List.dropWhile_append_of_pos hblanks] at ht
  exact h c r ht

/-- Two gaps are one. -/
theorem gap_append (h : Gap t) (hu : Gap u) : Gap (t ++ u) := by
  intro c hc
  rcases List.mem_append.mp hc with hc | hc
  · exact h c hc
  · exact hu c hc

/-- A gap in front of a list changes nothing of it. -/
theorem Lists.prepend (h : Gap gap) (hlists : Lists t parts) : Lists (gap ++ t) parts := by
  cases hlists with
  | nil ht => exact .nil (gap_append h ht)
  | cons ht hends hrest =>
    rw [← List.append_assoc]
    exact .cons (gap_append h ht) hends hrest

/-- A stretch in front of a list is listed as what trimming leaves of it, if anything. -/
theorem Lists.stretch (q : Text) (hends : Delimits t)
    (h : Lists t (parts.filter fun p => !p.isEmpty)) :
    Lists (q ++ t) ((Text.trim q :: parts).filter fun p => !p.isEmpty) := by
  rcases Text.exists_trim q with ⟨front, back, hsplit, hfront, hback⟩
  have hgap : Gap front := fun c hc => Or.inl (hfront c hc)
  have hrest := h.prepend fun c hc => Or.inl (hback c hc)
  -- a stretch of blanks belongs to the gap in front of what follows
  cases hq : Text.trim q with
  | nil =>
    rw [hsplit, hq, List.nil_append, List.append_assoc]
    exact hrest.prepend hgap
  | cons c r =>
    rw [hsplit, hq, List.append_assoc, List.append_assoc]
    exact .cons hgap (hends.behind_blanks hback) hrest

/-- A text lists what trimming leaves of its stretches. -/
theorem Stretches.lists (h : Stretches t qs) :
    Lists t ((qs.map Text.trim).filter fun p => !p.isEmpty) := by
  -- on the stretches: each one but the last stands in front of a comma
  induction h with
  | @last t _ =>
    have hnil : Lists [] (([] : List Text).filter fun p => !p.isEmpty) :=
      .nil (List.forall_mem_nil _)
    have hlists := hnil.stretch t delimits_nil
    rwa [List.append_nil] at hlists
  | @more front rest qs _ _ _ ih =>
    have hcomma : Gap [.char ','] := List.forall_mem_singleton.mpr (Or.inr rfl)
    exact Lists.stretch front (delimits_comma rest) (ih.prepend hcomma)

/-- A list consists of its parameters, blanks and commas. -/
theorem lists_parameters (t : Text) : Lists t (parameters t) :=
  (stretches_cutAtCommas_none t).lists

/-! ## Splitting again -/

/-- The parameters of a list, joined, are split into themselves. -/
theorem parameters_join_parameters (t : Text) :
    parameters (join (parameters t)) = parameters t := by
  by_cases hnone : parameters t = []
  · rw [hnone]
    rfl
  · exact parameters_join (fun _ hp => part_of_mem_parameters hp)
      (fun _ hp => after_of_mem_dropLast_parameters hp) hnone

/-! ## Reports -/

/-- Nothing is reported at the end when no bracket is open there. -/
theorem openNotices_eq_nil_iff {d : Depth} : d.openNotices t = [] ↔ d = .top := by
  obtain ⟨angle, round⟩ := d
  rw [Depth.openNotices, List.append_eq_nil_iff, Depth.top, Depth.mk.injEq]
  refine and_congr ?_ ?_
  · split <;> simp_all
  · split <;> simp_all

/-- A list is read without reports exactly when it closes its brackets and no others. -/
theorem bracketNotices_eq_nil_iff : bracketNotices t = [] ↔ Leads .top none t .top := by
  rw [bracketNotices, List.append_eq_nil_iff, Depth.slipNotices, List.map_eq_nil_iff,
    openNotices_eq_nil_iff, Depth.leads_iff]

/-- All reports on brackets are warnings. -/
theorem severity_of_mem_bracketNotices {n : Notice} (h : n ∈ bracketNotices t) :
    n.severity = .warning := by
  rw [bracketNotices, List.mem_append, Depth.slipNotices, List.mem_map, Depth.openNotices,
    List.mem_append] at h
  rcases h with ⟨b, -, rfl⟩ | hangle | hround
  · rfl
  · split at hangle
    · exact absurd hangle List.not_mem_nil
    · rw [List.mem_singleton.mp hangle]
      rfl
  · split at hround
    · exact absurd hround List.not_mem_nil
    · rw [List.mem_singleton.mp hround]
      rfl

/-- A warning comes exactly when the brackets of a list do not match. -/
theorem exists_warning_iff :
    (∃ n ∈ bracketNotices t, n.severity = .warning) ↔ ¬ Leads .top none t .top := by
  rw [← bracketNotices_eq_nil_iff]
  constructor
  · rintro ⟨n, hn, -⟩ hnil
    rw [hnil] at hn
    exact absurd hn List.not_mem_nil
  · intro hne
    rcases List.exists_mem_of_ne_nil _ hne with ⟨n, hn⟩
    exact ⟨n, hn, severity_of_mem_bracketNotices hn⟩

/-- Splitting a list gives trimmed parameters without a comma outside their brackets, all but the
last of which close the brackets that they open; with blanks and commas the list consists of them;
they are split again into themselves; and a warning comes exactly when the count of one kind of
bracket goes below zero in the list or does not end at zero. -/
theorem split_stable (t : Text) :
    (∀ p ∈ (split t).value, p ≠ [] ∧ Text.trim p = p ∧ Uncut .top none p) ∧
    (∀ p ∈ (split t).value.dropLast, Depth.top.after none p = .top) ∧
    Lists t (split t).value ∧
    (split (join (split t).value)).value = (split t).value ∧
    ((∃ n ∈ (split t).notices, n.severity = .warning) ↔
      ∃ b, (∃ front, front <+: t ∧ count b none front < 0) ∨ count b none t ≠ 0) := by
  refine ⟨?_, ?_, lists_parameters t, parameters_join_parameters t, ?_⟩
  · intro p hp
    have hpart := part_of_mem_parameters hp
    exact ⟨hpart.nonempty, hpart.trim, hpart.uncut⟩
  · exact fun _ hp => after_of_mem_dropLast_parameters hp
  · refine exists_warning_iff.trans ?_
    rw [Depth.leads_top_iff_count]
    simp only [Classical.not_forall, Classical.not_and_iff_not_or_not, Int.not_le, exists_prop]

/-- A list that closes a bracket too often, and leaves one open. -/
example : (split "A>, <B, C".text).value = ["A>".text, "<B, C".text] := by decide

end Placement.TypeText
