import Placement.Proofs.TypeText.Grammar
import Placement.TypeText.Location

/-!
# Placement.Proofs.TypeText.Label — what a label can look like

The parameters of a location kind are read up to the bracket that closes them, or to
the end of the text when none does. In neither of the two does an angle bracket
close without having been opened (`keepsAngles_openBody`), so that every parameter is
a single text. The label of a location is one of them, or the name of the kind. So,
whatever text a location was read from, its label is `Single`, and it is in no more
Tick layers than are read (`readable_of_parse`).
-/

namespace Placement.TypeText

open Depth (KeepsAngles closing?)

variable {kind : Kind} {label : Text} {l : Location}

/-- A location as it can be read from a text. -/
structure Readable (l : Location) : Prop where
  label : Single l.label
  ticks : l.tickDepth ≤ maxNesting

/-! ## Parameters of a kind -/

/-- What stands behind an open bracket, up to the one that closes it if there is one. -/
def openBody (rest : Text) : Text :=
  ((closing? ⟨1, 0⟩ (some (.char '<')) rest).map (·.1)).getD rest

/-- No angle bracket closes in what is read of a kind. -/
theorem keepsAngles_openBody (rest : Text) : KeepsAngles .top none (openBody rest) := by
  -- the character before is the bracket, behind which no arrow can end
  have hbehind : ∀ {t : Text}, KeepsAngles .top (some (.char '<')) t → KeepsAngles .top none t :=
    fun h => h.behind (h.head?_ne rfl (by decide)) none
  unfold openBody
  cases hclosing : closing? ⟨1, 0⟩ (some (.char '<')) rest with
  | none => exact hbehind (Depth.closing?_eq_none_iff.mp hclosing)
  | some found =>
    rcases found with ⟨inner, behind⟩
    exact hbehind ((Depth.closing?_eq_some_iff (d := .top)).mp hclosing).2.1

/-- The parameters of a kind are those of what stands in its bracket. -/
theorem value_kindParameters (source rest : Text) :
    (kindParameters source rest).value = parameters (openBody rest) := by
  have hread : (Depth.readClosing source rest).value =
      closing? ⟨1, 0⟩ (some (.char '<')) rest := rfl
  unfold kindParameters openBody
  rw [Logged.value_bind, hread]
  cases closing? ⟨1, 0⟩ (some (.char '<')) rest <;> rfl

/-- A label is one of the parameters. -/
theorem mem_of_label? {ps : List Text} (h : label? ps = some label) : label ∈ ps := by
  match ps with
  | [] => cases h
  | [p] =>
    by_cases hlifetime : p.head? = some (.char '\x27')
    · simp [label?, hlifetime] at h
    · simp [label?, hlifetime] at h
      simp [h]
  | p :: q :: more =>
    by_cases hlifetime : p.head? = some (.char '\x27')
    · simp [label?, hlifetime] at h
      simp [h]
    · simp [label?, hlifetime] at h

/-- The first open kind gives its label, or it is left for the next one. -/
theorem value_firstLabelled_cons (source rest : Text) (kind : Kind) (more : List (Kind × Text)) :
    (firstLabelled source ((kind, rest) :: more)).value =
      match label? (parameters (openBody rest)) with
      | some label => some (kind, label)
      | none => (firstLabelled source more).value := by
  rw [firstLabelled, Logged.value_bind, value_kindParameters]
  cases label? (parameters (openBody rest)) <;> rfl

/-- The first label is that of one of the open kinds, read from behind its bracket. -/
theorem exists_of_firstLabelled {source : Text} {kinds : List (Kind × Text)}
    (h : (firstLabelled source kinds).value = some (kind, label)) :
    ∃ found ∈ kinds, label? (parameters (openBody found.2)) = some label := by
  induction kinds with
  | nil => cases h
  | cons first more ih =>
    rw [value_firstLabelled_cons] at h
    cases hlabel : label? (parameters (openBody first.2)) with
    | none =>
      rw [hlabel] at h
      rcases ih h with ⟨found, hfound, hread⟩
      exact ⟨found, List.mem_cons_of_mem first hfound, hread⟩
    | some part =>
      rw [hlabel] at h
      cases h
      exact ⟨first, List.mem_cons_self, hlabel⟩

/-- The label of an open kind is single. -/
theorem single_of_firstLabelled {source : Text} {kinds : List (Kind × Text)}
    (h : (firstLabelled source kinds).value = some (kind, label)) : Single label := by
  rcases exists_of_firstLabelled h with ⟨found, -, hlabel⟩
  exact single_of_mem_parameters (keepsAngles_openBody found.2) (mem_of_label? hlabel)

theorem single_kind (kind : Kind) : Single kind.name := by
  cases kind <;> exact Balanced.single (by decide)

/-- The label of a kind is single, also when the kind stands for itself. -/
theorem single_of_kindAndLabel {t : Text} (h : (kindAndLabel t).value = some (kind, label)) :
    Single label := by
  unfold kindAndLabel at h
  rw [Logged.value_bind] at h
  cases hfirst : (firstLabelled t (Text.Pattern.findAll openKind t)).value with
  | some found =>
    rw [hfirst] at h
    cases h
    exact single_of_firstLabelled hfirst
  | none =>
    -- without a label the kind stands for itself
    rw [hfirst, Logged.value_pure, Option.map_eq_some_iff] at h
    rcases h with ⟨found, -, hfound⟩
    cases hfound
    exact single_kind _

/-! ## Layers -/

/-- No more layers are counted than are read. -/
theorem le_of_unwrapTicks {left depth n : Nat} {t inner : Text}
    (h : (unwrapTicks left depth t).value = .ok (inner, n)) : n ≤ depth + left := by
  -- `left` is the budget of layers: each one taken off moves one unit from it to the depth
  induction left generalizing depth t with
  | zero =>
    rw [unwrapTicks, Logged.value_bind] at h
    cases hlayer : (tickLayer t).value with
    | none =>
      rw [hlayer] at h
      cases h
      exact Nat.le_refl _
    | some more =>
      rw [hlayer] at h
      cases h
  | succ left ih =>
    rw [unwrapTicks, Logged.value_bind] at h
    cases hlayer : (tickLayer t).value with
    | none =>
      rw [hlayer] at h
      cases h
      exact Nat.le_add_right _ _
    | some more =>
      rw [hlayer] at h
      have hmore := ih h
      omega

/-- A location in Tick layers has a single label and no more layers than are read. -/
theorem readable_of_plainLocation {t : Text} (h : (plainLocation t).value = .ok (some l)) :
    Readable l := by
  unfold plainLocation at h
  rw [Logged.value_bind] at h
  cases hunwrap : (unwrapTicks maxNesting 0 t).value with
  | error fault =>
    rw [hunwrap] at h
    cases h
  | ok found =>
    rcases found with ⟨inner, depth⟩
    rw [hunwrap] at h
    -- the label came out of a cut at commas, the depth out of a budget of `maxNesting`
    simp only [Logged.value_bind, Logged.value_pure, Except.ok.injEq,
      Option.map_eq_some_iff] at h
    rcases h with ⟨⟨kind, label⟩, hlabel, rfl⟩
    have hticks := le_of_unwrapTicks hunwrap
    exact ⟨single_of_kindAndLabel hlabel, by rwa [Nat.zero_add] at hticks⟩

/-- So has a location in containers. -/
theorem readable_of_locate {left : Nat} {t : Text} (h : (locate left t).value = .ok (some l)) :
    Readable l := by
  induction left generalizing t with
  | zero => cases h
  | succ left ih =>
    rw [locate, Logged.value_bind] at h
    cases hcontainer : (containerLocation (dropReference (Text.trim t))).value with
    | some parameter =>
      rw [hcontainer] at h
      exact ih h
    | none =>
      rw [hcontainer] at h
      exact readable_of_plainLocation h

/-- What is read from any text has a single label, and no more Tick layers than are read. -/
theorem readable_of_parse {t : Text} (h : (parse t).value = some l) : Readable l := by
  unfold parse at h
  split at h
  · cases h
  · rw [Logged.value_bind] at h
    cases hlocate : (locate (maxNesting + 1) t).value with
    | ok found =>
      rw [hlocate] at h
      have hfound : found = some l := h
      exact readable_of_locate (hfound ▸ hlocate)
    | error fault =>
      rw [hlocate] at h
      cases h

end Placement.TypeText
