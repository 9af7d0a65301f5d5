import Mathlib.Data.List.Nodup
import Placement.Proofs.Chain.Rule

/-!
# Placement.Proofs.Chain.Order — the order in which sites are given

Sites may be given in any order: a pass visits them in the order of the source. When
no two of them stand at one position, this order is the same for every way to list
them (`inSourceOrder_eq_of_perm`), and so is the pass with its requests, its notices
and its outcome. Its attributions come from different sites, which follow each other
in the document as the attributions do (`exists_sources_of_trackFrom`).
-/

namespace Placement

/-- The position stands on an earlier line than another one, or on the same line in front of it. -/
def Position.Before (p q : Position) : Prop :=
  p.line < q.line ∨ p.line = q.line ∧ p.character < q.character

/-- In the order of the source one of two different positions comes before the other. -/
theorem Position.before_of_le_of_ne {p q : Position} (hle : p.le q = true) (hne : p ≠ q) :
    p.Before q := by
  cases p
  cases q
  simp only [le, Bool.or_eq_true, decide_eq_true_eq, Bool.and_eq_true, beq_iff_eq] at hle
  simp only [ne_eq, Position.mk.injEq] at hne
  simp only [Before]
  omega

namespace Chain

variable (operators : Operators) (backend : Backend) (limit : Number) {d : Document}
  {sites others : List Site}

/-- No two of the sites stand at one position. -/
abbrev Apart (sites : List Site) : Prop := (sites.map Site.position).Nodup

/-- Sites at different positions have one order only. -/
theorem inSourceOrder_eq_of_perm (hperm : sites.Perm others) (hapart : Apart sites) :
    inSourceOrder sites = inSourceOrder others := by
  have hsorted : (inSourceOrder sites).Perm (inSourceOrder others) :=
    (inSourceOrder_perm sites).trans (hperm.trans (inSourceOrder_perm others).symm)
  refine List.Perm.eq_of_pairwise ?_ (sorted_inSourceOrder sites) (sorted_inSourceOrder others)
    hsorted
  intro s t hs ht hst hts
  have hposition : s.position = t.position := Position.eq_of_le_of_le hst hts
  have hs' : s ∈ sites := (inSourceOrder_perm sites).mem_iff.mp hs
  have ht' : t ∈ sites := by
    rw [hperm.mem_iff]
    exact (inSourceOrder_perm others).mem_iff.mp ht
  -- two sites at one position are the same one
  exact List.inj_on_of_nodup_map hapart hs' ht' hposition

/-- The attribution is what a visit of the site finds, behind some state of the chain. -/
def FoundAt (d : Document) (s : Site) (a : Attribution) : Prop :=
  ∃ state next, (visit operators backend limit d state s).outcome = .ok (next, some a)

/-- The attributions of a pass are found at some of its sites, one at each, in the same order. -/
theorem exists_sources_of_trackFrom {state : State} {found : List Attribution}
    (h : (trackFrom operators backend limit d state sites).outcome = .ok found) :
    ∃ sources, sources.Sublist sites ∧
      List.Forall₂ (FoundAt operators backend limit d) sources found := by
  -- each visit changes the state, so the induction is over the sites for all states
  induction sites generalizing state found with
  | nil =>
    cases h
    exact ⟨[], List.Sublist.refl [], List.Forall₂.nil⟩
  | cons s more ih =>
    unfold trackFrom at h
    rcases Run.outcome_bind_eq_ok.mp h with ⟨logged, -, h⟩
    rcases Run.outcome_bind_eq_ok.mp h with ⟨isIn, -, h⟩
    -- a site outside the document is passed over, and the state stays
    cases isIn with
    | false =>
      rw [if_neg Bool.false_ne_true] at h
      rcases ih h with ⟨sources, hsub, hfound⟩
      exact ⟨sources, hsub.cons s, hfound⟩
    | true =>
      rw [if_pos rfl] at h
      rcases Run.outcome_bind_eq_ok.mp h with ⟨⟨next, entry⟩, hvisit, h⟩
      rcases Run.outcome_bind_eq_ok.mp h with ⟨rest, hrest, h⟩
      rcases ih hrest with ⟨sources, hsub, hfound⟩
      cases h
      cases entry with
      | none => exact ⟨sources, hsub.cons s, hfound⟩
      | some a =>
        have hs : FoundAt operators backend limit d s a := ⟨state, next, hvisit⟩
        exact ⟨s :: sources, hsub.cons_cons s, List.Forall₂.cons hs hfound⟩

/-- Sites at different positions may be listed in any order: the pass over them is the same. Its
attributions are found at some of the sites, one at each, and stand in the order of their lines and
characters. -/
theorem track_eq_of_perm (hperm : sites.Perm others) (hapart : Apart sites) :
    track operators backend limit d sites = track operators backend limit d others ∧
    ∀ found, (track operators backend limit d sites).outcome = .ok found →
      ∃ sources : List Site, sources.Sublist (inSourceOrder sites) ∧
        sources.Pairwise (fun s t => s.position.Before t.position) ∧
        List.Forall₂ (FoundAt operators backend limit d) sources found := by
  constructor
  · unfold track
    rw [inSourceOrder_eq_of_perm hperm hapart]
  · intro found hfound
    rcases exists_sources_of_trackFrom operators backend limit hfound with
      ⟨sources, hsub, hsources⟩
    refine ⟨sources, hsub, ?_, hsources⟩
    have hdifferent : Apart (inSourceOrder sites) :=
      ((inSourceOrder_perm sites).map Site.position).nodup_iff.mpr hapart
    -- sorted places that are different ones follow each other strictly
    have hbefore : (inSourceOrder sites).Pairwise fun s t => s.position.Before t.position := by
      have hboth := (sorted_inSourceOrder sites).and (List.pairwise_map.mp hdifferent)
      exact hboth.imp fun ⟨hle, hne⟩ => Position.before_of_le_of_ne hle hne
    exact hbefore.sublist hsub

/-- The second site listed first: the pass over the two sites is the same, and comes to its end. -/
theorem track_eq_of_perm_two_statements :
    twoSites.Perm twoSites.reverse ∧ Apart twoSites ∧
    track .standard firstOnly (.int 5000) twoStatements twoSites =
      track .standard firstOnly (.int 5000) twoStatements twoSites.reverse ∧
    ∃ found sources,
      (track .standard firstOnly (.int 5000) twoStatements twoSites).outcome = .ok found ∧
      sources.Pairwise (fun s t : Site => s.position.Before t.position) ∧
      List.Forall₂ (FoundAt .standard firstOnly (.int 5000) twoStatements) sources found := by
  have hperm : twoSites.Perm twoSites.reverse := (List.reverse_perm twoSites).symm
  have hapart : Apart twoSites := by decide +kernel
  have hpass := track_yields .standard fun s (_ : s ∈ twoSites) => undisturbed_two_statements s
  have hends := hpass.gives
  rcases track_eq_of_perm .standard firstOnly (.int 5000) hperm hapart with ⟨hsame, hordered⟩
  rcases hordered _ hends with ⟨sources, -, hbefore, hfound⟩
  exact ⟨hperm, hapart, hsame, _, sources, hends, hbefore, hfound⟩

end Chain

end Placement
