import Mathlib.Data.List.Basic
import Placement.Chain

/-!
# Placement.Proofs.SourceOrder — sorting sites is stable

The sites of a pass are put into the order of the source, and those at one
position keep the order in which they were given. Two lists that are sorted,
and agree on the order of the sites at every position, are the same
(`eq_of_sorted_of_sitesAt`). Leaving sites out therefore commutes with
sorting (`filter_inSourceOrder`).
-/

namespace Placement

namespace Position

/-- Two positions that come before each other are the same. -/
theorem eq_of_le_of_le {p q : Position} (hpq : p.le q = true) (hqp : q.le p = true) : p = q := by
  cases p
  cases q
  simp only [le, Bool.or_eq_true, decide_eq_true_eq, Bool.and_eq_true, beq_iff_eq] at hpq hqp
  simp only [Position.mk.injEq]
  omega

end Position

namespace Chain

/-- Sites that stand in the order of the source. -/
abbrev Sorted (sites : List Site) : Prop :=
  sites.Pairwise fun s t => s.position.le t.position = true

/-- The sites at a position. -/
def sitesAt (p : Position) (sites : List Site) : List Site :=
  sites.filter fun s => s.position == p

theorem inSourceOrder_perm (sites : List Site) : (inSourceOrder sites).Perm sites :=
  List.mergeSort_perm sites _

/-- Sorting puts the sites into the order of the source. -/
theorem sorted_inSourceOrder (sites : List Site) : Sorted (inSourceOrder sites) := by
  apply List.pairwise_mergeSort
  · intro a b c hab hbc
    exact Position.le_trans hab hbc
  · intro a b
    exact Position.le_total a.position b.position

/-- Sites at one position keep the order in which they were given. -/
theorem sitesAt_inSourceOrder (p : Position) (sites : List Site) :
    sitesAt p (inSourceOrder sites) = sitesAt p sites := by
  have hsorted : (sitesAt p sites).Pairwise fun s t => s.position.le t.position = true := by
    apply List.Pairwise.imp_of_mem (R := fun _ _ => True)
    · intro s t hs ht _
      simp only [sitesAt, List.mem_filter, beq_iff_eq] at hs ht
      rw [hs.2, ht.2]
      exact Position.le_refl p
    · exact List.pairwise_of_forall fun _ _ => trivial
  -- sorting keeps every sublist that is sorted already
  have hsub : (sitesAt p sites).Sublist (inSourceOrder sites) := by
    apply List.sublist_mergeSort
    · intro a b c hab hbc
      exact Position.le_trans hab hbc
    · intro a b
      exact Position.le_total a.position b.position
    · exact hsorted
    · exact List.filter_sublist
  have hsub' : (sitesAt p sites).Sublist (sitesAt p (inSourceOrder sites)) := by
    have h := hsub.filter fun s => s.position == p
    simpa [sitesAt] using h
  exact (hsub'.eq_of_length ((inSourceOrder_perm sites).filter _).length_eq.symm).symm

/-- A sorted list of sites is known from the sites at each position. -/
theorem eq_of_sorted_of_sitesAt {sites others : List Site} (hs : Sorted sites) (ho : Sorted others)
    (hperm : sites.Perm others) (hat : ∀ p, sitesAt p sites = sitesAt p others) :
    sites = others := by
  induction sites generalizing others with
  | nil => exact (List.nil_perm.mp hperm).symm
  | cons s more ih =>
    cases others with
    | nil => exact absurd hperm.symm (List.nil_perm.not.mpr (List.cons_ne_nil s more))
    | cons t rest =>
      rw [Sorted, List.pairwise_cons] at hs ho
      -- each head stands before the other one, so both lists begin at the same position
      have hst : s.position.le t.position = true := by
        rcases List.mem_cons.mp (hperm.mem_iff.mpr (List.mem_cons_self (a := t))) with h | h
        · rw [h]
          exact Position.le_refl _
        · exact hs.1 t h
      have hts : t.position.le s.position = true := by
        rcases List.mem_cons.mp (hperm.mem_iff.mp (List.mem_cons_self (a := s))) with h | h
        · rw [h]
          exact Position.le_refl _
        · exact ho.1 s h
      have hp : t.position = s.position := Position.eq_of_le_of_le hts hst
      have hhead := hat s.position
      simp only [sitesAt, List.filter_cons, hp, beq_self_eq_true, if_true, List.cons.injEq] at hhead
      rcases hhead with ⟨rfl, -⟩
      have htail : ∀ p, sitesAt p more = sitesAt p rest := by
        intro p
        have h := hat p
        simp only [sitesAt, List.filter_cons] at h
        split at h
        · exact (List.cons.inj h).2
        · exact h
      rw [ih hs.2 ho.2 hperm.cons_inv htail]

/-- Leaving sites out before or after sorting gives the same list. -/
theorem filter_inSourceOrder (keep : Site → Bool) (sites : List Site) :
    (inSourceOrder sites).filter keep = inSourceOrder (sites.filter keep) := by
  apply eq_of_sorted_of_sitesAt
  · exact (sorted_inSourceOrder sites).filter keep
  · exact sorted_inSourceOrder (sites.filter keep)
  · exact ((inSourceOrder_perm sites).filter keep).trans (inSourceOrder_perm _).symm
  · intro p
    -- at one position the two filters may be swapped
    rw [sitesAt_inSourceOrder, sitesAt, sitesAt, List.filter_comm, ← sitesAt,
      sitesAt_inSourceOrder, sitesAt, List.filter_comm]

end Chain

end Placement
