import Placement.Proofs.Brackets

/-!
# Placement.Proofs.BracketCount — brackets counted below zero

A depth is cut off at zero. The count of open brackets of one kind (`count`) is not: it
goes down at every bracket that closes, the `>` of an arrow apart, and below zero where
too many do. A scan `Leads` on exactly when neither count falls below what is open at its
beginning, and it then ends as deep as the counts say (`leads_iff_count`). From the top to
the top it leads when no count goes below zero or ends off zero (`leads_top_iff_count`).
-/

namespace Placement

namespace Depth

variable {d d' : Depth} {before : Option CodePoint} {c : CodePoint} {t : Text}

/-! ## Counts -/

/-- How many brackets of one kind are open. -/
def opened (d : Depth) : Bracket → Nat
  | .angle => d.angle
  | .round => d.round

/-- What a character adds to the count of open brackets of one kind. -/
def weight (before : Option CodePoint) (c : CodePoint) : Bracket → Int
  | .angle => if c = '<' then 1 else if closesAngle before c then -1 else 0
  | .round => if c = '(' then 1 else if c = ')' then -1 else 0

/-- How many brackets of one kind a text opens beyond those that it closes. -/
def count (b : Bracket) (before : Option CodePoint) : Text → Int
  | [] => 0
  | c :: r => weight before c b + count b (some c) r

@[simp] theorem opened_top (b : Bracket) : top.opened b = 0 := by
  cases b <;> rfl

/-- A depth is known from how many brackets of each kind are open. -/
theorem ext_opened (h : ∀ b, d.opened b = d'.opened b) : d = d' := by
  obtain ⟨angle, round⟩ := d
  obtain ⟨angle', round'⟩ := d'
  rw [Depth.mk.injEq]
  exact ⟨h .angle, h .round⟩

/-! ## Steps -/

theorem ne_of_closesAngle (h : closesAngle before c = true) : c ≠ '<' ∧ c ≠ '(' ∧ c ≠ ')' := by
  refine ⟨?_, ?_, ?_⟩ <;> rintro rfl <;> exact absurd h (by simp [closesAngle])

/-- Parentheses leave the number of open angle brackets as it is. -/
theorem next_angle :
    (d.next before c).angle =
      if c = '<' then d.angle + 1 else if closesAngle before c then d.angle - 1 else d.angle := by
  unfold next
  repeat (first | rfl | split)

/-- Angle brackets leave the number of open parentheses as it is. -/
theorem next_round :
    (d.next before c).round =
      if c = '(' then d.round + 1 else if c = ')' then d.round - 1 else d.round := by
  unfold next
  -- an angle bracket is looked at first, and it is no parenthesis
  by_cases hopens : c = '<'
  · simp [hopens]
  · rw [if_neg hopens]
    by_cases hcloses : closesAngle before c = true
    · rw [if_pos hcloses, if_neg (ne_of_closesAngle hcloses).2.1,
        if_neg (ne_of_closesAngle hcloses).2.2]
    · rw [if_neg hcloses]
      repeat (first | rfl | split)

/-- The count of angle brackets stays at zero or above when the one that closes is open. -/
theorem nonneg_angle_iff :
    0 ≤ (d.opened .angle : Int) + weight before c .angle ↔
      (closesAngle before c = true → d.angle ≠ 0) := by
  show 0 ≤ (d.angle : Int) + (if c = '<' then 1 else if closesAngle before c then -1 else 0) ↔ _
  by_cases hcloses : closesAngle before c = true
  · rw [if_neg (ne_of_closesAngle hcloses).1, if_pos hcloses, imp_iff_right hcloses]
    omega
  · rw [if_neg hcloses]
    refine iff_of_true ?_ fun h => absurd h hcloses
    split <;> omega

/-- The same for parentheses. -/
theorem nonneg_round_iff :
    0 ≤ (d.opened .round : Int) + weight before c .round ↔ (c = ')' → d.round ≠ 0) := by
  show 0 ≤ (d.round : Int) + (if c = '(' then 1 else if c = ')' then -1 else 0) ↔ _
  by_cases hcloses : c = ')'
  · rw [if_pos hcloses, if_neg (by rw [hcloses]; decide), imp_iff_right hcloses]
    omega
  · rw [if_neg hcloses]
    refine iff_of_true ?_ fun h => absurd h hcloses
    split <;> omega

/-- A bracket slips where it takes its count below zero. -/
theorem slip?_eq_none_iff_weight :
    d.slip? before c = none ↔ ∀ b, 0 ≤ d.opened b + weight before c b := by
  rw [slip?_eq_none_iff, ← nonneg_angle_iff, ← nonneg_round_iff]
  constructor
  · rintro ⟨hangle, hround⟩ (_ | _)
    · exact hangle
    · exact hround
  · exact fun h => ⟨h .angle, h .round⟩

/-- Where no bracket slips, the depth goes on as the counts do. -/
theorem opened_next (h : d.slip? before c = none) (b : Bracket) :
    ((d.next before c).opened b : Int) = d.opened b + weight before c b := by
  rcases slip?_eq_none_iff.mp h with ⟨hangle, hround⟩
  cases b with
  | angle =>
    show ((d.next before c).angle : Int) =
      d.angle + (if c = '<' then 1 else if closesAngle before c then -1 else 0)
    rw [next_angle]
    by_cases hcloses : closesAngle before c = true
    · -- the bracket that closes is open, so the depth is not cut off at zero
      have hopen := hangle hcloses
      rw [if_pos hcloses, if_pos hcloses]
      split <;> omega
    · rw [if_neg hcloses, if_neg hcloses]
      split <;> omega
  | round =>
    show ((d.next before c).round : Int) =
      d.round + (if c = '(' then 1 else if c = ')' then -1 else 0)
    rw [next_round]
    by_cases hcloses : c = ')'
    · have hopen := hround hcloses
      rw [if_pos hcloses, if_pos hcloses]
      split <;> omega
    · rw [if_neg hcloses, if_neg hcloses]
      split <;> omega

/-! ## Runs -/

/-- A scan closes no bracket that is not open exactly when no count falls below zero, and ends as
deep as the counts say. -/
theorem leads_iff_count :
    Leads d before t d' ↔
      ∀ b, (∀ front, front <+: t → 0 ≤ d.opened b + count b before front) ∧
        (d'.opened b : Int) = d.opened b + count b before t := by
  induction t generalizing d before with
  | nil =>
    rw [leads_nil_iff]
    constructor
    · rintro rfl b
      refine ⟨?_, by simp [count]⟩
      intro front hfront
      rw [List.prefix_nil.mp hfront]
      simp [count]
    · intro h
      refine ext_opened fun b => ?_
      have hend := (h b).2
      simp only [count] at hend
      omega
  | cons c r ih =>
    rw [leads_cons_iff]
    constructor
    · -- the counts of the rest begin behind the first character, at the depth there
      rintro ⟨hslip, hrest⟩ b
      have hnext := opened_next hslip b
      rcases ih.mp hrest b with ⟨hfronts, hend⟩
      refine ⟨?_, by rw [hend, hnext, count]; omega⟩
      intro front hfront
      rcases List.prefix_cons_iff.mp hfront with rfl | ⟨more, rfl, hmore⟩
      · simp [count]
      · have hmore := hfronts more hmore
        rw [hnext] at hmore
        rw [count]
        omega
    · intro h
      -- the front part of one character says that the first bracket does not slip
      have hslip : d.slip? before c = none := by
        refine slip?_eq_none_iff_weight.mpr fun b => ?_
        have hfirst := (h b).1 [c] ⟨r, rfl⟩
        simpa [count] using hfirst
      refine ⟨hslip, ih.mpr fun b => ?_⟩
      have hnext := opened_next hslip b
      rw [hnext]
      refine ⟨?_, ?_⟩
      · intro front hfront
        have hcons := (h b).1 (c :: front) (List.cons_prefix_cons.mpr ⟨rfl, hfront⟩)
        rw [count] at hcons
        omega
      · have hend := (h b).2
        rw [count] at hend
        omega

/-- A text closes its brackets and no others exactly when no count goes below zero in it or ends
off zero. -/
theorem leads_top_iff_count :
    Leads .top none t .top ↔
      ∀ b, (∀ front, front <+: t → 0 ≤ count b none front) ∧ count b none t = 0 := by
  rw [leads_iff_count]
  simp only [opened_top, Int.natCast_zero, Int.zero_add, @eq_comm _ (0 : Int)]

end Depth

end Placement
