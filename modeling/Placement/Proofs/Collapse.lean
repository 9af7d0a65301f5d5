import Placement.Proofs.Text

/-!
# Placement.Proofs.Collapse — texts on one line

Collapsing writes a text on one line. It does not mind blanks at the ends
(`collapse_blanks_append`, `collapse_append_blanks`), and it keeps the characters that
are no blanks, in their order (`filter_collapse`). So a text that is cut off in front
of such a character differs from the whole one (`collapse_ne_of_mem`), and no text
without blanks is put together that was not there (`infix_of_infix_collapse`).
-/

namespace Placement.Text

variable {c : CodePoint} {r t front back : Text}

/-- A character that is no blank. -/
def isInk (c : CodePoint) : Bool := !isBlank c

theorem isInk_eq_false_iff : isInk c = false ↔ isBlank c = true := by
  unfold isInk
  rw [Bool.not_eq_false']

/-! ## Blanks at the ends -/

/-- A blank adds a space, unless what comes behind it begins with one already. -/
theorem squeeze_cons_blank (hc : isBlank c = true) (r : Text) :
    squeeze (c :: r) =
      if (squeeze r).head? = some (.char ' ') then squeeze r else .char ' ' :: squeeze r := by
  rw [squeeze, if_pos hc]
  split
  · rename_i s hs
    rw [hs, List.head?_cons, if_pos rfl]
  · rename_i hother
    rw [if_neg]
    intro hhead
    rcases List.head?_eq_some_iff.mp hhead with ⟨s, hs⟩
    exact hother s hs

theorem trimLeft_squeeze_cons_blank (hc : isBlank c = true) (r : Text) :
    trimLeft (squeeze (c :: r)) = trimLeft (squeeze r) := by
  rw [squeeze_cons_blank hc]
  split
  · rfl
  · exact List.dropWhile_cons_of_pos (by decide)

/-- Blanks in front of a text are left out. -/
theorem collapse_blanks_append (hfront : ∀ c ∈ front, isBlank c = true) (t : Text) :
    collapse (front ++ t) = collapse t := by
  have hleft : trimLeft (squeeze (front ++ t)) = trimLeft (squeeze t) := by
    induction front with
    | nil => rfl
    | cons c r ih =>
      rcases List.forall_mem_cons.mp hfront with ⟨hc, hr⟩
      rw [List.cons_append, trimLeft_squeeze_cons_blank hc, ih hr]
  unfold collapse trim
  rw [hleft]

/-- Nothing but blanks is at most one space. -/
theorem squeeze_blanks (hback : ∀ c ∈ back, isBlank c = true) :
    squeeze back = [] ∨ squeeze back = [.char ' '] := by
  induction back with
  | nil => exact Or.inl rfl
  | cons c r ih =>
    rcases List.forall_mem_cons.mp hback with ⟨hc, hr⟩
    right
    rw [squeeze_cons_blank hc]
    rcases ih hr with h | h
    · rw [h]
      rfl
    · rw [h]
      rfl

/-- Of the blanks behind a text one space is left, or none behind a blank. -/
theorem squeeze_append_blanks (hback : ∀ c ∈ back, isBlank c = true) (t : Text) :
    squeeze (t ++ back) = squeeze t ∨ squeeze (t ++ back) = squeeze t ++ [.char ' '] := by
  induction t with
  | nil => exact squeeze_blanks hback
  | cons c r ih =>
    by_cases hc : isBlank c = true
    · rw [List.cons_append, squeeze_cons_blank hc, squeeze_cons_blank hc]
      rcases ih with h | h
      · rw [h]
        exact Or.inl rfl
      · rw [h]
        -- the new blank is left out exactly when it is left out without the blanks behind
        cases squeeze r with
        | nil => exact Or.inl rfl
        | cons x s =>
          right
          rw [List.cons_append, List.head?_cons, List.head?_cons]
          split <;> rfl
    · rw [List.cons_append, squeeze, squeeze, if_neg hc, if_neg hc]
      rcases ih with h | h
      · exact Or.inl (by rw [h])
      · exact Or.inr (by rw [h, List.cons_append])

/-- A blank at the end is trimmed off. -/
theorem trim_concat_blank (hc : isBlank c = true) (t : Text) : trim (t ++ [c]) = trim t := by
  unfold trim trimLeft
  rw [List.dropWhile_append]
  split
  · rename_i hempty
    rw [List.isEmpty_iff.mp hempty, List.dropWhile_cons_of_pos hc]
    rfl
  · unfold trimRight
    rw [List.reverse_append, List.reverse_singleton, List.singleton_append,
      List.dropWhile_cons_of_pos hc]

/-- Blanks behind a text are left out. -/
theorem collapse_append_blanks (hback : ∀ c ∈ back, isBlank c = true) (t : Text) :
    collapse (t ++ back) = collapse t := by
  unfold collapse
  rcases squeeze_append_blanks hback t with h | h
  · rw [h]
  · rw [h, trim_concat_blank (by decide)]

/-! ## Characters that are kept -/

/-- Squeezing keeps the characters that are no blanks. -/
theorem filter_squeeze (t : Text) : (squeeze t).filter isInk = t.filter isInk := by
  induction t with
  | nil => rfl
  | cons c r ih =>
    by_cases hc : isBlank c = true
    · have hink : ¬ isInk c = true := by simp [isInk, hc]
      have hspace : ¬ isInk ' ' = true := by decide
      rw [List.filter_cons_of_neg hink, ← ih]
      rw [squeeze_cons_blank hc]
      -- a run of blanks leaves one space or nothing, and neither counts as ink
      split
      · rfl
      · exact List.filter_cons_of_neg hspace
    · have hink : isInk c = true := by simp [isInk, hc]
      rw [squeeze, if_neg hc, List.filter_cons_of_pos hink, List.filter_cons_of_pos hink, ih]

/-- So does trimming, which takes blanks off only. -/
theorem filter_trim (t : Text) : (trim t).filter isInk = t.filter isInk := by
  have hnil : ∀ u : Text, (∀ c ∈ u, isBlank c = true) → u.filter isInk = [] := by
    intro u hu
    rw [List.filter_eq_nil_iff]
    intro c hc
    rw [Bool.not_eq_true, isInk_eq_false_iff]
    exact hu c hc
  rcases exists_trim t with ⟨front, back, ht, hfront, hback⟩
  have hparts := congrArg (List.filter isInk) ht
  rw [List.filter_append, List.filter_append, hnil front hfront, hnil back hback, List.nil_append,
    List.append_nil] at hparts
  exact hparts.symm

/-- Collapsing keeps the characters that are no blanks. -/
theorem filter_collapse (t : Text) : (collapse t).filter isInk = t.filter isInk := by
  unfold collapse
  rw [filter_trim, filter_squeeze]

/-- A character that is no blank is in a text exactly when it is in the collapsed one. -/
theorem mem_collapse_iff (hc : isBlank c = false) : c ∈ collapse t ↔ c ∈ t := by
  have hink : isInk c = true := by simp [isInk, hc]
  have hkept : ∀ u : Text, c ∈ u ↔ c ∈ u.filter isInk := by
    intro u
    rw [List.mem_filter]
    exact (and_iff_left hink).symm
  rw [hkept (collapse t), filter_collapse, ← hkept t]

/-- A text that holds more than blanks does not collapse to nothing. -/
theorem collapse_ne_nil (h : allBlank t = false) : collapse t ≠ [] := by
  rcases List.all_eq_false.mp h with ⟨c, hmem, hc⟩
  rw [Bool.not_eq_true] at hc
  exact List.ne_nil_of_mem ((mem_collapse_iff hc).mpr hmem)

/-- A text that is cut off in front of a character that is no blank differs from the whole one. -/
theorem collapse_ne_of_mem (hmem : c ∈ back) (hc : isBlank c = false) :
    collapse front ≠ collapse (front ++ back) := by
  intro h
  have hkept := congrArg (List.filter isInk) h
  rw [filter_collapse, filter_collapse, List.filter_append] at hkept
  have hnone : back.filter isInk = [] := List.append_right_eq_self.mp hkept.symm
  rw [List.filter_eq_nil_iff] at hnone
  apply hnone c hmem
  simp [isInk, hc]

/-! ## Texts without blanks -/

/-- A squeezed text begins with a character that is no blank only where the text does. -/
theorem head?_squeeze (t : Text) (hc : isBlank c = false) (h : (squeeze t).head? = some c) :
    ∃ r, t = c :: r ∧ squeeze t = c :: squeeze r := by
  cases t with
  | nil => cases h
  | cons x r =>
    by_cases hx : isBlank x = true
    · exfalso
      -- a blank at the head of the text shows as a space, and that is a blank too
      have hspace : c = ' ' := by
        rw [squeeze_cons_blank hx] at h
        split at h
        · rename_i hhead
          rw [hhead] at h
          exact (Option.some.inj h).symm
        · exact (Option.some.inj h).symm
      rw [hspace] at hc
      exact absurd hc (by decide)
    · rw [squeeze, if_neg hx, List.head?_cons] at h
      rcases Option.some.inj h with rfl
      exact ⟨r, rfl, by rw [squeeze, if_neg hx]⟩

/-- What a squeezed text begins with begins the text, if there are no blanks in it. -/
theorem prefix_of_prefix_squeeze {w : Text} (hw : ∀ c ∈ w, isBlank c = false)
    (h : w <+: squeeze t) : w <+: t := by
  induction w generalizing t with
  | nil => exact List.nil_prefix
  | cons c w ih =>
    rcases List.forall_mem_cons.mp hw with ⟨hc, hw⟩
    have hhead : (squeeze t).head? = some c := by
      rcases h with ⟨rest, hrest⟩
      rw [← hrest]
      rfl
    rcases head?_squeeze t hc hhead with ⟨r, rfl, hr⟩
    rw [hr, List.cons_prefix_cons] at h
    rw [List.cons_prefix_cons]
    exact ⟨rfl, ih hw h.2⟩

/-- A text without blanks that stands in a collapsed text stands in the text itself. -/
theorem infix_of_infix_collapse {w : Text} (hw : ∀ c ∈ w, isBlank c = false)
    (h : w <:+: collapse t) : w <:+: t := by
  -- trimming cuts off ends only, so the word stands in the squeezed text already
  have hsqueezed : w <:+: squeeze t := by
    rcases exists_trim (squeeze t) with ⟨front, back, ht, -, -⟩
    rw [ht]
    exact h.trans ⟨front, back, by rw [List.append_assoc]; rfl⟩
  clear h
  induction t with
  | nil => exact hsqueezed
  | cons c r ih =>
    rw [List.infix_cons_iff]
    by_cases hc : isBlank c = true
    · right
      apply ih
      rw [squeeze_cons_blank hc] at hsqueezed
      split at hsqueezed
      · exact hsqueezed
      · -- the word does not begin with the space that was added
        rcases List.infix_cons_iff.mp hsqueezed with hfirst | hmore
        · cases w with
          | nil => exact List.nil_infix
          | cons x w =>
            rw [(List.cons_prefix_cons.mp hfirst).1] at hw
            exact absurd (hw ' ' List.mem_cons_self) (by decide)
        · exact hmore
    · have hcons : squeeze (c :: r) = c :: squeeze r := by rw [squeeze, if_neg hc]
      rw [hcons, List.infix_cons_iff, ← hcons] at hsqueezed
      rcases hsqueezed with hfirst | hmore
      · exact Or.inl (prefix_of_prefix_squeeze hw hfirst)
      · exact Or.inr (ih hmore)

end Placement.Text
