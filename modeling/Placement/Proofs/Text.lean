import Placement.Text.Blank
import Placement.Text.Pattern

/-!
# Placement.Proofs.Text — the ends of texts, and what stands in front of a place

Scanners go over a text with the character before each place in hand, so the last
character of what was read is what counts behind it (`getLast?_cons_or`). A search
passes over the characters of a match in the same way (`findFrom_append`). A text
starts with those that are its prefixes (`startsWith_eq_true_iff`), and contains its
infixes (`contains_eq_true_iff`).

Trimming takes blanks off a text (`exists_trim`), none of which are left at its ends
(`head?_trim`, `getLast?_trim`), and nothing off a text without blanks there
(`trim_eq_self`). An identifier has no blanks at all (`isBlank_of_isIdent`).
-/

namespace Placement.Text

/-! ## The character in front of a place -/

/-- The last character of a text is that of its rest, or the first one. -/
theorem getLast?_cons_or (c : CodePoint) (t : Text) (before : Option CodePoint) :
    (c :: t).getLast?.or before = t.getLast?.or (some c) := by
  rw [List.getLast?_cons]
  cases t.getLast? <;> rfl

/-- No dash stands at the end of two texts that have none there. -/
theorem getLast?_or_ne_dash {t : Text} (ht : t.getLast? ≠ some (.char '-')) {c : CodePoint}
    (hc : c ≠ '-') : t.getLast?.or (some c) ≠ some (.char '-') := by
  cases hlast : t.getLast? with
  | none => simpa using hc
  | some x => simpa [hlast] using ht

/-- A search passes over the characters that belong to the match before. -/
theorem Pattern.findFrom_append {α : Type} (pattern : Pattern α) (before : Option CodePoint)
    (front t : Text) :
    findFrom pattern front.length before (front ++ t) =
      findFrom pattern 0 (front.getLast?.or before) t := by
  induction front generalizing before with
  | nil => rfl
  | cons c r ih => rw [List.length_cons, List.cons_append, findFrom, ih, getLast?_cons_or]

/-- A text starts with its prefixes. -/
theorem startsWith_eq_true_iff {lead t : Text} : startsWith lead t = true ↔ lead <+: t := by
  unfold startsWith
  rw [Option.isSome_iff_exists]
  constructor
  · rintro ⟨r, h⟩
    exact ⟨r, (after?_eq_some_iff.mp h).symm⟩
  · rintro ⟨r, h⟩
    exact ⟨r, after?_eq_some_iff.mpr h.symm⟩

/-- A text contains its infixes. -/
theorem contains_eq_true_iff {part t : Text} : contains part t = true ↔ part <:+: t := by
  induction t with
  | nil => rw [contains, List.isEmpty_iff, List.infix_nil]
  | cons c r ih =>
    rw [contains, Bool.or_eq_true, startsWith_eq_true_iff, ih, List.infix_cons_iff]

/-! ## Blanks -/

/-- Nothing is trimmed off the beginning of a text without a blank there. -/
theorem trimLeft_eq_self {t : Text} (h : t.head?.any isBlank = false) : trimLeft t = t := by
  cases t with
  | nil => rfl
  | cons c r => exact trimLeft_cons_of_not_isBlank (by simpa using h)

/-- Nothing is trimmed off a text that neither begins nor ends with a blank. -/
theorem trim_eq_self {t : Text} (hhead : t.head?.any isBlank = false)
    (hlast : t.getLast?.any isBlank = false) : trim t = t := by
  -- at the end it is the reversed text that begins with no blank
  rw [trim, trimLeft_eq_self hhead, trimRight]
  have hreverse := trimLeft_eq_self (t := t.reverse) (by rwa [List.head?_reverse])
  rw [trimLeft] at hreverse
  rw [hreverse, List.reverse_reverse]

/-- What stands behind a text that begins with no blank is not reached by trimming it. -/
theorem trimLeft_append {u : Text} (h : u.head?.any isBlank = false) (t : Text) :
    trimLeft (t ++ u) = trimLeft t ++ u := by
  have hu : u.dropWhile isBlank = u := trimLeft_eq_self h
  unfold trimLeft
  rw [List.dropWhile_append, hu]
  split
  · rename_i hempty
    rw [List.isEmpty_iff.mp hempty, List.nil_append]
  · rfl

/-- What stands in front of a text that ends with no blank is not reached by trimming it either. -/
theorem trimRight_append {t : Text} (h : t.getLast?.any isBlank = false) (u : Text) :
    trimRight (t ++ u) = t ++ trimRight u := by
  have hleft := trimLeft_append (u := t.reverse) (by rwa [List.head?_reverse]) u.reverse
  unfold trimLeft at hleft
  unfold trimRight
  rw [List.reverse_append, hleft, List.reverse_append, List.reverse_reverse]

theorem trimLeft_of_blanks {t : Text} (h : ∀ c ∈ t, isBlank c = true) : trimLeft t = [] :=
  trimLeft_eq_nil_iff.mpr (List.all_eq_true.mpr h)

theorem isBlank_of_mem_takeWhile {t : Text} {c : CodePoint} (hc : c ∈ t.takeWhile isBlank) :
    isBlank c = true :=
  List.all_eq_true.mp List.all_takeWhile c hc

/-- What trimming at the beginning leaves stands behind blanks. -/
theorem trimLeft_eq_cons_iff {t r : Text} {c : CodePoint} (hc : isBlank c = false) :
    trimLeft t = c :: r ↔
      ∃ blanks, (∀ x ∈ blanks, isBlank x = true) ∧ t = blanks ++ c :: r := by
  constructor
  · intro h
    refine ⟨t.takeWhile isBlank, fun x hx => isBlank_of_mem_takeWhile hx, ?_⟩
    rw [← h, trimLeft, List.takeWhile_append_dropWhile]
  · rintro ⟨blanks, hall, rfl⟩
    rw [trimLeft, List.dropWhile_append_of_pos hall]
    exact trimLeft_cons_of_not_isBlank hc

/-- A text is what trimming at the end leaves of it, in front of blanks. -/
theorem exists_trimRight (t : Text) :
    ∃ back, t = trimRight t ++ back ∧ ∀ c ∈ back, isBlank c = true := by
  refine ⟨(t.reverse.takeWhile isBlank).reverse, ?_, ?_⟩
  · rw [trimRight, ← List.reverse_append, List.takeWhile_append_dropWhile, List.reverse_reverse]
  · intro c hc
    exact isBlank_of_mem_takeWhile (List.mem_reverse.mp hc)

/-- A text is what trimming leaves of it, between blanks. -/
theorem exists_trim (t : Text) :
    ∃ front back, t = front ++ (trim t ++ back) ∧ (∀ c ∈ front, isBlank c = true) ∧
      ∀ c ∈ back, isBlank c = true := by
  rcases exists_trimRight (trimLeft t) with ⟨back, hright, hback⟩
  refine ⟨t.takeWhile isBlank, back, ?_, fun c hc => isBlank_of_mem_takeWhile hc, hback⟩
  rw [trim, ← hright, trimLeft, List.takeWhile_append_dropWhile]

/-- Trimming adds no characters. -/
theorem mem_of_mem_trim {t : Text} {c : CodePoint} (h : c ∈ trim t) : c ∈ t := by
  rcases exists_trim t with ⟨front, back, hsplit, -, -⟩
  rw [hsplit]
  exact List.mem_append_right front (List.mem_append_left back h)

/-- No blank is left at the beginning. -/
theorem head?_trimLeft (t : Text) : (trimLeft t).head?.any isBlank = false := by
  have hhead := List.head?_dropWhile_not isBlank t
  unfold trimLeft
  cases hcase : (t.dropWhile isBlank).head? with
  | none => rfl
  | some c => simpa [hcase] using hhead

theorem getLast?_trim (t : Text) : (trim t).getLast?.any isBlank = false := by
  rw [trim, trimRight, List.getLast?_reverse]
  exact head?_trimLeft (trimLeft t).reverse

/-- No blank is left at the beginning when the end is trimmed, too. -/
theorem head?_trim (t : Text) : (trim t).head?.any isBlank = false := by
  rcases exists_trimRight (trimLeft t) with ⟨back, hright, -⟩
  have hhead := head?_trimLeft t
  rw [hright] at hhead
  rw [trim]
  cases hcase : trimRight (trimLeft t) with
  | nil => rfl
  | cons c r => simpa [hcase] using hhead

/-- Nothing is left to trim. -/
theorem trim_trim (t : Text) : trim (trim t) = trim t :=
  trim_eq_self (head?_trim t) (getLast?_trim t)

/-! ## Identifiers -/

/-- A character of an identifier differs from every character that may not stand in one. -/
theorem ne_of_isIdent {c x : CodePoint} (h : isIdent c = true) (hx : isIdent x = false) :
    c ≠ x := by
  rintro rfl
  rw [hx] at h
  exact Bool.false_ne_true h

/-- An identifier has no blanks. -/
theorem isBlank_of_isIdent {c : CodePoint} (h : isIdent c = true) : isBlank c = false := by
  have hcode : (0x30 ≤ c.toNat ∧ c.toNat ≤ 0x39) ∨ (0x41 ≤ c.toNat ∧ c.toNat ≤ 0x5A) ∨
      c.toNat = 0x5F ∨ (0x61 ≤ c.toNat ∧ c.toNat ≤ 0x7A) := by
    simp only [isIdent, isAsciiCapital, isAsciiSmall, isAsciiDigit, Bool.or_eq_true,
      Bool.and_eq_true, decide_eq_true_eq, beq_iff_eq] at h
    rcases h with ((hcapital | hsmall) | hdigit) | rfl
    · exact Or.inr (Or.inl hcapital)
    · exact Or.inr (Or.inr (Or.inr hsmall))
    · exact Or.inl hdigit
    · decide
  simp only [isBlank, Bool.or_eq_false_iff, Bool.and_eq_false_iff, decide_eq_false_iff_not,
    beq_eq_false_iff_ne]
  omega

end Placement.Text
