import Mathlib.Data.List.TakeDrop
import Placement.Hover.Signature
import Placement.Proofs.Search

/-!
# Placement.Proofs.Words — words in a text

A word that stands by itself is read with nothing of a word in front of it or behind
it (`wholeWord_eq_some_iff`, `hasWord_iff`). No blank is part of a word
(`isBlank_of_isWord`), and a text that is one word has no other one in it
(`eq_of_hasWord`). What is read at a place is the same whatever begins with no word
character behind the text (`after?_append_of_head`).
-/

namespace Placement.Text

variable {c : CodePoint} {before : Option CodePoint} {t w rest : Text}

/-- A text of word characters, and at least one of them. -/
structure IsWord (w : Text) : Prop where
  nonempty : w ≠ []
  chars : ∀ c ∈ w, isWord c = true

/-- The code points of the blanks beyond ASCII. -/
def wideBlanks : List Nat :=
  [0x85, 0xA0, 0x1680, 0x2000, 0x2001, 0x2002, 0x2003, 0x2004, 0x2005, 0x2006, 0x2007, 0x2008,
    0x2009, 0x200A, 0x2028, 0x2029, 0x202F, 0x205F, 0x3000]

/-- A blank beyond ASCII is one of the list. -/
theorem mem_wideBlanks (h : isBlank c = true) (hc : 0x80 ≤ c.toNat) : c.toNat ∈ wideBlanks := by
  simp only [isBlank, Bool.or_eq_true, Bool.and_eq_true, decide_eq_true_eq, beq_iff_eq] at h
  simp only [wideBlanks, List.mem_cons, List.not_mem_nil, or_false]
  omega

/-- No blank is part of a word. -/
theorem isBlank_of_isWord (h : isWord c = true) : isBlank c = false := by
  -- none of the wide blanks is in the tables of letters and digits
  have htables : ∀ n ∈ wideBlanks,
      (inRanges alphanumericBasic n || inRanges alphanumericSupplementary n) = false := by
    decide +kernel
  by_cases hident : isIdent c = true
  · exact isBlank_of_isIdent hident
  · rw [← Bool.not_eq_true]
    intro hblank
    simp only [isIdent, Bool.or_eq_true, not_or, Bool.not_eq_true] at hident
    simp only [isWord, isAlphanumeric, hident, Bool.false_or, Bool.or_false, Bool.and_eq_true,
      decide_eq_true_eq] at h
    have hno := htables c.toNat (mem_wideBlanks hblank h.1)
    rw [hno] at h
    exact Bool.false_ne_true h.2

/-- A run of characters of one kind, and what stands behind it. -/
theorem span_eq_iff {p : CodePoint → Bool} {front : Text} :
    t.span p = (front, rest) ↔
      t = front ++ rest ∧ (∀ c ∈ front, p c = true) ∧ rest.head?.any p = false := by
  rw [List.span_eq_takeWhile_dropWhile, Prod.mk.injEq]
  constructor
  · rintro ⟨rfl, rfl⟩
    refine ⟨List.takeWhile_append_dropWhile.symm, List.all_eq_true.mp List.all_takeWhile, ?_⟩
    -- what `dropWhile` leaves does not start with a character it drops
    have hhead := List.head?_dropWhile_not p t
    cases hcase : (t.dropWhile p).head? with
    | none => rfl
    | some c => simpa [hcase] using hhead
  · rintro ⟨rfl, hfront, hhead⟩
    rw [List.takeWhile_append_of_pos hfront, List.dropWhile_append_of_pos hfront]
    cases rest with
    | nil => simp
    | cons c r =>
      have hc : ¬ p c = true := by simpa using hhead
      rw [List.takeWhile_cons_of_neg hc, List.dropWhile_cons_of_neg hc]
      simp

/-- A text is cut at the first place of a character. -/
theorem span_ne_append (ht : c ∉ t) (rest : Text) :
    (t ++ c :: rest).span (· != c) = (t, c :: rest) := by
  refine span_eq_iff.mpr ⟨rfl, fun x hx => ?_, by simp⟩
  rw [bne_iff_ne]
  rintro rfl
  exact ht hx

theorem isWordEdge_left (h : isWord c = true) :
    isWordEdge before (some c) = true ↔ before.any isWord = false := by
  simp [isWordEdge, h]

theorem isWordEdge_right (h : isWord c = true) :
    isWordEdge (some c) before = true ↔ before.any isWord = false := by
  cases hb : before.any isWord <;> simp [isWordEdge, h, hb]

/-- A word stands by itself between places that belong to no word. -/
theorem wholeWord_eq_some_iff (hw : IsWord w) {found : Text} :
    Pattern.wholeWord w before t = some (found, rest) ↔
      found = w ∧ t = w ++ rest ∧ before.any isWord = false ∧ rest.head?.any isWord = false := by
  have hhead : w.head? = some (w.head hw.nonempty) := List.head?_eq_some_head hw.nonempty
  have hlast : w.getLast? = some (w.getLast hw.nonempty) :=
    List.getLast?_eq_some_getLast hw.nonempty
  have hfirst : isWord (w.head hw.nonempty) = true := hw.chars _ (List.head_mem hw.nonempty)
  have hfinal : isWord (w.getLast hw.nonempty) = true := hw.chars _ (List.getLast_mem hw.nonempty)
  unfold Pattern.wholeWord
  cases hafter : after? w t with
  | none =>
    have hno : ¬ t = w ++ rest := by
      intro ht
      rw [after?_eq_some_iff.mpr ht] at hafter
      cases hafter
    simp [hno]
  | some r =>
    rw [after?_eq_some_iff] at hafter
    subst hafter
    -- `w` begins and ends with a word character, so a word edge there means a neighbour that is
    -- none
    simp only [hhead, hlast, Bool.and_eq_true, isWordEdge_left hfirst, isWordEdge_right hfinal,
      List.append_cancel_left_eq]
    constructor
    · intro h
      split at h
      · rename_i hedges
        cases h
        exact ⟨rfl, rfl, hedges⟩
      · cases h
    · rintro ⟨rfl, rfl, hedges⟩
      rw [if_pos hedges]

/-- A word that begins with a capital is read with all of its characters. -/
theorem of_capitalizedWord (h : Pattern.capitalizedWord before t = some (w, rest)) :
    IsWord w ∧ t = w ++ rest := by
  unfold Pattern.capitalizedWord at h
  split at h
  · rename_i hcond
    rw [Bool.and_eq_true] at hcond
    rw [Option.some.injEq, span_eq_iff] at h
    rcases h with ⟨ht, hchars, hbehind⟩
    refine ⟨⟨?_, hchars⟩, ht⟩
    rintro rfl
    rw [List.nil_append] at ht
    subst ht
    -- the capital itself belongs to the word, so the word is not empty
    cases t with
    | nil => exact absurd hcond.2 Bool.false_ne_true
    | cons c r =>
      have hcapital : isAsciiCapital c = true := hcond.2
      simp [isWord, isAlphanumeric, hcapital] at hbehind
  · cases h

/-- A word stands by itself in a text when some place has nothing of a word around it. -/
theorem hasWord_iff (hw : IsWord w) :
    Hover.hasWord w t = true ↔
      ∃ front rest, t = front ++ (w ++ rest) ∧ front.getLast?.any isWord = false ∧
        rest.head?.any isWord = false := by
  unfold Hover.hasWord
  constructor
  · intro h
    -- otherwise the search would have found nothing at any place
    by_contra hno
    rw [Option.isSome_iff_ne_none] at h
    apply h
    rw [Pattern.find?_eq_none_iff]
    intro front c back hplace
    rw [Option.eq_none_iff_forall_ne_some]
    rintro ⟨found, rest⟩ hfound
    rcases (wholeWord_eq_some_iff hw).mp hfound with ⟨-, hread, hbefore, hbehind⟩
    rw [Option.or_none] at hbefore
    exact hno ⟨front, rest, by rw [hplace, hread], hbefore, hbehind⟩
  · rintro ⟨front, rest, rfl, hbefore, hbehind⟩
    rw [Option.isSome_iff_ne_none]
    intro hnone
    rw [Pattern.find?_eq_none_iff] at hnone
    cases w with
    | nil => exact hw.nonempty rfl
    | cons c more =>
      have hread : Pattern.wholeWord (c :: more) (front.getLast?.or none) (c :: (more ++ rest)) =
          some (c :: more, rest) := by
        rw [Option.or_none]
        exact (wholeWord_eq_some_iff hw).mpr ⟨rfl, rfl, hbefore, hbehind⟩
      rw [hnone front c (more ++ rest) rfl] at hread
      cases hread

/-- Of a text that is one word only the whole stands by itself. -/
theorem eq_of_hasWord (ht : ∀ c ∈ t, isWord c = true) (hw : IsWord w)
    (h : Hover.hasWord w t = true) : w = t := by
  rcases (hasWord_iff hw).mp h with ⟨front, rest, rfl, hbefore, hbehind⟩
  -- the text around a word that stands by itself would belong to the same word
  have hfront : front = [] := by
    cases hlast : front.getLast? with
    | none => exact List.getLast?_eq_none_iff.mp hlast
    | some x =>
      have hx : isWord x = true := ht x (List.mem_append_left _ (List.mem_of_getLast? hlast))
      rw [hlast, Option.any_some, hx] at hbefore
      cases hbefore
  have hrest : rest = [] := by
    cases rest with
    | nil => rfl
    | cons x more =>
      have hx : isWord x = true :=
        ht x (List.mem_append_right _ (List.mem_append_right _ List.mem_cons_self))
      rw [List.head?_cons, Option.any_some, hx] at hbehind
      cases hbehind
  rw [hfront, hrest, List.nil_append, List.append_nil]

/-- A fixed text of word characters that begins in a text does not reach into what stands behind it
when that begins with none. -/
theorem after?_append_of_head (hw : ∀ c ∈ w, isWord c = true)
    (hrest : rest.head?.any isWord = false) :
    after? w (t ++ rest) = (after? w t).map (· ++ rest) := by
  cases hafter : after? w t with
  | some r =>
    rw [after?_eq_some_iff] at hafter
    rw [hafter, List.append_assoc, after?_append, Option.map_some]
  | none =>
    rw [Option.map_none, Option.eq_none_iff_forall_ne_some]
    intro r hr
    rw [after?_eq_some_iff, List.append_eq_append_iff] at hr
    -- `w` found only with the help of `rest` would reach over the seam, where no word character
    -- follows
    rcases hr with ⟨more, rfl, hmore⟩ | ⟨more, rfl, -⟩
    · cases more with
      | nil =>
        rw [List.append_nil, after?_eq_some_iff.mpr (List.append_nil t).symm] at hafter
        cases hafter
      | cons x more =>
        have hx : isWord x = true := hw x (List.mem_append_right t List.mem_cons_self)
        rw [hmore, List.cons_append, List.head?_cons, Option.any_some, hx] at hrest
        cases hrest
    · rw [after?_append] at hafter
      cases hafter

end Placement.Text
