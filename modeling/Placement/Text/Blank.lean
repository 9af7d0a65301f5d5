import Placement.Text.Basic

/-!
# Placement.Text.Blank — white space

Blanks are the characters with the Unicode property White_Space and the four
separators U+001C to U+001F. Trimming takes them off the ends of a text, and
collapsing writes every run of them as one space.
-/

namespace Placement.Text

/-- White space: the Unicode property, and the information separators. -/
def isBlank (c : CodePoint) : Bool :=
  let n := c.toNat
  (0x09 ≤ n && n ≤ 0x0D) || (0x1C ≤ n && n ≤ 0x20) || n == 0x85 || n == 0xA0 || n == 0x1680 ||
    (0x2000 ≤ n && n ≤ 0x200A) || n == 0x2028 || n == 0x2029 || n == 0x202F || n == 0x205F ||
    n == 0x3000

/-- A text without the blanks at its beginning. -/
def trimLeft (t : Text) : Text := t.dropWhile isBlank

/-- A text without the blanks at its end. -/
def trimRight (t : Text) : Text := (t.reverse.dropWhile isBlank).reverse

/-- A text without the blanks at both ends. -/
def trim (t : Text) : Text := trimRight (trimLeft t)

/-- Whether a text holds nothing but blanks. -/
def allBlank (t : Text) : Bool := t.all isBlank

/-- A text in which every run of blanks is written as one space. -/
def squeeze : Text → Text
  | [] => []
  | c :: r =>
    if isBlank c then
      match squeeze r with
      | ' ' :: s => .char ' ' :: s
      | s => .char ' ' :: s
    else c :: squeeze r

/-- A text on one line: runs of blanks become one space, and none is left at the ends. -/
def collapse (t : Text) : Text := trim (squeeze t)

/-! ## What trimming leaves -/

theorem trimLeft_cons_of_isBlank {c : CodePoint} {r : Text} (h : isBlank c = true) :
    trimLeft (c :: r) = trimLeft r :=
  List.dropWhile_cons_of_pos h

theorem trimLeft_cons_of_not_isBlank {c : CodePoint} {r : Text} (h : isBlank c = false) :
    trimLeft (c :: r) = c :: r := by
  simp [trimLeft, h]

/-- Nothing is left at the beginning of blanks only. -/
theorem trimLeft_eq_nil_iff {t : Text} : trimLeft t = [] ↔ allBlank t = true := by
  induction t with
  | nil => simp [trimLeft, allBlank]
  | cons c r ih =>
    by_cases h : isBlank c = true
    · rw [trimLeft_cons_of_isBlank h, ih, allBlank, allBlank, List.all_cons, h, Bool.true_and]
    · simp [trimLeft, allBlank, h]

/-- Nothing is left at the end of blanks only. -/
theorem trimRight_eq_nil_iff {t : Text} : trimRight t = [] ↔ allBlank t = true := by
  have h : allBlank t.reverse = allBlank t := by simp [allBlank]
  rw [trimRight, List.reverse_eq_nil_iff, ← h]
  exact trimLeft_eq_nil_iff

/-- Whether a text is blank does not depend on the blanks at its beginning. -/
theorem allBlank_trimLeft {t : Text} : allBlank (trimLeft t) = allBlank t := by
  induction t with
  | nil => rfl
  | cons c r ih =>
    by_cases h : isBlank c = true
    · rw [trimLeft_cons_of_isBlank h, ih, allBlank, allBlank, List.all_cons, h, Bool.true_and]
    · simp [trimLeft, h]

/-- Nothing is left of a text exactly when it holds nothing but blanks. -/
theorem trim_eq_nil_iff {t : Text} : trim t = [] ↔ allBlank t = true := by
  rw [trim, trimRight_eq_nil_iff, allBlank_trimLeft]

theorem length_trimLeft_le (t : Text) : (trimLeft t).length ≤ t.length :=
  (List.dropWhile_sublist _).length_le

/-- Trimming makes no text longer. -/
theorem length_trim_le (t : Text) : (trim t).length ≤ t.length := by
  have h : (trim t).length ≤ (trimLeft t).length := by
    simpa [trim, trimRight, trimLeft] using length_trimLeft_le (trimLeft t).reverse
  exact Nat.le_trans h (length_trimLeft_le t)

end Placement.Text
