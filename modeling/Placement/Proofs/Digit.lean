import Mathlib.Algebra.Group.Nat.Defs
import Placement.Proofs.Words
import Placement.Text.Digit

/-!
# Placement.Proofs.Digit — written numbers are read back

A natural number is written in ASCII digits, each of which has its value
(`digitValue?_of_isAsciiDigit`). What is read from them from the left is the number
again, unless the digits are more than an integer may be written with
(`readDigits_ofNat`). So is an integer from its digits and its sign (`readInt_ofInt`).
Digits of every script are read as some number (`exists_readDigits?`), and nothing else
is (`readDigits?_eq_none`).
-/

namespace Placement.Text

/-- An ASCII digit has its value. -/
theorem digitValue?_of_isAsciiDigit {c : CodePoint} (h : isAsciiDigit c = true) :
    digitValue? c = some (c.toNat - 0x30) := by
  rw [isAsciiDigit, Bool.and_eq_true, decide_eq_true_eq, decide_eq_true_eq] at h
  have hlow : 0x30 ≤ c.toNat := h.1
  have hhigh : c.toNat < 0x30 + 10 := Nat.lt_succ_of_le h.2
  -- the ASCII block is the first one that is looked at
  have hfirst : digitZeros.find? (fun first => first ≤ c.toNat && c.toNat < first + 10) =
      some 0x30 :=
    List.find?_cons_of_pos (by simp [hlow, hhigh])
  rw [digitValue?, hfirst]
  rfl

/-- A digit among the characters is one among the code points. -/
theorem isAsciiDigit_char {c : Char} (h : c.isDigit = true) : isAsciiDigit c = true := by
  rw [Char.isDigit, Bool.and_eq_true, decide_eq_true_eq, decide_eq_true_eq] at h
  rw [isAsciiDigit, Bool.and_eq_true, decide_eq_true_eq, decide_eq_true_eq]
  exact h

/-- Digits of ASCII are read as the library reads them. -/
theorem digitsFrom?_map_char {digits : List Char} (h : ∀ c ∈ digits, c.isDigit = true)
    (start : Nat) :
    digitsFrom? start (digits.map .char) = some (Nat.ofDigitChars 10 digits start) := by
  induction digits generalizing start with
  | nil => rw [Nat.ofDigitChars_nil, List.map_nil, digitsFrom?]
  | cons c r ih =>
    rcases List.forall_mem_cons.mp h with ⟨hc, hr⟩
    rw [List.map_cons, digitsFrom?, digitValue?_of_isAsciiDigit (isAsciiDigit_char hc),
      Option.bind_some, ih hr, Nat.ofDigitChars_cons]
    rfl

theorem ofNat_ne_nil (n : Nat) : ofNat n ≠ [] := fun h =>
  Nat.toDigits_ne_nil (List.map_eq_nil_iff.mp h)

/-- A number is written in digits of ASCII. -/
theorem isAsciiDigit_of_mem_ofNat {n : Nat} {c : CodePoint} (h : c ∈ ofNat n) :
    isAsciiDigit c = true := by
  rcases List.mem_map.mp h with ⟨d, hd, rfl⟩
  exact isAsciiDigit_char (Nat.isDigit_of_mem_toDigits (by decide) (by decide) hd)

/-- The digits of a number are read as the number. -/
theorem readDigits?_ofNat (n : Nat) : readDigits? (ofNat n) = some n := by
  have hdigits : digitsFrom? 0 (ofNat n) = some n := by
    rw [ofNat, digitsFrom?_map_char fun c hc =>
      Nat.isDigit_of_mem_toDigits (by decide) (by decide) hc]
    exact congrArg some Nat.ofDigitChars_ten_toDigits
  cases hn : ofNat n with
  | nil => exact absurd hn (ofNat_ne_nil _)
  | cons c r =>
    rw [hn] at hdigits
    exact hdigits

/-- A number has more digits than an integer may be written with when it is too large. -/
theorem digitLimit_lt_length_ofNat_iff {n : Nat} :
    digitLimit < (ofNat n).length ↔ 10 ^ digitLimit ≤ n := by
  have hshort : (ofNat n).length ≤ digitLimit ↔ n < 10 ^ digitLimit := by
    rw [ofNat, List.length_map]
    exact Nat.length_toDigits_le_iff (by decide) (by decide)
  rw [← Nat.not_le, hshort, Nat.not_lt]

/-- An integer is written when it is below the first number with too many digits. -/
theorem isWritable_iff {n : Int} : isWritable n = true ↔ n.natAbs < 10 ^ digitLimit := by
  rw [isWritable, decide_eq_true_eq, ← Nat.not_lt, digitLimit_lt_length_ofNat_iff, Nat.not_le]

/-- The digits of a number are read as the number, unless they are too many. -/
theorem readDigits_ofNat (n : Nat) :
    readDigits (ofNat n) =
      if n < 10 ^ digitLimit then .ok n else .error (.tooLong (ofNat n).length) := by
  unfold readDigits
  simp only [readDigits?_ofNat, digitLimit_lt_length_ofNat_iff]
  by_cases hn : n < 10 ^ digitLimit
  · rw [if_neg (Nat.not_le.mpr hn), if_pos hn]
  · rw [if_pos (Nat.not_lt.mp hn), if_neg hn]

/-! ## Digits of every script -/

/-- No digit of any script counts more than nine. -/
theorem digitValue?_lt {c : CodePoint} {v : Nat} (h : digitValue? c = some v) : v < 10 := by
  rw [digitValue?, Option.map_eq_some_iff] at h
  rcases h with ⟨first, hfirst, rfl⟩
  have hblock := List.find?_some hfirst
  simp only [Bool.and_eq_true, decide_eq_true_eq] at hblock
  omega

/-- Digits are read one by one, each of them below ten. -/
theorem digitsFrom?_eq_some {t : Text} {start n : Nat} (h : digitsFrom? start t = some n) :
    (∀ c ∈ t, isDigit c = true) ∧ n < (start + 1) * 10 ^ t.length := by
  induction t generalizing start with
  | nil =>
    rw [digitsFrom?, Option.some.injEq] at h
    subst h
    exact ⟨fun c hc => absurd hc List.not_mem_nil, by simp⟩
  | cons c r ih =>
    rw [digitsFrom?, Option.bind_eq_some_iff] at h
    rcases h with ⟨v, hv, hr⟩
    rcases ih hr with ⟨hdigits, hlt⟩
    refine ⟨List.forall_mem_cons.mpr ⟨?_, hdigits⟩, ?_⟩
    · rw [isDigit, hv, Option.isSome_some]
    · -- one digit makes the bound ten times as large
      have hten : 10 * start + v + 1 ≤ (start + 1) * 10 := by
        have := digitValue?_lt hv
        omega
      calc n < (10 * start + v + 1) * 10 ^ r.length := hlt
        _ ≤ (start + 1) * 10 * 10 ^ r.length := Nat.mul_le_mul_right _ hten
        _ = (start + 1) * 10 ^ (c :: r).length := by
          rw [List.length_cons, Nat.pow_succ, Nat.mul_assoc, Nat.mul_comm 10]

/-- Digits of any scripts can be read. -/
theorem exists_digitsFrom? {t : Text} (h : ∀ c ∈ t, isDigit c = true) (start : Nat) :
    ∃ n, digitsFrom? start t = some n := by
  induction t generalizing start with
  | nil => exact ⟨start, rfl⟩
  | cons c r ih =>
    rcases List.forall_mem_cons.mp h with ⟨hc, hr⟩
    rcases Option.isSome_iff_exists.mp hc with ⟨v, hv⟩
    rw [digitsFrom?, hv, Option.bind_some]
    exact ih hr _

/-- One digit or more are a number, which has no more digits than they are. -/
theorem exists_readDigits? {t : Text} (hne : t ≠ []) (h : ∀ c ∈ t, isDigit c = true) :
    ∃ n, readDigits? t = some n ∧ n < 10 ^ t.length := by
  rcases List.exists_cons_of_ne_nil hne with ⟨c, r, rfl⟩
  rcases exists_digitsFrom? h 0 with ⟨n, hn⟩
  refine ⟨n, hn, ?_⟩
  have hlt := (digitsFrom?_eq_some hn).2
  rwa [Nat.zero_add, Nat.one_mul] at hlt

/-- Nothing is read from an empty text, or from one with another character in it. -/
theorem readDigits?_eq_none {t : Text} (h : ¬ (t ≠ [] ∧ ∀ c ∈ t, isDigit c = true)) :
    readDigits? t = none := by
  rw [Option.eq_none_iff_forall_ne_some]
  intro n hn
  cases t with
  | nil => cases hn
  | cons c r => exact h ⟨List.cons_ne_nil c r, (digitsFrom?_eq_some hn).1⟩

/-! ## Integers -/

/-- Without underscores there is nothing to join. -/
theorem joinUnderscores?_eq_self {t : Text} (h : .char '_' ∉ t) : joinUnderscores? t = some t := by
  induction t using joinUnderscores?.induct with
  | case1 => rfl
  | case2 r => exact absurd List.mem_cons_self h
  | case3 c hc => rw [joinUnderscores?.eq_3 c hc]
  | case4 c r hc ih => exact absurd (List.mem_cons_of_mem c List.mem_cons_self) h
  | case5 c r hc hend hline ih =>
    rw [joinUnderscores?.eq_5 c r hc hend hline, ih fun hr => h (List.mem_cons_of_mem c hr)]
    rfl

/-- The digits of a number are read as the number. -/
theorem readNat_ofNat {n : Nat} (h : n < 10 ^ digitLimit) : readNat (ofNat n) = .ok n := by
  have hdigit : ∀ c ∈ ofNat n, isAsciiDigit c = true := fun c hc =>
    isAsciiDigit_of_mem_ofNat hc
  -- all of the text is taken as digits, and none of them is an underscore
  have hspan : (ofNat n).span (fun c => isDigit c || c == .char '_') = (ofNat n, []) := by
    refine span_eq_iff.mpr ⟨(List.append_nil _).symm, fun c hc => ?_, rfl⟩
    rw [isDigit, digitValue?_of_isAsciiDigit (hdigit c hc)]
    rfl
  have hjoin : joinUnderscores? (ofNat n) = some (ofNat n) := by
    refine joinUnderscores?_eq_self fun hmem => ?_
    exact absurd (hdigit _ hmem) (by decide)
  unfold readNat
  simp only [hspan, hjoin, readDigits_ofNat, if_pos h]
  rfl

/-- A text without blanks stays as it is. -/
theorem trimNumber_eq_self {t : Text} (h : ∀ c ∈ t, isNumberBlank c = false) :
    trimNumber t = t := by
  have hkeep : ∀ {u : Text}, (∀ c ∈ u, isNumberBlank c = false) →
      u.dropWhile isNumberBlank = u := by
    intro u hu
    cases u with
    | nil => rfl
    | cons c r => rw [List.dropWhile_cons_of_neg (by simp [hu c List.mem_cons_self])]
  unfold trimNumber
  rw [hkeep h, hkeep fun c hc => h c (List.mem_reverse.mp hc), List.reverse_reverse]

theorem isNumberBlank_of_isAsciiDigit {c : CodePoint} (h : isAsciiDigit c = true) :
    isNumberBlank c = false := by
  have hident : isIdent c = true := by simp [isIdent, h]
  rw [isNumberBlank, isBlank_of_isIdent hident, Bool.false_and]

/-- An integer is read back from its digits and its sign. -/
theorem readInt_ofInt {k : Int} (h : k.natAbs < 10 ^ digitLimit) : readInt (ofInt k) = .ok k := by
  have hdigits : ∀ n, ∀ c ∈ ofNat n, isNumberBlank c = false := fun n c hc =>
    isNumberBlank_of_isAsciiDigit (isAsciiDigit_of_mem_ofNat hc)
  cases k with
  | ofNat n =>
    have hread : readNat (ofNat n) = .ok n := readNat_ofNat h
    have htrim : trimNumber (ofInt (.ofNat n)) = ofNat n := trimNumber_eq_self (hdigits n)
    unfold readInt
    rw [htrim]
    -- the first digit is no sign
    cases hn : ofNat n with
    | nil => exact absurd hn (ofNat_ne_nil _)
    | cons c r =>
      have hc : isAsciiDigit c = true := isAsciiDigit_of_mem_ofNat (hn ▸ List.mem_cons_self)
      rw [hn] at hread
      split
      · rename_i heq
        cases heq
        exact absurd hc (by decide)
      · rename_i heq
        cases heq
        exact absurd hc (by decide)
      · rw [hread]
        rfl
  | negSucc n =>
    have hread : readNat (ofNat (n + 1)) = .ok (n + 1) := readNat_ofNat h
    -- neither the sign nor the digits are blanks
    have htrim : trimNumber (ofInt (.negSucc n)) = .char '-' :: ofNat (n + 1) := by
      refine trimNumber_eq_self fun c hc => ?_
      rcases List.mem_cons.mp hc with rfl | hc
      · decide
      · exact hdigits (n + 1) c hc
    unfold readInt
    rw [htrim]
    simp only [hread]
    rfl

end Placement.Text
