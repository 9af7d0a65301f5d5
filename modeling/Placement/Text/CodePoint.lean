/-!
# Placement.Text.CodePoint — what texts are made of

A text may hold every code point there is. Most of them are characters. The
others are the halves of surrogate pairs, which no character stands for: an
escape in a JSON text or in a settings file can write one alone.

* `CodePoint` — a character or a half, told by its number (`toNat`, `ofNat?`);
* `isHighHalf`, `isLowHalf` — which numbers are halves, and of which kind.

`ofNat?_eq_some_iff` says which code point a number is read as, and `toNat_inj` that a code point
is known from its number.
-/

namespace Placement

/-- A code point: a character, or a half of a surrogate pair. Halves are counted from U+D800. -/
inductive CodePoint where
  | char (c : Char)
  | half (h : Fin 0x800)
deriving DecidableEq, Repr

/-- A character is written as itself. -/
instance : Coe Char CodePoint := ⟨.char⟩

namespace CodePoint

/-- The number of a code point. -/
def toNat : CodePoint → Nat
  | .char c => c.toNat
  | .half h => 0xD800 + h

/-- Code points are ordered by their numbers. -/
instance : LE CodePoint := ⟨fun c d => c.toNat ≤ d.toNat⟩

instance (c d : CodePoint) : Decidable (c ≤ d) := inferInstanceAs (Decidable (c.toNat ≤ d.toNat))

/-! ## Numbers of code points -/

/-- Whether a number is that of a first half of a pair. -/
def isHighHalf (n : Nat) : Bool := 0xD800 ≤ n && n < 0xDC00

/-- Whether a number is that of a second half of a pair. -/
def isLowHalf (n : Nat) : Bool := 0xDC00 ≤ n && n < 0xE000

/-- The code point with a number, if there is one. -/
def ofNat? (n : Nat) : Option CodePoint :=
  if valid : n.isValidChar then some (.char (Char.ofNatAux n valid))
  else if surrogate : 0xD800 ≤ n ∧ n < 0xE000 then
    some (.half ⟨n - 0xD800, by omega⟩)
  else none

/-- The code point with a number; a number that is too large gives the one with number zero. -/
def ofNat (n : Nat) : CodePoint := (ofNat? n).getD (.char '\x00')

theorem ofNat?_toNat (c : CodePoint) : ofNat? c.toNat = some c := by
  cases c with
  | char c =>
    have valid : c.toNat.isValidChar := c.valid
    rw [toNat, ofNat?, dif_pos valid]
    rfl
  | half h =>
    have hlt := h.isLt
    -- the number of a half is no character's, so the second branch takes it
    have invalid : ¬ (0xD800 + (h : Nat)).isValidChar := by
      simp only [Nat.isValidChar]
      omega
    have surrogate : 0xD800 ≤ 0xD800 + (h : Nat) ∧ 0xD800 + (h : Nat) < 0xE000 := by omega
    rw [toNat, ofNat?, dif_neg invalid, dif_pos surrogate]
    exact congrArg (fun h => some (CodePoint.half h)) (Fin.ext (Nat.add_sub_cancel_left ..))

/-- A number is read as the code point it is the number of. -/
theorem ofNat?_eq_some_iff {n : Nat} {c : CodePoint} : ofNat? n = some c ↔ c.toNat = n := by
  constructor
  · intro h
    -- the two ranges of numbers are disjoint, and beyond them there is no code point
    by_cases valid : n.isValidChar
    · rw [ofNat?, dif_pos valid] at h
      cases h
      rfl
    · by_cases surrogate : 0xD800 ≤ n ∧ n < 0xE000
      · rw [ofNat?, dif_neg valid, dif_pos surrogate] at h
        cases h
        exact Nat.add_sub_cancel' surrogate.1
      · rw [ofNat?, dif_neg valid, dif_neg surrogate] at h
        cases h
  · rintro rfl
    exact ofNat?_toNat c

/-- A code point is known from its number. -/
theorem toNat_inj {c d : CodePoint} : c.toNat = d.toNat ↔ c = d := by
  constructor
  · intro h
    have hsame : some c = some d := by rw [← ofNat?_toNat c, ofNat?_eq_some_iff.mpr h.symm]
    exact Option.some.inj hsame
  · exact congrArg toNat

end CodePoint

end Placement
