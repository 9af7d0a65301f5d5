import Mathlib.Algebra.BigOperators.Fin
import Mathlib.Data.Int.ModEq
import Mathlib.Tactic.Ring
import Placement.Location.Identity

/-!
# Placement.Proofs.Location.Hash — identity numbers are wrapped polynomials

The hash of a key is computed code point by code point, and is cut to 32 bits at each of
them. What is cut off makes no difference modulo `2 ^ 32`, so the hash is the rest of the
exact polynomial (`hash_eq_polynomial_mod`). Read as a signed word, it is the only one
of 32 bits that is congruent to the polynomial (`wrapsTo_iff`), and the identity number
is its distance from zero (`idOfText_eq_abs`).
-/

namespace Placement.Location

/-- The polynomial in 31 over the code points of a text; the last one has no factor. -/
def polynomial (t : Text) : Nat :=
  ∑ i : Fin t.length, t[i].toNat * 31 ^ (t.length - 1 - i)

/-- `w` is a signed word of 32 bits, and differs from `n` by a multiple of `2 ^ 32`. -/
def WrapsTo (n w : Int) : Prop := (-2 ^ 31 ≤ w ∧ w < 2 ^ 31) ∧ w ≡ n [ZMOD 2 ^ 32]

/-! ## Unsigned words -/

theorem polynomial_nil : polynomial [] = 0 := rfl

/-- A code point in front has the highest power, and leaves those of the others. -/
theorem polynomial_cons (c : CodePoint) (r : Text) :
    polynomial (c :: r) = c.toNat * 31 ^ r.length + polynomial r := by
  have htail (i : Fin r.length) :
      (c :: r).length - 1 - (i.succ : Fin (r.length + 1)) = r.length - 1 - i := by
    rw [List.length_cons, Fin.val_succ]
    omega
  unfold polynomial
  show ∑ i : Fin (r.length + 1), _ = _
  rw [Fin.sum_univ_succ]
  simp only [htail]
  rfl

/-- One step of the hash cuts off a multiple of `2 ^ 32` only. -/
theorem foldl_modEq_polynomial (t : Text) (h : Nat) :
    t.foldl (fun h c => (h * 31 + c.toNat) % Nat.pow 2 32) h ≡
      h * 31 ^ t.length + polynomial t [MOD 2 ^ 32] := by
  -- for all hashes before, as each step begins with what the last one left
  induction t generalizing h with
  | nil => rw [List.foldl_nil, polynomial_nil, List.length_nil, pow_zero, mul_one, add_zero]
  | cons c r ih =>
    have hstep : (h * 31 + c.toNat) % 2 ^ 32 ≡ h * 31 + c.toNat [MOD 2 ^ 32] :=
      Nat.mod_modEq _ _
    rw [List.foldl_cons, polynomial_cons]
    calc
      _ ≡ (h * 31 + c.toNat) % 2 ^ 32 * 31 ^ r.length + polynomial r [MOD 2 ^ 32] := ih _
      _ ≡ (h * 31 + c.toNat) * 31 ^ r.length + polynomial r [MOD 2 ^ 32] :=
        (hstep.mul_right _).add_right _
      _ = h * 31 ^ (c :: r).length + (c.toNat * 31 ^ r.length + polynomial r) := by
        rw [List.length_cons, pow_succ]
        ring

/-- A hash is an unsigned word of 32 bits. -/
theorem hash_lt (t : Text) : hash t < 2 ^ 32 := by
  unfold hash
  rcases List.eq_nil_or_concat' t with rfl | ⟨front, c, rfl⟩
  · exact Nat.two_pow_pos 32
  · rw [List.foldl_concat]
    exact Nat.mod_lt _ (Nat.two_pow_pos 32)

/-- The hash of a text is the rest of the exact polynomial. -/
theorem hash_eq_polynomial_mod (t : Text) : hash t = polynomial t % 2 ^ 32 := by
  have hmod := foldl_modEq_polynomial t 0
  rw [zero_mul, zero_add] at hmod
  rw [← Nat.mod_eq_of_lt (hash_lt t)]
  exact hmod

/-! ## Signed words -/

/-- Every number wraps to one signed word. -/
theorem wrapsTo_iff {n w : Int} : WrapsTo n w ↔ w = n.bmod (2 ^ 32) := by
  constructor
  · rintro ⟨hrange, hmod⟩
    have hrest : w % 2 ^ 32 = n % 2 ^ 32 := hmod
    rw [Int.bmod_def]
    omega
  · rintro rfl
    refine ⟨?_, Int.bmod_emod⟩
    rw [Int.bmod_def]
    omega

/-- The magnitude of an unsigned word is that of the signed word which it wraps to. -/
theorem magnitude_eq_abs {word : Nat} (h : word < 2 ^ 32) :
    (magnitude word : Int) = |(word : Int).bmod (2 ^ 32)| := by
  have hpow : Nat.pow 2 31 = 2147483648 ∧ Nat.pow 2 32 = 4294967296 := by decide
  rw [Int.abs_eq_natAbs, Int.bmod_def, magnitude, hpow.1, hpow.2]
  split <;> omega

/-- The identity number of a key is the distance from zero of its wrapped polynomial. -/
theorem idOfKey_eq_abs (key : Text) :
    (idOfKey key : Int) = |(polynomial key : Int).bmod (2 ^ 32)| := by
  rw [idOfKey, magnitude_eq_abs (hash_lt key), hash_eq_polynomial_mod, Int.natCast_emod,
    Int.emod_bmod]

/-- A signed word is no further from zero than the least one. -/
theorem abs_le_of_wrapsTo {n w : Int} (h : WrapsTo n w) : |w| ≤ 2 ^ 31 := by
  rcases h with ⟨⟨hlow, hhigh⟩, -⟩
  rw [Int.abs_eq_natAbs]
  omega

/-- The identity number of a location's text is the distance from zero of the one signed word of 32
bits that the exact polynomial of its key wraps to. So it is never above `2 ^ 31`. -/
theorem idOfText_eq_abs (t : Text) :
    ∃ w : Int, (∀ v, WrapsTo (polynomial (keyOfText t)) v ↔ v = w) ∧ (idOfText t : Int) = |w| ∧
      0 ≤ (idOfText t : Int) ∧ (idOfText t : Int) ≤ 2 ^ 31 := by
  have hid := idOfKey_eq_abs (keyOfText t)
  refine ⟨_, fun v => wrapsTo_iff, hid, Int.natCast_nonneg _, ?_⟩
  rw [idOfText, hid]
  exact abs_le_of_wrapsTo (wrapsTo_iff.mpr rfl)

/-- The bound is met: the hash of this key is the unsigned word `2 ^ 31`. -/
example : idOfKey "polygenelubricants".text = 2 ^ 31 := by decide

end Placement.Location
