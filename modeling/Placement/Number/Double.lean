import Placement.Number.Rounding

/-!
# Placement.Number.Double — binary floating-point numbers of 64 bits

A finite double is `± significand · 2 ^ exponent`, kept in one form: the
significand has 53 bits, or the exponent is the least one. Every operation
rounds an exact quotient once, so numbers read from decimal digits, quotients
of counts and multiples are the nearest doubles, with ties to even.
-/

namespace Placement

/-- A floating-point number of 64 bits. -/
inductive Double where
  | finite (negative : Bool) (significand : Nat) (exponent : Int)
  | infinite (negative : Bool)
  | nan
deriving DecidableEq, Repr

namespace Double

open Number

/-- The exponent of the smallest doubles. -/
def leastExponent : Int := -1074

/-- Zero of either sign. -/
def zero (negative : Bool) : Double := .finite negative 0 leastExponent

/-- The double nearest to `± num / den`; beyond the greatest one it is infinite. -/
def ofRatio (negative : Bool) (num den : Nat) : Double :=
  if num = 0 then zero negative
  else
    let guess : Int := num.log2 - den.log2 - 52
    let (n, d) := scaleDown 2 guess num den
    let exponent := max leastExponent (if n / d < Nat.pow 2 52 then guess - 1 else guess)
    let (n, d) := scaleDown 2 exponent num den
    let m := roundHalfEven n d
    let (m, exponent) := if m = Nat.pow 2 53 then (Nat.pow 2 52, exponent + 1) else (m, exponent)
    if 971 < exponent then .infinite negative else .finite negative m exponent

/-- The double nearest to `± digits · 10 ^ exponent`. -/
def ofDecimal (negative : Bool) (digits : Nat) (exponent : Int) : Double :=
  if digits = 0 then zero negative
  else if 400 < exponent then .infinite negative
  else if exponent + digits.log2 < -1200 then zero negative
  else if 0 ≤ exponent then ofRatio negative (digits * Nat.pow 10 exponent.toNat) 1
  else ofRatio negative digits (Nat.pow 10 (-exponent).toNat)

/-- The double nearest to an integer. -/
def ofInt (n : Int) : Double := ofRatio (n < 0) n.natAbs 1

/-- The absolute value of a finite number `m · 2 ^ e` as a quotient. -/
def ratio (m : Nat) (e : Int) : Nat × Nat :=
  if 0 ≤ e then (m * Nat.pow 2 e.toNat, 1) else (m, Nat.pow 2 (-e).toNat)

/-- A number times a natural number. -/
def times (x : Double) (k : Nat) : Double :=
  match x with
  | .finite s m e => ofRatio s ((ratio m e).1 * k) (ratio m e).2
  | .infinite s => if k = 0 then .nan else .infinite s
  | .nan => .nan

/-- A number divided by a natural number other than zero. -/
def dividedBy (x : Double) (k : Nat) : Double :=
  match x with
  | .finite s m e => ofRatio s (ratio m e).1 ((ratio m e).2 * k)
  | x => x

/-- Whether a number is zero or less. -/
def isAtMostZero : Double → Bool
  | .finite s m _ => s || m = 0
  | .infinite s => s
  | .nan => false

/-- A number with the other sign. -/
def neg : Double → Double
  | .finite s m e => .finite (!s) m e
  | .infinite s => .infinite (!s)
  | .nan => .nan

end Double

end Placement
