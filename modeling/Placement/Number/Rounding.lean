/-!
# Placement.Number.Rounding — rounding quotients of natural numbers

Every number text of this library comes from an exact quotient of natural
numbers, so one rounding rule is enough: to the nearest integer, and from the
middle to the even neighbour.
-/

namespace Placement.Number

/-- The nearest integer to `num / den`; a half goes to the even neighbour. -/
def roundHalfEven (num den : Nat) : Nat :=
  let q := num / den
  let twice := 2 * (num % den)
  if twice < den then q
  else if den < twice then q + 1
  else if q % 2 = 0 then q else q + 1

/-- A quotient with its value divided by `base ^ e`. -/
def scaleDown (base : Nat) (e : Int) (num den : Nat) : Nat × Nat :=
  if 0 ≤ e then (num, den * Nat.pow base e.toNat) else (num * Nat.pow base (-e).toNat, den)

end Placement.Number
