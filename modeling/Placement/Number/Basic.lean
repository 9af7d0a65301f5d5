import Placement.Number.Decimal

/-!
# Placement.Number.Basic — numbers as they are written

A duration may be written as an integer or with a point. Numbers compare by
their exact values, the infinite ones stand below and above all others, and what
is no number compares with nothing.

A duration is a limit of time in milliseconds, which is measured in seconds: the
limit `isSpent` when nothing is left of it, and `runsOutBefore` a reply that takes
longer. A limit that is no number runs out at the first moment at which nothing
else is due.
-/

namespace Placement

/-- An integer of any size, or a double. -/
inductive Number where
  | int (n : Int)
  | double (x : Double)
deriving DecidableEq, Repr

namespace Number

/-- The double nearest to a number. -/
def toDouble : Number → Double
  | .int n => .ofInt n
  | .double x => x

/-- Whether a number is an integer beyond the greatest double. -/
def exceedsDouble : Number → Bool
  | .int n => match Double.ofInt n with
    | .infinite _ => true
    | _ => false
  | .double _ => false

/-- The exact value of a finite number, as a quotient. -/
def value? : Number → Option (Int × Nat)
  | .int n => some (n, 1)
  | .double (.finite s m e) =>
    let (num, den) := Double.ratio m e
    some (if s then -(num : Int) else num, den)
  | .double _ => none

/-- Whether the first of two numbers is less than the second. -/
def lt (a b : Number) : Bool :=
  match a, b with
  | .double .nan, _ | _, .double .nan => false
  | .double (.infinite s), .double (.infinite s') => s && !s'
  | .double (.infinite s), _ => s
  | _, .double (.infinite s) => !s
  | a, b =>
    match a.value?, b.value? with
    | some (n, d), some (n', d') => n * d' < n' * d
    | _, _ => false

/-! ## Limits of time -/

/-- Whether nothing is left of a limit of time in milliseconds. -/
def isSpent (limit : Number) : Bool := (limit.toDouble.dividedBy 1000).isAtMostZero

/-- Whether a limit of time runs out in front of a delay. -/
def runsOutBefore (limit delay : Number) : Bool :=
  match limit with
  | .double .nan => Number.lt (.int 0) delay
  | _ => limit.lt delay

/-- Whether a time never comes. -/
def isEndless : Number → Bool
  | .double (.infinite false) => true
  | _ => false

/-- A number with six significant digits. -/
def general (a : Number) : Text := a.toDouble.general

end Number

end Placement
