import Placement.Number.Double
import Placement.Text.Basic

/-!
# Placement.Number.Decimal — decimal texts of floating-point numbers

Three texts are needed, each a rounding of the exact binary value:

* `shortest` — the fewest digits that read back as the same number, the nearer
  of two such; written by position from `10 ^ -4` up to `10 ^ 16`, and with
  `.0` when it is whole;
* `general` — six significant digits without trailing zeros; written by
  position from `10 ^ -4` up to `10 ^ 6`;
* `fixed` — a given number of decimal places.
-/

namespace Placement.Number

/-! ## Digits -/

/-- The greatest `e` with `10 ^ e ≤ num / den`, for a positive quotient. -/
def magnitude (num den : Nat) : Int :=
  if den ≤ num then ((Text.ofNat (num / den)).length : Int) - 1
  else
    let places := (Text.ofNat (den / num)).length - 1
    if num * Nat.pow 10 places = den then -(places : Int) else -(places : Int) - 1

/-- Digits of a number and the power of ten of the first of them. -/
structure Digits where
  digits : Nat
  exponent : Int
deriving DecidableEq, Repr

/-- A positive quotient rounded to `count` significant digits. -/
def Digits.round (count num den : Nat) : Digits :=
  let e := magnitude num den
  let (n, d) := scaleDown 10 (e - count + 1) num den
  let digits := roundHalfEven n d
  if digits = Nat.pow 10 count then ⟨Nat.pow 10 (count - 1), e + 1⟩ else ⟨digits, e⟩

/-- The two neighbours of a positive quotient among the numbers of `count` digits, the nearer
one first. -/
def Digits.neighbours (count num den : Nat) : List Digits :=
  let e := magnitude num den
  let (n, d) := scaleDown 10 (e - count + 1) num den
  let low := n / d
  let pair : List Digits := [⟨low, e⟩,
    if low + 1 = Nat.pow 10 count then ⟨Nat.pow 10 (count - 1), e + 1⟩ else ⟨low + 1, e⟩]
  if roundHalfEven n d = low then pair else pair.reverse

/-- The double that `count` digits stand for. -/
def Digits.toDouble (count : Nat) (x : Digits) : Double :=
  .ofDecimal false x.digits (x.exponent - count + 1)

/-- The fewest digits that read back as `m · 2 ^ e`; seventeen always do. -/
def Digits.shortest (m : Nat) (e : Int) : Digits :=
  let (num, den) := Double.ratio m e
  let readsBack (count : Nat) : Option Digits :=
    (Digits.neighbours count num den).find? fun x => x.toDouble count == .finite false m e
  ((List.range 16).findSome? fun k => readsBack (k + 1)).getD (Digits.round 17 num den)

/-! ## Texts -/

/-- Where a text leaves positional writing, and whether a whole number keeps a zero place. -/
structure Style where
  /-- The first power of ten that is written with an exponent. -/
  limit : Int
  /-- Whether a whole number ends in `.0`. -/
  keepsPoint : Bool

/-- An exponent: its sign, and at least two digits. -/
def exponentText (e : Int) : Text :=
  let digits := Text.ofNat e.natAbs
  .char 'e' :: (if e < 0 then '-' else '+') ::
    (if digits.length < 2 then .char '0' :: digits else digits)

/-- Digits in a style. Trailing zeros are dropped, so their count does not matter. -/
def Style.write (style : Style) (x : Digits) : Text :=
  let digits := Text.chomp '0' (Text.ofNat x.digits)
  if x.exponent < -4 ∨ style.limit ≤ x.exponent then
    match digits with
    | [] => []
    | [d] => d :: exponentText x.exponent
    | d :: ds => d :: .char '.' :: ds ++ exponentText x.exponent
  else if x.exponent < 0 then
    .char '0' :: .char '.' :: List.replicate (x.exponent.natAbs - 1) (.char '0') ++ digits
  else
    let whole := x.exponent.toNat + 1
    let front := digits.take whole
    let places := digits.drop whole
    front ++ List.replicate (whole - front.length) (.char '0') ++
      (if places.isEmpty then (if style.keepsPoint then [.char '.', .char '0'] else [])
        else .char '.' :: places)

/-- A positive quotient with `places` decimal places. -/
def fixedRatio (places num den : Nat) : Text :=
  let digits := Text.ofNat (roundHalfEven (num * Nat.pow 10 places) den)
  let padded := List.replicate (places + 1 - digits.length) (.char '0') ++ digits
  let whole := padded.length - places
  padded.take whole ++ (if places = 0 then [] else .char '.' :: padded.drop whole)

end Placement.Number

namespace Placement.Double

open Number

/-- The sign of a number below zero. -/
def signText (negative : Bool) : Text := if negative then [.char '-'] else []

/-- A double in a style, given the digits of its positive finite values. -/
def write (style : Style) (digits : Nat → Int → Digits) (nan infinity : Text) :
    Double → Text
  | .nan => nan
  | .infinite s => signText s ++ infinity
  | .finite s m e => signText s ++
      (if m = 0 then (if style.keepsPoint then [.char '0', .char '.', .char '0'] else [.char '0'])
       else style.write (digits m e))

/-- The shortest text that reads back, with the names given to what is no number. -/
def shortest (nan infinity : Text) : Double → Text :=
  write ⟨16, true⟩ Digits.shortest nan infinity

/-- The text with six significant digits. -/
def general : Double → Text :=
  write ⟨6, false⟩ (fun m e => Digits.round 6 (ratio m e).1 (ratio m e).2)
    "nan".text "inf".text

/-- The text with `places` decimal places. -/
def fixed (places : Nat) : Double → Text
  | .nan => "nan".text
  | .infinite s => signText s ++ "inf".text
  | .finite s m e => signText s ++ fixedRatio places (ratio m e).1 (ratio m e).2

end Placement.Double
