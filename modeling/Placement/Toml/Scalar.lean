import Placement.Number.Double
import Placement.Text.Digit
import Placement.Toml.Quoted
import Placement.Value

/-!
# Placement.Toml.Scalar — numbers of a settings file

A number is a double when it has a point or an exponent, and otherwise an
integer, in decimal digits without leading zeros or with the base in front.
Underscores may stand in it. Where a line sets a field, a number is also held to
the stricter `isStrict`; the elements of an array are not.
-/

namespace Placement.Toml

/-- A text behind its sign, and whether that is a minus. -/
def cutSign : Text → Bool × Text
  | '-' :: r => (true, r)
  | '+' :: r => (false, r)
  | r => (false, r)

/-- A text without its underscores. -/
def dropUnderscores (t : Text) : Text := t.filter (· != .char '_')

/-! ## The stricter rule -/

/-- Whether zeros stand in front of a number where none may: a zero needs a point behind it, or,
without a sign, the letter of a base. -/
def hasLeadingZero (t : Text) : Bool :=
  match t with
  | '0' :: c :: _ => !([.char '.', .char 'o', .char 'b', .char 'x'].contains c)
  | '-' :: '0' :: c :: _ => c != '.'
  | '+' :: '0' :: c :: _ => c != '.'
  | _ => false

/-- Whether a number has no leading zeros, and underscores in single places inside it only. -/
def isStrict (t : Text) : Bool :=
  let t := Text.trim t
  !t.isEmpty && t.head? != some (.char '_') && t.getLast? != some (.char '_') &&
    !Text.contains [.char '_', .char '.'] t && !Text.contains [.char '.', .char '_'] t &&
    !hasLeadingZero t && !Text.contains [.char '_', .char '_'] t

/-! ## Doubles -/

/-- The exponent at the head of a text; a text that is empty has the exponent zero. -/
def exponent? : Text → Option Int
  | [] => some 0
  | c :: r =>
    if c = 'e' ∨ c = 'E' then
      let (negative, digits) := cutSign r
      (Text.readDigits? digits).map fun (n : Nat) => if negative then -(n : Int) else n
    else none

/-- A double without a sign, in decimal digits. -/
def readDecimal? (t : Text) : Option Double := do
  let (whole, r) := t.span Text.isDigit
  let (places, r) := match r with
    | '.' :: r => r.span Text.isDigit
    | r => ([], r)
  let e ← exponent? r
  let digits ← Text.readDigits? (whole ++ places)
  return .ofDecimal false digits (e - places.length)

/-- A name for what is no finite number. -/
def readSpecial? (t : Text) : Option Double :=
  let t := t.map Text.toAsciiSmall
  if t = "inf".text ∨ t = "infinity".text then some (.infinite false)
  else if t = "nan".text then some .nan
  else none

/-- A text without its underscores, each of which must stand between two digits. `behind` says that
a digit stands in front. -/
def joinDigits? (behind : Bool) : Text → Option Text
  | [] => some []
  | c :: r =>
    if c = '_' then
      if behind && r.head?.any Text.isDigit then joinDigits? false r else none
    else (joinDigits? (Text.isDigit c) r).map (c :: ·)

/-- Whether a text writes a double, with blanks around it and a sign. -/
def isDouble (t : Text) : Bool :=
  match joinDigits? false (Text.trimNumber t) with
  | some t =>
    let (_, t) := cutSign t
    ((readDecimal? t).or (readSpecial? t)).isSome
  | none => false

/-! ## Integers -/

/-- The number that digits of a base write. -/
def readBase? (base : Nat) (digits : Text) : Option Nat :=
  if digits.isEmpty then none
  else
    digits.foldlM
      (fun n c =>
        ((Text.digitValue? c).or (hexValue? c)).bind fun d =>
          if d < base then some (base * n + d) else none)
      0

/-- The base that a letter stands for. -/
def baseOf? (c : CodePoint) : Option Nat :=
  if c = 'x' ∨ c = 'X' then some 16
  else if c = 'o' ∨ c = 'O' then some 8
  else if c = 'b' ∨ c = 'B' then some 2
  else none

/-- An integer without a sign; decimal digits have no leading zero, unless all are. -/
def readNatural? (t : Text) : Option Nat :=
  match t with
  | zero :: c :: r =>
    if Text.digitValue? zero = some 0 then
      match baseOf? c with
      | some base => readBase? base r
      | none =>
        match Text.readDigits (zero :: c :: r) with
        | .ok 0 => some 0
        | _ => none
    else (Text.readDigits (zero :: c :: r)).toOption
  | t => (Text.readDigits t).toOption

/-- An integer with blanks around it and a sign. -/
def readInteger? (t : Text) : Option Int :=
  let (negative, t) := cutSign (Text.trimNumber t)
  (readNatural? t).map fun (n : Nat) => if negative then -(n : Int) else n

/-! ## Numbers -/

/-- A number with the sign that stood before it; there is no negative zero. -/
def applySign (negative : Bool) : Value → Value
  | .int n => .int (if negative then -n else n)
  | .double (.finite s m e) => .double (.finite (s != (negative && m != 0)) m e)
  | .double x => .double (if negative then x.neg else x)
  | v => v

/-- A number behind its sign, without underscores. -/
def readUnsigned? (t : Text) : Option Value :=
  let small := t.map Text.toAsciiSmall
  let hasExponent := !t.any (· == 'x') && t.any fun c => c == 'e' || c == 'E'
  if t.any (· == '.') || hasExponent then
    let missesPlaces := (Text.cut? [.char '.'] t).any fun (_, places) => places.isEmpty
    if missesPlaces || !t.head?.any Text.isAsciiDigit then none
    else (readDecimal? t).map .double
  else if small = "inf".text ∨ small = "nan".text then (readSpecial? t).map .double
  else (readInteger? t).map .int

/-- A number. -/
def readNumber (t : Text) : Option Value :=
  let (negative, t) := cutSign t
  (readUnsigned? (dropUnderscores t)).map (applySign negative)

end Placement.Toml
