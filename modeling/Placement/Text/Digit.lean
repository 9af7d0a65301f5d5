import Placement.Text.Blank

/-!
# Placement.Text.Digit — decimal digits of every script

Sixty-six scripts and styles have ten consecutive decimal digits (Unicode 14,
property Nd), so a digit is known by the zero of its block. An integer is
written as blanks, an optional sign, digits with single underscores between
them, and blanks; the information separators do not count as blanks here.

An integer of more than 4300 digits is not read, whatever stands behind them, and
not written either (`isWritable`).
-/

namespace Placement.Text

/-- The code points of the digit zero in every block of decimal digits. -/
def digitZeros : List Nat :=
  [0x30, 0x660, 0x6F0, 0x7C0, 0x966, 0x9E6, 0xA66, 0xAE6, 0xB66, 0xBE6, 0xC66, 0xCE6, 0xD66,
   0xDE6, 0xE50, 0xED0, 0xF20, 0x1040, 0x1090, 0x17E0, 0x1810, 0x1946, 0x19D0, 0x1A80, 0x1A90,
   0x1B50, 0x1BB0, 0x1C40, 0x1C50, 0xA620, 0xA8D0, 0xA900, 0xA9D0, 0xA9F0, 0xAA50, 0xABF0, 0xFF10,
   0x104A0, 0x10D30, 0x11066, 0x110F0, 0x11136, 0x111D0, 0x112F0, 0x11450, 0x114D0, 0x11650,
   0x116C0, 0x11730, 0x118E0, 0x11950, 0x11C50, 0x11D50, 0x11DA0, 0x16A60, 0x16AC0, 0x16B50,
   0x1D7CE, 0x1D7D8, 0x1D7E2, 0x1D7EC, 0x1D7F6, 0x1E140, 0x1E2F0, 0x1E950, 0x1FBF0]

/-- The value of a decimal digit of any script. -/
def digitValue? (c : CodePoint) : Option Nat :=
  (digitZeros.find? fun first => first ≤ c.toNat && c.toNat < first + 10).map (c.toNat - ·)

/-- Whether a character is a decimal digit of some script. -/
def isDigit (c : CodePoint) : Bool := (digitValue? c).isSome

/-- The number that a sequence of digits continues: `start` is what the digits before it say. -/
def digitsFrom? (start : Nat) : Text → Option Nat
  | [] => some start
  | c :: r => (digitValue? c).bind fun d => digitsFrom? (10 * start + d) r

/-- The number written by one or more digits. -/
def readDigits? : Text → Option Nat
  | [] => none
  | c :: r => digitsFrom? 0 (c :: r)

/-- A text without the underscores that stand alone between two characters of another kind;
nothing when an underscore stands anywhere else. -/
def joinUnderscores? : Text → Option Text
  | [] => some []
  | '_' :: _ => none
  | [c] => some [c]
  | c :: '_' :: r => (joinUnderscores? r).bind fun s => if s.isEmpty then none else some (c :: s)
  | c :: r => (joinUnderscores? r).map (c :: ·)

/-- White space around a number: blanks other than the information separators. -/
def isNumberBlank (c : CodePoint) : Bool := isBlank c && !(0x1C ≤ c.toNat && c.toNat ≤ 0x1F)

/-- A text without the white space around a number. -/
def trimNumber (t : Text) : Text :=
  ((t.dropWhile isNumberBlank).reverse.dropWhile isNumberBlank).reverse

/-- The number of decimal digits that an integer may be written with. -/
def digitLimit : Nat := 4300

/-- Whether an integer has few enough digits to be written. -/
def isWritable (n : Int) : Bool := (ofNat n.natAbs).length ≤ digitLimit

/-- Why a text is no integer. -/
inductive IntFault where
  /-- It is not written as one. -/
  | malformed
  /-- It has too many digits. -/
  | tooLong (digits : Nat)
deriving DecidableEq, Repr

/-- The number written by one or more digits, unless they are too many. -/
def readDigits (t : Text) : Except IntFault Nat :=
  match readDigits? t with
  | some n => if digitLimit < t.length then .error (.tooLong t.length) else .ok n
  | none => .error .malformed

/-- Digits with single underscores between them. -/
def readNat (t : Text) : Except IntFault Nat :=
  let (run, rest) := t.span fun c => isDigit c || c == .char '_'
  match joinUnderscores? run with
  | none => .error .malformed
  | some digits => do
    let n ← readDigits digits
    if rest.isEmpty then return n else .error .malformed

/-- The integer that a text writes. -/
def readInt (t : Text) : Except IntFault Int :=
  match trimNumber t with
  | '-' :: r => (readNat r).map fun n => -(n : Int)
  | '+' :: r => (readNat r).map fun n => (n : Int)
  | r => (readNat r).map fun n => (n : Int)

end Placement.Text
