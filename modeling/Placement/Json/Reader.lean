import Placement.Text.Digit
import Placement.Text.CodePoint
import Placement.Text.Word
import Placement.Value

/-!
# Placement.Json.Reader — reading JSON texts

The reader takes the JSON grammar, and beside it the three words `NaN`,
`Infinity` and `-Infinity`. A number without point and exponent is an integer
of up to 4300 digits. The halves of a surrogate pair may be escaped, which is the
character of the pair, and so may a half alone. When a field name comes twice,
the last value counts, at the place of the first. Nesting is bounded by the
length of the text, which is the fuel of the recursion.
-/

namespace Placement.Json

open Placement

/-- Why a text is no JSON text. -/
inductive Fault where
  /-- It breaks the grammar. -/
  | malformed
  /-- An integer in it has too many digits; what stands behind it does not matter. -/
  | longInteger (digits : Nat)
deriving DecidableEq, Repr

/-! ## White space and numbers -/

/-- The white space of JSON. -/
def isSpace (c : CodePoint) : Bool := c == ' ' || c == '\t' || c == '\n' || c == '\r'

/-- A text without the white space at its beginning. -/
def skipSpace (t : Text) : Text := t.dropWhile isSpace

/-- The number that ASCII digits write. -/
def digitsValue (t : Text) : Nat := t.foldl (fun n c => 10 * n + (c.toNat - 0x30)) 0

/-- The digits behind a point, when there is at least one. -/
def readPlaces : Text → Option (Text × Text)
  | '.' :: r =>
    let (digits, rest) := r.span Text.isAsciiDigit
    if digits.isEmpty then none else some (digits, rest)
  | _ => none

/-- The sign at the head of an exponent, and what follows it. -/
def readSign : Text → Bool × Text
  | '-' :: r => (true, r)
  | '+' :: r => (false, r)
  | r => (false, r)

/-- An exponent, when its digits are there. -/
def readExponent : Text → Option (Int × Text)
  | [] => none
  | c :: r =>
    if c = 'e' ∨ c = 'E' then
      let (negative, r) := readSign r
      let (digits, rest) := r.span Text.isAsciiDigit
      let n : Int := digitsValue digits
      if digits.isEmpty then none else some (if negative then -n else n, rest)
    else none

/-- The digits in front of a point: a zero alone, or digits that begin with another one. -/
def readWhole (t : Text) : Option (Text × Text) :=
  match t with
  | '0' :: r => some ([.char '0'], r)
  | _ =>
    let (digits, rest) := t.span Text.isAsciiDigit
    if digits.isEmpty then none else some (digits, rest)

/-- A number without its sign. -/
def readNumber (negative : Bool) (t : Text) : Except Fault (Value × Text) :=
  match readWhole t with
  | none => .error .malformed
  | some (whole, rest) =>
    let places := readPlaces rest
    let rest := (places.map (·.2)).getD rest
    let exponent := readExponent rest
    let rest := (exponent.map (·.2)).getD rest
    if places.isNone && exponent.isNone then
      let n : Int := digitsValue whole
      if Text.digitLimit < whole.length then .error (.longInteger whole.length)
      else .ok (.int (if negative then -n else n), rest)
    else
      let fraction := (places.map (·.1)).getD []
      let e := (exponent.map (·.1)).getD 0
      .ok (.double (.ofDecimal negative (digitsValue (whole ++ fraction)) (e - fraction.length)),
        rest)

/-! ## Strings -/

/-- The value of a hexadecimal digit. -/
def hexValue? (c : CodePoint) : Option Nat :=
  if Text.isAsciiDigit c then some (c.toNat - 0x30)
  else if 'a' ≤ c ∧ c ≤ 'f' then some (c.toNat - 0x57)
  else if 'A' ≤ c ∧ c ≤ 'F' then some (c.toNat - 0x37)
  else none

/-- The UTF-16 unit that four hexadecimal digits write. -/
def unit? (a b c d : CodePoint) : Option Nat := do
  return 0x1000 * (← hexValue? a) + 0x100 * (← hexValue? b) + 0x10 * (← hexValue? c) +
    (← hexValue? d)

/-- The character that a letter behind a backslash stands for. -/
def unescape? (c : CodePoint) : Option CodePoint :=
  if c = '"' ∨ c = '\\' ∨ c = '/' then some c
  else if c = 'b' then some (.char '\x08')
  else if c = 'f' then some (.char '\x0c')
  else if c = 'n' then some (.char '\n')
  else if c = 'r' then some (.char '\r')
  else if c = 't' then some (.char '\t')
  else none

/-- A piece of a string: what stands for itself, or an escaped UTF-16 unit. -/
inductive Piece where
  | plain (c : CodePoint)
  | unit (u : Nat)
deriving DecidableEq, Repr

/-- The pieces of a string up to its closing quote, and what follows. -/
def readPieces : Text → Option (List Piece × Text)
  | [] => none
  | '"' :: r => some ([], r)
  | '\\' :: 'u' :: a :: b :: c :: d :: r => do
    let u ← unit? a b c d
    let (pieces, rest) ← readPieces r
    return (.unit u :: pieces, rest)
  | '\\' :: e :: r => do
    let c ← unescape? e
    let (pieces, rest) ← readPieces r
    return (.plain c :: pieces, rest)
  | c :: r => do
    if c = '\\' ∨ c.toNat < 0x20 then none
    let (pieces, rest) ← readPieces r
    return (.plain c :: pieces, rest)

/-- The text that pieces make up: two escaped halves of a pair are one character. -/
def joinPieces : List Piece → Text
  | [] => []
  | .plain c :: r => c :: joinPieces r
  | .unit u :: .unit v :: r =>
    if CodePoint.isHighHalf u && CodePoint.isLowHalf v then
      CodePoint.ofNat (0x10000 + 0x400 * (u - 0xD800) + (v - 0xDC00)) :: joinPieces r
    else CodePoint.ofNat u :: joinPieces (.unit v :: r)
  | .unit u :: r => CodePoint.ofNat u :: joinPieces r

/-- A string behind its opening quote. -/
def readString (t : Text) : Except Fault (Text × Text) :=
  match readPieces t with
  | some (pieces, rest) => .ok (joinPieces pieces, rest)
  | none => .error .malformed

/-! ## Values -/

/-- The words that are values. -/
def words : List (Text × Value) :=
  [("null".text, .null), ("true".text, .bool true), ("false".text, .bool false),
   ("NaN".text, .double .nan), ("Infinity".text, .double (.infinite false)),
   ("-Infinity".text, .double (.infinite true))]

/-- A word at the head of a text, with its value. -/
def readWord? (t : Text) : Option (Value × Text) :=
  words.findSome? fun (word, v) => (Text.after? word t).map fun rest => (v, rest)

mutual

/-- A value at the head of a text. -/
def readValue : Nat → Text → Except Fault (Value × Text)
  | 0, _ => .error .malformed
  | fuel + 1, t =>
    match t with
    | '"' :: r => do
      let (s, rest) ← readString r
      return (.text s, rest)
    | '{' :: r =>
      match skipSpace r with
      | '}' :: rest => .ok (.record [], rest)
      | r => readFields fuel [] r
    | '[' :: r =>
      match skipSpace r with
      | ']' :: rest => .ok (.list [], rest)
      | r => do
        let (items, rest) ← readItems fuel r
        return (.list items, rest)
    | _ =>
      match readWord? t with
      | some found => .ok found
      | none =>
        match t with
        | '-' :: r => readNumber true r
        | _ => readNumber false t

/-- The elements of a list up to its closing bracket. -/
def readItems : Nat → Text → Except Fault (List Value × Text)
  | 0, _ => .error .malformed
  | fuel + 1, t => do
    let (v, rest) ← readValue fuel t
    match skipSpace rest with
    | ']' :: rest => return ([v], rest)
    | ',' :: rest =>
      let (vs, rest) ← readItems fuel (skipSpace rest)
      return (v :: vs, rest)
    | _ => .error .malformed

/-- The fields of a record up to its closing brace, put behind those read before. -/
def readFields : Nat → Fields → Text → Except Fault (Value × Text)
  | 0, _, _ => .error .malformed
  | fuel + 1, seen, t =>
    match t with
    | '"' :: r => do
      let (name, rest) ← readString r
      match skipSpace rest with
      | ':' :: rest =>
        let (v, rest) ← readValue fuel (skipSpace rest)
        let fields := Fields.put name v seen
        match skipSpace rest with
        | '}' :: rest => return (.record fields, rest)
        | ',' :: rest => readFields fuel fields (skipSpace rest)
        | _ => .error .malformed
      | _ => .error .malformed
    | _ => .error .malformed

end

/-- The value that a whole text writes. -/
def read (t : Text) : Except Fault Value := do
  let (v, rest) ← readValue (t.length + 1) (skipSpace t)
  if (skipSpace rest).isEmpty then return v else .error .malformed

end Placement.Json
