import Placement.Text.CodePoint
import Placement.Text.Word
import Placement.Toml.Basic

/-!
# Placement.Toml.Quoted — strings of a settings file

A string stands in double quotes with escapes, or in single quotes without, and
either may be opened and closed by three quotes. Escapes are replaced in rounds:
first the code points in four hexadecimal digits, then those in eight, and last
the escapes of one letter, so that a backslash written by its number begins an
escape of its own.
-/

namespace Placement.Toml

/-! ## Escapes of one letter -/

/-- The escapes of one letter. -/
def escapes : List (CodePoint × CodePoint) :=
  [('0', '\x00'), ('b', '\x08'), ('f', '\x0c'), ('n', '\n'), ('r', '\r'), ('t', '\t'), ('"', '"')]

/-- Whether a letter begins a code point in hexadecimal digits. -/
def isNumberLetter (c : CodePoint) : Bool := c == 'u' || c == 'U'

/-- A text with its escapes of one letter replaced; numbers of code points stay as they are. -/
def unescape : Text → Except Fault Text
  | [] => .ok []
  | [c] => .ok [c]
  | c :: e :: r =>
    if c = '\\' then
      if e = '\\' then do return .char '\\' :: (← unescape r)
      else if isNumberLetter e then do return .char '\\' :: e :: (← unescape r)
      else match escapes.lookup e with
        | some x => do return x :: (← unescape r)
        | none => .error .malformed
    else do return c :: (← unescape (e :: r))

/-- Whether every backslash has a letter behind it that escapes something. `pieces` are what stands
between the backslashes, and `slash` says that the backslash before is escaped itself. -/
def knownEscapes (slash : Bool) : List Text → Bool
  | [] => true
  | [] :: pieces => knownEscapes (!slash) pieces
  | (e :: _) :: pieces =>
    ((escapes.lookup e).isSome || isNumberLetter e || slash) && knownEscapes false pieces

/-! ## Code points -/

/-- The value of a hexadecimal digit. -/
def hexValue? (c : CodePoint) : Option Nat :=
  if Text.isAsciiDigit c then some (c.toNat - 0x30)
  else if 'a' ≤ c ∧ c ≤ 'f' then some (c.toNat - 0x57)
  else if 'A' ≤ c ∧ c ≤ 'F' then some (c.toNat - 0x37)
  else none

/-- Whether hexadecimal digits begin like those of half a pair. -/
def beginsHalf (digits : List Nat) : Except Fault Bool :=
  match digits with
  | [] => .error .cutShort
  | [0xD] => .error .cutShort
  | 0xD :: d :: _ => .ok (8 ≤ d)
  | _ => .ok false

/-- The character that hexadecimal digits write. A half of a pair must have zeros in front. -/
def readCodePoint (digits : Text) : Except Fault CodePoint :=
  match digits.mapM hexValue? with
  | none => .error .malformed
  | some values => do
    if ← beginsHalf values then .error .malformed
    else
      let n := values.foldl (fun n d => 16 * n + d) 0
      if Nat.pow 2 31 ≤ n then .error .tooLarge
      else match CodePoint.ofNat? n with
        | some c => .ok c
        | none => .error .malformed

/-- What follows a piece, with the code points at the beginnings of the pieces replaced. `escaped`
says that the first of the pieces begins behind an escaped backslash. -/
def expandPieces (letter : CodePoint) (width : Nat) (escaped : Bool) : List Text → Except Fault Text
  | [] => .ok []
  | piece :: pieces =>
    if escaped then do
      let rest ← expandPieces letter width (endsInBackslash piece) pieces
      return .char '\\' :: letter :: piece ++ rest
    else do
      let c ← readCodePoint (piece.take width)
      return c :: piece.drop width ++ (← expandPieces letter width false pieces)

/-- A text with the code points of one width replaced. -/
def expand (letter : CodePoint) (width : Nat) (t : Text) : Except Fault Text :=
  match cutEscapes letter t with
  | [] => .ok []
  | first :: pieces => do
    return first ++ (← expandPieces letter width (endsInBackslash first) pieces)

/-! ## Whole strings -/

/-- Whether nothing stands behind the end of a string. `pieces` are what lies between its quotes;
a piece that ends in a backslash does not end the string, and `gaps` counts the empty ones in a
row. -/
def endsOnce (long closed : Bool) (gaps : Nat) : List Text → Bool
  | [] => true
  | piece :: pieces =>
    if piece.isEmpty then
      if long then endsOnce long closed (gaps + 1) pieces else endsOnce long true gaps pieces
    else if endsInBackslash piece then endsOnce long closed gaps pieces
    else if closed then false
    else if !long || 1 < gaps then endsOnce long true gaps pieces
    else endsOnce long closed 0 pieces

/-- Whether a text that begins with a quote is one string. -/
def isOneString (quote : CodePoint) (t : Text) : Bool :=
  match Text.splitOn quote (t.drop 1) with
  | [] :: [] :: pieces => endsOnce true false 0 pieces
  | pieces => endsOnce false false 0 pieces

/-- A text without the quotes around it, of which there are three or one at each end. -/
def stripQuotes (quote : CodePoint) (t : Text) : Text :=
  match t with
  | _ :: b :: r =>
    if b = quote ∧ r.head?.all (· == b) then inner (r.dropLast.dropLast) else inner t
  | _ => []

/-- The text of a string in quotes. -/
def readString (quote : CodePoint) (t : Text) : Except Fault Text :=
  if !isOneString quote t then .error .malformed
  else if quote ≠ '"' then .ok (stripQuotes quote t)
  else if !knownEscapes false ((Text.splitOn '\\' t).drop 1) then .error .malformed
  else do
    let t ← expand 'u' 4 t
    let t ← expand 'U' 8 t
    return stripQuotes quote (← unescape t)

end Placement.Toml
