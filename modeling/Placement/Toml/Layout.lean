import Placement.Text.Word
import Placement.Toml.Basic

/-!
# Placement.Toml.Layout — the lines of a settings file

A settings file is cut into lines before anything in it is read: comments are
blanked out, and an array that goes on over several lines becomes one line. On
the way the keys are checked. A key begins at the first character of a line, is
made of words with dots between them or of quoted parts, and must be followed by
an equals sign on its line.

A string ends on its line, unless it is opened by three quotes: then it is long,
and goes on until three quotes stand together again. A line feed right behind
two quotes inside a long string becomes a quote, so that the string's text begins
behind it.
-/

namespace Placement.Toml

/-- Where a character stands with respect to the key of its line. -/
inductive KeyPlace where
  | outside
  | inside
  | behind
deriving DecidableEq, Repr

/-- The kinds of headers that a character can stand in. -/
inductive Header where
  | none
  | table
  | tableArray
deriving DecidableEq, Repr

/-- What is known at a character of a settings file. -/
structure Scan where
  key : KeyPlace
  /-- Whether the key has a dot. -/
  dotted : Bool
  /-- The quote of the string that the character stands in. -/
  quote : Option CodePoint
  /-- Whether a long string is open. -/
  long : Bool
  openArrays : Int
  header : Header
  lineStart : Bool
  comment : Bool
deriving DecidableEq, Repr

namespace Scan

/-- What is known at the beginning. -/
def start : Scan := ⟨.outside, false, none, false, 0, .none, true, false⟩

/-! ## Keys -/

/-- A dotted key goes on at the next character, unless that is a blank or a dot. -/
def resumeKey (s : Scan) : Option CodePoint → Except Fault Scan
  | none => .error .cutShort
  | some next =>
    if Text.isBlank next || next == '.' then .ok s else .ok { s with key := .inside }

/-- A character of a key or behind it. `written` is what was written before, read backwards. -/
def keyStep (s : Scan) (written : Text) (c : CodePoint) (next : Option CodePoint) :
    Except Fault Scan :=
  match s.quote with
  | some quote =>
    if c = '\n' then .error .malformed
    else if c = quote ∧ !oddBackslashes written then .ok { s with key := .behind, quote := none }
    else .ok s
  | none =>
    if c = '\n' then .error .malformed
    else if s.key = .inside ∧ Text.isBlank c then .ok { s with key := .behind }
    else if s.key = .inside ∧ c = '.' then .ok { s with dotted := true }
    else if s.key = .inside ∧ (Text.isWord c || c == '-') then .ok s
    else if s.key = .inside ∧ s.dotted ∧ written.head? = some (.char '.') ∧ isQuote c then
      .ok { s with quote := some c }
    else if s.key = .behind ∧ Text.isBlank c then if s.dotted then s.resumeKey next else .ok s
    else if s.key = .behind ∧ c = '.' then { s with dotted := true }.resumeKey next
    else if c = '=' then .ok { s with key := .outside, dotted := false }
    else .error .malformed

/-- The beginning of a line: the first character that is no blank begins its key. -/
def begin (s : Scan) (c : CodePoint) : Except Fault Scan :=
  if !s.lineStart || c == ' ' || c == '\t' then .ok s
  else if s.header ≠ .none then .ok { s with lineStart := false }
  else if c = '=' then .error .malformed
  else .ok { s with lineStart := false, key := .inside }

/-! ## Strings and brackets -/

/-- How often a quote stands in front of a character, counted up to two. The file is read as a ring:
in front of its beginning stands its end, read backwards in `ends`. -/
def quotesBefore (quote : CodePoint) (written ends : Text) : Nat :=
  ((((written.take 2) ++ ends).take 2).takeWhile (· == quote)).length

/-- What stands in front of `count` characters. -/
def before (count : Nat) (written ends : Text) : Text :=
  match written.drop count with
  | [] => ends.drop (count - written.length)
  | back => back

/-- A quote outside keys and comments. The third of three opens or closes a long string, any other
one opens or closes a string; a double quote behind a backslash does neither. -/
def quoteStep (s : Scan) (written ends : Text) (c : CodePoint) : Scan :=
  let count := quotesBefore c written ends
  if c = '"' ∧ count ≠ 1 ∧ oddBackslashes (before count written ends) then s
  else if count = 2 then { s with long := !s.long, quote := if s.long then none else some c }
  else { s with quote := if s.quote.isSome then none else some c }

/-- A quote or a bracket outside keys and comments. -/
def nesting (s : Scan) (written ends : Text) (c : CodePoint) (next : Option CodePoint) : Scan :=
  if isQuote c then
    if s.quote.all (· == c) then s.quoteStep written ends c else s
  else if s.quote.isSome then s
  else if c = '[' ∧ s.header = .none then
    if s.lineStart then { s with header := if next = some (.char '[') then .tableArray else .table }
    else { s with openArrays := s.openArrays + 1 }
  else if c = ']' then
    match s.header with
    | .table => { s with header := .none }
    | .tableArray => if written.head? = some (.char ']') then { s with header := .none } else s
    | .none => { s with openArrays := s.openArrays - 1 }
  else s

/-! ## Lines -/

/-- What is written with a line feed of a long string behind it. -/
def feedLong : Text → Text
  | a :: b :: more =>
    if isQuote a ∧ b = a then
      match more with
      | d :: rest => a :: a :: b :: (if d = a then ' ' else d) :: rest
      | [] => [a, a, b]
    else .char '\n' :: a :: b :: more
  | written => .char '\n' :: written

/-- What is known behind a line feed outside keys, and what is written up to there. -/
def feedStep (s : Scan) (written : Text) : Except Fault (Scan × Text) :=
  let s := { s with comment := false }
  if s.long then .ok (s, feedLong written)
  else if s.quote.isSome then .error .malformed
  else if s.openArrays ≠ 0 then .ok (s, .char ' ' :: written)
  else .ok ({ s with lineStart := true }, .char '\n' :: written)

/-- What is known behind a character, and what is written up to there. -/
def step (s : Scan) (written ends : Text) (c : CodePoint) (next : Option CodePoint) :
    Except Fault (Scan × Text) :=
  if s.key ≠ .outside then (s.keyStep written c next).map fun s => (s, c :: written)
  else if c = '\n' then s.feedStep written
  else if s.comment then .ok (s, .char ' ' :: written)
  else if c = '#' ∧ s.quote = none ∧ s.header = .none then
    .ok ({ s with comment := true }, .char ' ' :: written)
  else ((s.nesting written ends c next).begin c).map fun s => (s, c :: written)

end Scan

/-- A settings file without comments, and with every array on one line. -/
def scan (s : Scan) (written ends : Text) : Text → Except Fault Text
  | [] => if s.key ≠ .outside ∨ s.quote.isSome then .error .malformed else .ok written.reverse
  | c :: r => do
    let (s, written) ← s.step written ends c r.head?
    scan s written ends r

/-- The lines of a settings file. -/
def lines (t : Text) : Except Fault (List Text) := do
  return Text.splitOn '\n' (← scan .start [] t.reverse t)

end Placement.Toml
