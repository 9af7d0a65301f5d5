import Placement.Text.Digit
import Placement.Text.Word

/-!
# Placement.Command.WholeNumber — whole numbers on a command line

A whole number is written in ASCII digits without zeros in front, and a minus
sign below zero. A text that is not written so is tidied once, and may be a whole
number then: blanks around it, a plus sign, zeros in front, zeros behind a point
and underscores between digits are dropped, in this order.
-/

namespace Placement.Command

/-- ASCII digits without zeros in front, as many as an integer may have. -/
def readPlain? (t : Text) : Option Nat :=
  match t with
  | ['0'] => some 0
  | '0' :: _ => none
  | t => if t.all Text.isAsciiDigit then (Text.readDigits t).toOption else none

/-- A number that is written in the one plain form. -/
def readExact? (t : Text) : Option Int :=
  match t with
  | '-' :: r => (readPlain? r).map fun n => -(n : Int)
  | t => (readPlain? t).map fun n => (n : Int)

/-- What is left of a number behind a zero in front of it; `before` is the character before. -/
def dropZeros? (before : CodePoint) : Text → Option Text
  | [] => some [before]
  | c :: r =>
    if c = '0' ∨ c = '_' then dropZeros? c r
    else if c = '.' then some (before :: c :: r)
    else if Text.isAsciiDigit c then some (c :: r)
    else none

/-- A number without zeros in front. -/
def dropLeading? (t : Text) : Option Text :=
  match t with
  | '0' :: r => dropZeros? '0' r
  | c :: r => if c = '-' ∨ Text.isAsciiDigit c then some (c :: r) else none
  | [] => none

/-- A number without a point that has nothing but zeros behind it. -/
def dropPlaces (t : Text) : Text :=
  match Text.cut? [.char '.'] t with
  | some (whole, places) => if places.all (· == '0') then whole else t
  | none => t

/-- A number without its underscores, unless one stands at an end or two stand together. -/
def dropSeparators (t : Text) : Text :=
  if t.head? = some (.char '_') ∨ t.getLast? = some (.char '_') ∨
      Text.contains [.char '_', .char '_'] t then t
  else t.filter (· != .char '_')

/-- A number without a plus sign, which no minus sign may follow. -/
def dropPlus? (t : Text) : Option Text :=
  match t with
  | '+' :: '-' :: _ => none
  | '+' :: r => some r
  | t => some t

/-- A number in a tidy form. -/
def tidy? (t : Text) : Option Text := do
  let t ← dropLeading? (← dropPlus? (Text.trimNumber t))
  return dropSeparators (dropPlaces t)

/-- The whole number that a text writes. -/
def readWholeNumber? (t : Text) : Option Int := (readExact? t).or ((tidy? t).bind readExact?)

end Placement.Command
