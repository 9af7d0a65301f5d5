import Placement.Toml.Basic

/-!
# Placement.Toml.Stretch — marks outside quotes

Where a line is cut depends on which of its stretches stand in quotes. Stretches
alternate: the first is plain, the next one quoted, and so on. Single quotes are
told from double ones only up to the first double quote that is not inside them;
behind it every double quote ends a stretch and a single one none.

* `stretches` — the stretches of a line;
* `markNumber` — the number of the first mark in a plain stretch;
* `cutNth?`, `cutUpTo` — a line cut at a mark with a number.
-/

namespace Placement.Toml

/-! ## Stretches -/

/-- Single-quoted stretches, with the double quotes that stand inside them. -/
def closeSingles (singles : List Text) : List Text → List Text × List Text
  | [] => (singles, [])
  | part :: parts =>
    if singles.length % 2 = 0 then
      let last := singles.getLast?.getD [] ++ .char '"' :: part
      closeSingles (singles.dropLast ++ Text.splitOn '\x27' last) parts
    else (singles, part :: parts)

/-- Stretches between double quotes; single quotes count in the first one only. -/
def cutSingles : List Text → List Text
  | [] => []
  | part :: parts => Text.splitOn '\x27' part ++ parts

/-- The stretches of a line. -/
def stretches (line : Text) : List Text :=
  match Text.splitOn '"' line with
  | first :: second :: more =>
    if first.any (· == '\x27') then
      let (singles, parts) := closeSingles (Text.splitOn '\x27' first) (second :: more)
      singles ++ cutSingles parts
    else cutSingles (first :: second :: more)
  | parts => cutSingles parts

/-! ## Marks -/

/-- The number of marks in a text. -/
def countMarks (mark : Text) : Nat → Text → Nat
  | 0, _ => 0
  | fuel + 1, t =>
    match Text.cut? mark t with
    | some (_, rest) => countMarks mark fuel rest + 1
    | none => 0

/-- The number of the first mark in a plain stretch, counted from one. Without such a mark it is
greater than the number of marks. -/
def markNumber (mark : Text) (quoted : Bool) : List Text → Nat
  | [] => 1
  | part :: parts =>
    if !quoted && Text.contains mark part then 1
    else countMarks mark part.length part + markNumber mark (!quoted) parts

/-- What stands before and behind the mark with a number, counted from one. -/
def cutNth? (mark : Text) : Nat → Text → Option (Text × Text)
  | 0, _ => none
  | 1, t => Text.cut? mark t
  | n + 2, t => do
    let (front, rest) ← Text.cut? mark t
    let (more, rest) ← cutNth? mark (n + 1) rest
    return (front ++ mark ++ more, rest)

/-- What stands before and behind the mark with a number, or the last one if there are fewer. A text
without marks has nothing before it. -/
def cutUpTo (mark : Text) : Nat → Text → Text × Text
  | 0, t => ([], t)
  | n + 1, t =>
    match Text.cut? mark t with
    | none => ([], t)
    | some (front, rest) =>
      if n = 0 ∨ !Text.contains mark rest then (front, rest)
      else
        let (more, rest) := cutUpTo mark n rest
        (front ++ mark ++ more, rest)

end Placement.Toml
