import Placement.Failure
import Placement.Notice
import Placement.Position
import Placement.Text.Blank
import Placement.Text.Word

/-!
# Placement.Document — versioned source documents

A document is a list of lines. A line may be marked as broken: it exists, but
cannot be read. Characters and lines outside the document are asked for freely;
only reading a line that is not there fails.

* `lineAt`, `getText`, `wordRange?` — reading lines, stretches and identifiers;
* `inBounds`, `isMethodCall`, `isContinuation` — what a position says about the
  place it is at.
-/

namespace Placement

/-- A version of a source document. -/
structure Document where
  uri : Text
  version : Int
  lines : List Text
  /-- The numbers of lines that cannot be read. -/
  broken : List Int
deriving DecidableEq, Repr

namespace Document

/-- The lines of a text, without the carriage returns at their ends. -/
def linesOf (text : Text) : List Text := (Text.splitOn '\n' text).map (Text.chomp '\r')

/-- The document that a text makes up. -/
def ofText (uri text : Text) (version : Int) : Document := ⟨uri, version, linesOf text, []⟩

/-- The next version of a document, with another text. -/
def withText (d : Document) (text : Text) : Document := ofText d.uri text (d.version + 1)

/-- The number of lines. -/
def lineCount (d : Document) : Nat := d.lines.length

/-! ## Reading -/

/-- A line of a document. -/
def lineAt (d : Document) (line : Int) : Except LineFault Text :=
  if line ∈ d.broken then .error (.unavailable line)
  else if line < 0 then .error .outOfRange
  else match d.lines[line.toNat]? with
    | some text => .ok text
    | none => .error .outOfRange

/-- A place in a text of some length; one below zero counts from the end. -/
def place (length : Nat) (i : Int) : Nat :=
  if i < 0 then (length + i).toNat else min i.toNat length

/-- The characters of a text from one place up to another. -/
def slice (t : Text) (start stop : Int) : Text :=
  (t.take (place t.length stop)).drop (place t.length start)

/-- The characters of a text from a place on. -/
def sliceFrom (t : Text) (start : Int) : Text := t.drop (place t.length start)

/-- The characters of a text up to a place. -/
def sliceTo (t : Text) (stop : Int) : Text := t.take (place t.length stop)

/-- `count` lines of a document, from `line` on; the first one that cannot be read ends it. -/
def linesFrom (d : Document) (line : Int) : Nat → Except LineFault (List Text)
  | 0 => .ok []
  | count + 1 => do
    let text ← d.lineAt line
    return text :: (← d.linesFrom (line + 1) count)

/-- The text of a stretch of a document, with line feeds between its lines. -/
def getText (d : Document) (r : Range) : Except LineFault Text := do
  if r.start.line = r.stop.line then
    return slice (← d.lineAt r.start.line) r.start.character r.stop.character
  else
    let first ← d.lineAt r.start.line
    let between ← d.linesFrom (r.start.line + 1) (r.stop.line - r.start.line - 1).toNat
    let last ← d.lineAt r.stop.line
    return [.char '\n'].intercalate
      ([sliceFrom first r.start.character] ++ between ++ [sliceTo last r.stop.character])

/-! ## Identifiers -/

/-- The number of identifier characters at the head of a text. -/
def identLength (t : Text) : Nat := (t.takeWhile Text.isIdent).length

/-- The first and the last place of the identifier around a place of a line. A place below zero
counts from the end and grows to the right only, from the end on to the beginning of the line. -/
def wordBounds (t : Text) (character : Int) : Except LineFault (Int × Int) :=
  if 0 ≤ character then
    let middle := min character.toNat t.length
    .ok (middle - identLength (t.take middle).reverse, middle + identLength (t.drop middle))
  else if (t.length : Int) + character < 0 then .error .outOfRange
  else
    let tail := sliceFrom t character
    let grown := identLength tail
    .ok (character, if grown = tail.length then identLength t else character + grown)

/-- The identifier around a position, if one is there. -/
def wordRange? (d : Document) (p : Position) : Except LineFault (Option Range) :=
  if 0 ≤ p.line ∧ p.line < d.lineCount then do
    let (start, stop) ← wordBounds (← d.lineAt p.line) p.character
    return if start = stop then none else some (.ofLine p.line start stop)
  else return none

/-! ## Positions -/

/-- Whether the character before a position is a dot. -/
def isMethodCall (d : Document) (p : Position) : Except LineFault Bool := do
  let text ← d.lineAt p.line
  return 0 < p.character && p.character ≤ text.length &&
    text[(p.character - 1).toNat]? == some (.char '.')

/-- Whether a line goes on with the chain of the line before: its first character that is no blank
is a dot. -/
def isContinuation (d : Document) (line : Int) : Except LineFault Bool := do
  return (Text.trimLeft (← d.lineAt line)).head? == some (.char '.')

/-- Whether a position lies in a document, the end of a line included; one that does not is
reported. -/
def inBounds (d : Document) (p : Position) : Except LineFault (Logged Bool) :=
  if 0 ≤ p.line ∧ p.line < d.lineCount then do
    let length := (← d.lineAt p.line).length
    if 0 ≤ p.character ∧ p.character ≤ length then return pure true
    else return .withNotices [.characterOutOfBounds p.character length] false
  else return .withNotices [.lineOutOfBounds p.line d.lineCount] false

end Document

end Placement
