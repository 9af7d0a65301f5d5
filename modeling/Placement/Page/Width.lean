import Placement.Page.WidthTable
import Placement.Text.Blank
import Placement.Text.Word

/-!
# Placement.Page.Width — how wide texts are, and lines that fit

A text is as wide as its characters together: most take one column, some two and
some none. A column of a table is as wide as its widest cell, where a tab counts
as nothing. A line in which tabs are written out can be too wide for its column:
then it is cut in front of words, and a word that alone is too wide is cropped.

* `width`, `measure` — how wide a text is, and its widest line;
* `wrap` — the lines that a line of text takes in a column.
-/

namespace Placement.Page

/-! ## Widths -/

/-- The columns that a character takes. -/
def charWidth (c : CodePoint) : Nat :=
  let n := c.toNat
  if n < 0x7F then if n < 0x20 then 0 else 1
  else if n = 0x7F || Text.inRanges columnlessBasic n ||
      Text.inRanges columnlessSupplementary n then 0
  else if Text.inRanges doubleWide n then 2
  else 1

/-- The columns that a text takes on one line. -/
def width (t : Text) : Nat := t.foldl (fun columns c => columns + charWidth c) 0

/-- Whether a character separates lines where widths are measured. -/
def separatesLines (c : CodePoint) : Bool :=
  c == '\n' || (0x1C ≤ c.toNat && c.toNat ≤ 0x1E) || c.toNat == 0x85 || c.toNat == 0x2028 ||
    c.toNat == 0x2029

/-- The width of the widest line of a text, with `column` columns in front of the text. -/
def measureFrom (column : Nat) : Text → Nat
  | [] => column
  | c :: r =>
    if separatesLines c then max column (measureFrom 0 r) else measureFrom (column + charWidth c) r

/-- The width of the widest line of a text. -/
def measure (t : Text) : Nat := measureFrom 0 t

/-- A text behind `column` columns, with spaces for its tabs up to the next multiple of eight. -/
def expandTabs (column : Nat) : Text → Text
  | [] => []
  | c :: r =>
    if c = '\t' then
      let gap := 8 - column % 8
      List.replicate gap (.char ' ') ++ expandTabs (column + gap) r
    else c :: expandTabs (column + charWidth c) r

/-! ## Lines that fit -/

/-- A line cut between blanks and what stands behind them. -/
def cutBehindBlanks : Text → List Text
  | [] => []
  | c :: r =>
    if Text.isBlank c && r.head?.any (!Text.isBlank ·) then [c] :: cutBehindBlanks r
    else match cutBehindBlanks r with
      | [] => [[c]]
      | p :: ps => (c :: p) :: ps

/-- The words of a line with the blanks behind each; blanks at the head belong to the first one. -/
def spacedWords (line : Text) : List Text :=
  match cutBehindBlanks line with
  | p :: q :: ps => if Text.allBlank p then (p ++ q) :: ps else p :: q :: ps
  | ps => ps

/-- Words put on lines, the first of which is begun: a word that does not fit, even without the
blanks behind it, begins a line. -/
def fill (room : Nat) (line : Text) : List Text → List Text
  | [] => [line]
  | word :: words =>
    if line.isEmpty || width line + width (Text.trimRight word) ≤ room then
      fill room (line ++ word) words
    else line :: fill room word words

/-- The head of a text that takes `room` columns, searched by halving between two lengths, so that
the first head found is taken; half a character is left blank. -/
def cropBetween (room : Nat) (t : Text) : Nat → Nat → Nat → Text
  | 0, low, _ => t.take (low + 1)
  | fuel + 1, low, high =>
    let middle := (low + high) / 2
    let head := t.take (middle + 1)
    if width head = room + 1 ∧ head.getLast?.any (charWidth · == 2) then
      head.dropLast ++ [.char ' ']
    else if width head = room then head
    else if room < width head then cropBetween room t fuel low middle
    else cropBetween room t fuel middle high

/-- The head of a text that is too wide for `room` columns. -/
def crop (room : Nat) (t : Text) : Text :=
  if room = 0 then [] else cropBetween room t t.length 0 t.length

/-- A line without as many of the blanks at its end as it has characters beyond the room. -/
def dropExcess (room : Nat) (line : Text) : Text :=
  let blanks := line.length - (Text.trimRight line).length
  line.take (line.length - min blanks (line.length - room))

/-- A line as it is shown where there is room for so many columns; one that is cropped ends in an
ellipsis. -/
def fit (room : Nat) (line : Text) : Text :=
  let line := dropExcess room line
  Text.trim (if width line ≤ room then line else crop (room - 1) line ++ [.char '…'])

/-- The lines that a line takes where there is room for so many columns. -/
def wrap (room : Nat) (line : Text) : List Text :=
  (fill room [] (spacedWords (expandTabs 0 line))).map (fit room)

end Placement.Page
