import Placement.Page.Markup
import Placement.Page.Width

/-!
# Placement.Page.Basic — what is printed

Plain text is printed without the sequences that colour a terminal. A page is
made of lines of text and of tables. A cell of a table shows what its markup
means; it may take several lines, and then its row takes as many.
-/

namespace Placement.Page

/-! ## Plain text -/

/-- A sequence that colours a terminal or moves its cursor. -/
def terminalSequence : Text.Pattern Text := fun _ t => do
  let r ← Text.after? [.char '\x1b', .char '['] t
  match r.dropWhile fun c => c == .char ';' || c == .char '?' || Text.isAsciiDigit c with
  | c :: rest => if Text.isAsciiSmall c || Text.isAsciiCapital c then some ([], rest) else none
  | [] => none

/-- A text without the sequences that colour a terminal. -/
def printed (t : Text) : Text := terminalSequence.replaceAll t

/-! ## Pages -/

/-- A part of a page: a line of text, or a table, the header of which is its first row. -/
inductive Block where
  | text (t : Text)
  | table (rows : List (List Text))
deriving DecidableEq, Repr

/-- A line of a page: text, or the cells of a table. -/
inductive Line where
  | text (t : Text)
  | row (cells : List Text)
deriving DecidableEq, Repr

/-! ## Tables -/

/-- Whether a character is left out of cells: bell, backspace, vertical tab, form feed and carriage
return. -/
def isDropped (c : CodePoint) : Bool := [0x07, 0x08, 0x0B, 0x0C, 0x0D].contains c.toNat

/-- What a cell shows; nothing when its markup is at fault. -/
def showCell (cell : Text) : Option Text :=
  (showMarkup cell).map fun shown => shown.filter (!isDropped ·)

/-- The widths of the columns of a table. -/
def columnWidths : List (List Text) → List Nat
  | [] => []
  | [row] => row.map measure
  | row :: rows => List.zipWith max (row.map measure) (columnWidths rows)

/-- The lines that a cell takes in a column with a width. -/
def cellLines (room : Nat) (shown : Text) : List Text :=
  (Text.splitOn '\n' shown).flatMap (wrap room)

/-- The lines that a row takes: as many as the cell with the most lines. -/
def rowLines (widths : List Nat) (row : List Text) : List Line :=
  let columns := List.zipWith cellLines widths row
  let height := columns.foldl (fun n column => max n column.length) 0
  (List.range height).map fun k => .row (columns.map fun column => column[k]?.getD [])

/-- The lines of a part of a page; nothing when the markup of a cell is at fault. -/
def Block.lines : Block → Option (List Line)
  | .text t => some [.text t]
  | .table rows => do
    let rows ← rows.mapM (·.mapM showCell)
    return rows.flatMap (rowLines (columnWidths rows))

/-- The lines of a page; nothing when the markup of a cell is at fault. -/
def lines (blocks : List Block) : Option (List Line) := do
  return (← blocks.mapM Block.lines).flatten

end Placement.Page
