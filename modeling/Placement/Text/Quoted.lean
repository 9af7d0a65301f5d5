import Placement.Text.Basic
import Placement.Text.UnprintableTable
import Placement.Text.Word

/-!
# Placement.Text.Quoted — texts as messages show them

A quoted text stands between single quotes, or between double quotes when it
holds a single quote and no double one. Backslash and the quote in use are
escaped, line feed, carriage return and tab have letters of their own, and any
other character that does not print is shown by its number in two, four or
eight hexadecimal digits.
-/

namespace Placement.Text

/-- Whether a character shows on a page; of the blanks only the space does. -/
def isPrintable (c : CodePoint) : Bool :=
  0x20 ≤ c.toNat && (c.toNat < 0x7F ||
    !(inRanges unprintableBasic c.toNat || inRanges unprintableSupplementary c.toNat))

/-- The quote that a text is shown in. -/
def quoteFor (t : Text) : CodePoint :=
  if t.any (· == '\x27') && !t.any (· == '"') then '"' else '\x27'

/-- A character as it stands inside a quoted text. -/
def escapeChar (quote c : CodePoint) : Text :=
  if c = quote ∨ c = '\\' then [.char '\\', c]
  else if c = '\n' then [.char '\\', .char 'n']
  else if c = '\r' then [.char '\\', .char 'r']
  else if c = '\t' then [.char '\\', .char 't']
  else if isPrintable c then [c]
  else
    if c.toNat < 0x100 then .char '\\' :: .char 'x' :: ofHex 2 c.toNat
    else if c.toNat < 0x10000 then .char '\\' :: .char 'u' :: ofHex 4 c.toNat
    else .char '\\' :: .char 'U' :: ofHex 8 c.toNat

/-- A text in quotes. -/
def quoted (t : Text) : Text :=
  let quote := quoteFor t
  quote :: t.flatMap (escapeChar quote) ++ [quote]

end Placement.Text
