import Placement.Text.AlphanumericTable
import Placement.Text.CapitalTable
import Placement.Text.CodePoint

/-!
# Placement.Text.Word — the characters that names are made of

Two kinds of names meet in type texts. An identifier of the analysed language
is written in ASCII (`isIdent`). A word of prose, and so of a hover text, may
hold letters and numerals of any script (`isWord`); a word starts or ends
where a word character and a character of another kind meet.
-/

namespace Placement.Text

/-! ## ASCII -/

/-- A capital letter of ASCII. -/
def isAsciiCapital (c : CodePoint) : Bool := 'A' ≤ c && c ≤ 'Z'

/-- A small letter of ASCII. -/
def isAsciiSmall (c : CodePoint) : Bool := 'a' ≤ c && c ≤ 'z'

/-- A digit of ASCII. -/
def isAsciiDigit (c : CodePoint) : Bool := '0' ≤ c && c ≤ '9'

/-- A character of an ASCII identifier: letter, digit or underscore. -/
def isIdent (c : CodePoint) : Bool :=
  isAsciiCapital c || isAsciiSmall c || isAsciiDigit c || c == '_'

/-- The small form of an ASCII capital; any other character as it is. -/
def toAsciiSmall (c : CodePoint) : CodePoint :=
  if isAsciiCapital c then CodePoint.ofNat (c.toNat + 0x20) else c

/-! ## Any script -/

/-- Whether a code point lies in one of a list of closed intervals. -/
def inRanges (ranges : List (Nat × Nat)) (n : Nat) : Bool :=
  ranges.any fun (first, last) => first ≤ n && n ≤ last

/-- A letter, digit or other numeral of any script. -/
def isAlphanumeric (c : CodePoint) : Bool :=
  isAsciiCapital c || isAsciiSmall c || isAsciiDigit c ||
    (0x80 ≤ c.toNat && (inRanges alphanumericBasic c.toNat ||
      inRanges alphanumericSupplementary c.toNat))

/-- A word character: alphanumeric, or the underscore. -/
def isWord (c : CodePoint) : Bool := isAlphanumeric c || c == '_'

/-- A capital letter of any script. -/
def isCapital (c : CodePoint) : Bool :=
  isAsciiCapital c || (0x80 ≤ c.toNat && capitalStrides.any fun (first, last, distance) =>
    first ≤ c.toNat && c.toNat ≤ last && (c.toNat - first) % distance == 0)

/-- Whether the place between two characters, either of which may be missing, is the
beginning or the end of a word. -/
def isWordEdge (left right : Option CodePoint) : Bool := left.any isWord != right.any isWord

/-- An ASCII identifier character is a word character. -/
theorem isWord_of_isIdent {c : CodePoint} (h : isIdent c = true) : isWord c = true := by
  simp only [isIdent, isWord, isAlphanumeric, Bool.or_eq_true] at h ⊢
  rcases h with ((h | h) | h) | h <;> simp [h]

end Placement.Text
