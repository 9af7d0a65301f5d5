import Placement.Text.Blank
import Placement.Value

/-!
# Placement.Toml.Basic — libraries for settings files, quotes and backslashes

Settings files are read and written by a `Library`, which may fail with a `Fault`.
The reader and the writer of this directory make up one of them. What these two
have in common is how quotes and backslashes are told apart from what they
protect.
-/

namespace Placement.Toml

/-- Why a settings file cannot be read or written. -/
inductive Fault where
  /-- The file breaks a rule of its format, and the library says so. -/
  | malformed
  /-- A name goes on inside a value that has no fields. -/
  | notATable
  /-- An element is added to a value that is no list. -/
  | notAList
  /-- Something ends where more is needed: the file, a name, a list, an escape. -/
  | cutShort
  /-- An escape has a number far beyond the code points. -/
  | tooLarge
  /-- A value that goes on over several lines has no name. -/
  | nameless
  /-- An integer has too many digits to be written. -/
  | longInteger
  /-- The library fails in a way of its own. -/
  | other (cause : Text)
deriving DecidableEq, Repr

/-- A library for the texts of settings files. -/
structure Library where
  /-- The record that a text writes. -/
  read : Text → Except Fault Fields
  /-- The text of a record. -/
  write : Fields → Except Fault Text

/-- Whether a character is a quote. -/
def isQuote (c : CodePoint) : Bool := c == '"' || c == '\x27'

/-- Whether an odd number of backslashes stands at the head of a text. -/
def oddBackslashes (t : Text) : Bool := (t.takeWhile (· == .char '\\')).length % 2 == 1

/-- Whether a text ends in an odd number of backslashes. -/
def endsInBackslash (t : Text) : Bool := oddBackslashes t.reverse

/-- A text without its first and its last character. -/
def inner (t : Text) : Text := (t.drop 1).dropLast

/-- The pieces of a text between the places where a backslash has a letter behind it. -/
def cutEscapes (letter : CodePoint) : Text → List Text
  | [] => [[]]
  | [c] => [[c]]
  | c :: d :: r =>
    if c = '\\' ∧ d = letter then [] :: cutEscapes letter r
    else match cutEscapes letter (d :: r) with
      | [] => [[c]]
      | p :: ps => (c :: p) :: ps

end Placement.Toml
