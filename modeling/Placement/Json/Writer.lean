import Placement.Text.CodePoint
import Placement.Value

/-!
# Placement.Json.Writer — JSON texts of values

Two spaces of indentation for each level, one element or field to a line, and
`[]` and `{}` for what is empty. Only printable ASCII is written as it is;
every other character is escaped, by a letter where JSON has one and otherwise
by its UTF-16 units. A date is written as a string; no JSON text that was read
holds one.
-/

namespace Placement.Json

/-- A UTF-16 unit as an escape. -/
def escapeUnit (unit : Nat) : Text := .char '\\' :: .char 'u' :: Text.ofHex 4 unit

/-- A character as it stands inside a JSON string. -/
def escapeChar (c : CodePoint) : Text :=
  if c = '"' ∨ c = '\\' then [.char '\\', c]
  else if c = '\n' then [.char '\\', .char 'n']
  else if c = '\r' then [.char '\\', .char 'r']
  else if c = '\t' then [.char '\\', .char 't']
  else if c = '\x08' then [.char '\\', .char 'b']
  else if c = '\x0c' then [.char '\\', .char 'f']
  else if 0x20 ≤ c.toNat ∧ c.toNat ≤ 0x7E then [c]
  else
    if c.toNat < 0x10000 then escapeUnit c.toNat
    else
      let offset := c.toNat - 0x10000
      escapeUnit (0xD800 + offset / 0x400) ++ escapeUnit (0xDC00 + offset % 0x400)

/-- A JSON string. -/
def quoted (t : Text) : Text := .char '"' :: t.flatMap escapeChar ++ [.char '"']

/-- A new line at a level of indentation. -/
def newline (level : Nat) : Text := .char '\n' :: List.replicate (2 * level) (.char ' ')

mutual

/-- A value, whose elements or fields stand one level deeper than `level`. -/
def writeAt (level : Nat) : Value → Text
  | .null => "null".text
  | .bool b => if b then "true".text else "false".text
  | .int n => Text.ofInt n
  | .double x => Double.shortest "NaN".text "Infinity".text x
  | .text t => quoted t
  | .moment m => quoted m.written
  | .list [] => [.char '[', .char ']']
  | .list items => .char '[' :: writeItems (level + 1) items ++ newline level ++ [.char ']']
  | .record [] => [.char '{', .char '}']
  | .record fields => .char '{' :: writeFields (level + 1) fields ++ newline level ++ [.char '}']

/-- The elements of a list, each on a line of its own. -/
def writeItems (level : Nat) : List Value → Text
  | [] => []
  | [v] => newline level ++ writeAt level v
  | v :: vs => newline level ++ writeAt level v ++ .char ',' :: writeItems level vs

/-- The fields of a record, each on a line of its own. -/
def writeFields (level : Nat) : List (Text × Value) → Text
  | [] => []
  | [(n, v)] => newline level ++ quoted n ++ .char ':' :: .char ' ' :: writeAt level v
  | (n, v) :: r =>
    newline level ++ quoted n ++ .char ':' :: .char ' ' :: writeAt level v ++
      .char ',' :: writeFields level r

end

/-- The JSON text of a value. -/
def write (v : Value) : Text := writeAt 0 v

end Placement.Json
