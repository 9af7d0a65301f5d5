import Placement.Text.Word
import Placement.Toml.Quoted
import Placement.Toml.Stretch

/-!
# Placement.Toml.Name — the names in keys and headers

A key names a field, maybe inside other tables: then dots stand between the names
on the way. A key with quotes is cut at the dots outside them only, and its plain
names are trimmed; the names of a key without quotes keep their blanks, up to the
last one. The header of a table is a list of names with dots between them too,
but each is trimmed, and one without quotes must be a bare name.
-/

namespace Placement.Toml

/-- A name that needs no quotes. -/
def isBareName (t : Text) : Bool := !t.isEmpty && t.all fun c => Text.isIdent c || c == '-'

/-! ## Keys -/

/-- The field that a key names: the tables on the way to it, and its own name. -/
structure Key where
  way : List Text
  name : Text
deriving DecidableEq, Repr

/-- The names in the stretches of a key: a quoted stretch is one name, a plain one is cut at its
dots. -/
def namesIn (quoted : Bool) : List Text → List Text
  | [] => []
  | part :: parts =>
    (if quoted then [part] else (Text.splitOn '.' part).map Text.trim) ++ namesIn (!quoted) parts

/-- The names in a dotted key. -/
def dottedNames (key : Text) : List Text :=
  if key.any isQuote then namesIn false (stretches key) else Text.splitOn '.' key

/-- The field that a key names. -/
def readKey (key : Text) : Except Fault Key :=
  if key.any (· == '.') then
    match (dottedNames key).reverse.dropWhile List.isEmpty with
    | [] => .error .cutShort
    | last :: before => .ok ⟨before.reverse.filter (!·.isEmpty), Text.trim last⟩
  else if key.isEmpty then .error .cutShort
  else if key.head?.any isQuote && key.head? == key.getLast? then
    (unescape (inner key)).map fun name => ⟨[], name⟩
  else .ok ⟨[], key⟩

/-! ## Headers -/

/-- A quoted name, joined from parts that were cut at dots, and the parts behind it. -/
def closeName? (front : Text) : List Text → Option (Text × List Text)
  | [] =>
    let t := Text.trim front
    if t.head? = t.getLast? ∧ 1 < t.length then some (inner t, []) else none
  | part :: parts =>
    let t := Text.trim front
    if t.head? = t.getLast? ∧ 1 < t.length then some (inner t, part :: parts)
    else closeName? (front ++ .char '.' :: part) parts

/-- Joining takes no parts that are not there. -/
theorem length_of_closeName? {front name : Text} {parts rest : List Text}
    (h : closeName? front parts = some (name, rest)) : rest.length ≤ parts.length := by
  induction parts generalizing front with
  | nil =>
    simp only [closeName?] at h
    split at h <;> simp_all
  | cons part parts ih =>
    simp only [closeName?] at h
    split at h
    · simp only [Option.some.injEq, Prod.mk.injEq] at h
      simp [← h.2]
    · exact Nat.le_succ_of_le (ih h)

/-- The names in the parts of a header, which was cut at its dots. -/
def joinNames (parts : List Text) : Except Fault (List Text) :=
  match parts with
  | [] => .ok []
  | part :: parts =>
    let t := Text.trim part
    if t.head?.any isQuote then
      match h : closeName? t parts with
      | some (name, rest) =>
        have : rest.length < parts.length + 1 := Nat.lt_succ_of_le (length_of_closeName? h)
        do return name :: (← joinNames rest)
      | none => .error .malformed
    else if isBareName t then do return t :: (← joinNames parts)
    else .error .malformed
termination_by parts.length

/-- The names in the header of a table. `mark` closes the header, and nothing stands behind it. -/
def headerNames (mark : Text) (line : Text) : Except Fault (List Text) :=
  match cutNth? mark (markNumber mark false (stretches line)) line with
  | some (names, rest) =>
    if Text.allBlank rest then joinNames (Text.splitOn '.' names) else .error .malformed
  | none => .error .malformed

end Placement.Toml
