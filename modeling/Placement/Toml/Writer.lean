import Placement.Text.Quoted
import Placement.Toml.Name
import Placement.Value

/-!
# Placement.Toml.Writer — writing settings files

First come the plain fields of the record, then its tables, each under a header
with its path, level by level. A blank line stands between sections. Fields
without a value are left out.
-/

namespace Placement.Toml

/-! ## Strings -/

/-- A text with every pair of backslashes written as one. -/
def halveSlashes : Text → Text
  | [] => []
  | '\\' :: '\\' :: r => .char '\\' :: halveSlashes r
  | c :: r => c :: halveSlashes r

/-- Whether an escape behind a text loses its backslash; behind a backslash that stands alone it
becomes an escape of four digits instead. -/
def losesSlash (front : Text) : Bool :=
  let slashes := (front.reverse.takeWhile (· == .char '\\')).length
  let counted := if slashes = front.length then slashes - 1 else slashes
  (slashes == 0) != (counted % 2 == 1)

/-- The pieces behind the first one, put behind it again. -/
def joinEscapes : Text → List Text → Text
  | front, [] => front
  | front, part :: parts =>
    let front := halveSlashes front
    let mark : Text := if losesSlash front then [.char 'x'] else [.char 'u', .char '0', .char '0']
    joinEscapes (front ++ mark ++ part) parts

/-- A string in double quotes. A text that begins with an escape of two digits and has no other
cannot be written. -/
def writeString (t : Text) : Except Fault Text :=
  let quote (body : Text) : Text := .char '"' :: body ++ [.char '"']
  match cutEscapes 'x' (t.flatMap (Text.escapeChar '"')) with
  | [] :: first :: second :: more => .ok (quote (joinEscapes first (second :: more)))
  | [[], _] => .error .cutShort
  | first :: more => .ok (quote (joinEscapes first more))
  | [] => .ok (quote [])

/-! ## Values -/

/-- A text without the zero at the head of an exponent. -/
def shortenExponent : Text → Text
  | 'e' :: '+' :: '0' :: r => .char 'e' :: .char '+' :: r
  | 'e' :: '-' :: '0' :: r => .char 'e' :: .char '-' :: r
  | c :: r => c :: shortenExponent r
  | [] => []

/-- Texts in quotes, each behind a space and in front of a comma. -/
def writeStrings : List Text → Except Fault Text
  | [] => .ok []
  | t :: ts => do return .char ' ' :: (← writeString t) ++ .char ',' :: (← writeStrings ts)

mutual

/-- A value on one line; of a table only the names are written. -/
def writeValue : Value → Except Fault Text
  | .null => .ok "\"None\"".text
  | .bool b => .ok (if b then "true".text else "false".text)
  | .int n => if Text.isWritable n then .ok (Text.ofInt n) else .error .longInteger
  | .double x => .ok (shortenExponent (x.shortest "nan".text "inf".text))
  | .text t => writeString t
  | .moment m => .ok m.written
  | .list items => do return .char '[' :: (← writeElements items) ++ [.char ']']
  | .record fields => do return .char '[' :: (← writeStrings (fields.map (·.1))) ++ [.char ']']

/-- The elements of a list, each behind a space and in front of a comma. -/
def writeElements : List Value → Except Fault Text
  | [] => .ok []
  | v :: vs => do return .char ' ' :: (← writeValue v) ++ .char ',' :: (← writeElements vs)

end

/-- A name, in quotes if it needs them; a line feed at its end alone needs none. -/
def writeName (name : Text) : Except Fault Text :=
  if isBareName ((Text.before? [.char '\n'] name).getD name) then .ok name else writeString name

/-! ## Sections -/

/-- Whether a value is an array with a table in it. -/
def hasTables : Value → Bool
  | .list items => items.any fun v => match v with
    | .record _ => true
    | _ => false
  | _ => false

/-- What a table writes: lines, and the tables in it with their names. -/
structure Section where
  lines : Text
  tables : List (Text × Fields)

/-- A path with one more name. -/
def extend (path name : Text) : Text := if path.isEmpty then name else path ++ .char '.' :: name

/-- The header of a table. -/
def tableHeader (path : Text) : Text := .char '[' :: path ++ [.char ']', .char '\n']

/-- The header of an array's table. -/
def arrayHeader (path : Text) : Text :=
  [.char '[', .char '['] ++ path ++ [.char ']', .char ']', .char '\n']

/-- The tables inside an array's table, level by level; those without lines are left out. -/
def innerTables (path : Text) (sectionOf : Text → Fields → Except Fault Section) :
    Nat → List (Text × Fields) → Except Fault Text
  | _, [] => .ok []
  | 0, _ => .error .malformed
  | fuel + 1, level => do
    let sections ← level.mapM fun (name, fields) => do
      return (name, ← sectionOf (extend path name) fields)
    let written := sections.flatMap fun (name, s) =>
      if s.lines.isEmpty then [] else tableHeader (extend path name) ++ s.lines
    let below := sections.flatMap fun (name, s) =>
      s.tables.map fun (inner, fields) => (extend name inner, fields)
    return written ++ (← innerTables path sectionOf fuel below)

/-- The fields of an element of an array with tables: what is empty counts as a table without
fields. -/
def tableFields : Value → Except Fault Fields
  | .record fields => .ok fields
  | .list [] => .ok []
  | .text [] => .ok []
  | _ => .error .notATable

/-- The tables of an array, each under a header of its own. A blank line stands between the lines
of a table and the tables inside it. -/
def arrayTables (path : Text) (sectionOf : Text → Fields → Except Fault Section) (fuel : Nat) :
    List Value → Except Fault Text
  | [] => .ok []
  | v :: more => do
    let s ← sectionOf path (← tableFields v)
    let lines : Text :=
      if s.lines.head? = some (.char '[') then .char '\n' :: s.lines else s.lines ++ [.char '\n']
    return arrayHeader path ++ lines ++ (← innerTables path sectionOf fuel s.tables) ++
      (← arrayTables path sectionOf fuel more)

/-- The section of a table at a path. Plain fields come first, arrays of tables behind them. -/
def sectionOf : Nat → Text → Fields → Except Fault Section
  | 0, _, _ => .error .malformed
  | fuel + 1, path, fields => do
    let parts ← fields.mapM fun (name, v) => do
      let name ← writeName name
      match v with
      | .record inner => return (([], [], [(name, inner)]) : Text × Text × List (Text × Fields))
      | .null => return ([], [], [])
      | .list items =>
        if hasTables v then
          let tables ← arrayTables (extend path name) (sectionOf fuel) fuel items
          return ([], tables, [])
        else return (name ++ " = ".text ++ (← writeValue v) ++ [.char '\n'], [], [])
      | _ => return (name ++ " = ".text ++ (← writeValue v) ++ [.char '\n'], [], [])
    return ⟨parts.flatMap (·.1) ++ parts.flatMap (·.2.1), parts.flatMap (·.2.2)⟩

/-- A text with a section behind it, under its header and apart from what comes before. A section
that holds nothing but tables has no header. -/
def addSection (written : Text) (path : Text) (s : Section) : Text :=
  if s.lines.isEmpty && !s.tables.isEmpty then written
  else
    let gap : Text :=
      if written.isEmpty || Text.endsWith [.char '\n', .char '\n'] written then [] else [.char '\n']
    written ++ gap ++ tableHeader path ++ s.lines

/-- A text with the tables of a level behind it, and then those of the levels below. -/
def writeLevels : Nat → Text → List (Text × Fields) → Except Fault Text
  | _, written, [] => .ok written
  | 0, _, _ => .error .malformed
  | fuel + 1, written, level => do
    let sections ← level.mapM fun (path, fields) => do
      return (path, ← sectionOf (fuel + 1) path fields)
    let written := sections.foldl (fun t (path, s) => addSection t path s) written
    let below := sections.flatMap fun (path, s) =>
      s.tables.map fun (name, fields) => (path ++ .char '.' :: name, fields)
    writeLevels fuel written below

mutual

/-- How deep lists and records are nested in a value. -/
def depth : Value → Nat
  | .list items => depthOfItems items + 1
  | .record fields => depthOfFields fields + 1
  | _ => 0

/-- The greatest depth among some values. -/
def depthOfItems : List Value → Nat
  | [] => 0
  | v :: vs => max (depth v) (depthOfItems vs)

/-- The greatest depth among the values of some fields. -/
def depthOfFields : List (Text × Value) → Nat
  | [] => 0
  | (_, v) :: r => max (depth v) (depthOfFields r)

end

/-- The settings file of a record. -/
def write (root : Fields) : Except Fault Text := do
  let fuel := depthOfFields root + 2
  let s ← sectionOf fuel [] root
  writeLevels fuel s.lines s.tables

end Placement.Toml
