import Placement.Toml.Entry
import Placement.Toml.Layout

/-!
# Placement.Toml.Reader — reading settings files

A settings file is read line by line into a record. A header line opens a table
at a dotted path, or adds a table to an array of tables, and the lines behind it
set fields there. Setting a field or opening a table twice is refused, and the
elements of an array must be of one kind.

Dates and times are not part of the format that is read.
-/

namespace Placement.Toml

/-! ## Places -/

/-- A step into a value. -/
inductive Step where
  | field (name : Text)
  | last
deriving DecidableEq, Repr

/-- The value that some steps lead to; the last element of a text is its last character. -/
def valueAt : List Step → Value → Option Value
  | [], v => some v
  | .field name :: steps, .record fields => (Fields.get? name fields).bind (valueAt steps)
  | .last :: steps, .list items => items.getLast?.bind (valueAt steps)
  | .last :: steps, .text t => t.getLast?.bind fun c => valueAt steps (.text [c])
  | _ :: _, _ => none

/-- A value changed where some steps lead to. -/
def changeAt (change : Value → Except Fault Value) : List Step → Value → Except Fault Value
  | [], v => change v
  | .field name :: steps, .record fields =>
    match Fields.get? name fields with
    | some v => do return .record (Fields.put name (← changeAt change steps v) fields)
    | none => .error .malformed
  | .last :: steps, .list items =>
    match items.getLast? with
    | some v => do return .list (items.dropLast ++ [← changeAt change steps v])
    | none => .error .malformed
  | _ :: _, _ => .error .malformed

/-- The last element of a value. -/
def lastOf : Value → Except Fault Value
  | .list items => match items.getLast? with
    | some v => .ok v
    | none => .error .cutShort
  | .text t => match t.getLast? with
    | some c => .ok (.text [c])
    | none => .error .cutShort
  | _ => .error .notATable

/-! ## Headers -/

/-- A file that is read up to some line. -/
structure Progress where
  root : Value
  /-- Where the table is that the lines set fields in. -/
  place : List Step
  /-- The names of tables that a longer path has made. -/
  implied : List Text
  /-- A value that is not complete. -/
  long : Option LongValue

/-- Nothing is read. -/
def Progress.start : Progress := ⟨.record [], [], [], none⟩

/-- What a name is opened with, if it is new. -/
def fresh (isArray isLast : Bool) : Value :=
  if isArray && isLast then .list [.record []] else .record []

/-- The file with a value put under a name of the table at a place. -/
def Progress.put (p : Progress) (place : List Step) (name : Text) (v : Value) :
    Except Fault Progress := do
  let root ← changeAt
    (fun
      | .record fields => .ok (.record (Fields.put name v fields))
      | _ => .error .malformed)
    place p.root
  return { p with root }

/-- Opens a name that the table at hand has already. -/
def openAgain (isArray isLast : Bool) (p : Progress) (name : Text) (v : Value) :
    Except Fault Progress :=
  if !isLast then .ok p
  else if p.implied.contains name then
    if isArray then .error .malformed else .ok { p with implied := p.implied.erase name }
  else if isArray then
    match v with
    | .list items => p.put p.place name (.list (items ++ [.record []]))
    | _ => .error .notAList
  else .error .malformed

/-- Opens a name inside the table at hand, or inside the last element of what is there instead. -/
def openName (isArray isLast : Bool) (p : Progress) (name : Text) : Except Fault Progress :=
  match valueAt p.place p.root with
  | some (.record fields) => do
    let p ← match Fields.get? name fields with
      | some v => openAgain isArray isLast p name v
      | none =>
        let implied := if isLast then p.implied else name :: p.implied
        { p with implied }.put p.place name (fresh isArray isLast)
    return { p with place := p.place ++ [.field name] }
  | some v => do
    match ← lastOf v with
    | .record fields =>
      let place := p.place ++ [.last]
      let p ← if (Fields.get? name fields).isSome then pure p
        else p.put place name (fresh isArray isLast)
      return { p with place := place ++ [.field name] }
    | _ => .error .notATable
  | none => .error .malformed

/-- Goes on to the last element, unless a table is at hand. -/
def enterLast (p : Progress) : Except Fault Progress :=
  match valueAt p.place p.root with
  | some (.record _) => .ok p
  | some v => do
    let _ ← lastOf v
    return { p with place := p.place ++ [.last] }
  | none => .error .malformed

/-- Opens the table at a path behind the one at hand. -/
def openNames (isArray : Bool) (p : Progress) : List Text → Except Fault Progress
  | [] => .ok p
  | name :: more => do
    if name.isEmpty then .error .malformed
    else
      let p ← openName isArray more.isEmpty p name
      openNames isArray (← if isArray then enterLast p else pure p) more

/-- A header line behind its opening brackets. -/
def readHeader (isArray : Bool) (p : Progress) (t : Text) : Except Fault Progress := do
  let names ← headerNames (if isArray then [.char ']', .char ']'] else [.char ']']) t
  openNames isArray { p with place := [] } names

/-! ## Lines -/

/-- A line that sets a field of the table at hand. -/
def readField (p : Progress) (line : Text) : Except Fault Progress :=
  match valueAt p.place p.root with
  | some (.record fields) => do
    let (fields, long) ← setField (line.length + 2) line fields
    let root ← changeAt (fun _ => .ok (.record fields)) p.place p.root
    return { p with root, long }
  | _ => do
    let key ← readKey (← cutEntry line).key
    if key.way.isEmpty then
      let _ ← setField (line.length + 2) line []
      .error .malformed
    else .error .notATable

/-- A line that is an inline table, the fields of which are set in the table at hand. -/
def readInline (p : Progress) (line : Text) : Except Fault Progress := do
  let root ← changeAt
    (fun
      | .record fields => (setInline (line.length + 2) line fields).map .record
      | _ => .error .malformed)
    p.place p.root
  return { p with root }

/-- Whether a line ends a long value. -/
def endsLong (written line : Text) : Except Fault Bool :=
  if written.head? = some (.char '[') then
    match line.getLast? with
    | some c => .ok (c == ']')
    | none => .error .cutShort
  else .ok (2 < line.length && (line.reverse.take 3).all (some · == written.head?))

/-- A line of a long value. -/
def readLong (p : Progress) (long : LongValue) (line : Text) : Except Fault Progress :=
  let line := if long.joined || !long.written.any (· == '\n') then Text.trim line else line
  if line.isEmpty && long.joined then .ok p
  else do
    let written := long.written ++ line
    if ← endsLong written line then
      let v ← readValue (written.length + 1) true written
      { p with long := none }.put p.place long.name v
    else return { p with long := some (.ofWritten long.name written) }

/-- A line. -/
def readLine (p : Progress) (line : Text) : Except Fault Progress :=
  match p.long with
  | some long => readLong p long line
  | none =>
    match Text.trim line with
    | [] => .ok p
    | ['['] => .error .malformed
    | '[' :: '[' :: t => readHeader true p t
    | '[' :: t => readHeader false p t
    | '{' :: t => readInline p (.char '{' :: t)
    | line => if line.any (· == '=') then readField p line else .ok p

/-- The record that a settings file writes. -/
def read (t : Text) : Except Fault Fields := do
  let p ← (← lines t).foldlM readLine .start
  match p.root with
  | .record fields => return fields
  | _ => .error .malformed

end Placement.Toml
