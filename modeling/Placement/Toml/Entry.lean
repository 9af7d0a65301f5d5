import Placement.Toml.Element
import Placement.Toml.Name
import Placement.Toml.Scalar

/-!
# Placement.Toml.Entry — lines that set a field

A line is cut into key and value, the tables on the way to the field are made,
and the value is read. A field is set once only. A value that begins with three
quotes and does not end with them goes on over the following lines, and so does a
list of strings whose last one does.
-/

namespace Placement.Toml

/-! ## Keys and values -/

/-- What a line says: its key, its value, and whether a number is held to the stricter rule. -/
structure Entry where
  key : Text
  value : Text
  strict : Bool
deriving DecidableEq, Repr

/-- Whether a value may begin right behind the equals sign: with a blank, a string, an array, a
table or a truth value. -/
def mayBegin (t : Text) : Bool :=
  t.head?.all (fun c =>
      c == .char ' ' || c == .char '\t' || isQuote c || c == .char '[' || c == .char '{') ||
    Text.trim t == "true".text || Text.trim t == "false".text

/-- A line cut at the equals sign with a number, or at a later one: a value that begins with nothing
known is taken to be part of the key. -/
def cutFrom (line : Text) : Nat → Nat → Text × Text → Bool → Except Fault Entry
  | 0, _, _, _ => .error .malformed
  | fuel + 1, number, (key, value), strict =>
    if mayBegin value || isDouble value then .ok ⟨Text.trim key, Text.trim value, strict⟩
    else
      let next := cutUpTo [.char '='] (number + 1) line
      if next.2 = value then .error .malformed
      else cutFrom line fuel (number + 1) next (strict && isStrict next.2)

/-- A line cut into key and value. -/
def cutEntry (line : Text) : Except Fault Entry :=
  let number := markNumber [.char '='] false (stretches line)
  let (key, value) := cutUpTo [.char '='] number line
  let plain := if value.head?.any Text.isAsciiDigit then dropUnderscores value else value
  cutFrom line (line.length + 1) number (key, plain) (isStrict value)

/-! ## Fields -/

/-- The fields with tables made for the names on a way. -/
def makeWay : List Text → Fields → Except Fault Fields
  | [], fields => .ok fields
  | name :: way, fields =>
    match Fields.get? name fields with
    | none => do return Fields.put name (.record (← makeWay way [])) fields
    | some (.record within) => do
      return Fields.put name (.record (← makeWay way within)) fields
    | some _ => if way.isEmpty then .ok fields else .error .notATable

/-- Whether a field can be set at the end of a way. -/
def isFree (name : Text) : List Text → Fields → Bool
  | [], fields => (Fields.get? name fields).isNone
  | step :: way, fields =>
    match Fields.get? step fields with
    | some (.record within) => isFree name way within
    | _ => false

/-- The fields with one set at the end of a way. -/
def putAlong (name : Text) (value : Value) : List Text → Fields → Fields
  | [], fields => Fields.put name value fields
  | step :: way, fields =>
    match Fields.get? step fields with
    | some (.record within) => Fields.put step (.record (putAlong name value way within)) fields
    | _ => fields

/-! ## Long values -/

/-- A value that goes on over the following lines. -/
structure LongValue where
  /-- The field that the value is for. -/
  name : Text
  /-- What is written of the value so far. -/
  written : Text
  /-- Whether the next line is joined without the blanks around it. -/
  joined : Bool
deriving DecidableEq, Repr

/-- A long value with what is written of it so far; a backslash at the end joins the next line. -/
def LongValue.ofWritten (name written : Text) : LongValue :=
  if endsInBackslash written then ⟨name, written.dropLast, true⟩
  else ⟨name, written ++ [.char '\n'], false⟩

/-- The last of some pieces that begins with a quote; the pieces behind it belong to it. -/
def lastString (piece : Text) : List Text → Except Fault Text
  | [] => .ok piece
  | before :: more =>
    match piece with
    | [] => .error .cutShort
    | c :: _ => if isQuote c then .ok piece else lastString (before ++ .char ',' :: piece) more

/-- The part of a value that tells whether it is long: all of it, or the last string of an open
list. -/
def lastPart (t : Text) : Except Fault Text :=
  if t.head? = some (.char '[') ∧ t.getLast? ≠ some (.char ']') ∧ isStringArray t then
    match (Text.splitOn ',' (Text.trim (t.drop 1))).reverse with
    | last :: before => lastString last before
    | [] => .ok []
  else .ok t

/-- Whether three quotes stand at the beginning of a text. -/
def opensLong : Text → Except Fault Bool
  | [] => .error .cutShort
  | a :: r =>
    if !isQuote a then .ok false
    else match r with
      | [] => .error .cutShort
      | b :: r =>
        if b ≠ a then .ok false
        else match r with
          | [] => .error .cutShort
          | c :: _ => .ok (c == a)

/-- Whether a text ends with three quotes behind three others. -/
def closesLong (t : Text) : Bool :=
  5 < t.length && (t.reverse.take 3).all (some · == t.head?)

/-- Whether a value goes on over the following lines. -/
def isLong (t : Text) : Except Fault Bool :=
  if t.length < 3 then .ok false
  else do
    let part ← lastPart t
    return (← opensLong part) && !closesLong part

/-! ## Values -/

/-- Whether two values may stand in one array. -/
def sameKind : Value → Value → Bool
  | .bool _, .bool _ => true
  | .int _, .int _ => true
  | .double _, .double _ => true
  | .text _, .text _ => true
  | .list _, .list _ => true
  | .record _, .record _ => true
  | _, _ => false

/-- The elements of an array, each read by `read`. An element of another kind is refused before the
elements behind it are read. -/
def readElements (read : Text → Except Fault Value) : Option Value → List Text →
    Except Fault (List Value)
  | _, [] => .ok []
  | first, part :: parts =>
    let t := Text.trim part
    if t.isEmpty then readElements read first parts
    else do
      let v ← read t
      if first.all (sameKind v) then
        return v :: (← readElements read (some (first.getD v)) parts)
      else .error .malformed

/-- The fields of an inline table, each set by `set`; one with a long value ends the table. -/
def setFields (set : Text → Fields → Except Fault (Fields × Option LongValue)) (fields : Fields) :
    List Text → Except Fault Fields
  | [] => .ok fields
  | part :: parts => do
    let (fields, long) ← set part fields
    if long.isSome then return fields else setFields set fields parts

mutual

/-- A value; `fuel` bounds how deep arrays and tables are nested. -/
def readValue : Nat → Bool → Text → Except Fault Value
  | 0, _, _ => .error .malformed
  | fuel + 1, strict, t =>
    match t with
    | [] => .error .malformed
    | c :: _ =>
      if t = "true".text then .ok (.bool true)
      else if t = "false".text then .ok (.bool false)
      else if isQuote c then (readString c t).map .text
      else if c = '[' then do
        return .list (← readElements (readValue fuel true) none (← elementTexts t))
      else if c = '{' then do
        return .record (← setFields (setField fuel) [] (← fieldTexts t))
      else if !strict then .error .malformed
      else match readNumber t with
        | some v => .ok v
        | none => .error .malformed

/-- The fields with the one that a line sets, or the long value that the line begins. -/
def setField : Nat → Text → Fields → Except Fault (Fields × Option LongValue)
  | 0, _, _ => .error .malformed
  | fuel + 1, line, fields => do
    let entry ← cutEntry line
    let key ← readKey entry.key
    let fields ← makeWay key.way fields
    if ← isLong entry.value then
      if !isFree key.name key.way fields then .error .malformed
      else if key.name.isEmpty then .error .nameless
      else return (fields, some (.ofWritten key.name entry.value))
    else
      let v ← readValue fuel entry.strict entry.value
      if isFree key.name key.way fields then
        return (putAlong key.name v key.way fields, none)
      else .error .malformed

end

/-- The fields of a line that is an inline table. -/
def setInline (fuel : Nat) (line : Text) (fields : Fields) : Except Fault Fields :=
  if line.getLast? = some (.char '}') then do setFields (setField fuel) fields (← fieldTexts line)
  else .error .malformed

end Placement.Toml
