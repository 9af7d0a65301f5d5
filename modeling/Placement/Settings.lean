import Placement.Operators
import Placement.Session
import Placement.Toml.Basic

/-!
# Placement.Settings — the settings file

The settings of the analysis stand in the table `analysis` of a file, and the
operator lists in the table `operators`. What is missing has its standard value,
and so has what is of the wrong kind, with a notice. A file that cannot be opened,
or that breaks the rules of its format, counts as an empty one, with a notice too.
Saving a setting reads the file, changes one field and writes the whole file again.

A value that stands where a table must stand is a failure of its own. So are bytes
that are no text, and whatever else the library of settings files fails with.
-/

namespace Placement

/-- What is found at the path of the settings file. -/
inductive FileContent where
  | missing
  | directory
  | text (t : Text)
  /-- Bytes that are not the UTF-8 form of a text. -/
  | bytes (bs : List UInt8)
deriving DecidableEq, Repr

/-- The settings file, and what the program may do with it. -/
structure SettingsFile where
  path : Text
  content : FileContent
  /-- Whether it may be opened for reading. -/
  mayRead : Bool
  /-- Whether it may be opened for writing, or made when it is missing. -/
  mayWrite : Bool
deriving DecidableEq, Repr

namespace Settings

/-! ## Names and failures -/

/-- The settings of the analysis. -/
inductive Name where
  | enabled
  | queryTimeout
  | maxFileLines
  | cacheSize
deriving DecidableEq, Repr

/-- What a setting is called. -/
def Name.key : Name → Text
  | .enabled => "enabled".text
  | .queryTimeout => "query_timeout_ms".text
  | .maxFileLines => "max_file_lines".text
  | .cacheSize => "cache_size".text

/-- All settings, in the order in which they are shown. -/
def Name.all : List Name := [.enabled, .queryTimeout, .maxFileLines, .cacheSize]

/-- The setting with a name. -/
def Name.ofKey? (t : Text) : Option Name := Name.all.find? fun n => n.key == t

/-- Why settings cannot be used. -/
inductive Fault where
  /-- There is no such setting. -/
  | unknownKey (key : Text)
  /-- The analysis settings are no table. -/
  | analysisNoTable
  /-- The operator lists are no table. -/
  | operatorsNoTable
  /-- The bytes of the file are no text. -/
  | notText
  /-- The library fails, but not because the file breaks a rule of its format. -/
  | file (fault : Toml.Fault)
  | notBoolean (raw : Text)
  | notInteger (raw : Text)
  /-- An integer has too many digits. -/
  | longInteger (digits : Nat)
deriving DecidableEq, Repr

/-- The wording of a failure; the number text in it is shown up to two hundred characters. -/
def Fault.message : Fault → Text
  | .unknownKey key => key
  | .analysisNoTable => "analysis is not a table".text
  | .operatorsNoTable => "operators is not a table".text
  | .notText => "settings file is no text".text
  | .file .longInteger => WriteFault.longInteger.message
  | .file _ => "settings file cannot be used".text
  | .notBoolean raw => "not a boolean: ".text ++ Text.quoted raw
  | .notInteger raw =>
    "invalid literal for int() with base 10: ".text ++ (Text.quoted raw).take 200
  | .longInteger digits => digitLimitMessage digits

/-! ## Reading -/

/-- A text in which every line end is a line feed. -/
def normalizeLines : Text → Text
  | [] => []
  | '\r' :: '\n' :: r => .char '\n' :: normalizeLines r
  | c :: r => (if c = '\r' then '\n' else c) :: normalizeLines r

/-- What counts as the record of a file that is there and cannot be used. -/
def unreadable (file : SettingsFile) : Logged Fields :=
  .withNotices [.unreadableFile file.path] []

/-- The record that a text writes; a text that breaks the rules of its format counts as empty. -/
def readText (toml : Toml.Library) (file : SettingsFile) (t : Text) :
    Except Fault (Logged Fields) :=
  match toml.read (normalizeLines t) with
  | .ok fields => .ok (pure fields)
  | .error .malformed => .ok (unreadable file)
  | .error fault => .error (.file fault)

/-- The record in the settings file. -/
def load (toml : Toml.Library) (file : SettingsFile) : Except Fault (Logged Fields) :=
  match file.content with
  | .missing => .ok (pure [])
  | .directory => .ok (unreadable file)
  | .text t => if file.mayRead then readText toml file t else .ok (unreadable file)
  | .bytes _ => if file.mayRead then .error .notText else .ok (unreadable file)

/-- The table `analysis`. -/
def analysisKey : Text := "analysis".text

/-- The table `operators`. -/
def operatorsKey : Text := "operators".text

/-- The settings with one of them taken from a value, if that is of the right kind. -/
def assign (s : AnalysisSettings) : Name → Value → Option AnalysisSettings
  | .enabled, .bool b => some { s with enabled := b }
  | .queryTimeout, .int n => some { s with queryTimeout := n }
  | .maxFileLines, .int n => some { s with maxFileLines := n }
  | .cacheSize, .int n => some { s with cacheSize := n }
  | _, _ => none

/-- The settings with one of them taken from a table, if it is there. -/
def assignFrom (fields : Fields) (s : AnalysisSettings) (name : Name) : Logged AnalysisSettings :=
  match Fields.get? name.key fields with
  | none => pure s
  | some v =>
    match assign s name v with
    | some s => pure s
    | none => .withNotices [.ignoredSetting name.key v] s

/-- Whether a value that is no table would be asked for a setting: a text that contains the name
of one, a list that has it as an element, or a value that contains nothing. -/
def asksInside : Value → Bool
  | .text t => Name.all.any fun n => Text.contains n.key t
  | .list items => items.any fun v => match v with
    | .text t => (Name.ofKey? t).isSome
    | _ => false
  | _ => true

/-- The settings in the value of `analysis`. -/
def analysisIn : Option Value → Except Fault (Logged AnalysisSettings)
  | none => .ok (pure .standard)
  | some (.record fields) => .ok (Name.all.foldlM (assignFrom fields) .standard)
  | some v => if asksInside v then .error .analysisNoTable else .ok (pure .standard)

/-- The settings of the analysis. -/
def loadAnalysis (toml : Toml.Library) (file : SettingsFile) :
    Except Fault (Logged AnalysisSettings) := do
  let fields ← load toml file
  let settings ← analysisIn (Fields.get? analysisKey fields.value)
  return .withNotices (fields.notices ++ settings.notices) settings.value

/-- A list without the elements that came before. -/
def dedupe (ts : List Text) : List Text :=
  ts.foldl (fun seen t => if seen.contains t then seen else seen ++ [t]) []

/-- The lists with one of them taken from a table, if it is there. -/
def assignList (fields : Fields) (o : Operators) (c : Operators.Category) : Logged Operators :=
  match Fields.get? c.name fields with
  | none => pure o
  | some (.list items) =>
    match Value.asTexts? items with
    | some names => pure (o.set c (dedupe names))
    | none => .withNotices [.ignoredOperators c.name] o
  | some _ => .withNotices [.ignoredOperators c.name] o

/-- The operator lists in the value of `operators`. -/
def operatorsIn : Option Value → Except Fault (Logged Operators)
  | none => .ok (pure .standard)
  | some (.record fields) =>
    .ok (Operators.Category.all.foldlM (assignList fields) .standard)
  | some _ => .error .operatorsNoTable

/-- The operator lists. -/
def loadOperators (toml : Toml.Library) (file : SettingsFile) :
    Except Fault (Logged Operators) := do
  let fields ← load toml file
  let operators ← operatorsIn (Fields.get? operatorsKey fields.value)
  return .withNotices (fields.notices ++ operators.notices) operators.value

/-! ## Showing -/

/-- The value of a setting. -/
def valueOf (s : AnalysisSettings) : Name → Value
  | .enabled => .bool s.enabled
  | .queryTimeout => .int s.queryTimeout
  | .maxFileLines => .int s.maxFileLines
  | .cacheSize => .int s.cacheSize

/-- The settings as a record. -/
def analysisFields (s : AnalysisSettings) : Fields := Name.all.map fun n => (n.key, valueOf s n)

/-- The operator lists as a record. -/
def operatorFields (o : Operators) : Fields :=
  Operators.Category.all.map fun c => (c.name, .ofTexts (o.get c))

/-- Settings and operator lists as one record. -/
def asRecord (s : AnalysisSettings) (o : Operators) : Value :=
  .record [(analysisKey, .record (analysisFields s)), (operatorsKey, .record (operatorFields o))]

/-! ## Saving -/

/-- A record with one setting of the analysis. -/
def putSetting (key : Text) (value : Value) (fields : Fields) : Except Fault Fields :=
  match Fields.get? analysisKey fields with
  | none => .ok (Fields.put analysisKey (.record [(key, value)]) fields)
  | some (.record table) =>
    .ok (Fields.put analysisKey (.record (Fields.put key value table)) fields)
  | some _ => .error .analysisNoTable

/-- What saving leaves: whether it was done, the notices, and the file. A file is emptied before it
is written. -/
structure Saved where
  result : Except Fault Bool
  notices : List Notice
  file : SettingsFile

/-- Whether a file can be opened for writing. -/
def opensForWriting (file : SettingsFile) : Bool :=
  match file.content with
  | .directory => false
  | _ => file.mayWrite

/-- A file with a record written to it. -/
def store (toml : Toml.Library) (file : SettingsFile) (notices : List Notice) (fields : Fields) :
    Saved :=
  if opensForWriting file then
    match toml.write fields with
    | .ok t => ⟨.ok true, notices, { file with content := .text t }⟩
    | .error fault => ⟨.error (.file fault), notices, { file with content := .text [] }⟩
  else ⟨.ok false, notices ++ [.unwritableFile file.path], file⟩

/-- Saves one setting of the analysis. -/
def save (toml : Toml.Library) (file : SettingsFile) (key : Text) (value : Value) : Saved :=
  if (Name.ofKey? key).isNone then ⟨.error (.unknownKey key), [], file⟩
  else
    match load toml file with
    | .error fault => ⟨.error fault, [], file⟩
    | .ok loaded =>
      match putSetting key value loaded.value with
      | .error fault => ⟨.error fault, loaded.notices, file⟩
      | .ok fields => store toml file loaded.notices fields

/-! ## Values on the command line -/

/-- The words for a truth value. -/
def truthWords : List (Text × Bool) :=
  [("1".text, true), ("true".text, true), ("yes".text, true), ("on".text, true),
   ("0".text, false), ("false".text, false), ("no".text, false), ("off".text, false)]

/-- The value that a text gives a setting. Capitals count as small letters in the words for truth
values, which are written in ASCII. -/
def coerce (key raw : Text) : Except Fault Value :=
  match Name.ofKey? key with
  | none => .error (.unknownKey key)
  | some .enabled =>
    match truthWords.lookup ((Text.trim raw).map Text.toAsciiSmall) with
    | some b => .ok (.bool b)
    | none => .error (.notBoolean raw)
  | some _ =>
    match Text.readInt raw with
    | .ok n => .ok (.int n)
    | .error .malformed => .error (.notInteger raw)
    | .error (.tooLong digits) => .error (.longInteger digits)

end Settings

end Placement
