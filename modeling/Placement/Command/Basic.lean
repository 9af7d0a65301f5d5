import Placement.Command.Arguments
import Placement.Command.WholeNumber

/-!
# Placement.Command.Basic — the commands of the program

A command line names one command and gives it what it needs. A command line
that names none, or gives too much or too little, is refused as a whole.
-/

namespace Placement

/-- What the program is told to do. -/
inductive Command where
  | version
  | help
  | parseType (typeText : Text) (json : Bool)
  | typeParameters (typeText : Text)
  | createKey (uri : Text) (version : Int) (scope : Text) (activeFile : Option Text)
  | parseKey (key : Text)
  | classify (graph : Text) (output : Option Text)
  | showSettings
  | saveSetting (key value : Text)
deriving DecidableEq, Repr

namespace Command

/-- An option that only says that it was given. -/
def flag (name : String) (short : Option CodePoint) : Switch :=
  ⟨name.text, (.char '-' :: .char '-' :: name.text), short, false⟩

/-- An option with a value. -/
def setting (name : String) (short : Option CodePoint) : Switch :=
  ⟨name.text, (.char '-' :: .char '-' :: name.text), short, true⟩

/-- The option that every command has. -/
def helpFlag : Switch := flag "help" none

/-- Options and exactly `count` arguments, or the command that a question for help is. -/
def withArguments (switches : List Switch) (count : Nat) (args : List Text)
    (make : Arguments → Option Command) : Option Command := do
  let a ← readArguments (helpFlag :: switches) true none args
  if a.has "help".text then return .help
  if a.rest.length = count then make a else none

/-- The command `parse-type`. -/
def readParseType (args : List Text) : Option Command :=
  withArguments [flag "json" none] 1 args fun a =>
    a.rest.head?.map fun t => .parseType t (a.has "json".text)

/-- The command `type-params`. -/
def readTypeParameters (args : List Text) : Option Command :=
  withArguments [] 1 args fun a => a.rest.head?.map .typeParameters

/-- The command `classify`. -/
def readClassify (args : List Text) : Option Command :=
  withArguments [setting "output" (some (.char 'o'))] 1 args fun a =>
    a.rest.head?.map fun graph => .classify graph (a.value? "output".text)

/-- The command `cache-key create`; a version is a whole number that is not negative. -/
def readCreateKey (args : List Text) : Option Command :=
  withArguments
      [setting "scope" (some (.char 's')), setting "path" (some (.char 'p'))] 2 args fun a =>
    match a.rest with
    | [uri, number] => do
      let n ← readWholeNumber? number
      if n < 0 then none
      else
        return .createKey uri n ((a.value? "scope".text).getD "function".text)
          (a.value? "path".text)
    | _ => none

/-- The command `cache-key parse`. -/
def readParseKey (args : List Text) : Option Command :=
  withArguments [] 1 args fun a => a.rest.head?.map .parseKey

/-- The command `config show`. -/
def readShowSettings (args : List Text) : Option Command :=
  withArguments [] 0 args fun _ => some .showSettings

/-- The command `config set`. -/
def readSaveSetting (args : List Text) : Option Command :=
  withArguments [] 2 args fun a =>
    match a.rest with
    | [key, value] => some (.saveSetting key value)
    | _ => none

/-- Whether a word that names no command is read as an option all the same: it begins with neither
a letter nor a digit. -/
def looksLikeOption (word : Text) : Bool := word.head?.any fun c => !Text.isAlphanumeric c

/-- A command out of some that have names; options may stand in front of its name. Words that name
no command are read once more when they look like options, and may be a question then. -/
def readGroup (switches : List Switch) (commands : List (Text × (List Text → Option Command)))
    (first : Arguments → Option Command) (args : List Text) : Option Command := do
  let a ← readArguments (helpFlag :: switches) false none args
  match first a with
  | some command => return command
  | none =>
    match a.rest with
    | [] => none
    | name :: more =>
      match commands.lookup name with
      | some read => read more
      | none =>
        if looksLikeOption name then
          first (← readArguments (helpFlag :: switches) false none (name :: more))
        else none

/-- A question for help in front of a command. -/
def askedHelp (a : Arguments) : Option Command :=
  if a.has "help".text then some .help else none

/-- The commands about cache keys. -/
def readKeyGroup : List Text → Option Command :=
  readGroup [] [("create".text, readCreateKey), ("parse".text, readParseKey)] askedHelp

/-- The commands about settings. -/
def readSettingsGroup : List Text → Option Command :=
  readGroup [] [("show".text, readShowSettings), ("set".text, readSaveSetting)] askedHelp

/-- The question for the version or for help in front of all commands; the first one counts. -/
def askedFirst (a : Arguments) : Option Command :=
  a.given.findSome? fun g =>
    if g.name = "version".text then some .version
    else if g.name = "help".text then some .help
    else none

/-- The command of a command line. -/
def ofArguments? : List Text → Option Command :=
  readGroup [flag "version" (some (.char 'V')), flag "verbose" (some (.char 'v'))]
    [("parse-type".text, readParseType), ("type-params".text, readTypeParameters),
     ("classify".text, readClassify), ("cache-key".text, readKeyGroup),
     ("config".text, readSettingsGroup)]
    askedFirst

end Command

end Placement
