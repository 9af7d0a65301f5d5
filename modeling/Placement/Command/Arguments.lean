import Placement.Text.Basic

/-!
# Placement.Command.Arguments — options and arguments

Options begin with a hyphen. A long one may take its value behind an equals
sign, short ones may be written together, and an option that takes a value
takes the next argument, whatever it looks like. Two hyphens end the options; a
single hyphen is an argument.
-/

namespace Placement.Command

/-- An option: its names, and whether it takes a value. -/
structure Switch where
  name : Text
  long : Text
  short : Option CodePoint
  takesValue : Bool

/-- An option that was given, by its name. -/
structure Given where
  name : Text
  value : Text
deriving DecidableEq, Repr

/-- Options that were given, and the arguments beside them. -/
structure Arguments where
  given : List Given
  rest : List Text
deriving DecidableEq, Repr

/-- What an option text says. -/
inductive Reading where
  /-- Options that are complete. -/
  | complete (given : List Given)
  /-- Options, the last of which waits for its value. -/
  | waiting (given : List Given) (name : Text)
deriving DecidableEq, Repr

/-- A long option, maybe with its value. -/
def readLong (switches : List Switch) (arg : Text) : Option Reading := do
  let (long, value) := match Text.cut? [.char '='] arg with
    | some (long, value) => (long, some value)
    | none => (arg, none)
  let s ← switches.find? fun s => s.long == long
  match value with
  | some v => if s.takesValue then return .complete [⟨s.name, v⟩] else none
  | none => if s.takesValue then return .waiting [] s.name else return .complete [⟨s.name, []⟩]

/-- Short options written together. -/
def readShort (switches : List Switch) : Text → Option Reading
  | [] => some (.complete [])
  | c :: r => do
    let s ← switches.find? fun s => s.short == some c
    if s.takesValue then
      if r.isEmpty then return .waiting [] s.name else return .complete [⟨s.name, r⟩]
    else
      match ← readShort switches r with
      | .complete given => return .complete (⟨s.name, []⟩ :: given)
      | .waiting given name => return .waiting (⟨s.name, []⟩ :: given) name

/-- An argument that begins with a hyphen. -/
def readOption (switches : List Switch) (arg : Text) : Option Reading :=
  if Text.startsWith [.char '-', .char '-'] arg then readLong switches arg
  else readShort switches (arg.drop 1)

/-- Whether an argument is read as options. -/
def isOption (arg : Text) : Bool := arg.head? == some (.char '-') && arg.length != 1

/-- Options and arguments; nothing when an option is unknown or misses its value. `anywhere` says
that options may stand behind arguments, and `waiting` names an option that waits for its value. -/
def readArguments (switches : List Switch) (anywhere : Bool) :
    Option Text → List Text → Option Arguments
  | none, [] => some ⟨[], []⟩
  | some _, [] => none
  | some name, value :: more => do
    let a ← readArguments switches anywhere none more
    return { a with given := ⟨name, value⟩ :: a.given }
  | none, arg :: more =>
    if arg = [.char '-', .char '-'] then some ⟨[], more⟩
    else if isOption arg then do
      match ← readOption switches arg with
      | .complete given =>
        let a ← readArguments switches anywhere none more
        return { a with given := given ++ a.given }
      | .waiting given name =>
        let a ← readArguments switches anywhere (some name) more
        return { a with given := given ++ a.given }
    else if anywhere then do
      let a ← readArguments switches anywhere none more
      return { a with rest := arg :: a.rest }
    else some ⟨[], arg :: more⟩

/-- The value of an option; of several the last one counts. -/
def Arguments.value? (a : Arguments) (name : Text) : Option Text :=
  ((a.given.filter fun g => g.name == name).getLast?).map (·.value)

/-- Whether an option was given. -/
def Arguments.has (a : Arguments) (name : Text) : Bool := (a.value? name).isSome

end Placement.Command
