import Placement.Command.Run
import Placement.Toml.Library

/-!
# Placement.Main — the command line

Reads the settings file, runs the command and prints its outcome. The settings
file lies in the directory that `LOCGRAPH_HOME` names, or in `.locgraph` of the
home directory.
-/

namespace Placement.Main

/-- A text on its way out. No file holds the half of a pair, so a mark stands for it. -/
def written (t : Text) : String :=
  String.ofList (t.map fun
    | .char c => c
    | .half _ => '\ufffd')

/-- Whether an action is done without a failure. -/
def isDone (action : IO Unit) : IO Bool := do
  try
    action
    return true
  catch _ => return false

/-- What some bytes hold. -/
def contentOf (bytes : ByteArray) : FileContent :=
  match String.fromUTF8? bytes with
  | some s => .text s.text
  | none => .bytes bytes.toList

/-- The settings file at a path. Of a file that may not be read the content stays unknown; it is
opened for appending, which changes nothing, to see whether it may be written. -/
def settingsAt (path : String) : IO SettingsFile := do
  let mayWrite := isDone do
    let _ ← IO.FS.Handle.mk path .append
  try
    let content := contentOf (← IO.FS.readBinFile path)
    return ⟨path.text, content, true, ← mayWrite⟩
  catch e =>
    match e with
    | .noFileOrDirectory .. => return ⟨path.text, .missing, true, true⟩
    | .permissionDenied .. => return ⟨path.text, .bytes [], false, ← mayWrite⟩
    | _ => return ⟨path.text, .directory, true, true⟩

/-- A path in which a tilde at the head stands for the home directory. -/
def expandHome (home : String) (path : String) : String :=
  if path = "~" then home
  else match Text.after? [.char '~', .char '/'] path.text with
    | some rest => home ++ "/" ++ written rest
    | none => path

/-- The directory of the settings file. -/
def baseDirectory : IO String := do
  let home := (← IO.getEnv "HOME").getD "."
  return expandHome home ((← IO.getEnv "LOCGRAPH_HOME").getD (home ++ "/.locgraph"))

/-- The file that a command reads beside the settings, with its text. -/
def readInput : Option Command → IO (List (Text × Text))
  | some (.classify graph _) => do
    try
      return [(graph, (← IO.FS.readFile (written graph)).text)]
    catch _ => return []
  | _ => return []

/-- Prints a line of a page. -/
def printLine : Page.Line → IO Unit
  | .text t => IO.println (written t)
  | .row cells => IO.println (written ([.char ' ', .char ' '].intercalate cells))

/-- Prints the outcome of a command, and writes the files that it changed. -/
def report (base : String) (before after : SettingsFile) (o : Outcome) : IO Unit := do
  for n in o.notices do
    IO.eprintln (written n.message)
  if before ≠ after then
    if let .text t := after.content then
      IO.FS.createDirAll base
      IO.FS.writeFile (written after.path) (written t)
  if let some (path, t) := o.written then
    IO.FS.writeFile (written path) (written t)
  match o.printed with
  | .text t => IO.print (written t)
  | .page lines => lines.forM printLine
  match o.ending with
  | .failed message => IO.eprintln ("❌ " ++ written message)
  | .broken breakdown => IO.eprintln (written breakdown.message)
  | _ => pure ()

end Placement.Main

open Placement Placement.Main in
/-- Runs the command line. -/
def main (args : List String) : IO UInt32 := do
  let base ← baseDirectory
  let path := base ++ "/config.toml"
  let settings ← settingsAt path
  let args := args.map String.text
  let files ← readInput (Command.ofArguments? args)
  let outcome := Command.runLine ⟨.standard, settings, fun p => files.lookup p⟩ args
  report base settings outcome.settings outcome
  return outcome.exitCode.toUInt32
