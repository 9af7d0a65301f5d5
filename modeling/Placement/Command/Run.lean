import Placement.Command.Basic
import Placement.Command.Path
import Placement.Graph.Payload
import Placement.Json.Reader
import Placement.Json.Writer
import Placement.Location.Identity
import Placement.Page.Basic
import Placement.Settings
import Placement.TypeText.Collection
import Placement.TypeText.Location

/-!
# Placement.Command.Run — what commands do

A command works on the settings file and the other files that it is given, and
leaves an outcome: what is printed, a failure if there is one, a file that was
written, the settings file, and the notices that came up. The outcome of a
command line that is refused differs from that of a command that fails.
-/

namespace Placement

/-- What a command finds around it. -/
structure Surroundings where
  /-- The library for the settings file. -/
  toml : Toml.Library
  settings : SettingsFile
  /-- The text of a file, if there is one. -/
  textAt : Text → Option Text

/-- What a command prints. -/
inductive Printed where
  | text (t : Text)
  | page (lines : List Page.Line)
deriving DecidableEq, Repr

/-- What breaks a command off. -/
inductive Breakdown where
  /-- The settings could not be used at all. -/
  | settings (fault : Settings.Fault)
  /-- An integer has too many digits. -/
  | longInteger (digits : Nat)
  /-- A cache key could not be read. -/
  | key (failure : KeyFailure)
  /-- A value could not be written. -/
  | writing (fault : WriteFault)
  /-- The markup of a cell is at fault. -/
  | markup
  /-- A file was to be written where a directory is. -/
  | directory
deriving DecidableEq, Repr

/-- The wording of what breaks a command off. -/
def Breakdown.message : Breakdown → Text
  | .settings fault => fault.message
  | .longInteger digits => digitLimitMessage digits
  | .key failure => failure.message
  | .writing fault => fault.message
  | .markup => "closing tag has nothing to close".text
  | .directory => "output path is a directory".text

/-- How a command ends. -/
inductive Ending where
  | done
  /-- The command failed, with a message. -/
  | failed (message : Text)
  /-- The command was broken off. -/
  | broken (breakdown : Breakdown)
  /-- The command line was refused. -/
  | refused
deriving DecidableEq, Repr

/-- What a command leaves. -/
structure Outcome where
  ending : Ending
  printed : Printed
  /-- The path and the text of a file that was written. -/
  written : Option (Text × Text)
  settings : SettingsFile
  notices : List Notice

namespace Outcome

/-- The status that the program ends with. -/
def exitCode (o : Outcome) : Nat :=
  match o.ending with
  | .done => 0
  | .failed _ => 1
  | .broken _ => 1
  | .refused => 2

/-- Nothing is printed or written. -/
def silent (settings : SettingsFile) (ending : Ending) (notices : List Notice) : Outcome :=
  ⟨ending, .text [], none, settings, notices⟩

/-- A command that failed. -/
def failing (settings : SettingsFile) (message : Text) (notices : List Notice) : Outcome :=
  silent settings (.failed (Page.printed message)) notices

/-- A command that was broken off. -/
def breaking (settings : SettingsFile) (breakdown : Breakdown) (notices : List Notice) : Outcome :=
  silent settings (.broken breakdown) notices

/-- A text is printed. -/
def printing (settings : SettingsFile) (t : Text) (notices : List Notice) : Outcome :=
  ⟨.done, .text (Page.printed t), none, settings, notices⟩

/-- A page is printed. -/
def paging (settings : SettingsFile) (blocks : List Page.Block) (notices : List Notice) : Outcome :=
  match Page.lines blocks with
  | some lines => ⟨.done, .page lines, none, settings, notices⟩
  | none => breaking settings .markup notices

end Outcome

namespace Command

/-- Lines, each with a line feed at its end. -/
def unlines (lines : List Text) : Text := lines.flatMap (· ++ [.char '\n'])

/-- The version of the program. -/
def versionText : Text := "locgraph v0.1.0\n".text

/-! ## Types and keys -/

/-- What a location is shown with. -/
def locationFields (l : Location) : Fields :=
  [("kind".text, .text l.kind.name), ("label".text, .text l.label),
   ("tick_depth".text, .int l.tickDepth), ("location_kind".text, .text l.display),
   ("location_id".text, .int l.id), ("canonical".text, .text l.canonical)]

/-- The rows of a table with fields and their values. -/
def fieldRows (fields : Fields) : Except WriteFault (List (List Text)) :=
  fields.mapM fun (n, v) => do return [n, ← v.plain]

/-- Shows the location in a type text. -/
def runParseType (settings : SettingsFile) (typeText : Text) (json : Bool) : Outcome :=
  let parsed := TypeText.parse typeText
  match parsed.value with
  | none =>
    .failing settings ("No location found in: ".text ++ typeText) parsed.notices
  | some l =>
    let fields := locationFields l
    if json then .printing settings (Json.write (.record fields) ++ [.char '\n']) parsed.notices
    else
      match fieldRows fields with
      | .error fault => .breaking settings (.writing fault) parsed.notices
      | .ok rows =>
        .paging settings [.table (["Field".text, "Value".text] :: rows)] parsed.notices

/-- The name of something that may be missing. -/
def nameOr (name : Option Text) : Text := name.getD [.char '-']

/-- Shows the parameters of a collection type. -/
def runTypeParameters (settings : SettingsFile) (typeText : Text) : Outcome :=
  let parsed := TypeText.collectionParameters typeText
  let ps := parsed.value
  if ps.isEmpty then
    .failing settings ("Not a generic type: ".text ++ typeText) parsed.notices
  else
    let numbered := ps.zipIdx.map fun (p, n) =>
      .char '[' :: Text.ofNat n ++ .char ']' :: .char ' ' :: p
    .printing settings
      (unlines (numbered ++
        ["boundedness: ".text ++ nameOr ((TypeText.boundedness? ps).map (·.name)),
         "ordering: ".text ++ nameOr ((TypeText.ordering? ps).map (·.name))]))
      parsed.notices

/-- Shows a cache key. -/
def runCreateKey (settings : SettingsFile) (key : CacheKey) : Outcome :=
  match key.encode with
  | .error fault => .breaking settings (.writing fault) []
  | .ok t => .printing settings (unlines [t]) []

/-- Shows the parts of a cache key. -/
def runParseKey (settings : SettingsFile) (key : Text) : Outcome :=
  match CacheKey.read false key with
  | .error failure => .breaking settings (.key failure) []
  | .ok none => .failing settings ("Invalid cache key: ".text ++ key) []
  | .ok (some k) =>
    let path := match k.activeFile with
      | some (c :: r) => c :: r
      | _ => [.char '-']
    .printing settings
      (unlines ["uri: ".text ++ k.uri, "version: ".text ++ Text.ofInt k.version,
        "scope: ".text ++ k.scope, "path: ".text ++ path])
      []

/-! ## Graphs -/

/-- Classifies the edges of a graph file. -/
def runClassify (around : Surroundings) (graph : Text) (output : Option Text) : Outcome :=
  let settings := around.settings
  match around.textAt graph with
  | none => .silent settings .refused []
  | some text =>
    match Json.read text with
    | .error .malformed => .failing settings (graph ++ " is not valid JSON".text) []
    | .error (.longInteger digits) => .breaking settings (.longInteger digits) []
    | .ok payload =>
      match Settings.loadOperators around.toml settings with
      | .error fault => .breaking settings (.settings fault) []
      | .ok operators =>
        match Graph.classifyPayload operators.value payload with
        | .error fault =>
          .failing settings ("Invalid graph payload: ".text ++ fault.message) operators.notices
        | .ok (classified, summary) =>
          let rendered := Json.write classified
          match output with
          | none => .printing settings (rendered ++ [.char '\n']) operators.notices
          | some path =>
            if namesDirectory path then .breaking settings .directory operators.notices
            else
              let path := tidyPath path
              { Outcome.printing settings
                  (unlines ["Analyzed ".text ++ Text.ofNat summary.edgesExamined ++
                    " edges, found ".text ++ Text.ofNat summary.networkEdges ++
                    " network edges -> ".text ++ path])
                  operators.notices with
                written := some (path, rendered) }

/-! ## Settings -/

/-- Shows the settings in use. A setting that cannot be written breaks this off behind the path of
the file. -/
def runShowSettings (toml : Toml.Library) (settings : SettingsFile) : Outcome :=
  match Settings.loadAnalysis toml settings, Settings.loadOperators toml settings with
  | .error fault, _ => .breaking settings (.settings fault) []
  | .ok analysis, .error fault => .breaking settings (.settings fault) analysis.notices
  | .ok analysis, .ok operators =>
    let notices := analysis.notices ++ operators.notices
    let path : Page.Block := .text ("Config file: ".text ++ settings.path)
    let operatorRows := Operators.Category.all.map fun c =>
      let names := operators.value.get c
      [c.name, Text.ofNat names.length, [.char ',', .char ' '].intercalate names]
    match fieldRows (Settings.analysisFields analysis.value) with
    | .error fault =>
      { Outcome.paging settings [path] notices with ending := .broken (.writing fault) }
    | .ok settingRows =>
      .paging settings
        [path,
         .text "Analysis".text,
         .table (["Setting".text, "Value".text] :: settingRows),
         .text "Operators".text,
         .table (["Category".text, "Count".text, "Operators".text] :: operatorRows)]
        notices

/-- Saves one setting. -/
def runSaveSetting (toml : Toml.Library) (settings : SettingsFile) (key raw : Text) : Outcome :=
  match Settings.coerce key raw with
  | .error _ => .silent settings .refused []
  | .ok value =>
    let saved := Settings.save toml settings key value
    match saved.result with
    | .error fault => .breaking saved.file (.settings fault) saved.notices
    | .ok true =>
      .printing saved.file (unlines ["analysis.".text ++ key ++ " = ".text ++ value.shown])
        saved.notices
    | .ok false => .failing saved.file ("Could not write ".text ++ settings.path) saved.notices

/-! ## Commands -/

/-- What a command does. -/
def run (around : Surroundings) : Command → Outcome
  | .version => .printing around.settings versionText []
  | .help => .printing around.settings [] []
  | .parseType t json => runParseType around.settings t json
  | .typeParameters t => runTypeParameters around.settings t
  | .createKey uri number scope activeFile =>
    runCreateKey around.settings ⟨uri, number, scope, activeFile⟩
  | .parseKey key => runParseKey around.settings key
  | .classify graph output => runClassify around graph output
  | .showSettings => runShowSettings around.toml around.settings
  | .saveSetting key value => runSaveSetting around.toml around.settings key value

/-- What a command line does; one that is refused does nothing. -/
def runLine (around : Surroundings) (args : List Text) : Outcome :=
  match ofArguments? args with
  | some command => command.run around
  | none => .silent around.settings .refused []

end Command

end Placement
