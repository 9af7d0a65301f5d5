import Placement.Backend.Basic

/-!
# Placement.Backend.Script — backends that answer from tables

A scripted backend looks its answers up: hovers and definitions by position,
hints by line, texts by document. Delays and failures are given for an
operation, or for one place of it, `hover@3:9`, which counts more.
-/

namespace Placement

/-- The tables of a scripted backend. -/
structure Script where
  hover : Fields
  typeDefinition : Fields
  definition : Fields
  inlay : Fields
  texts : Fields
  delays : Fields
  failures : Fields

namespace Script

/-- The entry for a request: that for its place, or else that for its operation. -/
def found? (table : Fields) (request : Request) : Option Value :=
  (Fields.get? (request.operation ++ .char '@' :: request.place) table).or
    (Fields.get? request.operation table)

/-- The answer that the tables hold for a request. -/
def answer (s : Script) (request : Request) : Value :=
  let found := match request with
    | .hover _ p => Fields.get? p.text s.hover
    | .typeDefinition _ p => Fields.get? p.text s.typeDefinition
    | .definition _ p => Fields.get? p.text s.definition
    | .inlayHints _ r => Fields.get? (Text.ofInt r.start.line) s.inlay
    | .readText uri _ => Fields.get? uri s.texts
  found.getD .null

/-- The delay of a reply. -/
def delay (s : Script) (request : Request) : Number :=
  match found? s.delays request with
  | some (.int n) => .int n
  | some (.double x) => .double x
  | _ => .int 0

/-- The backend that answers from tables. -/
def backend (s : Script) : Backend := fun request =>
  let cause := request.operation ++ " exploded".text
  match (found? s.failures request).bind Value.asText? with
  | some ending =>
    if ending = "sync".text then .refused cause
    else if ending = "error".text then .after (s.delay request) (.failed cause)
    else if ending = "timeout".text then .after (s.delay request) .timedOut
    else if ending = "cancel".text then .after (s.delay request) .cancelled
    else .after (s.delay request) (.answer (s.answer request))
  | none => .after (s.delay request) (.answer (s.answer request))

end Script

end Placement
