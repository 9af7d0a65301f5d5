import Placement.Backend.Basic
import Placement.Backend.Reply
import Placement.Document
import Placement.Hover.Declaration
import Placement.Hover.Signature

/-!
# Placement.Query — asking for the type at a position

Two questions are answered. `resolve` asks for a hover only, which is what the
analysis of chains uses, because definitions show generic signatures.
`findType` tries the type definition, the definition, the inlay hints of the
line and at last the hover, and takes the first text that one of them gives.
A failed request is reported, and counts as no text.
-/

namespace Placement.Query

/-- A way to a type text: a request that failed ends it. -/
abbrev Attempt := Run (Except QueryFailure (Option Text))

/-- Asks, and goes on with the answer unless the request failed. -/
def asking (backend : Backend) (limit : Number) (request : Request)
    (next : Value → Attempt) : Attempt := do
  match ← backend.ask limit request with
  | .ok v => next v
  | .error failure => return .error failure

/-! ## Hovers -/

/-- The type in one hover text: a return type for a method, a declared type otherwise. -/
def typeInHover (method : Bool) (content : Text) : Logged (Option Text) := do
  let found ← if method then Hover.methodType content else Hover.bindingType content
  return found.bind fun t => if t.isEmpty then none else some t

/-- The type that a hover shows, by the first of its texts that has one. -/
def hoverType (backend : Backend) (limit : Number) (d : Document) (p : Position) (method : Bool) :
    Attempt :=
  asking backend limit (.hover d.uri p) fun v => do
    return .ok (← Run.ofLogged (Hover.firstResult (typeInHover method) (Reply.hoverTexts v)))

/-- The type at a position, from its hover. -/
def resolve (backend : Backend) (limit : Number) (d : Document) (p : Position) (method : Bool) :
    Run (Option Text) := do
  if ← Run.ofLogged (← Run.ofLine (d.inBounds p)) then
    match ← hoverType backend limit d p method with
    | .ok found => return found
    | .error failure =>
      Run.note (.queryFailed failure p)
      return none
  else return none

/-! ## Definitions and hints -/

/-- The first text, on one line, that can be read at some targets. -/
def firstText (backend : Backend) (limit : Number) : List Reply.Target → Attempt
  | [] => return .ok none
  | target :: more =>
    asking backend limit (.readText target.uri target.range) fun v =>
      match v with
      | .text t =>
        if Text.allBlank t then firstText backend limit more
        else return .ok (some (Text.collapse t))
      | _ => firstText backend limit more

/-- The text at the first readable target of a request. -/
def targetText (backend : Backend) (limit : Number) (request : Request) : Attempt :=
  asking backend limit request fun v => do
    firstText backend limit (← Run.ofWriting (Reply.targets v))

/-- The hint of least column among some. -/
def leftmost : List Reply.Hint → Option Reply.Hint
  | [] => none
  | h :: hs =>
    match leftmost hs with
    | some k => if k.position.character < h.position.character then some k else some h
    | none => some h

/-- A hint's label without its colons; nothing when it is blank. -/
def hintType (h : Reply.Hint) : Option Text :=
  let t := Text.trim ((Text.trim h.label).dropWhile (· == .char ':'))
  if t.isEmpty then none else some t

/-- The label of the nearest hint at or behind a position on its line. -/
def inlayType (backend : Backend) (limit : Number) (d : Document) (p : Position) : Attempt := do
  let text ← Run.ofLine (d.lineAt p.line)
  asking backend limit (.inlayHints d.uri (.ofLine p.line 0 text.length)) fun v =>
    let near := (Reply.hints v).filter fun h =>
      h.position.line == p.line && p.character ≤ h.position.character
    return .ok ((leftmost near).bind hintType)

/-- The first text that one of several attempts gives; a failure on the way is reported. -/
def firstOf (p : Position) : List Attempt → Run (Option Text)
  | [] => return none
  | attempt :: more => do
    match ← attempt with
    | .ok (some t) => return some t
    | .ok none => firstOf p more
    | .error failure =>
      Run.note (.queryFailed failure p)
      firstOf p more

/-- The ways to a type, in the order in which they are tried. -/
def attempts (backend : Backend) (limit : Number) (d : Document) (p : Position) : List Attempt :=
  [targetText backend limit (.typeDefinition d.uri p),
   targetText backend limit (.definition d.uri p),
   inlayType backend limit d p,
   do hoverType backend limit d p (← Run.ofLine (d.isMethodCall p))]

/-- Any text about the type at a position. -/
def findType (backend : Backend) (limit : Number) (d : Document) (p : Position) :
    Run (Option Text) := do
  if ← Run.ofLogged (← Run.ofLine (d.inBounds p)) then firstOf p (attempts backend limit d p)
  else return none

end Placement.Query
