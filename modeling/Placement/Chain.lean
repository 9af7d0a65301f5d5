import Placement.Location.Basic
import Placement.Operators
import Placement.Query
import Placement.TypeText.Location

/-!
# Placement.Chain — the locations of the operators in a document

The operator sites of a document are visited in the order of the source. Each
is resolved through its hover. Where the hover says nothing, an operator that is
known takes over the location of the operator before it in the same chain of
dots: a chain goes on over lines that begin with a dot, and a site on any other
line breaks it.
-/

namespace Placement

/-- A place where an operator is used. -/
structure Site where
  position : Position
  name : Text
deriving DecidableEq, Repr

/-- The location that an operator is found to run at. -/
structure Attribution where
  operator : Text
  range : Range
  /-- The type text that the location was read from, or its canonical text. -/
  typeText : Text
  location : Location
  /-- The type text of the hover, if there was one. -/
  returnType : Option Text
deriving DecidableEq, Repr

namespace Chain

/-- The location that the chain hands on, if it has one. -/
abbrev State := Option Location

/-! ## Type texts that say nothing -/

/-- Whether a type text is `Self`, maybe behind a reference. -/
def isSelf (t : Text) : Bool :=
  let t := Text.trim t
  let t := (Text.after? [.char '&'] t).getD t
  t == "Self".text ||
    match Text.after? "mut".text t with
    | some r => r.head?.any Text.isBlank && Text.trimLeft r == "Self".text
    | none => false

/-- Whether a type text is the unit type. -/
def isUnit (t : Text) : Bool := Text.trim t == "()".text

/-- Whether a label is a type parameter that was not resolved, or was cut short by the backend. -/
def isPlaceholder (label : Text) : Bool :=
  (match label with
   | [c] => Text.isCapital c
   | _ => false) || label.any (· == '…')

/-! ## Single sites -/

/-- The stretch of a site: the identifier around it, or as many characters as its name has. -/
def sourceRange (d : Document) (s : Site) : Except LineFault Range := do
  return (← d.wordRange? s.position).getD
    (.ofLine s.position.line s.position.character (s.position.character + s.name.length))

/-- The location that an operator may take over. -/
def inheritable (operators : Operators) (state : State) (name : Text) : Option Location :=
  state.filter fun _ => operators.isKnown name

/-- The attribution of a site that takes over a location. -/
def inherited (d : Document) (s : Site) (location : Location) (typeText : Option Text) :
    Except LineFault Attribution := do
  return ⟨s.name, ← sourceRange d s, typeText.getD location.canonical, location, typeText⟩

/-- What the visit of a site finds: an attribution, and a location if the hover gave one. -/
structure Visit where
  attribution : Option Attribution
  resolved : Option Location

/-- The visit of a site that takes over a location, if it may. -/
def inheritVisit (operators : Operators) (d : Document) (state : State) (s : Site)
    (typeText : Option Text) : Run Visit :=
  match inheritable operators state s.name with
  | some location => do
    return ⟨some (← Run.ofLine (inherited d s location typeText)), none⟩
  | none => return ⟨none, none⟩

/-- The visit of a site with a type text. -/
def typedVisit (operators : Operators) (d : Document) (state : State) (s : Site) (typeText : Text) :
    Run Visit := do
  if isSelf typeText then inheritVisit operators d state s (some typeText)
  else
    match ← Run.ofLogged (TypeText.parse typeText) with
    | none =>
      if isUnit typeText && operators.isSink s.name then
        inheritVisit operators d state s (some typeText)
      else return ⟨none, none⟩
    | some location =>
      if isPlaceholder location.label then return ⟨none, none⟩
      else
        let range ← Run.ofLine (sourceRange d s)
        return ⟨some ⟨s.name, range, typeText, location, some typeText⟩, some location⟩

/-- The visit of a site inside the document, and the state behind it. -/
def visit (operators : Operators) (backend : Backend) (limit : Number) (d : Document)
    (state : State) (s : Site) : Run (State × Option Attribution) := do
  let goesOn ← Run.ofLine (d.isContinuation s.position.line)
  let state := if goesOn then state else none
  let method ← Run.ofLine (d.isMethodCall s.position)
  let found ← match ← Query.resolve backend limit d s.position method with
    | none => inheritVisit operators d state s none
    | some typeText => typedVisit operators d state s typeText
  return (if goesOn then found.resolved.or state else none, found.attribution)

/-! ## Passes -/

/-- The attributions of sites in the order given, behind a state. Sites outside the document are
left out. -/
def trackFrom (operators : Operators) (backend : Backend) (limit : Number) (d : Document) :
    State → List Site → Run (List Attribution)
  | _, [] => return []
  | state, s :: more => do
    if ← Run.ofLogged (← Run.ofLine (d.inBounds s.position)) then
      let (state, found) ← visit operators backend limit d state s
      return found.toList ++ (← trackFrom operators backend limit d state more)
    else trackFrom operators backend limit d state more

/-- Sites in the order of the source; those at one position keep their order. -/
def inSourceOrder (sites : List Site) : List Site :=
  sites.mergeSort fun s t => s.position.le t.position

/-- The attributions of the operator sites of a document, in the order of the source. -/
def track (operators : Operators) (backend : Backend) (limit : Number) (d : Document)
    (sites : List Site) : Run (List Attribution) :=
  trackFrom operators backend limit d none (inSourceOrder sites)

end Chain

end Placement
