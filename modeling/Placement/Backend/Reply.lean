import Placement.Hover.Fence
import Placement.Position
import Placement.Value

/-!
# Placement.Backend.Reply — what the answers of a backend say

A semantic backend answers in loose shapes: one value or a list, plain texts or
records, locations or links. Each kind of answer is read here into one shape;
what does not fit is left out. The name of a document may be any value, and is
written as a text; where this is not possible, the whole answer cannot be read.
-/

namespace Placement.Reply

/-- A location that a backend points to. -/
structure Target where
  uri : Text
  range : Range
deriving DecidableEq, Repr

/-- A hint that a backend shows inside a line. -/
structure Hint where
  position : Position
  label : Text
deriving DecidableEq, Repr

/-- A position: a record with two integers. -/
def position? (v : Value) : Option Position := do
  return ⟨← (← v.get? "line".text).asInt?, ← (← v.get? "character".text).asInt?⟩

/-- A range: a record with two positions. -/
def range? (v : Value) : Option Range := do
  return ⟨← position? (← v.get? "start".text), ← position? (← v.get? "end".text)⟩

/-! ## Hovers -/

/-- The text of a part of a hover: a text, or a record with one; a language makes it a code
block. -/
def partText? (v : Value) : Option Text :=
  match v with
  | .text t => some t
  | _ =>
    match v.get? "value".text, v.get? "language".text with
    | some (.text t), some (.text (c :: r)) => some (Hover.fenced (c :: r) t)
    | some (.text t), _ => some t
    | _, _ => none

/-- The parts of a hover. -/
def hoverParts (v : Value) : List Value :=
  match v with
  | .text _ => v.elements
  | _ => ((v.get? "contents".text).getD .null).elements

/-- The texts of a hover answer, empty ones left out. -/
def hoverTexts (v : Value) : List Text :=
  ((v.elements.flatMap hoverParts).filterMap partText?).filter fun t => !t.isEmpty

/-! ## Locations -/

/-- A value that is not missing. -/
def present? : Option Value → Option Value
  | some .null => none
  | v => v

/-- The document's name and the range of a location, or of a link to one; of a link the selected
range counts more than the whole one. -/
def place? (v : Value) : Option (Value × Range) :=
  match present? (v.firstOf? ["targetUri".text, "target_uri".text]) with
  | some uri =>
    let selected :=
      (v.firstOf? ["targetSelectionRange".text, "target_selection_range".text]).bind range?
    let whole := (v.firstOf? ["targetRange".text, "target_range".text]).bind range?
    (selected.or whole).map fun range => (uri, range)
  | none => do
    let uri ← present? (v.get? "uri".text)
    return (uri, ← range? (← v.get? "range".text))

/-- The locations of an answer. -/
def targets (v : Value) : Except WriteFault (List Target) :=
  (v.elements.filterMap place?).mapM fun (uri, range) => do return ⟨← uri.plain, range⟩

/-! ## Hints -/

/-- The text of a part of a label: a text, or a record with one. -/
def labelPart? (v : Value) : Option Text :=
  match v with
  | .text t => some t
  | _ => (v.get? "value".text).bind Value.asText?

/-- The text of a label, which may come in parts. -/
def labelText (v : Value) : Text := v.elements.flatMap fun p => (labelPart? p).getD []

/-- A hint with a position and a label that is not empty. -/
def hint? (v : Value) : Option Hint := do
  let position ← position? (← v.get? "position".text)
  let label := labelText (← v.get? "label".text)
  if label.isEmpty then none else some ⟨position, label⟩

/-- The hints of an answer. -/
def hints (v : Value) : List Hint := v.elements.filterMap hint?

end Placement.Reply
