import Placement.Location.Basic
import Placement.Text.Blank
import Placement.Text.Word

/-!
# Placement.Location.Display — reading display forms again

What a location's text says without a parse: how many Tick layers it has, what
it is inside them, and which label a reader is shown for it.
-/

namespace Placement.Location

/-- The number of Tick layers around a text; blanks around a layer do not matter. -/
def countTicks (t : Text) : Nat :=
  match h : Text.between? tickLead '>' (Text.trim t) with
  | some inner => countTicks inner + 1
  | none => 0
termination_by t.length
decreasing_by
  have := Text.length_of_between? h
  have := Text.length_trim_le t
  omega

/-- A text without the Tick layers around it. -/
def stripTicks (t : Text) : Text :=
  match _ : Text.between? tickLead '>' t with
  | some inner => stripTicks inner
  | none => t
termination_by t.length
decreasing_by exact Text.length_of_between? ‹_›

/-- A parameter list without a lifetime at its head. -/
def dropLifetime (t : Text) : Text :=
  match t with
  | '\x27' :: r =>
    match r.span fun c => Text.isAsciiSmall c || c == .char '_' with
    | (_ :: _, ',' :: rest) => Text.trimLeft rest
    | _ => t
  | _ => t

/-- What stands in the angle bracket at the head of a text, up to the first that closes. -/
def firstParameter? : Text → Option Text
  | '<' :: r =>
    match r.span (· != .char '>') with
    | (c :: inner, _ :: _) => some (c :: inner)
    | _ => none
  | _ => none

/-- The label that a reader is shown for a location's text. -/
def labelOf (t : Text) : Text :=
  if t.isEmpty then "(unknown location)".text
  else
    match Kind.lead? (stripTicks t) with
    | some (kind, rest) =>
      match firstParameter? rest with
      | some parameter => dropLifetime (Text.trim parameter)
      | none => kind.name
    | none => t

end Placement.Location
