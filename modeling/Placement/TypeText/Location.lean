import Placement.Location.Basic
import Placement.Text.Pattern
import Placement.TypeText.Parameters

/-!
# Placement.TypeText.Location — the location in a type text

A type text such as `Stream<(String, i32), Tick<Process<'a, Leader>>, Bounded>`
is read from the outside in: a reference is taken off, a container is entered
at the parameter that holds its location, Tick layers are counted, and in what
is left the first location kind with a label wins. Reading never fails: what
cannot be read is reported and has no location.
-/

namespace Placement.TypeText

/-! ## Layers -/

/-- A text without the reference at its head; `mut` belongs to it when blanks follow. -/
def dropReference : Text → Text
  | '&' :: r =>
    match Text.after? "mut".text r with
    | some (c :: rest) => if Text.isBlank c then Text.trimLeft rest else r
    | _ => r
  | t => t

/-- The containers, with the place of the location among their parameters. -/
def containers : List (Text × Nat) :=
  [("KeyedStream".text, 2), ("KeyedSingleton".text, 2), ("Stream".text, 1),
   ("Optional".text, 1), ("Singleton".text, 1)]

/-- The parameter list of a container, and the place of its location. -/
def containerBody? (t : Text) : Option (Text × Nat) :=
  containers.findSome? fun (name, place) =>
    (Text.between? (name ++ [.char '<']) '>' t).map fun body => (body, place)

/-- The location parameter of a container. -/
def containerLocation (t : Text) : Logged (Option Text) :=
  match containerBody? t with
  | some (body, place) => do
    let parts ← split body
    return parts[place]?
  | none => return none

/-- The text inside the Tick layer around a text, untrimmed; a layer that closes before the end of
the text is none. -/
def tickLayer (t : Text) : Logged (Option Text) :=
  match Text.after? Location.tickLead t, Text.between? Location.tickLead '>' t with
  | some r, some inner => do
    let closing ← Depth.readClosing t r
    let whole := match closing with
      | some (_, rest) => rest.isEmpty
      | none => true
    return if whole && !(Text.trim inner).isEmpty then some (Text.trim inner) else none
  | _, _ => return none

/-- A text without its Tick layers, and their number behind the `depth` counted so far; `left` is
how many more are read. -/
def unwrapTicks (left depth : Nat) (t : Text) : Logged (Except TypeFault (Text × Nat)) := do
  match ← tickLayer t with
  | none => return .ok (t, depth)
  | some inner =>
    match left with
    | 0 => return .error .tooManyTicks
    | left + 1 => unwrapTicks left (depth + 1) inner

/-! ## Location kinds -/

/-- A location kind with an open bracket, where no identifier goes on from before. -/
def openKind : Text.Pattern (Kind × Text) := fun before t =>
  if before.any Text.isIdent then none
  else match Kind.lead? t with
    | some (kind, '<' :: rest) => some ((kind, rest), rest)
    | _ => none

/-- The parameters behind the open bracket of a location kind; `source` is the text around it. -/
def kindParameters (source rest : Text) : Logged (List Text) := do
  match ← Depth.readClosing source rest with
  | some (body, _) => split body
  | none =>
    Logged.note (.openLocation source)
    split rest

/-- The label among the parameters of a location kind: the second one behind a lifetime, or one
alone that is no lifetime. -/
def label? : List Text → Option Text
  | [p] => if p.head? = some (.char '\x27') then none else some p
  | p :: q :: _ => if p.head? = some (.char '\x27') then some q else none
  | [] => none

/-- The first of some open kinds that has a label. -/
def firstLabelled (source : Text) : List (Kind × Text) → Logged (Option (Kind × Text))
  | [] => return none
  | (kind, rest) :: more => do
    match label? (← kindParameters source rest) with
    | some label => return some (kind, label)
    | none => firstLabelled source more

/-- The kind and the label in a text. Where no kind has a label, the first one is its own. -/
def kindAndLabel (t : Text) : Logged (Option (Kind × Text)) := do
  let kinds := Text.Pattern.findAll openKind t
  match ← firstLabelled t kinds with
  | some found => return some found
  | none => return kinds.head?.map fun (kind, _) => (kind, kind.name)

/-! ## Types -/

/-- The location in a text without containers. -/
def plainLocation (t : Text) : Logged (Except (Text × TypeFault) (Option Location)) := do
  match ← unwrapTicks maxNesting 0 t with
  | .error fault => return .error (t, fault)
  | .ok (inner, depth) =>
    let found ← kindAndLabel inner
    return .ok (found.map fun (kind, label) => ⟨kind, label, depth⟩)

/-- The location in a type text; `left` is how many texts inside each other are still read. A
refusal names the text that it is about. -/
def locate (left : Nat) (t : Text) : Logged (Except (Text × TypeFault) (Option Location)) :=
  match left with
  | 0 => return .error (t, .tooDeep)
  | left + 1 => do
    let unwrapped := dropReference (Text.trim t)
    match ← containerLocation unwrapped with
    | some parameter => locate left parameter
    | none => plainLocation unwrapped

/-- The location in a type text, with reports of what could not be read. -/
def parse (t : Text) : Logged (Option Location) :=
  if Text.allBlank t then return none
  else do
    match ← locate (maxNesting + 1) t with
    | .ok found => return found
    | .error (part, fault) =>
      Logged.note (.refusedType t part fault)
      return none

end Placement.TypeText
