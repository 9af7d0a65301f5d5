import Placement.Graph.Basic
import Placement.Value

/-!
# Placement.Graph.Payload — graphs as values

A payload is a record with a list of nodes and a list of edges. Classifying it
changes the tags of the edges and nothing else. A payload of another shape is
refused with its first offence: the list of nodes, the list of edges, then the
nodes one by one, then the edges.
-/

namespace Placement.Graph

/-- What kind of element of a graph is meant. -/
inductive Element where
  | node
  | edge
deriving DecidableEq, Repr

/-- What an element is called. -/
def Element.name : Element → Text
  | .node => "node".text
  | .edge => "edge".text

/-- Why a payload is refused. -/
inductive PayloadFault where
  | notARecord (kindName : Text)
  | noNodes
  | noEdges
  | elementNotARecord (element : Element) (index : Nat)
  | missingField (element : Element) (index : Nat) (field : Text)
  | badTags (index : Nat)
deriving DecidableEq, Repr

/-- An element as messages name it. -/
def Element.text (element : Element) (index : Nat) : Text :=
  element.name ++ " #".text ++ Text.ofNat index

/-- The wording of a refused payload. -/
def PayloadFault.message : PayloadFault → Text
  | .notARecord kindName => "graph payload must be an object, got ".text ++ kindName
  | .noNodes => "graph payload is missing a 'nodes' list".text
  | .noEdges => "graph payload is missing an 'edges' list".text
  | .elementNotARecord element index => element.text index ++ " must be an object".text
  | .missingField element index field =>
    element.text index ++ " is missing string field '".text ++ field ++ "'".text
  | .badTags index =>
    Element.edge.text index ++ " has invalid 'semanticTags' (expected a list of strings)".text

/-! ## Reading -/

/-- The fields of an element. -/
def fieldsOf (element : Element) (index : Nat) : Value → Except PayloadFault Fields
  | .record fields => .ok fields
  | _ => .error (.elementNotARecord element index)

/-- A text field of an element. -/
def textField (element : Element) (index : Nat) (fields : Fields) (name : Text) :
    Except PayloadFault Text :=
  match Fields.get? name fields with
  | some (.text t) => .ok t
  | _ => .error (.missingField element index name)

/-- A node in a payload. -/
def readNode (index : Nat) (v : Value) : Except PayloadFault Node := do
  let fields ← fieldsOf .node index v
  let id ← textField .node index fields "id".text
  let label ← textField .node index fields "shortLabel".text
  return ⟨id, label⟩

/-- What the field for tags is called. -/
def tagsField : Text := "semanticTags".text

/-- The tags of an edge in a payload; it may have no such field. -/
def readTags (index : Nat) (fields : Fields) : Except PayloadFault (List Text) :=
  match Fields.get? tagsField fields with
  | none => .ok []
  | some (.list items) =>
    match Value.asTexts? items with
    | some tags => .ok tags
    | none => .error (.badTags index)
  | some _ => .error (.badTags index)

/-- An edge in a payload. -/
def readEdge (index : Nat) (v : Value) : Except PayloadFault Edge := do
  let fields ← fieldsOf .edge index v
  let tags ← readTags index fields
  let id ← textField .edge index fields "id".text
  let source ← textField .edge index fields "source".text
  let target ← textField .edge index fields "target".text
  return ⟨id, source, target, Tags.ofList tags⟩

/-- The elements of a list, each read with its number. -/
def readAll {α : Type} (read : Nat → Value → Except PayloadFault α) :
    Nat → List Value → Except PayloadFault (List α)
  | _, [] => .ok []
  | index, v :: vs => do
    let a ← read index v
    let rest ← readAll read (index + 1) vs
    return a :: rest

/-- A list in a field of a payload. -/
def listField (fault : PayloadFault) (fields : Fields) (name : Text) :
    Except PayloadFault (List Value) :=
  match Fields.get? name fields with
  | some (.list items) => .ok items
  | _ => .error fault

/-! ## Classifying -/

/-- The record of an edge with its tags. -/
def writeTags (v : Value) (tags : Tags) : Value :=
  match v with
  | .record fields => .record (Fields.put tagsField (.ofTexts tags) fields)
  | _ => v

/-- A payload with the tags of its edges, and the counts of the classification. -/
def classifyPayload (operators : Operators) (payload : Value) :
    Except PayloadFault (Value × Summary) :=
  match payload with
  | .record fields => do
    let rawNodes ← listField .noNodes fields "nodes".text
    let rawEdges ← listField .noEdges fields "edges".text
    let nodes ← readAll readNode 0 rawNodes
    let edges ← readAll readEdge 0 rawEdges
    let classified := classify operators nodes edges
    let written := List.zipWith (fun v c => writeTags v c.edge.tags) rawEdges classified
    return (.record (Fields.put "edges".text (.list written) fields), summarize classified)
  | _ => .error (.notARecord payload.kindName)

end Placement.Graph
