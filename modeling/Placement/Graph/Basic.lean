import Placement.Operators
import Placement.Text.CodePoint

/-!
# Placement.Graph.Basic — edges that cross the network

An edge of a dataflow graph crosses the network when an operator at one of its
ends does. Such an edge gets tags that say which end it is. An edge with an end
that the graph does not have is left as it is.

Tags form a set, kept as the list of its elements in the order of their code
points.
-/

namespace Placement

namespace Text

/-- Whether a text comes before another one by the code points at the first difference. -/
def precedes : Text → Text → Bool
  | _, [] => false
  | [], _ :: _ => true
  | c :: r, d :: s => c.toNat < d.toNat || (c == d && precedes r s)

end Text

namespace Graph

/-! ## Sets of tags -/

/-- A set of tags, in increasing order. -/
abbrev Tags := List Text

/-- A set with one more tag. -/
def Tags.insert (tag : Text) : Tags → Tags
  | [] => [tag]
  | t :: ts =>
    if tag = t then t :: ts
    else if tag.precedes t then tag :: t :: ts
    else t :: Tags.insert tag ts

/-- The set of some tags. -/
def Tags.ofList (tags : List Text) : Tags := tags.foldl (fun ts tag => Tags.insert tag ts) []

/-- A set with more tags. -/
def Tags.union (ts : Tags) (more : List Text) : Tags :=
  more.foldl (fun ts tag => Tags.insert tag ts) ts

/-! ## Graphs -/

/-- An operator of a graph. -/
structure Node where
  id : Text
  label : Text
deriving DecidableEq, Repr

/-- A connection between two operators. -/
structure Edge where
  id : Text
  source : Text
  target : Text
  tags : Tags
deriving DecidableEq, Repr

/-- How an edge lies to the network. -/
inductive Role where
  | inside
  | leaves
  | enters
  | between
deriving DecidableEq, Repr

/-- The role of an edge, by whether its source and its target cross the network. -/
def Role.of (source target : Bool) : Role :=
  match source, target with
  | true, true => .between
  | true, false => .leaves
  | false, true => .enters
  | false, false => .inside

/-- The tags of a role. -/
def Role.tags : Role → List Text
  | .inside => []
  | .leaves => ["network".text, "network-source".text, "remote-sender".text]
  | .enters => ["network".text, "network-target".text, "remote-receiver".text]
  | .between => ["network".text, "network-to-network".text]

/-- The node with an id; of several the last one counts. -/
def node? (nodes : List Node) (id : Text) : Option Node :=
  nodes.foldl (fun found n => if n.id = id then some n else found) none

/-- The role of an edge in a graph; an edge with an unknown end has none. -/
def roleOf (operators : Operators) (nodes : List Node) (e : Edge) : Role :=
  match node? nodes e.source, node? nodes e.target with
  | some s, some t => .of (operators.isNetworking s.label) (operators.isNetworking t.label)
  | _, _ => .inside

/-- An edge after classification, and whether it was tagged anew. -/
structure Classified where
  edge : Edge
  isNew : Bool
deriving DecidableEq, Repr

/-- Counts of the edges of a classification. -/
structure Summary where
  edgesExamined : Nat
  networkEdges : Nat
deriving DecidableEq, Repr

/-- The counts before the first classification. -/
def Summary.zero : Summary := ⟨0, 0⟩

/-- An edge with the tags of its role. -/
def classifyEdge (operators : Operators) (nodes : List Node) (e : Edge) : Classified :=
  match roleOf operators nodes e with
  | .inside => ⟨e, false⟩
  | role => ⟨{ e with tags := Tags.union e.tags role.tags }, true⟩

/-- The edges of a graph with the tags of their roles. -/
def classify (operators : Operators) (nodes : List Node) (edges : List Edge) : List Classified :=
  edges.map (classifyEdge operators nodes)

/-- The counts of a classification. -/
def summarize (classified : List Classified) : Summary :=
  ⟨classified.length, (classified.filter (·.isNew)).length⟩

end Graph

end Placement
