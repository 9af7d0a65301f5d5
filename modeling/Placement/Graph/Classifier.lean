import Placement.Graph.Payload

/-!
# Placement.Graph.Classifier — classification with a memory

A classifier keeps the operators that it goes by and the counts of its last
classification. A payload that is refused leaves the counts as they were.
-/

namespace Placement.Graph

/-- What a classifier goes by, and what it counted last. -/
structure Classifier where
  operators : Operators
  lastSummary : Summary
deriving DecidableEq, Repr

namespace Classifier

/-- A classifier before its first classification. -/
def start (operators : Operators) : Classifier := ⟨operators, .zero⟩

/-- Classifies the edges of a graph. -/
def classify (c : Classifier) (nodes : List Node) (edges : List Edge) :
    List Classified × Classifier :=
  let classified := Graph.classify c.operators nodes edges
  (classified, { c with lastSummary := summarize classified })

/-- Classifies the edges of a payload. -/
def classifyPayload (c : Classifier) (payload : Value) :
    Except PayloadFault Value × Classifier :=
  match Graph.classifyPayload c.operators payload with
  | .ok (classified, summary) => (.ok classified, { c with lastSummary := summary })
  | .error fault => (.error fault, c)

end Classifier

end Placement.Graph
