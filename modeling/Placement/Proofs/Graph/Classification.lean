import Mathlib.Data.List.Forall2
import Mathlib.Data.List.Induction
import Mathlib.Logic.Equiv.Defs
import Placement.Graph.Classifier
import Placement.Proofs.Graph.Tags

/-!
# Placement.Proofs.Graph.Classification — edges are classified one by one

What becomes of an edge is decided by its two ends: whether the graph has a node there,
of several the last one, and whether its operator crosses the network (`crossing?`).
From these two answers come the tags that are due to the edge (`dueTags`), which are
added to those that it has (`Tagged`). It is tagged anew exactly when some are due.

An edge keeps its ends, so the same tags are due to it once more, and they change
nothing (`classifyEdge_again`). `classify_pointwise` says this of all edges of a graph
together with the counts.
-/

namespace Placement.Graph

variable {operators : Operators} {nodes : List Node}

/-! ## Tags that are due -/

/-- Whether the operator at an end of an edge crosses the network, if the graph has a node there;
of several nodes with one id the last one counts. -/
def crossing? (operators : Operators) (nodes : List Node) (id : Text) : Option Bool :=
  (nodes.reverse.find? fun n => n.id = id).map fun n => operators.isNetworking n.label

/-- The tags due to an edge, by what is known of its source and of its target. -/
def dueTags : Option Bool → Option Bool → List Text
  | some true, some true => ["network".text, "network-to-network".text]
  | some true, some false => ["network".text, "network-source".text, "remote-sender".text]
  | some false, some true => ["network".text, "network-target".text, "remote-receiver".text]
  | _, _ => []

/-- The node with an id is the last one that has it. -/
theorem node?_eq_find? (nodes : List Node) (id : Text) :
    node? nodes id = nodes.reverse.find? fun n => n.id = id := by
  -- from the back: the last node is the first one that is looked at
  induction nodes using List.reverseRecOn with
  | nil => rfl
  | append_singleton front n ih =>
    unfold node? at ih ⊢
    rw [List.foldl_concat, ih, List.reverse_concat, List.find?_cons]
    by_cases h : n.id = id
    · rw [if_pos h, decide_eq_true h]
    · rw [if_neg h, decide_eq_false h]

/-- The tags of the role are those due by the two ends of the edge. -/
theorem tags_roleOf (operators : Operators) (nodes : List Node) (e : Edge) :
    (roleOf operators nodes e).tags =
      dueTags (crossing? operators nodes e.source) (crossing? operators nodes e.target) := by
  unfold roleOf crossing?
  rw [node?_eq_find?, node?_eq_find?]
  cases nodes.reverse.find? fun n => n.id = e.source with
  | none => rfl
  | some s =>
    cases nodes.reverse.find? fun n => n.id = e.target with
    | none => cases hs : operators.isNetworking s.label <;> simp [Role.tags, dueTags, hs]
    | some t =>
      cases hs : operators.isNetworking s.label <;> cases ht : operators.isNetworking t.label <;>
        simp [Role.of, Role.tags, dueTags, hs, ht]

/-! ## One edge -/

/-- An edge, and what comes of it when some tags are due to it. -/
structure Tagged (due : List Text) (e : Edge) (out : Classified) : Prop where
  id : out.edge.id = e.id
  source : out.edge.source = e.source
  target : out.edge.target = e.target
  tags : ∀ tag, tag ∈ out.edge.tags ↔ tag ∈ e.tags ∨ tag ∈ due
  isNew : out.isNew = true ↔ due ≠ []
  same : out.isNew = false → out.edge = e

/-- The tags of the role are put in, which for an edge inside are none. -/
theorem classifyEdge_eq (operators : Operators) (nodes : List Node) (e : Edge) :
    classifyEdge operators nodes e =
      ⟨{ e with tags := Tags.union e.tags (roleOf operators nodes e).tags },
        !(roleOf operators nodes e).tags.isEmpty⟩ := by
  unfold classifyEdge
  cases roleOf operators nodes e <;> rfl

/-- Classifying an edge adds the tags that are due to it, and nothing else changes. -/
theorem tagged_classifyEdge (operators : Operators) (nodes : List Node) (e : Edge) :
    Tagged (dueTags (crossing? operators nodes e.source) (crossing? operators nodes e.target)) e
      (classifyEdge operators nodes e) := by
  rw [classifyEdge_eq, ← tags_roleOf]
  refine ⟨rfl, rfl, rfl, fun tag => Tags.mem_union_iff, ?_, ?_⟩
  · cases (roleOf operators nodes e).tags <;> simp
  · cases (roleOf operators nodes e).tags with
    | nil => exact fun _ => rfl
    | cons tag more => exact fun h => nomatch h

/-- An edge that was classified is due the same tags, and has them. -/
theorem classifyEdge_again (operators : Operators) (nodes : List Node) (e : Edge) :
    classifyEdge operators nodes (classifyEdge operators nodes e).edge =
      classifyEdge operators nodes e := by
  -- the role is known from the ends of the edge, which it keeps
  have hrole : roleOf operators nodes (classifyEdge operators nodes e).edge =
      roleOf operators nodes e := by
    rw [classifyEdge_eq]
    rfl
  rw [classifyEdge_eq, hrole, classifyEdge_eq, Tags.union_union_self]

/-! ## All edges -/

/-- Classifying all edges once more changes nothing. -/
theorem classify_again (operators : Operators) (nodes : List Node) (edges : List Edge) :
    classify operators nodes ((classify operators nodes edges).map (·.edge)) =
      classify operators nodes edges := by
  unfold classify
  rw [List.map_map, List.map_map]
  exact List.map_congr_left fun e _ => classifyEdge_again operators nodes e

/-- The counts are those of all edges and of the edges tagged anew. -/
theorem summarize_classify (operators : Operators) (nodes : List Node) (edges : List Edge) :
    summarize (classify operators nodes edges) =
      ⟨edges.length, (classify operators nodes edges).countP (·.isNew)⟩ := by
  rw [summarize, ← List.countP_eq_length_filter, classify, List.length_map]

theorem classifier_classify (c : Classifier) (nodes : List Node) (edges : List Edge) :
    c.classify nodes edges =
      (classify c.operators nodes edges,
        { c with lastSummary := summarize (classify c.operators nodes edges) }) :=
  rfl

/-- Each edge is classified by its own two ends. The counts are those of all edges and of the edges
tagged anew. Classifying the edges that come of it gives the same again, and edges in another order
give what comes of them in that order. -/
theorem classify_pointwise (c : Classifier) (nodes : List Node) (edges : List Edge) :
    List.Forall₂
        (fun e out =>
          Tagged (dueTags (crossing? c.operators nodes e.source)
            (crossing? c.operators nodes e.target)) e out)
        edges (c.classify nodes edges).1 ∧
      (c.classify nodes edges).2 =
        ⟨c.operators, edges.length, (c.classify nodes edges).1.countP (·.isNew)⟩ ∧
      (c.classify nodes edges).2.classify nodes ((c.classify nodes edges).1.map (·.edge)) =
        c.classify nodes edges ∧
      ∀ (order : Equiv.Perm (Fin edges.length)) (i : Fin edges.length),
        (c.classify nodes (List.ofFn fun k => edges.get (order k))).1[i.val]? =
          (c.classify nodes edges).1[(order i).val]? := by
  refine ⟨?_, ?_, ?_, ?_⟩
  · rw [classifier_classify, classify, List.forall₂_map_right_iff, List.forall₂_same]
    exact fun e _ => tagged_classifyEdge c.operators nodes e
  · rw [classifier_classify, summarize_classify]
  · rw [classifier_classify, classifier_classify, classify_again]
  · intro order i
    rw [classifier_classify, classifier_classify, classify, classify, List.getElem?_map,
      List.getElem?_map, List.getElem?_ofFn, dif_pos i.isLt,
      List.getElem?_eq_getElem (order i).isLt]
    rfl

end Placement.Graph
