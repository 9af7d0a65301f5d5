import Placement.Proofs.Graph.Classification
import Placement.Proofs.Graph.Reading

/-!
# Placement.Proofs.Graph.Payload — only tags are rewritten

A payload that is accepted is the record of a graph. Its edges are put back in their
order, each in its own record, where the field for the tags is all that is written
(`AgreeExcept`); the tags in it are those of the classified edge, in increasing order
(`ShowsTags`).

So an edge and its record, after classification, are an edge and its record again
(`isEdge_after`), and a second classification finds in them what it would write
(`after_after`). `classifyPayload_changes_tags` states this for payloads.
-/

namespace Placement.Graph

variable {operators : Operators} {nodes : List Node}

/-- Records that agree in every field but one. -/
def AgreeExcept (name : Text) (v w : Value) : Prop :=
  ∃ fields changed, v = .record fields ∧ w = .record changed ∧
    ∀ other, other ≠ name → Fields.get? other changed = Fields.get? other fields

/-- A record lists the tags of a classified edge, in increasing order. -/
def ShowsTags (v : Value) (out : Classified) : Prop :=
  ∃ tags, v.get? tagsField = some (.ofTexts tags) ∧ Tags.Increasing tags ∧
    ∀ tag, tag ∈ tags ↔ tag ∈ out.edge.tags

theorem agreeExcept_put (name : Text) (value : Value) (fields : Fields) :
    AgreeExcept name (.record fields) (.record (Fields.put name value fields)) :=
  ⟨fields, _, rfl, rfl, fun _ hother => Fields.get?_put_of_ne hother value fields⟩

/-! ## An edge in its record -/

/-- An edge and its record after classification. -/
def after (operators : Operators) (nodes : List Node) (p : Value × Edge) : Value × Edge :=
  let out := classifyEdge operators nodes p.2
  (writeTags p.1 out.edge.tags, out.edge)

/-- An edge keeps its tags in order when some are added. -/
theorem increasing_classifyEdge {e : Edge} (h : Tags.Increasing e.tags) :
    Tags.Increasing (classifyEdge operators nodes e).edge.tags := by
  rw [classifyEdge_eq]
  exact Tags.increasing_union h _

variable {p : Value × Edge}

/-- Only a record is the record of an edge. -/
theorem exists_fields (h : IsEdge p.1 p.2) : ∃ fields, p.1 = .record fields := by
  rcases p with ⟨v, e⟩
  cases v with
  | record fields => exact ⟨fields, rfl⟩
  | _ => cases h.id

/-- The record of an edge keeps all fields but the tags. -/
theorem agreeExcept_after (h : IsEdge p.1 p.2) :
    AgreeExcept tagsField p.1 (after operators nodes p).1 := by
  rcases exists_fields h with ⟨fields, hfields⟩
  rw [after, hfields]
  exact agreeExcept_put tagsField _ fields

/-- Under the tags stand those of the classified edge. -/
theorem get?_after (h : IsEdge p.1 p.2) :
    (after operators nodes p).1.get? tagsField =
      some (.ofTexts (classifyEdge operators nodes p.2).edge.tags) := by
  rcases exists_fields h with ⟨fields, hfields⟩
  rw [after, hfields]
  exact Fields.get?_put _ _ fields

theorem showsTags_after (h : IsEdge p.1 p.2) :
    ShowsTags (after operators nodes p).1 (classifyEdge operators nodes p.2) :=
  ⟨_, get?_after h, increasing_classifyEdge h.increasing, fun _ => Iff.rfl⟩

/-- What is written is read as the classified edge. -/
theorem isEdge_after (h : IsEdge p.1 p.2) :
    IsEdge (after operators nodes p).1 (after operators nodes p).2 := by
  have hrecord : AgreeExcept tagsField p.1 (after operators nodes p).1 := agreeExcept_after h
  rcases hrecord with ⟨fields, changed, hfields, hchanged, hsame⟩
  -- the ends and the id are fields other than the tags
  have hget : ∀ other, other ≠ tagsField →
      (after operators nodes p).1.get? other = p.1.get? other := by
    rw [hfields, hchanged]
    exact hsame
  have hkept := tagged_classifyEdge operators nodes p.2
  refine ⟨?_, ?_, ?_, increasing_classifyEdge h.increasing, ?_⟩
  · rw [hget _ (by decide), h.id, ← hkept.id]
    rfl
  · rw [hget _ (by decide), h.source, ← hkept.source]
    rfl
  · rw [hget _ (by decide), h.target, ← hkept.target]
    rfl
  · exact ⟨_, Or.inr (get?_after h), fun _ => Iff.rfl⟩

/-- An edge in its record is not changed by a second classification. -/
theorem after_after (h : IsEdge p.1 p.2) :
    after operators nodes (after operators nodes p) = after operators nodes p := by
  rcases exists_fields h with ⟨fields, hfields⟩
  unfold after
  dsimp only
  rw [classifyEdge_again, hfields, writeTags, writeTags, Fields.put_put]

/-! ## Edges in their records -/

theorem forall₂_map_map_iff {α β γ : Type} {R : β → γ → Prop} {f : α → β} {g : α → γ}
    {l : List α} : List.Forall₂ R (l.map f) (l.map g) ↔ ∀ a ∈ l, R (f a) (g a) := by
  rw [List.forall₂_map_left_iff, List.forall₂_map_right_iff, List.forall₂_same]

/-- Two lists that belong together element by element are those of their pairs. -/
theorem exists_pairs {α β : Type} {R : α → β → Prop} {as : List α} {bs : List β}
    (h : List.Forall₂ R as bs) :
    ∃ pairs : List (α × β), as = pairs.map (·.1) ∧ bs = pairs.map (·.2) := by
  have hlength := h.length_eq
  exact ⟨as.zip bs, (List.map_fst_zip hlength.le).symm, (List.map_snd_zip hlength.ge).symm⟩

variable {pairs : List (Value × Edge)}

/-- Writing the tags into the records one by one gives the records after classification. -/
theorem zipWith_writeTags (pairs : List (Value × Edge)) :
    List.zipWith (fun v out => writeTags v out.edge.tags) (pairs.map (·.1))
        (classify operators nodes (pairs.map (·.2))) =
      (pairs.map (after operators nodes)).map (·.1) := by
  unfold classify
  rw [List.map_map, List.zipWith_map, List.zipWith_self, List.map_map]
  rfl

/-- Classified edges are classified as they were. -/
theorem classify_after (pairs : List (Value × Edge)) :
    classify operators nodes ((pairs.map (after operators nodes)).map (·.2)) =
      classify operators nodes (pairs.map (·.2)) := by
  rw [← classify_again operators nodes (pairs.map (·.2))]
  unfold classify
  rw [List.map_map, List.map_map, List.map_map, List.map_map, List.map_map]
  rfl

/-- A second classification changes no record of an edge. -/
theorem map_after_after (h : ∀ p ∈ pairs, IsEdge p.1 p.2) :
    (pairs.map (after operators nodes)).map (after operators nodes) =
      pairs.map (after operators nodes) := by
  rw [List.map_map]
  exact List.map_congr_left fun p hp => after_after (h p hp)

/-! ## Payloads -/

/-- The fields of a payload with what comes of its edges. -/
def rewritten (operators : Operators) (nodes : List Node) (pairs : List (Value × Edge))
    (fields : Fields) : Fields :=
  Fields.put "edges".text (.list ((pairs.map (after operators nodes)).map (·.1))) fields

/-- Nor does it change the payload. -/
theorem rewritten_rewritten (h : ∀ p ∈ pairs, IsEdge p.1 p.2) (fields : Fields) :
    rewritten operators nodes (pairs.map (after operators nodes))
        (rewritten operators nodes pairs fields) =
      rewritten operators nodes pairs fields := by
  unfold rewritten
  rw [map_after_after h, Fields.put_put]

/-- A payload is accepted when it is the record of a graph, and then its edges are rewritten. -/
theorem classifyPayload_eq_ok_iff {payload : Value} {answer : Value × Summary} :
    classifyPayload operators payload = .ok answer ↔
      ∃ fields nodes pairs, payload = .record fields ∧
        IsGraph payload nodes (pairs.map (·.2)) (pairs.map (·.1)) ∧
        answer = (.record (rewritten operators nodes pairs fields),
          summarize (classify operators nodes (pairs.map (·.2)))) := by
  cases payload with
  | record fields =>
    simp only [classifyPayload, bind_eq_ok_iff, listField_eq_ok_iff, readNodes_eq_ok_iff,
      readEdges_eq_ok_iff, pure_eq_ok_iff]
    constructor
    · rintro ⟨listed, hlisted, records, hrecords, nodes, hnodes, edges, hedges, rfl⟩
      -- each edge is kept together with its record from here on
      rcases exists_pairs hedges with ⟨pairs, rfl, rfl⟩
      refine ⟨fields, nodes, pairs, rfl, ⟨⟨listed, hlisted, hnodes⟩, hrecords, hedges⟩, ?_⟩
      rw [zipWith_writeTags, rewritten]
    · rintro ⟨_, nodes, pairs, ⟨⟩, ⟨⟨listed, hlisted, hnodes⟩, hrecords, hedges⟩, rfl⟩
      refine ⟨listed, hlisted, _, hrecords, nodes, hnodes, _, hedges, ?_⟩
      rw [zipWith_writeTags, rewritten]
  | _ => simp [classifyPayload]

/-- The rewritten edges are the edges of a graph with the same nodes. -/
theorem isGraph_rewritten {fields : Fields}
    (h : IsGraph (.record fields) nodes (pairs.map (·.2)) (pairs.map (·.1))) :
    IsGraph (.record (rewritten operators nodes pairs fields)) nodes
      ((pairs.map (after operators nodes)).map (·.2))
      ((pairs.map (after operators nodes)).map (·.1)) := by
  rcases h with ⟨⟨listed, hlisted, hnodes⟩, -, hedges⟩
  refine ⟨⟨listed, ?_, hnodes⟩, Fields.get?_put _ _ fields, ?_⟩
  · -- the nodes stand under another name than the edges that are written
    have hother : "nodes".text ≠ "edges".text := by decide
    exact (Fields.get?_put_of_ne hother _ fields).trans hlisted
  · rw [List.map_map, List.map_map, forall₂_map_map_iff]
    intro p hp
    exact isEdge_after (forall₂_map_map_iff.mp hedges p hp)

/-- What comes of a payload is accepted, and nothing else comes of it. -/
theorem classifyPayload_again {payload : Value} {answer : Value × Summary}
    (h : classifyPayload operators payload = .ok answer) :
    classifyPayload operators answer.1 = .ok answer := by
  rcases classifyPayload_eq_ok_iff.mp h with ⟨fields, nodes, pairs, rfl, hgraph, rfl⟩
  refine classifyPayload_eq_ok_iff.mpr ⟨_, nodes, _, rfl, isGraph_rewritten hgraph, ?_⟩
  have hedges := forall₂_map_map_iff.mp hgraph.edges
  rw [classify_after, rewritten_rewritten hedges]

/-- A payload that is accepted keeps all its fields but the edges, and those keep all theirs but the
tags, which are listed in increasing order. What comes of it is accepted too, and stays as it is. -/
theorem classifyPayload_changes_tags {c : Classifier} {payload result : Value}
    (h : (c.classifyPayload payload).1 = .ok result) :
    ∃ nodes edges records written, IsGraph payload nodes edges records ∧
      AgreeExcept "edges".text payload result ∧
      result.get? "edges".text = some (.list written) ∧
      List.Forall₂ (AgreeExcept tagsField) records written ∧
      List.Forall₂ ShowsTags written (c.classify nodes edges).1 ∧
      (c.classifyPayload payload).2.classifyPayload result =
        (.ok result, (c.classifyPayload payload).2) := by
  unfold Classifier.classifyPayload at h ⊢
  cases hanswer : classifyPayload c.operators payload with
  | error fault =>
    rw [hanswer] at h
    cases h
  | ok answer =>
    rw [hanswer] at h
    cases h
    -- a second pass finds the tags it would write
    have hagain := classifyPayload_again hanswer
    rcases classifyPayload_eq_ok_iff.mp hanswer with ⟨fields, nodes, pairs, rfl, hgraph, rfl⟩
    have hedges := forall₂_map_map_iff.mp hgraph.edges
    refine ⟨nodes, _, _, _, hgraph, agreeExcept_put _ _ fields, Fields.get?_put _ _ fields,
      ?_, ?_, ?_⟩
    · -- edge by edge: only the tags field differs
      rw [List.map_map, forall₂_map_map_iff]
      exact fun p hp => agreeExcept_after (hedges p hp)
    · -- and that field lists the tags the classifier gives the edge
      rw [classifier_classify, classify, List.map_map, List.map_map, forall₂_map_map_iff]
      exact fun p hp => showsTags_after (hedges p hp)
    · dsimp only at hagain ⊢
      rw [hagain]

/-- A graph whose one edge enters the network and has a style, with some tags listed. -/
def styledGraph (tags : List Text) : Value :=
  .record
    [("nodes".text, .list
        [.record [("id".text, .text "1".text), ("shortLabel".text, .text "map".text)],
          .record
            [("id".text, .text "2".text), ("shortLabel".text, .text "send_bincode".text)]]),
      ("edges".text, .list
        [.record
          [("id".text, .text "e1".text), ("source".text, .text "1".text),
            ("target".text, .text "2".text), (tagsField, .ofTexts tags),
            ("style".text, .text "bold".text)]]),
      ("choices".text, .list [])]

/-- The graph as it is given, with a tag twice. -/
def styledBefore : Value := styledGraph (["remote", "dataflow", "remote"].map String.text)

/-- The graph as it comes out, with the tags of the role in their places. -/
def styledAfter : Value :=
  styledGraph (["dataflow", "network", "network-target", "remote", "remote-receiver"].map
    String.text)

/-- The graph with a tag listed twice comes out with its tags in order, and stays so. -/
theorem classifyPayload_changes_tags_styled :
    ((Classifier.start .standard).classifyPayload styledBefore).1 = .ok styledAfter ∧
      AgreeExcept "edges".text styledBefore styledAfter ∧
      ((Classifier.start .standard).classifyPayload styledBefore).2.classifyPayload styledAfter =
        (.ok styledAfter, ((Classifier.start .standard).classifyPayload styledBefore).2) := by
  have haccepted : ((Classifier.start .standard).classifyPayload styledBefore).1 =
      .ok styledAfter := rfl
  rcases classifyPayload_changes_tags haccepted with
    ⟨nodes, edges, records, written, -, hother, -, -, -, hagain⟩
  exact ⟨haccepted, hother, hagain⟩

end Placement.Graph
