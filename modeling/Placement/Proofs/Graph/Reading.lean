import Mathlib.Data.List.Forall2
import Placement.Graph.Payload
import Placement.Proofs.Graph.Tags

/-!
# Placement.Proofs.Graph.Reading — what a payload says

A record is a node when it has texts for its id and its label (`IsNode`), and an edge
when it has texts for its id and its two ends and lists no tags but texts (`IsEdge`); the
tags are the set of those that are listed, of a record without the field the empty set.
A graph has lists of both (`IsGraph`). Other fields do not matter.

An element is read as what it is, whatever its number (`readNode_eq_ok_iff`,
`readEdge_eq_ok_iff`), and a list when every one of its elements is
(`readNodes_eq_ok_iff`, `readEdges_eq_ok_iff`).
-/

namespace Placement.Graph

variable {element : Element} {index : Nat} {name t : Text} {v : Value} {fields : Fields}

/-! ## Nodes, edges and graphs -/

/-- The record of a node. -/
structure IsNode (v : Value) (n : Node) : Prop where
  id : v.get? "id".text = some (.text n.id)
  label : v.get? "shortLabel".text = some (.text n.label)

/-- The tags that a record lists; one without the field lists none. -/
def ListsTags (v : Value) (listed : List Text) : Prop :=
  v.get? tagsField = none ∧ listed = [] ∨ v.get? tagsField = some (.ofTexts listed)

/-- The record of an edge. -/
structure IsEdge (v : Value) (e : Edge) : Prop where
  id : v.get? "id".text = some (.text e.id)
  source : v.get? "source".text = some (.text e.source)
  target : v.get? "target".text = some (.text e.target)
  increasing : Tags.Increasing e.tags
  tags : ∃ listed, ListsTags v listed ∧ ∀ tag, tag ∈ e.tags ↔ tag ∈ listed

/-- The record of a graph, with the records of its edges. -/
structure IsGraph (v : Value) (nodes : List Node) (edges : List Edge) (records : List Value) :
    Prop where
  nodes : ∃ listed, v.get? "nodes".text = some (.list listed) ∧ List.Forall₂ IsNode listed nodes
  listed : v.get? "edges".text = some (.list records)
  edges : List.Forall₂ IsEdge records edges

/-! ## Steps of reading -/

/-- Two steps succeed when the first one does, and the second one with what it gave. -/
theorem bind_eq_ok_iff {ε α β : Type} {x : Except ε α} {f : α → Except ε β} {b : β} :
    x >>= f = .ok b ↔ ∃ a, x = .ok a ∧ f a = .ok b := by
  cases x with
  | error fault =>
    constructor
    · exact fun h => nomatch h
    · rintro ⟨a, hfault, -⟩
      cases hfault
  | ok a =>
    constructor
    · exact fun h => ⟨a, rfl, h⟩
    · rintro ⟨found, hfound, hf⟩
      cases hfound
      exact hf

theorem pure_eq_ok_iff {ε α : Type} {a b : α} : (pure a : Except ε α) = .ok b ↔ a = b :=
  ⟨fun h => by cases h; rfl, fun h => by rw [h]; rfl⟩

theorem fieldsOf_eq_ok_iff : fieldsOf element index v = .ok fields ↔ v = .record fields := by
  cases v <;> simp [fieldsOf]

/-- A field is read as a text when a text stands there. -/
theorem textField_eq_ok_iff :
    textField element index fields name = .ok t ↔ Fields.get? name fields = some (.text t) := by
  unfold textField
  split
  · rename_i found hfound
    simp [hfound]
  · rename_i hnone
    constructor
    · exact fun h => nomatch h
    · exact fun h => absurd h (hnone t)

/-- The tags of a record are read when it lists texts, or nothing at all. -/
theorem readTags_eq_ok_iff {listed : List Text} :
    readTags index fields = .ok listed ↔ ListsTags (.record fields) listed := by
  have hget : (Value.record fields).get? tagsField = Fields.get? tagsField fields := rfl
  unfold readTags ListsTags
  rw [hget]
  split
  · rename_i hnone
    simp [hnone, eq_comm]
  · rename_i items hitems
    -- a list of texts is the only one that is read as texts
    have hlisted : Value.list items = .ofTexts listed ↔ Value.asTexts? items = some listed := by
      rw [Value.asTexts?_eq_some_iff, Value.ofTexts, Value.list.injEq]
    rw [hitems, Option.some_inj, hlisted]
    cases Value.asTexts? items <;> simp
  · rename_i other hlist hother
    rw [hother]
    constructor
    · exact fun h => nomatch h
    · rintro (⟨h, -⟩ | h)
      · cases h
      · exact absurd (Option.some_inj.mp h) (hlist _)

/-- A field is read as a list when a list stands there. -/
theorem listField_eq_ok_iff {fault : PayloadFault} {items : List Value} :
    listField fault fields name = .ok items ↔ Fields.get? name fields = some (.list items) := by
  unfold listField
  split
  · rename_i found hfound
    simp [hfound]
  · rename_i hnone
    constructor
    · exact fun h => nomatch h
    · exact fun h => absurd h (hnone items)

/-! ## Elements and their lists -/

/-- A value is read as a node when it is the record of one. -/
theorem readNode_eq_ok_iff {n : Node} : readNode index v = .ok n ↔ IsNode v n := by
  unfold readNode
  simp only [bind_eq_ok_iff, fieldsOf_eq_ok_iff, textField_eq_ok_iff, pure_eq_ok_iff]
  constructor
  · rintro ⟨fields, rfl, id, hid, label, hlabel, rfl⟩
    exact ⟨hid, hlabel⟩
  · rintro ⟨hid, hlabel⟩
    cases v with
    | record fields => exact ⟨fields, rfl, n.id, hid, n.label, hlabel, rfl⟩
    | _ => cases hid

/-- A value is read as an edge when it is the record of one. -/
theorem readEdge_eq_ok_iff {e : Edge} : readEdge index v = .ok e ↔ IsEdge v e := by
  unfold readEdge
  simp only [bind_eq_ok_iff, fieldsOf_eq_ok_iff, textField_eq_ok_iff, readTags_eq_ok_iff,
    pure_eq_ok_iff]
  constructor
  · rintro ⟨fields, rfl, listed, hlisted, id, hid, source, hsource, target, htarget, rfl⟩
    exact ⟨hid, hsource, htarget, Tags.increasing_ofList listed, listed, hlisted,
      fun tag => Tags.mem_ofList_iff⟩
  · rintro ⟨hid, hsource, htarget, hincreasing, listed, hlisted, hmem⟩
    cases v with
    | record fields =>
      -- an edge is given with its tags in order, and there is only one such list of them
      have htags := Tags.eq_ofList_iff.mpr ⟨hincreasing, hmem⟩
      refine ⟨fields, rfl, listed, hlisted, e.id, hid, e.source, hsource, e.target, htarget, ?_⟩
      rw [← htags]
    | _ => cases hid

/-- A list is read when each element is, with what it is read as. -/
theorem readAll_eq_ok_iff {α : Type} {read : Nat → Value → Except PayloadFault α}
    {Is : Value → α → Prop} (hread : ∀ index v a, read index v = .ok a ↔ Is v a) {vs : List Value}
    {as : List α} : readAll read index vs = .ok as ↔ List.Forall₂ Is vs as := by
  induction vs generalizing index as with
  | nil =>
    rw [readAll, List.forall₂_nil_left_iff, Except.ok.injEq, eq_comm]
  | cons v vs ih =>
    rw [readAll]
    simp only [bind_eq_ok_iff, hread, ih, pure_eq_ok_iff]
    rw [List.forall₂_cons_left_iff]
    constructor
    · rintro ⟨a, ha, rest, hrest, rfl⟩
      exact ⟨a, rest, ha, hrest, rfl⟩
    · rintro ⟨a, rest, ha, hrest, rfl⟩
      exact ⟨a, ha, rest, hrest, rfl⟩

theorem readNodes_eq_ok_iff {vs : List Value} {nodes : List Node} :
    readAll readNode index vs = .ok nodes ↔ List.Forall₂ IsNode vs nodes := by
  apply readAll_eq_ok_iff
  intro index v n
  exact readNode_eq_ok_iff

theorem readEdges_eq_ok_iff {vs : List Value} {edges : List Edge} :
    readAll readEdge index vs = .ok edges ↔ List.Forall₂ IsEdge vs edges := by
  apply readAll_eq_ok_iff
  intro index v e
  exact readEdge_eq_ok_iff

end Placement.Graph
