import Placement.Graph.Classifier
import Placement.Proofs.Graph.Reading
import Placement.Proofs.Graph.Wording

/-!
# Placement.Proofs.Graph.Refusal — the first offence of a payload

A check is a condition with the fault that it is reported as when it does not hold. The
`checks` of a payload are listed in a fixed order: it is a record, it has a list of
nodes and a list of edges, then those of the nodes by their numbers, and then those of
the edges. Each is said of the payload by itself, so many of them may fail at once.

A step of reading `Reports` some checks when it refuses with the first one that fails,
and gives a value when none does. Steps one after the other report the checks of both
(`Reports.bind`), so a list reports those of its elements (`reports_readAll`) and a
payload all of its own (`reports_classifyPayload`). All checks hold of a payload with
the shape of a graph, and of no other (`graphShape_iff`).

A classifier keeps the counts of the last classification that was not refused, step by
step (`lastSummary_after`) and so through every history (`lastSummary_afterAll`).
`classifyPayload_refuses_first` puts these together.
-/

namespace Placement.Graph

variable {α β : Type} {element : Element} {index : Nat} {name : Text} {v payload : Value}
  {fields : Fields} {fault : PayloadFault}

/-! ## Shapes -/

/-- A value is a record. -/
def IsRecord (v : Value) : Prop := ∃ fields, v = .record fields

/-- A value has a text in a field. -/
def HasText (name : Text) (v : Value) : Prop := ∃ t, v.get? name = some (.text t)

/-- A value has a list in a field. -/
def HasList (name : Text) (v : Value) : Prop := ∃ items, v.get? name = some (.list items)

/-- A value has no field for tags, or a list of texts in it. -/
def TagsListed (v : Value) : Prop :=
  v.get? tagsField = none ∨ ∃ tags, v.get? tagsField = some (.ofTexts tags)

/-- A record with the texts of a node. -/
structure NodeShape (v : Value) : Prop where
  isRecord : IsRecord v
  id : HasText "id".text v
  label : HasText "shortLabel".text v

/-- A record with the texts of an edge, and with no tags but texts. -/
structure EdgeShape (v : Value) : Prop where
  isRecord : IsRecord v
  tags : TagsListed v
  id : HasText "id".text v
  source : HasText "source".text v
  target : HasText "target".text v

/-- A record with a list of nodes and a list of edges. -/
structure GraphShape (v : Value) : Prop where
  isRecord : IsRecord v
  nodes : ∃ items, v.get? "nodes".text = some (.list items) ∧ ∀ n ∈ items, NodeShape n
  edges : ∃ items, v.get? "edges".text = some (.list items) ∧ ∀ e ∈ items, EdgeShape e

/-! ## Checks -/

/-- A condition, and the fault that is reported when it does not hold. -/
structure Check where
  fault : PayloadFault
  holds : Prop

/-- The fault is that of the first check that does not hold. -/
def FirstFailing (checks : List Check) (fault : PayloadFault) : Prop :=
  ∃ front P back, checks = front ++ ⟨fault, P⟩ :: back ∧ (∀ c ∈ front, c.holds) ∧ ¬ P

/-- The checks of a node. -/
def nodeChecks (index : Nat) (v : Value) : List Check :=
  [⟨.elementNotARecord .node index, IsRecord v⟩,
    ⟨.missingField .node index "id".text, HasText "id".text v⟩,
    ⟨.missingField .node index "shortLabel".text, HasText "shortLabel".text v⟩]

/-- The checks of an edge. -/
def edgeChecks (index : Nat) (v : Value) : List Check :=
  [⟨.elementNotARecord .edge index, IsRecord v⟩,
    ⟨.badTags index, TagsListed v⟩,
    ⟨.missingField .edge index "id".text, HasText "id".text v⟩,
    ⟨.missingField .edge index "source".text, HasText "source".text v⟩,
    ⟨.missingField .edge index "target".text, HasText "target".text v⟩]

/-- The checks of some elements, numbered from `index`. -/
def elementChecks (checksOf : Nat → Value → List Check) (index : Nat) (items : List Value) :
    List Check :=
  (items.zipIdx index).flatMap fun (v, index) => checksOf index v

theorem elementChecks_cons (checksOf : Nat → Value → List Check) (index : Nat) (v : Value)
    (items : List Value) :
    elementChecks checksOf index (v :: items) =
      checksOf index v ++ elementChecks checksOf (index + 1) items := rfl

/-- The elements of a list in a field, if there is one. -/
def itemsIn (name : Text) (v : Value) : List Value :=
  match v.get? name with
  | some (.list items) => items
  | _ => []

/-- The checks of a payload. -/
def checks (payload : Value) : List Check :=
  ⟨.notARecord payload.kindName, IsRecord payload⟩ ::
    ⟨.noNodes, HasList "nodes".text payload⟩ ::
    ⟨.noEdges, HasList "edges".text payload⟩ ::
    (elementChecks nodeChecks 0 (itemsIn "nodes".text payload) ++
      elementChecks edgeChecks 0 (itemsIn "edges".text payload))

/-! ## The first check that fails -/

/-- The first check fails, or else the first one that fails is behind it. -/
theorem firstFailing_cons_iff {c : Check} {cs : List Check} :
    FirstFailing (c :: cs) fault ↔
      ¬ c.holds ∧ fault = c.fault ∨ c.holds ∧ FirstFailing cs fault := by
  unfold FirstFailing
  constructor
  · rintro ⟨front, P, back, hcs, hfront, hP⟩
    -- the checks that hold in front of the failing one: none, or the first and more
    cases front with
    | nil =>
      rcases List.cons.inj hcs with ⟨rfl, -⟩
      exact Or.inl ⟨hP, rfl⟩
    | cons d front =>
      rcases List.cons.inj hcs with ⟨rfl, rfl⟩
      rcases List.forall_mem_cons.mp hfront with ⟨hd, hfront⟩
      exact Or.inr ⟨hd, front, P, back, rfl, hfront, hP⟩
  · rintro (⟨hc, rfl⟩ | ⟨hc, front, P, back, rfl, hfront, hP⟩)
    · exact ⟨[], c.holds, cs, rfl, by simp, hc⟩
    · exact ⟨c :: front, P, back, rfl, List.forall_mem_cons.mpr ⟨hc, hfront⟩, hP⟩

theorem not_firstFailing_nil : ¬ FirstFailing [] fault := by
  rintro ⟨front, P, back, hnil, -⟩
  simp at hnil

/-- Checks behind others count only when all of those hold. -/
theorem firstFailing_append_iff {cs ds : List Check} :
    FirstFailing (cs ++ ds) fault ↔
      FirstFailing cs fault ∨ (∀ c ∈ cs, c.holds) ∧ FirstFailing ds fault := by
  induction cs with
  | nil => simp [not_firstFailing_nil]
  | cons c cs ih =>
    rw [List.cons_append, firstFailing_cons_iff, firstFailing_cons_iff, ih, List.forall_mem_cons]
    by_cases hc : c.holds <;> simp [hc]

/-- Only one fault is the first. -/
theorem FirstFailing.unique {cs : List Check} {other : PayloadFault} (h : FirstFailing cs fault)
    (hother : FirstFailing cs other) : fault = other := by
  induction cs with
  | nil => exact absurd h not_firstFailing_nil
  | cons c cs ih =>
    rw [firstFailing_cons_iff] at h hother
    -- either both faults are that of the first check, or both come behind it
    rcases h with ⟨hno, rfl⟩ | ⟨hc, h⟩ <;> rcases hother with ⟨hno', rfl⟩ | ⟨hc', hother⟩
    · rfl
    · exact absurd hc' hno
    · exact absurd hc hno'
    · exact ih h hother

/-- Some check is the first to fail unless all of them hold. -/
theorem exists_firstFailing_iff {cs : List Check} :
    (∃ fault, FirstFailing cs fault) ↔ ¬ ∀ c ∈ cs, c.holds := by
  induction cs with
  | nil => simp [not_firstFailing_nil]
  | cons c cs ih =>
    simp only [firstFailing_cons_iff, List.forall_mem_cons]
    by_cases hc : c.holds <;> simp [hc, ih]

/-! ## Steps that report their checks -/

/-- A step refuses with the first of some checks that fails, and gives a value when none does. -/
structure Reports (x : Except PayloadFault α) (cs : List Check) : Prop where
  refused : ∀ fault, x = .error fault → FirstFailing cs fault
  accepted : ∀ a, x = .ok a → ∀ c ∈ cs, c.holds

namespace Reports

variable {x : Except PayloadFault α} {f : α → Except PayloadFault β} {cs ds : List Check}

/-- A step that reports its checks refuses with a fault exactly when it is that of the first one
that fails. -/
theorem eq_error_iff (h : Reports x cs) : x = .error fault ↔ FirstFailing cs fault := by
  constructor
  · exact h.refused fault
  · intro hfirst
    cases hx : x with
    | ok a => exact absurd (h.accepted a hx) (exists_firstFailing_iff.mp ⟨fault, hfirst⟩)
    | error other => rw [(h.refused other hx).unique hfirst]

theorem pure (a : α) : Reports (pure a : Except PayloadFault α) [] :=
  ⟨fun _ h => (nomatch h), fun _ _ _ h => absurd h List.not_mem_nil⟩

/-- A step with one fault reports it when its condition does not hold. -/
theorem single {P : Prop} (hok : (∃ a, x = .ok a) ↔ P)
    (hfault : ∀ other, x = .error other → other = fault) : Reports x [⟨fault, P⟩] := by
  constructor
  · intro other hx
    -- the step would have given a value
    have hP : ¬ P := by
      rw [← hok]
      rintro ⟨a, ha⟩
      rw [ha] at hx
      cases hx
    exact firstFailing_cons_iff.mpr (Or.inl ⟨hP, hfault other hx⟩)
  · intro a ha c hc
    rw [List.mem_singleton.mp hc]
    exact hok.mp ⟨a, ha⟩

/-- A step, and one behind it. -/
theorem bind (hx : Reports x cs) (hf : ∀ a, x = .ok a → Reports (f a) ds) :
    Reports (x >>= f) (cs ++ ds) := by
  cases hcase : x with
  -- the first part fails: none of the later checks is reached
  | error stop =>
    constructor
    · intro fault herror
      cases herror
      exact firstFailing_append_iff.mpr (Or.inl (hx.refused stop hcase))
    · intro b hb
      cases hb
  -- the first part holds: what the second reports decides
  | ok a =>
    have hall := hx.accepted a hcase
    have hrest := hf a hcase
    constructor
    · intro fault herror
      exact firstFailing_append_iff.mpr (Or.inr ⟨hall, hrest.refused fault herror⟩)
    · intro b hb c hc
      rcases List.mem_append.mp hc with hc | hc
      · exact hall c hc
      · exact hrest.accepted b hb c hc

/-- A check that holds may stand in front. -/
theorem cons {c : Check} (hc : c.holds) (hx : Reports x cs) : Reports x (c :: cs) := by
  constructor
  · intro fault herror
    exact firstFailing_cons_iff.mpr (Or.inr ⟨hc, hx.refused fault herror⟩)
  · intro a ha
    exact List.forall_mem_cons.mpr ⟨hc, hx.accepted a ha⟩

/-- A check that fails may stand in front of a step that refuses for it. -/
theorem error {c : Check} (hc : ¬ c.holds) :
    Reports (.error c.fault : Except PayloadFault α) (c :: cs) := by
  constructor
  · intro fault herror
    cases herror
    exact firstFailing_cons_iff.mpr (Or.inl ⟨hc, rfl⟩)
  · intro a ha
    cases ha

end Reports

theorem reports_fieldsOf :
    Reports (fieldsOf element index v) [⟨.elementNotARecord element index, IsRecord v⟩] := by
  refine Reports.single (exists_congr fun fields => fieldsOf_eq_ok_iff) ?_
  intro other h
  cases v <;> cases h <;> rfl

theorem reports_textField :
    Reports (textField element index fields name)
      [⟨.missingField element index name, HasText name (.record fields)⟩] := by
  refine Reports.single (exists_congr fun t => textField_eq_ok_iff) ?_
  intro other h
  unfold textField at h
  split at h <;> cases h
  rfl

/-- Tags are refused when they are there and not a list of texts. -/
theorem reports_readTags :
    Reports (readTags index fields) [⟨.badTags index, TagsListed (.record fields)⟩] := by
  refine Reports.single ?_ ?_
  · simp only [readTags_eq_ok_iff, ListsTags, TagsListed]
    constructor
    · rintro ⟨listed, ⟨hnone, -⟩ | hlisted⟩
      · exact Or.inl hnone
      · exact Or.inr ⟨listed, hlisted⟩
    · rintro (hnone | ⟨listed, hlisted⟩)
      · exact ⟨[], Or.inl ⟨hnone, rfl⟩⟩
      · exact ⟨listed, Or.inr hlisted⟩
  · -- no other fault leaves the reader of the tags
    intro other h
    unfold readTags at h
    split at h
    · cases h
    · split at h <;> cases h
      rfl
    · cases h
      rfl

theorem reports_listField :
    Reports (listField fault fields name) [⟨fault, HasList name (.record fields)⟩] := by
  refine Reports.single (exists_congr fun items => listField_eq_ok_iff) ?_
  intro other h
  unfold listField at h
  split at h <;> cases h
  rfl

/-! ## Elements and payloads -/

/-- A node reports its checks one by one. -/
theorem reports_readNode : Reports (readNode index v) (nodeChecks index v) := by
  -- behind the first step the value is known to be a record
  refine Reports.bind reports_fieldsOf fun fields hfields => ?_
  rw [fieldsOf_eq_ok_iff] at hfields
  subst hfields
  refine Reports.bind reports_textField fun id _ => ?_
  exact Reports.bind reports_textField fun label _ => Reports.pure _

/-- So does an edge, whose tags are looked at first. -/
theorem reports_readEdge : Reports (readEdge index v) (edgeChecks index v) := by
  refine Reports.bind reports_fieldsOf fun fields hfields => ?_
  rw [fieldsOf_eq_ok_iff] at hfields
  subst hfields
  refine Reports.bind reports_readTags fun tags _ => ?_
  refine Reports.bind reports_textField fun id _ => ?_
  refine Reports.bind reports_textField fun source _ => ?_
  exact Reports.bind reports_textField fun target _ => Reports.pure _

/-- A list reports the checks of its elements, one element after the other. -/
theorem reports_readAll {read : Nat → Value → Except PayloadFault α}
    {checksOf : Nat → Value → List Check}
    (hread : ∀ index v, Reports (read index v) (checksOf index v)) (items : List Value) :
    Reports (readAll read index items) (elementChecks checksOf index items) := by
  induction items generalizing index with
  | nil => exact Reports.pure []
  | cons v items ih =>
    rw [elementChecks_cons, ← List.append_nil (elementChecks checksOf (index + 1) items)]
    refine Reports.bind (hread index v) fun a _ => ?_
    exact Reports.bind ih fun rest _ => Reports.pure _

/-- The elements of a list that is there are looked at. -/
theorem itemsIn_eq {items : List Value} (h : v.get? name = some (.list items)) :
    itemsIn name v = items := by
  unfold itemsIn
  rw [h]

/-- A payload reports all its checks. -/
theorem reports_classifyPayload (operators : Operators) (payload : Value) :
    Reports (classifyPayload operators payload) (checks payload) := by
  by_cases hrecord : IsRecord payload
  · rcases hrecord with ⟨fields, rfl⟩
    -- the payload is a record, so its first check holds; the others go by the steps
    refine Reports.cons ⟨fields, rfl⟩ ?_
    refine Reports.bind reports_listField fun nodes hnodes => ?_
    refine Reports.bind reports_listField fun edges hedges => ?_
    rw [listField_eq_ok_iff] at hnodes hedges
    rw [itemsIn_eq (v := .record fields) hnodes, itemsIn_eq (v := .record fields) hedges]
    refine Reports.bind (reports_readAll (fun _ _ => reports_readNode) nodes) fun _ _ => ?_
    rw [← List.append_nil (elementChecks edgeChecks 0 edges)]
    exact Reports.bind (reports_readAll (fun _ _ => reports_readEdge) edges) fun _ _ =>
      Reports.pure _
  · have hrefused : classifyPayload operators payload = .error (.notARecord payload.kindName) := by
      cases payload with
      | record fields => exact absurd ⟨fields, rfl⟩ hrecord
      | _ => rfl
    rw [hrefused]
    exact Reports.error (c := ⟨.notARecord payload.kindName, IsRecord payload⟩) hrecord

/-! ## Payloads without offences -/

/-- The checks of a list hold when those of each element say the same of it. -/
theorem forall_elementChecks_iff {checksOf : Nat → Value → List Check} {P : Value → Prop}
    (h : ∀ index v, (∀ c ∈ checksOf index v, c.holds) ↔ P v) {items : List Value} :
    (∀ c ∈ elementChecks checksOf index items, c.holds) ↔ ∀ v ∈ items, P v := by
  induction items generalizing index with
  | nil => simp [elementChecks]
  | cons v items ih =>
    rw [elementChecks_cons, List.forall_mem_append, h, ih, List.forall_mem_cons]

/-- The checks of a node say that it has the shape of one. -/
theorem forall_nodeChecks_iff (index : Nat) (v : Value) :
    (∀ c ∈ nodeChecks index v, c.holds) ↔ NodeShape v := by
  simp only [nodeChecks, List.forall_mem_cons, List.not_mem_nil, false_implies, implies_true,
    and_true]
  exact ⟨fun ⟨hrecord, hid, hlabel⟩ => ⟨hrecord, hid, hlabel⟩,
    fun ⟨hrecord, hid, hlabel⟩ => ⟨hrecord, hid, hlabel⟩⟩

/-- The checks of an edge say that it has the shape of one. -/
theorem forall_edgeChecks_iff (index : Nat) (v : Value) :
    (∀ c ∈ edgeChecks index v, c.holds) ↔ EdgeShape v := by
  simp only [edgeChecks, List.forall_mem_cons, List.not_mem_nil, false_implies, implies_true,
    and_true]
  constructor
  · rintro ⟨hrecord, htags, hid, hsource, htarget⟩
    exact ⟨hrecord, htags, hid, hsource, htarget⟩
  · rintro ⟨hrecord, htags, hid, hsource, htarget⟩
    exact ⟨hrecord, htags, hid, hsource, htarget⟩

/-- A list with a property in every element is a list, and all its elements have the property. -/
theorem exists_list_iff {P : Value → Prop} :
    (HasList name v ∧ ∀ x ∈ itemsIn name v, P x) ↔
      ∃ items, v.get? name = some (.list items) ∧ ∀ x ∈ items, P x := by
  constructor
  · rintro ⟨⟨items, hitems⟩, hall⟩
    rw [itemsIn_eq hitems] at hall
    exact ⟨items, hitems, hall⟩
  · rintro ⟨items, hitems, hall⟩
    rw [← itemsIn_eq hitems] at hall
    exact ⟨⟨items, hitems⟩, hall⟩

/-- All checks hold of a payload with the shape of a graph, and of no other. -/
theorem graphShape_iff : GraphShape payload ↔ ∀ c ∈ checks payload, c.holds := by
  simp only [checks, List.forall_mem_cons, List.forall_mem_append,
    forall_elementChecks_iff forall_nodeChecks_iff, forall_elementChecks_iff forall_edgeChecks_iff]
  constructor
  · rintro ⟨hrecord, hnodes, hedges⟩
    rw [← exists_list_iff] at hnodes hedges
    exact ⟨hrecord, hnodes.1, hedges.1, hnodes.2, hedges.2⟩
  · rintro ⟨hrecord, hnodes, hedges, hnode, hedge⟩
    exact ⟨hrecord, exists_list_iff.mp ⟨hnodes, hnode⟩, exists_list_iff.mp ⟨hedges, hedge⟩⟩

/-! ## Histories -/

namespace Classifier

variable {c : Classifier}

/-- What happens to a classifier: a classification, or a change of its operators. -/
inductive Event where
  | classify (nodes : List Node) (edges : List Edge)
  | payload (payload : Value)
  | setOperators (operators : Operators)

/-- The classifier behind an event. -/
def after (c : Classifier) : Event → Classifier
  | .classify nodes edges => (c.classify nodes edges).2
  | .payload payload => (c.classifyPayload payload).2
  | .setOperators operators => { c with operators }

/-- The classifier behind some events. -/
def afterAll (c : Classifier) (events : List Event) : Classifier := events.foldl after c

/-- What is counted at an event; a payload that is refused counts nothing. -/
def counted? (c : Classifier) : Event → Option Summary
  | .classify nodes edges => some (summarize (Graph.classify c.operators nodes edges))
  | .payload payload => (Graph.classifyPayload c.operators payload).toOption.map (·.2)
  | .setOperators _ => none

/-- What is counted at some events, one after the other. -/
def counted (c : Classifier) : List Event → List Summary
  | [] => []
  | x :: more => (c.counted? x).toList ++ counted (c.after x) more

/-- A classifier keeps what was counted last. -/
theorem lastSummary_after (c : Classifier) (x : Event) :
    (c.after x).lastSummary = (c.counted? x).getD c.lastSummary := by
  cases x with
  | classify nodes edges => rfl
  | payload payload =>
    simp only [after, counted?, classifyPayload]
    cases Graph.classifyPayload c.operators payload <;> rfl
  | setOperators operators => rfl

/-- By induction it keeps what was counted last in a whole history. -/
theorem lastSummary_afterAll (c : Classifier) (events : List Event) :
    (c.afterAll events).lastSummary = (c.counted events).getLast?.getD c.lastSummary := by
  induction events generalizing c with
  | nil => rfl
  | cons x more ih =>
    have hstep : c.afterAll (x :: more) = (c.after x).afterAll more := rfl
    rw [hstep, ih, lastSummary_after, counted, List.getLast?_append]
    -- what is counted later hides what this event counted
    cases (counted (c.after x) more).getLast? with
    | some summary => rfl
    | none => cases c.counted? x <;> rfl

/-- A payload that is refused leaves the classifier as it was. -/
theorem classifyPayload_of_error (h : (c.classifyPayload payload).1 = .error fault) :
    (c.classifyPayload payload).2 = c := by
  unfold classifyPayload at h ⊢
  cases hanswer : Graph.classifyPayload c.operators payload with
  | ok answer =>
    rw [hanswer] at h
    cases h
  | error stop => rfl

/-- A classifier refuses what the classification refuses. -/
theorem fst_classifyPayload_eq_error_iff :
    (c.classifyPayload payload).1 = .error fault ↔
      Graph.classifyPayload c.operators payload = .error fault := by
  unfold classifyPayload
  cases Graph.classifyPayload c.operators payload <;> simp

end Classifier

/-- Behind every history, a payload is refused exactly when it has not the shape of a graph, with
the fault of its first check that fails, whose wording is that of no other fault; and then the
classifier is left as it was, with the counts of the last classification that was done. -/
theorem classifyPayload_refuses_first (operators : Operators) (events : List Classifier.Event)
    (payload : Value) :
    let c := (Classifier.start operators).afterAll events
    ((∃ fault, (c.classifyPayload payload).1 = .error fault) ↔ ¬ GraphShape payload) ∧
      (∀ fault, (c.classifyPayload payload).1 = .error fault ↔
        FirstFailing (checks payload) fault) ∧
      ∀ fault, (c.classifyPayload payload).1 = .error fault →
        (∀ other : PayloadFault, other.message = fault.message → other = fault) ∧
          (c.classifyPayload payload).2 = c ∧
          (c.classifyPayload payload).2.lastSummary =
            ((Classifier.start operators).counted events).getLast?.getD .zero := by
  intro c
  -- the reading reports the checks in order, whatever calls were made before
  have hreports := reports_classifyPayload c.operators payload
  have hfirst : ∀ fault, (c.classifyPayload payload).1 = .error fault ↔
      FirstFailing (checks payload) fault := fun fault =>
    Classifier.fst_classifyPayload_eq_error_iff.trans hreports.eq_error_iff
  refine ⟨?_, hfirst, ?_⟩
  · rw [graphShape_iff, ← exists_firstFailing_iff]
    exact exists_congr hfirst
  · intro fault hfault
    have hkept := Classifier.classifyPayload_of_error hfault
    refine ⟨fun other h => message_injective h, hkept, ?_⟩
    rw [hkept]
    exact Classifier.lastSummary_afterAll (.start operators) events

/-- A graph with two offences: its node has no label, and the tags of its edge are no list. -/
def flawedGraph : Value :=
  .record
    [("nodes".text, .list [.record [("id".text, .text "1".text)]]),
      ("edges".text, .list [.record [(tagsField, .null)]])]

example : ((Classifier.start .standard).classifyPayload flawedGraph).1 =
    .error (.missingField .node 0 "shortLabel".text) := rfl

end Placement.Graph
