import Placement.Backend.Script
import Placement.Proofs.Run
import Placement.Session

/-!
# Placement.Proofs.Session.SameText — a pass depends on the text only

Two documents have the same text when they have the same lines and the same of
them are broken; name and version may differ. All questions about positions and
lines then have the same answers. A backend that knows hovers by their position
does not look at the name either, and so a pass over the two documents has the
same outcome (`pass_outcome_eq`). Backends that answer from tables are of this
kind (`Script.hoversByPosition`).
-/

namespace Placement

/-! ## Backends -/

/-- The reaction to a hover does not depend on the name of the document. -/
def Backend.HoversByPosition (backend : Backend) : Prop :=
  ∀ uri uri' p, backend (.hover uri p) = backend (.hover uri' p)

theorem Script.hoversByPosition (script : Script) : script.backend.HoversByPosition := by
  intro uri uri' p
  rfl

/-! ## Documents -/

/-- Two documents with the same lines, of which the same are broken. -/
structure Document.SameText (d d' : Document) : Prop where
  lines : d.lines = d'.lines
  broken : ∀ line, line ∈ d.broken ↔ line ∈ d'.broken

namespace Document.SameText

variable {d d' : Document}

theorem refl (d : Document) : SameText d d := ⟨rfl, fun _ => Iff.rfl⟩

theorem lineCount (h : SameText d d') : d.lineCount = d'.lineCount := by
  unfold Document.lineCount
  rw [h.lines]

theorem lineAt (h : SameText d d') (line : Int) : d.lineAt line = d'.lineAt line := by
  unfold Document.lineAt
  simp only [h.lines, h.broken line]

theorem inBounds (h : SameText d d') (p : Position) : d.inBounds p = d'.inBounds p := by
  unfold Document.inBounds
  rw [h.lineCount, h.lineAt]

/-- The same lines go on with a chain. -/
theorem isContinuation (h : SameText d d') (line : Int) :
    d.isContinuation line = d'.isContinuation line := by
  unfold Document.isContinuation
  rw [h.lineAt]

theorem isMethodCall (h : SameText d d') (p : Position) : d.isMethodCall p = d'.isMethodCall p := by
  unfold Document.isMethodCall
  rw [h.lineAt]

theorem wordRange? (h : SameText d d') (p : Position) : d.wordRange? p = d'.wordRange? p := by
  unfold Document.wordRange?
  rw [h.lineCount, h.lineAt]

/-- The same range is taken for a site. -/
theorem sourceRange (h : SameText d d') (s : Site) :
    Chain.sourceRange d s = Chain.sourceRange d' s := by
  unfold Chain.sourceRange
  rw [h.wordRange?]

end Document.SameText

/-! ## Sites -/

namespace Chain

variable {backend : Backend} {d d' : Document} (operators : Operators) (limit : Number)

/-- A hover shows the same type in both documents. -/
theorem hoverType_outcome_eq (hb : backend.HoversByPosition) (d d' : Document) (p : Position)
    (method : Bool) :
    (Query.hoverType backend limit d p method).outcome =
      (Query.hoverType backend limit d' p method).outcome := by
  -- the two requests differ in the name of the document only
  unfold Query.hoverType Query.asking
  rw [Run.outcome_bind, Run.outcome_bind]
  simp only [Backend.ask, hb d.uri d'.uri p]
  rfl

/-- A position has the same type in both documents. -/
theorem resolve_outcome_eq (hb : backend.HoversByPosition) (h : d.SameText d') (p : Position)
    (method : Bool) :
    (Query.resolve backend limit d p method).outcome =
      (Query.resolve backend limit d' p method).outcome := by
  unfold Query.resolve
  rw [h.inBounds]
  simp only [Run.outcome_bind]
  congr 1
  funext logged
  congr 1
  funext inside
  cases inside with
  | true =>
    simp only [if_true]
    rw [Run.outcome_bind, Run.outcome_bind, hoverType_outcome_eq limit hb d d' p method]
  | false => rfl

/-- A site that inherits its location has the same record in both documents. -/
theorem inheritVisit_eq (h : d.SameText d') (state : State) (s : Site) (typeText : Option Text) :
    inheritVisit operators d state s typeText = inheritVisit operators d' state s typeText := by
  unfold inheritVisit inherited
  rw [h.sourceRange]

/-- A site with a type has the same record in both documents. -/
theorem typedVisit_eq (h : d.SameText d') (state : State) (s : Site) (typeText : Text) :
    typedVisit operators d state s typeText = typedVisit operators d' state s typeText := by
  unfold typedVisit
  rw [inheritVisit_eq operators h, h.sourceRange]

/-- A visit to a site has the same outcome over both documents. -/
theorem visit_outcome_eq (hb : backend.HoversByPosition) (h : d.SameText d') (state : State)
    (s : Site) :
    (visit operators backend limit d state s).outcome =
      (visit operators backend limit d' state s).outcome := by
  unfold visit
  rw [h.isContinuation, h.isMethodCall]
  simp only [Run.outcome_bind, resolve_outcome_eq limit hb h, inheritVisit_eq operators h,
    typedVisit_eq operators h]

/-- A pass behind a state has the same outcome over documents with the same text. -/
theorem trackFrom_outcome_eq (hb : backend.HoversByPosition) (h : d.SameText d') (state : State)
    (sites : List Site) :
    (trackFrom operators backend limit d state sites).outcome =
      (trackFrom operators backend limit d' state sites).outcome := by
  -- a visit changes the state, so the induction is over the sites for all states
  induction sites generalizing state with
  | nil => rfl
  | cons s more ih =>
    unfold trackFrom
    rw [h.inBounds]
    simp only [Run.outcome_bind]
    congr 1
    funext logged
    congr 1
    funext inside
    cases inside with
    | true =>
      simp only [if_true]
      rw [Run.outcome_bind, Run.outcome_bind, visit_outcome_eq operators limit hb h]
      simp only [Run.outcome_bind, ih]
    | false =>
      simp only [Bool.false_eq_true, if_false]
      exact ih state

end Chain

/-! ## Declarations and passes -/

namespace Declaration

variable {d d' : Document}

/-- A struct is found at the same place. -/
theorem find_eq (h : d.SameText d') (name : Text) (number : Nat) (lines : List Text) :
    find d.broken name number lines = find d'.broken name number lines := by
  induction lines generalizing number with
  | nil => rfl
  | cons line more ih =>
    unfold find
    simp only [h.broken (number : Int), ih (number + 1)]

/-- The records declare the same structs. -/
theorem among_eq (h : d.SameText d') (found : List Attribution) :
    among d found = among d' found := by
  unfold among
  induction labels found with
  | nil => rfl
  | cons entry more ih =>
    rcases entry with ⟨label, location⟩
    unfold ofLabels
    rw [find_eq h, h.lines, ih]

end Declaration

/-- Passes over documents with the same text have the same outcome. -/
theorem Session.pass_outcome_eq {s : Session} {d d' : Document} (hb : s.backend.HoversByPosition)
    (h : d.SameText d') (sites : List Site) :
    (s.pass d sites).outcome = (s.pass d' sites).outcome := by
  unfold Session.pass Chain.track
  simp only [Run.outcome_bind, Chain.trackFrom_outcome_eq s.operators _ hb h,
    Declaration.among_eq h]

end Placement
