import Placement.Proofs.Chain.Rule

/-!
# Placement.Proofs.Chain.Stale — sites that lie outside their document

A site is stale when its document was shortened behind the back of whoever lists it:
its line or its character, which may be any integer, is not there any more. A pass
leaves stale sites out, wherever they stand in the list (`track_of_stale`). It asks
for no line that the document does not have: what such a line would answer makes no
difference (`trackFrom_of_sameInside`). Asking for one fails in any document, so a
pass that comes to its end did not do it.

* `SameInside` — two documents that differ at most in how they refuse the lines that
  they do not have;
* `SameInside.inBounds`, `SameInside.isContinuation`, ... — all questions that a pass
  puts to a document have the same answers in both.
-/

namespace Placement

/-! ## Lines outside a document -/

/-- The lines of `d`, and no other ones, are read in `e` as they are in `d`. -/
structure Document.SameInside (d e : Document) : Prop where
  uri : e.uri = d.uri
  lineCount : e.lineCount = d.lineCount
  lineAt : ∀ line, d.HasLine line → e.lineAt line = d.lineAt line

namespace Document.SameInside

variable {d e : Document} {line : Int} {p : Position}

theorem inBounds (h : SameInside d e) (p : Position) : e.inBounds p = d.inBounds p := by
  unfold Document.inBounds
  rw [h.lineCount]
  by_cases hline : 0 ≤ p.line ∧ p.line < d.lineCount
  · rw [if_pos hline, if_pos hline, h.lineAt p.line hline]
  · rw [if_neg hline, if_neg hline]

theorem isContinuation (h : SameInside d e) (hl : d.HasLine line) :
    e.isContinuation line = d.isContinuation line := by
  unfold Document.isContinuation
  rw [h.lineAt line hl]

theorem isMethodCall (h : SameInside d e) (hl : d.HasLine p.line) :
    e.isMethodCall p = d.isMethodCall p := by
  unfold Document.isMethodCall
  rw [h.lineAt p.line hl]

/-- A word is searched for on a line that the document has, and on no other. -/
theorem wordRange? (h : SameInside d e) (p : Position) : e.wordRange? p = d.wordRange? p := by
  unfold Document.wordRange?
  rw [h.lineCount]
  by_cases hline : 0 ≤ p.line ∧ p.line < d.lineCount
  · rw [if_pos hline, if_pos hline, h.lineAt p.line hline]
  · rw [if_neg hline, if_neg hline]

/-- The stretch of a site is the same one, whether there is a word or not. -/
theorem sourceRange (h : SameInside d e) (s : Site) :
    Chain.sourceRange e s = Chain.sourceRange d s := by
  unfold Chain.sourceRange
  rw [h.wordRange?]

end Document.SameInside

namespace Chain

variable (operators : Operators) {backend : Backend} {limit : Number} {d e : Document}

/-- A hover is asked for by the name of the document, and its position is looked up inside. -/
theorem resolve_of_sameInside (h : d.SameInside e) (p : Position) (method : Bool) :
    Query.resolve backend limit e p method = Query.resolve backend limit d p method := by
  have hhover : Query.hoverType backend limit e p method =
      Query.hoverType backend limit d p method := by
    unfold Query.hoverType
    rw [h.uri]
  unfold Query.resolve
  rw [h.inBounds, hhover]

/-- Taking over a location asks for the stretch of the site only. -/
theorem inheritVisit_of_sameInside (h : d.SameInside e) (state : State) (s : Site)
    (typeText : Option Text) :
    inheritVisit operators e state s typeText = inheritVisit operators d state s typeText := by
  unfold inheritVisit inherited
  rw [h.sourceRange]

/-- So does a visit that found a type text. -/
theorem typedVisit_of_sameInside (h : d.SameInside e) (state : State) (s : Site) (t : Text) :
    typedVisit operators e state s t = typedVisit operators d state s t := by
  unfold typedVisit
  rw [inheritVisit_of_sameInside operators h, h.sourceRange]

/-- The visit of a site on a line of the document asks for no other line. -/
theorem visit_of_sameInside (h : d.SameInside e) {s : Site} (hl : d.HasLine s.position.line)
    (state : State) :
    visit operators backend limit e state s = visit operators backend limit d state s := by
  unfold visit
  rw [h.isContinuation hl, h.isMethodCall hl]
  simp only [resolve_of_sameInside h, inheritVisit_of_sameInside operators h,
    typedVisit_of_sameInside operators h]

/-- A pass asks for no line that the document does not have. -/
theorem trackFrom_of_sameInside (h : d.SameInside e) (state : State) (sites : List Site) :
    trackFrom operators backend limit e state sites =
      trackFrom operators backend limit d state sites := by
  -- each visit changes the state, so the induction is over the sites for all states
  induction sites generalizing state with
  | nil => rfl
  | cons s more ih =>
    unfold trackFrom
    rw [h.inBounds]
    cases hbounds : d.inBounds s.position with
    | error fault => rfl
    | ok logged =>
      have hread := fun hline => Document.not_mem_broken_of_inBounds hbounds hline
      rcases d.inBounds_eq_ok hread with ⟨notices, hok⟩
      cases hbounds.symm.trans hok
      -- only a site on a line of the document is visited
      by_cases hin : d.holds s.position = true
      · have hl := (Document.holds_iff.mp hin).1
        simp only [visit_of_sameInside operators h hl, ih]
      · rw [Bool.not_eq_true] at hin
        simp only [hin, ih]
        rfl

/-! ## Stale sites -/

/-- The visited sites are those inside the document. -/
theorem visited_inside (d : Document) (sites : List Site) :
    visited d (inside d sites) = visited d sites := by
  unfold visited
  have hinside : inside d (inside d sites) = inside d sites := by
    unfold inside
    rw [List.filter_filter]
    simp only [Bool.and_self]
  rw [hinside]

/-- A pass over a readable document comes to its end unless a hover is cancelled, whichever
positions its sites have. It has the attributions and the requests of the pass over those of them
that lie inside the document, and asks for no line that the document does not have. -/
theorem track_of_stale (sites : List Site) (hread : d.Readable)
    (hreply : ∀ p, (backend (.hover d.uri p)).settle "hover".text limit ≠ none) :
    (∃ found, (track operators backend limit d sites).outcome = .ok found ∧
      (track operators backend limit d (inside d sites)).outcome = .ok found) ∧
    (track operators backend limit d sites).requests =
      (track operators backend limit d (inside d sites)).requests ∧
    ∀ e, d.SameInside e →
      track operators backend limit e sites = track operators backend limit d sites := by
  have hs : ∀ sites : List Site, ∀ s ∈ sites, Undisturbed backend limit d s :=
    fun _ s _ => undisturbed_of_readable hread hreply s
  have hall := track_yields operators (hs sites)
  have hinside := track_yields operators (hs (inside d sites))
  rw [visited_inside] at hinside
  refine ⟨⟨_, hall.gives, hinside.gives⟩, ?_, ?_⟩
  · rw [hall.asks, hinside.asks]
  · intro e hsame
    exact trackFrom_of_sameInside operators hsame none (inSourceOrder sites)

/-- The two sites, with stale ones in front of them, between them, and behind. -/
def staleSites : List Site :=
  [⟨⟨-1, 0⟩, "map".text⟩, ⟨⟨1, 5⟩, "source_iter".text⟩, ⟨⟨1, 40⟩, "map".text⟩,
    ⟨⟨2, -7⟩, "map".text⟩, ⟨⟨3, 5⟩, "map".text⟩, ⟨⟨4, 0⟩, "map".text⟩]

/-- Stale sites around the two sites of two statements change nothing. -/
theorem track_of_stale_two_statements :
    inside twoStatements staleSites = twoSites ∧ twoStatements.Readable ∧
    (∀ p, (firstOnly (.hover twoStatements.uri p)).settle "hover".text (.int 5000) ≠ none) ∧
    ∃ found, (track .standard firstOnly (.int 5000) twoStatements staleSites).outcome = .ok found ∧
      (track .standard firstOnly (.int 5000) twoStatements twoSites).outcome = .ok found := by
  have hinside : inside twoStatements staleSites = twoSites := by decide +kernel
  have hread : twoStatements.Readable := Document.readable_of_broken_eq_nil rfl
  have hreply := firstOnly_answers twoStatements.uri
  have hpass := (track_of_stale .standard staleSites hread hreply).1
  rw [hinside] at hpass
  exact ⟨hinside, hread, hreply, hpass⟩

end Chain

end Placement
