import Mathlib.Data.List.ReduceOption
import Placement.Proofs.Chain.Sighting
import Placement.Proofs.Run

/-!
# Placement.Proofs.Chain.Pass — a pass as a walk over sightings

A site is `Undisturbed` when its line can be read, if there is one, and its hover
is not cancelled, if it is asked for. The visit of such a site inside the
document issues one hover, and does to the state of the chain what its sighting
says (`visit_yields`). By induction a pass over undisturbed sites is a walk over
the sightings of those inside the document (`trackFrom_yields`). A pass that ends
with attributions met undisturbed sites only (`undisturbed_of_trackFrom`), and one
that fails met a broken line of the document (`trackFrom_faultsOnly`).
-/

namespace Placement.Chain

open Run (Yields)

variable (operators : Operators) {backend : Backend} {limit : Number} {d : Document}

/-- The hover that a pass asks for at a site. -/
def hoverAt (d : Document) (s : Site) : Request := .hover d.uri s.position

/-- Neither the line of the site nor its hover stops a pass. -/
structure Undisturbed (backend : Backend) (limit : Number) (d : Document) (s : Site) : Prop where
  readable : d.HasLine s.position.line → s.position.line ∉ d.broken
  answered : d.holds s.position = true →
    (backend (hoverAt d s)).settle "hover".text limit ≠ none

/-- Nothing stops a pass over a readable document whose hovers are not cancelled. -/
theorem undisturbed_of_readable (hread : d.Readable)
    (hreply : ∀ p, (backend (.hover d.uri p)).settle "hover".text limit ≠ none) (s : Site) :
    Undisturbed backend limit d s :=
  ⟨hread s.position.line, fun _ => hreply s.position⟩

/-! ## Single sites -/

/-- A site inside a document has a stretch, if its line can be read. -/
theorem sourceRange_eq_ok {s : Site} (hin : d.holds s.position = true)
    (hb : s.position.line ∉ d.broken) : sourceRange d s = .ok (stretch d s) := by
  have h := Document.holds_iff.mp hin
  have hline := h.1
  unfold Document.HasLine at hline
  -- the line is there and can be read, and the character is not below zero
  have hok : ∃ r, sourceRange d s = .ok r := by
    simp only [sourceRange, Document.wordRange?, if_pos hline, Document.lineAt_eq_ok h.1 hb,
      Document.wordBounds]
    exact ⟨_, by simp only [Except.bind, bind, h.2.1, if_true]; rfl⟩
  rcases hok with ⟨r, hr⟩
  simp only [stretch, hr, Except.toOption, Option.getD_some]

/-- The type text of a site is found with one hover, which may fail. -/
theorem resolve_yields {s : Site} (hs : Undisturbed backend limit d s)
    (hin : d.holds s.position = true) :
    Yields (Query.resolve backend limit d s.position (d.calls s.position)) [hoverAt d s]
      (hoverText backend limit d s.position) := by
  rcases d.inBounds_eq_ok hs.readable with ⟨notices, hbounds⟩
  cases hreply : (backend (.hover d.uri s.position)).settle "hover".text limit with
  | none => exact absurd hreply (hs.answered hin)
  | some reply =>
    have hask : Yields (backend.ask limit (.hover d.uri s.position)) [hoverAt d s] reply :=
      Yields.ask hreply
    unfold Query.resolve
    refine Yields.bind_silent (Yields.ofLine hbounds) ?_
    refine Yields.bind_silent (Yields.ofLogged _) ?_
    rw [show (Logged.withNotices notices (d.holds s.position)).value = true from hin]
    -- a hover that fails or is late shows no text, but it was asked for all the same
    cases reply with
    | ok answer =>
      simp only [if_true, hoverText, hreply]
      refine Yields.bind_last (a := .ok ((Hover.firstResult
        (Query.typeInHover (d.calls s.position)) (Reply.hoverTexts answer)).value)) ?_
        (Yields.pure _)
      unfold Query.hoverType Query.asking
      refine Yields.bind_last hask ?_
      exact Yields.bind_silent (Yields.ofLogged _) (Yields.pure _)
    | error failure =>
      simp only [if_true, hoverText, hreply]
      refine Yields.bind_last (a := .error failure) ?_ ?_
      · unfold Query.hoverType Query.asking
        exact Yields.bind_last hask (Yields.pure _)
      · exact Yields.bind_silent (Yields.note _) (Yields.pure _)

theorem inheritable_eq (state : State) (name : Text) :
    inheritable operators state name = if operators.isKnown name then state else none := by
  cases h : operators.isKnown name <;> cases state <;> simp [inheritable, h]

/-- A site takes over the location of the state if its operator is known. -/
theorem inheritVisit_yields {v : Sighting} (hin : d.holds v.site.position = true)
    (hb : v.site.position.line ∉ d.broken) (state : State) :
    Yields (inheritVisit operators d state v.site v.typeText) []
      ⟨(if operators.isKnown v.site.name then state else none).map (v.placedAt d), none⟩ := by
  unfold inheritVisit
  rw [inheritable_eq]
  cases (if operators.isKnown v.site.name then state else none) with
  | none => exact Yields.pure _
  | some l =>
    refine Yields.bind_silent (a := v.placedAt d l) ?_ (Yields.pure _)
    apply Yields.ofLine
    simp only [inherited, sourceRange_eq_ok hin hb]
    rfl

/-- The visit of a site with a type text finds what its sighting says. -/
theorem typedVisit_yields {v : Sighting} {t : Text} (ht : v.typeText = some t)
    (hin : d.holds v.site.position = true) (hb : v.site.position.line ∉ d.broken)
    (state : State) :
    Yields (typedVisit operators d state v.site t) []
      ⟨(v.own?.or (if v.asks operators then state else none)).map (v.placedAt d), v.own?⟩ := by
  have hinherit := inheritVisit_yields operators hin hb state
  rw [ht] at hinherit
  unfold typedVisit
  -- the cases of the visit, each beside what its sighting says
  by_cases hself : SelfLike t
  · have hown : v.own? = none := by simp [Sighting.own?, ht, hself]
    have hasks : v.asks operators = operators.isKnown v.site.name := by
      simp [Sighting.asks, ht, hself]
    rw [if_pos (isSelf_iff.mpr hself), hown, hasks]
    exact hinherit
  · rw [if_neg (isSelf_iff.not.mpr hself)]
    refine Yields.bind_silent (Yields.ofLogged _) ?_
    cases hparse : (TypeText.parse t).value with
    | none =>
      have hown : v.own? = none := by simp [Sighting.own?, ht, hself, hparse]
      have hasks : v.asks operators = (operators.isKnown v.site.name &&
          (isUnit t && operators.isSink v.site.name)) := by
        simp [Sighting.asks, ht, hself]
      rw [hown, hasks]
      -- a text without a location asks for one only as the unit type of a sink
      by_cases hsink : (isUnit t && operators.isSink v.site.name) = true
      · simp only [hsink, if_true, Bool.and_true]
        exact hinherit
      · rw [Bool.not_eq_true] at hsink
        simp only [hsink, Bool.and_false, Bool.false_eq_true, if_false]
        exact Yields.pure _
    | some l =>
      -- a text with a location is not the unit type, so the site asks for nothing
      have hunit : isUnit t = false := by
        rw [← Bool.not_eq_true]
        intro h
        rw [parse_of_isUnit h] at hparse
        cases hparse
      have hasks : v.asks operators = false := by simp [Sighting.asks, ht, hself, hunit]
      by_cases hplace : isPlaceholder l.label = true
      · have hown : v.own? = none := by simp [Sighting.own?, ht, hself, hparse, hplace]
        simp only [hplace, if_true, hown, hasks]
        exact Yields.pure _
      · rw [Bool.not_eq_true] at hplace
        have hown : v.own? = some l := by simp [Sighting.own?, ht, hself, hparse, hplace]
        have hplaced : v.placedAt d l = ⟨v.site.name, stretch d v.site, t, l, some t⟩ := by
          simp [Sighting.placedAt, ht]
        simp only [hplace, Bool.false_eq_true, if_false, hown, Option.some_or, Option.map_some,
          hplaced]
        exact Yields.bind_silent (Yields.ofLine (sourceRange_eq_ok hin hb)) (Yields.pure _)

/-- The visit of a site inside the document issues one hover, and then does what its sighting
says. -/
theorem visit_yields {s : Site} (hs : Undisturbed backend limit d s)
    (hin : d.holds s.position = true) (state : State) :
    Yields (visit operators backend limit d state s) [hoverAt d s]
      ((sight backend limit d s).next state,
        (sight backend limit d s).attribution? operators d state) := by
  have hline := (Document.holds_iff.mp hin).1
  have hb := hs.readable hline
  unfold visit
  -- the two looks at the line ask nothing; the only request of a visit is the hover
  refine Yields.bind_silent (Yields.ofLine (Document.isContinuation_eq_ok hline hb)) ?_
  refine Yields.bind_silent (Yields.ofLine (Document.isMethodCall_eq_ok hline hb)) ?_
  refine Yields.bind_last (resolve_yields hs hin) ?_
  -- without a hover text the site inherits, with one it is typed by it
  cases ht : hoverText backend limit d s.position with
  | none =>
    have hown : (sight backend limit d s).own? = none := by simp [Sighting.own?, sight, ht]
    have hasks : (sight backend limit d s).asks operators = operators.isKnown s.name := by
      simp [Sighting.asks, sight, ht]
    have h := inheritVisit_yields operators (v := sight backend limit d s) hin hb
      ((sight backend limit d s).handed state)
    simp only [Sighting.next, Sighting.attribution?, hown, hasks]
    simp only [sight, ht] at h ⊢
    exact Yields.bind_silent h (Yields.pure _)
  | some t =>
    have h := typedVisit_yields operators (v := sight backend limit d s) ht hin hb
      ((sight backend limit d s).handed state)
    exact Yields.bind_silent h (Yields.pure _)

/-- A visit that comes to its end was answered. -/
theorem answered_of_visit {s : Site} {state : State} {found : State × Option Attribution}
    (h : (visit operators backend limit d state s).outcome = .ok found)
    (hread : d.HasLine s.position.line → s.position.line ∉ d.broken)
    (hin : d.holds s.position = true) :
    (backend (hoverAt d s)).settle "hover".text limit ≠ none := by
  intro hnone
  unfold visit at h
  -- the visit came to its end, and so did every step of it up to the hover
  rcases Run.outcome_bind_eq_ok.mp h with ⟨goesOn, -, h⟩
  rcases Run.outcome_bind_eq_ok.mp h with ⟨method, -, h⟩
  rcases Run.outcome_bind_eq_ok.mp h with ⟨text, hresolve, -⟩
  rcases d.inBounds_eq_ok hread with ⟨notices, hbounds⟩
  unfold Query.resolve at hresolve
  rcases Run.outcome_bind_eq_ok.mp hresolve with ⟨logged, hlogged, hresolve⟩
  rcases Run.outcome_bind_eq_ok.mp hresolve with ⟨isIn, hisIn, hresolve⟩
  rw [Run.outcome_ofLine_eq_ok, hbounds] at hlogged
  cases hlogged
  cases hisIn
  rw [show (Logged.withNotices notices (d.holds s.position)).value = true from hin, if_pos rfl]
    at hresolve
  rcases Run.outcome_bind_eq_ok.mp hresolve with ⟨answer, hanswer, -⟩
  unfold Query.hoverType Query.asking at hanswer
  rcases Run.outcome_bind_eq_ok.mp hanswer with ⟨reply, hreply, -⟩
  -- a cancelled hover would have stopped it
  have hcancelled : (backend.ask limit (.hover d.uri s.position)).outcome = .error .cancelled := by
    have hsettle : (backend (.hover d.uri s.position)).settle
        (Request.hover d.uri s.position).operation limit = none := hnone
    simp only [Backend.ask, hsettle]
  rw [hcancelled] at hreply
  cases hreply

/-! ## Passes -/

/-- The sites inside a document, in the order given. -/
def inside (d : Document) (sites : List Site) : List Site :=
  sites.filter fun s => d.holds s.position

/-- A pass issues one hover for each site inside the document, and walks over their sightings. -/
theorem trackFrom_yields {sites : List Site} (hs : ∀ s ∈ sites, Undisturbed backend limit d s)
    (state : State) :
    Yields (trackFrom operators backend limit d state sites) ((inside d sites).map (hoverAt d))
      (attributionsFrom operators d state
        ((inside d sites).map (sight backend limit d))).reduceOption := by
  induction sites generalizing state with
  | nil => exact Yields.pure _
  | cons s more ih =>
    have hhead := hs s List.mem_cons_self
    have hmore : ∀ t ∈ more, Undisturbed backend limit d t := by
      intro t ht
      exact hs t (List.mem_cons_of_mem s ht)
    rcases d.inBounds_eq_ok hhead.readable with ⟨notices, hbounds⟩
    unfold trackFrom
    refine Yields.bind_silent (Yields.ofLine hbounds) ?_
    refine Yields.bind_silent (Yields.ofLogged _) ?_
    rw [show (Logged.withNotices notices (d.holds s.position)).value = d.holds s.position from rfl]
    by_cases hin : d.holds s.position = true
    · -- a site inside is visited, and the rest is walked over from the state behind it
      have hinside : inside d (s :: more) = s :: inside d more := by simp [inside, hin]
      rw [hin, hinside]
      refine Yields.bind (visit_yields operators hhead hin state) ?_
      refine Yields.bind_last (ih hmore _) ?_
      have hcons : (attributionsFrom operators d state
          ((s :: inside d more).map (sight backend limit d))).reduceOption =
          ((sight backend limit d s).attribution? operators d state).toList ++
            (attributionsFrom operators d ((sight backend limit d s).next state)
              ((inside d more).map (sight backend limit d))).reduceOption := by
        simp only [List.map_cons, attributionsFrom]
        cases (sight backend limit d s).attribution? operators d state <;> rfl
      rw [hcons]
      exact Yields.pure _
    · have hinside : inside d (s :: more) = inside d more := by simp [inside, hin]
      rw [Bool.not_eq_true] at hin
      rw [hin, hinside]
      exact ih hmore state

/-- A pass that ends with attributions was stopped at none of its sites. -/
theorem undisturbed_of_trackFrom {sites : List Site} {state : State} {found : List Attribution}
    (h : (trackFrom operators backend limit d state sites).outcome = .ok found) :
    ∀ s ∈ sites, Undisturbed backend limit d s := by
  induction sites generalizing state found with
  | nil =>
    intro s hs
    exact absurd hs List.not_mem_nil
  | cons s more ih =>
    -- the pass came to its end, so each of its steps did
    unfold trackFrom at h
    rcases Run.outcome_bind_eq_ok.mp h with ⟨logged, hbounds, h⟩
    rcases Run.outcome_bind_eq_ok.mp h with ⟨isIn, hisIn, h⟩
    -- the line was read to see whether the position is in bounds
    have hread : d.HasLine s.position.line → s.position.line ∉ d.broken :=
      Document.not_mem_broken_of_inBounds (Run.outcome_ofLine_eq_ok.mp hbounds)
    have hval : isIn = d.holds s.position := by
      rcases d.inBounds_eq_ok hread with ⟨notices, hok⟩
      have hlogged := Run.outcome_ofLine_eq_ok.mp hbounds
      rw [hok] at hlogged
      cases hlogged
      cases hisIn
      rfl
    subst hval
    intro t ht
    by_cases hin : d.holds s.position = true
    · rw [if_pos hin] at h
      rcases Run.outcome_bind_eq_ok.mp h with ⟨⟨next, entry⟩, hvisit, h⟩
      rcases Run.outcome_bind_eq_ok.mp h with ⟨rest, hrest, -⟩
      rcases List.mem_cons.mp ht with rfl | ht
      · exact ⟨hread, fun _ => answered_of_visit operators hvisit hread hin⟩
      · exact ih hrest t ht
    · rw [if_neg hin] at h
      rcases List.mem_cons.mp ht with rfl | ht
      · exact ⟨hread, fun hyes => absurd hyes hin⟩
      · exact ih h t ht

/-! ## Faults -/

/-- A hover is asked for without reading a line, once the position is known to be in bounds. -/
theorem resolve_faultsOnly {P : LineFault → Prop} {p : Position} (method : Bool)
    (hb : d.HasLine p.line → p.line ∉ d.broken) :
    (Query.resolve backend limit d p method).FaultsOnly P := by
  rcases d.inBounds_eq_ok hb with ⟨notices, hbounds⟩
  unfold Query.resolve
  refine .bind (Run.faultsOnly_of_ok (Yields.ofLine hbounds).gives) fun logged _ => ?_
  refine .bind (Run.faultsOnly_of_ok (Yields.ofLogged logged).gives) fun inside _ => ?_
  cases inside with
  | false => exact Run.faultsOnly_of_ok rfl
  | true =>
    refine .bind ?_ fun found _ => ?_
    · unfold Query.hoverType Query.asking
      refine .bind (Run.faultsOnly_ask backend limit _) fun reply _ => ?_
      cases reply <;> exact Run.faultsOnly_of_ok rfl
    · cases found <;> exact Run.faultsOnly_of_ok rfl

/-- No line stops the visit of a site that was found to be in bounds. -/
theorem visit_faultsOnly {P : LineFault → Prop} {s : Site} (hin : d.holds s.position = true)
    (hb : s.position.line ∉ d.broken) (state : State) :
    (visit operators backend limit d state s).FaultsOnly P := by
  have hline := (Document.holds_iff.mp hin).1
  have hgoesOn := Yields.ofLine (Document.isContinuation_eq_ok hline hb)
  have hmethod := Yields.ofLine (Document.isMethodCall_eq_ok (p := s.position) hline hb)
  unfold visit
  refine .bind (Run.faultsOnly_of_ok hgoesOn.gives) fun goesOn _ => ?_
  refine .bind (Run.faultsOnly_of_ok hmethod.gives) fun method _ => ?_
  refine .bind (resolve_faultsOnly method fun _ => hb) fun text? _ => ?_
  -- behind the hover nothing is left that could fail, with a type text or without one
  cases text? with
  | none =>
    have h := inheritVisit_yields operators (v := ⟨s, goesOn, none⟩) hin hb
      (if goesOn then state else none)
    exact .bind (Run.faultsOnly_of_ok h.gives) fun found _ => Run.faultsOnly_of_ok rfl
  | some t =>
    have h := typedVisit_yields operators (v := ⟨s, goesOn, some t⟩) rfl hin hb
      (if goesOn then state else none)
    exact .bind (Run.faultsOnly_of_ok h.gives) fun found _ => Run.faultsOnly_of_ok rfl

/-- A pass is stopped by no other faults than those of broken lines of the document. -/
theorem trackFrom_faultsOnly (state : State) (sites : List Site) :
    (trackFrom operators backend limit d state sites).FaultsOnly d.HasFault := by
  induction sites generalizing state with
  | nil => exact Run.faultsOnly_of_ok rfl
  | cons s more ih =>
    unfold trackFrom
    refine .bind (Run.faultsOnly_ofLine fun _ => Document.hasFault_of_inBounds) fun logged h => ?_
    have hbounds := Run.outcome_ofLine_eq_ok.mp h
    have hread := fun hline => Document.not_mem_broken_of_inBounds hbounds hline
    rcases d.inBounds_eq_ok hread with ⟨notices, hok⟩
    cases hbounds.symm.trans hok
    refine .bind (Run.faultsOnly_of_ok rfl) fun inside hinside => ?_
    cases hinside
    -- the line of a site inside was read once, so that its visit can read it too
    by_cases hin : d.holds s.position = true
    · have hb := hread (Document.holds_iff.mp hin).1
      rw [show (Logged.withNotices notices (d.holds s.position)).value = true from hin, if_pos rfl]
      refine .bind (visit_faultsOnly operators hin hb state) fun found _ => ?_
      exact .bind (ih found.1) fun rest _ => Run.faultsOnly_of_ok rfl
    · rw [show (Logged.withNotices notices (d.holds s.position)).value =
        d.holds s.position from rfl, if_neg hin]
      exact ih state

end Placement.Chain
