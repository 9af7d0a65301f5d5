import Placement.Proofs.Chain.Rule

/-!
# Placement.Proofs.Chain.Break — a break cuts a pass in two

A site on a line that does not go on with the chain of the line before breaks the
chain: its visit takes up nothing from the sites before it, and hands nothing on.
A pass behind any state therefore goes on from there as a pass of its own does
(`trackFrom_of_breaks`), and a pass over sites in front of the break, the break
and sites behind it is two passes, one after the other (`track_eq_of_breaks`).
This holds as an equation between computations, also where a line cannot be read
or a hover is cancelled.
-/

namespace Placement.Chain

variable (operators : Operators) (backend : Backend) (limit : Number) {d : Document} {s : Site}

/-- The site lies in the document, on a line that does not go on with the chain of the line
before. -/
structure Breaks (d : Document) (s : Site) : Prop where
  inside : d.holds s.position = true
  starts : d.continues s.position.line = false

/-- Whether a line goes on with a chain is known, once the line can be read. -/
theorem continues_of_isContinuation {line : Int} {goesOn : Bool} (hl : d.HasLine line)
    (h : d.isContinuation line = .ok goesOn) : goesOn = d.continues line := by
  have hread : line ∉ d.broken := by
    intro hb
    simp only [Document.isContinuation, Document.lineAt, if_pos hb] at h
    cases h
  rw [Document.isContinuation_eq_ok hl hread] at h
  exact (Except.ok.inj h).symm

/-- The visit of a site that breaks the chain takes up nothing. -/
theorem visit_of_breaks (h : Breaks d s) (state : State) :
    visit operators backend limit d state s = visit operators backend limit d none s := by
  have hline := (Document.holds_iff.mp h.inside).1
  unfold visit
  cases hgoes : d.isContinuation s.position.line with
  | error fault => rfl
  | ok goesOn =>
    have hstarts : goesOn = false := (continues_of_isContinuation hline hgoes).trans h.starts
    subst hstarts
    rfl

/-- From a site that breaks the chain on, a pass goes on like one that begins there. -/
theorem trackFrom_of_breaks (h : Breaks d s) (state : State) (rest : List Site) :
    trackFrom operators backend limit d state (s :: rest) =
      trackFrom operators backend limit d none (s :: rest) := by
  have hline := (Document.holds_iff.mp h.inside).1
  by_cases hb : s.position.line ∈ d.broken
  · -- a line that cannot be read stops both of them
    have hfault : ∃ fault, d.inBounds s.position = .error fault := by
      unfold Document.HasLine at hline
      refine ⟨.unavailable s.position.line, ?_⟩
      simp only [Document.inBounds, if_pos hline, Document.lineAt, if_pos hb]
      rfl
    rcases hfault with ⟨fault, hfault⟩
    simp only [trackFrom, hfault]
    rfl
  · -- the first visit takes up nothing from the state, and what is behind it sees its result only
    rcases d.inBounds_eq_ok (fun _ => hb) with ⟨notices, hbounds⟩
    simp only [trackFrom, hbounds, h.inside, visit_of_breaks operators backend limit h state]
    rfl

/-- A pass over sites with a break among them is a pass over those in front of the break, and then
one over the others. -/
theorem trackFrom_append_of_breaks (h : Breaks d s) (state : State) (front rest : List Site) :
    trackFrom operators backend limit d state (front ++ s :: rest) = do
      let first ← trackFrom operators backend limit d state front
      let second ← trackFrom operators backend limit d none (s :: rest)
      return first ++ second := by
  -- each visit changes the state, so the induction is over the sites for all states
  induction front generalizing state with
  | nil =>
    rw [List.nil_append, trackFrom_of_breaks operators backend limit h state, trackFrom.eq_1]
    simp only [pure_bind, List.nil_append, bind_pure]
  | cons t more ih =>
    rw [List.cons_append, trackFrom, trackFrom]
    simp only [bind_assoc]
    -- the first step is the same in both, so that only what comes behind it has to be compared
    apply bind_congr
    intro logged
    apply bind_congr
    intro inside
    cases inside with
    | true =>
      simp only [if_true, bind_assoc, pure_bind, ih, List.append_assoc]
    | false =>
      rw [if_neg Bool.false_ne_true, if_neg Bool.false_ne_true, ih]

/-! ## Whole passes -/

theorem inSourceOrder_of_sorted {sites : List Site} (h : Sorted sites) :
    inSourceOrder sites = sites :=
  List.mergeSort_of_pairwise h

/-- A pass with a break among its sites, in the order of the source, is the pass over those in
front of the break and then the pass over the others. -/
theorem track_eq_of_breaks {sites front rest : List Site}
    (horder : inSourceOrder sites = front ++ s :: rest) (h : Breaks d s) :
    track operators backend limit d sites = do
      let first ← track operators backend limit d front
      let second ← track operators backend limit d (s :: rest)
      return first ++ second := by
  have hsorted : Sorted (front ++ s :: rest) := horder ▸ sorted_inSourceOrder sites
  -- parts of a sorted list are sorted, so each pass visits its sites as they stand
  have hfront : inSourceOrder front = front :=
    inSourceOrder_of_sorted (hsorted.sublist (List.sublist_append_left front _))
  have hrest : inSourceOrder (s :: rest) = s :: rest :=
    inSourceOrder_of_sorted (hsorted.sublist (List.sublist_append_right front _))
  simp only [track, horder, hfront, hrest]
  exact trackFrom_append_of_breaks operators backend limit h none front rest

/-- A pass is cut in two by a site that lies in the document on a line that breaks the chain: unless
a line cannot be read or a hover is cancelled, the pass over the break and the sites behind it ends
with some attributions, and whichever sites stand in front of the break, the pass over all of them
ends with the attributions of the pass over those in front, followed by these, and issues the hovers
of the first pass followed by those of the second. -/
theorem track_append_of_break (rest : List Site) (hin : d.holds s.position = true)
    (hbreak : d.continues s.position.line = false) (hread : d.Readable)
    (hreply : ∀ p, (backend (.hover d.uri p)).settle "hover".text limit ≠ none) :
    ∃ second, (track operators backend limit d (s :: rest)).outcome = .ok second ∧
      ∀ sites front, inSourceOrder sites = front ++ s :: rest →
        ∃ first, (track operators backend limit d front).outcome = .ok first ∧
          (track operators backend limit d sites).outcome = .ok (first ++ second) ∧
          (track operators backend limit d sites).requests =
            (track operators backend limit d front).requests ++
              (track operators backend limit d (s :: rest)).requests := by
  have hs : ∀ sites : List Site, ∀ t ∈ sites, Undisturbed backend limit d t := by
    intro sites t _
    exact ⟨hread t.position.line, fun _ => hreply t.position⟩
  -- both passes end by themselves, since no request of theirs is left unanswered
  have hsecond := track_yields operators (hs (s :: rest))
  refine ⟨_, hsecond.gives, ?_⟩
  intro sites front horder
  have hfirst := track_yields operators (hs front)
  have hall := track_eq_of_breaks operators backend limit horder ⟨hin, hbreak⟩
  -- at the breaking site the pass stands in its first state, so it goes on like a pass of its own
  rw [Run.bind_of_ok hfirst.gives, Run.bind_of_ok hsecond.gives] at hall
  refine ⟨_, hfirst.gives, ?_, ?_⟩
  · rw [hall]
    rfl
  · rw [hall]
    simp only [Run.requests_pure, List.append_nil]

/-- The sites of two statements, with one on the line that begins the second statement. -/
def threeSites : List Site :=
  [⟨⟨1, 5⟩, "source_iter".text⟩, ⟨⟨2, 8⟩, "p2".text⟩, ⟨⟨3, 5⟩, "map".text⟩]

/-- Two statements with a site on the line that begins the second one: the pass is cut there. -/
theorem track_append_of_break_two_statements :
    (twoStatements.holds ⟨2, 8⟩ = true ∧ twoStatements.continues 2 = false ∧
      twoStatements.Readable ∧
      (∀ p, (firstOnly (.hover twoStatements.uri p)).settle "hover".text (.int 5000) ≠ none) ∧
      inSourceOrder threeSites = threeSites.take 1 ++ ⟨⟨2, 8⟩, "p2".text⟩ :: threeSites.drop 2) ∧
    ∃ first second,
      (track .standard firstOnly (.int 5000) twoStatements (threeSites.take 1)).outcome =
        .ok first ∧
      (track .standard firstOnly (.int 5000) twoStatements (threeSites.drop 1)).outcome =
        .ok second ∧
      (track .standard firstOnly (.int 5000) twoStatements threeSites).outcome =
        .ok (first ++ second) := by
  have hin : twoStatements.holds ⟨2, 8⟩ = true := by decide +kernel
  have hbreak : twoStatements.continues 2 = false := by decide +kernel
  have hread : twoStatements.Readable := Document.readable_of_broken_eq_nil rfl
  have hreply := firstOnly_answers twoStatements.uri
  have horder : inSourceOrder threeSites =
      threeSites.take 1 ++ ⟨⟨2, 8⟩, "p2".text⟩ :: threeSites.drop 2 :=
    inSourceOrder_of_sorted (by decide +kernel)
  rcases track_append_of_break .standard firstOnly (.int 5000) (s := ⟨⟨2, 8⟩, "p2".text⟩)
    (threeSites.drop 2) hin hbreak hread hreply with ⟨second, hsecond, hfronts⟩
  rcases hfronts threeSites _ horder with ⟨first, hfirst, hall, -⟩
  exact ⟨⟨hin, hbreak, hread, hreply, horder⟩, first, second, hfirst, hsecond, hall⟩

end Placement.Chain
