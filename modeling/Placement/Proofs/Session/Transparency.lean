import Placement.Proofs.Cache.Holds
import Placement.Proofs.Session.SameText
import Placement.Proofs.Session.Steps

/-!
# Placement.Proofs.Session.Transparency — cached answers are fresh answers

A session without results answers a call with its `freshOutcome`, which does not
look at any cache. A session that comes from it by some steps differs from it in
the cache only, and what it holds under a key is what a pass gave for a call of
this key (`Faithful`). Every step keeps this (`faithful_step`), and a session for
which it holds answers as a fresh one does (`analyze_outcome`), as long as calls
with one key ask for the same (`Coherent`). So a whole list of steps is answered
as if there were no cache (`answers_eq_fresh`).
-/

namespace Placement.Session

variable {base s : Session} {calls : List Call} {c : Call}

/-! ## Answers without a cache -/

/-- The analyses that some steps ask for. -/
def callsOf (steps : List Step) : List Call := steps.filterMap Step.call?

/-- What stays of the outcome of a pass: a failure inside it leaves an empty result. -/
def passOutcome : Except Interruption (List Attribution) → Except Interruption (List Attribution)
  | .ok found => .ok found
  | .error .cancelled => .error .cancelled
  | .error _ => .ok []

/-- What a session answers to a call when nothing is cached. -/
def freshOutcome (s : Session) (c : Call) : Except Interruption (List Attribution) :=
  if ¬ s.settings.Admits c.document then .ok []
  else if c.HasKey then passOutcome (s.pass c.document c.sites).outcome
  else .error (.writing .longInteger)

/-- Calls that are looked up under one key have the same text and the same sites. -/
def Coherent (settings : AnalysisSettings) (calls : List Call) : Prop :=
  ∀ c ∈ calls, ∀ c' ∈ calls, settings.LooksUp c → settings.LooksUp c' →
    c.key = c'.key → c.document.SameText c'.document ∧ c.sites = c'.sites

/-- What is done behind a pass leaves its outcome but for a failure. -/
theorem outcome_finish (s : Session) (d : Document) (key : Text) (run : Run (List Attribution)) :
    (s.finish d key run).1.outcome = passOutcome run.outcome := by
  unfold finish
  cases hrun : run.outcome with
  | ok found => exact hrun
  | error stop =>
    cases stop with
    | cancelled => exact hrun
    | line _ | writing _ => rfl

/-- A pass ends with attributions or cancelled, as its failures are not passed on. -/
theorem passOutcome_ok_or_cancelled (outcome : Except Interruption (List Attribution)) :
    (∃ found, passOutcome outcome = .ok found) ∨ passOutcome outcome = .error .cancelled := by
  cases outcome with
  | ok found => exact Or.inl ⟨found, rfl⟩
  | error stop =>
    cases stop with
    | cancelled => exact Or.inr rfl
    | line _ | writing _ => exact Or.inl ⟨[], rfl⟩

/-- A call ends with attributions or is cancelled, unless its key cannot be written. No line that
cannot be read ends one. -/
theorem freshOutcome_cases (s : Session) (c : Call) :
    (∃ found, s.freshOutcome c = .ok found) ∨ s.freshOutcome c = .error .cancelled ∨
      (s.freshOutcome c = .error (.writing .longInteger) ∧
        10 ^ Text.digitLimit ≤ c.document.version.natAbs) := by
  unfold freshOutcome
  split
  · exact Or.inl ⟨[], rfl⟩
  · split
    · rcases passOutcome_ok_or_cancelled (s.pass c.document c.sites).outcome with h | h
      · exact Or.inl h
      · exact Or.inr (Or.inl h)
    · rename_i hkey
      rw [hasKey_iff, Nat.not_lt] at hkey
      exact Or.inr (Or.inr ⟨rfl, hkey⟩)

theorem freshOutcome_of_looksUp (h : s.settings.LooksUp c) :
    s.freshOutcome c = passOutcome (s.pass c.document c.sites).outcome := by
  rw [freshOutcome, if_neg (not_not_intro h.1), if_pos h.2]

/-- A call that is not looked up is answered without the cache by every session. -/
theorem analyze_outcome_of_not_looksUp (h : ¬ s.settings.LooksUp c) :
    (s.analyze c.document c.sites c.scope c.activeFile).1.outcome = s.freshOutcome c := by
  unfold freshOutcome
  by_cases hadmits : s.settings.Admits c.document
  · have hkey : ¬ c.HasKey := fun hkey => h ⟨hadmits, hkey⟩
    rw [analyze_of_not_hasKey hadmits hkey, if_neg (not_not_intro hadmits), if_neg hkey]
  · rcases analyze_of_not_admits hadmits with ⟨notices, hskip⟩
    rw [hskip, if_pos hadmits]

/-! ## The invariant -/

/-- The result is what a pass gave for one of the calls, which has this key. -/
def PassResult (base : Session) (calls : List Call) (key : Text) (found : List Attribution) :
    Prop :=
  ∃ c ∈ calls, base.settings.LooksUp c ∧ c.key = key ∧
    (base.pass c.document c.sites).outcome = .ok found

/-- A session that differs from another one in the cache only, which holds results of passes. -/
structure Faithful (base : Session) (calls : List Call) (s : Session) : Prop where
  same : s = { base with cache := s.cache }
  cached : s.cache.Holds (PassResult base calls)

namespace Faithful

theorem settings (h : Faithful base calls s) : s.settings = base.settings := by rw [h.same]

/-- A faithful session makes the same passes. -/
theorem pass (h : Faithful base calls s) (d : Document) (sites : List Site) :
    s.pass d sites = base.pass d sites := by
  rw [h.same]
  rfl

/-- Another cache of such results may take the place of the cache. -/
theorem withCache (h : Faithful base calls s) {cache : Cache (List Attribution) PassNote}
    (hc : cache.Holds (PassResult base calls)) : Faithful base calls { s with cache } := by
  refine ⟨?_, hc⟩
  rw [h.same]

end Faithful

/-- A session without results is faithful to itself. -/
theorem faithful_start (backend : Backend) (settings : AnalysisSettings) (operators : Operators)
    (calls : List Call) :
    Faithful (start backend settings operators) calls (start backend settings operators) :=
  ⟨rfl, Cache.holds_empty _⟩

/-- A pass for one of the calls leaves a result of its own, or none. -/
theorem faithful_finish (h : Faithful base calls s) (hc : c ∈ calls)
    (hlooks : base.settings.LooksUp c) :
    Faithful base calls (s.finish c.document c.key (base.pass c.document c.sites)).2 := by
  unfold finish
  cases hrun : (base.pass c.document c.sites).outcome with
  | ok found => exact h.withCache (h.cached.set ⟨c, hc, hlooks, rfl, hrun⟩ _)
  | error stop =>
    cases stop with
    | cancelled => exact h
    | line _ | writing _ => exact h

/-- An analysis leaves a faithful session faithful. -/
theorem faithful_analyze (h : Faithful base calls s) (hc : c ∈ calls) :
    Faithful base calls (s.analyze c.document c.sites c.scope c.activeFile).2 := by
  by_cases hlooks : s.settings.LooksUp c
  · cases hget : (s.cache.get c.key).1 with
    | some found =>
      rw [analyze_of_hit hlooks hget]
      exact h.withCache (h.cached.get c.key)
    | none =>
      rw [analyze_of_miss hlooks hget, h.pass]
      rw [h.settings] at hlooks
      exact faithful_finish (h.withCache (h.cached.get c.key)) hc hlooks
  · rw [analyze_of_not_looksUp hlooks]
    exact h

/-- Every step leaves a faithful session faithful. -/
theorem faithful_step (h : Faithful base calls s) {x : Step}
    (hx : ∀ c, x.call? = some c → c ∈ calls) : Faithful base calls (s.step x).2 := by
  -- but for an analysis, a step drops entries of the cache or leaves the session as it is
  cases x with
  | analyze c => exact faithful_analyze h (hx c rfl)
  | invalidate uri => exact h.withCache (h.cached.foldl_clear _)
  | invalidateAll => exact h.withCache (Cache.holds_clearAll s.cache)
  | stats => exact h
  | keys => exact h
  | metadata key => exact h
  | classify nodes edges => exact h

/-! ## Answers -/

/-- A session whose cache holds results of passes answers a call as if nothing were cached. -/
theorem analyze_outcome (hb : base.backend.HoversByPosition) (h : Faithful base calls s)
    (hcoherent : Coherent base.settings calls) (hc : c ∈ calls) :
    (s.analyze c.document c.sites c.scope c.activeFile).1.outcome = base.freshOutcome c := by
  by_cases hlooks : s.settings.LooksUp c
  · have hbase : base.settings.LooksUp c := h.settings ▸ hlooks
    rw [freshOutcome_of_looksUp hbase]
    cases hget : (s.cache.get c.key).1 with
    | some found =>
      -- the result belongs to a call with the same key, hence with the same text and sites
      rcases h.cached.of_get_eq_some hget with ⟨c', hc', hlooks', hkey, hrun⟩
      rcases hcoherent c hc c' hc' hbase hlooks' hkey.symm with ⟨htext, hsites⟩
      rw [analyze_of_hit hlooks hget, pass_outcome_eq hb htext, hsites, hrun]
      rfl
    | none => rw [analyze_of_miss hlooks hget, outcome_finish, h.pass]
  · rw [analyze_outcome_of_not_looksUp hlooks]
    unfold freshOutcome
    rw [h.settings, h.pass]

/-- Each analysis in a list of steps is answered as if nothing were cached. -/
theorem answers_outcome (hb : base.backend.HoversByPosition)
    (hcoherent : Coherent base.settings calls) {steps : List Step}
    (h : Faithful base calls s) (hcalls : ∀ c ∈ callsOf steps, c ∈ calls) {i : Nat}
    (hi : steps[i]? = some (.analyze c)) :
    ∃ run, (s.answers steps)[i]? = some (.analysis run) ∧ run.outcome = base.freshOutcome c := by
  induction steps generalizing s i with
  | nil => simp at hi
  | cons x more ih =>
    have hx : ∀ c, x.call? = some c → c ∈ calls := by
      intro c hc
      exact hcalls c (List.mem_filterMap.mpr ⟨x, List.mem_cons_self, hc⟩)
    cases i with
    | zero =>
      rw [List.getElem?_cons_zero, Option.some.injEq] at hi
      subst hi
      exact ⟨_, rfl, analyze_outcome hb h hcoherent (hx c rfl)⟩
    | succ i =>
      -- the session behind the first step is faithful again, and answers the rest
      rw [List.getElem?_cons_succ] at hi
      refine ih (faithful_step h hx) ?_ hi
      intro c hc
      rcases List.mem_filterMap.mp hc with ⟨y, hy, hcall⟩
      exact hcalls c (List.mem_filterMap.mpr ⟨y, List.mem_cons_of_mem x hy, hcall⟩)

/-- Each analysis of a list of steps is answered as by a session without results, which gives
attributions, is cancelled, or fails because the version of the document has too many digits. -/
theorem answers_eq_fresh (script : Script) (settings : AnalysisSettings) (operators : Operators)
    {steps : List Step} (hcoherent : Coherent settings (callsOf steps)) {i : Nat}
    (hi : steps[i]? = some (.analyze c)) :
    ∃ run, ((start script.backend settings operators).answers steps)[i]? = some (.analysis run) ∧
      run.outcome = ((start script.backend settings operators).analyze c.document c.sites c.scope
        c.activeFile).1.outcome ∧
      ((∃ found, run.outcome = .ok found) ∨ run.outcome = .error .cancelled ∨
        (run.outcome = .error (.writing .longInteger) ∧
          10 ^ Text.digitLimit ≤ c.document.version.natAbs)) := by
  have hb : (start script.backend settings operators).backend.HoversByPosition :=
    script.hoversByPosition
  have hc : c ∈ callsOf steps :=
    List.mem_filterMap.mpr ⟨.analyze c, List.mem_of_getElem? hi, rfl⟩
  -- a session without results is faithful to itself, and so gives the fresh outcome too
  have hstart := faithful_start script.backend settings operators (callsOf steps)
  rcases answers_outcome hb hcoherent hstart (fun _ h => h) hi with ⟨run, hrun, houtcome⟩
  refine ⟨run, hrun, ?_, ?_⟩
  · rw [houtcome, analyze_outcome hb hstart hcoherent hc]
  · rw [houtcome]
    exact freshOutcome_cases _ c

/-- Tables that know one hover. -/
def leaderHover : Script :=
  ⟨[("1:5".text, .text "```rust\nfn source_iter(self) -> Process<'a, Leader>\n```".text)],
    [], [], [], [], [], []⟩

/-- An analysis of one statement with one site. -/
def firstCall : Call :=
  ⟨.ofText "file:///a.rs".text "let a = p1\n    .source_iter(xs);".text 1,
    [⟨⟨1, 5⟩, "source_iter".text⟩], "function".text, none⟩

/-- The analysis of the next version of the document, which has another text. -/
def editedCall : Call := { firstCall with document := firstCall.document.withText [] }

/-- An analysis, one of the edited document, and the first one again, which is cached. -/
def againSteps : List Step := [.analyze firstCall, .analyze editedCall, .stats, .analyze firstCall]

/-- The two calls of the steps have different keys, so equal keys belong to one call. -/
theorem coherent_againSteps (settings : AnalysisSettings) :
    Coherent settings (callsOf againSteps) := by
  have hcalls : ∀ c ∈ callsOf againSteps, c = firstCall ∨ c = editedCall := by
    intro c hc
    have hmem : c ∈ [firstCall, editedCall, firstCall] := hc
    simp only [List.mem_cons, List.not_mem_nil, or_false] at hmem
    rcases hmem with h | h | h
    · exact Or.inl h
    · exact Or.inr h
    · exact Or.inl h
  have hkeys : firstCall.key ≠ editedCall.key := by decide
  intro c hc c' hc' _ _ hkey
  -- only calls of the same version share a key
  rcases hcalls c hc with rfl | rfl <;> rcases hcalls c' hc' with rfl | rfl
  · exact ⟨.refl _, rfl⟩
  · exact absurd hkey hkeys
  · exact absurd hkey.symm hkeys
  · exact ⟨.refl _, rfl⟩

/-- The cached answer at the end of four steps is the fresh one. -/
theorem answers_eq_fresh_again :
    Coherent .standard (callsOf againSteps) ∧ againSteps[3]? = some (.analyze firstCall) ∧
    ∃ run, ((start leaderHover.backend .standard .standard).answers againSteps)[3]? =
        some (.analysis run) ∧
      run.outcome = ((start leaderHover.backend .standard .standard).analyze firstCall.document
        firstCall.sites firstCall.scope firstCall.activeFile).1.outcome ∧
      ((∃ found, run.outcome = .ok found) ∨ run.outcome = .error .cancelled ∨
        (run.outcome = .error (.writing .longInteger) ∧
          10 ^ Text.digitLimit ≤ firstCall.document.version.natAbs)) :=
  ⟨coherent_againSteps .standard, rfl,
    answers_eq_fresh leaderHover .standard .standard (coherent_againSteps .standard) rfl⟩

end Placement.Session
