import Mathlib.Data.List.Induction
import Placement.Proofs.Chain.Pass
import Placement.Proofs.SourceOrder

/-!
# Placement.Proofs.Chain.Rule — the rule behind a pass

A pass carries a location from site to site, and six ways through a visit change
it. The rule behind it looks at the sightings only. A site is attributed to the
location that it has by itself, or else, if it asks for one, to the location of
the last site before it that had one by itself, provided that no site from that
one on, both ends included, stands on a line that breaks the chain (`Attributed`).

* `foldl_next_eq_some_iff` — the state behind some sites is the location that
  they hand on;
* `track_follows_rule` — a pass issues one hover for each site inside the
  document, and its attributions are those of the rule, in the order of the
  source.
-/

namespace Placement.Chain

open Run (Yields)

/-! ## The rule -/

/-- Sightings hand on the location of the last one that has its own, unless one from there on
stands on a line that breaks the chain. -/
def HandsOn (before : List Sighting) (l : Location) : Prop :=
  ∃ front v between, before = front ++ v :: between ∧ v.own? = some l ∧ v.goesOn = true ∧
    ∀ w ∈ between, w.own? = none ∧ w.goesOn = true

/-- The attribution of a site behind others: to its own location, or to the one that the others
hand on if the site asks for it and does not break the chain. -/
def Attributed (operators : Operators) (d : Document) (before : List Sighting) (v : Sighting)
    (a : Attribution) : Prop :=
  ∃ l, a = v.placedAt d l ∧
    (v.own? = some l ∨ v.asks operators = true ∧ v.goesOn = true ∧ HandsOn before l)

/-- The sites inside a document, in the order of the source. -/
def visited (d : Document) (sites : List Site) : List Site := inSourceOrder (inside d sites)

/-- A pass that asks for the hover of each site inside the document, and nothing else, and ends
with the attributions of the rule: one for each site that the rule attributes, in order. -/
structure FollowsRule (operators : Operators) (backend : Backend) (limit : Number) (d : Document)
    (sites : List Site) : Prop where
  asks : (track operators backend limit d sites).requests = (visited d sites).map (hoverAt d)
  gives : ∃ records : List (Option Attribution),
    (track operators backend limit d sites).outcome = .ok records.reduceOption ∧
    records.length = (visited d sites).length ∧
    ∀ i v, ((visited d sites).map (sight backend limit d))[i]? = some v →
      ∀ a, records[i]? = some (some a) ↔
        Attributed operators d (((visited d sites).map (sight backend limit d)).take i) v a

/-! ## The state of the chain -/

/-- One more site hands on its own location, or else what the others hand on, unless it breaks the
chain. -/
theorem handsOn_append_singleton {before : List Sighting} {v : Sighting} {l : Location} :
    HandsOn (before ++ [v]) l ↔
      v.goesOn = true ∧ (v.own? = some l ∨ v.own? = none ∧ HandsOn before l) := by
  constructor
  · rintro ⟨front, w, between, happ, hown, hgoes, hbetween⟩
    -- the site with the location is the appended one, or stands somewhere in front of it
    rcases List.eq_nil_or_concat between with rfl | ⟨more, x, rfl⟩
    · rcases List.append_inj' happ rfl with ⟨-, hv⟩
      cases hv
      exact ⟨hgoes, Or.inl hown⟩
    · have happ' : before ++ [v] = (front ++ w :: more) ++ [x] := by
        rw [happ, List.append_assoc, List.cons_append, List.concat_eq_append]
      rcases List.append_inj' happ' rfl with ⟨hbefore, hv⟩
      cases hv
      rw [List.concat_eq_append] at hbetween
      have hlast := hbetween v (List.mem_append_right more (List.mem_singleton_self v))
      refine ⟨hlast.2, Or.inr ⟨hlast.1, front, w, more, hbefore, hown, hgoes, ?_⟩⟩
      intro y hy
      exact hbetween y (List.mem_append_left [v] hy)
  · rintro ⟨hgoes, hown | ⟨hnone, front, w, between, rfl, hown, hgo, hbetween⟩⟩
    · refine ⟨before, v, [], rfl, hown, hgoes, ?_⟩
      intro w hw
      exact absurd hw List.not_mem_nil
    · refine ⟨front, w, between ++ [v], by simp, hown, hgo, ?_⟩
      intro y hy
      rcases List.mem_append.mp hy with hy | hy
      · exact hbetween y hy
      · rw [List.mem_singleton.mp hy]
        exact ⟨hnone, hgoes⟩

/-- The state behind some sites is the location that they hand on. -/
theorem foldl_next_eq_some_iff {before : List Sighting} {l : Location} :
    before.foldl (fun state v => v.next state) none = some l ↔ HandsOn before l := by
  -- the last site decides about the state, so the induction takes sites off the end
  induction before using List.reverseRecOn with
  | nil =>
    constructor
    · intro h
      cases h
    · rintro ⟨front, v, between, happ, -⟩
      exact absurd happ (by simp)
  | append_singleton before v ih =>
    rw [List.foldl_append, List.foldl_cons, List.foldl_nil, handsOn_append_singleton, ← ih]
    unfold Sighting.next Sighting.handed
    cases v.goesOn <;> cases v.own? <;> simp

/-! ## The attributions -/

/-- Every sighting has its place among the attributions, also where it has none. -/
theorem length_attributionsFrom (operators : Operators) (d : Document) (state : State)
    (seen : List Sighting) : (attributionsFrom operators d state seen).length = seen.length := by
  induction seen generalizing state with
  | nil => rfl
  | cons v more ih => simp only [attributionsFrom, List.length_cons, ih]

/-- The attribution at a place is that of the sighting there, behind those in front of it. -/
theorem getElem?_attributionsFrom (operators : Operators) (d : Document) (state : State)
    (seen : List Sighting) (i : Nat) :
    (attributionsFrom operators d state seen)[i]? =
      seen[i]?.map fun v =>
        v.attribution? operators d ((seen.take i).foldl (fun state v => v.next state) state) := by
  induction seen generalizing state i with
  | nil => simp [attributionsFrom]
  | cons v more ih =>
    cases i with
    | zero => simp [attributionsFrom]
    | succ i => simpa [attributionsFrom] using ih (v.next state) i

/-- A sighting behind others has the attribution that the rule gives it. -/
theorem attribution?_eq_some_iff {operators : Operators} {d : Document} {before : List Sighting}
    {v : Sighting} {a : Attribution} :
    v.attribution? operators d (before.foldl (fun state v => v.next state) none) = some a ↔
      Attributed operators d before v a := by
  unfold Sighting.attribution? Attributed
  rw [Option.map_eq_some_iff]
  constructor
  · rintro ⟨l, hl, rfl⟩
    refine ⟨l, rfl, ?_⟩
    -- its own location counts first, and what the others hand on only if the site asks for it
    cases hown : v.own? with
    | some own =>
      rw [hown, Option.some_or] at hl
      exact Or.inl hl
    | none =>
      rw [hown, Option.none_or] at hl
      cases hasks : v.asks operators with
      | false =>
        rw [hasks] at hl
        cases hl
      | true =>
        rw [hasks, if_pos rfl, Sighting.handed] at hl
        cases hgoes : v.goesOn with
        | false =>
          rw [hgoes] at hl
          cases hl
        | true =>
          rw [hgoes, if_pos rfl] at hl
          exact Or.inr ⟨rfl, rfl, foldl_next_eq_some_iff.mp hl⟩
  · rintro ⟨l, rfl, hown | ⟨hasks, hgoes, hhands⟩⟩
    · exact ⟨l, by rw [hown, Option.some_or], rfl⟩
    · refine ⟨l, ?_, rfl⟩
      rw [Sighting.own?_of_asks hasks, Option.none_or, if_pos hasks, Sighting.handed, if_pos hgoes]
      exact foldl_next_eq_some_iff.mpr hhands

/-! ## Passes -/

/-- A pass over undisturbed sites walks over their sightings in the order of the source. -/
theorem track_yields (operators : Operators) {backend : Backend} {limit : Number} {d : Document}
    {sites : List Site} (hs : ∀ s ∈ sites, Undisturbed backend limit d s) :
    Yields (track operators backend limit d sites) ((visited d sites).map (hoverAt d))
      (attributionsFrom operators d none
        ((visited d sites).map (sight backend limit d))).reduceOption := by
  have hsorted : ∀ s ∈ inSourceOrder sites, Undisturbed backend limit d s := by
    intro s hmem
    exact hs s ((inSourceOrder_perm sites).mem_iff.mp hmem)
  -- leaving out the sites outside the document commutes with sorting
  have hvisited : inside d (inSourceOrder sites) = visited d sites :=
    filter_inSourceOrder (fun s => d.holds s.position) sites
  have hpass := trackFrom_yields operators hsorted none
  rw [hvisited] at hpass
  exact hpass

/-- A pass that ends with attributions was stopped at none of its sites. -/
theorem undisturbed_of_track {operators : Operators} {backend : Backend} {limit : Number}
    {d : Document} {sites : List Site} {found : List Attribution}
    (h : (track operators backend limit d sites).outcome = .ok found) :
    ∀ s ∈ sites, Undisturbed backend limit d s := by
  intro s hmem
  exact undisturbed_of_trackFrom operators h s ((inSourceOrder_perm sites).mem_iff.mpr hmem)

/-- A pass over a readable document follows the rule, whichever positions the sites have, unless
the backend cancels a hover. -/
theorem track_follows_rule (operators : Operators) (backend : Backend) (limit : Number)
    (d : Document) (sites : List Site) (hread : d.Readable)
    (hreply : ∀ p, (backend (.hover d.uri p)).settle "hover".text limit ≠ none) :
    FollowsRule operators backend limit d sites := by
  have hs : ∀ s ∈ sites, Undisturbed backend limit d s := by
    intro s _
    exact ⟨hread s.position.line, fun _ => hreply s.position⟩
  have hpass := track_yields operators hs
  refine ⟨hpass.asks, _, hpass.gives, ?_, ?_⟩
  · rw [length_attributionsFrom, List.length_map]
  · intro i v hv a
    rw [getElem?_attributionsFrom, hv, Option.map_some, Option.some.injEq]
    exact attribution?_eq_some_iff

/-- Two statements, of which only the second lines have sites. -/
def twoStatements : Document :=
  .ofText "file:///a.rs".text
    "let a = p1\n    .source_iter(xs);\nlet b = p2\n    .map(f);".text 1

/-- The sites of the two statements. -/
def twoSites : List Site := [⟨⟨1, 5⟩, "source_iter".text⟩, ⟨⟨3, 5⟩, "map".text⟩]

/-- A backend that knows the first of the two sites only. -/
def firstOnly : Backend
  | .hover _ p =>
    .after (.int 0) (.answer
      (if p = ⟨1, 5⟩ then .text "```rust\nfn source_iter(self) -> Process<'a, Leader>\n```".text
       else .null))
  | _ => .after (.int 0) (.answer .null)

/-- No hover of this backend is cancelled. -/
theorem firstOnly_answers (uri : Text) (p : Position) :
    (firstOnly (.hover uri p)).settle "hover".text (.int 5000) ≠ none := by
  have hprompt : ∀ v, (Reaction.after (.int 0) (.answer v)).settle "hover".text (.int 5000) =
      some (.ok v) := fun _ => rfl
  intro h
  rw [show firstOnly (.hover uri p) = .after (.int 0) (.answer _) from rfl, hprompt] at h
  cases h

/-- So nothing stops a pass over the two statements. -/
theorem undisturbed_two_statements (s : Site) :
    Undisturbed firstOnly (.int 5000) twoStatements s :=
  undisturbed_of_readable (Document.readable_of_broken_eq_nil rfl)
    (firstOnly_answers twoStatements.uri) s

/-- The rule at two statements whose second site has no hover. -/
theorem track_follows_rule_two_statements :
    twoStatements.Readable ∧
    (∀ p, (firstOnly (.hover twoStatements.uri p)).settle "hover".text (.int 5000) ≠ none) ∧
    FollowsRule .standard firstOnly (.int 5000) twoStatements twoSites :=
  have hread : twoStatements.Readable := Document.readable_of_broken_eq_nil rfl
  ⟨hread, firstOnly_answers twoStatements.uri,
    track_follows_rule .standard firstOnly (.int 5000) twoStatements twoSites hread
      (firstOnly_answers twoStatements.uri)⟩

end Placement.Chain
