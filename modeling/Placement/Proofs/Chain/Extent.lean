import Placement.Proofs.Chain.Statement
import Placement.Proofs.Identifier

/-!
# Placement.Proofs.Chain.Extent — the stretches of attributions

An attribution has the stretch of its site: the identifier around the place of the site, or,
where there is none, as many characters from there on as the name of the operator has.
Either one lies on the line of the site and has its place between its ends
(`encloses_stretch`). As the attributions of a pass stand for sites inside the document, one
for each in their order (`exists_sources_of_attributionsFrom`), this holds of all of them.

`identifiers_and_attributions_enclose` says both: which identifier the search around a
place finds, and that the stretches of attributions enclose their sites.
-/

namespace Placement

/-- The stretch lies on the line of a position, and has the position between its ends. -/
structure Range.Encloses (r : Range) (p : Position) : Prop where
  start_line : r.start.line = p.line
  stop_line : r.stop.line = p.line
  start_le : r.start.character ≤ p.character
  le_stop : p.character ≤ r.stop.character

namespace Chain

variable {d : Document}

/-- A site inside the document is enclosed by its stretch. -/
theorem encloses_stretch {s : Site} (hin : d.holds s.position = true)
    (hb : s.position.line ∉ d.broken) : (stretch d s).Encloses s.position := by
  rcases Document.holds_iff.mp hin with ⟨hl, hlow, hhigh⟩
  have hline := Document.lineAt_eq_ok hl hb
  have hrange := sourceRange_eq_ok hin hb
  rcases (Document.findsIdentifiers hline).answers hlow with ⟨found, hfound⟩
  unfold sourceRange at hrange
  rw [show d.wordRange? s.position = .ok found from hfound] at hrange
  -- without an identifier the stretch begins at the position, and is as long as the name
  cases found with
  | none =>
    rw [← Except.ok.inj hrange]
    refine ⟨rfl, rfl, Int.le_refl _, ?_⟩
    show s.position.character ≤ s.position.character + (s.name.length : Int)
    omega
  | some r =>
    rcases (Document.wordRange?_eq_some_iff hline hlow).mp hfound with
      ⟨start, stop, rfl, -, hstart, hstop⟩
    -- the position is no farther than the end of its line, so it is the place that was looked at
    have hplace : (d.textAt s.position.line).placeOf s.position.character =
        s.position.character.toNat := Nat.min_eq_left (Int.toNat_le.mpr hhigh)
    rw [hplace] at hstart hstop
    rw [← Except.ok.inj hrange]
    refine ⟨rfl, rfl, ?_, ?_⟩
    · show (start : Int) ≤ s.position.character
      omega
    · show s.position.character ≤ (stop : Int)
      omega

/-- The attribution is one of the operator at the site, and its stretch encloses the site. -/
structure StandsFor (d : Document) (s : Site) (a : Attribution) : Prop where
  operator : a.operator = s.name
  range : a.range = stretch d s
  encloses : a.range.Encloses s.position

/-- The attributions of a walk stand for some of its sites, one for each, in their order. -/
theorem exists_sources_of_attributionsFrom (operators : Operators) (backend : Backend)
    (limit : Number) {sites : List Site}
    (hsites : ∀ s ∈ sites, (stretch d s).Encloses s.position) (state : State) :
    ∃ sources : List Site, sources.Sublist sites ∧
      List.Forall₂ (StandsFor d) sources
        (attributionsFrom operators d state (sites.map (sight backend limit d))).reduceOption := by
  induction sites generalizing state with
  | nil => exact ⟨[], List.Sublist.refl [], List.Forall₂.nil⟩
  | cons s more ih =>
    rcases List.forall_mem_cons.mp hsites with ⟨hs, hmore⟩
    rcases ih hmore ((sight backend limit d s).next state) with ⟨sources, hsub, hstands⟩
    rw [List.map_cons, attributionsFrom]
    -- a site without an attribution is left out of the sources
    cases hfound : (sight backend limit d s).attribution? operators d state with
    | none =>
      rw [List.reduceOption_cons_of_none]
      exact ⟨sources, hsub.cons s, hstands⟩
    | some a =>
      rw [List.reduceOption_cons_of_some]
      rcases Option.map_eq_some_iff.mp hfound with ⟨l, -, rfl⟩
      exact ⟨s :: sources, hsub.cons_cons s, List.Forall₂.cons ⟨rfl, rfl, hs⟩ hstands⟩

/-- On each line that can be read the search around a place finds the identifier there. The
attributions of a pass stand for some of its sites, in the order of the source, and the stretch of
each lies on the line of its site and has the place of the site between its ends. -/
theorem identifiers_and_attributions_enclose (d : Document) :
    (∀ line t, d.lineAt line = .ok t → d.FindsIdentifiers line t) ∧
    ∀ operators backend limit sites found,
      (track operators backend limit d sites).outcome = .ok found →
        ∃ sources : List Site, sources.Sublist (inSourceOrder sites) ∧
          List.Forall₂ (StandsFor d) sources found := by
  refine ⟨fun line t hline => Document.findsIdentifiers hline, ?_⟩
  intro operators backend limit sites found hpass
  have hquiet := undisturbed_of_track hpass
  have hvisited : visited d sites = inside d (inSourceOrder sites) :=
    (filter_inSourceOrder (fun s => d.holds s.position) sites).symm
  have hsites : ∀ s ∈ visited d sites, (stretch d s).Encloses s.position := by
    intro s hs
    rw [hvisited, inside, List.mem_filter] at hs
    rcases hs with ⟨hmem, hin⟩
    have hline := (Document.holds_iff.mp hin).1
    exact encloses_stretch hin
      ((hquiet s ((inSourceOrder_perm sites).mem_iff.mp hmem)).readable hline)
  -- what the pass ends with is the walk over the sites that it visits
  rcases exists_sources_of_attributionsFrom operators backend limit hsites none with
    ⟨sources, hsub, hstands⟩
  rw [(track_yields operators hquiet).gives] at hpass
  cases hpass
  rw [hvisited] at hsub
  exact ⟨sources, hsub.trans List.filter_sublist, hstands⟩

/-- The name of an operator is found from its middle as from its beginning, and the attributions of
the two statements enclose their sites. -/
theorem identifiers_and_attributions_enclose_two_statements :
    twoStatements.lineAt 1 = .ok "    .source_iter(xs);".text ∧
    twoStatements.wordRange? ⟨1, 8⟩ = .ok (some (.ofLine 1 5 16)) ∧
    (track .standard firstOnly (.int 5000) twoStatements twoSites).outcome = .ok twoAttributions ∧
    ∃ sources : List Site, sources.Sublist (inSourceOrder twoSites) ∧
      List.Forall₂ (StandsFor twoStatements) sources twoAttributions := by
  have hline : twoStatements.lineAt 1 = .ok "    .source_iter(xs);".text := by decide +kernel
  have hfirst : twoStatements.wordRange? ⟨1, 5⟩ = .ok (some (.ofLine 1 5 16)) := by
    decide +kernel
  rcases identifiers_and_attributions_enclose twoStatements with ⟨hfinds, hranges⟩
  refine ⟨hline, (hfinds 1 _ hline).same (by decide) hfirst 8 (by decide) (by decide),
    track_two_statements, hranges _ _ _ _ _ track_two_statements⟩

end Chain

end Placement
