import Placement.Proofs.Chain.Rule

/-!
# Placement.Proofs.Chain.Statement — locations at the end of a statement

The chain of dots on a continuation line is over when the line ends with a
semicolon and closes all its brackets. A pass does not look at this: it drops a
location only when it visits a site on a line that is no continuation. So a
location is handed on into a later statement whenever the lines in between have
no site (`inherits_across_end_two_statements`).

`not_inheritsAcrossEnd_iff` says exactly when no location crosses the end of its
statement: when, between a site whose line ends its statement and the next site
that asks for its location on a later line, or at the latter, the pass visits a
site that breaks the chain.
-/

namespace Placement.Chain

/-! ## The end of a statement -/

/-- The bracket that closes what a bracket opens. -/
def closer? : CodePoint → Option CodePoint
  | '(' => some (.char ')')
  | '[' => some (.char ']')
  | '{' => some (.char '}')
  | _ => none

/-- Whether every round, square and curly bracket of a text is closed in its turn; `awaited` are
the closing brackets that are still due, the next one first. -/
def closesAll (awaited : List CodePoint) : Text → Bool
  | [] => awaited.isEmpty
  | c :: r =>
    match closer? c with
    | some close => closesAll (close :: awaited) r
    | none =>
      if c == ')' || c == ']' || c == '}' then
        match awaited with
        | close :: more => c == close && closesAll more r
        | [] => false
      else closesAll awaited r

/-- Whether a line ends its statement: but for blanks it ends with a semicolon, and its brackets
are balanced. -/
def endsStatement (line : Text) : Bool :=
  Text.endsWith [.char ';'] (Text.trim line) && closesAll [] line

/-! ## Crossing it -/

/-- The site `v` has a location, and of the sites behind it up to `w` none has one: a location that
`w` takes over is that of `v`. -/
structure Supplies (v : Sighting) (between : List Sighting) (w : Sighting) : Prop where
  source : v.own? ≠ none
  between_none : ∀ u ∈ between, u.own? = none
  taker_none : w.own? = none

/-- The dot-chain of `v` ends on the line of `v`, and `w` stands on a later one. -/
structure EndsBefore (d : Document) (v w : Sighting) : Prop where
  goesOn : v.goesOn = true
  ends : endsStatement (d.textAt v.site.position.line) = true
  later : v.site.position.line < w.site.position.line

/-- Some site is attributed to a location that it takes over from a site whose dot-chain has ended
on an earlier line. -/
def InheritsAcrossEnd (operators : Operators) (d : Document) (seen : List Sighting) : Prop :=
  ∃ front v between w rest a,
    seen = front ++ v :: between ++ w :: rest ∧ Supplies v between w ∧ EndsBefore d v w ∧
    (attributionsFrom operators d none seen)[(front ++ v :: between).length]? = some (some a) ∧
    v.own? = some a.location

/-- Behind a site whose dot-chain ends on its line, a site on a later line asks for the location
only after a site that breaks the chain, or is one. -/
def BreaksBehindEnds (operators : Operators) (d : Document) (seen : List Sighting) : Prop :=
  ∀ front v between w rest,
    seen = front ++ v :: between ++ w :: rest → Supplies v between w → EndsBefore d v w →
    w.asks operators = true → ∃ u ∈ between ++ [w], u.goesOn = false

/-- The last site with a location hands it on when no site from there on breaks the chain. -/
theorem handsOn_split {front : List Sighting} {v : Sighting} {between : List Sighting}
    {l : Location} (hbetween : ∀ u ∈ between, u.own? = none) (hsource : v.own? ≠ none) :
    HandsOn (front ++ v :: between) l ↔
      v.own? = some l ∧ v.goesOn = true ∧ ∀ u ∈ between, u.goesOn = true := by
  -- none of the sites between has a location, so each only has to go on with the chain
  induction between using List.reverseRecOn with
  | nil =>
    rw [handsOn_append_singleton]
    constructor
    · rintro ⟨hgoes, hown | ⟨hnone, -⟩⟩
      · exact ⟨hown, hgoes, fun u hu => absurd hu List.not_mem_nil⟩
      · exact absurd hnone hsource
    · rintro ⟨hown, hgoes, -⟩
      exact ⟨hgoes, Or.inl hown⟩
  | append_singleton more u ih =>
    have hmore : ∀ x ∈ more, x.own? = none := by
      intro x hx
      exact hbetween x (List.mem_append_left [u] hx)
    have hlast : u.own? = none := hbetween u (by simp)
    have hassoc : front ++ v :: (more ++ [u]) = (front ++ v :: more) ++ [u] := by simp
    rw [hassoc, handsOn_append_singleton, ih hmore, hlast]
    constructor
    · rintro ⟨hgoes, hown | ⟨-, hown, hv, hall⟩⟩
      · cases hown
      · refine ⟨hown, hv, ?_⟩
        intro x hx
        rcases List.mem_append.mp hx with hx | hx
        · exact hall x hx
        · rw [List.mem_singleton.mp hx]
          exact hgoes
    · rintro ⟨hown, hv, hall⟩
      refine ⟨hall u (by simp), Or.inr ⟨rfl, hown, hv, ?_⟩⟩
      intro x hx
      exact hall x (List.mem_append_left [u] hx)

/-- The attribution of a site that takes over the location of another one. -/
theorem attribution_of_supplies {operators : Operators} {d : Document} {front : List Sighting}
    {v : Sighting} {between : List Sighting} {w : Sighting} {rest : List Sighting}
    {a : Attribution} (hsup : Supplies v between w) :
    (attributionsFrom operators d none
        (front ++ v :: between ++ w :: rest))[(front ++ v :: between).length]? = some (some a) ↔
      w.asks operators = true ∧ v.goesOn = true ∧ (∀ u ∈ between ++ [w], u.goesOn = true) ∧
        ∃ l, v.own? = some l ∧ a = w.placedAt d l := by
  have hplace : (front ++ v :: between ++ w :: rest)[(front ++ v :: between).length]? = some w := by
    simp
  have hfront : (front ++ v :: between ++ w :: rest).take (front ++ v :: between).length =
      front ++ v :: between := List.take_left
  -- the rule says what the attribution at this place is, from the sites in front of it
  rw [getElem?_attributionsFrom, hplace, hfront, Option.map_some, Option.some.injEq,
    attribution?_eq_some_iff]
  constructor
  · rintro ⟨l, ha, hown | ⟨hasks, hgoes, hhands⟩⟩
    · rw [hsup.taker_none] at hown
      cases hown
    · rcases (handsOn_split hsup.between_none hsup.source).mp hhands with ⟨hown, hv, hall⟩
      refine ⟨hasks, hv, ?_, l, hown, ha⟩
      intro u hu
      rcases List.mem_append.mp hu with hu | hu
      · exact hall u hu
      · rw [List.mem_singleton.mp hu]
        exact hgoes
  · rintro ⟨hasks, hv, hall, l, hown, ha⟩
    refine ⟨l, ha, Or.inr ⟨hasks, hall w (by simp), ?_⟩⟩
    apply (handsOn_split hsup.between_none hsup.source).mpr
    refine ⟨hown, hv, ?_⟩
    intro u hu
    exact hall u (List.mem_append_left [w] hu)

/-- The attributions of a pass come from the walk over its sightings, and no location crosses the
end of its statement exactly when each such end is followed by a visit to a line that breaks the
chain, before the location is asked for. -/
theorem not_inheritsAcrossEnd_iff {operators : Operators} {backend : Backend} {limit : Number}
    {d : Document} {sites : List Site} {found : List Attribution}
    (hpass : (track operators backend limit d sites).outcome = .ok found) :
    found = (attributionsFrom operators d none
      ((visited d sites).map (sight backend limit d))).reduceOption ∧
    (¬ InheritsAcrossEnd operators d ((visited d sites).map (sight backend limit d)) ↔
      BreaksBehindEnds operators d ((visited d sites).map (sight backend limit d))) := by
  constructor
  · have hyields := track_yields operators (undisturbed_of_track hpass)
    rw [hyields.gives] at hpass
    exact (Except.ok.inj hpass).symm
  · generalize (visited d sites).map (sight backend limit d) = seen
    constructor
    · intro hno front v between w rest hseen hsup hends hasks
      by_contra hbreak
      -- if none of the sites breaks the chain, the taker gets the location
      have hall : ∀ u ∈ between ++ [w], u.goesOn = true := by
        intro u hu
        rw [← Bool.not_eq_false]
        exact fun hgoes => hbreak ⟨u, hu, hgoes⟩
      rcases Option.ne_none_iff_exists'.mp hsup.source with ⟨l, hl⟩
      subst hseen
      exact hno ⟨front, v, between, w, rest, w.placedAt d l, rfl, hsup, hends,
        (attribution_of_supplies hsup).mpr ⟨hasks, hends.goesOn, hall, l, hl, rfl⟩, hl⟩
    · rintro hbreaks ⟨front, v, between, w, rest, a, rfl, hsup, hends, hrecord, -⟩
      -- the taker got the location, so that no site up to it can have broken the chain
      rcases (attribution_of_supplies hsup).mp hrecord with ⟨hasks, -, hall, -⟩
      rcases hbreaks front v between w rest rfl hsup hends hasks with ⟨u, hu, hgoes⟩
      rw [hall u hu] at hgoes
      cases hgoes

/-! ## Two statements -/

/-- What a pass sees of the two sites: both go on with a chain, and the second one has no hover. -/
def twoSightings : List Sighting :=
  [⟨⟨⟨1, 5⟩, "source_iter".text⟩, true, some "Process<'a, Leader>".text⟩,
    ⟨⟨⟨3, 5⟩, "map".text⟩, true, none⟩]

/-- The pass sees both sites, in the order in which they are listed. -/
theorem sightings_two_statements :
    (visited twoStatements twoSites).map (sight firstOnly (.int 5000) twoStatements) =
      twoSightings := by
  have hinside : inside twoStatements twoSites = twoSites := by decide +kernel
  have hsorted : visited twoStatements twoSites = twoSites := by
    rw [visited, hinside]
    exact List.mergeSort_of_pairwise (by decide +kernel)
  rw [hsorted]
  decide +kernel

/-- The attributions of the two sites: the second one takes over the location of the first. -/
def twoAttributions : List Attribution :=
  [⟨"source_iter".text, .ofLine 1 5 16, "Process<'a, Leader>".text,
      ⟨.process, "Leader".text, 0⟩, some "Process<'a, Leader>".text⟩,
    ⟨"map".text, .ofLine 3 5 8, "Process<'_, Leader>".text,
      ⟨.process, "Leader".text, 0⟩, none⟩]

theorem attributionsFrom_two_statements :
    attributionsFrom .standard twoStatements none twoSightings = twoAttributions.map some := by
  decide +kernel

/-- So the pass ends with them. -/
theorem track_two_statements :
    (track .standard firstOnly (.int 5000) twoStatements twoSites).outcome =
      .ok twoAttributions := by
  have hpass := track_yields .standard fun s (_ : s ∈ twoSites) => undisturbed_two_statements s
  rw [hpass.gives, sightings_two_statements, attributionsFrom_two_statements]
  rfl

/-- The exact condition at two statements, where it fails. -/
theorem not_inheritsAcrossEnd_iff_two_statements :
    (track .standard firstOnly (.int 5000) twoStatements twoSites).outcome = .ok twoAttributions ∧
    (¬ InheritsAcrossEnd .standard twoStatements
        ((visited twoStatements twoSites).map (sight firstOnly (.int 5000) twoStatements)) ↔
      BreaksBehindEnds .standard twoStatements
        ((visited twoStatements twoSites).map (sight firstOnly (.int 5000) twoStatements))) :=
  ⟨track_two_statements, (not_inheritsAcrossEnd_iff track_two_statements).2⟩

/-- A location crosses the end of its statement: the second statement has no site on the line that
begins it, and its operator takes over the location of the first statement. -/
theorem inherits_across_end_two_statements :
    (track .standard firstOnly (.int 5000) twoStatements twoSites).outcome = .ok twoAttributions ∧
    InheritsAcrossEnd .standard twoStatements
      ((visited twoStatements twoSites).map (sight firstOnly (.int 5000) twoStatements)) := by
  refine ⟨track_two_statements, ?_⟩
  rw [sightings_two_statements]
  -- the first site shows a location of its own, which the pass then carries on
  have hown : Sighting.own? ⟨⟨⟨1, 5⟩, "source_iter".text⟩, true,
      some "Process<'a, Leader>".text⟩ = some ⟨.process, "Leader".text, 0⟩ := by
    decide +kernel
  -- giver, heir and the record of the heir; nothing stands between them
  refine ⟨[], ⟨⟨⟨1, 5⟩, "source_iter".text⟩, true, some "Process<'a, Leader>".text⟩, [],
    ⟨⟨⟨3, 5⟩, "map".text⟩, true, none⟩, [],
    ⟨"map".text, .ofLine 3 5 8, "Process<'_, Leader>".text,
      ⟨.process, "Leader".text, 0⟩, none⟩, rfl, ?_, ?_, ?_, hown⟩
  · refine ⟨?_, fun u hu => absurd hu List.not_mem_nil, rfl⟩
    rw [hown]
    exact Option.some_ne_none _
  · exact ⟨rfl, by decide +kernel, by decide⟩
  · rw [attributionsFrom_two_statements]
    rfl

end Placement.Chain
