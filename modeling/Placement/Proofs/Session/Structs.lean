import Placement.Proofs.Chain.Rule
import Placement.Proofs.Declaration
import Placement.Proofs.Session.Atomicity
import Placement.Proofs.TypeText.Label

/-!
# Placement.Proofs.Session.Structs — the struct declarations behind a pass

To the attributions of its sites a pass adds the places where their labels are
declared as structs. Every label that it looks for was read from a type text, and
does not begin with a blank (`searchable_of_track`), so that each attribution it
adds stands on a line that introduces the label (`record_of_mem`). A label that
ends in a word character leaves an attribution exactly when some line declares it,
and then on the first such line (`declared_of_readable`).

A call on a document whose lines can be read answers with the attributions of its
sites, and behind them with these (`call_declares_structs`).
-/

namespace Placement

open Declaration (DeclaresAt Declares Introduces Searchable attribution firstLocation? labels
  place? record? shown)

/-! ## Labels of a pass -/

namespace Chain

variable {operators : Operators} {backend : Backend} {limit : Number} {d : Document}

/-- A location that a site has by its own type was read from a text. -/
theorem readable_of_own? {v : Sighting} {l : Location} (h : v.own? = some l) :
    TypeText.Readable l := by
  obtain ⟨t, -, hfilter⟩ := Option.bind_eq_some_iff.mp h
  split at hfilter
  · cases hfilter
  · exact TypeText.readable_of_parse (Option.filter_eq_some_iff.mp hfilter).1

/-- The location of an attribution was read from the type text of some site. -/
theorem readable_of_attributed {before : List Sighting} {v : Sighting} {a : Attribution}
    (h : Attributed operators d before v a) : TypeText.Readable a.location := by
  -- an inherited location is the own one of the site that hands it on
  rcases h with ⟨l, rfl, hown | ⟨-, -, hhands⟩⟩
  · exact readable_of_own? hown
  · rcases hhands with ⟨front, w, between, -, hown, -, -⟩
    exact readable_of_own? hown

/-- The locations of a pass were read from texts. -/
theorem readable_of_track {sites : List Site} {found : List Attribution}
    (h : (track operators backend limit d sites).outcome = .ok found) :
    ∀ a ∈ found, TypeText.Readable a.location := by
  intro a ha
  -- a pass that came to its end is a walk over sightings, to which the rule applies
  have hpass := track_yields operators (undisturbed_of_track h)
  cases h.symm.trans hpass.gives
  rw [List.reduceOption_mem_iff] at ha
  obtain ⟨i, hi⟩ := List.mem_iff_getElem?.mp ha
  rw [getElem?_attributionsFrom] at hi
  obtain ⟨v, -, hv⟩ := Option.map_eq_some_iff.mp hi
  exact readable_of_attributed (attribution?_eq_some_iff.mp hv)

/-- The labels that a pass looks for do not begin with a blank. -/
theorem searchable_of_track {sites : List Site} {found : List Attribution} {label : Text}
    {l : Location} (h : (track operators backend limit d sites).outcome = .ok found)
    (hlabel : firstLocation? found label = some l) : Searchable label := by
  obtain ⟨a, ha, rfl, rfl⟩ := Declaration.exists_of_firstLocation? hlabel
  have hsingle := (readable_of_track h a ha).label
  exact ⟨hsingle.nonempty, hsingle.head⟩

end Chain

/-! ## Declarations among the lines -/

/-- What is declared in a document of the labels that some attributions show. -/
structure Declared (d : Document) (found declared : List Attribution) : Prop where
  /-- No label is declared twice. -/
  distinct : (declared.map fun a => a.location.label).Nodup
  /-- The labels follow each other as they are shown first. -/
  order : (declared.map fun a => a.location.label).Sublist (shown found).eraseDups
  /-- A declaration carries the first location that shows its label. -/
  first : ∀ a ∈ declared, firstLocation? found a.location.label = some a.location
  /-- A declaration is named by its label, and has no type text but that of its location. -/
  named : ∀ a ∈ declared, a.operator = a.location.label ∧ a.typeText = a.location.canonical ∧
    a.returnType = none
  /-- A declaration lies on one line, where its text is the label, behind the word `struct`. -/
  stands : ∀ a ∈ declared, ∃ (n start : Nat) (line behind : Text),
    d.lines[n]? = some line ∧ Introduces line a.location.label start behind ∧
    a.range = .ofLine n start (start + a.location.label.length) ∧
    d.getText a.range = .ok a.location.label
  /-- A label that ends in a word character is declared when some line declares it. -/
  complete : ∀ label ∈ shown found, label.getLast?.any Text.isWord = true →
    ((∃ a ∈ declared, a.location.label = label) ↔ ∃ line ∈ d.lines, Declares line label)
  /-- It is declared on the first such line. -/
  earliest : ∀ a ∈ declared, a.location.label.getLast?.any Text.isWord = true →
    ∃ (n start : Nat) (line : Text), a.range = .ofLine n start (start + a.location.label.length) ∧
      d.lines[n]? = some line ∧ DeclaresAt line a.location.label start ∧
      ∀ m < n, ∀ other, d.lines[m]? = some other → ¬ Declares other a.location.label

variable {d : Document} {found : List Attribution}

/-- What is kept of a label that a line declares. -/
theorem record_of_mem {a : Attribution} (ha : a ∈ (labels found).filterMap (record? d)) :
    firstLocation? found a.location.label = some a.location ∧
    ∃ n start : Nat, place? a.location.label 0 d.lines = some (n, start) ∧
      a = attribution a.location n start := by
  obtain ⟨⟨label, l⟩, hlabel, hrecord⟩ := List.mem_filterMap.mp ha
  have hfirst := Declaration.mem_labels_iff.mp hlabel
  obtain ⟨-, -, -, rfl⟩ := Declaration.exists_of_firstLocation? hfirst
  obtain ⟨⟨n, start⟩, hplace, rfl⟩ := Option.map_eq_some_iff.mp hrecord
  exact ⟨hfirst, n, start, hplace, rfl⟩

/-- A label is shown when some attribution shows it first. -/
theorem mem_shown_iff {label : Text} :
    label ∈ shown found ↔ ∃ l, firstLocation? found label = some l := by
  have hkeys := congrArg (label ∈ ·) (Declaration.map_fst_labels found)
  simp only [List.mem_eraseDups, List.mem_map, Prod.exists, exists_and_right, exists_eq_right,
    Declaration.mem_labels_iff, eq_iff_iff] at hkeys
  exact hkeys.symm

/-- The labels of what is kept are some of those that were looked for. -/
theorem map_label_sublist {entries : List (Text × Location)}
    (h : ∀ entry ∈ entries, entry.2.label = entry.1) :
    ((entries.filterMap (record? d)).map fun a => a.location.label).Sublist
      (entries.map Prod.fst) := by
  induction entries with
  | nil => exact List.Sublist.refl []
  | cons entry more ih =>
    have hmore := ih fun e he => h e (List.mem_cons_of_mem entry he)
    rw [List.filterMap_cons, List.map_cons]
    cases hrecord : record? d entry with
    | none => exact hmore.cons entry.1
    | some a =>
      obtain ⟨-, -, rfl⟩ := Option.map_eq_some_iff.mp hrecord
      rw [List.map_cons]
      have hlabel := h entry List.mem_cons_self
      simpa only [attribution, hlabel] using hmore.cons_cons entry.1

section

variable (hread : d.Readable)
  (hsearch : ∀ label l, firstLocation? found label = some l → Searchable label)

include hread hsearch in
/-- What is kept of a label stands on a line that introduces the label. -/
theorem stands_of_mem {a : Attribution} (ha : a ∈ (labels found).filterMap (record? d)) :
    ∃ (n start : Nat) (line behind : Text),
      d.lines[n]? = some line ∧ Introduces line a.location.label start behind ∧
      a.range = .ofLine n start (start + a.location.label.length) ∧
      d.getText a.range = .ok a.location.label := by
  obtain ⟨hfirst, n, start, hplace, hrecord⟩ := record_of_mem ha
  obtain ⟨i, line, hn, hline, hstart, -⟩ := Declaration.place?_eq_some_iff.mp hplace
  rw [Nat.zero_add] at hn
  subst hn
  obtain ⟨behind, hintro, -⟩ := Declaration.introduces_of_startIn? (hsearch _ _ hfirst) hstart
  have hrange : a.range = .ofLine n start (start + a.location.label.length) :=
    congrArg Attribution.range hrecord
  refine ⟨n, start, line, behind, hline, hintro, hrange, ?_⟩
  -- the label begins right behind the blanks, and its stretch is as long as it is
  obtain ⟨front, blanks, hparts, -, -, -, hlength⟩ := hintro
  rw [hrange, hlength]
  have hbroken : (n : Int) ∉ d.broken := by
    refine hread n ⟨Int.natCast_nonneg n, Int.ofNat_lt.mpr ?_⟩
    exact (List.getElem?_eq_some_iff.mp hline).1
  exact Document.getText_ofLine hbroken (hparts ▸ hline)

include hsearch in
/-- It stands on the first line that declares the label, if this ends in a word character. -/
theorem earliest_of_mem {a : Attribution} (ha : a ∈ (labels found).filterMap (record? d))
    (hlast : a.location.label.getLast?.any Text.isWord = true) :
    ∃ (n start : Nat) (line : Text), a.range = .ofLine n start (start + a.location.label.length) ∧
      d.lines[n]? = some line ∧ DeclaresAt line a.location.label start ∧
      ∀ m < n, ∀ other, d.lines[m]? = some other → ¬ Declares other a.location.label := by
  obtain ⟨hfirst, n, start, hplace, hrecord⟩ := record_of_mem ha
  have hname := hsearch _ _ hfirst
  obtain ⟨i, line, hn, hline, hstart, hbefore⟩ := Declaration.place?_eq_some_iff.mp hplace
  rw [Nat.zero_add] at hn
  subst hn
  refine ⟨n, start, line, congrArg Attribution.range hrecord, hline,
    Declaration.declaresAt_of_startIn? hname hlast hstart, ?_⟩
  intro m hm other hother
  exact (Declaration.startIn?_eq_none_iff hname hlast).mp (hbefore m hm other hother)

include hsearch in
/-- A label that ends in a word character is kept when some line declares it. -/
theorem exists_record_iff {label : Text} (hlabel : label ∈ shown found)
    (hlast : label.getLast?.any Text.isWord = true) :
    (∃ a ∈ (labels found).filterMap (record? d), a.location.label = label) ↔
      ∃ line ∈ d.lines, Declares line label := by
  obtain ⟨l, hfirst⟩ := mem_shown_iff.mp hlabel
  constructor
  · rintro ⟨a, ha, rfl⟩
    obtain ⟨n, start, line, -, hline, hdeclares, -⟩ := earliest_of_mem hsearch ha hlast
    exact ⟨line, List.mem_of_getElem? hline, start, hdeclares⟩
  · rintro ⟨line, hline, hdeclares⟩
    cases hplace : place? label 0 d.lines with
    | none =>
      -- the search looked at every line, and at this one too
      have hnone := Declaration.place?_eq_none_iff.mp hplace line hline
      have hno := (Declaration.startIn?_eq_none_iff (hsearch _ _ hfirst) hlast).mp hnone
      exact absurd hdeclares hno
    | some place =>
      obtain ⟨-, -, -, rfl⟩ := Declaration.exists_of_firstLocation? hfirst
      have hrecord : record? d (l.label, l) = some (attribution l place.1 place.2) := by
        simp only [record?, hplace, Option.map_some]
      have hentry := Declaration.mem_labels_iff.mpr hfirst
      exact ⟨_, List.mem_filterMap.mpr ⟨(l.label, l), hentry, hrecord⟩, rfl⟩

include hread hsearch in
/-- What is kept of the labels is what the document declares of them. -/
theorem declared_of_readable : Declared d found ((labels found).filterMap (record? d)) := by
  -- each record carries the label it was made for, so the labels inherit order and distinctness
  have hsub : (((labels found).filterMap (record? d)).map fun a => a.location.label).Sublist
      ((labels found).map Prod.fst) := by
    refine map_label_sublist fun entry hentry => ?_
    obtain ⟨-, -, -, hlabel⟩ :=
      Declaration.exists_of_firstLocation? (Declaration.mem_labels_iff.mp hentry)
    exact hlabel
  refine
    { distinct := (Declaration.nodup_labels found).sublist hsub
      order := Declaration.map_fst_labels found ▸ hsub
      first := fun a ha => (record_of_mem ha).1
      named := ?_
      stands := fun a => stands_of_mem hread hsearch
      complete := fun label => exists_record_iff hsearch
      earliest := fun a => earliest_of_mem hsearch }
  intro a ha
  obtain ⟨-, n, start, -, hrecord⟩ := record_of_mem ha
  rw [hrecord]
  exact ⟨rfl, rfl, rfl⟩

end

/-! ## Calls -/

namespace Session

variable {s : Session} {c : Call}

/-- The attributions of the sites that a call is about. A call that is refused looks at none. -/
def tracked (s : Session) (c : Call) : Except Interruption (List Attribution) :=
  if s.settings.Admits c.document then
    (Chain.track s.operators s.backend (.int s.settings.queryTimeout) c.document c.sites).outcome
  else .ok []

/-- A call that is not answered from the cache, on a document whose lines can be read, answers with
the attributions of its sites, and behind them with what the document declares of their labels. -/
theorem call_declares_structs {answer : List Attribution} (hnew : c.key ∉ s.cache.keys)
    (hread : c.document.Readable) (hanswer : (s.call c).1.outcome = .ok answer) :
    ∃ found declared, s.tracked c = .ok found ∧ answer = found ++ declared ∧
      Declared c.document found declared := by
  unfold tracked
  by_cases h : s.settings.Admits c.document
  · have hfind := Cache.find?_eq_none_iff.mpr hnew
    rw [if_pos h]
    -- a call without a key fails, and is not answered
    have hlooks : s.settings.LooksUp c := by
      refine ⟨h, by_contra fun hkey => ?_⟩
      rw [call, analyze_of_not_hasKey h hkey] at hanswer
      cases hanswer
    cases hpass : (s.pass c.document c.sites).outcome with
    | ok result =>
      -- the answer is what the pass gave, and each of its two steps was done
      rw [call_of_done hlooks hfind hpass] at hanswer
      cases hpass.symm.trans hanswer
      obtain ⟨found, htrack, hpass⟩ := Run.outcome_bind_eq_ok.mp hpass
      obtain ⟨declared, hamong, hresult⟩ := Run.outcome_bind_eq_ok.mp hpass
      rw [Run.outcome_ofLine_eq_ok, Declaration.among_eq_ok hread] at hamong
      cases hamong
      cases hresult
      refine ⟨found, _, htrack, rfl, declared_of_readable hread fun label l hfirst => ?_⟩
      exact Chain.searchable_of_track htrack hfirst
    | error stop =>
      rcases pass_faultsOnly s c.document c.sites stop hpass with rfl | ⟨fault, -, hfault⟩
      · rw [call_of_cancelled hlooks hfind hpass, hpass] at hanswer
        cases hanswer
      · -- all lines can be read, so none of them has broken the pass
        obtain ⟨line, hline, hbroken, -⟩ := hfault
        exact absurd hbroken (hread line hline)
  · -- a refused call answers with nothing, of which nothing is declared
    obtain ⟨notices, hskip⟩ := analyze_of_not_admits h
    rw [call, hskip] at hanswer
    cases hanswer
    rw [if_neg h]
    have hnone : Declared c.document [] ((labels []).filterMap (record? c.document)) :=
      declared_of_readable hread fun label l hfirst => by cases hfirst
    exact ⟨[], [], rfl, rfl, hnone⟩

/-- The analysis of a statement behind which two structs are declared, the first one under a longer
name. -/
def leaderCall : Call :=
  { firstCall with
    document := .ofText "file:///a.rs".text
      "let a = p1\n    .source_iter(xs);\nstruct Leaders;\npub struct Leader;".text 1 }

/-- The label `Leader` is declared on the last line only. -/
theorem call_declares_structs_leader :
    let s := start leaderHover.backend .standard .standard
    (leaderCall.key ∉ s.cache.keys ∧ leaderCall.document.Readable) ∧
    ∃ found declared, (s.call leaderCall).1.outcome = .ok (found ++ declared) ∧
      Declared leaderCall.document found declared ∧
      (found ++ declared).map (fun a => a.range) = [.ofLine 1 5 16, .ofLine 3 11 17] := by
  intro s
  have hnew : leaderCall.key ∉ s.cache.keys := List.not_mem_nil
  have hread : leaderCall.document.Readable := Document.readable_of_broken_eq_nil rfl
  -- the run is computed once; what it returned is then split as the theorem says
  have hranges : ((s.call leaderCall).1.outcome.map fun found => found.map fun a => a.range) =
      .ok [.ofLine 1 5 16, .ofLine 3 11 17] := by decide +kernel
  cases hanswer : (s.call leaderCall).1.outcome with
  | error stop =>
    rw [hanswer] at hranges
    cases hranges
  | ok answer =>
    obtain ⟨found, declared, -, rfl, hdeclared⟩ := call_declares_structs hnew hread hanswer
    rw [hanswer] at hranges
    exact ⟨⟨hnew, hread⟩, found, declared, rfl, hdeclared, Except.ok.inj hranges⟩

end Session

end Placement
