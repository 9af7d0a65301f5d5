import Mathlib.Data.List.Induction
import Placement.Proofs.Document
import Placement.Proofs.Lookup
import Placement.Proofs.Search
import Placement.Proofs.Words
import Placement.Session

/-!
# Placement.Proofs.Declaration — where labels are declared as structs

A line introduces a name when it holds the word `struct`, blanks and the name
(`Introduces`), and declares a struct with the name when the name ends there
(`DeclaresAt`). The two differ in what stands behind the name only, and a line is
found to declare a name that ends in a word character exactly when it does
(`startIn?_eq_none_iff`).

The labels of some attributions are kept in the order of their first appearance,
each with the location that appeared first (`map_fst_labels`, `lookup_labels`).
In a document whose lines can be read each label is looked up, and leaves at most
one attribution, on the first line that declares it (`among_eq_ok`,
`place?_eq_some_iff`).
-/

namespace Placement.Declaration

open Text (Pattern isBlank isWord isWordEdge)

variable {name line behind : Text} {start : Nat}

/-! ## Lines -/

/-- On the line the name begins at this place, behind the word `struct` and blanks, and the other
text stands behind it. -/
def Introduces (line name : Text) (start : Nat) (behind : Text) : Prop :=
  ∃ front blanks : Text,
    line = front ++ "struct".text ++ blanks ++ name ++ behind ∧
    front.getLast?.any isWord = false ∧
    blanks ≠ [] ∧ (∀ c ∈ blanks, isBlank c = true) ∧
    start = (front ++ "struct".text ++ blanks).length

/-- The line introduces the name at this place, and the name is no part of a longer word. -/
def DeclaresAt (line name : Text) (start : Nat) : Prop :=
  ∃ behind, Introduces line name start behind ∧ behind.head?.any isWord = false

/-- The line declares a struct with the name. -/
def Declares (line name : Text) : Prop := ∃ start, DeclaresAt line name start

/-- A name that a text can be searched for: it does not begin with a blank. -/
structure Searchable (name : Text) : Prop where
  nonempty : name ≠ []
  head : name.head?.any isBlank = false

/-- At the head of a text the pattern reads the word `struct`, blanks and the name. -/
theorem structNamed_eq_some_iff (hname : Searchable name) {before : Option CodePoint}
    {t found rest : Text} :
    structNamed name before t = some (found, rest) ↔
      found = name ∧ before.any isWord = false ∧
      isWordEdge name.getLast? rest.head? = true ∧
      ∃ blanks : Text, blanks ≠ [] ∧ (∀ c ∈ blanks, isBlank c = true) ∧
        t = "struct".text ++ (blanks ++ (name ++ rest)) := by
  unfold structNamed
  constructor
  · -- the pattern read something, so it went through all of its steps
    intro h
    cases hbefore : before.any isWord with
    | true =>
      rw [hbefore] at h
      cases h
    | false =>
      rw [hbefore] at h
      obtain ⟨r, hr, hrest⟩ := Option.bind_eq_some_iff.mp h
      cases hcut : r.span isBlank with
      | mk blanks behind =>
        simp only [hcut] at hrest
        obtain ⟨rfl, hblanks, -⟩ := Text.span_eq_iff.mp hcut
        cases hempty : blanks.isEmpty with
        | true =>
          rw [hempty] at hrest
          cases hrest
        | false =>
          rw [hempty] at hrest
          obtain ⟨left, hleft, hfound⟩ := Option.bind_eq_some_iff.mp hrest
          -- the last step checks where the name ends
          obtain ⟨hedge, hsame⟩ := Option.ite_none_right_eq_some.mp hfound
          cases hsame
          refine ⟨rfl, rfl, hedge, blanks, List.isEmpty_eq_false_iff.mp hempty, hblanks, ?_⟩
          rw [Text.after?_eq_some_iff.mp hr, Text.after?_eq_some_iff.mp hleft]
  · rintro ⟨rfl, hbefore, hedge, blanks, hne, hblanks, rfl⟩
    -- the name does not begin with a blank, so the blanks in front of it are all of them
    have hspan : (blanks ++ (found ++ rest)).span isBlank = (blanks, found ++ rest) := by
      refine Text.span_eq_iff.mpr ⟨rfl, hblanks, ?_⟩
      rw [List.head?_append_of_ne_nil _ hname.nonempty]
      exact hname.head
    have hempty : blanks.isEmpty = false := List.isEmpty_eq_false_iff.mpr hne
    simp only [hbefore, Bool.false_eq_true, if_false, Text.after?_append, Option.bind_eq_bind,
      Option.bind_some, hspan, hempty, hedge, if_true]

/-- The place that is found on a line is one where it introduces the name. -/
theorem introduces_of_startIn? (hname : Searchable name) (h : startIn? name line = some start) :
    ∃ behind, Introduces line name start behind ∧
      isWordEdge name.getLast? behind.head? = true := by
  obtain ⟨⟨found, rest⟩, hfind, hstart⟩ := Option.map_eq_some_iff.mp h
  obtain ⟨front, c, back, rfl, hread⟩ := Pattern.exists_of_find? hfind
  rw [Option.or_none, structNamed_eq_some_iff hname] at hread
  obtain ⟨-, hbefore, hedge, blanks, hne, hblanks, hback⟩ := hread
  refine ⟨rest, ⟨front, blanks, ?_, hbefore, hne, hblanks, ?_⟩, hedge⟩
  · rw [hback]
    simp only [List.append_assoc]
  · rw [← hstart, hback]
    simp only [List.length_append]
    omega

/-- No place is found on a line that introduces the name nowhere. -/
theorem startIn?_ne_none (hname : Searchable name) (h : Introduces line name start behind)
    (hedge : isWordEdge name.getLast? behind.head? = true) : startIn? name line ≠ none := by
  obtain ⟨front, blanks, hline, hbefore, hne, hblanks, -⟩ := h
  intro hnone
  -- the pattern reads the name behind the front part, so the search does not come to its end
  have hnothing := Pattern.find?_eq_none_iff.mp (Option.map_eq_none_iff.mp hnone)
  have hread : structNamed name front.getLast?
      ("struct".text ++ (blanks ++ (name ++ behind))) = some (name, behind) :=
    (structNamed_eq_some_iff hname).mpr ⟨rfl, hbefore, hedge, blanks, hne, hblanks, rfl⟩
  have hplace := hnothing front 's' ("truct".text ++ (blanks ++ (name ++ behind)))
    (by rw [hline]; simp only [List.append_assoc]; rfl)
  rw [Option.or_none] at hplace
  exact absurd (hplace.symm.trans hread) nofun

/-- Behind a word character a name ends where no word character follows. -/
theorem isWordEdge_getLast?_iff (hlast : name.getLast?.any isWord = true) :
    isWordEdge name.getLast? behind.head? = true ↔ behind.head?.any isWord = false := by
  obtain ⟨c, hc, hword⟩ := (Option.any_eq_true _ _).mp hlast
  rw [hc]
  exact Text.isWordEdge_right hword

/-- The place that is found declares the name, if the name ends in a word character. -/
theorem declaresAt_of_startIn? (hname : Searchable name)
    (hlast : name.getLast?.any isWord = true) (h : startIn? name line = some start) :
    DeclaresAt line name start := by
  obtain ⟨behind, hintro, hedge⟩ := introduces_of_startIn? hname h
  exact ⟨behind, hintro, (isWordEdge_getLast?_iff hlast).mp hedge⟩

/-- Nothing is found exactly on the lines that do not declare the name. -/
theorem startIn?_eq_none_iff (hname : Searchable name)
    (hlast : name.getLast?.any isWord = true) :
    startIn? name line = none ↔ ¬ Declares line name := by
  constructor
  · rintro hnone ⟨start, behind, hintro, hend⟩
    exact startIn?_ne_none hname hintro ((isWordEdge_getLast?_iff hlast).mpr hend) hnone
  · intro hno
    cases hstart : startIn? name line with
    | none => rfl
    | some start => exact absurd ⟨start, declaresAt_of_startIn? hname hlast hstart⟩ hno

/-! ## Labels -/

/-- The labels that attributions show as parameters, one for each such attribution. -/
def shown (found : List Attribution) : List Text :=
  (found.filter fun a => a.location.hasParameter).map fun a => a.location.label

/-- The location of the first attribution that shows a label as its parameter. -/
def firstLocation? (found : List Attribution) (label : Text) : Option Location :=
  (found.find? fun a => a.location.hasParameter && a.location.label == label).map (·.location)

variable {found : List Attribution} {label : Text} {l : Location}

/-- A later attribution counts only for a label that no earlier one shows. -/
theorem firstLocation?_concat (found : List Attribution) (a : Attribution) (label : Text) :
    firstLocation? (found ++ [a]) label =
      (firstLocation? found label).or
        (if a.location.hasParameter && a.location.label == label then some a.location
         else none) := by
  unfold firstLocation?
  rw [List.find?_append, Option.map_or, List.find?_singleton]
  split <;> rfl

/-- A label that is looked up is shown by an attribution. -/
theorem exists_of_firstLocation? (h : firstLocation? found label = some l) :
    ∃ a ∈ found, a.location = l ∧ l.label = label := by
  obtain ⟨a, hfind, rfl⟩ := Option.map_eq_some_iff.mp h
  have hshows := List.find?_some hfind
  rw [Bool.and_eq_true, beq_iff_eq] at hshows
  exact ⟨a, List.mem_of_find?_eq_some hfind, rfl, hshows.2⟩

/-- An attribution adds its label when it shows one that is new. -/
theorem labels_concat (found : List Attribution) (a : Attribution) :
    labels (found ++ [a]) =
      if a.location.hasParameter = true ∧ a.location.label ∉ (labels found).map Prod.fst then
        labels found ++ [(a.location.label, a.location)]
      else labels found := by
  have hnew : (a.location.hasParameter && !((labels found).lookup a.location.label).isSome) = true ↔
      a.location.hasParameter = true ∧ a.location.label ∉ (labels found).map Prod.fst := by
    rw [Bool.and_eq_true, Bool.not_eq_true', ← Bool.not_eq_true, Lookup.isSome_iff]
  rw [← if_congr hnew rfl rfl]
  exact List.foldl_concat _ _ _ _

/-- The labels are kept in the order in which they are shown first. -/
theorem map_fst_labels (found : List Attribution) :
    (labels found).map Prod.fst = (shown found).eraseDups := by
  -- the labels are taken from the left, so the induction adds attributions at the end
  induction found using List.reverseRecOn with
  | nil => rfl
  | append_singleton found a ih =>
    -- a label is new among those kept exactly when it is new among those shown
    have hseen : a.location.label ∈ (labels found).map Prod.fst ↔
        a.location.label ∈ shown found := by
      rw [ih, List.mem_eraseDups]
    rw [labels_concat]
    by_cases hshows : a.location.hasParameter = true
    · have hmore : shown (found ++ [a]) = shown found ++ [a.location.label] := by
        simp [shown, hshows]
      rw [hmore, List.eraseDups_append, ← ih]
      by_cases hold : a.location.label ∈ shown found
      · rw [if_neg fun hadds => hadds.2 (hseen.mpr hold)]
        simp [hold, List.removeAll]
      · rw [if_pos ⟨hshows, fun h => hold (hseen.mp h)⟩, List.map_append]
        simp [hold, List.removeAll, List.eraseDups_cons]
    · have hsame : shown (found ++ [a]) = shown found := by simp [shown, hshows]
      rw [if_neg fun hadds => hshows hadds.1, ih, hsame]

/-- No label is kept twice. -/
theorem nodup_labels (found : List Attribution) : ((labels found).map Prod.fst).Nodup := by
  induction found using List.reverseRecOn with
  | nil => exact List.nodup_nil
  | append_singleton found a ih =>
    rw [labels_concat]
    split
    · rename_i hadds
      rw [List.map_append, List.map_singleton, ← List.concat_eq_append]
      exact List.Nodup.concat hadds.2 ih
    · exact ih

/-- Each label is kept with the first location that shows it. -/
theorem lookup_labels (found : List Attribution) (label : Text) :
    (labels found).lookup label = firstLocation? found label := by
  induction found using List.reverseRecOn with
  | nil => rfl
  | append_singleton found a ih =>
    rw [labels_concat, firstLocation?_concat, ← ih]
    by_cases hshows : a.location.hasParameter = true ∧ a.location.label = label
    · -- the attribution counts only if no earlier one shows its label
      obtain ⟨hparameter, rfl⟩ := hshows
      by_cases hold : a.location.label ∈ (labels found).map Prod.fst
      · obtain ⟨l, hl⟩ := Option.isSome_iff_exists.mp (Lookup.isSome_iff.mpr hold)
        rw [if_neg fun hadds => hadds.2 hold, hl, Option.some_or]
      · rw [if_pos ⟨hparameter, hold⟩, List.lookup_append, Lookup.eq_none_iff.mpr hold]
        simp [hparameter]
    · -- a label that is added is another one
      have hno : (a.location.hasParameter && a.location.label == label) = false := by
        rw [← Bool.not_eq_true, Bool.and_eq_true, beq_iff_eq]
        exact hshows
      rw [hno, if_neg Bool.false_ne_true, Option.or_none]
      split
      · rename_i hadds
        have hother : label ≠ a.location.label := fun h => hshows ⟨hadds.1, h.symm⟩
        rw [List.lookup_append, List.lookup_cons, beq_false_of_ne hother]
        exact Option.or_none
      · rfl

/-- The labels that are kept are those shown, each with the first location that shows it. -/
theorem mem_labels_iff : (label, l) ∈ labels found ↔ firstLocation? found label = some l := by
  rw [← lookup_labels, Lookup.eq_some_iff_mem (nodup_labels found)]

/-! ## Documents -/

/-- The first of some lines on which a place is found, and the place. Lines are numbered from
`number`. -/
def place? (name : Text) : Nat → List Text → Option (Nat × Nat)
  | _, [] => none
  | number, line :: more =>
    match startIn? name line with
    | some start => some (number, start)
    | none => place? name (number + 1) more

/-- No place is found in lines on none of which one is found. -/
theorem place?_eq_none_iff {number : Nat} {lines : List Text} :
    place? name number lines = none ↔ ∀ line ∈ lines, startIn? name line = none := by
  induction lines generalizing number with
  | nil => simp [place?]
  | cons line more ih =>
    rw [place?]
    cases hstart : startIn? name line with
    | some start => simp [hstart]
    | none => simp [hstart, ih]

/-- A place that is found is on the first line on which one is found. -/
theorem place?_eq_some_iff {number n : Nat} {lines : List Text} :
    place? name number lines = some (n, start) ↔
      ∃ i line, n = number + i ∧ lines[i]? = some line ∧ startIn? name line = some start ∧
        ∀ j < i, ∀ other, lines[j]? = some other → startIn? name other = none := by
  induction lines generalizing number with
  | nil => simp [place?]
  | cons line more ih =>
    rw [place?]
    cases hstart : startIn? name line with
    | some first =>
      -- the search ends on this line, with no line before it
      constructor
      · intro h
        cases h
        exact ⟨0, line, rfl, rfl, hstart, nofun⟩
      · rintro ⟨i, found, rfl, hfound, hplace, hbefore⟩
        cases i with
        | zero =>
          cases hfound
          cases hstart.symm.trans hplace
          rfl
        | succ i => exact absurd (hstart.symm.trans (hbefore 0 (Nat.succ_pos i) line rfl)) nofun
    | none =>
      -- the search goes on, and this line is one more in front of the place
      rw [ih]
      constructor
      · rintro ⟨i, found, rfl, hfound, hplace, hbefore⟩
        refine ⟨i + 1, found, by omega, hfound, hplace, ?_⟩
        intro j hj other hother
        cases j with
        | zero =>
          cases hother
          exact hstart
        | succ j => exact hbefore j (Nat.lt_of_succ_lt_succ hj) other hother
      · rintro ⟨i, found, rfl, hfound, hplace, hbefore⟩
        cases i with
        | zero =>
          cases hfound
          exact absurd (hstart.symm.trans hplace) nofun
        | succ i =>
          refine ⟨i, found, by omega, hfound, hplace, ?_⟩
          intro j hj other hother
          exact hbefore (j + 1) (Nat.succ_lt_succ hj) other hother

/-- Among lines that can be read the search does not fail. -/
theorem find_eq_ok {broken : List Int} {number : Nat} {lines : List Text}
    (h : ∀ i : Nat, number ≤ i → i < number + lines.length → (i : Int) ∉ broken) :
    find broken name number lines = .ok (place? name number lines) := by
  induction lines generalizing number with
  | nil => rfl
  | cons line more ih =>
    rw [List.length_cons] at h
    rw [find, if_neg (h number (Nat.le_refl _) (by omega)), place?]
    cases startIn? name line with
    | some start => rfl
    | none => exact ih fun i hlow hhigh => h i (by omega) (by omega)

/-- The attribution that a label leaves in a document. -/
def record? (d : Document) (entry : Text × Location) : Option Attribution :=
  (place? entry.1 0 d.lines).map fun (line, start) => attribution entry.2 line start

variable {d : Document}

/-- In a document whose lines can be read no label fails to be looked up. -/
theorem ofLabels_eq_ok (hread : d.Readable) (entries : List (Text × Location)) :
    ofLabels d entries = .ok (entries.filterMap (record? d)) := by
  -- the search reads lines of the document only
  have hfind : ∀ name, find d.broken name 0 d.lines = .ok (place? name 0 d.lines) := by
    intro name
    refine find_eq_ok fun i _ hi => hread i ⟨Int.natCast_nonneg i, ?_⟩
    rw [Nat.zero_add] at hi
    exact Int.ofNat_lt.mpr hi
  induction entries with
  | nil => rfl
  | cons entry more ih =>
    rw [ofLabels, hfind, ih, List.filterMap_cons]
    unfold record?
    cases place? entry.1 0 d.lines <;> rfl

/-- In a document whose lines can be read each label leaves at most one attribution. -/
theorem among_eq_ok (hread : d.Readable) (found : List Attribution) :
    among d found = .ok ((labels found).filterMap (record? d)) :=
  ofLabels_eq_ok hread (labels found)

end Placement.Declaration
