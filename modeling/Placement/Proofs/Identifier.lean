import Placement.Proofs.Document
import Placement.Proofs.Words

/-!
# Placement.Proofs.Identifier — the identifier around a place

The search for the identifier around a place of a line grows to both sides as long as
there are identifier characters. What it finds is an identifier of the line (`Identifier`):
a run of such characters that goes on at neither side, with the place inside of it or at
one of its ends (`wordBounds_split`). A line has only one of them there, so that the search
finds it from each of its places (`wordBounds_of_identifier`), and finds none between two
other characters.

`findsIdentifiers` says this for every line that can be read, and for all places of it; a
place beyond the end counts as the end.
-/

namespace Placement

open Text (isIdent)

/-- The characters of a text from one place up to another are an identifier, and no identifier
character stands on either side of it. -/
def Text.Identifier (t : Text) (start stop : Nat) : Prop :=
  ∃ front word behind, t = front ++ word ++ behind ∧ start = front.length ∧
    stop = (front ++ word).length ∧ word ≠ [] ∧ (∀ c ∈ word, isIdent c = true) ∧
    front.getLast?.any isIdent = false ∧ behind.head?.any isIdent = false

/-- An identifier is not empty. -/
theorem Text.Identifier.start_lt {t : Text} {start stop : Nat} (h : t.Identifier start stop) :
    start < stop := by
  rcases h with ⟨front, word, behind, -, rfl, rfl, hne, -, -, -⟩
  have := List.length_pos_iff.mpr hne
  rw [List.length_append]
  omega

/-- An identifier ends within the text. -/
theorem Text.Identifier.stop_le {t : Text} {start stop : Nat} (h : t.Identifier start stop) :
    stop ≤ t.length := by
  rcases h with ⟨front, word, behind, rfl, -, rfl, -, -, -, -⟩
  exact (List.prefix_append (front ++ word) behind).length_le

/-- An identifier character stands in front of a place of the text, or at it. -/
def Text.Touches (t : Text) (place : Nat) : Prop :=
  (t.take place).getLast?.any isIdent = true ∨ (t.drop place).head?.any isIdent = true

/-- The place of a character of a line; one beyond the end of the line is at its end. -/
def Text.placeOf (t : Text) (character : Int) : Nat := min character.toNat t.length

theorem Text.placeOf_le (t : Text) (character : Int) : t.placeOf character ≤ t.length :=
  Nat.min_le_right _ _

namespace Document

variable {d : Document} {line : Int} {t front behind word : Text} {start stop place : Nat}

/-! ## Growing to one side -/

/-- The run at the beginning of a text is counted up to the first other character. -/
theorem identLength_append (hword : ∀ c ∈ word, isIdent c = true)
    (hbehind : behind.head?.any isIdent = false) : identLength (word ++ behind) = word.length := by
  have hspan : (word ++ behind).span isIdent = (word, behind) :=
    Text.span_eq_iff.mpr ⟨rfl, hword, hbehind⟩
  rw [List.span_eq_takeWhile_dropWhile, Prod.mk.injEq] at hspan
  rw [identLength, hspan.1]

/-- A text begins with a run of identifier characters, which may be empty. -/
theorem exists_run (t : Text) :
    ∃ word behind, t = word ++ behind ∧ (∀ c ∈ word, isIdent c = true) ∧
      behind.head?.any isIdent = false := by
  rcases hspan : t.span isIdent with ⟨word, behind⟩
  exact ⟨word, behind, Text.span_eq_iff.mp hspan⟩

/-- It ends with one, too. -/
theorem exists_run_last (t : Text) :
    ∃ front word, t = front ++ word ∧ (∀ c ∈ word, isIdent c = true) ∧
      front.getLast?.any isIdent = false := by
  rcases exists_run t.reverse with ⟨word, front, hsplit, hword, hfront⟩
  refine ⟨front.reverse, word.reverse, ?_, ?_, ?_⟩
  · rw [← List.reverse_append, ← hsplit, List.reverse_reverse]
  · intro c hc
    exact hword c (List.mem_reverse.mp hc)
  · rwa [List.getLast?_reverse]

/-! ## Growing to both sides -/

/-- The search counts the identifier characters in front of the place and behind it. -/
theorem wordBounds_eq (t : Text) {character : Int} (hc : 0 ≤ character) :
    wordBounds t character =
      .ok (t.placeOf character - identLength (t.take (t.placeOf character)).reverse,
        t.placeOf character + identLength (t.drop (t.placeOf character))) :=
  if_pos hc

/-- The search from a place grows over the identifier characters on both sides of it. -/
theorem wordBounds_append {left right : Text} (hleft : ∀ c ∈ left, isIdent c = true)
    (hright : ∀ c ∈ right, isIdent c = true) (hfront : front.getLast?.any isIdent = false)
    (hbehind : behind.head?.any isIdent = false) {character : Int} (hc : 0 ≤ character)
    (hplace : Text.placeOf (front ++ left ++ (right ++ behind)) character =
      (front ++ left).length) :
    wordBounds (front ++ left ++ (right ++ behind)) character =
      .ok (front.length, (front ++ (left ++ right)).length) := by
  have hgrown : identLength (front ++ left).reverse = left.length := by
    rw [List.reverse_append, identLength_append, List.length_reverse]
    · intro c hc
      exact hleft c (List.mem_reverse.mp hc)
    · rwa [List.head?_reverse]
  rw [wordBounds_eq _ hc, hplace, List.take_left, List.drop_left, hgrown,
    identLength_append hright hbehind, Except.ok.injEq, Prod.mk.injEq]
  simp only [List.length_append]
  omega

/-- What the search finds around a place: an identifier, unless no identifier character touches the
place. -/
theorem wordBounds_split (t : Text) {character : Int} (hc : 0 ≤ character) :
    ∃ start stop : Nat, wordBounds t character = .ok (start, stop) ∧
      start ≤ t.placeOf character ∧ t.placeOf character ≤ stop ∧
      (start = stop ↔ ¬ t.Touches (t.placeOf character)) ∧
      (start ≠ stop → t.Identifier start stop) := by
  -- the text is cut at the place, and at the ends of the runs on both sides of it
  rcases exists_run_last (t.take (t.placeOf character)) with ⟨front, left, hfront, hleft, hstart⟩
  rcases exists_run (t.drop (t.placeOf character)) with ⟨right, behind, hbehind, hright, hstop⟩
  have ht : t = front ++ left ++ (right ++ behind) := by
    rw [← hfront, ← hbehind, List.take_append_drop]
  have hplace : t.placeOf character = (front ++ left).length := by
    rw [← hfront, List.length_take, Nat.min_eq_left (t.placeOf_le character)]
  refine ⟨front.length, (front ++ (left ++ right)).length, ?_, ?_, ?_, ?_, ?_⟩
  · subst ht
    exact wordBounds_append hleft hright hstart hstop hc hplace
  · rw [hplace, List.length_append]
    omega
  · rw [hplace]
    simp only [List.length_append]
    omega
  · -- the two ends are one exactly when nothing was found on either side
    unfold Text.Touches
    rw [hfront, hbehind]
    -- the last character in front decides, and where there is none the first one behind
    cases hl : left.getLast? with
    | some c =>
      have hc : isIdent c = true := hleft c (List.mem_of_getLast? hl)
      have hne : left ≠ [] := by rintro rfl; cases hl
      have hpos := List.length_pos_iff.mpr hne
      simp only [List.getLast?_append, hl, Option.some_or, Option.any_some, hc, true_or, not_true,
        iff_false, List.length_append]
      omega
    | none =>
      have hnil : left = [] := List.getLast?_eq_none_iff.mp hl
      cases right with
      | cons c r =>
        have hc : isIdent c = true := hright c List.mem_cons_self
        simp [hnil, hc]
      | nil => simp [hnil, hstart, hstop]
  · intro hne
    refine ⟨front, left ++ right, behind, ?_, rfl, rfl, ?_, ?_, hstart, hstop⟩
    · rw [ht]
      simp only [List.append_assoc]
    · intro hnil
      rw [hnil, List.append_nil] at hne
      exact hne rfl
    · intro c hc
      rcases List.mem_append.mp hc with hc | hc
      · exact hleft c hc
      · exact hright c hc

/-- From each place of an identifier the search finds it. -/
theorem wordBounds_of_identifier (h : t.Identifier start stop) {character : Int}
    (hc : 0 ≤ character) (hlow : start ≤ t.placeOf character)
    (hhigh : t.placeOf character ≤ stop) :
    wordBounds t character = .ok ((start : Int), (stop : Int)) := by
  rcases h with ⟨front, word, behind, ht, rfl, rfl, -, hword, hfront, hbehind⟩
  -- the place cuts the identifier in two
  have hsplit := List.take_append_drop (t.placeOf character - front.length) word
  generalize hleft : word.take (t.placeOf character - front.length) = left at hsplit
  generalize hright : word.drop (t.placeOf character - front.length) = right at hsplit
  have hlength : left.length = t.placeOf character - front.length := by
    rw [List.length_append] at hhigh
    rw [← hleft, List.length_take]
    omega
  subst hsplit
  have ht' : t = front ++ left ++ (right ++ behind) := by
    rw [ht]
    simp only [List.append_assoc]
  have hplace : t.placeOf character = (front ++ left).length := by
    rw [List.length_append]
    omega
  subst ht'
  exact wordBounds_append (fun c hc => hword c (List.mem_append_left right hc))
    (fun c hc => hword c (List.mem_append_right left hc)) hfront hbehind hc hplace

/-! ## The lines of a document -/

/-- What is found on a line is a range of it, and nothing when its ends are one. -/
theorem wordRange?_of_wordBounds {character low high : Int} (hline : d.lineAt line = .ok t)
    (hbounds : wordBounds t character = .ok (low, high)) :
    d.wordRange? ⟨line, character⟩ =
      .ok (if low = high then none else some (.ofLine line low high)) := by
  have hl : 0 ≤ line ∧ line < d.lineCount := (lineAt_eq_ok_iff.mp hline).1
  simp only [wordRange?, if_pos hl, hline]
  show (wordBounds t character >>= _) = _
  rw [hbounds]
  rfl

/-- On the line with this text, the search around a place finds the identifier that the place is in,
or at one of whose ends it is, and nothing when there is none. From all places of an identifier it
finds the same. -/
structure FindsIdentifiers (d : Document) (line : Int) (t : Text) : Prop where
  answers : ∀ {c : Int}, 0 ≤ c → ∃ found, d.wordRange? ⟨line, c⟩ = .ok found
  none_iff : ∀ {c : Int}, 0 ≤ c →
    (d.wordRange? ⟨line, c⟩ = .ok none ↔ ¬ t.Touches (t.placeOf c))
  some_iff : ∀ {c : Int} {r : Range}, 0 ≤ c →
    (d.wordRange? ⟨line, c⟩ = .ok (some r) ↔
      ∃ start stop : Nat, r = .ofLine line start stop ∧ t.Identifier start stop ∧
        start ≤ t.placeOf c ∧ t.placeOf c ≤ stop)
  same : ∀ {c : Int} {r : Range}, 0 ≤ c → d.wordRange? ⟨line, c⟩ = .ok (some r) →
    ∀ c', r.start.character ≤ c' → c' ≤ r.stop.character →
      d.wordRange? ⟨line, c'⟩ = .ok (some r)

/-- Nothing is found exactly where no identifier character touches the place. -/
theorem wordRange?_eq_none_iff (hline : d.lineAt line = .ok t) {c : Int} (hc : 0 ≤ c) :
    d.wordRange? ⟨line, c⟩ = .ok none ↔ ¬ t.Touches (t.placeOf c) := by
  rcases wordBounds_split t hc with ⟨start, stop, hbounds, -, -, hends, -⟩
  rw [wordRange?_of_wordBounds hline hbounds, ← hends]
  by_cases heq : start = stop
  · rw [if_pos (congrArg Nat.cast heq)]
    exact iff_of_true rfl heq
  · rw [if_neg (Int.ofNat_inj.not.mpr heq)]
    refine iff_of_false ?_ heq
    rintro ⟨⟩

/-- What is found is the identifier that encloses the place. -/
theorem wordRange?_eq_some_iff (hline : d.lineAt line = .ok t) {c : Int} {r : Range}
    (hc : 0 ≤ c) :
    d.wordRange? ⟨line, c⟩ = .ok (some r) ↔
      ∃ start stop : Nat, r = .ofLine line start stop ∧ t.Identifier start stop ∧
        start ≤ t.placeOf c ∧ t.placeOf c ≤ stop := by
  constructor
  · intro hfound
    rcases wordBounds_split t hc with ⟨start, stop, hbounds, hlow, hhigh, -, hident⟩
    rw [wordRange?_of_wordBounds hline hbounds] at hfound
    -- an empty stretch is no identifier, and no range is given for it
    by_cases heq : start = stop
    · rw [if_pos (congrArg Nat.cast heq)] at hfound
      cases hfound
    · rw [if_neg (Int.ofNat_inj.not.mpr heq)] at hfound
      cases hfound
      exact ⟨start, stop, rfl, hident heq, hlow, hhigh⟩
  · rintro ⟨start, stop, rfl, hident, hlow, hhigh⟩
    rw [wordRange?_of_wordBounds hline (wordBounds_of_identifier hident hc hlow hhigh), if_neg]
    exact Int.ofNat_inj.not.mpr (Nat.ne_of_lt hident.start_lt)

/-- The search finds the identifiers of every line that can be read. -/
theorem findsIdentifiers (hline : d.lineAt line = .ok t) : FindsIdentifiers d line t := by
  refine ⟨fun hc => ?_, wordRange?_eq_none_iff hline, wordRange?_eq_some_iff hline, ?_⟩
  · rcases wordBounds_split t hc with ⟨start, stop, hbounds, -⟩
    exact ⟨_, wordRange?_of_wordBounds hline hbounds⟩
  · intro c r hc hfound c' hlow hhigh
    rcases (wordRange?_eq_some_iff hline hc).mp hfound with ⟨start, stop, rfl, hident, -, -⟩
    have hlow : (start : Int) ≤ c' := hlow
    have hhigh : c' ≤ (stop : Int) := hhigh
    -- a place of the identifier is one of the line, so it is not moved to the end
    have hplace : t.placeOf c' = c'.toNat :=
      Nat.min_eq_left (Nat.le_trans (Int.toNat_le.mpr hhigh) hident.stop_le)
    rw [wordRange?_eq_some_iff hline (by omega), hplace]
    exact ⟨start, stop, rfl, hident, by omega, by omega⟩

end Document

end Placement
