import Placement.Chain
import Placement.Proofs.Document

/-!
# Placement.Proofs.Chain.Sighting — what a pass sees of a site

A pass learns two things about a site inside the document: whether its line goes
on with a chain, and which type text its hover shows (`Sighting`). Both are fixed
by the document, the backend and the limit of time. Everything else follows:

* `own?` — the location that the site has by itself;
* `asks` — whether the site takes over the location of the chain, if there is one;
* `handed`, `next`, `attribution?` — the location that the chain hands to the site, the
  one that it hands on behind it, and the attribution of the site.

A type text says nothing by itself when it is `Self`, maybe behind a reference
(`SelfLike`), or the unit type of an operator that ends a flow; neither has a
location of its own (`own?_of_asks`).
-/

namespace Placement.Chain

/-! ## Type texts that say nothing -/

/-- The type text is, between blanks, `Self` behind at most one `&` and at most one `mut` with
blanks. -/
def SelfLike (t : Text) : Prop :=
  ∃ reference mutability : Text,
    (reference = [] ∨ reference = [.char '&']) ∧
    (mutability = [] ∨
      ∃ blanks, blanks ≠ [] ∧ Text.allBlank blanks = true ∧ mutability = "mut".text ++ blanks) ∧
    Text.trim t = reference ++ mutability ++ "Self".text

/-- What follows `mut` in a text is a run of blanks and `Self` exactly when it begins with a blank
and is `Self` without its blanks. -/
theorem blanks_self_iff {r : Text} :
    (∃ blanks, blanks ≠ [] ∧ Text.allBlank blanks = true ∧ r = blanks ++ "Self".text) ↔
      r.head?.any Text.isBlank = true ∧ Text.trimLeft r = "Self".text := by
  constructor
  · rintro ⟨blanks, hne, hblank, rfl⟩
    -- the rest begins with the first blank, and trimming takes all of them off
    cases blanks with
    | nil => exact absurd rfl hne
    | cons b more =>
      have hall : ∀ c ∈ b :: more, Text.isBlank c = true := by
        simpa [Text.allBlank] using hblank
      refine ⟨by simpa using hall b List.mem_cons_self, ?_⟩
      rw [Text.trimLeft, List.dropWhile_append_of_pos hall]
      rfl
  · rintro ⟨hhead, htrim⟩
    refine ⟨r.takeWhile Text.isBlank, ?_, ?_, ?_⟩
    · cases r with
      | nil => simp at hhead
      | cons c more =>
        have hc : Text.isBlank c = true := by simpa using hhead
        simp [hc]
    · simp only [Text.allBlank, List.all_eq_true]
      intro c hc
      exact (List.all_eq_true.mp List.all_takeWhile) c hc
    · rw [← htrim, Text.trimLeft, List.takeWhile_append_dropWhile]

/-- Whether a text is `Self` behind at most one `mut` with blanks. -/
def isMutSelf (u : Text) : Bool :=
  u == "Self".text ||
    match Text.after? "mut".text u with
    | some r => r.head?.any Text.isBlank && Text.trimLeft r == "Self".text
    | none => false

/-- The text is `Self`, or `mut`, blanks and `Self`. -/
theorem isMutSelf_iff {u : Text} :
    isMutSelf u = true ↔
      ∃ mutability : Text,
        (mutability = [] ∨ ∃ blanks, blanks ≠ [] ∧ Text.allBlank blanks = true ∧
          mutability = "mut".text ++ blanks) ∧
        u = mutability ++ "Self".text := by
  unfold isMutSelf
  rw [Bool.or_eq_true, beq_iff_eq]
  constructor
  · rintro (rfl | h)
    · exact ⟨[], Or.inl rfl, rfl⟩
    · -- what stands behind `mut` has to be blanks and then `Self`
      cases hr : Text.after? "mut".text u with
      | none =>
        rw [hr] at h
        exact absurd h Bool.false_ne_true
      | some r =>
        rw [hr] at h
        simp only [Bool.and_eq_true, beq_iff_eq] at h
        rcases blanks_self_iff.mpr h with ⟨blanks, hne, hblank, rfl⟩
        refine ⟨"mut".text ++ blanks, Or.inr ⟨blanks, hne, hblank, rfl⟩, ?_⟩
        rw [Text.after?_eq_some_iff.mp hr, List.append_assoc]
  · rintro ⟨mutability, rfl | ⟨blanks, hne, hblank, rfl⟩, rfl⟩
    · exact Or.inl rfl
    · right
      rw [List.append_assoc, Text.after?_append]
      simp only [Bool.and_eq_true, beq_iff_eq]
      exact blanks_self_iff.mp ⟨blanks, hne, hblank, rfl⟩

/-- The check for `Self` finds the texts that say it, and no others. -/
theorem isSelf_iff {t : Text} : isSelf t = true ↔ SelfLike t := by
  show isMutSelf ((Text.after? [.char '&'] (Text.trim t)).getD (Text.trim t)) = true ↔ _
  rw [isMutSelf_iff]
  unfold SelfLike
  constructor
  · rintro ⟨mutability, hm, hu⟩
    cases ha : Text.after? [.char '&'] (Text.trim t) with
    | none =>
      rw [ha] at hu
      exact ⟨[], mutability, Or.inl rfl, hm, hu⟩
    | some r =>
      rw [ha] at hu
      refine ⟨[.char '&'], mutability, Or.inr rfl, hm, ?_⟩
      rw [Text.after?_eq_some_iff.mp ha, List.append_assoc]
      exact congrArg _ hu
  · rintro ⟨reference, mutability, rfl | rfl, hm, ht⟩
    · refine ⟨mutability, hm, ?_⟩
      -- neither `Self` nor `mut` begins with an ampersand
      have ha : Text.after? [.char '&'] (Text.trim t) = none := by
        rw [ht]
        rcases hm with rfl | ⟨blanks, -, -, rfl⟩ <;> rfl
      rw [ha, ht]
      rfl
    · refine ⟨mutability, hm, ?_⟩
      rw [ht, List.append_assoc, Text.after?_append]
      rfl

instance {t : Text} : Decidable (SelfLike t) := decidable_of_iff _ isSelf_iff

/-- The unit type is not `Self`. -/
theorem not_selfLike_of_isUnit {t : Text} (h : isUnit t = true) : ¬ SelfLike t := by
  have ht : Text.trim t = "()".text := by simpa [isUnit] using h
  rw [← isSelf_iff, isSelf, ht]
  decide

/-- The unit type names no location. -/
theorem parse_of_isUnit {t : Text} (h : isUnit t = true) : (TypeText.parse t).value = none := by
  have ht : Text.trim t = "()".text := by simpa [isUnit] using h
  have hblank : Text.allBlank t = false := by
    rw [← Bool.not_eq_true, ← Text.trim_eq_nil_iff, ht]
    simp
  unfold TypeText.parse
  rw [hblank]
  unfold TypeText.locate
  rw [ht]
  unfold TypeText.plainLocation TypeText.unwrapTicks
  rfl

/-! ## Sightings -/

/-- The type text that the hover at a position shows; nothing when the request fails, is late, or
brings no text. -/
def hoverText (backend : Backend) (limit : Number) (d : Document) (p : Position) : Option Text :=
  match (backend (.hover d.uri p)).settle "hover".text limit with
  | some (.ok answer) =>
    (Hover.firstResult (Query.typeInHover (d.calls p)) (Reply.hoverTexts answer)).value
  | _ => none

/-- A site with what a pass learns about it. -/
structure Sighting where
  site : Site
  /-- Whether the line of the site goes on with the chain of the line before. -/
  goesOn : Bool
  /-- The type text that the hover of the site shows. -/
  typeText : Option Text
deriving DecidableEq, Repr

/-- What a pass sees of a site. -/
def sight (backend : Backend) (limit : Number) (d : Document) (s : Site) : Sighting :=
  ⟨s, d.continues s.position.line, hoverText backend limit d s.position⟩

/-- The stretch of a site inside its document. -/
def stretch (d : Document) (s : Site) : Range :=
  ((sourceRange d s).toOption).getD
    (.ofLine s.position.line s.position.character s.position.character)

namespace Sighting

/-- The location that a site has by itself: that of its type text, unless the text is `Self` or its
label is a placeholder. -/
def own? (v : Sighting) : Option Location :=
  v.typeText.bind fun t =>
    if SelfLike t then none
    else (TypeText.parse t).value.filter fun l => !isPlaceholder l.label

/-- Whether a site takes over a location: its operator is known, and its type text is missing, or
`Self`, or the unit type of an operator that ends a flow. -/
def asks (operators : Operators) (v : Sighting) : Bool :=
  operators.isKnown v.site.name &&
    v.typeText.all fun t => SelfLike t || (isUnit t && operators.isSink v.site.name)

/-- The attribution of a site that runs at a location. -/
def placedAt (d : Document) (v : Sighting) (l : Location) : Attribution :=
  ⟨v.site.name, stretch d v.site, v.typeText.getD l.canonical, l, v.typeText⟩

/-- The location that the chain hands to a site: none to a site on a line that breaks it. -/
def handed (state : State) (v : Sighting) : State := if v.goesOn then state else none

/-- The location that the chain hands on behind a site. -/
def next (state : State) (v : Sighting) : State :=
  if v.goesOn then v.own?.or (v.handed state) else none

/-- The attribution of a site, if it has a location or takes one over. -/
def attribution? (operators : Operators) (d : Document) (state : State) (v : Sighting) :
    Option Attribution :=
  (v.own?.or (if v.asks operators then v.handed state else none)).map (v.placedAt d)

/-- A site that takes over a location has none by itself. -/
theorem own?_of_asks {operators : Operators} {v : Sighting} (h : v.asks operators = true) :
    v.own? = none := by
  cases ht : v.typeText with
  | none => simp [own?, ht]
  | some t =>
    simp only [asks, ht, Option.all_some, Bool.and_eq_true, Bool.or_eq_true,
      decide_eq_true_eq] at h
    -- a text that says `Self` is left out, and the unit type names no location
    rcases h.2 with hself | ⟨hunit, -⟩
    · simp [own?, ht, hself]
    · simp [own?, ht, not_selfLike_of_isUnit hunit, parse_of_isUnit hunit]

end Sighting

/-- The attributions of sightings in the order given, behind a state. -/
def attributionsFrom (operators : Operators) (d : Document) :
    State → List Sighting → List (Option Attribution)
  | _, [] => []
  | state, v :: more =>
    v.attribution? operators d state :: attributionsFrom operators d (v.next state) more

end Placement.Chain
