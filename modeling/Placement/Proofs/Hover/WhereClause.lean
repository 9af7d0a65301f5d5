import Placement.Proofs.Hover.BoundOrder
import Placement.Proofs.Hover.CodeBlocks
import Placement.Proofs.Hover.ReturnType

/-!
# Placement.Proofs.Hover.WhereClause — a where clause of location bounds

A where clause is a list of bounds with commas between them, each with its name behind
blanks (`boundList`). What is proved of it goes from its end bound by bound
(`boundList_induction`): the names of the bounds are read in the order in which they
are written (`findFrom_boundList`), and no associated location is
(`find?_associatedLocation`). Both rest on one remark: a pattern that reads a location
takes the word `Location` and no comma, so that nothing is read in the rest of a bound
(`silent_of_once`).

In a signature the clause begins behind the first word `where` (`find?_where`). So a
signature with such a clause gives back the clause as it was written
(`whereClause_text`), and the return type in front of it (`value_returnType_text`).
-/

namespace Placement.Hover

open Text (IsWord Pattern isAsciiCapital isBlank isWord)

variable {t u gap : Text} {before : Option CodePoint}

/-! ## Written bounds -/

/-- A bound that makes a type parameter a location, as a where clause shows it. -/
structure Bound where
  gap : Text
  name : Text
  rest : Text

/-- A bound as it is written, such as `L: Location<'a>` behind a line break. -/
def Bound.text (b : Bound) : Text := b.gap ++ (b.name ++ (": Location<".text ++ b.rest))

/-- The bound is for one name, behind blanks, and speaks of locations nowhere else. -/
structure Bound.WellFormed (b : Bound) : Prop where
  gapFilled : b.gap ≠ []
  gapBlank : ∀ c ∈ b.gap, isBlank c = true
  name : IsWord b.name
  capital : b.name.head?.any isAsciiCapital = true
  once : ¬ "Location".text <:+: b.rest
  noComment : .char '/' ∉ b.rest

/-- The text of a where clause: bounds with commas between them, and what stands behind the last. -/
def boundList (bounds : List Bound) (tail : Text) : Text :=
  [.char ','].intercalate (bounds.map Bound.text) ++ tail

variable {b : Bound} {bounds : List Bound} {tail : Text}

theorem boundList_singleton (b : Bound) (tail : Text) : boundList [b] tail = b.text ++ tail := by
  rw [boundList, List.map_singleton, List.intercalate_singleton]

/-- A comma stands between a bound and the next one. -/
theorem boundList_cons_cons (b b' : Bound) (more : List Bound) (tail : Text) :
    boundList (b :: b' :: more) tail = b.text ++ .char ',' :: boundList (b' :: more) tail := by
  rw [boundList, List.map_cons, List.map_cons, List.intercalate_cons_cons, List.append_assoc,
    List.append_assoc]
  rfl

/-- A where clause is put together from the end, bound by bound. -/
@[elab_as_elim]
theorem boundList_induction {P : Text → Prop} (hbounds : ∀ b ∈ bounds, b.WellFormed)
    (htail : ∀ c ∈ tail, c = ',') (nil : P tail) (comma : ∀ u, P u → P (.char ',' :: u))
    (bound : ∀ (b : Bound) u, b.WellFormed → (∀ c ∈ u.head?, c = .char ',') → P u →
      P (b.text ++ u)) :
    P (boundList bounds tail) := by
  induction bounds with
  | nil => exact nil
  | cons b more ih =>
    obtain ⟨hb, hmore⟩ := List.forall_mem_cons.mp hbounds
    cases more with
    | nil =>
      rw [boundList_singleton]
      exact bound b tail hb (fun c hc => htail c (List.mem_of_head? hc)) nil
    | cons b' more =>
      rw [boundList_cons_cons]
      exact bound b _ hb (fun c (hc : some (.char ',') = some c) => (Option.some.inj hc).symm)
        (comma _ (ih hmore))

/-- A where clause has the characters of its bounds, and commas. -/
theorem mem_boundList_iff {c : CodePoint} (hc : c ≠ ',') :
    c ∈ boundList bounds tail ↔ (∃ b ∈ bounds, c ∈ b.text) ∨ c ∈ tail := by
  induction bounds with
  | nil => simp [boundList]
  | cons b more ih =>
    cases more with
    | nil => simp [boundList_singleton]
    | cons b' more =>
      rw [List.exists_mem_cons_iff, or_assoc, boundList_cons_cons, List.mem_append, List.mem_cons,
        or_iff_right hc]
      exact or_congr_right ih

/-! ## Where no bound is read -/

/-- What the pattern takes has `Location` in it, and no comma. -/
def ReadsLocation {α : Type} (p : Pattern α) : Prop :=
  ∀ before t a r, p before t = some (a, r) →
    ∃ taken, "Location".text <:+: taken ∧ .char ',' ∉ taken ∧ taken <+: t

/-- Up to the next comma nothing is read in a text without `Location`. -/
theorem silent_of_once {α : Type} {p : Pattern α} (hp : ReadsLocation p)
    (ht : ¬ "Location".text <:+: t) (hu : ∀ c ∈ u.head?, c = ',') (before : Option CodePoint) :
    Pattern.Silent p before t u := by
  intro front c back hplace
  rw [Option.eq_none_iff_forall_ne_some]
  rintro ⟨a, r⟩ hread
  obtain ⟨taken, hwithin, hcomma, hprefix⟩ := hp _ _ a r hread
  -- what is taken ends in front of the comma, and so within the text
  have hshort : taken <+: c :: back := by
    cases u with
    | nil => rwa [List.append_nil] at hprefix
    | cons x more =>
      obtain rfl := hu x rfl
      exact prefix_of_prefix_append (t := c :: back) hcomma hprefix
  rw [hplace] at ht
  exact ht ((hwithin.trans hshort.isInfix).trans (List.suffix_append front _).isInfix)

/-- Among blanks there are no other characters. -/
theorem not_mem_blanks {c : CodePoint} (hc : isBlank c = false) (ht : ∀ x ∈ t, isBlank x = true) :
    c ∉ t := by
  intro hmem
  rw [ht c hmem] at hc
  cases hc

/-- What is read behind blanks. -/
theorem exists_blanks {lead r : Text} (h : Text.after? lead (Text.trimLeft t) = some r) :
    ∃ blanks, (∀ c ∈ blanks, isBlank c = true) ∧ t = blanks ++ (lead ++ r) := by
  refine ⟨t.takeWhile isBlank, fun c hc => Text.isBlank_of_mem_takeWhile hc, ?_⟩
  rw [← Text.after?_eq_some_iff.mp h]
  exact List.takeWhile_append_dropWhile.symm

/-- The pattern for a bound takes the word `Location` and no comma. -/
theorem readsLocation_locationBound : ReadsLocation locationBound := by
  intro before t a r h
  unfold locationBound at h
  obtain ⟨⟨word, behind⟩, hword, h⟩ := Option.bind_eq_some_iff.mp h
  obtain ⟨r₁, hcolon, h⟩ := Option.bind_eq_some_iff.mp h
  obtain ⟨r₂, hlocation, -⟩ := Option.bind_eq_some_iff.mp h
  obtain ⟨hname, rfl⟩ := Text.of_capitalizedWord hword
  obtain ⟨blanks, hblanks, rfl⟩ := exists_blanks hcolon
  obtain ⟨blanks', hblanks', rfl⟩ := exists_blanks hlocation
  have hink : isBlank ',' = false := by decide
  have hcomma : .char ',' ∉ word := not_mem_of_isWord hname (by decide)
  -- what is taken is the name, the colon and the word with its bracket, with blanks between them
  refine ⟨word ++ (blanks ++ ([.char ':'] ++ (blanks' ++ "Location<".text))), ?_, ?_, ?_⟩
  · refine ⟨word ++ (blanks ++ ([.char ':'] ++ blanks')), [.char '<'], ?_⟩
    simp only [List.append_assoc]
    rfl
  · have hlocation : .char ',' ∉ "Location<".text := by decide
    simp only [List.mem_append, not_or]
    exact ⟨hcomma, not_mem_blanks hink hblanks, by decide, not_mem_blanks hink hblanks', hlocation⟩
  · exact ⟨r₂, by simp only [List.append_assoc]⟩

/-- What is bound to an associated location stands behind blanks and a sign. -/
theorem prefix_associatedLocation {a r : Text} (h : associatedLocation before t = some (a, r)) :
    ∃ blanks, (∀ c ∈ blanks, isBlank c = true) ∧
      "Location".text ++ (blanks ++ [.char '=']) <+: t := by
  unfold associatedLocation at h
  obtain ⟨r₁, hlocation, h⟩ := Option.bind_eq_some_iff.mp h
  obtain ⟨r₂, hequals, -⟩ := Option.bind_eq_some_iff.mp h
  rw [Text.after?_eq_some_iff] at hlocation
  obtain ⟨blanks, hblanks, rfl⟩ := exists_blanks hequals
  exact ⟨blanks, hblanks, r₂, by rw [hlocation]; simp only [List.append_assoc]⟩

/-- The pattern for an associated location takes the word `Location` and no comma. -/
theorem readsLocation_associatedLocation : ReadsLocation associatedLocation := by
  intro before t a r h
  obtain ⟨blanks, hblanks, hprefix⟩ := prefix_associatedLocation h
  have hcomma : .char ',' ∉ blanks := not_mem_blanks (by decide) hblanks
  refine ⟨_, (List.prefix_append _ _).isInfix, ?_, hprefix⟩
  simp only [List.mem_append, not_or]
  exact ⟨by decide, hcomma, by decide⟩

/-! ## The names of the bounds -/

/-- No blank is part of a word. -/
theorem isWord_of_isBlank {c : CodePoint} (hc : isBlank c = true) : isWord c = false := by
  rw [← Bool.not_eq_true]
  intro hword
  rw [Text.isBlank_of_isWord hword] at hc
  cases hc

/-- A text that begins with blanks does not continue a word. -/
theorem head?_blanks (hne : t ≠ []) (ht : ∀ c ∈ t, isBlank c = true) (u : Text) :
    (t ++ u).head?.any isWord = false := by
  rw [List.head?_append, List.head?_eq_some_head hne]
  exact isWord_of_isBlank (ht _ (List.head_mem hne))

/-- A text that ends in blanks is not continued by a word. -/
theorem getLast?_blanks (hne : t ≠ []) (ht : ∀ c ∈ t, isBlank c = true)
    (before : Option CodePoint) : (t.getLast?.or before).any isWord = false := by
  rw [List.getLast?_eq_some_getLast hne]
  exact isWord_of_isBlank (ht _ (List.getLast_mem hne))

/-- A bound is read at a capital only. -/
theorem locationBound_of_not_capital {c : CodePoint} (hc : isAsciiCapital c = false) (r : Text) :
    locationBound before (c :: r) = none := by
  have hword : Pattern.capitalizedWord before (c :: r) = none := by
    simp [Pattern.capitalizedWord, hc]
  unfold locationBound
  rw [hword]
  rfl

/-- No blank is a capital. -/
theorem isAsciiCapital_of_isBlank {c : CodePoint} (hc : isBlank c = true) :
    isAsciiCapital c = false := by
  rw [← Bool.not_eq_true]
  intro hcapital
  rw [Text.isBlank_of_isIdent (by simp [Text.isIdent, hcapital])] at hc
  cases hc

/-- In a text without capitals no bound is read. -/
theorem silent_locationBound (ht : ∀ c ∈ t, isAsciiCapital c = false) (before : Option CodePoint)
    (rest : Text) : Pattern.Silent locationBound before t rest := by
  refine Pattern.silent_of_forall_mem ?_
  intro c hc before r
  exact locationBound_of_not_capital (ht c hc) r

/-- A bound is read at its name. -/
theorem locationBound_name (h : b.WellFormed) (hbefore : before.any isWord = false) (u : Text) :
    locationBound before (b.name ++ ": Location<".text ++ u) = some (b.name, u) := by
  have hhead : ((b.name ++ (": Location<".text ++ u)).head?.any isAsciiCapital) = true := by
    rw [List.head?_append, List.head?_eq_some_head h.name.nonempty, Option.some_or,
      ← List.head?_eq_some_head h.name.nonempty]
    exact h.capital
  -- the name ends at the colon, which is no word character
  have hspan : (b.name ++ (": Location<".text ++ u)).span isWord =
      (b.name, ": Location<".text ++ u) := Text.span_eq_iff.mpr ⟨rfl, h.name.chars, rfl⟩
  have hword : Pattern.capitalizedWord before (b.name ++ (": Location<".text ++ u)) =
      some (b.name, ": Location<".text ++ u) := by
    unfold Pattern.capitalizedWord
    rw [hbefore, hhead, hspan]
    rfl
  unfold locationBound
  rw [List.append_assoc, hword]
  rfl

/-- One bound is found in its text, and the search goes on behind it. -/
theorem findFrom_bound (h : b.WellFormed) (hu : ∀ c ∈ u.head?, c = ',')
    (before : Option CodePoint) :
    ∃ last, Pattern.findFrom locationBound 0 before (b.text ++ u) =
      b.name :: Pattern.findFrom locationBound 0 last u := by
  -- the name is read between the gap and the rest, which are passed over
  have hgap := silent_locationBound (fun c hc => isAsciiCapital_of_isBlank (h.gapBlank c hc)) before
    (b.name ++ ": Location<".text ++ (b.rest ++ u))
  have hrest := silent_of_once readsLocation_locationBound h.once hu
    ((b.name ++ ": Location<".text).getLast?.or (b.gap.getLast?.or before))
  have hfilled : b.name ++ ": Location<".text ≠ [] :=
    List.append_ne_nil_of_left_ne_nil h.name.nonempty _
  have htext : b.text ++ u = b.gap ++ (b.name ++ ": Location<".text ++ (b.rest ++ u)) := by
    simp only [Bound.text, List.append_assoc]
  refine ⟨b.rest.getLast?.or ((b.name ++ ": Location<".text).getLast?.or
    (b.gap.getLast?.or before)), ?_⟩
  rw [htext, Pattern.findFrom_of_silent hgap,
    Pattern.findFrom_of_match hfilled
      (locationBound_name h (getLast?_blanks h.gapFilled h.gapBlank before) _),
    Pattern.findFrom_of_silent hrest]

theorem silent_commas (htail : ∀ c ∈ tail, c = ',') (before : Option CodePoint) (rest : Text) :
    Pattern.Silent locationBound before tail rest :=
  silent_locationBound (fun c hc => by rw [htail c hc]; decide) before rest

/-- The names of the bounds are found in the order in which they are written. -/
theorem findFrom_boundList (hbounds : ∀ b ∈ bounds, b.WellFormed) (htail : ∀ c ∈ tail, c = ',')
    (before : Option CodePoint) :
    Pattern.findFrom locationBound 0 before (boundList bounds tail) = bounds.map Bound.name := by
  have hend : ∀ before, Pattern.findFrom locationBound 0 before tail = [] :=
    fun before => Pattern.findFrom_eq_nil (silent_commas htail before [])
  -- one match per bound; the comma between two bounds matches nothing
  induction bounds generalizing before with
  | nil => exact hend before
  | cons b more ih =>
    obtain ⟨hb, hmore⟩ := List.forall_mem_cons.mp hbounds
    cases more with
    | nil =>
      obtain ⟨last, hfound⟩ := findFrom_bound hb
        (fun c hc => htail c (List.mem_of_head? hc)) before
      rw [boundList_singleton, hfound, hend]
      rfl
    | cons b' more =>
      obtain ⟨last, hfound⟩ := findFrom_bound (u := .char ',' :: boundList (b' :: more) tail) hb
        (fun c hc => (Option.some.inj hc).symm) before
      have hcomma : locationBound last (.char ',' :: boundList (b' :: more) tail) = none :=
        locationBound_of_not_capital (by decide) _
      rw [boundList_cons_cons, hfound, Pattern.findFrom, hcomma, List.map_cons]
      exact congrArg (b.name :: ·) (ih hmore (some (.char ',')))

/-! ## What a where clause of bounds does not say -/

/-- An associated location is read at the first letter of `Location` only. -/
theorem associatedLocation_of_ne {c : CodePoint} (hc : c ≠ 'L') (r : Text) :
    associatedLocation before (c :: r) = none := by
  have hnone : Text.after? "Location".text (c :: r) = none := if_neg (Ne.symm hc)
  unfold associatedLocation
  rw [hnone]
  rfl

/-- In front of the angle bracket of a bound no location is bound. -/
theorem silent_associatedLocation (ht : .char '=' ∉ t) (before : Option CodePoint) (rest : Text) :
    Pattern.Silent associatedLocation before t (.char '<' :: rest) := by
  intro front c back hplace
  rw [Option.eq_none_iff_forall_ne_some]
  rintro ⟨a, r⟩ hread
  obtain ⟨blanks, hblanks, hprefix⟩ := prefix_associatedLocation hread
  have hbracket : .char '<' ∉ "Location".text ++ (blanks ++ [.char '=']) := by
    simp only [List.mem_append, not_or]
    exact ⟨by decide, not_mem_blanks (by decide) hblanks, by decide⟩
  have hshort := prefix_of_prefix_append (t := c :: back) hbracket hprefix
  have hsign : .char '=' ∈ c :: back := hshort.subset (by simp)
  rw [hplace] at ht
  exact ht (List.mem_append_right front hsign)

/-- In a bound no associated location is read. -/
theorem silent_associatedLocation_bound (h : b.WellFormed) (hu : ∀ c ∈ u.head?, c = ',')
    (before : Option CodePoint) : Pattern.Silent associatedLocation before b.text u := by
  have hsign : .char '=' ∉ b.gap ++ (b.name ++ ": Location".text) := by
    simp only [List.mem_append, not_or]
    exact ⟨not_mem_blanks (by decide) h.gapBlank, not_mem_of_isWord h.name (by decide), by decide⟩
  have htext : b.text = (b.gap ++ (b.name ++ ": Location".text)) ++ .char '<' :: b.rest := by
    simp only [Bound.text, List.append_assoc]
    rfl
  rw [htext, Pattern.silent_append_iff, Pattern.silent_cons_iff]
  exact ⟨silent_associatedLocation hsign _ _, associatedLocation_of_ne (by decide) _,
    silent_of_once readsLocation_associatedLocation h.once hu _⟩

/-- No where clause of bounds names an associated location. -/
theorem find?_associatedLocation (hbounds : ∀ b ∈ bounds, b.WellFormed)
    (htail : ∀ c ∈ tail, c = ',') (before : Option CodePoint) :
    associatedLocation.find? before (boundList bounds tail) = none := by
  have hsilent : ∀ before, Pattern.Silent associatedLocation before (boundList bounds tail) [] := by
    -- nothing starts at the commas behind the list, at one between two bounds, or inside a bound
    refine boundList_induction hbounds htail ?_ ?_ ?_
    · intro before
      refine Pattern.silent_of_forall_mem fun c hc before r => associatedLocation_of_ne ?_ r
      rw [htail c hc]
      decide
    · intro u hu before
      exact Pattern.silent_cons_iff.mpr ⟨associatedLocation_of_ne (by decide) _, hu _⟩
    · intro b u hb hcomma hu before
      rw [Pattern.silent_append_iff, List.append_nil]
      exact ⟨silent_associatedLocation_bound hb hcomma _, hu _⟩
  have hnone := Pattern.find?_of_silent (hsilent before)
  rwa [List.append_nil] at hnone

/-- A bound has no characters but those of its rest that are neither blanks nor part of a word nor
written in every bound. -/
theorem Bound.WellFormed.not_mem (h : b.WellFormed) {c : CodePoint} (hink : isBlank c = false)
    (hword : isWord c = false) (hmark : c ∉ ": Location<".text) (hrest : c ∉ b.rest) :
    c ∉ b.text := by
  simp only [Bound.text, List.mem_append, not_or]
  exact ⟨not_mem_blanks hink h.gapBlank, not_mem_of_isWord h.name hword, hmark, hrest⟩

/-- A where clause begins with a blank or a comma, and so does not continue the word in front of it.
-/
theorem head?_boundList (hbounds : ∀ b ∈ bounds, b.WellFormed) (htail : ∀ c ∈ tail, c = ',') :
    (boundList bounds tail).head?.any isWord = false := by
  have hcomma : isWord ',' = false := by decide
  refine boundList_induction hbounds htail ?_ ?_ ?_
  · cases tail with
    | nil => rfl
    | cons c r =>
      rw [htail c List.mem_cons_self]
      exact hcomma
  · exact fun u _ => hcomma
  · intro b u hb _ _
    rw [Bound.text, List.append_assoc]
    exact head?_blanks hb.gapFilled hb.gapBlank _

/-! ## The where clause in the signature -/

/-- A word that does not occur is read nowhere in a text that ends outside of words, whatever stands
behind it. -/
theorem silent_wholeWord {w : Text} (hw : IsWord w) (h : hasWord w t = false)
    (hlast : t.getLast?.any isWord = false) (rest : Text) :
    Pattern.Silent (Pattern.wholeWord w) none t rest := by
  intro front c back hplace
  rw [Option.eq_none_iff_forall_ne_some]
  rintro ⟨found, r⟩ hfound
  obtain ⟨-, hread, hbefore, hbehind⟩ := (Text.wholeWord_eq_some_iff hw).mp hfound
  -- the word does not reach to the end of the text
  have hshort : ∀ more : Text, w ≠ c :: back ++ more := by
    rintro more rfl
    rw [hplace, List.getLast?_append_cons, List.getLast?_eq_some_getLast (List.cons_ne_nil c back),
      Option.any_some, hw.chars _ (List.mem_append_left more (List.getLast_mem _))] at hlast
    cases hlast
  rw [← List.cons_append] at hread
  -- the word ends within the text, and is then one that stands by itself in it
  rcases List.append_eq_append_iff.mp hread with ⟨more, hword, -⟩ | ⟨more, hword, hr⟩
  · exact hshort more hword
  · cases more with
    | nil => exact hshort [] (by rw [hword, List.append_nil, List.append_nil])
    | cons x more =>
      rw [hr] at hbehind
      rw [Option.or_none] at hbefore
      rw [(Text.hasWord_iff hw).mpr
        ⟨front, x :: more, by rw [hplace, hword], hbefore, hbehind⟩] at h
      cases h

/-- No word occurs in blanks. -/
theorem hasWord_append_blanks {w : Text} (hw : IsWord w) (hgap : gap ≠ [])
    (hblanks : ∀ c ∈ gap, isBlank c = true) : hasWord w (t ++ gap) = hasWord w t := by
  have hedge : gap.head?.any isWord = false := by
    have hhead := head?_blanks hgap hblanks []
    rwa [List.append_nil] at hhead
  -- a word has a character that is no blank, so it is not among the runs of the gap
  have habsent : w ∉ runs gap := by
    intro h
    have hwithin := List.infix_of_mem_flatten h
    rw [flatten_runs] at hwithin
    have hfirst := List.head_mem hw.nonempty
    have hblank := hblanks _ (hwithin.subset hfirst)
    rw [Text.isBlank_of_isWord (hw.chars _ hfirst)] at hblank
    cases hblank
  rw [Bool.eq_iff_iff, hasWord_iff_mem_runs hw, hasWord_iff_mem_runs hw,
    runs_append_of_edge (Or.inr hedge), List.mem_append]
  exact or_iff_left habsent

/-- The word `where` is found where the clause begins. -/
theorem find?_where (hgap : gap ≠ []) (hblanks : ∀ c ∈ gap, isBlank c = true)
    (hwhere : hasWord "where".text t = false) (hu : u.head?.any isWord = false) :
    (Pattern.wholeWord "where".text).find? none (t ++ (gap ++ ("where".text ++ u))) =
      some ("where".text, u) := by
  have hlast : ((t ++ gap).getLast?.or none).any isWord = false := by
    rw [List.getLast?_append, Option.or_assoc]
    exact getLast?_blanks hgap hblanks _
  have hfound : Pattern.wholeWord "where".text ((t ++ gap).getLast?.or none)
      ("where".text ++ u) = some ("where".text, u) :=
    (Text.wholeWord_eq_some_iff isWord_where).mpr ⟨rfl, rfl, hlast, hu⟩
  rw [← hasWord_append_blanks isWord_where hgap hblanks] at hwhere
  rw [← List.append_assoc, Pattern.find?_of_silent
    (silent_wholeWord isWord_where hwhere (by rwa [Option.or_none] at hlast) _)]
  exact Pattern.find?_of_match (List.cons_ne_nil _ _) hfound

/-! ## Signatures with bounds -/

/-- A signature with a where clause, without the bounds in it. -/
structure Frame where
  lead : Text
  type : Text
  gap : Text
  tail : Text

/-- A code block with a signature and bounds in its where clause. -/
def Frame.text (f : Frame) (bounds : List Bound) : Text :=
  signature f.lead f.type (f.gap ++ ("where".text ++ boundList bounds f.tail))

/-- A return type is read, and the where clause stands behind it. -/
structure Frame.WellFormed (f : Frame) : Prop where
  lead : Lead f.lead
  closed : Depth.top.after none f.type = .top
  filled : Text.allBlank (readType f.type) = false
  gapFilled : f.gap ≠ []
  gapBlank : ∀ c ∈ f.gap, isBlank c = true
  tail : ∀ c ∈ f.tail, c = ','
  noWhere : hasWord "where".text (f.lead ++ ("-> ".text ++ f.type)) = false

variable {f : Frame}

/-- A signature cut where its where clause begins. -/
theorem Frame.text_eq (f : Frame) (bounds : List Bound) :
    f.text bounds = (f.lead ++ ("-> ".text ++ f.type)) ++
      (f.gap ++ ("where".text ++ boundList bounds f.tail)) := by
  simp only [Frame.text, signature, List.append_assoc]

/-- The where clause of a signature is read as it was written. -/
theorem whereClause_text (hf : f.WellFormed) (hbounds : ∀ b ∈ bounds, b.WellFormed) :
    whereClause (f.text bounds) = boundList bounds f.tail := by
  -- without a slash the clause has no comment that would be cut off
  have hcomment : Text.cut? [.char '/', .char '/'] (boundList bounds f.tail) = none := by
    rw [Option.eq_none_iff_forall_ne_some]
    rintro ⟨front, rest⟩ hcut
    have hslash : .char '/' ∈ boundList bounds f.tail := by
      rw [Text.eq_append_of_cut? hcut]
      simp
    rcases (mem_boundList_iff (by decide)).mp hslash with ⟨b, hb, hmem⟩ | hmem
    · exact (hbounds b hb).not_mem (by decide) (by decide) (by decide) (hbounds b hb).noComment hmem
    · exact absurd (hf.tail _ hmem) (by decide)
  unfold whereClause
  rw [Frame.text_eq, find?_where hf.gapFilled hf.gapBlank hf.noWhere
    (head?_boundList hbounds hf.tail)]
  simp only [hcomment, Option.map_none, Option.getD_none]

/-- The return type of a signature is read up to the where clause. -/
theorem value_returnType_text (hf : f.WellFormed) (hbounds : ∀ b ∈ bounds, b.WellFormed) :
    (returnType (f.text bounds)).value = some (Text.collapse (readType f.type)) := by
  have htail : Tail (f.gap ++ ("where".text ++ boundList bounds f.tail)) :=
    .clause hf.gapFilled hf.gapBlank (head?_boundList hbounds hf.tail)
  have hfilled := Text.collapse_ne_nil hf.filled
  rw [Frame.text, value_returnType_signature hf.lead, collapse_readType_append htail hf.closed,
    if_neg (by simpa using hfilled)]

end Placement.Hover
