import Placement.Proofs.Brackets
import Placement.Proofs.Collapse
import Placement.Proofs.Hover.Method
import Placement.Proofs.TypeText.Single

/-!
# Placement.Proofs.Hover.ReturnType — how much of a return type is read

The return type of a signature stands behind the arrow outside all brackets, and goes
on to the end of the block, a body, a semicolon or a where clause. Angle brackets and
parentheses are counted on the way, and square brackets are not. So a type is read
whole when each of its places that looks like the end stands in an angle bracket or a
parenthesis (`ReadsWhole`): a line break, a brace or a semicolon, or `where` at the
end of a name, behind an underscore. `methodType_whole_iff` says that it is cut off
otherwise, and that this shows in the result. What stands behind a type that closes its
brackets is not read in any case (`collapse_readType_append`).
-/

namespace Placement.Hover

open Text (IsWord isBlank isWord)
open Depth (Leads Unended)

variable {block content lead type tail front back t u : Text} {c : CodePoint}
  {before : Option CodePoint}

/-! ## Signatures -/

/-- The number of open square brackets behind a text; nothing when one closes that is not open. -/
def squareAfter : Nat → Text → Option Nat
  | k, [] => some k
  | k, c :: r =>
    if c = '[' then squareAfter (k + 1) r
    else if c = ']' then if k = 0 then none else squareAfter (k - 1) r
    else squareAfter k r

/-- Whether the place behind a text is outside brackets of all three kinds. -/
def outside (front : Text) : Bool :=
  (Depth.top.after none front).isTop && squareAfter 0 front == some 0

/-- A character that ends a type outside all brackets. -/
def isMark (c : CodePoint) : Bool := c == '\n' || c == '{' || c == ';'

/-- The text of a type, with brackets that match. -/
structure WrittenType (t : Text) : Prop where
  filled : Text.allBlank t = false
  closed : Leads .top none t .top
  square : squareAfter 0 t = some 0
  /-- A semicolon stands only between the brackets of an array type. -/
  unmarked : ∀ front back, t = front ++ back → back.head?.any isMark = true → outside front = false
  noWhere : hasWord "where".text t = false

/-- What stands in front of the arrow of a signature. -/
structure Lead (t : Text) : Prop where
  closed : Leads .top none t .top
  noArrow : ∀ front back, t = front ++ back → Text.startsWith "->".text back = true →
    (Depth.top.after none front).isTop = false

/-- What may stand behind the return type of a signature. -/
inductive Tail : Text → Prop
  | nothing : Tail []
  | body (more : Text) : Tail (.char ' ' :: .char '{' :: more)
  | semicolon (more : Text) : Tail (.char ';' :: more)
  | clause {blanks more : Text} (hne : blanks ≠ []) (hblanks : ∀ c ∈ blanks, isBlank c = true)
      (hmore : more.head?.any isWord = false) : Tail (blanks ++ ("where".text ++ more))

/-- A signature with its return type. -/
def signature (lead type tail : Text) : Text := lead ++ ("-> ".text ++ (type ++ tail))

/-- What is read of a type, and of what stands behind it. -/
def readType (t : Text) : Text := (Depth.untilTop endsType .top (some (.char ' ')) t).1

/-! ## Places that cut a type off -/

/-- Whether a type is cut off between two texts, outside angle brackets and parentheses. -/
def cutsOff (front back : Text) : Bool :=
  back.head?.any isMark ||
    (front.getLast? == some (.char '_') &&
      (Text.after? "where".text back).any fun rest => !rest.head?.any isWord)

/-- Every place that would cut the type off is inside an angle bracket or a parenthesis. -/
def ReadsWhole (type : Text) : Prop :=
  ∀ front back, type = front ++ back → cutsOff front back = true →
    (Depth.top.after none front).isTop = false

theorem isWord_where : IsWord "where".text := ⟨by decide, List.all_eq_true.mp (by decide)⟩

/-- The end of a type is where it is also without what stands behind, as that begins with no part
of a word. -/
theorem endsType_append (hu : u.head?.any isWord = false) (before : Option CodePoint)
    (c : CodePoint) (r : Text) : endsType before (c :: (r ++ u)) = endsType before (c :: r) := by
  have hread : Text.after? "where".text (c :: (r ++ u)) =
      (Text.after? "where".text (c :: r)).map (· ++ u) :=
    Text.after?_append_of_head (t := c :: r) isWord_where.chars hu
  unfold endsType
  rw [hread]
  -- only the clause keyword can reach over the seam, and `u` starts with no word character
  congr 1
  cases Text.after? "where".text (c :: r) with
  | none => rfl
  | some rest =>
    have hhead : (rest ++ u).head?.any isWord = rest.head?.any isWord := by
      cases rest with
      | nil => exact hu
      | cons x more => rfl
    simp only [Option.map_some, hhead]

/-- In a type without the word `where` the end of a type is read where it is cut off. -/
theorem endsType_eq_cutsOff (hwhere : hasWord "where".text type = false)
    (htail : tail.head?.any isWord = false) (htype : type = front ++ c :: back) :
    endsType (front.getLast?.or (some (.char ' '))) (c :: (back ++ tail)) =
      cutsOff front (c :: back) := by
  rw [endsType_append htail]
  unfold endsType cutsOff
  congr 1
  cases hafter : Text.after? "where".text (c :: back) with
  | none => simp
  | some rest =>
    rw [Text.after?_eq_some_iff] at hafter
    simp only [Option.any_some]
    cases hrest : rest.head?.any isWord with
    | true => simp
    | false =>
      -- the character in front belongs to the same name, as `where` does not stand by itself
      have hlast : front.getLast?.any isWord = true := by
        by_contra hno
        rw [Bool.not_eq_true] at hno
        rw [← Bool.not_eq_true, Text.hasWord_iff isWord_where] at hwhere
        exact hwhere ⟨front, rest, by rw [htype, hafter], hno, hrest⟩
      cases hcase : front.getLast? with
      | none =>
        rw [hcase] at hlast
        cases hlast
      | some x =>
        rw [hcase, Option.any_some] at hlast
        simp only [Option.some_or, Option.any_some]
        by_cases hx : x = '_'
        · rw [hx]
          decide
        · have halnum : Text.isAlphanumeric x = true := by simpa [isWord, hx] using hlast
          simp [halnum, hx]

theorem after_space (front : Text) :
    Depth.top.after (some (.char ' ')) front = Depth.top.after none front :=
  Depth.after_of_ne_dash (by decide) (by decide) front

/-- A type that is read whole is passed over. -/
theorem unended_of_readsWhole (hwhere : hasWord "where".text type = false)
    (htail : tail.head?.any isWord = false) (hwhole : ReadsWhole type) :
    Unended endsType .top (some (.char ' ')) type tail := by
  intro front c back htype htop
  rw [after_space] at htop
  rw [endsType_eq_cutsOff hwhere htail htype]
  by_contra hcuts
  rw [Bool.not_eq_false] at hcuts
  rw [hwhole front (c :: back) htype hcuts] at htop
  cases htop

/-- A type that is not read whole is cut at a place that cuts it off. -/
theorem exists_cutsOff (hwhere : hasWord "where".text type = false)
    (htail : tail.head?.any isWord = false) (hwhole : ¬ ReadsWhole type) :
    ∃ front back, type = front ++ back ∧ (Depth.top.after none front).isTop = true ∧
      cutsOff front back = true ∧
      readType (type ++ tail) = front := by
  -- reading to the end would mean that no cut stands at the top depth
  have hended : ¬ Unended endsType .top (some (.char ' ')) type tail := by
    intro h
    apply hwhole
    intro front back htype hcuts
    cases back with
    | nil => simp [cutsOff, Text.after?] at hcuts
    | cons c back =>
      rw [← Bool.not_eq_true]
      intro htop
      rw [← after_space] at htop
      rw [← endsType_eq_cutsOff hwhere htail htype, h front c back htype htop] at hcuts
      cases hcuts
  rcases Depth.exists_end_of_not_unended hended with ⟨front, c, back, htype, htop, hends, hcut⟩
  rw [after_space] at htop
  rw [endsType_eq_cutsOff hwhere htail htype] at hends
  exact ⟨front, c :: back, htype, htop, hends, by rw [readType, hcut]⟩

/-! ## What stands behind the type -/

/-- What stands behind a return type does not continue a word. -/
theorem Tail.head?_isWord (h : Tail tail) : tail.head?.any isWord = false := by
  cases h with
  | nothing => rfl
  | body more => rfl
  | semicolon more => rfl
  | @clause blanks more hne hblanks hmore =>
    rw [List.head?_append, List.head?_eq_some_head hne]
    have hblank : isBlank (blanks.head hne) = true := hblanks _ (List.head_mem hne)
    rw [Option.some_or, Option.any_some, ← Bool.not_eq_true]
    intro hword
    rw [Text.isBlank_of_isWord hword] at hblank
    cases hblank

/-- Of blanks in front of the end of a type nothing but blanks is read. -/
theorem untilTop_blanks (blanks : Text) (hblanks : ∀ c ∈ blanks, isBlank c = true)
    (hends : endsType (blanks.getLast?.or before) t = true) :
    ∀ c ∈ (Depth.untilTop endsType .top before (blanks ++ t)).1, isBlank c = true := by
  -- blanks neither change the depth nor hide the end, so reading stops among them or right behind
  induction blanks generalizing before with
  | nil =>
    have hnothing : (Depth.untilTop endsType .top before t).1 = [] := by
      cases t with
      | nil => rfl
      | cons c r =>
        have hhere : endsType before (c :: r) = true := hends
        rw [Depth.untilTop, hhere]
        rfl
    rw [List.nil_append, hnothing]
    exact fun c hc => absurd hc List.not_mem_nil
  | cons c r ih =>
    rcases List.forall_mem_cons.mp hblanks with ⟨hc, hr⟩
    rw [Text.getLast?_cons_or] at hends
    rw [List.cons_append, Depth.untilTop]
    split
    · exact fun c hc => absurd hc List.not_mem_nil
    · rw [Depth.next_of_isPlain (TypeText.isPlain_of_isBlank hc)]
      exact List.forall_mem_cons.mpr ⟨hc, ih hr hends⟩

/-- Of what stands behind a type nothing but blanks is read. -/
theorem Tail.read (h : Tail tail) (before : Option CodePoint) :
    ∀ c ∈ (Depth.untilTop endsType .top before tail).1, isBlank c = true := by
  cases h with
  | nothing => exact fun c hc => absurd hc List.not_mem_nil
  | body more => exact untilTop_blanks [.char ' '] (List.all_eq_true.mp (by decide)) rfl
  | semicolon more => exact untilTop_blanks [] (List.forall_mem_nil _) rfl
  -- the blank before `where` is no word character, so the keyword stands on its own
  | @clause blanks more hne hblanks hmore =>
    apply untilTop_blanks blanks hblanks
    rw [List.getLast?_eq_some_getLast hne, Option.some_or]
    have hblank : isBlank (blanks.getLast hne) = true := hblanks _ (List.getLast_mem hne)
    have halnum : Text.isAlphanumeric (blanks.getLast hne) = false := by
      rw [← Bool.not_eq_true]
      intro h
      have hword : isWord (blanks.getLast hne) = true := by simp [isWord, h]
      rw [Text.isBlank_of_isWord hword] at hblank
      cases hblank
    unfold endsType
    rw [Text.after?_append]
    simp [halnum, hmore]

/-- What stands behind a type that closes its brackets is no part of the result. -/
theorem collapse_readType_append (htail : Tail tail)
    (hclosed : Depth.top.after none type = .top) :
    Text.collapse (readType (type ++ tail)) = Text.collapse (readType type) := by
  unfold readType
  rcases Depth.fst_untilTop_append_or (endsType_append htail.head?_isWord) with
    hcut | ⟨hwhole, hread⟩
  · rw [hcut]
  · rw [after_space, hclosed] at hread
    rw [hread, hwhole, Text.collapse_append_blanks (htail.read _)]

/-! ## Square brackets -/

/-- Square brackets are counted in one part after the other. -/
theorem squareAfter_append (k : Nat) (t u : Text) :
    squareAfter k (t ++ u) = (squareAfter k t).bind fun n => squareAfter n u := by
  induction t generalizing k with
  | nil => rfl
  | cons c r ih =>
    rw [List.cons_append, squareAfter, squareAfter]
    split
    · exact ih (k + 1)
    · split
      · split
        · rfl
        · exact ih (k - 1)
      · exact ih k

/-- What is open behind a text and what was closed in it make up for what was open before it and
what was opened in it. -/
theorem squareAfter_add_count {k n : Nat} (h : squareAfter k t = some n) :
    n + t.count (.char ']') = k + t.count (.char '[') := by
  induction t generalizing k with
  | nil =>
    rw [squareAfter, Option.some.injEq] at h
    rw [h, List.count_nil, List.count_nil]
  | cons c r ih =>
    rw [squareAfter] at h
    split at h
    · rename_i hopen
      have hmore := ih h
      rw [hopen, List.count_cons_self, List.count_cons_of_ne (by decide)]
      omega
    · rename_i hopen
      split at h
      · rename_i hclose
        split at h
        · cases h
        · -- a bracket is closed, and one was open
          have hmore := ih h
          rw [hclose, List.count_cons_self, List.count_cons_of_ne (by decide)]
          omega
      · rename_i hclose
        rw [List.count_cons_of_ne hopen, List.count_cons_of_ne hclose]
        exact ih h

/-- Around a place in square brackets stand their two ends. -/
theorem WrittenType.square_around (h : WrittenType (front ++ back))
    (htop : (Depth.top.after none front).isTop = true) (hmark : back.head?.any isMark = true) :
    .char '[' ∈ front ∧ .char ']' ∈ back := by
  have hinside := h.unmarked front back rfl hmark
  have hsquare := h.square
  rw [squareAfter_append] at hsquare
  rcases Option.bind_eq_some_iff.mp hsquare with ⟨n, hfront, hback⟩
  have hpos : 0 < n := by
    rw [Nat.pos_iff_ne_zero]
    rintro rfl
    rw [outside, htop, hfront] at hinside
    cases hinside
  have hopened := squareAfter_add_count hfront
  have hclosed := squareAfter_add_count hback
  exact ⟨List.count_pos_iff.mp (by omega), List.count_pos_iff.mp (by omega)⟩

/-- What is left of a type that is cut off shows that it is: it is no word of letters, and
something is missing behind it. -/
theorem WrittenType.exists_of_cutsOff (h : WrittenType (front ++ back))
    (htop : (Depth.top.after none front).isTop = true) (hcuts : cutsOff front back = true) :
    (∃ c ∈ front, c = '[' ∨ c = '_') ∧ ∃ c ∈ back, isBlank c = false := by
  unfold cutsOff at hcuts
  rw [Bool.or_eq_true, Bool.and_eq_true, beq_iff_eq] at hcuts
  -- cut at a mark, which square brackets enclose, or at a `where` right behind an underscore
  rcases hcuts with hmark | ⟨hlast, hword⟩
  · rcases h.square_around htop hmark with ⟨hopen, hclose⟩
    exact ⟨⟨'[', hopen, Or.inl rfl⟩, ⟨']', hclose, by decide⟩⟩
  · refine ⟨⟨'_', List.mem_of_getLast? hlast, Or.inr rfl⟩, ?_⟩
    cases hafter : Text.after? "where".text back with
    | none =>
      rw [hafter] at hword
      cases hword
    | some rest =>
      rw [Text.after?_eq_some_iff] at hafter
      exact ⟨'w', by rw [hafter]; exact List.mem_cons_self, by decide⟩

/-! ## The type in the result -/

/-- A return type is read behind the first arrow outside all brackets. -/
theorem value_returnType (hlead : Lead lead) (t : Text) :
    (returnType (lead ++ ("->".text ++ t))).value =
      if (Text.collapse (Depth.untilTop endsType .top (some (.char '>')) t).1).isEmpty then none
      else some (Text.collapse (Depth.untilTop endsType .top (some (.char '>')) t).1) := by
  have hpassed : Unended atArrow .top none lead ("->".text ++ t) := by
    intro front c back hfront htop
    by_contra harrow
    rw [Bool.not_eq_false] at harrow
    have hstarts : Text.startsWith "->".text (c :: back) = true := by
      -- a dash at the end of the lead is followed by the one of the arrow
      cases back with
      | nil => simp [atArrow, Text.startsWith, Text.after?] at harrow
      | cons x back => simpa [atArrow, Text.startsWith_eq_true_iff] using harrow
    rw [hlead.noArrow front (c :: back) hfront hstarts] at htop
    cases htop
  have hstop : Depth.untilTop atArrow .top (lead.getLast?.or none) ("->".text ++ t) =
      ([], "->".text ++ t) := rfl
  have huntil : Depth.untilTop atArrow .top none (lead ++ ("->".text ++ t)) =
      (lead, "->".text ++ t) := by
    rw [Depth.untilTop_append_of_unended hpassed, hlead.closed.ends, hstop, List.append_nil]
  have hbehind : Text.after? [.char '-', .char '>'] ("->".text ++ t) = some t := rfl
  unfold returnType
  rw [huntil]
  simp only [hbehind]
  rfl

/-- The type of a signature is read behind its arrow. -/
theorem value_returnType_signature (hlead : Lead lead) (type tail : Text) :
    (returnType (signature lead type tail)).value =
      if (Text.collapse (readType (type ++ tail))).isEmpty then none
      else some (Text.collapse (readType (type ++ tail))) := by
  have hread := value_returnType hlead (.char ' ' :: (type ++ tail))
  have hspace : (Depth.untilTop endsType .top (some (.char '>')) (.char ' ' :: (type ++ tail))).1 =
      [.char ' '] ++ readType (type ++ tail) := rfl
  have hblank : ∀ c ∈ [.char ' '], isBlank c = true := List.all_eq_true.mp (by decide)
  rw [hspace, Text.collapse_blanks_append hblank] at hread
  exact hread

/-- The hover binds no name in the type that has a location bound in the block; there may be no
such bound at all. -/
def Unbound (content block type : Text) : Prop :=
  ∀ name ∈ locationBound.findAll (whereClause block),
    name <:+: type → (metadata content).value.get? name = none

/-- A type that no footnote and no binding concerns is concrete as it is written. -/
theorem concrete_of_unbound (hself : Text.collapse t ≠ "Self".text)
    (hunbound : Unbound content block t) :
    concrete [] content block (Text.collapse t) = Text.collapse t := by
  have hassociated :
      resolveAssociated [] (whereClause block) (Text.collapse t) = Text.collapse t := by
    unfold resolveAssociated
    split
    · cases associatedLocation.find? none (whereClause block) <;> rfl
    · rfl
  have hresolve : (resolveSelf [] block content (Text.collapse t)).value = Text.collapse t := by
    unfold resolveSelf
    rw [if_neg fun h => hself h.1]
    rfl
  -- a bound's name within the type is a name the metadata say nothing about
  have hbounds : ∀ name ∈ locationBound.findAll (whereClause block),
      hasWord name (Text.collapse t) = true → (metadata content).value.get? name = none := by
    intro name hname hword
    have hisWord := isWord_of_mem_findAll hname
    rcases (Text.hasWord_iff hisWord).mp hword with ⟨front, rest, hplace, -, -⟩
    have hwithin : name <:+: Text.collapse t := by
      rw [hplace]
      exact ⟨front, rest, List.append_assoc _ _ _⟩
    refine hunbound name hname (Text.infix_of_infix_collapse ?_ hwithin)
    exact fun c hc => Text.isBlank_of_isWord (hisWord.chars c hc)
  unfold concrete
  simp only [hassociated, hresolve, substitute_nil]
  exact substituteBounds_of_unbound hbounds rfl

/-- The return type of a signature is given in full exactly when no place outside angle brackets
and parentheses cuts it off. -/
theorem methodType_whole_iff (hfirst : FirstTyped content (signature lead type tail))
    (hlead : Lead lead) (htype : WrittenType type) (htail : Tail tail)
    (hself : Text.collapse type ≠ "Self".text) (hnotes : footnotes content = [])
    (hunbound : Unbound content (signature lead type tail) type) :
    (methodType content).value = some (Text.collapse type) ↔ ReadsWhole type := by
  have hread := value_returnType_signature hlead type tail
  -- whatever part of the type is read, no later step changes it
  have hvalue : ∀ part : Text, part <:+: type → Text.collapse part ≠ [] →
      Text.collapse part ≠ "Self".text →
      Text.collapse (readType (type ++ tail)) = Text.collapse part →
      (methodType content).value = some (Text.collapse part) := by
    intro part hpart hne hneSelf hwritten
    have hunboundPart : Unbound content (signature lead type tail) part :=
      fun name hname hwithin => hunbound name hname (hwithin.trans hpart)
    rw [hwritten, if_neg (by simpa using hne)] at hread
    rw [value_methodType hfirst hread, hnotes, concrete_of_unbound hneSelf hunboundPart]
  constructor
  · intro hwhole
    by_contra hcut
    -- the part in front of the cut would be the result, and it lacks a character that is no blank
    rcases exists_cutsOff htype.noWhere htail.head?_isWord hcut with
      ⟨front, back, rfl, htop, hcuts, hfront⟩
    rcases htype.exists_of_cutsOff htop hcuts with ⟨⟨x, hx, hcase⟩, y, hy, hink⟩
    have hxink : isBlank x = false := by rcases hcase with rfl | rfl <;> decide
    have hkept : x ∈ Text.collapse front := (Text.mem_collapse_iff hxink).mpr hx
    have hneSelf : Text.collapse front ≠ "Self".text := by
      intro h
      rw [h] at hkept
      rcases hcase with rfl | rfl <;> exact absurd hkept (by decide)
    have hpart : front <:+: front ++ back := (List.prefix_append front back).isInfix
    rw [hvalue front hpart (List.ne_nil_of_mem hkept) hneSelf (by rw [hfront]),
      Option.some.injEq] at hwhole
    exact Text.collapse_ne_of_mem hy hink hwhole
  · intro hwhole
    have hpassed := unended_of_readsWhole htype.noWhere htail.head?_isWord hwhole
    apply hvalue type List.infix_rfl (Text.collapse_ne_nil htype.filled) hself
    rw [readType, Depth.untilTop_append_of_unended hpassed, after_space, htype.closed.ends]
    exact Text.collapse_append_blanks (htail.read _) type

/-- In front of the arrow stands another one, in the bound of a type parameter. -/
def foldLead : Text := "pub fn fold<A, F: Fn(A, T) -> A>(self, init: A, comb: F) ".text

/-- A type with a function type in its angle brackets, whose arrow is inside them. -/
def foldType : Text := "Optional<A, Tick<L>, fn(u8) -> A>".text

/-- A where clause on a line of its own. -/
def foldTail : Text := "\nwhere\n    A: Clone".text

/-- The hover of the method with that signature. -/
def foldHover : Text := fenced "rust".text (signature foldLead foldType foldTail)

/-- The arrow in a bound and the one in the type are both passed over. -/
theorem methodType_whole_iff_fold :
    FirstTyped foldHover (signature foldLead foldType foldTail) ∧ Lead foldLead ∧
      WrittenType foldType ∧ Tail foldTail ∧ Text.collapse foldType ≠ "Self".text ∧
      footnotes foldHover = [] ∧
      Unbound foldHover (signature foldLead foldType foldTail) foldType ∧
      (methodType foldHover).value = some foldType := by
  have hfirst : FirstTyped foldHover (signature foldLead foldType foldTail) :=
    ⟨[], [], by decide +kernel, by simp⟩
  have hlead : Lead foldLead := ⟨by decide +kernel, Text.forall_cuts_iff.mpr (by decide +kernel)⟩
  have htype : WrittenType foldType :=
    ⟨by decide, by decide, by decide, Text.forall_cuts_iff.mpr (by decide +kernel), by decide⟩
  have htail : Tail foldTail := by
    change Tail ([.char '\n'] ++ ("where".text ++ "\n    A: Clone".text))
    exact .clause (by decide) (List.all_eq_true.mp (by decide)) (by decide)
  have hself : Text.collapse foldType ≠ "Self".text := by decide
  have hnotes : footnotes foldHover = [] := by decide +kernel
  have hunbound : Unbound foldHover (signature foldLead foldType foldTail) foldType := by
    unfold Unbound
    decide +kernel
  -- none of the cuts of the type ends it, checked at every place
  have hwhole : ReadsWhole foldType := Text.forall_cuts_iff.mpr (by decide +kernel)
  have hcollapse : Text.collapse foldType = foldType := by decide +kernel
  refine ⟨hfirst, hlead, htype, htail, hself, hnotes, hunbound, ?_⟩
  rw [← hcollapse]
  exact (methodType_whole_iff hfirst hlead htype htail hself hnotes hunbound).mpr hwhole

/-- The signature of a method up to its arrow. -/
def keyLead : Text := "pub fn key(self) ".text

/-- An array type. -/
def keyType : Text := "[u8; 4]".text

/-- The hover of the method with that signature. -/
def keyHover : Text := fenced "rust".text (signature keyLead keyType [])

/-- An array type is cut off at its semicolon. -/
theorem array_type_cut_off :
    FirstTyped keyHover (signature keyLead keyType []) ∧ Lead keyLead ∧ WrittenType keyType ∧
      Tail [] ∧ Text.collapse keyType ≠ "Self".text ∧ footnotes keyHover = [] ∧
      Unbound keyHover (signature keyLead keyType []) keyType ∧
      (methodType keyHover).value = some "[u8".text ∧
      (methodType keyHover).value ≠ some (Text.collapse keyType) := by
  have hlead : Lead keyLead := ⟨by decide, Text.forall_cuts_iff.mpr (by decide +kernel)⟩
  have htype : WrittenType keyType :=
    ⟨by decide, by decide, by decide, Text.forall_cuts_iff.mpr (by decide +kernel), by decide⟩
  have hvalue : (methodType keyHover).value = some "[u8".text := by decide +kernel
  have hunbound : Unbound keyHover (signature keyLead keyType []) keyType := by
    unfold Unbound
    decide +kernel
  refine ⟨⟨[], [], by decide +kernel, by simp⟩, hlead, htype, .nothing, by decide,
    by decide +kernel, hunbound, hvalue, ?_⟩
  rw [hvalue]
  decide

end Placement.Hover
