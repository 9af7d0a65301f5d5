import Placement.Proofs.Brackets
import Placement.Proofs.Hover.Method

/-!
# Placement.Proofs.Hover.Header — `Self`, and the header of an impl

A bare `Self` is rebuilt from the header of an impl, and the header is found by two
searches over the whole block. What they take for one is a matter of the text behind
the word `impl` only (`LooksLikeHeader`): blanks, a word and an open bracket, perhaps
behind generics, or behind the word `for` in the rest of the line. An argument of
type `impl Trait<..>` looks like that as well.

The type rebuilt from a header holds an angle bracket, and no later step takes it
away. So `Self` is left alone exactly when nothing in the block looks like a header,
or the header found leaves its bracket open to the end (`methodType_self_iff`).
-/

namespace Placement.Hover

open Text (Pattern IsWord)

variable {content block name rest t : Text} {before : Option CodePoint} {notes : Bindings}

/-! ## What looks like a header -/

/-- Blanks, a word, and a bracket that opens behind it. -/
def Opens (name rest t : Text) : Prop :=
  ∃ blanks, blanks ≠ [] ∧ (∀ c ∈ blanks, Text.isBlank c = true) ∧ IsWord name ∧
    t = blanks ++ (name ++ .char '<' :: rest)

/-- A text that begins with blanks and an open generic type. -/
def OpensGeneric (t : Text) : Prop := ∃ name rest, Opens name rest t

/-- The reader takes the name of an open generic type and gives back what stands behind its bracket.
-/
theorem openGeneric_eq_some_iff : openGeneric t = some (name, rest) ↔ Opens name rest t := by
  constructor
  · intro h
    -- the reader takes two stretches, the blanks and the name, and then the bracket
    cases hblanks : t.span Text.isBlank with
    | mk blanks r =>
      cases hname : r.span Text.isWord with
      | mk word behind =>
        unfold openGeneric at h
        simp only [hblanks, hname] at h
        split at h
        · cases h
        · rename_i hempty
          rw [Bool.not_eq_true, Bool.or_eq_false_iff, List.isEmpty_eq_false_iff,
            List.isEmpty_eq_false_iff] at hempty
          rcases Option.map_eq_some_iff.mp h with ⟨more, hmore, hpair⟩
          cases hpair
          rcases Text.span_eq_iff.mp hblanks with ⟨ht, hall, -⟩
          rcases Text.span_eq_iff.mp hname with ⟨hr, hword, -⟩
          rw [Text.after?_eq_some_iff] at hmore
          refine ⟨blanks, hempty.1, hall, ⟨hempty.2, hword⟩, ?_⟩
          rw [ht, hr, hmore]
          rfl
  · rintro ⟨blanks, hne, hall, hname, rfl⟩
    have hhead : (name ++ .char '<' :: rest).head?.any Text.isBlank = false := by
      rw [List.head?_append, List.head?_eq_some_head hname.nonempty]
      exact Text.isBlank_of_isWord (hname.chars _ (List.head_mem hname.nonempty))
    have hblanks : (blanks ++ (name ++ .char '<' :: rest)).span Text.isBlank =
        (blanks, name ++ .char '<' :: rest) := Text.span_eq_iff.mpr ⟨rfl, hall, hhead⟩
    have hword : (name ++ .char '<' :: rest).span Text.isWord = (name, .char '<' :: rest) :=
      Text.span_eq_iff.mpr ⟨rfl, hname.chars, rfl⟩
    have hfilled : ¬ (blanks.isEmpty || name.isEmpty) = true := by
      simp [hne, hname.nonempty]
    unfold openGeneric
    simp only [hblanks, hword]
    rw [if_neg hfilled, Text.after?_eq_some_iff.mpr (List.singleton_append).symm, Option.map_some]

/-- The reader finds nothing where no generic type is opened. -/
theorem openGeneric_eq_none_iff : openGeneric t = none ↔ ¬ OpensGeneric t := by
  rw [Option.eq_none_iff_forall_ne_some]
  constructor
  · rintro h ⟨name, rest, hopens⟩
    exact h (name, rest) (openGeneric_eq_some_iff.mpr hopens)
  · rintro h ⟨name, rest⟩ hopens
    exact h ⟨name, rest, openGeneric_eq_some_iff.mp hopens⟩

/-- A text that behind the word `impl` is taken for the header of an impl. -/
inductive LooksLikeHeader : Text → Prop
  | inherent {t : Text} (hopens : OpensGeneric t) : LooksLikeHeader t
  | generic {blanks parameters t : Text} (hblanks : ∀ c ∈ blanks, Text.isBlank c = true)
      (hline : .char '\n' ∉ parameters) (hopens : OpensGeneric t) :
      LooksLikeHeader (blanks ++ .char '<' :: (parameters ++ .char '>' :: t))
  | trait {line t : Text} (hne : line ≠ []) (hline : .char '\n' ∉ line)
      (hhead : line.head?.any Text.isWord = false) (hlast : line.getLast?.any Text.isWord = false)
      (hopens : OpensGeneric t) : LooksLikeHeader (line ++ ("for".text ++ t))

/-- The header that the search of a block finds: its type, with its parameters open. -/
def header? (block : Text) : Option (Text × Text) :=
  (traitHeader.find? none block).or (inherentHeader.find? none block)

/-- Behind generics nothing is found when no closing bracket in the line has an open generic type
behind it. -/
theorem behindParameters_eq_none_iff {body : Text} :
    behindParameters.findInLine? before body = none ↔
      ∀ parameters t, body = parameters ++ .char '>' :: t → .char '\n' ∉ parameters →
        ¬ OpensGeneric t := by
  rw [Pattern.findInLine?_eq_none_iff]
  simp only [behindParameters, Option.bind_eq_none_iff, Text.after?_eq_some_iff,
    openGeneric_eq_none_iff, List.singleton_append, List.cons.injEq]
  constructor
  · intro h parameters t hbody hline
    exact h parameters '>' t hbody hline t ⟨rfl, rfl⟩
  · rintro h parameters c back hbody hline t ⟨rfl, rfl⟩
    exact h parameters back hbody hline

/-- Behind `for` nothing is found when no such word in the line has an open generic type behind it.
-/
theorem implementedFor_eq_none_iff {behind : Text} :
    implementedFor.findInLine? (some (.char 'l')) behind = none ↔
      ∀ line t, behind = line ++ ("for".text ++ t) → line ≠ [] → .char '\n' ∉ line →
        line.getLast?.any Text.isWord = false → ¬ OpensGeneric t := by
  have hread : ∀ (before : Option CodePoint) (t : Text), implementedFor before t = none ↔
      (before.any Text.isWord = false → ∀ r, t = "for".text ++ r → ¬ OpensGeneric r) := by
    intro before t
    unfold implementedFor
    cases before.any Text.isWord <;>
      simp [Option.bind_eq_none_iff, Text.after?_eq_some_iff, openGeneric_eq_none_iff]
  rw [Pattern.findInLine?_eq_none_iff]
  constructor
  · intro h line t hbehind hne hline hlast
    refine (hread _ _).mp (h line 'f' (.char 'o' :: .char 'r' :: t) hbehind hline) ?_ t rfl
    rw [List.getLast?_eq_some_getLast hne] at hlast ⊢
    exact hlast
  · rintro h line c back rfl hline
    rw [hread]
    intro hlast t hback
    -- directly behind `impl` the word `for` would be a part of a longer word
    have hne : line ≠ [] := by
      rintro rfl
      exact absurd hlast (by decide)
    rw [List.getLast?_eq_some_getLast hne, Option.some_or] at hlast
    rw [hback] at h
    refine h line t rfl hne hline ?_
    rw [List.getLast?_eq_some_getLast hne]
    exact hlast

/-- The first search fails at a place without the word `impl`, or with no `for` behind it. -/
theorem traitHeader_eq_none_iff :
    traitHeader before t = none ↔
      ∀ behind, t = "impl".text ++ behind → before.any Text.isWord = false →
        behind.head?.any Text.isWord = false →
          implementedFor.findInLine? (some (.char 'l')) behind = none := by
  have hword : IsWord "impl".text := ⟨by decide, List.all_eq_true.mp (by decide)⟩
  unfold traitHeader
  simp only [Option.bind_eq_bind, Option.bind_eq_none_iff]
  constructor
  · intro h behind ht hbefore hbehind
    exact h ("impl".text, behind)
      ((Text.wholeWord_eq_some_iff hword).mpr ⟨rfl, ht, hbefore, hbehind⟩)
  · rintro h ⟨found, behind⟩ hfound
    rcases (Text.wholeWord_eq_some_iff hword).mp hfound with ⟨-, ht, hbefore, hbehind⟩
    exact h behind ht hbefore hbehind

/-- Behind its first blanks a text has a bracket or the name of an open generic, not both. -/
theorem not_opensGeneric_of_trimLeft {body : Text} (h : Text.trimLeft t = .char '<' :: body) :
    ¬ OpensGeneric t := by
  rintro ⟨name, rest, blanks, -, hall, hname, rfl⟩
  rw [Text.trimLeft, List.dropWhile_append_of_pos hall] at h
  cases name with
  | nil => exact hname.nonempty rfl
  | cons c more =>
    have hc : Text.isWord c = true := hname.chars c List.mem_cons_self
    rw [List.cons_append, List.dropWhile_cons_of_neg
      (Bool.eq_false_iff.mp (Text.isBlank_of_isWord hc))] at h
    rw [(List.cons.inj h).1] at hc
    exact absurd hc (by decide)

/-- The second search fails at a place with no open generic type behind `impl`, neither directly nor
behind generics. -/
theorem inherentHeader_eq_none_iff :
    inherentHeader before t = none ↔
      ∀ behind, t = "impl".text ++ behind → before.any Text.isWord = false →
        ¬ OpensGeneric behind ∧
          ∀ body, Text.trimLeft behind = .char '<' :: body →
            behindParameters.findInLine? (some (.char '<')) body = none := by
  unfold inherentHeader
  cases hbefore : before.any Text.isWord with
  | true => simp
  | false =>
    cases hafter : Text.after? "impl".text t with
    | none =>
      refine iff_of_true rfl ?_
      intro behind ht
      rw [Text.after?_eq_some_iff.mpr ht] at hafter
      cases hafter
    | some r =>
      rw [Text.after?_eq_some_iff] at hafter
      subst hafter
      simp only [Bool.false_eq_true, if_false, List.append_cancel_left_eq, forall_eq',
        forall_const]
      -- the reader looks for generics first, and for a name where no bracket opens
      split
      · rename_i body hbody
        constructor
        · intro h
          refine ⟨not_opensGeneric_of_trimLeft hbody, ?_⟩
          intro body' hbody'
          rw [hbody] at hbody'
          rwa [← (List.cons.inj hbody').2]
        · intro h
          exact h.2 body hbody
      · rename_i hother
        rw [openGeneric_eq_none_iff]
        constructor
        · intro h
          exact ⟨h, fun body hbody => absurd hbody (hother body)⟩
        · intro h
          exact h.1

/-- Nothing is read where nothing looks like a header. -/
theorem header_eq_none_iff :
    (traitHeader before t = none ∧ inherentHeader before t = none) ↔
      ∀ behind, t = "impl".text ++ behind → before.any Text.isWord = false →
        ¬ LooksLikeHeader behind := by
  have hangle : Text.isBlank '<' = false := by decide
  rw [traitHeader_eq_none_iff, inherentHeader_eq_none_iff]
  constructor
  · rintro ⟨htrait, hinherent⟩ behind ht hbefore hlooks
    rcases hinherent behind ht hbefore with ⟨hopens, hgeneric⟩
    -- each look of a header is refuted by the pattern that would have read it
    cases hlooks with
    | inherent h => exact hopens h
    | @generic blanks parameters t' hblanks hline h =>
      refine behindParameters_eq_none_iff.mp (hgeneric _ ?_) parameters t' rfl hline h
      exact (Text.trimLeft_eq_cons_iff hangle).mpr ⟨blanks, hblanks, rfl⟩
    | @trait line t' hne hline hhead hlast h =>
      have hedge : (line ++ ("for".text ++ t')).head?.any Text.isWord = false := by
        rw [List.head?_eq_some_head hne] at hhead
        rw [List.head?_append, List.head?_eq_some_head hne]
        exact hhead
      exact implementedFor_eq_none_iff.mp (htrait _ ht hbefore hedge) line t' rfl hne hline hlast h
  · intro h
    constructor
    · -- and each pattern that reads gives a look
      intro behind ht hbefore hhead
      rw [implementedFor_eq_none_iff]
      rintro line t' rfl hne hline hlast hopens
      refine h _ ht hbefore (.trait hne hline ?_ hlast hopens)
      rw [List.head?_append, List.head?_eq_some_head hne] at hhead
      rw [List.head?_eq_some_head hne]
      exact hhead
    · intro behind ht hbefore
      refine ⟨fun hopens => h behind ht hbefore (.inherent hopens), ?_⟩
      intro body htrim
      rw [behindParameters_eq_none_iff]
      rintro parameters t' rfl hline hopens
      rcases (Text.trimLeft_eq_cons_iff hangle).mp htrim with ⟨blanks, hblanks, rfl⟩
      exact h _ ht hbefore (.generic hblanks hline hopens)

/-- Nothing in a block looks like the header of an impl. -/
def Headless (block : Text) : Prop :=
  ∀ front behind, block = front ++ ("impl".text ++ behind) →
    front.getLast?.any Text.isWord = false → ¬ LooksLikeHeader behind

/-- No header is found exactly in a block without one. -/
theorem header?_eq_none_iff : header? block = none ↔ Headless block := by
  unfold header?
  rw [Option.or_eq_none_iff, Pattern.find?_eq_none_iff, Pattern.find?_eq_none_iff]
  constructor
  · rintro ⟨htrait, hinherent⟩ front behind hblock hbefore
    refine header_eq_none_iff.mp
      ⟨htrait front 'i' _ hblock, hinherent front 'i' _ hblock⟩ behind rfl ?_
    rwa [Option.or_none]
  · intro h
    -- both searches fail at a place for the same reason
    have hplace : ∀ front c back, block = front ++ c :: back →
        traitHeader (front.getLast?.or none) (c :: back) = none ∧
          inherentHeader (front.getLast?.or none) (c :: back) = none := by
      intro front c back hblock
      rw [header_eq_none_iff, Option.or_none]
      intro behind hback hbefore
      rw [hback] at hblock
      exact h front behind hblock hbefore
    exact ⟨fun front c back hblock => (hplace front c back hblock).1,
      fun front c back hblock => (hplace front c back hblock).2⟩

/-! ## `Self` made concrete -/

/-- The type rebuilt is the name with its parameters, each one that is bound in its place. -/
theorem value_selfType (block content : Text) :
    (selfType block content).value =
      (header? block).bind fun (name, rest) =>
        (Depth.closing? ⟨1, 0⟩ (some (.char '<')) rest).map fun (inner, _) =>
          name ++ .char '<' ::
            [.char ',', .char ' '].intercalate ((TypeText.parameters inner).map fun p =>
              ((metadata content).value.get? p).getD p) ++ [.char '>'] := by
  have hread : ∀ rest : Text, (Depth.readClosing block rest).value =
      Depth.closing? ⟨1, 0⟩ (some (.char '<')) rest := fun _ => rfl
  unfold selfType
  -- the reading of the angles leaves notices and an optional text, of which only the text matters
  cases hfound : header? block with
  | none =>
    unfold header? at hfound
    rw [hfound]
    rfl
  | some found =>
    rcases found with ⟨name, rest⟩
    unfold header? at hfound
    rw [hfound]
    simp only [Logged.value_bind, hread, Option.bind_some]
    cases Depth.closing? ⟨1, 0⟩ (some (.char '<')) rest <;> rfl

/-- Nothing is rebuilt when no header is found, or its bracket is open to the end of the block. -/
theorem value_selfType_eq_none_iff :
    (selfType block content).value = none ↔
      ∀ name rest, header? block = some (name, rest) →
        Depth.KeepsAngles .top (some (.char '<')) rest := by
  rw [value_selfType, Option.bind_eq_none_iff]
  constructor
  · intro h name rest hfound
    have hnone := h (name, rest) hfound
    rw [Option.map_eq_none_iff] at hnone
    exact Depth.closing?_eq_none_iff.mp hnone
  · rintro h ⟨name, rest⟩ hfound
    rw [Option.map_eq_none_iff]
    exact Depth.closing?_eq_none_iff.mpr (h name rest hfound)

/-- A type that was rebuilt has an angle bracket. -/
theorem mem_selfType (h : (selfType block content).value = some t) : .char '<' ∈ t := by
  rw [value_selfType] at h
  rcases Option.bind_eq_some_iff.mp h with ⟨⟨name, rest⟩, -, h⟩
  rcases Option.map_eq_some_iff.mp h with ⟨⟨inner, behind⟩, -, rfl⟩
  simp

/-- Without a footnote for it `Self` is not substituted. -/
theorem substitute_self (hnote : notes.get? "Self".text = none) :
    substitute notes "Self".text = "Self".text := by
  have hread : Pattern.capitalizedWord none "Self".text = some ("Self".text, []) := by
    decide
  have htext : "Self".text = [.char 'S', .char 'e', .char 'l', .char 'f'] := rfl
  unfold substitute Pattern.replaceAll
  rw [htext] at hread hnote ⊢
  simp [Pattern.replaceFrom, hread, hnote]

/-- `Self` is left alone exactly when nothing is rebuilt from a header. -/
theorem concrete_self (hnote : notes.get? "Self".text = none)
    (hbound : "Self".text ∉ locationBound.findAll (whereClause block)) :
    concrete notes content block "Self".text = "Self".text ↔
      (selfType block content).value = none := by
  have hnames : ∀ w ∈ locationBound.findAll (whereClause block), IsWord w :=
    fun w hw => isWord_of_mem_findAll hw
  have hresolve : (resolveSelf notes block content "Self".text).value =
      (selfType block content).value.getD "Self".text := by
    unfold resolveSelf
    rw [if_pos ⟨rfl, hnote⟩]
    rfl
  have hassociated : resolveAssociated notes (whereClause block) "Self".text =
      "Self".text := by
    unfold resolveAssociated
    rw [if_neg (by decide)]
  unfold concrete
  simp only [hassociated, hresolve]
  cases hself : (selfType block content).value with
  | none =>
    -- `Self` is no bound and has no footnote, so the later steps pass it over
    have hunbound : ∀ w ∈ locationBound.findAll (whereClause block),
        hasWord w "Self".text = true → (metadata content).value.get? w = none := by
      intro w hw hword
      have hchars : ∀ c ∈ "Self".text, Text.isWord c = true := List.all_eq_true.mp (by decide)
      rw [Text.eq_of_hasWord hchars (hnames w hw) hword] at hw
      exact absurd hw hbound
    rw [Option.getD_none, substitute_self hnote, substituteBounds_of_unbound hunbound rfl]
    exact iff_of_true rfl rfl
  | some t =>
    -- the bracket of the type that was rebuilt is there to the end
    refine iff_of_false ?_ (Option.some_ne_none t)
    rw [Option.getD_some]
    intro heq
    have hbracket : .char '<' ∈ substitute notes t :=
      mem_substitute (by decide) (mem_selfType hself)
    have hmem : .char '<' ∈ (substituteBounds content
        (locationBound.findAll (whereClause block)) none (substitute notes t)).value :=
      mem_substituteBounds hnames (by decide) rfl hbracket
    rw [heq] at hmem
    exact absurd hmem (by decide)

/-- A method that returns `Self` is given the type `Self` exactly when nothing in its block looks
like the header of an impl, or the header found leaves its bracket open. -/
theorem methodType_self_iff (hfirst : FirstTyped content block)
    (hself : (returnType block).value = some "Self".text)
    (hnote : (footnotes content).get? "Self".text = none)
    (hbound : "Self".text ∉ locationBound.findAll (whereClause block)) :
    (methodType content).value = some "Self".text ↔
      Headless block ∨
        ∃ name rest, header? block = some (name, rest) ∧
          Depth.KeepsAngles .top (some (.char '<')) rest := by
  rw [value_methodType hfirst hself, Option.some.injEq, concrete_self hnote hbound,
    value_selfType_eq_none_iff, ← header?_eq_none_iff]
  -- without a header the block is headless, with one the open bracket decides
  cases header? block with
  | none => simp
  | some found =>
    rcases found with ⟨name, rest⟩
    constructor
    · intro h
      exact Or.inr ⟨name, rest, rfl, h name rest rfl⟩
    · rintro (h | ⟨name', rest', hfound, hopen⟩) first more hfirst
      · cases h
      · cases hfound
        cases hfirst
        exact hopen

/-- The block of a method that takes a function and returns `Self`. -/
def mapBlock : Text := "pub fn map<F>(self, f: impl Fn(T) -> U) -> Self".text

/-- The hover of that method. -/
def mapHover : Text := fenced "rust".text mapBlock

/-- An argument of a function type is no header, since no generic type opens behind its `impl`. -/
theorem methodType_self_iff_map :
    FirstTyped mapHover mapBlock ∧ (returnType mapBlock).value = some "Self".text ∧
      (footnotes mapHover).get? "Self".text = none ∧
      "Self".text ∉ locationBound.findAll (whereClause mapBlock) ∧
      (methodType mapHover).value = some "Self".text := by
  have hfirst : FirstTyped mapHover mapBlock := ⟨[], [], by decide +kernel, by simp⟩
  have hself : (returnType mapBlock).value = some "Self".text := by decide +kernel
  have hnote : (footnotes mapHover).get? "Self".text = none := by decide +kernel
  have hbound : "Self".text ∉ locationBound.findAll (whereClause mapBlock) := by
    decide +kernel
  have hheadless : Headless mapBlock := header?_eq_none_iff.mp (by decide +kernel)
  exact ⟨hfirst, hself, hnote, hbound,
    (methodType_self_iff hfirst hself hnote hbound).mpr (Or.inl hheadless)⟩

/-- The word `impl` stands in the argument list only. -/
def ImplInArguments (block : Text) : Prop :=
  ∃ front arguments behind, block = front ++ .char '(' :: (arguments ++ .char ')' :: behind) ∧
    Depth.Leads .top (some (.char '(')) arguments .top ∧
    hasWord "impl".text front = false ∧ hasWord "impl".text behind = false

/-- The block of a method that takes an argument of a generic trait type. -/
def inspectBlock : Text :=
  "pub fn inspect<F>(self, f: impl IntoQuotedMut<'a, F, L>) -> Self".text

/-- The hover of that method. -/
def inspectHover : Text := fenced "rust".text inspectBlock

/-- The type of an argument is taken for that of an impl, and put in the place of `Self`. -/
theorem self_taken_from_argument :
    FirstTyped inspectHover inspectBlock ∧
      (returnType inspectBlock).value = some "Self".text ∧ ImplInArguments inspectBlock ∧
      (footnotes inspectHover).get? "Self".text = none ∧
      "Self".text ∉ locationBound.findAll (whereClause inspectBlock) ∧
      (methodType inspectHover).value = some "IntoQuotedMut<'a, F, L>".text ∧
      (methodType inspectHover).value ≠ some "Self".text := by
  have harguments : ImplInArguments inspectBlock :=
    ⟨"pub fn inspect<F>".text, "self, f: impl IntoQuotedMut<'a, F, L>".text,
      " -> Self".text, by decide +kernel, by decide +kernel, by decide +kernel,
      by decide +kernel⟩
  have htype : (methodType inspectHover).value = some "IntoQuotedMut<'a, F, L>".text := by
    decide +kernel
  refine ⟨⟨[], [], by decide +kernel, by simp⟩, by decide +kernel, harguments,
    by decide +kernel, by decide +kernel, htype, ?_⟩
  rw [htype]
  decide

end Placement.Hover
