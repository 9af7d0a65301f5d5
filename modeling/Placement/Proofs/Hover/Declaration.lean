import Placement.Hover.Declaration
import Placement.Proofs.Hover.CodeBlocks
import Placement.Proofs.TypeText.Single

/-!
# Placement.Proofs.Hover.Declaration — the type behind the colon of a declaration

The hover of a declared name is read by its first code block alone, so neither the
prose around it nor a block behind it makes a difference (`firstBlock_fenced`,
`value_bindingType`). In the declaration the first colon is sought that stands outside
all brackets and belongs to no `::`. In front of it a `Binder` may name paths and nest
whatever it closes again, and nothing in it is taken for that colon
(`unended_of_uncoloned`); the type is all that stands behind (`untilTop_colon`). A
declaration without such a colon is shown as it is (`bindingType_of_firstBlock`).
-/

namespace Placement.Hover

open Depth (Leads Unended)
open Text (isBlank)

variable {lead info code content front back type t : Text}

/-! ## The first block -/

/-- The first code block of a hover holds a text, blanks at its ends not counted. -/
def FirstBlock (content code : Text) : Prop :=
  (codeBlocks content).head? = some (Text.trim code)

/-- A block in fences is the first one, whatever stands behind it. -/
theorem firstBlock_fenced (hlead : Unfenced lead) (hinfo : NamesLanguage info)
    (hcode : Unfenced code) (back : Text) :
    FirstBlock (lead ++ (fenced info code ++ back)) code := by
  have hbreak : isBlank '\n' = true := by decide
  unfold FirstBlock codeBlocks Text.Pattern.findAll
  rw [findFrom_fenced hlead hinfo hcode, List.map_cons, List.head?_cons,
    Text.trim_concat_blank hbreak]

/-- Of a hover the first block is read and nothing else. -/
theorem value_bindingType (h : FirstBlock content code) :
    (bindingType content).value =
      if Text.trim code = [] then none else some (declaredType (Text.trim code)).value := by
  unfold FirstBlock at h
  unfold bindingType
  cases hblocks : codeBlocks content with
  | nil =>
    rw [hblocks] at h
    cases h
  | cons declaration more =>
    rw [hblocks, List.head?_cons, Option.some.injEq] at h
    subst h
    by_cases hempty : Text.trim code = []
    · simp [hempty]
    · simp [hempty]

/-! ## Colons -/

/-- Every colon of the text that stands outside all brackets is part of a path separator. -/
def Uncoloned (t : Text) : Prop :=
  ∀ front back, t = front ++ .char ':' :: back → Depth.top.after none front = .top →
    front.getLast? = some (.char ':') ∨ back.head? = some (.char ':')

/-- What stands in front of the colon of a declaration. -/
structure Binder (t : Text) : Prop where
  balanced : Leads .top none t .top
  paths : Uncoloned t
  last : t.getLast? ≠ some (.char ':')

/-- No path separator is taken for the colon of the declaration. -/
theorem unended_of_uncoloned (h : Uncoloned t) (rest : Text) :
    Unended atColon .top none t rest := by
  intro front c back ht htop
  rw [TypeText.isTop_iff] at htop
  by_cases hc : c = ':'
  · subst hc
    rw [Option.or_none]
    -- a colon of a separator has another one next to it, on one side or on the other
    rcases h front back ht htop with hbefore | hbehind
    · simp [atColon, hbefore]
    · rcases List.head?_eq_some_iff.mp hbehind with ⟨r, rfl⟩
      simp [atColon]
  · simp [atColon, hc]

/-- A declaration is cut at the first colon that is no part of a path separator. -/
theorem untilTop_colon (hfront : Depth.top.after none front = .top) (hpaths : Uncoloned front)
    (hlast : front.getLast? ≠ some (.char ':')) (hback : back.head? ≠ some (.char ':')) :
    Depth.untilTop atColon .top none (front ++ .char ':' :: back) = (front, .char ':' :: back) := by
  have hcolon : (Depth.top.isTop && atColon front.getLast? (.char ':' :: back)) = true := by
    simp [Depth.top, Depth.isTop, atColon, hlast, hback]
  rw [Depth.untilTop_append_of_unended (unended_of_uncoloned hpaths _), hfront, Option.or_none,
    Depth.untilTop, if_pos hcolon, List.append_nil]

/-- A text whose colons are all in paths or in brackets is not cut. -/
theorem untilTop_uncoloned (h : Uncoloned t) :
    Depth.untilTop atColon .top none t = (t, []) := by
  have hcut := Depth.untilTop_append_of_unended (unended_of_uncoloned h [])
  rwa [List.append_nil, Depth.untilTop, List.append_nil] at hcut

/-- Whether a declaration has a colon of its own can be computed. -/
theorem uncoloned_iff : Uncoloned t ↔ (Depth.untilTop atColon .top none t).2 = [] := by
  constructor
  · intro h
    rw [untilTop_uncoloned h]
  · intro h front back ht htop
    -- a place that ended the scan would leave its colon in the rest
    have hpassed : Unended atColon .top none t [] := by
      by_contra hended
      rcases Depth.exists_end_of_not_unended hended with ⟨front, c, back, -, -, -, hcut⟩
      rw [List.append_nil] at hcut
      rw [hcut] at h
      cases h
    have hplace := hpassed front ':' back ht (TypeText.isTop_iff.mpr htop)
    simpa [atColon, or_iff_not_imp_right] using hplace

instance (t : Text) : Decidable (Uncoloned t) := decidable_of_iff _ uncoloned_iff.symm

/-! ## Blanks at the ends -/

/-- Blanks in front of a text leave it outside all brackets. -/
theorem after_blanks (hfront : ∀ c ∈ front, isBlank c = true) (t : Text) :
    Depth.top.after none (front ++ t) = Depth.top.after none t := by
  have hstart : Depth.top.after none front = .top :=
    (Depth.leads_of_isPlain fun c hc => TypeText.isPlain_of_isBlank (hfront c hc)).ends
  have hlast : front.getLast?.or none ≠ some (.char '-') := by
    rw [Option.or_none]
    intro hdash
    exact absurd (hfront '-' (List.mem_of_getLast? hdash)) (by decide)
  have hnone : (none : Option CodePoint) ≠ some (.char '-') := by decide
  rw [Depth.after_append, hstart, Depth.after_of_ne_dash hlast hnone]

/-- Blanks at the ends of a text are no part of its path separators. -/
theorem Uncoloned.of_blanks (h : Uncoloned (front ++ (t ++ back)))
    (hfront : ∀ c ∈ front, isBlank c = true) (hback : ∀ c ∈ back, isBlank c = true) :
    Uncoloned t := by
  have hcolon : isBlank ':' ≠ true := by decide
  rintro first rest rfl htop
  have hsplit : front ++ ((first ++ .char ':' :: rest) ++ back) =
      (front ++ first) ++ .char ':' :: (rest ++ back) := by
    simp only [List.append_assoc, List.cons_append]
  rcases h _ _ hsplit (by rw [after_blanks hfront, htop]) with hbefore | hbehind
  · left
    -- the colon next to it is no blank, so it stands in the text itself
    cases hlast : first.getLast? with
    | none =>
      rw [List.getLast?_append, hlast, Option.none_or] at hbefore
      exact absurd (hfront ':' (List.mem_of_getLast? hbefore)) hcolon
    | some c => rwa [List.getLast?_append, hlast, Option.some_or] at hbefore
  · right
    cases rest with
    | nil => exact absurd (hback ':' (List.mem_of_head? hbehind)) hcolon
    | cons c rest => exact hbehind

/-- Of a declaration the blanks at its ends are trimmed off. -/
theorem trim_colon (front back : Text) :
    Text.trim (front ++ .char ':' :: back) =
      Text.trimLeft front ++ .char ':' :: Text.trimRight back := by
  have hcolon : isBlank ':' = false := by decide
  have hlast : (Text.trimLeft front ++ [CodePoint.char ':']).getLast?.any isBlank = false := by
    rw [List.getLast?_concat]
    exact hcolon
  have hleft : Text.trimLeft (front ++ .char ':' :: back) =
      Text.trimLeft front ++ [.char ':'] ++ back := by
    rw [Text.trimLeft_append (u := .char ':' :: back) hcolon, List.append_assoc]
    rfl
  rw [Text.trim, hleft, Text.trimRight_append hlast, List.append_assoc]
  rfl

/-! ## Declarations -/

/-- The type in a declaration is all that stands behind the colon, on one line. -/
theorem value_declaredType (h : Binder front) (htype : Text.allBlank type = false) :
    (declaredType (Text.trim (front ++ (": ".text ++ type)))).value = Text.collapse type := by
  have hfront : ∀ c ∈ front.takeWhile isBlank, isBlank c = true :=
    fun c hc => Text.isBlank_of_mem_takeWhile hc
  have hsplit : front.takeWhile isBlank ++ Text.trimLeft front = front :=
    List.takeWhile_append_dropWhile
  -- the blanks that trimming takes off the front open no bracket
  have hend : Depth.top.after none (Text.trimLeft front) = .top := by
    rw [← after_blanks hfront, hsplit, h.balanced.ends]
  have hpaths : Uncoloned (Text.trimLeft front) := by
    have hwhole : Uncoloned (front.takeWhile isBlank ++ (Text.trimLeft front ++ [])) := by
      rw [List.append_nil, hsplit]
      exact h.paths
    exact hwhole.of_blanks hfront (List.forall_mem_nil _)
  have hlast : (Text.trimLeft front).getLast? ≠ some (.char ':') := by
    intro hcolon
    apply h.last
    rw [← hsplit, List.getLast?_append, hcolon, Option.some_or]
  -- the blank behind the colon parts it from a colon in the type
  rcases Text.exists_trimRight (.char ' ' :: type) with ⟨back, hright, hback⟩
  have hhead : (Text.trimRight (.char ' ' :: type)).head? ≠ some (.char ':') := by
    cases hcase : Text.trimRight (.char ' ' :: type) with
    | nil => simp
    | cons c r =>
      rw [hcase, List.cons_append, List.cons.injEq] at hright
      simp [← hright.1]
  have hspace : ∀ c ∈ [.char ' '], isBlank c = true := List.forall_mem_singleton.mpr (by decide)
  have hcollapse : Text.collapse (Text.trimRight (.char ' ' :: type)) = Text.collapse type := by
    rw [← Text.collapse_append_blanks hback, ← hright]
    exact Text.collapse_blanks_append hspace type
  have hne := Text.collapse_ne_nil htype
  have htrim : Text.trim (front ++ (": ".text ++ type)) =
      Text.trimLeft front ++ .char ':' :: Text.trimRight (.char ' ' :: type) :=
    trim_colon front (.char ' ' :: type)
  unfold declaredType
  rw [htrim, untilTop_colon hend hpaths hlast hhead]
  show (if (Text.collapse (Text.trimRight (.char ' ' :: type))).isEmpty = true then _ else _) = _
  rw [hcollapse, if_neg (by simpa using hne)]
  exact hcollapse

/-- A declaration without a colon stands for itself. -/
theorem value_declaredType_uncoloned (h : Uncoloned t) : (declaredType t).value = t := by
  unfold declaredType
  rw [untilTop_uncoloned h]
  rfl

/-- The type of a declared name is all that stands behind the first colon of the first block that is
outside all brackets and belongs to no path separator, on one line; without such a colon it is the
whole block. Neither the prose around nor a block behind it makes a difference. -/
theorem bindingType_of_firstBlock (h : FirstBlock content code) :
    (∀ front type, code = front ++ (": ".text ++ type) → Binder front →
        Text.allBlank type = false → (bindingType content).value = some (Text.collapse type)) ∧
      (Text.trim code ≠ [] → Uncoloned code →
        (bindingType content).value = some (Text.trim code)) ∧
      ∀ lead info back, Unfenced lead → NamesLanguage info → Unfenced code →
        (bindingType (lead ++ (fenced info code ++ back))).value = (bindingType content).value := by
  refine ⟨?_, ?_, ?_⟩
  · rintro front type rfl hbinder htype
    -- the colon is ink, so the block is not blank
    have hne : Text.trim (front ++ (": ".text ++ type)) ≠ [] := by
      have htrim := trim_colon front (.char ' ' :: type)
      exact fun hnil => absurd (htrim.symm.trans hnil) (by simp)
    rw [value_bindingType h, if_neg hne, value_declaredType hbinder htype]
  · intro hne hpaths
    -- a block without a type colon is returned trimmed, and trimming adds no colon
    rcases Text.exists_trim code with ⟨front, back, hsplit, hfront, hback⟩
    rw [hsplit] at hpaths
    rw [value_bindingType h, if_neg hne,
      value_declaredType_uncoloned (hpaths.of_blanks hfront hback)]
  · intro lead info back hlead hinfo hcode
    rw [value_bindingType h, value_bindingType (firstBlock_fenced hlead hinfo hcode back)]

/-- A name with a path and a closure in front of the colon, and its type on two lines. -/
def closureBinder : Text := "static <F as Fn(k: u8) -> u8>::STEP".text

/-- A reference type, written on two lines. -/
def closureType : Text := "&Stream<(u8, u8),\n    Process<'a, P1>>".text

/-- A declaration between prose and another block. -/
def hoverAround (code : Text) : Text :=
  "Seen at \x60app.rs:7\x60\n".text ++ (fenced "rust".text code ++
    (.char '\n' :: fenced "rust".text "let other: u8".text))

/-- A type on two lines behind a path with a closure, and a block with no colon but those of a path.
-/
theorem bindingType_of_firstBlock_closure :
    FirstBlock (hoverAround (closureBinder ++ (": ".text ++ closureType)))
        (closureBinder ++ (": ".text ++ closureType)) ∧
      Binder closureBinder ∧ Text.allBlank closureType = false ∧
      (bindingType (hoverAround (closureBinder ++ (": ".text ++ closureType)))).value =
        some "&Stream<(u8, u8), Process<'a, P1>>".text ∧
      FirstBlock (hoverAround "use app::flow::Leader ".text) "use app::flow::Leader ".text ∧
      Uncoloned "use app::flow::Leader ".text ∧
      (bindingType (hoverAround "use app::flow::Leader ".text)).value =
        some "use app::flow::Leader".text := by
  have hlead : Unfenced "Seen at \x60app.rs:7\x60\n".text := by decide
  have hinfo : NamesLanguage "rust".text := namesLanguage_iff.mpr (by decide)
  have hclosure : FirstBlock (hoverAround (closureBinder ++ (": ".text ++ closureType)))
      (closureBinder ++ (": ".text ++ closureType)) :=
    firstBlock_fenced hlead hinfo (by decide) _
  have hpath : FirstBlock (hoverAround "use app::flow::Leader ".text)
      "use app::flow::Leader ".text := firstBlock_fenced hlead hinfo (by decide) _
  have hbinder : Binder closureBinder := ⟨by decide, by decide, by decide⟩
  have htype : Text.allBlank closureType = false := by decide
  have huncoloned : Uncoloned "use app::flow::Leader ".text := by decide
  -- the colons in the closure's brackets and in the path are passed
  have hbound := (bindingType_of_firstBlock hclosure).1 _ _ rfl hbinder htype
  have hwhole := (bindingType_of_firstBlock hpath).2.1 (by decide) huncoloned
  exact ⟨hclosure, hbinder, htype, hbound, hpath, huncoloned, hwhole⟩

end Placement.Hover
