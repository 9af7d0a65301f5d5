import Placement.Hover.Signature
import Placement.Proofs.Words

/-!
# Placement.Proofs.Hover.Method — the type that a hover gives a method

The first code block that has a return type decides (`value_methodType`). The type is
made `concrete` in three steps: a bare `Self` through the header of the impl, type
parameters by footnotes, and the names of location bounds by bindings. A type is left
as it is where the hover has no footnotes (`substitute_nil`) and binds no name in it
(`substituteBounds_of_unbound`), and neither step takes an angle bracket away
(`mem_substitute`, `mem_substituteBounds`).
-/

namespace Placement.Hover

open Text (Pattern IsWord)

variable {content block written t : Text} {notes : Bindings}

/-! ## The block that decides -/

/-- The first block with a result decides. -/
theorem value_firstResult (step : Text → Logged (Option Text)) (contents : List Text) :
    (firstResult step contents).value = contents.findSome? fun c => (step c).value := by
  induction contents with
  | nil => rfl
  | cons c more ih =>
    rw [firstResult, List.findSome?_cons, Logged.value_bind]
    cases (step c).value with
    | some t => rfl
    | none => exact ih

/-- No code block of the hover in front of this one has a return type. -/
def FirstTyped (content block : Text) : Prop :=
  ∃ front rest, codeBlocks content = front ++ block :: rest ∧
    ∀ b ∈ front, (returnType b).value = none

/-- A return type as it is written in a block, made concrete. -/
def concrete (notes : Bindings) (content block written : Text) : Text :=
  let clause := whereClause block
  let t := (resolveSelf notes block content (resolveAssociated notes clause written)).value
  (substituteBounds content (locationBound.findAll clause) none (substitute notes t)).value

/-- The return type of a block is made concrete when there is one. -/
theorem value_concreteReturnType (notes : Bindings) (content block : Text) :
    (concreteReturnType notes content block).value =
      (returnType block).value.map (concrete notes content block) := by
  unfold concreteReturnType
  rw [Logged.value_bind]
  cases (returnType block).value <;> rfl

/-- The type of a method is that of the first block with a return type, made concrete. -/
theorem value_methodType (hfirst : FirstTyped content block)
    (hwritten : (returnType block).value = some written) :
    (methodType content).value = some (concrete (footnotes content) content block written) := by
  rcases hfirst with ⟨front, rest, hblocks, hfront⟩
  have hnone : front.findSome? (fun b => (concreteReturnType (footnotes content) content b).value) =
      none := by
    rw [List.findSome?_eq_none_iff]
    intro b hb
    rw [value_concreteReturnType, hfront b hb, Option.map_none]
  unfold methodType
  rw [value_firstResult, hblocks, List.findSome?_append, hnone, Option.none_or,
    List.findSome?_cons, value_concreteReturnType, hwritten, Option.map_some]

/-! ## Substitution -/

/-- A word that is replaced holds no character that is not part of a word. -/
theorem not_mem_of_isWord {w : Text} {x : CodePoint} (hw : IsWord w) (hx : Text.isWord x = false) :
    x ∉ w := by
  intro hmem
  rw [hw.chars x hmem] at hx
  cases hx

/-- Putting in footnotes takes no character away that is not part of a word. -/
theorem mem_substitute {x : CodePoint} (hx : Text.isWord x = false) (hmem : x ∈ t) :
    x ∈ substitute notes t := by
  refine Pattern.mem_replaceAll ?_ hmem
  intro before t new rest hread
  rcases Option.map_eq_some_iff.mp hread with ⟨⟨word, behind⟩, hword, hpair⟩
  cases hpair
  rcases Text.of_capitalizedWord hword with ⟨hw, ht⟩
  exact ⟨word, hw.nonempty, not_mem_of_isWord hw hx, ht⟩

/-- Without footnotes nothing is substituted. -/
theorem substitute_nil (t : Text) : substitute [] t = t := by
  refine Pattern.replaceAll_eq_self t ?_
  intro before t new rest hread
  rcases Option.map_eq_some_iff.mp hread with ⟨⟨word, behind⟩, hword, hpair⟩
  cases hpair
  rcases Text.of_capitalizedWord hword with ⟨hw, ht⟩
  exact ⟨hw.nonempty, ht⟩

/-- Replacing a word takes no character away that is not part of a word. -/
theorem mem_replaceWord {w value : Text} {x : CodePoint} (hw : IsWord w)
    (hx : Text.isWord x = false) (hmem : x ∈ t) : x ∈ replaceWord w value t := by
  refine Pattern.mem_replaceAll ?_ hmem
  intro before t new rest hread
  rcases Option.map_eq_some_iff.mp hread with ⟨⟨word, behind⟩, hword, hpair⟩
  cases hpair
  rcases (Text.wholeWord_eq_some_iff hw).mp hword with ⟨-, ht, -⟩
  exact ⟨w, hw.nonempty, not_mem_of_isWord hw hx, ht⟩

/-- The name of a location bound is a word. -/
theorem isWord_of_mem_findAll {clause name : Text} (h : name ∈ locationBound.findAll clause) :
    IsWord name := by
  rcases Pattern.exists_of_mem_findFrom h with ⟨front, c, back, rest, -, hread⟩
  unfold locationBound at hread
  rcases Option.bind_eq_some_iff.mp hread with ⟨⟨word, behind⟩, hword, hread⟩
  rcases Option.bind_eq_some_iff.mp hread with ⟨r, -, hread⟩
  rcases Option.bind_eq_some_iff.mp hread with ⟨r', -, hread⟩
  cases hread
  exact (Text.of_capitalizedWord hword).1

variable {names : List Text} {known : Option Bindings}

/-- A name that occurs is replaced by what the hover binds to it, or left when that is nothing. -/
theorem value_substituteBounds_cons {name : Text} (hword : hasWord name t = true)
    (hknown : known.getD (metadata content).value = (metadata content).value)
    (names : List Text) :
    (substituteBounds content (name :: names) known t).value =
      (substituteBounds content names (some (metadata content).value)
        ((((metadata content).value.get? name).map fun value =>
          replaceWord name value t).getD t)).value := by
  -- the bindings are read here, or were read for a name before this one
  rw [substituteBounds, if_pos hword]
  cases hvalue : (metadata content).value.get? name with
  | none =>
    cases known with
    | none => simp only [Logged.value_bind, hvalue, Option.map_none, Option.getD_none]
    | some bindings =>
      rw [Option.getD_some] at hknown
      simp only [hknown, Logged.pure_bind, hvalue, Option.map_none, Option.getD_none]
  | some value =>
    cases known with
    | none => simp only [Logged.value_bind, hvalue, Option.map_some, Option.getD_some]
    | some bindings =>
      rw [Option.getD_some] at hknown
      simp only [hknown, Logged.pure_bind, hvalue, Option.map_some, Option.getD_some]

/-- Putting in bindings takes no character away that is not part of a word. -/
theorem mem_substituteBounds {x : CodePoint} (hnames : ∀ w ∈ names, IsWord w)
    (hx : Text.isWord x = false)
    (hknown : known.getD (metadata content).value = (metadata content).value) (hmem : x ∈ t) :
    x ∈ (substituteBounds content names known t).value := by
  -- a replacement changes the text, so the induction is over the names for all texts
  induction names generalizing known t with
  | nil => exact hmem
  | cons name more ih =>
    rcases List.forall_mem_cons.mp hnames with ⟨hname, hmore⟩
    by_cases hword : hasWord name t = true
    · rw [value_substituteBounds_cons hword hknown]
      refine ih hmore rfl ?_
      cases (metadata content).value.get? name with
      | some value => exact mem_replaceWord hname hx hmem
      | none => exact hmem
    · rw [substituteBounds, if_neg hword]
      exact ih hmore hknown hmem

/-- A type is left as it is when the hover binds none of the names that occur in it. -/
theorem substituteBounds_of_unbound
    (h : ∀ w ∈ names, hasWord w t = true → (metadata content).value.get? w = none)
    (hknown : known.getD (metadata content).value = (metadata content).value) :
    (substituteBounds content names known t).value = t := by
  induction names generalizing known with
  | nil => rfl
  | cons name more ih =>
    rcases List.forall_mem_cons.mp h with ⟨hname, hmore⟩
    by_cases hword : hasWord name t = true
    · rw [value_substituteBounds_cons hword hknown, hname hword]
      exact ih hmore rfl
    · rw [substituteBounds, if_neg hword]
      exact ih hmore hknown

end Placement.Hover
