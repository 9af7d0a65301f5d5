import Placement.Proofs.TypeText.Grammar
import Placement.Proofs.Words
import Placement.TypeText.Collection

/-!
# Placement.Proofs.TypeText.Collection — what says whether a collection ends

The parameters of a collection type are read back as they are
(`value_collectionParameters_generic`). Its boundedness and its ordering stand behind the
other ones, but all parameters are asked from left to right, and each by how it begins or
by what it contains. So they are found exactly when the first other parameter that names a
boundedness, or an ordering, in this way names the same one (`boundedness_ordering_iff`).
-/

namespace Placement.TypeText

open Depth (Leads)

variable {p name : Text} {parts : List Text} {m : Boundedness} {o : Ordering}

/-! ## Names -/

/-- A parameter begins like a boundedness, or is a word that stands for one. -/
def NamesBoundedness (p : Text) : Boundedness → Prop
  | .bounded => Boundedness.bounded.name <+: p
  | .unbounded => Boundedness.unbounded.name <+: p ∨ beginsWithWord 'B' p = true

/-- A parameter contains an ordering, or begins with a word that stands for one. -/
def NamesOrdering (p : Text) : Ordering → Prop
  | .totalOrder => Ordering.totalOrder.name <:+: p
  | .noOrder => ¬ Ordering.totalOrder.name <:+: p ∧
      (Ordering.noOrder.name <:+: p ∨ beginsWithWord 'O' p = true)

/-- The first of some parameters that names anything names this. -/
def FirstNamed {α : Type} (Names : Text → α → Prop) (parts : List Text) (a : α) : Prop :=
  ∃ front p back, parts = front ++ p :: back ∧ Names p a ∧ ∀ q ∈ front, ∀ b, ¬ Names q b

/-- No parameter names both: one that begins like the first neither begins like the second nor is
the word for it. -/
theorem not_namesBoundedness_unbounded (h : NamesBoundedness p .bounded) :
    ¬ NamesBoundedness p .unbounded := by
  rcases h with ⟨r, rfl⟩
  rintro (⟨s, hs⟩ | hword)
  · exact absurd (List.cons.inj hs).1 (by decide)
  · have hgoesOn : beginsWithWord 'B' (Boundedness.bounded.name ++ r) = !Text.isWord 'o' := rfl
    rw [hgoesOn, Text.isWord_of_isIdent (by decide)] at hword
    exact Bool.false_ne_true hword

/-- A parameter is asked for the boundedness that it names. -/
theorem boundednessOf?_eq_some_iff (hp : Text.trim p = p) :
    boundednessOf? p = some m ↔ NamesBoundedness p m := by
  unfold boundednessOf?
  simp only [hp, Text.startsWith_eq_true_iff]
  -- the tests come in this order: `Bounded` in front, then `Unbounded`, then the word `B`
  by_cases hbounded : Boundedness.bounded.name <+: p
  · rw [if_pos hbounded]
    cases m with
    | bounded => exact iff_of_true rfl hbounded
    | unbounded => exact iff_of_false (by decide) (not_namesBoundedness_unbounded hbounded)
  · rw [if_neg hbounded]
    cases m with
    | bounded =>
      refine iff_of_false ?_ hbounded
      split
      · decide
      · split <;> decide
    | unbounded =>
      by_cases hunbounded : Boundedness.unbounded.name <+: p
      · rw [if_pos hunbounded]
        exact iff_of_true rfl (Or.inl hunbounded)
      · rw [if_neg hunbounded]
        by_cases hword : beginsWithWord 'B' p = true
        · rw [if_pos hword]
          exact iff_of_true rfl (Or.inr hword)
        · rw [if_neg hword]
          exact iff_of_false (by decide) (not_or.mpr ⟨hunbounded, hword⟩)

/-- A parameter is asked for the ordering that it names. -/
theorem orderingOf?_eq_some_iff (hp : Text.trim p = p) :
    orderingOf? p = some o ↔ NamesOrdering p o := by
  unfold orderingOf?
  simp only [hp, Text.contains_eq_true_iff]
  by_cases htotal : Ordering.totalOrder.name <:+: p
  · rw [if_pos htotal]
    cases o with
    | totalOrder => exact iff_of_true rfl htotal
    | noOrder => exact iff_of_false (by decide) fun h => h.1 htotal
  · rw [if_neg htotal]
    cases o with
    | totalOrder =>
      refine iff_of_false ?_ htotal
      split
      · decide
      · split <;> decide
    | noOrder =>
      by_cases hnone : Ordering.noOrder.name <:+: p
      · rw [if_pos hnone]
        exact iff_of_true rfl ⟨htotal, Or.inl hnone⟩
      · rw [if_neg hnone]
        by_cases hword : beginsWithWord 'O' p = true
        · rw [if_pos hword]
          exact iff_of_true rfl ⟨htotal, Or.inr hword⟩
        · rw [if_neg hword]
          exact iff_of_false (by decide) fun h => h.2.elim hnone hword

/-! ## The first name -/

/-- What is found first is what is named first. -/
theorem findSome?_eq_some_iff_firstNamed {α : Type} {f : Text → Option α}
    {Names : Text → α → Prop} {a : α} (h : ∀ p ∈ parts, ∀ b, f p = some b ↔ Names p b) :
    parts.findSome? f = some a ↔ FirstNamed Names parts a := by
  rw [List.findSome?_eq_some_iff]
  refine exists_congr fun front => exists_congr fun p => exists_congr fun back =>
    and_congr_right ?_
  rintro rfl
  refine and_congr (h p (by simp) a) ?_
  refine forall_congr' fun q => forall_congr' fun hq => ?_
  have hall := h q (List.mem_append_left _ hq)
  rw [Option.eq_none_iff_forall_ne_some]
  exact forall_congr' fun b => not_congr (hall b)

/-- What is found first is what stands behind some parameters, unless they name something else. -/
theorem findSome?_append_eq_some_iff {α : Type} {f : Text → Option α} {Names : Text → α → Prop}
    {rest : List Text} {a : α} (h : ∀ p ∈ parts, ∀ b, f p = some b ↔ Names p b)
    (hrest : rest.findSome? f = some a) :
    (parts ++ rest).findSome? f = some a ↔ ∀ b, FirstNamed Names parts b → b = a := by
  simp only [← findSome?_eq_some_iff_firstNamed h, List.findSome?_append, hrest]
  cases parts.findSome? f with
  | none => simp
  | some b => simp

/-! ## Collection types -/

/-- The outermost bracket of a generic type holds its parameters. -/
theorem outermostBody?_generic (hn : .char '<' ∉ name) (hne : name ≠ []) (body : Text) :
    outermostBody? (name ++ .char '<' :: (body ++ [.char '>'])) = some body := by
  rcases List.exists_cons_of_ne_nil hne with ⟨c, r, rfl⟩
  unfold outermostBody?
  rw [Text.span_ne_append hn]
  exact Text.before?_eq_some_iff.mpr rfl

/-- The parameters of a collection type are read back. -/
theorem value_collectionParameters_generic (c : Container) (h : ∀ p ∈ parts, Part p)
    (hclosed : ∀ p ∈ parts, Leads .top none p .top) (hne : parts ≠ []) :
    (collectionParameters (generic c.name parts)).value = parts := by
  have hread : parameters (join parts) = parts :=
    parameters_join h (fun p hp => (hclosed p (List.dropLast_subset parts hp)).ends) hne
  -- parts there are, so the joined text is not empty
  have hbody : (join parts).isEmpty = false := by
    cases hcase : join parts with
    | nil =>
      rw [hcase] at hread
      exact absurd hread.symm hne
    | cons c r => rfl
  have hname : .char '<' ∉ c.name ∧ c.name ≠ [] ∧ c.name.head?.any Text.isBlank = false := by
    cases c <;> decide
  -- the text starts with a name and ends with a bracket: there is nothing to trim
  have htrim : Text.trim (generic c.name parts) = generic c.name parts := by
    refine Text.trim_eq_self ?_ ?_
    · rcases List.exists_cons_of_ne_nil hname.2.1 with ⟨x, r, hx⟩
      rw [generic, hx]
      rw [hx] at hname
      exact hname.2.2
    · rw [getLast?_generic]
      rfl
  unfold collectionParameters
  rw [htrim, generic, outermostBody?_generic hname.1 hname.2.1]
  simp only [hbody]
  exact hread

theorem balanced_names (m : Boundedness) (o : Ordering) :
    ∀ p ∈ [m.name, o.name], Balanced p := by
  cases m <;> cases o <;> decide

/-- The boundedness and the ordering of a collection type are those that stand behind its other
parameters exactly when the first of these that names one, if any does, names the same. -/
theorem boundedness_ordering_iff (c : Container) (parts : List Text) (m : Boundedness)
    (o : Ordering) (h : ∀ p ∈ parts, Part p) (hclosed : ∀ p ∈ parts, Leads .top none p .top) :
    let params := (collectionParameters (generic c.name (parts ++ [m.name, o.name]))).value
    params = parts ++ [m.name, o.name] ∧
    (boundedness? params = some m ↔ ∀ m', FirstNamed NamesBoundedness parts m' → m' = m) ∧
    (ordering? params = some o ↔ ∀ o', FirstNamed NamesOrdering parts o' → o' = o) := by
  have hnames := balanced_names m o
  have hread : (collectionParameters (generic c.name (parts ++ [m.name, o.name]))).value =
      parts ++ [m.name, o.name] := by
    refine value_collectionParameters_generic c ?_ ?_ (by simp)
    · exact List.forall_mem_append.mpr ⟨h, fun p hp => (hnames p hp).single.part⟩
    · exact List.forall_mem_append.mpr ⟨hclosed, fun p hp => (hnames p hp).closed⟩
  -- behind the other parameters each of the two names what it should, and nothing else
  have hboundedness : [m.name, o.name].findSome? boundednessOf? = some m := by
    cases m <;> rfl
  have hordering : [m.name, o.name].findSome? orderingOf? = some o := by
    cases m <;> cases o <;> rfl
  rw [hread]
  refine ⟨rfl, ?_, ?_⟩
  · exact findSome?_append_eq_some_iff (fun p hp _ => boundednessOf?_eq_some_iff (h p hp).trim)
      hboundedness
  · exact findSome?_append_eq_some_iff (fun p hp _ => orderingOf?_eq_some_iff (h p hp).trim)
      hordering

/-- Parameters that name neither a boundedness nor an ordering. -/
def pairAndPlace : List Text := ["(String, u32)".text, "Process<'a, Leader>".text]

/-- A stream with such parameters. -/
def pairStream : Text := "Stream<(String, u32), Process<'a, Leader>, Bounded, NoOrder>".text

/-- A tuple and a location name neither, so that the last two parameters are found. -/
theorem boundedness_ordering_iff_pairStream :
    (∀ p ∈ pairAndPlace, Part p) ∧ (∀ p ∈ pairAndPlace, Leads .top none p .top) ∧
    generic Container.stream.name
      (pairAndPlace ++ [Boundedness.bounded.name, Ordering.noOrder.name]) = pairStream ∧
    boundedness? (collectionParameters pairStream).value = some .bounded ∧
    ordering? (collectionParameters pairStream).value = some .noOrder := by
  have hbalanced : ∀ p ∈ pairAndPlace, Balanced p := by decide
  have hparts : ∀ p ∈ pairAndPlace, Part p := fun p hp => (hbalanced p hp).single.part
  have hclosed : ∀ p ∈ pairAndPlace, Leads .top none p .top := fun p hp => (hbalanced p hp).closed
  have htext : generic Container.stream.name
      (pairAndPlace ++ [Boundedness.bounded.name, Ordering.noOrder.name]) = pairStream := by
    decide
  rcases boundedness_ordering_iff .stream pairAndPlace .bounded .noOrder hparts hclosed with
    ⟨-, hboundedness, hordering⟩
  rw [htext] at hboundedness hordering
  refine ⟨hparts, hclosed, htext, hboundedness.mpr ?_, hordering.mpr ?_⟩
  · -- no part in front names a boundedness
    intro m hm
    have hfirst := (findSome?_eq_some_iff_firstNamed fun p hp _ =>
      boundednessOf?_eq_some_iff (hparts p hp).trim).mpr hm
    exact absurd hfirst (by cases m <;> decide)
  · -- nor an ordering
    intro o ho
    have hfirst := (findSome?_eq_some_iff_firstNamed fun p hp _ =>
      orderingOf?_eq_some_iff (hparts p hp).trim).mpr ho
    exact absurd hfirst (by cases o <;> decide)

/-- Parameters of which the first begins like a boundedness and contains an ordering. -/
def queueAndPlace : List Text :=
  ["BoundedQueue<NoOrderPolicy>".text, "Process<'a, Leader>".text]

/-- A stream with such parameters. -/
def queueStream : Text :=
  "Stream<BoundedQueue<NoOrderPolicy>, Process<'a, Leader>, Unbounded, TotalOrder>".text

/-- The name of the element type decides, whatever stands behind it. -/
theorem queueStream_misread :
    (∀ p ∈ queueAndPlace, Balanced p) ∧
    generic Container.stream.name
      (queueAndPlace ++ [Boundedness.unbounded.name, Ordering.totalOrder.name]) = queueStream ∧
    boundedness? (collectionParameters queueStream).value = some .bounded ∧
    ordering? (collectionParameters queueStream).value = some .noOrder := by
  decide

end Placement.TypeText
