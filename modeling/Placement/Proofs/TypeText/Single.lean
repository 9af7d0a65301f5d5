import Placement.Proofs.Brackets
import Placement.TypeText.Parameters

/-!
# Placement.Proofs.TypeText.Single — what is read as one parameter

A parameter list is cut at the commas outside of all brackets, and a text is `Uncut`
when it has none: cutting a text gives its `Stretches` (`stretches_cutAtCommas`). Every
parameter of a list is a `Part`, whatever brackets the list leaves open or closes too
often (`part_of_mem_parameters`): it is trimmed and uncut. When no angle bracket in the
list closes without having been opened, none does in its parameters, and they are
`Single` (`single_of_mem_parameters`). They may still leave brackets open, close too
many parentheses, or end in the dash of an arrow.

Parts that are joined are cut into the same parts again when all but the last one close
their brackets (`parameters_join`).
-/

namespace Placement.TypeText

open Depth (KeepsAngles Leads isPlain keepsAngles_append_iff)

variable {d : Depth} {before : Option CodePoint} {t u p : Text} {parts qs : List Text}

/-! ## Commas -/

/-- No comma of the text stands outside all brackets. -/
def Uncut (d : Depth) (before : Option CodePoint) (t : Text) : Prop :=
  ∀ front rest, t = front ++ .char ',' :: rest → d.after before front ≠ .top

/-- A text is uncut when no place of it is a comma at the top depth. -/
theorem uncut_iff_places :
    Uncut d before t ↔
      ∀ (front : Text) (c : CodePoint) (rest : Text), t = front ++ c :: rest → c = ',' →
        d.after before front ≠ .top := by
  constructor
  · rintro h front c rest ht rfl
    exact h front rest ht
  · intro h front rest ht
    exact h front _ rest ht rfl

/-- The first comma counts where the text begins, and the others behind it. -/
theorem uncut_cons_iff {c : CodePoint} :
    Uncut d before (c :: t) ↔ (c = ',' → d ≠ .top) ∧ Uncut (d.next before c) (some c) t := by
  rw [uncut_iff_places, Text.forall_places_cons_iff, uncut_iff_places]
  rfl

instance decidableUncut : (d : Depth) → (before : Option CodePoint) → (t : Text) →
    Decidable (Uncut d before t)
  | _, _, [] => .isTrue fun front _ h => absurd h (by simp)
  | d, before, c :: r =>
    have := decidableUncut (d.next before c) (some c) r
    decidable_of_iff _ uncut_cons_iff.symm

theorem uncut_of_not_mem (h : .char ',' ∉ t) : Uncut d before t := by
  rintro front rest rfl
  exact absurd (List.mem_append_right front List.mem_cons_self) h

/-- Two texts are uncut when the first one is, and the second one where the first one leads. -/
theorem uncut_append_iff :
    Uncut d before (t ++ u) ↔
      Uncut d before t ∧ Uncut (d.after before t) (t.getLast?.or before) u := by
  induction t generalizing d before with
  | nil => exact (and_iff_right (uncut_of_not_mem List.not_mem_nil)).symm
  | cons c r ih =>
    rw [List.cons_append, uncut_cons_iff, uncut_cons_iff, ih, Depth.after, Text.getLast?_cons_or,
      and_assoc]

theorem Uncut.append (ht : Uncut d before t)
    (hu : Uncut (d.after before t) (t.getLast?.or before) u) : Uncut d before (t ++ u) :=
  uncut_append_iff.mpr ⟨ht, hu⟩

/-- For a text that does not begin with a closing bracket the character before is of no account. -/
theorem Uncut.behind (huncut : Uncut d before t) (h : t.head? ≠ some (.char '>'))
    (before' : Option CodePoint) : Uncut d before' t := by
  cases t with
  | nil => exact uncut_of_not_mem List.not_mem_nil
  | cons c r =>
    have hc : c ≠ '>' := by simpa using h
    rw [uncut_cons_iff, Depth.next_behind hc] at huncut ⊢
    exact huncut

/-- Two characters before a text that are no dashes make no difference to its commas. -/
theorem Uncut.of_ne_dash {before' : Option CodePoint} (huncut : Uncut d before t)
    (h : before ≠ some (.char '-')) (h' : before' ≠ some (.char '-')) : Uncut d before' t := by
  intro front rest ht
  rw [Depth.after_of_ne_dash h' h]
  exact huncut front rest ht

/-- Inside a further angle bracket every comma is. -/
theorem uncut_deepen (h : KeepsAngles d before t) : Uncut (d.deepen ⟨1, 0⟩) before t := by
  rintro front rest rfl
  -- a depth inside a further bracket has an open one, so it is not outside of all
  rw [((keepsAngles_append_iff.mp h).1.deepen 1).2]
  intro htop
  have hangle := congrArg Depth.angle htop
  simp [Depth.deepen, Depth.top] at hangle

theorem isTop_iff : d.isTop = true ↔ d = .top := by
  cases d
  simp [Depth.isTop, Depth.top]

/-- Cutting gives one piece at least. -/
theorem cutAtCommas_ne_nil : cutAtCommas d before t ≠ [] := by
  cases t with
  | nil => exact List.cons_ne_nil [] []
  | cons c r =>
    unfold cutAtCommas
    split
    · exact List.cons_ne_nil _ _
    · cases cutAtCommas (d.next before c) (some c) r <;> exact List.cons_ne_nil _ _

/-- A space in front of a text is trimmed off its first piece. -/
theorem map_trim_cutAtCommas_space :
    (cutAtCommas .top before (.char ' ' :: t)).map Text.trim =
      (cutAtCommas .top (some (.char ' ')) t).map Text.trim := by
  have hnext : Depth.top.next before ' ' = .top := rfl
  rw [cutAtCommas, if_neg (by decide), hnext]
  cases hcut : cutAtCommas .top (some (.char ' ')) t with
  | nil => exact absurd hcut cutAtCommas_ne_nil
  | cons q qs => rfl

/-- An uncut text is one piece. -/
theorem cutAtCommas_of_uncut (h : Uncut d before t) : cutAtCommas d before t = [t] := by
  induction t generalizing d before with
  | nil => rfl
  | cons c r ih =>
    rw [uncut_cons_iff] at h
    have hno : ¬ (c = ',' ∧ d.isTop = true) := fun hc => h.1 hc.1 (isTop_iff.mp hc.2)
    rw [cutAtCommas, if_neg hno, ih h.2]

/-- A text without commas outside its brackets is cut off at the comma behind it. -/
theorem cutAtCommas_append (h : Uncut d before t) (hend : d.after before t = .top) (rest : Text) :
    cutAtCommas d before (t ++ .char ',' :: rest) =
      t :: cutAtCommas .top (some (.char ',')) rest := by
  induction t generalizing d before with
  | nil =>
    have hd : d = .top := hend
    subst hd
    rfl
  | cons c r ih =>
    rw [uncut_cons_iff] at h
    have hno : ¬ (c = ',' ∧ d.isTop = true) := fun hc => h.1 hc.1 (isTop_iff.mp hc.2)
    rw [List.cons_append, cutAtCommas, if_neg hno, ih h.2 hend]

/-- A text is cut at its first comma outside of all brackets, or not at all. -/
theorem cutAtCommas_cases (d : Depth) (before : Option CodePoint) (t : Text) :
    (Uncut d before t ∧ cutAtCommas d before t = [t]) ∨
      ∃ front rest, t = front ++ .char ',' :: rest ∧ Uncut d before front ∧
        d.after before front = .top ∧
        cutAtCommas d before t = front :: cutAtCommas .top (some (.char ',')) rest := by
  induction t generalizing d before with
  | nil => exact Or.inl ⟨uncut_of_not_mem List.not_mem_nil, rfl⟩
  | cons c r ih =>
    by_cases hcomma : c = ',' ∧ d = .top
    · rcases hcomma with ⟨rfl, rfl⟩
      exact Or.inr ⟨[], r, rfl, uncut_of_not_mem List.not_mem_nil, rfl, rfl⟩
    · have hhead : c = ',' → d ≠ .top := not_and.mp hcomma
      rcases ih (d.next before c) (some c) with ⟨huncut, -⟩ | ⟨front, rest, rfl, huncut, hend, -⟩
      · have hall := uncut_cons_iff.mpr ⟨hhead, huncut⟩
        exact Or.inl ⟨hall, cutAtCommas_of_uncut hall⟩
      · have hfront := uncut_cons_iff.mpr ⟨hhead, huncut⟩
        exact Or.inr ⟨c :: front, rest, rfl, hfront, hend, cutAtCommas_append hfront hend rest⟩

/-! ## Stretches -/

/-- The stretches of a text between its commas outside of all brackets. -/
inductive Stretches : Text → List Text → Prop
  | last {t : Text} (h : Uncut .top none t) : Stretches t [t]
  | more {front rest : Text} {qs : List Text} (h : Uncut .top none front)
      (hend : Depth.top.after none front = .top) (hrest : Stretches rest qs) :
      Stretches (front ++ .char ',' :: rest) (front :: qs)

/-- Cutting at the commas gives the stretches, behind any character that is no dash. -/
theorem stretches_cutAtCommas (hbefore : before ≠ some (.char '-')) :
    Stretches t (cutAtCommas .top before t) := by
  -- on the length: behind each comma the rest is cut in the same way
  induction hn : t.length using Nat.strongRecOn generalizing t before with
  | ind n ih =>
    rcases cutAtCommas_cases .top before t with
      ⟨huncut, hcut⟩ | ⟨front, rest, hsplit, huncut, hend, hcut⟩
    · rw [hcut]
      exact .last (huncut.of_ne_dash hbefore (by decide))
    · have hshorter : rest.length < n := by
        rw [← hn, hsplit, List.length_append, List.length_cons]
        omega
      rw [Depth.after_of_ne_dash hbefore (by decide : none ≠ some (CodePoint.char '-'))] at hend
      rw [hcut, hsplit]
      exact .more (huncut.of_ne_dash hbefore (by decide)) hend
        (ih rest.length hshorter (by decide) rfl)

theorem stretches_cutAtCommas_none (t : Text) : Stretches t (cutAtCommas .top none t) :=
  stretches_cutAtCommas (by decide)

namespace Stretches

/-- No stretch has a comma outside its brackets. -/
theorem uncut (h : Stretches t qs) : ∀ q ∈ qs, Uncut .top none q := by
  induction h with
  | last huncut => exact List.forall_mem_singleton.mpr huncut
  | more huncut _ _ ih => exact List.forall_mem_cons.mpr ⟨huncut, ih⟩

/-- All but the last stretch close their brackets. -/
theorem ends (h : Stretches t qs) : ∀ q ∈ qs.dropLast, Depth.top.after none q = .top := by
  induction h with
  | last _ => exact List.forall_mem_nil _
  | more _ hend hrest ih =>
    cases hrest with
    | last _ => exact List.forall_mem_singleton.mpr hend
    | more _ _ _ => exact List.forall_mem_cons.mpr ⟨hend, ih⟩

/-- In no stretch an angle bracket closes that was not opened, if none does in the text. -/
theorem keeps (h : Stretches t qs) (hkeeps : KeepsAngles .top none t) :
    ∀ q ∈ qs, KeepsAngles .top none q := by
  induction h with
  | last _ => exact List.forall_mem_singleton.mpr hkeeps
  | more _ hend _ ih =>
    rw [keepsAngles_append_iff, Depth.keepsAngles_cons_iff, hend] at hkeeps
    have hrest := hkeeps.2.2.behind (hkeeps.2.2.head?_ne rfl (by decide)) none
    exact List.forall_mem_cons.mpr ⟨hkeeps.1, ih hrest⟩

end Stretches

/-! ## Trimming -/

/-- No blank is a bracket. -/
theorem isPlain_of_isBlank {c : CodePoint} (h : Text.isBlank c = true) : isPlain c = true := by
  rw [isPlain, Bool.not_eq_true', ← Bool.not_eq_true, List.contains_iff_mem]
  intro hmem
  simp only [List.mem_cons, List.not_mem_nil, or_false] at hmem
  rcases hmem with rfl | rfl | rfl | rfl <;> exact absurd h (by decide)

/-- What trimming takes off a text neither nests nor is a dash. -/
theorem exists_trim_scan (t : Text) :
    ∃ front back, t = front ++ (Text.trim t ++ back) ∧ Leads .top none front .top ∧
      front.getLast?.or none ≠ some (.char '-') ∧ ∀ c ∈ back, isPlain c = true := by
  rcases Text.exists_trim t with ⟨front, back, hsplit, hfront, hback⟩
  refine ⟨front, back, hsplit, ?_, ?_, fun c hc => isPlain_of_isBlank (hback c hc)⟩
  · exact Depth.leads_of_isPlain fun c hc => isPlain_of_isBlank (hfront c hc)
  · rw [Option.or_none]
    intro hdash
    exact absurd (hfront '-' (List.mem_of_getLast? hdash)) (by decide)

/-- An uncut text is uncut when it is trimmed. -/
theorem uncut_trim (h : Uncut .top none t) : Uncut .top none (Text.trim t) := by
  rcases exists_trim_scan t with ⟨front, back, hsplit, hfront, hdash, -⟩
  rw [hsplit, uncut_append_iff, uncut_append_iff, hfront.ends] at h
  exact h.2.1.of_ne_dash hdash (by decide)

/-- Trimming opens no angle bracket and closes none. -/
theorem keepsAngles_trim (h : KeepsAngles .top none t) : KeepsAngles .top none (Text.trim t) := by
  rcases exists_trim_scan t with ⟨front, back, hsplit, hfront, hdash, -⟩
  rw [hsplit, keepsAngles_append_iff, keepsAngles_append_iff, hfront.ends] at h
  exact h.2.1.behind (h.2.1.head?_ne rfl hdash) none

/-- A trimmed text leads where the text leads. -/
theorem after_trim (t : Text) : Depth.top.after none (Text.trim t) = Depth.top.after none t := by
  rcases exists_trim_scan t with ⟨front, back, hsplit, hfront, hdash, hback⟩
  calc Depth.top.after none (Text.trim t)
      = Depth.top.after (front.getLast?.or none) (Text.trim t) :=
        Depth.after_of_ne_dash (by decide) hdash _
    _ = Depth.top.after (front.getLast?.or none) (Text.trim t ++ back) := by
        rw [Depth.after_append, (Depth.leads_of_isPlain hback).ends]
    _ = Depth.top.after none (front ++ (Text.trim t ++ back)) := by
        rw [Depth.after_append (t := front), hfront.ends]
    _ = Depth.top.after none t := by rw [← hsplit]

/-! ## Parameters -/

/-- A text that a parameter list may give as one parameter. -/
structure Part (t : Text) : Prop where
  nonempty : t ≠ []
  /-- No blank stands at the beginning. -/
  head : t.head?.any Text.isBlank = false
  /-- No blank stands at the end. -/
  last : t.getLast?.any Text.isBlank = false
  uncut : Uncut .top none t

theorem Part.trim (h : Part t) : Text.trim t = t := Text.trim_eq_self h.head h.last

/-- A parameter of a list that closes no angle bracket without having opened it. -/
structure Single (t : Text) : Prop where
  nonempty : t ≠ []
  /-- No blank stands at the beginning. -/
  head : t.head?.any Text.isBlank = false
  /-- No blank stands at the end. -/
  last : t.getLast?.any Text.isBlank = false
  keeps : KeepsAngles .top none t
  uncut : Uncut .top none t

namespace Single

theorem part (h : Single t) : Part t := ⟨h.nonempty, h.head, h.last, h.uncut⟩

theorem trim (h : Single t) : Text.trim t = t := h.part.trim

theorem head?_ne (h : Single t) : t.head? ≠ some (.char '>') := h.keeps.head?_ne rfl (by decide)

theorem uncut_behind (h : Single t) (before : Option CodePoint) : Uncut .top before t :=
  h.uncut.behind h.head?_ne before

end Single

/-- The parameters are what trimming leaves of the pieces, if anything. -/
theorem mem_parameters_iff :
    p ∈ parameters t ↔ p ≠ [] ∧ ∃ q ∈ cutAtCommas .top none t, Text.trim q = p := by
  rw [parameters, List.mem_filter, List.mem_map, and_comm, Bool.not_eq_true',
    List.isEmpty_eq_false_iff]

/-- The parameters of a list are parts. -/
theorem part_of_mem_parameters (hp : p ∈ parameters t) : Part p := by
  rcases mem_parameters_iff.mp hp with ⟨hne, q, hq, rfl⟩
  have huncut := (stretches_cutAtCommas_none t).uncut q hq
  exact ⟨hne, Text.head?_trim q, Text.getLast?_trim q, uncut_trim huncut⟩

/-- The parameters of a list that keeps its angle brackets are single ones. -/
theorem single_of_mem_parameters (h : KeepsAngles .top none t) (hp : p ∈ parameters t) :
    Single p := by
  have hpart := part_of_mem_parameters hp
  rcases mem_parameters_iff.mp hp with ⟨-, q, hq, rfl⟩
  have hkeeps := (stretches_cutAtCommas_none t).keeps h q hq
  exact ⟨hpart.nonempty, hpart.head, hpart.last, keepsAngles_trim hkeeps, hpart.uncut⟩

/-- Leaving elements out of a list leaves the last one of what remains out of the others. -/
theorem dropLast_sublist_dropLast {ps qs : List Text} (h : ps.Sublist qs) :
    ps.dropLast.Sublist qs.dropLast := by
  rw [← List.reverse_sublist, ← List.tail_reverse, ← List.tail_reverse]
  exact (List.reverse_sublist.mpr h).tail

/-- All but the last parameter of a list close their brackets. -/
theorem after_of_mem_dropLast_parameters (hp : p ∈ (parameters t).dropLast) :
    Depth.top.after none p = .top := by
  have hmem := (dropLast_sublist_dropLast List.filter_sublist).subset hp
  rw [← List.map_dropLast, List.mem_map] at hmem
  rcases hmem with ⟨q, hq, rfl⟩
  rw [after_trim]
  exact (stretches_cutAtCommas_none t).ends q hq

/-- A piece is no longer than the text. -/
theorem length_le_of_mem_cutAtCommas (h : p ∈ cutAtCommas d before t) :
    p.length ≤ t.length := by
  induction t generalizing d before p with
  | nil =>
    exact Nat.le_of_eq (congrArg List.length (List.mem_singleton.mp h))
  | cons c r ih =>
    rw [cutAtCommas] at h
    split at h
    · -- a comma begins a new piece
      rcases List.mem_cons.mp h with rfl | h
      · exact Nat.zero_le _
      · exact Nat.le_succ_of_le (ih h)
    · split at h
      · rw [List.mem_singleton.mp h, List.length_cons, List.length_cons]
        exact Nat.succ_le_succ (Nat.zero_le _)
      · rename_i q qs hcut
        rcases List.mem_cons.mp h with rfl | h
        · exact Nat.succ_le_succ (ih (hcut ▸ List.mem_cons_self))
        · exact Nat.le_succ_of_le (ih (hcut ▸ List.mem_cons_of_mem q h))

/-- A parameter is no longer than its list. -/
theorem length_le_of_mem_parameters (h : p ∈ parameters t) : p.length ≤ t.length := by
  rcases mem_parameters_iff.mp h with ⟨-, q, hq, rfl⟩
  exact Nat.le_trans (Text.length_trim_le q) (length_le_of_mem_cutAtCommas hq)

/-! ## Joined parameters -/

/-- Parameters as a list shows them. -/
def join (parts : List Text) : Text := ", ".text.intercalate parts

/-- A comma and a space stand between a parameter and the next one. -/
theorem join_cons_cons (p q : Text) (more : List Text) :
    join (p :: q :: more) = p ++ .char ',' :: .char ' ' :: join (q :: more) := by
  unfold join
  rw [List.intercalate_cons_cons, List.append_assoc]
  rfl

theorem join_singleton (p : Text) : join [p] = p := List.intercalate_singleton

/-- Cutting joined parameters gives them back, each behind the first one with a space. -/
theorem cutAtCommas_join (h : ∀ p ∈ parts, Part p)
    (hclosed : ∀ p ∈ parts.dropLast, Depth.top.after none p = .top) (hne : parts ≠ [])
    (hbefore : before ≠ some (.char '-')) :
    (cutAtCommas .top before (join parts)).map Text.trim = parts := by
  induction parts generalizing before with
  | nil => exact absurd rfl hne
  | cons p more ih =>
    rcases List.forall_mem_cons.mp h with ⟨hp, hmore⟩
    have huncut : Uncut .top before p := hp.uncut.of_ne_dash (by decide) hbefore
    cases more with
    | nil => rw [join_singleton, cutAtCommas_of_uncut huncut, List.map_singleton, hp.trim]
    | cons q more =>
      rcases List.forall_mem_cons.mp hclosed with ⟨hend, hclosed⟩
      rw [Depth.after_of_ne_dash (by decide) hbefore] at hend
      -- the first parameter is cut off at its comma, and a space stands in front of the rest
      rw [join_cons_cons, cutAtCommas_append huncut hend, List.map_cons, hp.trim,
        map_trim_cutAtCommas_space, ih hmore hclosed (List.cons_ne_nil q more) (by decide)]

/-- Joined parameters are read back as they are, the last one also when it leaves brackets open. -/
theorem parameters_join (h : ∀ p ∈ parts, Part p)
    (hclosed : ∀ p ∈ parts.dropLast, Depth.top.after none p = .top) (hne : parts ≠ []) :
    parameters (join parts) = parts := by
  unfold parameters
  rw [cutAtCommas_join h hclosed hne (by decide), List.filter_eq_self]
  intro p hp
  simpa using (h p hp).nonempty

/-- A single text is the only parameter in it. -/
theorem Single.parameters_eq (h : Single p) : parameters p = [p] := by
  have hjoin := parameters_join (List.forall_mem_singleton.mpr h.part)
    (List.forall_mem_nil _) (List.cons_ne_nil p [])
  rwa [join_singleton] at hjoin

end Placement.TypeText
