import Placement.Proofs.Hover.Method
import Placement.Proofs.Hover.Substitution

/-!
# Placement.Proofs.Hover.BoundOrder — the order in which names are replaced

The names of location bounds are replaced one after the other (`value_substituteBounds`),
and a name that comes later is also replaced in the values that were put in before it:
it is `Captured`. Where no name is, the result is the one of replacing all names at once
(`inTurn_eq_atOnce`), and so does not depend on their order (`inTurn_of_perm`).

Where a name is captured by another one, the two are replaced in both orders to see the
difference. When one of the values does not mention a name that the other one mentions,
that name is left over in one order and not in the other, or the results differ in
length (`replaceWord_ne`). Only values that mention both names, the `Entangled` ones, may
give one result in both orders.
-/

namespace Placement.Hover

open Text (IsWord)

variable {bound : Text → Option Text} {names others : List Text} {n m t u v content : Text}

/-! ## Names in turn -/

/-- A type in which a name is replaced by what is bound to it, if anything is. -/
def putBound (bound : Text → Option Text) (t name : Text) : Text :=
  ((bound name).map fun value => replaceWord name value t).getD t

/-- A type in which names are replaced one after the other. -/
def inTurn (bound : Text → Option Text) (names : List Text) (t : Text) : Text :=
  names.foldl (putBound bound) t

theorem putBound_of_some (h : bound n = some v) (t : Text) :
    putBound bound t n = replaceWord n v t := by
  rw [putBound, h, Option.map_some, Option.getD_some]

theorem putBound_of_none (h : bound n = none) (t : Text) : putBound bound t n = t := by
  rw [putBound, h, Option.map_none, Option.getD_none]

/-- A name that does not occur changes nothing, whatever is bound to it. -/
theorem putBound_of_not_mem (hn : IsWord n) (h : n ∉ runs t) : putBound bound t n = t := by
  cases hbound : bound n with
  | none => exact putBound_of_none hbound t
  | some v => rw [putBound_of_some hbound, replaceWord_of_not_mem hn v h]

/-- The names of location bounds are replaced one after the other. -/
theorem value_substituteBounds (hnames : ∀ n ∈ names, IsWord n) {known : Option Bindings}
    (hknown : known.getD (metadata content).value = (metadata content).value) :
    (substituteBounds content names known t).value =
      inTurn (fun n => (metadata content).value.get? n) names t := by
  induction names generalizing known t with
  | nil => rfl
  | cons n names ih =>
    obtain ⟨hn, hmore⟩ := List.forall_mem_cons.mp hnames
    rw [inTurn, List.foldl_cons]
    by_cases hword : hasWord n t = true
    · rw [value_substituteBounds_cons hword hknown]
      exact ih hmore rfl
    · -- a name that does not occur is passed over, and is not looked up
      have habsent : n ∉ runs t := fun h => hword ((hasWord_iff_mem_runs hn).mpr h)
      rw [substituteBounds, if_neg hword, putBound_of_not_mem hn habsent]
      exact ih hmore hknown

/-- What is bound to other names is of no account. -/
theorem inTurn_congr {bound' : Text → Option Text} (h : ∀ n ∈ names, bound n = bound' n)
    (t : Text) : inTurn bound names t = inTurn bound' names t := by
  refine List.foldl_ext _ _ t ?_
  intro t n hn
  rw [putBound, putBound, h n hn]

/-! ## Names at once -/

/-- What is bound to a name, if it is one of those that are replaced. -/
def boundAmong (bound : Text → Option Text) (names : List Text) (run : Text) : Option Text :=
  if run ∈ names then bound run else none

/-- One more name among those that are replaced. -/
theorem boundAmong_concat (bound : Text → Option Text) (names : List Text) (n run : Text) :
    boundAmong bound (names ++ [n]) run =
      if run = n then bound n else boundAmong bound names run := by
  by_cases hrun : run = n
  · rw [boundAmong, if_pos (by simp [hrun]), if_pos hrun, hrun]
  · simp [boundAmong, hrun]

/-- A type in which names are replaced all at once. -/
def atOnce (bound : Text → Option Text) (names : List Text) (t : Text) : Text :=
  replaceEach (boundAmong bound names) t

/-- The value of a name is put into the type, and another name in it stands for something else. -/
def Captured (bound : Text → Option Text) (t n m : Text) : Prop :=
  hasWord n t = true ∧
    ∃ v u, bound n = some v ∧ bound m = some u ∧ hasWord m v = true ∧ u ≠ m

/-- No name is captured in the value of another one. -/
def Uncaptured (bound : Text → Option Text) (names : List Text) (t : Text) : Prop :=
  ∀ n ∈ names, ∀ m ∈ names, n ≠ m → ¬ Captured bound t n m

/-- Whether a name is captured can be computed. -/
theorem captured_iff :
    Captured bound t n m ↔ hasWord n t = true ∧ (bound n).any (hasWord m) = true ∧
      (bound m).any (· != m) = true := by
  unfold Captured
  cases bound n <;> cases bound m <;> simp

instance : Decidable (Captured bound t n m) := decidable_of_iff _ captured_iff.symm

/-- Only words are replaced. -/
theorem onWords_boundAmong (hnames : ∀ n ∈ names, IsWord n) :
    OnWords (boundAmong bound names) := by
  intro c hc
  refine if_neg fun hmem => ?_
  rw [(hnames [c] hmem).chars c List.mem_cons_self] at hc
  cases hc

/-- A value in which a name is not captured is not changed by that name. -/
theorem replaceWord_of_not_captured (hn : IsWord n) (hm : IsWord m) (hbn : bound n = some v)
    (hbm : bound m = some u) (hmem : n ∈ runs t) (h : ¬ Captured bound t n m) :
    replaceWord m u v = v := by
  by_cases hword : hasWord m v = true
  · -- the other name stands in the value, so it can only be bound to itself
    have hself : u = m := by
      by_contra hne
      exact h ⟨(hasWord_iff_mem_runs hn).mpr hmem, v, u, hbn, hbm, hword, hne⟩
    rw [hself, replaceWord_self hm]
  · exact replaceWord_of_not_mem hm u fun hin => hword ((hasWord_iff_mem_runs hm).mpr hin)

/-- A further name is replaced as it is together with the ones before. -/
theorem putBound_atOnce (hnames : ∀ n ∈ names, IsWord n) (hn : IsWord n) (hnew : n ∉ names)
    (hfree : Uncaptured bound (names ++ [n]) t) :
    putBound bound (atOnce bound names t) n = atOnce bound (names ++ [n]) t := by
  cases hbound : bound n with
  | none =>
    rw [putBound_of_none hbound]
    refine replaceEach_congr fun run _ => ?_
    rw [boundAmong_concat]
    split
    · rename_i hrun
      rw [hrun, hbound, boundAmong, if_neg hnew]
    · rfl
  | some v =>
    rw [putBound_of_some hbound, replaceWord_eq_replaceEach hn, atOnce,
      replaceEach_replaceEach (onWords_boundAmong hnames)]
    refine List.flatMap_congr fun run hrun => ?_
    rw [← replaceWord_eq_replaceEach hn, boundAmong_concat]
    by_cases hsame : run = n
    · -- the name itself was left by the names before it
      rw [if_pos hsame, hbound, hsame, boundAmong, if_neg hnew, Option.getD_none, Option.getD_some,
        replaceWord_eq_replaceEach hn, replaceEach, runs_word hn, List.flatMap_singleton, only,
        if_pos rfl, Option.getD_some]
    · rw [if_neg hsame]
      have hleft : replaceWord n v run = run := by
        refine replaceWord_of_not_mem hn v ?_
        rw [runs_of_mem_runs hrun, List.mem_singleton]
        exact Ne.symm hsame
      -- a run that none of the names replaces is not replaced by the further one either
      cases hvalue : boundAmong bound names run with
      | none => rw [Option.getD_none, hleft]
      | some w =>
        have hmem : run ∈ names := by
          by_contra hno
          rw [boundAmong, if_neg hno] at hvalue
          cases hvalue
        rw [boundAmong, if_pos hmem] at hvalue
        rw [Option.getD_some]
        exact replaceWord_of_not_captured (hnames run hmem) hn hvalue hbound hrun
          (hfree run (List.mem_append_left [n] hmem) n (by simp) hsame)

/-- Names that do not capture each other are replaced one after the other as at once. -/
theorem inTurn_eq_atOnce (hnames : ∀ n ∈ names, IsWord n) (hdistinct : names.Nodup)
    (hfree : Uncaptured bound names t) : inTurn bound names t = atOnce bound names t := by
  -- from the end: the last name meets what all others have put in
  induction names using List.reverseRecOn with
  | nil =>
    have hnothing : atOnce bound [] t = t := replaceEach_eq_self fun run _ => by
      rw [boundAmong, if_neg List.not_mem_nil, Option.getD_none]
    rw [hnothing]
    rfl
  | append_singleton names n ih =>
    obtain ⟨hdistinct, -, happart⟩ := List.nodup_append.mp hdistinct
    have hnew : n ∉ names := fun hn => happart n hn n (List.mem_singleton_self n) rfl
    have hbefore : ∀ m ∈ names, IsWord m := fun m hm => hnames m (List.mem_append_left [n] hm)
    have hfreeBefore : Uncaptured bound names t := fun k hk m hm =>
      hfree k (List.mem_append_left [n] hk) m (List.mem_append_left [n] hm)
    rw [inTurn, List.foldl_concat]
    change putBound bound (inTurn bound names t) n = _
    rw [ih hbefore hdistinct hfreeBefore]
    exact putBound_atOnce hbefore (hnames n (by simp)) hnew hfree

/-- Replacing all names at once knows no order of them. -/
theorem atOnce_of_perm (horder : others.Perm names) (t : Text) :
    atOnce bound others t = atOnce bound names t := by
  refine replaceEach_congr fun run _ => ?_
  unfold boundAmong
  simp only [horder.mem_iff]

/-- Names that do not capture each other are replaced in any order with one result. -/
theorem inTurn_of_perm (hnames : ∀ n ∈ names, IsWord n) (hdistinct : names.Nodup)
    (hfree : Uncaptured bound names t) (horder : others.Perm names) :
    inTurn bound others t = inTurn bound names t := by
  have hothers : ∀ n ∈ others, IsWord n := fun n hn => hnames n (horder.mem_iff.mp hn)
  have hfreeOthers : Uncaptured bound others t := fun n hn m hm =>
    hfree n (horder.mem_iff.mp hn) m (horder.mem_iff.mp hm)
  rw [inTurn_eq_atOnce hothers (horder.nodup_iff.mpr hdistinct) hfreeOthers, atOnce_of_perm horder,
    inTurn_eq_atOnce hnames hdistinct hfree]

/-! ## Captured names -/

/-- The values of two names mention both of them. -/
def Entangled (bound : Text → Option Text) (n m : Text) : Prop :=
  ∃ v u, bound n = some v ∧ bound m = some u ∧ hasWord n v = true ∧ hasWord m v = true ∧
    hasWord n u = true ∧ hasWord m u = true

/-- So can whether two names are entangled. -/
theorem entangled_iff :
    Entangled bound n m ↔ (bound n).any (fun v => hasWord n v && hasWord m v) = true ∧
      (bound m).any (fun u => hasWord n u && hasWord m u) = true := by
  unfold Entangled
  cases bound n <;> cases bound m <;> simp [and_assoc]

instance : Decidable (Entangled bound n m) := decidable_of_iff _ entangled_iff.symm

/-- A word as long as the text that it stands in is that text. -/
theorem eq_of_mem_runs (h : m ∈ runs u) (hlength : m.length = u.length) : m = u := by
  have hwithin : m <:+: (runs u).flatten := List.infix_of_mem_flatten h
  rw [flatten_runs] at hwithin
  exact hwithin.eq_of_length hlength

/-- Of two names one of which is captured the order shows in the result, unless both values mention
both names. -/
theorem replaceWord_ne (hn : IsWord n) (hm : IsWord m) (hne : n ≠ m) (hmem : n ∈ runs t)
    (hcaptured : m ∈ runs v) (hchanges : u ≠ m)
    (hfree : n ∉ runs v ∨ n ∉ runs u ∨ m ∉ runs u) :
    replaceWord m u (replaceWord n v t) ≠ replaceWord n v (replaceWord m u t) := by
  intro hsame
  -- how often each name occurs behind one replacement, to count what the second one finds
  have hfirst := occurrences_replaceWord hn v t m
  have hsecond := occurrences_replaceWord hm u t n
  rw [if_neg (Ne.symm hne)] at hfirst
  rw [if_neg hne] at hsecond
  have hpos : 0 < occurrences n t := occurrences_pos_iff.mpr hmem
  have hin : 0 < occurrences m v := occurrences_pos_iff.mpr hcaptured
  have hbrought : 0 < occurrences n t * occurrences m v := Nat.mul_pos hpos hin
  by_cases hmu : m ∈ runs u
  · by_cases hnu : n ∈ runs u
    · -- the first name is left over when it is replaced first
      have hnv : occurrences n v = 0 :=
        List.count_eq_zero.mpr (hfree.resolve_right (by simp [hnu, hmu]))
      have hleft := occurrences_replaceWord hm u (replaceWord n v t) n
      have hgone := occurrences_replaceWord hn v (replaceWord m u t) n
      rw [if_pos rfl, hnv, Nat.mul_zero] at hgone
      rw [hsame, hgone, hfirst] at hleft
      have hnuPos : 0 < occurrences n u := occurrences_pos_iff.mpr hnu
      have hpositive := Nat.mul_pos (Nat.add_pos_right (occurrences m t) hbrought) hnuPos
      omega
    · -- more of the second name is replaced when it comes later, and its value is longer
      have hnone : occurrences n u = 0 := List.count_eq_zero.mpr hnu
      rw [hnone, Nat.mul_zero, Nat.add_zero] at hsecond
      have h1 := length_replaceWord hn v t
      have h2 := length_replaceWord hm u (replaceWord n v t)
      have h3 := length_replaceWord hm u t
      have h4 := length_replaceWord hn v (replaceWord m u t)
      rw [hfirst, Nat.add_mul, Nat.add_mul, hsame] at h2
      rw [hsecond] at h4
      have hlength : occurrences n t * occurrences m v * m.length =
          occurrences n t * occurrences m v * u.length := by omega
      exact hchanges (eq_of_mem_runs hmu (Nat.eq_of_mul_eq_mul_left hbrought hlength)).symm
  · -- the second name is left over when it is replaced first
    have hnone : occurrences m u = 0 := List.count_eq_zero.mpr hmu
    have hgone := occurrences_replaceWord hm u (replaceWord n v t) m
    have hleft := occurrences_replaceWord hn v (replaceWord m u t) m
    rw [if_pos rfl, hnone, Nat.mul_zero] at hgone
    rw [← hsame, hgone, hsecond] at hleft
    have hpositive := Nat.mul_pos (Nat.add_pos_left hpos (occurrences m t * occurrences n u)) hin
    omega

/-- A name that occurs is still there when other names have been replaced. -/
theorem mem_runs_inTurn (hothers : ∀ k ∈ others, IsWord k) (hn : n ∉ others) (h : n ∈ runs t) :
    n ∈ runs (inTurn bound others t) := by
  induction others generalizing t with
  | nil => exact h
  | cons k others ih =>
    obtain ⟨hk, hmore⟩ := List.forall_mem_cons.mp hothers
    rw [List.mem_cons, not_or] at hn
    refine ih hmore hn.2 ?_
    cases hbound : bound k with
    | none => rwa [putBound_of_none hbound]
    | some v =>
      have hpos := occurrences_pos_iff.mpr h
      rw [putBound_of_some hbound, ← occurrences_pos_iff, occurrences_replaceWord hk, if_neg hn.1]
      exact Nat.add_pos_left hpos _

/-- Where a name is captured, exchanging it with the other one shows, unless the two are
entangled. -/
theorem inTurn_swap_ne (hothers : ∀ k ∈ others, IsWord k) (hn : IsWord n) (hm : IsWord m)
    (hne : n ≠ m) (hnew : n ∉ others) (hcaptured : Captured bound t n m)
    (hfree : ¬ Entangled bound n m) :
    inTurn bound (others ++ [n, m]) t ≠ inTurn bound (others ++ [m, n]) t := by
  obtain ⟨hmem, v, u, hbn, hbm, hword, hchanges⟩ := hcaptured
  rw [hasWord_iff_mem_runs hn] at hmem
  rw [inTurn, inTurn, List.foldl_append, List.foldl_append]
  change putBound bound (putBound bound (inTurn bound others t) n) m ≠
    putBound bound (putBound bound (inTurn bound others t) m) n
  rw [putBound_of_some hbn, putBound_of_some hbm, putBound_of_some hbn, putBound_of_some hbm]
  -- the others are replaced before in both orders, and leave the first name there
  refine replaceWord_ne hn hm hne (mem_runs_inTurn hothers hnew hmem)
    ((hasWord_iff_mem_runs hm).mp hword) hchanges ?_
  by_contra hboth
  rw [not_or, not_or, not_not, not_not, not_not] at hboth
  refine hfree ⟨v, u, hbn, hbm, ?_⟩
  rw [hasWord_iff_mem_runs hn, hasWord_iff_mem_runs hm, hasWord_iff_mem_runs hn,
    hasWord_iff_mem_runs hm]
  exact ⟨hboth.1, (hasWord_iff_mem_runs hm).mp hword, hboth.2⟩

/-- Two names whose values mention both of them. -/
def tangled : Text → Option Text := fun name =>
  if name = "N".text then some "N+M+N".text
  else if name = "M".text then some "M+N+M".text else none

/-- Entangled names may give one result in both orders. -/
example : Captured tangled "N+M".text "N".text "M".text ∧
    Entangled tangled "N".text "M".text ∧
    inTurn tangled ["N".text, "M".text] "N+M".text =
      inTurn tangled ["M".text, "N".text] "N+M".text := by
  decide +kernel

end Placement.Hover
