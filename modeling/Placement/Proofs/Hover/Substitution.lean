import Mathlib.Data.List.SplitBy
import Placement.Proofs.Words

/-!
# Placement.Proofs.Hover.Substitution — what is put into a type

A text is cut into `runs`: its words, and the other characters one by one. A word stands
by itself in a text when it is one of the runs (`hasWord_iff_mem_runs`). Footnotes are
put into a type run by run, and so is the value of one word; what is put in is not
looked at again (`substitute_eq_replaceRuns`, `replaceWord_eq_replaceEach`). It is cut
into the same runs in its new place (`runs_replaceEach`), so that the words that stand
in the result can be counted (`occurrences_replaceWord`).
-/

namespace Placement.Hover

open Text (IsWord Pattern isAsciiCapital isWord)

variable {notes : Bindings} {c : CodePoint} {t w rest : Text} {before : Option CodePoint}

/-! ## Runs -/

/-- A text cut into its words and the characters that are part of none. -/
def runs (t : Text) : List Text := t.splitBy fun a b => isWord a && isWord b

/-- A text in which each run that has a binding is replaced by its value. -/
def replaceRuns (notes : Bindings) (t : Text) : Text :=
  (runs t).flatMap fun run => (notes.lookup run).getD run

/-- A text is cut between two characters of which one is part of no word. -/
theorem runs_append_of_edge {u : Text}
    (h : t.getLast?.any isWord = false ∨ u.head?.any isWord = false) :
    runs (t ++ u) = runs t ++ runs u := by
  refine List.splitBy_append ?_
  intro x hx y hy
  rw [Option.mem_def] at hx hy
  rw [hx, hy, Option.any_some, Option.any_some] at h
  exact Bool.and_eq_false_iff.mpr h

theorem runs_cons (hc : isWord c = false) (r : Text) : runs (c :: r) = [c] :: runs r :=
  runs_append_of_edge (t := [c]) (u := r) (Or.inl hc)

/-- A word is one run. -/
theorem runs_word (hw : IsWord w) : runs w = [w] := by
  have hchain : w.IsChain fun a b => (isWord a && isWord b) = true :=
    (List.pairwise_of_forall_mem_list fun a ha b hb =>
      Bool.and_eq_true_iff.mpr ⟨hw.chars a ha, hw.chars b hb⟩).isChain
  exact List.splitBy_of_isChain hw.nonempty hchain

theorem runs_append (hw : IsWord w) (hrest : rest.head?.any isWord = false) :
    runs (w ++ rest) = w :: runs rest := by
  rw [runs_append_of_edge (Or.inr hrest), runs_word hw, List.singleton_append]

theorem flatten_runs (t : Text) : (runs t).flatten = t := List.flatten_splitBy _ t

/-- A text is made of characters that are part of no word, and of whole words. -/
@[elab_as_elim]
theorem runs_induction {P : Text → Prop} (t : Text) (nil : P [])
    (other : ∀ c r, isWord c = false → P r → P (c :: r))
    (word : ∀ w rest, IsWord w → rest.head?.any isWord = false → P rest → P (w ++ rest)) : P t := by
  -- on the length, since a whole word is taken off at once
  induction hn : t.length using Nat.strongRecOn generalizing t with
  | ind n ih =>
    cases t with
    | nil => exact nil
    | cons c r =>
      by_cases hc : isWord c = true
      · cases hspan : (c :: r).span isWord with
        | mk w rest =>
          obtain ⟨hcut, hw, hrest⟩ := Text.span_eq_iff.mp hspan
          have hne : w ≠ [] := by
            rintro rfl
            rw [List.nil_append] at hcut
            rw [← hcut, List.head?_cons, Option.any_some, hc] at hrest
            cases hrest
          have hshort : rest.length < n := by
            rw [← hn, hcut, List.length_append]
            have hpos := List.length_pos_iff.mpr hne
            omega
          rw [hcut]
          exact word w rest ⟨hne, hw⟩ hrest (ih rest.length hshort rest rfl)
      · rw [List.length_cons] at hn
        exact other c r (Bool.eq_false_iff.mpr hc) (ih r.length (by omega) r rfl)

/-- A run is cut no further. -/
theorem runs_of_mem_runs {run : Text} (h : run ∈ runs t) : runs run = [run] := by
  induction t using runs_induction with
  | nil => cases h
  | other c r hc ih =>
    rw [runs_cons hc] at h
    rcases List.mem_cons.mp h with rfl | h
    · exact runs_cons hc []
    · exact ih h
  | word w rest hw hrest ih =>
    rw [runs_append hw hrest] at h
    rcases List.mem_cons.mp h with rfl | h
    · exact runs_word hw
    · exact ih h

/-- A word stands by itself in a text when it is one of its runs. -/
theorem hasWord_iff_mem_runs (hw : IsWord w) : hasWord w t = true ↔ w ∈ runs t := by
  constructor
  · intro h
    rcases (Text.hasWord_iff hw).mp h with ⟨front, rest, rfl, hbefore, hbehind⟩
    rw [runs_append_of_edge (Or.inl hbefore), runs_append hw hbehind]
    exact List.mem_append_right _ List.mem_cons_self
  · intro h
    rw [Text.hasWord_iff hw]
    induction t using runs_induction with
    | nil => cases h
    | other c r hc ih =>
      rw [runs_cons hc] at h
      rcases List.mem_cons.mp h with rfl | h
      · rw [hw.chars c List.mem_cons_self] at hc
        cases hc
      · rcases ih h with ⟨front, rest, rfl, hbefore, hbehind⟩
        refine ⟨c :: front, rest, rfl, ?_, hbehind⟩
        cases hlast : front.getLast? with
        | none =>
          rw [List.getLast?_cons, hlast]
          exact hc
        | some x =>
          rw [List.getLast?_cons, hlast]
          rwa [hlast] at hbefore
    | word w' more hw' hmore ih =>
      rw [runs_append hw' hmore] at h
      rcases List.mem_cons.mp h with rfl | h
      · exact ⟨[], more, rfl, rfl, hmore⟩
      · rcases ih h with ⟨front, rest, rfl, hbefore, hbehind⟩
        refine ⟨w' ++ front, rest, (List.append_assoc _ _ _).symm, ?_, hbehind⟩
        cases front with
        | nil =>
          -- the word cannot go on behind the first one
          rw [List.nil_append, List.head?_append, List.head?_eq_some_head hw.nonempty,
            Option.some_or, Option.any_some, hw.chars _ (List.head_mem hw.nonempty)] at hmore
          cases hmore
        | cons c front =>
          rw [List.getLast?_append, List.getLast?_cons, Option.some_or]
          rwa [List.getLast?_cons] at hbefore

/-! ## Replacing runs -/

/-- A text in which each run that is given a value is replaced by it. -/
def replaceEach (value : Text → Option Text) (t : Text) : Text :=
  (runs t).flatMap fun run => (value run).getD run

variable {value : Text → Option Text}

/-- A character that is part of no word is replaced by itself. -/
theorem replaceEach_cons (hc : isWord c = false) (r : Text) :
    replaceEach value (c :: r) = (value [c]).getD [c] ++ replaceEach value r := by
  rw [replaceEach, runs_cons hc, List.flatMap_cons]
  rfl

/-- A word is replaced in front of what does not continue it. -/
theorem replaceEach_append (hw : IsWord w) (hrest : rest.head?.any isWord = false) :
    replaceEach value (w ++ rest) = (value w).getD w ++ replaceEach value rest := by
  rw [replaceEach, runs_append hw hrest, List.flatMap_cons]
  rfl

/-- Only the values of the runs that occur count. -/
theorem replaceEach_congr {value' : Text → Option Text}
    (h : ∀ run ∈ runs t, (value run).getD run = (value' run).getD run) :
    replaceEach value t = replaceEach value' t := by
  unfold replaceEach
  rw [List.flatMap_congr h]

/-- A text whose runs keep their texts is left as it is. -/
theorem replaceEach_eq_self (h : ∀ run ∈ runs t, (value run).getD run = run) :
    replaceEach value t = t := by
  have hself : replaceEach value t = (runs t).flatMap id := List.flatMap_congr h
  rw [hself, List.flatMap_id, flatten_runs]

/-- Only words are given a value. -/
def OnWords (value : Text → Option Text) : Prop := ∀ c, isWord c = false → value [c] = none

/-- What is put in is cut in its new place as it is by itself. -/
theorem runs_replaceEach (hvalue : OnWords value) (t : Text) :
    runs (replaceEach value t) = (runs t).flatMap fun run => runs ((value run).getD run) := by
  induction t using runs_induction with
  | nil => rfl
  | other c r hc ih =>
    rw [replaceEach_cons hc, hvalue c hc, Option.getD_none, List.singleton_append, runs_cons hc,
      ih, runs_cons hc, List.flatMap_cons, hvalue c hc, Option.getD_none, runs_cons hc]
    rfl
  | word w rest hw hrest ih =>
    -- the value of a word stands in front of a character that is kept, and is not joined to what
    -- follows
    have hhead : (replaceEach value rest).head?.any isWord = false := by
      cases rest with
      | nil => rfl
      | cons c r =>
        have hc : isWord c = false := hrest
        rw [replaceEach_cons hc, hvalue c hc]
        exact hc
    rw [replaceEach_append hw hrest, runs_append_of_edge (Or.inr hhead), ih, runs_append hw hrest,
      List.flatMap_cons]

/-- Replacing twice changes what was put in first, and the runs that were left. -/
theorem replaceEach_replaceEach (hvalue : OnWords value) (value' : Text → Option Text) (t : Text) :
    replaceEach value' (replaceEach value t) =
      (runs t).flatMap fun run => replaceEach value' ((value run).getD run) := by
  rw [replaceEach, runs_replaceEach hvalue, List.flatMap_assoc]
  rfl

/-- A pattern that reads whole words, and gives the values of some, replaces runs. -/
theorem replaceFrom_eq_replaceEach {p : Pattern Text} (hvalue : OnWords value)
    (hother : ∀ before c r, isWord c = false → p before (c :: r) = none)
    (hword : ∀ before w rest, IsWord w → before.any isWord = false →
      rest.head?.any isWord = false →
      Pattern.replaceFrom p 0 before (w ++ rest) =
        (value w).getD w ++ Pattern.replaceFrom p 0 (w.getLast?.or before) rest)
    (t : Text) (hedge : before.any isWord = false ∨ t.head?.any isWord = false) :
    Pattern.replaceFrom p 0 before t = replaceEach value t := by
  induction t using runs_induction generalizing before with
  | nil => rfl
  | other c r hc ih =>
    rw [Pattern.replaceFrom, hother before c r hc, replaceEach_cons hc, hvalue c hc]
    exact congrArg (c :: ·) (ih (Or.inl hc))
  | word w rest hw hrest ih =>
    have hhead : (w ++ rest).head?.any isWord = true := by
      rw [List.head?_append, List.head?_eq_some_head hw.nonempty]
      exact hw.chars _ (List.head_mem hw.nonempty)
    have hbefore : before.any isWord = false :=
      hedge.resolve_right (by rw [hhead]; exact Bool.noConfusion)
    rw [hword before w rest hw hbefore hrest, replaceEach_append hw hrest, ih (Or.inr hrest)]

/-! ## Footnotes -/

/-- A type parameter in a type, and what a footnote puts in its place. -/
def notedWord (notes : Bindings) : Pattern Text := fun before t =>
  (Pattern.capitalizedWord before t).map fun (word, rest) => ((notes.get? word).getD word, rest)

theorem notedWord_of_not_capital (hc : isAsciiCapital c = false) (r : Text) :
    notedWord notes before (c :: r) = none := by
  simp [notedWord, Pattern.capitalizedWord, hc]

theorem notedWord_of_isWord (hbefore : before.any isWord = true) (t : Text) :
    notedWord notes before t = none := by
  simp [notedWord, Pattern.capitalizedWord, hbefore]

/-- Within a word none is read. -/
theorem silent_notedWord (hbefore : before.any isWord = true) (ht : ∀ c ∈ t, isWord c = true)
    (rest : Text) : Pattern.Silent (notedWord notes) before t rest := by
  refine Pattern.silent_of_forall_before (notedWord_of_isWord hbefore) ?_
  intro c hc
  exact notedWord_of_isWord (ht c hc)

/-- A word with a capital that stands by itself is read, with its footnote or without one. -/
theorem notedWord_append {r : Text} (hc : isAsciiCapital c = true) (hw : IsWord (c :: r))
    (hbefore : before.any isWord = false) (hrest : rest.head?.any isWord = false) :
    notedWord notes before (c :: r ++ rest) =
      some ((notes.lookup (c :: r)).getD (c :: r), rest) := by
  have hspan : (c :: r ++ rest).span isWord = (c :: r, rest) :=
    Text.span_eq_iff.mpr ⟨rfl, hw.chars, hrest⟩
  have hcapital : (!before.any isWord && (c :: r ++ rest).head?.any isAsciiCapital) = true := by
    simp [hbefore, hc]
  unfold notedWord Pattern.capitalizedWord
  rw [if_pos hcapital, hspan]
  rfl

/-- No footnote has a name that does not begin with a capital. -/
theorem lookup_of_not_capital (hnotes : ∀ p ∈ notes, p.1.head?.any isAsciiCapital = true)
    (hc : isAsciiCapital c = false) (r : Text) : notes.lookup (c :: r) = none := by
  rw [List.lookup_eq_none_iff]
  intro p hp
  rw [bne_iff_ne]
  intro hname
  have hcapital := hnotes p hp
  rw [← hname, List.head?_cons, Option.any_some, hc] at hcapital
  cases hcapital

/-- A word that stands by itself is replaced when it has a footnote. -/
theorem replaceFrom_word (hnotes : ∀ p ∈ notes, p.1.head?.any isAsciiCapital = true)
    (hw : IsWord w) (hbefore : before.any isWord = false)
    (hrest : rest.head?.any isWord = false) :
    Pattern.replaceFrom (notedWord notes) 0 before (w ++ rest) =
      (notes.lookup w).getD w ++
        Pattern.replaceFrom (notedWord notes) 0 (w.getLast?.or before) rest := by
  cases w with
  | nil => exact absurd rfl hw.nonempty
  | cons c r =>
    by_cases hc : isAsciiCapital c = true
    · exact Pattern.replaceFrom_of_match (List.cons_ne_nil c r)
        (notedWord_append hc hw hbefore hrest)
    · rw [Bool.not_eq_true] at hc
      obtain ⟨hchar, hmore⟩ := List.forall_mem_cons.mp hw.chars
      have hjoined : (some c).any isWord = true := hchar
      -- a word without a capital is passed over, and no footnote has such a name
      have hsilent : Pattern.Silent (notedWord notes) before (c :: r) rest :=
        Pattern.silent_cons_iff.mpr ⟨notedWord_of_not_capital hc _,
          silent_notedWord hjoined hmore rest⟩
      rw [lookup_of_not_capital hnotes hc, Pattern.replaceFrom_of_silent hsilent]
      rfl

/-- Capitals are parts of words. -/
theorem isAsciiCapital_of_not_isWord (hc : isWord c = false) : isAsciiCapital c = false := by
  rw [← Bool.not_eq_true] at hc ⊢
  intro hcapital
  exact hc (Text.isWord_of_isIdent (by simp [Text.isIdent, hcapital]))

/-- Substituting footnotes replaces the runs of a type, all at once. -/
theorem substitute_eq_replaceRuns (hnotes : ∀ p ∈ notes, p.1.head?.any isAsciiCapital = true)
    (t : Text) : substitute notes t = replaceRuns notes t := by
  have hvalue : OnWords (notes.lookup ·) := fun c hc =>
    lookup_of_not_capital hnotes (isAsciiCapital_of_not_isWord hc) []
  have hother : ∀ before c r, isWord c = false → notedWord notes before (c :: r) = none :=
    fun before c r hc => notedWord_of_not_capital (isAsciiCapital_of_not_isWord hc) r
  exact replaceFrom_eq_replaceEach hvalue hother
    (fun before w rest hw hbefore hrest => replaceFrom_word hnotes hw hbefore hrest) t (Or.inl rfl)

/-! ## One word -/

/-- The value of one word, and of no other one. -/
def only (w v : Text) : Text → Option Text := fun run => if run = w then some v else none

/-- The one word that has a value is a word. -/
theorem onWords_only (hw : IsWord w) (v : Text) : OnWords (only w v) := by
  intro c hc
  refine if_neg ?_
  rintro rfl
  rw [hw.chars c List.mem_cons_self] at hc
  cases hc

/-- Replacing a word replaces the runs that are equal to it. -/
theorem replaceWord_eq_replaceEach (hw : IsWord w) (v t : Text) :
    replaceWord w v t = replaceEach (only w v) t := by
  refine replaceFrom_eq_replaceEach (onWords_only hw v) ?_ ?_ t (Or.inl rfl)
  · intro before c r hc
    rw [Option.map_eq_none_iff, Option.eq_none_iff_forall_ne_some]
    rintro ⟨found, rest⟩ hfound
    obtain ⟨-, hread, -⟩ := (Text.wholeWord_eq_some_iff hw).mp hfound
    obtain ⟨x, more, rfl⟩ := List.exists_cons_of_ne_nil hw.nonempty
    rw [(List.cons.inj hread).1, hw.chars x List.mem_cons_self] at hc
    cases hc
  · intro before w' rest hw' hbefore hrest
    by_cases hsame : w' = w
    · subst hsame
      have hfound : Pattern.wholeWord w' before (w' ++ rest) = some (w', rest) :=
        (Text.wholeWord_eq_some_iff hw).mpr ⟨rfl, rfl, hbefore, hrest⟩
      rw [only, if_pos rfl]
      exact Pattern.replaceFrom_of_match hw.nonempty (by rw [hfound]; rfl)
    · rw [only, if_neg hsame]
      refine Pattern.replaceFrom_of_silent ?_
      intro front c back hplace
      rw [Option.map_eq_none_iff, Option.eq_none_iff_forall_ne_some]
      rintro ⟨found, r⟩ hfound
      obtain ⟨-, hread, hfront, hr⟩ := (Text.wholeWord_eq_some_iff hw).mp hfound
      -- within a word no other one begins, and at its beginning the whole word is read
      cases hlast : front.getLast? with
      | some x =>
        have hx : x ∈ w' := by
          rw [hplace]
          exact List.mem_append_left _ (List.mem_of_getLast? hlast)
        rw [hlast, Option.some_or, Option.any_some, hw'.chars x hx] at hfront
        cases hfront
      | none =>
        rw [List.getLast?_eq_none_iff.mp hlast, List.nil_append] at hplace
        rw [← List.cons_append, ← hplace] at hread
        have hspan : (w' ++ rest).span isWord = (w', rest) :=
          Text.span_eq_iff.mpr ⟨rfl, hw'.chars, hrest⟩
        rw [Text.span_eq_iff.mpr ⟨hread, hw.chars, hr⟩, Prod.mk.injEq] at hspan
        exact hsame hspan.1.symm

/-- A word that does not occur is not replaced. -/
theorem replaceWord_of_not_mem (hw : IsWord w) (v : Text) (h : w ∉ runs t) :
    replaceWord w v t = t := by
  rw [replaceWord_eq_replaceEach hw]
  refine replaceEach_eq_self ?_
  intro run hrun
  have hother : run ≠ w := fun hsame => h (hsame ▸ hrun)
  rw [only, if_neg hother, Option.getD_none]

/-- A word that stands for itself is not changed. -/
theorem replaceWord_self (hw : IsWord w) (t : Text) : replaceWord w w t = t := by
  rw [replaceWord_eq_replaceEach hw]
  refine replaceEach_eq_self ?_
  intro run _
  by_cases hsame : run = w
  · rw [only, if_pos hsame, hsame, Option.getD_some]
  · rw [only, if_neg hsame, Option.getD_none]

/-! ## Counting words -/

/-- How often a word stands by itself in a text. -/
def occurrences (w t : Text) : Nat := (runs t).count w

theorem occurrences_pos_iff : 0 < occurrences w t ↔ w ∈ runs t := List.count_pos_iff

variable {v m : Text}

/-- Where a word is replaced its value brings in the words that stand in it. -/
theorem occurrences_replaceWord (hw : IsWord w) (v t m : Text) :
    occurrences m (replaceWord w v t) =
      (if m = w then 0 else occurrences m t) + occurrences w t * occurrences m v := by
  -- counted over the runs: a run equal to `w` gives those of `v`, every other run itself
  have hcount : ∀ pieces : List Text, (∀ run ∈ pieces, runs run = [run]) →
      (pieces.flatMap fun run => runs ((only w v run).getD run)).count m =
        (if m = w then 0 else pieces.count m) + pieces.count w * (runs v).count m := by
    intro pieces hpieces
    induction pieces with
    | nil => simp
    | cons run more ih =>
      obtain ⟨hrun, hmore⟩ := List.forall_mem_cons.mp hpieces
      rw [List.flatMap_cons, List.count_append, ih hmore]
      by_cases hsame : run = w
      · rw [only, if_pos hsame, Option.getD_some, hsame, List.count_cons_self, Nat.succ_mul]
        split
        · omega
        · rename_i hm
          rw [List.count_cons_of_ne (Ne.symm hm)]
          omega
      · have hfirst : (if m = w then 0 else (run :: more).count m) =
            [run].count m + if m = w then 0 else more.count m := by
          split
          · rename_i hm
            rw [hm, List.count_eq_zero.mpr fun h => hsame (List.mem_singleton.mp h).symm]
          · rw [← List.singleton_append, List.count_append]
        rw [only, if_neg hsame, Option.getD_none, hrun, List.count_cons_of_ne hsame, hfirst,
          Nat.add_assoc]
  rw [replaceWord_eq_replaceEach hw, occurrences, runs_replaceEach (onWords_only hw v),
    hcount _ fun run hrun => runs_of_mem_runs hrun]
  rfl

/-- Where a word is replaced the text is longer by the value and shorter by the word. -/
theorem length_replaceWord (hw : IsWord w) (v t : Text) :
    (replaceWord w v t).length + occurrences w t * w.length =
      t.length + occurrences w t * v.length := by
  -- measured over the runs, with the lengths taken out kept on the left so that nothing is
  -- subtracted
  have hlength : ∀ pieces : List Text,
      (pieces.flatMap fun run => (only w v run).getD run).length + pieces.count w * w.length =
        pieces.flatten.length + pieces.count w * v.length := by
    intro pieces
    induction pieces with
    | nil => simp
    | cons run more ih =>
      rw [List.flatMap_cons, List.length_append, List.flatten_cons, List.length_append]
      by_cases hsame : run = w
      · rw [only, if_pos hsame, Option.getD_some, hsame, List.count_cons_self, Nat.succ_mul,
          Nat.succ_mul]
        omega
      · rw [only, if_neg hsame, Option.getD_none, List.count_cons_of_ne hsame]
        omega
  have hruns := hlength (runs t)
  rw [flatten_runs] at hruns
  rw [replaceWord_eq_replaceEach hw]
  exact hruns

end Placement.Hover
