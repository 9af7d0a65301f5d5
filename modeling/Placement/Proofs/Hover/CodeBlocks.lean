import Mathlib.Data.List.TakeWhile
import Placement.Hover.Fence
import Placement.Proofs.Collapse
import Placement.Proofs.Search

/-!
# Placement.Proofs.Hover.CodeBlocks — which code blocks are found

A hover text is prose with code blocks in it, and behind the opening fence of a block
stands its info string. A block is found when its info string names a language and
nothing more (`NamesLanguage`). Another info string, such as `rust,ignore` or `c#`,
does not open a block, and then the fence that was to close it opens one: prose is
taken for code.

Every block that is found uses up two fences (`two_mul_length_findFrom_le`), and
`fences` counts two of them for each block that was written. So a block that is not
found leaves one too few for all others, and the blocks are read back exactly when
all of their info strings name a language (`codeBlocks_hoverText_iff`).
-/

namespace Placement.Hover

open Text (Pattern)

variable {t u lead info body prose : Text} {before : Option CodePoint}

/-! ## Hover texts -/

/-- No fence stands in the text. -/
def Unfenced (t : Text) : Prop := ¬ fence <:+: t

/-- A code block, and the prose behind it. -/
structure Section where
  info : Text
  body : Text
  prose : Text

/-- A section as it is written. -/
def Section.text (s : Section) : Text := fenced s.info s.body ++ s.prose

/-- The info string is on one line, and the fences of a section are those of its block. -/
structure Section.WellFormed (s : Section) : Prop where
  oneLine : .char '\n' ∉ s.info
  noBacktick : .char '\x60' ∉ s.info
  body : Unfenced s.body
  prose : Unfenced s.prose

/-- That no fence stands in a text can be computed. -/
theorem unfenced_iff : Unfenced t ↔ Text.contains fence t = false := by
  rw [Unfenced, ← Text.contains_eq_true_iff, Bool.not_eq_true]

instance : Decidable (Unfenced t) := decidable_of_iff _ unfenced_iff.symm

/-- A section is well-formed when each of its fields is. -/
theorem Section.wellFormed_iff {s : Section} :
    s.WellFormed ↔
      .char '\n' ∉ s.info ∧ .char '\x60' ∉ s.info ∧ Unfenced s.body ∧ Unfenced s.prose :=
  ⟨fun h => ⟨h.oneLine, h.noBacktick, h.body, h.prose⟩, fun h => ⟨h.1, h.2.1, h.2.2.1, h.2.2.2⟩⟩

instance (s : Section) : Decidable s.WellFormed := decidable_of_iff _ Section.wellFormed_iff.symm

/-- A hover text: prose, and then code blocks with prose behind each of them. -/
def hoverText (lead : Text) (sections : List Section) : Text :=
  lead ++ sections.flatMap Section.text

/-- An info string that is read: the name of a language, and blanks on its line. -/
def NamesLanguage (info : Text) : Prop :=
  ∃ name blanks, info = name ++ blanks ∧ (∀ c ∈ name, isLanguageChar c = true) ∧
    ∀ c ∈ blanks, c = ' ' ∨ c = '\t'

/-- A character that is neither a blank nor one of a language name is in no info string that is
read. -/
theorem NamesLanguage.not_mem {c : CodePoint} (h : NamesLanguage info)
    (hc : isLanguageChar c = false) (hspace : c ≠ ' ') (htab : c ≠ '\t') : c ∉ info := by
  obtain ⟨name, blanks, rfl, hname, hblanks⟩ := h
  intro hmem
  rcases List.mem_append.mp hmem with hmem | hmem
  · rw [hname c hmem] at hc
    cases hc
  · exact (hblanks c hmem).elim hspace htab

theorem Unfenced.of_cons {c : CodePoint} (h : Unfenced (c :: t)) : Unfenced t :=
  fun hwithin => h (List.infix_cons hwithin)

/-- Without backticks there are no fences. -/
theorem unfenced_of_not_mem (h : .char '\x60' ∉ t) : Unfenced t := by
  intro hwithin
  have hmem : .char '\x60' ∈ fence := List.mem_cons_self
  exact h (hwithin.subset hmem)

/-! ## The opening line -/

/-- What the opening line of a block leaves of a text behind its fence. -/
def behindLanguage (t : Text) : Text :=
  (t.dropWhile isLanguageChar).dropWhile fun c => c == .char ' ' || c == .char '\t'

/-- A block is read in three steps: its fence, the rest of the opening line, and the body up to the
next fence. -/
theorem block_eq (before : Option CodePoint) (t : Text) :
    block before t =
      (Text.after? fence t).bind fun r =>
        (Text.after? [.char '\n'] (behindLanguage r)).bind (Text.cut? fence) := by
  unfold block
  cases Text.after? fence t with
  | none => rfl
  | some r =>
    simp only [Option.bind_some, behindLanguage]
    -- behind the language a line end is wanted, which `block` writes as a match on the next
    -- character
    generalize (r.dropWhile isLanguageChar).dropWhile _ = line
    cases line with
    | nil => rfl
    | cons c more =>
      by_cases hc : c = '\n'
      · subst hc
        rfl
      · simp [Text.after?, hc, Ne.symm hc]

/-- No block opens where the line does not end behind the language. -/
theorem block_eq_none {r : Text} (h : (behindLanguage r).head? ≠ some (.char '\n'))
    (before : Option CodePoint) : block before (fence ++ r) = none := by
  rw [block_eq, Text.after?_append, Option.bind_some, Option.bind_eq_none_iff]
  intro more hmore
  rw [Text.after?_eq_some_iff] at hmore
  rw [hmore] at h
  exact absurd rfl h

/-- Behind backticks that stand in front of a fence no language is named. -/
theorem behindLanguage_backtick (r : Text) :
    behindLanguage (.char '\x60' :: r) = .char '\x60' :: r := by
  have hname : isLanguageChar '\x60' = false := by decide
  unfold behindLanguage
  rw [List.dropWhile_cons_of_neg (by simp [hname]), List.dropWhile_cons_of_neg (by decide)]

/-- A fixed end that a class of characters does not reach into. -/
theorem dropWhile_append_cons {p : CodePoint → Bool} {c : CodePoint} (hc : p c = false)
    (t r : Text) : (t ++ c :: r).dropWhile p = t.dropWhile p ++ c :: r := by
  rw [List.dropWhile_append]
  split
  · rename_i hempty
    rw [List.isEmpty_iff.mp hempty, List.dropWhile_cons_of_neg (by simp [hc]), List.nil_append]
  · rfl

/-- The line of an info string ends what is read of it. -/
theorem behindLanguage_info (info r : Text) :
    behindLanguage (info ++ .char '\n' :: r) = behindLanguage info ++ .char '\n' :: r := by
  unfold behindLanguage
  rw [dropWhile_append_cons (by decide), dropWhile_append_cons (by decide)]

/-- An info string names a language when the opening line leaves nothing of it. -/
theorem namesLanguage_iff : NamesLanguage info ↔ behindLanguage info = [] := by
  have hspace : ∀ c : CodePoint, (c == ' ' || c == '\t') = true ↔ c = ' ' ∨ c = '\t' := by
    intro c
    rw [Bool.or_eq_true, beq_iff_eq, beq_iff_eq]
  unfold behindLanguage
  rw [List.dropWhile_eq_nil_iff]
  constructor
  · rintro ⟨name, blanks, rfl, hname, hblanks⟩ c hc
    rw [hspace]
    rw [List.dropWhile_append_of_pos hname] at hc
    exact hblanks c ((List.dropWhile_sublist _).subset hc)
  · intro h
    -- the name is the longest stretch of its characters
    refine ⟨info.takeWhile isLanguageChar, info.dropWhile isLanguageChar,
      List.takeWhile_append_dropWhile.symm, List.all_eq_true.mp List.all_takeWhile, ?_⟩
    intro c hc
    exact (hspace c).mp (h c hc)

/-- A fixed text goes no further than to a character that it does not have. -/
theorem prefix_of_prefix_append {w : Text} {c : CodePoint} (hc : c ∉ w) (h : w <+: t ++ c :: u) :
    w <+: t := by
  obtain ⟨rest, hrest⟩ := h
  rcases List.append_eq_append_iff.mp hrest with ⟨more, ht, -⟩ | ⟨more, rfl, hmore⟩
  · exact ⟨more, ht.symm⟩
  · cases more with
    | nil => simp
    | cons x more =>
      rw [(List.cons.inj hmore).1] at hc
      exact absurd (List.mem_append_right t List.mem_cons_self) hc

/-- A body goes on to the first fence behind it. -/
theorem cut?_body (h : Unfenced body) (u : Text) :
    Text.cut? fence (body ++ .char '\n' :: (fence ++ u)) = some (body ++ [.char '\n'], u) := by
  -- in front of every character of the body no fence begins, for it would end in the body
  induction body with
  | nil => rfl
  | cons c r ih =>
    have hnone : Text.after? fence (c :: (r ++ .char '\n' :: (fence ++ u))) = none := by
      rw [Option.eq_none_iff_forall_ne_some]
      intro rest hrest
      rw [Text.after?_eq_some_iff] at hrest
      have hprefix : fence <+: c :: r := by
        refine prefix_of_prefix_append (c := '\n') (by decide) (u := fence ++ u) ?_
        rw [List.cons_append, hrest]
        exact List.prefix_append fence rest
      exact h hprefix.isInfix
    rw [List.cons_append, Text.cut?, hnone, ih h.of_cons]
    rfl

/-- A block whose info string names a language is read up to its closing fence. -/
theorem block_fenced (hinfo : NamesLanguage info) (hbody : Unfenced body) (u : Text) :
    block before (fenced info body ++ u) = some (body ++ [.char '\n'], u) := by
  have htext : fenced info body ++ u =
      fence ++ (info ++ .char '\n' :: (body ++ .char '\n' :: (fence ++ u))) := by
    simp [fenced]
  rw [htext, block_eq, Text.after?_append, Option.bind_some, behindLanguage_info,
    namesLanguage_iff.mp hinfo]
  exact cut?_body hbody u

/-- A fence that begins in prose ends in the fence behind it, of which something is left. -/
theorem exists_backtick {more left : Text} (h : Unfenced more) (hne : more ≠ [])
    (hu : u = [] ∨ ∃ r, u = fence ++ r) (hleft : more ++ u = fence ++ left) :
    ∃ r, left = .char '\x60' :: r := by
  rcases List.append_eq_append_iff.mp hleft with ⟨used, hfence, hrest⟩ | ⟨r, hr, -⟩
  · rcases hu with rfl | ⟨r, rfl⟩
    · rw [(List.append_eq_nil_iff.mp hrest.symm).1, List.append_nil] at hfence
      exact absurd ⟨[], [], by rw [hfence, List.append_nil]; rfl⟩ h
    · have hlength : used.length < 3 := by
        have hsum := congrArg List.length hfence
        have hpos := List.length_pos_iff.mpr hne
        rw [List.length_append] at hsum
        have hthree : fence.length = 3 := rfl
        omega
      -- the fence begins with one or two characters of the prose and takes the others of the fence
      match used, hrest with
      | [], hrest => exact ⟨_, hrest.symm⟩
      | [x], hrest => exact ⟨_, (List.cons.inj hrest).2.symm⟩
      | [x, y], hrest => exact ⟨_, (List.cons.inj (List.cons.inj hrest).2).2.symm⟩
      | x :: y :: z :: used, _ =>
        rw [List.length_cons, List.length_cons, List.length_cons] at hlength
        omega
  · exact absurd ⟨[], r, hr.symm⟩ h

/-- No block opens inside of prose, also not with the backticks at its end. -/
theorem silent_of_unfenced (h : Unfenced lead) (before : Option CodePoint)
    (hu : u = [] ∨ ∃ r, u = fence ++ r) : Pattern.Silent block before lead u := by
  induction lead generalizing before with
  | nil => exact Pattern.silent_nil block before u
  | cons c r ih =>
    rw [Pattern.silent_cons_iff]
    refine ⟨?_, ih h.of_cons (some c)⟩
    -- a fence that begins here runs into the one behind, and then a backtick stands where a
    -- language would
    cases hfence : Text.after? fence (c :: (r ++ u)) with
    | none =>
      rw [block_eq, hfence]
      rfl
    | some left =>
      rw [Text.after?_eq_some_iff] at hfence
      obtain ⟨more, rfl⟩ := exists_backtick h (List.cons_ne_nil c r) hu hfence
      rw [hfence]
      refine block_eq_none ?_ before
      rw [behindLanguage_backtick, List.head?_cons]
      exact fun hc => absurd (Option.some.inj hc) (by decide)

/-- What stands behind an opening fence does not begin with a backtick. -/
theorem exists_info_cons (htick : .char '\x60' ∉ info) (r : Text) :
    ∃ c more, info ++ .char '\n' :: r = c :: more ∧ c ≠ '\x60' := by
  cases info with
  | nil => exact ⟨'\n', r, rfl, by decide⟩
  | cons c info => exact ⟨c, info ++ .char '\n' :: r, rfl, fun h => htick (h ▸ List.mem_cons_self)⟩

/-- No block opens at a fence whose info string names no language. -/
theorem silent_fence (hinfo : ¬ NamesLanguage info) (hline : .char '\n' ∉ info)
    (htick : .char '\x60' ∉ info) (before : Option CodePoint) (r : Text) :
    Pattern.Silent block before fence (info ++ .char '\n' :: r) := by
  have hfirst : (behindLanguage (info ++ .char '\n' :: r)).head? ≠ some (.char '\n') := by
    rw [behindLanguage_info]
    cases hbehind : behindLanguage info with
    | nil => exact absurd (namesLanguage_iff.mpr hbehind) hinfo
    | cons c more =>
      have hsuffix : behindLanguage info <:+ info :=
        (List.dropWhile_suffix _).trans (List.dropWhile_suffix _)
      have hmem : c ∈ info := hsuffix.subset (by rw [hbehind]; exact List.mem_cons_self)
      rw [List.cons_append, List.head?_cons]
      intro hc
      rw [Option.some.inj hc] at hmem
      exact hline hmem
  -- one place further there are too few backticks in front of the info string
  obtain ⟨x, more, hshape, hx⟩ := exists_info_cons htick r
  have hshort : ∀ ticks : Text, ticks <+: [.char '\x60', .char '\x60'] →
      Text.after? fence (ticks ++ (info ++ .char '\n' :: r)) = none := by
    intro ticks hticks
    rw [hshape]
    rcases List.prefix_cons_iff.mp hticks with rfl | ⟨ticks, rfl, hmore⟩
    · simp [Text.after?, fence, hx.symm]
    · rcases List.prefix_cons_iff.mp hmore with rfl | ⟨ticks, rfl, hnil⟩
      · simp [Text.after?, fence, hx.symm]
      · rw [List.prefix_nil.mp hnil]
        simp [Text.after?, fence, hx.symm]
  have hlater : ∀ before, ∀ ticks : Text, ticks <+: [.char '\x60', .char '\x60'] →
      block before (ticks ++ (info ++ .char '\n' :: r)) = none := by
    intro before ticks hticks
    rw [block_eq, hshort ticks hticks]
    rfl
  have hfence : fence = [.char '\x60', .char '\x60', .char '\x60'] := rfl
  rw [hfence, Pattern.silent_cons_iff, Pattern.silent_cons_iff, Pattern.silent_cons_iff]
  exact ⟨block_eq_none hfirst before, hlater _ [.char '\x60', .char '\x60'] List.prefix_rfl,
    hlater _ [.char '\x60'] ⟨[.char '\x60'], rfl⟩, Pattern.silent_nil _ _ _⟩

/-! ## Counting fences -/

/-- The number of fences in a text, of the first of which `k` backticks were read before. -/
def fences : Nat → Text → Nat
  | _, [] => 0
  | k, c :: r =>
    if c = '\x60' then if k = 2 then fences 0 r + 1 else fences (k + 1) r else fences 0 r

/-- Backticks in front of a text make up for a fence at most. -/
theorem fences_le_fences {j k : Nat} (hjk : j ≤ k) (hk : k ≤ 2) (t : Text) :
    fences j t ≤ fences k t ∧ fences k t ≤ fences j t + 1 := by
  -- `j` and `k` are how many backticks of a fence were seen; a longer run may close one fence more,
  -- never two
  induction t generalizing j k with
  | nil => exact ⟨Nat.le_refl 0, Nat.zero_le 1⟩
  | cons c r ih =>
    rw [fences, fences]
    by_cases hc : c = '\x60'
    · rw [if_pos hc, if_pos hc]
      by_cases hk2 : k = 2
      · by_cases hj2 : j = 2
        · rw [if_pos hk2, if_pos hj2]
          omega
        · rw [if_pos hk2, if_neg hj2]
          -- the run of `k` closes a fence here, that of `j` is still short of one
          have hstep := ih (Nat.zero_le (j + 1)) (by omega)
          omega
      · rw [if_neg hk2, if_neg (by omega)]
        exact ih (by omega) (by omega)
    · rw [if_neg hc, if_neg hc]
      omega

theorem fences_fence (t : Text) : fences 0 (fence ++ t) = fences 0 t + 1 := rfl

/-- More text in front takes no fence away. -/
theorem fences_le_append (front t : Text) : fences 0 t ≤ fences 0 (front ++ t) := by
  induction front with
  | nil => exact Nat.le_refl _
  | cons c r ih =>
    rw [List.cons_append, fences]
    split
    · have hstep := (fences_le_fences (Nat.zero_le 1) (by omega) (r ++ t)).1
      exact Nat.le_trans ih hstep
    · exact ih

/-- A block that is found begins with a fence, and another one closes it. -/
theorem exists_fences_of_block {rest : Text} (h : block before t = some (body, rest)) :
    ∃ front, t = fence ++ (front ++ (fence ++ rest)) := by
  rw [block_eq] at h
  obtain ⟨line, hopen, h⟩ := Option.bind_eq_some_iff.mp h
  obtain ⟨more, hlanguage, hclose⟩ := Option.bind_eq_some_iff.mp h
  rw [Text.after?_eq_some_iff] at hopen hlanguage
  have hsuffix : behindLanguage line <:+ line :=
    (List.dropWhile_suffix _).trans (List.dropWhile_suffix _)
  obtain ⟨language, hline⟩ := hsuffix
  refine ⟨language ++ .char '\n' :: body, ?_⟩
  rw [hopen, ← hline, hlanguage, Text.eq_append_of_cut? hclose]
  simp

/-- Each block that is found takes two fences. -/
theorem two_mul_length_findFrom_le (skip : Nat) (before : Option CodePoint) (t : Text) :
    2 * (Pattern.findFrom block skip before t).length ≤ fences 0 (t.drop skip) := by
  induction t generalizing skip before with
  | nil =>
    rw [Pattern.findFrom_nil]
    exact Nat.zero_le _
  | cons c r ih =>
    cases skip with
    | succ skip => exact ih skip (some c)
    | zero =>
      rw [Pattern.findFrom]
      cases hread : block before (c :: r) with
      | none => exact Nat.le_trans (ih 0 (some c)) (fences_le_append [c] r)
      | some found =>
        obtain ⟨body, rest⟩ := found
        obtain ⟨front, hline⟩ := exists_fences_of_block hread
        have hsuffix : rest <:+ r := by
          have htail : r = .char '\x60' :: .char '\x60' :: (front ++ (fence ++ rest)) :=
            (List.cons.inj hline).2
          rw [htail]
          exact ⟨.char '\x60' :: .char '\x60' :: (front ++ fence), by simp⟩
        have hrest : rest = r.drop (r.length - rest.length) := List.suffix_iff_eq_drop.mp hsuffix
        have hmore := ih (r.length - rest.length) (some c)
        rw [← hrest] at hmore
        -- the opening fence and the closing one are gone from what is left
        have htwo : fences 0 rest + 2 ≤ fences 0 (c :: r) := by
          rw [hline, fences_fence]
          have hclose := fences_le_append front (fence ++ rest)
          rw [fences_fence] at hclose
          omega
        rw [List.length_cons, List.drop_zero]
        omega

/-- In front of prose without fences a count goes on with few backticks at most. -/
theorem exists_fences_append {k : Nat} (hk : k ≤ 2)
    (h : Unfenced (List.replicate k (.char '\x60') ++ t)) (u : Text) :
    ∃ j ≤ 2, fences k (t ++ u) = fences j u := by
  -- `k` backticks stand before `t`; an unfenced text never brings them to three
  induction t generalizing k with
  | nil => exact ⟨k, hk, rfl⟩
  | cons c r ih =>
    rw [List.cons_append, fences]
    by_cases hc : c = '\x60'
    · subst hc
      have hshift : List.replicate k (.char '\x60') ++ .char '\x60' :: r =
          List.replicate (k + 1) (.char '\x60') ++ r := by
        rw [List.replicate_succ', List.append_assoc, List.singleton_append]
      rw [hshift] at h
      have hk2 : k ≠ 2 := by
        rintro rfl
        exact h ⟨[], r, rfl⟩
      rw [if_pos rfl, if_neg hk2]
      exact ih (by omega) h
    · rw [if_neg hc]
      refine ih (by omega) ?_
      -- another character ends the run, and a fence behind it would be one of the whole text
      rw [List.replicate_zero, List.nil_append]
      intro hwithin
      exact h (hwithin.trans ⟨List.replicate k (.char '\x60') ++ [c], [], by simp⟩)

/-- Behind prose each fence in front of another character is counted once. -/
theorem fences_prose (h : Unfenced lead) {c : CodePoint} (hc : c ≠ '\x60') (r : Text) :
    fences 0 (lead ++ (fence ++ c :: r)) = fences 0 (c :: r) + 1 := by
  obtain ⟨j, hj, hcount⟩ := exists_fences_append (k := 0) (by omega) h (fence ++ c :: r)
  have hskip : ∀ i, fences i (c :: r) = fences 0 r := by
    intro i
    rw [fences, if_neg hc]
  rw [hcount, hskip]
  match j, hj with
  | 0, _ => exact congrArg (· + 1) (hskip 0)
  | 1, _ => exact congrArg (· + 1) (hskip 1)
  | 2, _ => exact congrArg (· + 1) (hskip 2)

/-- A line without fences counts for nothing, since its end parts its backticks from the next ones.
-/
theorem fences_line (h : Unfenced t) (r : Text) : fences 0 (t ++ .char '\n' :: r) = fences 0 r := by
  obtain ⟨j, -, hcount⟩ := exists_fences_append (k := 0) (by omega) h (.char '\n' :: r)
  rw [hcount, fences, if_neg (by decide)]

/-- In a text without fences none is counted. -/
theorem fences_unfenced (h : Unfenced t) : fences 0 t = 0 := by
  obtain ⟨j, -, hcount⟩ := exists_fences_append (k := 0) (by omega) h []
  rw [← List.append_nil t, hcount]
  rfl

/-! ## Sections -/

variable {s : Section} {sections : List Section}

theorem hoverText_nil (lead : Text) : hoverText lead [] = lead := List.append_nil lead

/-- The prose behind a block leads to the next one. -/
theorem hoverText_cons (lead : Text) (s : Section) (sections : List Section) :
    hoverText lead (s :: sections) =
      lead ++ (fenced s.info s.body ++ hoverText s.prose sections) := by
  rw [hoverText, hoverText, List.flatMap_cons, Section.text, List.append_assoc]

/-- A block in front of a text, written out. -/
theorem fenced_append (info body u : Text) :
    fenced info body ++ u =
      fence ++ (info ++ .char '\n' :: (body ++ .char '\n' :: (fence ++ u))) := by
  simp [fenced]

/-- A block is not empty. -/
theorem fenced_ne_nil : fenced info body ≠ [] := by
  have hfence : fence ≠ [] := by decide
  rw [← List.append_nil (fenced info body), fenced_append]
  exact List.append_ne_nil_of_left_ne_nil hfence _

theorem getLast?_fenced : (fenced info body).getLast? = some (.char '\x60') := by
  rw [fenced, List.getLast?_append]
  rfl

/-- The first block behind prose is found, whatever stands behind it. -/
theorem findFrom_fenced (hlead : Unfenced lead) (hinfo : NamesLanguage info)
    (hbody : Unfenced body) (before : Option CodePoint) (back : Text) :
    Pattern.findFrom block 0 before (lead ++ (fenced info body ++ back)) =
      (body ++ [.char '\n']) :: Pattern.findFrom block 0 (some (.char '\x60')) back := by
  rw [Pattern.findFrom_of_silent
      (silent_of_unfenced hlead before (Or.inr ⟨_, fenced_append info body back⟩)),
    Pattern.findFrom_of_match fenced_ne_nil (block_fenced hinfo hbody _), getLast?_fenced,
    Option.some_or]

/-- Two fences are written for each block. -/
theorem fences_hoverText (hlead : Unfenced lead) (h : ∀ s ∈ sections, s.WellFormed) :
    fences 0 (hoverText lead sections) = 2 * sections.length := by
  induction sections generalizing lead with
  | nil => rw [hoverText_nil, fences_unfenced hlead, List.length_nil]
  | cons s sections ih =>
    obtain ⟨hs, hmore⟩ := List.forall_mem_cons.mp h
    have hinfo : Unfenced s.info := unfenced_of_not_mem hs.noBacktick
    -- behind the opening fence there are the closing one and those of the other sections
    have hbody : fences 0 (s.info ++ .char '\n' :: (s.body ++ .char '\n' ::
        (fence ++ hoverText s.prose sections))) = 2 * sections.length + 1 := by
      rw [fences_line hinfo, fences_line hs.body, fences_fence, ih hs.prose hmore]
    obtain ⟨c, r, hshape, hc⟩ := exists_info_cons hs.noBacktick
      (s.body ++ .char '\n' :: (fence ++ hoverText s.prose sections))
    rw [hshape] at hbody
    rw [hoverText_cons, fenced_append, hshape, fences_prose hlead hc, hbody, List.length_cons]
    omega

/-- No more blocks are found than were written. -/
theorem length_findFrom_le (hlead : Unfenced lead) (h : ∀ s ∈ sections, s.WellFormed)
    (before : Option CodePoint) :
    (Pattern.findFrom block 0 before (hoverText lead sections)).length ≤ sections.length := by
  have htwo := two_mul_length_findFrom_le 0 before (hoverText lead sections)
  rw [List.drop_zero, fences_hoverText hlead h] at htwo
  omega

/-- A block whose info string names a language is found. -/
theorem findFrom_of_namesLanguage (hlead : Unfenced lead) (hs : s.WellFormed)
    (hinfo : NamesLanguage s.info) (before : Option CodePoint) (sections : List Section) :
    Pattern.findFrom block 0 before (hoverText lead (s :: sections)) =
      (s.body ++ [.char '\n']) ::
        Pattern.findFrom block 0 (some (.char '\x60')) (hoverText s.prose sections) := by
  rw [hoverText_cons, findFrom_fenced hlead hinfo hs.body]

/-- Where the info string of a block names no language, too few blocks are found. -/
theorem length_findFrom_lt (hlead : Unfenced lead) (hs : s.WellFormed)
    (hmore : ∀ s ∈ sections, s.WellFormed) (hinfo : ¬ NamesLanguage s.info)
    (before : Option CodePoint) :
    (Pattern.findFrom block 0 before (hoverText lead (s :: sections))).length ≤
      sections.length := by
  -- one of the fences is left over when the opening one is passed
  have hfences : fences 0 (s.info ++ .char '\n' :: (s.body ++ .char '\n' ::
      (fence ++ hoverText s.prose sections))) = 2 * sections.length + 1 := by
    rw [fences_line (unfenced_of_not_mem hs.noBacktick), fences_line hs.body, fences_fence,
      fences_hoverText hs.prose hmore]
  rw [hoverText_cons, Pattern.findFrom_of_silent
    (silent_of_unfenced hlead before (Or.inr ⟨_, fenced_append s.info s.body _⟩)), fenced_append,
    Pattern.findFrom_of_silent (silent_fence hinfo hs.oneLine hs.noBacktick _ _)]
  have htwo := two_mul_length_findFrom_le 0 (fence.getLast?.or (lead.getLast?.or before))
    (s.info ++ .char '\n' :: (s.body ++ .char '\n' :: (fence ++ hoverText s.prose sections)))
  rw [List.drop_zero, hfences] at htwo
  omega

/-- The bodies of all blocks are found when the info strings name languages. -/
theorem findFrom_hoverText (hlead : Unfenced lead) (h : ∀ s ∈ sections, s.WellFormed)
    (hinfo : ∀ s ∈ sections, NamesLanguage s.info) (before : Option CodePoint) :
    Pattern.findFrom block 0 before (hoverText lead sections) =
      sections.map fun s => s.body ++ [.char '\n'] := by
  induction sections generalizing lead before with
  | nil =>
    have hnone := length_findFrom_le hlead h before
    exact List.length_eq_zero_iff.mp (Nat.le_zero.mp hnone)
  | cons s sections ih =>
    obtain ⟨hs, hmore⟩ := List.forall_mem_cons.mp h
    obtain ⟨hinfo, hinfos⟩ := List.forall_mem_cons.mp hinfo
    rw [findFrom_of_namesLanguage hlead hs hinfo, ih hs.prose hmore hinfos, List.map_cons]

/-- When as many blocks are found as were written, their info strings name languages. -/
theorem namesLanguage_of_length (hlead : Unfenced lead) (h : ∀ s ∈ sections, s.WellFormed)
    (before : Option CodePoint)
    (hlength : (Pattern.findFrom block 0 before (hoverText lead sections)).length =
      sections.length) :
    ∀ s ∈ sections, NamesLanguage s.info := by
  induction sections generalizing lead before with
  | nil => exact List.forall_mem_nil _
  | cons s sections ih =>
    obtain ⟨hs, hmore⟩ := List.forall_mem_cons.mp h
    -- a block that is missed cannot be made up for by the blocks behind it
    by_cases hinfo : NamesLanguage s.info
    · rw [findFrom_of_namesLanguage hlead hs hinfo, List.length_cons, List.length_cons,
        Nat.add_right_cancel_iff] at hlength
      exact List.forall_mem_cons.mpr ⟨hinfo, ih hs.prose hmore _ hlength⟩
    · have hfew := length_findFrom_lt hlead hs hmore hinfo before
      rw [hlength, List.length_cons] at hfew
      omega

/-- The bodies are read back when the info strings name languages. -/
theorem codeBlocks_hoverText (hlead : Unfenced lead) (h : ∀ s ∈ sections, s.WellFormed)
    (hinfo : ∀ s ∈ sections, NamesLanguage s.info) :
    codeBlocks (hoverText lead sections) = sections.map fun s => Text.trim s.body := by
  have hbreak : Text.isBlank '\n' = true := by decide
  unfold codeBlocks Pattern.findAll
  rw [findFrom_hoverText hlead h hinfo, List.map_map]
  refine List.map_congr_left fun s _ => ?_
  exact Text.trim_concat_blank hbreak s.body

/-- The code blocks of a hover text are its bodies, in order, exactly when the info string of each
block names a language. -/
theorem codeBlocks_hoverText_iff (hlead : Unfenced lead) (h : ∀ s ∈ sections, s.WellFormed) :
    codeBlocks (hoverText lead sections) = sections.map (fun s => Text.trim s.body) ↔
      ∀ s ∈ sections, NamesLanguage s.info := by
  constructor
  · intro hblocks
    have hlength := congrArg List.length hblocks
    unfold codeBlocks Pattern.findAll at hlength
    rw [List.length_map, List.length_map] at hlength
    exact namesLanguage_of_length hlead h none hlength
  · intro hinfo
    exact codeBlocks_hoverText hlead h hinfo

/-- A hover with the module in front of the method, and an example behind it. -/
def methodSections : List Section :=
  [⟨"rust ".text, "app::flow".text, "\n\n".text⟩,
    ⟨"rust".text, "fn map(self) -> \x60\x60Stream".text, "\n---\nSee \x60fold\x60:\n".text⟩,
    ⟨"c++".text, "".text, "\n".text⟩]

/-- A hover with single backticks in its prose and in its code, and with an empty block, is read
back. -/
theorem codeBlocks_hoverText_iff_method :
    Unfenced "\x60\x60".text ∧ (∀ s ∈ methodSections, s.WellFormed) ∧
      codeBlocks (hoverText "\x60\x60".text methodSections) =
        ["app::flow".text, "fn map(self) -> \x60\x60Stream".text, []] := by
  have hlead : Unfenced "\x60\x60".text := by decide
  have hsections : ∀ s ∈ methodSections, s.WellFormed := by decide
  have hinfo : ∀ s ∈ methodSections, NamesLanguage s.info := by
    simp only [namesLanguage_iff]
    decide
  exact ⟨hlead, hsections, (codeBlocks_hoverText_iff hlead hsections).mpr hinfo⟩

/-- The info string of the first block says more than the language. -/
def ignoredSections : List Section :=
  [⟨"rust,ignore".text, "fn a()".text, "\nprose\n".text⟩,
    ⟨"rust".text, "fn b()".text, []⟩]

/-- The prose between two blocks is taken for code. -/
theorem prose_taken_for_code :
    Unfenced [] ∧ (∀ s ∈ ignoredSections, s.WellFormed) ∧
      codeBlocks (hoverText [] ignoredSections) = ["prose".text] ∧
      codeBlocks (hoverText [] ignoredSections) ≠
        ignoredSections.map (fun s => Text.trim s.body) := by
  have hblocks : codeBlocks (hoverText [] ignoredSections) = ["prose".text] := by decide
  refine ⟨by decide, by decide, hblocks, ?_⟩
  rw [hblocks]
  decide

end Placement.Hover
