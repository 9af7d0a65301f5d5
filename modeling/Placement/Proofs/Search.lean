import Placement.Proofs.Text

/-!
# Placement.Proofs.Search — what a search finds, and what replacing leaves

A place of a text is a cut in front of one of its characters. A search tries its
pattern at each place, with the character before it: it finds nothing exactly when
the pattern reads nothing at any place (`find?_eq_none_iff`), or at any place of the
first line (`findInLine?_eq_none_iff`). Whatever it finds was read at some place
(`exists_of_find?`, `exists_of_mem_findFrom`).

A search passes over a text at no place of which the pattern reads (`find?_of_silent`,
`findFrom_of_silent`), and one for every match goes on behind what a match takes
(`findFrom_of_match`), which is the recursion of `match_induction`. When no match begins inside of another one (`Apart`), the matches
are the `readings` at all places, whatever text these are cut into
(`findFrom_eq_readings`, `readings_append`).

Replacing passes over texts and matches in the same way (`replaceFrom_of_silent`,
`replaceFrom_of_match`). It leaves a text as it is when every match is replaced by
itself (`replaceAll_eq_self`), and keeps the characters that no match holds
(`mem_replaceAll`).
-/

namespace Placement.Text

/-- What is said of all places of a text is said of the first one and of those behind it. -/
theorem forall_places_cons_iff {P : Text → CodePoint → Text → Prop} {x : CodePoint} {r : Text} :
    (∀ front c back, x :: r = front ++ c :: back → P front c back) ↔
      P [] x r ∧ ∀ front c back, r = front ++ c :: back → P (x :: front) c back := by
  constructor
  · intro h
    refine ⟨h [] x r rfl, ?_⟩
    rintro front c back rfl
    exact h (x :: front) c back rfl
  · rintro ⟨hfirst, hmore⟩ front c back ht
    -- the first place of the text, or a place of the rest
    cases front with
    | nil =>
      rcases List.cons.inj ht with ⟨rfl, rfl⟩
      exact hfirst
    | cons y front =>
      rcases List.cons.inj ht with ⟨rfl, hr⟩
      exact hmore front c back hr

/-- What is said of all cuts of a text is said of those behind its first characters. -/
theorem forall_cuts_iff {P : Text → Text → Prop} {t : Text} :
    (∀ front back, t = front ++ back → P front back) ↔
      ∀ n < t.length + 1, P (t.take n) (t.drop n) := by
  constructor
  · intro h n _
    exact h _ _ (List.take_append_drop n t).symm
  · rintro h front back rfl
    have hcut := h front.length (by rw [List.length_append]; omega)
    rwa [List.take_left, List.drop_left] at hcut

namespace Pattern

variable {α : Type} {p : Pattern α} {before : Option CodePoint} {t : Text}

/-! ## Searching -/

/-- A search finds nothing when the pattern reads nothing at any place. -/
theorem find?_eq_none_iff :
    find? p before t = none ↔
      ∀ front c back, t = front ++ c :: back →
        p (front.getLast?.or before) (c :: back) = none := by
  induction t generalizing before with
  | nil => simp [find?]
  | cons x r ih =>
    rw [find?, Option.or_eq_none_iff, ih, forall_places_cons_iff]
    simp only [getLast?_cons_or, List.getLast?_nil, Option.none_or]

/-- A search in the first line finds nothing when the pattern reads nothing at any place of it. -/
theorem findInLine?_eq_none_iff :
    findInLine? p before t = none ↔
      ∀ front c back, t = front ++ c :: back → .char '\n' ∉ front →
        p (front.getLast?.or before) (c :: back) = none := by
  induction t generalizing before with
  | nil => simp [findInLine?]
  | cons x r ih =>
    rw [findInLine?, Option.or_eq_none_iff, forall_places_cons_iff]
    simp only [getLast?_cons_or, List.getLast?_nil, Option.none_or, List.not_mem_nil,
      not_false_eq_true, forall_const]
    by_cases hx : x = '\n'
    · simp [hx]
    · rw [if_neg hx, ih]
      simp [Ne.symm hx]

/-- What a search finds was read at some place. -/
theorem exists_of_find? {found : α × Text} (h : find? p before t = some found) :
    ∃ front c back, t = front ++ c :: back ∧
      p (front.getLast?.or before) (c :: back) = some found := by
  induction t generalizing before with
  | nil => cases h
  | cons x r ih =>
    rw [find?, Option.or_eq_some_iff] at h
    rcases h with hhere | ⟨-, hmore⟩
    · exact ⟨[], x, r, rfl, hhere⟩
    · obtain ⟨front, c, back, rfl, hread⟩ := ih hmore
      exact ⟨x :: front, c, back, rfl, by rwa [getLast?_cons_or]⟩

theorem findFrom_nil (p : Pattern α) (skip : Nat) (before : Option CodePoint) :
    findFrom p skip before [] = [] := findFrom.eq_1 p skip before

/-- What a search for every match finds was read at some place. -/
theorem exists_of_mem_findFrom {skip : Nat} {a : α} (h : a ∈ findFrom p skip before t) :
    ∃ front c back rest, t = front ++ c :: back ∧
      p (front.getLast?.or before) (c :: back) = some (a, rest) := by
  induction t generalizing skip before with
  | nil =>
    rw [findFrom_nil] at h
    exact absurd h List.not_mem_nil
  | cons c r ih =>
    -- a place of the rest has one character more in front of it
    have hmore : ∀ {skip}, a ∈ findFrom p skip (some c) r →
        ∃ front x back rest, c :: r = front ++ x :: back ∧
          p (front.getLast?.or before) (x :: back) = some (a, rest) := by
      intro skip hmem
      rcases ih hmem with ⟨front, x, back, rest, rfl, hread⟩
      exact ⟨c :: front, x, back, rest, rfl, by rwa [getLast?_cons_or]⟩
    cases skip with
    | succ skip => exact hmore h
    | zero =>
      rw [findFrom] at h
      cases hp : p before (c :: r) with
      | none =>
        rw [hp] at h
        exact hmore h
      | some found =>
        rw [hp] at h
        rcases List.mem_cons.mp h with rfl | h
        · exact ⟨[], c, r, found.2, rfl, hp⟩
        · exact hmore h

/-! ## Every match -/

/-- The pattern reads nothing at any place of a text that `rest` stands behind. -/
def Silent (p : Pattern α) (before : Option CodePoint) (t rest : Text) : Prop :=
  ∀ front c back, t = front ++ c :: back →
    p (front.getLast?.or before) (c :: (back ++ rest)) = none

/-- The empty text has no places. -/
theorem silent_nil (p : Pattern α) (before : Option CodePoint) (rest : Text) :
    Silent p before [] rest := by
  intro front c back ht
  simp at ht

/-- The first place is one of a text, and the others are those of the rest. -/
theorem silent_cons_iff {c : CodePoint} {rest : Text} :
    Silent p before (c :: t) rest ↔
      p before (c :: (t ++ rest)) = none ∧ Silent p (some c) t rest := by
  unfold Silent
  rw [forall_places_cons_iff]
  simp only [getLast?_cons_or, List.getLast?_nil, Option.none_or]

/-- The places of two texts are those of the first one, in front of the second, and then those of
the second. -/
theorem silent_append_iff {u rest : Text} :
    Silent p before (t ++ u) rest ↔
      Silent p before t (u ++ rest) ∧ Silent p (t.getLast?.or before) u rest := by
  induction t generalizing before with
  | nil => exact (and_iff_right (silent_nil p before _)).symm
  | cons c r ih =>
    rw [List.cons_append, silent_cons_iff, silent_cons_iff, ih, getLast?_cons_or, List.append_assoc,
      and_assoc]

/-- A pattern is silent on a text of characters at which it reads nothing. -/
theorem silent_of_forall_mem {rest : Text} (h : ∀ c ∈ t, ∀ before r, p before (c :: r) = none) :
    Silent p before t rest := by
  intro front c back ht
  refine h c ?_ _ _
  rw [ht]
  exact List.mem_append_right front List.mem_cons_self

/-- It is silent, too, on a text of characters behind which it reads nothing, when it reads nothing
behind the character before the text. -/
theorem silent_of_forall_before {rest : Text} (hbefore : ∀ r, p before r = none)
    (h : ∀ c ∈ t, ∀ r, p (some c) r = none) : Silent p before t rest := by
  induction t generalizing before with
  | nil => exact silent_nil p before rest
  | cons c r ih =>
    obtain ⟨hc, hr⟩ := List.forall_mem_cons.mp h
    rw [silent_cons_iff]
    exact ⟨hbefore _, ih hc hr⟩

/-- A search passes over a text at no place of which the pattern reads anything. -/
theorem findFrom_of_silent {rest : Text} (h : Silent p before t rest) :
    findFrom p 0 before (t ++ rest) = findFrom p 0 (t.getLast?.or before) rest := by
  induction t generalizing before with
  | nil => rfl
  | cons c r ih =>
    rw [silent_cons_iff] at h
    rw [List.cons_append, findFrom, h.1, getLast?_cons_or]
    exact ih h.2

/-- So does a search for the first match. -/
theorem find?_of_silent {rest : Text} (h : Silent p before t rest) :
    find? p before (t ++ rest) = find? p (t.getLast?.or before) rest := by
  induction t generalizing before with
  | nil => rfl
  | cons c r ih =>
    rw [silent_cons_iff] at h
    rw [List.cons_append, find?, h.1, Option.none_or, getLast?_cons_or]
    exact ih h.2

/-- A match at the first place is the one that is found. -/
theorem find?_of_match {found : α × Text} (hne : t ≠ []) (h : p before t = some found) :
    find? p before t = some found := by
  obtain ⟨c, r, rfl⟩ := List.exists_cons_of_ne_nil hne
  rw [find?, h, Option.some_or]

/-- Nothing is found in a text at no place of which the pattern reads anything. -/
theorem findFrom_eq_nil (h : Silent p before t []) : findFrom p 0 before t = [] := by
  have hpassed := findFrom_of_silent h
  rw [List.append_nil] at hpassed
  rw [hpassed, findFrom_nil]

/-- Going through a text as a search does: place by place where nothing is read, and behind all
that is taken where there is a match. -/
theorem match_induction {P : Option CodePoint → Text → Prop}
    (hp : ∀ before t a rest, p before t = some (a, rest) → ∃ taken, taken ≠ [] ∧ t = taken ++ rest)
    (nil : ∀ before, P before [])
    (pass : ∀ before c r, p before (c :: r) = none → P (some c) r → P before (c :: r))
    (found : ∀ before taken a rest, taken ≠ [] → p before (taken ++ rest) = some (a, rest) →
      P (taken.getLast?.or before) rest → P before (taken ++ rest))
    (before : Option CodePoint) (t : Text) : P before t := by
  -- on the length, as a match takes several characters at once
  induction hn : t.length using Nat.strongRecOn generalizing before t with
  | ind n ih =>
    cases t with
    | nil => exact nil before
    | cons c r =>
      cases hread : p before (c :: r) with
      | none =>
        rw [List.length_cons] at hn
        exact pass before c r hread (ih r.length (by omega) (some c) r rfl)
      | some taking =>
        obtain ⟨a, rest⟩ := taking
        obtain ⟨taken, hne, ht⟩ := hp before (c :: r) a rest hread
        have hshort : rest.length < n := by
          have hpos := List.length_pos_iff.mpr hne
          rw [← hn, ht, List.length_append]
          omega
        rw [ht] at hread ⊢
        exact found before taken a rest hne hread (ih rest.length hshort _ rest rfl)

/-- A search goes on behind what a match takes. -/
theorem findFrom_of_match {taken rest : Text} {a : α} (hne : taken ≠ [])
    (h : p before (taken ++ rest) = some (a, rest)) :
    findFrom p 0 before (taken ++ rest) =
      a :: findFrom p 0 (taken.getLast?.or before) rest := by
  cases taken with
  | nil => exact absurd rfl hne
  | cons c more =>
    rw [List.cons_append] at h
    have hskip : (more ++ rest).length - rest.length = more.length := by
      rw [List.length_append, Nat.add_sub_cancel]
    rw [List.cons_append, findFrom, h, getLast?_cons_or]
    simp only [hskip, findFrom_append]

/-- What a pattern reads at the places of a text that `rest` stands behind. -/
def readings (p : Pattern α) (before : Option CodePoint) : Text → Text → List α
  | [], _ => []
  | c :: r, rest => ((p before (c :: (r ++ rest))).map (·.1)).toList ++ readings p (some c) r rest

/-- The readings of two texts are those of the first one, in front of the second, and then those of
the second. -/
theorem readings_append (t u rest : Text) :
    readings p before (t ++ u) rest =
      readings p before t (u ++ rest) ++ readings p (t.getLast?.or before) u rest := by
  induction t generalizing before with
  | nil => rfl
  | cons c r ih =>
    rw [List.cons_append, readings, readings, ih, getLast?_cons_or, List.append_assoc,
      List.append_assoc]

/-- Where the pattern reads nothing there are no readings. -/
theorem readings_of_silent {rest : Text} (h : Silent p before t rest) :
    readings p before t rest = [] := by
  induction t generalizing before with
  | nil => rfl
  | cons c r ih =>
    rw [silent_cons_iff] at h
    rw [readings, h.1, ih h.2]
    rfl

/-- What is read was read at some place. -/
theorem exists_of_mem_readings {rest : Text} {a : α} (h : a ∈ readings p before t rest) :
    ∃ front c back left, t = front ++ c :: back ∧
      p (front.getLast?.or before) (c :: (back ++ rest)) = some (a, left) := by
  induction t generalizing before with
  | nil => cases h
  | cons c r ih =>
    rw [readings, List.mem_append, Option.mem_toList, Option.map_eq_some_iff] at h
    rcases h with ⟨⟨_, left⟩, hread, rfl⟩ | h
    · exact ⟨[], c, r, left, rfl, hread⟩
    · obtain ⟨front, x, back, left, rfl, hread⟩ := ih h
      exact ⟨c :: front, x, back, left, rfl, by rwa [getLast?_cons_or]⟩

/-- No match of the pattern begins inside of another one. -/
def Apart (p : Pattern α) : Prop :=
  ∀ before t a rest, p before t = some (a, rest) →
    ∃ c more, t = c :: (more ++ rest) ∧ Silent p (some c) more rest

/-- Where a match begins that no other one begins inside of, it is all that is read. -/
theorem readings_of_match {taken rest : Text} {a : α} (hp : Apart p)
    (h : p before (taken ++ rest) = some (a, rest)) : readings p before taken rest = [a] := by
  obtain ⟨c, more, ht, hsilent⟩ := hp before _ a rest h
  rw [← List.cons_append, List.append_cancel_right_eq] at ht
  subst ht
  rw [readings, ← List.cons_append, h, readings_of_silent hsilent]
  rfl

/-- Of matches that stand apart none is left out. -/
theorem findFrom_eq_readings (hp : Apart p) (before : Option CodePoint) (t : Text) :
    findFrom p 0 before t = readings p before t [] := by
  refine match_induction (p := p)
    (P := fun before t => findFrom p 0 before t = readings p before t []) ?_ ?_ ?_ ?_ before t
  · intro before t a rest hread
    obtain ⟨c, more, ht, -⟩ := hp before t a rest hread
    exact ⟨c :: more, List.cons_ne_nil c more, ht⟩
  · intro before
    exact findFrom_nil p 0 before
  · intro before c r hnone ih
    rw [findFrom, hnone, readings, List.append_nil, hnone]
    exact ih
  · intro before taken a rest hne hread ih
    rw [findFrom_of_match hne hread, readings_append, List.append_nil, readings_of_match hp hread,
      ih]
    rfl

/-! ## Replacing -/

/-- Replacing passes over the characters that belong to the match before. -/
theorem replaceFrom_append (p : Pattern Text) (before : Option CodePoint) (front t : Text) :
    replaceFrom p front.length before (front ++ t) =
      replaceFrom p 0 (front.getLast?.or before) t := by
  induction front generalizing before with
  | nil => rfl
  | cons c r ih => rw [List.length_cons, List.cons_append, replaceFrom, ih, getLast?_cons_or]

/-- A text at no place of which the pattern reads anything is left as it is. -/
theorem replaceFrom_of_silent {p : Pattern Text} {rest : Text} (h : Silent p before t rest) :
    replaceFrom p 0 before (t ++ rest) = t ++ replaceFrom p 0 (t.getLast?.or before) rest := by
  induction t generalizing before with
  | nil => rfl
  | cons c r ih =>
    rw [silent_cons_iff] at h
    rw [List.cons_append, replaceFrom, h.1, getLast?_cons_or]
    exact congrArg (c :: ·) (ih h.2)

/-- What a match takes is replaced, and replacing goes on behind it. -/
theorem replaceFrom_of_match {p : Pattern Text} {taken new rest : Text} (hne : taken ≠ [])
    (h : p before (taken ++ rest) = some (new, rest)) :
    replaceFrom p 0 before (taken ++ rest) =
      new ++ replaceFrom p 0 (taken.getLast?.or before) rest := by
  cases taken with
  | nil => exact absurd rfl hne
  | cons c more =>
    rw [List.cons_append] at h
    have hskip : (more ++ rest).length - rest.length = more.length := by
      rw [List.length_append, Nat.add_sub_cancel]
    rw [List.cons_append, replaceFrom, h, getLast?_cons_or]
    simp only [hskip, replaceFrom_append]

/-- Replacing every match by itself leaves a text as it is. -/
theorem replaceAll_eq_self {p : Pattern Text} (t : Text)
    (h : ∀ before t new rest, p before t = some (new, rest) → new ≠ [] ∧ t = new ++ rest) :
    replaceAll p t = t := by
  refine match_induction (p := p) (P := fun before t => replaceFrom p 0 before t = t)
    ?_ ?_ ?_ ?_ none t
  · intro before t new rest hread
    exact ⟨new, h before t new rest hread⟩
  · intro before
    exact replaceFrom.eq_1 p 0 before
  · intro before c r hnone ih
    rw [replaceFrom, hnone]
    exact congrArg (c :: ·) ih
  · intro before taken new rest hne hread ih
    rw [replaceFrom_of_match hne hread, ih, ← (h before _ new rest hread).2]

/-- A character that no match holds is kept. -/
theorem mem_replaceAll {p : Pattern Text} {t : Text} {x : CodePoint}
    (h : ∀ before t new rest, p before t = some (new, rest) →
      ∃ taken, taken ≠ [] ∧ x ∉ taken ∧ t = taken ++ rest)
    (hx : x ∈ t) : x ∈ replaceAll p t := by
  refine match_induction (p := p) (P := fun before t => x ∈ t → x ∈ replaceFrom p 0 before t)
    ?_ ?_ ?_ ?_ none t hx
  · intro before t new rest hread
    obtain ⟨taken, hne, -, ht⟩ := h before t new rest hread
    exact ⟨taken, hne, ht⟩
  · intro before hx
    cases hx
  · intro before c r hnone ih hx
    rw [replaceFrom, hnone]
    rcases List.mem_cons.mp hx with rfl | hx
    · exact List.mem_cons_self
    · exact List.mem_cons_of_mem c (ih hx)
  · intro before taken new rest hne hread ih hx
    rw [replaceFrom_of_match hne hread]
    -- a match takes no `x`, so `x` stands in the rest it leaves
    obtain ⟨taken', -, htaken, ht⟩ := h before _ new rest hread
    obtain rfl := List.append_cancel_right ht
    exact List.mem_append_right new (ih ((List.mem_append.mp hx).resolve_left htaken))

end Pattern

end Placement.Text
