import Placement.Text.CodePoint

/-!
# Placement.Text.Basic — texts as sequences of code points

Positions, lengths and cuts are counted in code points everywhere in this
library, so a text is the list of its code points. This module holds the type
and the cuts that know nothing about what the code points mean:

* `after?`, `before?`, `between?` — what a text holds behind a fixed beginning,
  in front of a fixed end, or between the two;
* `contains`, `cut?`, `splitOn`, `chomp` — searching for a text, cutting at a mark,
  dropping a run of a character from the end;
* `ofNat`, `ofInt` — numbers in decimal digits;
* `String.text` — the text of a string, in which there are characters only.

`after?_eq_some_iff` and `before?_eq_some_iff` say that a cut succeeds exactly
when the text is put together from the two parts.
-/

namespace Placement

/-- A text: its code points in order. -/
abbrev Text := List CodePoint

end Placement

/-- The text of a string. -/
@[simp] abbrev String.text (s : String) : Placement.Text := s.toList.map Placement.CodePoint.char

namespace Placement

namespace Text

/-! ## Fixed beginnings and ends -/

/-- What follows `lead` in a text that begins with it. -/
def after? : Text → Text → Option Text
  | [], t => some t
  | _ :: _, [] => none
  | p :: ps, c :: r => if p = c then after? ps r else none

theorem after?_eq_some_iff {lead t rest : Text} : after? lead t = some rest ↔ t = lead ++ rest := by
  induction lead generalizing t with
  | nil => simp [after?]
  | cons p ps ih =>
    cases t with
    | nil => simp [after?]
    | cons c r =>
      by_cases h : p = c
      · simp [after?, h, ih]
      · simp [after?, h, Ne.symm h]

theorem after?_append (lead rest : Text) : after? lead (lead ++ rest) = some rest :=
  after?_eq_some_iff.2 rfl

/-- What precedes `tail` in a text that ends with it. -/
def before? (tail t : Text) : Option Text :=
  (after? tail.reverse t.reverse).map List.reverse

theorem before?_eq_some_iff {tail t front : Text} :
    before? tail t = some front ↔ t = front ++ tail := by
  simp only [before?, Option.map_eq_some_iff, after?_eq_some_iff]
  constructor
  · rintro ⟨r, h, rfl⟩
    simpa using congrArg List.reverse h
  · rintro rfl
    exact ⟨front.reverse, by simp, by simp⟩

/-- What stands between `lead` and a closing character `last`. -/
def between? (lead : Text) (last : CodePoint) (t : Text) : Option Text :=
  (after? lead t).bind (before? [last])

theorem between?_eq_some_iff {lead t inner : Text} {last : CodePoint} :
    between? lead last t = some inner ↔ t = lead ++ inner ++ [last] := by
  simp only [between?, Option.bind_eq_some_iff, after?_eq_some_iff, before?_eq_some_iff]
  constructor
  · rintro ⟨r, rfl, rfl⟩
    simp
  · rintro rfl
    exact ⟨inner ++ [last], by simp, rfl⟩

/-- The text between is shorter than the whole. -/
theorem length_of_between? {lead t inner : Text} {last : CodePoint}
    (h : between? lead last t = some inner) : inner.length < t.length := by
  rw [between?_eq_some_iff.1 h]
  simp only [List.length_append, List.length_singleton]
  omega

/-- Whether a text begins with `lead`. -/
def startsWith (lead t : Text) : Bool := (after? lead t).isSome

/-- Whether a text ends with `tail`. -/
def endsWith (tail t : Text) : Bool := (before? tail t).isSome

/-! ## Searching and cutting -/

/-- Whether `part` stands somewhere in a text. -/
def contains (part : Text) : Text → Bool
  | [] => part.isEmpty
  | c :: r => startsWith part (c :: r) || contains part r

/-- What stands before and behind the first occurrence of a mark. -/
def cut? (mark : Text) : Text → Option (Text × Text)
  | [] => if mark.isEmpty then some ([], []) else none
  | c :: r =>
    match after? mark (c :: r) with
    | some rest => some ([], rest)
    | none => (cut? mark r).map fun (front, rest) => (c :: front, rest)

/-- A text that was cut is its two parts with the mark between them. -/
theorem eq_append_of_cut? {mark t front rest : Text} (h : cut? mark t = some (front, rest)) :
    t = front ++ mark ++ rest := by
  induction t generalizing front with
  | nil =>
    simp only [cut?] at h
    split at h
    · simp_all
    · simp at h
  | cons c r ih =>
    simp only [cut?] at h
    split at h
    · -- the mark starts here; otherwise the cut is found further on
      rename_i s hs
      simp only [Option.some.injEq, Prod.mk.injEq] at h
      obtain ⟨rfl, rfl⟩ := h
      simpa using after?_eq_some_iff.1 hs
    · simp only [Option.map_eq_some_iff, Prod.mk.injEq] at h
      obtain ⟨⟨i, s⟩, hs, rfl, rfl⟩ := h
      simp [ih hs]

/-- The parts of a text between the occurrences of a character; there is always one. -/
def splitOn (sep : CodePoint) : Text → List Text
  | [] => [[]]
  | c :: r =>
    if c = sep then [] :: splitOn sep r
    else match splitOn sep r with
      | [] => [[c]]
      | p :: ps => (c :: p) :: ps

theorem splitOn_ne_nil (sep : CodePoint) (t : Text) : splitOn sep t ≠ [] := by
  induction t with
  | nil => simp [splitOn]
  | cons c r ih =>
    by_cases h : c = sep
    · simp [splitOn, h]
    · cases hs : splitOn sep r <;> simp [splitOn, h, hs]

/-- A text without the run of `c` at its end. -/
def chomp (c : CodePoint) (t : Text) : Text := (t.reverse.dropWhile (· == c)).reverse

/-! ## Numbers -/

/-- A natural number in decimal digits. -/
def ofNat (n : Nat) : Text := (Nat.toDigits 10 n).map CodePoint.char

/-- An integer in decimal digits, with a minus sign below zero. -/
def ofInt : Int → Text
  | .ofNat n => ofNat n
  | .negSucc n => .char '-' :: ofNat (n + 1)

/-- A number in lower-case hexadecimal digits, at least `width` of them. -/
def ofHex (width n : Nat) : Text :=
  let digits := (Nat.toDigits 16 n).map CodePoint.char
  List.replicate (width - digits.length) (.char '0') ++ digits

end Text

end Placement
