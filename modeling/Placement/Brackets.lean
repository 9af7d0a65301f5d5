import Placement.Notice

/-!
# Placement.Brackets — how deep a text is nested

Type texts nest angle brackets and parentheses. A depth counts both; the `>` of
an arrow `->` is no bracket, and a bracket that closes without having been
opened is reported and leaves its count at zero.

* `Depth.next`, `Depth.after` — the depth behind a character or a text;
* `slips`, `leftOpen` — the brackets that close too often, or not at all;
* `untilTop` — a text up to the first character, outside all brackets, that ends
  it;
* `closing?` — a text up to the angle bracket that closes an open one.
-/

namespace Placement

/-- Counts of open brackets. -/
structure Depth where
  angle : Nat
  round : Nat
deriving DecidableEq, Repr

namespace Depth

/-- Outside all brackets. -/
def top : Depth := ⟨0, 0⟩

/-- Whether a place is outside all brackets. -/
def isTop (d : Depth) : Bool := d.angle == 0 && d.round == 0

/-- Whether a character closes an angle bracket: the `>` of an arrow does not. -/
def closesAngle (before : Option CodePoint) (c : CodePoint) : Bool :=
  c == '>' && before != some (.char '-')

/-- The depth behind a character. -/
def next (d : Depth) (before : Option CodePoint) (c : CodePoint) : Depth :=
  if c = '<' then { d with angle := d.angle + 1 }
  else if closesAngle before c then { d with angle := d.angle - 1 }
  else if c = '(' then { d with round := d.round + 1 }
  else if c = ')' then { d with round := d.round - 1 }
  else d

/-- The bracket that a character closes without its having been opened. -/
def slip? (d : Depth) (before : Option CodePoint) (c : CodePoint) : Option Bracket :=
  if closesAngle before c && d.angle == 0 then some .angle
  else if c == ')' && d.round == 0 then some .round
  else none

/-- The depth behind a text. -/
def after (d : Depth) (before : Option CodePoint) : Text → Depth
  | [] => d
  | c :: r => after (d.next before c) (some c) r

/-- The brackets that a text closes without their having been opened, in order. -/
def slips (d : Depth) (before : Option CodePoint) : Text → List Bracket
  | [] => []
  | c :: r => (d.slip? before c).toList ++ slips (d.next before c) (some c) r

/-- The reports of brackets closed too often; `source` is the text they speak of. -/
def slipNotices (d : Depth) (before : Option CodePoint) (source t : Text) : List Notice :=
  (slips d before t).map fun b => .unopened b source

/-- The reports of brackets that are open still. -/
def openNotices (d : Depth) (source : Text) : List Notice :=
  (if d.angle = 0 then [] else [.unclosed .angle source d.angle]) ++
    (if d.round = 0 then [] else [.unclosed .round source d.round])

/-! ## Cutting outside the brackets -/

/-- A text cut in two at the first character outside all brackets that ends it; `ends` knows the
character before and the text from there on. -/
def untilTop (ends : Option CodePoint → Text → Bool) (d : Depth) (before : Option CodePoint) :
    Text → Text × Text
  | [] => ([], [])
  | c :: r =>
    if d.isTop && ends before (c :: r) then ([], c :: r)
    else
      let (front, rest) := untilTop ends (d.next before c) (some c) r
      (c :: front, rest)

/-- What stands before and behind the bracket that closes the `d.angle` open angle brackets. -/
def closing? (d : Depth) (before : Option CodePoint) : Text → Option (Text × Text)
  | [] => none
  | c :: r =>
    if closesAngle before c && (d.next before c).angle == 0 then some ([], r)
    else (closing? (d.next before c) (some c) r).map fun (inner, rest) => (c :: inner, rest)

theorem eq_append_of_closing? {d : Depth} {before : Option CodePoint} {t inner rest : Text}
    (h : closing? d before t = some (inner, rest)) : t = inner ++ .char '>' :: rest := by
  induction t generalizing d before inner with
  | nil => simp [closing?] at h
  | cons c r ih =>
    simp only [closing?] at h
    split at h
    · rename_i hc
      simp only [closesAngle, Bool.and_eq_true, beq_iff_eq] at hc
      simp_all
    · simp only [Option.map_eq_some_iff, Prod.mk.injEq] at h
      obtain ⟨⟨i, s⟩, hs, rfl, rfl⟩ := h
      simp [ih hs]

/-- What stands in an angle bracket that `t` follows the opening of, and what stands behind its
end, with reports on the way; `source` is the text that the reports speak of. -/
def readClosing (source t : Text) : Logged (Option (Text × Text)) :=
  let found := closing? ⟨1, 0⟩ (some (.char '<')) t
  let read := (found.map (·.1)).getD t
  .withNotices (slipNotices ⟨1, 0⟩ (some (.char '<')) source read) found

end Depth

end Placement
