import Placement.Document

/-!
# Placement.Proofs.Document — documents whose lines can be read

A document asks for its lines in `Except`, because a line may be missing or
broken. Where it is neither, each question has a plain answer:

* `textAt` — the text of a line;
* `holds` — whether a position lies in the document, the end of a line included;
* `continues` — whether a line goes on with the chain of the line before;
* `calls` — whether a dot stands before a position.

`lineAt_eq_ok_iff` says when a line can be read; the lemmas behind it reduce the
questions to the plain answers.
-/

namespace Placement

namespace Document

variable {d : Document} {line : Int} {p : Position}

/-- Whether a document has a line of this number. -/
def HasLine (d : Document) (line : Int) : Prop := 0 ≤ line ∧ line < d.lineCount

instance : Decidable (HasLine d line) := inferInstanceAs (Decidable (_ ∧ _))

/-- Every line of the document can be read. -/
def Readable (d : Document) : Prop := ∀ line, d.HasLine line → line ∉ d.broken

/-- The text of a line; a line that is not there is empty. -/
def textAt (d : Document) (line : Int) : Text := (d.lines[line.toNat]?).getD []

/-- Whether a position lies in the document, the end of its line included. -/
def holds (d : Document) (p : Position) : Bool :=
  decide (d.HasLine p.line ∧ 0 ≤ p.character ∧ p.character ≤ (d.textAt p.line).length)

/-- Whether the first character of a line that is no blank is a dot. -/
def continues (d : Document) (line : Int) : Bool :=
  (Text.trimLeft (d.textAt line)).head? == some (.char '.')

/-- Whether the character before a position is a dot. -/
def calls (d : Document) (p : Position) : Bool :=
  0 < p.character && p.character ≤ (d.textAt p.line).length &&
    (d.textAt p.line)[(p.character - 1).toNat]? == some (.char '.')

/-- A position lies in a document when its line does, and its character on the line or at its end.
-/
theorem holds_iff :
    d.holds p = true ↔
      d.HasLine p.line ∧ 0 ≤ p.character ∧ p.character ≤ (d.textAt p.line).length := by
  simp [holds]

/-- A document without broken lines is readable. -/
theorem readable_of_broken_eq_nil (h : d.broken = []) : d.Readable := by
  intro line _
  rw [h]
  exact List.not_mem_nil

/-- A line can be read when it is there and not broken, and then gives its text. -/
theorem lineAt_eq_ok_iff {t : Text} :
    d.lineAt line = .ok t ↔ d.HasLine line ∧ line ∉ d.broken ∧ t = d.textAt line := by
  by_cases hb : line ∈ d.broken
  · simp [lineAt, hb]
  · -- a line below zero is not looked up among the lines
    by_cases h0 : line < 0
    · have hno : ¬ d.HasLine line := fun h => absurd h.1 (by omega)
      simp [lineAt, hb, h0, hno]
    · cases hl : d.lines[line.toNat]? with
      | none =>
        have hno : ¬ d.HasLine line := by
          intro h
          have hlen := List.getElem?_eq_none_iff.mp hl
          have := h.2
          simp only [lineCount] at this
          omega
        simp [lineAt, hb, h0, hl, hno]
      | some text =>
        have hyes : d.HasLine line := by
          have hlen := (List.getElem?_eq_some_iff.mp hl).1
          refine ⟨by omega, ?_⟩
          simp only [lineCount]
          omega
        simp [lineAt, hb, h0, hl, hyes, textAt, eq_comm]

theorem lineAt_eq_ok (hl : d.HasLine line) (hb : line ∉ d.broken) :
    d.lineAt line = .ok (d.textAt line) :=
  lineAt_eq_ok_iff.mpr ⟨hl, hb, rfl⟩

/-- Whether such a line goes on with a chain has a plain answer. -/
theorem isContinuation_eq_ok (hl : d.HasLine line) (hb : line ∉ d.broken) :
    d.isContinuation line = .ok (d.continues line) := by
  simp only [isContinuation, lineAt_eq_ok hl hb]
  rfl

/-- So has whether a dot stands before a position on it. -/
theorem isMethodCall_eq_ok (hl : d.HasLine p.line) (hb : p.line ∉ d.broken) :
    d.isMethodCall p = .ok (d.calls p) := by
  simp only [isMethodCall, lineAt_eq_ok hl hb]
  rfl

/-- A number up to the length of a text is itself the place in it. -/
theorem place_of_le {length : Nat} {i : Int} (h0 : 0 ≤ i) (h : i ≤ length) :
    place length i = i.toNat := by
  rw [place, if_neg (by omega), Nat.min_eq_left (by omega)]

/-- What stands between two texts on a line is the text of its stretch. -/
theorem getText_ofLine {n : Nat} {front word behind : Text} (hb : (n : Int) ∉ d.broken)
    (hline : d.lines[n]? = some (front ++ word ++ behind)) :
    d.getText (.ofLine n front.length (front.length + word.length)) = .ok word := by
  have hn : ¬ (n : Int) < 0 := by omega
  simp only [getText, Range.ofLine, if_true, lineAt, if_neg hb, if_neg hn, Int.toNat_natCast, hline]
  show Except.ok (slice _ _ _) = _
  have hlength : (front ++ word ++ behind).length =
      front.length + word.length + behind.length := by
    rw [List.length_append, List.length_append]
  -- the stretch ends where the word does, counted from the head of the line
  have hstop : ((front.length : Int) + word.length).toNat = (front ++ word).length := by
    rw [List.length_append]
    omega
  rw [slice, place_of_le (by omega) (by omega), place_of_le (by omega) (by omega), hstop,
    Int.toNat_natCast, List.take_left, List.drop_left]

/-- Asking whether a position lies in a document needs its line only if there is one. -/
theorem inBounds_eq_ok (hb : d.HasLine p.line → p.line ∉ d.broken) :
    ∃ notices, d.inBounds p = .ok (.withNotices notices (d.holds p)) := by
  -- three cases: inside, past the end of a line of the document, on no line of it
  by_cases hl : d.HasLine p.line
  · have hline := hl
    unfold HasLine at hline
    by_cases hc : 0 ≤ p.character ∧ p.character ≤ (d.textAt p.line).length
    · refine ⟨[], ?_⟩
      have hholds : d.holds p = true := holds_iff.mpr ⟨hl, hc⟩
      simp only [inBounds, if_pos hline, lineAt_eq_ok hl (hb hl), hholds]
      show (if _ then _ else _) = _
      rw [if_pos hc]
      rfl
    · refine ⟨[.characterOutOfBounds p.character (d.textAt p.line).length], ?_⟩
      have hholds : d.holds p = false := by
        rw [← Bool.not_eq_true, holds_iff]
        exact fun h => hc h.2
      simp only [inBounds, if_pos hline, lineAt_eq_ok hl (hb hl), hholds]
      show (if _ then _ else _) = _
      rw [if_neg hc]
      rfl
  · have hline := hl
    unfold HasLine at hline
    have hholds : d.holds p = false := by
      rw [← Bool.not_eq_true, holds_iff]
      exact fun h => hl h.1
    exact ⟨_, by simp only [inBounds, if_neg hline, hholds]; rfl⟩

/-- The fault is that of a broken line of the document. -/
def HasFault (d : Document) (fault : LineFault) : Prop :=
  ∃ line, d.HasLine line ∧ line ∈ d.broken ∧ fault = .unavailable line

/-- A position is not looked up only because its line is broken. -/
theorem hasFault_of_inBounds {fault : LineFault} (h : d.inBounds p = .error fault) :
    d.HasFault fault := by
  by_cases hbroken : d.HasLine p.line ∧ p.line ∈ d.broken
  · have hline := hbroken.1
    unfold HasLine at hline
    have hfault : d.lineAt p.line = .error (.unavailable p.line) := by
      simp [lineAt, hbroken.2]
    simp only [inBounds, if_pos hline, hfault] at h
    cases h
    exact ⟨p.line, hbroken.1, hbroken.2, rfl⟩
  · rw [not_and] at hbroken
    rcases d.inBounds_eq_ok hbroken with ⟨notices, hok⟩
    rw [hok] at h
    cases h

/-- The question is answered only if the line of the position can be read or is not there. -/
theorem not_mem_broken_of_inBounds {found : Logged Bool} (h : d.inBounds p = .ok found)
    (hl : d.HasLine p.line) : p.line ∉ d.broken := by
  intro hb
  have hline := hl
  unfold HasLine at hline
  -- on a line that is there the text is asked for, which a broken line refuses
  have hfault : d.lineAt p.line = .error (.unavailable p.line) := by
    simp [lineAt, hb]
  simp only [inBounds, if_pos hline, hfault] at h
  cases h

end Document

end Placement
