import Placement.Text.Basic

/-!
# Placement.Position — places and stretches of a document

Lines and characters count from zero, and a caller may ask about places that no
document has, so both are integers.
-/

namespace Placement

/-- A line and a character of it. -/
structure Position where
  line : Int
  character : Int
deriving DecidableEq, Repr

/-- The stretch of a document from one position to another. -/
structure Range where
  start : Position
  stop : Position
deriving DecidableEq, Repr

namespace Position

/-- The order of the source: by line, then by character. -/
def le (p q : Position) : Bool :=
  p.line < q.line || (p.line == q.line && p.character ≤ q.character)

/-- A position as messages show it. -/
def text (p : Position) : Text := Text.ofInt p.line ++ .char ':' :: Text.ofInt p.character

theorem le_refl (p : Position) : p.le p = true := by simp [le]

theorem le_total (p q : Position) : (p.le q || q.le p) = true := by
  simp only [le, Bool.or_eq_true, decide_eq_true_eq, Bool.and_eq_true, beq_iff_eq]
  omega

/-- The order of the source is transitive. -/
theorem le_trans {p q r : Position} (hpq : p.le q = true) (hqr : q.le r = true) :
    p.le r = true := by
  simp only [le, Bool.or_eq_true, decide_eq_true_eq, Bool.and_eq_true, beq_iff_eq] at *
  omega

end Position

namespace Range

/-- A stretch of one line. -/
def ofLine (line start stop : Int) : Range := ⟨⟨line, start⟩, ⟨line, stop⟩⟩

/-- A stretch as messages show it. -/
def text (r : Range) : Text := r.start.text ++ .char '-' :: r.stop.text

end Range

end Placement
