import Placement.Brackets
import Placement.Text.Blank

/-!
# Placement.TypeText.Parameters — generic parameter lists

A parameter list is cut at the commas outside all brackets. Its pieces are
trimmed, and blank ones are dropped. Brackets that do not match are reported
and change nothing else.
-/

namespace Placement.TypeText

/-- The stretches of a text between the commas outside all brackets. -/
def cutAtCommas (d : Depth) (before : Option CodePoint) : Text → List Text
  | [] => [[]]
  | c :: r =>
    if c = ',' ∧ d.isTop then [] :: cutAtCommas d (some c) r
    else match cutAtCommas (d.next before c) (some c) r with
      | [] => [[c]]
      | p :: ps => (c :: p) :: ps

/-- The parameters of a list. -/
def parameters (t : Text) : List Text :=
  ((cutAtCommas .top none t).map Text.trim).filter fun p => !p.isEmpty

/-- The reports about the brackets of a parameter list. -/
def bracketNotices (t : Text) : List Notice :=
  Depth.top.slipNotices none t t ++ (Depth.top.after none t).openNotices t

/-- The parameters of a list, with reports about its brackets. -/
def split (t : Text) : Logged (List Text) := .withNotices (bracketNotices t) (parameters t)

end Placement.TypeText
