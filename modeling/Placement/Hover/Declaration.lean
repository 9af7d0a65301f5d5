import Placement.Brackets
import Placement.Hover.Fence

/-!
# Placement.Hover.Declaration — the type of a declared name

The hover of a variable shows its declaration in the first code block. The type
is what follows the first colon outside all brackets that belongs to no `::`;
a declaration without such a colon stands for itself.
-/

namespace Placement.Hover

/-- Whether a single colon stands at the head of a text. -/
def atColon (before : Option CodePoint) (t : Text) : Bool :=
  match t with
  | ':' :: r => r.head? != some (.char ':') && before != some (.char ':')
  | _ => false

/-- The type in a declaration, on one line. -/
def declaredType (declaration : Text) : Logged Text :=
  let (front, rest) := Depth.untilTop atColon .top none declaration
  let type := Text.collapse (rest.drop 1)
  .withNotices (Depth.top.slipNotices none declaration front)
    (if type.isEmpty then declaration else type)

/-- The type in the hover of a declared name. -/
def bindingType (content : Text) : Logged (Option Text) :=
  match codeBlocks content with
  | [] => return none
  | declaration :: _ =>
    if declaration.isEmpty then return none
    else return some (← declaredType declaration)

end Placement.Hover
