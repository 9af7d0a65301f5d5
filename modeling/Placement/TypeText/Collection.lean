import Placement.Text.Word
import Placement.TypeText.Parameters

/-!
# Placement.TypeText.Collection — boundedness and ordering

The parameters of the outermost generic of a type text say whether a collection
is bounded and whether it is ordered. A generic parameter `B` stands for an
unbounded collection, and `O` for one without order.
-/

namespace Placement.TypeText

/-- The parameter list of the outermost generic: from behind the first `<`, which must not begin
the text, to the `>` that ends it. -/
def outermostBody? (t : Text) : Option Text :=
  match t.span (· != .char '<') with
  | (_ :: _, _ :: rest) => Text.before? [.char '>'] rest
  | _ => none

/-- The parameters of the outermost generic of a type text. -/
def collectionParameters (t : Text) : Logged (List Text) :=
  match outermostBody? (Text.trim t) with
  | some body => if body.isEmpty then return [] else split body
  | none => return []

/-- Whether a collection is known to end. -/
inductive Boundedness where
  | bounded
  | unbounded
deriving DecidableEq, Repr

/-- Whether a collection has an order. -/
inductive Ordering where
  | totalOrder
  | noOrder
deriving DecidableEq, Repr

/-- The name of a boundedness. -/
def Boundedness.name : Boundedness → Text
  | .bounded => "Bounded".text
  | .unbounded => "Unbounded".text

/-- The name of an ordering. -/
def Ordering.name : Ordering → Text
  | .totalOrder => "TotalOrder".text
  | .noOrder => "NoOrder".text

/-- Whether a text begins with a character that is a word of its own. -/
def beginsWithWord (c : CodePoint) : Text → Bool
  | x :: r => x == c && !r.head?.any Text.isWord
  | [] => false

/-- The boundedness that a parameter names. -/
def boundednessOf? (p : Text) : Option Boundedness :=
  let p := Text.trim p
  if Text.startsWith Boundedness.bounded.name p then some .bounded
  else if Text.startsWith Boundedness.unbounded.name p then some .unbounded
  else if beginsWithWord 'B' p then some .unbounded
  else none

/-- The ordering that a parameter names. One that stands inside of an associated type, such as
`<Self as MinOrder<TotalOrder>>::Min`, is contained in the parameter like any other. -/
def orderingOf? (p : Text) : Option Ordering :=
  if Text.contains Ordering.totalOrder.name p then some .totalOrder
  else if Text.contains Ordering.noOrder.name p then some .noOrder
  else if beginsWithWord 'O' (Text.trim p) then some .noOrder
  else none

/-- The first boundedness among some parameters. -/
def boundedness? (ps : List Text) : Option Boundedness := ps.findSome? boundednessOf?

/-- The first ordering among some parameters. -/
def ordering? (ps : List Text) : Option Ordering := ps.findSome? orderingOf?

end Placement.TypeText
