import Placement.Brackets
import Placement.Text.Blank
import Placement.Text.Pattern

/-!
# Placement.Hover.Binding — what a hover says about type parameters

A hover names the concrete types behind type parameters in two ways: as
footnotes, with name and value in backticks, and as plain text such as
`T = String, L = Process<'a, Leader>`. Of two values for one name the first
counts.
-/

namespace Placement.Hover

/-- Names with their values, in the order of their first appearance. -/
abbrev Bindings := List (Text × Text)

/-- The value of a name. -/
def Bindings.get? (name : Text) (bs : Bindings) : Option Text := bs.lookup name

/-- The bindings with one more, unless its name is bound already. -/
def Bindings.add (bs : Bindings) (name value : Text) : Bindings :=
  if (bs.lookup name).isSome then bs else bs ++ [(name, value)]

/-- The first binding of every name. -/
def Bindings.ofList (pairs : List (Text × Text)) : Bindings :=
  pairs.foldl (fun bs (name, value) => bs.add name value) []

/-- The name of a type parameter: an identifier that begins with a capital. -/
def parameterName : Text → Option (Text × Text)
  | c :: r =>
    if Text.isAsciiCapital c then
      let (name, rest) := r.span Text.isIdent
      some (c :: name, rest)
    else none
  | [] => none

/-! ## Footnotes -/

/-- A footnote: a name and a value in backticks, and `=` between them. -/
def footnote : Text.Pattern (Text × Text) := fun _ t => do
  let (name, r) ← parameterName (← Text.after? [.char '\x60'] t)
  let r ← Text.after? [.char '='] (Text.trimLeft (← Text.after? [.char '\x60'] r))
  let r ← Text.after? [.char '\x60'] (Text.trimLeft r)
  let (value, r) := r.span (· != .char '\x60')
  let rest ← Text.after? [.char '\x60'] r
  if value.isEmpty then none else some ((name, Text.trim value), rest)

/-- The footnotes of a hover text. -/
def footnotes (content : Text) : Bindings := .ofList (footnote.findAll content)

/-! ## Bindings in plain text -/

/-- The head of a binding: a name, neither in backticks nor within a word, and `=` but not `==`.
It gives the name and the text behind it. -/
def bindingHead : Text.Pattern (Text × Text) := fun before t => do
  if before.any fun c => c == .char '\x60' || Text.isWord c then none
  let (name, r) ← parameterName t
  let r ← Text.after? [.char '='] (Text.trimLeft r)
  if r.head? = some (.char '=') then none
  let rest := Text.trimLeft r
  return ((name, rest), rest)

/-- The characters that end a value outside all brackets. -/
def endsValue (_ : Option CodePoint) (t : Text) : Bool :=
  t.head?.any fun c => c == .char ',' || c == .char '}' || c == .char '\n' || c == .char '\x60'

/-- The value at the head of a text. Reports speak of its first 80 characters. -/
def bindingValue (t : Text) : Logged Text :=
  let value := (Depth.untilTop endsValue .top none t).1
  .withNotices (Depth.top.slipNotices none (t.take 80) value) (Text.trim value)

/-- The bindings in the plain text of a hover; a blank value binds nothing. -/
def metadata (content : Text) : Logged Bindings :=
  (bindingHead.findAll content).foldlM
    (fun bs (name, rest) => do
      let value ← bindingValue rest
      return if value.isEmpty then bs else bs.add name value)
    []

end Placement.Hover
