import Placement.Hover.Binding
import Placement.Hover.Fence
import Placement.TypeText.Parameters

/-!
# Placement.Hover.Signature — the return type of a method

The hover of a method shows its signature in a code block. The return type is
what follows the arrow outside all brackets, and its type parameters are then
made concrete: through the where clause, through the header of the `impl`, by
the footnotes, and by the bindings of location bounds, in this order.
-/

namespace Placement.Hover

open Text (Pattern)

/-! ## Finding the return type -/

/-- Whether an arrow stands at the head of a text. -/
def atArrow (_ : Option CodePoint) (t : Text) : Bool := Text.startsWith [.char '-', .char '>'] t

/-- Whether a signature's return type ends here: at a line break, a body, a semicolon, or the word
`where`. -/
def endsType (before : Option CodePoint) (t : Text) : Bool :=
  t.head?.any (fun c => c == .char '\n' || c == .char '{' || c == .char ';') ||
    match Text.after? "where".text t with
    | some rest => !before.any Text.isAlphanumeric && !rest.head?.any Text.isWord
    | none => false

/-- The return type of the signature in a code block, on one line. -/
def returnType (block : Text) : Logged (Option Text) :=
  let (front, rest) := Depth.untilTop atArrow .top none block
  let frontNotices := Depth.top.slipNotices none block front
  match Text.after? [.char '-', .char '>'] rest with
  | none => .withNotices frontNotices none
  | some rest =>
    let written := (Depth.untilTop endsType .top (some (.char '>')) rest).1
    let result := Text.collapse written
    .withNotices (frontNotices ++ Depth.top.slipNotices (some (.char '>')) block written)
      (if result.isEmpty then none else some result)

/-! ## The where clause -/

/-- The where clause of a code block, up to a comment; nothing when there is none. -/
def whereClause (block : Text) : Text :=
  match (Pattern.wholeWord "where".text).find? none block with
  | some (_, rest) => ((Text.cut? [.char '/', .char '/'] rest).map (·.1)).getD rest
  | none => []

/-- The name bound to the associated location of a where clause. -/
def associatedLocation : Pattern Text := fun _ t => do
  let r ← Text.after? [.char '='] (Text.trimLeft (← Text.after? "Location".text t))
  let r := Text.trimLeft r
  if r.head?.any Text.isAsciiCapital then some (r.span Text.isWord) else none

/-- A bound that makes a type parameter a location, such as `L: Location<'a>`. -/
def locationBound : Pattern Text := fun before t => do
  let (name, r) ← Pattern.capitalizedWord before t
  let r ← Text.after? [.char ':'] (Text.trimLeft r)
  let rest ← Text.after? "Location<".text (Text.trimLeft r)
  return (name, rest)

/-! ## The header of an impl -/

/-- Blanks, a word, and the `<` behind it: the word. -/
def openGeneric (t : Text) : Option (Text × Text) :=
  let (blanks, r) := t.span Text.isBlank
  let (name, r) := r.span Text.isWord
  if blanks.isEmpty || name.isEmpty then none
  else (Text.after? [.char '<'] r).map fun rest => (name, rest)

/-- The type that a trait is implemented for. -/
def implementedFor : Pattern Text := fun before t =>
  if before.any Text.isWord then none else (Text.after? "for".text t).bind openGeneric

/-- The header of a trait implementation: the type it is for, with its parameters open. -/
def traitHeader : Pattern Text := fun before t => do
  let (_, r) ← Pattern.wholeWord "impl".text before t
  implementedFor.findInLine? (some (.char 'l')) r

/-- A generic type behind the parameters of an impl. -/
def behindParameters : Pattern Text := fun _ t => (Text.after? [.char '>'] t).bind openGeneric

/-- The header of an inherent implementation: its type, with its parameters open. -/
def inherentHeader : Pattern Text := fun before t =>
  if before.any Text.isWord then none
  else match Text.after? "impl".text t with
    | some r =>
      match Text.trimLeft r with
      | '<' :: body => behindParameters.findInLine? (some (.char '<')) body
      | _ => openGeneric r
    | none => none

/-- `Self` as the header of the impl gives it, with the parameters that the hover binds. -/
def selfType (block content : Text) : Logged (Option Text) := do
  match (traitHeader.find? none block).or (inherentHeader.find? none block) with
  | none => return none
  | some (name, rest) =>
    match ← Depth.readClosing block rest with
    | none => return none
    | some (inner, _) =>
      let parameters ← TypeText.split inner
      let bindings ← metadata content
      let concrete := parameters.map fun p => (bindings.get? p).getD p
      return some (name ++ .char '<' :: [.char ',', .char ' '].intercalate concrete ++ [.char '>'])

/-! ## Making the type concrete -/

/-- A type in which every type parameter with a footnote is replaced by its value, all at once. -/
def substitute (bindings : Bindings) (t : Text) : Text :=
  Pattern.replaceAll
    (fun before t => (Pattern.capitalizedWord before t).map fun (word, rest) =>
      ((bindings.get? word).getD word, rest))
    t

/-- A type in which a word is replaced wherever it stands by itself. -/
def replaceWord (word value t : Text) : Text :=
  Pattern.replaceAll
    (fun before t => (Pattern.wholeWord word before t).map fun (_, rest) => (value, rest)) t

/-- Whether a word stands by itself somewhere in a type. -/
def hasWord (word t : Text) : Bool := ((Pattern.wholeWord word).find? none t).isSome

/-- A type in which the named parameters are replaced by what the hover binds, one after the other.
The bindings are read when the first name that occurs needs them. -/
def substituteBounds (content : Text) :
    List Text → Option Bindings → Text → Logged Text
  | [], _, t => return t
  | name :: names, known, t =>
    if hasWord name t then do
      let bindings ← match known with
        | some bindings => pure bindings
        | none => metadata content
      match bindings.get? name with
      | some value => substituteBounds content names (some bindings) (replaceWord name value t)
      | none => substituteBounds content names (some bindings) t
    else substituteBounds content names known t

/-- A return type that names the location of a trait, replaced by the footnote of that location. -/
def resolveAssociated (notes : Bindings) (clause t : Text) : Text :=
  if Text.contains "<Self as ".text t && Text.contains ">::".text t then
    (((associatedLocation.find? none clause).bind fun (name, _) => notes.get? name)).getD t
  else t

/-- A return type `Self` that no footnote explains, resolved through the header of the impl. -/
def resolveSelf (notes : Bindings) (block content t : Text) : Logged Text := do
  if t = "Self".text ∧ notes.get? t = none then
    return (← selfType block content).getD t
  else return t

/-- The return type of a code block, with its type parameters made concrete. -/
def concreteReturnType (notes : Bindings) (content block : Text) : Logged (Option Text) := do
  match ← returnType block with
  | none => return none
  | some written =>
    let clause := whereClause block
    let t ← resolveSelf notes block content (resolveAssociated notes clause written)
    let t := substitute notes t
    return some (← substituteBounds content (locationBound.findAll clause) none t)

/-- The first result that a step gives for the elements of a list. -/
def firstResult (step : Text → Logged (Option Text)) : List Text → Logged (Option Text)
  | [] => return none
  | x :: xs => do
    match ← step x with
    | some found => return some found
    | none => firstResult step xs

/-- The return type in a method's hover: that of the first code block that has one. -/
def methodType (content : Text) : Logged (Option Text) :=
  firstResult (concreteReturnType (footnotes content) content) (codeBlocks content)

end Placement.Hover
