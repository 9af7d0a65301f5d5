import Placement.Page.Emoji

/-!
# Placement.Page.Markup — tags in the cells of a table

A tag in square brackets begins with a small letter or one of three signs, and
styles what follows up to the tag that closes it. Tags are not shown. A backslash
in front of a tag makes it plain text, and of more backslashes every two count as
one. A closing tag without a tag to close is a fault.
-/

namespace Placement.Page

/-- A tag as it is written. -/
structure Tag where
  /-- The number of backslashes in front. -/
  slashes : Nat
  content : Text
deriving DecidableEq, Repr

/-- Whether a character begins the content of a tag. -/
def beginsTag (c : CodePoint) : Bool := Text.isAsciiSmall c || c == '#' || c == '/' || c == '@'

/-- A tag with the backslashes in front of it. -/
def readTag : Text.Pattern Tag := fun _ t =>
  let (slashes, r) := t.span (· == .char '\\')
  match r with
  | '[' :: c :: r =>
    let (content, rest) := r.span fun c => c != .char '[' && c != .char ']'
    match rest with
    | ']' :: rest => if beginsTag c then some (⟨slashes.length, c :: content⟩, rest) else none
    | _ => none
  | _ => none

/-- A plain piece of a text: a backslash in front of a bracket is dropped, and the names of emoji
are replaced. -/
def showPlain (t : Text) : Text :=
  let bracket : Text.Pattern Text := fun _ t =>
    (Text.after? [.char '\\', .char '['] t).map fun rest => ([.char '['], rest)
  replaceEmoji (bracket.replaceAll t)

/-- The open tags behind a tag, the last one in front; nothing when it closes none. -/
def openAfter (stack : List Text) (content : Text) : Option (List Text) :=
  let name := ((Text.cut? [.char '='] content).map (·.1)).getD content
  match name with
  | '/' :: closed =>
    let closed := Text.trim closed
    if closed.isEmpty then
      match stack with
      | _ :: stack => some stack
      | [] => none
    else
      let closed := normalStyle closed
      if stack.contains closed then some (stack.erase closed) else none
  | name => some (normalStyle name :: stack)

/-- What some pieces show, with the tags in `stack` open in front of them. -/
def showPieces (stack : List Text) : List (Text.Pattern.Piece Tag) → Option Text
  | [] => some []
  | .between t :: more => (showPieces stack more).map (showPlain t ++ ·)
  | .found tag :: more =>
    let front := List.replicate (tag.slashes / 2) (.char '\\')
    if tag.slashes % 2 = 1 then
      (showPieces stack more).map
        (front ++ showPlain (.char '[' :: tag.content ++ [.char ']']) ++ ·)
    else do
      let shown ← showPieces (← openAfter stack tag.content) more
      return front ++ shown

/-- What a text shows; nothing when a tag in it closes no other. -/
def showMarkup (t : Text) : Option Text := showPieces [] (readTag.cutAll t)

end Placement.Page
