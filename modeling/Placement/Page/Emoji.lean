import Placement.Page.EmojiTable
import Placement.Page.Style
import Placement.Text.Pattern

/-!
# Placement.Page.Emoji — emoji by their names

A name between two colons stands for an emoji, in capitals or small letters. It
may end in `-emoji` or `-text`, which asks for one of two looks. What names no
emoji stays as it is.
-/

namespace Placement.Page

/-- The emoji that takes turns with a name. -/
def emojiIn? (name : Text) : List Text → Option Text
  | n :: emoji :: more => if n = name then some emoji else emojiIn? name more
  | _ => none

/-- The emoji with a name in small letters. -/
def emoji? (name : Text) : Option Text :=
  emojiPages.findSome? fun page => emojiIn? name (wordsOf page.text)

/-- The looks that a name may end in, with the selectors that ask for them. -/
def looks : List (Text × CodePoint) := [("-emoji".text, '\ufe0f'), ("-text".text, '\ufe0e')]

/-- A name and the selector of its look. -/
def cutLook (name : Text) : Text × Text :=
  (looks.findSome? fun (ending, selector) =>
    (Text.before? ending name).map fun name => (name, [selector])).getD (name, [])

/-- What a name between colons stands for. -/
def readEmoji : Text.Pattern Text := fun _ t =>
  match t with
  | ':' :: r =>
    let (name, rest) := r.span fun c => c != .char ':' && !Text.isBlank c
    match rest with
    | ':' :: rest =>
      let (plain, look) := cutLook name
      some (((emoji? (plain.map toSmall)).map (· ++ look)).getD (.char ':' :: name ++ [.char ':']),
        rest)
    | _ => none
  | _ => none

/-- A text with the names of emoji replaced. -/
def replaceEmoji (t : Text) : Text := Text.Pattern.replaceAll readEmoji t

end Placement.Page
