import Placement.Location.Display
import Placement.Text.CodePoint

/-!
# Placement.Location.Identity — telling locations apart

Two places are the same when they agree outside their Tick layers. The key of
a place is its display form there, and its identity number is a hash of the
key: the polynomial in 31 over the code points, wrapped to a signed word of 32
bits, without its sign.
-/

namespace Placement.Location

/-- The key of a location. -/
def key (l : Location) : Text := l.base.display

/-- The key of a location's text. -/
def keyOfText (t : Text) : Text := stripTicks (Text.trim t)

/-- The polynomial hash of a text, wrapped to an unsigned word of 32 bits. -/
def hash (t : Text) : Nat := t.foldl (fun h c => (h * 31 + c.toNat) % Nat.pow 2 32) 0

/-- The distance of an unsigned word from zero, when it is read as a signed one. -/
def magnitude (word : Nat) : Nat := if word < Nat.pow 2 31 then word else Nat.pow 2 32 - word

/-- The identity number of a key. -/
def idOfKey (key : Text) : Nat := magnitude (hash key)

/-- The identity number of a location. -/
def id (l : Location) : Nat := idOfKey l.key

/-- The identity number of a location's text. -/
def idOfText (t : Text) : Nat := idOfKey (keyOfText t)

end Placement.Location
