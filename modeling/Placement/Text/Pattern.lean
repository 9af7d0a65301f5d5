import Placement.Text.Basic
import Placement.Text.Word

/-!
# Placement.Text.Pattern — searching a text for what a pattern reads

A pattern reads something at the head of a text, knowing the character before
it, and says what text is left. A search tries the pattern at every place from
left to right; matches do not overlap, so after a match the search goes on with
the text that the match left.

* `find?`, `findInLine?` — the first match; `findAll` — every match; `replaceAll` — the text
  with every match replaced; `cutAll` — the matches and the texts between them.

The patterns of this library read at least one character whenever they match.
-/

namespace Placement.Text

/-- Reads at the head of a text, knowing the character before it, and leaves a rest. -/
abbrev Pattern (α : Type) := Option CodePoint → Text → Option (α × Text)

namespace Pattern

variable {α : Type}

/-- The first match in a text, and what is left after it. -/
def find? (p : Pattern α) (before : Option CodePoint) : Text → Option (α × Text)
  | [] => none
  | c :: r => (p before (c :: r)).or (find? p (some c) r)

/-- The first match that begins on the line at the head of a text. -/
def findInLine? (p : Pattern α) (before : Option CodePoint) : Text → Option (α × Text)
  | [] => none
  | c :: r => (p before (c :: r)).or (if c = '\n' then none else findInLine? p (some c) r)

/-- Every match in a text. The first `skip` characters belong to the match before. -/
def findFrom (p : Pattern α) : Nat → Option CodePoint → Text → List α
  | _, _, [] => []
  | skip + 1, _, c :: r => findFrom p skip (some c) r
  | 0, before, c :: r =>
    match p before (c :: r) with
    | some (a, rest) => a :: findFrom p (r.length - rest.length) (some c) r
    | none => findFrom p 0 (some c) r

/-- Every match in a text, from left to right. -/
def findAll (p : Pattern α) (t : Text) : List α := findFrom p 0 none t

/-- A text with every match replaced. The first `skip` characters belong to the match before
and are left out. -/
def replaceFrom (p : Pattern Text) : Nat → Option CodePoint → Text → Text
  | _, _, [] => []
  | skip + 1, _, c :: r => replaceFrom p skip (some c) r
  | 0, before, c :: r =>
    match p before (c :: r) with
    | some (new, rest) => new ++ replaceFrom p (r.length - rest.length) (some c) r
    | none => c :: replaceFrom p 0 (some c) r

/-- A text with every match replaced by what the pattern gives. -/
def replaceAll (p : Pattern Text) (t : Text) : Text := replaceFrom p 0 none t

/-- What a text is cut into by a pattern: a text between matches, or a match. -/
inductive Piece (α : Type) where
  | between (t : Text)
  | found (a : α)

/-- The text between two matches, read backwards, as a piece in front of others. -/
def Piece.cons (between : Text) (more : List (Piece α)) : List (Piece α) :=
  if between.isEmpty then more else .between between.reverse :: more

/-- The matches in a text and the texts between them. The first `skip` characters belong to the
match before, and `between` is what stands behind it, read backwards. -/
def cutFrom (p : Pattern α) : Nat → Option CodePoint → Text → Text → List (Piece α)
  | _, _, between, [] => Piece.cons between []
  | skip + 1, _, between, c :: r => cutFrom p skip (some c) between r
  | 0, before, between, c :: r =>
    match p before (c :: r) with
    | some (a, rest) =>
      Piece.cons between (.found a :: cutFrom p (r.length - rest.length) (some c) [] r)
    | none => cutFrom p 0 (some c) (c :: between) r

/-- The matches in a text and the texts between them, from left to right. -/
def cutAll (p : Pattern α) (t : Text) : List (Piece α) := cutFrom p 0 none [] t

/-! ## Simple patterns -/

/-- A fixed text that stands as a word, or several words, of its own. -/
def wholeWord (w : Text) : Pattern Text := fun before t =>
  match after? w t with
  | some rest =>
    if isWordEdge before w.head? && isWordEdge w.getLast? rest.head? then some (w, rest) else none
  | none => none

/-- A whole word that begins with an ASCII capital. -/
def capitalizedWord : Pattern Text := fun before t =>
  if !before.any isWord && t.head?.any isAsciiCapital then some (t.span isWord) else none

end Pattern

end Placement.Text
