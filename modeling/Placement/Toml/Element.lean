import Placement.Toml.Basic

/-!
# Placement.Toml.Element — where arrays and inline tables are cut

An array is cut at its commas before its elements are read, and so is an inline
table. Pieces of a string that has commas in it are joined again.
-/

namespace Placement.Toml

/-! ## Arrays of strings -/

/-- Whether a piece ends with the quote that it begins with. -/
def isBounded (t : Text) : Bool :=
  match t with
  | [] => true
  | c :: r => t.getLast? == some c && !endsInBackslash r.dropLast

/-- Whether a piece begins like a long string and does not end like one. -/
def isOpenLong (t : Text) : Bool :=
  match t, t.reverse with
  | a :: b :: c :: _, _ :: y :: z :: _ => a == b && b == c && y != a && z != a
  | _, _ => false

/-- Whether a piece of an array is a whole string. -/
def isWholeString (t : Text) : Bool := isBounded t && !isOpenLong t

/-- The strings of an array, cut at commas: pieces are joined again until each is whole. `must` says
that the first piece was joined, so that it has to become whole. -/
def joinStrings (must : Bool) : List Text → Except Fault (List Text)
  | [] => .ok []
  | [p] => if must && !isWholeString (Text.trim p) then .error .cutShort else .ok [p]
  | p :: q :: r =>
    if isWholeString (Text.trim p) then do return p :: (← joinStrings false (q :: r))
    else joinStrings true ((p ++ .char ',' :: q) :: r)
termination_by parts => parts.length

/-- Whether the first element of an array is a string. -/
def isStringArray (array : Text) : Bool := (Text.trim (inner array)).head?.any isQuote

/-! ## Arrays of arrays and of tables -/

/-- The stretches of a text between the commas outside square brackets. -/
def cutElements (depth : Int) : Text → List Text
  | [] => [[]]
  | c :: r =>
    if c = ',' ∧ depth = 0 then [] :: cutElements depth r
    else
      let depth := if c = '[' then depth + 1 else if c = ']' then depth - 1 else depth
      match cutElements depth r with
      | [] => [[c]]
      | p :: ps => (c :: p) :: ps

/-- Where a character stands with respect to the tables of an array. -/
inductive TablePlace where
  /-- In a table; what was written of it before, read backwards. -/
  | inside (before : Text)
  /-- Right behind a table. -/
  | behind
  /-- In front of the next table. -/
  | between

/-- The inline tables in an array. Braces count outside strings, and a string ends at either
quote. -/
def cutTables (depth : Nat) (inString : Bool) : TablePlace → Text → List Text
  | _, [] => []
  | .behind, _ :: r => cutTables depth inString .between r
  | .between, c :: r =>
    cutTables depth inString (if c = '{' then .inside [.char '{'] else .between) r
  | .inside before, c :: r =>
    let inString :=
      if isQuote c then !inString || oddBackslashes before else inString
    let place := TablePlace.inside (c :: before)
    if !inString && c == '{' then cutTables (depth + 1) inString place r
    else if inString || c != '}' then cutTables depth inString place r
    else if 1 < depth then cutTables (depth - 1) inString place r
    else (c :: before).reverse :: cutTables depth inString .behind r

/-- The elements of an array, as texts. -/
def elementTexts (array : Text) : Except Fault (List Text) :=
  let body := inner array
  let front := body.takeWhile (· != .char '[')
  if front = body ∨ !Text.allBlank front then
    match body with
    | c :: r =>
      if (Text.trimLeft body).head? = some (.char '{') then
        .ok (cutTables (if c = '{' then 1 else 0) false (.inside [c]) r)
      else if isStringArray array then joinStrings false (Text.splitOn ',' body)
      else .ok (Text.splitOn ',' body)
    | [] => .ok []
  else .ok (cutElements 0 body)

/-! ## Inline tables -/

/-- Whether the value of a field in an inline table is whole. -/
def isWholeValue (t : Text) : Bool :=
  t == "true".text || t == "false".text ||
    match t.head?, t.getLast? with
    | some a, some z =>
      (a == z && isQuote a) || a == '-' || ('0' ≤ a && a ≤ '9') || (a == '[' && z == ']') ||
        (a == '{' && z == '}')
    | _, _ => false

/-- The fields of an inline table, cut at commas: pieces are joined again until each has a whole
value. -/
def joinFields : List Text → Except Fault (List Text)
  | [] => .ok []
  | p :: more =>
    match Text.cut? [.char '='] p with
    | none => .error .malformed
    | some (_, written) =>
      if (Text.trim written).isEmpty then .error .cutShort
      else if isWholeValue (Text.trim written) then do return p :: (← joinFields more)
      else match more with
        | [] => .error .malformed
        | q :: r => joinFields ((p ++ .char ',' :: q) :: r)
termination_by parts => parts.length

/-- The fields of an inline table, as texts. -/
def fieldTexts (table : Text) : Except Fault (List Text) :=
  match Text.splitOn ',' (inner table) with
  | [p] => if Text.allBlank p then .ok [] else joinFields [p]
  | parts => joinFields parts

end Placement.Toml
