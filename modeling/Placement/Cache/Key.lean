import Placement.Failure
import Placement.Text.Digit

/-!
# Placement.Cache.Key — the keys of cached results

The key of a result joins the document's name, `v` and its version, the scope
and, if there is one, the active file, by double colons. Decoding cuts a key at
its double colons from the left, and takes what is behind the third segment as
the active file. A reader may be strict about texts that are no keys, or not.

A key whose version has too many digits to be written cannot be encoded.
-/

namespace Placement

/-- What a cached result belongs to. -/
structure CacheKey where
  uri : Text
  version : Int
  scope : Text
  activeFile : Option Text
deriving DecidableEq, Repr

namespace CacheKey

/-- What stands between the segments of a key. -/
def separator : Text := [.char ':', .char ':']

/-- What a key shows, with all digits of its version; an empty active file is left out. -/
def text (k : CacheKey) : Text :=
  separator.intercalate
    ([k.uri, .char 'v' :: Text.ofInt k.version, k.scope] ++
      match k.activeFile with
      | some (c :: r) => [c :: r]
      | _ => [])

/-- The key as a text, unless its version has too many digits to be written. -/
def encode (k : CacheKey) : Except WriteFault Text :=
  if Text.isWritable k.version then .ok k.text else .error .longInteger

/-- The beginning that all keys of a document share. -/
def documentLead (uri : Text) : Text := uri ++ separator ++ [.char 'v']

/-- The segments of a text between its double colons; there is always one. -/
def segments : Text → List Text
  | [] => [[]]
  | ':' :: ':' :: r => [] :: segments r
  | c :: r =>
    match segments r with
    | [] => [[c]]
    | s :: ss => (c :: s) :: ss

/-- The version in a segment: `v` and digits, and maybe a line feed behind them. -/
def readVersion (segment : Text) : Except KeyFault Nat :=
  match segment with
  | 'v' :: r =>
    match Text.readDigits ((Text.before? [.char '\n'] r).getD r) with
    | .ok n => .ok n
    | .error .malformed => .error (.badVersion segment)
    | .error (.tooLong digits) => .error (.longVersion digits)
  | _ => .error (.badVersion segment)

/-- The parts of a key. -/
def decode (key : Text) : Except KeyFault CacheKey :=
  match segments key with
  | uri :: number :: scope :: rest => do
    let n ← readVersion number
    return ⟨uri, n, scope, if rest.isEmpty then none else some (separator.intercalate rest)⟩
  | parts => .error (.tooFewSegments parts.length)

/-- The parts of a key, for a reader that takes other texts as well: a text that is no key has
none, and is a failure only in strict mode. A version of too many digits is a failure in both. -/
def read (strict : Bool) (key : Text) : Except KeyFailure (Option CacheKey) :=
  match decode key with
  | .ok k => .ok (some k)
  | .error (.longVersion digits) => .error (.longInteger digits)
  | .error fault => if strict then .error (.malformed key fault) else .ok none

end CacheKey

end Placement
