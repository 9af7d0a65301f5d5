import Placement.Number.Basic
import Placement.Text.Digit
import Placement.Text.Quoted

/-!
# Placement.Failure — what can go wrong, and in which words

Every failure is a cause with its data; its wording is one function.

* `QueryFailure` — a request to the backend brought no answer;
* `TypeFault` — a type text goes beyond what the parser reads;
* `KeyFault`, `KeyFailure` — a text is no cache key, and what its reader makes of that;
* `WriteFault`, `digitLimitMessage` — an integer has too many digits to be written or read;
* `LineFault` — a document has no such line, or cannot give it.
-/

namespace Placement

/-! ## Requests -/

/-- Why a request brought no answer. -/
inductive QueryFailure where
  | timedOut (operation : Text) (limit : Number)
  | failed (operation cause : Text)
deriving DecidableEq, Repr

/-- The wording of a failed request. -/
def QueryFailure.message : QueryFailure → Text
  | .timedOut operation limit =>
    operation ++ " timed out after ".text ++ limit.general ++ "ms".text
  | .failed operation cause => operation ++ " failed: ".text ++ cause

/-! ## Type texts -/

/-- The number of Tick layers, and of containers inside each other, that are read. -/
def maxNesting : Nat := 64

/-- Why a type text is refused. -/
inductive TypeFault where
  | tooManyTicks
  | tooDeep
deriving DecidableEq, Repr

/-- The reason that a refusal gives. -/
def TypeFault.reason : TypeFault → Text
  | .tooManyTicks => "more than ".text ++ Text.ofNat maxNesting ++ " Tick layers".text
  | .tooDeep => "container nesting too deep".text

/-- The wording of a refused type text. -/
def malformedType (source reason : Text) : Text :=
  "malformed type string ".text ++ Text.quoted source ++ ": ".text ++ reason

/-! ## Integers -/

/-- The beginning and the end of what is said about an integer with too many digits. -/
def digitLimitWords : Text × Text :=
  ("Exceeds the limit (".text ++ Text.ofNat Text.digitLimit ++
    " digits) for integer string conversion".text,
   "; use sys.set_int_max_str_digits() to increase the limit".text)

/-- The wording of an integer that is read and has too many digits. -/
def digitLimitMessage (digits : Nat) : Text :=
  digitLimitWords.1 ++ ": value has ".text ++ Text.ofNat digits ++ " digits".text ++
    digitLimitWords.2

/-- Why a value is not written. -/
inductive WriteFault where
  /-- An integer in it has too many digits. -/
  | longInteger
deriving DecidableEq, Repr

/-- The wording of a value that is not written. -/
def WriteFault.message : WriteFault → Text
  | .longInteger => digitLimitWords.1 ++ digitLimitWords.2

/-! ## Cache keys -/

/-- Why a text is no cache key. -/
inductive KeyFault where
  | tooFewSegments (count : Nat)
  | badVersion (segment : Text)
  /-- The version has too many digits. -/
  | longVersion (digits : Nat)
deriving DecidableEq, Repr

/-- The reason that a refusal gives. -/
def KeyFault.reason : KeyFault → Text
  | .tooFewSegments count => "expected at least 3 '::' segments, got ".text ++ Text.ofNat count
  | .badVersion segment =>
    "version segment ".text ++ Text.quoted segment ++ " is not v<digits>".text
  | .longVersion digits => digitLimitMessage digits

/-- The wording of a refused cache key. -/
def malformedKey (key reason : Text) : Text :=
  "invalid cache key ".text ++ Text.quoted key ++ ": ".text ++ reason

/-- What reading a text as a cache key fails with. -/
inductive KeyFailure where
  /-- The text is no cache key, and the reader was told to insist on one. -/
  | malformed (key : Text) (fault : KeyFault)
  /-- The version is an integer of too many digits. -/
  | longInteger (digits : Nat)
deriving DecidableEq, Repr

/-- The wording of a failed reading. -/
def KeyFailure.message : KeyFailure → Text
  | .malformed key fault => malformedKey key fault.reason
  | .longInteger digits => digitLimitMessage digits

/-! ## Lines -/

/-- Why a document does not give a line, or a place of it. -/
inductive LineFault where
  | unavailable (line : Int)
  | outOfRange
deriving DecidableEq, Repr

/-- The wording of a line that could not be read. -/
def LineFault.message : LineFault → Text
  | .unavailable line => "line ".text ++ Text.ofInt line ++ " unavailable".text
  | .outOfRange => "line is out of range".text

end Placement
