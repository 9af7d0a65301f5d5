import Placement.Failure
import Placement.Position
import Placement.Value

/-!
# Placement.Notice — what the analysis reports on the way

Functions that meet something worth reporting return it beside their value:
`Logged α` is a value with the notices that came up, in order. Each notice is a
cause with its data; `Notice.severity` and `Notice.message` say how it is
written down.
-/

namespace Placement

/-- The kinds of brackets that type texts nest. -/
inductive Bracket where
  | angle
  | round
deriving DecidableEq, Repr

/-- What a kind of bracket is called. -/
def Bracket.name : Bracket → Text
  | .angle => "angle brackets".text
  | .round => "parentheses".text

/-- How grave a notice is. -/
inductive Severity where
  | warning
  | error
deriving DecidableEq, Repr

/-- Something worth reporting. -/
inductive Notice where
  /-- A bracket closes that was never opened. -/
  | unopened (bracket : Bracket) (source : Text)
  /-- Brackets are still open at the end. -/
  | unclosed (bracket : Bracket) (source : Text) (depth : Nat)
  /-- The parameters of a location kind do not end. -/
  | openLocation (source : Text)
  /-- A type text was refused; `part` is the text that `fault` is about. -/
  | refusedType (source part : Text) (fault : TypeFault)
  /-- A position lies on no line of its document. -/
  | lineOutOfBounds (line : Int) (lineCount : Nat)
  /-- A position lies beyond its line. -/
  | characterOutOfBounds (character : Int) (length : Nat)
  /-- A request brought no answer. -/
  | queryFailed (failure : QueryFailure) (place : Position)
  /-- A document is longer than the settings allow. -/
  | tooManyLines (uri : Text) (lineCount : Nat) (limit : Int)
  /-- A pass met a line that its document could not give. -/
  | passFailed (uri : Text)
  /-- A setting has a value of the wrong kind. -/
  | ignoredSetting (key : Text) (value : Value)
  /-- An operator list is no list of texts. -/
  | ignoredOperators (key : Text)
  /-- The settings file could not be read. -/
  | unreadableFile (file : Text)
  /-- The settings file could not be written. -/
  | unwritableFile (file : Text)

namespace Notice

/-- How grave a notice is. -/
def severity : Notice → Severity
  | .queryFailed (.failed _ _) _ => .error
  | .passFailed _ => .error
  | _ => .warning

/-- The wording of a notice. -/
def message : Notice → Text
  | .unopened bracket source =>
    "Mismatched ".text ++ bracket.name ++ " in type parameters: ".text ++ source
  | .unclosed bracket source depth =>
    "Unclosed ".text ++ bracket.name ++ " in type parameters: ".text ++ source ++
      " (depth: ".text ++ Text.ofNat depth ++ ")".text
  | .openLocation source => "Unclosed location type parameters: ".text ++ source
  | .refusedType source part fault =>
    "Error parsing location type from '".text ++ source ++ "': ".text ++
      malformedType part fault.reason
  | .lineOutOfBounds line lineCount =>
    "Position line ".text ++ Text.ofInt line ++ " is out of bounds (document has ".text ++
      Text.ofNat lineCount ++ " lines)".text
  | .characterOutOfBounds character length =>
    "Position char ".text ++ Text.ofInt character ++
      " is out of bounds (line length: ".text ++ Text.ofNat length ++ ")".text
  | .queryFailed (.timedOut operation limit) place =>
    (QueryFailure.timedOut operation limit).message ++ " at ".text ++ place.text
  | .queryFailed (.failed operation cause) place =>
    "Backend query error at ".text ++ place.text ++ ": ".text ++
      (QueryFailure.failed operation cause).message
  | .tooManyLines uri lineCount limit =>
    "Skipping ".text ++ uri ++ ": ".text ++ Text.ofNat lineCount ++
      " lines exceeds max_file_lines (".text ++ Text.ofInt limit ++ ")".text
  | .passFailed uri => "Location analysis failed for ".text ++ uri
  | .ignoredSetting key value =>
    "Ignoring invalid analysis.".text ++ key ++ " = ".text ++ value.shown
  | .ignoredOperators key =>
    "Ignoring invalid operators.".text ++ key ++ " (expected a list of strings)".text
  | .unreadableFile file => "Could not read ".text ++ file
  | .unwritableFile file => "Could not write ".text ++ file

end Notice

/-! ## Values with notices -/

/-- A value, and the notices that came up on the way to it. -/
structure Logged (α : Type) where
  value : α
  notices : List Notice

namespace Logged

variable {α β : Type}

/-- A value with one notice. -/
def note (n : Notice) : Logged Unit := ⟨(), [n]⟩

/-- A value with notices that are known already. -/
def withNotices (notices : List Notice) (value : α) : Logged α := ⟨value, notices⟩

instance : Monad Logged where
  pure a := ⟨a, []⟩
  bind x f := ⟨(f x.value).value, x.notices ++ (f x.value).notices⟩

@[simp] theorem value_pure (a : α) : (pure a : Logged α).value = a := rfl

@[simp] theorem notices_pure (a : α) : (pure a : Logged α).notices = [] := rfl

/-- A value without notices goes on as itself. -/
@[simp] theorem pure_bind (a : α) (f : α → Logged β) : (pure a : Logged α) >>= f = f a := rfl

@[simp] theorem value_bind (x : Logged α) (f : α → Logged β) :
    (x >>= f).value = (f x.value).value := rfl

end Logged

end Placement
