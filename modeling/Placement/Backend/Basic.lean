import Placement.Failure
import Placement.Notice
import Placement.Position
import Placement.Value

/-!
# Placement.Backend.Basic — asking a semantic backend

A backend reacts to requests: it refuses one at once, or it replies after a
delay. Asking sets a limit of time: a reply that is not there by then is dropped,
and with no time at all even an immediate reply is too late. A limit that is too
large to be measured makes the request fail, and one that is no number runs out
as soon as the reply is not there at once.

A computation that asks is a value (`Run`): the requests it issues, in order,
the notices that come up, and its outcome. Three things stop a computation before
its end, and nothing in it can go on after them: a cancelled request, a document
line that cannot be read, and an integer that has too many digits to be written.
-/

namespace Placement

/-! ## Requests and replies -/

/-- A request to a backend. -/
inductive Request where
  | hover (uri : Text) (position : Position)
  | typeDefinition (uri : Text) (position : Position)
  | definition (uri : Text) (position : Position)
  | inlayHints (uri : Text) (range : Range)
  | readText (uri : Text) (range : Range)
deriving DecidableEq, Repr

namespace Request

/-- The name of the operation that a request asks for. -/
def operation : Request → Text
  | .hover _ _ => "hover".text
  | .typeDefinition _ _ => "typeDefinition".text
  | .definition _ _ => "definition".text
  | .inlayHints _ _ => "inlayHints".text
  | .readText _ _ => "readText".text

/-- The place that a request asks about. -/
def place : Request → Text
  | .hover _ p | .typeDefinition _ p | .definition _ p => p.text
  | .inlayHints _ r => r.text
  | .readText uri r => uri ++ .char ' ' :: r.text

/-- A request as a transcript shows it. -/
def text (r : Request) : Text := r.operation ++ .char ' ' :: r.place

end Request

/-- How a backend ends a request. -/
inductive Reply where
  | answer (v : Value)
  | failed (cause : Text)
  | timedOut
  | cancelled

/-- How a backend reacts to a request. -/
inductive Reaction where
  | refused (cause : Text)
  | after (delay : Number) (reply : Reply)

/-- A semantic backend. -/
abbrev Backend := Request → Reaction

/-! ## Computations that ask -/

/-- What stops a computation. -/
inductive Interruption where
  | cancelled
  | line (fault : LineFault)
  | writing (fault : WriteFault)
deriving DecidableEq, Repr

/-- A computation that asks a backend. -/
structure Run (α : Type) where
  requests : List Request
  notices : List Notice
  outcome : Except Interruption α

namespace Run

variable {α β : Type}

/-- A computation that goes on with another one, unless it was stopped. -/
def andThen (x : Run α) (f : α → Run β) : Run β :=
  match x.outcome with
  | .ok a => ⟨x.requests ++ (f a).requests, x.notices ++ (f a).notices, (f a).outcome⟩
  | .error stop => ⟨x.requests, x.notices, .error stop⟩

instance : Monad Run where
  pure a := ⟨[], [], .ok a⟩
  bind := andThen

/-- What reading a document gives. -/
def ofLine : Except LineFault α → Run α
  | .ok a => ⟨[], [], .ok a⟩
  | .error fault => ⟨[], [], .error (.line fault)⟩

/-- What writing a value gives. -/
def ofWriting : Except WriteFault α → Run α
  | .ok a => ⟨[], [], .ok a⟩
  | .error fault => ⟨[], [], .error (.writing fault)⟩

/-- A value with notices. -/
def ofLogged (x : Logged α) : Run α := ⟨[], x.notices, .ok x.value⟩

/-- A single notice. -/
def note (n : Notice) : Run Unit := ⟨[], [n], .ok ()⟩

@[simp] theorem requests_pure (a : α) : (pure a : Run α).requests = [] := rfl

@[simp] theorem notices_pure (a : α) : (pure a : Run α).notices = [] := rfl

@[simp] theorem outcome_pure (a : α) : (pure a : Run α).outcome = .ok a := rfl

/-- A computation with a value goes on. -/
theorem bind_of_ok {x : Run α} {a : α} (h : x.outcome = .ok a) (f : α → Run β) :
    x >>= f = ⟨x.requests ++ (f a).requests, x.notices ++ (f a).notices, (f a).outcome⟩ := by
  show andThen x f = _
  simp [andThen, h]

/-- A computation that was stopped does not go on. -/
theorem bind_of_error {x : Run α} {stop : Interruption} (h : x.outcome = .error stop)
    (f : α → Run β) : x >>= f = ⟨x.requests, x.notices, .error stop⟩ := by
  show andThen x f = _
  simp [andThen, h]

end Run

/-! ## Asking -/

/-- Why a request fails whose limit of time cannot be measured. -/
def unmeasurableLimit : Text := "int too large to convert to float".text

/-- What comes of a reaction within a limit of time; nothing when the request is cancelled, which
is also the only end of one that waits for ever. -/
def Reaction.settle (reaction : Reaction) (operation : Text) (limit : Number) :
    Option (Except QueryFailure Value) :=
  match reaction with
  | .refused cause => some (.error (.failed operation cause))
  | .after delay reply =>
    if limit.exceedsDouble then some (.error (.failed operation unmeasurableLimit))
    else if limit.isSpent || limit.runsOutBefore delay then
      some (.error (.timedOut operation limit))
    else if limit.isEndless && delay.isEndless then none
    else match reply with
      | .answer v => some (.ok v)
      | .failed cause => some (.error (.failed operation cause))
      | .timedOut => some (.error (.timedOut operation limit))
      | .cancelled => none

/-- Issues a request and waits for its reply within a limit of time. -/
def Backend.ask (backend : Backend) (limit : Number) (request : Request) :
    Run (Except QueryFailure Value) :=
  ⟨[request], [],
    match (backend request).settle request.operation limit with
    | some result => .ok result
    | none => .error .cancelled⟩

end Placement
