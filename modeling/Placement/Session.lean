import Placement.Cache.Basic
import Placement.Cache.Key
import Placement.Chain
import Placement.Graph.Basic

/-!
# Placement.Session — analysis with cached results

A session analyses documents against one backend and keeps the results of its
passes. A result is found again as long as document version, scope and active
file are the same. To the attributions of a pass the session adds the places
where the labels of their locations are declared as structs.

A pass that meets a line which cannot be read gives no result, and a cancelled
one ends the analysis; neither leaves anything in the cache. A document whose
version has too many digits to be written has no key, and its analysis ends before
anything is looked up.
-/

namespace Placement

/-- What an analysis may be told. -/
structure AnalysisSettings where
  enabled : Bool
  queryTimeout : Int
  maxFileLines : Int
  cacheSize : Int
deriving DecidableEq, Repr

/-- The settings that hold unless configured otherwise. -/
def AnalysisSettings.standard : AnalysisSettings := ⟨true, 5000, 10000, 50⟩

/-! ## Struct declarations -/

namespace Declaration

/-- The labels of some attributions that are parameters, in the order of their first appearance,
each with the first location that has it. -/
def labels (found : List Attribution) : List (Text × Location) :=
  found.foldl
    (fun seen a =>
      if a.location.hasParameter && !(seen.lookup a.location.label).isSome then
        seen ++ [(a.location.label, a.location)]
      else seen)
    []

/-- The declaration of a struct with a name. -/
def structNamed (name : Text) : Text.Pattern Text := fun before t => do
  if before.any Text.isWord then none
  let (blanks, r) := (← Text.after? "struct".text t).span Text.isBlank
  if blanks.isEmpty then none
  let rest ← Text.after? name r
  if Text.isWordEdge name.getLast? rest.head? then some (name, rest) else none

/-- The place where a line declares a struct with a name: the first character of the name. -/
def startIn? (name line : Text) : Option Nat :=
  ((structNamed name).find? none line).map fun (_, rest) =>
    line.length - rest.length - name.length

/-- The first of some lines that declares a struct with a name, and the place in it. Lines are
numbered from `number`, and are read up to that one. -/
def find (broken : List Int) (name : Text) : Nat → List Text → Except LineFault (Option (Nat × Nat))
  | _, [] => .ok none
  | number, line :: more =>
    if (number : Int) ∈ broken then .error (.unavailable number)
    else match startIn? name line with
      | some start => .ok (some (number, start))
      | none => find broken name (number + 1) more

/-- The attribution of a declaration. -/
def attribution (location : Location) (line start : Nat) : Attribution :=
  ⟨location.label, .ofLine line start (start + location.label.length), location.canonical,
    location, none⟩

/-- The declarations of the labels of some locations, in the order of these. -/
def ofLabels (d : Document) : List (Text × Location) → Except LineFault (List Attribution)
  | [] => .ok []
  | (label, location) :: more => do
    let found ← find d.broken label 0 d.lines
    let rest ← ofLabels d more
    return (found.map fun (line, start) => attribution location line start).toList ++ rest

/-- The declarations of the labels that a pass found. -/
def among (d : Document) (found : List Attribution) : Except LineFault (List Attribution) :=
  ofLabels d (labels found)

end Declaration

/-! ## Sessions -/

/-- What a session notes beside a cached result. -/
structure PassNote where
  version : Int
  count : Nat
deriving DecidableEq, Repr

/-- The state of a session. -/
structure Session where
  backend : Backend
  settings : AnalysisSettings
  operators : Operators
  cache : Cache (List Attribution) PassNote

namespace Session

/-- A session without results. -/
def start (backend : Backend) (settings : AnalysisSettings) (operators : Operators) : Session :=
  ⟨backend, settings, operators, .empty settings.cacheSize⟩

/-- A pass over a document: its attributions, and the declarations of their labels. -/
def pass (s : Session) (d : Document) (sites : List Site) : Run (List Attribution) := do
  let found ← Chain.track s.operators s.backend (.int s.settings.queryTimeout) d sites
  return found ++ (← Run.ofLine (Declaration.among d found))

/-- The session after the result of a pass was stored. -/
def store (s : Session) (d : Document) (key : Text) (found : List Attribution) : Session :=
  { s with cache := s.cache.set key found (some ⟨d.version, found.length⟩) }

/-- What a pass leaves: its result is stored, a failure inside it is reported and leaves an empty
result, and a cancelled pass stays cancelled. -/
def finish (s : Session) (d : Document) (key : Text) (run : Run (List Attribution)) :
    Run (List Attribution) × Session :=
  match run.outcome with
  | .ok found => (run, s.store d key found)
  | .error .cancelled => (run, s)
  | .error _ => (⟨run.requests, run.notices ++ [.passFailed d.uri], .ok []⟩, s)

/-- The attributions of a document by its key: cached ones, or those of a pass. -/
def lookUp (s : Session) (d : Document) (sites : List Site) (key : Text) :
    Run (List Attribution) × Session :=
  let (cached, cache) := s.cache.get key
  let s := { s with cache }
  match cached with
  | some found => (pure found, s)
  | none => s.finish d key (s.pass d sites)

/-- The attributions of a document. There are none without an analysis, for a document with too many
lines, and where the key of the result cannot be written. -/
def analyze (s : Session) (d : Document) (sites : List Site) (scope : Text)
    (activeFile : Option Text) : Run (List Attribution) × Session :=
  if !s.settings.enabled then (pure [], s)
  else if s.settings.maxFileLines < d.lineCount then
    (⟨[], [.tooManyLines d.uri d.lineCount s.settings.maxFileLines], .ok []⟩, s)
  else
    match CacheKey.encode ⟨d.uri, d.version, scope, activeFile⟩ with
    | .ok key => s.lookUp d sites key
    | .error fault => (⟨[], [], .error (.writing fault)⟩, s)

/-- Removes the results of a document: those whose key begins as its keys do. The number of removed
results comes with the session. -/
def invalidate (s : Session) (uri : Text) : Nat × Session :=
  let stale := s.cache.keys.filter (Text.startsWith (CacheKey.documentLead uri))
  (stale.length, { s with cache := stale.foldl Cache.clear s.cache })

/-- Removes all results. The number of removed results comes with the session. -/
def invalidateAll (s : Session) : Nat × Session :=
  (s.cache.size, { s with cache := s.cache.clearAll })

end Session

end Placement
