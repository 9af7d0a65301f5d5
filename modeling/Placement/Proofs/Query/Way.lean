import Mathlib.Data.List.Basic
import Placement.Proofs.Document
import Placement.Proofs.Hover.Method
import Placement.Proofs.Run
import Placement.Proofs.Value
import Placement.Query

/-!
# Placement.Proofs.Query.Way — the four ways to a type

A way to a type asks some requests, one after the other, and ends with a text, with
nothing, or with a cancelled request (`Way`). It also ends where the name of a document
is an integer with too many digits to be written; while all answers can be written it
does not (`ways_end_written`). What a way asks and how it ends is fixed by the replies of
the backend within the limit of time:

* `Way.single` — one request, whose answer is searched for a text;
* `Way.targets` — one request for locations, and then reads of these in turn, up to
  the first one that shows a text or fails.

Each attempt of a query `Takes` one of the ways: `hoverType_takes`,
`inlayType_takes` and `targetText_takes`.
-/

namespace Placement.Query

/-! ## Searching a list -/

/-- The elements of a list up to the first one that stops the search, this one included. -/
def upTo {α : Type} (stops : α → Bool) (xs : List α) : List α :=
  xs.takeWhile (fun x => !stops x) ++ (xs.find? stops).toList

/-- A search goes on behind an element that does not stop it. -/
theorem upTo_cons {α : Type} (stops : α → Bool) (x : α) (xs : List α) :
    upTo stops (x :: xs) = if stops x then [x] else x :: upTo stops xs := by
  unfold upTo
  rw [List.takeWhile_cons, List.find?_cons]
  cases stops x <;> rfl

/-! ## Ways -/

/-- How a way to a type ends. -/
inductive Ending where
  | text (t : Text)
  | nothing
  | cancelled
  /-- The name of a document in an answer cannot be written. -/
  | unwritten (fault : WriteFault)
deriving DecidableEq, Repr

namespace Ending

/-- Whether no other way is tried behind this ending. -/
def isFinal : Ending → Bool
  | .nothing => false
  | _ => true

/-- What a question is answered with in the end. -/
def outcome : Ending → Except Interruption (Option Text)
  | .text t => .ok (some t)
  | .nothing => .ok none
  | .cancelled => .error .cancelled
  | .unwritten fault => .error (.writing fault)

/-- The ending of a request by its reply: a failed request ends with nothing, and an answer with
the text that it shows. -/
def ofReply (text? : Value → Option Text) : Option (Except QueryFailure Value) → Ending
  | none => .cancelled
  | some (.error _) => .nothing
  | some (.ok v) => (text? v).elim .nothing .text

end Ending

/-- What a way to a type asks for, and how it ends. -/
structure Way where
  requests : List Request
  ending : Ending
deriving DecidableEq, Repr

section Ways

variable (backend : Backend) (limit : Number)

/-- The reply to a request within the limit of time; none when it is cancelled. -/
def reply (request : Request) : Option (Except QueryFailure Value) :=
  (backend request).settle request.operation limit

/-- The way of a single request. -/
def Way.single (request : Request) (text? : Value → Option Text) : Way :=
  ⟨[request], .ofReply text? (reply backend limit request)⟩

/-- The request to read the text at a target. -/
def readOf (target : Reply.Target) : Request := .readText target.uri target.range

/-- The text that a read shows, on one line; a blank one is none. -/
def shownText? : Value → Option Text
  | .text t => if Text.allBlank t then none else some (Text.collapse t)
  | _ => none

/-- Whether no other target is read behind this one: it shows a text, or it cannot be read. -/
def endsReading (target : Reply.Target) : Bool :=
  match reply backend limit (readOf target) with
  | some (.ok v) => (shownText? v).isSome
  | _ => true

/-- The way over some targets, which are read in turn up to the one that ends it. -/
def Way.reads (targets : List Reply.Target) : Way :=
  ⟨(upTo (endsReading backend limit) targets).map readOf,
    match targets.find? (endsReading backend limit) with
    | some target => .ofReply shownText? (reply backend limit (readOf target))
    | none => .nothing⟩

/-- The way over the targets of an answer, unless one of them has a name that cannot be written. -/
def Way.readsOf : Except WriteFault (List Reply.Target) → Way
  | .ok targets => Way.reads backend limit targets
  | .error fault => ⟨[], .unwritten fault⟩

/-- The way of a request for locations, which are read when the request is answered. -/
def Way.targets (request : Request) : Way :=
  match reply backend limit request with
  | some (.ok v) =>
    let reads := Way.readsOf backend limit (Reply.targets v)
    ⟨request :: reads.requests, reads.ending⟩
  | unanswered => ⟨[request], .ofReply (fun _ => none) unanswered⟩

/-- Whether a hint stands at or behind a position on its line. -/
def isNear (p : Position) (h : Reply.Hint) : Bool :=
  h.position.line == p.line && p.character ≤ h.position.character

/-- Whether no hint of a list has a lesser column. -/
def isLeast (hints : List Reply.Hint) (h : Reply.Hint) : Bool :=
  hints.all fun k => h.position.character ≤ k.position.character

/-- The first of the hints of least column at or behind a position on its line. -/
def nearest? (p : Position) (hints : List Reply.Hint) : Option Reply.Hint :=
  (hints.filter (isNear p)).find? (isLeast (hints.filter (isNear p)))

/-- The type that a hint answer shows at a position. -/
def hintText? (p : Position) (v : Value) : Option Text :=
  (nearest? p (Reply.hints v)).bind hintType

/-- The type that a hover answer shows: that of the first of its texts that has one. -/
def hoverText? (method : Bool) (v : Value) : Option Text :=
  (Reply.hoverTexts v).findSome? fun content => (typeInHover method content).value

/-- The ways to a type at a position, in the order in which they are tried. -/
def ways (d : Document) (p : Position) : List Way :=
  [.targets backend limit (.typeDefinition d.uri p),
   .targets backend limit (.definition d.uri p),
   .single backend limit (.inlayHints d.uri (.ofLine p.line 0 (d.textAt p.line).length))
    (hintText? p),
   .single backend limit (.hover d.uri p) (hoverText? (d.calls p))]

end Ways

/-! ## Attempts -/

/-- How an attempt ends, if it is not stopped by a line that cannot be read: with a text, with
nothing, also when a request failed, with a cancelled request, or with a name not written. -/
def ending? : Except Interruption (Except QueryFailure (Option Text)) → Option Ending
  | .ok (.ok (some t)) => some (.text t)
  | .ok (.ok none) => some .nothing
  | .ok (.error _) => some .nothing
  | .error .cancelled => some .cancelled
  | .error (.writing fault) => some (.unwritten fault)
  | .error (.line _) => none

/-- The attempt asks what the way asks, and ends as it ends. -/
structure Takes (x : Attempt) (w : Way) : Prop where
  asks : x.requests = w.requests
  ends : ending? x.outcome = some w.ending

variable {backend : Backend} {limit : Number} {d : Document} {p : Position}

theorem Takes.pure (found : Option Text) :
    Takes (pure (.ok found)) ⟨[], found.elim .nothing .text⟩ := by
  cases found <;> exact ⟨rfl, rfl⟩

/-- Reading a line that can be read and noting things ask nothing. -/
theorem Takes.bind_silent {α : Type} {x : Run α} {f : α → Attempt} {a : α} {w : Way}
    (hx : x.Yields [] a) (hf : Takes (f a) w) : Takes (x >>= f) w := by
  rw [Run.bind_of_ok hx.gives]
  refine ⟨?_, hf.ends⟩
  rw [hx.asks, ← hf.asks]
  rfl

/-- A request that is not answered ends an attempt. -/
theorem asking_takes_unanswered {request : Request} {next : Value → Attempt}
    (h : ∀ v, reply backend limit request ≠ some (.ok v)) (text? : Value → Option Text) :
    Takes (asking backend limit request next)
      ⟨[request], .ofReply text? (reply backend limit request)⟩ := by
  unfold reply at h ⊢
  unfold asking
  -- no reply before the cancellation, or a failure: in neither case is the next step taken
  cases hreply : (backend request).settle request.operation limit with
  | none =>
    have hstop : (backend.ask limit request).outcome = .error .cancelled := by
      simp only [Backend.ask, hreply]
    rw [Run.bind_of_error hstop]
    exact ⟨rfl, rfl⟩
  | some settled =>
    cases settled with
    | ok v => exact absurd hreply (h v)
    | error failure =>
      have hask := Run.Yields.ask hreply
      rw [Run.bind_of_ok hask.gives]
      exact ⟨rfl, rfl⟩

/-- A request that is answered leaves the rest to what comes of the answer. -/
theorem asking_takes_answered {request : Request} {next : Value → Attempt} {v : Value} {w : Way}
    (h : reply backend limit request = some (.ok v)) (hnext : Takes (next v) w) :
    Takes (asking backend limit request next) ⟨request :: w.requests, w.ending⟩ := by
  have hask := Run.Yields.ask h
  unfold asking
  rw [Run.bind_of_ok hask.gives]
  refine ⟨?_, hnext.ends⟩
  rw [hask.asks, ← hnext.asks]
  rfl

/-- An attempt that searches one answer for a text takes the way of its request. -/
theorem asking_takes_single {request : Request} {next : Value → Attempt}
    {text? : Value → Option Text}
    (hnext : ∀ v, Takes (next v) ⟨[], (text? v).elim .nothing .text⟩) :
    Takes (asking backend limit request next) (.single backend limit request text?) := by
  unfold Way.single
  by_cases h : ∃ v, reply backend limit request = some (.ok v)
  · rcases h with ⟨v, hv⟩
    rw [hv]
    exact asking_takes_answered hv (hnext v)
  · rw [not_exists] at h
    exact asking_takes_unanswered h text?

/-! ## Hovers -/

/-- The attempt by hovers is the way of one request. -/
theorem hoverType_takes (method : Bool) :
    Takes (hoverType backend limit d p method)
      (.single backend limit (.hover d.uri p) (hoverText? method)) := by
  apply asking_takes_single
  intro v
  refine Takes.bind_silent (Run.Yields.ofLogged _) ?_
  rw [Hover.value_firstResult]
  exact Takes.pure _

/-! ## Hints -/

/-- Of some hints one is the leftmost. -/
theorem leftmost_cons_ne_none (h : Reply.Hint) (more : List Reply.Hint) :
    leftmost (h :: more) ≠ none := by
  rw [leftmost]
  cases leftmost more with
  | none => exact Option.some_ne_none h
  | some k =>
    simp only
    split <;> exact Option.some_ne_none _

theorem isLeast_iff {hints : List Reply.Hint} {h : Reply.Hint} :
    isLeast hints h = true ↔ ∀ k ∈ hints, h.position.character ≤ k.position.character := by
  simp [isLeast]

/-- With one more hint the least one must not be behind it either. -/
theorem isLeast_cons_iff {hints : List Reply.Hint} {h k : Reply.Hint} :
    isLeast (h :: hints) k = true ↔
      k.position.character ≤ h.position.character ∧ isLeast hints k = true := by
  simp [isLeast]

/-- The leftmost hint is the first one of least column. -/
theorem leftmost_eq (hints : List Reply.Hint) : leftmost hints = hints.find? (isLeast hints) := by
  induction hints with
  | nil => rfl
  | cons h more ih =>
    rw [leftmost]
    cases hleast : leftmost more with
    | none =>
      cases more with
      | nil =>
        rw [List.find?_cons_of_pos]
        exact isLeast_cons_iff.mpr ⟨Int.le_refl _, rfl⟩
      | cons k rest => exact absurd hleast (leftmost_cons_ne_none k rest)
    | some k =>
      rw [hleast] at ih
      have hk := isLeast_iff.mp (List.find?_some ih.symm)
      have hmem : k ∈ more := List.mem_of_find?_eq_some ih.symm
      simp only
      by_cases hless : k.position.character < h.position.character
      · -- the head is not least, and in front of the one found no hint is
        rcases List.find?_eq_some_iff_append.mp ih.symm with ⟨hkleast, front, back, hmore, hfront⟩
        rw [if_pos hless, List.find?_cons_of_neg, eq_comm, List.find?_eq_some_iff_append]
        · refine ⟨isLeast_cons_iff.mpr ⟨by omega, hkleast⟩, front, back, hmore, ?_⟩
          intro x hx
          have hnot := hfront x hx
          rw [Bool.not_eq_true', ← Bool.not_eq_true] at hnot ⊢
          exact fun hleast => hnot (isLeast_cons_iff.mp hleast).2
        · rw [isLeast_iff]
          intro hall
          have hhk := hall k (List.mem_cons_of_mem h hmem)
          omega
      · rw [if_neg hless, List.find?_cons_of_pos]
        rw [isLeast_cons_iff, isLeast_iff]
        refine ⟨Int.le_refl _, ?_⟩
        intro x hx
        have hkx := hk x hx
        omega

/-- The attempt by hints is the way of one request, for the whole line. -/
theorem inlayType_takes (hline : d.HasLine p.line) (hb : p.line ∉ d.broken) :
    Takes (inlayType backend limit d p)
      (.single backend limit (.inlayHints d.uri (.ofLine p.line 0 (d.textAt p.line).length))
        (hintText? p)) := by
  unfold inlayType
  refine Takes.bind_silent (Run.Yields.ofLine (Document.lineAt_eq_ok hline hb)) ?_
  apply asking_takes_single
  intro v
  have hnearest : hintText? p v =
      (leftmost ((Reply.hints v).filter (isNear p))).bind hintType := by
    rw [leftmost_eq]
    rfl
  rw [hnearest]
  exact Takes.pure _

/-! ## Locations -/

/-- Reading goes on behind a target that shows no text. -/
theorem firstText_cons (target : Reply.Target) (more : List Reply.Target) :
    firstText backend limit (target :: more) =
      asking backend limit (readOf target) fun v =>
        match shownText? v with
        | some t => return .ok (some t)
        | none => firstText backend limit more := by
  rw [firstText]
  unfold readOf
  congr 1
  funext v
  cases v with
  | text t =>
    simp only [shownText?]
    cases Text.allBlank t <;> rfl
  | null | bool _ | int _ | double _ | moment _ | list _ | record _ => rfl

/-- A target that shows a text is the last one that is read. -/
theorem Way.reads_of_shown {target : Reply.Target} {v : Value} {t : Text}
    (hv : reply backend limit (readOf target) = some (.ok v)) (ht : shownText? v = some t)
    (more : List Reply.Target) :
    Way.reads backend limit (target :: more) = ⟨[readOf target], .text t⟩ := by
  have hends : endsReading backend limit target = true := by
    simp [endsReading, hv, ht]
  simp [Way.reads, upTo_cons, hends, hv, ht, Ending.ofReply]

/-- Behind a target that shows no text the others are read. -/
theorem Way.reads_of_blank {target : Reply.Target} {v : Value}
    (hv : reply backend limit (readOf target) = some (.ok v)) (ht : shownText? v = none)
    (more : List Reply.Target) :
    Way.reads backend limit (target :: more) =
      ⟨readOf target :: (Way.reads backend limit more).requests,
        (Way.reads backend limit more).ending⟩ := by
  have hends : endsReading backend limit target = false := by
    simp [endsReading, hv, ht]
  simp [Way.reads, upTo_cons, hends]

/-- A target that cannot be read is the last one. -/
theorem Way.reads_of_unanswered {target : Reply.Target}
    (h : ∀ v, reply backend limit (readOf target) ≠ some (.ok v)) (more : List Reply.Target) :
    Way.reads backend limit (target :: more) =
      ⟨[readOf target], .ofReply shownText? (reply backend limit (readOf target))⟩ := by
  have hends : endsReading backend limit target = true := by
    unfold endsReading
    split
    · rename_i v hv
      exact absurd hv (h v)
    · rfl
  simp [Way.reads, upTo_cons, hends]

/-- Reading targets in turn takes the way over them. -/
theorem firstText_takes (targets : List Reply.Target) :
    Takes (firstText backend limit targets) (.reads backend limit targets) := by
  induction targets with
  | nil => exact Takes.pure none
  | cons target more ih =>
    rw [firstText_cons]
    -- only an answer is looked into; a read without one ends the way
    by_cases h : ∃ v, reply backend limit (readOf target) = some (.ok v)
    · rcases h with ⟨v, hv⟩
      cases ht : shownText? v with
      | some t =>
        rw [Way.reads_of_shown hv ht]
        refine asking_takes_answered (w := ⟨[], .text t⟩) hv ?_
        rw [ht]
        exact Takes.pure (some t)
      | none =>
        rw [Way.reads_of_blank hv ht]
        refine asking_takes_answered hv ?_
        rw [ht]
        exact ih
    · rw [not_exists] at h
      rw [Way.reads_of_unanswered h]
      exact asking_takes_unanswered h shownText?

/-- Targets with a name that cannot be written are not read. -/
theorem firstTextOf_takes (found : Except WriteFault (List Reply.Target)) :
    Takes (Run.ofWriting found >>= firstText backend limit) (.readsOf backend limit found) := by
  cases found with
  | ok targets => exact Takes.bind_silent ⟨rfl, rfl⟩ (firstText_takes targets)
  | error fault => exact ⟨rfl, rfl⟩

/-- The attempt by locations is the way of a request for them. -/
theorem targetText_takes (request : Request) :
    Takes (targetText backend limit request) (.targets backend limit request) := by
  unfold targetText Way.targets
  by_cases h : ∃ v, reply backend limit request = some (.ok v)
  · rcases h with ⟨v, hv⟩
    rw [hv]
    exact asking_takes_answered hv (firstTextOf_takes _)
  · rw [not_exists] at h
    split
    · rename_i v hv
      exact absurd hv (h v)
    · exact asking_takes_unanswered h fun _ => none

/-! ## Names that can be written -/

/-- Every answer within the limit of time can be written, as the values that are read from texts of
JSON can be. -/
def AnswersWritable (backend : Backend) (limit : Number) : Prop :=
  ∀ request v, reply backend limit request = some (.ok v) → v.isWritable = true

/-- A value that is present is the one that was found. -/
theorem isWritable_of_present? {found : Option Value} {v : Value}
    (h : Reply.present? found = some v) : found = some v := by
  cases found with
  | none => cases h
  | some w => cases w <;> first | exact h | cases h

/-- The name of the document that a location points to is a part of the location. -/
theorem isWritable_of_place? {v uri : Value} {range : Range} (h : v.isWritable = true)
    (hplace : Reply.place? v = some (uri, range)) : uri.isWritable = true := by
  unfold Reply.place? at hplace
  cases hlink : Reply.present? (v.firstOf? ["targetUri".text, "target_uri".text]) with
  | some target =>
    rw [hlink] at hplace
    simp only [Option.map_eq_some_iff, Prod.mk.injEq] at hplace
    obtain ⟨_, -, rfl, -⟩ := hplace
    exact Value.isWritable_of_firstOf? h (isWritable_of_present? hlink)
  | none =>
    rw [hlink] at hplace
    simp only [bind, Option.bind_eq_some_iff, pure, Option.some.injEq, Prod.mk.injEq] at hplace
    obtain ⟨named, hnamed, _, -, _, -, rfl, -⟩ := hplace
    exact Value.isWritable_of_get? h (isWritable_of_present? hnamed)

/-- The locations of an answer that can be written can be read. -/
theorem exists_targets_eq_ok {v : Value} (h : v.isWritable = true) :
    ∃ targets, Reply.targets v = .ok targets := by
  have hplaces : ∀ place ∈ v.elements.filterMap Reply.place?, place.1.isWritable = true := by
    intro place hmem
    rcases List.mem_filterMap.mp hmem with ⟨w, hw, hplace⟩
    exact isWritable_of_place? (Value.isWritable_of_mem_elements h hw) hplace
  unfold Reply.targets
  generalize v.elements.filterMap Reply.place? = places at hplaces
  -- the places are written one after the other
  induction places with
  | nil => exact ⟨[], rfl⟩
  | cons place more ih =>
    rcases Value.exists_plain_eq_ok (hplaces place List.mem_cons_self) with ⟨uri, huri⟩
    rcases ih fun other hother => hplaces other (List.mem_cons_of_mem place hother) with
      ⟨targets, htargets⟩
    refine ⟨⟨uri, place.2⟩ :: targets, ?_⟩
    rw [List.mapM_cons, htargets]
    simp only [huri]
    rfl

/-- A request ends with a text, with nothing, or cancelled. -/
theorem ofReply_ne_unwritten (text? : Value → Option Text)
    (settled : Option (Except QueryFailure Value)) (fault : WriteFault) :
    Ending.ofReply text? settled ≠ .unwritten fault := by
  rcases settled with _ | failure | v
  · exact Ending.noConfusion
  · exact Ending.noConfusion
  · simp only [Ending.ofReply]
    cases text? v <;> exact Ending.noConfusion

/-- Once the targets are known no name is written any more. -/
theorem reads_ne_unwritten (targets : List Reply.Target) (fault : WriteFault) :
    (Way.reads backend limit targets).ending ≠ .unwritten fault := by
  simp only [Way.reads]
  cases targets.find? (endsReading backend limit) with
  | none => exact Ending.noConfusion
  | some target => exact ofReply_ne_unwritten _ _ fault

/-- The way of a request for locations ends at no name while the answers can be written. -/
theorem targets_ne_unwritten (h : AnswersWritable backend limit) (request : Request)
    (fault : WriteFault) : (Way.targets backend limit request).ending ≠ .unwritten fault := by
  unfold Way.targets
  split
  · rename_i v hv
    rcases exists_targets_eq_ok (h request v hv) with ⟨targets, htargets⟩
    rw [htargets]
    exact reads_ne_unwritten targets fault
  · exact ofReply_ne_unwritten _ _ fault

/-- No way ends for a name that cannot be written while all answers can be written. -/
theorem ways_end_written (h : AnswersWritable backend limit) {w : Way}
    (hw : w ∈ ways backend limit d p) (fault : WriteFault) : w.ending ≠ .unwritten fault := by
  simp only [ways, List.mem_cons, List.not_mem_nil, or_false] at hw
  rcases hw with rfl | rfl | rfl | rfl
  · exact targets_ne_unwritten h _ fault
  · exact targets_ne_unwritten h _ fault
  · exact ofReply_ne_unwritten _ _ fault
  · exact ofReply_ne_unwritten _ _ fault

end Placement.Query
