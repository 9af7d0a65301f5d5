import Placement.Backend.Script
import Placement.Proofs.Query.Way

/-!
# Placement.Proofs.Query.FirstText — the first way with a text wins

The attempts of a query are made one after the other, each with a way that it takes.
A way that ends with nothing leaves the question to the next one; a text answers it,
and a cancelled request cancels it. So the requests are those of the ways up to the
first one that ends otherwise than with nothing, and the answer is the ending of that
way (`firstOf_takes`). `findType_first_text` puts the four ways to a type in their
places, and says when the names of documents do not get in their way.
-/

namespace Placement.Query

variable {backend : Backend} {limit : Number} {d : Document} {p : Position}

/-- Of some attempts the first one is made, and the others when it gives no text. -/
theorem firstOf_cons (x : Attempt) (more : List Attempt) :
    firstOf p (x :: more) =
      x >>= fun
        | .ok (some t) => return some t
        | .ok none => firstOf p more
        | .error failure => Run.note (.queryFailed failure p) >>= fun _ => firstOf p more :=
  rfl

/-- An attempt that ends with nothing leaves the rest to the others. -/
theorem firstOf_of_nothing {x : Attempt} (h : ending? x.outcome = some .nothing)
    (more : List Attempt) :
    (firstOf p (x :: more)).requests = x.requests ++ (firstOf p more).requests ∧
      (firstOf p (x :: more)).outcome = (firstOf p more).outcome := by
  rw [firstOf_cons]
  cases hx : x.outcome with
  | error stop =>
    rw [hx] at h
    cases stop <;> cases h
  | ok settled =>
    rw [Run.bind_of_ok hx]
    rw [hx] at h
    -- a failed request and an answer without a text both leave the next attempt to be made
    cases settled with
    | error failure => exact ⟨rfl, rfl⟩
    | ok found =>
      cases found with
      | none => exact ⟨rfl, rfl⟩
      | some t => cases h

/-- An attempt that ends otherwise is the last one. -/
theorem firstOf_of_isFinal {x : Attempt} {e : Ending} (h : ending? x.outcome = some e)
    (hfinal : e.isFinal = true) (more : List Attempt) :
    (firstOf p (x :: more)).requests = x.requests ∧
      (firstOf p (x :: more)).outcome = e.outcome := by
  rw [firstOf_cons]
  cases hx : x.outcome with
  | error stop =>
    rw [Run.bind_of_error hx]
    rw [hx] at h
    -- a request that was cancelled or could not be written ends the call; a broken line is no
    -- ending of a request
    cases stop with
    | cancelled | writing fault =>
      cases h
      exact ⟨rfl, rfl⟩
    | line fault => cases h
  | ok settled =>
    rw [Run.bind_of_ok hx]
    rw [hx] at h
    -- of the settled endings only a text is final
    cases settled with
    | error failure =>
      cases h
      cases hfinal
    | ok found =>
      cases found with
      | none =>
        cases h
        cases hfinal
      | some t =>
        cases h
        exact ⟨List.append_nil _, rfl⟩

/-- The requests of some attempts are those of their ways up to the first one that ends otherwise
than with nothing, and its ending is the answer. -/
theorem firstOf_takes {attempts : List Attempt} {ways : List Way}
    (h : List.Forall₂ Takes attempts ways) :
    (firstOf p attempts).requests = (upTo (·.ending.isFinal) ways).flatMap (·.requests) ∧
      (firstOf p attempts).outcome =
        ((ways.find? (·.ending.isFinal)).elim .nothing (·.ending)).outcome := by
  induction h with
  | nil => exact ⟨rfl, rfl⟩
  | @cons x w attempts ways hx _ ih =>
    -- the first way decides whether the others are taken
    rw [upTo_cons, List.find?_cons]
    cases hfinal : w.ending.isFinal with
    | true =>
      rcases firstOf_of_isFinal (p := p) hx.ends hfinal attempts with ⟨hasks, hgives⟩
      rw [hasks, hgives, hx.asks]
      simp
    | false =>
      have hnothing : w.ending = .nothing := by
        cases hw : w.ending with
        | nothing => rfl
        | text t =>
          rw [hw] at hfinal
          cases hfinal
        | cancelled | unwritten fault =>
          rw [hw] at hfinal
          cases hfinal
      have hends := hx.ends
      rw [hnothing] at hends
      rcases firstOf_of_nothing (p := p) hends attempts with ⟨hasks, hgives⟩
      rw [hasks, hgives, hx.asks, ih.1, ih.2]
      simp

/-- The attempts of a query take the four ways when the line of the position can be read. -/
theorem attempts_take (hline : d.HasLine p.line) (hb : p.line ∉ d.broken) :
    List.Forall₂ Takes (attempts backend limit d p) (ways backend limit d p) := by
  -- the line is read for the dot in front of the position before the hover is asked for
  have hhover : Takes (Run.ofLine (d.isMethodCall p) >>= hoverType backend limit d p)
      (.single backend limit (.hover d.uri p) (hoverText? (d.calls p))) :=
    Takes.bind_silent (Run.Yields.ofLine (Document.isMethodCall_eq_ok hline hb))
      (hoverType_takes (d.calls p))
  exact .cons (targetText_takes _) (.cons (targetText_takes _)
    (.cons (inlayType_takes hline hb) (.cons hhover .nil)))

/-- A position outside a readable document is answered with nothing, and nothing is asked. Inside it
the four ways to a type are tried in order: the requests are those of the ways up to the first one
that ends with a text or with a cancelled request, and this is how the question ends; where all ways
end with nothing, it is answered with nothing. A way also ends at a document's name that cannot be
written, but not while all answers can be written. -/
theorem findType_first_text (backend : Backend) (limit : Number) (p : Position)
    (hread : d.Readable) :
    (d.holds p = false →
      (findType backend limit d p).requests = [] ∧
        (findType backend limit d p).outcome = .ok none) ∧
    (d.holds p = true →
      (findType backend limit d p).requests =
          (upTo (·.ending.isFinal) (ways backend limit d p)).flatMap (·.requests) ∧
        (findType backend limit d p).outcome =
          (((ways backend limit d p).find? (·.ending.isFinal)).elim .nothing
            (·.ending)).outcome) ∧
    (AnswersWritable backend limit →
      ∀ w ∈ ways backend limit d p, ∀ fault, w.ending ≠ .unwritten fault) := by
  rcases d.inBounds_eq_ok (p := p) (hread p.line) with ⟨notices, hbounds⟩
  -- asking whether the position is in bounds adds a notice at most
  have hfind : (findType backend limit d p).requests =
        (if d.holds p then firstOf p (attempts backend limit d p) else return none).requests ∧
      (findType backend limit d p).outcome =
        (if d.holds p then firstOf p (attempts backend limit d p) else return none).outcome := by
    unfold findType
    rw [hbounds]
    exact ⟨rfl, rfl⟩
  rw [hfind.1, hfind.2]
  refine ⟨?_, ?_, fun hwritable w hw => ways_end_written hwritable hw⟩
  · intro hout
    rw [hout]
    exact ⟨rfl, rfl⟩
  · intro hin
    rw [if_pos hin]
    have hline := (Document.holds_iff.mp hin).1
    exact firstOf_takes (attempts_take hline (hread p.line hline))

/-- A line with a declaration. -/
def declaration : Document :=
  .ofText "file:///a.rs".text "let ops = leader.source_iter(q!(0..3));".text 1

/-- A location at the beginning of a document, as a backend writes it. -/
def beginningOf (uri : Text) : Value :=
  let beginning := Value.record [("line".text, .int 0), ("character".text, .int 0)]
  .record [("uri".text, .text uri),
    ("range".text, .record [("start".text, beginning), ("end".text, beginning)])]

/-- Tables in which the type definition fails, and of the two locations of the definition the first
one is blank. -/
def secondLocation : Script where
  hover := []
  typeDefinition := []
  definition := [("0:4".text, .list [beginningOf [.char 'a'], beginningOf [.char 'b']])]
  inlay := []
  texts := [([.char 'a'], .text " \n".text), ([.char 'b'], .text "Stream<T,\n  L>".text)]
  delays := []
  failures := [("typeDefinition".text, .text "error".text)]

/-- The definition answers a question that the type definition leaves, with the second text read. -/
theorem findType_first_text_definition :
    (declaration.Readable ∧ declaration.holds ⟨0, 4⟩ = true) ∧
    (findType secondLocation.backend (.int 5000) declaration ⟨0, 4⟩).requests =
      [.typeDefinition "file:///a.rs".text ⟨0, 4⟩, .definition "file:///a.rs".text ⟨0, 4⟩,
        .readText [.char 'a'] (.ofLine 0 0 0), .readText [.char 'b'] (.ofLine 0 0 0)] ∧
    (findType secondLocation.backend (.int 5000) declaration ⟨0, 4⟩).outcome =
      .ok (some "Stream<T, L>".text) := by
  have hread : declaration.Readable := Document.readable_of_broken_eq_nil rfl
  -- the type definition fails and asks nothing more, and of the two texts the first one is blank
  have hin : declaration.holds ⟨0, 4⟩ = true := by decide +kernel
  have hfind := (findType_first_text secondLocation.backend (.int 5000) ⟨0, 4⟩ hread).2.1 hin
  refine ⟨⟨hread, hin⟩, ?_, ?_⟩
  · rw [hfind.1]
    decide +kernel
  · rw [hfind.2]
    decide +kernel

end Placement.Query
