import Placement.Proofs.Hover.Bindings
import Placement.Proofs.Hover.CodeBlocks

/-!
# Placement.Proofs.Hover.CodeBody — what the code of a hover binds

A hover is searched for bindings from its first character to its last one, and its
code blocks are no exception. Around the body of a block stand heads in front of it
(`ahead`), which bind the same names whatever the body is (`map_fst_ahead`), and heads
behind it (`behind`), which bind the same values as well. The block itself binds what
nothing in front of it binds, and hides what is bound behind it
(`get?_metadata_fill`).

So another body makes no difference exactly when no value in front of the block runs
into it, and the two bodies bind the same to each name that is left to them
(`metadata_fill_iff`).
-/

namespace Placement.Hover

open Text (Pattern isBlank)

variable {c : CodePoint} {before : Option CodePoint} {name t u u' body body' : Text}

/-! ## Heads in front of a backtick -/

/-- Whether a head in front of a backtick binds anything does not depend on what follows. -/
theorem isEmpty_boundValue_append (h : t.head?.any isBlank = false) (u u' : Text) :
    (boundValue (t ++ .char '\x60' :: u)).isEmpty =
      (boundValue (t ++ .char '\x60' :: u')).isEmpty := by
  cases t with
  | nil =>
    have hstop : isStop '\x60' = true := by decide
    rw [List.nil_append, List.nil_append, boundValue_of_isStop hstop, boundValue_of_isStop hstop]
  | cons c r =>
    have hc : isBlank c = false := h
    rw [List.cons_append, List.cons_append, isEmpty_boundValue_cons hc,
      isEmpty_boundValue_cons hc]

/-- A head binds its own name or nothing. -/
theorem map_fst_binding? (name value : Text) :
    (binding? (name, value)).map Prod.fst =
      if (boundValue value).isEmpty then none else some name := by
  unfold binding?
  split <;> rfl

theorem endsHead_backtick (u : Text) : EndsHead (.char '\x60' :: u) :=
  ⟨rfl, rfl, by simp⟩

/-- In front of a backtick the same names are bound, whatever follows it. -/
theorem map_fst_bindingsIn (before : Option CodePoint) (t u u' : Text) :
    (bindingsIn before t (.char '\x60' :: u)).map Prod.fst =
      (bindingsIn before t (.char '\x60' :: u')).map Prod.fst := by
  rw [bindingsIn_eq_heads (endsHead_backtick u), bindingsIn_eq_heads (endsHead_backtick u'),
    List.map_filterMap, List.map_filterMap]
  refine List.filterMap_congr fun head hhead => ?_
  obtain ⟨front, sign, -, hsign⟩ := exists_of_mem_heads hhead
  rw [map_fst_binding?, map_fst_binding?, isEmpty_boundValue_append hsign.begins u u']

/-! ## Around the body of a block -/

/-- What stands around the body of a code block in a hover. -/
structure Surroundings where
  front : Text
  info : Text
  back : Text

namespace Surroundings

variable {s : Surroundings}

/-- The hover with a body in its place. -/
def fill (s : Surroundings) (body : Text) : Text := s.front ++ (fenced s.info body ++ s.back)

/-- The bindings whose heads stand in front of the block. -/
def ahead (s : Surroundings) (body : Text) : Bindings :=
  bindingsIn none s.front (fenced s.info body ++ s.back)

/-- The bindings whose heads stand in the block. -/
def within (s : Surroundings) (body : Text) : Bindings :=
  bindingsIn s.front.getLast? (fenced s.info body) s.back

/-- The bindings whose heads stand behind the block. -/
def behind (s : Surroundings) : Bindings := bindingsIn (some (.char '\x60')) s.back []

/-- The bindings of a hover are those in front of the block, those in it and those behind it. -/
theorem bindingsIn_fill (s : Surroundings) (body : Text) :
    bindingsIn none (s.fill body) [] = s.ahead body ++ (s.within body ++ s.behind) := by
  unfold fill ahead within behind
  rw [bindingsIn_append, bindingsIn_append, List.append_nil, List.append_nil, getLast?_fenced,
    Option.or_none, Option.some_or]

/-- The block binds what nothing in front of it binds, and hides what is bound behind it. -/
theorem get?_metadata_fill (s : Surroundings) (body name : Text) :
    (metadata (s.fill body)).value.get? name =
      ((s.ahead body).lookup name).or
        (((s.within body).lookup name).or (s.behind.lookup name)) := by
  rw [get?_metadata, bindingsIn_fill, List.lookup_append, List.lookup_append]

/-- In front of the block the same names are bound, whatever its body is. -/
theorem map_fst_ahead (s : Surroundings) (body body' : Text) :
    (s.ahead body).map Prod.fst = (s.ahead body').map Prod.fst := by
  unfold ahead
  rw [fenced_append, fenced_append]
  exact map_fst_bindingsIn none s.front _ _

/-- Which names are bound in front of a block does not depend on its body. -/
theorem lookup_ahead_eq_none_iff (s : Surroundings) (body body' name : Text) :
    (s.ahead body).lookup name = none ↔ (s.ahead body').lookup name = none := by
  rw [Lookup.eq_none_iff, Lookup.eq_none_iff, map_fst_ahead s body body']

/-- Another body in a code block leaves all bindings as they are exactly when the values of the
names that are bound in front of the block are the same, and each other name is bound to the same
by the block or else behind it. -/
theorem metadata_fill_iff (s : Surroundings) (body body' : Text) :
    (∀ name, (metadata (s.fill body)).value.get? name =
        (metadata (s.fill body')).value.get? name) ↔
      (∀ name, (s.ahead body).lookup name = (s.ahead body').lookup name) ∧
        ∀ name, (s.ahead body).lookup name = none →
          ((s.within body).lookup name).or (s.behind.lookup name) =
            ((s.within body').lookup name).or (s.behind.lookup name) := by
  simp only [get?_metadata_fill]
  constructor
  · intro h
    refine ⟨fun name => ?_, fun name hnone => ?_⟩
    · have hname := h name
      -- a name that one body has bound in front of the block is bound there with the other one too
      cases hahead : (s.ahead body).lookup name with
      | none => exact ((lookup_ahead_eq_none_iff s body body' name).mp hahead).symm
      | some value =>
        have hbound : (s.ahead body').lookup name ≠ none := by
          rw [Ne, ← lookup_ahead_eq_none_iff s body body', hahead]
          exact Option.some_ne_none value
        obtain ⟨value', hvalue'⟩ := Option.ne_none_iff_exists'.mp hbound
        rwa [hahead, hvalue', Option.some_or, Option.some_or, ← hvalue'] at hname
    · have hname := h name
      rwa [hnone, (lookup_ahead_eq_none_iff s body body' name).mp hnone, Option.none_or,
        Option.none_or] at hname
  · rintro ⟨hahead, hwithin⟩ name
    rw [← hahead name]
    cases hname : (s.ahead body).lookup name with
    | none => rw [Option.none_or, Option.none_or, hwithin name hname]
    | some value => rw [Option.some_or, Option.some_or]

/-- A hover of a type, with the location of a use of it in the prose. -/
def useOfType : Surroundings := ⟨[], "rust".text, "\nL = Process<'a, Leader>".text⟩

/-- A definition in the code hides the binding in the prose. -/
theorem code_hides_prose :
    Unfenced "type L".text ∧ Unfenced "type L = Never".text ∧
      (metadata (useOfType.fill "type L".text)).value =
        [("L".text, "Process<'a, Leader>".text)] ∧
      (metadata (useOfType.fill "type L = Never".text)).value =
        [("L".text, "Never".text)] := by
  decide

end Surroundings

end Placement.Hover
