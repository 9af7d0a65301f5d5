import Placement.Location.Basic
import Placement.Proofs.TypeText.Balanced

/-!
# Placement.Proofs.TypeText.Grammar — type texts as trees

A type is, behind an optional reference, a location in a number of Tick layers, or
a container that holds a type among its parameters: the second one of a `Stream`,
an `Optional` or a `Singleton`, the third one of their keyed forms. All other
parameters are arbitrary balanced texts. A location kind has a lifetime and a
label, one of them, or both.

A `Tree` is such a type, with the text of it and the location that it is about.
The texts of trees are balanced (`Tree.balanced`), so that they may stand in each
other.
-/

namespace Placement.TypeText

open Depth (isPlain)

/-! ## Parameters -/

/-- A text that may stand as a parameter. -/
abbrev Parameter := { t : Text // Balanced t }

/-- The name of a lifetime. -/
structure Lifetime where
  name : Text
  ident : name.all Text.isIdent = true

/-- A lifetime as types show it. -/
def Lifetime.text (l : Lifetime) : Text := .char '\x27' :: l.name

/-- The parameters of a location kind. -/
inductive Arguments where
  | labelled (lifetime : Lifetime) (label : Parameter)
  | alone (label : Parameter) (noLifetime : label.1.head? ≠ some (.char '\x27'))
  | unlabelled (lifetime : Lifetime)

namespace Arguments

/-- The texts of the parameters. -/
def texts : Arguments → List Text
  | labelled lifetime label => [lifetime.text, label.1]
  | alone label _ => [label.1]
  | unlabelled lifetime => [lifetime.text]

/-- The label among the parameters of a kind; without one the kind stands for itself. -/
def label (kind : Kind) : Arguments → Text
  | labelled _ label => label.1
  | alone label _ => label.1
  | unlabelled _ => kind.name

end Arguments

/-! ## Types -/

/-- What may stand in front of a type. -/
inductive Reference where
  | absent
  | shared
  | mutable
deriving DecidableEq, Repr

/-- A reference as types show it. -/
def Reference.text : Reference → Text
  | absent => []
  | shared => "&".text
  | mutable => "&mut ".text

/-- The containers. -/
inductive Container where
  | stream
  | optional
  | singleton
  | keyedStream
  | keyedSingleton
deriving DecidableEq, Repr

namespace Container

/-- What a container is called. -/
def name : Container → Text
  | stream => "Stream".text
  | optional => "Optional".text
  | singleton => "Singleton".text
  | keyedStream => "KeyedStream".text
  | keyedSingleton => "KeyedSingleton".text

/-- The number of parameters in front of the type that holds the location. -/
def place : Container → Nat
  | stream | optional | singleton => 1
  | keyedStream | keyedSingleton => 2

end Container

/-- A type that names a location. -/
inductive Tree where
  | placed (reference : Reference) (ticks : Nat) (kind : Kind) (arguments : Arguments)
  | container (reference : Reference) (container : Container) (front : List Parameter)
    (atPlace : front.length = container.place) (inner : Tree) (more : List Parameter)

namespace Tree

/-- The type as a text. -/
def text : Tree → Text
  | placed reference ticks kind arguments =>
    reference.text ++ Location.wrapTicks (generic kind.name arguments.texts) ticks
  | container reference c front _ inner more =>
    reference.text ++ generic c.name (front.map (·.1) ++ inner.text :: more.map (·.1))

/-- The number of containers inside each other. -/
def nesting : Tree → Nat
  | placed .. => 0
  | container _ _ _ _ inner _ => inner.nesting + 1

/-- The number of Tick layers around the location. -/
def ticks : Tree → Nat
  | placed _ ticks _ _ => ticks
  | container _ _ _ _ inner _ => inner.ticks

/-- The location that the type is about. -/
def location : Tree → Location
  | placed _ ticks kind arguments => ⟨kind, arguments.label kind, ticks⟩
  | container _ _ _ _ inner _ => inner.location

end Tree

/-! ## Plain texts -/

theorem isPlain_of_isIdent {c : CodePoint} (h : Text.isIdent c = true) : isPlain c = true := by
  simp [isPlain, Text.ne_of_isIdent h (x := '<') rfl, Text.ne_of_isIdent h (x := '>') rfl,
    Text.ne_of_isIdent h (x := '(') rfl, Text.ne_of_isIdent h (x := ')') rfl]

theorem Lifetime.isIdent_of_mem (l : Lifetime) {c : CodePoint} (hc : c ∈ l.name) :
    Text.isIdent c = true :=
  List.all_eq_true.mp l.ident c hc

/-- A lifetime may stand as a parameter. -/
theorem Lifetime.balanced (l : Lifetime) : Balanced l.text := by
  -- an apostrophe and identifier characters: nothing that opens, closes, cuts or trims
  have hlast : ∀ c, l.text.getLast? = some c → c = '\x27' ∨ Text.isIdent c = true := by
    intro c hc
    rcases List.mem_cons.mp (List.mem_of_getLast? hc) with rfl | hc
    · exact Or.inl rfl
    · exact Or.inr (l.isIdent_of_mem hc)
  refine ⟨List.cons_ne_nil _ _, rfl, ?_, ?_, ?_, ?_⟩
  · cases hc : l.text.getLast? with
    | none => rfl
    | some c =>
      rcases hlast c hc with rfl | hident
      · rfl
      · exact Text.isBlank_of_isIdent hident
  · intro hdash
    rcases hlast '-' hdash with h | h
    · exact absurd h (by decide)
    · exact absurd h (by decide)
  · rw [text, Depth.leads_cons_iff]
    exact ⟨rfl, Depth.leads_of_isPlain fun c hc => isPlain_of_isIdent (l.isIdent_of_mem hc)⟩
  · apply uncut_of_not_mem
    intro hcomma
    rcases List.mem_cons.mp hcomma with h | h
    · exact absurd h (by decide)
    · exact absurd (l.isIdent_of_mem h) (by decide)

/-! ## Trees are balanced -/

theorem plain_kind (kind : Kind) : Plain kind.name := by
  cases kind <;> exact ⟨rfl, rfl⟩

theorem plain_container (c : Container) : Plain c.name := by
  cases c <;> exact ⟨rfl, rfl⟩

theorem plain_reference (r : Reference) : Plain r.text := by
  cases r <;> exact ⟨rfl, rfl⟩

/-- A Tick layer is a generic type with one parameter. -/
theorem wrapTicks_succ (inner : Text) (n : Nat) :
    Location.wrapTicks inner (n + 1) = generic "Tick".text [Location.wrapTicks inner n] := by
  rw [generic, join_singleton]
  rfl

/-- A balanced text in Tick layers is balanced. -/
theorem Balanced.wrapTicks {inner : Text} (h : Balanced inner) (n : Nat) :
    Balanced (Location.wrapTicks inner n) := by
  induction n with
  | zero => exact h
  | succ n ih =>
    rw [wrapTicks_succ]
    refine Balanced.generic ⟨rfl, rfl⟩ (by decide) rfl ?_
    intro p hp
    rw [List.mem_singleton.mp hp]
    exact ih

/-- The parameters of a kind are balanced. -/
theorem Arguments.balanced (a : Arguments) : ∀ p ∈ a.texts, Balanced p := by
  intro p hp
  -- the two parts of a labelled list, or the single part of the others
  cases a with
  | labelled lifetime label =>
    rcases List.mem_cons.mp hp with rfl | hp
    · exact lifetime.balanced
    · rw [List.mem_singleton.mp hp]
      exact label.2
  | alone label _ =>
    rw [List.mem_singleton.mp hp]
    exact label.2
  | unlabelled lifetime =>
    rw [List.mem_singleton.mp hp]
    exact lifetime.balanced

/-- A kind with its parameters is balanced. -/
theorem balanced_kind (kind : Kind) (a : Arguments) : Balanced (generic kind.name a.texts) := by
  apply Balanced.generic (plain_kind kind)
  · cases kind <;> decide
  · cases kind <;> rfl
  · exact a.balanced

/-- A balanced text among parameters makes a balanced list. -/
theorem balanced_parameters (front more : List Parameter) {inner : Text} (h : Balanced inner) :
    ∀ p ∈ front.map (·.1) ++ inner :: more.map (·.1), Balanced p := by
  intro p hp
  rcases List.mem_append.mp hp with hp | hp
  · rcases List.mem_map.mp hp with ⟨q, -, rfl⟩
    exact q.2
  · rcases List.mem_cons.mp hp with rfl | hp
    · exact h
    · rcases List.mem_map.mp hp with ⟨q, -, rfl⟩
      exact q.2

/-- A container with balanced parameters is balanced. -/
theorem balanced_container (c : Container) {parts : List Text} (h : ∀ p ∈ parts, Balanced p) :
    Balanced (generic c.name parts) := by
  apply Balanced.generic (plain_container c)
  · cases c <;> decide
  · cases c <;> rfl
  · exact h

/-- Every type may stand as a parameter. -/
theorem Tree.balanced (τ : Tree) : Balanced τ.text := by
  have hreference : ∀ r : Reference, r.text.head?.any Text.isBlank = false := by
    intro r
    cases r <;> rfl
  -- the induction is over the containers: the inner type is one of the balanced parameters
  induction τ with
  | placed r n kind a =>
    have hbody := (balanced_kind kind a).wrapTicks n
    exact hbody.prepend (plain_reference r) (hreference r)
  | container r c front _ inner more ih =>
    have hbody := balanced_container c (balanced_parameters front more ih)
    exact hbody.prepend (plain_reference r) (hreference r)

example : (Tree.container .absent .stream [⟨"(String, i32)".text, by decide⟩] rfl
    (.placed .shared 1 .process (.labelled ⟨[.char 'a'], rfl⟩ ⟨"Leader".text, by decide⟩))
    [⟨"fn(u8) -> Vec<u8>".text, by decide⟩]).text =
      "Stream<(String, i32), &Tick<Process<'a, Leader>>, fn(u8) -> Vec<u8>>".text := by
  decide

end Placement.TypeText
