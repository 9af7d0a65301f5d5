import Placement.Proofs.TypeText.Label
import Placement.Proofs.TypeText.Reading

/-!
# Placement.Proofs.TypeText.Canonical — reading the canonical text of a location

In the canonical text of a location the label stands between a lifetime and the
bracket that closes the parameters of the kind. The label may leave brackets open
itself, or end in the dash of an arrow, when the text that it was read from was cut
off. Then the bracket behind it does not close the parameters, and is read as part
of the label (`parse_canonical`). So exactly the sealed labels are read back
(`parse_canonical_eq_some_iff`). The Tick layers around do no harm: brackets that are
left open in a layer leave it open to the end of the text (`value_tickLayer`).
-/

namespace Placement.TypeText

open Depth (KeepsAngles Sealed)

variable {kind : Kind} {label t : Text} {parts : List Text} {l : Location}

/-! ## Layers that are left open -/

/-- What stands in a Tick layer is found also when it leaves brackets open. -/
theorem value_tickLayer {inner : Text} (h : Single inner) :
    (tickLayer (generic "Tick".text [inner])).value = some inner := by
  have hread : (Depth.readClosing (generic "Tick".text [inner]) (inner ++ [.char '>'])).value =
      if Sealed .top none inner then some (inner, []) else none := Depth.closing?_concat h.keeps
  rw [tickLayer_eq, Logged.value_bind, hread, h.trim]
  by_cases hsealed : Sealed .top none inner <;> simp [hsealed, h.nonempty]

/-- A text that stands inside of all layers: it is no Tick layer itself, no container and no
reference. -/
structure Innermost (t : Text) : Prop where
  single : Single t
  noLayer : (tickLayer t).value = none
  noContainer : (containerLocation t).value = none
  noReference : dropReference t = t

/-- A single text in Tick layers is single. -/
theorem single_wrapTicks (h : Single t) (n : Nat) : Single (Location.wrapTicks t n) := by
  induction n with
  | zero => exact h
  | succ n ih =>
    rw [wrapTicks_succ]
    apply Single.generic ⟨rfl, rfl⟩ (by decide) rfl
    rw [join_singleton]
    exact ih.keeps

/-- All layers around an innermost text are taken off, if there are not too many. -/
theorem value_unwrapTicks (h : Innermost t) {left n : Nat} (hn : n ≤ left) (depth : Nat) :
    (unwrapTicks left depth (Location.wrapTicks t n)).value = .ok (t, depth + n) := by
  -- one layer off and one level on per step, as long as levels are left
  induction n generalizing left depth with
  | zero =>
    unfold unwrapTicks
    show (tickLayer t >>= _).value = _
    rw [Logged.value_bind, h.noLayer]
    rfl
  | succ n ih =>
    cases left with
    | zero => exact absurd hn (Nat.not_succ_le_zero n)
    | succ left =>
      unfold unwrapTicks
      rw [wrapTicks_succ, Logged.value_bind, value_tickLayer (single_wrapTicks h.single n)]
      have hinner := ih (Nat.le_of_succ_le_succ hn) (depth + 1)
      rwa [Nat.add_assoc, Nat.add_comm 1 n] at hinner

/-- A location in Tick layers is read from the text inside of them, and has their number as its
depth. -/
theorem value_plainLocation (h : Innermost t) {n : Nat} (hn : n ≤ maxNesting) :
    (plainLocation (Location.wrapTicks t n)).value =
      .ok ((kindAndLabel t).value.map fun (kind, label) => ⟨kind, label, n⟩) := by
  unfold plainLocation
  rw [Logged.value_bind, value_unwrapTicks h hn, Nat.zero_add]
  rfl

/-- In Tick layers, if there are not too many, the innermost text is read as without them. -/
theorem value_parse_wrapTicks (h : Innermost t) {n : Nat} (hn : n ≤ maxNesting) :
    (parse (Location.wrapTicks t n)).value =
      (kindAndLabel t).value.map fun (kind, label) => ⟨kind, label, n⟩ := by
  have hsingle := single_wrapTicks h.single n
  have hblank : Text.allBlank (Location.wrapTicks t n) = false := by
    rw [← Bool.not_eq_true, ← Text.trim_eq_nil_iff, hsingle.trim]
    exact hsingle.nonempty
  -- a layer begins with its name, so that neither a reference nor a container is in the way
  have hreference : dropReference (Location.wrapTicks t n) = Location.wrapTicks t n := by
    cases n with
    | zero => exact h.noReference
    | succ n => rfl
  have hcontainer : (containerLocation (Location.wrapTicks t n)).value = none := by
    cases n with
    | zero => exact h.noContainer
    | succ n => rfl
  have hlocate : (locate (maxNesting + 1) (Location.wrapTicks t n)).value =
      (plainLocation (Location.wrapTicks t n)).value := by
    rw [locate, Logged.value_bind, hsingle.trim, hreference, hcontainer]
  unfold parse
  rw [hblank, if_neg Bool.false_ne_true, Logged.value_bind, hlocate, value_plainLocation h hn]
  rfl

/-- A kind with parameters is innermost, also when they leave brackets open. -/
theorem innermost_kind (h : KeepsAngles .top none (join parts)) (kind : Kind) :
    Innermost (generic kind.name parts) := by
  have hname := single_kind kind
  refine ⟨Single.generic (plain_kind kind) hname.nonempty hname.head h, ?_, ?_, ?_⟩
  · rw [tickLayer_kind]
    rfl
  · exact congrArg Logged.value (containerLocation_wrapTicks kind parts 0)
  · exact dropReference_wrapTicks .absent kind parts 0

/-! ## Labels -/

/-- What is read of a text in front of a closing bracket: the bracket belongs to it unless it closes
the one around the text. -/
def readOf (t : Text) : Text := if Sealed .top none t then t else t ++ [.char '>']

/-- What stands behind the bracket of a kind is read up to the last bracket or with it. -/
theorem openBody_concat {body : Text} (h : KeepsAngles .top none body) :
    openBody (body ++ [.char '>']) = readOf body := by
  unfold openBody readOf
  rw [Depth.closing?_concat h]
  by_cases hsealed : Sealed .top none body
  · rw [if_pos hsealed, if_pos hsealed]
    rfl
  · rw [if_neg hsealed, if_neg hsealed]
    rfl

/-- The kind in front of the parameters has the label among them. -/
theorem value_kindAndLabel (h : KeepsAngles .top none (join parts)) (kind : Kind)
    (hlabel : label? (parameters (readOf (join parts))) = some label) :
    (kindAndLabel (generic kind.name parts)).value = some (kind, label) := by
  unfold kindAndLabel
  rw [Logged.value_bind, generic, findAll_kind, value_firstLabelled_cons, openBody_concat h, hlabel]
  rfl

/-- What is read of a single text is single. -/
theorem single_readOf (h : Single label) : Single (readOf label) := by
  unfold readOf
  split
  · exact h
  · rename_i hsealed
    refine ⟨by simp, ?_, ?_, ?_, ?_⟩
    · rcases List.exists_cons_of_ne_nil h.nonempty with ⟨c, r, rfl⟩
      exact h.head
    · rw [List.getLast?_concat]
      rfl
    · exact Depth.keepsAngles_concat_iff.mpr ⟨h.keeps, hsealed⟩
    · exact h.uncut.append (uncut_of_not_mem (by decide))

/-- The bracket behind a text leaves its beginning as it is. -/
theorem head?_readOf (hne : label ≠ []) : (readOf label).head? = label.head? := by
  unfold readOf
  split
  · rfl
  · rw [List.head?_append, List.head?_eq_some_head hne, Option.some_or]

/-- A text is read as it is exactly when it is sealed. -/
theorem readOf_eq_self_iff : readOf label = label ↔ Sealed .top none label := by
  unfold readOf
  by_cases hsealed : Sealed .top none label
  · rw [if_pos hsealed]
    exact iff_of_true rfl hsealed
  · rw [if_neg hsealed]
    refine iff_of_false ?_ hsealed
    intro hsame
    have hlength := congrArg List.length hsame
    simp at hlength

/-- The lifetime in canonical texts. -/
def anonymous : Text := "'_".text

theorem single_anonymous : Single anonymous := Balanced.single (by decide)

/-- The parameters in a canonical text are the lifetime and the label. -/
theorem join_anonymous (label : Text) :
    join [anonymous, label] = (anonymous ++ [.char ',', .char ' ']) ++ label := by
  rw [join_cons_cons, join_singleton, List.append_assoc]
  rfl

/-- Behind the lifetime a label is scanned as it is alone. -/
theorem keepsAngles_join_anonymous (h : Single label) :
    KeepsAngles .top none (join [anonymous, label]) := by
  rw [join_anonymous]
  exact Depth.keepsAngles_append_iff.mpr ⟨by decide, h.keeps.behind h.head?_ne _⟩

/-- Behind the lifetime the label is read as it is alone. -/
theorem readOf_join_anonymous (h : Single label) :
    readOf (join [anonymous, label]) = join [anonymous, readOf label] := by
  have hsealed : Sealed .top none (join [anonymous, label]) ↔ Sealed .top none label := by
    rw [join_anonymous, Depth.sealed_append_iff]
    exact Depth.sealed_behind h.head?_ne (by decide) (by decide)
  unfold readOf
  by_cases hlabel : Sealed .top none label
  · rw [if_pos hlabel, if_pos (hsealed.mpr hlabel)]
  · rw [if_neg hlabel, if_neg (mt hsealed.mp hlabel), join_anonymous, join_anonymous,
      List.append_assoc]

/-- The label is found behind the lifetime. -/
theorem label?_join_anonymous (h : Single label) :
    label? (parameters (readOf (join [anonymous, label]))) = some (readOf label) := by
  have hparts : ∀ p ∈ [anonymous, readOf label], Single p := by
    intro p hp
    rcases List.mem_cons.mp hp with rfl | hp
    · exact single_anonymous
    · rw [List.mem_singleton.mp hp]
      exact single_readOf h
  -- the anonymous lifetime opens no bracket, so the comma behind it splits
  have hclosed : ∀ p ∈ [anonymous, readOf label].dropLast, Depth.top.after none p = .top := by
    intro p hp
    rw [List.mem_singleton.mp hp]
    rfl
  rw [readOf_join_anonymous h,
    parameters_join (fun p hp => (hparts p hp).part) hclosed (List.cons_ne_nil _ _)]
  rfl

/-! ## Canonical texts -/

/-- The canonical text is the kind with a lifetime, and with the label if it has one, in Tick
layers. -/
theorem canonical_eq (l : Location) :
    l.canonical = Location.wrapTicks
      (generic l.kind.name (if l.hasParameter then [anonymous, l.label] else [anonymous]))
      l.tickDepth := by
  unfold Location.canonical
  cases l.hasParameter with
  | true =>
    rw [if_pos rfl, if_pos rfl, generic, join_anonymous, List.append_assoc, List.append_assoc]
    rfl
  | false => rfl

/-- The canonical text of a location that was read gives it back, with the bracket behind its label
as part of it when the label is not sealed. -/
theorem parse_canonical (h : Readable l) :
    (parse l.canonical).value = some { l with label := readOf l.label } := by
  rw [canonical_eq]
  -- a location without a label of its own shows the lifetime alone
  cases hparameter : l.hasParameter with
  | true =>
    have hkeeps := keepsAngles_join_anonymous h.label
    rw [if_pos rfl, value_parse_wrapTicks (innermost_kind hkeeps l.kind) h.ticks,
      value_kindAndLabel hkeeps l.kind (label?_join_anonymous h.label)]
    rfl
  | false =>
    have hlabel : l.label = l.kind.name := by simpa [Location.hasParameter] using hparameter
    have hkind := kindAndLabel_kind l.kind (.unlabelled ⟨[.char '_'], rfl⟩)
    have hread : (kindAndLabel (generic l.kind.name [anonymous])).value =
        some (l.kind, l.kind.name) := congrArg Logged.value hkind
    have hsealed : readOf l.kind.name = l.kind.name := by
      cases l.kind <;> rfl
    rw [if_neg Bool.false_ne_true,
      value_parse_wrapTicks (innermost_kind (by decide) l.kind) h.ticks, hread, hlabel, hsealed]
    rfl

/-- The canonical text of a location that was read from any text gives it back exactly when the
label is sealed: when it leaves no angle bracket open and does not end in a dash. -/
theorem parse_canonical_eq_some_iff {t : Text} (h : (parse t).value = some l) :
    (parse l.canonical).value = some l ↔ Sealed .top none l.label := by
  rw [parse_canonical (readable_of_parse h), Option.some_inj, ← readOf_eq_self_iff]
  exact ⟨fun hsame => congrArg Location.label hsame, fun hsame => by rw [hsame]⟩

/-- A label that closes its bracket, in a Tick layer of a stream. -/
theorem parse_canonical_eq_some_iff_shard :
    (parse "Stream<u8, Tick<Process<'a, Shard<Key>>>, Bounded>".text).value =
      some ⟨.process, "Shard<Key>".text, 1⟩ ∧
    (parse (Location.canonical ⟨.process, "Shard<Key>".text, 1⟩)).value =
      some ⟨.process, "Shard<Key>".text, 1⟩ := by
  have hparse : (parse "Stream<u8, Tick<Process<'a, Shard<Key>>>, Bounded>".text).value =
      some ⟨.process, "Shard<Key>".text, 1⟩ := by decide +kernel
  exact ⟨hparse, (parse_canonical_eq_some_iff hparse).mpr (by decide)⟩

/-- Cut off behind the label, a type gives a label that is not read back. -/
theorem canonical_not_read_back :
    (parse "Process<'a, Shard<Key".text).value = some ⟨.process, "Shard<Key".text, 0⟩ ∧
    (parse (Location.canonical ⟨.process, "Shard<Key".text, 0⟩)).value ≠
      some ⟨.process, "Shard<Key".text, 0⟩ := by
  decide +kernel

end Placement.TypeText
