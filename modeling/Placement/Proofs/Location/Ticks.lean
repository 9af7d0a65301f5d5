import Placement.Location.Identity
import Placement.Proofs.Text

/-!
# Placement.Proofs.Location.Ticks — Tick layers around a text

Tick layers are counted and stripped one by one, from the outside. Counting takes the
blanks off what stands in a layer before it looks for the next one (`countTicks_trim`),
so it counts every layer that a text is wrapped in (`countTicks_wrapTicks`). Stripping
does not: it passes the layers that follow each other without blanks
(`stripTicks_wrapTicks`), and ends at the first text with blanks at its ends
(`stripTicks_of_padded`), which may hold more layers.

So a further layer always counts, but it leaves the key of a text only when the text
has no blanks at its ends, and a key is without layers only when none of them stands
between blanks in another one (`layers_counted_stripped_iff`).
-/

namespace Placement.Location

variable {t : Text}

/-! ## One layer -/

theorem between?_layer (t : Text) :
    Text.between? tickLead '>' (tickLead ++ t ++ [.char '>']) = some t :=
  Text.between?_eq_some_iff.mpr rfl

/-- A text with a layer around it has no blanks at its ends. -/
theorem trim_layer (t : Text) :
    Text.trim (tickLead ++ t ++ [.char '>']) = tickLead ++ t ++ [.char '>'] := by
  apply Text.trim_eq_self
  · rfl
  · rw [List.getLast?_concat]
    rfl

/-- The name of a kind is the beginning of no layer. -/
theorem between?_name (kind : Kind) (rest : Text) :
    Text.between? tickLead '>' (kind.name ++ rest) = none := by
  cases kind <;> rfl

/-! ## Counting -/

/-- One layer is counted and then those in it, with the blanks in between taken off. -/
theorem countTicks_eq (t : Text) :
    countTicks t =
      match Text.between? tickLead '>' (Text.trim t) with
      | some inner => countTicks inner + 1
      | none => 0 := by
  rw [countTicks]
  split <;> rename_i h <;> rw [h]

/-- Blanks around a text hide no layer of it from being counted. -/
theorem countTicks_trim (t : Text) : countTicks (Text.trim t) = countTicks t := by
  rw [countTicks_eq, Text.trim_trim, ← countTicks_eq]

/-- A further layer is counted, whatever it is around. -/
theorem countTicks_layer (t : Text) :
    countTicks (tickLead ++ t ++ [.char '>']) = countTicks t + 1 := by
  rw [countTicks_eq, trim_layer, between?_layer]

/-- As many more layers are counted as a text is wrapped in. -/
theorem countTicks_wrapTicks (t : Text) (n : Nat) :
    countTicks (wrapTicks t n) = countTicks t + n := by
  induction n with
  | zero => rfl
  | succ n ih => rw [wrapTicks, countTicks_layer, ih, Nat.add_assoc]

/-- A text that begins with the name of a kind has no layers. -/
theorem countTicks_name (kind : Kind) (rest : Text) : countTicks (kind.name ++ rest) = 0 := by
  -- blanks may be trimmed off behind the name, but none of the name itself
  have hleft : Text.trimLeft (kind.name ++ rest) = kind.name ++ rest := by
    cases kind <;> rfl
  have hlast : kind.name.getLast?.any Text.isBlank = false := by cases kind <;> rfl
  rw [countTicks_eq, Text.trim, hleft, Text.trimRight_append hlast, between?_name]

/-! ## Stripping -/

/-- One layer is stripped and then those in it, with no blanks in between taken off. -/
theorem stripTicks_eq (t : Text) :
    stripTicks t =
      match Text.between? tickLead '>' t with
      | some inner => stripTicks inner
      | none => t := by
  rw [stripTicks]
  split <;> rename_i h <;> rw [h]

theorem stripTicks_layer (t : Text) : stripTicks (tickLead ++ t ++ [.char '>']) = stripTicks t := by
  rw [stripTicks_eq, between?_layer]

theorem stripTicks_of_none (h : Text.between? tickLead '>' t = none) : stripTicks t = t := by
  rw [stripTicks_eq, h]

/-- Layers that follow each other without blanks are all passed. -/
theorem stripTicks_wrapTicks (t : Text) (n : Nat) :
    stripTicks (wrapTicks t n) = stripTicks t := by
  induction n with
  | zero => rfl
  | succ n ih => rw [wrapTicks, stripTicks_layer, ih]

theorem stripTicks_name (kind : Kind) (rest : Text) :
    stripTicks (kind.name ++ rest) = kind.name ++ rest :=
  stripTicks_of_none (between?_name kind rest)

/-- Nothing is stripped off a text with blanks at its ends. -/
theorem stripTicks_of_padded (h : Text.trim t ≠ t) : stripTicks t = t := by
  apply stripTicks_of_none
  rw [Option.eq_none_iff_forall_ne_some]
  intro inner hlayer
  apply h
  rw [Text.between?_eq_some_iff.mp hlayer, trim_layer]

/-- A text is what stripping leaves of it, in layers without blanks, and that is no layer. -/
theorem exists_wrapTicks_stripTicks (t : Text) :
    ∃ n, t = wrapTicks (stripTicks t) n ∧
      Text.between? tickLead '>' (stripTicks t) = none := by
  -- on the layers that are stripped
  induction t using stripTicks.induct with
  | case1 t inner h ih =>
    rcases ih with ⟨n, hinner, hnone⟩
    have hlayer : t = tickLead ++ inner ++ [.char '>'] := Text.between?_eq_some_iff.mp h
    rw [hlayer, stripTicks_layer]
    exact ⟨n + 1, by rw [wrapTicks, ← hinner], hnone⟩
  | case2 t h => exact ⟨0, (stripTicks_of_none h).symm, by rwa [stripTicks_of_none h]⟩

/-- What stripping leaves is a part of the text. -/
theorem stripTicks_sublist (t : Text) : (stripTicks t).Sublist t := by
  induction t using stripTicks.induct with
  | case1 t inner h ih =>
    have hinner : inner.Sublist (tickLead ++ inner ++ [.char '>']) :=
      (List.sublist_append_right _ _).trans (List.sublist_append_left _ _)
    rw [Text.between?_eq_some_iff.mp h, stripTicks_layer]
    exact ih.trans hinner
  | case2 t h => simp [stripTicks_of_none h]

/-! ## Keys of texts -/

/-- The key of a text in a layer is what stripping leaves of the text itself, blanks included. -/
theorem keyOfText_layer (t : Text) : keyOfText (tickLead ++ t ++ [.char '>']) = stripTicks t := by
  rw [keyOfText, trim_layer, stripTicks_layer]

/-- Layers that stand close around a text leave its key. -/
theorem keyOfText_wrapTicks_trim (t : Text) (n : Nat) :
    keyOfText (wrapTicks (Text.trim t) n) = keyOfText t := by
  cases n with
  | zero => rw [wrapTicks, keyOfText, Text.trim_trim, keyOfText]
  | succ n => rw [wrapTicks, keyOfText_layer, stripTicks_wrapTicks, keyOfText]

/-- A layer around a text leaves its key when there are no blanks between the two, and only then. -/
theorem keyOfText_layer_eq_iff :
    keyOfText (tickLead ++ t ++ [.char '>']) = keyOfText t ↔ Text.trim t = t := by
  rw [keyOfText_layer, keyOfText]
  constructor
  · intro hsame
    apply Decidable.byContradiction
    intro hpadded
    -- otherwise the whole text, blanks included, would stand in what is trimmed
    have hinside := stripTicks_sublist (Text.trim t)
    rw [← hsame, stripTicks_of_padded hpadded] at hinside
    -- trimming makes a text with blanks shorter, and so it cannot hold the whole text
    have hlength := Text.length_trim_le t
    exact hpadded (hinside.eq_of_length_le hlength).symm
  · intro htrim
    rw [htrim]

/-- A layer with blanks around it stands in other layers that have none. -/
def HasLooseLayer (t : Text) : Prop :=
  ∃ n padded inner, Text.trim t = wrapTicks padded n ∧ Text.trim padded ≠ padded ∧
    Text.trim padded = tickLead ++ inner ++ [.char '>']

/-- The key of a text has a layer left exactly when the text has a loose one. -/
theorem countTicks_keyOfText_eq_zero_iff : countTicks (keyOfText t) = 0 ↔ ¬ HasLooseLayer t := by
  constructor
  · rintro hnone ⟨n, padded, inner, hwrap, hpadded, hlayer⟩
    rw [keyOfText, hwrap, stripTicks_wrapTicks, stripTicks_of_padded hpadded, ← countTicks_trim,
      hlayer, countTicks_layer] at hnone
    exact Nat.succ_ne_zero _ hnone
  · intro htight
    rcases exists_wrapTicks_stripTicks (Text.trim t) with ⟨n, hwrap, hcore⟩
    rw [countTicks_eq]
    cases hlayer : Text.between? tickLead '>' (Text.trim (keyOfText t)) with
    | none => rfl
    | some inner =>
      -- what stripping leaves is no layer, so there are blanks around this one
      refine absurd ⟨n, keyOfText t, inner, hwrap, ?_, Text.between?_eq_some_iff.mp hlayer⟩ htight
      intro htrim
      rw [htrim, keyOfText, hcore] at hlayer
      cases hlayer

/-- Every layer is counted. It leaves the key as it was exactly when it stands close around the
text, and the key has no layer exactly when the text has no loose one. So a text without blanks at
its ends has one key and one identity number in any number of layers. -/
theorem layers_counted_stripped_iff (t : Text) :
    countTicks (tickLead ++ t ++ [.char '>']) = countTicks t + 1 ∧
      (keyOfText (tickLead ++ t ++ [.char '>']) = keyOfText t ↔ Text.trim t = t) ∧
      (countTicks (keyOfText t) = 0 ↔ ¬ HasLooseLayer t) ∧
      ∀ n, keyOfText (wrapTicks (Text.trim t) n) = keyOfText t ∧
        idOfText (wrapTicks (Text.trim t) n) = idOfText t := by
  refine ⟨countTicks_layer t, keyOfText_layer_eq_iff, countTicks_keyOfText_eq_zero_iff, ?_⟩
  intro n
  have hkey := keyOfText_wrapTicks_trim t n
  exact ⟨hkey, congrArg idOfKey hkey⟩

/-- Blanks in a layer are kept in the key, and so is a layer between them. -/
theorem layers_between_blanks :
    (keyOfText (tickLead ++ " Process<Leader> ".text ++ [.char '>']) = " Process<Leader> ".text ∧
      keyOfText " Process<Leader> ".text = "Process<Leader>".text) ∧
    countTicks (keyOfText (tickLead ++ " Tick<Cluster> ".text ++ [.char '>'])) = 1 := by
  refine ⟨⟨?_, ?_⟩, ?_⟩
  · rw [keyOfText_layer, stripTicks_of_padded (by decide)]
  · exact stripTicks_name .process "<Leader>".text
  · rw [keyOfText_layer, stripTicks_of_padded (by decide), ← countTicks_trim]
    exact (countTicks_layer "Cluster".text).trans
      (congrArg (· + 1) (countTicks_name .cluster []))

end Placement.Location
