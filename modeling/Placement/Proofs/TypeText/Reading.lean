import Placement.Proofs.TypeText.Grammar
import Placement.TypeText.Location

/-!
# Placement.Proofs.TypeText.Reading — the text of a type gives back its location

The text of a tree is read layer by layer: the reference is dropped
(`dropReference_text`), a container is left for the parameter that holds the
location (`containerLocation_container`), the Tick layers are counted
(`unwrapTicks_wrapTicks`), and the kind gives the label (`kindAndLabel_kind`). No
layer reports anything, until there are too many containers or too many Tick
layers. So a tree within the limits gives its location, and any other one is
refused with one report (`parse_text`).
-/

namespace Placement.TypeText

variable {parts : List Text}

/-! ## References -/

/-- A reference in front of a type whose name begins with a capital is dropped. -/
theorem dropReference_text (r : Reference) {c : CodePoint} (hc : Text.isAsciiCapital c = true)
    (rest : Text) : dropReference (r.text ++ c :: rest) = c :: rest := by
  have hident : Text.isIdent c = true := by simp [Text.isIdent, hc]
  -- `c` is a capital, so it is neither the reference mark nor the start of `mut`
  have hne : ∀ x : CodePoint, Text.isAsciiCapital x = false → x ≠ c := by
    rintro x hx rfl
    rw [hx] at hc
    exact Bool.false_ne_true hc
  cases r with
  | absent =>
    show dropReference (c :: rest) = c :: rest
    unfold dropReference
    split
    · rename_i heq
      exact absurd (List.cons.inj heq).1.symm (hne '&' rfl)
    · rfl
  | shared =>
    have hmut : Text.after? "mut".text (c :: rest) = none := if_neg (hne 'm' rfl)
    show dropReference (.char '&' :: c :: rest) = c :: rest
    simp only [dropReference, hmut]
  | mutable =>
    exact Text.trimLeft_cons_of_not_isBlank (Text.isBlank_of_isIdent hident)

/-! ## Containers -/

/-- A container is known by its name, and holds its parameters. -/
theorem containerBody?_container (c : Container) (parts : List Text) :
    containerBody? (generic c.name parts) = some (join parts, c.place) := by
  have hbody : Text.between? (c.name ++ [.char '<']) '>' (generic c.name parts) =
      some (join parts) := by
    rw [Text.between?_eq_some_iff, generic]
    simp
  -- no name of a container begins another one, behind which a bracket opens
  have hname : ∀ o : Container, Text.between? (o.name ++ [.char '<']) '>' (generic c.name parts) =
      if o = c then some (join parts) else none := by
    intro o
    by_cases ho : o = c
    · rw [ho, hbody, if_pos rfl]
    · rw [if_neg ho]
      cases o <;> cases c <;> first | rfl | exact absurd rfl ho
  show [(Container.keyedStream.name, 2), (Container.keyedSingleton.name, 2),
    (Container.stream.name, 1), (Container.optional.name, 1),
    (Container.singleton.name, 1)].findSome? _ = _
  cases c <;> simp [hname, Container.place]

/-- A container gives the parameter at its place. -/
theorem containerLocation_container (c : Container) (h : ∀ p ∈ parts, Balanced p)
    (hne : parts ≠ []) : containerLocation (generic c.name parts) = pure parts[c.place]? := by
  unfold containerLocation
  rw [containerBody?_container]
  show split (join parts) >>= _ = _
  rw [split_join h hne, Logged.pure_bind]

/-- A kind in Tick layers is no container. -/
theorem containerLocation_wrapTicks (kind : Kind) (parts : List Text) (n : Nat) :
    containerLocation (Location.wrapTicks (generic kind.name parts) n) = pure none := by
  cases n with
  | zero => cases kind <;> rfl
  | succ n => rfl

/-! ## Tick layers -/

theorem tickLayer_kind (kind : Kind) (parts : List Text) :
    tickLayer (generic kind.name parts) = pure none := by
  cases kind <;> rfl

/-- Behind its lead a Tick layer goes on to the bracket that closes it, which must be the last. -/
theorem tickLayer_eq (inner : Text) :
    tickLayer (generic "Tick".text [inner]) =
      (Depth.readClosing (generic "Tick".text [inner]) (inner ++ [.char '>'])) >>= fun closing =>
        pure (if closing.all (·.2.isEmpty) && !(Text.trim inner).isEmpty then some (Text.trim inner)
          else none) := by
  have hshape : generic "Tick".text [inner] = Location.tickLead ++ (inner ++ [.char '>']) := by
    rw [generic, join_singleton]
    rfl
  have hafter : Text.after? Location.tickLead (generic "Tick".text [inner]) =
      some (inner ++ [.char '>']) := by
    rw [hshape, Text.after?_append]
  -- the pattern takes everything up to the last bracket, which is the one written last
  have hbetween : Text.between? Location.tickLead '>' (generic "Tick".text [inner]) =
      some inner := by
    rw [Text.between?_eq_some_iff, hshape, List.append_assoc]
  unfold tickLayer
  rw [hafter, hbetween]
  refine congrArg (Depth.readClosing _ _ >>= ·) (funext fun closing => ?_)
  cases closing <;> rfl

/-- A Tick layer around a balanced text gives it back. -/
theorem tickLayer_tick {inner : Text} (h : Balanced inner) :
    tickLayer (generic "Tick".text [inner]) = pure (some inner) := by
  rw [tickLayer_eq, Depth.readClosing_append h.closed h.noDash, Logged.pure_bind, h.trim]
  simp [h.nonempty]

/-- All Tick layers are counted, as long as no more are there than are read. -/
theorem unwrapTicks_wrapTicks (kind : Kind) (a : Arguments) (left depth n : Nat) :
    unwrapTicks left depth (Location.wrapTicks (generic kind.name a.texts) n) =
      pure (if n ≤ left then .ok (generic kind.name a.texts, depth + n)
        else .error .tooManyTicks) := by
  -- each layer takes one from what is left and adds one to what was counted
  induction n generalizing left depth with
  | zero =>
    rw [if_pos (Nat.zero_le left)]
    unfold unwrapTicks
    show tickLayer (generic kind.name a.texts) >>= _ = _
    rw [tickLayer_kind, Logged.pure_bind]
    rfl
  | succ n ih =>
    unfold unwrapTicks
    rw [wrapTicks_succ, tickLayer_tick ((balanced_kind kind a).wrapTicks n), Logged.pure_bind]
    cases left with
    | zero => rfl
    | succ left =>
      simp only [ih, Nat.succ_le_succ_iff, Nat.add_assoc, Nat.add_comm 1 n]

/-! ## Kinds and labels -/

/-- The kind in front of the parameters is the first one that is found. -/
theorem findAll_kind (kind : Kind) (rest : Text) :
    Text.Pattern.findAll openKind (kind.name ++ .char '<' :: rest) =
      (kind, rest) :: Text.Pattern.findFrom openKind 0 (some (.char '<')) rest := by
  have hopen : openKind none ((kind.name ++ [.char '<']) ++ rest) = some ((kind, rest), rest) := by
    cases kind <;> rfl
  have hmatch := Text.Pattern.findFrom_of_match (List.concat_ne_nil _ kind.name) hopen
  rw [List.append_assoc, List.getLast?_concat, Option.some_or] at hmatch
  exact hmatch

/-- An open kind is read with its name and its bracket. -/
theorem openKind_eq_some {before : Option CodePoint} {t rest left : Text} {kind : Kind}
    (h : openKind before t = some ((kind, rest), left)) : t = kind.name ++ .char '<' :: rest := by
  unfold openKind at h
  split at h
  · cases h
  · split at h
    · rename_i k r hlead
      cases h
      rcases List.exists_of_findSome?_eq_some hlead with ⟨k', -, hk⟩
      rcases Option.map_eq_some_iff.mp hk with ⟨behind, hbehind, hpair⟩
      cases hpair
      exact Text.after?_eq_some_iff.mp hbehind
    · cases h

/-- Where no bracket opens no kind does. -/
theorem findFrom_openKind_of_not_mem {t : Text} (h : .char '<' ∉ t) (before : Option CodePoint) :
    Text.Pattern.findFrom openKind 0 before t = [] := by
  refine Text.Pattern.findFrom_eq_nil ?_
  intro front c back ht
  rw [List.append_nil, Option.eq_none_iff_forall_ne_some]
  rintro ⟨⟨kind, rest⟩, left⟩ hfound
  apply h
  rw [ht, openKind_eq_some hfound]
  exact List.mem_append_right front (List.mem_append_right _ List.mem_cons_self)

/-- The parameters of a kind are read back. -/
theorem kindParameters_join (h : ∀ p ∈ parts, Balanced p) (hne : parts ≠ []) (source : Text) :
    kindParameters source (join parts ++ [.char '>']) = pure parts := by
  unfold kindParameters
  rw [readClosing_join h, Logged.pure_bind]
  exact split_join h hne

/-- A kind with a label gives it. -/
theorem firstLabelled_of_some (h : ∀ p ∈ parts, Balanced p) (hne : parts ≠ []) {label : Text}
    (hlabel : label? parts = some label) (source : Text) (kind : Kind) (more : List (Kind × Text)) :
    firstLabelled source ((kind, join parts ++ [.char '>']) :: more) =
      pure (some (kind, label)) := by
  simp only [firstLabelled, kindParameters_join h hne, Logged.pure_bind, hlabel]

/-- A kind without a label is left for the next one. -/
theorem firstLabelled_of_none (h : ∀ p ∈ parts, Balanced p) (hne : parts ≠ [])
    (hlabel : label? parts = none) (source : Text) (kind : Kind) (more : List (Kind × Text)) :
    firstLabelled source ((kind, join parts ++ [.char '>']) :: more) =
      firstLabelled source more := by
  simp only [firstLabelled, kindParameters_join h hne, Logged.pure_bind, hlabel]

/-- A kind with parameters has its label, or stands for itself. -/
theorem kindAndLabel_kind (kind : Kind) (a : Arguments) :
    kindAndLabel (generic kind.name a.texts) = pure (some (kind, a.label kind)) := by
  have hne : a.texts ≠ [] := by cases a <;> exact List.cons_ne_nil _ _
  unfold kindAndLabel
  rw [generic, findAll_kind]
  cases a with
  | labelled lifetime label =>
    have hlabel : label? [lifetime.text, label.1] = some label.1 := rfl
    simp only [firstLabelled_of_some (Arguments.balanced (.labelled lifetime label)) hne hlabel]
    rfl
  | alone label noLifetime =>
    have hlabel : label? [label.1] = some label.1 := if_neg noLifetime
    simp only [firstLabelled_of_some (Arguments.balanced (.alone label noLifetime)) hne hlabel]
    rfl
  | unlabelled lifetime =>
    -- a lifetime opens no bracket, so that no other kind can have the label
    have hnot : .char '<' ∉ join [lifetime.text] ++ [.char '>'] := by
      rw [join_singleton, List.mem_append, Lifetime.text, List.mem_cons]
      rintro ((hquote | hname) | hclose)
      · exact absurd hquote (by decide)
      · exact absurd (lifetime.isIdent_of_mem hname) (by decide)
      · exact absurd hclose (by decide)
    have hmore : Text.Pattern.findFrom openKind 0 (some (.char '<'))
        (join (Arguments.unlabelled lifetime).texts ++ [.char '>']) = [] :=
      findFrom_openKind_of_not_mem hnot _
    have hlabel : label? [lifetime.text] = none := rfl
    simp only [firstLabelled_of_none (Arguments.balanced (.unlabelled lifetime)) hne hlabel, hmore]
    rfl

/-! ## Types -/

/-- A type begins with a capital behind its reference. -/
theorem dropReference_wrapTicks (r : Reference) (kind : Kind) (parts : List Text) (n : Nat) :
    dropReference (r.text ++ Location.wrapTicks (generic kind.name parts) n) =
      Location.wrapTicks (generic kind.name parts) n := by
  cases n with
  | zero => cases kind <;> exact dropReference_text r rfl _
  | succ n => exact dropReference_text r rfl _

theorem dropReference_container (r : Reference) (c : Container) (parts : List Text) :
    dropReference (r.text ++ generic c.name parts) = generic c.name parts := by
  cases c <;> exact dropReference_text r rfl _

/-- The location in Tick layers, if there are not too many. -/
theorem plainLocation_wrapTicks (kind : Kind) (a : Arguments) (n : Nat) :
    plainLocation (Location.wrapTicks (generic kind.name a.texts) n) =
      pure (if n ≤ maxNesting then .ok (some ⟨kind, a.label kind, n⟩)
        else .error (Location.wrapTicks (generic kind.name a.texts) n, .tooManyTicks)) := by
  unfold plainLocation
  rw [unwrapTicks_wrapTicks, Logged.pure_bind]
  by_cases hn : n ≤ maxNesting
  · simp only [if_pos hn, kindAndLabel_kind, Logged.pure_bind, Nat.zero_add]
    rfl
  · simp only [if_neg hn]

/-- Why a type is refused of which `left` texts inside each other are read. -/
def Tree.fault? (τ : Tree) (left : Nat) : Option TypeFault :=
  if left ≤ τ.nesting then some .tooDeep
  else if τ.ticks ≤ maxNesting then none
  else some .tooManyTicks

/-- The inner type of a container is read with one less. -/
theorem fault?_container {r : Reference} {c : Container} {front more : List Parameter}
    {atPlace : front.length = c.place} {inner : Tree} (left : Nat) :
    (Tree.container r c front atPlace inner more).fault? (left + 1) = inner.fault? left := by
  have hnesting : (Tree.container r c front atPlace inner more).nesting = inner.nesting + 1 := rfl
  unfold Tree.fault?
  rw [hnesting]
  by_cases h : left ≤ inner.nesting
  · rw [if_pos h, if_pos (Nat.add_le_add_right h 1)]
  · rw [if_neg h, if_neg fun hle => h (Nat.le_of_add_le_add_right hle)]
    rfl

/-- A type gives its location, or is refused because of one of its parts. -/
theorem locate_text (τ : Tree) (left : Nat) :
    ∃ part, locate left τ.text = pure (match τ.fault? left with
      | none => .ok (some τ.location)
      | some fault => .error (part, fault)) := by
  -- entering a container takes one from what is left, so the induction is over that
  induction left generalizing τ with
  | zero =>
    refine ⟨τ.text, ?_⟩
    rw [Tree.fault?, if_pos (Nat.zero_le _)]
    rfl
  | succ left ih =>
    cases τ with
    | placed r n kind a =>
      refine ⟨Location.wrapTicks (generic kind.name a.texts) n, ?_⟩
      rw [locate, (Tree.balanced _).trim, Tree.text, dropReference_wrapTicks,
        containerLocation_wrapTicks, Logged.pure_bind]
      show plainLocation _ = _
      have hleft : ¬ left + 1 ≤ (Tree.placed r n kind a).nesting := Nat.not_succ_le_zero left
      rw [plainLocation_wrapTicks, Tree.fault?, if_neg hleft]
      have hticks : (Tree.placed r n kind a).ticks = n := rfl
      rw [hticks]
      by_cases hn : n ≤ maxNesting
      · rw [if_pos hn, if_pos hn]
        rfl
      · rw [if_neg hn, if_neg hn]
    | container r c front atPlace inner more =>
      rcases ih inner with ⟨part, hinner⟩
      refine ⟨part, ?_⟩
      have hparts := balanced_parameters front more inner.balanced
      -- in front of the inner type stand as many parameters as its place says
      have hparameter : (front.map (·.1) ++ inner.text :: more.map (·.1))[c.place]? =
          some inner.text := by
        rw [← atPlace]
        simp
      rw [locate, (Tree.balanced _).trim, Tree.text, dropReference_container,
        containerLocation_container c hparts (by simp), Logged.pure_bind, hparameter]
      show locate left inner.text = _
      rw [hinner, fault?_container]
      rfl

/-- The text of a type is read as the location of the type, without reports, when it has no more
containers and no more Tick layers than are read. Otherwise it is refused with a single report. -/
theorem parse_text (τ : Tree) :
    if τ.nesting ≤ maxNesting ∧ τ.ticks ≤ maxNesting then parse τ.text = pure (some τ.location)
    else ∃ part, parse τ.text = ⟨none, [.refusedType τ.text part
      (if τ.nesting ≤ maxNesting then .tooManyTicks else .tooDeep)]⟩ := by
  have hblank : Text.allBlank τ.text = false := by
    rw [← Bool.not_eq_true, ← Text.trim_eq_nil_iff, τ.balanced.trim]
    exact τ.balanced.nonempty
  rcases locate_text τ (maxNesting + 1) with ⟨part, hlocate⟩
  unfold parse
  rw [hblank, hlocate]
  -- the limits are met in this order: the nesting of brackets first, then the layers
  by_cases hdeep : τ.nesting ≤ maxNesting
  · have hleft : ¬ maxNesting + 1 ≤ τ.nesting := Nat.not_le.mpr (Nat.lt_succ_of_le hdeep)
    by_cases hticks : τ.ticks ≤ maxNesting
    · rw [if_pos ⟨hdeep, hticks⟩, Tree.fault?, if_neg hleft, if_pos hticks]
      rfl
    · rw [if_neg fun h => hticks h.2, Tree.fault?, if_neg hleft, if_neg hticks, if_pos hdeep]
      exact ⟨part, rfl⟩
  · have hleft : maxNesting + 1 ≤ τ.nesting := Nat.lt_of_not_le hdeep
    rw [if_neg fun h => hdeep h.1, Tree.fault?, if_pos hleft, if_neg hdeep]
    exact ⟨part, rfl⟩

end Placement.TypeText
