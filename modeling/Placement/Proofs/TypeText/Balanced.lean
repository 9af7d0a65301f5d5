import Placement.Proofs.TypeText.Single

/-!
# Placement.Proofs.TypeText.Balanced — what may stand as a parameter

A text is `Balanced` when it may stand among the parameters of a generic type: it
has no blanks at its ends, does not end in the dash of an arrow, closes the
brackets that it opens and no others, and has no comma outside of them. Balanced
texts that are joined are cut into the same texts again, without reports
(`split_join`), and what stands in an angle bracket is found behind it
(`readClosing_join`). A name with balanced parameters is balanced itself
(`Balanced.generic`).
-/

namespace Placement.TypeText

open Depth (KeepsAngles Leads isPlain keepsAngles_append_iff)

variable {d : Depth} {before : Option CodePoint} {t u p : Text} {parts : List Text}

/-! ## Balanced texts -/

/-- A text that may stand as a parameter. -/
structure Balanced (t : Text) : Prop where
  nonempty : t ≠ []
  /-- No blank stands at the beginning. -/
  head : t.head?.any Text.isBlank = false
  /-- No blank stands at the end. -/
  last : t.getLast?.any Text.isBlank = false
  noDash : t.getLast? ≠ some (.char '-')
  /-- The brackets that close are those that open. -/
  closed : Leads .top none t .top
  uncut : Uncut .top none t

/-- Whether a text is balanced is a matter of six properties that can be computed. -/
theorem balanced_iff :
    Balanced t ↔ t ≠ [] ∧ t.head?.any Text.isBlank = false ∧ t.getLast?.any Text.isBlank = false ∧
      t.getLast? ≠ some (.char '-') ∧ Leads .top none t .top ∧ Uncut .top none t := by
  constructor
  · rintro ⟨hne, hhead, hlast, hdash, hclosed, huncut⟩
    exact ⟨hne, hhead, hlast, hdash, hclosed, huncut⟩
  · rintro ⟨hne, hhead, hlast, hdash, hclosed, huncut⟩
    exact ⟨hne, hhead, hlast, hdash, hclosed, huncut⟩

instance : Decidable (Balanced t) := decidable_of_iff _ balanced_iff.symm

namespace Balanced

theorem trim (h : Balanced t) : Text.trim t = t := Text.trim_eq_self h.head h.last

theorem leads (h : Balanced t) (before : Option CodePoint) : Leads .top before t .top :=
  h.closed.behind rfl before

theorem single (h : Balanced t) : Single t :=
  ⟨h.nonempty, h.head, h.last, h.closed.keepsAngles, h.uncut⟩

end Balanced

/-! ## Joined parameters -/

/-- Joined parameters close the brackets that they open. -/
theorem leads_join (h : ∀ p ∈ parts, Balanced p) (before : Option CodePoint) :
    Leads .top before (join parts) .top := by
  -- each part returns to the top depth, and so does the separator behind it
  induction parts generalizing before with
  | nil => exact Depth.leads_nil_iff.mpr rfl
  | cons p more ih =>
    rcases List.forall_mem_cons.mp h with ⟨hp, hmore⟩
    cases more with
    | nil =>
      rw [join_singleton]
      exact hp.leads before
    | cons q more =>
      rw [join_cons_cons]
      refine (hp.leads before).append ?_
      rw [Depth.leads_cons_iff]
      refine ⟨rfl, ?_⟩
      rw [Depth.leads_cons_iff]
      exact ⟨rfl, ih hmore (some (.char ' '))⟩

/-- Joined parameters do not end in a dash. -/
theorem getLast?_join (h : ∀ p ∈ parts, Balanced p) : (join parts).getLast? ≠ some (.char '-') := by
  induction parts with
  | nil => simp [join, List.intercalate]
  | cons p more ih =>
    rcases List.forall_mem_cons.mp h with ⟨hp, hmore⟩
    cases more with
    | nil =>
      rw [join_singleton]
      exact hp.noDash
    | cons q more =>
      rw [join_cons_cons, List.getLast?_append, Text.getLast?_cons_or, Text.getLast?_cons_or]
      exact Text.getLast?_or_ne_dash (ih hmore) (by decide)

/-- Joined parameters are read back as they are, without reports. -/
theorem split_join (h : ∀ p ∈ parts, Balanced p) (hne : parts ≠ []) :
    split (join parts) = pure parts := by
  have hscan := leads_join h none
  have hparts : parameters (join parts) = parts := by
    refine parameters_join (fun p hp => (h p hp).single.part) ?_ hne
    exact fun p hp => (h p (List.dropLast_subset parts hp)).closed.ends
  have hnotices : bracketNotices (join parts) = [] := by
    unfold bracketNotices Depth.slipNotices
    rw [hscan.calm, hscan.ends]
    rfl
  unfold split
  rw [hparts, hnotices]
  rfl

theorem readClosing_join (h : ∀ p ∈ parts, Balanced p) (source rest : Text) :
    Depth.readClosing source (join parts ++ .char '>' :: rest) = pure (some (join parts, rest)) :=
  Depth.readClosing_append (leads_join h none) (getLast?_join h) source rest

/-! ## Generic types -/

/-- A name with parameters. -/
def generic (name : Text) (parts : List Text) : Text :=
  name ++ .char '<' :: (join parts ++ [.char '>'])

/-- A text of characters that neither cut nor nest. -/
structure Plain (t : Text) : Prop where
  noBracket : t.all isPlain = true
  noComma : t.all (· != ',') = true

theorem Plain.leads (h : Plain t) (d : Depth) (before : Option CodePoint) : Leads d before t d :=
  Depth.leads_of_isPlain (List.all_eq_true.mp h.noBracket)

/-- A plain text is not cut at any depth. -/
theorem Plain.uncut (h : Plain t) (d : Depth) (before : Option CodePoint) : Uncut d before t := by
  apply uncut_of_not_mem
  intro hcomma
  exact absurd (List.all_eq_true.mp h.noComma ',' hcomma) (by decide)

theorem getLast?_generic (name : Text) (parts : List Text) :
    (generic name parts).getLast? = some (.char '>') := by
  rw [generic, ← List.cons_append, ← List.append_assoc, List.getLast?_concat]

/-- A plain name with parameters is single, also when they leave brackets open. -/
theorem Single.generic {name : Text} (hn : Plain name) (hne : name ≠ [])
    (hhead : name.head?.any Text.isBlank = false)
    (h : KeepsAngles .top none (join parts)) : Single (generic name parts) := by
  have hname : Leads .top none name .top := hn.leads .top none
  have hbody : KeepsAngles .top (some (.char '<')) (join parts) :=
    h.behind (h.head?_ne rfl (by decide)) _
  rcases hbody.deepen 1 with ⟨hkeeps, hafter⟩
  refine ⟨?_, ?_, ?_, ?_, ?_⟩
  · simp [TypeText.generic]
  · rcases List.exists_cons_of_ne_nil hne with ⟨c, r, rfl⟩
    exact hhead
  · rw [getLast?_generic]
    rfl
  · -- the bracket of the name is still open in front of the last one
    refine keepsAngles_append_iff.mpr ⟨hname.keepsAngles, ?_⟩
    rw [hname.ends, Depth.keepsAngles_cons_iff]
    have hopens : Depth.closesAngle (name.getLast?.or none) '<' ≠ true := by
      simp [Depth.closesAngle]
    refine ⟨fun hcloses => absurd hcloses hopens, keepsAngles_append_iff.mpr ⟨hkeeps, ?_⟩⟩
    rw [Depth.keepsAngles_cons_iff]
    refine ⟨fun _ => ?_, Depth.keepsAngles_nil⟩
    show ((Depth.top.deepen ⟨1, 0⟩).after (some (.char '<')) (join parts)).angle ≠ 0
    rw [hafter]
    exact Nat.succ_ne_zero _
  · refine (hn.uncut .top none).append ?_
    rw [hname.ends, uncut_cons_iff]
    refine ⟨by decide, ?_⟩
    -- the parameters stand inside the bracket, and behind it is no comma
    exact (uncut_deepen hbody).append (uncut_of_not_mem (by decide))

namespace Balanced

/-- A balanced text with plain characters in front of it. -/
theorem prepend (hp : Plain p) (hhead : p.head?.any Text.isBlank = false) (h : Balanced t) :
    Balanced (p ++ t) := by
  have hplain : Leads .top none p .top := hp.leads .top none
  rcases List.exists_cons_of_ne_nil h.nonempty with ⟨c, r, rfl⟩
  -- the end of the text is that of `t`, so the conditions on it carry over
  have hlast : (p ++ c :: r).getLast? = (c :: r).getLast? := by
    rw [List.getLast?_append, List.getLast?_cons, Option.some_or]
  refine ⟨by simp, ?_, ?_, ?_, ?_, ?_⟩
  · cases p with
    | nil => exact h.head
    | cons x more => exact hhead
  · rw [hlast]
    exact h.last
  · rw [hlast]
    exact h.noDash
  · exact hplain.append (h.leads _)
  · refine (hp.uncut .top none).append ?_
    rw [hplain.ends]
    exact h.single.uncut_behind _

/-- A plain name with balanced parameters. -/
theorem generic {name : Text} (hn : Plain name) (hne : name ≠ [])
    (hhead : name.head?.any Text.isBlank = false) (h : ∀ p ∈ parts, Balanced p) :
    Balanced (generic name parts) := by
  have hname : Leads .top none name .top := hn.leads .top none
  have hbody : Leads ⟨1, 0⟩ (some (.char '<')) (join parts) ⟨1, 0⟩ := (leads_join h _).deepen ⟨1, 0⟩
  have hlast : (join parts).getLast?.or (some (.char '<')) ≠ some (.char '-') :=
    Text.getLast?_or_ne_dash (getLast?_join h) (by decide)
  -- the last parameter does not end in a dash, so the bracket behind it is not that of an arrow
  have hclose : Depth.closesAngle ((join parts).getLast?.or (some (.char '<'))) '>' = true := by
    simpa [Depth.closesAngle] using hlast
  have hend : Leads ⟨1, 0⟩ ((join parts).getLast?.or (some (.char '<'))) [.char '>'] .top := by
    rw [Depth.leads_cons_iff, Depth.leads_nil_iff]
    refine ⟨Depth.slip?_eq_none_iff.mpr ⟨fun _ => Nat.one_ne_zero, by decide⟩, ?_⟩
    unfold Depth.next
    rw [if_neg (by decide), if_pos hclose]
    rfl
  have hopen :
      Leads .top (name.getLast?.or none) (.char '<' :: (join parts ++ [.char '>'])) .top := by
    rw [Depth.leads_cons_iff]
    exact ⟨rfl, hbody.append hend⟩
  have hsingle := Single.generic hn hne hhead (leads_join h none).keepsAngles
  refine ⟨hsingle.nonempty, hsingle.head, hsingle.last, ?_, hname.append hopen, hsingle.uncut⟩
  rw [getLast?_generic]
  decide

end Balanced

end Placement.TypeText
