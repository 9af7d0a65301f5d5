import Placement.Brackets
import Placement.Proofs.Search

/-!
# Placement.Proofs.Brackets — scanning texts without a slip

Scanning a text from one depth `Leads` to another one when no bracket closes
without having been opened. Scans are put together from their steps
(`leads_cons_iff`) and from their parts (`Leads.append`), they do not mind further
brackets around them (`Leads.deepen`), and the character before a text is of no
account when no angle bracket is open (`Leads.behind`).

Of a text that is cut off or closes too many parentheses less is known. It
`KeepsAngles` when no angle bracket in it closes without having been opened. Such a
text does not close the bracket around it (`closing?_eq_none_iff`), and the bracket
behind it does when it is `Sealed` (`closing?_eq_some_iff`). A text that leads from
the top to the top is both (`readClosing_append`).

A scan that starts deeper stays deeper (`Covers.after`), so that a scan which starts
within a text that closes its brackets has closed them too at its end.

A text is cut at the first place outside all brackets that ends it
(`exists_end_of_not_unended`), and passed over when there is none
(`untilTop_append_of_unended`). What stands behind it has no part in what is read of it
when nothing is read there (`fst_untilTop_append`).
-/

namespace Placement

namespace Depth

variable {d d' d'' k : Depth} {before : Option CodePoint} {c : CodePoint} {t u : Text}

/-- Scanning the text from a depth closes no bracket that is not open, and ends at a depth. -/
structure Leads (d : Depth) (before : Option CodePoint) (t : Text) (d' : Depth) : Prop where
  calm : d.slips before t = []
  ends : d.after before t = d'

theorem leads_iff : Leads d before t d' ↔ d.slips before t = [] ∧ d.after before t = d' :=
  ⟨fun h => ⟨h.calm, h.ends⟩, fun h => ⟨h.1, h.2⟩⟩

instance : Decidable (Leads d before t d') := decidable_of_iff _ leads_iff.symm

/-- A depth with further brackets around it. -/
def deepen (d k : Depth) : Depth := ⟨d.angle + k.angle, d.round + k.round⟩

/-- A character that is no bracket. -/
def isPlain (c : CodePoint) : Bool := !([.char '<', .char '>', .char '(', .char ')'].contains c)

/-! ## Steps -/

theorem leads_nil_iff : Leads d before [] d' ↔ d = d' :=
  ⟨fun h => h.ends, fun h => ⟨rfl, h⟩⟩

/-- A scan is its first step, and the scan of the rest from the depth behind it. -/
theorem leads_cons_iff :
    Leads d before (c :: t) d' ↔
      d.slip? before c = none ∧ Leads (d.next before c) (some c) t d' := by
  constructor
  · intro h
    have hcalm := h.calm
    rw [slips, List.append_eq_nil_iff, Option.toList_eq_nil_iff] at hcalm
    exact ⟨hcalm.1, hcalm.2, h.ends⟩
  · intro h
    refine ⟨?_, h.2.ends⟩
    rw [slips, h.1, h.2.calm]
    rfl

theorem next_of_isPlain (hc : isPlain c = true) : d.next before c = d := by
  simp only [isPlain, List.contains_cons, List.contains_nil, Bool.not_eq_true', Bool.or_false,
    Bool.or_eq_false_iff, beq_eq_false_iff_ne] at hc
  simp [next, closesAngle, hc]

theorem slip?_of_isPlain (hc : isPlain c = true) : d.slip? before c = none := by
  simp only [isPlain, List.contains_cons, List.contains_nil, Bool.not_eq_true', Bool.or_false,
    Bool.or_eq_false_iff, beq_eq_false_iff_ne] at hc
  simp [slip?, closesAngle, hc]

/-- A text without brackets leads from every depth to the same one. -/
theorem leads_of_isPlain (ht : ∀ c ∈ t, isPlain c = true) : Leads d before t d := by
  induction t generalizing before with
  | nil => exact leads_nil_iff.mpr rfl
  | cons c r ih =>
    have hc := ht c List.mem_cons_self
    rw [leads_cons_iff, next_of_isPlain hc]
    exact ⟨slip?_of_isPlain hc, ih fun x hx => ht x (List.mem_cons_of_mem c hx)⟩

/-! ## Parts -/

/-- The depth behind two texts, where the second one starts as deep as the first one ends. -/
theorem after_append :
    d.after before (t ++ u) = (d.after before t).after (t.getLast?.or before) u := by
  induction t generalizing d before with
  | nil => rfl
  | cons c r ih => rw [List.cons_append, after, ih, Text.getLast?_cons_or, after]

theorem slips_append :
    d.slips before (t ++ u) =
      d.slips before t ++ (d.after before t).slips (t.getLast?.or before) u := by
  induction t generalizing d before with
  | nil => rfl
  | cons c r ih =>
    rw [List.cons_append, slips, ih, Text.getLast?_cons_or, slips, after, List.append_assoc]

/-- Scans that meet in a depth make up one scan. -/
theorem Leads.append (ht : Leads d before t d') (hu : Leads d' (t.getLast?.or before) u d'') :
    Leads d before (t ++ u) d'' := by
  refine ⟨?_, ?_⟩
  · rw [slips_append, ht.calm, ht.ends, hu.calm]
    rfl
  · rw [after_append, ht.ends, hu.ends]

/-- No bracket slips when the one that closes is open. -/
theorem slip?_eq_none_iff :
    d.slip? before c = none ↔
      (closesAngle before c = true → d.angle ≠ 0) ∧ (c = ')' → d.round ≠ 0) := by
  unfold slip?
  -- the two kinds of slips exclude each other, since no character closes both brackets
  by_cases hangle : closesAngle before c = true
  · have hc : c ≠ ')' := by
      rintro rfl
      simp [closesAngle] at hangle
    by_cases hzero : d.angle = 0 <;> simp [hangle, hzero, hc]
  · by_cases hc : c = ')'
    · subst hc
      have hround : closesAngle before ')' = false := rfl
      by_cases hzero : d.round = 0 <;> simp [hround, hzero]
    · simp [hangle, hc]

/-- A step that does not slip is the same one inside further brackets. -/
theorem next_deepen (hangle : closesAngle before c = true → d.angle ≠ 0)
    (hround : c = ')' → d.round ≠ 0 ∨ k.round = 0) :
    (d.deepen k).next before c = (d.next before c).deepen k := by
  -- where no bracket slips no count is cut off at zero, so that taking one away and adding commute
  unfold next deepen
  by_cases h₁ : c = '<'
  · simp only [if_pos h₁, Depth.mk.injEq, and_true]
    omega
  · by_cases h₂ : closesAngle before c = true
    · have := hangle h₂
      simp only [if_neg h₁, if_pos h₂, Depth.mk.injEq, and_true]
      omega
    · by_cases h₃ : c = '('
      · simp only [if_neg h₁, if_neg h₂, if_pos h₃, Depth.mk.injEq, true_and]
        omega
      · by_cases h₄ : c = ')'
        · have := hround h₄
          simp only [if_neg h₁, if_neg h₂, if_neg h₃, if_pos h₄, Depth.mk.injEq, true_and]
          omega
        · simp only [if_neg h₁, if_neg h₂, if_neg h₃, if_neg h₄]

/-- A scan goes the same way inside further brackets. -/
theorem Leads.deepen (h : Leads d before t d') (k : Depth) :
    Leads (d.deepen k) before t (d'.deepen k) := by
  induction t generalizing d before with
  | nil => rw [leads_nil_iff.mp h, leads_nil_iff]
  | cons c r ih =>
    rw [leads_cons_iff] at h
    have hslip := slip?_eq_none_iff.mp h.1
    -- a bracket that is open stays open when more of them are counted
    rw [leads_cons_iff, next_deepen hslip.1 fun hc => Or.inl (hslip.2 hc)]
    refine ⟨?_, ih h.2⟩
    rw [slip?_eq_none_iff]
    unfold Depth.deepen
    constructor
    · intro hangle hzero
      exact hslip.1 hangle (Nat.eq_zero_of_add_eq_zero_right hzero)
    · intro hc hzero
      exact hslip.2 hc (Nat.eq_zero_of_add_eq_zero_right hzero)

/-! ## Angle brackets -/

/-- No angle bracket of the text closes without having been opened. -/
def KeepsAngles (d : Depth) (before : Option CodePoint) (t : Text) : Prop :=
  .angle ∉ d.slips before t

instance : Decidable (KeepsAngles d before t) :=
  inferInstanceAs (Decidable (.angle ∉ d.slips before t))

theorem Leads.keepsAngles (h : Leads d before t d') : KeepsAngles d before t := by
  rw [KeepsAngles, h.calm]
  exact List.not_mem_nil

theorem keepsAngles_nil : KeepsAngles d before [] := List.not_mem_nil

theorem slip?_eq_angle_iff :
    d.slip? before c = some .angle ↔ closesAngle before c = true ∧ d.angle = 0 := by
  unfold slip?
  by_cases hangle : closesAngle before c = true ∧ d.angle = 0
  · simp [hangle]
  · rw [if_neg (by simpa using hangle)]
    refine iff_of_false ?_ hangle
    split <;> simp

/-- A text keeps its angle brackets when its first character and the rest do. -/
theorem keepsAngles_cons_iff :
    KeepsAngles d before (c :: t) ↔
      (closesAngle before c = true → d.angle ≠ 0) ∧ KeepsAngles (d.next before c) (some c) t := by
  unfold KeepsAngles
  rw [slips, List.mem_append, not_or, Option.mem_toList, slip?_eq_angle_iff, not_and]

/-- Two texts keep their angle brackets when each of them does, the second one from the depth at
which the first one ends. -/
theorem keepsAngles_append_iff :
    KeepsAngles d before (t ++ u) ↔
      KeepsAngles d before t ∧ KeepsAngles (d.after before t) (t.getLast?.or before) u := by
  unfold KeepsAngles
  rw [slips_append, List.mem_append, not_or]

/-- A scan keeps its angle brackets also inside further ones, and ends as deep inside of them. -/
theorem KeepsAngles.deepen (h : KeepsAngles d before t) (k : Nat) :
    KeepsAngles (d.deepen ⟨k, 0⟩) before t ∧
      (d.deepen ⟨k, 0⟩).after before t = (d.after before t).deepen ⟨k, 0⟩ := by
  induction t generalizing d before with
  | nil => exact ⟨keepsAngles_nil, rfl⟩
  | cons c r ih =>
    rw [keepsAngles_cons_iff] at h
    rw [keepsAngles_cons_iff, after, next_deepen h.1 fun _ => Or.inr rfl]
    -- parentheses may slip, but no further ones stand around the scan
    rcases ih h.2 with ⟨hkeeps, hafter⟩
    refine ⟨⟨?_, hkeeps⟩, hafter⟩
    intro hcloses hzero
    exact h.1 hcloses (Nat.eq_zero_of_add_eq_zero_right hzero)

/-! ## The character before -/

/-- A text that keeps its angle brackets while none is open begins with a closing one behind a dash
only. -/
theorem KeepsAngles.head?_ne (h : KeepsAngles d before t) (hd : d.angle = 0)
    (hbefore : before ≠ some (.char '-')) : t.head? ≠ some (.char '>') := by
  intro hhead
  rcases List.head?_eq_some_iff.mp hhead with ⟨r, rfl⟩
  have hcloses : closesAngle before '>' = true := by simpa [closesAngle] using hbefore
  exact (keepsAngles_cons_iff.mp h).1 hcloses hd

/-- Two characters before a text that are no dashes make no difference to its depths. -/
theorem after_of_ne_dash {before' : Option CodePoint} (h : before ≠ some (.char '-'))
    (h' : before' ≠ some (.char '-')) (t : Text) : d.after before t = d.after before' t := by
  cases t with
  | nil => rfl
  | cons c r =>
    have hcloses : closesAngle before c = closesAngle before' c := by
      unfold closesAngle
      rw [bne_iff_ne.mpr h, bne_iff_ne.mpr h']
    rw [after, after]
    unfold next
    rw [hcloses]

theorem closesAngle_of_ne (hc : c ≠ '>') (before : Option CodePoint) :
    closesAngle before c = false := by
  simp [closesAngle, hc]

theorem next_behind (hc : c ≠ '>') (before : Option CodePoint) :
    d.next before c = d.next none c := by
  unfold next
  rw [closesAngle_of_ne hc, closesAngle_of_ne hc]

/-- For a text that does not begin with a closing bracket the character before is of no account. -/
theorem after_behind (h : t.head? ≠ some (.char '>')) (before before' : Option CodePoint) :
    d.after before t = d.after before' t := by
  cases t with
  | nil => rfl
  | cons c r =>
    have hc : c ≠ '>' := by simpa using h
    rw [after, after, next_behind hc before, next_behind hc before']

theorem slips_behind (h : t.head? ≠ some (.char '>')) (before before' : Option CodePoint) :
    d.slips before t = d.slips before' t := by
  cases t with
  | nil => rfl
  | cons c r =>
    have hc : c ≠ '>' := by simpa using h
    unfold slips slip?
    rw [next_behind hc before, next_behind hc before', closesAngle_of_ne hc, closesAngle_of_ne hc]

theorem KeepsAngles.behind (hkeeps : KeepsAngles d before t) (h : t.head? ≠ some (.char '>'))
    (before' : Option CodePoint) : KeepsAngles d before' t := by
  rwa [KeepsAngles, slips_behind h before' before]

/-- A scan that starts outside of angle brackets does so behind every character. -/
theorem Leads.behind (h : Leads d none t d') (hd : d.angle = 0) (before : Option CodePoint) :
    Leads d before t d' := by
  have hhead : t.head? ≠ some (.char '>') := h.keepsAngles.head?_ne hd (by decide)
  refine ⟨?_, ?_⟩
  · rw [slips_behind hhead before none, h.calm]
  · rw [after_behind hhead before none, h.ends]

/-! ## The closing bracket -/

/-- A closing bracket behind the text closes the one around it. -/
def Sealed (d : Depth) (before : Option CodePoint) (t : Text) : Prop :=
  (d.after before t).angle = 0 ∧ t.getLast?.or before ≠ some (.char '-')

instance : Decidable (Sealed d before t) := inferInstanceAs (Decidable (_ ∧ _))

theorem sealed_cons_iff : Sealed d before (c :: t) ↔ Sealed (d.next before c) (some c) t := by
  unfold Sealed
  rw [after, Text.getLast?_cons_or]

theorem sealed_append_iff :
    Sealed d before (t ++ u) ↔ Sealed (d.after before t) (t.getLast?.or before) u := by
  unfold Sealed
  rw [after_append, List.getLast?_append, Option.or_assoc]

/-- The bracket around a text is closed by the first one that slips when it is not counted. -/
theorem closing?_cons :
    closing? (d.deepen ⟨1, 0⟩) before (c :: t) =
      if closesAngle before c = true ∧ d.angle = 0 then some ([], t)
      else (closing? ((d.next before c).deepen ⟨1, 0⟩) (some c) t).map
        fun (inner, rest) => (c :: inner, rest) := by
  by_cases hslip : closesAngle before c = true ∧ d.angle = 0
  · have hc : c ≠ '<' := by
      rintro rfl
      exact absurd hslip.1 (by simp [closesAngle])
    rw [closing?, if_pos hslip, if_pos]
    simp [next, deepen, hslip, hc]
  · rw [closing?, if_neg hslip, next_deepen (not_and.mp hslip) fun _ => Or.inr rfl, if_neg]
    simp [deepen]

/-- The bracket around a text is not closed in it exactly when the text keeps its own angle
brackets. -/
theorem closing?_eq_none_iff :
    closing? (d.deepen ⟨1, 0⟩) before t = none ↔ KeepsAngles d before t := by
  induction t generalizing d before with
  | nil => exact iff_of_true rfl keepsAngles_nil
  | cons c r ih =>
    rw [closing?_cons, keepsAngles_cons_iff, ← not_and, ← ih]
    split
    · rename_i hslip
      exact iff_of_false (Option.some_ne_none _) fun h => h.1 hslip
    · rename_i hslip
      rw [Option.map_eq_none_iff]
      exact (and_iff_right hslip).symm

/-- The bracket around a text is closed behind a part that keeps its angle brackets and is sealed.
-/
theorem closing?_eq_some_iff {inner rest : Text} :
    closing? (d.deepen ⟨1, 0⟩) before t = some (inner, rest) ↔
      t = inner ++ .char '>' :: rest ∧ KeepsAngles d before inner ∧ Sealed d before inner := by
  induction t generalizing d before inner with
  | nil => exact iff_of_false (Option.some_ne_none _).symm fun h => absurd h.1 (by simp)
  | cons c r ih =>
    rw [closing?_cons]
    -- the first character closes the bracket around the text exactly when it slips
    by_cases hslip : closesAngle before c = true ∧ d.angle = 0
    · rw [if_pos hslip]
      have hcloses := hslip.1
      simp only [closesAngle, Bool.and_eq_true, beq_iff_eq, bne_iff_ne] at hcloses
      constructor
      · rintro ⟨⟩
        exact ⟨by rw [hcloses.1]; rfl, keepsAngles_nil, hslip.2, hcloses.2⟩
      · rintro ⟨ht, hkeeps, -⟩
        cases inner with
        | nil => rw [(List.cons.inj ht).2]
        | cons x inner =>
          rw [← (List.cons.inj ht).1, keepsAngles_cons_iff] at hkeeps
          exact absurd hslip.2 (hkeeps.1 hslip.1)
    · rw [if_neg hslip, Option.map_eq_some_iff]
      constructor
      · rintro ⟨⟨front, rest'⟩, hfront, ⟨⟩⟩
        rcases ih.mp hfront with ⟨rfl, hkeeps, hsealed⟩
        rw [keepsAngles_cons_iff, sealed_cons_iff]
        exact ⟨rfl, ⟨not_and.mp hslip, hkeeps⟩, hsealed⟩
      · rintro ⟨ht, hkeeps, hsealed⟩
        cases inner with
        | nil =>
          have hc : c = '>' := (List.cons.inj ht).1
          -- an empty part in front of the bracket would make this very character close it
          have hcloses : closesAngle before c = true := by simpa [closesAngle, hc] using hsealed.2
          exact absurd ⟨hcloses, hsealed.1⟩ hslip
        | cons x front =>
          rcases List.cons.inj ht with ⟨rfl, hr⟩
          rw [keepsAngles_cons_iff] at hkeeps
          rw [sealed_cons_iff] at hsealed
          exact ⟨(front, rest), ih.mpr ⟨hr, hkeeps.2, hsealed⟩, rfl⟩

/-- The bracket behind a text that is not sealed does not slip either. -/
theorem keepsAngles_concat_iff :
    KeepsAngles d before (t ++ [.char '>']) ↔ KeepsAngles d before t ∧ ¬ Sealed d before t := by
  rw [keepsAngles_append_iff, keepsAngles_cons_iff, Sealed, and_comm (a := _ = 0), not_and]
  simp [closesAngle, keepsAngles_nil]

/-- Whether a text is sealed does not depend on the character before it, if that is no dash. -/
theorem sealed_behind (h : t.head? ≠ some (.char '>')) {before' : Option CodePoint}
    (hb : before ≠ some (.char '-')) (hb' : before' ≠ some (.char '-')) :
    Sealed d before t ↔ Sealed d before' t := by
  unfold Sealed
  rw [after_behind h before before']
  cases t.getLast? with
  | none => simp [hb, hb']
  | some c => rfl

/-- The bracket behind a text either closes the one around the text, or none does. -/
theorem closing?_concat (h : KeepsAngles .top none t) :
    closing? ⟨1, 0⟩ (some (.char '<')) (t ++ [.char '>']) =
      if Sealed .top none t then some (t, []) else none := by
  have hhead := h.head?_ne rfl (by decide)
  -- what stands in front is an opening bracket, which is as good as nothing there
  have hkeeps : KeepsAngles .top (some (.char '<')) t := h.behind hhead _
  have hsealed : Sealed .top (some (.char '<')) t ↔ Sealed .top none t :=
    sealed_behind hhead (by decide) (by decide)
  split
  · rename_i hcase
    exact closing?_eq_some_iff.mpr ⟨rfl, hkeeps, hsealed.mpr hcase⟩
  · rename_i hcase
    exact closing?_eq_none_iff.mpr (keepsAngles_concat_iff.mpr ⟨hkeeps, mt hsealed.mp hcase⟩)

/-- What stands in an angle bracket is read without reports. -/
theorem readClosing_append (h : Leads .top none t .top) (hdash : t.getLast? ≠ some (.char '-'))
    (source rest : Text) :
    readClosing source (t ++ .char '>' :: rest) = pure (some (t, rest)) := by
  -- the scan goes on behind the opening bracket, one level deeper
  have hscan : Leads .top (some (.char '<')) t .top := h.behind rfl _
  have hlast : t.getLast?.or (some (.char '<')) ≠ some (.char '-') :=
    Text.getLast?_or_ne_dash hdash (by decide)
  have hsealed : Sealed .top (some (.char '<')) t := ⟨congrArg angle hscan.ends, hlast⟩
  have hclosing : closing? ⟨1, 0⟩ (some (.char '<')) (t ++ .char '>' :: rest) = some (t, rest) :=
    closing?_eq_some_iff.mpr ⟨rfl, hscan.keepsAngles, hsealed⟩
  have hcalm : slips ⟨1, 0⟩ (some (.char '<')) t = [] := (hscan.deepen ⟨1, 0⟩).calm
  unfold readClosing
  rw [hclosing]
  simp only [Option.map_some, Option.getD_some, slipNotices, hcalm, List.map_nil]
  rfl

/-! ## Greater depths -/

/-- No bracket of one kind is open less often at another depth. -/
def Covers (d' d : Depth) : Prop := d.angle ≤ d'.angle ∧ d.round ≤ d'.round

theorem covers_top (d : Depth) : Covers d .top := ⟨Nat.zero_le _, Nat.zero_le _⟩

theorem eq_top_of_covers (h : Covers .top d) : d = .top := by
  obtain ⟨angle, round⟩ := d
  rw [top, Depth.mk.injEq]
  exact ⟨Nat.le_zero.mp h.1, Nat.le_zero.mp h.2⟩

/-- A step keeps the order of two depths, whichever bracket it counts. -/
theorem Covers.next (h : Covers d' d) : Covers (d'.next before c) (d.next before c) := by
  obtain ⟨hangle, hround⟩ := h
  unfold Depth.next
  split
  · exact ⟨Nat.add_le_add_right hangle 1, hround⟩
  · split
    · exact ⟨Nat.sub_le_sub_right hangle 1, hround⟩
    · split
      · exact ⟨hangle, Nat.add_le_add_right hround 1⟩
      · split
        · exact ⟨hangle, Nat.sub_le_sub_right hround 1⟩
        · exact ⟨hangle, hround⟩

/-- A scan from a greater depth stays at greater depths. -/
theorem Covers.after (h : Covers d' d) : Covers (d'.after before t) (d.after before t) := by
  induction t generalizing d d' before with
  | nil => exact h
  | cons c r ih => exact ih h.next

/-! ## Cutting outside the brackets -/

variable {ends : Option CodePoint → Text → Bool} {rest : Text}

/-- No place of the text that is outside all brackets ends it; `rest` stands behind the text. -/
def Unended (ends : Option CodePoint → Text → Bool) (d : Depth) (before : Option CodePoint)
    (t rest : Text) : Prop :=
  ∀ front c back, t = front ++ c :: back → (d.after before front).isTop = true →
    ends (front.getLast?.or before) (c :: (back ++ rest)) = false

/-- Nothing ends a text when nothing ends it at its first place, and nothing ends the rest. -/
theorem unended_cons_iff :
    Unended ends d before (c :: t) rest ↔
      (d.isTop = true → ends before (c :: (t ++ rest)) = false) ∧
        Unended ends (d.next before c) (some c) t rest := by
  unfold Unended
  rw [Text.forall_places_cons_iff]
  simp only [after, Text.getLast?_cons_or, List.getLast?_nil, Option.none_or]

/-- A text that nothing ends is passed over. -/
theorem untilTop_append_of_unended (h : Unended ends d before t rest) :
    untilTop ends d before (t ++ rest) =
      (t ++ (untilTop ends (d.after before t) (t.getLast?.or before) rest).1,
        (untilTop ends (d.after before t) (t.getLast?.or before) rest).2) := by
  induction t generalizing d before with
  | nil => rfl
  | cons c r ih =>
    rw [unended_cons_iff] at h
    have hgo : ¬ (d.isTop && ends before (c :: (r ++ rest))) = true := by
      rw [Bool.and_eq_true, not_and, Bool.not_eq_true]
      exact h.1
    rw [List.cons_append, untilTop, if_neg hgo, ih h.2, Text.getLast?_cons_or, after]
    rfl

/-- What stands behind a text has no part in what is read of it, unless all of it is read. -/
theorem fst_untilTop_append_or
    (hends : ∀ before c r, ends before (c :: (r ++ u)) = ends before (c :: r)) :
    (untilTop ends d before (t ++ u)).1 = (untilTop ends d before t).1 ∨
      (untilTop ends d before t).1 = t ∧ (untilTop ends d before (t ++ u)).1 =
        t ++ (untilTop ends (d.after before t) (t.getLast?.or before) u).1 := by
  induction t generalizing d before with
  | nil => exact Or.inr ⟨rfl, rfl⟩
  | cons c r ih =>
    rw [List.cons_append, untilTop, untilTop, hends, Text.getLast?_cons_or, after]
    split
    · exact Or.inl rfl
    · rcases @ih (d.next before c) (some c) with hcut | ⟨hwhole, hread⟩
      · exact Or.inl (congrArg (c :: ·) hcut)
      · exact Or.inr ⟨congrArg (c :: ·) hwhole, congrArg (c :: ·) hread⟩

/-- It has no part in it either when nothing is read there. -/
theorem fst_untilTop_append
    (hends : ∀ before c r, ends before (c :: (r ++ u)) = ends before (c :: r))
    (hu : (untilTop ends (d.after before t) (t.getLast?.or before) u).1 = []) :
    (untilTop ends d before (t ++ u)).1 = (untilTop ends d before t).1 := by
  rcases fst_untilTop_append_or hends with hcut | ⟨hwhole, hread⟩
  · exact hcut
  · rw [hread, hu, hwhole, List.append_nil]

/-- A text that something ends is cut at the first place that does. -/
theorem exists_end_of_not_unended (h : ¬ Unended ends d before t rest) :
    ∃ front c back, t = front ++ c :: back ∧ (d.after before front).isTop = true ∧
      ends (front.getLast?.or before) (c :: (back ++ rest)) = true ∧
      untilTop ends d before (t ++ rest) = (front, c :: (back ++ rest)) := by
  -- the depth and the character before change at every character, so both are kept general
  induction t generalizing d before with
  | nil =>
    exfalso
    apply h
    intro front c back ht
    simp at ht
  | cons c r ih =>
    rw [unended_cons_iff] at h
    -- either the end stands at this character, or the text behind it is still not unended
    by_cases hhere : (d.isTop && ends before (c :: (r ++ rest))) = true
    · rw [Bool.and_eq_true] at hhere
      refine ⟨[], c, r, rfl, hhere.1, hhere.2, ?_⟩
      rw [List.cons_append, untilTop, if_pos (Bool.and_eq_true_iff.mpr hhere)]
    · have hfirst : d.isTop = true → ends before (c :: (r ++ rest)) = false := by
        rwa [Bool.and_eq_true, not_and, Bool.not_eq_true] at hhere
      rcases ih fun hmore => h ⟨hfirst, hmore⟩ with ⟨front, x, back, hr, htop, hends, hcut⟩
      refine ⟨c :: front, x, back, by rw [hr, List.cons_append], htop, ?_, ?_⟩
      · rwa [Text.getLast?_cons_or]
      · rw [List.cons_append, untilTop, if_neg hhere, hcut]

end Depth

end Placement
