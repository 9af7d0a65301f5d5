import Mathlib.Data.List.Lex
import Mathlib.Data.List.Sort
import Placement.Graph.Basic

/-!
# Placement.Proofs.Graph.Tags — sets of tags

Texts are in the order of their code points (`Before`), which tells all texts apart
(`before_trichotomy`). A tag is put into a set at its place in this order, so the
elements of a set are strictly increasing (`increasing_union`, `increasing_ofList`), and
sets with the same elements are the same (`Increasing.ext`).

Putting tags in is idempotent and does not depend on their order, in any list of tags
(`insert_insert_self`, `insert_comm`); so nothing new comes of putting the same tags
into a set once more (`union_union_self`).
-/

namespace Placement

namespace Text

/-! ## The order of texts -/

/-- A text comes before another one in the order of their code points. -/
def Before (s t : Text) : Prop := s.map CodePoint.toNat < t.map CodePoint.toNat

/-- The order that is computed is the one of the code points. -/
theorem precedes_iff {s t : Text} : precedes s t = true ↔ Before s t := by
  unfold Before
  induction t generalizing s with
  | nil => simp [precedes, List.not_lt_nil]
  | cons d t ih =>
    cases s with
    | nil => simp [precedes, List.nil_lt_cons]
    | cons c s =>
      rw [List.map_cons, List.map_cons, List.cons_lt_cons_iff, ← ih, CodePoint.toNat_inj, precedes,
        Bool.or_eq_true, Bool.and_eq_true, decide_eq_true_eq, beq_iff_eq]

theorem Before.trans {s t u : Text} (hs : Before s t) (ht : Before t u) : Before s u :=
  lt_trans hs ht

theorem Before.ne {s t : Text} (h : Before s t) : s ≠ t := by
  rintro rfl
  exact lt_irrefl _ h

theorem Before.not_before {s t : Text} (h : Before s t) : ¬ Before t s := lt_asymm h

/-- Of two different texts one comes before the other. -/
theorem before_trichotomy (s t : Text) : Before s t ∨ s = t ∨ Before t s := by
  rcases lt_trichotomy (s.map CodePoint.toNat) (t.map CodePoint.toNat) with hlt | heq | hgt
  · exact Or.inl hlt
  · have hinjective : Function.Injective (List.map CodePoint.toNat) :=
      List.map_injective_iff.mpr fun _ _ => CodePoint.toNat_inj.mp
    exact Or.inr (Or.inl (hinjective heq))
  · exact Or.inr (Or.inr hgt)

instance : Std.Irrefl Before := ⟨fun _ h => h.ne rfl⟩

instance : Std.Antisymm Before := ⟨fun _ _ h h' => absurd h' h.not_before⟩

end Text

namespace Graph.Tags

variable {tag other t : Text} {ts us : Tags} {more : List Text}

/-! ## Putting a tag in -/

theorem insert_self (tag : Text) (ts : Tags) : insert tag (tag :: ts) = tag :: ts := if_pos rfl

theorem insert_of_before (h : Text.Before tag t) (ts : Tags) :
    insert tag (t :: ts) = tag :: t :: ts := by
  rw [insert, if_neg h.ne, if_pos (Text.precedes_iff.mpr h)]

theorem insert_of_after (h : Text.Before t tag) (ts : Tags) :
    insert tag (t :: ts) = t :: insert tag ts := by
  rw [insert, if_neg h.ne.symm, if_neg fun hbefore => h.not_before (Text.precedes_iff.mp hbefore)]

/-- Putting a tag in adds it, and loses none. -/
theorem mem_insert_iff : t ∈ insert tag ts ↔ t = tag ∨ t ∈ ts := by
  induction ts with
  | nil => exact List.mem_cons
  | cons u ts ih =>
    rcases Text.before_trichotomy tag u with hbefore | rfl | hafter
    · rw [insert_of_before hbefore, List.mem_cons]
    · rw [insert_self, List.mem_cons, or_self_left]
    · rw [insert_of_after hafter, List.mem_cons, ih, List.mem_cons, or_left_comm]

/-- Putting a tag in once more changes nothing. -/
theorem insert_insert_self (tag : Text) (ts : Tags) :
    insert tag (insert tag ts) = insert tag ts := by
  induction ts with
  | nil => exact insert_self tag []
  | cons t ts ih =>
    rcases Text.before_trichotomy tag t with hbefore | rfl | hafter
    · rw [insert_of_before hbefore, insert_self]
    · rw [insert_self, insert_self]
    · rw [insert_of_after hafter, insert_of_after hafter, ih]

/-- Two tags find the same places in either order. -/
theorem insert_insert_of_before (h : Text.Before tag other) (ts : Tags) :
    insert tag (insert other ts) = insert other (insert tag ts) := by
  induction ts with
  | nil => rw [insert, insert_of_before h, insert, insert_of_after h, insert]
  | cons t ts ih =>
    -- the place of each of the two tags against the head of the list
    rcases Text.before_trichotomy other t with hother | rfl | hother
    · rw [insert_of_before hother, insert_of_before h, insert_of_before (h.trans hother),
        insert_of_after h, insert_of_before hother]
    · rw [insert_self, insert_of_before h, insert_of_after h, insert_self]
    · rw [insert_of_after hother]
      rcases Text.before_trichotomy tag t with htag | rfl | htag
      · rw [insert_of_before htag, insert_of_before htag, insert_of_after h,
          insert_of_after hother]
      · rw [insert_self, insert_self, insert_of_after h]
      · rw [insert_of_after htag, insert_of_after htag, insert_of_after hother, ih]

/-- Two tags may be put in in either order. -/
theorem insert_comm (tag other : Text) (ts : Tags) :
    insert tag (insert other ts) = insert other (insert tag ts) := by
  rcases Text.before_trichotomy tag other with hbefore | rfl | hafter
  · exact insert_insert_of_before hbefore ts
  · rfl
  · exact (insert_insert_of_before hafter ts).symm

/-! ## Putting several tags in -/

theorem union_cons (ts : Tags) (tag : Text) (more : List Text) :
    union ts (tag :: more) = union (insert tag ts) more := rfl

theorem ofList_eq_union (tags : List Text) : ofList tags = union [] tags := rfl

/-- The tags behind putting some in are those from before and these. -/
theorem mem_union_iff : t ∈ union ts more ↔ t ∈ ts ∨ t ∈ more := by
  induction more generalizing ts with
  | nil => simp [union]
  | cons tag more ih => rw [union_cons, ih, mem_insert_iff, List.mem_cons, or_comm (a := t = tag),
      or_assoc]

theorem mem_ofList_iff {tags : List Text} : t ∈ ofList tags ↔ t ∈ tags := by
  rw [ofList_eq_union, mem_union_iff]
  exact or_iff_right List.not_mem_nil

/-- It makes no difference whether one tag is put in before some others or behind them. -/
theorem union_insert (tag : Text) (ts : Tags) (more : List Text) :
    union (insert tag ts) more = insert tag (union ts more) := by
  induction more generalizing ts with
  | nil => rfl
  | cons other more ih => rw [union_cons, union_cons, insert_comm, ih]

/-- The same tags once more change nothing. -/
theorem union_union_self (ts : Tags) (more : List Text) :
    union (union ts more) more = union ts more := by
  induction more generalizing ts with
  | nil => rfl
  | cons tag more ih =>
    rw [union_cons, union_cons, ← union_insert, insert_insert_self, ih]

/-! ## Increasing tags -/

/-- Each tag comes before all that stand behind it. -/
def Increasing (ts : Tags) : Prop := ts.Pairwise Text.Before

/-- Sets of tags are known from their elements. -/
theorem Increasing.ext (h : Increasing ts) (h' : Increasing us) (hmem : ∀ t, t ∈ ts ↔ t ∈ us) :
    ts = us :=
  List.Pairwise.eq_of_mem_iff h h' hmem

/-- Putting a tag in keeps the order. -/
theorem increasing_insert (tag : Text) (h : Increasing ts) : Increasing (insert tag ts) := by
  induction ts with
  | nil => exact List.pairwise_singleton _ tag
  | cons t ts ih =>
    rcases List.pairwise_cons.mp h with ⟨hfirst, hrest⟩
    -- in front of the first tag, equal to it, or somewhere behind it
    rcases Text.before_trichotomy tag t with hbefore | rfl | hafter
    · rw [insert_of_before hbefore]
      refine List.pairwise_cons.mpr ⟨?_, h⟩
      rintro u hu
      rcases List.mem_cons.mp hu with rfl | hu
      · exact hbefore
      · exact hbefore.trans (hfirst u hu)
    · rwa [insert_self]
    · rw [insert_of_after hafter]
      refine List.pairwise_cons.mpr ⟨?_, ih hrest⟩
      intro u hu
      rcases mem_insert_iff.mp hu with rfl | hu
      · exact hafter
      · exact hfirst u hu

/-- So does putting several tags in. -/
theorem increasing_union (h : Increasing ts) (more : List Text) : Increasing (union ts more) := by
  induction more generalizing ts with
  | nil => exact h
  | cons tag more ih => exact ih (increasing_insert tag h)

theorem increasing_ofList (tags : List Text) : Increasing (ofList tags) :=
  increasing_union List.Pairwise.nil tags

/-- The set of some tags is the one increasing list of them. -/
theorem eq_ofList_iff {tags : List Text} :
    ts = ofList tags ↔ Increasing ts ∧ ∀ t, t ∈ ts ↔ t ∈ tags := by
  constructor
  · rintro rfl
    exact ⟨increasing_ofList tags, fun t => mem_ofList_iff⟩
  · rintro ⟨hincreasing, hmem⟩
    exact hincreasing.ext (increasing_ofList tags) fun t => (hmem t).trans mem_ofList_iff.symm

end Graph.Tags

end Placement
