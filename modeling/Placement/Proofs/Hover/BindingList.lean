import Placement.Proofs.Hover.Bindings
import Placement.Proofs.TypeText.Single

/-!
# Placement.Proofs.Hover.BindingList — reading a list of bindings back

A list shows bindings as `T = String, L = Process<'a, Leader>`. Each value is read to
its end, as the brackets in it are counted (`IsValue.boundValue`), but the search for
heads goes on within the value. There the argument of a trait, as in
`Iterator<Item = u8>`, looks like a binding too, and nothing tells it from one of the
list: what is bound is the first of all those that are met
(`value_metadata_bindingList`).

So the list is read back exactly when none that is met within a value is new
(`metadata_bindingList_iff`).
-/

namespace Placement.Hover

open Text (Pattern isBlank)
open Depth (Leads)

variable {pairs : Bindings} {p b : Text × Text} {v t u : Text} {before : Option CodePoint}

/-! ## Lists of bindings -/

/-- A value that a list can show: trimmed, with brackets that match. -/
structure IsValue (v : Text) : Prop where
  filled : v ≠ []
  trimmed : Text.trim v = v
  closed : Leads .top none v .top
  /-- The characters that end a value stand only inside of brackets. -/
  whole : ∀ front back, v = front ++ back → back.head?.any isStop = true →
    (Depth.top.after none front).isTop = false

instance : Decidable (IsValue v) :=
  decidable_of_iff
    (v ≠ [] ∧ Text.trim v = v ∧ Leads .top none v .top ∧
      ∀ n < v.length + 1, (v.drop n).head?.any isStop = true →
        (Depth.top.after none (v.take n)).isTop = false)
    ⟨fun ⟨hfilled, htrimmed, hclosed, hwhole⟩ =>
        ⟨hfilled, htrimmed, hclosed, Text.forall_cuts_iff.mpr hwhole⟩,
      fun h => ⟨h.filled, h.trimmed, h.closed, Text.forall_cuts_iff.mp h.whole⟩⟩

/-- A name and a value that a list can show. -/
structure IsBinding (p : Text × Text) : Prop where
  name : IsParameter p.1
  value : IsValue p.2

instance : Decidable (IsBinding p) :=
  decidable_of_iff (IsParameter p.1 ∧ IsValue p.2) ⟨fun h => ⟨h.1, h.2⟩, fun h => ⟨h.1, h.2⟩⟩

/-- A binding as a list shows it. -/
def writtenBinding (p : Text × Text) : Text := p.1 ++ (" = ".text ++ p.2)

/-- A list of bindings, in plain text. -/
def bindingList (pairs : Bindings) : Text := TypeText.join (pairs.map writtenBinding)

/-- The bindings whose heads stand within a value. -/
def nested (v : Text) : Bindings := bindingsIn (some (.char ' ')) v []

/-- The bindings that are met in a list: each one that is shown, and those within its value. -/
def met (pairs : Bindings) : Bindings := pairs.flatMap fun p => p :: nested p.2

/-! ## Values -/

theorem IsValue.head?_isBlank (h : IsValue v) : v.head?.any isBlank = false := by
  rw [← h.trimmed]
  exact Text.head?_trim v

/-- What stands behind a binding in a list. -/
def EndsBinding (u : Text) : Prop := u = [] ∨ u.head? = some (.char ',')

/-- No head goes on with what stands behind a binding. -/
theorem EndsBinding.endsHead (h : EndsBinding u) : EndsHead u := by
  rcases h with rfl | h
  · exact ⟨rfl, rfl, by simp⟩
  · refine ⟨?_, ?_, ?_⟩ <;> rw [h]
    · decide
    · decide
    · simp

/-- Where no bracket is open nothing is read behind a value. -/
theorem EndsBinding.fst_untilTop (h : EndsBinding u) (before : Option CodePoint) :
    (Depth.untilTop endsValue .top before u).1 = [] := by
  cases u with
  | nil => rfl
  | cons c r =>
    have hc : c = ',' := by
      rcases h with h | h
      · cases h
      · exact Option.some.inj h
    subst hc
    rfl

/-- A value that closes its brackets is read to its end, whatever binding comes behind it. -/
theorem boundValue_append (hv : Depth.top.after none v = .top) (hu : EndsBinding u) :
    boundValue (v ++ u) = boundValue v := by
  rw [boundValue_eq, boundValue_eq, Depth.fst_untilTop_append (fun _ _ _ => rfl)]
  rw [hv]
  exact hu.fst_untilTop _

/-- A value is read back as a whole. -/
theorem IsValue.boundValue (h : IsValue v) : Hover.boundValue v = v := by
  have hunended : Depth.Unended endsValue .top none v [] := by
    intro front c back hv htop
    rw [endsValue_cons, ← Bool.not_eq_true]
    intro hstop
    rw [h.whole front (c :: back) hv hstop] at htop
    cases htop
  have hpassed := Depth.untilTop_append_of_unended hunended
  rw [List.append_nil] at hpassed
  rw [boundValue_eq, hpassed]
  exact (congrArg Text.trim (List.append_nil v)).trans h.trimmed

/-- Within a value that closes its brackets the same is bound whatever stands behind it: a value
within it cannot be open where it is not. -/
theorem bindingsIn_of_closed {d : Depth} (ht : d.after before t = .top) (hu : EndsBinding u) :
    bindingsIn before t u = bindingsIn before t [] := by
  rw [bindingsIn_eq_heads hu.endsHead, bindingsIn_eq_heads endsHead_nil]
  refine List.filterMap_congr fun head hhead => ?_
  obtain ⟨front, sign, rfl, hsign⟩ := exists_of_mem_heads hhead
  have hvalue : Depth.top.after none head.2 = .top := by
    -- the value begins behind the sign, where the scan is at least as deep as one that starts there
    have hbefore := hsign.getLast?_or_ne_dash (front.getLast?.or before)
    rw [Depth.after_append, Depth.after_append,
      Depth.after_of_ne_dash hbefore (Option.some_ne_none _).symm] at ht
    have hcovers : Depth.Covers _ (Depth.top.after none head.2) := (Depth.covers_top
      ((d.after before front).after (front.getLast?.or before) sign)).after
    rw [ht] at hcovers
    exact Depth.eq_top_of_covers hcovers
  rw [List.append_nil, binding?, boundValue_append hvalue hu]
  rfl

/-- The head of a written binding is read at its place. -/
theorem bindingHead_writtenBinding (hp : IsBinding p) (hbefore : isJoined before = false)
    (u : Text) :
    bindingHead before (p.1 ++ (" = ".text ++ (p.2 ++ u))) =
      some ((p.1, p.2 ++ u), p.2 ++ u) := by
  have hbegins : (p.2 ++ u).head?.any isBlank = false := by
    rw [List.head?_append, List.head?_eq_some_head hp.value.filled, Option.some_or,
      ← List.head?_eq_some_head]
    exact hp.value.head?_isBlank
  have hspace : ∀ c ∈ [.char ' '], isBlank c = true := List.all_eq_true.mp (by decide)
  exact bindingHead_eq_some_iff.mpr ⟨rfl, hbefore, hp.name, " = ".text, rfl,
    ⟨[.char ' '], [.char ' '], rfl, hspace, hspace, by simp⟩, hbegins⟩

/-- A binding in a list binds its value, and what is bound within it. -/
theorem bindingsIn_writtenBinding (hp : IsBinding p) (hbefore : isJoined before = false)
    (hu : EndsBinding u) : bindingsIn before (writtenBinding p) u = p :: nested p.2 := by
  have hhead := bindingHead_writtenBinding hp hbefore u
  rw [← List.append_assoc] at hhead
  have hvalue : boundValue (p.2 ++ u) = p.2 := by
    rw [boundValue_append hp.value.closed.ends hu, hp.value.boundValue]
  -- the head binds the value in front of `u`
  have hread : bindingsIn before (p.1 ++ " = ".text) (p.2 ++ u) = [p] := by
    rw [bindingsIn, Pattern.readings_of_match apart_bindingHead hhead]
    simp [binding?, hvalue, hp.value.filled]
  have hwithin : bindingsIn (some (.char ' ')) p.2 u = nested p.2 :=
    bindingsIn_of_closed ((hp.value.closed.behind rfl (some (.char ' '))).ends) hu
  rw [writtenBinding, ← List.append_assoc, bindingsIn_append, hread, List.getLast?_append]
  exact congrArg (p :: ·) hwithin

/-- In a list of bindings those are met that it shows, and those within their values. -/
theorem bindingsIn_bindingList (h : ∀ p ∈ pairs, IsBinding p) (hbefore : isJoined before = false) :
    bindingsIn before (bindingList pairs) [] = met pairs := by
  induction pairs generalizing before with
  | nil => rfl
  | cons p more ih =>
    obtain ⟨hp, hmore⟩ := List.forall_mem_cons.mp h
    have hmet : met (p :: more) = (p :: nested p.2) ++ met more := List.flatMap_cons
    rw [hmet, bindingList, List.map_cons]
    cases more with
    | nil =>
      rw [List.map_nil, TypeText.join_singleton, bindingsIn_writtenBinding hp hbefore (Or.inl rfl)]
      exact (List.append_nil _).symm
    | cons q more =>
      -- nothing is bound between two bindings
      have hcomma : Pattern.Silent bindingHead ((writtenBinding p).getLast?.or before)
          [.char ',', .char ' '] (bindingList (q :: more)) :=
        silent_of_not_capital (by simp; decide) _
      rw [List.map_cons, TypeText.join_cons_cons]
      change bindingsIn before
        (writtenBinding p ++ ([.char ',', .char ' '] ++ bindingList (q :: more))) [] = _
      rw [bindingsIn_append, List.append_nil, bindingsIn_append, List.append_nil,
        bindingsIn_writtenBinding hp hbefore (Or.inr rfl), bindingsIn_of_silent hcomma,
        List.nil_append]
      congr 1
      exact ih hmore rfl

/-- Reading a list of bindings gives the first one of each name that is met in it. -/
theorem value_metadata_bindingList (h : ∀ p ∈ pairs, IsBinding p) :
    (metadata (bindingList pairs)).value = Bindings.ofList (met pairs) := by
  rw [value_metadata, bindingsIn_bindingList h rfl]

theorem map_fst_subset_met (pairs : Bindings) : pairs.map Prod.fst ⊆ (met pairs).map Prod.fst :=
  List.map_subset _ fun p hp => List.mem_flatMap.mpr ⟨p, hp, List.mem_cons_self⟩

/-- A list of bindings is read back exactly when each binding that is met first for its name, in a
value or outside of them, is one of the list. -/
theorem metadata_bindingList_iff (hnames : (pairs.map Prod.fst).Nodup)
    (h : ∀ p ∈ pairs, IsBinding p) :
    (metadata (bindingList pairs)).value.Perm pairs ↔
      ∀ front b back, met pairs = front ++ b :: back → b.1 ∉ front.map Prod.fst → b ∈ pairs := by
  rw [value_metadata_bindingList h, ← forall_mem_ofList_iff,
    List.perm_ext_iff_of_nodup (nodup_ofList _).of_map hnames.of_map]
  constructor
  · intro hread b hb
    exact (hread b).mp hb
  · rintro hlisted ⟨name, value⟩
    refine ⟨hlisted _, fun hmem => ?_⟩
    -- the name is met, and the list has one value only that it can be bound to
    have hname : name ∈ (met pairs).map Prod.fst :=
      map_fst_subset_met pairs (List.mem_map_of_mem hmem)
    obtain ⟨value', hvalue'⟩ := Option.isSome_iff_exists.mp (Lookup.isSome_iff.mpr hname)
    have hmem' := hlisted (name, value') (mem_ofList_iff.mpr hvalue')
    rw [← Lookup.eq_some_iff_mem hnames] at hmem hmem'
    rw [mem_ofList_iff, hvalue', ← hmem', hmem]

/-- The argument of a trait has the name of a type parameter in front of it. -/
def iteratorPairs : Bindings :=
  [("Item".text, "u8".text), ("T".text, "Box<dyn Iterator<Item = u8>>".text),
    ("L".text, "Tick<Process<'a, Leader>>".text)]

/-- A list is read back although a trait takes an argument in it, since the name of that is bound
before. -/
theorem metadata_bindingList_iff_iterator :
    (iteratorPairs.map Prod.fst).Nodup ∧ (∀ p ∈ iteratorPairs, IsBinding p) ∧
      (metadata (bindingList iteratorPairs)).value.Perm iteratorPairs := by
  have hnames : (iteratorPairs.map Prod.fst).Nodup := by decide
  have hpairs : ∀ p ∈ iteratorPairs, IsBinding p := by decide
  have hlisted : ∀ b ∈ Bindings.ofList (met iteratorPairs), b ∈ iteratorPairs := by decide
  exact ⟨hnames, hpairs,
    (metadata_bindingList_iff hnames hpairs).mpr (forall_mem_ofList_iff.mp hlisted)⟩

/-- The type parameter stands behind the argument of the trait. -/
def shadowedPairs : Bindings :=
  [("T".text, "Box<dyn Iterator<Item = u8>>".text), ("Item".text, "String".text)]

/-- What is bound within a value displaces a binding of the list. -/
theorem argument_displaces_binding :
    (shadowedPairs.map Prod.fst).Nodup ∧ (∀ p ∈ shadowedPairs, IsBinding p) ∧
      (metadata (bindingList shadowedPairs)).value =
        [("T".text, "Box<dyn Iterator<Item = u8>>".text), ("Item".text, "u8>>".text)] ∧
      ¬ (metadata (bindingList shadowedPairs)).value.Perm shadowedPairs := by
  decide

end Placement.Hover
