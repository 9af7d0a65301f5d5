import Placement.Proofs.Cache.Life

/-!
# Placement.Proofs.Cache.Recency — a cache keeps what was used last

The keys that were stored and not removed since have a `RecencyOrder`: by the time
of their last touch, the longest ago first. A use puts the key that it touches at
the end of this order and takes out those that it removes (`RecencyOrder.touched`,
`RecencyOrder.untouched`). Throughout a life the keys of the cache are the last ones
of this order, in this order, each with what was stored under it last, and no more
of them than there is room for (`keys_suffix_of_life`).
-/

namespace Placement.Cache

variable {α μ : Type} {l : Life α μ} {u : Use α μ} {key : Text}

/-! ## The order of use -/

/-- The keys that were stored and not removed since, each behind those touched before it. -/
structure RecencyOrder (past : List (Moment α μ)) (order : List Text) : Prop where
  mem_iff : ∀ key, key ∈ order ↔ live past key = true
  byAge : order.Pairwise fun older newer => age past newer < age past older

/-- A key is there behind a use that stores it, and behind one that does not remove it if it was
there before. -/
theorem live_next (l : Life α μ) (u : Use α μ) (key : Text) :
    live (l.next u).past key = (!u.clears key && ((u.entry? key).isSome || live l.past key)) := by
  show live (l.moment u :: l.past) key = _
  unfold live
  rw [List.takeWhile_cons]
  show (if (!u.clears key) = true then _ else _ : List (Moment α μ)).any _ = _
  cases u.clears key <;> rfl

/-- A use makes the key that it touches the newest one, and all others one use older. -/
theorem age_next (l : Life α μ) (u : Use α μ) (key : Text) :
    age (l.next u).past key =
      if (l.moment u).touched? = some key then 0 else age l.past key + 1 := by
  show age (l.moment u :: l.past) key = _
  unfold age
  rw [List.findIdx_cons]
  by_cases h : (l.moment u).touched? = some key
  · rw [if_pos h, beq_iff_eq.mpr h]
    rfl
  · rw [if_neg h, beq_eq_false_iff_ne.mpr h]
    rfl

theorem age_next_of_ne (h : (l.moment u).touched? = some key) {k : Text} (hk : k ≠ key) :
    age (l.next u).past k = age l.past k + 1 := by
  rw [age_next, h, if_neg]
  intro hsame
  exact hk (Option.some.inj hsame).symm

namespace RecencyOrder

variable {order : List Text}

/-- No key stands twice in the order, since none is older than itself. -/
theorem nodup (h : RecencyOrder l.past order) : order.Nodup := by
  apply h.byAge.imp
  rintro a b hab rfl
  exact Nat.lt_irrefl _ hab

/-- A key that is touched becomes the newest one. -/
theorem touched (h : RecencyOrder l.past order) (htouch : (l.moment u).touched? = some key)
    (hkey : key ∈ order ∨ (u.entry? key).isSome = true) :
    RecencyOrder (l.next u).past (order.filter (· != key) ++ [key]) := by
  refine ⟨?_, ?_⟩
  · intro k
    rw [live_next, clears_of_touched htouch, List.mem_append, List.mem_singleton,
      List.mem_filter, bne_iff_ne, Bool.not_false, Bool.true_and, Bool.or_eq_true]
    -- the touched key is there for sure, and all others are as they were
    by_cases hk : k = key
    · subst hk
      rw [h.mem_iff] at hkey
      exact iff_of_true (Or.inr rfl) hkey.symm
    · rw [entry?_of_touched_ne htouch hk, h.mem_iff]
      constructor
      · rintro (⟨hlive, -⟩ | hsame)
        · exact Or.inr hlive
        · exact absurd hsame hk
      · -- what is stored lies under the touched key, so the other key was there before
        rintro (hstored | hlive)
        · cases hstored
        · exact Or.inl ⟨hlive, hk⟩
  · rw [List.pairwise_append]
    refine ⟨?_, List.pairwise_singleton _ _, ?_⟩
    · -- the others are all one use older than before
      apply (h.byAge.filter _).imp_of_mem
      intro a b ha hb hab
      rw [List.mem_filter, bne_iff_ne] at ha hb
      rw [age_next_of_ne htouch ha.2, age_next_of_ne htouch hb.2]
      exact Nat.succ_lt_succ hab
    · intro a ha b hb
      rw [List.mem_filter, bne_iff_ne] at ha
      -- the touched key has age zero, and the others are older
      rw [List.mem_singleton.mp hb, age_next_of_ne htouch ha.2, age_next, if_pos htouch]
      exact Nat.succ_pos _

/-- A use that touches no key leaves the order of those that it does not remove. -/
theorem untouched (h : RecencyOrder l.past order) (htouch : (l.moment u).touched? = none) :
    RecencyOrder (l.next u).past (order.filter fun k => !u.clears k) := by
  -- no key is touched, so that all of them get older alike
  have hage : ∀ k, age (l.next u).past k = age l.past k + 1 := by
    intro k
    rw [age_next, htouch, if_neg (Option.some_ne_none k).symm]
  refine ⟨?_, ?_⟩
  · intro k
    rw [live_next, entry?_of_untouched htouch, List.mem_filter, h.mem_iff, and_comm,
      Bool.and_eq_true]
    rfl
  · apply (h.byAge.filter _).imp
    intro a b hab
    rw [hage, hage]
    exact Nat.succ_lt_succ hab

end RecencyOrder

/-! ## One use -/

/-- The keys of the cache are the last ones of the order of use. -/
def KeysLast (l : Life α μ) : Prop := ∃ order, RecencyOrder l.past order ∧ l.cache.keys <:+ order

theorem KeysLast.nodup (h : KeysLast l) : l.cache.keys.Nodup := by
  rcases h with ⟨order, horder, hlast⟩
  exact horder.nodup.sublist hlast.sublist

theorem keys_filter (keep : Text → Bool) (entries : List (Text × Entry α μ)) :
    (entries.filter fun e => keep e.1).map (·.1) = (entries.map (·.1)).filter keep :=
  List.filter_map.symm

theorem keys_dropKey (key : Text) (entries : List (Text × Entry α μ)) :
    (dropKey key entries).map (·.1) = (entries.map (·.1)).filter (· != key) :=
  keys_filter (· != key) entries

/-- The keys of the cache stay the last ones in the order of use. -/
theorem keysLast_next (h : KeysLast l) (u : Use α μ) : KeysLast (l.next u) := by
  rcases h with ⟨order, horder, hlast⟩
  cases htouch : (l.moment u).touched? with
  | some key =>
    rcases entries_of_touched htouch with ⟨e, hentries, hentry⟩
    refine ⟨_, horder.touched htouch ?_, ?_⟩
    · rcases hentry with hstored | ⟨-, hfound⟩
      · exact Or.inr (hstored ▸ rfl)
      · exact Or.inl (hlast.subset (List.mem_map_of_mem hfound))
    · -- the entries that are kept are the newest ones, also without the key
      have hkeys : (newest (u.room l.cache) l.cache.entries).map (·.1) <:+ order :=
        ((newest_suffix _ _).map _).trans hlast
      rcases hkeys.filter (· != key) with ⟨front, hfront⟩
      refine ⟨front, ?_⟩
      rw [keys, hentries, List.map_append, keys_dropKey, ← List.append_assoc, hfront]
      rfl
  | none =>
    refine ⟨_, horder.untouched htouch, ?_⟩
    -- taking keys out and making room leave the last ones of those that stay
    have hkeys := (newest_suffix (u.room l.cache)
      (l.cache.entries.filter fun e => !u.clears e.1)).map (·.1)
    rw [← entries_of_untouched htouch, keys_filter fun k => !u.clears k] at hkeys
    exact hkeys.trans (hlast.filter _)

/-- An entry is found under its key when no other one has the same key. -/
theorem find?_of_mem {c : Cache α μ} (hkeys : c.keys.Nodup) {e : Entry α μ}
    (h : (key, e) ∈ c.entries) : c.find? key = some e :=
  (Lookup.eq_some_iff_mem hkeys).mpr h

/-- What stands around an entry is left without it when no other one has the same key. -/
theorem dropKey_append_cons {front back : List (Text × Entry α μ)} {e : Entry α μ}
    (hkeys : ((front ++ (key, e) :: back).map (·.1)).Nodup) :
    dropKey key (front ++ (key, e) :: back) = front ++ back := by
  rw [List.map_append, List.map_cons, List.nodup_append, List.nodup_cons] at hkeys
  rcases hkeys with ⟨-, ⟨hback, -⟩, hfront⟩
  have hfrontKept : dropKey key front = front := by
    apply List.filter_eq_self.mpr
    intro p hp
    exact bne_iff_ne.mpr (hfront p.1 (List.mem_map_of_mem hp) key List.mem_cons_self)
  have hbackKept : dropKey key back = back := by
    apply List.filter_eq_self.mpr
    intro p hp
    have hkey : p.1 ∈ back.map (·.1) := List.mem_map_of_mem hp
    exact bne_iff_ne.mpr fun hsame => hback (hsame ▸ hkey)
  -- the entry itself is the only one with its key
  have hself : dropKey key ((key, e) :: back) = dropKey key back :=
    List.filter_cons_of_neg (by simp)
  have happend : dropKey key (front ++ (key, e) :: back) =
      dropKey key front ++ dropKey key ((key, e) :: back) := List.filter_append front _
  rw [happend, hself, hfrontKept, hbackKept]

/-- Every entry of the cache is what was stored under its key last. -/
def EntriesStored (l : Life α μ) : Prop :=
  ∀ key e, (key, e) ∈ l.cache.entries → lastStored l.past key = some e

/-- What a use stores hides what was stored under the key before. -/
theorem lastStored_next (l : Life α μ) (u : Use α μ) (key : Text) :
    lastStored (l.next u).past key = (u.entry? key).or (lastStored l.past key) := by
  have hpast : (l.next u).past = l.moment u :: l.past := rfl
  have huse : (l.moment u).use = u := rfl
  rw [hpast, lastStored, List.findSome?_cons, huse]
  cases u.entry? key <;> rfl

/-- A use leaves under each key what was stored there last. -/
theorem entriesStored_next (h : EntriesStored l) (u : Use α μ) : EntriesStored (l.next u) := by
  intro k e' hmem
  rw [lastStored_next]
  -- a use that touches a key moves its entry to the new end and leaves the others; every other use
  -- only drops entries
  cases htouch : (l.moment u).touched? with
  | some key =>
    rcases entries_of_touched htouch with ⟨e, hentries, hentry⟩
    rw [hentries, List.mem_append, List.mem_singleton, dropKey, List.mem_filter] at hmem
    rcases hmem with ⟨hold, hne⟩ | hnew
    · have hk : k ≠ key := bne_iff_ne.mp hne
      rw [entry?_of_touched_ne htouch hk]
      exact h k e' (mem_of_mem_newest hold)
    · cases hnew
      -- the moved entry is the one just stored, or the one found before a `get`
      rcases hentry with hstored | ⟨hnone, hfound⟩
      · rw [hstored]
        rfl
      · rw [hnone]
        exact h k e' hfound
  | none =>
    rw [entry?_of_untouched htouch]
    rw [entries_of_untouched htouch] at hmem
    exact h k e' (List.mem_filter.mp (mem_of_mem_newest hmem)).1

/-- The cache has no more entries than there is room for, but always room for one. -/
def WithinRoom (l : Life α μ) : Prop := (l.cache.size : Int) ≤ max 1 l.cache.maxSize

theorem length_dropKey_le (key : Text) (entries : List (Text × Entry α μ)) :
    (dropKey key entries).length ≤ entries.length :=
  List.length_filter_le _ _

/-- Dropping a key that is there leaves fewer entries. -/
theorem length_dropKey_lt {e : Entry α μ} {entries : List (Text × Entry α μ)}
    (h : (key, e) ∈ entries) : (dropKey key entries).length < entries.length := by
  apply List.length_filter_lt_length_iff_exists.mpr
  exact ⟨(key, e), h, by simp⟩

theorem length_newest_le (count : Nat) (entries : List (Text × Entry α μ)) :
    (newest count entries).length ≤ count := by
  rw [newest, List.length_drop]
  omega

/-- No use leaves more entries than there is room for. -/
theorem withinRoom_next (h : WithinRoom l) (u : Use α μ) : WithinRoom (l.next u) := by
  unfold WithinRoom at h ⊢
  cases u with
  | get key =>
    cases hfind : l.cache.find? key with
    | some e =>
      -- the entry that is found moves, so one is dropped before it is added
      have hless := length_dropKey_lt (mem_entries_of_find? hfind)
      simp only [Life.next, step, get_of_find?_eq_some hfind, size, List.length_append,
        List.length_singleton] at h ⊢
      omega
    | none =>
      simp only [Life.next, step, get_of_find?_eq_none hfind]
      exact h
  | set key value metadata =>
    have hkept := length_dropKey_le key (newest (l.cache.maxSize - 1).toNat l.cache.entries)
    have hroom := length_newest_le (l.cache.maxSize - 1).toNat l.cache.entries
    simp only [Life.next, step, Cache.set, size, List.length_append, List.length_singleton]
    omega
  | clear key =>
    have hkept := length_dropKey_le key l.cache.entries
    simp only [Life.next, step, Cache.clear, size] at h ⊢
    omega
  | clearAll =>
    simp only [Life.next, step, Cache.clearAll, size, List.length_nil]
    omega
  | setMaxSize maxSize =>
    have hroom := length_newest_le maxSize.toNat l.cache.entries
    simp only [Life.next, step, Cache.setMaxSize, size]
    omega
  | resetStats => exact h
  | ask question => exact h

/-- The counts are those of the entries asked for since they were set to zero. -/
def CountsGets (l : Life α μ) : Prop := l.cache.hits + l.cache.misses = gets l.past

/-- A use that asks for an entry is counted, and one that sets the counts to zero hides all before
it. -/
theorem gets_next (l : Life α μ) (u : Use α μ) :
    gets (l.next u).past = if u.resets then 0 else gets l.past + if u.isGet then 1 else 0 := by
  show gets (l.moment u :: l.past) = _
  unfold gets
  rw [List.takeWhile_cons]
  show (if (!u.resets) = true then _ else _ : List (Moment α μ)).countP _ = _
  cases u.resets with
  | true => rfl
  | false => exact List.countP_cons

/-- The counts go on as the uses do: each entry asked for is a hit or a miss. -/
theorem countsGets_next (h : CountsGets l) (u : Use α μ) : CountsGets (l.next u) := by
  unfold CountsGets at h ⊢
  rw [gets_next]
  -- only `get` counts, a hit or a miss each time; the resets count from zero again
  cases u with
  | get key =>
    rw [← h]
    cases hfind : l.cache.find? key with
    | some e =>
      simp only [Life.next, step, get_of_find?_eq_some hfind]
      exact Nat.add_right_comm _ 1 _
    | none =>
      simp only [Life.next, step, get_of_find?_eq_none hfind]
      rfl
  | set _ _ _ | clear _ | setMaxSize _ | ask _ => exact h
  | clearAll | resetStats => rfl

/-! ## A whole life -/

/-- Throughout a life the keys are the last ones in the order of use. -/
theorem keysLast_of (maxSize : Int) (uses : List (Use α μ)) : KeysLast (.of maxSize uses) := by
  apply Life.induction
  · refine ⟨[], ⟨?_, List.Pairwise.nil⟩, List.suffix_rfl⟩
    intro key
    exact iff_of_false List.not_mem_nil Bool.false_ne_true
  · exact fun l u _ h => keysLast_next h u

/-- Throughout a life each key has what was stored under it last. -/
theorem entriesStored_of (maxSize : Int) (uses : List (Use α μ)) :
    EntriesStored (.of maxSize uses) := by
  apply Life.induction
  · intro key e he
    exact absurd he List.not_mem_nil
  · exact fun l u _ h => entriesStored_next h u

/-- Throughout a life there are no more entries than there is room for. -/
theorem withinRoom_of (maxSize : Int) (uses : List (Use α μ)) : WithinRoom (.of maxSize uses) := by
  apply Life.induction
  · show ((0 : Nat) : Int) ≤ _
    omega
  · exact fun l u _ h => withinRoom_next h u

/-- Throughout a life the counts are those of the entries asked for. -/
theorem countsGets_of (maxSize : Int) (uses : List (Use α μ)) : CountsGets (.of maxSize uses) := by
  apply Life.induction
  · rfl
  · exact fun l u _ h => countsGets_next h u

/-- Throughout the life of a cache its keys are different ones and the last ones in the order of
use of all keys that were stored and not removed since; under each lies what was stored last; there
are no more than there is room for, or one; the counts are those of the entries asked for since they
were set to zero; and questions change nothing. -/
theorem keys_suffix_of_life (maxSize : Int) (uses : List (Use α μ)) :
    let l := Life.of maxSize uses
    l.cache.keys.Nodup ∧
    (∃ order, RecencyOrder l.past order ∧ l.cache.keys <:+ order) ∧
    (∀ key ∈ l.cache.keys, ∃ e, lastStored l.past key = some e ∧ l.cache.find? key = some e) ∧
    (l.cache.size : Int) ≤ max 1 l.cache.maxSize ∧
    l.cache.hits + l.cache.misses = gets l.past ∧
    ∀ question, (l.cache.step (.ask question)).2 = l.cache := by
  have hkeys := keysLast_of maxSize uses
  refine ⟨hkeys.nodup, hkeys, ?_, withinRoom_of maxSize uses, countsGets_of maxSize uses,
    fun question => rfl⟩
  intro key hkey
  -- a kept key has an entry, and that entry is the last one stored under it
  rcases List.mem_map.mp hkey with ⟨⟨k, e⟩, hmem, rfl⟩
  have hfind := find?_of_mem hkeys.nodup hmem
  exact ⟨e, entriesStored_of maxSize uses k e hmem, hfind⟩

end Placement.Cache
