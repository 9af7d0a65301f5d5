import Mathlib.Data.Finset.Card
import Mathlib.Data.Finset.Option
import Placement.Proofs.Cache.Recency

/-!
# Placement.Proofs.Cache.Retention — a key that was used recently is still there

In the cache a key is followed by keys that were touched after it only (`Held`). A
use leaves it there when it has room for the key and those behind it (`held_next`).
Storing has room for one key less than the cache, also when the key that is stored
is there already. So a key stays as long as fewer others were touched than the cache
has room for, where storing one of these again counts like another one
(`get_of_recently_touched`); two keys and a cache for two show that it has to count
(`overwrite_drops_recent_key`).
-/

namespace Placement.Cache

variable {α μ : Type} {l : Life α μ} {u : Use α μ} {key : Text} {newer : List (Moment α μ)}
  {n : Nat}

/-! ## Touching others -/

/-- The other keys that were touched in a part of the past. -/
def others (key : Text) (past : List (Moment α μ)) : Finset Text :=
  (past.filterMap (·.touched?)).toFinset.erase key

theorem mem_others_cons_iff {m : Moment α μ} {k : Text} :
    k ∈ others key (m :: newer) ↔ (m.touched? = some k ∧ k ≠ key) ∨ k ∈ others key newer := by
  simp only [others, Finset.mem_erase, List.mem_toFinset, List.mem_filterMap, List.mem_cons,
    exists_eq_or_imp]
  constructor
  · rintro ⟨hk, hm | hbefore⟩
    · exact Or.inl ⟨hm, hk⟩
    · exact Or.inr ⟨hk, hbefore⟩
  · rintro (⟨hm, hk⟩ | ⟨hk, hbefore⟩)
    · exact ⟨hk, Or.inl hm⟩
    · exact ⟨hk, Or.inr hbefore⟩

/-- The other keys that were touched in a part of the past, without those removed since. -/
def othersLeft (key : Text) : List (Moment α μ) → Finset Text
  | [] => ∅
  | m :: before =>
    (m.touched?.toFinset ∪ (othersLeft key before).filter (m.use.clears · = false)).erase key

/-- The other keys left behind a use: the one it touches, and those left before that it does not
remove. -/
theorem mem_othersLeft_cons_iff {m : Moment α μ} {k : Text} :
    k ∈ othersLeft key (m :: newer) ↔
      k ≠ key ∧ (m.touched? = some k ∨ k ∈ othersLeft key newer ∧ m.use.clears k = false) := by
  rw [othersLeft, Finset.mem_erase, Finset.mem_union, Finset.mem_filter, Option.mem_toFinset,
    Option.mem_def]

/-- The other keys that are left are among those that were touched. -/
theorem othersLeft_subset : othersLeft key newer ⊆ others key newer := by
  induction newer with
  | nil => exact Finset.empty_subset _
  | cons m before ih =>
    intro k hk
    rcases mem_othersLeft_cons_iff.mp hk with ⟨hne, hm | ⟨hbefore, -⟩⟩
    · exact mem_others_cons_iff.mpr (Or.inl ⟨hm, hne⟩)
    · exact mem_others_cons_iff.mpr (Or.inr (ih hbefore))

theorem ne_of_mem_othersLeft {k : Text} (h : k ∈ othersLeft key newer) : k ≠ key := by
  cases newer with
  | nil => exact absurd h (Finset.notMem_empty k)
  | cons m before => exact (mem_othersLeft_cons_iff.mp h).1

/-- The key was touched, and not removed in what happened since. -/
structure TouchedBefore (past : List (Moment α μ)) (key : Text) (newer : List (Moment α μ)) :
    Prop where
  touched : ∃ m older, past = newer ++ m :: older ∧ m.touched? = some key
  kept : ∀ m ∈ newer, m.use.clears key = false

/-- Whenever a use since stored again under one of the other keys that were left, there were fewer
than `n - 1` of these. -/
def RestoresFit (n : Nat) (key : Text) : List (Moment α μ) → Prop
  | [] => True
  | m :: before =>
    (∀ again ∈ othersLeft key before, (m.use.entry? again).isSome = true →
      (othersLeft key before).card + 1 < n) ∧ RestoresFit n key before

/-- Whenever a use since stored under another key, fewer than `n - 1` other keys were left. -/
def StoresFit (n : Nat) (key : Text) : List (Moment α μ) → Prop
  | [] => True
  | m :: before =>
    (∀ k ≠ key, (m.use.entry? k).isSome = true → (othersLeft key before).card + 1 < n) ∧
      StoresFit n key before

/-- Storing under a key that is not among those left adds one to the others. -/
theorem storesFit_of_restoresFit (hfew : (others key newer).card < n)
    (hagain : RestoresFit n key newer) : StoresFit n key newer := by
  induction newer with
  | nil => trivial
  | cons m before ih =>
    have hsubset : others key before ⊆ others key (m :: before) := fun k hk =>
      mem_others_cons_iff.mpr (Or.inr hk)
    have hbefore := Finset.card_le_card hsubset
    refine ⟨?_, ih (by omega) hagain.2⟩
    intro k hk hstored
    -- a key still left is written again as the assumption allows; a key no longer left is one more
    -- among the others, so there was room for it
    by_cases hleft : k ∈ othersLeft key before
    · exact hagain.1 k hleft hstored
    · -- counted together with the keys left, it stays among the other keys
      have hinsert : insert k (othersLeft key before) ⊆ others key (m :: before) := by
        intro k' hk'
        rcases Finset.mem_insert.mp hk' with rfl | hk'
        · exact mem_others_cons_iff.mpr (Or.inl ⟨Moment.touched?_of_entry? hstored, hk⟩)
        · exact hsubset (othersLeft_subset hk')
      have hcard := Finset.card_le_card hinsert
      rw [Finset.card_insert_of_notMem hleft] at hcard
      omega

/-! ## One use -/

/-- The key is in the cache, in front of keys only that were touched in this part of the past and
not removed since. -/
def Held (l : Life α μ) (key : Text) (newer : List (Moment α μ)) : Prop :=
  ∃ younger, key :: younger <:+ l.cache.keys ∧ ∀ k ∈ younger, k ∈ othersLeft key newer

/-- The newest keys that there is room for begin with the last ones of all when these fit in. -/
theorem suffix_newest {keys : List Text} {count : Nat} {entries : List (Text × Entry α μ)}
    (h : keys <:+ entries.map (·.1)) (hcount : keys.length ≤ count) :
    keys <:+ (newest count entries).map (·.1) := by
  have hlength := h.length_le
  rw [List.length_map] at hlength
  refine List.suffix_of_suffix_length_le h ((newest_suffix count entries).map _) ?_
  rw [List.length_map, newest, List.length_drop]
  omega

/-- A key that is touched is the last one, with no others behind it. -/
theorem held_of_touched (h : (l.moment u).touched? = some key) : Held (l.next u) key newer := by
  rcases entries_of_touched h with ⟨e, hentries, -⟩
  refine ⟨[], ?_, fun k hk => absurd hk List.not_mem_nil⟩
  rw [keys, hentries, List.map_append]
  exact List.suffix_append _ _

/-- A use that has room for the key and those behind it leaves it there. -/
theorem held_next {younger : List Text} (hlast : key :: younger <:+ l.cache.keys)
    (hleft : ∀ k ∈ younger, k ∈ othersLeft key newer) (hclear : u.clears key = false)
    (hroom : younger.length < u.room l.cache) : Held (l.next u) key (l.moment u :: newer) := by
  -- touching a key moves it behind all others; other uses only take keys out
  cases htouch : (l.moment u).touched? with
  | some touched =>
    by_cases hsame : touched = key
    · exact held_of_touched (hsame ▸ htouch)
    · -- the other key becomes the newest one, behind those behind the key
      rcases entries_of_touched htouch with ⟨e, hentries, -⟩
      refine ⟨younger.filter (· != touched) ++ [touched], ?_, ?_⟩
      · have hnewest := (suffix_newest hlast hroom).filter (· != touched)
        have hother : (key != touched) = true := bne_iff_ne.mpr (Ne.symm hsame)
        rw [List.filter_cons, if_pos hother] at hnewest
        rcases hnewest with ⟨front, hfront⟩
        refine ⟨front, ?_⟩
        rw [keys, hentries, List.map_append, keys_dropKey, ← hfront]
        simp
      · intro k hk
        rcases List.mem_append.mp hk with hk | hk
        · have hk := hleft k (List.mem_filter.mp hk).1
          refine mem_othersLeft_cons_iff.mpr ⟨ne_of_mem_othersLeft hk, Or.inr ⟨hk, ?_⟩⟩
          exact clears_of_touched htouch k
        · rw [List.mem_singleton.mp hk]
          exact mem_othersLeft_cons_iff.mpr ⟨hsame, Or.inl htouch⟩
  | none =>
    refine ⟨younger.filter fun k => !u.clears k, ?_, ?_⟩
    · have hfilter := hlast.filter fun k => !u.clears k
      rw [List.filter_cons_of_pos (by simp [hclear]), keys, ← keys_filter] at hfilter
      have hlength := List.length_filter_le (fun k => !u.clears k) younger
      rw [keys, entries_of_untouched htouch]
      exact suffix_newest hfilter (Nat.lt_of_le_of_lt hlength hroom)
    · intro k hk
      rcases List.mem_filter.mp hk with ⟨hk, hstays⟩
      refine mem_othersLeft_cons_iff.mpr ⟨ne_of_mem_othersLeft (hleft k hk), Or.inr ?_⟩
      exact ⟨hleft k hk, Bool.not_eq_true' _ ▸ hstays⟩

/-- Only storing needs room for one key more. -/
theorem length_lt_room {younger : List Text} (hn : 1 ≤ n) (hsize : l.cache.maxSize = n)
    (hwithin : WithinRoom l) (hlast : key :: younger <:+ l.cache.keys)
    (hresize : ∀ maxSize : Int, u = .setMaxSize maxSize → maxSize = n)
    (hset : ∀ k, (u.entry? k).isSome = true → younger.length + 1 < n) :
    younger.length < u.room l.cache := by
  -- the key itself is one of those in the cache
  have hsome : younger.length < l.cache.size := by
    have hlength := hlast.length_le
    rwa [keys, List.length_map] at hlength
  unfold WithinRoom at hwithin
  cases u with
  | set stored value metadata =>
    have hfits := hset stored (by rw [Use.entry?, if_pos rfl]; rfl)
    show younger.length < (l.cache.maxSize - 1).toNat
    omega
  | setMaxSize maxSize =>
    have hmaxSize := hresize maxSize rfl
    show younger.length < maxSize.toNat
    omega
  | get _ | clear _ | clearAll | resetStats | ask _ => exact hsome

/-! ## A whole life -/

/-- A cache whose room does not change, with every key held that was touched recently. -/
structure Retains (n : Nat) (l : Life α μ) : Prop where
  size : l.cache.maxSize = n
  within : WithinRoom l
  order : KeysLast l
  held : ∀ key newer, TouchedBefore l.past key newer → StoresFit n key newer → Held l key newer

/-- Only a change of the room changes it. -/
theorem maxSize_next (hresize : ∀ maxSize : Int, u = .setMaxSize maxSize → maxSize = n)
    (hsize : l.cache.maxSize = n) : (l.next u).cache.maxSize = n := by
  cases u with
  | get key =>
    cases hfind : l.cache.find? key with
    | some e => simpa only [Life.next, step, get_of_find?_eq_some hfind] using hsize
    | none => simpa only [Life.next, step, get_of_find?_eq_none hfind] using hsize
  | setMaxSize maxSize => exact hresize maxSize rfl
  | set _ _ _ | clear _ | clearAll | resetStats | ask _ => exact hsize

/-- A use keeps what was touched recently, in a cache whose room does not change. -/
theorem retains_next (hn : 1 ≤ n) (hresize : ∀ maxSize : Int, u = .setMaxSize maxSize → maxSize = n)
    (h : Retains n l) : Retains n (l.next u) := by
  refine ⟨maxSize_next hresize h.size, withinRoom_next h.within u, keysLast_next h.order u, ?_⟩
  rintro key newer ⟨⟨m, older, hpast, hm⟩, hkept⟩ hfit
  -- nothing happened since the key was touched, or one use more than before
  cases newer with
  | nil =>
    rcases List.cons.inj hpast with ⟨rfl, -⟩
    exact held_of_touched hm
  | cons last newer =>
    rcases List.cons.inj hpast with ⟨rfl, hpast'⟩
    rcases List.forall_mem_cons.mp hkept with ⟨hclear, hkept⟩
    -- before this use the key was held, since its past has one use less
    rcases h.held key newer ⟨⟨m, older, hpast', hm⟩, hkept⟩ hfit.2 with ⟨younger, hlast, hleft⟩
    by_cases htouch : (l.moment u).touched? = some key
    · exact held_of_touched htouch
    · -- the keys behind this one are different others, so there are no more of them
      have hcard : younger.length ≤ (othersLeft key newer).card := by
        have hnodup : younger.Nodup :=
          (List.nodup_cons.mp (h.order.nodup.sublist hlast.sublist)).2
        rw [← List.toFinset_card_of_nodup hnodup]
        apply Finset.card_le_card
        intro k hk
        exact hleft k (List.mem_toFinset.mp hk)
      refine held_next hlast hleft hclear ?_
      refine length_lt_room hn h.size h.within hlast hresize ?_
      intro k hstored
      have hk : k ≠ key := by
        rintro rfl
        exact htouch (Moment.touched?_of_entry? (m := l.moment u) hstored)
      have hfits := hfit.1 k hk hstored
      omega

/-- By induction the cache keeps it throughout a life. -/
theorem retains_of (hn : 1 ≤ n) {uses : List (Use α μ)}
    (hresize : ∀ maxSize : Int, .setMaxSize maxSize ∈ uses → maxSize = n) :
    Retains n (.of n uses) := by
  apply Life.induction
  · refine ⟨rfl, ?_, keysLast_of n [], ?_⟩
    · exact withinRoom_of n []
    · rintro key newer ⟨⟨m, older, hpast, -⟩, -⟩
      exact absurd hpast.symm (by simp)
  · intro l u hu h
    refine retains_next hn ?_ h
    rintro maxSize rfl
    exact hresize maxSize hu

/-- The keys that storing again leaves: in a full cache the oldest one is dropped before. -/
theorem keys_set (c : Cache α μ) (hn : 1 ≤ n) (hsize : c.maxSize = n) (hroom : c.size ≤ n)
    (key : Text) (value : α) (metadata : Option μ) :
    (c.set key value metadata).keys =
      ((if c.size < n then c.keys else c.keys.tail).filter (· != key)) ++ [key] := by
  have hnewest : (newest (c.maxSize - 1).toNat c.entries).map (·.1) =
      if c.size < n then c.keys else c.keys.tail := by
    have hcount : (c.maxSize - 1).toNat = n - 1 := by omega
    rw [hcount]
    by_cases hless : c.size < n
    · rw [if_pos hless, newest_of_length_le (Nat.le_sub_one_of_lt hless)]
      rfl
    · -- the cache is full, so that exactly one entry has to go
      have hone : c.entries.length - (n - 1) = 1 := by
        have hfull : c.entries.length = n := Nat.le_antisymm hroom (Nat.not_lt.mp hless)
        omega
      rw [if_neg hless, newest, hone, List.drop_one, List.map_tail]
      rfl
  rw [keys, Cache.set, List.map_append, keys_dropKey, hnewest]
  rfl

/-- In a cache whose room does not change, a key that was touched is found, with what was stored
last, as long as fewer others were touched since than there is room for, and those of them that
were stored again came with room to spare. Storing a key again drops the oldest key when the cache
is full, and else none. -/
theorem get_of_recently_touched (hn : 1 ≤ n) {uses : List (Use α μ)}
    (hresize : ∀ maxSize : Int, .setMaxSize maxSize ∈ uses → maxSize = n) :
    (∀ key newer, TouchedBefore (Life.of n uses).past key newer → (others key newer).card < n →
      RestoresFit n key newer →
      ∃ e, lastStored (Life.of n uses).past key = some e ∧
        ((Life.of n uses).cache.get key).1 = some e.value) ∧
    ∀ key ∈ (Life.of n uses).cache.keys, ∀ value metadata,
      ((Life.of n uses).cache.set key value metadata).keys =
        ((if (Life.of n uses).cache.size < n then (Life.of n uses).cache.keys
          else (Life.of n uses).cache.keys.tail).filter (· != key)) ++ [key] := by
  have hretains := retains_of hn hresize
  constructor
  · intro key newer htouched hfew hagain
    rcases hretains.held key newer htouched (storesFit_of_restoresFit hfew hagain) with
      ⟨younger, hlast, -⟩
    rcases List.mem_map.mp (hlast.subset List.mem_cons_self) with ⟨⟨k, e⟩, hmem, rfl⟩
    refine ⟨e, entriesStored_of n uses k e hmem, ?_⟩
    rw [get_of_find?_eq_some (find?_of_mem hretains.order.nodup hmem)]
  · intro key _ value metadata
    -- there is room for one key at least, so the bound is the room itself
    have hroom : (Life.of n uses).cache.size ≤ n := by
      have hwithin := hretains.within
      unfold WithinRoom at hwithin
      rw [hretains.size] at hwithin
      omega
    exact keys_set _ hn hretains.size hroom key value metadata

/-- In a cache for three a key is stored again before there are three of them. -/
def roomyOverwrite : List (Use Nat Unit) :=
  [.set [.char 'a'] 1 none, .set [.char 'b'] 2 none, .set [.char 'b'] 3 none,
    .set [.char 'c'] 4 none]

/-- The oldest of three keys is found: `b` was stored again while it was the only other one. -/
theorem get_of_recently_touched_roomyOverwrite :
    (1 ≤ 3 ∧ ∀ maxSize : Int, .setMaxSize maxSize ∈ roomyOverwrite → maxSize = 3) ∧
    (TouchedBefore (Life.of 3 roomyOverwrite).past [.char 'a']
        ((Life.of 3 roomyOverwrite).past.take 3) ∧
      (others [.char 'a'] ((Life.of 3 roomyOverwrite).past.take 3)).card < 3 ∧
      RestoresFit 3 [.char 'a'] ((Life.of 3 roomyOverwrite).past.take 3)) ∧
    (∃ e, lastStored (Life.of 3 roomyOverwrite).past [.char 'a'] = some e ∧
      ((Life.of 3 roomyOverwrite).cache.get [.char 'a']).1 = some e.value) ∧
    ((Life.of 3 roomyOverwrite).cache.set [.char 'b'] 5 none).keys =
      [[.char 'c'], [.char 'b']] := by
  have hresize : ∀ maxSize : Int, .setMaxSize maxSize ∈ roomyOverwrite → maxSize = (3 : Nat) := by
    intro maxSize h
    simp [roomyOverwrite] at h
  have htouched : TouchedBefore (Life.of 3 roomyOverwrite).past [.char 'a']
      ((Life.of 3 roomyOverwrite).past.take 3) := by
    exact ⟨⟨_, [], rfl, rfl⟩, by decide⟩
  have hfew : (others [.char 'a'] ((Life.of 3 roomyOverwrite).past.take 3)).card < 3 := by decide
  -- when `b` is stored again it is the only other key left, so there is room for one more
  have hagain : RestoresFit 3 [.char 'a'] ((Life.of 3 roomyOverwrite).past.take 3) := by
    refine ⟨by decide, by decide, by decide, trivial⟩
  have hget := (get_of_recently_touched (by decide : 1 ≤ 3) hresize).1 _ _ htouched hfew hagain
  have hset :=
    (get_of_recently_touched (by decide : 1 ≤ 3) hresize).2 [.char 'b'] (by decide) 5 none
  exact ⟨⟨by decide, hresize⟩, ⟨htouched, hfew, hagain⟩, hget, hset⟩

/-- A full cache for two in which a key is stored again. -/
def fullOverwrite : List (Use Nat Unit) :=
  [.set [.char 'a'] 1 none, .set [.char 'b'] 2 none, .set [.char 'b'] 3 none]

/-- One other key only was touched since, and `a` is lost: storing `b` again dropped it. -/
theorem overwrite_drops_recent_key :
    (TouchedBefore (Life.of 2 fullOverwrite).past [.char 'a']
        ((Life.of 2 fullOverwrite).past.take 2) ∧
      (others [.char 'a'] ((Life.of 2 fullOverwrite).past.take 2)).card < 2 ∧
      ((Life.of 2 fullOverwrite).cache.get [.char 'a']).1 = none) ∧
    (Life.of 2 (fullOverwrite.take 2)).cache.keys = [[.char 'a'], [.char 'b']] ∧
    ((Life.of 2 (fullOverwrite.take 2)).cache.set [.char 'b'] 3 none).keys = [[.char 'b']] :=
  ⟨⟨⟨⟨_, [], rfl, rfl⟩, by decide⟩, by decide, rfl⟩, rfl, rfl⟩

end Placement.Cache
