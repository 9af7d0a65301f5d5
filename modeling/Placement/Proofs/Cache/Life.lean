import Placement.Proofs.Cache.Holds

/-!
# Placement.Proofs.Cache.Life — the life of a cache

A cache is used in steps: entries are asked for, stored and removed, the room for
them is changed, and some things can be asked without changing any. A `Life` is a
cache with its past, the uses and their answers, the latest first. What the past
says about a key is defined by looking back in it:

* `Moment.touched?` — the key that a use stored or found, if it did;
* `live` — whether a key was stored since it was last removed;
* `lastStored` — what was stored under a key last;
* `age` — how long ago a key was touched;
* `gets` — how often an entry was asked for since the counts were set to zero.

`behind` is the cache behind some uses, which does not depend on the past.
`entries_of_touched` and `entries_of_untouched` say what a use does to the entries;
`Life.induction` is the rule for what holds throughout a life.
-/

namespace Placement.Cache

variable {α μ : Type}

/-! ## Uses -/

/-- What can be asked without changing anything. -/
inductive Question where
  | has (key : Text)
  | metadata (key : Text)
  | keys
  | size
  | maxSize
  | stats
deriving DecidableEq, Repr

/-- A use of a cache. -/
inductive Use (α μ : Type) where
  | get (key : Text)
  | set (key : Text) (value : α) (metadata : Option μ)
  | clear (key : Text)
  | clearAll
  | setMaxSize (maxSize : Int)
  | resetStats
  | ask (question : Question)

/-- The answer of a use. -/
inductive Answer (α μ : Type) where
  | value (found : Option α)
  | done
  | has (present : Bool)
  | metadata (note : Option μ)
  | keys (keys : List Text)
  | size (size : Nat)
  | maxSize (maxSize : Int)
  | stats (size hits misses : Nat) (hitRate : Double) (maxSize : Int)

/-- The answer of a cache to a question. -/
def answer (c : Cache α μ) : Question → Answer α μ
  | .has key => .has (c.has key)
  | .metadata key => .metadata ((c.find? key).bind (·.metadata))
  | .keys => .keys c.keys
  | .size => .size c.size
  | .maxSize => .maxSize c.maxSize
  | .stats => .stats c.size c.hits c.misses c.hitRate c.maxSize

/-- One use of a cache. -/
def step (c : Cache α μ) : Use α μ → Answer α μ × Cache α μ
  | .get key => (.value (c.get key).1, (c.get key).2)
  | .set key value metadata => (.done, c.set key value metadata)
  | .clear key => (.done, c.clear key)
  | .clearAll => (.done, c.clearAll)
  | .setMaxSize maxSize => (.done, c.setMaxSize maxSize)
  | .resetStats => (.done, c.resetStats)
  | .ask question => (c.answer question, c)

/-- The cache behind some uses. -/
def behind (c : Cache α μ) (uses : List (Use α μ)) : Cache α μ :=
  uses.foldl (fun c u => (c.step u).2) c

theorem behind_append (c : Cache α μ) (uses more : List (Use α μ)) :
    c.behind (uses ++ more) = (c.behind uses).behind more :=
  List.foldl_append

namespace Use

/-- The entry that a use stores under a key. -/
def entry? (key : Text) : Use α μ → Option (Entry α μ)
  | .set stored value metadata => if stored = key then some ⟨value, metadata⟩ else none
  | _ => none

/-- Whether a use removes the entry under a key. -/
def clears (key : Text) : Use α μ → Bool
  | .clear removed => removed == key
  | .clearAll => true
  | _ => false

/-- How many of the entries that are there a use leaves room for. -/
def room (c : Cache α μ) : Use α μ → Nat
  | .set _ _ _ => (c.maxSize - 1).toNat
  | .setMaxSize maxSize => maxSize.toNat
  | _ => c.size

/-- Whether a use asks for an entry. -/
def isGet : Use α μ → Bool
  | .get _ => true
  | _ => false

/-- Whether a use sets the counts to zero. -/
def resets : Use α μ → Bool
  | .clearAll | .resetStats => true
  | _ => false

end Use

/-! ## The past -/

/-- A use and its answer. -/
structure Moment (α μ : Type) where
  use : Use α μ
  answer : Answer α μ

/-- The key that a use touched: stored, or asked for and found. -/
def Moment.touched? (m : Moment α μ) : Option Text :=
  match m.use, m.answer with
  | .set key _ _, _ => some key
  | .get key, .value (some _) => some key
  | _, _ => none

/-- Whether a key was stored since it was last removed. -/
def live (past : List (Moment α μ)) (key : Text) : Bool :=
  (past.takeWhile fun m => !m.use.clears key).any fun m => (m.use.entry? key).isSome

/-- What was stored under a key last. -/
def lastStored (past : List (Moment α μ)) (key : Text) : Option (Entry α μ) :=
  past.findSome? fun m => m.use.entry? key

/-- The number of uses since a key was last touched. -/
def age (past : List (Moment α μ)) (key : Text) : Nat :=
  past.findIdx fun m => m.touched? == some key

/-- How often an entry was asked for since the counts were last set to zero. -/
def gets (past : List (Moment α μ)) : Nat :=
  (past.takeWhile fun m => !m.use.resets).countP fun m => m.use.isGet

/-- A cache and what happened to it, the latest first. -/
structure Life (α μ : Type) where
  cache : Cache α μ
  past : List (Moment α μ)

namespace Life

/-- A use of the cache with its answer. -/
def moment (l : Life α μ) (u : Use α μ) : Moment α μ := ⟨u, (l.cache.step u).1⟩

/-- The life behind one more use. -/
def next (l : Life α μ) (u : Use α μ) : Life α μ := ⟨(l.cache.step u).2, l.moment u :: l.past⟩

/-- The cache of a life does not depend on the past. -/
theorem cache_foldl_next (l : Life α μ) (uses : List (Use α μ)) :
    (uses.foldl next l).cache = l.cache.behind uses := by
  induction uses generalizing l with
  | nil => rfl
  | cons u more ih => exact ih (l.next u)

/-- The life of a new cache behind some uses. -/
def of (maxSize : Int) (uses : List (Use α μ)) : Life α μ := uses.foldl next ⟨.empty maxSize, []⟩

/-- What holds of a new cache and is kept by every use holds throughout a life. -/
theorem induction {P : Life α μ → Prop} {maxSize : Int} {uses : List (Use α μ)}
    (hnew : P ⟨.empty maxSize, []⟩) (hnext : ∀ l, ∀ u ∈ uses, P l → P (l.next u)) :
    P (of maxSize uses) := by
  -- by induction on the uses, over all lives in front of them
  have hall : ∀ l, P l → P (uses.foldl next l) := by
    induction uses with
    | nil => exact fun l hl => hl
    | cons u more ih =>
      intro l hl
      have hmore : ∀ l, ∀ v ∈ more, P l → P (l.next v) := fun l v hv =>
        hnext l v (List.mem_cons_of_mem u hv)
      exact ih hmore (l.next u) (hnext l u List.mem_cons_self hl)
  exact hall _ hnew

end Life

/-! ## What a use does to the entries -/

section Entries

variable {l : Life α μ} {u : Use α μ} {key : Text}

/-- A use that touches a key removes none. -/
theorem clears_of_touched (h : (l.moment u).touched? = some key) (k : Text) :
    u.clears k = false := by
  cases u <;> first | rfl | cases h

/-- Storing touches the key. -/
theorem Moment.touched?_of_entry? {m : Moment α μ} (h : (m.use.entry? key).isSome = true) :
    m.touched? = some key := by
  rcases m with ⟨u, answer⟩
  cases u with
  | set stored value metadata =>
    by_cases hstored : stored = key
    · exact congrArg some hstored
    · simp [Use.entry?, hstored] at h
  | get _ | clear _ | clearAll | setMaxSize _ | resetStats | ask _ => cases h

/-- A use that touches no key stores nothing. -/
theorem entry?_of_untouched (h : (l.moment u).touched? = none) (k : Text) : u.entry? k = none := by
  rw [← Option.not_isSome_iff_eq_none]
  intro hstored
  have htouch : (l.moment u).touched? = some k := Moment.touched?_of_entry? hstored
  exact Option.some_ne_none k (htouch.symm.trans h)

/-- What a use stores lies under the key that it touches. -/
theorem entry?_of_touched_ne (h : (l.moment u).touched? = some key) {k : Text} (hk : k ≠ key) :
    u.entry? k = none := by
  rw [← Option.not_isSome_iff_eq_none]
  intro hstored
  have htouch : (l.moment u).touched? = some k := Moment.touched?_of_entry? hstored
  exact hk (Option.some.inj (htouch.symm.trans h))

/-- Asking for an entry and finding it makes it the newest one. -/
theorem get_of_find?_eq_some {c : Cache α μ} {e : Entry α μ} (h : c.find? key = some e) :
    c.get key =
      (some e.value,
        { c with entries := dropKey key c.entries ++ [(key, e)], hits := c.hits + 1 }) := by
  unfold get
  rw [h]

/-- Asking for an entry that is not there only counts the miss. -/
theorem get_of_find?_eq_none {c : Cache α μ} (h : c.find? key = none) :
    c.get key = (none, { c with misses := c.misses + 1 }) := by
  unfold get
  rw [h]

/-- Asking touches a key when something is found under it. -/
theorem touched?_get (l : Life α μ) (key : Text) :
    (l.moment (.get key)).touched? = (l.cache.find? key).map fun _ => key := by
  cases hfind : l.cache.find? key with
  | some e => simp only [Life.moment, step, get_of_find?_eq_some hfind]; rfl
  | none => simp only [Life.moment, step, get_of_find?_eq_none hfind]; rfl

theorem newest_suffix (count : Nat) (entries : List (Text × Entry α μ)) :
    newest count entries <:+ entries :=
  List.drop_suffix _ entries

/-- Where there is room for all entries, all of them stay. -/
theorem newest_of_length_le {count : Nat} {entries : List (Text × Entry α μ)}
    (h : entries.length ≤ count) : newest count entries = entries := by
  rw [newest, Nat.sub_eq_zero_of_le h, List.drop_zero]

/-- A use that touches a key leaves its entry as the newest one, behind the newest others that it
has room for. -/
theorem entries_of_touched (h : (l.moment u).touched? = some key) :
    ∃ e, (l.next u).cache.entries =
        dropKey key (newest (u.room l.cache) l.cache.entries) ++ [(key, e)] ∧
      (u.entry? key = some e ∨ u.entry? key = none ∧ (key, e) ∈ l.cache.entries) := by
  -- only asking for what is there and storing touch a key
  cases u with
  | get asked =>
    rw [touched?_get, Option.map_eq_some_iff] at h
    rcases h with ⟨e, hfind, rfl⟩
    refine ⟨e, ?_, Or.inr ⟨rfl, mem_entries_of_find? hfind⟩⟩
    have hall : newest (Use.room l.cache (.get asked)) l.cache.entries = l.cache.entries :=
      newest_of_length_le (Nat.le_refl _)
    rw [hall]
    simp only [Life.next, step, get_of_find?_eq_some hfind]
  | set stored value metadata =>
    have hstored : stored = key := Option.some.inj h
    subst hstored
    exact ⟨⟨value, metadata⟩, rfl, Or.inl (if_pos rfl)⟩
  | clear _ | clearAll | setMaxSize _ | resetStats | ask _ => cases h

/-- A use that touches no key leaves, of the entries that it does not remove, the newest ones that
it has room for. -/
theorem entries_of_untouched (h : (l.moment u).touched? = none) :
    (l.next u).cache.entries =
      newest (u.room l.cache) (l.cache.entries.filter fun e => !u.clears e.1) := by
  -- all uses but a change of the room have room for what was there
  have hroom : ∀ keep : Text × Entry α μ → Bool,
      newest l.cache.size (l.cache.entries.filter keep) = l.cache.entries.filter keep :=
    fun keep => newest_of_length_le (List.length_filter_le keep _)
  have hsame : (l.cache.entries.filter fun _ => true) = l.cache.entries :=
    List.filter_eq_self.mpr fun _ _ => rfl
  have hkeep : newest l.cache.size (l.cache.entries.filter fun _ => true) = l.cache.entries := by
    rw [hroom, hsame]
  cases u with
  | get asked =>
    rw [touched?_get, Option.map_eq_none_iff] at h
    -- nothing was found, or the key would have been touched
    simp only [Life.next, step, get_of_find?_eq_none h]
    exact hkeep.symm
  | set _ _ _ => cases h
  | clear removed =>
    show dropKey removed l.cache.entries = newest l.cache.size _
    rw [hroom]
    unfold dropKey
    congr 1
    funext e
    exact congrArg Bool.not (Bool.beq_comm ..)
  | clearAll =>
    have hnone : (l.cache.entries.filter fun _ => !true) = [] :=
      List.filter_eq_nil_iff.mpr fun _ _ => Bool.false_ne_true
    exact ((hroom _).trans hnone).symm
  | setMaxSize maxSize => exact congrArg (newest maxSize.toNat) hsame.symm
  | resetStats => exact hkeep.symm
  | ask _ => exact hkeep.symm

end Entries

end Placement.Cache
