import Placement.Proofs.Cache.Recency
import Placement.Proofs.Session.Steps

/-!
# Placement.Proofs.Session.History — where cached results come from

An analysis that is looked up takes one of four ways: its result is cached
(`call_of_cached`), or else the pass is done (`call_of_done`), is broken by a failure
(`call_of_broken`), or is cancelled (`call_of_cancelled`).

In its history a session goes from step to step, and may be given another backend
and other operators in between. What it holds behind a history was there at the
beginning, or was stored by a call whose pass was done (`mem_entries_afterAll`). All
it does with its cache are uses of the cache, so the cache of a session that began
without results has a life, and its keys are different ones (`nodup_keys`).
-/

namespace Placement.Session

variable {s : Session} {c : Call} {key : Text}
  {e : Cache.Entry (List Attribution) PassNote}

/-! ## The ways of a call -/

/-- The answer to a call, and the session behind it. -/
def call (s : Session) (c : Call) : Run (List Attribution) × Session :=
  s.analyze c.document c.sites c.scope c.activeFile

/-- The session behind one more miss. -/
def missed (s : Session) : Session :=
  { s with cache := { s.cache with misses := s.cache.misses + 1 } }

/-- What is kept of the result of a call. -/
def Call.entry (c : Call) (found : List Attribution) : Cache.Entry (List Attribution) PassNote :=
  ⟨found, some ⟨c.document.version, found.length⟩⟩

/-- A call that is not looked up leaves the session as it is. -/
theorem call_of_not_looksUp (h : ¬ s.settings.LooksUp c) : (s.call c).2 = s :=
  analyze_of_not_looksUp h

/-- A call whose result is cached is answered with it, and its key becomes the newest. -/
theorem call_of_cached (h : s.settings.LooksUp c) (hfind : s.cache.find? c.key = some e) :
    s.call c =
      (pure e.value,
        { s with
          cache := { s.cache with
            entries := Cache.dropKey c.key s.cache.entries ++ [(c.key, e)]
            hits := s.cache.hits + 1 } }) := by
  have hget := Cache.get_of_find?_eq_some hfind
  unfold call
  rw [analyze_of_hit h (congrArg Prod.fst hget), hget]

/-- A call whose result is not cached misses, and makes a pass. -/
theorem call_of_uncached (h : s.settings.LooksUp c) (hfind : s.cache.find? c.key = none) :
    s.call c = s.missed.finish c.document c.key (s.pass c.document c.sites) := by
  have hget := Cache.get_of_find?_eq_none hfind
  unfold call
  rw [analyze_of_miss h (congrArg Prod.fst hget), hget]
  rfl

/-- The result of a pass becomes the newest one, behind the newest others that there is room
for. -/
theorem call_of_done {found : List Attribution} (h : s.settings.LooksUp c)
    (hfind : s.cache.find? c.key = none)
    (hrun : (s.pass c.document c.sites).outcome = .ok found) :
    s.call c =
      (s.pass c.document c.sites,
        { s with
          cache := { s.cache with
            entries := Cache.newest (s.cache.maxSize - 1).toNat s.cache.entries ++
              [(c.key, c.entry found)]
            misses := s.cache.misses + 1 } }) := by
  -- there is no entry under the key that the new one could replace
  have hdrop : Cache.dropKey c.key (Cache.newest (s.cache.maxSize - 1).toNat s.cache.entries) =
      Cache.newest (s.cache.maxSize - 1).toNat s.cache.entries := by
    apply List.filter_eq_self.mpr
    intro x hx
    exact bne_comm.trans (List.lookup_eq_none_iff.mp hfind x (Cache.mem_of_mem_newest hx))
  rw [call_of_uncached h hfind]
  unfold finish
  rw [hrun]
  show (s.pass c.document c.sites, s.missed.store c.document c.key found) = _
  unfold store Cache.set
  have hcache : s.missed.cache.entries = s.cache.entries := rfl
  have hroom : s.missed.cache.maxSize = s.cache.maxSize := rfl
  rw [hcache, hroom, hdrop]
  rfl

/-- A pass that fails leaves no result. -/
theorem call_of_broken {stop : Interruption} (h : s.settings.LooksUp c)
    (hfind : s.cache.find? c.key = none)
    (hrun : (s.pass c.document c.sites).outcome = .error stop) (hstop : stop ≠ .cancelled) :
    ∃ notices, s.call c = (⟨(s.pass c.document c.sites).requests, notices, .ok []⟩, s.missed) := by
  rw [call_of_uncached h hfind]
  unfold finish
  rw [hrun]
  cases stop with
  | cancelled => exact absurd rfl hstop
  | line _ | writing _ => exact ⟨_, rfl⟩

/-- A cancelled pass leaves no result, and the call is cancelled. -/
theorem call_of_cancelled (h : s.settings.LooksUp c)
    (hfind : s.cache.find? c.key = none)
    (hrun : (s.pass c.document c.sites).outcome = .error .cancelled) :
    s.call c = (s.pass c.document c.sites, s.missed) := by
  rw [call_of_uncached h hfind]
  unfold finish
  rw [hrun]

/-- A pass that is not done leaves nothing but one more miss. -/
theorem call_of_error {stop : Interruption} (h : s.settings.LooksUp c)
    (hfind : s.cache.find? c.key = none)
    (hrun : (s.pass c.document c.sites).outcome = .error stop) : (s.call c).2 = s.missed := by
  by_cases hstop : stop = .cancelled
  · rw [call_of_cancelled h hfind (hstop ▸ hrun)]
  · rcases call_of_broken h hfind hrun hstop with ⟨notices, hcall⟩
    rw [hcall]

/-! ## Histories -/

/-- What happens to a session: a step, or a change of what it works with. -/
inductive Event where
  | step (x : Step)
  | setBackend (backend : Backend)
  | setOperators (operators : Operators)

/-- The session behind an event. -/
def after (s : Session) : Event → Session
  | .step x => (s.step x).2
  | .setBackend backend => { s with backend }
  | .setOperators operators => { s with operators }

/-- The session behind some events. -/
def afterAll (s : Session) (events : List Event) : Session := events.foldl after s

theorem afterAll_cons (s : Session) (x : Event) (events : List Event) :
    s.afterAll (x :: events) = (s.after x).afterAll events := rfl

/-- A call leaves the settings. -/
theorem settings_call (s : Session) (c : Call) : (s.call c).2.settings = s.settings := by
  by_cases h : s.settings.LooksUp c
  · rw [call, analyze_of_looksUp h]
    cases (s.cache.get c.key).1 with
    | some found => rfl
    | none =>
      simp only [finish]
      split <;> rfl
  · rw [call_of_not_looksUp h]

/-- An event leaves the settings. -/
theorem settings_after (s : Session) (x : Event) : (s.after x).settings = s.settings := by
  cases x with
  | step x =>
    cases x with
    | analyze c => exact settings_call s c
    | invalidate _ | invalidateAll | stats | keys | metadata _ | classify _ _ => rfl
  | setBackend _ | setOperators _ => rfl

/-- The settings of a session are those that it began with. -/
theorem settings_afterAll (s : Session) (events : List Event) :
    (s.afterAll events).settings = s.settings := by
  induction events generalizing s with
  | nil => rfl
  | cons x more ih => rw [afterAll_cons, ih, settings_after]

/-! ## Where entries come from -/

/-- The call makes a pass that is done, and the entry keeps its result. -/
structure Stores (s : Session) (c : Call) (e : Cache.Entry (List Attribution) PassNote) : Prop where
  looksUp : s.settings.LooksUp c
  misses : s.cache.find? c.key = none
  passes : (s.pass c.document c.sites).outcome = .ok e.value
  keeps : e = c.entry e.value

/-- The entry was stored by a call on the way through the events. -/
def StoredBy (s : Session) (events : List Event) (c : Call)
    (e : Cache.Entry (List Attribution) PassNote) : Prop :=
  ∃ before later, events = before ++ .step (.analyze c) :: later ∧ (s.afterAll before).Stores c e

/-- An entry stored by later events is stored with one more event in front of them. -/
theorem storedBy_cons {x : Event} {events : List Event} (h : (s.after x).StoredBy events c e) :
    s.StoredBy (x :: events) c e := by
  rcases h with ⟨before, later, hevents, hstores⟩
  exact ⟨x :: before, later, by rw [hevents]; rfl, hstores⟩

/-- A call that stored an entry is one of the events. -/
theorem StoredBy.mem {events : List Event} (h : s.StoredBy events c e) :
    .step (.analyze c) ∈ events := by
  rcases h with ⟨before, later, rfl, -⟩
  exact List.mem_append_right before List.mem_cons_self

/-- A call that stored an entry was looked up. -/
theorem StoredBy.looksUp {events : List Event} (h : s.StoredBy events c e) :
    s.settings.LooksUp c := by
  rcases h with ⟨before, later, -, hstores⟩
  rw [← settings_afterAll s before]
  exact hstores.looksUp

/-- What a call leaves in the cache was there, or it stored it. -/
theorem mem_entries_call (h : (key, e) ∈ (s.call c).2.cache.entries) :
    (key, e) ∈ s.cache.entries ∨ c.key = key ∧ s.Stores c e := by
  -- only a pass that is done adds an entry
  by_cases hlooks : s.settings.LooksUp c
  · cases hfind : s.cache.find? c.key with
    | some cached =>
      rw [call_of_cached hlooks hfind] at h
      rcases List.mem_append.mp h with hold | hnew
      · exact Or.inl (Cache.mem_of_mem_dropKey hold)
      · cases List.mem_singleton.mp hnew
        exact Or.inl (Cache.mem_entries_of_find? hfind)
    | none =>
      cases hrun : (s.pass c.document c.sites).outcome with
      | ok found =>
        rw [call_of_done hlooks hfind hrun] at h
        rcases List.mem_append.mp h with hold | hnew
        · exact Or.inl (Cache.mem_of_mem_newest hold)
        · cases List.mem_singleton.mp hnew
          exact Or.inr ⟨rfl, hlooks, hfind, hrun, rfl⟩
      | error stop =>
        rw [call_of_error hlooks hfind hrun] at h
        exact Or.inl h
  · rw [call_of_not_looksUp hlooks] at h
    exact Or.inl h

/-- What an event leaves in the cache was there, or the event is a call that stored it. -/
theorem mem_entries_after {x : Event} (h : (key, e) ∈ (s.after x).cache.entries) :
    (key, e) ∈ s.cache.entries ∨ ∃ c, x = .step (.analyze c) ∧ c.key = key ∧ s.Stores c e := by
  cases x with
  | step x =>
    cases x with
    | analyze c =>
      rcases mem_entries_call h with hold | ⟨hkey, hstores⟩
      · exact Or.inl hold
      · exact Or.inr ⟨c, rfl, hkey, hstores⟩
    | invalidate uri =>
      -- clearing leaves some of the entries that were there
      rw [after, step, invalidate] at h
      simp only [Cache.foldl_clear_eq] at h
      exact Or.inl (List.mem_filter.mp h).1
    | invalidateAll => exact absurd h List.not_mem_nil
    | stats | keys | metadata _ | classify _ _ => exact Or.inl h
  | setBackend _ | setOperators _ => exact Or.inl h

/-- What a session holds behind some events was there before, or was stored by a call on the way. -/
theorem mem_entries_afterAll {events : List Event}
    (h : (key, e) ∈ (s.afterAll events).cache.entries) :
    (key, e) ∈ s.cache.entries ∨ ∃ c, c.key = key ∧ s.StoredBy events c e := by
  induction events generalizing s with
  | nil => exact Or.inl h
  | cons x more ih =>
    -- an entry that no later event stored was there behind the first one
    rcases ih h with hbehind | ⟨c, hkey, hstored⟩
    · -- if the first event did not store it either, it was there before
      rcases mem_entries_after hbehind with hold | ⟨c, rfl, hkey, hstores⟩
      · exact Or.inl hold
      · exact Or.inr ⟨c, hkey, [], more, rfl, hstores⟩
    · exact Or.inr ⟨c, hkey, storedBy_cons hstored⟩

/-! ## The life of the cache -/

/-- A call looks its key up, and may store a result under it. -/
theorem exists_uses_call (s : Session) (c : Call) :
    ∃ uses, (s.call c).2.cache = s.cache.behind uses := by
  -- a call uses the cache at most twice: one lookup, and one store if the pass ended well
  by_cases h : s.settings.LooksUp c
  · rw [call, analyze_of_looksUp h]
    cases (s.cache.get c.key).1 with
    | some found => exact ⟨[.get c.key], rfl⟩
    | none =>
      simp only [finish]
      split
      · rename_i found hrun
        exact ⟨[.get c.key, .set c.key found (c.entry found).metadata], rfl⟩
      · exact ⟨[.get c.key], rfl⟩
      · exact ⟨[.get c.key], rfl⟩
  · rw [call_of_not_looksUp h]
    exact ⟨[], rfl⟩

/-- An event does with the cache what can be done with any. -/
theorem exists_uses_after (s : Session) (x : Event) :
    ∃ uses, (s.after x).cache = s.cache.behind uses := by
  cases x with
  | step x =>
    cases x with
    | analyze c => exact exists_uses_call s c
    | invalidate uri =>
      -- the keys of the document are cleared one by one
      refine ⟨(s.cache.keys.filter (Text.startsWith (CacheKey.documentLead uri))).map .clear, ?_⟩
      rw [Cache.behind, List.foldl_map]
      rfl
    | invalidateAll => exact ⟨[.clearAll], rfl⟩
    | stats | keys | metadata _ | classify _ _ => exact ⟨[], rfl⟩
  | setBackend _ | setOperators _ => exact ⟨[], rfl⟩

/-- Some events do with the cache what can be done with any. -/
theorem exists_uses_afterAll (s : Session) (events : List Event) :
    ∃ uses, (s.afterAll events).cache = s.cache.behind uses := by
  induction events generalizing s with
  | nil => exact ⟨[], rfl⟩
  | cons x more ih =>
    rcases exists_uses_after s x with ⟨first, hfirst⟩
    rcases ih (s.after x) with ⟨rest, hrest⟩
    exact ⟨first ++ rest, by rw [afterAll_cons, hrest, hfirst, Cache.behind_append]⟩

/-- The cache of a session that began without results has a life. -/
theorem exists_life (backend : Backend) (settings : AnalysisSettings) (operators : Operators)
    (events : List Event) :
    ∃ uses, ((start backend settings operators).afterAll events).cache =
      (Cache.Life.of settings.cacheSize uses).cache := by
  rcases exists_uses_afterAll (start backend settings operators) events with ⟨uses, huses⟩
  exact ⟨uses, huses.trans (Cache.Life.cache_foldl_next ⟨.empty settings.cacheSize, []⟩ uses).symm⟩

/-- Behind every history the keys of a session are different ones. -/
theorem nodup_keys (backend : Backend) (settings : AnalysisSettings) (operators : Operators)
    (events : List Event) :
    ((start backend settings operators).afterAll events).cache.keys.Nodup := by
  rcases exists_life backend settings operators events with ⟨uses, huses⟩
  rw [huses]
  exact (Cache.keysLast_of settings.cacheSize uses).nodup

end Placement.Session
