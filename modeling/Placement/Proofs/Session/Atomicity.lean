import Placement.Proofs.Chain.Pass
import Placement.Proofs.Session.History
import Placement.Proofs.Session.Transparency

/-!
# Placement.Proofs.Session.Atomicity — a pass is kept as a whole or not at all

Each way of a call has its `Effects`: what the call asks the backend, what it answers
and what it leaves of the session. A call that is refused, or whose key cannot be
written, leaves all as it was, a cached result is only moved to the end, and a pass that
is not done leaves nothing but one more miss, so that the same call makes its pass
again. A pass that fails has met a broken line of its document, in its sites or in its
search for structs (`pass_faultsOnly`). Every session that began without results and has
gone through a history has these effects (`effects_of_history`).
-/

namespace Placement.Session

variable {s : Session} {c : Call}

/-! ## What breaks a pass -/

/-- The search for a struct is broken by one of the lines that it reads. -/
theorem exists_of_find_eq_error {broken : List Int} {name : Text} {fault : LineFault}
    {number : Nat} {lines : List Text}
    (h : Declaration.find broken name number lines = .error fault) :
    ∃ line : Nat, number ≤ line ∧ line < number + lines.length ∧ (line : Int) ∈ broken ∧
      fault = .unavailable line := by
  induction lines generalizing number with
  | nil => cases h
  | cons text more ih =>
    rw [Declaration.find] at h
    by_cases hb : (number : Int) ∈ broken
    · rw [if_pos hb] at h
      cases h
      exact ⟨number, Nat.le_refl _, by simp, hb, rfl⟩
    · rw [if_neg hb] at h
      cases hstart : Declaration.startIn? name text with
      | some start =>
        rw [hstart] at h
        cases h
      | none =>
        -- the search goes on with the lines behind
        rw [hstart] at h
        rcases ih h with ⟨line, hlow, hhigh, hline, hfault⟩
        rw [List.length_cons]
        exact ⟨line, by omega, by omega, hline, hfault⟩

/-- The search for the structs of some labels is broken by a line of the document. -/
theorem hasFault_of_ofLabels {d : Document} {labels : List (Text × Location)} {fault : LineFault}
    (h : Declaration.ofLabels d labels = .error fault) : d.HasFault fault := by
  -- the labels are looked for one after another; the first broken line that is met stops them all
  induction labels with
  | nil => cases h
  | cons entry more ih =>
    rw [Declaration.ofLabels] at h
    cases hfind : Declaration.find d.broken entry.1 0 d.lines with
    | error stop =>
      rw [hfind] at h
      cases h
      -- a search breaks only at a line of the document that cannot be read
      rcases exists_of_find_eq_error hfind with ⟨line, -, hline, hbroken, hfault⟩
      refine ⟨line, ⟨Int.natCast_nonneg line, ?_⟩, hbroken, hfault⟩
      rw [Document.lineCount]
      omega
    | ok found =>
      rw [hfind] at h
      cases hrest : Declaration.ofLabels d more with
      | error stop =>
        rw [hrest] at h
        cases h
        exact ih hrest
      | ok rest =>
        rw [hrest] at h
        cases h

/-- A pass is broken by no other faults than those of broken lines of the document. -/
theorem pass_faultsOnly (s : Session) (d : Document) (sites : List Site) :
    (s.pass d sites).FaultsOnly d.HasFault := by
  refine .bind (Chain.trackFrom_faultsOnly s.operators none (Chain.inSourceOrder sites))
    fun found _ => ?_
  exact .bind (Run.faultsOnly_ofLine fun _ => hasFault_of_ofLabels) fun structs _ =>
    Run.faultsOnly_of_ok rfl

/-! ## What a call does -/

/-- What a call asks, answers and leaves. -/
structure Effects (s : Session) (c : Call) : Prop where
  /-- A document that does not go past the gates is answered with nothing. -/
  refused : ¬ s.settings.Admits c.document →
    (s.call c).1.requests = [] ∧ (s.call c).1.outcome = .ok [] ∧ (s.call c).2 = s
  /-- Behind the gates a call fails when its key cannot be written, which is when the version of
  the document has too many digits. Nothing is asked, looked up or counted. -/
  unwritten : s.settings.Admits c.document →
    10 ^ Text.digitLimit ≤ c.document.version.natAbs →
    (s.call c).1.requests = [] ∧ (s.call c).1.outcome = .error (.writing .longInteger) ∧
      (s.call c).2 = s
  /-- All other calls are looked up. -/
  lookedUp : s.settings.Admits c.document →
    c.document.version.natAbs < 10 ^ Text.digitLimit → s.settings.LooksUp c
  /-- A cached result is the answer, and its key becomes the newest. -/
  cached : ∀ front e back, s.settings.LooksUp c →
    s.cache.entries = front ++ (c.key, e) :: back →
    (s.call c).1.requests = [] ∧ (s.call c).1.outcome = .ok e.value ∧
      (s.call c).2 =
        { s with
          cache := { s.cache with
            entries := front ++ back ++ [(c.key, e)]
            hits := s.cache.hits + 1 } }
  /-- A pass that fails has met a line which cannot be read, and is answered with nothing. -/
  broken : ∀ stop, s.settings.LooksUp c → c.key ∉ s.cache.keys →
    (s.pass c.document c.sites).outcome = .error stop → stop ≠ .cancelled →
    (∃ fault, stop = .line fault ∧ c.document.HasFault fault) ∧
      (s.call c).1.requests = (s.pass c.document c.sites).requests ∧
      (s.call c).1.outcome = .ok [] ∧ (s.call c).2 = s.missed
  /-- A pass that is cancelled cancels the call. -/
  cancelled : s.settings.LooksUp c → c.key ∉ s.cache.keys →
    (s.pass c.document c.sites).outcome = .error .cancelled →
    (s.call c).1.requests = (s.pass c.document c.sites).requests ∧
      (s.call c).1.outcome = .error .cancelled ∧ (s.call c).2 = s.missed
  /-- The result of a pass that is done becomes the newest one. -/
  done : ∀ found, s.settings.LooksUp c → c.key ∉ s.cache.keys →
    (s.pass c.document c.sites).outcome = .ok found →
    (s.call c).1.requests = (s.pass c.document c.sites).requests ∧
      (s.call c).1.outcome = .ok found ∧
      (s.call c).2 =
        { s with
          cache := { s.cache with
            entries := Cache.newest (s.cache.maxSize - 1).toNat s.cache.entries ++
              [(c.key, ⟨found, some ⟨c.document.version, found.length⟩⟩)]
            misses := s.cache.misses + 1 } }
  /-- Behind a pass that is not done the same call makes its pass again, as long as no call in
  between has stored a result under its key. -/
  again : ∀ stop later, s.settings.LooksUp c → c.key ∉ s.cache.keys →
    (s.pass c.document c.sites).outcome = .error stop →
    (∀ c' e, (s.call c).2.StoredBy later c' e → c'.key ≠ c.key) →
    let behind := (s.call c).2.afterAll later
    (behind.call c).1.requests = (behind.pass c.document c.sites).requests ∧
      (behind.call c).2.cache.hits = behind.cache.hits ∧
      (behind.call c).2.cache.misses = behind.cache.misses + 1

/-- A call whose result is not cached makes its pass, and counts one miss. -/
theorem call_of_not_mem_keys (h : s.settings.LooksUp c) (hkey : c.key ∉ s.cache.keys) :
    (s.call c).1.requests = (s.pass c.document c.sites).requests ∧
      (s.call c).2.cache.hits = s.cache.hits ∧
      (s.call c).2.cache.misses = s.cache.misses + 1 := by
  rw [call_of_uncached h (Cache.find?_eq_none_iff.mpr hkey)]
  unfold finish
  split <;> exact ⟨rfl, rfl, rfl⟩

/-- A key that is not cached, and under which no call on the way stores a result, is not cached. -/
theorem not_mem_keys_afterAll {key : Text} {events : List Event} (hkey : key ∉ s.cache.keys)
    (hnone : ∀ c e, s.StoredBy events c e → c.key ≠ key) :
    key ∉ (s.afterAll events).cache.keys := by
  intro hmem
  rcases List.mem_map.mp hmem with ⟨⟨k, e⟩, hentry, rfl⟩
  rcases mem_entries_afterAll hentry with hold | ⟨c, hsame, hstored⟩
  · exact hkey (List.mem_map_of_mem hold)
  · exact hnone c e hstored hsame

/-- A call has its effects on every session whose keys are different ones. -/
theorem effects_of_nodup (hkeys : s.cache.keys.Nodup) (c : Call) : Effects s c where
  refused := by
    intro h
    rcases analyze_of_not_admits h with ⟨notices, hskip⟩
    rw [call, hskip]
    exact ⟨rfl, rfl, rfl⟩
  unwritten := by
    intro h hlong
    rw [call, analyze_of_not_hasKey h fun hkey => Nat.not_lt.mpr hlong (hasKey_iff.mp hkey)]
    exact ⟨rfl, rfl, rfl⟩
  lookedUp := fun h hshort => ⟨h, hasKey_iff.mpr hshort⟩
  cached := by
    intro front e back h hentries
    have hmem : (c.key, e) ∈ s.cache.entries := by
      rw [hentries]
      exact List.mem_append_right front List.mem_cons_self
    rw [Cache.keys, hentries] at hkeys
    have hfind : s.cache.find? c.key = some e := by
      refine Cache.find?_of_mem ?_ hmem
      rw [Cache.keys, hentries]
      exact hkeys
    rw [call_of_cached h hfind, hentries, Cache.dropKey_append_cons hkeys]
    exact ⟨rfl, rfl, rfl⟩
  broken := by
    intro stop h hkey hrun hstop
    rcases call_of_broken h (Cache.find?_eq_none_iff.mpr hkey) hrun hstop with ⟨notices, hcall⟩
    rw [hcall]
    have hfault := (pass_faultsOnly s c.document c.sites stop hrun).resolve_left hstop
    exact ⟨hfault, rfl, rfl, rfl⟩
  cancelled := by
    intro h hkey hrun
    rw [call_of_cancelled h (Cache.find?_eq_none_iff.mpr hkey) hrun]
    exact ⟨rfl, hrun, rfl⟩
  done := by
    intro found h hkey hrun
    rw [call_of_done h (Cache.find?_eq_none_iff.mpr hkey) hrun]
    exact ⟨rfl, hrun, rfl⟩
  again := by
    intro stop later h hkey hrun hnone
    -- the failed pass has stored nothing, and no call since then has
    have hleft := call_of_error h (Cache.find?_eq_none_iff.mpr hkey) hrun
    have hkeyLeft : c.key ∉ (s.call c).2.cache.keys := by
      rw [hleft]
      exact hkey
    have hlooks : ((s.call c).2.afterAll later).settings.LooksUp c := by
      rw [settings_afterAll, settings_call]
      exact h
    exact call_of_not_mem_keys hlooks (not_mem_keys_afterAll hkeyLeft hnone)

/-- Behind every history, a call is refused or has no key and changes nothing, or is answered from
the cache, where only its key becomes the newest and the hit is counted, or misses and makes a
pass; and a pass leaves its result as the newest one when it is done, and else nothing but the
miss. -/
theorem effects_of_history (backend : Backend) (settings : AnalysisSettings)
    (operators : Operators) (events : List Event) (c : Call) :
    Effects ((start backend settings operators).afterAll events) c :=
  effects_of_nodup (nodup_keys backend settings operators events) c

/-- The analysis of a document whose second line cannot be read. -/
def brokenCall : Call :=
  { firstCall with document := { firstCall.document with version := 2, broken := [1] } }

/-- Behind one cached result, a pass that meets an unreadable line leaves one more miss. -/
theorem effects_of_history_unreadable_line :
    let s := (start leaderHover.backend .standard .standard).afterAll [.step (.analyze firstCall)]
    (s.settings.LooksUp brokenCall ∧ brokenCall.key ∉ s.cache.keys ∧
      (s.pass brokenCall.document brokenCall.sites).outcome =
        .error (.line (.unavailable 1))) ∧
    s.cache.keys = [firstCall.key] ∧ (s.call brokenCall).1.outcome = .ok [] ∧
      (s.call brokenCall).2 = s.missed := by
  intro s
  have h : s.settings.LooksUp brokenCall := by decide +kernel
  -- one entry stored by the first call, and the broken call asks for another key
  have hkeys : s.cache.keys = [firstCall.key] := by decide +kernel
  have hkey : brokenCall.key ∉ s.cache.keys := by
    rw [hkeys]
    decide +kernel
  have hrun : (s.pass brokenCall.document brokenCall.sites).outcome =
      .error (.line (.unavailable 1)) := by decide +kernel
  have heffects := effects_of_history leaderHover.backend .standard .standard
    [.step (.analyze firstCall)] brokenCall
  exact ⟨⟨h, hkey, hrun⟩, hkeys, (heffects.broken _ h hkey hrun nofun).2.2⟩

end Placement.Session
