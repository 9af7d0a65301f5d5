import Placement.Proofs.Cache.Key
import Placement.Proofs.Session.Atomicity
import Placement.Proofs.Text

/-!
# Placement.Proofs.Session.Invalidation — dropping the results of a document

Results are dropped by the beginning of their keys, which is the lead of a document
(`mem_entries_invalidate_iff`). All keys of the document begin so, and keys of other
documents only when the names overlap, since a name may look like a name with a
version. `Drops` says what this does to the results that the calls of a history have
stored, and what becomes of the next call for the document
(`invalidate_drops`). The calls in between matter: one for a document with an
overlapping name may store its result under the very key of the next call
(`call_behind_invalidate_hits`).
-/

namespace Placement.Session

variable {s : Session} {c : Call} {key uri : Text}
  {e : Cache.Entry (List Attribution) PassNote}

/-! ## What is dropped -/

/-- Dropping takes the entries out whose keys begin with the lead of the document, and counts them.
-/
theorem invalidate_eq (s : Session) (uri : Text) :
    s.invalidate uri =
      ((s.cache.entries.filter fun e =>
          Text.startsWith (CacheKey.documentLead uri) e.1).length,
        { s with
          cache := { s.cache with
            entries := s.cache.entries.filter fun e =>
              !Text.startsWith (CacheKey.documentLead uri) e.1 } }) := by
  -- an entry is stale when its own key is, as all keys of entries are looked at
  have hkept : (s.cache.entries.filter fun e =>
        e.1 ∉ s.cache.keys.filter (Text.startsWith (CacheKey.documentLead uri))) =
      s.cache.entries.filter fun e => !Text.startsWith (CacheKey.documentLead uri) e.1 := by
    refine List.filter_congr fun e he => ?_
    have hkey : e.1 ∈ s.cache.keys := List.mem_map_of_mem he
    rw [Bool.eq_iff_iff]
    simp [hkey]
  unfold invalidate
  simp only [Cache.foldl_clear_eq, hkept]
  rw [Cache.keys, List.filter_map, List.length_map]
  rfl

/-- An entry stays when its key does not begin with the lead of the document. -/
theorem mem_entries_invalidate_iff :
    (key, e) ∈ (s.invalidate uri).2.cache.entries ↔
      (key, e) ∈ s.cache.entries ∧ ¬ CacheKey.documentLead uri <+: key := by
  rw [invalidate_eq]
  simp [List.mem_filter, ← Text.startsWith_eq_true_iff]

/-- What dropping the results of a document leaves of a session, for the entries that calls have
stored, and how many it drops. -/
structure Drops (uri : Text) (stored : Call → Cache.Entry (List Attribution) PassNote → Prop)
    (s behind : Session) (count : Nat) : Prop where
  /-- A cached result was stored by a call. -/
  known : ∀ key e, (key, e) ∈ s.cache.entries → ∃ c, c.key = key ∧ stored c e
  /-- The results of the document are dropped. -/
  own : ∀ c e, stored c e → (c.key, e) ∈ s.cache.entries → c.document.uri = uri →
    c.key ∉ behind.cache.keys
  /-- A result of another document is dropped only when the names overlap. -/
  other : ∀ c e, stored c e → (c.key, e) ∈ s.cache.entries → c.document.uri ≠ uri →
    (c.key, e) ∉ behind.cache.entries → CacheKey.Overlap uri c.document.uri
  /-- The dropped results are counted. -/
  counts : count + behind.cache.size = s.cache.size
  /-- The others stay as they are, in their order, and nothing else changes. -/
  rest : ∃ entries, entries.Sublist s.cache.entries ∧
    behind = { s with cache := { s.cache with entries } }
  /-- The next call for the document that goes past the gates is a miss, unless a call in between,
  for a document with an overlapping name, has stored a result under its key. A call whose key
  cannot be written fails, and is neither a hit nor a miss. -/
  next : ∀ between c, c.document.uri = uri → s.settings.Admits c.document →
    (∀ c', .step (.analyze c') ∈ between → c'.document.uri = uri →
      ¬ s.settings.Admits c'.document) →
    let later := behind.afterAll between
    (later.call c).2.cache.hits = later.cache.hits ∧
        (later.call c).2.cache.misses = later.cache.misses + 1 ∨
      (∃ c' e, behind.StoredBy between c' e ∧ c'.key = c.key ∧ c'.document.uri ≠ uri ∧
        CacheKey.Overlap uri c'.document.uri) ∨
      (10 ^ Text.digitLimit ≤ c.document.version.natAbs ∧
        (later.call c).1.outcome = .error (.writing .longInteger) ∧ (later.call c).2 = later)

/-! ## Documents -/

theorem documentLead_prefix_key (c : Call) : CacheKey.documentLead c.document.uri <+: c.key :=
  c.cacheKey.documentLead_prefix_text

/-- A key with the lead of a document belongs to it, or to one with an overlapping name. -/
theorem eq_or_overlap_of_key (h : CacheKey.documentLead uri <+: c.key) :
    c.document.uri = uri ∨ CacheKey.Overlap uri c.document.uri :=
  CacheKey.eq_or_overlap h

/-- No key of the document is cached behind. -/
theorem key_not_mem_invalidate (s : Session) (huri : c.document.uri = uri) :
    c.key ∉ (s.invalidate uri).2.cache.keys := by
  intro hmem
  rcases List.mem_map.mp hmem with ⟨⟨k, e⟩, hentry, rfl⟩
  rw [mem_entries_invalidate_iff, ← huri] at hentry
  exact hentry.2 (documentLead_prefix_key c)

/-- The next call for a document whose results were dropped misses, or finds what a call for an
overlapping name has stored, or has no key. -/
theorem call_behind_invalidate {between : List Event} (huri : c.document.uri = uri)
    (hadmits : s.settings.Admits c.document)
    (hnext : ∀ c', .step (.analyze c') ∈ between → c'.document.uri = uri →
      ¬ s.settings.Admits c'.document) :
    let behind := (s.invalidate uri).2
    let later := behind.afterAll between
    (later.call c).2.cache.hits = later.cache.hits ∧
        (later.call c).2.cache.misses = later.cache.misses + 1 ∨
      (∃ c' e, behind.StoredBy between c' e ∧ c'.key = c.key ∧ c'.document.uri ≠ uri ∧
        CacheKey.Overlap uri c'.document.uri) ∨
      (10 ^ Text.digitLimit ≤ c.document.version.natAbs ∧
        (later.call c).1.outcome = .error (.writing .longInteger) ∧ (later.call c).2 = later) := by
  intro behind later
  have hadmitsLater : later.settings.Admits c.document := by
    rw [settings_afterAll]
    exact hadmits
  by_cases hlong : 10 ^ Text.digitLimit ≤ c.document.version.natAbs
  · have hfails := analyze_of_not_hasKey hadmitsLater fun hkey =>
      Nat.not_lt.mpr hlong (hasKey_iff.mp hkey)
    refine Or.inr (Or.inr ⟨hlong, ?_⟩)
    rw [call, hfails]
    exact ⟨rfl, rfl⟩
  have hlooks : later.settings.LooksUp c := ⟨hadmitsLater, hasKey_iff.mpr (Nat.not_le.mp hlong)⟩
  by_cases hkey : c.key ∈ later.cache.keys
  · -- what is cached again was stored since, and not for the document itself
    right
    left
    rcases List.mem_map.mp hkey with ⟨⟨k, e⟩, hentry, hk⟩
    rcases mem_entries_afterAll hentry with hold | ⟨c', hsame, hstored⟩
    · have hleft : c.key ∈ behind.cache.keys := hk ▸ List.mem_map_of_mem hold
      exact absurd hleft (key_not_mem_invalidate s huri)
    · have hother : c'.document.uri ≠ uri := fun hown =>
        hnext c' hstored.mem hown hstored.looksUp.1
      have hlead : CacheKey.documentLead uri <+: c'.key := by
        rw [hsame.trans hk, ← huri]
        exact documentLead_prefix_key c
      exact ⟨c', e, hstored, hsame.trans hk, hother,
        (eq_or_overlap_of_key hlead).resolve_left hother⟩
  · exact Or.inl (call_of_not_mem_keys hlooks hkey).2

/-- Behind every history the results of a document can be dropped: those that a call for the
document has stored, and of the others only some with overlapping names. The next call for the
document that goes past the gates is a miss, unless a call for a document with an overlapping name
has stored a result under its key in between, or its own key cannot be written. -/
theorem invalidate_drops (backend : Backend) (settings : AnalysisSettings) (operators : Operators)
    (events : List Event) (uri : Text) :
    let s := (start backend settings operators).afterAll events
    Drops uri ((start backend settings operators).StoredBy events) s (s.invalidate uri).2
      (s.invalidate uri).1 where
  known := by
    intro key e he
    -- every entry was stored by a call of the history, since the cache started empty
    rcases mem_entries_afterAll he with hold | hstored
    · exact absurd hold List.not_mem_nil
    · exact hstored
  own := fun c e _ _ huri => key_not_mem_invalidate _ huri
  other := by
    intro c e _ he hother hdropped
    -- a dropped entry of another document has a key that overlaps
    rw [mem_entries_invalidate_iff, not_and, Classical.not_not] at hdropped
    exact (eq_or_overlap_of_key (hdropped he)).resolve_left hother
  counts := by
    rw [invalidate_eq]
    exact List.length_eq_length_filter_add _ |>.symm
  rest := by
    rw [invalidate_eq]
    exact ⟨_, List.filter_sublist, rfl⟩
  next := fun between c huri hadmits hnext => call_behind_invalidate huri hadmits hnext

/-- The analysis of a document without sites, whose name looks like one with a version. -/
def nestedCall : Call := ⟨.ofText "a::v1::x".text [] 2, [], "s".text, none⟩

/-- The analysis of a document with one site, in a scope and for a file that make the same key. -/
def outerCall : Call :=
  ⟨{ firstCall.document with uri := "a".text }, firstCall.sites, "x".text,
    some "v2::s".text⟩

/-- Behind two results, that of the document is dropped, the other one stays, and the next call for
the document is a miss. -/
theorem invalidate_drops_first :
    let s := (start leaderHover.backend .standard .standard).afterAll
      [.step (.analyze firstCall), .step (.analyze outerCall)]
    let behind := (s.invalidate firstCall.document.uri).2
    (s.settings.Admits firstCall.document ∧ s.cache.keys = [firstCall.key, outerCall.key]) ∧
    behind.cache.keys = [outerCall.key] ∧
    (s.invalidate firstCall.document.uri).1 + behind.cache.size = s.cache.size ∧
    (behind.call firstCall).2.cache.misses = behind.cache.misses + 1 := by
  intro s behind
  have hadmits : s.settings.Admits firstCall.document := by decide +kernel
  have hkeys : s.cache.keys = [firstCall.key, outerCall.key] := by decide +kernel
  have hbehind : behind.cache.keys = [outerCall.key] := by decide +kernel
  have hdrops := invalidate_drops leaderHover.backend .standard .standard
    [.step (.analyze firstCall), .step (.analyze outerCall)] firstCall.document.uri
  -- of the three cases of the next call only the miss is possible here
  rcases hdrops.next [] firstCall rfl hadmits (fun _ hc => absurd hc List.not_mem_nil) with
    hmiss | ⟨c, e, hstored, -⟩ | ⟨hlong, -⟩
  · exact ⟨⟨hadmits, hkeys⟩, hbehind, hdrops.counts, hmiss.2⟩
  · exact absurd hstored.mem List.not_mem_nil
  · have hkey : firstCall.HasKey := by decide +kernel
    exact absurd (hasKey_iff.mp hkey) (Nat.not_lt.mpr hlong)

/-- A call for a document with an overlapping name stores its result under the key of the next call
for the document, which is answered with it. -/
theorem call_behind_invalidate_hits :
    let s := ((start leaderHover.backend .standard .standard).call nestedCall).2
    let behind := (s.invalidate nestedCall.document.uri).2
    let later := (behind.call outerCall).2
    (s.cache.keys = [nestedCall.key] ∧ behind.cache.keys = [] ∧
      outerCall.document.uri ≠ nestedCall.document.uri ∧
      later.settings.Admits nestedCall.document) ∧
    (later.call nestedCall).1.outcome = (behind.call outerCall).1.outcome ∧
      (later.call nestedCall).2.cache.hits = later.cache.hits + 1 ∧
      (later.call nestedCall).2.cache.misses = later.cache.misses := by
  decide +kernel

end Placement.Session
