import Placement.Proofs.Cache.Key
import Placement.Session

/-!
# Placement.Proofs.Session.Steps — the life of a session

A session is used in steps: documents are analysed, cached results are dropped,
the cache is looked at, and edges are classified. `step` gives the answer of one
step with the session behind it, and `answers` those of a whole list.

An analysis goes past the gates of the settings (`Admits`), or answers with
nothing. Behind the gates its key is written, or it fails (`analyze_of_not_hasKey`).
What is then looked up (`LooksUp`) is a hit or a miss of the cache; `analyze_of_hit`
and `analyze_of_miss` say what becomes of it.
-/

namespace Placement

/-- Whether a document goes past the gates of the settings. -/
def AnalysisSettings.Admits (settings : AnalysisSettings) (d : Document) : Prop :=
  settings.enabled = true ∧ (d.lineCount : Int) ≤ settings.maxFileLines

instance (settings : AnalysisSettings) (d : Document) : Decidable (settings.Admits d) :=
  inferInstanceAs (Decidable (_ ∧ _))

namespace Session

/-! ## Steps -/

/-- What an analysis is asked for. -/
structure Call where
  document : Document
  sites : List Site
  scope : Text
  activeFile : Option Text
deriving DecidableEq, Repr

/-- What the result of an analysis belongs to. -/
def Call.cacheKey (c : Call) : CacheKey :=
  ⟨c.document.uri, c.document.version, c.scope, c.activeFile⟩

/-- The key under which the result of an analysis is kept, if it can be written. -/
def Call.key (c : Call) : Text := c.cacheKey.text

/-- The key can be written, as the version of the document has not too many digits. -/
def Call.HasKey (c : Call) : Prop := c.cacheKey.encode = .ok c.key

instance (c : Call) : Decidable c.HasKey := inferInstanceAs (Decidable (_ = _))

/-- A use of a session. -/
inductive Step where
  | analyze (call : Call)
  | invalidate (uri : Text)
  | invalidateAll
  | stats
  | keys
  | metadata (key : Text)
  | classify (nodes : List Graph.Node) (edges : List Graph.Edge)
deriving DecidableEq, Repr

/-- The analysis that a step asks for, if it does. -/
def Step.call? : Step → Option Call
  | .analyze call => some call
  | _ => none

/-- The counts of a cache. -/
structure Stats where
  size : Nat
  hits : Nat
  misses : Nat
  maxSize : Int
  hitRate : Double

/-- The counts of a cache at a time. -/
def Stats.of {α μ : Type} (c : Cache α μ) : Stats :=
  ⟨c.size, c.hits, c.misses, c.maxSize, c.hitRate⟩

/-- The answer of a step. -/
inductive Answer where
  | analysis (run : Run (List Attribution))
  | removed (count : Nat)
  | stats (stats : Stats)
  | keys (keys : List Text)
  | metadata (note : Option PassNote)
  | classified (edges : List Graph.Classified) (summary : Graph.Summary)

/-- One step of a session. -/
def step (s : Session) : Step → Answer × Session
  | .analyze c =>
    let (run, s) := s.analyze c.document c.sites c.scope c.activeFile
    (.analysis run, s)
  | .invalidate uri =>
    let (count, s) := s.invalidate uri
    (.removed count, s)
  | .invalidateAll =>
    let (count, s) := s.invalidateAll
    (.removed count, s)
  | .stats => (.stats (.of s.cache), s)
  | .keys => (.keys s.cache.keys, s)
  | .metadata key => (.metadata ((s.cache.find? key).bind (·.metadata)), s)
  | .classify nodes edges =>
    let edges := Graph.classify s.operators nodes edges
    (.classified edges (Graph.summarize edges), s)

/-- The answers of some steps, one after the other. -/
def answers (s : Session) : List Step → List Answer
  | [] => []
  | x :: more => (s.step x).1 :: answers (s.step x).2 more

end Session

/-- The analysis is looked up in the cache: the document goes past the gates, and the key can be
written. -/
def AnalysisSettings.LooksUp (settings : AnalysisSettings) (c : Session.Call) : Prop :=
  settings.Admits c.document ∧ c.HasKey

instance (settings : AnalysisSettings) (c : Session.Call) : Decidable (settings.LooksUp c) :=
  inferInstanceAs (Decidable (_ ∧ _))

namespace Session

/-! ## The ways of an analysis -/

variable {s : Session} {c : Call}

/-- A key can be written when the version has few enough digits. -/
theorem hasKey_iff : c.HasKey ↔ c.document.version.natAbs < 10 ^ Text.digitLimit := by
  rw [Call.HasKey, CacheKey.encode_eq_ok_iff]
  exact and_iff_left rfl

/-- Without a key nothing is asked or looked up, and the session stays as it is. -/
theorem analyze_of_not_hasKey (h : s.settings.Admits c.document) (hkey : ¬ c.HasKey) :
    s.analyze c.document c.sites c.scope c.activeFile =
      (⟨[], [], .error (.writing .longInteger)⟩, s) := by
  have hencode : c.cacheKey.encode = .error .longInteger := by
    rw [hasKey_iff, Nat.not_lt] at hkey
    exact CacheKey.encode_eq_error_iff.mpr hkey
  unfold analyze
  rw [if_neg (by simp [h.1]), if_neg (by have := h.2; omega)]
  rw [Call.cacheKey] at hencode
  rw [hencode]

/-- An analysis that does not go past the gates is answered with nothing, and the session stays as
it is. -/
theorem analyze_of_not_admits (h : ¬ s.settings.Admits c.document) :
    ∃ notices, s.analyze c.document c.sites c.scope c.activeFile = (⟨[], notices, .ok []⟩, s) := by
  unfold AnalysisSettings.Admits at h
  unfold analyze
  by_cases hon : s.settings.enabled = true
  · -- analysis is on, so the document has too many lines
    have hlong : s.settings.maxFileLines < c.document.lineCount :=
      Int.not_le.mp fun hle => h ⟨hon, hle⟩
    exact ⟨_, by rw [if_neg (by simp [hon]), if_pos hlong]⟩
  · exact ⟨[], by rw [if_pos (by simpa using hon)]; rfl⟩

/-- An analysis that is not looked up leaves the session as it is. -/
theorem analyze_of_not_looksUp (h : ¬ s.settings.LooksUp c) :
    (s.analyze c.document c.sites c.scope c.activeFile).2 = s := by
  by_cases hadmits : s.settings.Admits c.document
  · rw [analyze_of_not_hasKey hadmits fun hkey => h ⟨hadmits, hkey⟩]
  · rcases analyze_of_not_admits hadmits with ⟨notices, hskip⟩
    rw [hskip]

/-- An analysis that is looked up answers with what is cached, or makes a pass. -/
theorem analyze_of_looksUp (h : s.settings.LooksUp c) :
    s.analyze c.document c.sites c.scope c.activeFile =
      let behind : Session := { s with cache := (s.cache.get c.key).2 }
      match (s.cache.get c.key).1 with
      | some found => (pure found, behind)
      | none => behind.finish c.document c.key (behind.pass c.document c.sites) := by
  have hencode : c.cacheKey.encode = .ok c.key := h.2
  unfold analyze
  rw [if_neg (by simp [h.1.1]), if_neg (by have := h.1.2; omega)]
  rw [Call.cacheKey] at hencode
  rw [hencode]
  rfl

/-- An analysis whose result is cached answers with it. -/
theorem analyze_of_hit {found : List Attribution} (h : s.settings.LooksUp c)
    (hfound : (s.cache.get c.key).1 = some found) :
    s.analyze c.document c.sites c.scope c.activeFile =
      (pure found, { s with cache := (s.cache.get c.key).2 }) := by
  rw [analyze_of_looksUp h]
  simp only [hfound]

/-- An analysis whose result is not cached makes a pass. -/
theorem analyze_of_miss (h : s.settings.LooksUp c)
    (hnone : (s.cache.get c.key).1 = none) :
    s.analyze c.document c.sites c.scope c.activeFile =
      ({ s with cache := (s.cache.get c.key).2 } : Session).finish c.document c.key
        (s.pass c.document c.sites) := by
  rw [analyze_of_looksUp h]
  simp only [hnone]
  rfl

end Session

end Placement
