import Placement.Cache.Basic
import Placement.Proofs.Lookup

/-!
# Placement.Proofs.Cache.Holds — properties of cached results

A cache `Holds` a property when every result in it has the property with its key.
A cache without entries holds every property, storing keeps one that the stored
result has, and asking, clearing and making room keep all of them
(`Holds.get`, `Holds.set`, `Holds.clear`, `Holds.clearAll`). What is found then
has the property (`Holds.of_get_eq_some`). Clearing several keys leaves the entries
under the others (`foldl_clear_eq`).
-/

namespace Placement

namespace Cache

variable {α μ : Type} {P : Text → α → Prop} {c : Cache α μ} {key : Text}

/-- Every result in the cache has the property with its key. -/
def Holds (P : Text → α → Prop) (c : Cache α μ) : Prop :=
  ∀ key e, (key, e) ∈ c.entries → P key e.value

/-- What is found under a key is an entry of the cache. -/
theorem mem_entries_of_find? {e : Entry α μ} (h : c.find? key = some e) :
    (key, e) ∈ c.entries := by
  rcases List.lookup_eq_some_iff.mp h with ⟨before, after, hentries, -⟩
  rw [hentries]
  exact List.mem_append_right before List.mem_cons_self

theorem find?_eq_none_iff : c.find? key = none ↔ key ∉ c.keys := Lookup.eq_none_iff

theorem mem_of_mem_dropKey {x : Text × Entry α μ} {entries : List (Text × Entry α μ)}
    (h : x ∈ dropKey key entries) : x ∈ entries :=
  (List.mem_filter.mp h).1

theorem mem_of_mem_newest {x : Text × Entry α μ} {count : Nat} {entries : List (Text × Entry α μ)}
    (h : x ∈ newest count entries) : x ∈ entries :=
  List.mem_of_mem_drop h

/-! ## Operations -/

theorem holds_empty (maxSize : Int) : Holds P (empty maxSize : Cache α μ) := by
  intro key e he
  exact absurd he List.not_mem_nil

/-- What is found has the property with the key that was asked for. -/
theorem Holds.of_get_eq_some {v : α} (h : c.Holds P) (hv : (c.get key).1 = some v) : P key v := by
  unfold Cache.get at hv
  cases hfind : c.find? key with
  | none => simp [hfind] at hv
  | some e =>
    have he : e.value = v := by simpa [hfind] using hv
    rw [← he]
    exact h key e (mem_entries_of_find? hfind)

/-- Asking keeps the property, whether something is found or not. -/
theorem Holds.get (h : c.Holds P) (key : Text) : (c.get key).2.Holds P := by
  unfold Cache.get
  cases hfind : c.find? key with
  | none => exact h
  | some found =>
    -- the found entry moves to the end, and all others stay
    intro key' e he
    rcases List.mem_append.mp he with he | he
    · exact h key' e (mem_of_mem_dropKey he)
    · rw [List.mem_singleton] at he
      cases he
      exact h key found (mem_entries_of_find? hfind)

/-- Storing a result with the property keeps it. -/
theorem Holds.set {v : α} (h : c.Holds P) (hv : P key v) (metadata : Option μ) :
    (c.set key v metadata).Holds P := by
  -- making room and replacing only drop entries
  intro key' e he
  rcases List.mem_append.mp he with he | he
  · exact h key' e (mem_of_mem_newest (mem_of_mem_dropKey he))
  · rw [List.mem_singleton] at he
    cases he
    exact hv

theorem Holds.clear (h : c.Holds P) (key : Text) : (c.clear key).Holds P := by
  intro key' e he
  exact h key' e (mem_of_mem_dropKey he)

/-- Clearing any number of keys keeps it. -/
theorem Holds.foldl_clear (h : c.Holds P) (stale : List Text) :
    (stale.foldl Cache.clear c).Holds P := by
  induction stale generalizing c with
  | nil => exact h
  | cons key more ih => exact ih (h.clear key)

/-- Clearing some keys leaves the entries under the others, in their order. -/
theorem foldl_clear_eq (c : Cache α μ) (stale : List Text) :
    stale.foldl Cache.clear c = { c with entries := c.entries.filter fun e => e.1 ∉ stale } := by
  induction stale generalizing c with
  | nil =>
    have hall : (c.entries.filter fun e => e.1 ∉ ([] : List Text)) = c.entries :=
      List.filter_eq_self.mpr fun e _ => by simp
    rw [hall]
    rfl
  | cons key more ih =>
    rw [List.foldl_cons, ih]
    have hkeep : (dropKey key c.entries).filter (fun e => e.1 ∉ more) =
        c.entries.filter fun e => e.1 ∉ key :: more := by
      -- one key is dropped first and then the others, which comes to dropping all at once
      rw [dropKey, List.filter_filter]
      refine List.filter_congr fun e _ => ?_
      rw [Bool.eq_iff_iff]
      simp [and_comm]
    rw [Cache.clear, hkeep]

theorem holds_clearAll (c : Cache α μ) : c.clearAll.Holds P := by
  intro key e he
  exact absurd he List.not_mem_nil

end Cache

end Placement
