import Mathlib.Data.List.Nodup

/-!
# Placement.Proofs.Lookup — looking keys up in lists of entries

A key is found when an entry has it (`isSome_iff`). Where no two entries share a
key, what is found under a key is what stands beside it (`eq_some_iff_mem`).
-/

namespace Placement.Lookup

variable {α β : Type} [BEq α] [LawfulBEq α] {entries : List (α × β)} {key : α} {value : β}

/-- Something is found under the keys of the entries. -/
theorem isSome_iff : (entries.lookup key).isSome = true ↔ key ∈ entries.map Prod.fst := by
  rw [List.lookup_isSome_iff, List.mem_map]
  constructor
  · rintro ⟨p, hp, hkey⟩
    exact ⟨p, hp, (beq_iff_eq.mp hkey).symm⟩
  · rintro ⟨p, hp, rfl⟩
    exact ⟨p, hp, beq_self_eq_true p.1⟩

theorem eq_none_iff : entries.lookup key = none ↔ key ∉ entries.map Prod.fst := by
  rw [← isSome_iff, Option.not_isSome_iff_eq_none]

/-- Where no two entries share a key, what is found under a key is what stands beside it. -/
theorem eq_some_iff_mem (h : (entries.map Prod.fst).Nodup) :
    entries.lookup key = some value ↔ (key, value) ∈ entries := by
  rw [List.lookup_eq_some_iff]
  constructor
  · rintro ⟨front, back, rfl, -⟩
    exact List.mem_append_right front List.mem_cons_self
  · intro hmem
    obtain ⟨front, back, rfl⟩ := List.append_of_mem hmem
    refine ⟨front, back, rfl, ?_⟩
    intro p hp
    rw [bne_iff_ne]
    rintro rfl
    -- an entry in front with the same key would be a second one
    rw [List.map_append, List.map_cons, List.nodup_append] at h
    exact h.2.2 p.1 (List.mem_map_of_mem hp) p.1 List.mem_cons_self rfl

end Placement.Lookup
