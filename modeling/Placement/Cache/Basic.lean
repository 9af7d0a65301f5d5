import Placement.Number.Decimal
import Placement.Text.Basic

/-!
# Placement.Cache.Basic — a bounded cache of results

The entries of a cache stand in the order of their last use, the oldest first;
storing and finding an entry make it the newest. When room is needed, entries
are dropped from the front. Storing makes room before it looks whether its key
is there already, and the newest entry always stays.

* `get`, `set`, `clear`, `clearAll`, `setMaxSize` — the operations;
* `find?`, `keys`, `hitRate` — what can be asked without changing anything.
-/

namespace Placement

/-- What is stored under a key, with what the caller notes beside it. -/
structure Cache.Entry (α μ : Type) where
  value : α
  metadata : Option μ

/-- Stored entries, the least recently used first, and counts of how often they were asked for. -/
structure Cache (α μ : Type) where
  entries : List (Text × Cache.Entry α μ)
  hits : Nat
  misses : Nat
  maxSize : Int

namespace Cache

variable {α μ : Type}

/-- A cache without entries. -/
def empty (maxSize : Int) : Cache α μ := ⟨[], 0, 0, maxSize⟩

/-- The keys, the least recently used first. -/
def keys (c : Cache α μ) : List Text := c.entries.map (·.1)

/-- The number of entries. -/
def size (c : Cache α μ) : Nat := c.entries.length

/-- The entry under a key. -/
def find? (c : Cache α μ) (key : Text) : Option (Entry α μ) := c.entries.lookup key

/-- Whether a key is there. -/
def has (c : Cache α μ) (key : Text) : Bool := (c.find? key).isSome

/-- Entries without the one under a key. -/
def dropKey (key : Text) (entries : List (Text × Entry α μ)) : List (Text × Entry α μ) :=
  entries.filter fun e => e.1 != key

/-- The newest `count` entries. -/
def newest (count : Nat) (entries : List (Text × Entry α μ)) : List (Text × Entry α μ) :=
  entries.drop (entries.length - count)

/-- Asks for the value under a key: finding it makes it the newest, and is counted. -/
def get (c : Cache α μ) (key : Text) : Option α × Cache α μ :=
  match c.find? key with
  | some e =>
    (some e.value, { c with entries := dropKey key c.entries ++ [(key, e)], hits := c.hits + 1 })
  | none => (none, { c with misses := c.misses + 1 })

/-- Stores a value as the newest entry, having made room for one more. -/
def set (c : Cache α μ) (key : Text) (value : α) (metadata : Option μ) : Cache α μ :=
  { c with
    entries := dropKey key (newest (c.maxSize - 1).toNat c.entries) ++ [(key, ⟨value, metadata⟩)] }

/-- Removes the entry under a key, if there is one. -/
def clear (c : Cache α μ) (key : Text) : Cache α μ := { c with entries := dropKey key c.entries }

/-- Sets the counts to zero. -/
def resetStats (c : Cache α μ) : Cache α μ := { c with hits := 0, misses := 0 }

/-- Removes all entries, and sets the counts to zero. -/
def clearAll (c : Cache α μ) : Cache α μ := { c.resetStats with entries := [] }

/-- Changes the number of entries that have room, and drops those that have none. -/
def setMaxSize (c : Cache α μ) (maxSize : Int) : Cache α μ :=
  { c with maxSize := maxSize, entries := newest maxSize.toNat c.entries }

/-- The share of questions that found an entry; zero before the first. -/
def hitRate (c : Cache α μ) : Double := .ofRatio false c.hits (max 1 (c.hits + c.misses))

/-- The share of questions that found an entry, in percent with one decimal place. -/
def hitRatePercent (c : Cache α μ) : Text := (c.hitRate.times 100).fixed 1

end Cache

end Placement
