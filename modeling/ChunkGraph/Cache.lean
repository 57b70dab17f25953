import ChunkGraph.Data.Bound
import ChunkGraph.Data.Keyed

/-!
# A cache of values by path and content

An entry is served as long as the hash of the content is the one it was stored
with and it is not older than the cache's lifetime. A lookup that finds an entry
which may no longer be served drops it. When a new path meets a full cache, the
entry with the earliest time goes; of several the one that came first. Looking
an entry up does not make it younger.

The time of every operation is an argument: the cache has no clock. Lifetime and
capacity are bounds as they were given; an operation that would have to compare
with one that is no number has a fault and is not to be carried out.

## Main definitions

* `Cache`, `Cache.Entry` — the cache.
* `Cache.get`, `Cache.set`, `Cache.invalidate`, `Cache.clear` — its operations.
* `Cache.change` — a stored value is changed where it is.
* `Cache.getFault?`, `Cache.setFault?` — why an operation cannot be carried out.
* `Cache.hitRate` — hits among lookups.
-/

namespace ChunkGraph

/-- A stored value with the hash of its content and the time of storing. -/
structure Cache.Entry (α : Type) where
  /-- The value. -/
  value : α
  /-- The hash of the content it was made from. -/
  hash : String
  /-- When it was stored. -/
  time : Number.Quantity
  deriving Repr

/-- Values by path. -/
structure Cache (α : Type) where
  /-- Greatest number of entries. -/
  capacity : Bound := 1000
  /-- For how long an entry is served. -/
  lifetime : Bound := 300
  /-- The entries, in the order in which their paths came. -/
  entries : List (String × Cache.Entry α) := []
  /-- Lookups that were served. -/
  hits : Nat := 0
  /-- Lookups that were not. -/
  misses : Nat := 0
  /-- Entries that had to make room. -/
  evictions : Nat := 0
  deriving Repr

namespace Cache

variable {α : Type}

/-- Number of entries. -/
def size (cache : Cache α) : Nat := cache.entries.length

/-- There is an entry for the path. -/
def contains (cache : Cache α) (path : String) : Bool := Keyed.has path cache.entries

/-- The entry may be served at a time to someone with that hash. -/
def isFresh (cache : Cache α) (now : Number.Quantity) (hash : String) (entry : Entry α) : Bool :=
  entry.hash == hash && !cache.lifetime.passedBy (now.sub entry.time)

/-- The value for a path and a hash, if there is one that may be served. -/
def get (cache : Cache α) (now : Number.Quantity) (path hash : String) : Option α × Cache α :=
  match cache.entries.lookup path with
  | none => (none, { cache with misses := cache.misses + 1 })
  | some entry =>
      if cache.isFresh now hash entry then (some entry.value, { cache with hits := cache.hits + 1 })
      else (none, { cache with
        entries := Keyed.erase path cache.entries
        misses := cache.misses + 1 })

/-- The entry with the earliest time among one and those behind it, the first of several. -/
def oldestFrom (entry : String × Entry α) : List (String × Entry α) → String × Entry α
  | [] => entry
  | other :: rest => oldestFrom (if other.2.time.lt entry.2.time then other else entry) rest

/-- The entry with the earliest time, the first of several. -/
def oldest? : List (String × Entry α) → Option (String × Entry α)
  | [] => none
  | entry :: rest => some (oldestFrom entry rest)

/-- The cache without its oldest entry. -/
def evict (cache : Cache α) : Cache α :=
  match oldest? cache.entries with
  | none => cache
  | some (path, _) =>
      { cache with entries := Keyed.erase path cache.entries, evictions := cache.evictions + 1 }

/-- The cache with room for a path. -/
def makeRoom (cache : Cache α) (path : String) : Cache α :=
  if !cache.contains path && cache.capacity.reachedBy (.ofNat cache.size) then cache.evict
  else cache

/-- The cache with a value stored under a path. -/
def set (cache : Cache α) (now : Number.Quantity) (path hash : String) (value : α) : Cache α :=
  let cache := cache.makeRoom path
  { cache with entries := Keyed.put path ⟨value, hash, now⟩ cache.entries }

/-- Why a lookup at a path cannot be carried out, if it cannot: an entry is there, and its age
cannot be compared with the lifetime. -/
def getFault? (cache : Cache α) (path : String) : Option Failure :=
  if cache.contains path then cache.lifetime.fault? ">" Bound.countType else none

/-- Why nothing can be stored under a path, if it cannot: the path is new, and the number of entries
cannot be compared with the capacity. -/
def setFault? (cache : Cache α) (path : String) : Option Failure :=
  if cache.contains path then none else cache.capacity.fault? ">=" Bound.countType

/-- The cache with the value under a path changed; the entry keeps its hash, its time and its
place. -/
def change (cache : Cache α) (path : String) (f : α → α) : Cache α :=
  match cache.entries.lookup path with
  | none => cache
  | some entry =>
      { cache with entries := Keyed.put path { entry with value := f entry.value } cache.entries }

/-- The cache without a path. -/
def invalidate (cache : Cache α) (path : String) : Cache α :=
  { cache with entries := Keyed.erase path cache.entries }

/-- The cache without entries, nothing counted. -/
def clear (cache : Cache α) : Cache α :=
  { cache with entries := [], hits := 0, misses := 0, evictions := 0 }

end Cache

/-- The share of `part` in `part + rest`, zero if both are. -/
def shareOf (part rest : Nat) : Number.Binary64 := Number.Binary64.div part (max (part + rest) 1)

/-- Hits among lookups. -/
def Cache.hitRate {α : Type} (cache : Cache α) : Number.Binary64 := shareOf cache.hits cache.misses

end ChunkGraph
