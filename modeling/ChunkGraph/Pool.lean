import ChunkGraph.Cache
import ChunkGraph.FrontEnd.Basic

/-!
# A pool of front ends

Front ends that are given back are kept for the next file of the same key, the
last one first. The key is the kind of the front end; as the generic one is
bound to a language, its key also has the extension of the file. When something
is given back its shelf is made, and then its size is compared with the capacity;
a capacity that is no number is found out then.

## Main definitions

* `poolKey` — the key of a kind and a file.
* `Pool`, `Pool.take`, `Pool.release` — the pool.
* `Pool.releaseFault?` — why nothing can be given back, if it cannot.
-/

namespace ChunkGraph

/-- The key under which front ends of a kind are kept for a file. -/
def poolKey (kind : String) (path : Option String) : String :=
  match path with
  | some path =>
      if kind == FrontEnd.genericKind && !path.isEmpty then
        let extension := (Path.lowerSuffix path).dropWhile (· == '.')
        kind ++ ":" ++ if extension.isEmpty then "unknown" else String.ofList extension
      else kind
  | none => kind

/-- Things that are kept for reuse, by key. -/
structure Pool (α : Type) where
  /-- Greatest number kept for a key. -/
  capacity : Bound := 5
  /-- What is kept, the last one given back first; keys in the order in which they came. -/
  shelves : List (String × List α) := []
  /-- Requests for which there was nothing. -/
  created : Nat := 0
  /-- Requests that were met. -/
  reused : Nat := 0
  /-- Things given back. -/
  released : Nat := 0
  deriving Repr

namespace Pool

variable {α : Type}

/-- What is kept for a key. -/
def shelf (pool : Pool α) (key : String) : List α := (pool.shelves.lookup key).getD []

/-- Something kept for a key; if there is nothing the caller makes it. -/
def take (pool : Pool α) (key : String) : Option α × Pool α :=
  match pool.shelf key with
  | top :: rest =>
      (some top, { pool with
        shelves := Keyed.put key rest pool.shelves
        reused := pool.reused + 1 })
  | [] => (none, { pool with created := pool.created + 1 })

/-- The pool with a shelf for a key. -/
def withShelf (pool : Pool α) (key : String) : Pool α :=
  { pool with shelves := Keyed.put key (pool.shelf key) pool.shelves }

/-- Why nothing can be given back, if it cannot. -/
def releaseFault? (pool : Pool α) : Option Failure := pool.capacity.fault? "<" Bound.countType

/-- The pool after something has been given back; it is dropped if the shelf is full. -/
def release (pool : Pool α) (key : String) (item : α) : Pool α :=
  let shelf := pool.shelf key
  let shelf := if pool.capacity.leavesRoom (.ofNat shelf.length) then item :: shelf else shelf
  { pool with shelves := Keyed.put key shelf pool.shelves, released := pool.released + 1 }

/-- The pool without anything, nothing counted. -/
def clear (pool : Pool α) : Pool α :=
  { pool with shelves := [], created := 0, reused := 0, released := 0 }

/-- Requests that were met among all. -/
def hitRate (pool : Pool α) : Number.Binary64 := shareOf pool.reused pool.created

end Pool

end ChunkGraph
