import ChunkGraph.Pool

/-!
# Taking from a pool and giving back

Both operations change one shelf and one count. What is taken is the top of the
shelf, if there is one, and what is given back is put on top, if there is room.

## Main definitions

* `Pool.kept` — everything that a pool keeps.

## Main results

* `Pool.take_cases` — what taking can do.
* `Pool.shelf_take`, `Pool.shelf_release` — the shelves afterwards.
* `Pool.created_add_reused_take` — every request is counted.
* `Pool.countP_kept_take`, `Pool.countP_kept_release_le` — how much is kept.
* `Pool.mem_shelf_of_take`, `Pool.mem_shelf_take`, `Pool.mem_shelf_release` —
  where something on a shelf comes from.
-/

namespace ChunkGraph.Pool

variable {α : Type} (pool : Pool α) (key other : String)

/-- What is on a shelf after things have been put under a key. -/
theorem shelf_put (items : List α) :
    ((Keyed.put key items pool.shelves).lookup other).getD [] =
      if other == key then items else pool.shelf other := by
  rw [Keyed.lookup_put]
  split
  · rfl
  · rfl

/-- The top of the shelf is taken, or there is nothing on it and only that is counted. -/
theorem take_cases :
    (∃ top rest, pool.shelf key = top :: rest ∧ pool.take key =
      (some top, { pool with
        shelves := Keyed.put key rest pool.shelves
        reused := pool.reused + 1 })) ∨
    (pool.shelf key = [] ∧ pool.take key = (none, { pool with created := pool.created + 1 })) := by
  unfold take
  cases hshelf : pool.shelf key with
  | nil => exact Or.inr ⟨rfl, rfl⟩
  | cons top rest => exact Or.inl ⟨top, rest, rfl, rfl⟩

/-- The top of the shelf is taken. -/
theorem take_fst : (pool.take key).1 = (pool.shelf key).head? := by
  rcases take_cases pool key with ⟨top, rest, hshelf, htake⟩ | ⟨hshelf, htake⟩
  · rw [htake, hshelf]
    rfl
  · rw [htake, hshelf]
    rfl

/-- The rest of the shelf stays, and so do all other shelves. -/
theorem shelf_take :
    (pool.take key).2.shelf other =
      if other = key then (pool.shelf key).tail else pool.shelf other := by
  rcases take_cases pool key with ⟨top, rest, hshelf, htake⟩ | ⟨hshelf, htake⟩
  · have hput : (pool.take key).2.shelf other =
        if other == key then rest else pool.shelf other := htake ▸ shelf_put pool key other rest
    rw [hput, hshelf]
    simp only [beq_iff_eq, List.tail_cons]
  · have hsame : (pool.take key).2.shelf other = pool.shelf other := by
      rw [htake]
      rfl
    rw [hsame]
    split
    · rename_i hother
      rw [hother, hshelf]
      rfl
    · rfl

/-- What is given back is put on top of the shelf if there is room, and all other shelves stay. -/
theorem shelf_release (item : α) :
    (pool.release key item).shelf other =
      if other = key then
        if pool.capacity.leavesRoom (.ofNat (pool.shelf key).length) then item :: pool.shelf key
        else pool.shelf key
      else pool.shelf other := by
  have hput := shelf_put pool key other
    (if pool.capacity.leavesRoom (.ofNat (pool.shelf key).length) then item :: pool.shelf key
      else pool.shelf key)
  simp only [beq_iff_eq] at hput
  exact hput

/-- A shelf that is made is empty. -/
theorem shelf_withShelf : (pool.withShelf key).shelf other = pool.shelf other := by
  have hput := shelf_put pool key other (pool.shelf key)
  simp only [beq_iff_eq] at hput
  refine hput.trans ?_
  split
  · rename_i hother
    rw [hother]
  · rfl

/-- Every request is counted, be it met or not. -/
theorem created_add_reused_take :
    (pool.take key).2.created + (pool.take key).2.reused = pool.created + pool.reused + 1 := by
  rcases take_cases pool key with ⟨_, _, _, htake⟩ | ⟨_, htake⟩
  · rw [htake]
    exact (Nat.add_assoc _ _ _).symm
  · rw [htake]
    exact Nat.add_right_comm _ _ _

/-- Taking gives nothing back. -/
@[simp] theorem released_take : (pool.take key).2.released = pool.released := by
  rcases take_cases pool key with ⟨_, _, _, htake⟩ | ⟨_, htake⟩
  · rw [htake]
  · rw [htake]

@[simp] theorem clear_take : (pool.take key).2.clear = pool.clear := by
  rcases take_cases pool key with ⟨_, _, _, htake⟩ | ⟨_, htake⟩
  · rw [htake]
    rfl
  · rw [htake]
    rfl

@[simp] theorem clear_release (item : α) : (pool.release key item).clear = pool.clear := rfl

/-- Pools that are the same without what they keep and count have the same capacity. -/
theorem capacity_eq_of_clear_eq {pool fewer : Pool α} (h : fewer.clear = pool.clear) :
    fewer.capacity = pool.capacity := by
  have hcapacity : fewer.clear.capacity = pool.clear.capacity := by rw [h]
  exact hcapacity

section Members

variable {pool} {key other} {item kept : α}

/-- What is taken was on the shelf. -/
theorem mem_shelf_of_take (h : (pool.take key).1 = some item) : item ∈ pool.shelf key := by
  rw [take_fst] at h
  exact List.mem_of_mem_head? h

/-- What is on a shelf after something has been taken was there before. -/
theorem mem_shelf_take (h : kept ∈ (pool.take key).2.shelf other) : kept ∈ pool.shelf other := by
  rw [shelf_take] at h
  split at h
  · rename_i hother
    exact hother ▸ List.mem_of_mem_tail h
  · exact h

/-- What is on a shelf after something has been given back was there before, or was given back. -/
theorem mem_shelf_release (h : kept ∈ (pool.release key item).shelf other) :
    kept ∈ pool.shelf other ∨ other = key ∧ kept = item := by
  rw [shelf_release] at h
  split at h
  · rename_i hother
    subst hother
    split at h
    · exact (List.mem_cons.mp h).symm.imp id fun hnew => ⟨rfl, hnew⟩
    · exact Or.inl h
  · exact Or.inl h

end Members

/-! ## What a pool keeps -/

/-- Everything that a pool keeps. -/
def kept : List α := pool.shelves.flatMap (·.2)

/-- How many things of a sort are kept after a shelf has been filled anew. -/
theorem countP_put (p : α → Bool) (items : List α) (shelves : List (String × List α)) :
    ((Keyed.put key items shelves).flatMap (·.2)).countP p +
        ((shelves.lookup key).getD []).countP p =
      (shelves.flatMap (·.2)).countP p + items.countP p := by
  induction shelves with
  | nil => simp [Keyed.put]
  | cons entry rest ih =>
      obtain ⟨name, old⟩ := entry
      rw [Keyed.put, List.lookup_cons, List.flatMap_cons, List.countP_append]
      by_cases hname : name = key
      · subst hname
        rw [if_pos (beq_self_eq_true name), beq_self_eq_true, List.flatMap_cons,
          List.countP_append]
        simp only [Option.getD_some]
        omega
      · have hkey : (key == name) = false := beq_eq_false_iff_ne.mpr (Ne.symm hname)
        rw [if_neg (by simpa using hname), hkey, List.flatMap_cons, List.countP_append]
        simp only
        omega

/-- What is on a shelf is kept. -/
theorem countP_shelf_le (p : α → Bool) :
    (pool.shelf key).countP p ≤ pool.kept.countP p := by
  have hput := countP_put key p [] pool.shelves
  have hshelf : ((pool.shelves.lookup key).getD []).countP p = (pool.shelf key).countP p := rfl
  rw [hshelf, List.countP_nil] at hput
  unfold kept
  omega

/-- What is taken is kept no longer. -/
theorem countP_kept_take (p : α → Bool) :
    (pool.take key).2.kept.countP p + (pool.take key).1.toList.countP p =
      pool.kept.countP p := by
  rcases take_cases pool key with ⟨top, rest, hshelf, htake⟩ | ⟨_, htake⟩
  · have hput := countP_put key p rest pool.shelves
    have hold : ((pool.shelves.lookup key).getD []).countP p =
        rest.countP p + [top].countP p := by
      show (pool.shelf key).countP p = _
      rw [hshelf, ← List.singleton_append, List.countP_append, Nat.add_comm]
    rw [htake]
    show ((Keyed.put key rest pool.shelves).flatMap (·.2)).countP p + [top].countP p = _
    unfold kept
    omega
  · rw [htake]
    exact Nat.add_zero _

/-- At most what is given back is kept besides what was kept before. -/
theorem countP_kept_release_le (p : α → Bool) (item : α) :
    (pool.release key item).kept.countP p ≤ pool.kept.countP p + [item].countP p := by
  have hput := countP_put key p
    (if pool.capacity.leavesRoom (.ofNat (pool.shelf key).length) then item :: pool.shelf key
      else pool.shelf key) pool.shelves
  have hshelf : ((pool.shelves.lookup key).getD []).countP p = (pool.shelf key).countP p := rfl
  have hadded : (if pool.capacity.leavesRoom (.ofNat (pool.shelf key).length) then
      item :: pool.shelf key else pool.shelf key).countP p ≤
        (pool.shelf key).countP p + [item].countP p := by
    split
    · rw [← List.singleton_append, List.countP_append]
      exact Nat.le_of_eq (Nat.add_comm _ _)
    · exact Nat.le_add_right _ _
  show ((Keyed.put key _ pool.shelves).flatMap (·.2)).countP p ≤ _
  unfold kept
  omega

end ChunkGraph.Pool
