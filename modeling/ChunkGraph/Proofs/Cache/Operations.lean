import ChunkGraph.Cache
import ChunkGraph.Proofs.Data.Keyed
import ChunkGraph.Proofs.Number.Order

/-!
# What the operations of a cache do

A lookup is served, and then nothing but the count of hits changes, or it drops
whatever is kept for its path. Storing puts the value under its path, and only
for a new path in a full cache something else goes first: the oldest entry, the
others staying in their order. Capacity and lifetime never change.

## Main definitions

* `Cache.Replaces` — an entry is stored in the place of the oldest one.

## Main results

* `Cache.get_cases` — what a lookup can do.
* `Cache.set_cases`, `Cache.replaces_set`, `Cache.size_set_cases` — what storing
  can do.
* `Cache.not_lt_oldestFrom` — no entry has an earlier time than the oldest.
* `Cache.lookup_change` — what is found after a value has been changed.
* `Cache.clear_get`, `Cache.clear_set`, `Cache.clear_change` — the bounds stay as
  they are.
-/

namespace ChunkGraph

open Number

/-- A quantity does not pass a bound that admits it, nor one that it cannot be compared with. -/
theorem Bound.passedBy_eq_false_iff (b : Bound) (q : Quantity) :
    b.passedBy q = false ↔ b.admits q = true ∨ compare? q b = none := by
  unfold passedBy admits
  cases compare? q b with
  | none => simp
  | some order =>
      cases order with
      | lt => simp
      | eq => simp
      | gt => simp

namespace Cache

variable {α : Type}

/-! ## Bounds -/

/-- Emptied caches that agree have the same bounds. -/
theorem bounds_eq_of_clear_eq {cache other : Cache α} (h : cache.clear = other.clear) :
    cache.capacity = other.capacity ∧ cache.lifetime = other.lifetime := by
  have hcapacity : cache.clear.capacity = other.clear.capacity := by rw [h]
  have hlifetime : cache.clear.lifetime = other.clear.lifetime := by rw [h]
  exact ⟨hcapacity, hlifetime⟩

theorem getFault?_eq_none {cache : Cache α} (h : cache.lifetime.isNumber = true) (path : String) :
    cache.getFault? path = none := by
  unfold getFault?
  rw [Bound.fault?_of_isNumber h]
  split
  · rfl
  · rfl

theorem setFault?_eq_none {cache : Cache α} (h : cache.capacity.isNumber = true) (path : String) :
    cache.setFault? path = none := by
  unfold setFault?
  rw [Bound.fault?_of_isNumber h]
  split
  · rfl
  · rfl

theorem setFault?_of_not_contains {cache : Cache α} {path : String}
    (h : cache.contains path = false) :
    cache.setFault? path = cache.capacity.fault? ">=" Bound.countType := by
  unfold setFault?
  rw [h]
  rfl

/-! ## Entries -/

theorem contains_eq_false_iff {cache : Cache α} {path : String} :
    cache.contains path = false ↔ cache.entries.lookup path = none := by
  unfold contains
  rw [← Bool.not_eq_true, Keyed.has_iff_exists_lookup]
  cases cache.entries.lookup path with
  | none => simp
  | some entry => simp

theorem contains_of_lookup {cache : Cache α} {path : String} {entry : Entry α}
    (h : cache.entries.lookup path = some entry) : cache.contains path = true :=
  (Keyed.has_iff_exists_lookup path cache.entries).mpr ⟨entry, h⟩

theorem lookup_erase_of_eq_some {cache : Cache α} {path other : String} {entry : Entry α}
    (h : (Keyed.erase path cache.entries).lookup other = some entry) :
    cache.entries.lookup other = some entry := by
  rw [Keyed.lookup_erase] at h
  split at h
  · exact absurd h (by simp)
  · exact h

/-! ## Looking up -/

/-- A lookup is served from a fresh entry, or it drops what is kept for its path. -/
theorem get_cases (cache : Cache α) (now : Quantity) (path hash : String) :
    (∃ entry, cache.entries.lookup path = some entry ∧ cache.isFresh now hash entry = true ∧
        cache.get now path hash = (some entry.value, { cache with hits := cache.hits + 1 })) ∨
      ((∀ entry, cache.entries.lookup path = some entry → cache.isFresh now hash entry = false) ∧
        cache.get now path hash = (none, { cache with
          entries := Keyed.erase path cache.entries
          misses := cache.misses + 1 })) := by
  unfold get
  cases hlookup : cache.entries.lookup path with
  | none =>
      have habsent : path ∉ cache.entries.map (·.1) := by
        rw [← Keyed.has_iff_mem_keys]
        exact Bool.eq_false_iff.mp (contains_eq_false_iff.mpr hlookup)
      refine Or.inr ⟨fun _ h => absurd h (by simp), ?_⟩
      rw [Keyed.erase_of_not_mem habsent]
  | some entry =>
      cases hfresh : cache.isFresh now hash entry with
      | true => exact Or.inl ⟨entry, rfl, hfresh, by simp [hfresh]⟩
      | false =>
          refine Or.inr ⟨fun other h => ?_, by simp [hfresh]⟩
          rw [← Option.some.inj h]
          exact hfresh

/-- A lookup is served from an entry with that hash whose age does not pass the lifetime. -/
theorem get_eq_some_iff (cache : Cache α) (now : Quantity) (path hash : String) (value : α) :
    (cache.get now path hash).1 = some value ↔
      ∃ time, cache.entries.lookup path = some ⟨value, hash, time⟩ ∧
        cache.lifetime.passedBy (now.sub time) = false := by
  have hfresh (entry : Entry α) : cache.isFresh now hash entry = true ↔
      entry.hash = hash ∧ cache.lifetime.passedBy (now.sub entry.time) = false := by
    rw [isFresh, Bool.and_eq_true, beq_iff_eq, Bool.not_eq_true']
  rcases get_cases cache now path hash with ⟨entry, hentry, hserved, hget⟩ | ⟨hstale, hget⟩
  · rw [hget, hentry]
    obtain ⟨rfl, hage⟩ := (hfresh entry).mp hserved
    constructor
    · intro h
      obtain rfl := Option.some.inj h
      exact ⟨entry.time, rfl, hage⟩
    · rintro ⟨time, h, _⟩
      rw [Option.some.inj h]
  · rw [hget]
    refine ⟨fun h => absurd h (by simp), ?_⟩
    rintro ⟨time, h, hage⟩
    have hserved := (hfresh ⟨value, hash, time⟩).mpr ⟨rfl, hage⟩
    rw [hstale _ h] at hserved
    exact absurd hserved (by simp)

theorem clear_get (cache : Cache α) (now : Quantity) (path hash : String) :
    (cache.get now path hash).2.clear = cache.clear := by
  rcases get_cases cache now path hash with ⟨entry, _, _, h⟩ | ⟨_, h⟩
  · rw [h]
    rfl
  · rw [h]
    rfl

/-- A lookup makes no room. -/
theorem evictions_get (cache : Cache α) (now : Quantity) (path hash : String) :
    (cache.get now path hash).2.evictions = cache.evictions := by
  rcases get_cases cache now path hash with ⟨entry, _, _, h⟩ | ⟨_, h⟩
  · rw [h]
  · rw [h]

/-- A lookup that is served finds an entry with that hash and changes no entry. -/
theorem get_eq_some {cache after : Cache α} {now : Quantity} {path hash : String} {value : α}
    (h : cache.get now path hash = (some value, after)) :
    (∃ entry, cache.entries.lookup path = some entry ∧ entry.hash = hash ∧ entry.value = value) ∧
      after.entries = cache.entries ∧ after.clear = cache.clear := by
  rcases get_cases cache now path hash with ⟨entry, hentry, hfresh, hget⟩ | ⟨_, hget⟩
  · obtain ⟨hvalue, rfl⟩ := Prod.mk.inj (hget.symm.trans h)
    unfold isFresh at hfresh
    rw [Bool.and_eq_true, beq_iff_eq] at hfresh
    exact ⟨⟨entry, hentry, hfresh.1, Option.some.inj hvalue⟩, rfl, rfl⟩
  · exact absurd (Prod.mk.inj (hget.symm.trans h)).1 (by simp)

/-- A lookup that is not served leaves no entry for the path and adds none. -/
theorem get_eq_none {cache after : Cache α} {now : Quantity} {path hash : String}
    (h : cache.get now path hash = (none, after)) :
    after.contains path = false ∧ after.clear = cache.clear ∧
      ∀ other entry, after.entries.lookup other = some entry →
        cache.entries.lookup other = some entry := by
  rcases get_cases cache now path hash with ⟨entry, _, _, hget⟩ | ⟨_, hget⟩
  · exact absurd (Prod.mk.inj (hget.symm.trans h)).1 (by simp)
  · obtain ⟨_, rfl⟩ := Prod.mk.inj (hget.symm.trans h)
    refine ⟨contains_eq_false_iff.mpr ?_, rfl, fun _ _ hentry => lookup_erase_of_eq_some hentry⟩
    rw [Keyed.lookup_erase, if_pos (beq_self_eq_true path)]

/-! ## Making room -/

theorem oldestFrom_mem (entry : String × Entry α) (rest : List (String × Entry α)) :
    oldestFrom entry rest ∈ entry :: rest := by
  induction rest generalizing entry with
  | nil => exact List.mem_cons_self
  | cons other rest ih =>
      rw [oldestFrom]
      have hmem := ih (if other.2.time.lt entry.2.time then other else entry)
      rcases List.mem_cons.mp hmem with h | h
      · rw [h]
        split
        · exact List.mem_cons_of_mem _ List.mem_cons_self
        · exact List.mem_cons_self
      · exact List.mem_cons_of_mem _ (List.mem_cons_of_mem _ h)

/-- The search for the oldest entry only leaves one for an earlier one. -/
theorem oldestFrom_eq_or_lt (entry : String × Entry α) (rest : List (String × Entry α)) :
    oldestFrom entry rest = entry ∨
      (oldestFrom entry rest).2.time.lt entry.2.time = true := by
  induction rest generalizing entry with
  | nil => exact Or.inl rfl
  | cons other rest ih =>
      rw [oldestFrom]
      cases hlt : other.2.time.lt entry.2.time with
      | false => exact ih entry
      | true =>
          refine Or.inr ?_
          rcases ih other with h | h
          · rw [if_pos rfl, h]
            exact hlt
          · exact Quantity.lt_trans h hlt

/-- No entry has an earlier time than the oldest one. -/
theorem not_lt_oldestFrom (entry : String × Entry α) (rest : List (String × Entry α)) :
    ∀ kept ∈ entry :: rest, kept.2.time.lt (oldestFrom entry rest).2.time = false := by
  induction rest generalizing entry with
  | nil =>
      intro kept hkept
      rw [List.mem_singleton.mp hkept]
      exact Quantity.lt_irrefl _
  | cons other rest ih =>
      intro kept hkept
      rw [oldestFrom]
      cases hlt : other.2.time.lt entry.2.time with
      | true =>
          rw [if_pos rfl]
          rcases List.mem_cons.mp hkept with rfl | hkept
          · -- what is earlier than the oldest is earlier than `other`, which is earlier still
            rw [← Bool.not_eq_true]
            intro hearlier
            have hother := ih other other List.mem_cons_self
            rw [Quantity.lt_trans hlt hearlier] at hother
            exact absurd hother (by simp)
          · exact ih other kept hkept
      | false =>
          rw [if_neg Bool.false_ne_true]
          rcases List.mem_cons.mp hkept with rfl | hkept
          · exact ih kept kept List.mem_cons_self
          · rcases List.mem_cons.mp hkept with rfl | hkept
            · rcases oldestFrom_eq_or_lt entry rest with h | h
              · rw [h]
                exact hlt
              · rw [← Bool.not_eq_true]
                intro hearlier
                rw [Quantity.lt_trans hearlier h] at hlt
                exact absurd hlt (by simp)
            · exact ih entry kept (List.mem_cons_of_mem _ hkept)

theorem evict_of_nil {cache : Cache α} (h : cache.entries = []) : cache.evict = cache := by
  unfold evict
  rw [h]
  rfl

theorem evict_of_cons {cache : Cache α} {first : String × Entry α}
    {rest : List (String × Entry α)} (h : cache.entries = first :: rest) :
    cache.evict = { cache with
      entries := Keyed.erase (oldestFrom first rest).1 cache.entries
      evictions := cache.evictions + 1 } := by
  unfold evict
  rw [h]
  rfl

/-! ## Storing -/

/-- Storing puts the value under its path. Before that, a full cache drops its oldest entry if the
path is new. -/
theorem set_cases (cache : Cache α) (now : Quantity) (path hash : String) (value : α) :
    ((cache.contains path = true ∨ cache.capacity.reachedBy (.ofNat cache.size) = false ∨
        cache.entries = []) ∧
      cache.set now path hash value =
        { cache with entries := Keyed.put path ⟨value, hash, now⟩ cache.entries }) ∨
    (cache.contains path = false ∧ cache.capacity.reachedBy (.ofNat cache.size) = true ∧
      ∃ first rest, cache.entries = first :: rest ∧
        cache.set now path hash value =
          { cache with
            entries := Keyed.put path ⟨value, hash, now⟩
              (Keyed.erase (oldestFrom first rest).1 cache.entries)
            evictions := cache.evictions + 1 }) := by
  unfold set makeRoom
  cases hcontains : cache.contains path with
  | true => exact Or.inl ⟨Or.inl rfl, rfl⟩
  | false =>
      cases hfull : cache.capacity.reachedBy (.ofNat cache.size) with
      | false => exact Or.inl ⟨Or.inr (Or.inl rfl), rfl⟩
      | true =>
          rw [Bool.not_false, Bool.and_self, if_pos rfl]
          by_cases hnil : cache.entries = []
          · rw [evict_of_nil hnil]
            exact Or.inl ⟨Or.inr (Or.inr hnil), rfl⟩
          · obtain ⟨first, rest, hcons⟩ := List.exists_cons_of_ne_nil hnil
            rw [evict_of_cons hcons]
            exact Or.inr ⟨rfl, rfl, first, rest, hcons, rfl⟩

theorem clear_set (cache : Cache α) (now : Quantity) (path hash : String) (value : α) :
    (cache.set now path hash value).clear = cache.clear := by
  rcases set_cases cache now path hash value with ⟨_, h⟩ | ⟨_, _, _, _, _, h⟩
  · rw [h]
    rfl
  · rw [h]
    rfl

/-- A stored value is found under its path. -/
theorem lookup_set_self (cache : Cache α) (now : Quantity) (path hash : String) (value : α) :
    (cache.set now path hash value).entries.lookup path = some ⟨value, hash, now⟩ := by
  have hput (entries : List (String × Entry α)) :
      (Keyed.put path ⟨value, hash, now⟩ entries).lookup path = some ⟨value, hash, now⟩ := by
    rw [Keyed.lookup_put, if_pos (beq_self_eq_true path)]
  exact hput (cache.makeRoom path).entries

/-- Storing leaves what is found under another path, unless that had to make room. -/
theorem lookup_set_of_ne {cache : Cache α} {path other : String} (hne : other ≠ path)
    (now : Quantity) (hash : String) (value : α) :
    (cache.set now path hash value).entries.lookup other = cache.entries.lookup other ∨
      (cache.set now path hash value).entries.lookup other = none ∧
        cache.evictions < (cache.set now path hash value).evictions := by
  have hput (entries : List (String × Entry α)) :
      (Keyed.put path ⟨value, hash, now⟩ entries).lookup other = entries.lookup other := by
    rw [Keyed.lookup_put, if_neg (by simpa using hne)]
  rcases set_cases cache now path hash value with ⟨_, h⟩ | ⟨_, _, first, rest, _, h⟩
  · rw [h]
    exact Or.inl (hput _)
  · rw [h]
    simp only [hput, Keyed.lookup_erase]
    split
    · exact Or.inr ⟨rfl, Nat.lt_succ_self _⟩
    · exact Or.inl rfl

/-- After a value has been stored, an entry is the new one or was there before. -/
theorem lookup_set {cache : Cache α} {now : Quantity} {path hash other : String} {value : α}
    {entry : Entry α} (h : (cache.set now path hash value).entries.lookup other = some entry) :
    other = path ∧ entry = ⟨value, hash, now⟩ ∨ cache.entries.lookup other = some entry := by
  by_cases hother : other = path
  · subst hother
    rw [lookup_set_self] at h
    exact Or.inl ⟨rfl, (Option.some.inj h).symm⟩
  · rcases lookup_set_of_ne hother now hash value with hsame | ⟨hnone, _⟩
    · exact Or.inr (hsame ▸ h)
    · exact absurd (hnone.symm.trans h) (by simp)

/-- An entry is stored under a new path in the place of the oldest one: that one goes, the others
keep their order, and none of them was stored before it. -/
structure Replaces (cache after : Cache α) (path : String) (entry : Entry α) : Prop where
  /-- The path is new. -/
  absent : cache.contains path = false
  /-- The cache is full. -/
  full : cache.capacity.reachedBy (.ofNat cache.size) = true
  /-- One entry has gone, and it was the oldest. -/
  replaced : ∃ front removed back, cache.entries = front ++ removed :: back ∧
    after.entries = front ++ back ++ [(path, entry)] ∧
    ∀ kept ∈ front ++ back, kept.2.time.lt removed.2.time = false
  /-- It is counted. -/
  counted : after.evictions = cache.evictions + 1

/-- Where every path has one entry, storing replaces the oldest entry whenever it makes room. -/
theorem replaces_set {cache : Cache α} (hnodup : (cache.entries.map (·.1)).Nodup) {now : Quantity}
    {path hash : String} {value : α}
    (h : cache.evictions < (cache.set now path hash value).evictions) :
    Replaces cache (cache.set now path hash value) path ⟨value, hash, now⟩ := by
  rcases set_cases cache now path hash value with
    ⟨_, hset⟩ | ⟨habsent, hfull, first, rest, hlist, hset⟩
  · rw [hset] at h
    exact absurd h (Nat.lt_irrefl _)
  · obtain ⟨front, back, hsplit⟩ := List.append_of_mem (oldestFrom_mem first rest)
    have hentries : cache.entries = front ++ oldestFrom first rest :: back := hlist.trans hsplit
    have herase : Keyed.erase (oldestFrom first rest).1 cache.entries = front ++ back := by
      rw [hentries] at hnodup ⊢
      exact Keyed.erase_append_cons hnodup
    have hkept : ∀ kept ∈ front ++ back, kept ∈ cache.entries := by
      intro kept hkept
      rw [hentries]
      exact List.perm_middle.mem_iff.mpr (List.mem_cons_of_mem _ hkept)
    have hnew : path ∉ (front ++ back).map (·.1) := by
      rw [List.mem_map]
      rintro ⟨kept, hmem, rfl⟩
      refine Bool.eq_false_iff.mp habsent ?_
      exact (Keyed.has_iff_mem_keys _ _).mpr (List.mem_map_of_mem (hkept kept hmem))
    rw [hset, herase, Keyed.put_of_not_mem _ hnew]
    refine ⟨habsent, hfull, ⟨front, oldestFrom first rest, back, hentries, rfl, ?_⟩, rfl⟩
    intro kept hmem
    exact not_lt_oldestFrom first rest kept (hlist ▸ hkept kept hmem)

/-- Storing adds an entry only where the cache is not full, or where it has no entry. -/
theorem size_set_cases {cache : Cache α} (hnodup : (cache.entries.map (·.1)).Nodup) (now : Quantity)
    (path hash : String) (value : α) :
    (cache.set now path hash value).size = cache.size ∨
      (cache.capacity.reachedBy (.ofNat cache.size) = false ∨ cache.entries = []) ∧
        (cache.set now path hash value).size = cache.size + 1 := by
  by_cases hmade : cache.evictions < (cache.set now path hash value).evictions
  · obtain ⟨front, removed, back, hentries, hafter, _⟩ := (replaces_set hnodup hmade).replaced
    left
    rw [size, size, hafter, hentries]
    simp only [List.length_append, List.length_cons, List.length_nil]
    omega
  · rcases set_cases cache now path hash value with ⟨hroom, hset⟩ | ⟨_, _, _, _, _, hset⟩
    · have hsize : (cache.set now path hash value).size =
          ((Keyed.put path ⟨value, hash, now⟩ cache.entries).map (·.1)).length := by
        rw [hset, size, List.length_map]
      rw [hsize, Keyed.keys_put]
      split
      · left
        rw [List.length_map, size]
      · rename_i hnew
        right
        rw [List.length_append, List.length_map]
        exact ⟨hroom.resolve_left hnew, rfl⟩
    · rw [hset] at hmade
      exact absurd (Nat.lt_succ_self _) hmade

/-! ## Changing a value -/

/-- Changing a value changes nothing but the entries. -/
theorem change_eq (cache : Cache α) (path : String) (f : α → α) :
    ∃ entries, cache.change path f = { cache with entries } := by
  unfold change
  cases cache.entries.lookup path with
  | none => exact ⟨cache.entries, rfl⟩
  | some entry => exact ⟨_, rfl⟩

theorem clear_change (cache : Cache α) (path : String) (f : α → α) :
    (cache.change path f).clear = cache.clear := by
  obtain ⟨entries, hchange⟩ := cache.change_eq path f
  rw [hchange]
  rfl

/-- A changed value is found where the old one was, and all else is as before. -/
theorem lookup_change (cache : Cache α) (path other : String) (f : α → α) :
    (cache.change path f).entries.lookup other =
      if other == path then
        (cache.entries.lookup path).map fun entry => { entry with value := f entry.value }
      else cache.entries.lookup other := by
  unfold change
  cases hlookup : cache.entries.lookup path with
  | none =>
      by_cases hother : (other == path) = true
      · rw [if_pos hother, eq_of_beq hother, hlookup]
        rfl
      · rw [if_neg hother]
  | some entry => exact Keyed.lookup_put _ _ _ _

end Cache

end ChunkGraph
