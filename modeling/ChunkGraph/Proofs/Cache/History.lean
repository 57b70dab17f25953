import ChunkGraph.Proofs.Cache.Operations
import Mathlib.Data.List.Induction

/-!
# What a cache answers after a history of operations

An entry is kept from the step that stores it until a step ends it: another
value stored under its path, an invalidation, an emptied cache, a lookup at its
path that is not served, or an entry that has to make room. So what a cache
answers can be read off the steps that came before.

An age that can be compared with the lifetime decides whether an entry is
served. An age that is undefined does not pass the lifetime, and the entry is
served; it is not at most the lifetime either.

## Main definitions

* `Cache.Step`, `Cache.after` — an operation, and the cache after several.
* `Cache.Step.Ends` — the step takes away what is kept for a path.
* `Cache.Stores` — an entry was stored, and nothing has ended it.
* `Cache.Lawful` — what holds of a cache after its steps.

## Main results

* `Cache.Step.lookup_run_iff` — what is found after one step.
* `Cache.lookup_after_iff` — what is found after all of them.
* `Cache.lawful_after` — a new cache is lawful after any steps.
* `Cache.serves_undefined_age` — an entry whose age is not at most the lifetime,
  and which is served.
-/

namespace ChunkGraph.Cache

open Number

/-- An operation on a cache. -/
inductive Step (α : Type) where
  /-- A value is stored. -/
  | set (now : Quantity) (path hash : String) (value : α)
  /-- A value is looked up. -/
  | get (now : Quantity) (path hash : String)
  /-- What is kept for a path is dropped. -/
  | invalidate (path : String)
  /-- The cache is emptied. -/
  | clear

variable {α : Type}

namespace Step

/-- The cache after an operation. -/
def run : Step α → Cache α → Cache α
  | .set now path hash value, cache => cache.set now path hash value
  | .get now path hash, cache => (cache.get now path hash).2
  | .invalidate path, cache => cache.invalidate path
  | .clear, cache => cache.clear

/-- The step empties the cache. -/
def isClear : Step α → Bool
  | .clear => true
  | _ => false

/-- The step is a lookup. -/
def isGet : Step α → Bool
  | .get _ _ _ => true
  | _ => false

/-- The entry of a path has to make room. -/
def Evicts (step : Step α) (cache : Cache α) (path : String) : Prop :=
  cache.evictions < (step.run cache).evictions ∧ cache.contains path = true ∧
    (step.run cache).contains path = false

/-- The step takes away what is kept for a path, be it for another value. -/
def Ends : Step α → Cache α → String → Prop
  | .set now other hash value, cache, path =>
      other = path ∨ (Step.set now other hash value).Evicts cache path
  | .get now other hash, cache, path => other = path ∧ (cache.get now other hash).1 = none
  | .invalidate other, _, path => other = path
  | .clear, _, _ => True

end Step

/-- The cache after several operations. -/
def after (new : Cache α) (steps : List (Step α)) : Cache α :=
  steps.foldl (fun cache step => step.run cache) new

theorem after_concat (new : Cache α) (steps : List (Step α)) (step : Step α) :
    new.after (steps ++ [step]) = step.run (new.after steps) := List.foldl_concat _ _ _ _

/-! ## What a step keeps -/

namespace Step

theorem clear_run (step : Step α) (cache : Cache α) : (step.run cache).clear = cache.clear := by
  cases step with
  | set now path hash value => exact clear_set cache now path hash value
  | get now path hash => exact clear_get cache now path hash
  | invalidate path => rfl
  | clear => rfl

/-- Every path keeps at most one entry. -/
theorem nodup_keys_run (step : Step α) {cache : Cache α} (h : (cache.entries.map (·.1)).Nodup) :
    ((step.run cache).entries.map (·.1)).Nodup := by
  cases step with
  | set now path hash value =>
      rw [run]
      rcases set_cases cache now path hash value with ⟨_, hset⟩ | ⟨_, _, _, _, _, hset⟩
      · rw [hset]
        exact Keyed.nodup_keys_put h path _
      · rw [hset]
        exact Keyed.nodup_keys_put (Keyed.nodup_keys_erase h _) path _
  | get now path hash =>
      rw [run]
      rcases get_cases cache now path hash with ⟨_, _, _, hget⟩ | ⟨_, hget⟩
      · rw [hget]
        exact h
      · rw [hget]
        exact Keyed.nodup_keys_erase h path
  | invalidate path => exact Keyed.nodup_keys_erase h path
  | clear => exact List.nodup_nil

/-- Only storing makes room, and then it replaces the oldest entry. -/
theorem replaces_run (step : Step α) {cache : Cache α} (hnodup : (cache.entries.map (·.1)).Nodup)
    (h : cache.evictions < (step.run cache).evictions) :
    ∃ now path hash value, step = .set now path hash value ∧
      Replaces cache (step.run cache) path ⟨value, hash, now⟩ := by
  cases step with
  | set now path hash value => exact ⟨now, path, hash, value, rfl, replaces_set hnodup h⟩
  | get now path hash =>
      rw [run, evictions_get] at h
      exact absurd h (Nat.lt_irrefl _)
  | invalidate path => exact absurd h (Nat.lt_irrefl _)
  | clear => exact absurd h (Nat.not_lt_zero _)

/-- A number of entries at which the cache is full is not exceeded. -/
theorem size_run_le (step : Step α) {cache : Cache α} {n : Nat}
    (hnodup : (cache.entries.map (·.1)).Nodup) (hpos : 0 < n)
    (hfull : cache.capacity.reachedBy (.ofNat n) = true) (h : cache.size ≤ n) :
    (step.run cache).size ≤ n := by
  have hfewer (path : String) : (Keyed.erase path cache.entries).length ≤ n :=
    Nat.le_trans (List.length_filter_le _ _) h
  cases step with
  | set now path hash value =>
      rw [run]
      rcases size_set_cases hnodup now path hash value with hsame | ⟨hroom, hmore⟩
      · rw [hsame]
        exact h
      · have hless : cache.size < n := by
          rcases hroom with hroom | hempty
          · refine Nat.lt_of_le_of_ne h fun heq => ?_
            rw [heq, hfull] at hroom
            exact absurd hroom (by simp)
          · rw [size, hempty]
            exact hpos
        rw [hmore]
        exact hless
  | get now path hash =>
      rw [run]
      rcases get_cases cache now path hash with ⟨_, _, _, hget⟩ | ⟨_, hget⟩
      · rw [hget]
        exact h
      · rw [hget]
        exact hfewer path
  | invalidate path => exact hfewer path
  | clear => exact Nat.zero_le n

end Step

/-- The bounds are those of another cache, and every path keeps at most one entry. -/
structure Kept (new cache : Cache α) : Prop where
  /-- Emptied, the caches agree. -/
  clear_eq : cache.clear = new.clear
  /-- No path occurs twice. -/
  nodup_keys : (cache.entries.map (·.1)).Nodup

theorem Kept.bounds {new cache : Cache α} (h : Kept new cache) :
    cache.capacity = new.capacity ∧ cache.lifetime = new.lifetime :=
  bounds_eq_of_clear_eq h.clear_eq

theorem Kept.run {new cache : Cache α} (h : Kept new cache) (step : Step α) :
    Kept new (step.run cache) :=
  ⟨(step.clear_run cache).trans h.clear_eq, step.nodup_keys_run h.nodup_keys⟩

theorem kept_after {new : Cache α} (hnew : new.entries = []) (steps : List (Step α)) :
    Kept new (new.after steps) := by
  induction steps using List.reverseRecOn with
  | nil => exact ⟨rfl, by rw [after, List.foldl_nil, hnew]; exact List.nodup_nil⟩
  | append_singleton steps step ih =>
      rw [after_concat]
      exact ih.run step

/-- A number of entries at which the cache is full is not exceeded after any steps. -/
theorem size_after_le {new : Cache α} (hnew : new.entries = []) {n : Nat} (hpos : 0 < n)
    (hfull : new.capacity.reachedBy (.ofNat n) = true) (steps : List (Step α)) :
    (new.after steps).size ≤ n := by
  induction steps using List.reverseRecOn with
  | nil =>
      rw [after, List.foldl_nil, size, hnew]
      exact Nat.zero_le n
  | append_singleton steps step ih =>
      have hkept := kept_after hnew steps
      rw [after_concat]
      exact step.size_run_le hkept.nodup_keys hpos (hkept.bounds.1 ▸ hfull) ih

/-! ## What is found after a step -/

namespace Step

/-- What is found under a path after a step is what the step stores there, or what was found before
and the step does not end. -/
theorem lookup_run_iff (step : Step α) (cache : Cache α) (path : String) (entry : Entry α) :
    (step.run cache).entries.lookup path = some entry ↔
      step = .set entry.time path entry.hash entry.value ∨
        cache.entries.lookup path = some entry ∧ ¬ step.Ends cache path := by
  have herase (other : String) : (Keyed.erase other cache.entries).lookup path = some entry ↔
      cache.entries.lookup path = some entry ∧ other ≠ path := by
    rw [Keyed.lookup_erase]
    by_cases hother : path = other
    · simp [hother]
    · simp [hother, Ne.symm hother]
  cases step with
  | set now other hash value =>
      by_cases hother : other = path
      · subst hother
        simp only [run, lookup_set_self, Option.some.injEq, Ends, true_or, not_true, and_false,
          or_false, set.injEq, true_and]
        constructor
        · rintro rfl
          exact ⟨rfl, rfl, rfl⟩
        · rintro ⟨rfl, rfl, rfl⟩
          rfl
      · have hset : Step.set now other hash value ≠
            .set entry.time path entry.hash entry.value :=
          fun heq => hother (Step.set.inj heq).2.1
        simp only [hset, hother, Ends, Evicts, run, false_or]
        rcases lookup_set_of_ne (Ne.symm hother) now hash value with hsame | ⟨hnone, hcount⟩
        · rw [hsame]
          refine ⟨fun h => ⟨h, ?_⟩, fun h => h.1⟩
          rintro ⟨_, hin, hout⟩
          rw [contains_eq_false_iff, hsame, ← contains_eq_false_iff, hin] at hout
          exact absurd hout (by simp)
        · rw [hnone]
          refine ⟨fun h => absurd h (by simp), fun ⟨h, hkept⟩ => ?_⟩
          exact absurd ⟨hcount, contains_of_lookup h, contains_eq_false_iff.mpr hnone⟩ hkept
  | get now other hash =>
      simp only [run, Ends, reduceCtorEq, false_or]
      rcases get_cases cache now other hash with ⟨_, _, _, hget⟩ | ⟨_, hget⟩
      · simp [hget]
      · rw [hget, herase]
        simp
  | invalidate other =>
      simp only [run, Ends, reduceCtorEq, false_or]
      exact herase other
  | clear => simp [run, Cache.clear, Ends]

end Step

/-! ## What is found after a history -/

/-- An entry was stored under a path, and no later step has ended it. -/
def Stores (new : Cache α) (steps : List (Step α)) (path : String) (entry : Entry α) : Prop :=
  ∃ earlier later, steps = earlier ++ .set entry.time path entry.hash entry.value :: later ∧
    ∀ before step rest, later = before ++ step :: rest →
      ¬ step.Ends
        (new.after (earlier ++ .set entry.time path entry.hash entry.value :: before)) path

theorem stores_concat (new : Cache α) (steps : List (Step α)) (step : Step α) (path : String)
    (entry : Entry α) :
    Stores new (steps ++ [step]) path entry ↔
      step = .set entry.time path entry.hash entry.value ∨
        Stores new steps path entry ∧ ¬ step.Ends (new.after steps) path := by
  constructor
  · rintro ⟨earlier, later, hsteps, hkept⟩
    rcases List.eq_nil_or_concat later with rfl | ⟨before, last, rfl⟩
    · obtain ⟨_, hlast⟩ := List.append_inj' hsteps rfl
      exact Or.inl (List.singleton_inj.mp hlast)
    · have hsplit : steps ++ [step] =
          (earlier ++ .set entry.time path entry.hash entry.value :: before) ++ [last] := by
        simpa using hsteps
      obtain ⟨rfl, hlast⟩ := List.append_inj' hsplit rfl
      obtain rfl := List.singleton_inj.mp hlast
      refine Or.inr ⟨⟨earlier, before, rfl, fun before' step' rest hbefore => ?_⟩, ?_⟩
      · exact hkept before' step' (rest ++ [step]) (by simp [hbefore])
      · exact hkept before step [] (by simp)
  · rintro (rfl | ⟨⟨earlier, later, rfl, hkept⟩, hends⟩)
    · exact ⟨steps, [], rfl, fun before step rest h => absurd h (by simp)⟩
    · refine ⟨earlier, later ++ [step], by simp, fun before step' rest hlater => ?_⟩
      rcases List.eq_nil_or_concat rest with rfl | ⟨rest, last, rfl⟩
      · obtain ⟨rfl, hlast⟩ := List.append_inj' hlater rfl
        obtain rfl := List.singleton_inj.mp hlast
        exact hends
      · have hsplit : later ++ [step] = (before ++ step' :: rest) ++ [last] := by
          simpa using hlater
        obtain ⟨hlater, _⟩ := List.append_inj' hsplit rfl
        exact hkept before step' rest hlater

/-- After any steps of a new cache, what is found under a path is what was stored there and has not
been ended. -/
theorem lookup_after_iff {new : Cache α} (hnew : new.entries = []) (steps : List (Step α))
    (path : String) (entry : Entry α) :
    (new.after steps).entries.lookup path = some entry ↔ Stores new steps path entry := by
  induction steps using List.reverseRecOn with
  | nil =>
      have hnothing : ¬ Stores new [] path entry := by
        rintro ⟨earlier, later, hsteps, _⟩
        exact absurd hsteps (by simp)
      show new.entries.lookup path = some entry ↔ _
      rw [hnew]
      exact ⟨fun h => absurd h (by simp), fun h => absurd h hnothing⟩
  | append_singleton steps step ih => rw [after_concat, Step.lookup_run_iff, stores_concat, ih]

/-! ## What is counted -/

/-- How many lookups there were since the cache was last emptied. -/
def lookupsSinceClear (steps : List (Step α)) : Nat :=
  (steps.reverse.takeWhile (!·.isClear)).countP (·.isGet)

theorem lookupsSinceClear_concat (steps : List (Step α)) (step : Step α) :
    lookupsSinceClear (steps ++ [step]) =
      if step.isClear then 0 else lookupsSinceClear steps + if step.isGet then 1 else 0 := by
  unfold lookupsSinceClear
  rw [List.reverse_concat, List.takeWhile_cons]
  cases step.isClear with
  | true => rfl
  | false => exact List.countP_cons

theorem Step.hits_add_misses_run (step : Step α) (cache : Cache α) :
    (step.run cache).hits + (step.run cache).misses =
      if step.isClear then 0 else cache.hits + cache.misses + if step.isGet then 1 else 0 := by
  cases step with
  | set now path hash value =>
      rw [run]
      rcases set_cases cache now path hash value with ⟨_, hset⟩ | ⟨_, _, _, _, _, hset⟩
      · rw [hset]
        rfl
      · rw [hset]
        rfl
  | get now path hash =>
      rw [run]
      rcases get_cases cache now path hash with ⟨_, _, _, hget⟩ | ⟨_, hget⟩
      · rw [hget]
        exact Nat.add_right_comm cache.hits 1 cache.misses
      · rw [hget]
        rfl
  | invalidate path => rfl
  | clear => rfl

/-- Every lookup since the cache was last emptied is counted as a hit or as a miss. -/
theorem hits_add_misses_after {new : Cache α} (hhits : new.hits = 0) (hmisses : new.misses = 0)
    (steps : List (Step α)) :
    (new.after steps).hits + (new.after steps).misses = lookupsSinceClear steps := by
  induction steps using List.reverseRecOn with
  | nil =>
      show new.hits + new.misses = 0
      rw [hhits, hmisses]
  | append_singleton steps step ih =>
      rw [after_concat, Step.hits_add_misses_run, lookupsSinceClear_concat, ih]

/-! ## The law of a cache -/

/-- What holds of a new cache after some steps. -/
structure Lawful (new : Cache α) (steps : List (Step α)) : Prop where
  /-- Every operation can be carried out. -/
  possible : ∀ path,
    (new.after steps).getFault? path = none ∧ (new.after steps).setFault? path = none
  /-- A lookup is served if an entry with that hash was stored, nothing has ended it, and its age is
  not known to pass the lifetime. -/
  served : ∀ now path hash value, ((new.after steps).get now path hash).1 = some value ↔
    ∃ time, Stores new steps path ⟨value, hash, time⟩ ∧
      (new.lifetime.admits (now.sub time) = true ∨
        Bound.compare? (now.sub time) new.lifetime = none)
  /-- A lookup that is not served leaves nothing under its path. -/
  dropped : ∀ now path hash, ((new.after steps).get now path hash).1 = none →
    ((new.after steps).get now path hash).2.contains path = false
  /-- A positive number of entries at which the cache is full is not exceeded. -/
  bounded : ∀ n, 0 < n → new.capacity.reachedBy (.ofNat n) = true → (new.after steps).size ≤ n
  /-- The capacity is not exceeded if it is an integer; one entry is kept in any case. -/
  bounded_whole : ∀ m : Int, new.capacity = .whole m → ((new.after steps).size : Int) ≤ max m 1
  /-- An entry has to make room only when a new path is stored in a full cache, and it is the
  oldest one. -/
  evicted : ∀ step : Step α, (new.after steps).evictions < (step.run (new.after steps)).evictions →
    ∃ now path hash value, step = .set now path hash value ∧
      Replaces (new.after steps) (step.run (new.after steps)) path ⟨value, hash, now⟩
  /-- Hits and misses are the lookups since the cache was last emptied. -/
  counted : (new.after steps).hits + (new.after steps).misses = lookupsSinceClear steps

/-- A new cache is lawful after any steps. -/
theorem lawful_after {capacity lifetime : Bound} (hcapacity : capacity.isNumber = true)
    (hlifetime : lifetime.isNumber = true) (steps : List (Step α)) :
    Lawful { capacity, lifetime } steps := by
  let new : Cache α := { capacity, lifetime }
  have hkept : Kept new (new.after steps) := kept_after rfl steps
  obtain ⟨hcapacity', hlifetime'⟩ := hkept.bounds
  have hbounded (n : Nat) (hpos : 0 < n) (hfull : capacity.reachedBy (.ofNat n) = true) :
      (new.after steps).size ≤ n := size_after_le rfl hpos hfull steps
  constructor
  case possible =>
    intro path
    exact ⟨getFault?_eq_none (hlifetime' ▸ hlifetime) path,
      setFault?_eq_none (hcapacity' ▸ hcapacity) path⟩
  case served =>
    intro now path hash value
    have hage (age : Quantity) : (new.after steps).lifetime.passedBy age = false ↔
        lifetime.admits age = true ∨ Bound.compare? age lifetime = none := by
      rw [hlifetime']
      exact Bound.passedBy_eq_false_iff lifetime age
    refine (get_eq_some_iff _ now path hash value).trans (exists_congr fun time => ?_)
    exact and_congr (lookup_after_iff rfl steps path _) (hage (now.sub time))
  case dropped =>
    intro now path hash hmiss
    exact (get_eq_none (Prod.ext hmiss rfl)).1
  case bounded => exact hbounded
  case bounded_whole =>
    intro m hm
    obtain rfl : capacity = .whole m := hm
    have hfull : (Bound.whole m).reachedBy (.ofNat (max m 1).toNat) = true := by
      rw [Quantity.ofNat, Bound.reachedBy_whole]
      exact decide_eq_true (by omega)
    have hsize : (new.after steps).size ≤ (max m 1).toNat := hbounded _ (by omega) hfull
    show ((new.after steps).size : Int) ≤ max m 1
    omega
  case evicted => exact fun step h => step.replaces_run hkept.nodup_keys h
  case counted => exact hits_add_misses_after rfl rfl steps

/-- A cache with room for one file, and two files that are stored one after the other. -/
def twoFiles : List (Step Nat) :=
  [.set (.whole 0) "a.ts" "h" 1, .set (.whole 3) "b.ts" "k" 2, .get (.whole 5) "a.ts" "h"]

/-- The second file is served at the end of its lifetime, and the first one had to make room. -/
theorem lawful_after_twoFiles :
    (∃ time, Stores { capacity := 1, lifetime := 10 } twoFiles "b.ts" ⟨2, "k", time⟩ ∧
        ((10 : Bound).admits ((Quantity.whole 13).sub time) = true ∨
          Bound.compare? ((Quantity.whole 13).sub time) 10 = none)) ∧
      ((after { capacity := 1, lifetime := 10 } twoFiles).size : Int) ≤ max 1 1 ∧
      (after { capacity := 1, lifetime := 10 } twoFiles).hits +
        (after { capacity := 1, lifetime := 10 } twoFiles).misses = 1 := by
  have hlawful : Lawful { capacity := 1, lifetime := 10 } twoFiles := lawful_after rfl rfl twoFiles
  refine ⟨(hlawful.served (.whole 13) "b.ts" "k" 2).mp ?_, hlawful.bounded_whole 1 rfl, ?_⟩
  · decide
  · exact hlawful.counted

/-- The time of an endless clock. -/
def endless : Quantity := .float (.infinite false)

/-- What is stored at an endless time and looked up at that time has no age that could be at most
the lifetime, but it is served. -/
theorem serves_undefined_age :
    ¬∀ (capacity lifetime : Bound), capacity.isNumber = true → lifetime.isNumber = true →
      ∀ (steps : List (Step Nat)) (now : Quantity) (path hash : String) (value : Nat),
        ((after { capacity, lifetime } steps).get now path hash).1 = some value ↔
          ∃ time, Stores { capacity, lifetime } steps path ⟨value, hash, time⟩ ∧
            lifetime.admits (now.sub time) = true := by
  intro hlaw
  obtain ⟨time, ⟨earlier, later, hsteps, _⟩, hage⟩ :=
    (hlaw 1000 300 rfl rfl [.set endless "a.ts" "h" 1] endless "a.ts" "h" 1).mp rfl
  have hmem : Step.set time "a.ts" "h" 1 ∈ [Step.set endless "a.ts" "h" 1] := by
    rw [hsteps]
    exact List.mem_append_right earlier List.mem_cons_self
  obtain rfl := (Step.set.inj (List.mem_singleton.mp hmem)).1
  exact absurd hage (by decide)

end ChunkGraph.Cache
