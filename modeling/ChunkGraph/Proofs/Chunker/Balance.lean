import ChunkGraph.Proofs.Cache.History
import ChunkGraph.Proofs.Chunker.Session
import Mathlib.Data.Finset.Card
import Mathlib.Data.Finset.Dedup
import Mathlib.Data.List.DropRight
import Mathlib.Data.List.Induction

/-!
# What a chunker counts

A chunker borrows a front end once in every call that parses a file, whatever
comes of the call, and gives it back before it answers. So since everything was
dropped last there have been as many requests and returns as such calls. A call
also looks up one tree, unless its text is ill formed: such a text has no hash,
and nothing is looked up for it.

As a front end is back before the next one is needed, a shelf never holds more
than one. If there is room for one, it is made for the first file of its key and
used for all others; if there is none, each call makes its own.

## Main definitions

* `Pool.Balanced` — what a pool counts and keeps when front ends are borrowed for
  a list of keys, one after the other.
* `Chunker.after` — the chunker after a session.
* `Chunker.keysSinceClear`, `Chunker.lookupsSinceClear` — the keys of the files
  that were parsed since everything was dropped last, and the number of lookups.
* `Chunker.Balanced` — the same for a chunker, with its lookups.

## Main results

* `Pool.Balanced.use` — what borrowing once does.
* `Chunker.Balanced.withTree`, `Chunker.Balanced.run` — what a call does.
* `Chunker.balanced_after` — what a session does.
-/

namespace ChunkGraph

open Number Syntax

/-! ## Borrowing one after the other -/

namespace Pool

variable {α : Type}

/-- What a pool counts and keeps when front ends have been borrowed for the keys of a list, each
given back before the next was borrowed. -/
structure Balanced (pool : Pool α) (keys : List String) : Prop where
  /-- Every request made a front end or was met. -/
  taken : pool.created + pool.reused = keys.length
  /-- Every front end has been given back. -/
  returned : pool.released = keys.length
  /-- With room for one, the first request for a key made a front end, and that one is kept. -/
  one_each : pool.capacity.leavesRoom (.ofNat 0) = true → pool.created = keys.toFinset.card ∧
    ∀ key, (pool.shelf key).length = if key ∈ keys then 1 else 0
  /-- Without room, nothing is kept, and no request was met. -/
  none_kept : pool.capacity.leavesRoom (.ofNat 0) = false → pool.reused = 0 ∧
    ∀ key, pool.shelf key = []

theorem balanced_of_empty {pool : Pool α} (h : pool.clear = pool) : pool.Balanced [] := by
  rw [← h]
  exact ⟨rfl, rfl, fun _ => ⟨rfl, fun _ => rfl⟩, fun _ => ⟨rfl, fun _ => rfl⟩⟩

section Use

variable {pool : Pool α} {keys : List String} (key : String) (item : α)

theorem capacity_take : (pool.take key).2.capacity = pool.capacity :=
  capacity_eq_of_clear_eq (pool.clear_take key)

/-- What is on a shelf after something has been taken and given back under a key. -/
theorem shelf_use (other : String) : ((pool.take key).2.release key item).shelf other =
    if other = key then
      if pool.capacity.leavesRoom (.ofNat (pool.shelf key).tail.length) then
        item :: (pool.shelf key).tail
      else (pool.shelf key).tail
    else pool.shelf other := by
  rw [shelf_release, capacity_take, shelf_take, if_pos rfl, shelf_take]
  split
  · rfl
  · rfl

/-- With room for one, a front end is made for a new key only, and one is kept for each key. -/
theorem Balanced.one_each_use (h : pool.Balanced keys)
    (hroom : pool.capacity.leavesRoom (.ofNat 0) = true) :
    (pool.take key).2.created = (keys ++ [key]).toFinset.card ∧ ∀ other,
      (((pool.take key).2.release key item).shelf other).length =
        if other ∈ keys ++ [key] then 1 else 0 := by
  obtain ⟨hcreated, hlength⟩ := h.one_each hroom
  refine ⟨?_, fun other => ?_⟩
  · rw [List.toFinset_append, List.toFinset_cons, List.toFinset_nil]
    rcases take_cases pool key with ⟨top, rest, hkept, htake⟩ | ⟨hnone, htake⟩
    · -- The shelf is not empty, so the key is among the earlier ones.
      have hknown : key ∈ keys := by
        refine Decidable.byContradiction fun hnew => ?_
        have hzero := hlength key
        rw [hkept, if_neg hnew] at hzero
        exact absurd hzero (by simp)
      rw [htake, Finset.union_eq_left.mpr (by simpa using hknown)]
      exact hcreated
    · have hnew : key ∉ keys := by
        intro hknown
        have hone := hlength key
        rw [hnone, if_pos hknown] at hone
        exact absurd hone (by simp)
      rw [htake, Finset.card_union_of_disjoint (by simpa using hnew), ← hcreated]
      rfl
  · have htail : (pool.shelf key).tail = [] := by
      refine List.eq_nil_of_length_eq_zero ?_
      rw [List.length_tail, hlength]
      split
      · rfl
      · rfl
    rw [shelf_use, htail, List.length_nil, hroom, if_pos rfl]
    by_cases hother : other = key
    · rw [if_pos hother, if_pos (by simp [hother])]
      rfl
    · rw [if_neg hother, hlength]
      simp only [List.mem_append, List.mem_singleton, hother, or_false]

/-- Without room, nothing is taken from the pool, and nothing is put there. -/
theorem Balanced.none_kept_use (h : pool.Balanced keys)
    (hroom : pool.capacity.leavesRoom (.ofNat 0) = false) :
    (pool.take key).2.reused = 0 ∧
      ∀ other, ((pool.take key).2.release key item).shelf other = [] := by
  obtain ⟨hreused, hempty⟩ := h.none_kept hroom
  refine ⟨?_, fun other => ?_⟩
  · rcases take_cases pool key with ⟨top, rest, hkept, _⟩ | ⟨_, htake⟩
    · rw [hempty] at hkept
      exact absurd hkept (by simp)
    · rw [htake]
      exact hreused
  · rw [shelf_use, hempty, List.tail_nil, List.length_nil, hroom, hempty]
    simp

/-- One more front end is borrowed and given back. -/
theorem Balanced.use (h : pool.Balanced keys) :
    ((pool.take key).2.release key item).Balanced (keys ++ [key]) := by
  constructor
  case taken =>
    show (pool.take key).2.created + (pool.take key).2.reused = _
    rw [created_add_reused_take, h.taken, List.length_append, List.length_singleton]
  case returned =>
    show (pool.take key).2.released + 1 = _
    rw [released_take, h.returned, List.length_append, List.length_singleton]
  case one_each => exact fun hroom => h.one_each_use key item (capacity_take key ▸ hroom)
  case none_kept => exact fun hroom => h.none_kept_use key item (capacity_take key ▸ hroom)

end Use

end Pool

namespace Chunker

/-! ## Lookups -/

/-- The text has a hash, so the trees are searched for it. -/
def isLookedUp : SourceText → Bool
  | .chars _ => true
  | .illFormed => false

/-- What is left of the trees is what a lookup leaves, with or without another one stored. -/
theorem parse_trees {parser : Parser} {now : Quantity} {frontEnd : FrontEnd} {code path : String}
    {trees : Cache Tree} (hlifetime : trees.lifetime.isNumber = true) :
    (parse parser now frontEnd code path trees).2 =
        (trees.get now path (contentHash code)).2 ∨
      ∃ tree, (parse parser now frontEnd code path trees).2 =
        (trees.get now path (contentHash code)).2.set now path (contentHash code) tree := by
  unfold parse
  simp only [Cache.getFault?_eq_none hlifetime, Option.isSome_none, Bool.false_eq_true, if_false]
  cases trees.get now path (contentHash code) with
  | mk found left =>
      cases found with
      | some tree => exact Or.inl rfl
      | none =>
          cases frontEnd.parse? parser code path with
          | none => exact Or.inl rfl
          | some tree =>
              simp only
              split
              · exact Or.inl rfl
              · exact Or.inr ⟨tree, rfl⟩

/-- Parsing looks one tree up, unless the text is ill formed. -/
theorem hits_add_misses_parse {parser : Parser} {now : Quantity} {frontEnd : FrontEnd}
    {source : SourceText} {path : String} {trees : Cache Tree}
    (hlifetime : trees.lifetime.isNumber = true) :
    (parse parser now frontEnd source path trees).2.hits +
        (parse parser now frontEnd source path trees).2.misses =
      trees.hits + trees.misses + if isLookedUp source then 1 else 0 := by
  cases source with
  | illFormed => rfl
  | chars code =>
      have hget := Cache.Step.hits_add_misses_run (.get now path (contentHash code)) trees
      rcases parse_trees hlifetime with hleft | ⟨tree, hleft⟩
      · rw [hleft]
        exact hget
      · have hset := Cache.Step.hits_add_misses_run (.set now path (contentHash code) tree)
          (trees.get now path (contentHash code)).2
        rw [hleft]
        exact hset.trans hget

theorem clear_parse {parser : Parser} {now : Quantity} {frontEnd : FrontEnd} {source : SourceText}
    {path : String} {trees : Cache Tree} (hlifetime : trees.lifetime.isNumber = true) :
    (parse parser now frontEnd source path trees).2.clear = trees.clear := by
  cases source with
  | illFormed => rfl
  | chars code =>
      rcases parse_trees hlifetime with hleft | ⟨tree, hleft⟩
      · rw [hleft, Cache.clear_get]
      · rw [hleft, Cache.clear_set, Cache.clear_get]

/-- Using a tree counts nothing. -/
theorem counts_afterUse (leave : Tree → Tree) (path : String) (tree? : Option Tree)
    (trees : Cache Tree) :
    (afterUse leave path tree? trees).hits + (afterUse leave path tree? trees).misses =
      trees.hits + trees.misses := by
  unfold afterUse
  split
  · obtain ⟨entries, hchange⟩ := trees.change_eq path leave
    rw [hchange]
  · rfl

/-! ## One call -/

/-- The key under which a front end is borrowed for a path. -/
def keyOf (registry : Registry) (path : String) : String :=
  poolKey (FrontEnd.kindFor (registry.detectPath path)) (some path)

/-- What a chunker counts and keeps after it has borrowed front ends for the keys of a list, and has
looked up a number of trees. -/
structure Balanced (poolSize : Bound) (c : Chunker) (keys : List String) (lookups : Nat) :
    Prop where
  /-- The number of front ends kept for a key is bounded. -/
  capacity : c.pool.capacity = poolSize
  /-- Front ends have been borrowed one after the other. -/
  pool : c.pool.Balanced keys
  /-- Every lookup was served or was not. -/
  looked_up : c.trees.hits + c.trees.misses = lookups

section Call

variable (parser : Parser) (now : Quantity) {c : Chunker} {poolSize : Bound} {keys : List String}
  {lookups : Nat}

/-- A call that parses a file takes a front end and gives it back. -/
theorem withTree_snd {β : Type} (hpool : c.pool.capacity.isNumber = true) (source : SourceText)
    (path : String) (use : FrontEnd → Option Tree → β) (leave : FrontEnd → Tree → Tree) :
    ∃ frontEnd, (c.withTree parser now source path use leave).2 = { c with
      trees := afterUse (leave frontEnd) path (parse parser now frontEnd source path c.trees).1
        (parse parser now frontEnd source path c.trees).2
      pool := (c.pool.take (keyOf c.registry path)).2.release (keyOf c.registry path)
        frontEnd } := by
  have hfault : (c.pool.take (keyOf c.registry path)).2.releaseFault? = none := by
    unfold Pool.releaseFault?
    rw [Pool.capacity_take]
    exact Bound.fault?_of_isNumber hpool _ _
  refine ⟨(c.pool.take (keyOf c.registry path)).1.getD
    (newFrontEnd (FrontEnd.kindFor (c.registry.detectPath path)) path), ?_⟩
  unfold keyOf at hfault ⊢
  unfold withTree
  simp only [hfault]

/-- Whatever comes of a call that parses a file, the counts stay balanced, and what the chunker is
set up with stays as it is. -/
theorem Balanced.withTree (h : Balanced poolSize c keys lookups) (hpool : poolSize.isNumber = true)
    (hlifetime : c.trees.lifetime.isNumber = true) {β : Type} (source : SourceText) (path : String)
    (use : FrontEnd → Option Tree → β) (leave : FrontEnd → Tree → Tree) :
    Balanced poolSize (c.withTree parser now source path use leave).2
        (keys ++ [keyOf c.registry path]) (lookups + if isLookedUp source then 1 else 0) ∧
      (c.withTree parser now source path use leave).2.clearCaches = c.clearCaches := by
  obtain ⟨frontEnd, hafter⟩ :=
    withTree_snd parser now (h.capacity ▸ hpool) source path use leave
  rw [hafter]
  refine ⟨⟨?_, h.pool.use _ frontEnd, ?_⟩, ?_⟩
  · exact (Pool.capacity_take (keyOf c.registry path)).trans h.capacity
  · show (afterUse _ _ _ _).hits + (afterUse _ _ _ _).misses = _
    rw [counts_afterUse, hits_add_misses_parse hlifetime, h.looked_up]
  · unfold clearCaches
    rw [clear_afterUse, clear_parse hlifetime, Pool.clear_release, Pool.clear_take]

namespace Call

/-- The file that a call parses, if it parses one. -/
def path? : Call → Option String
  | chunk _ path _ => some path
  | analyze _ path => some path
  | _ => none

/-- The call looks a tree up: it parses a text that has a hash. -/
def looksUp : Call → Bool
  | chunk source _ _ => isLookedUp source
  | analyze source _ => isLookedUp source
  | _ => false

/-- The call drops everything that is kept. -/
def isClear : Call → Bool
  | clear => true
  | _ => false

end Call

/-- What a call does to balanced counts. -/
theorem Balanced.run (h : Balanced poolSize c keys lookups) (hpool : poolSize.isNumber = true)
    (hlifetime : c.trees.lifetime.isNumber = true) (call : Call) :
    Balanced poolSize (call.run parser now c).2
        (if call.isClear then [] else keys ++ (call.path?.map (keyOf c.registry)).toList)
        (if call.isClear then 0 else lookups + if call.looksUp then 1 else 0) ∧
      (call.run parser now c).2.clearCaches = c.clearCaches := by
  cases call with
  | chunk source path options =>
      exact h.withTree parser now hpool hlifetime source path
        (fun frontEnd tree? => c.chunksOf frontEnd tree? source.text path
          (options.getD c.options)) FrontEnd.keepTable
  | analyze source path =>
      exact h.withTree parser now hpool hlifetime source path interfaceOf fun _ tree => tree
  | invalidate path =>
      refine ⟨⟨h.capacity, ?_, h.looked_up⟩, rfl⟩
      show c.pool.Balanced (keys ++ [])
      rw [List.append_nil]
      exact h.pool
  | clear => exact ⟨⟨h.capacity, Pool.balanced_of_empty rfl, rfl⟩, rfl⟩

end Call

/-! ## Sessions -/

/-- The chunker after a session, each call at a time of its own. -/
def after (parser : Parser) (session : List (Quantity × Call)) (c : Chunker) : Chunker :=
  session.foldl (fun c entry => (entry.2.run parser entry.1 c).2) c

theorem after_concat (parser : Parser) (session : List (Quantity × Call))
    (entry : Quantity × Call) (c : Chunker) :
    after parser (session ++ [entry]) c =
      (entry.2.run parser entry.1 (after parser session c)).2 := List.foldl_concat _ _ _ _

/-- The calls since everything was dropped last. -/
def sinceClear (session : List (Quantity × Call)) : List Call :=
  (session.map (·.2)).rtakeWhile (!·.isClear)

/-- The keys of the files that were parsed since everything was dropped last, one for each call. -/
def keysSinceClear (registry : Registry) (session : List (Quantity × Call)) : List String :=
  (sinceClear session).filterMap (·.path?.map (keyOf registry))

/-- The number of calls since everything was dropped last that looked a tree up. -/
def lookupsSinceClear (session : List (Quantity × Call)) : Nat :=
  (sinceClear session).countP (·.looksUp)

theorem sinceClear_concat (session : List (Quantity × Call)) (entry : Quantity × Call) :
    sinceClear (session ++ [entry]) =
      if entry.2.isClear then [] else sinceClear session ++ [entry.2] := by
  unfold sinceClear
  rw [List.map_append, List.map_singleton, List.rtakeWhile_concat]
  cases entry.2.isClear with
  | true => rfl
  | false => rfl

theorem keysSinceClear_concat (registry : Registry) (session : List (Quantity × Call))
    (entry : Quantity × Call) :
    keysSinceClear registry (session ++ [entry]) =
      if entry.2.isClear then []
      else keysSinceClear registry session ++ (entry.2.path?.map (keyOf registry)).toList := by
  unfold keysSinceClear
  rw [sinceClear_concat]
  split
  · rfl
  · rw [List.filterMap_append]
    refine congrArg (_ ++ ·) ?_
    cases hpath : entry.2.path? with
    | none => simp [hpath]
    | some path => simp [hpath]

theorem lookupsSinceClear_concat (session : List (Quantity × Call)) (entry : Quantity × Call) :
    lookupsSinceClear (session ++ [entry]) =
      if entry.2.isClear then 0
      else lookupsSinceClear session + if entry.2.looksUp then 1 else 0 := by
  unfold lookupsSinceClear
  rw [sinceClear_concat]
  split
  · rfl
  · rw [List.countP_append, List.countP_singleton]

/-- After every session the counts of a new chunker are balanced: a front end was borrowed and given
back for every file that was parsed, and a tree was looked up for every text that is not ill
formed. -/
theorem balanced_after (parser : Parser) (encoding : Encoding) (options : Options)
    (rules : List Rule) (registry : Registry) (made : Chunker) (session : List (Quantity × Call))
    (hmade : create encoding options rules = .ok made)
    (hlifetime : options.treeLifetime.isNumber = true)
    (hpool : options.poolSize.isNumber = true) :
    Balanced options.poolSize (after parser session { made with registry })
      (keysSinceClear registry session) (lookupsSinceClear session) := by
  obtain ⟨htrees, hkept⟩ := create_eq_ok hmade
  -- What the chunker is set up with is needed for the next call, and it never changes.
  suffices h : Balanced options.poolSize (after parser session { made with registry })
      (keysSinceClear registry session) (lookupsSinceClear session) ∧
      (after parser session { made with registry }).clearCaches =
        clearCaches { made with registry } from h.1
  induction session using List.reverseRecOn with
  | nil =>
      refine ⟨⟨?_, Pool.balanced_of_empty ?_, ?_⟩, rfl⟩
      · show made.pool.capacity = _
        rw [hkept]
      · show made.pool.clear = made.pool
        rw [hkept]
        rfl
      · show made.trees.hits + made.trees.misses = 0
        rw [htrees]
        rfl
  | append_singleton session entry ih =>
      obtain ⟨hbalanced, hsame⟩ := ih
      have hregistry : (after parser session { made with registry }).registry = registry :=
        congrArg Chunker.registry hsame
      have hnumber : (after parser session { made with registry }).trees.lifetime.isNumber =
          true := by
        have hclear : (after parser session { made with registry }).trees.clear =
            made.trees.clear := congrArg Chunker.trees hsame
        rw [(Cache.bounds_eq_of_clear_eq hclear).2, htrees]
        exact hlifetime
      have hrun := hbalanced.run parser entry.1 hpool hnumber entry.2
      rw [hregistry] at hrun
      rw [after_concat, keysSinceClear_concat, lookupsSinceClear_concat]
      exact ⟨hrun.1, hrun.2.trans hsame⟩

/-- Six calls for scripts, one of them with a text that is ill formed, and one for a file that fails
to parse. -/
theorem balanced_after_edit :
    ∃ made, create .unavailable {} Rule.all = .ok made ∧
      ({} : Options).treeLifetime.isNumber = true ∧ ({} : Options).poolSize.isNumber = true ∧
      keysSinceClear .standard editSession = List.replicate 6 "typescript" ++ ["treesitter:py"] ∧
      lookupsSinceClear editSession = 6 ∧
      Balanced 5 (after renamedParser editSession { made with registry := .standard })
        (keysSinceClear .standard editSession) (lookupsSinceClear editSession) :=
  ⟨_, rfl, rfl, rfl, by decide, by decide,
    balanced_after renamedParser .unavailable {} Rule.all .standard _ editSession rfl rfl rfl⟩

/-- The same text is asked about twice. -/
def repeatedAnalysis : List (Quantity × Call) :=
  [(.whole 0, .analyze renamedSource "a.ts"), (.whole 1, .analyze renamedSource "a.ts")]

/-- No tree is looked up for a text that is ill formed, though a front end is made for it. And where
the lifetime of trees is no number, a lookup of a tree that is kept fails before it is counted. -/
theorem lookups_not_counted :
    (∃ made, create .unavailable {} Rule.all = .ok made ∧
      (after renamedParser [(.whole 0, .chunk .illFormed "a.ts" none)] made).pool.created = 1 ∧
      (after renamedParser [(.whole 0, .chunk .illFormed "a.ts" none)] made).pool.released = 1 ∧
      (after renamedParser [(.whole 0, .chunk .illFormed "a.ts" none)] made).trees.hits +
        (after renamedParser [(.whole 0, .chunk .illFormed "a.ts" none)] made).trees.misses = 0) ∧
    ∃ made, create .unavailable { treeLifetime := ⟨.null⟩ } Rule.all = .ok made ∧
      (after renamedParser repeatedAnalysis made).pool.released = 2 ∧
      (after renamedParser repeatedAnalysis made).trees.hits +
        (after renamedParser repeatedAnalysis made).trees.misses = 1 :=
  ⟨⟨_, rfl, by decide, by decide, by decide⟩, _, rfl, by decide +kernel, by decide +kernel⟩

end Chunker

end ChunkGraph
