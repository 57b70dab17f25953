import ChunkGraph.Proofs.Chunk.Regrouping

/-!
# What merging does not notice

Merging looks at the kind of a chunk, at its place and at its size, and at
nothing else. So a change that leaves these alone, and that comes to the same
before and after one chunk is folded into another, comes to the same before and
after merging. The lists of members can be left out in this way.

Chunks that another chunk holds can be left out as a whole. They follow a chunk
that stands on its own, so there is no chunk in front of them into which one
behind them might have been folded; and they are not folded into chunks that are
held by none, nor the other way round, because their parents differ.

## Main definitions

* `Unnoticed` — a change that merging does not notice.
* `Chunk.childless` — such a change.
* `Chunk.isRoot`, `roots` — the chunks that are held by none.
* `Sheltered` — what is held follows a chunk that stands on its own.

## Main results

* `mergeSmall_map`, `mergeFault?_map` — a change before and after merging.
* `unnoticed_childless` — the lists of members left out.
* `filter_mergeSmall`, `mergeFault?_filter` — chunks that are held left out.
-/

namespace ChunkGraph

/-! ## Changes -/

/-- A change of chunks with some property is not noticed by merging. -/
structure Unnoticed (lines : Option (List (List Char))) (good : Chunk → Prop)
    (change : Chunk → Chunk) : Prop where
  /-- It leaves alone what decides whether chunks are merged. -/
  mergesLike : ∀ c, good c → Chunk.MergesLike (change c) c
  /-- It comes to the same before and after a chunk is folded into another. -/
  absorb_eq : ∀ previous current, good previous → good current →
    absorb lines (change previous) (change current) = change (absorb lines previous current)
  /-- What absorbs another chunk keeps the property. -/
  good_absorb : ∀ previous current, good previous → good current →
    good (absorb lines previous current)

section Changes

variable {options options' : Options} {lines : Option (List (List Char))} {good : Chunk → Prop}
  {change : Chunk → Chunk} (hmin : options'.minChunkSize = options.minChunkSize)
  (hmax : options'.chunkSize = options.chunkSize)
include hmin hmax

/-- Of the options, two bounds decide whether chunks are merged. -/
theorem canMerge_congr (previous current : Chunk) :
    canMerge options' previous current = canMerge options previous current := by
  unfold canMerge isSmall fitTogether
  rw [hmin, hmax]

variable (h : Unnoticed lines good change)
include h

theorem mergeFrom_map {previous : Chunk} {rest : List Chunk} (hprevious : good previous)
    (hrest : ∀ c ∈ rest, good c) :
    mergeFrom options' lines (change previous) (rest.map change) =
      (mergeFrom options lines previous rest).map change := by
  induction rest generalizing previous with
  | nil => rfl
  | cons current rest ih =>
      obtain ⟨hcurrent, hlater⟩ := List.forall_mem_cons.mp hrest
      have hmerge : canMerge options' (change previous) (change current) =
          canMerge options previous current :=
        (canMerge_congr hmin hmax _ _).trans
          ((h.mergesLike previous hprevious).canMerge_eq (h.mergesLike current hcurrent))
      rw [List.map_cons, mergeFrom, mergeFrom, hmerge]
      split
      · rw [h.absorb_eq previous current hprevious hcurrent]
        exact ih (h.good_absorb previous current hprevious hcurrent) hlater
      · rw [List.map_cons, ih hcurrent hlater]

omit h in
/-- A change that merging does not notice comes to the same before and after merging. -/
theorem mergeSmall_map (source : Option String)
    (h : Unnoticed (source.map fun s => Text.splitLines s.toList) good change)
    {chunks : List Chunk} (hgood : ∀ c ∈ chunks, good c) :
    mergeSmall options' source (chunks.map change) =
      (mergeSmall options source chunks).map change := by
  cases chunks with
  | nil => rfl
  | cons first rest =>
      obtain ⟨hfirst, hrest⟩ := List.forall_mem_cons.mp hgood
      exact mergeFrom_map hmin hmax h hfirst hrest

theorem pairFault?_map {previous current : Chunk} (hprevious : good previous)
    (hcurrent : good current) :
    pairFault? options' (change previous) (change current) =
      pairFault? options previous current := by
  have hlikePrevious := h.mergesLike previous hprevious
  have hlikeCurrent := h.mergesLike current hcurrent
  have hneighbours : areNeighbours (change previous) (change current) =
      areNeighbours previous current := by
    unfold areNeighbours
    rw [hlikePrevious.isMergeable_eq, hlikeCurrent.isMergeable_eq, hlikePrevious.filePath_eq,
      hlikeCurrent.filePath_eq, hlikePrevious.parentId_eq, hlikeCurrent.parentId_eq]
  have hsmall : isSmall options' (change current) = isSmall options current := by
    rw [hlikeCurrent.isSmall_eq]
    unfold isSmall
    rw [hmin]
  unfold pairFault?
  rw [hneighbours, hsmall, hmin, hmax]

/-- Whether chunks can be merged is not changed either. -/
theorem mergeFault?_map {chunks : List Chunk} (hgood : ∀ c ∈ chunks, good c) :
    mergeFault? options' (chunks.map change) = mergeFault? options chunks := by
  induction chunks with
  | nil => rfl
  | cons previous rest ih =>
      obtain ⟨hprevious, hrest⟩ := List.forall_mem_cons.mp hgood
      have hlater := ih hrest
      cases rest with
      | nil => rfl
      | cons current rest =>
          have hcurrent := hrest current List.mem_cons_self
          rw [List.map_cons, List.map_cons, mergeFault?, mergeFault?,
            pairFault?_map hmin hmax h hprevious hcurrent, ← List.map_cons, hlater]

end Changes

/-! ## Lists of members -/

/-- The chunk without the list of its members. -/
def Chunk.childless (c : Chunk) : Chunk := { c with childrenIds := [] }

/-- Merging does not notice whether chunks list their members. -/
theorem unnoticed_childless (lines : Option (List (List Char))) :
    Unnoticed lines (fun _ => True) Chunk.childless where
  mergesLike := fun _ _ => ⟨rfl, rfl, rfl, rfl, rfl⟩
  absorb_eq := fun _ _ _ _ => rfl
  good_absorb := fun _ _ _ _ => trivial

/-! ## Chunks that are held -/

/-- The chunk is held by none. -/
def Chunk.isRoot (c : Chunk) : Bool := c.parentId.isNone

/-- The chunks that are held by none, without the lists of what they hold. -/
def roots (chunks : List Chunk) : List Chunk := (chunks.filter Chunk.isRoot).map Chunk.childless

/-- Chunks that are held follow a chunk that stands on its own. -/
inductive Sheltered : List Chunk → Prop where
  /-- There are no chunks. -/
  | nil : Sheltered []
  /-- A chunk that is held by none is followed by such chunks only. -/
  | single {c : Chunk} {rest : List Chunk} (hroot : c.isRoot = true) (hrest : Sheltered rest) :
      Sheltered (c :: rest)
  /-- A chunk that stands on its own is followed by chunks that are held. -/
  | container {c : Chunk} {members rest : List Chunk} (hroot : c.isRoot = true)
      (hstands : c.isMergeable = false) (hmembers : ∀ m ∈ members, m.isRoot = false)
      (hrest : Sheltered rest) : Sheltered (c :: (members ++ rest))

namespace Sheltered

theorem append {chunks more : List Chunk} (h : Sheltered chunks) (hmore : Sheltered more) :
    Sheltered (chunks ++ more) := by
  induction h with
  | nil => exact hmore
  | single hroot _ ih => exact .single hroot ih
  | container hroot hstands hmembers _ ih =>
      rw [List.cons_append, List.append_assoc]
      exact .container hroot hstands hmembers ih

/-- The first chunk is held by none. -/
theorem isRoot_head {c : Chunk} {rest : List Chunk} (h : Sheltered (c :: rest)) :
    c.isRoot = true := by
  cases h with
  | single hroot _ => exact hroot
  | container hroot _ _ _ => exact hroot

end Sheltered

section Held

/-- Of chunks that are held none is left. -/
theorem filter_isRoot_of_held {members : List Chunk} (h : ∀ m ∈ members, m.isRoot = false) :
    members.filter Chunk.isRoot = [] :=
  List.filter_eq_nil_iff.mpr fun m hm => by
    rw [h m hm]
    exact Bool.false_ne_true

theorem filter_isRoot_cons_of_held {m : Chunk} (h : m.isRoot = false) (rest : List Chunk) :
    (m :: rest).filter Chunk.isRoot = rest.filter Chunk.isRoot :=
  List.filter_cons_of_neg (by rw [h]; exact Bool.false_ne_true)

/-- Of a chunk that stands on its own and the members behind it, the chunk is left. -/
theorem filter_isRoot_container {c : Chunk} {members : List Chunk} (hroot : c.isRoot = true)
    (hmembers : ∀ m ∈ members, m.isRoot = false) (rest : List Chunk) :
    (c :: (members ++ rest)).filter Chunk.isRoot = c :: rest.filter Chunk.isRoot := by
  rw [List.filter_cons_of_pos hroot, List.filter_append, filter_isRoot_of_held hmembers,
    List.nil_append]

/-- A chunk that stands on its own has no neighbours. -/
theorem areNeighbours_of_stands {c : Chunk} (hstands : c.isMergeable = false) (other : Chunk) :
    areNeighbours c other = false ∧ areNeighbours other c = false := by
  constructor
  · simp [areNeighbours, hstands]
  · simp [areNeighbours, hstands]

/-- A chunk that is held by none and one that is held are no neighbours. -/
theorem areNeighbours_of_held {m c : Chunk} (hm : m.isRoot = false) (hroot : c.isRoot = true) :
    areNeighbours m c = false := by
  have hparent : (m.parentId == c.parentId) = false := by
    refine beq_eq_false_iff_ne.mpr fun hsame => ?_
    unfold Chunk.isRoot at hm hroot
    rw [hsame, hroot] at hm
    exact Bool.false_ne_true hm.symm
  unfold areNeighbours
  rw [hparent, Bool.and_false]

variable (options : Options)

/-- Chunks that are no neighbours are not merged, and nothing is asked about them. -/
theorem apart_of_not_areNeighbours {previous current : Chunk}
    (h : areNeighbours previous current = false) :
    canMerge options previous current = false ∧ pairFault? options previous current = none := by
  constructor
  · simp [canMerge, h]
  · simp [pairFault?, h]

section Merging

variable (source : Option String)

/-- Behind a chunk that stands on its own, merging begins anew. -/
theorem mergeFrom_of_stands {c : Chunk} (hstands : c.isMergeable = false) (rest : List Chunk) :
    mergeFrom options (source.map fun s => Text.splitLines s.toList) c rest =
      c :: mergeSmall options source rest := by
  cases rest with
  | nil => rfl
  | cons next rest =>
      have hapart := (areNeighbours_of_stands hstands next).1
      rw [mergeFrom, (apart_of_not_areNeighbours options hapart).1]
      rfl

/-- Of chunks that are held nothing is left among those that are held by none. -/
theorem filter_mergeFrom_of_held {m : Chunk} {members rest : List Chunk} (hm : m.isRoot = false)
    (hmembers : ∀ m ∈ members, m.isRoot = false) (hrest : Sheltered rest) :
    (mergeFrom options (source.map fun s => Text.splitLines s.toList) m (members ++ rest)).filter
        Chunk.isRoot =
      (mergeSmall options source rest).filter Chunk.isRoot := by
  induction members generalizing m with
  | nil =>
      rw [List.nil_append]
      cases rest with
      | nil => exact filter_isRoot_cons_of_held hm []
      | cons first rest =>
          have hapart := areNeighbours_of_held hm hrest.isRoot_head
          rw [mergeFrom, (apart_of_not_areNeighbours options hapart).1]
          exact filter_isRoot_cons_of_held hm _
  | cons next members ih =>
      obtain ⟨hnext, hlater⟩ := List.forall_mem_cons.mp hmembers
      rw [List.cons_append, mergeFrom]
      split
      · exact ih (m := absorb _ m next) hm hlater
      · rw [filter_isRoot_cons_of_held hm]
        exact ih hnext hlater

theorem filter_mergeSmall_append {members rest : List Chunk}
    (hmembers : ∀ m ∈ members, m.isRoot = false) (hrest : Sheltered rest) :
    (mergeSmall options source (members ++ rest)).filter Chunk.isRoot =
      (mergeSmall options source rest).filter Chunk.isRoot := by
  cases members with
  | nil => rfl
  | cons first members =>
      obtain ⟨hfirst, hlater⟩ := List.forall_mem_cons.mp hmembers
      exact filter_mergeFrom_of_held options source hfirst hlater hrest

/-- Behind a chunk that is held by none, what is held can be left out before or after merging. -/
theorem filter_mergeFrom {previous : Chunk} {rest : List Chunk} (hprevious : previous.isRoot = true)
    (hrest : Sheltered rest) :
    (mergeFrom options (source.map fun s => Text.splitLines s.toList) previous rest).filter
        Chunk.isRoot =
      mergeFrom options (source.map fun s => Text.splitLines s.toList) previous
        (rest.filter Chunk.isRoot) := by
  induction hrest generalizing previous with
  | nil => exact List.filter_cons_of_pos hprevious
  | @single c rest hroot hrest ih =>
      rw [List.filter_cons_of_pos hroot, mergeFrom, mergeFrom]
      split
      · have habsorbed : (absorb (source.map fun s => Text.splitLines s.toList) previous c).isRoot =
            true := hprevious
        exact ih habsorbed
      · rw [List.filter_cons_of_pos hprevious, ih hroot]
  | @container c members rest hroot hstands hmembers hrest ih =>
      have hbehind := ih hroot
      rw [mergeFrom_of_stands options source hstands, List.filter_cons_of_pos hroot] at hbehind
      have hapart := (areNeighbours_of_stands hstands previous).2
      rw [filter_isRoot_container hroot hmembers, mergeFrom, mergeFrom,
        (apart_of_not_areNeighbours options hapart).1, ← hbehind,
        mergeFrom_of_stands options source hstands]
      show (previous :: c :: mergeSmall options source (members ++ rest)).filter Chunk.isRoot =
        previous :: c :: (mergeSmall options source rest).filter Chunk.isRoot
      rw [List.filter_cons_of_pos hprevious, List.filter_cons_of_pos hroot,
        filter_mergeSmall_append options source hmembers hrest]

/-- Chunks that are held can be left out before or after merging. -/
theorem filter_mergeSmall {chunks : List Chunk} (h : Sheltered chunks) :
    (mergeSmall options source chunks).filter Chunk.isRoot =
      mergeSmall options source (chunks.filter Chunk.isRoot) := by
  cases h with
  | nil => rfl
  | single hroot hrest =>
      rw [List.filter_cons_of_pos hroot]
      exact filter_mergeFrom options source hroot hrest
  | @container c members rest hroot hstands hmembers hrest =>
      have hbehind := filter_mergeFrom options source hroot hrest
      rw [mergeFrom_of_stands options source hstands, List.filter_cons_of_pos hroot] at hbehind
      rw [filter_isRoot_container hroot hmembers]
      show (mergeFrom options _ c (members ++ rest)).filter Chunk.isRoot = mergeFrom options _ c _
      rw [mergeFrom_of_stands options source hstands, List.filter_cons_of_pos hroot,
        filter_mergeSmall_append options source hmembers hrest, hbehind]

end Merging

/-! ## Faults -/

variable {options}

/-- Chunks can be merged if the first can be compared with the next one and the others can be
merged. -/
theorem mergeFault?_cons_eq_none {first : Chunk} {rest : List Chunk} :
    mergeFault? options (first :: rest) = none ↔
      (∀ next ∈ rest.head?, pairFault? options first next = none) ∧
        mergeFault? options rest = none := by
  cases rest with
  | nil => exact ⟨fun _ => ⟨fun _ hnext => absurd hnext (by simp), rfl⟩, fun _ => rfl⟩
  | cons next rest =>
      rw [mergeFault?]
      cases hpair : pairFault? options first next with
      | some failure =>
          refine ⟨fun h => absurd h (by simp), fun h => ?_⟩
          exact absurd (hpair.symm.trans (h.1 next rfl)) (by simp)
      | none =>
          refine ⟨fun h => ⟨fun other hother => ?_, h⟩, fun h => h.2⟩
          rw [← Option.some.inj hother]
          exact hpair

theorem mergeFault?_of_append {front chunks : List Chunk}
    (h : mergeFault? options (front ++ chunks) = none) : mergeFault? options chunks = none := by
  induction front with
  | nil => exact h
  | cons first front ih => exact ih (mergeFault?_cons_eq_none.mp h).2

/-- The first of the chunks that are held by none is the first of all. -/
theorem Sheltered.head?_filter {chunks : List Chunk} (h : Sheltered chunks) :
    (chunks.filter Chunk.isRoot).head? = chunks.head? := by
  cases chunks with
  | nil => rfl
  | cons c rest => rw [List.filter_cons_of_pos h.isRoot_head, List.head?_cons, List.head?_cons]

/-- Chunks that can be merged can still be when those that are held are left out. -/
theorem mergeFault?_filter {chunks : List Chunk} (h : Sheltered chunks)
    (hnone : mergeFault? options chunks = none) :
    mergeFault? options (chunks.filter Chunk.isRoot) = none := by
  induction h with
  | nil => rfl
  | @single c rest hroot hrest ih =>
      obtain ⟨hpair, hlater⟩ := mergeFault?_cons_eq_none.mp hnone
      rw [List.filter_cons_of_pos hroot]
      refine mergeFault?_cons_eq_none.mpr ⟨?_, ih hlater⟩
      rw [hrest.head?_filter]
      exact hpair
  | @container c members rest hroot hstands hmembers hrest ih =>
      have hlater := (mergeFault?_cons_eq_none.mp hnone).2
      rw [filter_isRoot_container hroot hmembers]
      refine mergeFault?_cons_eq_none.mpr ⟨fun next _ => ?_, ih (mergeFault?_of_append hlater)⟩
      exact (apart_of_not_areNeighbours options (areNeighbours_of_stands hstands next).1).2

end Held

end ChunkGraph
