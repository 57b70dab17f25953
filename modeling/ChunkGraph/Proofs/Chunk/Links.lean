import ChunkGraph.Proofs.Chunk.Runs

/-!
# Links after merging

Chunks refer to one another by identities: a member names its container, and a
container lists its members. What a group of chunks becomes refers to everything
that its chunks refer to, so no link is lost. But it keeps the identity of the
first chunk only, and links to the others stay as they are. So links lead
somewhere after merging if and only if nothing refers to a chunk that has been
absorbed.

Containers stand on their own and are never absorbed, but their members may be. A
container keeps listing a member that has been absorbed. Merging is therefore safe
for links where it joins chunks that nothing holds.

## Main definitions

* `Chunk.links`, `IsLink` — the identities that chunks refer to.
* `Linked` — every link leads to a chunk.
* `Mutual` — containers and members refer to each other.

## Main results

* `Group.mem_links_merged` — the links of what a group becomes.
* `isLink_mergeSmall` — merging keeps all links and makes up none.
* `linked_mergeSmall_iff` — when links lead somewhere after merging.
* `namespace_lists_absorbed_constant` — a link that leads nowhere.
-/

namespace ChunkGraph

/-! ## Links -/

/-- The identities that a chunk refers to: that of its container and those of its members. -/
def Chunk.links (c : Chunk) : List String := c.parentId.toList ++ c.childrenIds

/-- Some chunk refers to the identity. -/
def IsLink (chunks : List Chunk) (id : String) : Prop := ∃ c ∈ chunks, id ∈ c.links

/-- The identities that chunks refer to are those of chunks. -/
def Linked (chunks : List Chunk) : Prop :=
  ∀ c ∈ chunks, ∀ id ∈ c.links, ∃ target ∈ chunks, target.id = id

instance (chunks : List Chunk) (id : String) : Decidable (IsLink chunks id) :=
  inferInstanceAs (Decidable (∃ c ∈ chunks, _))

instance (chunks : List Chunk) : Decidable (Linked chunks) :=
  inferInstanceAs (Decidable (∀ c ∈ chunks, _))

/-- Containers and their members refer to each other, and containers stand on their own. -/
structure Mutual (chunks : List Chunk) : Prop where
  /-- A member names a container that lists it. -/
  exists_parent : ∀ c ∈ chunks, ∀ id ∈ c.parentId,
    ∃ p ∈ chunks, p.id = id ∧ p.isMergeable = false ∧ c.id ∈ p.childrenIds
  /-- A container lists chunks that name it. -/
  exists_child : ∀ p ∈ chunks, ∀ id ∈ p.childrenIds,
    ∃ c ∈ chunks, c.id = id ∧ c.parentId = some p.id

instance (chunks : List Chunk) : Decidable (Mutual chunks) :=
  decidable_of_iff
    ((∀ c ∈ chunks, ∀ id ∈ c.parentId,
        ∃ p ∈ chunks, p.id = id ∧ p.isMergeable = false ∧ c.id ∈ p.childrenIds) ∧
      ∀ p ∈ chunks, ∀ id ∈ p.childrenIds, ∃ c ∈ chunks, c.id = id ∧ c.parentId = some p.id)
    ⟨fun h => ⟨h.1, h.2⟩, fun h => ⟨h.exists_parent, h.exists_child⟩⟩

theorem mem_links_iff {c : Chunk} {id : String} :
    id ∈ c.links ↔ c.parentId = some id ∨ id ∈ c.childrenIds := by
  rw [Chunk.links, List.mem_append, Option.mem_toList]

theorem Mutual.linked {chunks : List Chunk} (h : Mutual chunks) : Linked chunks := by
  intro c hc id hid
  rcases mem_links_iff.mp hid with hparent | hchild
  · obtain ⟨p, hp, hpid, _⟩ := h.exists_parent c hc id hparent
    exact ⟨p, hp, hpid⟩
  · obtain ⟨child, hchild, hchildId, _⟩ := h.exists_child c hc id hchild
    exact ⟨child, hchild, hchildId⟩

/-! ## Links of groups -/

/-- What a group becomes refers to what its chunks refer to. -/
theorem Group.mem_links_merged (g : Group) (id : String) :
    id ∈ g.merged.links ↔ IsLink g.members id := by
  rw [mem_links_iff, parentId_merged, childrenIds_merged, mem_appendNew, List.mem_flatMap]
  constructor
  · rintro (hparent | hhead | ⟨c, hc, hchild⟩)
    · exact ⟨g.head, g.head_mem_members, mem_links_iff.mpr (Or.inl hparent)⟩
    · exact ⟨g.head, g.head_mem_members, mem_links_iff.mpr (Or.inr hhead)⟩
    · exact ⟨c, List.mem_cons_of_mem g.head hc, mem_links_iff.mpr (Or.inr hchild)⟩
  · rintro ⟨c, hc, hid⟩
    rcases mem_links_iff.mp hid with hparent | hchild
    · exact Or.inl ((parentId_of_mem hc).symm.trans hparent)
    · rcases List.mem_cons.mp hc with rfl | hc
      · exact Or.inr (Or.inl hchild)
      · exact Or.inr (Or.inr ⟨c, hc, hchild⟩)

section Merging

variable {options : Options} {source : Option String} {chunks : List Chunk}

/-- Merging keeps all links and makes up none. -/
theorem isLink_mergeSmall (id : String) :
    IsLink (mergeSmall options source chunks) id ↔ IsLink chunks id := by
  constructor
  · rintro ⟨c, hc, hid⟩
    obtain ⟨g, hg, rfl⟩ := mem_mergeSmall_iff.mp hc
    obtain ⟨member, hmember, hlink⟩ := (g.mem_links_merged id).mp hid
    exact ⟨member, (mem_iff_exists_group options source).mpr ⟨g, hg, hmember⟩, hlink⟩
  · rintro ⟨c, hc, hid⟩
    obtain ⟨g, hg, hmember⟩ := (mem_iff_exists_group options source).mp hc
    exact ⟨g.merged, mem_mergeSmall_iff.mpr ⟨g, hg, rfl⟩, (g.mem_links_merged id).mpr
      ⟨c, hmember, hid⟩⟩

/-- The identities after merging are those of the first chunks of groups. -/
theorem exists_mem_mergeSmall_iff (id : String) :
    (∃ c ∈ mergeSmall options source chunks, c.id = id) ↔
      ∃ g ∈ groups options source chunks, g.head.id = id := by
  constructor
  · rintro ⟨c, hc, rfl⟩
    obtain ⟨g, hg, rfl⟩ := mem_mergeSmall_iff.mp hc
    exact ⟨g, hg, g.id_merged.symm⟩
  · rintro ⟨g, hg, rfl⟩
    exact ⟨g.merged, mem_mergeSmall_iff.mpr ⟨g, hg, rfl⟩, g.id_merged⟩

/-- Links lead somewhere after merging if those to absorbed chunks do. -/
theorem linked_iff_of_linked (h : Linked chunks) :
    Linked (mergeSmall options source chunks) ↔
      ∀ g ∈ groups options source chunks, ∀ folded ∈ g.tail, IsLink chunks folded.id →
        ∃ kept ∈ groups options source chunks, kept.head.id = folded.id := by
  constructor
  · intro hmerged g _ folded _ hlink
    obtain ⟨c, hc, hid⟩ := (isLink_mergeSmall folded.id).mpr hlink
    exact (exists_mem_mergeSmall_iff folded.id).mp (hmerged c hc folded.id hid)
  · intro hfolded c hc id hid
    obtain ⟨asker, hasker, hasked⟩ := (isLink_mergeSmall id).mp ⟨c, hc, hid⟩
    obtain ⟨target, htarget, rfl⟩ := h asker hasker id hasked
    obtain ⟨g, hg, hmember⟩ := (mem_iff_exists_group options source).mp htarget
    refine (exists_mem_mergeSmall_iff target.id).mpr ?_
    rcases List.mem_cons.mp hmember with rfl | hmember
    · exact ⟨g, hg, rfl⟩
    · exact hfolded g hg target hmember ⟨asker, hasker, hasked⟩

/-- Among different identities nothing must refer to a chunk that is absorbed. -/
theorem linked_iff_of_nodup (h : Linked chunks) (hnodup : (chunks.map (·.id)).Nodup) :
    Linked (mergeSmall options source chunks) ↔
      ∀ g ∈ groups options source chunks, ∀ folded ∈ g.tail, ¬IsLink chunks folded.id := by
  rw [← flatMap_members_groups options source chunks] at hnodup
  rw [linked_iff_of_linked h]
  constructor
  · intro hkept g hg folded hfolded hlink
    obtain ⟨kept, hkeptMem, hid⟩ := hkept g hg folded hfolded hlink
    exact Group.id_head_ne_of_mem_tail hnodup hg hkeptMem hfolded hid
  · intro hnone g hg folded hfolded hlink
    exact absurd hlink (hnone g hg folded hfolded)

/-- A chunk that stands on its own is not absorbed. -/
theorem exists_head_of_structural {c : Chunk} (hc : c ∈ chunks) (hown : c.isMergeable = false) :
    ∃ g ∈ groups options source chunks, g.head = c := by
  obtain ⟨g, hg, hmember⟩ := (mem_iff_exists_group options source).mp hc
  refine ⟨g, hg, ?_⟩
  rcases List.mem_cons.mp hmember with rfl | hmember
  · rfl
  · have hmergeable := ((fits_of_mem_groups options source chunks g hg).tail c hmember).1
    exact absurd (hown.symm.trans hmergeable) Bool.false_ne_true

/-- Where containers and members refer to each other, nothing must be absorbed in a container. -/
theorem linked_iff_of_mutual (h : Mutual chunks) (hnodup : (chunks.map (·.id)).Nodup) :
    Linked (mergeSmall options source chunks) ↔
      ∀ g ∈ groups options source chunks, g.tail ≠ [] → g.head.parentId = none := by
  rw [linked_iff_of_nodup h.linked hnodup]
  constructor
  · intro hnone g hg hne
    obtain ⟨folded, rest, htail⟩ := List.exists_cons_of_ne_nil hne
    have hfolded : folded ∈ g.tail := htail ▸ List.mem_cons_self
    have hmember : folded ∈ g.members := List.mem_cons_of_mem g.head hfolded
    cases hparent : g.head.parentId with
    | none => rfl
    | some id =>
        have hmem : folded ∈ chunks := (mem_iff_exists_group options source).mpr ⟨g, hg, hmember⟩
        obtain ⟨p, hp, _, _, hlisted⟩ :=
          h.exists_parent folded hmem id ((g.parentId_of_mem hmember).trans hparent)
        exact absurd ⟨p, hp, mem_links_iff.mpr (Or.inr hlisted)⟩ (hnone g hg folded hfolded)
  · rintro hnone g hg folded hfolded ⟨c, hc, hid⟩
    have hmember : folded ∈ g.members := List.mem_cons_of_mem g.head hfolded
    have hmem : folded ∈ chunks := (mem_iff_exists_group options source).mpr ⟨g, hg, hmember⟩
    rcases mem_links_iff.mp hid with hparent | hchild
    · -- A container with that identity would be the absorbed chunk itself.
      obtain ⟨p, hp, hpid, hown, _⟩ := h.exists_parent c hc folded.id hparent
      obtain rfl : p = folded := List.inj_on_of_nodup_map hnodup hp hmem hpid
      have hmergeable := ((fits_of_mem_groups options source chunks g hg).tail p hfolded).1
      exact absurd (hown.symm.trans hmergeable) Bool.false_ne_true
    · obtain ⟨child, hchildMem, hchildId, hchildParent⟩ := h.exists_child c hc folded.id hchild
      obtain rfl : child = folded := List.inj_on_of_nodup_map hnodup hchildMem hmem hchildId
      have hnoParent := hnone g hg (List.ne_nil_of_mem hfolded)
      rw [← g.parentId_of_mem hmember, hchildParent] at hnoParent
      exact absurd hnoParent (Option.some_ne_none _)

end Merging

/-- When links are intact after merging. Let every link lead to a chunk. Merging keeps all links and
makes up none, and they lead to chunks if and only if for every absorbed chunk to which a link leads
there is a chunk that keeps its identity. If no two chunks share an identity, that is so if and only
if no link leads to an absorbed chunk. If moreover containers and members refer to each other, every
container that is named is still there, and the links are intact if and only if no chunk in a
container has been merged. -/
theorem linked_mergeSmall_iff (options : Options) (source : Option String) (chunks : List Chunk)
    (hlinked : Linked chunks) :
    (∀ id, IsLink (mergeSmall options source chunks) id ↔ IsLink chunks id) ∧
      (Linked (mergeSmall options source chunks) ↔
        ∀ g ∈ groups options source chunks, ∀ folded ∈ g.tail, IsLink chunks folded.id →
          ∃ kept ∈ groups options source chunks, kept.head.id = folded.id) ∧
      ((chunks.map (·.id)).Nodup →
        (Linked (mergeSmall options source chunks) ↔
          ∀ g ∈ groups options source chunks, ∀ folded ∈ g.tail, ¬IsLink chunks folded.id)) ∧
      (Mutual chunks →
        (∀ c ∈ mergeSmall options source chunks, ∀ id, c.parentId = some id →
          ∃ p ∈ mergeSmall options source chunks, p.id = id) ∧
        ((chunks.map (·.id)).Nodup →
          (Linked (mergeSmall options source chunks) ↔
            ∀ g ∈ groups options source chunks, g.tail ≠ [] → g.head.parentId = none))) := by
  refine ⟨isLink_mergeSmall, linked_iff_of_linked hlinked, linked_iff_of_nodup hlinked,
    fun hmutual => ⟨fun c hc id hparent => ?_, linked_iff_of_mutual hmutual⟩⟩
  obtain ⟨g, hg, rfl⟩ := mem_mergeSmall_iff.mp hc
  obtain ⟨p, hp, rfl, hown, _⟩ := hmutual.exists_parent g.head (head_mem_of_mem_groups hg) id
    (g.parentId_merged.symm.trans hparent)
  obtain ⟨holder, hholder, rfl⟩ := exists_head_of_structural hp hown
  exact (exists_mem_mergeSmall_iff _).mpr ⟨holder, hholder, rfl⟩

/-! ## A namespace with constants -/

/-- A namespace. -/
def namespaceOf (members : List Chunk) : Chunk :=
  { constantAt 1 "N" with kind := .namespaceDecl, childrenIds := members.map (·.id) }

/-- An exported constant in that namespace. -/
def constantInNamespace (line : Int) (name : String) : Chunk :=
  { constantAt line name with parentId := some "N" }

/-- A namespace with a constant, and two constants behind it. -/
def constantsBehindNamespace : List Chunk :=
  [namespaceOf [constantInNamespace 2 "a"], constantInNamespace 2 "a", constantAt 3 "b",
    constantAt 4 "c"]

/-- Constants that nothing holds are merged, and the links of a namespace are intact. -/
theorem linked_mergeSmall_iff_behind :
    Linked constantsBehindNamespace ∧ Mutual constantsBehindNamespace ∧
      (mergeSmall {} none constantsBehindNamespace).map (·.id) = ["N", "a", "b"] ∧
      Linked (mergeSmall {} none constantsBehindNamespace) := by
  have hlinked : Linked constantsBehindNamespace := by decide
  have hmutual : Mutual constantsBehindNamespace := by decide
  have hiff := ((linked_mergeSmall_iff {} none constantsBehindNamespace hlinked).2.2.2 hmutual).2
    (by decide)
  have houtside : ∀ group ∈ (groups {} none constantsBehindNamespace).map
      (fun g => (g.head, g.tail)), group.2 ≠ [] → group.1.parentId = none := by decide
  exact ⟨hlinked, hmutual, by decide,
    hiff.mpr fun g hg => houtside (g.head, g.tail) (List.mem_map_of_mem hg)⟩

/-- A namespace goes on listing a constant that has been absorbed by the one before it. -/
theorem namespace_lists_absorbed_constant :
    ¬∀ (options : Options) (source : Option String) (chunks : List Chunk), Linked chunks →
      Linked (mergeSmall options source chunks) := by
  intro hkept
  have hmembers := hkept {} none
    (namespaceOf [constantInNamespace 2 "a", constantInNamespace 3 "b"] ::
      [constantInNamespace 2 "a", constantInNamespace 3 "b"]) (by decide)
  exact absurd hmembers (by decide)

end ChunkGraph
