import ChunkGraph.Proofs.Outline.Forest

/-!
# The same chunks in two files

A text can be cut as a file of its own and as a part of a larger file. The two
lists of chunks match one by one: each chunk of the larger file is the chunk of
the text moved down by the lines before it, and only what the path enters into
differs. The lists are then read as one list of pairs.

The pairs form a forest as the chunks of one file do, and the invariant is that
both chunks of a pair hang under the two chunks of the same other pair. That a
chunk lists the same members in both files follows: a chunk further below names
a chunk with a longer qualified name, so it is left out in both.

## Main definitions

* `Chunk.Mirrors` — a chunk is another one moved down, in another file.
* `Twins` — the pairs of chunks below a pair.
* `SameLinks` — the links of the chunks of two files agree position by position.
* `Matched` — two lists of chunks are the two sides of one list of pairs.

## Main results

* `Twins.sameLinks` — pairs link to pairs.
* `Matched.append`, `Matched.flatMap`, `Matched.container` — how lists that match
  are put together.
-/

namespace ChunkGraph

/-- A part of a file, some lines further down. -/
def Range.movedDown (lines : Nat) (range : Range) : Range :=
  ⟨⟨range.start.line + lines, range.start.column⟩, ⟨range.stop.line + lines, range.stop.column⟩⟩

/-- A chunk, some lines further down. -/
def Chunk.movedDown (lines : Nat) (c : Chunk) : Chunk :=
  { c with
    range := c.range.movedDown lines
    startLine := c.startLine + lines
    endLine := c.endLine + lines }

/-- The chunk is the other one, some lines further down in another file. Only its identity, path and
fingerprint and the identities that it links to are its own. -/
def Chunk.Mirrors (lines : Nat) (c other : Chunk) : Prop :=
  c = { other.movedDown lines with
    id := c.id, filePath := c.filePath, hash := c.hash
    parentId := c.parentId, childrenIds := c.childrenIds }

section Mirrors

variable {lines : Nat} {c other : Chunk}

theorem Chunk.Mirrors.qualifiedName_eq (h : c.Mirrors lines other) :
    c.qualifiedName = other.qualifiedName := by
  unfold Chunk.Mirrors at h
  rw [h]
  rfl

theorem Chunk.Mirrors.kind_eq (h : c.Mirrors lines other) : c.kind = other.kind := by
  unfold Chunk.Mirrors at h
  rw [h]
  rfl

theorem Chunk.Mirrors.tokenCount_eq (h : c.Mirrors lines other) :
    c.tokenCount = other.tokenCount := by
  unfold Chunk.Mirrors at h
  rw [h]
  rfl

end Mirrors

namespace Outline

/-! ## Pairs of chunks -/

/-- The two chunks mirror each other and hang under the two chunks of the same pair. -/
structure AreTwins (lines : Nat) (path path' : String) (parent : Option (Chunk × Chunk))
    (twin : Chunk × Chunk) : Prop where
  /-- The first is the second one, further down. -/
  mirrors : twin.1.Mirrors lines twin.2
  /-- The first hangs under a chunk of its own file. -/
  fst_hangs : Hangs path (parent.map Prod.fst) twin.1
  /-- The second hangs under that chunk's partner. -/
  snd_hangs : Hangs path' (parent.map Prod.snd) twin.2

/-- A pair of chunks each of which lists those chunks of its file that point to it. -/
def linkedTwins (twin : Chunk × Chunk) (members : List (Chunk × Chunk)) : Chunk × Chunk :=
  (linked twin.1 (members.map Prod.fst), linked twin.2 (members.map Prod.snd))

/-- The pairs of chunks below a pair: behind each pair stand first the pairs below it. -/
inductive Twins (lines : Nat) (path path' : String) :
    Option (Chunk × Chunk) → List (Chunk × Chunk) → Prop where
  /-- There are none. -/
  | nil {parent : Option (Chunk × Chunk)} : Twins lines path path' parent []
  /-- A pair with the pairs below it, and the pairs beside it. -/
  | cons {parent : Option (Chunk × Chunk)} {twin : Chunk × Chunk}
      {members rest : List (Chunk × Chunk)} (htwin : AreTwins lines path path' parent twin)
      (hmembers : Twins lines path path' (some twin) members)
      (hrest : Twins lines path path' parent rest) :
      Twins lines path path' parent (linkedTwins twin members :: (members ++ rest))

section Twins

variable {lines : Nat} {path path' : String} {parent : Option (Chunk × Chunk)}

/-- What a pair lists does not matter for what it is. -/
theorem AreTwins.linked {twin : Chunk × Chunk} (h : AreTwins lines path path' parent twin)
    (members : List (Chunk × Chunk)) :
    AreTwins lines path path' parent (linkedTwins twin members) := by
  obtain ⟨hmirrors, ⟨hname, hid, hkind, hparent, hqualified⟩,
    ⟨hname', hid', hkind', hparent', hqualified'⟩⟩ := h
  refine ⟨?_, ⟨hname, hid, hkind, hparent, hqualified⟩,
    ⟨hname', hid', hkind', hparent', hqualified'⟩⟩
  have hlisted := congrArg (fun c : Chunk => { c with
    childrenIds := (Outline.linked twin.1 (members.map Prod.fst)).childrenIds }) hmirrors
  exact hlisted

/-- What the pair above lists does not matter for what hangs under it. -/
theorem AreTwins.under_linked {holder twin : Chunk × Chunk}
    (h : AreTwins lines path path' (some holder) twin) (members : List (Chunk × Chunk)) :
    AreTwins lines path path' (some (linkedTwins holder members)) twin := by
  obtain ⟨hmirrors, ⟨hname, hid, hkind, hparent, hqualified⟩,
    ⟨hname', hid', hkind', hparent', hqualified'⟩⟩ := h
  exact ⟨hmirrors, ⟨hname, hid, hkind, hparent, hqualified⟩,
    ⟨hname', hid', hkind', hparent', hqualified'⟩⟩

namespace Twins

variable {twins : List (Chunk × Chunk)}

theorem append {more : List (Chunk × Chunk)} (h : Twins lines path path' parent twins)
    (hmore : Twins lines path path' parent more) :
    Twins lines path path' parent (twins ++ more) := by
  induction h with
  | nil => exact hmore
  | cons htwin hmembers _ _ ih =>
      rw [List.cons_append, List.append_assoc]
      exact .cons htwin hmembers (ih hmore)

/-- A pair hangs under the given one, or under a pair before it. -/
theorem hangs_or_held (h : Twins lines path path' parent twins)
    {before after : List (Chunk × Chunk)} {twin : Chunk × Chunk}
    (hsplit : twins = before ++ twin :: after) :
    AreTwins lines path path' parent twin ∨
      ∃ holder ∈ before, AreTwins lines path path' (some holder) twin := by
  induction h generalizing before after with
  | nil => exact absurd hsplit (by simp)
  | @cons parent first members rest htwin hmembers hrest ihmembers ihrest =>
      cases before with
      | nil =>
          obtain ⟨rfl, rfl⟩ := List.cons.inj hsplit
          exact Or.inl (htwin.linked members)
      | cons head before =>
          rw [List.cons_append] at hsplit
          obtain ⟨rfl, htail⟩ := List.cons.inj hsplit
          rcases append_eq_append_cons htail with ⟨behind, hleft, _⟩ | ⟨front, rfl, hright⟩
          · rcases ihmembers hleft with hangs | ⟨holder, hholder, hheld⟩
            · exact Or.inr ⟨_, List.mem_cons_self, hangs.under_linked members⟩
            · exact Or.inr ⟨holder, List.mem_cons_of_mem _ hholder, hheld⟩
          · rcases ihrest hright with hangs | ⟨holder, hholder, hheld⟩
            · exact Or.inl hangs
            · exact Or.inr ⟨holder, List.mem_cons_of_mem _ (List.mem_append_right _ hholder), hheld⟩

/-- Every pair hangs somewhere. -/
theorem exists_areTwins (h : Twins lines path path' parent twins) {twin : Chunk × Chunk}
    (htwin : twin ∈ twins) : ∃ above, AreTwins lines path path' above twin := by
  obtain ⟨before, after, hsplit⟩ := List.append_of_mem htwin
  rcases h.hangs_or_held hsplit with hangs | ⟨holder, _, hheld⟩
  · exact ⟨parent, hangs⟩
  · exact ⟨some holder, hheld⟩

/-- Behind each pair stand first the pairs below it. -/
theorem exists_members (h : Twins lines path path' parent twins)
    {before after : List (Chunk × Chunk)} {twin : Chunk × Chunk}
    (hsplit : twins = before ++ twin :: after) :
    ∃ above holder members rest, AreTwins lines path path' above holder ∧
      Twins lines path path' (some holder) members ∧ twin = linkedTwins holder members ∧
      after = members ++ rest := by
  induction h generalizing before after with
  | nil => exact absurd hsplit (by simp)
  | @cons parent first members rest htwin hmembers hrest ihmembers ihrest =>
      cases before with
      | nil =>
          obtain ⟨rfl, rfl⟩ := List.cons.inj hsplit
          exact ⟨_, _, _, _, htwin, hmembers, rfl, rfl⟩
      | cons head before =>
          rw [List.cons_append] at hsplit
          rcases append_eq_append_cons (List.cons.inj hsplit).2 with
            ⟨behind, hleft, rfl⟩ | ⟨front, _, hright⟩
          · obtain ⟨above, holder, below, more, hholder, hbelow, htwin', rfl⟩ := ihmembers hleft
            exact ⟨above, holder, below, more ++ rest, hholder, hbelow, htwin',
              List.append_assoc ..⟩
          · exact ihrest hright

/-- All pairs below a pair have longer qualified names. -/
theorem length_lt {holder : Chunk × Chunk} (h : Twins lines path path' (some holder) twins)
    {twin : Chunk × Chunk} (htwin : twin ∈ twins) :
    holder.1.qualifiedName.length < twin.1.qualifiedName.length ∧
      holder.2.qualifiedName.length < twin.2.qualifiedName.length := by
  generalize hparent : some holder = parent at h
  induction h generalizing holder with
  | nil => exact absurd htwin List.not_mem_nil
  | @cons _ first members rest hfirst _ _ ihmembers ihrest =>
      subst hparent
      have hlonger : holder.1.qualifiedName.length < first.1.qualifiedName.length ∧
          holder.2.qualifiedName.length < first.2.qualifiedName.length :=
        ⟨hfirst.fst_hangs.length_lt, hfirst.snd_hangs.length_lt⟩
      rcases List.mem_cons.mp htwin with rfl | htwin
      · exact hlonger
      · rcases List.mem_append.mp htwin with htwin | htwin
        · have hdeeper := ihmembers htwin rfl
          exact ⟨Nat.lt_trans hlonger.1 hdeeper.1, Nat.lt_trans hlonger.2 hdeeper.2⟩
        · exact ihrest htwin rfl

end Twins

/-! ## Links -/

/-- The links of the chunks of two files agree position by position. -/
structure SameLinks (path path' : String) (twins : List (Chunk × Chunk)) : Prop where
  /-- Both chunks of a pair stand alone, or both point to the chunks of the same pair before. -/
  parents : ∀ before twin after, twins = before ++ twin :: after →
    (twin.1.parentId = none ∧ twin.2.parentId = none) ∨
      ∃ holder ∈ before, twin.1.parentId = some holder.1.id ∧ twin.2.parentId = some holder.2.id
  /-- Both chunks of a pair list the chunks of the same pairs behind. -/
  children : DigestsDistinct path (twins.map Prod.fst) →
    DigestsDistinct path' (twins.map Prod.snd) →
    ∀ before twin after, twins = before ++ twin :: after →
      ∃ children, List.Sublist children after ∧
        twin.1.childrenIds = children.map (·.1.id) ∧ twin.2.childrenIds = children.map (·.2.id)

theorem SameLinks.nil (path path' : String) : SameLinks path path' [] := ⟨by simp, by simp⟩

/-- A pair below a pair points to it with both chunks or with neither. -/
theorem Twins.points_iff {holder twin : Chunk × Chunk}
    {members twins : List (Chunk × Chunk)}
    (hholder : ∃ upper, AreTwins lines path path' upper holder)
    (hmembers : Twins lines path path' (some holder) members)
    (hlinked : linkedTwins holder members ∈ twins) (hsubset : ∀ m ∈ members, m ∈ twins)
    (hdigests : DigestsDistinct path (twins.map Prod.fst))
    (hdigests' : DigestsDistinct path' (twins.map Prod.snd)) (htwin : twin ∈ members) :
    twin.1.parentId = some holder.1.id ↔ twin.2.parentId = some holder.2.id := by
  obtain ⟨upper, hupper⟩ := hholder
  obtain ⟨before, after, hsplit⟩ := List.append_of_mem htwin
  have hupper := hupper.linked members
  rcases hmembers.hangs_or_held hsplit with hangs | ⟨between, hbetween, hheld⟩
  · exact iff_of_true hangs.fst_hangs.parentId_eq hangs.snd_hangs.parentId_eq
  · -- Further below, the pair in between has longer qualified names and so other identities.
    have hmem : between ∈ members := hsplit ▸ List.mem_append_left _ hbetween
    obtain ⟨_, hsits⟩ := hmembers.exists_areTwins hmem
    have hlonger := hmembers.length_lt hmem
    have hne : between.1.id ≠ holder.1.id := fun hsame =>
      hdigests.not_collide (List.mem_map_of_mem (hsubset between hmem))
        (List.mem_map_of_mem hlinked)
        (collide_of_length_lt hsits.fst_hangs hupper.fst_hangs hsame hlonger.1)
    have hne' : between.2.id ≠ holder.2.id := fun hsame =>
      hdigests'.not_collide (List.mem_map_of_mem (hsubset between hmem))
        (List.mem_map_of_mem hlinked)
        (collide_of_length_lt hsits.snd_hangs hupper.snd_hangs hsame hlonger.2)
    rw [hheld.fst_hangs.parentId_eq, hheld.snd_hangs.parentId_eq]
    exact iff_of_false (fun h => hne (Option.some.inj h)) (fun h => hne' (Option.some.inj h))

/-- Pairs link to pairs. -/
theorem Twins.sameLinks {twins : List (Chunk × Chunk)} (h : Twins lines path path' none twins) :
    SameLinks path path' twins := by
  refine ⟨?parents, ?children⟩
  case parents =>
    intro before twin after hsplit
    rcases h.hangs_or_held hsplit with hangs | ⟨holder, hholder, hheld⟩
    · exact Or.inl ⟨hangs.fst_hangs.parentId_eq, hangs.snd_hangs.parentId_eq⟩
    · exact Or.inr ⟨holder, hholder, hheld.fst_hangs.parentId_eq, hheld.snd_hangs.parentId_eq⟩
  case children =>
    intro hdigests hdigests' before twin after hsplit
    obtain ⟨above, holder, members, rest, hholder, hmembers, rfl, rfl⟩ := h.exists_members hsplit
    have hlinked : linkedTwins holder members ∈ twins := by simp [hsplit]
    have hsubset : ∀ m ∈ members, m ∈ twins := fun m hm => by simp [hsplit, hm]
    refine ⟨members.filter (·.1.parentId == some holder.1.id),
      List.filter_sublist.trans (List.sublist_append_left members rest), ?_, ?_⟩
    · show ((members.map Prod.fst).filter (·.parentId == some holder.1.id)).map (·.id) = _
      rw [List.filter_map, List.map_map]
      rfl
    · show ((members.map Prod.snd).filter (·.parentId == some holder.2.id)).map (·.id) = _
      rw [List.filter_map, List.map_map]
      have hsame : members.filter (fun m => m.2.parentId == some holder.2.id) =
          members.filter (·.1.parentId == some holder.1.id) := by
        refine List.filter_congr fun m hm => ?_
        have hiff := Twins.points_iff ⟨above, hholder⟩ hmembers hlinked hsubset
          hdigests hdigests' hm
        rw [Bool.eq_iff_iff, beq_iff_eq, beq_iff_eq]
        exact hiff.symm
      exact congrArg (List.map fun m : Chunk × Chunk => m.2.id) hsame

end Twins

/-! ## Lists that match -/

/-- The two lists are the two sides of the pairs of chunks below a pair. -/
def Matched (lines : Nat) (path path' : String) (parent : Option (Chunk × Chunk))
    (chunks chunks' : List Chunk) : Prop :=
  ∃ twins, Twins lines path path' parent twins ∧ twins.map Prod.fst = chunks ∧
    twins.map Prod.snd = chunks'

namespace Matched

variable {lines : Nat} {path path' : String} {parent : Option (Chunk × Chunk)}

theorem nil : Matched lines path path' parent [] [] := ⟨[], .nil, rfl, rfl⟩

theorem append {chunks chunks' more more' : List Chunk}
    (h : Matched lines path path' parent chunks chunks')
    (hmore : Matched lines path path' parent more more') :
    Matched lines path path' parent (chunks ++ more) (chunks' ++ more') := by
  obtain ⟨twins, htwins, rfl, rfl⟩ := h
  obtain ⟨others, hothers, rfl, rfl⟩ := hmore
  exact ⟨twins ++ others, htwins.append hothers, List.map_append, List.map_append⟩

/-- Declarations that are cut one by one. -/
theorem flatMap {α : Type} {items : List α} {cut cut' : α → List Chunk}
    (h : ∀ item ∈ items, Matched lines path path' parent (cut item) (cut' item)) :
    Matched lines path path' parent (items.flatMap cut) (items.flatMap cut') := by
  induction items with
  | nil => exact .nil
  | cons item items ih =>
      rw [List.flatMap_cons, List.flatMap_cons]
      have hrest := ih fun other hother => h other (List.mem_cons_of_mem item hother)
      exact (h item List.mem_cons_self).append hrest

/-- A declaration may be a chunk without members in both files. -/
theorem single {c c' : Chunk} (htwins : AreTwins lines path path' parent (c, c'))
    (hlists : c.childrenIds = []) (hlists' : c'.childrenIds = []) :
    Matched lines path path' parent [c] [c'] := by
  have hlinked {c : Chunk} (h : c.childrenIds = []) : linked c [] = c := by
    show { c with childrenIds := [] } = c
    rw [← h]
  refine ⟨_, .cons htwins .nil .nil, ?_, ?_⟩
  · exact congrArg (fun c => [c]) (hlinked hlists)
  · exact congrArg (fun c => [c]) (hlinked hlists')

/-- A container with its members. -/
theorem withMembers {container container' : Chunk} {members members' : List Chunk}
    (hcontainer : AreTwins lines path path' parent (container, container'))
    (hmembers : Matched lines path path' (some (container, container')) members members') :
    Matched lines path path' parent (Outline.withMembers container members)
      (Outline.withMembers container' members') := by
  obtain ⟨twins, htwins, rfl, rfl⟩ := hmembers
  refine ⟨_, .cons hcontainer htwins .nil, ?_, ?_⟩
  · rw [List.append_nil]
    rfl
  · rw [List.append_nil]
    rfl

end Matched

end Outline

end ChunkGraph
