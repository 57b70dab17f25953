import ChunkGraph.Proofs.Chunk.Identity
import ChunkGraph.Proofs.Chunker.Cutting
import ChunkGraph.Proofs.Data.Partial
import ChunkGraph.Proofs.Outline.Shape

/-!
# The forest of the chunks of a file

The chunks of a file are listed in the order of a forest: behind each chunk
stand the chunks below it, and only then those beside it. Every chunk says in
three ways which chunk holds it: it names that chunk's identity, its qualified
name extends that chunk's qualified name, and that chunk lists it. The three
agree.

A container finds its members among all chunks below it by the identity that
they name. Deeper chunks name another one, because their qualified names are
longer; that the identities differ then as well is assumed of the digest.

## Main definitions

* `Hangs` — what a chunk says about the chunk that holds it.
* `Block`, `Held` — the chunk of a declaration with the chunks of its parts, and
  one of those.
* `IsForest` — the links of a list of chunks agree.
* `DigestsDistinct`, `Collide` — identities differ where the digested texts do,
  or two chunks stand against it.

## Main results

* `Yields.exists_block`, `Yields.hangs_or_held` — downwards and upwards from a
  chunk in a list.
* `Chunker.isForest_of_chunkCode` — the chunks of a file are a forest.
-/

namespace ChunkGraph

namespace Outline

open Syntax

/-! ## One chunk -/

/-- What a chunk says about itself and about the chunk that holds it. -/
structure Hangs (path : String) (parent : Option Chunk) (c : Chunk) : Prop where
  /-- It has a name. -/
  name_ne_empty : c.name ≠ ""
  /-- Its identity is that of its qualified name and kind. -/
  id_eq : c.id = chunkId path c.qualifiedName c.kind
  /-- Its kind is one that rules give. -/
  kind_mem : c.kind ∈ producedKinds
  /-- It names the chunk that holds it. -/
  parentId_eq : c.parentId = parent.map (·.id)
  /-- Its qualified name extends that of the chunk that holds it. -/
  qualifiedName_eq : c.qualifiedName = Context.qualify parent c.name

/-- The chunk of a declaration, whatever it lists, hangs where it was made. -/
theorem hangs_linked {ctx : Context} {parent : Option Chunk} {item : Item} {kind : ChunkKind}
    {facets : Facets} {c : Chunk} (hkind : kind ∈ producedKinds)
    (hmade : ctx.makeChunk? item parent kind facets = some c) (members : List Chunk) :
    Hangs ctx.filePath parent (linked c members) := by
  obtain ⟨name, hname, rfl⟩ := Option.map_eq_some_iff.mp hmade
  have hne : name ≠ "" := by
    obtain ⟨text, _, htext⟩ := Option.bind_eq_some_iff.mp hname
    rintro rfl
    unfold nonEmpty? at htext
    split at htext
    · exact absurd htext (by simp)
    · rename_i hnonempty
      rw [Option.some.inj htext] at hnonempty
      exact hnonempty rfl
  exact ⟨hne, rfl, hkind, rfl, rfl⟩

/-- Under a container the qualified name grows. -/
theorem Hangs.length_lt {path : String} {container c : Chunk}
    (h : Hangs path (some container) c) :
    container.qualifiedName.length < c.qualifiedName.length := by
  rw [h.qualifiedName_eq]
  show container.qualifiedName.length < (container.qualifiedName ++ "." ++ c.name).length
  rw [String.length_append, String.length_append]
  have hdot : ".".length = 1 := rfl
  omega

/-- The chunk of a declaration under a container, and the chunks of its parts. -/
structure Block (ctx : Context) (parent : Option Chunk) (item : Item) (c : Chunk)
    (members : List Chunk) : Prop where
  /-- The chunk is made of the declaration. -/
  made : ∃ kind ∈ producedKinds, ∃ facets, ctx.makeChunk? item parent kind facets = some c
  /-- The chunks below it are those of the parts. -/
  yields : ∃ parts, PartsOf ctx item parts ∧ Yields ctx (some c) parts members

/-- Among the chunks before a chunk stands the one that holds it, with nothing but chunks below that
one in between. It is made of a declaration with the given property. -/
def Held (ctx : Context) (good : Item → Prop) (before : List Chunk) (m : Chunk) : Prop :=
  ∃ above item c front early late, good item ∧ Block ctx above item c (early ++ m :: late) ∧
    before = front ++ linked c (early ++ m :: late) :: early ∧ Hangs ctx.filePath (some c) m

/-- What stands further in front makes no difference. -/
theorem Held.append_left {ctx : Context} {good : Item → Prop} {before : List Chunk} {m : Chunk}
    (h : Held ctx good before m) (others : List Chunk) : Held ctx good (others ++ before) m := by
  obtain ⟨above, item, c, front, early, late, hitem, hblock, rfl, hangs⟩ := h
  exact ⟨above, item, c, others ++ front, early, late, hitem, hblock,
    (List.append_assoc ..).symm, hangs⟩

namespace Yields

variable {ctx : Context} {parent : Option Chunk} {items : List Item} {chunks : List Chunk}

/-! ## Along the list -/

/-- Behind each chunk stand first the chunks of its parts. -/
theorem exists_block (h : Yields ctx parent items chunks) {before after : List Chunk} {m : Chunk}
    (hsplit : chunks = before ++ m :: after) :
    ∃ parent item c members rest, Block ctx parent item c members ∧ m = linked c members ∧
      after = members ++ rest := by
  induction h generalizing before after with
  | nil => exact absurd hsplit (by simp)
  | chunk hkind hmade hparts hmembers hrest ihmembers ihrest =>
      cases before with
      | nil =>
          obtain ⟨rfl, rfl⟩ := List.cons.inj hsplit
          exact ⟨_, _, _, _, _, ⟨⟨_, hkind, _, hmade⟩, _, hparts, hmembers⟩, rfl, rfl⟩
      | cons first before =>
          rw [List.cons_append] at hsplit
          rcases append_eq_append_cons (List.cons.inj hsplit).2 with
            ⟨behind, hleft, rfl⟩ | ⟨front, _, hright⟩
          · obtain ⟨_, _, _, members, more, hblock, hm, rfl⟩ := ihmembers hleft
            exact ⟨_, _, _, members, more ++ _, hblock, hm, List.append_assoc ..⟩
          · exact ihrest hright
  | parts hparts hfound hrest ihfound ihrest =>
      rcases append_eq_append_cons hsplit with ⟨behind, hleft, rfl⟩ | ⟨front, _, hright⟩
      · obtain ⟨_, _, _, members, more, hblock, hm, rfl⟩ := ihfound hleft
        exact ⟨_, _, _, members, more ++ _, hblock, hm, List.append_assoc ..⟩
      · exact ihrest hright

/-- A chunk hangs under the given container, or it is held by a chunk before it. A property of
declarations that passes to their parts holds of the declaration of that chunk. -/
theorem hangs_or_held (good : Item → Prop)
    (hpasses : ∀ item parts, good item → PartsOf ctx item parts → ∀ part ∈ parts, good part)
    (h : Yields ctx parent items chunks) (hgood : ∀ item ∈ items, good item)
    {before after : List Chunk} {m : Chunk} (hsplit : chunks = before ++ m :: after) :
    Hangs ctx.filePath parent m ∨ Held ctx good before m := by
  induction h generalizing before after with
  | nil => exact absurd hsplit (by simp)
  | @chunk parent item kind facets c parts items members rest hkind hmade hparts hmembers hrest
      ihmembers ihrest =>
      have hitem : good item := hgood item List.mem_cons_self
      cases before with
      | nil =>
          obtain ⟨rfl, rfl⟩ := List.cons.inj hsplit
          exact Or.inl (hangs_linked hkind hmade members)
      | cons first before =>
          rw [List.cons_append] at hsplit
          obtain ⟨rfl, htail⟩ := List.cons.inj hsplit
          rcases append_eq_append_cons htail with ⟨behind, rfl, _⟩ | ⟨front, rfl, hright⟩
          · -- The chunk is below the first one: directly, or below a chunk below it.
            rcases ihmembers (hpasses item parts hitem hparts) rfl with hangs | hheld
            · exact Or.inr ⟨parent, item, c, [], before, behind, hitem,
                ⟨⟨kind, hkind, facets, hmade⟩, parts, hparts, hmembers⟩, rfl, hangs⟩
            · exact Or.inr (hheld.append_left [_])
          · have hitems := fun other hother => hgood other (List.mem_cons_of_mem item hother)
            rcases ihrest hitems hright with hangs | hheld
            · exact Or.inl hangs
            · exact Or.inr (hheld.append_left (_ :: members))
  | @parts parent item parts items found rest hparts hfound hrest ihfound ihrest =>
      have hitem : good item := hgood item List.mem_cons_self
      rcases append_eq_append_cons hsplit with ⟨behind, hleft, _⟩ | ⟨front, rfl, hright⟩
      · exact ihfound (hpasses item parts hitem hparts) hleft
      · have hitems := fun other hother => hgood other (List.mem_cons_of_mem item hother)
        rcases ihrest hitems hright with hangs | hheld
        · exact Or.inl hangs
        · exact Or.inr (hheld.append_left found)

/-- All chunks under a container have longer qualified names than it has. -/
theorem length_lt {container : Chunk} (h : Yields ctx (some container) items chunks) {c : Chunk}
    (hc : c ∈ chunks) : container.qualifiedName.length < c.qualifiedName.length := by
  generalize hparent : some container = parent at h
  induction h generalizing container with
  | nil => exact absurd hc List.not_mem_nil
  | @chunk _ _ _ _ first _ _ members _ hkind hmade _ _ _ ihmembers ihrest =>
      subst hparent
      have hfirst := (hangs_linked hkind hmade members).length_lt
      rcases List.mem_cons.mp hc with rfl | hc
      · exact hfirst
      · rcases List.mem_append.mp hc with hc | hc
        · have hdeeper : first.qualifiedName.length < c.qualifiedName.length := ihmembers hc rfl
          exact Nat.lt_trans hfirst hdeeper
        · exact ihrest hc rfl
  | parts _ _ _ ihfound ihrest =>
      rcases List.mem_append.mp hc with hc | hc
      · exact ihfound hc hparent
      · exact ihrest hc hparent

end Yields

/-! ## The forest -/

/-- The links of the chunks of a file agree. -/
structure IsForest (path : String) (chunks : List Chunk) : Prop where
  /-- Every chunk has a name. -/
  name_ne_empty : ∀ c ∈ chunks, c.name ≠ ""
  /-- Every identity is that of the path, the qualified name and the kind. -/
  id_eq : ∀ c ∈ chunks, c.id = chunkId path c.qualifiedName c.kind
  /-- A chunk that nothing holds is called by its name alone. -/
  qualifiedName_of_root : ∀ c ∈ chunks, c.parentId = none → c.qualifiedName = c.name
  /-- The chunk that holds another stands before it, lends it its qualified name and lists it. -/
  exists_parent : ∀ before c after, chunks = before ++ c :: after →
    ∀ id, c.parentId = some id →
      ∃ p ∈ before, p.id = id ∧ c.qualifiedName = p.qualifiedName ++ "." ++ c.name ∧
        c.id ∈ p.childrenIds
  /-- What a chunk lists stands behind it, names it, and lies one name below it, not deeper. -/
  exists_child : ∀ before p after, chunks = before ++ p :: after →
    ∀ id ∈ p.childrenIds, ∃ c ∈ after, c.id = id ∧ c.parentId = some p.id ∧
      c.qualifiedName = p.qualifiedName ++ "." ++ c.name

/-- Of two texts that identify chunks of a file, the digests differ if the texts do. -/
def DigestsDistinct (path : String) (chunks : List Chunk) : Prop :=
  ∀ a ∈ chunks, ∀ b ∈ chunks,
    shortDigest (identityText path a.qualifiedName a.kind) =
        shortDigest (identityText path b.qualifiedName b.kind) →
      identityText path a.qualifiedName a.kind = identityText path b.qualifiedName b.kind

/-- It is enough to look at the qualified names and the kinds. -/
theorem digestsDistinct_of_map {path : String} {chunks : List Chunk}
    {names : List (String × ChunkKind)}
    (hnames : chunks.map (fun c => (c.qualifiedName, c.kind)) = names)
    (h : ∀ a ∈ names, ∀ b ∈ names,
      shortDigest (identityText path a.1 a.2) = shortDigest (identityText path b.1 b.2) →
        identityText path a.1 a.2 = identityText path b.1 b.2) :
    DigestsDistinct path chunks := by
  intro a ha b hb
  subst hnames
  exact h (a.qualifiedName, a.kind) (List.mem_map_of_mem ha) (b.qualifiedName, b.kind)
    (List.mem_map_of_mem hb)

/-- Different texts identify two chunks, and these have the same digest. -/
def Collide (path : String) (a b : Chunk) : Prop :=
  identityText path a.qualifiedName a.kind ≠ identityText path b.qualifiedName b.kind ∧
    shortDigest (identityText path a.qualifiedName a.kind) =
      shortDigest (identityText path b.qualifiedName b.kind)

/-- No two chunks of a file collide if its digests are distinct. -/
theorem DigestsDistinct.not_collide {path : String} {chunks : List Chunk}
    (h : DigestsDistinct path chunks) {a b : Chunk} (ha : a ∈ chunks) (hb : b ∈ chunks) :
    ¬Collide path a b :=
  fun hcollide => hcollide.1 (h a ha b hb hcollide.2)

/-- Chunks with the same identity collide if one has a longer qualified name. -/
theorem collide_of_length_lt {path : String} {a b : Chunk} {above above' : Option Chunk}
    (hangs : Hangs path above a) (hangs' : Hangs path above' b) (hid : a.id = b.id)
    (hlonger : b.qualifiedName.length < a.qualifiedName.length) : Collide path a b := by
  rw [hangs.id_eq, hangs'.id_eq] at hid
  refine ⟨fun htext => ?_, hid⟩
  have hname : a.qualifiedName = b.qualifiedName :=
    (Identity.same_of_text_eq (d := ⟨path, a.kind, a.qualifiedName⟩)
      (e := ⟨path, b.kind, b.qualifiedName⟩) hangs.kind_mem hangs'.kind_mem rfl htext).2.2
  rw [hname] at hlonger
  exact Nat.lt_irrefl _ hlonger

/-- Every chunk hangs somewhere. -/
theorem Yields.exists_hangs {ctx : Context} {parent : Option Chunk} {items : List Item}
    {chunks : List Chunk} (h : Yields ctx parent items chunks) {c : Chunk} (hc : c ∈ chunks) :
    ∃ above, Hangs ctx.filePath above c := by
  obtain ⟨before, after, hsplit⟩ := List.append_of_mem hc
  obtain ⟨above, _, d, members, _, ⟨⟨kind, hkind, facets, hmade⟩, _⟩, rfl, _⟩ :=
    h.exists_block hsplit
  exact ⟨above, hangs_linked hkind hmade members⟩

/-- A chunk below a chunk collides with it if it has the same identity, since its qualified name is
longer. -/
theorem collide_of_mem_members {ctx : Context} {above : Option Chunk} {c : Chunk}
    {parts : List Item} {members : List Chunk}
    (hangs : Hangs ctx.filePath above (linked c members))
    (hmembers : Yields ctx (some c) parts members) {m : Chunk} (hm : m ∈ members)
    (hid : m.id = c.id) : Collide ctx.filePath m (linked c members) := by
  obtain ⟨_, hangsM⟩ := hmembers.exists_hangs hm
  exact collide_of_length_lt hangsM hangs hid (hmembers.length_lt hm)

/-- The chunks of the declarations of a file are a forest. -/
theorem Yields.isForest {ctx : Context} {items : List Item} {chunks : List Chunk}
    (h : Yields ctx none items chunks) (hdigests : DigestsDistinct ctx.filePath chunks) :
    IsForest ctx.filePath chunks := by
  have hholder {before after : List Chunk} {m : Chunk} (hsplit : chunks = before ++ m :: after) :=
    h.hangs_or_held (fun _ => True) (fun _ _ _ _ _ _ => trivial) (fun _ _ => trivial) hsplit
  refine ⟨?name, ?id, ?root, ?parent, ?child⟩
  case name =>
    intro c hc
    obtain ⟨_, hangs⟩ := h.exists_hangs hc
    exact hangs.name_ne_empty
  case id =>
    intro c hc
    obtain ⟨_, hangs⟩ := h.exists_hangs hc
    exact hangs.id_eq
  case root =>
    intro c hc hroot
    obtain ⟨before, after, hsplit⟩ := List.append_of_mem hc
    rcases hholder hsplit with hangs | ⟨_, _, d, _, _, _, _, _, _, hangs⟩
    · exact hangs.qualifiedName_eq
    · rw [hangs.parentId_eq] at hroot
      exact absurd hroot (by simp)
  case parent =>
    intro before c after hsplit id hid
    rcases hholder hsplit with hangs | ⟨_, _, d, front, early, late, _, _, rfl, hangs⟩
    · rw [hangs.parentId_eq] at hid
      exact absurd hid (by simp)
    · have hpoints : c.parentId = some d.id := hangs.parentId_eq
      refine ⟨linked d (early ++ c :: late), by simp, ?_, hangs.qualifiedName_eq, ?_⟩
      · exact Option.some.inj (hpoints.symm.trans hid)
      · refine List.mem_map_of_mem (List.mem_filter.mpr ⟨by simp, ?_⟩)
        rw [hpoints, beq_self_eq_true]
  case child =>
    intro before p after hsplit id hid
    obtain ⟨_, item, d, members, rest, hblock, rfl, rfl⟩ := h.exists_block hsplit
    obtain ⟨⟨kind, hkind, facets, hmade⟩, parts, _, hmembers⟩ := hblock
    obtain ⟨c, hc, rfl⟩ := List.mem_map.mp hid
    obtain ⟨hcMem, hpoints⟩ := List.mem_filter.mp hc
    have hpoints : c.parentId = some d.id := eq_of_beq hpoints
    refine ⟨c, List.mem_append_left rest hcMem, rfl, hpoints, ?_⟩
    obtain ⟨early, late, hmembersSplit⟩ := List.append_of_mem hcMem
    rcases hmembers.hangs_or_held (fun _ => True) (fun _ _ _ _ _ _ => trivial)
      (fun _ _ => trivial) hmembersSplit with hangs | ⟨_, _, e, front, mid, back, _, _, rfl, hangs⟩
    · exact hangs.qualifiedName_eq
    · -- A deeper chunk names a chunk below `d`, and that one has another identity than `d`.
      have hsame : e.id = d.id := Option.some.inj (hangs.parentId_eq.symm.trans hpoints)
      have hholderMem : linked e (mid ++ c :: back) ∈ members := by simp [hmembersSplit]
      have hcollide := collide_of_mem_members (hangs_linked hkind hmade members) hmembers
        hholderMem hsame
      exact absurd hcollide (hdigests.not_collide (by simp [hsplit, hholderMem]) (by simp [hsplit]))

end Outline

namespace Chunker

open Number Syntax

/-- The chunks of a file that has not been merged are a forest, whatever tree its text has been
parsed to, whichever front end is in charge and whatever rules are in use. -/
theorem isForest_of_chunkCode (parser : Parser) (now : Quantity) (c : Chunker)
    (source : SourceText) (path : String) (given : Option Options) (chunks : List Chunk)
    (hmerge : (given.getD c.options).mergeSmall = false)
    (hchunks : (c.chunkCode parser now source path given).1 = .ok chunks)
    (hdigests : Outline.DigestsDistinct path chunks) : Outline.IsForest path chunks := by
  obtain ⟨frontEnd, tree?, _, _, hfound⟩ := exists_chunksOf_of_chunkCode hchunks
  rcases chunksOf_eq_ok hfound with rfl | ⟨tree, root, tokenizer, _, _, _, hfinish⟩
  · exact ⟨by simp, by simp, by simp, by simp, by simp⟩
  · rw [finish_of_unmerged hmerge] at hfinish
    obtain rfl := Except.ok.inj hfinish
    exact (Outline.yields_outline _ root).isForest hdigests

/-- A namespace that holds a namespace with a class, and another class. -/
def nestedSource : String :=
  "namespace n \x7b\nnamespace m \x7b\nclass C \x7b\x7d;\n\x7d\nclass D \x7b\x7d;\n\x7d\n"

/-- The tree of that source. -/
def nestedProgram : Node :=
  .mk "translation_unit" true "" 0 57
    [.mk "namespace_definition" true "" 0 56
      [.mk "namespace_identifier" true "name" 10 11 [],
       .mk "declaration_list" true "body" 12 56
        [.mk "namespace_definition" true "" 14 41
          [.mk "namespace_identifier" true "name" 24 25 [],
           .mk "declaration_list" true "body" 26 41
            [.mk "class_specifier" true "" 28 38
              [.mk "type_identifier" true "name" 34 35 [],
               .mk "field_declaration_list" true "body" 36 38 []]]],
         .mk "class_specifier" true "" 42 52
          [.mk "type_identifier" true "name" 48 49 [],
           .mk "field_declaration_list" true "body" 50 52 []]]]]

/-- The chunks of that source under a path, by a new chunker that does not merge. -/
def nestedChunks (path : String) : Except Failure (List Chunk) :=
  (chunkCode (fun _ _ => some nestedProgram) (.whole 0) {} nestedSource path
    (some { mergeSmall := false })).1

theorem isForest_of_chunkCode_nested :
    ∃ chunks, nestedChunks "a.cpp" = .ok chunks ∧
      chunks.map (·.qualifiedName) = ["n", "n.m", "n.m.C", "n.D"] ∧
      Outline.DigestsDistinct "a.cpp" chunks ∧ Outline.IsForest "a.cpp" chunks := by
  have hnames : (nestedChunks "a.cpp").toOption.map
      (fun chunks => chunks.map fun c => (c.qualifiedName, c.kind)) =
      some [("n", .namespaceDecl), ("n.m", .namespaceDecl), ("n.m.C", .classDecl),
        ("n.D", .classDecl)] := by decide +kernel
  obtain ⟨chunks, hchunks, hlist⟩ := Option.map_eq_some_iff.mp hnames
  have hrun : nestedChunks "a.cpp" = .ok chunks := ok_of_toOption_eq_some hchunks
  have hdigests : Outline.DigestsDistinct "a.cpp" chunks :=
    Outline.digestsDistinct_of_map hlist (by decide +kernel)
  have hqualified : chunks.map (·.qualifiedName) = ["n", "n.m", "n.m.C", "n.D"] := by
    have hfirst : chunks.map (·.qualifiedName) =
        (chunks.map fun c => (c.qualifiedName, c.kind)).map Prod.fst := by
      rw [List.map_map]
      rfl
    rw [hfirst, hlist]
    rfl
  exact ⟨chunks, hrun, hqualified, hdigests,
    isForest_of_chunkCode (fun _ _ => some nestedProgram) (.whole 0) {} nestedSource
      "a.cpp" (some { mergeSmall := false }) chunks rfl hrun hdigests⟩

end Chunker

end ChunkGraph
