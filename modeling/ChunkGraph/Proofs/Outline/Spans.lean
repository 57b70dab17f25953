import ChunkGraph.Proofs.FrontEnd.Spans
import ChunkGraph.Proofs.Outline.Forest
import Mathlib.Logic.Relation

/-!
# Chunks in the order of the file

Where the spans of a syntax tree fit together, so do the ranges of the chunks
that are cut from it. The chunks are listed in the order in which they start;
of two of them either one holds the other, directly or through chunks between,
or they have no text in common; and a chunk lies inside the chunk that holds
it.

The invariant of the induction over the outline is that each chunk lies inside
what some declaration of the list covers. Declarations follow one another, so
chunks of different ones do as well, and the chunks of the parts of a
declaration lie inside the chunk of the declaration.

## Main definitions

* `Ancestor` — a chunk holds another, directly or through chunks between.
* `SourceOrdered` — the chunks of a file lie in it as their tree says.

## Main results

* `Yields.pairwise_follows` — any two chunks of a list of declarations.
* `Chunker.sourceOrdered_of_chunkCode` — the chunks of a script or a component.
-/

namespace ChunkGraph

open Number Syntax

namespace Outline

/-- A chunk of a list holds another, directly or through chunks between. -/
def Ancestor (chunks : List Chunk) : Chunk → Chunk → Prop :=
  Relation.TransGen fun holder c =>
    holder ∈ chunks ∧ c ∈ chunks ∧ c.parentId = some holder.id

/-- The chunks of a file lie in it as their tree says. -/
structure SourceOrdered (path : String) (chunks : List Chunk) : Prop where
  /-- They are listed in the order in which they start. -/
  starts : chunks.Pairwise fun a b => a.range.start.key ≤ b.range.start.key
  /-- Of two chunks the first one holds and contains the second, or stops before that starts. -/
  apart : chunks.Pairwise fun a b =>
    (Ancestor chunks a b ∧ b.range.Within a.range) ∨ a.range.Before b.range
  /-- Before a chunk that names a parent, the nearest chunk with that identity whose qualified name
  it extends contains it; and this is the nearest chunk with that identity, unless one stands
  between with the same digest of another text. -/
  nested : ∀ before c after, chunks = before ++ c :: after → ∀ id, c.parentId = some id →
    ∃ holder nearest,
      before.reverse.find? (fun p =>
          p.id == id && c.qualifiedName == p.qualifiedName ++ "." ++ c.name) = some holder ∧
        c.range.Within holder.range ∧
          before.reverse.find? (·.id == id) = some nearest ∧
            (nearest = holder ∨ Collide path nearest holder)

/-- Where no two chunks of a file collide, the nearest chunk before a chunk that has the identity of
its parent contains it. -/
theorem SourceOrdered.within_nearest {path : String} {chunks : List Chunk}
    (h : SourceOrdered path chunks) (hdigests : DigestsDistinct path chunks)
    {before after : List Chunk} {c : Chunk} (hsplit : chunks = before ++ c :: after) {id : String}
    (hid : c.parentId = some id) :
    ∃ nearest, before.reverse.find? (·.id == id) = some nearest ∧
      c.range.Within nearest.range := by
  obtain ⟨holder, nearest, hholder, hwithin, hnearest, hcase⟩ :=
    h.nested before c after hsplit id hid
  have hmem {p : Chunk} (hp : p ∈ before.reverse) : p ∈ chunks := by
    rw [hsplit]
    exact List.mem_append_left _ (List.mem_reverse.mp hp)
  rcases hcase with rfl | hcollide
  · exact ⟨nearest, hnearest, hwithin⟩
  · exact absurd hcollide (hdigests.not_collide (hmem (List.mem_of_find?_eq_some hnearest))
      (hmem (List.mem_of_find?_eq_some hholder)))

/-! ## Ranges -/

/-- The range of a chunk starts before it stops and lies inside what a declaration covers. -/
def Lies (tree : Tree) (item : Item) (c : Chunk) : Prop :=
  c.range.start.key ≤ c.range.stop.key ∧ c.range.Within (tree.rangeOf item.span.node)

/-- The chunk of a declaration has the range of what it covers. -/
theorem range_linked {ctx : Context} {parent : Option Chunk} {item : Item} {kind : ChunkKind}
    {facets : Facets} {c : Chunk} (hmade : ctx.makeChunk? item parent kind facets = some c)
    (members : List Chunk) : (linked c members).range = ctx.tree.rangeOf item.span.node := by
  obtain ⟨name, _, rfl⟩ := Option.map_eq_some_iff.mp hmade
  rfl

theorem lies_linked {ctx : Context} {parent : Option Chunk} {item : Item} {kind : ChunkKind}
    {facets : Facets} {c : Chunk} (hmade : ctx.makeChunk? item parent kind facets = some c)
    (hitem : item.Spanned) (members : List Chunk) : Lies ctx.tree item (linked c members) := by
  unfold Lies
  rw [range_linked hmade]
  exact ⟨rangeOf_start_le_stop ctx.tree hitem.start_le_stop, .refl _⟩

theorem Lies.mono {tree : Tree} {item outer : Item} {c : Chunk} (h : Lies tree item c)
    (hinside : item.span.node.Inside outer.span.node) : Lies tree outer c :=
  ⟨h.1, h.2.trans (rangeOf_within tree hinside)⟩

/-- How a chunk lies to a later one: it starts first, and it holds and contains that one or stops
before. -/
def Follows (all : List Chunk) (a b : Chunk) : Prop :=
  a.range.start.key ≤ b.range.start.key ∧
    ((Ancestor all a b ∧ b.range.Within a.range) ∨ a.range.Before b.range)

/-- Chunks of declarations that follow each other do so as well. -/
theorem follows_of_lies {tree : Tree} {first second : Item} {all : List Chunk} {a b : Chunk}
    (hbefore : first.span.node.Before second.span.node) (ha : Lies tree first a)
    (hb : Lies tree second b) : Follows all a b := by
  have hranges : a.range.Before b.range := (rangeOf_before tree hbefore).mono ha.2 hb.2
  exact ⟨le_trans ha.1 hranges, Or.inr hranges⟩

namespace Yields

variable {ctx : Context} {parent : Option Chunk} {items : List Item} {chunks : List Chunk}

/-- Each chunk lies inside what some declaration of the list covers. -/
theorem exists_lies (h : Yields ctx parent items chunks) (hscript : ctx.frontEnd.ReadsScripts)
    (hitems : ∀ item ∈ items, item.Spanned) :
    ∀ c ∈ chunks, ∃ item ∈ items, Lies ctx.tree item c := by
  induction h with
  | nil => exact fun _ h => absurd h List.not_mem_nil
  | @chunk parent item kind facets first parts items members rest hkind hmade hparts _ _
      ihmembers ihrest =>
      have hitem := hitems item List.mem_cons_self
      have hdivides := FrontEnd.divides_of_partsOf hscript hitem hparts
      intro c hc
      rcases List.mem_cons.mp hc with rfl | hc
      · exact ⟨item, List.mem_cons_self, lies_linked hmade hitem members⟩
      · rcases List.mem_append.mp hc with hc | hc
        · obtain ⟨part, hpart, hlies⟩ := ihmembers hdivides.spanned c hc
          exact ⟨item, List.mem_cons_self, hlies.mono (hdivides.inside part hpart)⟩
        · obtain ⟨other, hother, hlies⟩ := ihrest
            (fun other hother => hitems other (List.mem_cons_of_mem item hother)) c hc
          exact ⟨other, List.mem_cons_of_mem item hother, hlies⟩
  | @parts parent item parts items found rest hparts _ _ ihfound ihrest =>
      have hdivides := FrontEnd.divides_of_partsOf hscript (hitems item List.mem_cons_self) hparts
      intro c hc
      rcases List.mem_append.mp hc with hc | hc
      · obtain ⟨part, hpart, hlies⟩ := ihfound hdivides.spanned c hc
        exact ⟨item, List.mem_cons_self, hlies.mono (hdivides.inside part hpart)⟩
      · obtain ⟨other, hother, hlies⟩ := ihrest
          (fun other hother => hitems other (List.mem_cons_of_mem item hother)) c hc
        exact ⟨other, List.mem_cons_of_mem item hother, hlies⟩

/-- A container is an ancestor of all chunks under it. -/
theorem ancestor {all : List Chunk} {container holder : Chunk}
    (h : Yields ctx (some container) items chunks) (hid : holder.id = container.id)
    (hholder : holder ∈ all) (hall : ∀ c ∈ chunks, c ∈ all) :
    ∀ c ∈ chunks, Ancestor all holder c := by
  generalize hparent : some container = parent at h
  induction h generalizing container holder with
  | nil => exact fun _ h => absurd h List.not_mem_nil
  | @chunk parent item kind facets first parts items members rest hkind hmade hparts _ _
      ihmembers ihrest =>
      subst hparent
      have hfirst : linked first members ∈ all := hall _ List.mem_cons_self
      have hpoints : (linked first members).parentId = some holder.id := by
        rw [(hangs_linked hkind hmade members).parentId_eq, hid]
        rfl
      have hdirect : Ancestor all holder (linked first members) :=
        Relation.TransGen.single ⟨hholder, hfirst, hpoints⟩
      intro c hc
      rcases List.mem_cons.mp hc with rfl | hc
      · exact hdirect
      · rcases List.mem_append.mp hc with hc | hc
        · have hmembersAll : ∀ m ∈ members, m ∈ all := fun m hm =>
            hall m (List.mem_cons_of_mem _ (List.mem_append_left _ hm))
          have hbelow : Ancestor all (linked first members) c :=
            ihmembers (id_linked first members) hfirst hmembersAll rfl c hc
          exact Relation.TransGen.trans hdirect hbelow
        · exact ihrest hid hholder
            (fun m hm => hall m (List.mem_cons_of_mem _ (List.mem_append_right _ hm))) rfl c hc
  | parts _ _ _ ihfound ihrest =>
      intro c hc
      rcases List.mem_append.mp hc with hc | hc
      · exact ihfound hid hholder (fun m hm => hall m (List.mem_append_left _ hm)) hparent c hc
      · exact ihrest hid hholder (fun m hm => hall m (List.mem_append_right _ hm)) hparent c hc

/-- Of any two chunks the first one starts first, and holds the second or stops before it starts. -/
theorem pairwise_follows {all : List Chunk} {whole : Node}
    (h : Yields ctx parent items chunks) (hscript : ctx.frontEnd.ReadsScripts)
    (hitems : Divides whole items) (hall : ∀ c ∈ chunks, c ∈ all) :
    chunks.Pairwise (Follows all) := by
  induction h generalizing whole with
  | nil => exact .nil
  | @chunk parent item kind facets first parts items members rest hkind hmade hparts hmembers
      hrest ihmembers ihrest =>
      have hitem := hitems.spanned item List.mem_cons_self
      have hothers : Divides whole items := hitems.sublist (List.sublist_cons_self item items)
      have hdivides := FrontEnd.divides_of_partsOf hscript hitem hparts
      have hmembersAll : ∀ m ∈ members, m ∈ all := fun m hm =>
        hall m (List.mem_cons_of_mem _ (List.mem_append_left _ hm))
      have hmember {m : Chunk} (hm : m ∈ members) : Lies ctx.tree item m := by
        obtain ⟨part, hpart, hlies⟩ := hmembers.exists_lies hscript hdivides.spanned m hm
        exact hlies.mono (hdivides.inside part hpart)
      have hlater {a b : Chunk} (ha : Lies ctx.tree item a) (hb : b ∈ rest) : Follows all a b := by
        obtain ⟨other, hother, hlies⟩ := hrest.exists_lies hscript hothers.spanned b hb
        exact follows_of_lies (List.rel_of_pairwise_cons hitems.ordered hother) ha hlies
      refine List.pairwise_cons.mpr ⟨?_, List.pairwise_append.mpr ⟨?_, ?_, ?_⟩⟩
      · intro c hc
        rcases List.mem_append.mp hc with hc | hc
        · have hwithin : c.range.Within (linked first members).range := by
            rw [range_linked hmade]
            exact (hmember hc).2
          have hancestor : Ancestor all (linked first members) c :=
            hmembers.ancestor (id_linked first members) (hall _ List.mem_cons_self) hmembersAll c hc
          exact ⟨hwithin.1, Or.inl ⟨hancestor, hwithin⟩⟩
        · exact hlater (lies_linked hmade hitem members) hc
      · exact ihmembers hdivides hmembersAll
      · exact ihrest hothers fun m hm =>
          hall m (List.mem_cons_of_mem _ (List.mem_append_right _ hm))
      · exact fun m hm c hc => hlater (hmember hm) hc
  | @parts parent item parts items found rest hparts hfound hrest ihfound ihrest =>
      have hitem := hitems.spanned item List.mem_cons_self
      have hothers : Divides whole items := hitems.sublist (List.sublist_cons_self item items)
      have hdivides := FrontEnd.divides_of_partsOf hscript hitem hparts
      refine List.pairwise_append.mpr ⟨?_, ?_, ?_⟩
      · exact ihfound hdivides fun m hm => hall m (List.mem_append_left _ hm)
      · exact ihrest hothers fun m hm => hall m (List.mem_append_right _ hm)
      · intro a ha b hb
        obtain ⟨part, hpart, hlies⟩ := hfound.exists_lies hscript hdivides.spanned a ha
        obtain ⟨other, hother, hother'⟩ := hrest.exists_lies hscript hothers.spanned b hb
        exact follows_of_lies (List.rel_of_pairwise_cons hitems.ordered hother)
          (hlies.mono (hdivides.inside part hpart)) hother'

/-- The chunks of declarations that divide a node lie in the file as their tree says. -/
theorem sourceOrdered {whole : Node} (h : Yields ctx none items chunks)
    (hscript : ctx.frontEnd.ReadsScripts) (hitems : Divides whole items) :
    SourceOrdered ctx.filePath chunks := by
  have hfollows := h.pairwise_follows hscript hitems fun _ hc => hc
  refine ⟨hfollows.imp fun hab => hab.1, hfollows.imp fun hab => hab.2, ?_⟩
  intro before m after hsplit id hid
  have hpasses (item : Item) (parts : List Item) (hitem : item.Spanned)
      (hparts : PartsOf ctx item parts) : ∀ part ∈ parts, part.Spanned :=
    (FrontEnd.divides_of_partsOf hscript hitem hparts).spanned
  rcases h.hangs_or_held Item.Spanned hpasses hitems.spanned hsplit with hangs | hheld
  · rw [hangs.parentId_eq] at hid
    exact absurd hid (by simp)
  · obtain ⟨_, item, c, front, early, late, hitem, hblock, rfl, hangs⟩ := hheld
    obtain ⟨⟨kind, hkind, facets, hmade⟩, parts, hparts, hmembers⟩ := hblock
    have hsame : c.id = id := Option.some.inj (hangs.parentId_eq.symm.trans hid)
    have hdivides := FrontEnd.divides_of_partsOf hscript hitem hparts
    obtain ⟨part, hpart, hlies⟩ := hmembers.exists_lies hscript hdivides.spanned m (by simp)
    have hwithin : m.range.Within (linked c (early ++ m :: late)).range := by
      rw [range_linked hmade]
      exact hlies.2.trans (rangeOf_within ctx.tree (hdivides.inside part hpart))
    -- Nothing between the two has the qualified name of the one that holds the chunk.
    have hearly : early.reverse.find? (fun p =>
        p.id == id && m.qualifiedName == p.qualifiedName ++ "." ++ m.name) = none := by
      refine List.find?_eq_none.mpr fun e he => ?_
      have hlonger := hmembers.length_lt (List.mem_append_left _ (List.mem_reverse.mp he))
      rw [Bool.and_eq_true, beq_iff_eq, beq_iff_eq, hangs.qualifiedName_eq]
      rintro ⟨-, hname⟩
      have hlength := congrArg String.length hname
      simp only [Context.qualify, String.length_append] at hlength
      omega
    have hback : (front ++ linked c (early ++ m :: late) :: early).reverse =
        early.reverse ++ linked c (early ++ m :: late) :: front.reverse := by
      rw [List.reverse_append, List.reverse_cons, List.append_assoc, List.singleton_append]
    rw [hback, List.find?_append, List.find?_append, hearly, Option.none_or]
    cases hnearest : early.reverse.find? (·.id == id) with
    | none =>
        refine ⟨linked c (early ++ m :: late), linked c (early ++ m :: late), ?_, hwithin, ?_,
          Or.inl rfl⟩
        · refine List.find?_cons_of_pos ?_
          rw [Bool.and_eq_true, beq_iff_eq, beq_iff_eq]
          exact ⟨hsame, hangs.qualifiedName_eq⟩
        · rw [Option.none_or]
          exact List.find?_cons_of_pos (beq_iff_eq.mpr hsame)
    | some e =>
        have he := List.mem_reverse.mp (List.mem_of_find?_eq_some hnearest)
        have hid : e.id = c.id :=
          (eq_of_beq (List.find?_eq_some_iff_append.mp hnearest).1).trans hsame.symm
        refine ⟨linked c (early ++ m :: late), e, ?_, hwithin, rfl, Or.inr ?_⟩
        · refine List.find?_cons_of_pos ?_
          rw [Bool.and_eq_true, beq_iff_eq, beq_iff_eq]
          exact ⟨hsame, hangs.qualifiedName_eq⟩
        · exact collide_of_mem_members (hangs_linked hkind hmade _) hmembers
            (List.mem_append_left _ he) hid

end Yields

end Outline

/-- The spans of a parsed source fit together. -/
def Syntax.Tree.WellSpanned (tree : Tree) : Prop :=
  ∀ root, tree.root = some root → root.WellSpanned

namespace Chunker

/-- The chunks of a script or a component that have not been merged lie in the file as their tree
says, if the spans fit together in every tree that the chunker may cut: the one that the text
parses to and the one that is kept for the path. -/
theorem sourceOrdered_of_chunkCode (parser : Parser) (now : Quantity) (c : Chunker)
    (code path : String) (given : Option Options) (chunks : List Chunk)
    (hscript : (c.frontEndOf path).ReadsScripts) (hshelves : ShelvesSound c.pool)
    (hparsed : ∀ tree, (c.frontEndOf path).parse? parser code path = some tree → tree.WellSpanned)
    (hkept : ∀ entry, c.trees.entries.lookup path = some entry → entry.value.WellSpanned)
    (hmerge : (given.getD c.options).mergeSmall = false)
    (hchunks : (c.chunkCode parser now code path given).1 = .ok chunks) :
    Outline.SourceOrdered path chunks := by
  obtain ⟨frontEnd, tree?, hfrontEnd, htree?, hfound⟩ := exists_chunksOf_of_chunkCode hchunks
  obtain rfl : frontEnd = c.frontEndOf path := by
    rcases hfrontEnd with hshelf | hnew
    · exact hshelves _ path frontEnd hshelf
    · exact hnew
  rcases chunksOf_eq_ok hfound with rfl | ⟨tree, root, tokenizer, htree, hroot, _, hfinish⟩
  · exact ⟨.nil, .nil, by simp⟩
  · rw [finish_of_unmerged hmerge] at hfinish
    obtain rfl := Except.ok.inj hfinish
    have hspanned : tree.WellSpanned := by
      rcases htree? tree htree with ⟨entry, hentry, rfl⟩ | hparse
      · exact hkept entry hentry
      · exact hparsed tree hparse
    obtain ⟨node, hnode, rfl⟩ := Option.map_eq_some_iff.mp hroot
    have hspans : (Cursor.ofRoot node).node.WellSpanned := hspanned node hnode
    have hyields := Outline.yields_outline (c.contextOf (c.frontEndOf path) tree path
      (given.getD c.options) tokenizer (.ofRoot node)) (.ofRoot node)
    exact hyields.sourceOrdered hscript (FrontEnd.divides_declarations hscript tree hspans)

/-- An exported class with a method, and an exported statement with two variables. -/
def exportsSource : String :=
  "export class C \x7b\n  run() \x7b\x7d\n\x7d\nexport const a = 1, b = 2;\n"

/-- The syntax tree of that source. -/
def exportsProgram : Node :=
  .mk "program" true "" 0 57
    [.mk "export_statement" true "" 0 29
      [.mk "class_declaration" true "declaration" 7 29
        [.mk "type_identifier" true "name" 13 14 [],
         .mk "class_body" true "body" 15 29
          [.mk "method_definition" true "" 19 27
            [.mk "property_identifier" true "name" 19 22 []]]]],
     .mk "export_statement" true "" 30 56
      [.mk "lexical_declaration" true "declaration" 37 56
        [.mk "variable_declarator" true "" 43 48 [.mk "identifier" true "name" 43 44 []],
         .mk "variable_declarator" true "" 50 55 [.mk "identifier" true "name" 50 51 []]]]]

/-- What that source is parsed to. -/
def exportsTree : Tree :=
  { language := "typescript", source := Text.Utf8.encode exportsSource.toList
    root := some exportsProgram }

/-- What the rules are told about it by a new chunker that does not merge. -/
def exportsContext : Outline.Context :=
  contextOf {} .script exportsTree "a.ts" { mergeSmall := false } .estimate (.ofRoot exportsProgram)

/-- Its declarations are what its statements export. -/
theorem outline_exports (ctx : Outline.Context) (htree : ctx.tree = exportsTree)
    (hfrontEnd : ctx.frontEnd = .script) :
    Outline.outline ctx (.ofRoot exportsProgram) =
      ((Cursor.ofRoot exportsProgram).namedChildren.map fun c =>
        (⟨(c.child? "declaration").getD c, some c⟩ : Item)).flatMap
          (Outline.declarationChunks ctx) := by
  unfold Outline.outline
  rw [htree, hfrontEnd, ← Script.declarationsIn_of_exports (by decide)]
  rfl

theorem outline_exportsContext :
    Outline.outline exportsContext (.ofRoot exportsProgram) =
      ((Cursor.ofRoot exportsProgram).namedChildren.map fun c =>
        (⟨(c.child? "declaration").getD c, some c⟩ : Item)).flatMap
          (Outline.declarationChunks exportsContext) :=
  outline_exports exportsContext rfl rfl

theorem sourceOrdered_of_chunkCode_exports :
    ∃ chunks, (chunkCode (fun _ _ => some exportsProgram) (.whole 0) {} exportsSource "a.ts"
        (some { mergeSmall := false })).1 = .ok chunks ∧
      chunks.map (fun c => (c.qualifiedName, c.kind)) = [("C", .classDecl), ("C.run", .methodDecl),
        ("a", .exportDecl), ("b", .exportDecl)] ∧
      Outline.DigestsDistinct "a.ts" chunks ∧ exportsTree.WellSpanned ∧
      Outline.SourceOrdered "a.ts" chunks := by
  have hspans : exportsTree.WellSpanned := by
    rintro _ ⟨⟩
    exact Node.wellSpanned_of_spansFit exportsProgram (by decide)
  have hmade : create .unavailable {} Rule.all = .ok {} := rfl
  have htree : ({} : Chunker).treeOf (fun _ _ => some exportsProgram) exportsSource "a.ts" =
      some exportsTree := rfl
  have hroot : exportsTree.rootCursor? = some (.ofRoot exportsProgram) := rfl
  have htokenizer : ({} : Chunker).tokenizerFor? { mergeSmall := false } = some .estimate := rfl
  have hcounted : (Outline.outline exportsContext (.ofRoot exportsProgram)).all
      (·.tokenCount.isSome) = true := by
    rw [outline_exportsContext]
    decide +kernel
  have hrun : (chunkCode (fun _ _ => some exportsProgram) (.whole 0) {} exportsSource "a.ts"
      (some { mergeSmall := false })).1 =
        .ok (Outline.outline exportsContext (.ofRoot exportsProgram)) :=
    chunkCode_eq_finish hmade rfl rfl (.whole 0) htree hroot htokenizer hcounted
  have hnames : (Outline.outline exportsContext (.ofRoot exportsProgram)).map
      (fun c => (c.qualifiedName, c.kind)) = [("C", .classDecl), ("C.run", .methodDecl),
        ("a", .exportDecl), ("b", .exportDecl)] := by
    rw [outline_exportsContext]
    decide +kernel
  refine ⟨_, hrun, hnames, Outline.digestsDistinct_of_map hnames (by decide +kernel), hspans, ?_⟩
  refine sourceOrdered_of_chunkCode (fun _ _ => some exportsProgram) (.whole 0) {} exportsSource
    "a.ts" (some { mergeSmall := false }) _ (Or.inl rfl) ?_ ?_ ?_ rfl hrun
  · intro language path frontEnd hmem
    exact absurd hmem List.not_mem_nil
  · intro tree htree
    obtain rfl : exportsTree = tree := Option.some.inj htree
    exact hspans
  · intro entry hentry
    exact absurd hentry (by simp)

end Chunker

end ChunkGraph
