import ChunkGraph.Proofs.Chunk.Regrouping
import ChunkGraph.Proofs.Outline.Alike
import ChunkGraph.Proofs.Outline.Shape
import ChunkGraph.Proofs.Syntax.Insertion

/-!
# The outline of a script with one more statement

The outline of a script lists the chunks of its statements one after the other.
With one more statement, the chunks of the others are what they were, except for
their positions, and the chunks of that statement stand between them. This
needs that the statement declares something of its own: a clause that names
declarations elsewhere in the file would export them.

## Main definitions

* `chunksAt` — the chunks of some statements of a script.

## Main results

* `localExports_eq` — the names listed for export are the same.
* `rel_chunksAt` — the chunks of statements that are alike.
* `outline_root`, `outline_editedRoot` — both outlines, in parts.
* `parentId_of_head_chunksAt` — the first chunk of statements is held by none.
-/

namespace ChunkGraph

open Syntax

/-- Chunks that have been counted are the same for merging if they are alike. -/
theorem Chunk.Alike.mergesLike {c c' : Chunk} (h : Chunk.Alike c c')
    (hcounted : c.tokenCount.isSome = true) : Chunk.MergesLike c c' where
  id_eq := h.id_eq
  kind_eq := h.kind_eq
  filePath_eq := h.filePath_eq
  parentId_eq := h.parentId_eq
  size_eq := by
    obtain ⟨tokens, htokens⟩ := Option.isSome_iff_exists.mp hcounted
    unfold Chunk.estimatedSize
    rw [← h.tokenCount_eq, htokens]

theorem rel_mergesLike {chunks chunks' : List Chunk} (h : List.Forall₂ Chunk.Alike chunks chunks')
    (hcounted : ∀ c ∈ chunks, c.tokenCount.isSome = true) :
    List.Forall₂ Chunk.MergesLike chunks chunks' := by
  induction h with
  | nil => exact .nil
  | @cons c c' chunks chunks' hc _ ih =>
      exact .cons (hc.mergesLike (hcounted c List.mem_cons_self))
        (ih fun other hother => hcounted other (List.mem_cons_of_mem c hother))

/-- Chunks that are alike are counted alike. -/
theorem counted_of_alike {chunks chunks' : List Chunk}
    (h : List.Forall₂ Chunk.Alike chunks chunks') :
    chunks.all (·.tokenCount.isSome) = chunks'.all (·.tokenCount.isSome) := by
  induction h with
  | nil => rfl
  | cons hc _ ih => rw [List.all_cons, List.all_cons, hc.tokenCount_eq, ih]

namespace Outline

/-- The chunks of the statements at some places of a script. -/
def chunksAt (ctx : Context) (places : List Cursor) : List Chunk :=
  ((places.filter (·.node.named)).filterMap Script.unwrap).flatMap (declarationChunks ctx)

theorem chunksAt_append (ctx : Context) (places more : List Cursor) :
    chunksAt ctx (places ++ more) = chunksAt ctx places ++ chunksAt ctx more := by
  unfold chunksAt
  rw [List.filter_append, List.filterMap_append, List.flatMap_append]

theorem outline_eq_chunksAt {ctx : Context} (hscript : ctx.frontEnd = .script) (root : Cursor) :
    outline ctx root = chunksAt ctx root.children := by
  unfold outline
  rw [hscript]
  rfl

/-- The first chunk of a list of declarations is held by what holds the list. -/
theorem Yields.parentId_of_head {ctx : Context} {parent : Option Chunk} {items : List Item}
    {chunks : List Chunk} (h : Yields ctx parent items chunks) :
    ∀ c ∈ chunks.head?, c.parentId = parent.map (·.id) := by
  induction h with
  | nil => exact fun c hc => absurd hc (Option.not_mem_none c)
  | chunk _ hmade _ _ _ _ _ =>
      intro c hc
      obtain ⟨name, _, rfl⟩ := Option.map_eq_some_iff.mp hmade
      rw [← Option.some.inj hc]
      rfl
  | @parts parent item parts items found rest _ _ _ ihfound ihrest =>
      intro c hc
      cases found with
      | nil => exact ihrest c hc
      | cons first found => exact ihfound c hc

/-- Estimates are made of any text. -/
theorem Yields.counted {ctx : Context} (hestimate : ctx.tokenizer = .estimate)
    {parent : Option Chunk} {items : List Item} {chunks : List Chunk}
    (h : Yields ctx parent items chunks) : chunks.all (·.tokenCount.isSome) = true := by
  induction h with
  | nil => rfl
  | @chunk parent item kind facets c parts items members rest _ hmade _ _ _ ihmembers ihrest =>
      have hcounted : (linked c members).tokenCount.isSome = true := by
        obtain ⟨name, _, rfl⟩ := Option.map_eq_some_iff.mp hmade
        show ((ctx.tokenizer.count? (item.text ctx.tree)).map Int.ofNat).isSome = true
        rw [hestimate]
        rfl
      rw [List.all_cons, List.all_append, hcounted, ihmembers, ihrest]
      rfl
  | parts _ _ _ ihfound ihrest =>
      rw [List.all_append, ihfound, ihrest]
      rfl

/-- What some statements of a script are cut into. -/
theorem yields_chunksAt (ctx : Context) (places : List Cursor) :
    Yields ctx none ((places.filter (·.node.named)).filterMap Script.unwrap)
      (chunksAt ctx places) :=
  .flatMap fun item _ => yields_dispatch ctx none item item.node.node.size Rule.topLevel

/-- The first chunk of some statements is held by none. -/
theorem parentId_of_head_chunksAt (ctx : Context) (places : List Cursor) :
    ∀ c ∈ (chunksAt ctx places).head?, c.parentId = none :=
  (yields_chunksAt ctx places).parentId_of_head

/-- Statements that are alike have chunks that are. -/
theorem rel_chunksAt {ctx : Context} {tree' : Tree} (imports' : List Dependency)
    (hscript : ctx.frontEnd = .script)
    (hexports : Script.exportTable ctx.tree = Script.exportTable tree')
    {places places' : List Cursor} (h : List.Forall₂ (Cursor.Alike ctx.tree tree') places places') :
    List.Forall₂ Chunk.Alike (chunksAt ctx places)
      (chunksAt (ctx.reread tree' imports') places') := by
  have hnamed := rel_filter h (p := fun c => c.node.named) (q := fun c => c.node.named)
    fun _ _ hc => hc.named_eq
  have hitems := List.rel_filterMap (fun _ _ hc => Script.rel_unwrap hc) hnamed
  exact List.rel_flatMap hitems fun _ _ hitem =>
    rel_declarationChunks imports' hscript hexports hitem

section Insertion

variable {code edited : String} {root editedRoot : Node} (e : Insertion code edited root editedRoot)

theorem outline_root {ctx : Context} (hscript : ctx.frontEnd = .script) :
    outline ctx (.ofRoot root) = chunksAt ctx e.oldEarlier ++ chunksAt ctx e.oldLater := by
  rw [outline_eq_chunksAt hscript, e.children_root, chunksAt_append]

theorem outline_editedRoot {ctx : Context} (hscript : ctx.frontEnd = .script) :
    outline ctx (.ofRoot editedRoot) =
      chunksAt ctx e.newEarlier ++ chunksAt ctx [e.place] ++ chunksAt ctx e.newLater := by
  rw [outline_eq_chunksAt hscript, e.children_editedRoot, List.append_cons, chunksAt_append,
    chunksAt_append]

/-- A statement that exports nothing declared elsewhere leaves the list of exported names as it
is. -/
theorem localExports_eq {tree tree' : Tree} (hroot : tree.root = some root)
    (hroot' : tree'.root = some editedRoot)
    (hsource : tree.source = Text.Utf8.encode code.toList)
    (hsource' : tree'.source = Text.Utf8.encode edited.toList)
    (hplace : Script.statementExports tree' e.place = []) :
    Script.localExports tree = Script.localExports tree' := by
  have hexports {places places' : List Cursor}
      (h : List.Forall₂ (Cursor.Alike tree tree') places places') :
      (places.filter (·.node.named)).flatMap (Script.statementExports tree) =
        (places'.filter (·.node.named)).flatMap (Script.statementExports tree') :=
    flatMap_eq (rel_filter h fun _ _ hc => hc.named_eq) fun _ _ hc => Script.statementExports_eq hc
  have hnone : ([e.place].filter (·.node.named)).flatMap (Script.statementExports tree') = [] := by
    rw [List.filter_cons]
    split
    · rw [List.filter_nil, List.flatMap_cons, hplace]
      rfl
    · rfl
  unfold Script.localExports Tree.rootCursor?
  rw [hroot, hroot']
  show ((Cursor.ofRoot root).children.filter (·.node.named)).flatMap _ =
    ((Cursor.ofRoot editedRoot).children.filter (·.node.named)).flatMap _
  rw [e.children_root, e.children_editedRoot, List.append_cons, List.filter_append,
    List.filter_append, List.filter_append, List.flatMap_append, List.flatMap_append,
    List.flatMap_append, hnone, List.append_nil, hexports (e.earlier_alike hsource hsource'),
    hexports (e.later_alike hsource hsource')]

end Insertion

end Outline

end ChunkGraph
