import ChunkGraph.Proofs.FrontEnd.Exports
import ChunkGraph.Proofs.Outline.Location

/-!
# What chunks are made from

Every chunk of a file is made from a declaration of its tree, whatever the
language. It has the name of the declaration and says of its export what the
front end says of the declaration.

## Main definitions

* `Chunker.MadeFrom` — the declaration that a chunk is made from.

## Main results

* `Chunker.exists_madeFrom_of_outline` — every chunk is made from a declaration.
* `Chunker.exists_mem_outline` — the chunks of a file in which nothing is merged.
-/

namespace ChunkGraph.Chunker

open Syntax

/-- The chunk is made from a declaration of a tree. -/
def MadeFrom (c : Chunker) (frontEnd : FrontEnd) (tree : Tree) (root : Cursor) (path : String)
    (options : Options) (item : Item) (chunk : Chunk) : Prop :=
  ∃ tokenizer container kind facets made members, c.tokenizerFor? options = some tokenizer ∧
    (c.contextOf frontEnd tree path options tokenizer root).makeChunk? item container kind facets =
      some made ∧
    chunk = Outline.linked made members

variable {c : Chunker} {frontEnd : FrontEnd} {tree : Tree} {root : Cursor} {code path : String}
  {options : Options} {cut : List Chunk} {item : Item} {chunk : Chunk}

namespace MadeFrom

variable (h : c.MadeFrom frontEnd tree root path options item chunk)
include h

theorem filePath_eq : chunk.filePath = path := by
  obtain ⟨_, _, _, _, made, _, _, hmade, rfl⟩ := h
  obtain ⟨_, _, rfl⟩ := Option.map_eq_some_iff.mp hmade
  rfl

/-- A chunk has the name of its declaration, which is not empty. -/
theorem nameOf_eq : frontEnd.nameOf tree item = some chunk.name ∧ chunk.name ≠ "" := by
  obtain ⟨_, _, _, _, made, _, _, hmade, rfl⟩ := h
  obtain ⟨name, hname, rfl⟩ := Option.map_eq_some_iff.mp hmade
  obtain ⟨text, htext, hne⟩ := Option.bind_eq_some_iff.mp hname
  exact ⟨Script.eq_of_nonEmpty? hne ▸ htext, Script.ne_empty_of_nonEmpty? hne⟩

/-- A chunk is exported if its declaration is. -/
theorem exported_eq : chunk.exported = frontEnd.isExported tree item := by
  obtain ⟨_, _, _, _, made, _, _, hmade, rfl⟩ := h
  obtain ⟨_, _, rfl⟩ := Option.map_eq_some_iff.mp hmade
  rfl

/-- A chunk has the dependencies of its declaration, and the imports of the file with them. -/
theorem dependencies_eq : ∃ ctx : Outline.Context, ctx.frontEnd = frontEnd ∧ ctx.tree = tree ∧
    ctx.imports = frontEnd.imports tree ⟨root, none⟩ ∧
    chunk.dependencies = Outline.mergeDependencies (ctx.ownDependencies item) ctx.imports := by
  obtain ⟨tokenizer, _, _, _, made, _, _, hmade, rfl⟩ := h
  obtain ⟨_, _, rfl⟩ := Option.map_eq_some_iff.mp hmade
  exact ⟨c.contextOf frontEnd tree path options tokenizer root, rfl, rfl, rfl, rfl⟩

end MadeFrom

/-- Every chunk of an outline is made from a declaration. -/
theorem exists_madeFrom_of_outline {tokenizer : Tokenizer}
    (htokenizer : c.tokenizerFor? options = some tokenizer)
    (hchunk : chunk ∈
      Outline.outline (c.contextOf frontEnd tree path options tokenizer root) root) :
    ∃ item, c.MadeFrom frontEnd tree root path options item chunk := by
  obtain ⟨item, container, kind, facets, made, members, _, hmade, heq⟩ :=
    (Outline.yields_outline _ _).exists_made (fun _ => True) (fun _ _ _ _ _ _ => trivial)
      (fun _ _ => trivial) chunk hchunk
  exact ⟨item, tokenizer, container, kind, facets, made, members, htokenizer, hmade, heq⟩

/-- If nothing is merged, the chunks of a file are those of its outline. -/
theorem exists_mem_outline (hroot : tree.rootCursor? = some root)
    (hmerge : options.mergeSmall = false)
    (hcut : c.chunksOf frontEnd (some tree) code path options = .ok cut) (hchunk : chunk ∈ cut) :
    ∃ tokenizer, c.tokenizerFor? options = some tokenizer ∧
      chunk ∈ Outline.outline (c.contextOf frontEnd tree path options tokenizer root) root := by
  obtain ⟨found, place, tokenizer, htree, hplace, htokenizer, _, hfinish⟩ :=
    exists_outline_of_mem hcut hchunk
  obtain rfl := Option.some.inj htree
  obtain rfl := Option.some.inj (hplace.symm.trans hroot)
  rw [finish_of_unmerged hmerge] at hfinish
  obtain rfl := Except.ok.inj hfinish
  exact ⟨tokenizer, htokenizer, hchunk⟩

end ChunkGraph.Chunker
