import ChunkGraph.Proofs.Chunk.Groups
import ChunkGraph.Proofs.Chunker.Session

/-!
# What a chunker cuts

Whatever a chunker keeps, the chunks that it returns for a file are the outline
of some tree, merged if that was asked for; a file without a tree has none. A
chunker that has just been made cuts the tree that the text parses to, with the
front end of the path. Merging is the last step: the chunks before it are those
that the chunker returns if it is not to merge.

## Main definitions

* `Chunker.lentFrontEnd`, `Chunker.readTree?` — what a call works with.
* `Chunker.contextOf` — what the rules are told about a tree.
* `Options.unmerged` — the same request, with nothing merged.

## Main results

* `Chunker.withTree_fst` — a call is answered from its front end and its tree.
* `Chunker.chunkCode_cases`, `Chunker.exists_chunksOf_of_chunkCode` — the chunks
  are those of some tree.
* `Chunker.cut?_of_root` — the chunks of a tree before merging.
* `Chunker.finish_eq_ok`, `Chunker.chunksOf_eq_ok` — what the chunks of a tree
  can be.
* `Chunker.exists_outline_of_mem`, `Chunker.exists_chunksOf_eq_ok` — when there
  are any, and when cutting does not fail.
* `Chunker.chunkCode_eq_bind` — merging is the last step.
* `Chunker.chunkCode_of_empty`, `Chunker.chunkCode_of_create` — a new chunker
  cuts the tree of the text.
-/

namespace ChunkGraph

open Number Syntax

/-- The same options, but nothing is merged. -/
def Options.unmerged (options : Options) : Options := { options with mergeSmall := false }

namespace Outline

/-- What the rules know if nothing is to be merged. -/
def Context.unmerged (ctx : Context) : Context := { ctx with options := ctx.options.unmerged }

/-- No rule looks at whether chunks are merged. -/
theorem dispatch_unmerged (ctx : Context) (fuel : Nat) :
    dispatch ctx.unmerged fuel = dispatch ctx fuel := by
  induction fuel with
  | zero => rfl
  | succ fuel ih =>
      funext rules parent item
      unfold dispatch
      rw [ih]
      rfl

theorem outline_unmerged (ctx : Context) (root : Cursor) :
    outline ctx.unmerged root = outline ctx root := by
  unfold outline declarationChunks
  simp only [dispatch_unmerged]
  rfl

end Outline

namespace Chunker

/-! ## One call -/

/-- The front end that a call gets for a file. -/
def lentFrontEnd (c : Chunker) (path : String) : FrontEnd :=
  (c.pool.take (poolKey (FrontEnd.kindFor (c.registry.detectPath path)) (some path))).1.getD
    (c.frontEndOf path)

/-- The tree that a call works with, kept or parsed. -/
def readTree? (parser : Parser) (now : Quantity) (c : Chunker) (source : SourceText)
    (path : String) : Option Tree :=
  (parse parser now (c.lentFrontEnd path) source path c.trees).1

section Call

variable (c : Chunker) (parser : Parser) (now : Quantity) (source : SourceText) (path : String)

/-- A call is answered from its front end and its tree, if the front end can be given back. -/
theorem withTree_fst {β : Type} (use : FrontEnd → Option Tree → β)
    (leave : FrontEnd → Tree → Tree) :
    (c.withTree parser now source path use leave).1 =
      match c.pool.releaseFault? with
      | some failure => .error failure
      | none => .ok (use (c.lentFrontEnd path) (c.readTree? parser now source path)) := by
  have hfault (key : String) : (c.pool.take key).2.releaseFault? = c.pool.releaseFault? := by
    unfold Pool.releaseFault?
    rw [Pool.capacity_eq_of_clear_eq (c.pool.clear_take key)]
  unfold withTree
  simp only [hfault]
  cases c.pool.releaseFault? with
  | some failure => rfl
  | none => rfl

theorem chunkCode_fst (given : Option Options) :
    (c.chunkCode parser now source path given).1 =
      match c.pool.releaseFault? with
      | some failure => .error failure
      | none => c.chunksOf (c.lentFrontEnd path) (c.readTree? parser now source path) source.text
          path (given.getD c.options) := by
  have hfound := c.withTree_fst parser now source path
    (fun frontEnd tree? => c.chunksOf frontEnd tree? source.text path (given.getD c.options))
    FrontEnd.keepTable
  unfold chunkCode
  dsimp only
  rw [hfound]
  cases c.pool.releaseFault? with
  | some failure => rfl
  | none => rfl

end Call

/-! ## Chunks of a tree -/

/-- What the rules are told about a tree. -/
def contextOf (c : Chunker) (frontEnd : FrontEnd) (tree : Tree) (path : String)
    (options : Options) (tokenizer : Tokenizer) (root : Cursor) : Outline.Context :=
  { frontEnd, tree, filePath := path, options, tokenizer, rules := c.rules
    imports := frontEnd.imports tree ⟨root, none⟩ }

section Cutting

variable {c : Chunker} {frontEnd : FrontEnd} {tree : Tree} {source : SourceText}
  {code path : String} {options : Options} {chunks : List Chunk}

/-- A tree without a root has no chunks. -/
theorem cut?_of_no_root (hroot : tree.rootCursor? = none) :
    c.cut? frontEnd tree path options = some [] := by
  unfold cut?
  rw [hroot]

/-- There is no answer for a tree whose texts are to be counted in a way that is not known. -/
theorem cut?_of_no_tokenizer {root : Cursor} (hroot : tree.rootCursor? = some root)
    (htokenizer : c.tokenizerFor? options = none) : c.cut? frontEnd tree path options = none := by
  unfold cut?
  rw [hroot, htokenizer]
  rfl

/-- The chunks of a tree before merging are its outline, provided that all can be counted. -/
theorem cut?_of_root {root : Cursor} {tokenizer : Tokenizer} (hroot : tree.rootCursor? = some root)
    (htokenizer : c.tokenizerFor? options = some tokenizer) :
    c.cut? frontEnd tree path options =
      if (Outline.outline (c.contextOf frontEnd tree path options tokenizer root) root).all
          (·.tokenCount.isSome) then
        some (Outline.outline (c.contextOf frontEnd tree path options tokenizer root) root)
      else none := by
  have hguard (found : List Chunk) :
      ((guard (found.all (·.tokenCount.isSome)) : Option Unit) >>= fun _ => pure found) =
        if found.all (·.tokenCount.isSome) then some found else none := by
    unfold guard
    split
    · rfl
    · rfl
  unfold cut?
  rw [hroot, htokenizer]
  exact hguard _

/-- Without merging, nothing is done to the chunks of a file. -/
theorem finish_of_unmerged (hmerge : options.mergeSmall = false) :
    finish options code chunks = .ok chunks := by
  unfold finish
  rw [hmerge]
  rfl

/-- The chunks of a file are those found, merged if that was asked for. -/
theorem finish_eq_ok {found : List Chunk} (h : finish options code found = .ok chunks) :
    options.mergeSmall = false ∧ chunks = found ∨
      options.mergeSmall = true ∧ chunks = mergeSmall options (some code) found := by
  unfold finish at h
  split at h
  · rename_i hmerge
    split at h
    · exact absurd h (by simp)
    · exact Or.inr ⟨hmerge, (Except.ok.inj h).symm⟩
  · rename_i hmerge
    exact Or.inl ⟨Bool.eq_false_iff.mpr hmerge, (Except.ok.inj h).symm⟩

theorem finish_nil : finish options code [] = .ok [] := by
  unfold finish
  split
  · rfl
  · rfl

theorem cut?_unmerged (tree : Tree) :
    c.cut? frontEnd tree path options.unmerged = c.cut? frontEnd tree path options := by
  have hsame : c.tokenizerFor? options.unmerged = c.tokenizerFor? options := rfl
  have houtline (tokenizer : Tokenizer) (root : Cursor) :
      Outline.outline (c.contextOf frontEnd tree path options.unmerged tokenizer root) root =
        Outline.outline (c.contextOf frontEnd tree path options tokenizer root) root :=
    Outline.outline_unmerged (c.contextOf frontEnd tree path options tokenizer root) root
  cases hroot : tree.rootCursor? with
  | none => rw [cut?_of_no_root hroot, cut?_of_no_root hroot]
  | some root =>
      cases htokenizer : c.tokenizerFor? options with
      | none =>
          rw [cut?_of_no_tokenizer hroot htokenizer,
            cut?_of_no_tokenizer hroot (hsame.trans htokenizer)]
      | some tokenizer =>
          rw [cut?_of_root hroot htokenizer, cut?_of_root hroot (hsame.trans htokenizer), houtline]

/-- The chunks of a tree are those without merging, merged if that is asked for. -/
theorem chunksOf_eq_bind (tree? : Option Tree) :
    c.chunksOf frontEnd tree? code path options =
      c.chunksOf frontEnd tree? code path options.unmerged >>= finish options code := by
  have hcut : (tree?.bind fun tree => c.cut? frontEnd tree path options.unmerged) =
      tree?.bind fun tree => c.cut? frontEnd tree path options :=
    congrArg tree?.bind (funext cut?_unmerged)
  have hunmerged : options.unmerged.mergeSmall = false := rfl
  unfold chunksOf
  rw [hcut]
  cases tree?.bind fun tree => c.cut? frontEnd tree path options with
  | none => exact finish_nil.symm
  | some chunks =>
      simp only [finish_of_unmerged hunmerged]
      rfl

/-- What a chunker returns is what it returns without merging, merged if that is asked for. -/
theorem chunkCode_eq_bind (c : Chunker) (parser : Parser) (now : Quantity) (source : SourceText)
    (path : String) (given : Option Options) :
    (c.chunkCode parser now source path given).1 =
      (c.chunkCode parser now source path (some (given.getD c.options).unmerged)).1 >>=
        finish (given.getD c.options) source.text := by
  rw [chunkCode_fst, chunkCode_fst, Option.getD_some]
  cases c.pool.releaseFault? with
  | some failure => rfl
  | none => exact chunksOf_eq_bind _

/-- The chunks of a tree are its outline, merged if that is asked for, provided that all can be
counted. -/
theorem chunksOf_of_counted {root : Cursor} {tokenizer : Tokenizer}
    (hroot : tree.rootCursor? = some root) (htokenizer : c.tokenizerFor? options = some tokenizer)
    (hcounted : (Outline.outline (c.contextOf frontEnd tree path options tokenizer root) root).all
      (·.tokenCount.isSome) = true) :
    c.chunksOf frontEnd (some tree) code path options = finish options code
      (Outline.outline (c.contextOf frontEnd tree path options tokenizer root) root) := by
  unfold chunksOf
  rw [Option.bind_some, cut?_of_root hroot htokenizer, if_pos hcounted]

/-- A tree has no chunks if one of them cannot be counted. -/
theorem chunksOf_of_uncounted {root : Cursor} {tokenizer : Tokenizer}
    (hroot : tree.rootCursor? = some root) (htokenizer : c.tokenizerFor? options = some tokenizer)
    (huncounted : (Outline.outline (c.contextOf frontEnd tree path options tokenizer root) root).all
      (·.tokenCount.isSome) = false) :
    c.chunksOf frontEnd (some tree) code path options = .ok [] := by
  unfold chunksOf
  rw [Option.bind_some, cut?_of_root hroot htokenizer, if_neg (by simp [huncounted])]

/-- The chunks of a tree are its outline, merged if that is asked for; a file without a tree has
none. -/
theorem chunksOf_eq_ok {tree? : Option Tree}
    (h : c.chunksOf frontEnd tree? code path options = .ok chunks) :
    chunks = [] ∨ ∃ tree root tokenizer, tree? = some tree ∧ tree.rootCursor? = some root ∧
      c.tokenizerFor? options = some tokenizer ∧
      finish options code
        (Outline.outline (c.contextOf frontEnd tree path options tokenizer root) root) =
          .ok chunks := by
  cases tree? with
  | none => exact Or.inl (Except.ok.inj h).symm
  | some tree =>
      unfold chunksOf at h
      rw [Option.bind_some] at h
      cases hroot : tree.rootCursor? with
      | none =>
          rw [cut?_of_no_root hroot] at h
          exact Or.inl (Except.ok.inj (finish_nil.symm.trans h)).symm
      | some root =>
          cases htokenizer : c.tokenizerFor? options with
          | none =>
              rw [cut?_of_no_tokenizer hroot htokenizer] at h
              exact Or.inl (Except.ok.inj h).symm
          | some tokenizer =>
              rw [cut?_of_root hroot htokenizer] at h
              split at h
              · rename_i found hfound
                split at hfound
                · rw [← Option.some.inj hfound] at h
                  exact Or.inr ⟨tree, root, tokenizer, rfl, hroot, rfl, h⟩
                · exact absurd hfound (by simp)
              · exact Or.inl (Except.ok.inj h).symm

/-- A file that has a chunk has a tree, all chunks of which can be counted. -/
theorem exists_outline_of_mem {tree? : Option Tree} {chunk : Chunk}
    (h : c.chunksOf frontEnd tree? code path options = .ok chunks) (hchunk : chunk ∈ chunks) :
    ∃ tree root tokenizer, tree? = some tree ∧ tree.rootCursor? = some root ∧
      c.tokenizerFor? options = some tokenizer ∧
      (Outline.outline (c.contextOf frontEnd tree path options tokenizer root) root).all
        (·.tokenCount.isSome) = true ∧
      finish options code
        (Outline.outline (c.contextOf frontEnd tree path options tokenizer root) root) =
          .ok chunks := by
  rcases chunksOf_eq_ok h with rfl | ⟨tree, root, tokenizer, rfl, hroot, htokenizer, hfinish⟩
  · exact absurd hchunk List.not_mem_nil
  · refine ⟨tree, root, tokenizer, rfl, hroot, htokenizer, ?_, hfinish⟩
    refine Decidable.byContradiction fun huncounted => ?_
    rw [chunksOf_of_uncounted hroot htokenizer (Bool.eq_false_iff.mpr huncounted)] at h
    rw [← Except.ok.inj h] at hchunk
    exact absurd hchunk List.not_mem_nil

/-- With bounds that are numbers, merging puts the merged chunks in the place of those found. -/
theorem finish_of_merged (hmerge : options.mergeSmall = true)
    (hmin : options.minChunkSize.isNumber = true) (hmax : options.chunkSize.isNumber = true)
    (found : List Chunk) :
    finish options code found = .ok (mergeSmall options (some code) found) := by
  unfold finish
  rw [hmerge, mergeFault?_eq_none hmin hmax]
  rfl

/-- Cutting does not fail if the bounds that merging asks for are numbers. -/
theorem exists_chunksOf_eq_ok (c : Chunker) (frontEnd : FrontEnd) (tree? : Option Tree)
    (code path : String) {options : Options}
    (hbounds : options.mergeSmall = true →
      options.minChunkSize.isNumber = true ∧ options.chunkSize.isNumber = true) :
    ∃ chunks, c.chunksOf frontEnd tree? code path options = .ok chunks := by
  unfold chunksOf
  split
  · cases hmerge : options.mergeSmall with
    | false => exact ⟨_, finish_of_unmerged hmerge⟩
    | true => exact ⟨_, finish_of_merged hmerge (hbounds hmerge).1 (hbounds hmerge).2 _⟩
  · exact ⟨[], rfl⟩

/-- A tree that a file is cut from was kept for its path, or its text parses to it. -/
theorem parse_eq_some {parser : Parser} {now : Quantity} {trees : Cache Tree}
    (h : (parse parser now frontEnd source path trees).1 = some tree) :
    (∃ entry, trees.entries.lookup path = some entry ∧ entry.value = tree) ∨
      parseSource? parser frontEnd source path = some tree := by
  cases source with
  | illFormed => exact absurd h (by simp [parse])
  | chars code =>
      unfold parse at h
      simp only at h
      split at h
      · exact absurd h (by simp)
      · split at h
        · rename_i found after hget
          obtain ⟨⟨entry, hentry, _, hvalue⟩, _⟩ := Cache.get_eq_some hget
          exact Or.inl ⟨entry, hentry, hvalue.trans (Option.some.inj h)⟩
        · split at h
          · rename_i found hparse
            split at h
            · exact absurd h (by simp)
            · exact Or.inr (hparse.trans h)
          · exact absurd h (by simp)

/-- Only a text of characters is parsed. -/
theorem parseSource?_eq_some {parser : Parser}
    (h : parseSource? parser frontEnd source path = some tree) :
    ∃ code, source = .chars code ∧ frontEnd.parse? parser code path = some tree := by
  cases source with
  | chars code => exact ⟨code, rfl, h⟩
  | illFormed => exact absurd h (by simp [parseSource?])

theorem treeOf_eq_some {parser : Parser} (h : c.treeOf parser source path = some tree) :
    ∃ code, source = .chars code ∧ (c.frontEndOf path).parse? parser code path = some tree := by
  unfold treeOf parsedWith at h
  split at h
  · exact absurd h (by simp)
  · exact parseSource?_eq_some h

/-- What options do not decide: either no request is answered, or all are answered from the same
tree, which was kept for the path or is what the text parses to; the front end is from the shelf for
the path, or is new. -/
theorem chunkCode_cases (c : Chunker) (parser : Parser) (now : Quantity) (source : SourceText)
    (path : String) :
    (∃ failure, ∀ given, (c.chunkCode parser now source path given).1 = .error failure) ∨
      ∃ frontEnd tree?,
        (frontEnd ∈ c.pool.shelf (poolKey (FrontEnd.kindFor (c.registry.detectPath path))
          (some path)) ∨ frontEnd = c.frontEndOf path) ∧
        (∀ tree, tree? = some tree →
          (∃ entry, c.trees.entries.lookup path = some entry ∧ entry.value = tree) ∨
            parseSource? parser frontEnd source path = some tree) ∧
        ∀ given, (c.chunkCode parser now source path given).1 =
          c.chunksOf frontEnd tree? source.text path (given.getD c.options) := by
  cases hpool : c.pool.releaseFault? with
  | some failure => exact Or.inl ⟨failure, fun given => by rw [chunkCode_fst, hpool]⟩
  | none =>
      refine Or.inr ⟨c.lentFrontEnd path, c.readTree? parser now source path, ?_,
        fun tree htree => parse_eq_some htree, fun given => by rw [chunkCode_fst, hpool]⟩
      unfold lentFrontEnd
      cases hfound : (c.pool.take (poolKey (FrontEnd.kindFor (c.registry.detectPath path))
          (some path))).1 with
      | none => exact Or.inr rfl
      | some frontEnd => exact Or.inl (Pool.mem_shelf_of_take hfound)

/-- Whatever a chunker keeps, the chunks that it returns are those of a tree that was kept for the
path or that the text parses to; the front end is from the shelf for the path, or is new. -/
theorem exists_chunksOf_of_chunkCode {parser : Parser} {now : Quantity} {given : Option Options}
    (h : (c.chunkCode parser now source path given).1 = .ok chunks) :
    ∃ frontEnd tree?,
      (frontEnd ∈ c.pool.shelf (poolKey (FrontEnd.kindFor (c.registry.detectPath path))
        (some path)) ∨ frontEnd = c.frontEndOf path) ∧
      (∀ tree, tree? = some tree →
        (∃ entry, c.trees.entries.lookup path = some entry ∧ entry.value = tree) ∨
          parseSource? parser frontEnd source path = some tree) ∧
      c.chunksOf frontEnd tree? source.text path (given.getD c.options) = .ok chunks := by
  rcases chunkCode_cases c parser now source path with ⟨failure, hfailure⟩ |
    ⟨frontEnd, tree?, hfrontEnd, htree?, hfound⟩
  · rw [hfailure] at h
    exact absurd h (by simp)
  · exact ⟨frontEnd, tree?, hfrontEnd, htree?, (hfound given).symm.trans h⟩

/-- Where no tree is kept, a text is parsed, whatever the lifetime of a tree is. -/
theorem parse_of_empty {trees : Cache Tree} (hempty : trees.entries = []) (parser : Parser)
    (now : Quantity) (frontEnd : FrontEnd) (source : SourceText) (path : String) :
    (parse parser now frontEnd source path trees).1 =
      parsedWith parser frontEnd trees.capacity source path := by
  cases source with
  | illFormed => exact (ite_self (none : Option Tree)).symm
  | chars code =>
      have hfault : trees.getFault? path = none := by
        unfold Cache.getFault? Cache.contains
        rw [hempty]
        rfl
      unfold parse parsedWith parseSource?
      simp only
      rw [hfault, if_neg (by simp)]
      cases hget : trees.get now path (contentHash code) with
      | mk found after =>
          cases found with
          | some value =>
              obtain ⟨⟨entry, hentry, _⟩, _⟩ := Cache.get_eq_some hget
              rw [hempty] at hentry
              exact absurd hentry (by simp)
          | none =>
              obtain ⟨hcontains, hclear, _⟩ := Cache.get_eq_none hget
              have hcapacity : after.capacity = trees.capacity :=
                (Cache.bounds_eq_of_clear_eq hclear).1
              simp only
              rw [Cache.setFault?_of_not_contains hcontains, hcapacity]
              cases frontEnd.parse? parser code path with
              | none => simp only [ite_self]
              | some tree =>
                  simp only
                  split
                  · rfl
                  · rfl

/-- A chunker that keeps nothing cuts the tree that the text parses to, with the front end of the
path. -/
theorem chunkCode_of_empty (htrees : c.trees.entries = []) (hshelves : c.pool.shelves = [])
    (parser : Parser) (now : Quantity) (source : SourceText) (path : String)
    (given : Option Options) :
    (c.chunkCode parser now source path given).1 =
      match c.pool.releaseFault? with
      | some failure => .error failure
      | none => c.chunksOf (c.frontEndOf path) (c.treeOf parser source path) source.text path
          (given.getD c.options) := by
  have hlent : c.lentFrontEnd path = c.frontEndOf path := by
    unfold lentFrontEnd
    rw [Pool.take_fst]
    unfold Pool.shelf
    rw [hshelves]
    rfl
  have htree : c.readTree? parser now source path = c.treeOf parser source path := by
    unfold readTree?
    rw [hlent]
    exact parse_of_empty htrees parser now _ source path
  rw [chunkCode_fst, hlent, htree]

end Cutting

/-- A new chunker keeps nothing. -/
theorem entries_of_create {encoding : Encoding} {options : Options} {rules : List Rule}
    {made : Chunker} (h : create encoding options rules = .ok made) :
    made.trees.entries = [] ∧ made.pool.shelves = [] := by
  obtain ⟨htrees, hpool⟩ := create_eq_ok h
  rw [htrees, hpool]
  exact ⟨rfl, rfl⟩

/-- A new chunker cuts the tree that the text parses to, with the front end of the path. -/
theorem chunkCode_of_create {parser : Parser} {encoding : Encoding} {options : Options}
    {rules : List Rule} {registry : Registry} {made c : Chunker}
    (hmade : create encoding options rules = .ok made) (hc : c = { made with registry })
    (now : Quantity) (source : SourceText) (path : String) (given : Option Options) :
    (c.chunkCode parser now source path given).1 =
      match c.pool.releaseFault? with
      | some failure => .error failure
      | none => c.chunksOf (c.frontEndOf path) (c.treeOf parser source path) source.text path
          (given.getD c.options) := by
  obtain ⟨htrees, hshelves⟩ := entries_of_create hmade
  exact chunkCode_of_empty (hc ▸ htrees) (hc ▸ hshelves) parser now source path given

/-- The chunks that a new chunker returns are the outline of the tree of the text, merged if that is
asked for, provided that all of it can be counted. -/
theorem chunkCode_eq_finish {parser : Parser} {encoding : Encoding} {options : Options}
    {rules : List Rule} {registry : Registry} {made c : Chunker}
    (hmade : create encoding options rules = .ok made) (hc : c = { made with registry })
    (hpool : c.pool.releaseFault? = none) (now : Quantity) {source : SourceText} {path : String}
    {given : Option Options} {tree : Tree} {root : Cursor} {tokenizer : Tokenizer}
    (htree : c.treeOf parser source path = some tree) (hroot : tree.rootCursor? = some root)
    (htokenizer : c.tokenizerFor? (given.getD c.options) = some tokenizer)
    (hcounted : (Outline.outline (c.contextOf (c.frontEndOf path) tree path (given.getD c.options)
      tokenizer root) root).all (·.tokenCount.isSome) = true) :
    (c.chunkCode parser now source path given).1 = finish (given.getD c.options) source.text
      (Outline.outline (c.contextOf (c.frontEndOf path) tree path (given.getD c.options)
        tokenizer root) root) := by
  rw [chunkCode_of_create hmade hc, hpool, htree]
  exact chunksOf_of_counted hroot htokenizer hcounted

/-- An encoding with a token for each character that refuses texts with its special token. Where it
counts, a file with such a text in one of its chunks has none. -/
def refusesSpecial : Encoding := fun text =>
  if Text.hasPart "<|endoftext|>".toList text.toList then none else some text.length

end Chunker

end ChunkGraph
