import ChunkGraph.Proofs.Chunker.Counting
import ChunkGraph.Proofs.Outline.Content
import ChunkGraph.Proofs.Outline.Location
import ChunkGraph.Proofs.Outline.Nesting
import ChunkGraph.Proofs.Outline.Spans

/-!
# What two switches of a request change

A request says whether chunks keep their text and whether members have chunks of
their own. Neither decides which tree is cut, so two requests that differ in
nothing else are answered from the same tree, whatever the chunker keeps.

Merging asks for the text of a chunk in two places: for the size of a chunk that
has not been counted, and for the text that two chunks have together if the
lines of the file are not known. A chunker counts all chunks and knows the file,
so chunks are the same with and without their text, merged or not.

Members follow a container, and containers are not merged. So without members a
chunker returns the other chunks, and merging takes the same of them together.
What may be missing without members is a failure: a bound that is no number may
have been asked for the size of a member, and an encoding may refuse the text of
a member, so that the file has no chunks at all.

## Main definitions

* `Options.textless` — a request for chunks without their text.
* `Chunker.RefusesMember` — only members of a tree cannot be counted.

## Main results

* `unnoticed_bare` — merging does not notice texts.
* `Chunker.chunkCode_bare`, `Chunker.chunkCode_content` — chunks with and without
  their text.
* `Chunker.chunksOf_flat`, `Chunker.chunkCode_flat` — chunks with and without
  members.
* `Chunker.members_spoil_answer` — members that cannot be counted or compared.
-/

namespace ChunkGraph

open Number Syntax

/-- The same options, but chunks do not keep their text. -/
def Options.textless (options : Options) : Options := { options with includeContent := false }

/-- Where the lines of the file are known, merging does not notice the texts of counted chunks. -/
theorem unnoticed_bare (lines : List (List Char)) :
    Unnoticed (some lines) (fun c => c.tokenCount.isSome = true) Chunk.bare where
  mergesLike := by
    intro c hcounted
    obtain ⟨count, hcount⟩ := Option.isSome_iff_exists.mp hcounted
    refine ⟨rfl, rfl, rfl, rfl, ?_⟩
    unfold Chunk.estimatedSize Chunk.bare
    rw [hcount]
  absorb_eq := by
    intro previous current hprevious hcurrent
    obtain ⟨count, hcount⟩ := Option.isSome_iff_exists.mp hprevious
    obtain ⟨other, hother⟩ := Option.isSome_iff_exists.mp hcurrent
    unfold absorb Chunk.estimatedSize Chunk.bare
    simp only [hcount, hother]
    rfl
  good_absorb := fun _ _ _ _ => rfl

namespace Outline

/-- Every chunk of a tree is made of some declaration. -/
theorem exists_chunkNamed_of_mem {ctx : Context} {root : Cursor} {c : Chunk}
    (h : c ∈ outline ctx root) :
    ∃ item container kind name facets members,
      c = linked (ctx.chunkNamed item container kind name facets) members := by
  obtain ⟨item, container, kind, facets, made, members, _, hmade, rfl⟩ :=
    (yields_outline ctx root).exists_made (fun _ => True) (fun _ _ _ _ _ _ => trivial)
      (fun _ _ => trivial) c h
  obtain ⟨name, _, rfl⟩ := Option.map_eq_some_iff.mp hmade
  exact ⟨item, container, kind, name, facets, members, rfl⟩

end Outline

namespace Chunker

variable {c : Chunker} {frontEnd : FrontEnd} {tree : Tree} {path : String} {options : Options}

/-- All chunks that are found in a tree have been counted. -/
theorem counted_of_cut? {chunks : List Chunk}
    (h : c.cut? frontEnd tree path options = some chunks) :
    ∀ chunk ∈ chunks, chunk.tokenCount.isSome = true := by
  cases hroot : tree.rootCursor? with
  | none =>
      rw [cut?_of_no_root hroot] at h
      rw [← Option.some.inj h]
      exact fun _ hchunk => absurd hchunk List.not_mem_nil
  | some root =>
      cases htokenizer : c.tokenizerFor? options with
      | none =>
          rw [cut?_of_no_tokenizer hroot htokenizer] at h
          exact absurd h (by simp)
      | some tokenizer =>
          rw [cut?_of_root hroot htokenizer] at h
          split at h
          · rename_i hall
            rw [← Option.some.inj h]
            exact List.all_eq_true.mp hall
          · exact absurd h (by simp)

/-! ## Cutting without texts -/

section Bare

variable (hcontent : options.includeContent = false)
include hcontent

theorem cut?_bare (frontEnd : FrontEnd) (tree : Tree) (path : String) :
    c.cut? frontEnd tree path options =
      (c.cut? frontEnd tree path options.keeping).map (List.map Chunk.bare) := by
  have htokenizer : c.tokenizerFor? options.keeping = c.tokenizerFor? options := rfl
  cases hroot : tree.rootCursor? with
  | none =>
      rw [cut?_of_no_root hroot, cut?_of_no_root hroot]
      rfl
  | some root =>
      cases hfound : c.tokenizerFor? options with
      | none =>
          rw [cut?_of_no_tokenizer hroot hfound,
            cut?_of_no_tokenizer hroot (htokenizer.trans hfound)]
          rfl
      | some tokenizer =>
          have hbare : Outline.outline (c.contextOf frontEnd tree path options tokenizer root)
              root =
              (Outline.outline (c.contextOf frontEnd tree path options.keeping tokenizer root)
                root).map Chunk.bare := Outline.outline_keeping hcontent root
          rw [cut?_of_root hroot hfound, cut?_of_root hroot (htokenizer.trans hfound), hbare,
            List.all_map]
          exact Outline.ite_eq_apply (Option.map (List.map Chunk.bare)) (List.all _ _) rfl rfl

omit hcontent in
/-- Texts can be left out before or after merging. -/
theorem finish_bare (code : String) {chunks : List Chunk}
    (hcounted : ∀ chunk ∈ chunks, chunk.tokenCount.isSome = true) :
    finish options code (chunks.map Chunk.bare) =
      (finish options.keeping code chunks).map (List.map Chunk.bare) := by
  cases hmerge : options.mergeSmall with
  | false =>
      have hkeeping : options.keeping.mergeSmall = false := hmerge
      rw [finish_of_unmerged hmerge, finish_of_unmerged hkeeping]
      rfl
  | true =>
      have hkeeping : options.keeping.mergeSmall = true := hmerge
      have hmin : options.minChunkSize = options.keeping.minChunkSize := rfl
      have hmax : options.chunkSize = options.keeping.chunkSize := rfl
      have hunnoticed := unnoticed_bare (Text.splitLines code.toList)
      have hfault : mergeFault? options (chunks.map Chunk.bare) =
          mergeFault? options.keeping chunks := mergeFault?_map hmin hmax hunnoticed hcounted
      have hmerged : mergeSmall options (some code) (chunks.map Chunk.bare) =
          (mergeSmall options.keeping (some code) chunks).map Chunk.bare :=
        mergeSmall_map hmin hmax (some code) hunnoticed hcounted
      unfold finish
      rw [hmerge, hkeeping, hfault, hmerged]
      cases mergeFault? options.keeping chunks with
      | some failure => rfl
      | none => rfl

theorem chunksOf_bare (frontEnd : FrontEnd) (tree? : Option Tree) (code path : String) :
    c.chunksOf frontEnd tree? code path options =
      (c.chunksOf frontEnd tree? code path options.keeping).map (List.map Chunk.bare) := by
  unfold chunksOf
  cases tree? with
  | none => rfl
  | some tree =>
      rw [Option.bind_some, Option.bind_some, cut?_bare hcontent]
      cases hcut : c.cut? frontEnd tree path options.keeping with
      | none => rfl
      | some chunks => exact finish_bare code (counted_of_cut? hcut)

end Bare

/-- Whatever a chunker keeps, it returns the same chunks with and without their text. -/
theorem chunkCode_bare (c : Chunker) {given : Option Options}
    (hcontent : (given.getD c.options).includeContent = false) (parser : Parser) (now : Quantity)
    (source : SourceText) (path : String) :
    (c.chunkCode parser now source path given).1 =
      (c.chunkCode parser now source path (some (given.getD c.options).keeping)).1.map
        (List.map Chunk.bare) := by
  rcases chunkCode_cases c parser now source path with ⟨failure, hfailure⟩ |
    ⟨frontEnd, tree?, _, _, hfound⟩
  · rw [hfailure, hfailure]
    rfl
  · rw [hfound, hfound]
    exact chunksOf_bare hcontent frontEnd tree? source.text path

/-- A chunk of a tree has its text, if texts are kept, also after it has absorbed others. -/
theorem isSome_content_of_chunksOf (hkeep : options.includeContent = true) {tree? : Option Tree}
    {code : String} {chunks : List Chunk}
    (h : c.chunksOf frontEnd tree? code path options = .ok chunks) :
    ∀ chunk ∈ chunks, chunk.content.isSome = true := by
  rcases chunksOf_eq_ok h with rfl | ⟨tree, root, tokenizer, _, _, _, hfinish⟩
  · exact fun _ hchunk => absurd hchunk List.not_mem_nil
  · have hfound : ∀ chunk ∈ Outline.outline (c.contextOf frontEnd tree path options tokenizer root)
        root, chunk.content.isSome = true := by
      intro chunk hchunk
      obtain ⟨item, _, _, _, _, _, rfl⟩ := Outline.exists_chunkNamed_of_mem hchunk
      show (if options.includeContent then some (item.text tree) else none).isSome = true
      rw [hkeep]
      rfl
    rcases finish_eq_ok hfinish with ⟨_, rfl⟩ | ⟨_, rfl⟩
    · exact hfound
    · intro chunk hchunk
      obtain ⟨g, hg, rfl⟩ := mem_mergeSmall_iff.mp hchunk
      rw [g.merged_eq_head (·.content.isSome) fun previous current => ?_]
      · exact hfound g.head (head_mem_of_mem_groups hg)
      · unfold absorb
        cases previous.content with
        | none => rfl
        | some text =>
            simp only
            split
            · rfl
            · rfl

/-- Whether chunks keep their text changes nothing else about them, merged or not: without texts a
chunker returns the same chunks in the same order, or fails in the same way. Without texts no chunk
has one, and with texts every chunk has. -/
theorem chunkCode_content (c : Chunker) (parser : Parser) (now : Quantity) (source : SourceText)
    (path : String) (options : Options) :
    (c.chunkCode parser now source path (some options.textless)).1 =
        (c.chunkCode parser now source path (some options.keeping)).1.map (List.map Chunk.bare) ∧
      (∀ bare, (c.chunkCode parser now source path (some options.textless)).1 = .ok bare →
        ∀ chunk ∈ bare, chunk.content = none) ∧
      ∀ full, (c.chunkCode parser now source path (some options.keeping)).1 = .ok full →
        ∀ chunk ∈ full, chunk.content.isSome = true := by
  have hbare : (c.chunkCode parser now source path (some options.textless)).1 =
      (c.chunkCode parser now source path (some options.keeping)).1.map (List.map Chunk.bare) :=
    chunkCode_bare c rfl parser now source path
  refine ⟨hbare, fun bare hrun chunk hchunk => ?_, fun full hrun => ?_⟩
  · rw [hbare] at hrun
    cases hfull : (c.chunkCode parser now source path (some options.keeping)).1 with
    | error failure =>
        rw [hfull] at hrun
        exact absurd hrun (by simp [Except.map])
    | ok full =>
        rw [hfull] at hrun
        rw [← Except.ok.inj hrun] at hchunk
        obtain ⟨whole, _, rfl⟩ := List.mem_map.mp hchunk
        rfl
  · rcases chunkCode_cases c parser now source path with ⟨failure, hfailure⟩ |
      ⟨frontEnd, tree?, _, _, hfound⟩
    · rw [hfailure] at hrun
      exact absurd hrun (by simp)
    · rw [hfound] at hrun
      exact isSome_content_of_chunksOf rfl hrun

theorem chunkCode_content_constants :
    ∃ full, (chunkCode (fun _ _ => some constantsProgram) (.whole 0) {} constantsSource "a.ts"
        (some tenTokens.keeping)).1 = .ok full ∧
      full.map (·.content) = [some "export const a = 11;\nexport const b = 22;"] ∧
      (chunkCode (fun _ _ => some constantsProgram) (.whole 0) {} constantsSource "a.ts"
        (some tenTokens.textless)).1 = .ok (full.map Chunk.bare) ∧
      (∀ chunk ∈ full, chunk.content.isSome = true) ∧
      ∀ chunk ∈ full.map Chunk.bare, chunk.content = none := by
  obtain ⟨hbare, hnone, hsome⟩ := chunkCode_content {} (fun _ _ => some constantsProgram) (.whole 0)
    constantsSource "a.ts" tenTokens
  have hkeeping : tenTokens.keeping = tenTokens := rfl
  rw [hkeeping, chunkCode_constants] at hbare
  refine ⟨_, chunkCode_constants, ?_, hbare, hsome _ chunkCode_constants, hnone _ hbare⟩
  rw [outline_constantsContext]
  decide +kernel

/-! ## Cutting without members -/

/-- Some member of a tree cannot be counted, while all chunks that are held by none can. -/
def RefusesMember (c : Chunker) (frontEnd : FrontEnd) (tree : Tree) (path : String)
    (options : Options) : Prop :=
  ∃ root tokenizer, tree.rootCursor? = some root ∧ c.tokenizerFor? options = some tokenizer ∧
    (∃ member ∈ Outline.outline
        (c.contextOf frontEnd tree path options.nested tokenizer root) root,
      member.isRoot = false ∧ member.tokenCount = none) ∧
    ∀ top ∈ Outline.outline (c.contextOf frontEnd tree path options.nested tokenizer root) root,
      top.isRoot = true → top.tokenCount.isSome = true

/-- Estimates are made of any text. -/
theorem not_refusesMember_of_estimate (h : c.tokenizerFor? options = some .estimate) :
    ¬c.RefusesMember frontEnd tree path options := by
  rintro ⟨root, tokenizer, _, htokenizer, ⟨member, hmember, _, hnone⟩, _⟩
  obtain rfl := Option.some.inj (h.symm.trans htokenizer)
  obtain ⟨item, _, _, _, _, _, rfl⟩ := Outline.exists_chunkNamed_of_mem hmember
  exact absurd hnone (Option.some_ne_none (Int.ofNat (estimateTokens (item.text tree))))

/-- What is held follows a chunk that stands on its own, and the other chunks are those that are cut
without members. -/
theorem cut?_flat {all : List Chunk} (h : c.cut? frontEnd tree path options.nested = some all) :
    c.cut? frontEnd tree path options.flat = some (roots all) ∧ Sheltered all := by
  have hcounted := counted_of_cut? h
  have hflat : c.tokenizerFor? options.flat = c.tokenizerFor? options.nested := rfl
  cases hroot : tree.rootCursor? with
  | none =>
      rw [cut?_of_no_root hroot] at h ⊢
      rw [← Option.some.inj h]
      exact ⟨rfl, .nil⟩
  | some root =>
      cases htokenizer : c.tokenizerFor? options.nested with
      | none =>
          rw [cut?_of_no_tokenizer hroot htokenizer] at h
          exact absurd h (by simp)
      | some tokenizer =>
          have hflattens : Flattens
              (Outline.outline (c.contextOf frontEnd tree path options.nested tokenizer root) root)
              (Outline.outline (c.contextOf frontEnd tree path options.flat tokenizer root) root) :=
            Outline.flattens_outline
              (c.contextOf frontEnd tree path options.nested tokenizer root) root
          rw [cut?_of_root hroot htokenizer] at h
          rw [cut?_of_root hroot (hflat.trans htokenizer), ← hflattens.roots_eq]
          split at h
          · obtain rfl := Option.some.inj h
            refine ⟨if_pos (List.all_eq_true.mpr fun chunk hchunk => ?_), hflattens.sheltered⟩
            obtain ⟨held, hheld, rfl⟩ := List.mem_map.mp hchunk
            exact hcounted held (List.mem_of_mem_filter hheld)
          · exact absurd h (by simp)

/-- A tree that has no chunks with members has none without, unless only members cannot be
counted. -/
theorem cut?_flat_eq_none (h : c.cut? frontEnd tree path options.nested = none) :
    c.cut? frontEnd tree path options.flat = none ∨
      c.RefusesMember frontEnd tree path options := by
  have hnested : c.tokenizerFor? options.nested = c.tokenizerFor? options := rfl
  have hflat : c.tokenizerFor? options.flat = c.tokenizerFor? options := rfl
  cases hroot : tree.rootCursor? with
  | none =>
      rw [cut?_of_no_root hroot] at h
      exact absurd h (by simp)
  | some root =>
      cases htokenizer : c.tokenizerFor? options with
      | none => exact Or.inl (cut?_of_no_tokenizer hroot (hflat.trans htokenizer))
      | some tokenizer =>
          rw [cut?_of_root hroot (hnested.trans htokenizer)] at h
          split at h
          · exact absurd h (by simp)
          rename_i huncounted
          obtain ⟨refused, hrefused, hnone⟩ :=
            List.all_eq_false.mp (Bool.eq_false_iff.mpr huncounted)
          by_cases htops : ∀ top ∈ Outline.outline
              (c.contextOf frontEnd tree path options.nested tokenizer root) root,
              top.isRoot = true → top.tokenCount.isSome = true
          · refine Or.inr ⟨root, tokenizer, hroot, htokenizer, ⟨refused, hrefused, ?_, ?_⟩, htops⟩
            · exact Bool.eq_false_iff.mpr fun htop => hnone (htops refused hrefused htop)
            · exact Option.not_isSome_iff_eq_none.mp hnone
          · left
            have hroots : roots (Outline.outline
                (c.contextOf frontEnd tree path options.nested tokenizer root) root) =
                  Outline.outline (c.contextOf frontEnd tree path options.flat tokenizer root)
                    root :=
              (Outline.flattens_outline
                (c.contextOf frontEnd tree path options.nested tokenizer root) root).roots_eq
            rw [cut?_of_root hroot (hflat.trans htokenizer), ← hroots, if_neg]
            intro hcounted
            refine htops fun top htop hisRoot => ?_
            have hmem : top.childless ∈ roots (Outline.outline
                (c.contextOf frontEnd tree path options.nested tokenizer root) root) :=
              List.mem_map_of_mem (List.mem_filter.mpr ⟨htop, hisRoot⟩)
            have hcount := List.all_eq_true.mp hcounted top.childless hmem
            exact hcount

/-- Members can be left out before or after merging. -/
theorem finish_flat {code : String} {all merged : List Chunk} (hsheltered : Sheltered all)
    (h : finish options.nested code all = .ok merged) :
    finish options.flat code (roots all) = .ok (roots merged) := by
  cases hmerge : options.mergeSmall with
  | false =>
      have hnested : options.nested.mergeSmall = false := hmerge
      have hflat : options.flat.mergeSmall = false := hmerge
      rw [finish_of_unmerged hnested] at h
      rw [finish_of_unmerged hflat, Except.ok.inj h]
  | true =>
      have hnested : options.nested.mergeSmall = true := hmerge
      have hflat : options.flat.mergeSmall = true := hmerge
      have hmin : options.flat.minChunkSize = options.nested.minChunkSize := rfl
      have hmax : options.flat.chunkSize = options.nested.chunkSize := rfl
      have hunnoticed := unnoticed_childless (some (Text.splitLines code.toList))
      unfold finish at h ⊢
      rw [hnested] at h
      rw [hflat]
      cases hfault : mergeFault? options.nested all with
      | some failure =>
          rw [hfault] at h
          exact absurd h (by simp)
      | none =>
          rw [hfault] at h
          have hnone : mergeFault? options.flat (roots all) = none :=
            (mergeFault?_map hmin hmax hunnoticed fun _ _ => trivial).trans
              (mergeFault?_filter hsheltered hfault)
          have hroots : mergeSmall options.flat (some code) (roots all) =
              roots (mergeSmall options.nested (some code) all) := by
            unfold roots
            rw [filter_mergeSmall options.nested (some code) hsheltered]
            exact mergeSmall_map hmin hmax (some code) hunnoticed fun _ _ => trivial
          rw [hnone, ← Except.ok.inj h]
          exact congrArg Except.ok hroots

/-- Without members a tree has those of its chunks that are held by none, unless it has no chunks
because a member cannot be counted. -/
theorem chunksOf_flat {tree? : Option Tree} {code : String} {all : List Chunk}
    (h : c.chunksOf frontEnd tree? code path options.nested = .ok all) :
    c.chunksOf frontEnd tree? code path options.flat = .ok (roots all) ∨
      all = [] ∧ ∃ tree, tree? = some tree ∧ c.RefusesMember frontEnd tree path options := by
  unfold chunksOf at h ⊢
  cases tree? with
  | none =>
      rw [← Except.ok.inj h]
      exact Or.inl rfl
  | some tree =>
      rw [Option.bind_some] at h ⊢
      cases hcut : c.cut? frontEnd tree path options.nested with
      | none =>
          rw [hcut] at h
          obtain rfl := Except.ok.inj h
          rcases cut?_flat_eq_none hcut with hflat | hrefuses
          · rw [hflat]
            exact Or.inl rfl
          · exact Or.inr ⟨rfl, tree, rfl, hrefuses⟩
      | some found =>
          rw [hcut] at h
          obtain ⟨hflat, hsheltered⟩ := cut?_flat hcut
          rw [hflat]
          exact Or.inl (finish_flat hsheltered h)

/-- Without members a chunker returns exactly the chunks that are held by none, in the same order
and without lists of members, merged or not, unless it returns nothing with members because one of
them cannot be counted. It fails where it fails with members, if bounds of merging are numbers. -/
theorem chunkCode_flat (c : Chunker) (parser : Parser) (now : Quantity) (source : SourceText)
    (path : String) (options : Options) :
    (∀ all, (c.chunkCode parser now source path (some options.nested)).1 = .ok all →
        (c.chunkCode parser now source path (some options.flat)).1 = .ok (roots all) ∨
          all = [] ∧ ∃ tree, c.readTree? parser now source path = some tree ∧
            c.RefusesMember (c.lentFrontEnd path) tree path options) ∧
      ∀ failure, (c.chunkCode parser now source path (some options.nested)).1 = .error failure →
        (c.chunkCode parser now source path (some options.flat)).1 = .error failure ∨
          options.mergeSmall = true ∧
            ¬(options.minChunkSize.isNumber = true ∧ options.chunkSize.isNumber = true) := by
  rw [chunkCode_fst, chunkCode_fst, Option.getD_some, Option.getD_some]
  cases c.pool.releaseFault? with
  | some fault =>
      refine ⟨fun all hrun => absurd hrun (by simp), fun failure hrun => Or.inl ?_⟩
      rw [← hrun]
  | none =>
      refine ⟨fun all hrun => chunksOf_flat hrun, fun failure hrun => Or.inr ?_⟩
      refine Classical.byContradiction fun hnumbers => ?_
      have hbounds : options.nested.mergeSmall = true →
          options.nested.minChunkSize.isNumber = true ∧ options.nested.chunkSize.isNumber = true :=
        fun hmerge => Classical.not_not.mp fun hbounds => hnumbers ⟨hmerge, hbounds⟩
      obtain ⟨all, hall⟩ := exists_chunksOf_eq_ok c (c.lentFrontEnd path)
        (c.readTree? parser now source path) source.text path hbounds
      exact absurd (hrun.symm.trans hall) (by simp)

/-- A new chunker merges the two variables behind a class with a method. -/
theorem chunkCode_exports :
    (chunkCode (fun _ _ => some exportsProgram) (.whole 0) {} exportsSource "a.ts" (some {})).1 =
      .ok (mergeSmall {} (some exportsSource)
        (Outline.outline exportsContext (.ofRoot exportsProgram))) := by
  have hmade : create .unavailable {} Rule.all = .ok {} := rfl
  have htree : ({} : Chunker).treeOf (fun _ _ => some exportsProgram) exportsSource "a.ts" =
      some exportsTree := rfl
  have hroot : exportsTree.rootCursor? = some (.ofRoot exportsProgram) := rfl
  have htokenizer : ({} : Chunker).tokenizerFor? {} = some .estimate := rfl
  have houtline : Outline.outline (contextOf {} .script exportsTree "a.ts" {} .estimate
      (.ofRoot exportsProgram)) (.ofRoot exportsProgram) =
        Outline.outline exportsContext (.ofRoot exportsProgram) :=
    (Outline.outline_unmerged _ _).symm
  have hcounted : (Outline.outline (contextOf {} .script exportsTree "a.ts" {} .estimate
      (.ofRoot exportsProgram)) (.ofRoot exportsProgram)).all (·.tokenCount.isSome) = true := by
    rw [houtline, outline_exportsContext]
    decide +kernel
  have hrun : (chunkCode (fun _ _ => some exportsProgram) (.whole 0) {} exportsSource "a.ts"
      (some {})).1 = finish {} exportsSource (Outline.outline (contextOf {} .script exportsTree
        "a.ts" {} .estimate (.ofRoot exportsProgram)) (.ofRoot exportsProgram)) :=
    chunkCode_eq_finish hmade rfl rfl (.whole 0) htree hroot htokenizer hcounted
  rw [hrun, houtline]
  exact finish_of_merged rfl rfl rfl _

theorem chunkCode_flat_exports :
    ∃ all, (chunkCode (fun _ _ => some exportsProgram) (.whole 0) {} exportsSource "a.ts"
        (some ({} : Options).nested)).1 = .ok all ∧
      all.map (fun c => (c.qualifiedName, c.childrenIds.length, c.parentId.isSome, c.endLine)) =
        [("C", 1, false, 3), ("C.run", 0, true, 2), ("a", 0, false, 4)] ∧
      (chunkCode (fun _ _ => some exportsProgram) (.whole 0) {} exportsSource "a.ts"
        (some ({} : Options).flat)).1 = .ok (roots all) ∧
      (roots all).map (fun c => (c.qualifiedName, c.childrenIds.length)) =
        [("C", 0), ("a", 0)] := by
  obtain ⟨hflat, _⟩ := chunkCode_flat {} (fun _ _ => some exportsProgram) (.whole 0)
    exportsSource "a.ts" {}
  refine ⟨_, chunkCode_exports, ?_, ?_, ?_⟩
  · rw [outline_exportsContext]
    decide +kernel
  · rcases hflat _ chunkCode_exports with hroots | ⟨_, _, _, hrefuses⟩
    · exact hroots
    · exact absurd hrefuses (not_refusesMember_of_estimate rfl)
  · rw [outline_exportsContext]
    decide +kernel

/-- A class with a method whose text holds a special token. -/
def specialSource : String := "class C:\n  def run(self): '<|endoftext|>'\n"

/-- A tree of that source in which the class covers no text. -/
def specialProgram : Node :=
  .mk "module" true "" 0 42
    [.mk "class_definition" true "" 0 0
      [.mk "identifier" true "name" 6 7 [],
       .mk "block" true "body" 11 41
        [.mk "function_definition" true "" 11 41 [.mk "identifier" true "name" 15 18 []]]]]

/-- The chunks of that source, by a new chunker that counts with that encoding. -/
def specialChunks (options : Options) : Except Failure (List Chunk) :=
  (chunkCode (fun _ _ => some specialProgram) (.whole 0) { encoding := refusesSpecial }
    specialSource "a.py" (some { options with tokenizer := "tiktoken" })).1

/-- A namespace that exports two variables. -/
def namespaceSource : String := "export namespace N \x7b export const a = 1, b = 2; \x7d\n"

/-- The tree of that source. -/
def namespaceProgram : Node :=
  .mk "program" true "" 0 50
    [.mk "export_statement" true "" 0 49
      [.mk "internal_module" true "declaration" 7 49
        [.mk "identifier" true "name" 17 18 [],
         .mk "statement_block" true "body" 19 49
          [.mk "export_statement" true "" 21 47
            [.mk "lexical_declaration" true "declaration" 28 47
              [.mk "variable_declarator" true "" 34 39 [.mk "identifier" true "name" 34 35 []],
               .mk "variable_declarator" true "" 41 46 [.mk "identifier" true "name" 41 42 []]]]]]]]

/-- The chunks of that source, by a new chunker whose bound for small chunks is no number. -/
def namespaceChunks (options : Options) : Except Failure (List Chunk) :=
  (chunkCode (fun _ _ => some namespaceProgram) (.whole 0) {} namespaceSource "a.ts"
    (some { options with minChunkSize := ⟨.null⟩ })).1

/-- A method that cannot be counted leaves its file without chunks, and two variables that cannot be
compared with the bound make merging fail. Without members there are the class and the namespace. -/
theorem members_spoil_answer :
    create refusesSpecial {} Rule.all = .ok { encoding := refusesSpecial } ∧
      specialChunks ({} : Options).nested = .ok [] ∧
      (∃ chunk, specialChunks ({} : Options).flat = .ok [chunk] ∧ chunk.qualifiedName = "C" ∧
        [chunk] ≠ roots []) ∧
      (∃ failure, namespaceChunks ({} : Options).nested = .error failure) ∧
      ∃ chunk, namespaceChunks ({} : Options).flat = .ok [chunk] ∧ chunk.qualifiedName = "N" := by
  have hsingle {found : Except Failure (List Chunk)} {name : String}
      (h : found.toOption.map (fun chunks => chunks.map (·.qualifiedName)) = some [name]) :
      ∃ chunk, found = .ok [chunk] ∧ chunk.qualifiedName = name := by
    obtain ⟨chunks, hchunks, hnames⟩ := Option.map_eq_some_iff.mp h
    obtain ⟨chunk, rfl, hname⟩ := List.map_eq_singleton_iff.mp hnames
    exact ⟨chunk, ok_of_toOption_eq_some hchunks, hname⟩
  refine ⟨rfl, ?_, ?_, ?_, hsingle (by decide +kernel)⟩
  · have hnone : (specialChunks ({} : Options).nested).toOption = some [] := by decide +kernel
    exact ok_of_toOption_eq_some hnone
  · obtain ⟨chunk, hchunk, hname⟩ : ∃ chunk, specialChunks ({} : Options).flat = .ok [chunk] ∧
        chunk.qualifiedName = "C" := hsingle (by decide +kernel)
    exact ⟨chunk, hchunk, hname, List.cons_ne_nil chunk []⟩
  · refine exists_error_of_forall_ne_ok fun chunks hchunks => ?_
    have hnone : (namespaceChunks ({} : Options).nested).toOption = none := by decide +kernel
    rw [hchunks] at hnone
    exact absurd hnone (by simp [Except.toOption])

end Chunker

end ChunkGraph
