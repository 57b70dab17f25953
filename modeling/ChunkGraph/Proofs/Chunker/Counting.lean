import ChunkGraph.Proofs.Chunk.Runs
import ChunkGraph.Proofs.Chunker.Made
import Mathlib.Algebra.Ring.Int.Defs
import Mathlib.Data.List.Forall2

/-!
# Token counts and texts

A token is charged for every four characters, and for what is left of them. A chunk
that is cut out of a file has the count of its text. A chunk that has absorbed
others has the counts of all its parts in sum, but its text is read anew from the
lines of the file: it has line feeds between the parts, and whatever else stands
there.

The last token of a part may have room for up to three more characters. So the sum
is the count of the text if and only if the characters between the parts fit into
the room that the parts have to spare and leave less than a token of it. If they do
not fit, the text has more tokens than the chunk says, and it may have more than
chunks are to have.

## Main definitions

* `tokensOf`, `spareOf`, `charsBetween` — counts of parts, the room that they have to
  spare, and what stands between them.
* `Chunk.Counted` — a chunk has the count of its text.
* `MergedCount` — count and text of a chunk that has absorbed others.

## Main results

* `charsPerToken_mul_tokensOf` — the tokens of parts pay for their characters and
  for the room to spare.
* `estimateTokens_eq_iff`, `estimateTokens_le_iff` — when a text has the tokens of
  its parts, and when it has no more.
* `mergedCount_of_fits`, `counts_of_mem_groups` — what merging does to counts.
* `Chunker.tokenCount_of_chunkCode` — the counts of the chunks of a file.
* `Chunker.absorbed_constant_uncounted` — a text with more tokens than its chunk
  says.
-/

namespace ChunkGraph

/-! ## Rounding up -/

/-- The characters that a text could have in addition without costing more. -/
def spareChars (text : String) : Int := charsPerToken * estimateTokens text - text.length

/-- The tokens of texts, each counted on its own. -/
def tokensOf (parts : List String) : Int := (parts.map fun part => (estimateTokens part : Int)).sum

/-- The room that texts have to spare. -/
def spareOf (parts : List String) : Int := (parts.map spareChars).sum

/-- The characters of a text that are in none of its parts. -/
def charsBetween (text : String) (parts : List String) : Int :=
  text.length - (parts.map fun part => (part.length : Int)).sum

section Rounding

variable (text : String) (parts : List String)

theorem spareChars_bounds : 0 ≤ spareChars text ∧ spareChars text < charsPerToken := by
  unfold spareChars estimateTokens charsPerToken
  omega

/-- The tokens of parts pay for their characters and for the room that they have to spare. -/
theorem charsPerToken_mul_tokensOf :
    charsPerToken * tokensOf parts =
      (parts.map fun part => (part.length : Int)).sum + spareOf parts := by
  induction parts with
  | nil => rfl
  | cons part parts ih =>
      unfold tokensOf spareOf at ih ⊢
      rw [List.map_cons, List.map_cons, List.map_cons, List.sum_cons, List.sum_cons, List.sum_cons,
        Int.mul_add, ih, spareChars]
      omega

/-- A text has no more tokens than its parts if what stands between them fits into their room. -/
theorem estimateTokens_le_iff :
    (estimateTokens text : Int) ≤ tokensOf parts ↔ charsBetween text parts ≤ spareOf parts := by
  have hbounds := spareChars_bounds text
  have hparts := charsPerToken_mul_tokensOf parts
  unfold spareChars at hbounds
  unfold charsBetween
  unfold charsPerToken at *
  omega

/-- A text has as many tokens as its parts if what stands between them also leaves less than a token
of their room. -/
theorem estimateTokens_eq_iff :
    (estimateTokens text : Int) = tokensOf parts ↔
      charsBetween text parts ≤ spareOf parts ∧
        spareOf parts < charsBetween text parts + charsPerToken := by
  have hbounds := spareChars_bounds text
  have hparts := charsPerToken_mul_tokensOf parts
  unfold spareChars at hbounds
  unfold charsBetween
  unfold charsPerToken at *
  omega

end Rounding

/-! ## Counted chunks -/

/-- The chunk has kept its text and has the number of its tokens. -/
structure Chunk.Counted (c : Chunk) (text : String) : Prop where
  /-- That is its text. -/
  content : c.content = some text
  /-- The tokens are those of the text. -/
  tokenCount : c.tokenCount = some (estimateTokens text : Int)

theorem Chunk.Counted.estimatedSize_eq {c : Chunk} {text : String} (h : c.Counted text) :
    c.estimatedSize = estimateTokens text := by
  unfold estimatedSize
  rw [h.tokenCount]

/-- Counted chunks are together as large as their texts. -/
theorem totalSize_of_counted {chunks : List Chunk} {parts : List String}
    (h : List.Forall₂ Chunk.Counted chunks parts) : totalSize chunks = tokensOf parts := by
  induction h with
  | nil => rfl
  | cons hfirst _ ih =>
      rw [totalSize_cons, hfirst.estimatedSize_eq, ih]
      rfl

/-! ## Merged chunks -/

namespace Group

/-- A chunk that has kept its text has, once it has absorbed others, the lines of the file from its
beginning to the end of the last of them. -/
theorem content_merged {g : Group} {lines : List (List Char)} (hlines : g.lines = some lines)
    (hhead : g.head.content.isSome = true) (hmany : g.tail ≠ []) :
    g.merged.content = some (linesText lines g.head.startLine g.merged.endLine) := by
  obtain ⟨middle, last, htail⟩ := (List.eq_nil_or_concat' g.tail).resolve_left hmany
  -- What the group is before it absorbs the last chunk.
  let before : Group := ⟨g.lines, g.head, middle, fun chunk hchunk =>
    g.same_place chunk (htail ▸ List.mem_append_left [last] hchunk)⟩
  have hmerged : g.merged = absorb g.lines before.merged last := by
    show g.tail.foldl (absorb g.lines) g.head = absorb g.lines (middle.foldl _ g.head) last
    rw [htail, List.foldl_concat]
  have hstart : before.merged.startLine = g.head.startLine :=
    before.merged_eq_head (·.startLine) fun _ _ => rfl
  have hkept : before.merged.content.isSome = true := by
    rw [before.merged_eq_head (·.content.isSome) fun previous current => ?_]
    · exact hhead
    · unfold absorb
      cases previous.content with
      | none => rfl
      | some text =>
          simp only
          split
          · rfl
          · rename_i hnone
            rfl
  obtain ⟨text, htext⟩ := Option.isSome_iff_exists.mp hkept
  rw [hmerged, hlines]
  unfold absorb mergedText?
  rw [htext, hstart]

end Group

/-- Count and text of a chunk that has absorbed others, all of them counted. -/
structure MergedCount (options : Options) (lines : List (List Char)) (g : Group)
    (parts : List String) (text : String) : Prop where
  /-- The text is that of the lines from the first chunk to the last. -/
  content : g.merged.content = some text
  text_eq : text = linesText lines g.head.startLine g.merged.endLine
  /-- The count is the sum of those of the parts, and a size that chunks may have. -/
  tokenCount : g.merged.tokenCount = some (tokensOf parts)
  admits : options.chunkSize.admits (.whole (tokensOf parts)) = true
  /-- That is the count of the text if what stands between the parts fits into the room that they
  have to spare and leaves less than a token of it. -/
  counted_iff : g.merged.Counted text ↔ charsBetween text parts ≤ spareOf parts ∧
    spareOf parts < charsBetween text parts + charsPerToken
  /-- If it fits, the text has no more tokens than chunks may have. -/
  admits_of_fits : charsBetween text parts ≤ spareOf parts →
    options.chunkSize.admits (.whole (estimateTokens text)) = true

/-- What merging does to the counts of chunks. -/
theorem mergedCount_of_fits {options : Options} {lines : List (List Char)} {g : Group}
    {parts : List String} (hfits : g.Fits options) (hlines : g.lines = some lines)
    (hcounted : List.Forall₂ Chunk.Counted g.members parts) (hmany : g.tail ≠ []) :
    MergedCount options lines g parts (linesText lines g.head.startLine g.merged.endLine) := by
  have hhead : g.head.content.isSome = true := by
    cases hcounted with
    | cons hfirst _ =>
        rw [hfirst.content]
        rfl
  have hcontent := Group.content_merged hlines hhead hmany
  have hsize : totalSize g.members = tokensOf parts := totalSize_of_counted hcounted
  have htokens : g.merged.tokenCount = some (tokensOf parts) := by
    obtain ⟨middle, last, htail⟩ := (List.eq_nil_or_concat' g.tail).resolve_left hmany
    rw [(Group.joined hfits htail).result_eq, ← htail]
    exact congrArg some hsize
  have hadmits : options.chunkSize.admits (.whole (tokensOf parts)) = true := by
    rw [← hsize]
    exact hfits.whole hmany
  refine ⟨hcontent, rfl, htokens, hadmits, ?_, fun hroom => ?_⟩
  · rw [← estimateTokens_eq_iff]
    constructor
    · exact fun h => (Option.some.inj (htokens.symm.trans h.tokenCount)).symm
    · exact fun h => ⟨hcontent, htokens.trans (congrArg some h.symm)⟩
  · exact Bound.admits_mono ((estimateTokens_le_iff _ parts).mpr hroom) hadmits

/-- The counts of groups of counted chunks. -/
theorem counts_of_mem_groups {options : Options} {code : String} {cut : List Chunk}
    (hcut : ∀ part ∈ cut, ∃ text, part.Counted text) {g : Group}
    (hg : g ∈ groups options (some code) cut) :
    (g.tail = [] → ∃ text, g.merged.Counted text) ∧
      (g.tail ≠ [] → ∃ parts text, List.Forall₂ Chunk.Counted g.members parts ∧
        MergedCount options (Text.splitLines code.toList) g parts text) := by
  refine ⟨fun halone => ?_, fun hmany => ?_⟩
  · have hmerged : g.merged = g.head := by rw [Group.merged, halone, List.foldl_nil]
    rw [hmerged]
    exact hcut g.head (head_mem_of_mem_groups hg)
  · have hparts : List.Forall₂ Chunk.Counted g.members (g.members.map (·.content.getD "")) := by
      refine List.forall₂_map_right_iff.mpr (List.forall₂_same.mpr fun part hpart => ?_)
      obtain ⟨text, htext⟩ := hcut part ((mem_iff_exists_group _ _).mpr ⟨g, hg, hpart⟩)
      rwa [htext.content]
    exact ⟨_, _, hparts, mergedCount_of_fits (fits_of_mem_groups options (some code) cut g hg)
      (lines_of_mem_groups hg) hparts hmany⟩

namespace Chunker

open Number Syntax

/-- Every chunk that is cut out of a tree is counted, if texts are kept and counting is
estimating. -/
theorem exists_counted_of_outline {c : Chunker} {frontEnd : FrontEnd} {tree : Tree} {root : Cursor}
    {path : String} {options : Options} (htokenizer : c.tokenizerFor? options = some .estimate)
    (hcontent : options.includeContent = true) {part : Chunk}
    (h : part ∈ Outline.outline (c.contextOf frontEnd tree path options .estimate root) root) :
    ∃ text, part.Counted text := by
  obtain ⟨item, tokenizer, container, kind, facets, made, members, hfor, hmade, rfl⟩ :=
    exists_madeFrom_of_outline htokenizer h
  obtain rfl := Option.some.inj (hfor.symm.trans htokenizer)
  obtain ⟨name, _, rfl⟩ := Option.map_eq_some_iff.mp hmade
  exact ⟨item.text tree, if_pos hcontent, rfl⟩

/-- Without merging, every chunk of a file is counted. -/
theorem counted_of_unmerged {parser : Parser} {now : Quantity} {c : Chunker} {code path : String}
    {given : Option Options} {chunks : List Chunk}
    (hmerge : (given.getD c.options).mergeSmall = false)
    (htokenizer : c.tokenizerFor? (given.getD c.options) = some .estimate)
    (hcontent : (given.getD c.options).includeContent = true)
    (hchunks : (c.chunkCode parser now code path given).1 = .ok chunks) :
    ∀ part ∈ chunks, ∃ text, part.Counted text := by
  obtain ⟨frontEnd, tree?, _, _, hfound⟩ := exists_chunksOf_of_chunkCode hchunks
  rcases chunksOf_eq_ok hfound with rfl | ⟨tree, root, tokenizer, _, _, hfor, hfinish⟩
  · exact fun _ h => absurd h List.not_mem_nil
  · obtain rfl := Option.some.inj (hfor.symm.trans htokenizer)
    rw [← Except.ok.inj ((finish_of_unmerged hmerge).symm.trans hfinish)]
    exact fun part hpart => exists_counted_of_outline htokenizer hcontent hpart

/-- The counts of the chunks of a file. Let texts be kept and counting be estimating. The chunks
that are returned without merging have the counts of their texts. With merging the chunks are what
groups of these become. One that has not absorbed any other has the count of its text; one that
has, has the counts of its parts in sum, and this is the count of its text if and only if what
stands between the parts fits into the room that they have to spare and leaves less than a token of
it. If it fits, the text is not larger than chunks are to be. -/
theorem tokenCount_of_chunkCode (parser : Parser) (now : Quantity) (c : Chunker)
    (code path : String) (given : Option Options) (chunks : List Chunk)
    (htokenizer : c.tokenizerFor? (given.getD c.options) = some .estimate)
    (hcontent : (given.getD c.options).includeContent = true)
    (hchunks : (c.chunkCode parser now code path given).1 = .ok chunks) :
    ∃ cut : List Chunk,
      (c.chunkCode parser now code path (some (given.getD c.options).unmerged)).1 = .ok cut ∧
      (∀ part ∈ cut, ∃ text, part.Counted text) ∧
      ((given.getD c.options).mergeSmall = false → chunks = cut) ∧
      ((given.getD c.options).mergeSmall = true →
        chunks = (groups (given.getD c.options) (some code) cut).map Group.merged ∧
        ∀ g ∈ groups (given.getD c.options) (some code) cut,
          (g.tail = [] → ∃ text, g.merged.Counted text) ∧
          (g.tail ≠ [] → ∃ parts text, List.Forall₂ Chunk.Counted g.members parts ∧
            MergedCount (given.getD c.options) (Text.splitLines code.toList) g parts text)) := by
  rw [chunkCode_eq_bind] at hchunks
  cases hcut : (c.chunkCode parser now code path (some (given.getD c.options).unmerged)).1 with
  | error failure =>
      rw [hcut] at hchunks
      exact absurd hchunks (fun h => nomatch h)
  | ok cut =>
      rw [hcut] at hchunks
      have hunmerged :
          ((some (given.getD c.options).unmerged).getD c.options).mergeSmall = false := rfl
      have hcounted : ∀ part ∈ cut, ∃ text, part.Counted text :=
        counted_of_unmerged hunmerged htokenizer hcontent hcut
      refine ⟨cut, rfl, hcounted, ?_⟩
      rcases finish_eq_ok hchunks with ⟨hmerge, rfl⟩ | ⟨hmerge, rfl⟩
      · exact ⟨fun _ => rfl, fun hmerged => absurd (hmerge.symm.trans hmerged) Bool.false_ne_true⟩
      · exact ⟨fun hunmerged => absurd (hunmerged.symm.trans hmerge) Bool.false_ne_true,
          fun _ => ⟨(map_merged_groups _ _ _).symm, fun g hg => counts_of_mem_groups hcounted hg⟩⟩

/-! ## Two constants -/

/-- Two exported constants, each of as many characters as five tokens pay for. -/
def constantsSource : String := "export const a = 11;\nexport const b = 22;\n"

/-- The syntax tree of that source. -/
def constantsProgram : Node :=
  .mk "program" true "" 0 42
    [.mk "export_statement" true "" 0 20
      [.mk "lexical_declaration" true "declaration" 7 20
        [.mk "variable_declarator" true "" 13 19 [.mk "identifier" true "name" 13 14 [],
          .mk "number" true "value" 17 19 []]]],
     .mk "export_statement" true "" 21 41
      [.mk "lexical_declaration" true "declaration" 28 41
        [.mk "variable_declarator" true "" 34 40 [.mk "identifier" true "name" 34 35 [],
          .mk "number" true "value" 38 40 []]]]]

/-- Texts are kept, and chunks are to have ten tokens at most. -/
def tenTokens : Options := { includeContent := true, chunkSize := 10 }

/-- What that source is parsed to. -/
def constantsTree : Tree :=
  { language := "typescript", source := Text.Utf8.encode constantsSource.toList
    root := some constantsProgram }

/-- What the rules are told about it by a new chunker. -/
def constantsContext : Outline.Context :=
  contextOf {} .script constantsTree "a.ts" tenTokens .estimate (.ofRoot constantsProgram)

theorem outline_constantsContext :
    Outline.outline constantsContext (.ofRoot constantsProgram) =
      ((Cursor.ofRoot constantsProgram).namedChildren.map fun c =>
        (⟨(c.child? "declaration").getD c, some c⟩ : Item)).flatMap
          (Outline.declarationChunks constantsContext) := by
  rw [← Script.declarationsIn_of_exports (by decide)]
  rfl

/-- A new chunker merges the two constants. -/
theorem chunkCode_constants :
    (chunkCode (fun _ _ => some constantsProgram) (.whole 0) {} constantsSource "a.ts"
        (some tenTokens)).1 =
      .ok (mergeSmall tenTokens (some constantsSource)
        (Outline.outline constantsContext (.ofRoot constantsProgram))) := by
  have hmade : create .unavailable {} Rule.all = .ok {} := rfl
  have htree : ({} : Chunker).treeOf (fun _ _ => some constantsProgram) constantsSource "a.ts" =
      some constantsTree := rfl
  have hroot : constantsTree.rootCursor? = some (.ofRoot constantsProgram) := rfl
  have htokenizer : ({} : Chunker).tokenizerFor? tenTokens = some .estimate := rfl
  have hcounted : (Outline.outline constantsContext (.ofRoot constantsProgram)).all
      (·.tokenCount.isSome) = true := by
    rw [outline_constantsContext]
    decide +kernel
  have hrun : (chunkCode (fun _ _ => some constantsProgram) (.whole 0) {} constantsSource "a.ts"
      (some tenTokens)).1 = finish tenTokens constantsSource
        (Outline.outline constantsContext (.ofRoot constantsProgram)) :=
    chunkCode_eq_finish hmade rfl rfl (.whole 0) htree hroot htokenizer hcounted
  exact hrun.trans (finish_of_merged rfl rfl rfl _)

theorem tokenCount_of_chunkCode_constants :
    ∃ chunks cut : List Chunk,
      (chunkCode (fun _ _ => some constantsProgram) (.whole 0) {} constantsSource "a.ts"
        (some tenTokens)).1 = .ok chunks ∧
      (chunkCode (fun _ _ => some constantsProgram) (.whole 0) {} constantsSource "a.ts"
        (some tenTokens.unmerged)).1 = .ok cut ∧
      (∀ part ∈ cut, ∃ text, part.Counted text) ∧
      chunks = (groups tenTokens (some constantsSource) cut).map Group.merged := by
  obtain ⟨cut, hcut, hcounted, _, hmerged⟩ := tokenCount_of_chunkCode
    (fun _ _ => some constantsProgram) (.whole 0) {} constantsSource "a.ts" (some tenTokens) _ rfl
    rfl chunkCode_constants
  exact ⟨_, cut, chunkCode_constants, hcut, hcounted, (hmerged rfl).1⟩

/-- Two constants of five tokens each become a chunk of ten, but with the line feed between them its
text has eleven, which is more than chunks are to have. -/
theorem absorbed_constant_uncounted :
    ∃ chunks, (chunkCode (fun _ _ => some constantsProgram) (.whole 0) {} constantsSource "a.ts"
        (some tenTokens)).1 = .ok chunks ∧
      chunks.map (fun c => (c.content, c.tokenCount)) =
        [(some "export const a = 11;\nexport const b = 22;", some 10)] ∧
      (¬∀ chunk ∈ chunks, ∃ text, chunk.Counted text) ∧
      ¬∀ chunk ∈ chunks, ∀ text, chunk.content = some text →
        tenTokens.chunkSize.admits (.whole (estimateTokens text)) = true := by
  refine ⟨_, chunkCode_constants, ?_⟩
  have hall : (mergeSmall tenTokens (some constantsSource)
      (Outline.outline constantsContext (.ofRoot constantsProgram))).map
        (fun c => (c.content, c.tokenCount)) =
      [(some "export const a = 11;\nexport const b = 22;", some 10)] := by
    rw [outline_constantsContext]
    decide +kernel
  have heleven : estimateTokens "export const a = 11;\nexport const b = 22;" = 11 := by
    decide +kernel
  obtain ⟨chunk, hone, heq⟩ := List.map_eq_singleton_iff.mp hall
  obtain ⟨hcontent, htokens⟩ := Prod.mk.inj heq
  rw [hone]
  refine ⟨by rw [List.map_singleton, heq], fun hcounted => ?_, fun hadmits => ?_⟩
  · obtain ⟨text, htext⟩ := hcounted chunk List.mem_cons_self
    obtain rfl := Option.some.inj (hcontent.symm.trans htext.content)
    have hcount := Option.some.inj (htokens.symm.trans htext.tokenCount)
    rw [heleven] at hcount
    exact absurd hcount (by decide)
  · have hten := hadmits chunk List.mem_cons_self _ hcontent
    rw [heleven] at hten
    exact absurd hten (by decide)

end Chunker

end ChunkGraph
