import ChunkGraph.Proofs.Chunker.Switches
import ChunkGraph.Proofs.Excerpt.Blocks
import ChunkGraph.Proofs.Outline.Location
import ChunkGraph.Service.Basic

/-!
# Reading the text of a chunk back

A chunk that has not kept its text knows its first and its last line, and its
text is read back from the file by these. Lines of a chunk are rows, counted in
line feeds; lines of a file end at every line break. So what is read back is the
text of the chunk as long as the two agree.

They agree if line feeds are the only breaks up to the end of the chunk. A break
of another kind in the chunk is turned into a line feed, and one in front of it
shifts the lines, so that other lines are read, or none at all. A line feed at
the end of the file is lost.

## Main results

* `assemble_singleton` — the block of a single chunk without its text.
* `Service.read_back_iff` — when the text is read back.
* `Service.read_back_nothing` — a form feed in front of a chunk.
-/

namespace ChunkGraph

open Number Syntax
open Text (ClosesRow EndsRow OnlyFeeds)
open Text.Utf8 (encode)

/-! ## Single chunks -/

/-- A chunk without its text is put together from its lines, if no gap is kept. -/
theorem assemble_singleton {chunk : Chunk} (hcontent : chunk.content = none)
    (hline : 0 < chunk.endLine) (source : String) :
    assemble [chunk] source 0 =
      linesText (Text.splitLines source.toList) chunk.startLine chunk.endLine := by
  have hgap : gapText? (Text.splitLines source.toList) 0 0 chunk = none := by
    have hadmits : (0 : Bound).admits (.whole (chunk.startLine - 0 - 1)) =
        decide (chunk.startLine - 0 - 1 ≤ 0) := Bound.admits_whole _ 0
    unfold gapText?
    simp only [hadmits]
    rw [if_neg]
    simp only [Bool.and_eq_true, decide_eq_true_eq]
    omega
  unfold assemble
  rw [List.mergeSort_singleton, parts, if_neg (by omega), hgap, hcontent]
  rfl

namespace Service

/-- The text of a chunk that a new chunker cuts and does not merge stands on the lines of the
chunk. -/
theorem exists_place_of_chunkCode {parser : Parser} {now : Quantity} {encoding : Encoding}
    {options : Options} {rules : List Rule} {registry : Registry} {made c : Chunker}
    {code path : String} {given : Option Options} {chunks : List Chunk}
    (hmade : Chunker.create encoding options rules = .ok made) (hc : c = { made with registry })
    (hspans : ∀ text, (c.frontEndOf path).parsedText? code = some text → ∀ grammar root,
      parser grammar text = some root → root.Everywhere (·.Covers text.toList))
    (hmerge : (given.getD c.options).mergeSmall = false)
    (hchunks : (c.chunkCode parser now code path given).1 = .ok chunks) {chunk : Chunk}
    (hchunk : chunk ∈ chunks) :
    ∃ text front back,
      chunk.content = (if (given.getD c.options).includeContent then some text else none) ∧
      chunk.StandsOn code front text.toList back ∧
      (c.frontEndOf path ≠ .component → (chunk.range.start.column = 0 ↔ EndsRow front)) := by
  obtain ⟨htrees, hshelves⟩ : c.trees.entries = [] ∧ c.pool.shelves = [] := by
    obtain ⟨hentries, hnone⟩ := Chunker.entries_of_create hmade
    rw [hc]
    exact ⟨hentries, hnone⟩
  rw [Chunker.chunkCode_of_empty htrees hshelves] at hchunks
  split at hchunks
  · exact absurd hchunks (by simp)
  · obtain ⟨tree, root, tokenizer, htree, hroot, _, _, hfinish⟩ :=
      Chunker.exists_outline_of_mem hchunks hchunk
    rw [Chunker.finish_of_unmerged hmerge] at hfinish
    obtain rfl := Except.ok.inj hfinish
    obtain ⟨other, hcode, hparse⟩ := Chunker.treeOf_eq_some htree
    obtain rfl := Syntax.SourceText.chars.inj hcode
    obtain ⟨text, front, back, htext, hplace, hcolumn⟩ := Outline.exists_place_of_standsIn
      (FrontEnd.standsIn_of_parse? hparse hspans) hroot chunk hchunk
    exact ⟨text, front, back, htext, hplace, fun hwhole =>
      hcolumn (FrontEnd.source_of_parse? hparse hwhole)⟩

/-- Chunks without texts are those with texts, cut by the same new chunker, with the text left out.
What is read back from the file of such a chunk is what it is put together from alone, without
gaps. Where line feeds are the only breaks in front of the chunk and it stands on whole rows, that
is the text exactly if line feeds are its only breaks too and it does not end with one at the end of
the file. -/
theorem read_back_iff (parser : Parser) (now : Quantity) (encoding : Encoding) (options : Options)
    (rules : List Rule) (registry : Registry) (made c : Chunker) (code path : String)
    (given : Option Options) (bare : List Chunk)
    (hmade : Chunker.create encoding options rules = .ok made) (hc : c = { made with registry })
    (hspans : ∀ text, (c.frontEndOf path).parsedText? code = some text → ∀ grammar root,
      parser grammar text = some root → root.Everywhere (·.Covers text.toList))
    (hmerge : (given.getD c.options).mergeSmall = false)
    (hcontent : (given.getD c.options).includeContent = false)
    (hbare : (c.chunkCode parser now code path given).1 = .ok bare) :
    ∃ full, (c.chunkCode parser now code path (some (given.getD c.options).keeping)).1 = .ok full ∧
      bare = full.map Chunk.bare ∧
      ∀ chunk ∈ full, ∃ text front back, chunk.content = some text ∧
        chunk.StandsOn code front text.toList back ∧
        (c.frontEndOf path ≠ .component → (chunk.range.start.column = 0 ↔ EndsRow front)) ∧
        ∀ (w : World) (s : Service), w.disk.readText (s.diskPath path) = .ok code →
          s.contentOf w chunk.bare = .ok (assemble [chunk.bare] code 0) ∧
          (OnlyFeeds front → EndsRow front → ClosesRow back →
            (assemble [chunk.bare] code 0 = text ↔
              OnlyFeeds text.toList ∧ ¬ (back = [] ∧ ∃ rows, text.toList = rows ++ ['\n']))) := by
  rw [Chunker.chunkCode_bare c hcontent] at hbare
  have hkept : ((some (given.getD c.options).keeping).getD c.options).mergeSmall = false := hmerge
  cases hfull : (c.chunkCode parser now code path (some (given.getD c.options).keeping)).1 with
  | error failure =>
      rw [hfull] at hbare
      exact absurd hbare (by simp [Except.map])
  | ok full =>
      rw [hfull] at hbare
      refine ⟨full, rfl, (Except.ok.inj hbare).symm, fun chunk hchunk => ?_⟩
      obtain ⟨text, front, back, htext, hplace, hcolumn⟩ :=
        exists_place_of_chunkCode hmade hc hspans hkept hfull hchunk
      have hpath : chunk.filePath = path := Chunker.filePath_of_chunkCode hfull hchunk
      have hlast : 0 < chunk.bare.endLine := by
        have hline := hplace.endLine_eq
        show 0 < chunk.endLine
        omega
      have hblock : assemble [chunk.bare] code 0 = linesText (Text.splitLines code.toList)
          chunk.bare.startLine chunk.bare.endLine := assemble_singleton rfl hlast code
      refine ⟨text, front, back, htext, hplace, hcolumn, fun w s hread => ⟨?_, ?_⟩⟩
      · unfold contentOf
        show (w.disk.readText (s.diskPath chunk.filePath)).map _ = _
        rw [hpath, hread, hblock]
        rfl
      · intro hfront hends hcloses
        rw [hblock, hplace.code_eq]
        have hstart : chunk.bare.startLine = (Text.lineFeeds front : Int) + 1 := by
          have hline := hplace.startLine_eq
          show chunk.startLine = _
          omega
        have hstop : chunk.bare.endLine = (Text.lineFeeds (front ++ text.toList) : Int) + 1 := by
          have hline := hplace.endLine_eq
          show chunk.endLine = _
          omega
        have hfound := @Text.linesText_eq_iff front text.toList back hfront hends hcloses
        rw [String.ofList_toList] at hfound
        rw [hstart, hstop]
        exact hfound

/-- A comment, something behind it on its row, and a function. -/
def pageModule (ending : String) : String := "# page" ++ ending ++ "\ndef f(): pass\n"

/-- The parser finds the function of that module, which begins at a byte. -/
def pageParser (start : Nat) : Parser := fun _ _ =>
  some (.mk "module" true "" 0 (start + 14)
    [.mk "function_definition" true "" start (start + 13)
      [.mk "identifier" true "name" (start + 4) (start + 5) []]])

/-- A disk with that module. -/
def pageWorld (ending : String) (start : Nat) : World :=
  { disk := ⟨[(["a.py".toList], .file (encode (pageModule ending).toList) 1000)]⟩
    parser := pageParser start
    patterns := fun _ => .ok fun _ => false }

/-- A service on that disk. -/
def pageService : Service := { settings := .standard, chunker := {} }

/-- What a new chunker that does not merge cuts the module into. -/
def pageChunks (ending : String) (start : Nat) (includeContent : Bool) : List Chunk :=
  (Chunker.chunkCode (pageParser start) (.whole 0) {} (pageModule ending) "a.py"
    (some { mergeSmall := false, includeContent })).1.toOption.getD []

theorem everywhere_covers_page {grammar text : String} {root : Node}
    (h : pageParser 7 grammar text = some root) :
    root.Everywhere (·.Covers (pageModule "").toList) := by
  rw [← Option.some.inj h]
  exact (Node.wellSpanned_of_spansFit _ (by decide)).everywhere_covers (by decide) (by decide)

theorem read_back_iff_page :
    (Chunker.chunkCode (pageParser 7) (.whole 0) {} (pageModule "") "a.py"
        (some { mergeSmall := false })).1 = .ok (pageChunks "" 7 false) ∧
      (pageChunks "" 7 false).map (fun c => (c.startLine, c.endLine, c.content)) =
        [(2, 2, none)] ∧
      ∃ full, (Chunker.chunkCode (pageParser 7) (.whole 0) {} (pageModule "") "a.py"
          (some { mergeSmall := false, includeContent := true })).1 = .ok full ∧
        pageChunks "" 7 false = full.map Chunk.bare ∧
        ∀ chunk ∈ full, ∃ text front back, chunk.content = some text ∧
          chunk.StandsOn (pageModule "") front text.toList back ∧
          (chunk.range.start.column = 0 ↔ EndsRow front) ∧
          pageService.contentOf (pageWorld "" 7) chunk.bare =
            .ok (assemble [chunk.bare] (pageModule "") 0) ∧
          (OnlyFeeds front → EndsRow front → ClosesRow back →
            (assemble [chunk.bare] (pageModule "") 0 = text ↔
              OnlyFeeds text.toList ∧ ¬ (back = [] ∧ ∃ rows, text.toList = rows ++ ['\n']))) := by
  have hrun : (Chunker.chunkCode (pageParser 7) (.whole 0) {} (pageModule "") "a.py"
      (some { mergeSmall := false })).1 = .ok (pageChunks "" 7 false) := by decide +kernel
  have hlines : (pageChunks "" 7 false).map (fun c => (c.startLine, c.endLine, c.content)) =
      [(2, 2, none)] := by decide +kernel
  have hread : (pageWorld "" 7).disk.readText (pageService.diskPath "a.py") =
      .ok (pageModule "") := by decide +kernel
  have hfrontEnd : ({} : Chunker).frontEndOf "a.py" = .generic "python" := by decide +kernel
  have hspans : ∀ text, (({} : Chunker).frontEndOf "a.py").parsedText? (pageModule "") = some text →
      ∀ grammar root, pageParser 7 grammar text = some root →
        root.Everywhere (·.Covers text.toList) := by
    intro text htext grammar root hparse
    rw [hfrontEnd] at htext
    rw [← Option.some.inj htext]
    exact everywhere_covers_page hparse
  obtain ⟨full, hfull, hbare, hchunks⟩ := read_back_iff (pageParser 7) (.whole 0) .unavailable {}
    Rule.all .standard {} {} (pageModule "") "a.py" (some { mergeSmall := false }) _ rfl rfl hspans
    rfl rfl hrun
  refine ⟨hrun, hlines, full, hfull, hbare, fun chunk hchunk => ?_⟩
  obtain ⟨text, front, back, htext, hplace, hcolumn, hfound⟩ := hchunks chunk hchunk
  obtain ⟨hcontent, hiff⟩ := hfound (pageWorld "" 7) pageService hread
  have hwhole : ({} : Chunker).frontEndOf "a.py" ≠ .component := by
    rw [hfrontEnd]
    simp
  exact ⟨text, front, back, htext, hplace, hcolumn hwhole, hcontent, hiff⟩

/-- A form feed ends the row of the comment for a reader of lines, so the function is looked for
on the line in front of its own, which is empty. -/
theorem read_back_nothing :
    (Chunker.chunkCode (pageParser 8) (.whole 0) {} (pageModule "\x0c") "a.py"
        (some { mergeSmall := false })).1 = .ok (pageChunks "\x0c" 8 false) ∧
      (Chunker.chunkCode (pageParser 8) (.whole 0) {} (pageModule "\x0c") "a.py"
        (some { mergeSmall := false, includeContent := true })).1 =
          .ok (pageChunks "\x0c" 8 true) ∧
      pageModule "\x0c" = "# page\x0c\n" ++ "def f(): pass" ++ "\n" ∧
      (pageChunks "\x0c" 8 true).map (fun c => (c.content, c.range)) =
        [(some "def f(): pass", ⟨⟨2, 0⟩, ⟨2, 13⟩⟩)] ∧
      (pageWorld "\x0c" 8).disk.readText (pageService.diskPath "a.py") =
        .ok (pageModule "\x0c") ∧
      ∃ chunk, pageChunks "\x0c" 8 false = [chunk] ∧
        pageService.contentOf (pageWorld "\x0c" 8) chunk = .ok "" ∧
        assemble [chunk] (pageModule "\x0c") 0 = "" := by
  refine ⟨?_, ?_, ?_, ?_, ?_, (pageChunks "\x0c" 8 false).head (by decide +kernel), ?_, ?_, ?_⟩
  case refine_1 => decide +kernel
  case refine_2 => decide +kernel
  case refine_3 => decide +kernel
  case refine_4 => decide +kernel
  case refine_5 => decide +kernel
  case refine_6 => decide +kernel
  case refine_7 => decide +kernel
  case refine_8 => decide +kernel

end Service

end ChunkGraph
