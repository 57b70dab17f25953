import ChunkGraph.Proofs.Chunk.Groups
import ChunkGraph.Proofs.Excerpt.Reading
import ChunkGraph.Proofs.Outline.Forest
import ChunkGraph.Proofs.Resolve.Normal
import ChunkGraph.Service.Basic

/-!
# Which text a block is put together from

The text of a file is put together from the source under the normal form of the
path of its chunks. That is the source of the chunks if their file was requested
or has a path in normal form. A file that an import leads to under another
spelling is the exception: its source is kept under that spelling, where the
block of its chunks does not look for it. With plain extensions the only such
files are index and package files of the directory `.`, for which imports lead
to a path with a dot and a slash in front.

## Main definitions

* `Excerpt.KeepsPath` — a cutter that says of chunks where they come from.
* `Excerpt.IsBlock` — the text of a file is put together from a source.
* `Excerpt.SourceOf` — the source that a block is put together from.

## Main results

* `Excerpt.isBlock_of_blocks_eq` — what the blocks of an excerpt are.
* `Service.keepsPath_cutText` — the chunker keeps paths.
* `Excerpt.reads_once_and_assembles_from` — what is read how often, and which
  source each block is put together from.
-/

namespace ChunkGraph

variable {σ : Type}

namespace Excerpt

variable {read : Reader} {cut : Cutter σ}

/-! ## Blocks -/

theorem nodup_keys_groupByFile (chunks : List Chunk) :
    ((groupByFile chunks).map (·.1)).Nodup :=
  Keyed.nodup_keys_foldl_addTo _ chunks List.nodup_nil

/-- Chunks that stand in order in each file are not sorted anew. -/
theorem assembleFiles_of_pairwise {chunks : List Chunk} (sources : List (String × String))
    (maxGap : Bound) (h : ∀ file ∈ groupByFile chunks,
      file.2.Pairwise fun a b => a.comesFirst b = true) :
    assembleFiles sources maxGap chunks = (groupByFile chunks).map fun (key, group) =>
      ((group.head?.map (·.filePath)).getD key, String.intercalate "\n\n"
        (parts (Text.splitLines ((sources.lookup key).getD "").toList) maxGap 0 group)) := by
  refine List.map_congr_left fun file hfile => ?_
  simp only [assemble, List.mergeSort_of_pairwise (h file hfile)]

/-- The group of a key has the chunks whose paths have that normal form. -/
theorem mem_groupByFile_iff (chunks : List Chunk) (key : String) (group : List Chunk) :
    (key, group) ∈ groupByFile chunks ↔
      group ≠ [] ∧ group = chunks.filter (Path.normalize ·.filePath == key) := by
  have hlookup : (groupByFile chunks).lookup key =
      if (chunks.filter (Path.normalize ·.filePath == key)).isEmpty then none
      else some (chunks.filter (Path.normalize ·.filePath == key)) :=
    Keyed.lookup_foldl_addTo (fun c : Chunk => Path.normalize c.filePath) chunks [] key
  rw [Keyed.mem_iff_lookup (nodup_keys_groupByFile chunks), hlookup]
  split
  · rename_i hempty
    rw [List.isEmpty_iff] at hempty
    rw [hempty]
    simp
  · rename_i hgroup
    rw [List.isEmpty_iff] at hgroup
    constructor
    · intro hsame
      obtain rfl := Option.some.inj hsame
      exact ⟨hgroup, rfl⟩
    · rintro ⟨_, rfl⟩
      rfl

/-- The chunks of an excerpt whose paths have the same normal form as a path. -/
def fileChunks (e : Excerpt) (path : String) : List Chunk :=
  e.all.filter (Path.normalize ·.filePath == Path.normalize path)

/-- The text of a file is put together from a source: the file has one block, under the path of its
first chunk, and that is put together from all of its chunks. -/
def IsBlock (e : Excerpt) (maxGap : Bound) (path source : String) : Prop :=
  ∀ block, block ∈ e.blocks ∧ Path.normalize block.1 = Path.normalize path ↔
    ∃ first, (e.fileChunks path).head? = some first ∧
      block = (first.filePath, assemble (e.fileChunks path) source maxGap)

/-- Every file of an excerpt has one block. It is put together from the source under the normal form
of the path, or from nothing if there is none. -/
theorem isBlock_of_blocks_eq {e : Excerpt} {sources : List (String × String)} {maxGap : Bound}
    (hblocks : e.blocks = assembleFiles sources maxGap e.all) (path : String) :
    IsBlock e maxGap path ((sources.lookup (Path.normalize path)).getD "") := by
  intro block
  rw [hblocks, assembleFiles, List.mem_map]
  constructor
  · rintro ⟨⟨⟨key, group⟩, hgroup, rfl⟩, hsame⟩
    obtain ⟨hne, rfl⟩ := (mem_groupByFile_iff e.all key group).mp hgroup
    obtain ⟨first, rest, hfirst⟩ := List.exists_cons_of_ne_nil hne
    have hmem : first ∈ e.all.filter (Path.normalize ·.filePath == key) := by
      rw [hfirst]
      exact List.mem_cons_self
    have hkey : Path.normalize first.filePath = key := eq_of_beq (List.mem_filter.mp hmem).2
    rw [hfirst] at hsame
    have hpath : Path.normalize first.filePath = Path.normalize path := hsame
    rw [hkey] at hpath
    subst hpath
    refine ⟨first, ?_, ?_⟩
    · rw [fileChunks, hfirst]
      rfl
    · rw [fileChunks, hfirst]
      rfl
  · rintro ⟨first, hfirst, rfl⟩
    have hmem : first ∈ e.fileChunks path := List.mem_of_head? hfirst
    have hne : e.fileChunks path ≠ [] := List.ne_nil_of_mem hmem
    refine ⟨⟨(Path.normalize path, e.fileChunks path), ?_, ?_⟩, ?_⟩
    · exact (mem_groupByFile_iff e.all _ _).mpr ⟨hne, rfl⟩
    · simp only [hfirst, Option.map_some, Option.getD_some]
    · exact eq_of_beq (List.mem_filter.mp hmem).2

/-! ## Chunks know where they come from -/

/-- The cutter gives chunks the path under which their text was cut. -/
def KeepsPath (cut : Cutter σ) : Prop :=
  ∀ source path before chunks after, cut source path before = (.ok chunks, after) →
    ∀ c ∈ chunks, c.filePath = path

end Excerpt

/-- The chunks of declarations have the path of the file. -/
theorem Outline.Yields.filePath_eq {ctx : Outline.Context} {parent : Option Chunk}
    {items : List Item} {chunks : List Chunk} (h : Outline.Yields ctx parent items chunks)
    {c : Chunk} (hc : c ∈ chunks) : c.filePath = ctx.filePath := by
  obtain ⟨before, after, hsplit⟩ := List.append_of_mem hc
  obtain ⟨_, _, made, members, _, hblock, rfl, _⟩ := h.exists_block hsplit
  obtain ⟨_, _, _, hmade⟩ := hblock.made
  obtain ⟨_, _, rfl⟩ := Option.map_eq_some_iff.mp hmade
  rfl

/-- Merging leaves chunks in their files. -/
theorem filePath_of_mem_mergeSmall {options : Options} {source : Option String}
    {chunks : List Chunk} {path : String} (h : ∀ c ∈ chunks, c.filePath = path) {c : Chunk}
    (hc : c ∈ mergeSmall options source chunks) : c.filePath = path := by
  obtain ⟨g, hg, rfl⟩ := mem_mergeSmall_iff.mp hc
  rw [Group.filePath_merged, h g.head (head_mem_of_mem_groups hg)]

/-- The chunks that a chunker returns for a file have its path. -/
theorem Chunker.filePath_of_chunkCode {c : Chunker} {parser : Syntax.Parser} {now : Number.Quantity}
    {code path : String} {given : Option Options} {chunks : List Chunk}
    (h : (c.chunkCode parser now code path given).1 = .ok chunks) {m : Chunk} (hm : m ∈ chunks) :
    m.filePath = path := by
  obtain ⟨frontEnd, tree?, _, _, hfound⟩ := exists_chunksOf_of_chunkCode h
  rcases chunksOf_eq_ok hfound with rfl | ⟨tree, root, tokenizer, _, _, _, hfinish⟩
  · exact absurd hm List.not_mem_nil
  · have hcut : ∀ n ∈ Outline.outline (c.contextOf frontEnd tree path (given.getD c.options)
        tokenizer root) root, n.filePath = path := fun n hn =>
      (Outline.yields_outline _ root).filePath_eq hn
    rcases finish_eq_ok hfinish with ⟨_, rfl⟩ | ⟨_, rfl⟩
    · exact hcut m hm
    · exact filePath_of_mem_mergeSmall hcut hm

/-- The chunks of a text that a service cuts have its path. -/
theorem Service.keepsPath_cutText (parser : Syntax.Parser) (options : Option Options) :
    Excerpt.KeepsPath (Service.cutText parser options) := by
  intro source path before chunks after h c hc
  have hchunks : (before.chunker.chunkCode parser before.now source path options).1 = .ok chunks :=
    (Prod.mk.inj h).1
  exact Chunker.filePath_of_chunkCode hchunks hc

namespace Excerpt

variable {read : Reader} {cut : Cutter σ}

/-- Every chunk of a corpus was cut from a text that was read under its path. -/
theorem exists_entry_of_mem {corpus : Corpus σ} {log : List (String × String)}
    (hcut : KeepsPath cut) (hlog : corpus.ReadFrom read cut log) {file : String × List Chunk}
    (hfile : file ∈ corpus.files) {c : Chunk} (hc : c ∈ file.2) :
    ∃ key source, (c.filePath, key) ∈ log ∧ read c.filePath = .ok source := by
  obtain ⟨path, source, before, after, hentry, hread, _, hmade⟩ := hlog.cut_from file hfile
  obtain rfl := hcut source path before file.2 after hmade c hc
  exact ⟨file.1, source, hentry, hread⟩

theorem mem_of_mem_foldl_addChunk {more chunks : List Chunk} {c : Chunk}
    (h : c ∈ more.foldl addChunk chunks) : c ∈ chunks ∨ c ∈ more := by
  induction more generalizing chunks with
  | nil => exact Or.inl h
  | cons chunk more ih =>
      rcases ih h with hadded | hlater
      · unfold addChunk at hadded
        split at hadded
        · exact Or.inl hadded
        · rcases List.mem_append.mp hadded with hold | hnew
          · exact Or.inl hold
          · rw [List.mem_singleton.mp hnew]
            exact Or.inr List.mem_cons_self
      · exact Or.inr (List.mem_cons_of_mem chunk hlater)

/-- A selected chunk is a chunk of a requested file. -/
theorem exists_file_of_mem_select {files : List (String × List Chunk)}
    {requests : List RangeRequest} {c : Chunk} (hc : c ∈ select files requests) :
    ∃ file ∈ files, c ∈ file.2 := by
  unfold select at hc
  rcases mem_of_mem_foldl_addChunk hc with hnil | hfound
  · exact absurd hnil List.not_mem_nil
  · obtain ⟨request, _, hrequest⟩ := List.mem_flatMap.mp hfound
    obtain ⟨range, _, hrange⟩ := List.mem_flatMap.mp hrequest
    have hmem := (List.mem_filter.mp hrange).1
    cases hlookup : files.lookup (Path.normalize request.filePath) with
    | none =>
        rw [hlookup] at hmem
        exact absurd hmem List.not_mem_nil
    | some chunks =>
        rw [hlookup] at hmem
        exact ⟨_, Keyed.mem_of_lookup hlookup, hmem⟩

/-- A chunk that others depend on is a chunk of the corpus. -/
theorem mem_chunks_of_mem_dependents {corpus : Corpus σ} {selected : List Chunk}
    {reached : Reached} {c : Chunk} (hc : c ∈ dependents corpus selected reached) :
    c ∈ corpus.chunks := by
  have hbyId {id : String} (h : byId? corpus.chunks id = some c) : c ∈ corpus.chunks :=
    List.mem_reverse.mp (List.mem_of_find?_eq_some h)
  unfold dependents at hc
  rcases List.mem_append.mp hc with hfound | hsame
  · obtain ⟨id, _, hid⟩ := List.mem_filterMap.mp hfound
    exact hbyId hid
  · unfold sameFile at hsame
    rcases mem_of_mem_foldl_addChunk hsame with hnil | hadded
    · exact absurd hnil List.not_mem_nil
    · obtain ⟨chunk, _, hchunk⟩ := List.mem_flatMap.mp hadded
      obtain ⟨id, _, hid⟩ := List.mem_filterMap.mp hchunk
      exact hbyId (Option.filter_eq_some_iff.mp hid).1

/-! ## The excerpt -/

/-- The log of a run: the requested files under the normal forms of their paths, then the files to
which imports lead under their paths. -/
def logOf (asked found : List String) : List (String × String) :=
  asked.map (fun path => (path, Path.normalize path)) ++ found.map fun path => (path, path)

theorem mem_logOf_iff {asked found : List String} {path key : String} :
    (path, key) ∈ logOf asked found ↔
      path ∈ asked ∧ Path.normalize path = key ∨ path ∈ found ∧ path = key := by
  rw [logOf, List.mem_append, List.mem_map, List.mem_map]
  constructor
  · rintro (⟨other, hother, hsame⟩ | ⟨other, hother, hsame⟩)
    · obtain ⟨rfl, rfl⟩ := Prod.mk.inj hsame
      exact Or.inl ⟨hother, rfl⟩
    · obtain ⟨rfl, rfl⟩ := Prod.mk.inj hsame
      exact Or.inr ⟨hother, rfl⟩
  · rintro (⟨hpath, rfl⟩ | ⟨hpath, rfl⟩)
    · exact Or.inl ⟨path, hpath, rfl⟩
    · exact Or.inr ⟨path, hpath, rfl⟩

theorem map_snd_logOf (asked found : List String) :
    (logOf asked found).map (·.2) = asked.map Path.normalize ++ found := by
  rw [logOf, List.map_append, List.map_map, List.map_map]
  exact congrArg (asked.map Path.normalize ++ ·) (List.map_id found)

/-- The source that the block of a path is put together from, after some requested files and some
files that imports lead to have been read. -/
inductive SourceOf (read : Reader) (asked found : List String) (path : String) : String → Prop
  /-- The text of the file itself, if it was requested or its path is in normal form. -/
  | own {source : String} (hpath : path ∈ asked ∨ Path.normalize path = path)
      (hread : read path = .ok source) : SourceOf read asked found path source
  /-- The text of the same file under another spelling, which was read as well. -/
  | respelled {other source : String} (hfound : path ∈ found) (hne : Path.normalize path ≠ path)
      (hother : other ∈ asked ∧ Path.normalize other = Path.normalize path ∨
        other ∈ found ∧ other = Path.normalize path)
      (hread : read other = .ok source) : SourceOf read asked found path source
  /-- No text at all, if an import leads to the file under a path that is not in normal form and it
  has not been read under another spelling. -/
  | missing (hfound : path ∈ found) (hne : Path.normalize path ≠ path)
      (hasked : ∀ other ∈ asked, Path.normalize other ≠ Path.normalize path)
      (hunread : Path.normalize path ∈ found →
        ∃ failure, read (Path.normalize path) = .error failure) :
      SourceOf read asked found path ""

/-- What the text under the normal form of a path is, if something was read under the path. -/
theorem sourceOf_lookup {corpus : Corpus σ} {asked found : List String}
    (hlog : corpus.ReadFrom read cut (logOf asked found))
    (hasked : ∀ path ∈ asked, ∃ source, read path = .ok source) {path key source : String}
    (hentry : (path, key) ∈ logOf asked found) (hread : read path = .ok source) :
    SourceOf read asked found path ((corpus.sources.lookup (Path.normalize path)).getD "") := by
  by_cases hown : path ∈ asked ∨ Path.normalize path = path
  case pos =>
    have hnormal : (path, Path.normalize path) ∈ logOf asked found := by
      rcases hown with hask | hsame
      · exact mem_logOf_iff.mpr (Or.inl ⟨hask, rfl⟩)
      · rcases mem_logOf_iff.mp hentry with ⟨hask, _⟩ | ⟨hfound, _⟩
        · exact mem_logOf_iff.mpr (Or.inl ⟨hask, rfl⟩)
        · exact mem_logOf_iff.mpr (Or.inr ⟨hfound, hsame.symm⟩)
    rw [hlog.lookup_sources hnormal hread]
    exact .own hown hread
  case neg =>
    obtain ⟨hask, hne⟩ := not_or.mp hown
    have hfound : path ∈ found := by
      rcases mem_logOf_iff.mp hentry with ⟨hmem, _⟩ | ⟨hmem, _⟩
      · exact absurd hmem hask
      · exact hmem
    by_cases hkey : Path.normalize path ∈ corpus.keys
    · -- The file has been read under another spelling, and that text is the one in its place.
      obtain ⟨chunks, hfile⟩ := Corpus.mem_keys_iff.mp hkey
      obtain ⟨other, text, _, _, hother, hotherRead, hlookup, _⟩ := hlog.cut_from _ hfile
      rw [hlookup]
      exact .respelled hfound hne (mem_logOf_iff.mp hother) hotherRead
    · have hnone := hlog.lookup_sources_eq_none hkey
      rw [hnone]
      refine .missing hfound hne ?_ ?_
      · intro other hmem hsame
        obtain ⟨text, htext⟩ := hasked other hmem
        have hthere := hlog.lookup_sources (mem_logOf_iff.mpr (Or.inl ⟨hmem, hsame⟩)) htext
        rw [hnone] at hthere
        exact absurd hthere (by simp)
      · intro hmem
        exact hlog.unreadable _ (mem_logOf_iff.mpr (Or.inr ⟨hmem, rfl⟩)) hkey

/-- Whatever an excerpt is made with, every path that is read is that of a request or one to which
an import leads. No requested file is read twice under any spelling, and no other file under the
same path; if imports lead to paths in normal form only, no file is read twice at all. Each block is
put together from the text of its file, with the exception that `SourceOf.missing` describes; with
plain extensions only index and package files of the directory `.` can be met with in it. -/
theorem reads_once_and_assembles_from (resolver : Resolver) (limits : Limits) (read : Reader)
    (cut : Cutter σ) (requests : List RangeRequest) (state after : σ) (e : Excerpt)
    (hcut : KeepsPath cut)
    (h : extract resolver limits read cut requests state = (.ok e, after)) :
    ∃ asked found,
      (extracting resolver limits cut requests state).reads read = asked ++ found ∧
        (∀ path ∈ asked, ∃ request ∈ requests, request.filePath = path) ∧
        (∀ path ∈ found, ∃ file specifier, resolver.resolve? file specifier = some path) ∧
        (asked.map Path.normalize ++ found).Nodup ∧
        ((∀ path ∈ found, Path.normalize path = path) →
          ((asked ++ found).map Path.normalize).Nodup) ∧
        (∀ c ∈ e.all, c.filePath ∈ asked ++ found ∧ ∃ source,
          SourceOf read asked found c.filePath source ∧
            IsBlock e limits.maxGap c.filePath source) ∧
        ((∀ ext ∈ resolver.extensions, Path.Plain ext.toList) → ∀ path ∈ found,
          Path.normalize path = path ∨
            ∃ name ∈ Resolve.entryFiles resolver.extensions, path = "./" ++ name) := by
  obtain ⟨start, final, reached, hcomes, hcollect⟩ := exists_comesTo h
  obtain ⟨hselected, hdependent, _, hblocks⟩ := collect_eq_ok hcollect
  obtain ⟨hlogStart, hasked⟩ :=
    readFrom_requested (Corpus.ReadFrom.empty read cut state) rfl hcomes.requested
  obtain ⟨hlog, hfound⟩ := readFrom_follow hlogStart hcomes.followed
  rw [List.nil_append] at hlogStart hlog
  have hsplit : final.ReadFrom read cut (logOf ((requesting cut requests { state }).reads read)
      ((following resolver limits cut ((select start.files requests).map (·.id))
        start).reads read)) := hlog
  have hnodup := hsplit.nodup
  rw [map_snd_logOf] at hnodup
  refine ⟨(requesting cut requests { state }).reads read,
    (following resolver limits cut ((select start.files requests).map (·.id)) start).reads read,
    ?reads, fun path hpath => (hasked path hpath).1, hfound, hnodup, ?normal, ?blocks, ?plain⟩
  case reads =>
    unfold extracting
    rw [Asking.reads_bind, run_requesting, hcomes.requested]
    show _ ++ (completing resolver limits cut requests start).reads read = _
    unfold completing
    simp only
    rw [Asking.reads_bind, Asking.reads_done, List.append_nil]
  case normal =>
    intro hnormal
    rw [List.map_append, List.map_congr_left hnormal, List.map_id']
    exact hnodup
  case blocks =>
    intro c hc
    have hentry : ∃ key source, (c.filePath, key) ∈
        logOf ((requesting cut requests { state }).reads read)
          ((following resolver limits cut ((select start.files requests).map (·.id))
            start).reads read) ∧ read c.filePath = .ok source := by
      rcases List.mem_append.mp hc with hsel | hdep
      · rw [hselected] at hsel
        obtain ⟨file, hfile, hmem⟩ := exists_file_of_mem_select hsel
        obtain ⟨key, source, hkey, hread⟩ := exists_entry_of_mem hcut hlogStart hfile hmem
        exact ⟨key, source, List.mem_append_left _ hkey, hread⟩
      · rw [hdependent] at hdep
        obtain ⟨file, hfile, hmem⟩ := List.mem_flatMap.mp (mem_chunks_of_mem_dependents hdep)
        exact exists_entry_of_mem hcut hsplit hfile hmem
    obtain ⟨key, source, hkey, hread⟩ := hentry
    refine ⟨?_, _, sourceOf_lookup hsplit (fun path hpath => (hasked path hpath).2) hkey hread,
      isBlock_of_blocks_eq hblocks c.filePath⟩
    rcases mem_logOf_iff.mp hkey with ⟨hask, _⟩ | ⟨hfind, _⟩
    · exact List.mem_append_left _ hask
    · exact List.mem_append_right _ hfind
  case plain =>
    intro hplain path hpath
    obtain ⟨file, specifier, hresolve⟩ := hfound path hpath
    exact Resolver.normalize_of_resolve? hplain hresolve

/-! ## One file under two paths, and another that is found -/

/-- The texts of the two files that import each other. -/
def circleTexts : Reader := fun path => .ok (if path == "b.ts" then "g\nh" else "f")

/-- The chunks of the excerpt, the selected one first. -/
def circleChunks : List Chunk :=
  [lineChunk "f" "./a.ts" 1 [{ name := "g", source := "./b" }],
    lineChunk "g" "b.ts" 1 [{ name := "h", source := "", kind := .reference }],
    lineChunk "h" "b.ts" 2 [{ name := "f", source := "./a" }]]

theorem keepsPath_cutCircle : KeepsPath cutCircle := by
  intro source path before chunks after h c hc
  unfold cutCircle at h
  split at h
  · obtain rfl := Except.ok.inj (Prod.mk.inj h).1
    rcases List.mem_cons.mp hc with rfl | hc
    · rfl
    · rw [List.mem_singleton.mp hc]
      rfl
  · obtain rfl := Except.ok.inj (Prod.mk.inj h).1
    rw [List.mem_singleton.mp hc]
    rfl

theorem reads_once_and_assembles_from_circle :
    ∃ e after, KeepsPath cutCircle ∧
      extract circleResolver {} circleTexts cutCircle circleRequests () = (.ok e, after) ∧
      e.blocks = [("./a.ts", "f"), ("b.ts", "g\n\nh")] ∧
      ∃ asked found,
        (extracting circleResolver {} cutCircle circleRequests ()).reads circleTexts =
            asked ++ found ∧
          (∀ path ∈ asked, ∃ request ∈ circleRequests, request.filePath = path) ∧
          (∀ path ∈ found, ∃ file specifier,
            circleResolver.resolve? file specifier = some path) ∧
          (asked.map Path.normalize ++ found).Nodup ∧
          ((∀ path ∈ found, Path.normalize path = path) →
            ((asked ++ found).map Path.normalize).Nodup) ∧
          (∀ c ∈ e.all, c.filePath ∈ asked ++ found ∧ ∃ source,
            SourceOf circleTexts asked found c.filePath source ∧
              IsBlock e standardGap c.filePath source) ∧
          ((∀ ext ∈ circleResolver.extensions, Path.Plain ext.toList) → ∀ path ∈ found,
            Path.normalize path = path ∨
              ∃ name ∈ Resolve.entryFiles circleResolver.extensions, path = "./" ++ name) := by
  have hend : (end? circleResolver {} circleTexts cutCircle circleRequests ()).map
      (fun (start, final, reached) =>
        let selected := select start.files circleRequests
        (final.sources, selected ++ dependents final selected reached)) =
      some ([("a.ts", "f"), ("b.ts", "g\nh")], circleChunks) := by decide +kernel
  obtain ⟨⟨start, final, reached⟩, hend, hfound⟩ := Option.map_eq_some_iff.mp hend
  obtain ⟨hsources, hchunks⟩ := Prod.mk.inj hfound
  obtain ⟨e, hrun, he⟩ := exists_extract_of_end? rfl hend
  obtain ⟨hselected, hdependent, _, hblocks⟩ := collect_eq_ok he
  have hall : e.all = circleChunks := by rw [all, hselected, hdependent, hchunks]
  have hinOrder : ∀ file ∈ groupByFile circleChunks,
      file.2.Pairwise fun a b => a.comesFirst b = true := by
    decide +kernel
  rw [hall, hsources, assembleFiles_of_pairwise _ _ hinOrder] at hblocks
  exact ⟨e, (), keepsPath_cutCircle, hrun, hblocks.trans (by decide +kernel),
    reads_once_and_assembles_from circleResolver {} circleTexts cutCircle circleRequests ()
      () e keepsPath_cutCircle hrun⟩

/-! ## The index file of the directory `.` -/

/-- A file that imports from the directory in which it is. -/
def cutEntry : Cutter Unit := fun _ path _ =>
  if path == "main.ts" then
    (.ok [lineChunk "run" path 1 [{ name := "helper", source := "." }]], ())
  else (.ok [lineChunk "helper" path 1 []], ())

/-- The file and the index file of its directory. -/
def entryResolver : Resolver :=
  { fileExists := fun path =>
      Path.normalize path == "main.ts" || Path.normalize path == "index.ts" }

/-- Their texts. -/
def entryTexts : Reader := fun path =>
  .ok (if path == "main.ts" then "export const run = helper;" else "export const helper = 1;")

/-- The import leads to `./index.ts`, and the block of that file is put together from nothing. If
the index file is requested as well, it is read twice. -/
theorem entry_file_has_no_text :
    (∃ e after,
      extract entryResolver {} entryTexts cutEntry [⟨"main.ts", [⟨1, 1⟩]⟩] () = (.ok e, after) ∧
        e.all.map (·.filePath) = ["main.ts", "./index.ts"] ∧
        (extracting entryResolver {} cutEntry [⟨"main.ts", [⟨1, 1⟩]⟩] ()).reads entryTexts =
          ["main.ts", "./index.ts"] ∧
        e.blocks = [("main.ts", "export const run = helper;"), ("./index.ts", "")] ∧
        ¬ ∃ path ∈ ["main.ts", "./index.ts"], Path.normalize path = Path.normalize "./index.ts" ∧
          ∃ source, entryTexts path = .ok source ∧ IsBlock e standardGap "./index.ts" source) ∧
      ∃ e after,
        extract entryResolver {} entryTexts cutEntry
            [⟨"main.ts", [⟨1, 1⟩]⟩, ⟨"index.ts", [⟨1, 1⟩]⟩] () = (.ok e, after) ∧
          (extracting entryResolver {} cutEntry [⟨"main.ts", [⟨1, 1⟩]⟩, ⟨"index.ts", [⟨1, 1⟩]⟩]
            ()).reads entryTexts = ["main.ts", "index.ts", "./index.ts"] ∧
          Path.normalize "./index.ts" = Path.normalize "index.ts" := by
  constructor
  case left =>
    have hresult : (extract entryResolver {} entryTexts cutEntry [⟨"main.ts", [⟨1, 1⟩]⟩]
        ()).1.toOption.map (fun e => (e.all.map (·.filePath), e.blocks,
          assemble (e.fileChunks "./index.ts") "export const helper = 1;" standardGap)) =
        some (["main.ts", "./index.ts"],
          [("main.ts", "export const run = helper;"), ("./index.ts", "")],
          "export const helper = 1;") := by decide +kernel
    have hreads : (extracting entryResolver {} cutEntry [⟨"main.ts", [⟨1, 1⟩]⟩] ()).reads
        entryTexts = ["main.ts", "./index.ts"] := by decide +kernel
    have hother : Path.normalize "main.ts" ≠ Path.normalize "./index.ts" := by decide
    cases hrun : extract entryResolver {} entryTexts cutEntry [⟨"main.ts", [⟨1, 1⟩]⟩] () with
    | mk result after =>
        rw [hrun] at hresult
        cases result with
        | error failure => exact absurd hresult (by simp [Except.toOption])
        | ok e =>
            obtain ⟨hpaths, hrest⟩ := Prod.mk.inj (Option.some.inj hresult)
            obtain ⟨hblocks, htext⟩ := Prod.mk.inj hrest
            refine ⟨e, after, rfl, hpaths, hreads, hblocks, ?_⟩
            rintro ⟨path, hpath, hsame, source, hread, hblock⟩
            rcases List.mem_cons.mp hpath with rfl | hpath
            · exact hother hsame
            · rw [List.mem_singleton.mp hpath] at hread
              obtain rfl := Except.ok.inj hread
              have hmem : (("./index.ts", "") : String × String) ∈ e.blocks := by
                rw [hblocks]
                exact List.mem_cons_of_mem _ List.mem_cons_self
              obtain ⟨first, _, hsame⟩ := (hblock ("./index.ts", "")).mp ⟨hmem, rfl⟩
              have hempty := (Prod.mk.inj hsame).2
              rw [show (if "./index.ts" == "main.ts" then "export const run = helper;"
                else "export const helper = 1;") = "export const helper = 1;" from rfl,
                htext] at hempty
              exact absurd hempty (by decide)
  case right =>
    have hresult : (extract entryResolver {} entryTexts cutEntry
        [⟨"main.ts", [⟨1, 1⟩]⟩, ⟨"index.ts", [⟨1, 1⟩]⟩] ()).1.isOk = true := by decide +kernel
    have hreads : (extracting entryResolver {} cutEntry
        [⟨"main.ts", [⟨1, 1⟩]⟩, ⟨"index.ts", [⟨1, 1⟩]⟩] ()).reads entryTexts =
          ["main.ts", "index.ts", "./index.ts"] := by decide +kernel
    cases hrun : extract entryResolver {} entryTexts cutEntry
        [⟨"main.ts", [⟨1, 1⟩]⟩, ⟨"index.ts", [⟨1, 1⟩]⟩] () with
    | mk result after =>
        rw [hrun] at hresult
        cases result with
        | error failure => exact absurd hresult Bool.false_ne_true
        | ok e => exact ⟨e, after, rfl, hreads, by decide⟩

end Excerpt

end ChunkGraph
