import ChunkGraph.Proofs.Chunker.Cutting
import ChunkGraph.Proofs.FrontEnd.Blocks
import ChunkGraph.Proofs.FrontEnd.Places
import ChunkGraph.Proofs.Text.Lines
import ChunkGraph.Proofs.Text.Utf8

/-!
# Line numbers locate the text

The lines of a chunk are counted in three steps: rows in the bytes of the source
that was parsed, one more because lines are counted from one, and the lines of
the file in front of that source. The text of a chunk is cut out of the same
bytes. Where the nodes of a tree cover whole characters, all of this comes to the
same in characters of the file: the text of a chunk stands behind as many line
feeds as its first line says and ends behind as many as its last line says. Its
column is zero exactly if a row ends in front of it.

## Main definitions

* `Node.Covers` — a node covers whole characters of a text.
* `Tree.StandsIn` — the source of a tree is a part of a file.
* `Chunk.LocatedIn` — the text of a chunk stands in a file on the chunk's lines.
* `Chunk.StandsOn` — where a text stands that is on the chunk's lines.

## Main results

* `Outline.exists_place_of_standsIn`, `Outline.located_of_standsIn` — the chunks
  of a tree that stands in a file.
* `FrontEnd.standsIn_of_parse?` — what a file is parsed to stands in it.
* `Chunker.located_of_chunkCode` — the chunks that a chunker returns.
-/

namespace ChunkGraph

open Number Syntax
open Text (EndsRow lineFeeds)
open Text.Utf8 (Boundary encode)

/-- The node covers whole characters of a text. -/
structure Syntax.Node.Covers (text : List Char) (node : Node) : Prop where
  /-- It does not stop before it starts. -/
  start_le_stop : node.start ≤ node.stop
  /-- It starts between characters. -/
  start : Boundary text node.start
  /-- It stops between characters. -/
  stop : Boundary text node.stop

/-- In an ASCII text nodes cover whole characters if their spans fit together and the root ends with
the text or earlier. -/
theorem Syntax.Node.WellSpanned.everywhere_covers {node : Node} (h : node.WellSpanned)
    {text : List Char} (hascii : text.all (·.toNat < 128) = true)
    (hstop : node.stop ≤ text.length) : node.Everywhere (·.Covers text) := by
  have hboundary {position : Nat} (h : position ≤ text.length) :
      Text.Utf8.Boundary text position :=
    Text.Utf8.boundary_of_ascii
      (fun c hc => of_decide_eq_true (List.all_eq_true.mp hascii c hc)) h
  induction h with
  | @intro node start_le_stop inside _ _ ih =>
      exact .intro
        ⟨start_le_stop, hboundary (Nat.le_trans start_le_stop hstop), hboundary hstop⟩
        fun child hchild => ih child hchild (Nat.le_trans (inside child hchild).2 hstop)

/-- The source of the tree is a part of a file, its offset is the number of lines in front of that
part, and all nodes cover whole characters. -/
def Syntax.Tree.StandsIn (tree : Tree) (code : List Char) : Prop :=
  ∃ front text back, code = front ++ text ++ back ∧ tree.source = encode text ∧
    tree.lineOffset = lineFeeds front ∧
    ∀ root, tree.root = some root → root.Everywhere (·.Covers text)

/-- The text of the chunk is kept and occurs in the file between as many line feeds as the lines of
the chunk say. -/
def Chunk.LocatedIn (code : String) (c : Chunk) : Prop :=
  ∃ content front back, c.content = some content ∧
    code.toList = front ++ content.toList ++ back ∧
    (lineFeeds front : Int) = c.startLine - 1 ∧
    (lineFeeds (front ++ content.toList) : Int) = c.endLine - 1

/-- A text stands in the file behind `front` and in front of `back`, between as many line feeds as
the lines of the chunk say. -/
structure Chunk.StandsOn (c : Chunk) (code : String) (front text back : List Char) : Prop where
  /-- Where it stands. -/
  code_eq : code.toList = front ++ text ++ back
  /-- The line feeds in front of it. -/
  startLine_eq : (lineFeeds front : Int) = c.startLine - 1
  /-- The line feeds up to its end. -/
  endLine_eq : (lineFeeds (front ++ text) : Int) = c.endLine - 1

/-! ## Bytes and characters -/

namespace Syntax

theorem bytesBetween_encode (front part back : List Char) :
    bytesBetween (encode (front ++ part ++ back)) (encode front).length
      (encode (front ++ part)).length = encode part := by
  have hlength : (encode (front ++ part)).length - (encode front).length =
      (encode part).length := by
    rw [Text.Utf8.encode_append, List.length_append]
    omega
  unfold bytesBetween
  rw [hlength, List.append_assoc, Text.Utf8.encode_append, List.drop_left,
    Text.Utf8.encode_append, List.take_left]

theorem row_encode (front back : List Char) :
    (pointIn (encode (front ++ back)) (encode front).length).row = lineFeeds front := by
  show ((encode (front ++ back)).take (encode front).length).count 10 = _
  rw [Text.Utf8.encode_append, List.take_left, Text.Utf8.count_encode]

/-- The column is zero exactly if a row ends in front. -/
theorem column_encode (front back : List Char) :
    (pointIn (encode (front ++ back)) (encode front).length).column = 0 ↔ EndsRow front := by
  show (((encode (front ++ back)).take (encode front).length).reverse.takeWhile
    (· != 10)).length = 0 ↔ _
  rw [Text.Utf8.encode_append, List.take_left]
  rcases List.eq_nil_or_concat front with rfl | ⟨rows, last, rfl⟩
  · exact ⟨fun _ => Or.inl rfl, fun _ => rfl⟩
  · rw [List.concat_eq_append, Text.Utf8.encode_append, List.reverse_append]
    have hlast : encode [last] = String.utf8EncodeChar last := List.append_nil _
    rw [hlast]
    constructor
    · intro h
      have hcount := Text.Utf8.count_encodeChar last
      split at hcount
      · rename_i hfeed
        exact Or.inr ⟨rows, by rw [hfeed]⟩
      · -- The last byte of another character is no line feed.
        cases hbytes : (String.utf8EncodeChar last).reverse with
        | nil => exact absurd (List.reverse_eq_nil_iff.mp hbytes) String.utf8EncodeChar_ne_nil
        | cons byte bytes =>
            have hne : (byte != 10) = true := by
              rw [bne_iff_ne]
              rintro rfl
              refine List.count_eq_zero.mp hcount (List.mem_reverse.mp ?_)
              rw [hbytes]
              exact List.mem_cons_self
            rw [hbytes, List.cons_append, List.takeWhile_cons, if_pos hne] at h
            exact absurd h (Nat.succ_ne_zero _)
    · rintro (hnil | ⟨text, htext⟩)
      · exact absurd hnil (by simp)
      · rw [List.singleton_inj.mp (List.append_inj_right' htext rfl)]
        rfl

end Syntax

/-- The text that a declaration covers is the part of the source between its bytes. -/
theorem Item.exists_slice_of_covers {tree : Tree} {item : Item} {text : List Char}
    (hsource : tree.source = encode text) (hcovers : item.span.node.Covers text) :
    ∃ front back, text = front ++ (item.text tree).toList ++ back ∧
      (encode front).length = item.span.node.start ∧
      (encode (front ++ (item.text tree).toList)).length = item.span.node.stop := by
  obtain ⟨front, part, back, htext, hstart, hstop⟩ :=
    hcovers.start.exists_slice hcovers.stop hcovers.start_le_stop
  have hpart : (item.text tree).toList = part := by
    unfold Item.text Tree.textOf Tree.charsOf Tree.textBetween
    rw [String.toList_ofList, hsource, htext, ← hstart, ← hstop, bytesBetween_encode,
      Text.Utf8.decode_encode]
  rw [hpart]
  exact ⟨front, back, htext, hstart, hstop⟩

/-- The text that a declaration covers is a part of the source, and its place is counted in the
line feeds in front of it and in it. -/
theorem Item.exists_place_of_covers {tree : Tree} {item : Item} {text : List Char}
    (hsource : tree.source = encode text) (hcovers : item.span.node.Covers text) :
    ∃ front back, text = front ++ (item.text tree).toList ++ back ∧
      (item.range tree).start.line = (lineFeeds front : Int) + 1 + (tree.lineOffset : Int) ∧
      (item.range tree).stop.line =
        (lineFeeds (front ++ (item.text tree).toList) : Int) + 1 + (tree.lineOffset : Int) ∧
      ((item.range tree).start.column = 0 ↔ EndsRow front) := by
  obtain ⟨front, back, htext, hstart, hstop⟩ := item.exists_slice_of_covers hsource hcovers
  generalize (item.text tree).toList = part at *
  have hfirst : tree.pointAt item.span.node.start =
      pointIn (encode (front ++ (part ++ back))) (encode front).length := by
    unfold Tree.pointAt
    rw [hsource, htext, ← hstart, List.append_assoc]
  have hlast : tree.pointAt item.span.node.stop =
      pointIn (encode (front ++ part ++ back)) (encode (front ++ part)).length := by
    unfold Tree.pointAt
    rw [hsource, htext, ← hstop]
  refine ⟨front, back, htext, ?_, ?_, ?_⟩
  · show ((tree.pointAt item.span.node.start).row : Int) + 1 + (tree.lineOffset : Int) = _
    rw [hfirst, row_encode]
  · show ((tree.pointAt item.span.node.stop).row : Int) + 1 + (tree.lineOffset : Int) = _
    rw [hlast, row_encode]
  · show ((tree.pointAt item.span.node.start).column : Int) = 0 ↔ EndsRow front
    rw [hfirst, Int.natCast_eq_zero]
    exact column_encode front (part ++ back)

namespace Outline

/-- Every chunk is made of a declaration that has a property which the declarations of the list have
and which passes to their parts. -/
theorem Yields.exists_made {ctx : Context} {parent : Option Chunk} {items : List Item}
    {chunks : List Chunk} (h : Yields ctx parent items chunks) (good : Item → Prop)
    (hpasses : ∀ item parts, good item → PartsOf ctx item parts → ∀ part ∈ parts, good part)
    (hgood : ∀ item ∈ items, good item) :
    ∀ c ∈ chunks, ∃ item container kind facets made members, good item ∧
      ctx.makeChunk? item container kind facets = some made ∧ c = linked made members := by
  induction h with
  | nil => exact fun _ hc => absurd hc List.not_mem_nil
  | @chunk parent item kind facets first parts items members rest _ hmade hparts _ _ ihmembers
      ihrest =>
      have hitem := hgood item List.mem_cons_self
      intro c hc
      rcases List.mem_cons.mp hc with rfl | hc
      · exact ⟨item, parent, kind, facets, first, members, hitem, hmade, rfl⟩
      · rcases List.mem_append.mp hc with hc | hc
        · exact ihmembers (hpasses item parts hitem hparts) c hc
        · exact ihrest (fun other hother => hgood other (List.mem_cons_of_mem item hother)) c hc
  | @parts parent item parts items found rest hparts _ _ ihfound ihrest =>
      have hitem := hgood item List.mem_cons_self
      intro c hc
      rcases List.mem_append.mp hc with hc | hc
      · exact ihfound (hpasses item parts hitem hparts) c hc
      · exact ihrest (fun other hother => hgood other (List.mem_cons_of_mem item hother)) c hc

/-- What holds of all nodes of a tree holds of what its chunks cover. -/
theorem exists_chunkNamed_of_everywhere {ctx : Context} {p : Node → Prop} {root : Cursor}
    (h : root.Everywhere p) :
    ∀ c ∈ outline ctx root, ∃ item container kind name facets members, p item.span.node ∧
      c = linked (ctx.chunkNamed item container kind name facets) members := by
  have hitems := FrontEnd.everywhere_declarations ctx.frontEnd ctx.tree h
  intro c hc
  obtain ⟨item, container, kind, facets, made, members, hitem, hmade, rfl⟩ :=
    (yields_outline ctx root).exists_made (Item.Everywhere p)
      (fun item parts hitem hparts => FrontEnd.everywhere_partsOf hitem hparts) hitems c hc
  obtain ⟨name, _, rfl⟩ := Option.map_eq_some_iff.mp hmade
  exact ⟨item, container, kind, name, facets, members, hitem.span.node.self, rfl⟩

/-- The chunks of a tree that stands in a file have their text on their lines. A chunk of a tree of
the whole file begins in column zero exactly if a row ends in front of it. -/
theorem exists_place_of_standsIn {ctx : Context} {code : String} {root : Cursor}
    (hstands : ctx.tree.StandsIn code.toList) (hroot : ctx.tree.rootCursor? = some root) :
    ∀ c ∈ outline ctx root, ∃ text front back,
      c.content = (if ctx.options.includeContent then some text else none) ∧
        c.StandsOn code front text.toList back ∧
        (ctx.tree.source = encode code.toList → (c.range.start.column = 0 ↔ EndsRow front)) := by
  obtain ⟨front, text, back, hcode, hsource, hoffset, hcovers⟩ := hstands
  obtain ⟨node, hnode, rfl⟩ := Option.map_eq_some_iff.mp hroot
  intro c hc
  obtain ⟨item, _, _, _, _, _, hitem, rfl⟩ :=
    exists_chunkNamed_of_everywhere (.ofRoot (hcovers node hnode)) c hc
  obtain ⟨before, after, htext, hstart, hstop, hcolumn⟩ :=
    item.exists_place_of_covers hsource hitem
  refine ⟨item.text ctx.tree, front ++ before, after ++ back, rfl, ⟨?_, ?_, ?_⟩, fun hwhole => ?_⟩
  · rw [hcode, htext]
    simp only [List.append_assoc]
  · show _ = (item.range ctx.tree).start.line - 1
    rw [hstart, hoffset, Text.lineFeeds_append]
    omega
  · show _ = (item.range ctx.tree).stop.line - 1
    rw [hstop, hoffset, List.append_assoc, Text.lineFeeds_append]
    omega
  · -- The source is the whole file, so nothing stands in front of it.
    have hsame : text = code.toList := by
      rw [← Text.Utf8.decode_encode text, ← hsource, hwhole, Text.Utf8.decode_encode]
    have hlength := congrArg List.length hcode
    rw [← hsame, List.length_append, List.length_append] at hlength
    have hfront : front = [] := List.eq_nil_of_length_eq_zero (by omega)
    rw [hfront]
    exact hcolumn

/-- The chunks of a tree that stands in a file are located in it, if their text is kept. -/
theorem located_of_standsIn {ctx : Context} {code : String} {root : Cursor}
    (hstands : ctx.tree.StandsIn code.toList) (hroot : ctx.tree.rootCursor? = some root)
    (hcontent : ctx.options.includeContent = true) :
    ∀ c ∈ outline ctx root, c.LocatedIn code := by
  intro c hc
  obtain ⟨text, front, back, htext, hplace, _⟩ := exists_place_of_standsIn hstands hroot c hc
  rw [hcontent] at htext
  exact ⟨text, front, back, htext, hplace.code_eq, hplace.startLine_eq, hplace.endLine_eq⟩

end Outline

/-! ## Parsed files -/

namespace FrontEnd

/-- The part of a file that is parsed: the script of a component, and all of any other file. -/
def parsedText? (frontEnd : FrontEnd) (code : String) : Option String :=
  match frontEnd with
  | .component => (Component.scriptBlock? code).map (·.1)
  | _ => some code

/-- What a file is parsed to stands in it, if the nodes of every tree of its text cover whole
characters. -/
theorem standsIn_of_parse? {parser : Parser} {frontEnd : FrontEnd} {code path : String}
    {tree : Tree} (h : frontEnd.parse? parser code path = some tree)
    (hspans : ∀ text, frontEnd.parsedText? code = some text → ∀ grammar root,
      parser grammar text = some root → root.Everywhere (·.Covers text.toList)) :
    tree.StandsIn code.toList := by
  have hwhole {language : String} {root : Option Node}
      (hcovers : ∀ node, root = some node → node.Everywhere (·.Covers code.toList)) :
      ({ language, source := encode code.toList, root } : Tree).StandsIn code.toList :=
    ⟨[], code.toList, [], (List.append_nil _).symm, rfl, rfl, hcovers⟩
  cases frontEnd with
  | script =>
      obtain ⟨root, hroot, rfl⟩ := Option.map_eq_some_iff.mp h
      exact hwhole fun node hnode => hspans code rfl _ node (hnode ▸ hroot)
  | generic language =>
      change Generic.parse? parser language code = some tree at h
      unfold Generic.parse? at h
      simp only at h
      split at h
      · obtain ⟨root, hroot, rfl⟩ := Option.map_eq_some_iff.mp h
        exact hwhole fun node hnode => hspans code rfl _ node (hnode ▸ hroot)
      · obtain rfl := Option.some.inj h
        exact hwhole fun node hnode => absurd hnode (by simp)
  | component =>
      have hnone : ({ language := "vue", source := [] } : Tree).StandsIn code.toList :=
        ⟨[], [], code.toList, rfl, rfl, rfl, fun node hnode => absurd hnode (by simp)⟩
      change Component.parse? parser code = some tree at h
      unfold Component.parse? at h
      split at h
      · rw [← Option.some.inj h]
        exact hnone
      · rename_i script lines grammar hblock
        split at h
        · rw [← Option.some.inj h]
          exact hnone
        · obtain ⟨parsed, hparsed, rfl⟩ := Option.map_eq_some_iff.mp h
          obtain ⟨root, hroot, rfl⟩ := Option.map_eq_some_iff.mp hparsed
          obtain ⟨front, back, hcode, hlines⟩ := Component.scriptBlock?_split hblock
          refine ⟨front, script.toList, back, hcode, rfl, hlines.symm, fun node hnode => ?_⟩
          have htext : FrontEnd.parsedText? .component code = some script := by
            show (Component.scriptBlock? code).map (·.1) = some script
            rw [hblock]
            rfl
          exact hspans script htext grammar node (Option.some.inj hnode ▸ hroot)

/-- What is not a component is parsed as a whole. -/
theorem source_of_parse? {parser : Parser} {frontEnd : FrontEnd} {code path : String} {tree : Tree}
    (h : frontEnd.parse? parser code path = some tree) (hwhole : frontEnd ≠ .component) :
    tree.source = encode code.toList := by
  cases frontEnd with
  | script =>
      obtain ⟨root, _, rfl⟩ := Option.map_eq_some_iff.mp h
      rfl
  | generic language =>
      change Generic.parse? parser language code = some tree at h
      unfold Generic.parse? at h
      simp only at h
      split at h
      · obtain ⟨root, _, rfl⟩ := Option.map_eq_some_iff.mp h
        rfl
      · obtain rfl := Option.some.inj h
        rfl
  | component => exact absurd rfl hwhole

end FrontEnd

namespace Chunker

/-- The chunks that a new chunker returns are located in the file, in every language: their text is
kept and nothing is merged. In a component they are located in the whole file and not in the script
alone. -/
theorem located_of_chunkCode (parser : Parser) (now : Quantity) (encoding : Encoding)
    (options : Options) (rules : List Rule) (registry : Registry) (made c : Chunker)
    (source : SourceText) (path : String) (given : Option Options) (chunks : List Chunk)
    (hmade : create encoding options rules = .ok made) (hc : c = { made with registry })
    (hspans : ∀ text, (c.frontEndOf path).parsedText? source.text = some text → ∀ grammar root,
      parser grammar text = some root → root.Everywhere (·.Covers text.toList))
    (hmerge : (given.getD c.options).mergeSmall = false)
    (hcontent : (given.getD c.options).includeContent = true)
    (hchunks : (c.chunkCode parser now source path given).1 = .ok chunks) :
    ∀ chunk ∈ chunks, chunk.LocatedIn source.text := by
  obtain ⟨htrees, hshelves⟩ : c.trees.entries = [] ∧ c.pool.shelves = [] := by
    obtain ⟨hentries, hnone⟩ := entries_of_create hmade
    rw [hc]
    exact ⟨hentries, hnone⟩
  rw [chunkCode_of_empty htrees hshelves] at hchunks
  split at hchunks
  · exact absurd hchunks (by simp)
  · intro chunk hchunk
    obtain ⟨tree, root, tokenizer, htree, hroot, _, _, hfinish⟩ :=
      exists_outline_of_mem hchunks hchunk
    rw [finish_of_unmerged hmerge] at hfinish
    obtain rfl := Except.ok.inj hfinish
    obtain ⟨code, rfl, hparse⟩ := treeOf_eq_some htree
    have hstands := FrontEnd.standsIn_of_parse? hparse hspans
    exact Outline.located_of_standsIn hstands hroot hcontent chunk hchunk

/-- The options that keep the text of chunks and do not merge. -/
def keepingOptions : Options := { mergeSmall := false, includeContent := true }

/-- A script with a character of several bytes, and the function behind it. -/
def umlautScript : String := "function ä() \x7b\n\x7d\nfunction g() \x7b\x7d\n"

/-- A component with that script, which begins on the line of its tag, and with another such
character in front of it. -/
def umlautComponent : String := "<p>é</p>\n<script>" ++ umlautScript ++ "</script>\n"

/-- The syntax tree of that script. -/
def umlautProgram : Node :=
  .mk "program" true "" 0 34
    [.mk "function_declaration" true "" 0 17 [.mk "identifier" true "name" 9 11 []],
     .mk "function_declaration" true "" 18 33 [.mk "identifier" true "name" 27 28 []]]

/-- What that component is parsed to. -/
def umlautTree : Tree :=
  { language := "vue", source := encode umlautScript.toList, root := some umlautProgram
    lineOffset := 1 }

/-- What the rules are told about it by a new chunker that does not merge. -/
def umlautContext : Outline.Context :=
  contextOf {} .component umlautTree "a.vue" keepingOptions .estimate
    (.ofRoot umlautProgram)

theorem scriptBlock?_umlautComponent :
    Component.scriptBlock? umlautComponent = some (umlautScript, 1, "typescript") := by
  decide

theorem outline_umlautContext :
    Outline.outline umlautContext (.ofRoot umlautProgram) =
      ((Cursor.ofRoot umlautProgram).namedChildren.map fun c => (⟨c, none⟩ : Item)).flatMap
        (Outline.declarationChunks umlautContext) := by
  rw [← Script.declarationsIn_of_declarations (by decide)]
  rfl

theorem everywhere_covers_umlautProgram :
    umlautProgram.Everywhere (·.Covers umlautScript.toList) := by
  have hcovers {node : Node} (first last : Nat) (hle : node.start ≤ node.stop)
      (hstart : (encode (umlautScript.toList.take first)).length = node.start)
      (hstop : (encode (umlautScript.toList.take last)).length = node.stop) :
      node.Covers umlautScript.toList :=
    ⟨hle, ⟨_, _, (List.take_append_drop first _).symm, hstart⟩,
      ⟨_, _, (List.take_append_drop last _).symm, hstop⟩⟩
  have hleaf {kind field : String} {start stop : Nat}
      (h : (Node.mk kind true field start stop []).Covers umlautScript.toList) :
      (Node.mk kind true field start stop []).Everywhere (·.Covers umlautScript.toList) :=
    .intro h fun _ hchild => absurd hchild List.not_mem_nil
  refine .intro (hcovers 0 33 (by decide) (by decide) (by decide)) fun statement hstatement => ?_
  rcases List.mem_cons.mp hstatement with rfl | hstatement
  · refine .intro (hcovers 0 16 (by decide) (by decide) (by decide)) fun name hname => ?_
    rw [List.mem_singleton.mp hname]
    exact hleaf (hcovers 9 10 (by decide) (by decide) (by decide))
  · rw [List.mem_singleton.mp hstatement]
    refine .intro (hcovers 17 32 (by decide) (by decide) (by decide)) fun name hname => ?_
    rw [List.mem_singleton.mp hname]
    exact hleaf (hcovers 26 27 (by decide) (by decide) (by decide))

theorem located_of_chunkCode_umlaut :
    ∃ chunks, (chunkCode (fun _ _ => some umlautProgram) (.whole 0) {} umlautComponent "a.vue"
        (some keepingOptions)).1 = .ok chunks ∧
      chunks.map (fun c => (c.content, c.startLine, c.endLine)) =
        [(some "function ä() \x7b\n\x7d", 2, 3), (some "function g() \x7b\x7d", 4, 4)] ∧
      umlautProgram.Everywhere (·.Covers umlautScript.toList) ∧
      ∀ chunk ∈ chunks, chunk.LocatedIn umlautComponent := by
  have hmade : create .unavailable {} Rule.all = .ok {} := rfl
  have htree : ({} : Chunker).treeOf (fun _ _ => some umlautProgram) umlautComponent "a.vue" =
      some umlautTree := by
    show Component.parse? (fun _ _ => some umlautProgram) umlautComponent = some umlautTree
    unfold Component.parse?
    rw [scriptBlock?_umlautComponent]
    rfl
  have hroot : umlautTree.rootCursor? = some (.ofRoot umlautProgram) := rfl
  have htokenizer : ({} : Chunker).tokenizerFor? keepingOptions = some .estimate := rfl
  have hcounted : (Outline.outline umlautContext (.ofRoot umlautProgram)).all
      (·.tokenCount.isSome) = true := by
    rw [outline_umlautContext]
    decide
  have hrun : (chunkCode (fun _ _ => some umlautProgram) (.whole 0) {} umlautComponent "a.vue"
      (some keepingOptions)).1 =
        .ok (Outline.outline umlautContext (.ofRoot umlautProgram)) :=
    chunkCode_eq_finish hmade rfl rfl (.whole 0) htree hroot htokenizer hcounted
  refine ⟨_, hrun, ?_, everywhere_covers_umlautProgram, ?_⟩
  · rw [outline_umlautContext]
    decide
  · refine located_of_chunkCode (fun _ _ => some umlautProgram) (.whole 0) .unavailable {} Rule.all
      .standard {} {} umlautComponent "a.vue" (some keepingOptions) _ hmade rfl ?_ rfl rfl hrun
    intro text htext grammar root hparse
    have hblock : (Component.scriptBlock? umlautComponent).map (·.1) = some text := htext
    rw [scriptBlock?_umlautComponent] at hblock
    rw [← Option.some.inj hblock, ← Option.some.inj hparse]
    exact everywhere_covers_umlautProgram

end Chunker

end ChunkGraph
