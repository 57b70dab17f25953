import ChunkGraph.Proofs.Chunker.Cutting
import ChunkGraph.Proofs.Data.Partial
import ChunkGraph.Proofs.Outline.Insertion

/-!
# Identities across an edit

When one more declaration is inserted at the top level of a script, each of the
others is cut into the same chunks as before, with the same identities. So
without merging every identity is still there. Merging goes by neighbours and
sizes, and there an insertion may let a small chunk be folded into another one,
which then speaks for it: an exported constant in front of another exported
constant takes it over. This can happen only in an unbroken run of small chunks
behind the insertion, and to no other chunk. Apart from that, identities are lost
only with all chunks of the file, where a chunk of the insertion cannot be
counted.

## Main definitions

* `Chunker.scriptContext` — what the rules are told about a script.
* `Chunker.FoldedBehind` — how an identity can be taken over.

## Main results

* `Chunker.id_kept_or_folded` — what an insertion does to the identities of a
  script.
* `Chunker.insertion_loses_id` — an identity that is taken over, and a file left
  without chunks.
-/

namespace ChunkGraph

open Number Syntax

/-- What a script with a given root is parsed to. -/
def Script.treeFor (grammar code : String) (root : Node) : Tree :=
  { language := if grammar == "javascript" then "javascript" else "typescript"
    source := Text.Utf8.encode code.toList
    root := some root }

namespace Chunker

/-- What the rules are told about a script with a given root. -/
def scriptContext (c : Chunker) (code path : String) (options : Options) (tokenizer : Tokenizer)
    (root : Node) : Outline.Context :=
  c.contextOf .script (Script.treeFor (FrontEnd.grammarForPath path) code root) path options
    tokenizer (.ofRoot root)

/-- The chunk of an identity is folded into one of the `merged` chunks. The chunks `behind` an
insertion begin with a run of small chunks at the top level, which need not stand on their own, and
it is the last one of that run. -/
def FoldedBehind (options : Options) (source : String) (before behind merged : List Chunk)
    (id : String) : Prop :=
  ∃ run folded rest, behind = run ++ folded :: rest ∧ folded.id = id ∧
    (∀ other ∈ run ++ [folded], Foldable options none other) ∧
    ∃ holder ∈ groups options (some source) (before ++ behind),
      folded ∈ holder.tail ∧ holder.merged ∈ merged

/-- What an insertion does to the chunks of a file, given those of its statements. -/
theorem kept_or_folded_of_finish {options : Options} {code edited : String}
    {earlier earlier' added later later' : List Chunk}
    (hearlier : List.Forall₂ Chunk.Alike earlier earlier')
    (hlater : List.Forall₂ Chunk.Alike later later')
    (hcounted : (earlier ++ later).all (·.tokenCount.isSome) = true)
    (hparent : ∀ next ∈ later'.head?, next.parentId = none) {chunks chunks' : List Chunk}
    (h : finish options code (earlier ++ later) = .ok chunks)
    (h' : finish options edited (earlier' ++ added ++ later') = .ok chunks') {chunk : Chunk}
    (hchunk : chunk ∈ chunks) :
    (∃ kept ∈ chunks', kept.id = chunk.id) ∨
      options.mergeSmall = true ∧
        FoldedBehind options edited (earlier' ++ added) later' chunks' chunk.id := by
  rcases finish_eq_ok h with ⟨hmerge, rfl⟩ | ⟨hmerge, rfl⟩
  · rw [finish_of_unmerged hmerge] at h'
    obtain rfl := Except.ok.inj h'
    rcases List.mem_append.mp hchunk with hchunk | hchunk
    · obtain ⟨kept, hkept, hlike⟩ := rel_mem hearlier hchunk
      exact Or.inl ⟨kept, List.mem_append_left _ (List.mem_append_left _ hkept),
        hlike.id_eq.symm⟩
    · obtain ⟨kept, hkept, hlike⟩ := rel_mem hlater hchunk
      exact Or.inl ⟨kept, List.mem_append_right _ hkept, hlike.id_eq.symm⟩
  · obtain rfl : chunks' = mergeSmall options (some edited) (earlier' ++ added ++ later') := by
      rcases finish_eq_ok h' with ⟨hunmerged, _⟩ | ⟨_, hchunks'⟩
      · exact absurd (hmerge.symm.trans hunmerged) (by decide)
      · exact hchunks'
    rw [List.all_eq_true] at hcounted
    have hearlier := rel_mergesLike hearlier fun c hc => hcounted c (List.mem_append_left _ hc)
    have hlater := rel_mergesLike hlater fun c hc => hcounted c (List.mem_append_right _ hc)
    rcases stays_or_folded (some edited) added hearlier hlater hparent hchunk with
      hstays | ⟨run, folded, rest, hsplit, hid, hfoldable, holder, hholder, htail⟩
    · exact Or.inl hstays
    · refine Or.inr ⟨hmerge, run, folded, rest, hsplit, hid, hfoldable, holder, hholder, htail, ?_⟩
      rw [← map_merged_groups]
      exact List.mem_map_of_mem hholder

section Scripts

variable {parser : Parser} {c : Chunker} {code path : String} {root : Node}

/-- The tree of a script, unless none can be kept. -/
theorem treeOf_script (hscript : c.frontEndOf path = .script)
    (hparse : parser (FrontEnd.grammarForPath path) code = some root) :
    c.treeOf parser code path =
      if (c.trees.capacity.fault? ">=" Bound.countType).isSome then none
      else some (Script.treeFor (FrontEnd.grammarForPath path) code root) := by
  unfold treeOf parsedWith
  rw [hscript]
  show (if _ then none else Script.parse? parser (FrontEnd.grammarForPath path) code 0) = _
  unfold Script.parse?
  rw [hparse]
  rfl

/-- A script that has a chunk is cut with a known way of counting, which counts all of it. -/
theorem outline_of_script (hscript : c.frontEndOf path = .script)
    (hparse : parser (FrontEnd.grammarForPath path) code = some root) {options : Options}
    {chunks : List Chunk} {chunk : Chunk}
    (h : c.chunksOf (c.frontEndOf path) (c.treeOf parser code path) code path options =
      .ok chunks) (hchunk : chunk ∈ chunks) :
    (c.trees.capacity.fault? ">=" Bound.countType).isSome = false ∧
      ∃ tokenizer, c.tokenizerFor? options = some tokenizer ∧
        (Outline.outline (c.scriptContext code path options tokenizer root) (.ofRoot root)).all
          (·.tokenCount.isSome) = true ∧
        finish options code
          (Outline.outline (c.scriptContext code path options tokenizer root) (.ofRoot root)) =
            .ok chunks := by
  obtain ⟨tree, place, tokenizer, htree, hroot, htokenizer, hcounted, hfinish⟩ :=
    exists_outline_of_mem h hchunk
  rw [treeOf_script hscript hparse] at htree
  split at htree
  · exact absurd htree (by simp)
  · rename_i hcapacity
    obtain rfl := Option.some.inj htree
    obtain rfl : Cursor.ofRoot root = place := Option.some.inj hroot
    rw [hscript] at hcounted hfinish
    exact ⟨Bool.eq_false_iff.mpr hcapacity, tokenizer, htokenizer, hcounted, hfinish⟩

/-- Before and behind an insertion, the chunks of a script are alike those without it. -/
theorem rel_chunksAt_script (c : Chunker) (path : String) (options : Options)
    (tokenizer : Tokenizer) {edited : String} {editedRoot : Node}
    (e : Insertion code edited root editedRoot)
    (hplace : Script.statementExports
      (Script.treeFor (FrontEnd.grammarForPath path) edited editedRoot) e.place = []) :
    List.Forall₂ Chunk.Alike
        (Outline.chunksAt (c.scriptContext code path options tokenizer root) e.oldEarlier)
        (Outline.chunksAt (c.scriptContext edited path options tokenizer editedRoot)
          e.newEarlier) ∧
      List.Forall₂ Chunk.Alike
        (Outline.chunksAt (c.scriptContext code path options tokenizer root) e.oldLater)
        (Outline.chunksAt (c.scriptContext edited path options tokenizer editedRoot)
          e.newLater) := by
  let ctx := c.scriptContext code path options tokenizer root
  have hexports : Script.exportTable ctx.tree = Script.exportTable
      (Script.treeFor (FrontEnd.grammarForPath path) edited editedRoot) := by
    show Script.localExports ctx.tree = _
    exact Outline.localExports_eq e rfl rfl rfl rfl hplace
  have hscript : ctx.frontEnd = .script := rfl
  exact ⟨Outline.rel_chunksAt _ hscript hexports (e.earlier_alike rfl rfl),
    Outline.rel_chunksAt _ hscript hexports (e.later_alike rfl rfl)⟩

end Scripts

/-- Whatever declaration is inserted at the top level of a script, each identity of a chunk is still
there. It may be the identity of a merged chunk that is now folded into another one; then only small
chunks stand between the insertion and it. There is a result unless a bound of merging is no number,
and it has chunks unless the encoding refuses the text of a chunk of the insertion. -/
theorem id_kept_or_folded {parser : Parser} {encoding : Encoding} {options : Options}
    {rules : List Rule} {registry : Registry} {made c : Chunker}
    (hmade : create encoding options rules = .ok made) (hc : c = { made with registry })
    (now later : Quantity) {code edited path : String} (given : Option Options)
    {root editedRoot : Node} (hscript : c.frontEndOf path = .script)
    (hparse : parser (FrontEnd.grammarForPath path) code = some root)
    (hedited : parser (FrontEnd.grammarForPath path) edited = some editedRoot)
    (e : Insertion code edited root editedRoot)
    (hplace : Script.statementExports
      (Script.treeFor (FrontEnd.grammarForPath path) edited editedRoot) e.place = [])
    {chunks : List Chunk} (hrun : (c.chunkCode parser now code path given).1 = .ok chunks) :
    (∀ chunks', (c.chunkCode parser later edited path given).1 = .ok chunks' →
      (∀ chunk ∈ chunks, (∃ kept ∈ chunks', kept.id = chunk.id) ∨
        (given.getD c.options).mergeSmall = true ∧
          ∃ tokenizer, c.tokenizerFor? (given.getD c.options) = some tokenizer ∧
            FoldedBehind (given.getD c.options) edited
              (Outline.chunksAt
                (c.scriptContext edited path (given.getD c.options) tokenizer editedRoot)
                (e.newEarlier ++ [e.place]))
              (Outline.chunksAt
                (c.scriptContext edited path (given.getD c.options) tokenizer editedRoot)
                e.newLater)
              chunks' chunk.id) ∨
        chunks' = [] ∧
          ∃ tokenizer, c.tokenizerFor? (given.getD c.options) = some tokenizer ∧
            ∃ refused ∈ Outline.chunksAt
              (c.scriptContext edited path (given.getD c.options) tokenizer editedRoot) [e.place],
              refused.tokenCount = none) ∧
    (((given.getD c.options).mergeSmall = true →
        (given.getD c.options).minChunkSize.isNumber = true ∧
          (given.getD c.options).chunkSize.isNumber = true) →
      ∃ chunks', (c.chunkCode parser later edited path given).1 = .ok chunks') := by
  rw [chunkCode_of_create hmade hc] at hrun ⊢
  generalize given.getD c.options = used at hrun ⊢
  cases hpool : c.pool.releaseFault? with
  | some failure =>
      rw [hpool] at hrun
      exact absurd hrun (by simp)
  | none =>
      rw [hpool] at hrun
      refine ⟨fun chunks' hrun' => ?_, fun hbounds => exists_chunksOf_eq_ok c (c.frontEndOf path)
        (c.treeOf parser edited path) edited path hbounds⟩
      -- An original without chunks has nothing to lose, be it that they cannot be counted.
      rcases chunks with _ | ⟨first, others⟩
      · exact Or.inl fun chunk hchunk => absurd hchunk List.not_mem_nil
      obtain ⟨hcapacity, tokenizer, htokenizer, hcountedOld, hfinish⟩ :=
        outline_of_script hscript hparse hrun List.mem_cons_self
      obtain ⟨hearlier, hlater⟩ := rel_chunksAt_script c path used tokenizer e hplace
      rw [Outline.outline_root e rfl] at hcountedOld hfinish
      rw [treeOf_script hscript hedited, hcapacity, if_neg Bool.false_ne_true, hscript] at hrun'
      have hcountedNew : (Outline.outline
          (c.scriptContext edited path used tokenizer editedRoot) (.ofRoot editedRoot)).all
            (·.tokenCount.isSome) =
          (Outline.chunksAt (c.scriptContext edited path used tokenizer editedRoot)
            [e.place]).all (·.tokenCount.isSome) := by
        have hsides := hcountedOld
        rw [List.all_append, counted_of_alike hearlier, counted_of_alike hlater,
          Bool.and_eq_true] at hsides
        rw [Outline.outline_editedRoot e rfl, List.all_append, List.all_append, hsides.1,
          hsides.2, Bool.true_and, Bool.and_true]
      cases hcounted : (Outline.chunksAt
          (c.scriptContext edited path used tokenizer editedRoot) [e.place]).all
            (·.tokenCount.isSome) with
      | false =>
          rw [hcounted] at hcountedNew
          obtain ⟨refused, hrefused, hnone⟩ := List.all_eq_false.mp hcounted
          rw [chunksOf_of_uncounted rfl htokenizer hcountedNew] at hrun'
          exact Or.inr ⟨(Except.ok.inj hrun').symm, tokenizer, htokenizer, refused, hrefused,
            Option.not_isSome_iff_eq_none.mp hnone⟩
      | true =>
          rw [hcounted] at hcountedNew
          have hfinish' : finish used edited (Outline.outline
              (c.scriptContext edited path used tokenizer editedRoot) (.ofRoot editedRoot)) =
                .ok chunks' := by
            rw [chunksOf_of_counted rfl htokenizer hcountedNew] at hrun'
            exact hrun'
          rw [Outline.outline_editedRoot e rfl] at hfinish'
          refine Or.inl fun chunk hchunk => ?_
          rcases kept_or_folded_of_finish hearlier hlater hcountedOld
            (Outline.parentId_of_head_chunksAt _ _) hfinish hfinish' hchunk with
            hkept | ⟨hmerge, hfolded⟩
          · exact Or.inl hkept
          · rw [← Outline.chunksAt_append] at hfolded
            exact Or.inr ⟨hmerge, tokenizer, htokenizer, hfolded⟩

/-! ## An edit -/

/-- An exported class, and an exported constant behind it. -/
def classAndConstant : String := "export class C \x7b\x7d\nexport const A = 1;\n"

/-- Another exported constant between the two. -/
def classAndConstants : String :=
  "export class C \x7b\x7d\nexport const Z = 0;\nexport const A = 1;\n"

/-- The class. -/
def classStatement : Node :=
  .mk "export_statement" true "" 0 17
    [.mk "export" false "" 0 6 [],
     .mk "class_declaration" true "declaration" 7 17
      [.mk "class" false "" 7 12 [], .mk "type_identifier" true "name" 13 14 [],
       .mk "class_body" true "body" 15 17
        [.mk "\x7b" false "" 15 16 [], .mk "\x7d" false "" 16 17 []]]]

/-- A constant behind a number of bytes. -/
def constantStatement (start : Nat) : Node :=
  .mk "export_statement" true "" start (start + 19)
    [.mk "export" false "" start (start + 6) [],
     .mk "lexical_declaration" true "declaration" (start + 7) (start + 19)
      [.mk "const" false "kind" (start + 7) (start + 12) [],
       .mk "variable_declarator" true "" (start + 13) (start + 18)
        [.mk "identifier" true "name" (start + 13) (start + 14) [],
         .mk "=" false "" (start + 15) (start + 16) [],
         .mk "number" true "value" (start + 17) (start + 18) []],
       .mk ";" false "" (start + 18) (start + 19) []]]

/-- The syntax tree of the class and the constant. -/
def classAndConstantProgram : Node :=
  .mk "program" true "" 0 38 [classStatement, constantStatement 18]

/-- The same with the other constant. -/
def classAndConstantsProgram : Node :=
  .mk "program" true "" 0 58 [classStatement, constantStatement 18, constantStatement 38]

/-- The other constant is inserted. -/
def constantInsertion :
    Insertion classAndConstant classAndConstants classAndConstantProgram
      classAndConstantsProgram where
  front := "export class C \x7b\x7d\n"
  added := "export const Z = 0;\n"
  back := "export const A = 1;\n"
  earlier := [classStatement]
  statement := constantStatement 18
  later := [constantStatement 18]
  code_eq := by decide
  edited_eq := by decide
  kind_eq := rfl
  children_eq := rfl
  edited_children_eq := rfl
  earlier_stop := by
    intro node hnode
    rw [List.mem_singleton.mp hnode]
    exact (Node.wellSpanned_of_spansFit classStatement (by decide)).everywhere_stop_le (by decide)
  later_start := by
    intro node hnode
    rw [List.mem_singleton.mp hnode]
    exact (Node.wellSpanned_of_spansFit (constantStatement 18)
      (by decide)).everywhere_le_start (by decide)

/-- Parses the two sources. -/
def constantsParser : Parser := fun _ code =>
  some (if code == classAndConstant then classAndConstantProgram else classAndConstantsProgram)

theorem constantsParser_classAndConstant :
    constantsParser "typescript" classAndConstant = some classAndConstantProgram :=
  congrArg some (if_pos (by decide))

theorem constantsParser_classAndConstants :
    constantsParser "typescript" classAndConstants = some classAndConstantsProgram :=
  congrArg some (if_neg (by decide))

/-- The chunks of a file in which every statement exports a declaration, by a new chunker. -/
theorem chunkCode_of_exports {code : String} {root : Node}
    (hparse : constantsParser "typescript" code = some root)
    (hexports : ∀ place ∈ (Cursor.ofRoot root).namedChildren, place.kind = "export_statement" ∧
      (place.child? "declaration").any (Script.declarationKinds.contains ·.kind) = true) :
    (chunkCode constantsParser (.whole 0) {} code "a.ts" none).1 =
      .ok (mergeSmall {} (some code) (((Cursor.ofRoot root).namedChildren.map fun place =>
        (⟨(place.child? "declaration").getD place, some place⟩ : Item)).flatMap
          (Outline.declarationChunks (scriptContext {} code "a.ts" {} .estimate root)))) := by
  have htree : ({} : Chunker).treeOf constantsParser code "a.ts" =
      some (Script.treeFor "typescript" code root) :=
    treeOf_script rfl hparse
  have hmade : create .unavailable {} Rule.all = .ok {} := rfl
  have hroot : (Script.treeFor "typescript" code root).rootCursor? = some (.ofRoot root) := rfl
  have htokenizer : ({} : Chunker).tokenizerFor? {} = some .estimate := rfl
  have hcounted : (Outline.outline (scriptContext {} code "a.ts" {} .estimate root)
      (.ofRoot root)).all (·.tokenCount.isSome) = true :=
    (Outline.yields_outline _ (.ofRoot root)).counted rfl
  have hrun : (chunkCode constantsParser (.whole 0) {} code "a.ts" none).1 = finish {} code
      (Outline.outline (scriptContext {} code "a.ts" {} .estimate root) (.ofRoot root)) :=
    chunkCode_eq_finish hmade rfl rfl (.whole 0) htree hroot htokenizer hcounted
  rw [hrun, finish_of_merged rfl rfl rfl, ← Script.declarationsIn_of_exports hexports]
  rfl

theorem id_kept_or_folded_constant :
    Script.statementExports (Script.treeFor "typescript" classAndConstants
        classAndConstantsProgram) constantInsertion.place = [] ∧
    ∃ chunks,
      (chunkCode constantsParser (.whole 0) {} classAndConstant "a.ts" none).1 = .ok chunks ∧
      chunks.map (·.qualifiedName) = ["C", "A"] ∧
      (∀ chunks', (chunkCode constantsParser (.whole 1) {} classAndConstants "a.ts" none).1 =
          .ok chunks' →
        (∀ chunk ∈ chunks, (∃ kept ∈ chunks', kept.id = chunk.id) ∨
          ({} : Options).mergeSmall = true ∧
            ∃ tokenizer, ({} : Chunker).tokenizerFor? {} = some tokenizer ∧
              FoldedBehind {} classAndConstants
                (Outline.chunksAt
                  (scriptContext {} classAndConstants "a.ts" {} tokenizer classAndConstantsProgram)
                  (constantInsertion.newEarlier ++ [constantInsertion.place]))
                (Outline.chunksAt
                  (scriptContext {} classAndConstants "a.ts" {} tokenizer classAndConstantsProgram)
                  constantInsertion.newLater)
                chunks' chunk.id) ∨
          chunks' = [] ∧ ∃ tokenizer, ({} : Chunker).tokenizerFor? {} = some tokenizer ∧
            ∃ refused ∈ Outline.chunksAt
              (scriptContext {} classAndConstants "a.ts" {} tokenizer classAndConstantsProgram)
              [constantInsertion.place], refused.tokenCount = none) ∧
      ((({} : Options).mergeSmall = true → ({} : Options).minChunkSize.isNumber = true ∧
          ({} : Options).chunkSize.isNumber = true) →
        ∃ chunks', (chunkCode constantsParser (.whole 1) {} classAndConstants "a.ts" none).1 =
          .ok chunks') := by
  have hmade : create .unavailable {} Rule.all = .ok {} := rfl
  have hscript : ({} : Chunker).frontEndOf "a.ts" = .script := rfl
  have hplace : Script.statementExports (Script.treeFor "typescript" classAndConstants
      classAndConstantsProgram) constantInsertion.place = [] := rfl
  have hrun := chunkCode_of_exports constantsParser_classAndConstant (by decide)
  exact ⟨hplace, _, hrun, by decide +kernel, id_kept_or_folded hmade rfl (.whole 0) (.whole 1) none
    hscript constantsParser_classAndConstant constantsParser_classAndConstants constantInsertion
    hplace hrun⟩

/-- A function. -/
def functionSource : String := "function f() \x7b\x7d\n"

/-- The same with another function, whose text holds a special token. -/
def functionsSource : String :=
  "function f() \x7b\x7d\nfunction g() \x7b '<|endoftext|>'; \x7d\n"

/-- A function from one byte to another. -/
def functionStatement (start stop : Nat) : Node :=
  .mk "function_declaration" true "" start stop
    [.mk "identifier" true "name" (start + 9) (start + 10) []]

/-- The syntax tree of the function. -/
def functionProgram : Node := .mk "program" true "" 0 16 [functionStatement 0 15]

/-- The same with the other function. -/
def functionsProgram : Node :=
  .mk "program" true "" 0 50 [functionStatement 0 15, functionStatement 16 49]

/-- The other function is inserted. -/
def functionInsertion :
    Insertion functionSource functionsSource functionProgram functionsProgram where
  front := functionSource
  added := "function g() \x7b '<|endoftext|>'; \x7d\n"
  back := ""
  earlier := [functionStatement 0 15]
  statement := functionStatement 16 49
  later := []
  code_eq := by decide
  edited_eq := by decide
  kind_eq := rfl
  children_eq := rfl
  edited_children_eq := rfl
  earlier_stop := by
    intro node hnode
    rw [List.mem_singleton.mp hnode]
    exact (Node.wellSpanned_of_spansFit (functionStatement 0 15)
      (by decide)).everywhere_stop_le (by decide)
  later_start := fun _ hnode => absurd hnode List.not_mem_nil

/-- The chunks of one of these sources, by a new chunker that counts with an encoding. -/
def functionChunks (code : String) : Except Failure (List Chunk) :=
  (chunkCode (fun _ text => some (if text == functionSource then functionProgram
    else functionsProgram)) (.whole 0) { encoding := refusesSpecial } code "a.ts"
    (some { tokenizer := "tiktoken" })).1

/-- The class and the constant have a chunk each. With another constant between them, the chunk of
the constant is folded into that of the other one. And a function has a chunk, but no chunk is left
if one that cannot be counted is inserted. -/
theorem insertion_loses_id :
    Nonempty (Insertion classAndConstant classAndConstants classAndConstantProgram
      classAndConstantsProgram) ∧
    (∃ chunks chunks',
      (chunkCode constantsParser (.whole 0) {} classAndConstant "a.ts" none).1 = .ok chunks ∧
      (chunkCode constantsParser (.whole 0) {} classAndConstants "a.ts" none).1 = .ok chunks' ∧
      chunks.map (·.qualifiedName) = ["C", "A"] ∧ chunks'.map (·.qualifiedName) = ["C", "Z"] ∧
      ∃ chunk ∈ chunks, ∀ kept ∈ chunks', kept.id ≠ chunk.id) ∧
    Nonempty (Insertion functionSource functionsSource functionProgram functionsProgram) ∧
    (∃ chunks, functionChunks functionSource = .ok chunks ∧
      chunks.map (·.qualifiedName) = ["f"]) ∧ functionChunks functionsSource = .ok [] := by
  refine ⟨⟨constantInsertion⟩, ⟨_, _,
    chunkCode_of_exports constantsParser_classAndConstant (by decide),
    chunkCode_of_exports constantsParser_classAndConstants (by decide), ?_, ?_, ?_⟩,
    ⟨functionInsertion⟩, ?_, ?_⟩
  · decide +kernel
  · decide +kernel
  · decide +kernel
  · have hnames : (functionChunks functionSource).toOption.map
        (fun chunks => chunks.map (·.qualifiedName)) = some ["f"] := by decide +kernel
    obtain ⟨chunks, hchunks, hnames⟩ := Option.map_eq_some_iff.mp hnames
    exact ⟨chunks, ok_of_toOption_eq_some hchunks, hnames⟩
  · have hnone : (functionChunks functionsSource).toOption = some [] := by decide +kernel
    exact ok_of_toOption_eq_some hnone

end Chunker

end ChunkGraph
