import ChunkGraph.Proofs.Chunker.Editing
import ChunkGraph.Proofs.Graph.Targets
import ChunkGraph.Proofs.Syntax.Walk

/-!
# Chunks that share an identity

The identity of a chunk is made of its file, its kind and its qualified name, so
the getter and the setter of a class have one identity, and so do the overloads
of a function. A graph keeps one list for each identity, that of the last chunk
which has it. What an earlier one depends on is an edge only if the last one
leads there as well.

## Main results

* `Builder.keeps_edge_iff_last` — which edges of a chunk are in the graph.
* `Builder.shared_identity_loses_edge` — a getter whose edge is not.
-/

namespace ChunkGraph

open Number Syntax

namespace Chunker

/-- A class with a getter and a setter for one name, which call different functions. -/
def accessors : String :=
  "class C \x7b\nget v() \x7b return a(); \x7d\nset v(x) \x7b b(); \x7d\n\x7d\n" ++
    "function a() \x7b\x7d\nfunction b() \x7b\x7d\n"

/-- A word or a sign of the grammar. -/
def tokenAt (text : String) (start : Nat) : Node :=
  .mk text false "" start (start + text.length) []

/-- The call of a function with a name of one letter. -/
def callAt (start : Nat) : Node :=
  .mk "call_expression" true "" start (start + 3)
    [.mk "identifier" true "function" start (start + 1) [],
      .mk "arguments" true "arguments" (start + 1) (start + 3)
        [tokenAt "(" (start + 1), tokenAt ")" (start + 2)]]

/-- A function with a name of one letter that does nothing. -/
def functionAt (start : Nat) : Node :=
  .mk "function_declaration" true "" start (start + 15)
    [tokenAt "function" start, .mk "identifier" true "name" (start + 9) (start + 10) [],
      .mk "formal_parameters" true "parameters" (start + 10) (start + 12)
        [tokenAt "(" (start + 10), tokenAt ")" (start + 11)],
      .mk "statement_block" true "body" (start + 13) (start + 15)
        [tokenAt "\x7b" (start + 13), tokenAt "\x7d" (start + 14)]]

/-- The getter. -/
def getterMethod : Node :=
  .mk "method_definition" true "" 10 33
    [tokenAt "get" 10, .mk "property_identifier" true "name" 14 15 [],
      .mk "formal_parameters" true "parameters" 15 17 [tokenAt "(" 15, tokenAt ")" 16],
      .mk "statement_block" true "body" 18 33
        [tokenAt "\x7b" 18,
          .mk "return_statement" true "" 20 31 [tokenAt "return" 20, callAt 27, tokenAt ";" 30],
          tokenAt "\x7d" 32]]

/-- The setter. -/
def setterMethod : Node :=
  .mk "method_definition" true "" 34 51
    [tokenAt "set" 34, .mk "property_identifier" true "name" 38 39 [],
      .mk "formal_parameters" true "parameters" 39 42
        [tokenAt "(" 39,
          .mk "required_parameter" true "" 40 41 [.mk "identifier" true "pattern" 40 41 []],
          tokenAt ")" 41],
      .mk "statement_block" true "body" 43 51
        [tokenAt "\x7b" 43,
          .mk "expression_statement" true "" 45 49 [callAt 45, tokenAt ";" 48],
          tokenAt "\x7d" 50]]

/-- The tree of the class and the functions. -/
def accessorsProgram : Node :=
  .mk "program" true "" 0 86
    [.mk "class_declaration" true "" 0 53
      [tokenAt "class" 0, .mk "type_identifier" true "name" 6 7 [],
        .mk "class_body" true "body" 8 53
          [tokenAt "\x7b" 8, getterMethod, setterMethod, tokenAt "\x7d" 52]],
      functionAt 54, functionAt 70]

/-- What the rules are told about the class and the functions. -/
def accessorsContext : Outline.Context :=
  scriptContext {} accessors "a.ts" {} .estimate accessorsProgram

/-- The class and the functions. -/
def accessorsItems : List Item :=
  (Cursor.ofRoot accessorsProgram).namedChildren.map (⟨·, none⟩)

/-- The chunks of the class, its accessors and the functions. -/
def accessorsChunks : List Chunk :=
  accessorsItems.flatMap (Outline.declarationChunks accessorsContext)

theorem accessorsChunks_named :
    accessorsChunks.map (fun c => (c.name, c.kind, c.filePath, c.id, c.parentId)) =
      [("C", .classDecl, "a.ts", "be5e2a5fba7c3157", none),
        ("v", .methodDecl, "a.ts", "7632997f1ea34311", some "be5e2a5fba7c3157"),
        ("v", .methodDecl, "a.ts", "7632997f1ea34311", some "be5e2a5fba7c3157"),
        ("a", .functionDecl, "a.ts", "5b048239f1bee3b9", none),
        ("b", .functionDecl, "a.ts", "f00ce9367b2b6c99", none)] := by
  decide +kernel

set_option maxRecDepth 2000 in
theorem accessorsChunks_dependencies :
    accessorsChunks.map (·.dependencies.map fun d => (d.name, d.kind)) =
      [[("a", .reference), ("b", .reference)], [("a", .reference)], [("b", .reference)],
        [], []] := by
  have hmerged : accessorsChunks.map (·.dependencies) =
      (accessorsItems.flatMap fun item => item :: accessorsContext.frontEnd.members item).map
        fun item => Outline.mergeDependencies (accessorsContext.ownDependencies item)
          accessorsContext.imports := rfl
  have hown (item : Item) : accessorsContext.ownDependencies item =
      Script.imports accessorsContext.tree item ++
        (Script.references accessorsContext.tree item).filter fun d =>
          !(accessorsContext.imports.map (·.name)).contains d.name := rfl
  have hsplit : accessorsChunks.map (·.dependencies.map fun d => (d.name, d.kind)) =
      (accessorsChunks.map (·.dependencies)).map (List.map fun d => (d.name, d.kind)) :=
    List.map_map.symm
  rw [hsplit, hmerged]
  simp only [hown, Script.imports, Script.references, Script.callImports, Script.typeVariables,
    walkAll_eq_preorder]
  decide

theorem accessorsChunks_structural :
    ∀ chunk ∈ accessorsChunks, chunk.isMergeable = false := by
  have hkinds : ∀ kind ∈ accessorsChunks.map (·.kind),
      ChunkKind.structural.contains kind = true := by
    decide +kernel
  intro chunk hchunk
  rw [Chunk.isMergeable, hkinds chunk.kind (List.mem_map_of_mem hchunk)]
  rfl

/-- Parses everything to the class and the functions. -/
def accessorsParser : Parser := fun _ _ => some accessorsProgram

theorem chunkCode_accessors :
    (chunkCode accessorsParser (.whole 0) {} accessors "a.ts" none).1 = .ok accessorsChunks := by
  have hdeclarations : Script.declarationsIn (.ofRoot accessorsProgram) = accessorsItems :=
    Script.declarationsIn_of_declarations (by decide)
  have houtline :
      Outline.outline accessorsContext (.ofRoot accessorsProgram) = accessorsChunks := by
    rw [accessorsChunks, ← hdeclarations]
    rfl
  have htree : ({} : Chunker).treeOf accessorsParser accessors "a.ts" =
      some (Script.treeFor "typescript" accessors accessorsProgram) :=
    treeOf_script rfl rfl
  have hcounted : (Outline.outline accessorsContext (.ofRoot accessorsProgram)).all
      (·.tokenCount.isSome) = true :=
    (Outline.yields_outline accessorsContext (.ofRoot accessorsProgram)).counted rfl
  have hmade : create .unavailable {} Rule.all = .ok {} := rfl
  have hrun : (chunkCode accessorsParser (.whole 0) {} accessors "a.ts" none).1 =
      finish {} accessors (Outline.outline accessorsContext (.ofRoot accessorsProgram)) :=
    chunkCode_eq_finish hmade rfl rfl (.whole 0) htree rfl rfl hcounted
  rw [hrun, finish_of_merged rfl rfl rfl, houtline,
    mergeSmall_of_structural _ _ accessorsChunks_structural]

end Chunker

namespace Builder

/-- The getter means the function that it calls. The setter has the identity of the getter and comes
later, and does not lead there. -/
theorem getter_means_called (b : Builder) :
    ∃ getter ∈ Chunker.accessorsChunks, ∃ d ∈ getter.dependencies,
      ∃ called ∈ b.meaningOf (index Chunker.accessorsChunks) d getter, called.id ≠ getter.id ∧
        ¬(b.build Chunker.accessorsChunks).Leads getter.id called.id := by
  have hnamed := Chunker.accessorsChunks_named
  have hdependencies := Chunker.accessorsChunks_dependencies
  simp only [List.map_eq_cons_iff, List.map_eq_nil_iff] at hnamed
  obtain ⟨cls, _, hchunks, hcls, getter, _, rfl, hgetter, setter, _, rfl, hsetter, called, _, rfl,
    hcalled, other, _, rfl, hother, rfl⟩ := hnamed
  rw [hchunks] at hdependencies ⊢
  simp only [List.map_cons, List.map_nil, List.cons.injEq, List.map_eq_cons_iff,
    List.map_eq_nil_iff, Prod.mk.injEq, and_true] at hdependencies
  simp only [Prod.mk.injEq] at hcls hgetter hsetter hcalled hother
  obtain ⟨-, ⟨d, _, hd, ⟨hname, hkind⟩, rfl⟩, ⟨e, _, he, ⟨hname', hkind'⟩, rfl⟩, -⟩ := hdependencies
  refine ⟨getter, by simp, d, by simp [hd], called, ?_, ?_, ?_⟩
  · rw [mem_meaningOf, if_pos hkind, mem_referenced, mem_inFile]
    simp [hname, hgetter, hcalled]
  · simp [hgetter, hcalled]
  · rw [leads_build_iff]
    rintro ⟨last, hlast, htarget⟩
    obtain rfl : setter = last := by
      simpa [hcls, hgetter, hsetter, hcalled, hother] using hlast
    rw [mem_targetsOf] at htarget
    rcases htarget with ⟨_, hin, found, hfound, hid, -⟩ | ⟨hparent, -⟩
    · rw [he, List.mem_singleton] at hin
      subst hin
      rw [mem_meaningOf, if_pos hkind', mem_referenced, mem_inFile] at hfound
      obtain ⟨⟨hmem, -⟩, -, -, hfoundName⟩ := hfound
      simp only [List.mem_cons, List.not_mem_nil, or_false] at hmem
      rw [hname'] at hfoundName
      -- only the other function has the name that the setter calls
      rcases hmem with rfl | rfl | rfl | rfl | rfl
      · simp [hcls] at hfoundName
      · simp [hgetter] at hfoundName
      · simp [hsetter] at hfoundName
      · simp [hcalled] at hfoundName
      · simp [hother, hcalled] at hid
    · simp [hsetter, hcalled] at hparent

/-- What a dependency of a chunk means is an edge exactly if the last chunk with its identity
depends on it as well, or has it as its parent. So it is one whenever no other chunk shares the
identity. -/
theorem keeps_edge_iff_last (b : Builder) {chunks : List Chunk} {chunk found : Chunk}
    {d : Dependency} (hchunk : chunk ∈ chunks) (hd : d ∈ chunk.dependencies)
    (hfound : found ∈ b.meaningOf (index chunks) d chunk) (hne : found.id ≠ chunk.id) :
    ∃ last, chunks.reverse.find? (·.id == chunk.id) = some last ∧
      ((b.build chunks).Leads chunk.id found.id ↔
        (∃ other ∈ last.dependencies, ∃ meant ∈ b.meaningOf (index chunks) other last,
            meant.id = found.id) ∨
          last.parentId = some found.id ∧ found.id ≠ "") ∧
      ((∀ other ∈ chunks, other.id = chunk.id → other = chunk) →
        (b.build chunks).Leads chunk.id found.id) := by
  obtain ⟨last, hlast⟩ : ∃ last, chunks.reverse.find? (·.id == chunk.id) = some last :=
    Option.isSome_iff_exists.mp
      (List.find?_isSome.mpr ⟨chunk, List.mem_reverse.mpr hchunk, beq_self_eq_true _⟩)
  have hmem : last ∈ chunks := List.mem_reverse.mp (List.mem_of_find?_eq_some hlast)
  have hid : last.id = chunk.id := by simpa using List.find?_some hlast
  have hleads : (b.build chunks).Leads chunk.id found.id ↔
      found.id ∈ b.targetsOf (index chunks) last := by
    rw [leads_build_iff, hlast]
    simp
  refine ⟨last, hlast, ?_, fun halone => ?_⟩
  · have hexists : ∃ c ∈ chunks, c.id = found.id := ⟨found, mem_of_mem_meaningOf b hfound, rfl⟩
    have hne' : found.id ≠ last.id := hid ▸ hne
    rw [hleads, mem_targetsOf]
    simp only [hne', hexists, ne_eq, not_false_eq_true, and_true]
  · rw [hleads, mem_targetsOf, halone last hmem hid]
    exact Or.inl ⟨d, hd, found, hfound, rfl, hne⟩

/-- Resolves no specifier, as there are no other files. -/
def noFiles : Builder := { fileExists := fun _ => false }

/-- The setter decides whether the getter leads to the function that it calls. -/
theorem keeps_edge_iff_last_setter :
    ∃ getter ∈ Chunker.accessorsChunks, ∃ called ∈ Chunker.accessorsChunks,
      called.id ≠ getter.id ∧
        ∃ setter, Chunker.accessorsChunks.reverse.find? (·.id == getter.id) = some setter ∧
          ((noFiles.build Chunker.accessorsChunks).Leads getter.id called.id ↔
            (∃ other ∈ setter.dependencies,
                ∃ meant ∈ noFiles.meaningOf (index Chunker.accessorsChunks) other setter,
                  meant.id = called.id) ∨
              setter.parentId = some called.id ∧ called.id ≠ "") := by
  obtain ⟨getter, hgetter, d, hd, called, hcalled, hne, -⟩ := getter_means_called noFiles
  obtain ⟨setter, hsetter, hleads, -⟩ := keeps_edge_iff_last noFiles hgetter hd hcalled hne
  exact ⟨getter, hgetter, called, mem_of_mem_meaningOf noFiles hcalled, hne, setter, hsetter,
    hleads⟩

/-- Of a getter and a setter of one name, only the edges of the setter are in the graph. -/
theorem shared_identity_loses_edge :
    ¬∀ (b : Builder) (parser : Parser) (now : Quantity) (c : Chunker) (code path : String)
        (given : Option Options) (chunks : List Chunk),
      (c.chunkCode parser now code path given).1 = .ok chunks →
        ∀ chunk ∈ chunks, ∀ d ∈ chunk.dependencies,
          ∀ found ∈ b.meaningOf (index chunks) d chunk, found.id ≠ chunk.id →
            (b.build chunks).Leads chunk.id found.id := by
  intro hkept
  obtain ⟨getter, hgetter, d, hd, called, hcalled, hne, hlost⟩ := getter_means_called noFiles
  have hleads := hkept noFiles Chunker.accessorsParser (.whole 0) {} Chunker.accessors "a.ts" none
    Chunker.accessorsChunks Chunker.chunkCode_accessors getter hgetter d hd called hcalled hne
  exact hlost hleads

end Builder

end ChunkGraph
