import ChunkGraph.Proofs.Chunker.Cutting
import ChunkGraph.Proofs.Graph.Precedence
import ChunkGraph.Proofs.Outline.Dependencies
import ChunkGraph.Proofs.Syntax.Walk

/-!
# Imports that are left out

A declaration that loads a module by itself does not take over the imports from
that module. If it takes the module as a whole, by an import in an expression or
by a call that it binds to a name, it loses nothing that the module exports. If
it only runs the module, what the file imports from there is lost to it.

An import is left out as well if an earlier one has its kind, module and name: of
a default import and a named import under one name only the first counts.

## Main results

* `Builder.meant_by_merged_iff` — what the dependencies of a declaration mean
  after imports have been left out.
* `Builder.left_out_imports_lose_chunks` — two declarations that lose a chunk.
-/

namespace ChunkGraph

open Syntax

namespace Builder

open Outline (IsFirst mergeDependencies sourcesOf)

/-- A dependency that takes all exports of a module means each of them. -/
theorem mem_meaningOf_of_takesAll (b : Builder) {chunks : List Chunk} {asker target : Chunk}
    {d : Dependency} {path : String} (hkind : d.kind ≠ .reference) (htakes : d.TakesAll)
    (hresolve : b.resolve? asker.filePath d.source = some path)
    (htarget : target ∈ exportedIn chunks path) : target ∈ b.meaningOf (index chunks) d asker := by
  have hmem : target ∈ moduleExports (index chunks) d path := by
    rw [(moduleExports_perm chunks d path).mem_iff, Dependency.meantAmong_of_takesAll htakes]
    exact htarget
  rw [meaningOf_of_moduleExports hkind hresolve (List.ne_nil_of_mem hmem)]
  exact hmem

/-- No reference takes a module as a whole. -/
theorem kind_ne_of_takesAll {d : Dependency} (hplain : d.Plain) (htakes : d.TakesAll) :
    d.kind ≠ .reference := by
  intro hkind
  rcases htakes with hnamespace | ⟨hrequired, _⟩
  · rw [hplain.isNamespace_eq, hkind] at hnamespace
    exact absurd hnamespace (by decide)
  · exact absurd (hkind.symm.trans hrequired) (by decide)

/-- For a declaration below the top of a file, the merged dependencies mean what the own ones mean,
and what those imports mean that are the first of their kind, module and name and come from a module
that no own dependency has. An own dependency that takes a module as a whole means all that the
module exports, so no import from there loses an export of it. -/
theorem meant_by_merged_iff (b : Builder) (chunks : List Chunk) (asker : Chunk)
    (ctx : Outline.Context) (item : Item) (hbelow : item.node.parent? ≠ none)
    (hkind : item.kind ≠ "program") :
    (∀ target,
      (∃ d ∈ mergeDependencies (ctx.ownDependencies item) ctx.imports,
          target ∈ b.meaningOf (index chunks) d asker) ↔
        (∃ d ∈ ctx.ownDependencies item, target ∈ b.meaningOf (index chunks) d asker) ∨
          ∃ d ∈ ctx.imports, IsFirst d (ctx.ownDependencies item ++ ctx.imports) ∧
            d.source ∉ sourcesOf (ctx.ownDependencies item) ∧
            target ∈ b.meaningOf (index chunks) d asker) ∧
      ∀ own ∈ ctx.ownDependencies item, own.TakesAll → ∀ path,
        b.resolve? asker.filePath own.source = some path →
          ∀ target ∈ exportedIn chunks path,
            ∃ d ∈ mergeDependencies (ctx.ownDependencies item) ctx.imports,
              target ∈ b.meaningOf (index chunks) d asker := by
  have hkept (d : Dependency) (hd : d ∈ ctx.ownDependencies item) :
      d ∈ mergeDependencies (ctx.ownDependencies item) ctx.imports :=
    Outline.mem_mergeDependencies_of_own hbelow hkind hd ctx.imports
  refine ⟨fun target => ⟨?_, ?_⟩, fun own hown htakes path hresolve target htarget => ?_⟩
  · rintro ⟨d, hd, htarget⟩
    obtain ⟨hfirst, hown | hsource⟩ := Outline.mem_mergeDependencies.mp hd
    · exact Or.inl ⟨d, hown, htarget⟩
    · rcases List.mem_append.mp hfirst.mem with hown | himport
      · exact Or.inl ⟨d, hown, htarget⟩
      · exact Or.inr ⟨d, himport, hfirst, hsource, htarget⟩
  · rintro (⟨d, hd, htarget⟩ | ⟨d, hd, hfirst, hsource, htarget⟩)
    · exact ⟨d, hkept d hd, htarget⟩
    · exact ⟨d, Outline.mem_mergeDependencies.mpr ⟨hfirst, Or.inr hsource⟩, htarget⟩
  · have hplain := Outline.plain_of_mem_ownDependencies hbelow hkind hown
    exact ⟨own, hkept own hown, mem_meaningOf_of_takesAll b (kind_ne_of_takesAll hplain htakes)
      htakes hresolve htarget⟩

end Builder

/-! ## Declarations that load a module -/

namespace Chunker

/-- Two imports from one module, a function that runs the module, one that takes it as a whole, and
one that leaves it alone. -/
def loadingScript : String :=
  "import a from './m';\nimport \x7b a as b \x7d from './m';\n" ++
    "function f() \x7b require('./m'); b(); \x7d\nfunction g() \x7b import('./m'); \x7d\n" ++
      "function h() \x7b b(); \x7d\n"

/-- A call in a statement. -/
def callStatement (start : Nat) (function : Node) (arguments : List Node) (stop : Nat) : Node :=
  .mk "expression_statement" true "" start (stop + 1)
    [.mk "call_expression" true "" start stop
      [function, .mk "arguments" true "arguments" function.stop stop arguments]]

/-- A function with a name of one letter and a body. -/
def functionWith (start stop : Nat) (body : List Node) : Node :=
  .mk "function_declaration" true "" start stop
    [.mk "identifier" true "name" (start + 9) (start + 10) [],
      .mk "formal_parameters" true "parameters" (start + 10) (start + 12) [],
      .mk "statement_block" true "body" (start + 13) stop body]

/-- A specifier. -/
def specifierAt (field : String) (start : Nat) : Node :=
  .mk "string" true field start (start + 5) []

/-- The function that runs the module. -/
def runningFunction : Node :=
  functionWith 51 88
    [callStatement 66 (.mk "identifier" true "function" 66 73 []) [specifierAt "" 74] 80,
      callStatement 82 (.mk "identifier" true "function" 82 83 []) [] 85]

/-- The function that takes the module as a whole. -/
def takingFunction : Node :=
  functionWith 89 120
    [callStatement 104 (.mk "import" true "function" 104 110 []) [specifierAt "" 111] 117]

/-- The function that leaves the module alone. -/
def idleFunction : Node :=
  functionWith 121 142 [callStatement 136 (.mk "identifier" true "function" 136 137 []) [] 139]

/-- The import of what the module exports by default. -/
def defaultImport : Node :=
  .mk "import_statement" true "" 0 20
    [.mk "import_clause" true "" 7 8 [.mk "identifier" true "" 7 8 []], specifierAt "source" 14]

/-- The import of what it exports under the name that the other one is given. -/
def namedImport : Node :=
  .mk "import_statement" true "" 21 50
    [.mk "import_clause" true "" 28 38
      [.mk "named_imports" true "" 28 38
        [.mk "import_specifier" true "" 30 36
          [.mk "identifier" true "name" 30 31 [], .mk "identifier" true "alias" 35 36 []]]],
      specifierAt "source" 44]

/-- The tree of that script. -/
def loadingProgram : Node :=
  .mk "program" true "" 0 143
    [defaultImport, namedImport, runningFunction, takingFunction, idleFunction]

/-- The same with the text. -/
def loadingTree : Tree :=
  { language := "typescript", source := Text.Utf8.encode loadingScript.toList
    root := some loadingProgram }

/-- What the rules are told about that script. -/
def loadingContext : Outline.Context :=
  contextOf {} .script loadingTree "main.ts" {} .estimate (.ofRoot loadingProgram)

/-- The function that runs the module. -/
def runningItem : Item :=
  ⟨⟨runningFunction, [⟨loadingProgram, [namedImport, defaultImport]⟩]⟩, none⟩

/-- The function that takes the module as a whole. -/
def takingItem : Item :=
  ⟨⟨takingFunction, [⟨loadingProgram, [runningFunction, namedImport, defaultImport]⟩]⟩, none⟩

/-- The function that leaves the module alone. -/
def idleItem : Item :=
  ⟨⟨idleFunction,
    [⟨loadingProgram, [takingFunction, runningFunction, namedImport, defaultImport]⟩]⟩, none⟩

/-- The module, taken as a whole. -/
def wholeModule : Dependency :=
  { name := "*", source := "./m", kind := .dynamicImport, isNamespace := true }

/-- The module, run by a call. -/
def ranModule : Dependency := { name := "*", source := "./m", kind := .required }

/-- What the module exports by default. -/
def importedDefault : Dependency := { name := "a", source := "./m", isDefault := true }

/-- What the module exports under a name. -/
def importedName : Dependency := { name := "a", source := "./m" }

theorem loadingContext_imports : loadingContext.imports = [importedDefault, importedName] := by
  decide +kernel

/-- What the three functions depend on by themselves. -/
theorem loadingContext_own :
    [runningItem, takingItem, idleItem].map loadingContext.ownDependencies =
      [[ranModule, Script.reference "b"], [wholeModule], [Script.reference "b"]] := by
  have hown (item : Item) : loadingContext.ownDependencies item =
      Script.imports loadingContext.tree item ++
        (Script.references loadingContext.tree item).filter fun d =>
          !(loadingContext.imports.map (·.name)).contains d.name := rfl
  simp only [List.map_cons, List.map_nil, hown, Script.imports, Script.references,
    Script.callImports, Script.typeVariables, walkAll_eq_preorder]
  decide +kernel

/-- A function that a module exports. -/
def exportedFunction (name exportName : String) : Chunk :=
  { (default : Chunk) with
    id := name, name, filePath := "m.ts", exported := true, exportName := some exportName }

/-- What the module exports: a function by default, and another one. -/
def moduleChunks : List Chunk := [exportedFunction "main" "default", exportedFunction "a" "a"]

/-- A chunk of the script. -/
def loadingChunk : Chunk := { (default : Chunk) with filePath := "main.ts" }

/-- Resolves specifiers to the module. -/
def moduleResolver : Builder := { fileExists := (· == "m.ts") }

end Chunker

namespace Builder

open Chunker
open Outline (mergeDependencies)

/-- What the module exports under a name stays with the function that takes it as a whole, which
has left out the import of it. -/
theorem meant_by_merged_iff_taking :
    takingItem.node.parent? ≠ none ∧ takingItem.kind ≠ "program" ∧
      loadingContext.ownDependencies takingItem = [wholeModule] ∧
      ∃ d ∈ mergeDependencies (loadingContext.ownDependencies takingItem) loadingContext.imports,
        exportedFunction "a" "a" ∈
          moduleResolver.meaningOf (index moduleChunks) d loadingChunk := by
  have hbelow : takingItem.node.parent? ≠ none := by decide
  have hkind : takingItem.kind ≠ "program" := by decide
  have hown : loadingContext.ownDependencies takingItem = [wholeModule] :=
    (List.cons.inj (List.cons.inj loadingContext_own).2).1
  have hresolve : moduleResolver.resolve? loadingChunk.filePath wholeModule.source =
      some "m.ts" := by decide
  have hexported : exportedFunction "a" "a" ∈ exportedIn moduleChunks "m.ts" := by
    decide
  obtain ⟨_, hwhole⟩ := meant_by_merged_iff moduleResolver moduleChunks loadingChunk loadingContext
    takingItem hbelow hkind
  refine ⟨hbelow, hkind, hown, ?_⟩
  refine hwhole wholeModule ?_ (by decide) "m.ts" hresolve _ hexported
  rw [hown]
  exact List.mem_singleton_self _

/-- The function that runs the module loses the import from there. So does the one that leaves the
module alone, as the default import has the same name. -/
theorem not_meant_by_merged :
    ∀ item ∈ [runningItem, idleItem],
      ∀ d ∈ mergeDependencies (loadingContext.ownDependencies item) loadingContext.imports,
        exportedFunction "a" "a" ∉
          moduleResolver.meaningOf (index moduleChunks) d loadingChunk := by
  have hown := loadingContext_own
  simp only [List.map_cons, List.map_nil, List.cons.injEq, and_true] at hown
  obtain ⟨hrunning, _, hidle⟩ := hown
  simp only [List.forall_mem_cons, hrunning, hidle, loadingContext_imports]
  decide

/-- A function that runs a module loses what the file imports from there. -/
theorem left_out_imports_lose_chunks :
    ¬∀ (b : Builder) (chunks : List Chunk) (asker : Chunk) (ctx : Outline.Context) (root : Cursor)
        (item : Item), ctx.tree.rootCursor? = some root →
      ctx.imports = ctx.frontEnd.imports ctx.tree ⟨root, none⟩ →
      item.node.parent? = some root → item.kind ≠ "program" →
        ∀ d ∈ ctx.imports ++ ctx.ownDependencies item,
          ∀ target ∈ b.meaningOf (index chunks) d asker,
            ∃ kept ∈ mergeDependencies (ctx.ownDependencies item) ctx.imports,
              target ∈ b.meaningOf (index chunks) kept asker := by
  intro hkept
  have himport : importedName ∈ loadingContext.imports ++
      loadingContext.ownDependencies runningItem := by
    rw [loadingContext_imports]
    exact List.mem_append_left _ (List.mem_cons_of_mem _ List.mem_cons_self)
  obtain ⟨d, hd, htarget⟩ := hkept moduleResolver moduleChunks loadingChunk loadingContext
    (.ofRoot loadingProgram) runningItem rfl rfl rfl (by decide) importedName himport
    (exportedFunction "a" "a") (by decide)
  exact not_meant_by_merged runningItem List.mem_cons_self d hd htarget

end Builder

end ChunkGraph
