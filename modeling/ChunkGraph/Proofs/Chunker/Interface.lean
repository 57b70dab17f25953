import ChunkGraph.Proofs.Chunker.Cutting
import ChunkGraph.Proofs.FrontEnd.Entries

/-!
# The imports and exports of a file

A chunker asks the front end of a file for the imports at the root of its tree
and for the entries of its export statements. The imports are always known. One
export statement whose entries are not known, and the file has no imports and no
exports.

## Main definitions

* `Chunker.IsComplete` — an answer has the imports of a tree, and what its export
  statements export.

## Main results

* `Chunker.interfaceOf_of_named`, `Chunker.interfaceOf_of_nameless` — the answer
  for a tree.
* `Chunker.analyze_complete_iff` — when the answer for a file is complete.
* `Chunker.analyze_loses_imports` — a file whose answer is not.
-/

namespace ChunkGraph

open Number Syntax

namespace Chunker

/-! ## Answers -/

/-- An answer has the imports of a script, and all that its export statements export. -/
structure IsComplete (tree : Tree) (root : Cursor) (answer : Interface) : Prop where
  /-- The imports are those at the root. -/
  imports_eq : answer.imports = Script.imports tree ⟨root, none⟩
  /-- What export statements export is among the exports. -/
  exports_mem : ∀ statement ∈ root.namedChildrenOfKind "export_statement",
    ∀ e, Script.Gives tree statement e → e ∈ answer.exports

section Answer

variable {tree : Tree} {root : Cursor} {frontEnd : FrontEnd}

theorem interfaceOf_of_exports {exports : List Export} (hroot : tree.rootCursor? = some root)
    (h : frontEnd.exports? tree root = some exports) :
    interfaceOf frontEnd (some tree) =
      { imports := frontEnd.imports tree ⟨root, none⟩, exports } := by
  unfold interfaceOf
  simp only [hroot, h, Option.bind_eq_bind, Option.bind_some]
  rfl

theorem interfaceOf_of_no_exports (hroot : tree.rootCursor? = some root)
    (h : frontEnd.exports? tree root = none) : interfaceOf frontEnd (some tree) = {} := by
  unfold interfaceOf
  simp only [hroot, h, Option.bind_eq_bind, Option.bind_some, Option.bind_none]
  rfl

/-- A script is asked in the same way by both front ends for scripts. -/
theorem script_of_not_generic (h : ∀ language, frontEnd ≠ .generic language) :
    frontEnd.exports? = Script.exports? ∧ frontEnd.imports = Script.imports := by
  cases frontEnd with
  | script => exact ⟨rfl, rfl⟩
  | component => exact ⟨rfl, rfl⟩
  | generic language => exact absurd rfl (h language)

/-- The answer for a script without a statement that lacks a name. -/
theorem interfaceOf_of_named (hroot : tree.rootCursor? = some root)
    (hscript : ∀ language, frontEnd ≠ .generic language)
    (h : ∀ statement ∈ root.namedChildrenOfKind "export_statement",
      ¬Script.Nameless statement) :
    IsComplete tree root (interfaceOf frontEnd (some tree)) ∧
      ∀ e ∈ (interfaceOf frontEnd (some tree)).exports,
        ∃ statement ∈ root.namedChildrenOfKind "export_statement",
          Script.Gives tree statement e := by
  obtain ⟨hexports, himports⟩ := script_of_not_generic hscript
  obtain ⟨exports, hfound⟩ : ∃ exports, Script.exports? tree root = some exports :=
    Script.exists_exports?_of_named h
  rw [interfaceOf_of_exports hroot (hexports ▸ hfound), himports]
  refine ⟨⟨rfl, fun statement hstatement e hgives => ?_⟩, fun e he => ?_⟩
  · exact (Script.mem_exports?_iff_gives hfound).mpr ⟨statement, hstatement, hgives⟩
  · exact (Script.mem_exports?_iff_gives hfound).mp he

/-- The answer for a script with a statement that lacks a name. -/
theorem interfaceOf_of_nameless (hroot : tree.rootCursor? = some root)
    (hscript : ∀ language, frontEnd ≠ .generic language)
    (h : ∃ statement ∈ root.namedChildrenOfKind "export_statement", Script.Nameless statement) :
    interfaceOf frontEnd (some tree) = {} := by
  obtain ⟨statement, hstatement, hnameless⟩ := h
  have hnone : frontEnd.exports? tree root = none := by
    rw [(script_of_not_generic hscript).1]
    exact Script.exports?_eq_none hstatement hnameless
  exact interfaceOf_of_no_exports hroot hnone

end Answer

/-- A file with a tree has an answer. That of a script has the imports and all exports, and no
others, unless a statement exports a module under a name that is missing: then it is empty, and so
complete only if there is nothing to be said. All other files have their imports and exports. -/
theorem analyze_complete_iff {c : Chunker} {parser : Parser} {now : Quantity} {code path : String}
    {tree : Tree} {root : Cursor} (hpool : c.pool.releaseFault? = none)
    (htree : c.readTree? parser now code path = some tree) (hroot : tree.rootCursor? = some root) :
    ∃ answer, (c.analyze parser now code path).1 = .ok answer ∧
      (∀ language, c.lentFrontEnd path = .generic language →
        answer = { imports := Generic.imports language tree ⟨root, none⟩
                   exports := Generic.exports language tree root }) ∧
      ((∀ language, c.lentFrontEnd path ≠ .generic language) →
        (IsComplete tree root answer ↔
          (∀ statement ∈ root.namedChildrenOfKind "export_statement",
            ¬Script.Nameless statement) ∨ IsComplete tree root {}) ∧
        ((∃ statement ∈ root.namedChildrenOfKind "export_statement",
          Script.Nameless statement) → answer = {}) ∧
        ((∀ statement ∈ root.namedChildrenOfKind "export_statement",
          ¬Script.Nameless statement) →
            ∀ e ∈ answer.exports, ∃ statement ∈ root.namedChildrenOfKind "export_statement",
              Script.Gives tree statement e)) := by
  have hanswer : (c.analyze parser now code path).1 =
      .ok (interfaceOf (c.lentFrontEnd path) (c.readTree? parser now code path)) := by
    unfold analyze
    rw [withTree_fst, hpool]
  refine ⟨_, hanswer, ?_, fun hscript => ?_⟩
  · intro language hgeneric
    rw [htree, hgeneric]
    exact interfaceOf_of_exports hroot rfl
  · rw [htree]
    refine ⟨?_, interfaceOf_of_nameless hroot hscript,
      fun hnamed => (interfaceOf_of_named hroot hscript hnamed).2⟩
    by_cases hnamed : ∀ statement ∈ root.namedChildrenOfKind "export_statement",
        ¬Script.Nameless statement
    · exact iff_of_true (interfaceOf_of_named hroot hscript hnamed).1 (Or.inl hnamed)
    · have hnameless : ∃ statement ∈ root.namedChildrenOfKind "export_statement",
          Script.Nameless statement := by
        simpa using hnamed
      rw [interfaceOf_of_nameless hroot hscript hnameless]
      exact ⟨Or.inr, fun h => h.resolve_left hnamed⟩

/-- An import, a module exported under a name of seven letters, and a function. -/
def reexportScript (name : String) : String :=
  "import \x7b a \x7d from './a';\nexport * as " ++ name ++
    " from './ns';\nexport function f() \x7b\x7d\n"

/-- The import of that script. -/
def importNode : Node :=
  .mk "import_statement" true "" 0 24
    [.mk "import_clause" true "" 7 12
        [.mk "named_imports" true "" 7 12
          [.mk "import_specifier" true "" 9 10 [.mk "identifier" true "name" 9 10 []]]],
      .mk "string" true "source" 18 23 []]

/-- The export of a function in that script. -/
def functionNode : Node :=
  .mk "export_statement" true "" 58 80
    [.mk "export" false "" 58 64 [],
      .mk "function_declaration" true "declaration" 65 80
        [.mk "function" false "" 65 73 [], .mk "identifier" true "name" 74 75 [],
          .mk "formal_parameters" true "parameters" 75 77 [],
          .mk "statement_block" true "body" 78 80 []]]

/-- The syntax tree of that script, with the node for the name of the module. -/
def reexportProgram (name : Node) : Node :=
  .mk "program" true "" 0 81
    [importNode,
      .mk "export_statement" true "" 25 57
        [.mk "export" false "" 25 31 [],
          .mk "namespace_export" true "" 32 44
            [.mk "*" false "" 32 33 [], .mk "as" false "" 34 36 [], name],
          .mk "from" false "" 45 49 [], .mk "string" true "source" 50 56 []],
      functionNode]

/-- A keyword as the name of the module. -/
def keywordName : Node := .mk "default" false "" 37 44 []

/-- An identifier as the name of the module. -/
def identifierName : Node := .mk "identifier" true "" 37 44 []

/-- What that script is parsed to. -/
def reexportTree (name : String) (node : Node) : Tree :=
  { language := "typescript", source := Text.Utf8.encode (reexportScript name).toList
    root := some (reexportProgram node) }

/-- A new chunker works with the tree of the text. -/
theorem readTree?_reexport (name : String) (node : Node) :
    ({} : Chunker).readTree? (fun _ _ => some (reexportProgram node)) (.whole 0)
      (reexportScript name) "a.ts" = some (reexportTree name node) := by
  have hfrontEnd : ({} : Chunker).lentFrontEnd "a.ts" = .script := by decide +kernel
  have hgrammar : FrontEnd.grammarForPath "a.ts" = "typescript" := by decide +kernel
  have hkeeps : ((({} : Chunker).trees.capacity).fault? ">=" Bound.countType).isSome = false := by
    decide
  unfold readTree?
  rw [parse_of_empty rfl, hfrontEnd]
  unfold parsedWith
  rw [hkeeps, if_neg Bool.false_ne_true]
  unfold parseSource? FrontEnd.parse?
  dsimp only
  rw [hgrammar]
  rfl

/-- With an identifier as the name, the answer is complete. -/
theorem analyze_complete_iff_identifier :
    ∃ answer, (({} : Chunker).analyze (fun _ _ => some (reexportProgram identifierName)) (.whole 0)
        (reexportScript "modules") "a.ts").1 = .ok answer ∧
      IsComplete (reexportTree "modules" identifierName)
        (.ofRoot (reexportProgram identifierName)) answer := by
  have hscript : ({} : Chunker).lentFrontEnd "a.ts" = .script := by decide +kernel
  obtain ⟨answer, hanswer, _, hcomplete⟩ :=
    analyze_complete_iff (by decide) (readTree?_reexport "modules" identifierName) rfl
  refine ⟨answer, hanswer, (hcomplete fun language => ?_).1.mpr (Or.inl ?_)⟩
  · rw [hscript]
    exact FrontEnd.noConfusion
  · have hknown : ∀ statement ∈ (Cursor.ofRoot (reexportProgram
        identifierName)).namedChildrenOfKind "export_statement",
        (Script.exportsOf? (reexportTree "modules" identifierName) statement).isSome = true := by
      decide +kernel
    intro statement hstatement hnameless
    have hnone := hknown statement hstatement
    rw [Script.exportsOf?_eq_none_iff.mpr hnameless] at hnone
    exact absurd hnone (by decide)

/-- With a keyword as the name, the answer has neither the imports nor the function. -/
theorem analyze_loses_imports :
    ({} : Chunker).readTree? (fun _ _ => some (reexportProgram keywordName)) (.whole 0)
        (reexportScript "default") "a.ts" = some (reexportTree "default" keywordName) ∧
      (({} : Chunker).analyze (fun _ _ => some (reexportProgram keywordName)) (.whole 0)
        (reexportScript "default") "a.ts").1 = .ok {} ∧
      Script.imports (reexportTree "default" keywordName)
          ⟨.ofRoot (reexportProgram keywordName), none⟩ =
        [{ name := "a", source := "./a" },
          { name := "*", source := "./ns", isNamespace := true }] ∧
      ∃ statement ∈ (Cursor.ofRoot (reexportProgram keywordName)).namedChildrenOfKind
          "export_statement",
        Script.Gives (reexportTree "default" keywordName) statement
          ⟨"f", some "f", none, false⟩ := by
  have hanswer : interfaceOf .script (some (reexportTree "default" keywordName)) = {} := by
    decide +kernel
  have hscript : ({} : Chunker).lentFrontEnd "a.ts" = .script := by decide +kernel
  have hfunction : ∃ statement ∈ (Cursor.ofRoot (reexportProgram
      keywordName)).namedChildrenOfKind "export_statement",
      Script.exportsOf? (reexportTree "default" keywordName) statement =
        some [⟨"f", some "f", none, false⟩] := by
    decide +kernel
  refine ⟨readTree?_reexport "default" keywordName, ?_, by decide +kernel, ?_⟩
  · have hpool : ({} : Chunker).pool.releaseFault? = none := by decide
    unfold analyze
    rw [withTree_fst, hpool, readTree?_reexport, hscript, hanswer]
  · obtain ⟨statement, hstatement, hentries⟩ := hfunction
    exact ⟨statement, hstatement,
      Script.gives_of_mem_exportsOf? hentries (List.mem_singleton_self _)⟩

end Chunker

end ChunkGraph
