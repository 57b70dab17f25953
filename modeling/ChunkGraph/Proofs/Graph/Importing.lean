import ChunkGraph.Proofs.Chunker.Made
import ChunkGraph.Proofs.Graph.Precedence
import ChunkGraph.Proofs.Outline.Pieces

/-!
# What is exported can be imported

An import is looked up by the name that the chunks of a file are exported under,
and the names that a file exports are listed by its export statements. A chunk
has one such name, while the file can list several for the same declaration: the
name in its own export statement leads to the chunk, or else the last one that a
clause or a default export gives, and no other.

A chunk may have the name of something exported without being that: a type and a
value can share a name, and so can a function and an option of a component. Such
a chunk is not found, and is not meant to be.

## Main definitions

* `Chunker.CutFrom` — a chunk is cut from a statement.

## Main results

* `Chunker.exists_cutFrom` — every chunk of a script is cut from a statement.
* `Chunker.importable_of_exported` — an import of an exported name leads to the
  chunk, and no import of another name does.
* `Chunker.option_not_importable` — an option that has the name of a function
  which is exported.
-/

namespace ChunkGraph

theorem Chunk.exportKey_of_exportName {chunk : Chunk} {name : String}
    (h : chunk.exportName = some name) (hne : name ≠ "") : chunk.exportKey = name := by
  unfold exportKey
  rw [h]
  exact if_neg fun hempty => hne (String.isEmpty_iff.mp hempty)

namespace Chunker

open Syntax
open Script (Concerns)

/-- The chunk is cut from a statement of a script. -/
def CutFrom (c : Chunker) (tree : Tree) (root statement : Cursor) (path : String)
    (options : Options) (chunk : Chunk) : Prop :=
  ∃ tokenizer item, c.tokenizerFor? options = some tokenizer ∧
    Script.unwrap statement = some item ∧
    chunk ∈ Outline.declarationChunks
      (c.contextOf .script tree path options tokenizer root) item

section Scripts

variable {c : Chunker} {tree : Tree} {root statement : Cursor} {code path : String}
  {options : Options} {cut : List Chunk} {chunk : Chunk}

/-- Every chunk of a script is cut from a statement at the top level. -/
theorem exists_cutFrom (hroot : tree.rootCursor? = some root) (hmerge : options.mergeSmall = false)
    (hcut : c.chunksOf .script (some tree) code path options = .ok cut) (hchunk : chunk ∈ cut) :
    ∃ statement ∈ root.namedChildren, c.CutFrom tree root statement path options chunk := by
  obtain ⟨tokenizer, htokenizer, hchunk⟩ := exists_mem_outline hroot hmerge hcut hchunk
  obtain ⟨item, hitem, hchunk⟩ := List.mem_flatMap.mp hchunk
  obtain ⟨statement, hstatement, hunwrap⟩ := List.mem_filterMap.mp hitem
  exact ⟨statement, hstatement, tokenizer, item, htokenizer, hunwrap, hchunk⟩

/-- A chunk that is held by none and that an entry exports is exported under the name of the
entry. -/
theorem exported_of_concerns (hprogram : root.kind = "program")
    (hstatement : statement ∈ root.namedChildren)
    (hchunk : c.CutFrom tree root statement path options chunk) (hparent : chunk.parentId = none)
    {e : Export} (hconcerns : Concerns tree root e statement)
    (hlocal : e.localName = some chunk.name) :
    chunk.filePath = path ∧ chunk.exported = true ∧ chunk.exportKey = e.name := by
  obtain ⟨tokenizer, item, _, hunwrap, hchunk⟩ := hchunk
  obtain ⟨piece, hpiece, kind, name, facets, members, hname, hne, rfl⟩ := Outline.exists_pieceOf rfl
    (hconcerns.contains_kind hprogram hstatement hunwrap) hchunk hparent
  obtain ⟨hexported, hexportName, hfull⟩ := Script.exported_of_concerns hprogram hstatement
    hconcerns hunwrap hpiece hname hne hlocal
  refine ⟨rfl, hexported, Chunk.exportKey_of_exportName ?_ hfull⟩
  show (if Script.isExported tree piece then Script.exportName tree piece else none) = some e.name
  rw [if_pos hexported, hexportName]

end Scripts

/-- An exported chunk is among the exports of its file that a dependency on its name stands for. -/
theorem mem_moduleExports_of_exportKey {chunks : List Chunk} {chunk : Chunk} {d : Dependency}
    (hmem : chunk ∈ chunks) (hexported : chunk.exported = true) (hkey : chunk.exportKey = d.name)
    (hdefault : d.isDefault = true → d.name = "default") :
    chunk ∈ Builder.moduleExports (index chunks) d (Path.normalize chunk.filePath) := by
  have hexports : chunk ∈ exportsOf (index chunks) (Path.normalize chunk.filePath) :=
    mem_exportsOf.mpr ⟨hmem, rfl, hexported⟩
  have hnamed : chunk ∈ exportsNamed (index chunks) (Path.normalize chunk.filePath) d.name :=
    mem_exportsNamed.mpr ⟨hexports, hkey⟩
  rw [Builder.mem_moduleExports]
  split
  · exact hexports
  · split
    · rename_i hdefaultDependency
      rw [hdefault hdefaultDependency] at hnamed
      exact Or.inl hnamed
    · exact hnamed

/-- An import of a name leads to chunks that are exported under that name only. -/
theorem exportKey_of_mem_moduleExports {chunks : List Chunk} {chunk : Chunk} {d : Dependency}
    {path : String} (hkind : d.kind = .imported) (hspace : d.isNamespace = false)
    (hdefault : d.isDefault = true → d.name = "default")
    (h : chunk ∈ Builder.moduleExports (index chunks) d path) : chunk.exportKey = d.name := by
  have hone : ¬(d.isNamespace || (d.kind == .required && d.name != "*")) = true := by
    rw [hspace, hkind]
    exact Bool.false_ne_true
  rw [Builder.mem_moduleExports, if_neg hone] at h
  split at h
  · rename_i hdefaultDependency
    rw [hdefault hdefaultDependency] at h ⊢
    rcases h with h | ⟨_, h⟩
    · exact (mem_exportsNamed.mp h).2
    · exact (mem_exportsNamed.mp h).2
  · exact (mem_exportsNamed.mp h).2

/-- A dependency on a file means exports of that file only, if it stands for any of them. -/
theorem meaningOf_eq_moduleExports (b : Builder) {chunks : List Chunk} {asker chunk : Chunk}
    {d : Dependency} {path : String} (hkind : d.kind ≠ .reference)
    (hresolve : b.resolve? asker.filePath d.source = some path)
    (hfound : chunk ∈ Builder.moduleExports (index chunks) d path) :
    b.meaningOf (index chunks) d asker = Builder.moduleExports (index chunks) d path :=
  Builder.meaningOf_of_moduleExports hkind hresolve (List.ne_nil_of_mem hfound)

/-- Every chunk of a script that is held by none is cut from a statement at the top level, if
nothing is merged. If an entry of the exports of the file exports what that statement declares,
under the name of the chunk, an import of the entry by a specifier that stands for the file means
chunks of that file only, and the chunk is one of them. An import of any other name that the file
lists for it does not lead to the chunk. -/
theorem importable_of_exported (c : Chunker) (tree : Tree) (root : Cursor) (code path : String)
    (options : Options) (cut : List Chunk) (hroot : tree.rootCursor? = some root)
    (hprogram : root.kind = "program") (hmerge : options.mergeSmall = false)
    (hcut : c.chunksOf .script (some tree) code path options = .ok cut) :
    ∀ chunk ∈ cut, chunk.parentId = none →
      (∃ statement ∈ root.namedChildren, c.CutFrom tree root statement path options chunk) ∧
      ∀ statement ∈ root.namedChildren, c.CutFrom tree root statement path options chunk →
        ∀ e, Concerns tree root e statement → e.localName = some chunk.name →
          (∀ (b : Builder) (chunks : List Chunk) (asker : Chunk) (d : Dependency), chunk ∈ chunks →
            d.kind ≠ .reference → d.name = e.name → d.isDefault = e.isDefault →
            b.resolve? asker.filePath d.source = some (Path.normalize path) →
              chunk ∈ Builder.moduleExports (index chunks) d (Path.normalize path) ∧
                b.meaningOf (index chunks) d asker =
                  Builder.moduleExports (index chunks) d (Path.normalize path)) ∧
          ∀ origin other, Script.IsEntry tree root origin other → other.name ≠ e.name →
            ∀ (chunks : List Chunk) (d : Dependency), d.kind = .imported →
              d.isNamespace = false → d.name = other.name → d.isDefault = other.isDefault →
                chunk ∉ Builder.moduleExports (index chunks) d (Path.normalize path) := by
  intro chunk hchunk hparent
  refine ⟨exists_cutFrom hroot hmerge hcut hchunk, ?_⟩
  intro statement hstatement hfrom e hconcerns hlocal
  obtain ⟨hpath, hexported, hkey⟩ :=
    exported_of_concerns hprogram hstatement hfrom hparent hconcerns hlocal
  constructor
  · intro b chunks asker d hmem hkind hname hdefault hresolve
    have hdefaultName : d.isDefault = true → d.name = "default" := by
      intro hdefaultDependency
      obtain ⟨origin, hentry⟩ := hconcerns.exists_isEntry
      rw [hname, hentry.name_of_isDefault (hdefault ▸ hdefaultDependency)]
    have hfound : chunk ∈ Builder.moduleExports (index chunks) d (Path.normalize path) := by
      rw [← hpath]
      exact mem_moduleExports_of_exportKey hmem hexported (hkey.trans hname.symm) hdefaultName
    exact ⟨hfound, meaningOf_eq_moduleExports b hkind hresolve hfound⟩
  · intro origin other hentry hother chunks d hkind hspace hname hdefault hfound
    have hdefaultName : d.isDefault = true → d.name = "default" := by
      intro hdefaultDependency
      rw [hname, hentry.name_of_isDefault (hdefault ▸ hdefaultDependency)]
    have hfoundKey := exportKey_of_mem_moduleExports hkind hspace hdefaultName hfound
    exact hother (hname.symm.trans (hfoundKey.symm.trans hkey))

/-- The chunks of a script in a file `a.ts`, each for itself. -/
def chunksAlone (tree : Tree) : List Chunk :=
  (chunksOf {} .script (some tree) "" "a.ts" { mergeSmall := false }).toOption.getD []

theorem chunksOf_alone (tree : Tree) :
    chunksOf {} .script (some tree) "" "a.ts" { mergeSmall := false } = .ok (chunksAlone tree) := by
  obtain ⟨cut, hcut⟩ := exists_chunksOf_eq_ok {} .script (some tree) "" "a.ts"
    (fun hmerge => absurd hmerge (by decide) :
      ({ mergeSmall := false } : Options).mergeSmall = true → _)
  unfold chunksAlone
  rw [hcut]
  rfl

/-- A chunk in a file `b.ts`, which imports `a.ts`. -/
def importer : Chunk := { (default : Chunk) with filePath := "b.ts" }

/-- Resolves specifiers to `a.ts`. -/
def aloneResolver : Builder := { fileExists := (· == "a.ts") }

/-- Two variables in one statement, and an export of one of them under two other names. -/
def aliasedScript : String := "const f = () => 1, g = 2;\nexport \x7b f as w, f as x \x7d;\n"

/-- The variables. -/
def aliasedVariables : Node :=
  .mk "lexical_declaration" true "" 0 25
    [.mk "const" false "kind" 0 5 [],
      .mk "variable_declarator" true "" 6 17
        [.mk "identifier" true "name" 6 7 [], .mk "arrow_function" true "value" 10 17 []],
      .mk "variable_declarator" true "" 19 24
        [.mk "identifier" true "name" 19 20 [], .mk "number" true "value" 23 24 []]]

/-- The export. -/
def aliasedExport : Node :=
  .mk "export_statement" true "" 26 52
    [.mk "export" false "" 26 32 [],
      .mk "export_clause" true "" 33 51
        [.mk "export_specifier" true "" 35 41
          [.mk "identifier" true "name" 35 36 [], .mk "identifier" true "alias" 40 41 []],
        .mk "export_specifier" true "" 43 49
          [.mk "identifier" true "name" 43 44 [], .mk "identifier" true "alias" 48 49 []]]]

/-- The tree of that script. -/
def aliasedProgram : Node := .mk "program" true "" 0 53 [aliasedVariables, aliasedExport]

/-- Where the export stands. -/
def aliasedOrigin : Cursor := ⟨aliasedExport, [⟨aliasedProgram, [aliasedVariables]⟩]⟩

/-- The same with the text. -/
def aliasedTree : Tree :=
  { language := "typescript", source := Text.Utf8.encode aliasedScript.toList
    root := some aliasedProgram }

theorem importable_of_exported_alias :
    ∃ chunk ∈ chunksAlone aliasedTree, chunk.name = "f" ∧ chunk.parentId = none ∧
      aloneResolver.resolve? importer.filePath "./a" = some "a.ts" ∧
      (chunk ∈ Builder.moduleExports (index (chunksAlone aliasedTree))
          { name := "x", source := "./a" } "a.ts" ∧
        aloneResolver.meaningOf (index (chunksAlone aliasedTree))
            { name := "x", source := "./a" } importer =
          Builder.moduleExports (index (chunksAlone aliasedTree))
            { name := "x", source := "./a" } "a.ts") ∧
      chunk ∉ Builder.moduleExports (index (chunksAlone aliasedTree))
        { name := "w", source := "./a" } "a.ts" := by
  have hnames : (chunksAlone aliasedTree).map (fun c => (c.name, c.parentId)) = [("f", none)] := by
    decide +kernel
  obtain ⟨chunk, _, hchunks, hchunk, hrest⟩ := List.map_eq_cons_iff.mp hnames
  obtain rfl := List.map_eq_nil_iff.mp hrest
  obtain ⟨hname, hparent⟩ := Prod.mk.inj hchunk
  have hmem : chunk ∈ chunksAlone aliasedTree := by
    rw [hchunks]
    exact List.mem_singleton_self chunk
  have hresolve : aloneResolver.resolve? importer.filePath "./a" =
      some (Path.normalize "a.ts") := by decide
  obtain ⟨⟨statement, hstatement, hfrom⟩, hfound⟩ := importable_of_exported {} aliasedTree
    (.ofRoot aliasedProgram) "" "a.ts" { mergeSmall := false } _ rfl rfl rfl
    (chunksOf_alone aliasedTree) chunk hmem hparent
  have hentries : Script.exportsOf? aliasedTree aliasedOrigin =
      some [⟨"w", some "f", none, false⟩, ⟨"x", some "f", none, false⟩] := by
    decide +kernel
  have hconcerns : Concerns aliasedTree (.ofRoot aliasedProgram)
      ⟨"x", some "f", none, false⟩ statement := by
    rcases List.mem_cons.mp hstatement with rfl | hexport
    · have hentry : Script.IsEntry aliasedTree (.ofRoot aliasedProgram) aliasedOrigin
          ⟨"x", some "f", none, false⟩ :=
        ⟨List.mem_singleton_self _, _, hentries, List.mem_cons_of_mem _ List.mem_cons_self⟩
      refine .apart hentry ?_ ?_ ?_ ?_
      · decide
      · decide +kernel
      · decide
      · exact fun hkind => absurd hkind (by decide)
    · -- The export declares nothing, so no chunk is cut from it.
      obtain rfl := List.mem_singleton.mp hexport
      obtain ⟨_, item, _, hunwrap, _⟩ := hfrom
      have hnothing : Script.unwrap aliasedOrigin = none :=
        Script.unwrap_of_no_child? (by decide) rfl
      exact absurd (hnothing.symm.trans hunwrap) (by simp)
  obtain ⟨himported, hother⟩ := hfound statement hstatement hfrom ⟨"x", some "f", none, false⟩
    hconcerns (by rw [hname])
  refine ⟨chunk, hmem, hname, hparent, hresolve, ?_, ?_⟩
  · exact himported aloneResolver _ importer { name := "x", source := "./a" } hmem (by decide) rfl
      rfl hresolve
  · exact hother aliasedOrigin ⟨"w", some "f", none, false⟩
      ⟨List.mem_singleton_self _, _, hentries, List.mem_cons_self⟩ (by decide) _
      { name := "w", source := "./a" } rfl rfl rfl rfl

/-- A function, and a component with an option of the same name. -/
def optionScript : String :=
  "export function props() \x7b\x7d\nexport default \x7b props: [\"id\"] \x7d;\n"

/-- The tree of that script. -/
def optionTree : Tree :=
  { language := "typescript", source := Text.Utf8.encode optionScript.toList
    root := some (.mk "program" true "" 0 61
      [.mk "export_statement" true "" 0 26
        [.mk "export" false "" 0 6 [],
          .mk "function_declaration" true "declaration" 7 26
            [.mk "function" false "" 7 15 [], .mk "identifier" true "name" 16 21 []]],
      .mk "export_statement" true "" 27 60
        [.mk "export" false "" 27 33 [], .mk "default" false "" 34 41 [],
          .mk "object" true "value" 42 59
            [.mk "pair" true "" 44 57
              [.mk "property_identifier" true "key" 44 49 [],
                .mk "array" true "value" 51 57 [.mk "string" true "" 52 56 []]]]]]) }

/-- An option of a component is held by no chunk and may have the name of a function that is
exported. An import of that name means the function and not the option. -/
theorem option_not_importable :
    ¬∀ (c : Chunker) (tree : Tree) (root : Cursor) (code path : String) (options : Options)
        (cut : List Chunk), tree.rootCursor? = some root → root.kind = "program" →
      options.mergeSmall = false →
      c.chunksOf .script (some tree) code path options = .ok cut →
      ∀ e ∈ (interfaceOf .script (some tree)).exports, e.source = none →
        ∀ chunk ∈ cut, chunk.parentId = none → e.localName = some chunk.name →
          ∀ (b : Builder) (asker : Chunk) (d : Dependency), d.kind = .imported →
            d.name = e.name → d.isDefault = e.isDefault → d.isNamespace = false →
            Resolve.isRelative d.source = true →
            b.resolve? asker.filePath d.source = some (Path.normalize path) →
              chunk ∈ Builder.moduleExports (index cut) d (Path.normalize path) := by
  intro himportable
  have hnames : (chunksAlone optionTree).map (fun c => (c.name, c.parentId.isNone, c.exported)) =
      [("props", true, true), ("props", true, false), ("id", false, false)] := by
    decide +kernel
  obtain ⟨function, _, hchunks, _, hrest⟩ := List.map_eq_cons_iff.mp hnames
  obtain ⟨option, _, rfl, hoption, _⟩ := List.map_eq_cons_iff.mp hrest
  simp only [Prod.mk.injEq, Option.isNone_iff_eq_none] at hoption
  obtain ⟨hname, hparent, hunexported⟩ := hoption
  have hmem : option ∈ chunksAlone optionTree := by
    rw [hchunks]
    exact List.mem_cons_of_mem _ List.mem_cons_self
  have hentry : (⟨"props", some "props", none, false⟩ : Export) ∈
      (interfaceOf .script (some optionTree)).exports := by decide +kernel
  have hresolve : aloneResolver.resolve? importer.filePath "./a" =
      some (Path.normalize "a.ts") := by decide
  have hfound := himportable {} optionTree _ "" "a.ts" { mergeSmall := false } _ rfl rfl rfl
    (chunksOf_alone optionTree) _ hentry rfl option hmem hparent (by rw [hname]) aloneResolver
    importer { name := "props", source := "./a" } rfl rfl rfl rfl (by decide) hresolve
  have hexported := (mem_exportsOf.mp (mem_exportsNamed.mp hfound).1).2.2
  exact absurd (hexported.symm.trans hunexported) (by decide)

end Chunker

end ChunkGraph
