import ChunkGraph.Proofs.Chunker.Made
import ChunkGraph.Proofs.Graph.Merging
import ChunkGraph.Proofs.Graph.Precedence
import ChunkGraph.Proofs.Outline.Members

/-!
# Members among the exports of a module

An import is looked up among all chunks of a module that are exported, and not
only among those at its top level. Whether a member is exported is for the
front end to say. In a script only what a namespace exports is, so classes and
components keep their members to themselves. The other languages judge a member
by its own declaration, whatever it stands in. A method of a Python class is
taken for an export of its module unless its name begins with an underscore, and
an import of a function means the methods of the same name as well.

## Main definitions

* `ChunkedFile` — a file with the chunks that a chunker returns for it.
* `Chunk.Judged` — what decides whether a chunk is exported.

## Main results

* `ChunkedFile.exists_judged` — every chunk of a file is judged by its language.
* `ChunkedFile.members_imported_iff` — when an import leads to a member.
* `ChunkedFile.import_leads_to_method` — an import that does.
-/

namespace ChunkGraph

open Number Syntax

/-! ## What is exported -/

namespace Generic

variable {tree : Tree} {item : Item} {name : String}

/-- A declaration of Python is exported unless its name begins with an underscore. -/
theorem isExported_python (hname : nameOf tree item = some name) (hne : name ≠ "") :
    isExported "python" tree item = true ↔ name.toList.head? ≠ some '_' := by
  obtain ⟨first, rest, hletters⟩ := List.exists_cons_of_ne_nil (mt String.toList_eq_nil_iff.mp hne)
  unfold isExported
  rw [hname, Option.map_some, hletters]
  simp

/-- A declaration of Go is exported if its name begins with a capital letter. -/
theorem isExported_go (hname : nameOf tree item = some name) (hne : name ≠ "") :
    isExported "go" tree item = true ↔ name.toList.head?.any Text.isUpper = true := by
  obtain ⟨first, rest, hletters⟩ := List.exists_cons_of_ne_nil (mt String.toList_eq_nil_iff.mp hne)
  unfold isExported
  rw [hname, Option.map_some, hletters]
  simp

end Generic

/-- What decides whether a chunk is exported. -/
structure Chunk.Judged (ctx : Outline.Context) (root : Cursor) (chunk : Chunk) : Prop where
  /-- Its declaration decides. -/
  declared : ∃ item, ctx.frontEnd.nameOf ctx.tree item = some chunk.name ∧
    chunk.exported = ctx.frontEnd.isExported ctx.tree item
  /-- In a script nothing but a namespace holds a chunk that is exported. -/
  script : ctx.frontEnd.ReadsScripts → root.Everywhere Script.ClassBodied →
    chunk.exported = true → chunk.parentId ≠ none →
      ∃ holder ∈ Outline.outline ctx root, holder.kind = .namespaceDecl ∧
        chunk.parentId = some holder.id
  /-- In Python only an underscore keeps it back. -/
  python : ctx.frontEnd = .generic "python" →
    (chunk.exported = true ↔ chunk.name.toList.head? ≠ some '_')
  /-- In Go only its capital letter counts. -/
  go : ctx.frontEnd = .generic "go" →
    (chunk.exported = true ↔ chunk.name.toList.head?.any Text.isUpper = true)

namespace Chunker

/-- Merged or not, a chunk looks to others like one that has been cut. -/
theorem exists_face_of_finish {options : Options} {code : String} {outlined cut : List Chunk}
    {chunk : Chunk} (h : finish options code outlined = .ok cut) (hchunk : chunk ∈ cut) :
    ∃ head ∈ outlined, chunk.face = head.face := by
  rcases finish_eq_ok h with ⟨_, rfl⟩ | ⟨_, rfl⟩
  · exact ⟨chunk, hchunk, rfl⟩
  · obtain ⟨g, hg, rfl⟩ := mem_mergeSmall_iff.mp hchunk
    exact ⟨g.head, head_mem_of_mem_groups hg, g.face_merged⟩

/-- What looks like a chunk that is cut from a tree is judged by the language of the tree. -/
theorem judged_of_outline {c : Chunker} {frontEnd : FrontEnd} {tree : Tree} {root : Cursor}
    {path : String} {options : Options} {tokenizer : Tokenizer} {head chunk : Chunk}
    (htokenizer : c.tokenizerFor? options = some tokenizer)
    (hhead : head ∈ Outline.outline (c.contextOf frontEnd tree path options tokenizer root) root)
    (hface : chunk.face = head.face) :
    chunk.filePath = path ∧
      chunk.Judged (c.contextOf frontEnd tree path options tokenizer root) root := by
  have hpath : chunk.filePath = head.filePath := (congrArg Chunk.filePath hface :)
  have hname : chunk.name = head.name := (congrArg Chunk.name hface :)
  have hexported : chunk.exported = head.exported := (congrArg Chunk.exported hface :)
  have hparent : chunk.parentId = head.parentId := (congrArg Chunk.parentId hface :)
  obtain ⟨item, hmade⟩ := exists_madeFrom_of_outline htokenizer hhead
  obtain ⟨hnamed, hfull⟩ := hmade.nameOf_eq
  rw [← hname] at hnamed hfull
  have hdeclared := hexported.trans hmade.exported_eq
  refine ⟨hpath.trans hmade.filePath_eq, ?_⟩
  exact
    { declared := ⟨item, hnamed, hdeclared⟩
      script := by
        intro hscript hclasses hyes hheld
        rw [hexported] at hyes
        rw [hparent] at hheld ⊢
        rcases Outline.namespaceHeld_of_outline hscript hclasses hhead hyes with hnone | hholder
        · exact absurd hnone hheld
        · exact hholder
      python := by
        rintro rfl
        rw [hdeclared]
        exact Generic.isExported_python hnamed hfull
      go := by
        rintro rfl
        rw [hdeclared]
        exact Generic.isExported_go hnamed hfull }

end Chunker

/-! ## Files -/

/-- A file with the chunks that a chunker returns for it. -/
structure ChunkedFile where
  /-- What parses the text. -/
  parser : Parser
  /-- The time of the call. -/
  now : Quantity
  /-- The chunker. -/
  chunker : Chunker
  /-- The text. -/
  code : String
  /-- The path. -/
  path : String
  /-- The options of the call, if it brings any. -/
  options : Option Options
  /-- The chunks. -/
  chunks : List Chunk
  /-- They are what the chunker returns. -/
  returned : (chunker.chunkCode parser now code path options).1 = .ok chunks

namespace ChunkedFile

/-- The chunks of all files. -/
def allChunks (files : List ChunkedFile) : List Chunk := files.flatMap (·.chunks)

/-- The front end and the tree can be those that the file is cut with. -/
def ReadBy (file : ChunkedFile) (frontEnd : FrontEnd) (tree : Tree) : Prop :=
  (frontEnd ∈ file.chunker.pool.shelf
      (poolKey (FrontEnd.kindFor (file.chunker.registry.detectPath file.path)) (some file.path)) ∨
    frontEnd = file.chunker.frontEndOf file.path) ∧
  ((∃ entry, file.chunker.trees.entries.lookup file.path = some entry ∧ entry.value = tree) ∨
    frontEnd.parse? file.parser file.code file.path = some tree)

/-- The chunks of a file have its path, and its language says which are exported. -/
theorem exists_judged (file : ChunkedFile) {chunk : Chunk} (hchunk : chunk ∈ file.chunks) :
    chunk.filePath = file.path ∧ ∃ ctx root, file.ReadBy ctx.frontEnd ctx.tree ∧
      ctx.tree.rootCursor? = some root ∧ chunk.Judged ctx root := by
  obtain ⟨frontEnd, tree?, hfrontEnd, htree?, hcut⟩ :=
    Chunker.exists_chunksOf_of_chunkCode file.returned
  obtain ⟨tree, root, tokenizer, rfl, hroot, htokenizer, _, hfinish⟩ :=
    Chunker.exists_outline_of_mem hcut hchunk
  obtain ⟨head, hhead, hface⟩ := Chunker.exists_face_of_finish hfinish hchunk
  obtain ⟨hpath, hjudged⟩ := Chunker.judged_of_outline htokenizer hhead hface
  exact ⟨hpath, _, root, ⟨hfrontEnd, htree? tree rfl⟩, hroot, hjudged⟩

variable {files : List ChunkedFile} {d : Dependency} {path : String} {member : Chunk}

/-- The exports of a path are the exported chunks of its files. -/
theorem mem_exportedIn : member ∈ exportedIn (allChunks files) path ↔
    ∃ file ∈ files, Path.normalize file.path = path ∧ member ∈ file.chunks ∧
      member.exported = true := by
  constructor
  · intro h
    obtain ⟨hall, hexported⟩ := List.mem_filter.mp h
    obtain ⟨hyes, hplace⟩ := Bool.and_eq_true_iff.mp hexported
    obtain ⟨file, hfile, hmember⟩ := List.mem_flatMap.mp hall
    rw [(file.exists_judged hmember).1] at hplace
    exact ⟨file, hfile, eq_of_beq hplace, hmember, hyes⟩
  · rintro ⟨file, hfile, hplace, hmember, hyes⟩
    refine List.mem_filter.mpr ⟨List.mem_flatMap.mpr ⟨file, hfile, hmember⟩, ?_⟩
    rw [(file.exists_judged hmember).1, hyes, hplace]
    exact beq_self_eq_true path

/-- The lookup in a module returns those of its exports that the dependency can mean. -/
theorem mem_moduleExports : member ∈ Builder.moduleExports (index (allChunks files)) d path ↔
    (∃ file ∈ files, Path.normalize file.path = path ∧ member ∈ file.chunks ∧
      member.exported = true) ∧ d.CanMean (exportedIn (allChunks files) path) member := by
  rw [(Builder.moduleExports_perm _ d path).mem_iff, ← mem_exportedIn, Dependency.meantAmong,
    List.mem_filter, decide_eq_true_iff]

/-- Of what the lookup in a module returns for an import, some chunk is held by another one exactly
if the module has an exported chunk that is held and that the import can mean. All that is returned
is what the import means. A chunk of the module is exported if its declaration is, so that in a
script a namespace holds it, and in Python and Go its name alone decides. -/
theorem members_imported_iff (b : Builder) (files : List ChunkedFile) (asker : Chunk)
    (d : Dependency) (path : String) (hkind : d.kind ≠ .reference)
    (hresolve : b.resolve? asker.filePath d.source = some path) :
    ((∃ member ∈ Builder.moduleExports (index (allChunks files)) d path,
        member.parentId ≠ none) ↔
      ∃ file ∈ files, Path.normalize file.path = path ∧ ∃ member ∈ file.chunks,
        member.parentId ≠ none ∧ member.exported = true ∧
          d.CanMean (exportedIn (allChunks files) path) member) ∧
    (∀ member ∈ Builder.moduleExports (index (allChunks files)) d path,
      member ∈ b.meaningOf (index (allChunks files)) d asker) ∧
    ∀ file ∈ files, ∀ member ∈ file.chunks, ∃ ctx root,
      file.ReadBy ctx.frontEnd ctx.tree ∧ ctx.tree.rootCursor? = some root ∧
        member.Judged ctx root := by
  refine ⟨⟨?_, ?_⟩, ?_, fun file _ member hmember => (file.exists_judged hmember).2⟩
  · rintro ⟨member, hmember, hheld⟩
    obtain ⟨⟨file, hfile, hplace, hmember, hyes⟩, hmeans⟩ := mem_moduleExports.mp hmember
    exact ⟨file, hfile, hplace, member, hmember, hheld, hyes, hmeans⟩
  · rintro ⟨file, hfile, hplace, member, hmember, hheld, hyes, hmeans⟩
    exact ⟨member, mem_moduleExports.mpr ⟨⟨file, hfile, hplace, hmember, hyes⟩, hmeans⟩, hheld⟩
  · intro member hmember
    rw [Builder.meaningOf_of_moduleExports hkind hresolve (List.ne_nil_of_mem hmember)]
    exact hmember

/-- A class with a method, and a function of the same name. -/
def runModule : String := "class C:\n    def run(self):\n        pass\n\ndef run():\n    pass\n"

/-- A function that calls the imported one. -/
def runScript : String := "from .m import run\n\ndef f():\n    return run()\n"

/-- The tree of the module. -/
def runModuleTree : Node :=
  .mk "module" true "" 0 62
    [.mk "class_definition" true "" 0 40
      [.mk "identifier" true "name" 6 7 [],
        .mk "block" true "body" 13 40
          [.mk "function_definition" true "" 13 40 [.mk "identifier" true "name" 17 20 []]]],
      .mk "function_definition" true "" 42 61 [.mk "identifier" true "name" 46 49 []]]

/-- The tree of the script. -/
def runScriptTree : Node :=
  .mk "module" true "" 0 46
    [.mk "import_from_statement" true "" 0 18
      [.mk "relative_import" true "module_name" 5 7 [], .mk "dotted_name" true "name" 15 18 []],
      .mk "function_definition" true "" 20 45
        [.mk "identifier" true "name" 24 25 [],
          .mk "block" true "body" 33 45
            [.mk "return_statement" true "" 33 45
              [.mk "call" true "" 40 45 [.mk "identifier" true "function" 40 43 []]]]]]

/-- Parses the two files. -/
def runParser : Parser := fun _ text =>
  some (if text = runModule then runModuleTree else runScriptTree)

/-- What a new chunker cuts a file into. -/
def runChunks (code path : String) : List Chunk :=
  (Chunker.chunkCode runParser (.whole 0) {} code path none).1.toOption.getD []

/-- The module, cut. -/
def runModuleFile : ChunkedFile where
  parser := runParser
  now := .whole 0
  chunker := {}
  code := runModule
  path := "m.py"
  options := none
  chunks := runChunks runModule "m.py"
  returned := by decide +kernel

/-- The script, cut. -/
def runScriptFile : ChunkedFile where
  parser := runParser
  now := .whole 0
  chunker := {}
  code := runScript
  path := "main.py"
  options := none
  chunks := runChunks runScript "main.py"
  returned := by decide +kernel

/-- Resolves specifiers to the module. -/
def runResolver : Builder := { fileExists := (· == "m.py") }

/-- The import of the function. -/
def runImport : Dependency := { name := "run", source := "./m" }

/-- The function of the script depends on the import, which resolves to the module and can mean the
method. -/
theorem exists_importing :
    (∃ asker ∈ runScriptFile.chunks, runImport ∈ asker.dependencies ∧
      runResolver.resolve? asker.filePath runImport.source = some "m.py") ∧
      Path.normalize runModuleFile.path = "m.py" ∧
      ∃ method ∈ runModuleFile.chunks, method.qualifiedName = "C.run" ∧ method.parentId ≠ none ∧
        method.exported = true ∧
        runImport.CanMean (exportedIn (allChunks [runModuleFile, runScriptFile]) "m.py")
          method := by
  decide +kernel

theorem members_imported_iff_method :
    ∃ asker ∈ runScriptFile.chunks, runImport ∈ asker.dependencies ∧
      runImport.kind ≠ .reference ∧
      runResolver.resolve? asker.filePath runImport.source = some "m.py" ∧
      ∃ member ∈ runResolver.meaningOf (index (allChunks [runModuleFile, runScriptFile])) runImport
        asker, member.parentId ≠ none := by
  obtain ⟨⟨asker, hasker, himport, hresolve⟩, hplace, method, hmethod, -, hheld, hexported,
    hmeans⟩ := exists_importing
  have hkind : runImport.kind ≠ .reference := by decide
  obtain ⟨hiff, hmeant, -⟩ := members_imported_iff runResolver [runModuleFile, runScriptFile] asker
    runImport "m.py" hkind hresolve
  obtain ⟨member, hmember, hmemberHeld⟩ := hiff.mpr
    ⟨runModuleFile, List.mem_cons_self, hplace, method, hmethod, hheld, hexported, hmeans⟩
  exact ⟨asker, hasker, himport, hkind, hresolve, member, hmeant member hmember, hmemberHeld⟩

/-- An import of a function leads to the method of that name as well. -/
theorem import_leads_to_method :
    ¬∀ (b : Builder) (files : List ChunkedFile), ∀ asker ∈ allChunks files,
      ∀ d ∈ asker.dependencies, d.kind ≠ .reference →
        ∀ path, b.resolve? asker.filePath d.source = some path →
          ∀ found ∈ Builder.moduleExports (index (allChunks files)) d path,
            found.parentId = none := by
  intro hfree
  obtain ⟨⟨asker, hasker, himport, hresolve⟩, hplace, method, hmethod, -, hheld, hexported,
    hmeans⟩ := exists_importing
  have hasked : asker ∈ allChunks [runModuleFile, runScriptFile] :=
    List.mem_flatMap.mpr ⟨runScriptFile, List.mem_cons_of_mem _ List.mem_cons_self, hasker⟩
  have hmeant := mem_moduleExports.mpr
    ⟨⟨runModuleFile, List.mem_cons_self, hplace, hmethod, hexported⟩, hmeans⟩
  exact hheld (hfree runResolver [runModuleFile, runScriptFile] asker hasked runImport himport
    (by decide) "m.py" hresolve method hmeant)

end ChunkedFile

end ChunkGraph
