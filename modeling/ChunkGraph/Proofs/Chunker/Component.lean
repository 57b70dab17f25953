import ChunkGraph.Proofs.Chunker.Cutting
import ChunkGraph.Proofs.FrontEnd.Statements
import ChunkGraph.Proofs.Outline.Component

/-!
# Components and scripts

A component is cut into the chunks that its script has as a file of its own,
further down by the lines in front of the script. So it makes no difference to
the chunks whether a script is kept in a component or beside it, and no front
end is preferred.

## Main results

* `Component.parse?_eq_map` — the tree of a component is that of its script.
* `Chunker.cut?_inComponent` — the chunks of the two trees.
* `Chunker.component_mirrors_script` — the chunks of the two files.
-/

namespace ChunkGraph

open Number Syntax

/-- A component is parsed as its script, further down. -/
theorem Component.parse?_eq_map {code script : String} {lines : Nat} {grammar : String}
    (hblock : Component.scriptBlock? code = some (script, lines, grammar))
    (hblank : Text.allBlank script.toList = false) (parser : Parser) :
    ∃ optionsApi : Tree → Bool, Component.parse? parser code =
      (Script.parse? parser grammar script 0).map fun tree =>
        tree.inComponent lines (optionsApi tree) := by
  unfold Component.parse? Script.parse?
  rw [hblock]
  simp only [hblank, Bool.false_eq_true, if_false, Option.map_map]
  exact ⟨fun tree => ((tree.inComponent lines false).rootCursor?.map (·.namedChildren)).getD []
    |>.any fun c => Script.isComponentOptions (tree.inComponent lines false) ⟨c, none⟩, rfl⟩

namespace Chunker

/-! ## The front ends of the two files -/

theorem detectPath_standard (path : String) :
    Registry.standard.detectPath path =
      (Registry.standard.languageOf.lookup (String.ofList (Path.lowerSuffix path))).getD
        Registry.standard.default := by
  rw [Registry.detectPath, Registry.detect, lowerText, String.toList_ofList]
  rfl

section Paths

variable {c : Chunker} (hregistry : c.registry = .standard) {path : String}

include hregistry

theorem frontEndOf_component (hsuffix : Path.lowerSuffix path = ".vue".toList) :
    c.frontEndOf path = .component := by
  unfold frontEndOf
  rw [hregistry, detectPath_standard, hsuffix]
  have hkind : FrontEnd.kindFor ((Registry.standard.languageOf.lookup
      (String.ofList ".vue".toList)).getD Registry.standard.default) = FrontEnd.componentKind := by
    decide +kernel
  rw [hkind]
  rfl

theorem frontEndOf_script (hsuffix : Path.lowerSuffix path = ".ts".toList) :
    c.frontEndOf path = .script := by
  unfold frontEndOf
  rw [hregistry, detectPath_standard, hsuffix]
  have hkind : FrontEnd.kindFor ((Registry.standard.languageOf.lookup
      (String.ofList ".ts".toList)).getD Registry.standard.default) = FrontEnd.scriptKind := by
    decide +kernel
  rw [hkind]
  rfl

end Paths

/-! ## The trees of the two files -/

section Trees

variable {c : Chunker} {code script componentPath scriptPath : String} {lines : Nat}
  (hscript : c.frontEndOf scriptPath = .script)
  (hsuffix : Path.lowerSuffix scriptPath = ".ts".toList)

include hscript hsuffix

/-- The tree of a script in its own file. -/
theorem treeOf_typescript (parser : Parser) :
    c.treeOf parser script scriptPath =
      if (c.trees.capacity.fault? ">=" Bound.countType).isSome then none
      else Script.parse? parser "typescript" script 0 := by
  have hgrammar : FrontEnd.grammarForPath scriptPath = "typescript" := by
    unfold FrontEnd.grammarForPath
    rw [hsuffix]
    decide +kernel
  unfold treeOf parsedWith
  rw [hscript, ← hgrammar]
  rfl

theorem language_treeOf {parser : Parser} {tree : Tree}
    (h : c.treeOf parser script scriptPath = some tree) : tree.language = "typescript" := by
  rw [treeOf_typescript hscript hsuffix] at h
  split at h
  · exact absurd h (by simp)
  · obtain ⟨root, _, rfl⟩ := Option.map_eq_some_iff.mp h
    rfl

/-- The tree of a component is that of its script, further down. -/
theorem treeOf_component (hcomponent : c.frontEndOf componentPath = .component)
    (hblock : Component.scriptBlock? code = some (script, lines, "typescript"))
    (hblank : Text.allBlank script.toList = false) (parser : Parser) :
    ∃ optionsApi : Tree → Bool, c.treeOf parser code componentPath =
      (c.treeOf parser script scriptPath).map fun tree =>
        tree.inComponent lines (optionsApi tree) := by
  obtain ⟨optionsApi, hparse⟩ := Component.parse?_eq_map hblock hblank parser
  refine ⟨optionsApi, ?_⟩
  rw [treeOf_typescript hscript hsuffix]
  unfold treeOf parsedWith
  rw [hcomponent]
  split
  · rfl
  · exact hparse

end Trees

/-! ## The chunks of the two trees -/

/-- The tree of a script is cut into the same chunks inside a component, or in neither file they can
be counted. -/
theorem cut?_inComponent (c : Chunker) {tree : Tree} (hlanguage : tree.language = "typescript")
    (componentPath scriptPath : String) (lines : Nat) (optionsApi : Bool) (options : Options) :
    (c.cut? .component (tree.inComponent lines optionsApi) componentPath options = none ∧
      c.cut? .script tree scriptPath options = none) ∨
    ∃ twins, Outline.Twins lines componentPath scriptPath none twins ∧
      c.cut? .component (tree.inComponent lines optionsApi) componentPath options =
        some (twins.map Prod.fst) ∧
      c.cut? .script tree scriptPath options = some (twins.map Prod.snd) := by
  cases hroot : tree.rootCursor? with
  | none =>
      have hroot' : (tree.inComponent lines optionsApi).rootCursor? = none := hroot
      exact Or.inr ⟨[], .nil, cut?_of_no_root hroot', cut?_of_no_root hroot⟩
  | some root =>
      have hroot' : (tree.inComponent lines optionsApi).rootCursor? = some root := hroot
      cases htokenizer : c.tokenizerFor? options with
      | none =>
          exact Or.inl ⟨cut?_of_no_tokenizer hroot' htokenizer,
            cut?_of_no_tokenizer hroot htokenizer⟩
      | some tokenizer =>
          have hcontext : c.contextOf .component (tree.inComponent lines optionsApi) componentPath
              options tokenizer root =
                (c.contextOf .script tree scriptPath options tokenizer root).inComponent
                  componentPath lines optionsApi := rfl
          have hmatched : Outline.Matched lines componentPath
              (c.contextOf .script tree scriptPath options tokenizer root).filePath none
              (Outline.outline ((c.contextOf .script tree scriptPath options tokenizer
                root).inComponent componentPath lines optionsApi) root)
              (Outline.outline (c.contextOf .script tree scriptPath options tokenizer root) root) :=
            Outline.matched_outline rfl hlanguage root
          obtain ⟨twins, htwins, hfst, hsnd⟩ := hmatched
          have hcounted : (twins.map Prod.fst).all (·.tokenCount.isSome) =
              (twins.map Prod.snd).all (·.tokenCount.isSome) := by
            rw [Bool.eq_iff_iff, List.all_map, List.all_map, List.all_eq_true, List.all_eq_true]
            refine forall₂_congr fun twin htwin => ?_
            obtain ⟨_, hangs⟩ := htwins.exists_areTwins htwin
            show twin.1.tokenCount.isSome = true ↔ twin.2.tokenCount.isSome = true
            rw [hangs.mirrors.tokenCount_eq]
          rw [cut?_of_root hroot' htokenizer, cut?_of_root hroot htokenizer, hcontext, ← hfst,
            ← hsnd, hcounted]
          split
          · exact Or.inr ⟨twins, htwins, rfl, rfl⟩
          · exact Or.inl ⟨rfl, rfl⟩

/-! ## The chunks of the two files -/

/-- A new chunker that does not merge cuts a component into the chunks that it cuts the script into,
further down by the lines in front of the script, whatever the script is parsed to. -/
theorem component_mirrors_script (parser : Parser) (now now' : Quantity) (encoding : Encoding)
    (options : Options) (rules : List Rule) (given : Option Options) (made : Chunker)
    (code script : String) (lines : Nat) (componentPath scriptPath : String)
    (hmade : create encoding options rules = .ok made) (hpool : options.poolSize.isNumber = true)
    (hmerge : (given.getD options).mergeSmall = false)
    (hcomponent : Path.lowerSuffix componentPath = ".vue".toList)
    (hscript : Path.lowerSuffix scriptPath = ".ts".toList)
    (hblock : Component.scriptBlock? code = some (script, lines, "typescript"))
    (hblank : Text.allBlank script.toList = false) :
    ∃ twins : List (Chunk × Chunk),
      (made.chunkCode parser now code componentPath given).1 = .ok (twins.map Prod.fst) ∧
      (made.chunkCode parser now' script scriptPath given).1 = .ok (twins.map Prod.snd) ∧
      (∀ twin ∈ twins, twin.1.Mirrors lines twin.2) ∧
      Outline.SameLinks componentPath scriptPath twins := by
  obtain ⟨hoptions, hregistry⟩ := create_options hmade
  have hfaults : made.pool.releaseFault? = none := by
    rw [(create_eq_ok hmade).2]
    exact Bound.fault?_of_isNumber hpool _ _
  have hunmerged : (given.getD made.options).mergeSmall = false := hoptions ▸ hmerge
  have hrun (time : Quantity) (text path : String) :
      (made.chunkCode parser time text path given).1 =
        made.chunksOf (made.frontEndOf path) (made.treeOf parser text path) text path
          (given.getD made.options) := by
    obtain ⟨htrees, hshelves⟩ := entries_of_create hmade
    rw [chunkCode_of_empty htrees hshelves, hfaults]
    rfl
  have hcomponentEnd := frontEndOf_component hregistry hcomponent
  have hscriptEnd := frontEndOf_script hregistry hscript
  obtain ⟨optionsApi, htrees⟩ :=
    treeOf_component hscriptEnd hscript hcomponentEnd hblock hblank parser
  rw [hrun, hrun, htrees, hcomponentEnd, hscriptEnd]
  cases htree : made.treeOf parser script scriptPath with
  | none => exact ⟨[], rfl, rfl, by simp, Outline.SameLinks.nil componentPath scriptPath⟩
  | some tree =>
      have hlanguage := language_treeOf hscriptEnd hscript htree
      rw [Option.map_some]
      unfold chunksOf
      rw [Option.bind_some, Option.bind_some]
      rcases made.cut?_inComponent hlanguage componentPath scriptPath lines (optionsApi tree)
        (given.getD made.options) with ⟨hnone, hnone'⟩ | ⟨twins, htwins, hcut, hcut'⟩
      · rw [hnone, hnone']
        exact ⟨[], rfl, rfl, by simp, Outline.SameLinks.nil componentPath scriptPath⟩
      · rw [hcut, hcut']
        refine ⟨twins, finish_of_unmerged hunmerged, finish_of_unmerged hunmerged, ?_,
          htwins.sameLinks⟩
        intro twin htwin
        obtain ⟨_, hangs⟩ := htwins.exists_areTwins htwin
        exact hangs.mirrors

/-- A script that exports an object of options, one of its properties not being an option. -/
def optionsSource : String :=
  "\nexport default \x7b\n  name: 'x',\n  data() \x7b\x7d,\n  methods: \x7b go() \x7b\x7d \x7d\n\x7d\n"

/-- A component with that script. -/
def optionsComponent : String := "<p/>\n<script lang=\"ts\">" ++ optionsSource ++ "</script>\n"

/-- The syntax tree of that script. -/
def optionsProgram : Node :=
  .mk "program" true "" 1 69
    [.mk "export_statement" true "" 1 68
      [.mk "export" false "" 1 7 [],
       .mk "default" false "" 8 15 [],
       .mk "object" true "value" 16 68
        [.mk "pair" true "" 20 29
          [.mk "property_identifier" true "key" 20 24 [],
           .mk "string" true "value" 26 29 []],
         .mk "method_definition" true "" 33 42
          [.mk "property_identifier" true "name" 33 37 [],
           .mk "formal_parameters" true "parameters" 37 39 [],
           .mk "statement_block" true "body" 40 42 []],
         .mk "pair" true "" 46 66
          [.mk "property_identifier" true "key" 46 53 [],
           .mk "object" true "value" 55 66
            [.mk "method_definition" true "" 57 64
              [.mk "property_identifier" true "name" 57 59 [],
               .mk "formal_parameters" true "parameters" 59 61 [],
               .mk "statement_block" true "body" 62 64 []]]]]]]

/-- What that script is parsed to. -/
def optionsTree : Tree :=
  { language := "typescript", source := Text.Utf8.encode optionsSource.toList
    root := some optionsProgram }

/-- What the rules are told about it by a new chunker that does not merge. -/
def optionsContext : Outline.Context :=
  contextOf {} .script optionsTree "a.ts" { mergeSmall := false } .estimate (.ofRoot optionsProgram)

theorem outline_optionsContext :
    Outline.outline optionsContext (.ofRoot optionsProgram) =
      ((Cursor.ofRoot optionsProgram).namedChildren.map fun c => (⟨c, none⟩ : Item)).flatMap
        (Outline.declarationChunks optionsContext) := by
  rw [← Script.declarationsIn_of_values (by decide)]
  rfl

theorem component_mirrors_script_options :
    ∃ twins : List (Chunk × Chunk),
      (chunkCode (fun _ _ => some optionsProgram) (.whole 0) {} optionsComponent "a.vue"
        (some { mergeSmall := false })).1 = .ok (twins.map Prod.fst) ∧
      (chunkCode (fun _ _ => some optionsProgram) (.whole 0) {} optionsSource "a.ts"
        (some { mergeSmall := false })).1 = .ok (twins.map Prod.snd) ∧
      (twins.map Prod.snd).map (fun c => (c.qualifiedName, c.kind)) =
        [("data", .functionDecl), ("methods", .topLevelDecl), ("methods.go", .methodDecl)] ∧
      Outline.DigestsDistinct "a.vue" (twins.map Prod.fst) ∧
      Outline.DigestsDistinct "a.ts" (twins.map Prod.snd) ∧
      (∀ twin ∈ twins, twin.1.Mirrors 1 twin.2) ∧ Outline.SameLinks "a.vue" "a.ts" twins := by
  have hmade : create .unavailable {} Rule.all = .ok {} := rfl
  obtain ⟨twins, hcomponent, hscript, hmirrors, hlinks⟩ :=
    component_mirrors_script (fun _ _ => some optionsProgram) (.whole 0) (.whole 0) .unavailable {}
      Rule.all (some { mergeSmall := false }) {} optionsComponent optionsSource 1 "a.vue" "a.ts"
      hmade (by decide) rfl (by decide +kernel) (by decide +kernel) (by decide +kernel)
      (by decide +kernel)
  have htree : ({} : Chunker).treeOf (fun _ _ => some optionsProgram) optionsSource "a.ts" =
      some optionsTree := rfl
  have hroot : optionsTree.rootCursor? = some (.ofRoot optionsProgram) := rfl
  have htokenizer : ({} : Chunker).tokenizerFor? { mergeSmall := false } = some .estimate := rfl
  have hcounted : (Outline.outline optionsContext (.ofRoot optionsProgram)).all
      (·.tokenCount.isSome) = true := by
    rw [outline_optionsContext]
    decide +kernel
  have hrun : (chunkCode (fun _ _ => some optionsProgram) (.whole 0) {} optionsSource "a.ts"
      (some { mergeSmall := false })).1 =
        .ok (Outline.outline optionsContext (.ofRoot optionsProgram)) :=
    chunkCode_eq_finish hmade rfl rfl (.whole 0) htree hroot htokenizer hcounted
  have hnames : (twins.map Prod.snd).map (fun c => (c.qualifiedName, c.kind)) =
      [("data", .functionDecl), ("methods", .topLevelDecl), ("methods.go", .methodDecl)] := by
    rw [← Except.ok.inj (hrun.symm.trans hscript), outline_optionsContext]
    decide +kernel
  have hnames' : (twins.map Prod.fst).map (fun c => (c.qualifiedName, c.kind)) =
      [("data", .functionDecl), ("methods", .topLevelDecl), ("methods.go", .methodDecl)] := by
    rw [← hnames, List.map_map, List.map_map]
    refine List.map_congr_left fun twin htwin => ?_
    have hmirror := hmirrors twin htwin
    exact Prod.ext hmirror.qualifiedName_eq hmirror.kind_eq
  exact ⟨twins, hcomponent, hscript, hnames,
    Outline.digestsDistinct_of_map hnames' (by decide +kernel),
    Outline.digestsDistinct_of_map hnames (by decide +kernel), hmirrors, hlinks⟩

end Chunker

end ChunkGraph
