import ChunkGraph.Proofs.FrontEnd.References
import ChunkGraph.Proofs.Graph.Importing
import ChunkGraph.Proofs.Graph.SharedIdentity

/-!
# Calls inside a file

A chunk of a script that calls a function of its file by a plain name leads to
the function, unless an import of the file has that name. The imports are asked
for the names that modules export and not for those that the file binds. So a
call is lost whose name is exported by a module and imported under an alias, or
passed on, although in the file the name is that of the function.

## Main results

* `Chunker.local_call_leads_iff` — which calls are edges.
* `Chunker.aliased_import_hides_function` — a call that is none.
-/

namespace ChunkGraph

open Syntax

namespace Builder

/-- Where identities are distinct, each chunk decides for itself what it leads to. -/
theorem leads_iff_of_nodup (b : Builder) {chunks : List Chunk} {chunk : Chunk}
    (hids : (chunks.map (·.id)).Nodup) (hchunk : chunk ∈ chunks) (target : String) :
    (b.build chunks).Leads chunk.id target ↔ target ∈ b.targetsOf (index chunks) chunk := by
  have hinjective := List.inj_on_of_nodup_map hids
  obtain ⟨last, hlast⟩ : ∃ last, chunks.reverse.find? (·.id == chunk.id) = some last :=
    Option.isSome_iff_exists.mp
      (List.find?_isSome.mpr ⟨chunk, List.mem_reverse.mpr hchunk, beq_self_eq_true _⟩)
  have hmem : last ∈ chunks := List.mem_reverse.mp (List.mem_of_find?_eq_some hlast)
  obtain rfl : last = chunk := hinjective hmem hchunk (by simpa using List.find?_some hlast)
  rw [leads_build_iff, hlast]
  simp

/-- A chunk leads to a function of its file by a reference to its name, by a dependency on a module
that means the function, or if the function holds it. -/
theorem leads_iff_of_same_file (b : Builder) {chunks : List Chunk} {caller callee : Chunk}
    (hids : (chunks.map (·.id)).Nodup) (hcaller : caller ∈ chunks) (hcallee : callee ∈ chunks)
    (hne : callee.id ≠ caller.id) (hfile : callee.filePath = caller.filePath)
    (hkind : callee.kind ≠ .methodDecl) :
    (b.build chunks).Leads caller.id callee.id ↔
      (∃ d ∈ caller.dependencies, d.kind = .reference ∧ d.name = callee.name) ∨
        (∃ d ∈ caller.dependencies, d.kind ≠ .reference ∧
          callee ∈ b.meaningOf (index chunks) d caller) ∨
        caller.parentId = some callee.id ∧ callee.id ≠ "" := by
  have hinjective := List.inj_on_of_nodup_map hids
  have hreference {d : Dependency} (hd : d.kind = .reference) :
      callee ∈ b.meaningOf (index chunks) d caller ↔ d.name = callee.name := by
    rw [mem_meaningOf, if_pos hd, mem_referenced, mem_inFile, hfile]
    exact ⟨fun h => h.2.2.2.symm, fun h => ⟨⟨hcallee, rfl⟩, hne, hkind, h.symm⟩⟩
  rw [leads_iff_of_nodup b hids hcaller, mem_targetsOf]
  constructor
  · rintro (⟨d, hd, found, hfound, hid, _⟩ | ⟨hparent, hfull, _⟩)
    · obtain rfl : found = callee := hinjective (mem_of_mem_meaningOf b hfound) hcallee hid
      by_cases hdKind : d.kind = .reference
      · exact Or.inl ⟨d, hd, hdKind, (hreference hdKind).mp hfound⟩
      · exact Or.inr (Or.inl ⟨d, hd, hdKind, hfound⟩)
    · exact Or.inr (Or.inr ⟨hparent, hfull⟩)
  · rintro (⟨d, hd, hdKind, hname⟩ | ⟨d, hd, _, hfound⟩ | ⟨hparent, hfull⟩)
    · exact Or.inl ⟨d, hd, callee, (hreference hdKind).mpr hname, rfl, hne⟩
    · exact Or.inl ⟨d, hd, callee, hfound, rfl, hne⟩
    · exact Or.inr ⟨hparent, hfull, callee, hcallee, rfl⟩

end Builder

namespace Chunker

section Scripts

variable {c : Chunker} {tree : Tree} {root : Cursor} {code path : String} {options : Options}
  {cut : List Chunk} {item : Item} {chunk : Chunk}

/-- A call of a plain name is a dependency of a chunk exactly if no import has that name. -/
theorem MadeFrom.exists_reference_iff
    (h : c.MadeFrom .script tree root path options item chunk) {name : String}
    (hcalls : Script.Calls tree item name) (hne : name ≠ "") (hself : name ≠ chunk.name)
    (hbuiltin : name ∉ Script.builtinCalls) :
    (∃ d ∈ chunk.dependencies, d.kind = .reference ∧ d.name = name) ↔
      name ∉ (Script.imports tree ⟨root, none⟩).map (·.name) := by
  have hname : Script.nameOf tree item ≠ some name := by
    rw [show Script.nameOf tree item = some chunk.name from h.nameOf_eq.1]
    exact fun hsame => hself (Option.some.inj hsame).symm
  have hrefers := Script.reference_mem_references_of_calls hcalls hne hname hbuiltin
  obtain ⟨ctx, hscript, rfl, himports, hdependencies⟩ := h.dependencies_eq
  have hnone : ∀ d ∈ ctx.imports, d.kind ≠ .reference := by
    rw [himports]
    exact fun d hd => Script.kind_ne_of_mem_imports hd
  rw [hdependencies, Script.exists_reference_merged_iff hscript hnone hrefers, himports]
  rfl

/-- A chunk that calls a function of its file by a plain name leads to the function exactly if that
is not the name of an import, or a dependency on a module means the function, or the function holds
the chunk. -/
theorem leads_iff_of_calls (b : Builder) {chunks : List Chunk} {caller callee : Chunk}
    {calling : Item} (hroot : tree.rootCursor? = some root) (hmerge : options.mergeSmall = false)
    (hcut : c.chunksOf .script (some tree) code path options = .ok cut)
    (hsub : ∀ chunk ∈ cut, chunk ∈ chunks) (hids : (chunks.map (·.id)).Nodup)
    (hcaller : caller ∈ cut) (hcallee : callee ∈ cut)
    (hmade : c.MadeFrom .script tree root path options calling caller)
    (hcalls : Script.Calls tree calling callee.name) (hself : callee.name ≠ caller.name)
    (hbuiltin : callee.name ∉ Script.builtinCalls) (hne : callee.id ≠ caller.id)
    (hkind : callee.kind ≠ .methodDecl) :
    (b.build chunks).Leads caller.id callee.id ↔
      callee.name ∉ (Script.imports tree ⟨root, none⟩).map (·.name) ∨
        (∃ d ∈ caller.dependencies, d.kind ≠ .reference ∧
          callee ∈ b.meaningOf (index chunks) d caller) ∨
        caller.parentId = some callee.id ∧ callee.id ≠ "" := by
  obtain ⟨_, htokenizer, hcalled⟩ := exists_mem_outline hroot hmerge hcut hcallee
  obtain ⟨called, hcalled⟩ := exists_madeFrom_of_outline htokenizer hcalled
  have hfile : callee.filePath = caller.filePath :=
    hcalled.filePath_eq.trans hmade.filePath_eq.symm
  rw [b.leads_iff_of_same_file hids (hsub caller hcaller) (hsub callee hcallee) hne hfile hkind,
    hmade.exists_reference_iff hcalls hcalled.nameOf_eq.2 hself hbuiltin]

end Scripts

/-- Every chunk of a script is made from a declaration. If nothing is merged and identities are
distinct, a chunk that calls a function of its file by a plain name leads to the function exactly if
no import has that name, or a dependency on a module means the function, or the function holds the
chunk. A name that no import statement binds is the name of an import exactly if an import statement
gives it an alias or only runs a module, an export statement passes it on, or a variable statement
loads a module under it. -/
theorem local_call_leads_iff (b : Builder) (c : Chunker) (tree : Tree) (root : Cursor)
    (code path : String) (options : Options) (cut chunks : List Chunk)
    (hroot : tree.rootCursor? = some root) (hmerge : options.mergeSmall = false)
    (hcut : c.chunksOf .script (some tree) code path options = .ok cut)
    (hsub : ∀ chunk ∈ cut, chunk ∈ chunks) (hids : (chunks.map (·.id)).Nodup) :
    ∀ caller ∈ cut, (∃ item, c.MadeFrom .script tree root path options item caller) ∧
      ∀ item, c.MadeFrom .script tree root path options item caller →
        ∀ callee ∈ cut, Script.Calls tree item callee.name → callee.name ≠ caller.name →
          callee.name ∉ Script.builtinCalls → callee.id ≠ caller.id →
          callee.kind ≠ .methodDecl →
            ((b.build chunks).Leads caller.id callee.id ↔
              callee.name ∉ (Script.imports tree ⟨root, none⟩).map (·.name) ∨
                (∃ d ∈ caller.dependencies, d.kind ≠ .reference ∧
                  callee ∈ b.meaningOf (index chunks) d caller) ∨
                caller.parentId = some callee.id ∧ callee.id ≠ "") ∧
            (root.kind = "program" → callee.name ∉ Script.boundNames tree root →
              (callee.name ∈ (Script.imports tree ⟨root, none⟩).map (·.name) ↔
                Script.Hides tree root callee.name)) := by
  intro caller hcaller
  obtain ⟨_, htokenizer, houtlined⟩ := exists_mem_outline hroot hmerge hcut hcaller
  refine ⟨exists_madeFrom_of_outline htokenizer houtlined, ?_⟩
  intro item hmade callee hcallee hcalls hself hbuiltin hne hkind
  exact ⟨leads_iff_of_calls b hroot hmerge hcut hsub hids hcaller hcallee hmade hcalls hself
    hbuiltin hne hkind, fun hprogram hbound => Script.mem_names_iff_hides hprogram hbound⟩

/-- A function that is called, and the import of a module that exports its name, under an alias. -/
def hiddenScript : String :=
  "import \x7b x as y \x7d from './m';\nfunction x() \x7b\x7d\nfunction f() \x7b x(); \x7d\n"

/-- The function that calls the other one. -/
def callingFunction : Node :=
  .mk "function_declaration" true "" 46 67
    [tokenAt "function" 46, .mk "identifier" true "name" 55 56 [],
      .mk "formal_parameters" true "parameters" 56 58 [tokenAt "(" 56, tokenAt ")" 57],
      .mk "statement_block" true "body" 59 67
        [tokenAt "\x7b" 59, .mk "expression_statement" true "" 61 65 [callAt 61, tokenAt ";" 64],
          tokenAt "\x7d" 66]]

/-- The import. -/
def aliasingImport : Node :=
  .mk "import_statement" true "" 0 29
    [tokenAt "import" 0,
      .mk "import_clause" true "" 7 17
        [.mk "named_imports" true "" 7 17
          [tokenAt "\x7b" 7,
            .mk "import_specifier" true "" 9 15
              [.mk "identifier" true "name" 9 10 [], tokenAt "as" 11,
                .mk "identifier" true "alias" 14 15 []],
            tokenAt "\x7d" 16]],
      tokenAt "from" 18, .mk "string" true "source" 23 28 [], tokenAt ";" 28]

/-- The tree of that script. -/
def hiddenProgram : Node :=
  .mk "program" true "" 0 68 [aliasingImport, functionAt 30, callingFunction]

/-- The same with the text. -/
def hiddenTree : Tree :=
  { language := "typescript", source := Text.Utf8.encode hiddenScript.toList
    root := some hiddenProgram }

/-- Where the function stands that is called. -/
def calledItem : Item := ⟨⟨functionAt 30, [⟨hiddenProgram, [aliasingImport]⟩]⟩, none⟩

/-- Where the function stands that calls it. -/
def callingItem : Item :=
  ⟨⟨callingFunction, [⟨hiddenProgram, [functionAt 30, aliasingImport]⟩]⟩, none⟩

/-- What the rules are told about that script. -/
def hiddenContext : Outline.Context :=
  contextOf {} .script hiddenTree "a.ts" { mergeSmall := false } .estimate (.ofRoot hiddenProgram)

/-- The chunk of a function of that script. -/
def hiddenFunction? (item : Item) : Option Chunk :=
  hiddenContext.makeChunk? item none .functionDecl (hiddenContext.functionFacets item)

theorem calls_callingItem : Script.Calls hiddenTree callingItem "x" := by
  have hany : (preorder (fun _ => false) callingItem.span.above callingItem.span.node).any
      (fun call => call.kind == "call_expression" &&
        (Script.identifierIn? call "function").any (hiddenTree.textOf · == "x")) = true := by
    decide +kernel
  rw [← walkAll_eq_preorder] at hany
  obtain ⟨call, hcall, hkind⟩ := List.any_eq_true.mp hany
  obtain ⟨hkind, hfunction⟩ := Bool.and_eq_true_iff.mp hkind
  obtain ⟨function, hfound, hname⟩ := (Option.any_eq_true _ _).mp hfunction
  exact ⟨call, hcall, eq_of_beq hkind, function, hfound, eq_of_beq hname⟩

theorem chunksAlone_hidden :
    chunksAlone hiddenTree = (hiddenFunction? calledItem).toList ++
      (hiddenFunction? callingItem).toList := by
  have himport : Script.unwrap ⟨aliasingImport, [⟨hiddenProgram, []⟩]⟩ = none :=
    Script.unwrap_of_not_export (by decide)
  have hcalled : Script.unwrap calledItem.node = some calledItem :=
    Script.unwrap_of_declaration (by decide)
  have hcalling : Script.unwrap callingItem.node = some callingItem :=
    Script.unwrap_of_declaration (by decide)
  have hplaces : (Cursor.ofRoot hiddenProgram).namedChildren =
      [⟨aliasingImport, [⟨hiddenProgram, []⟩]⟩, calledItem.node, callingItem.node] := rfl
  have hdeclarations : Script.declarationsIn (.ofRoot hiddenProgram) =
      [calledItem, callingItem] := by
    unfold Script.declarationsIn
    rw [hplaces, List.filterMap_cons_none himport, List.filterMap_cons_some hcalled,
      List.filterMap_cons_some hcalling, List.filterMap_nil]
  have houtline : Outline.outline hiddenContext (.ofRoot hiddenProgram) =
      (hiddenFunction? calledItem).toList ++ (hiddenFunction? callingItem).toList := by
    show (Script.declarationsIn _).flatMap _ = _
    rw [hdeclarations]
    rfl
  have hrun : chunksOf {} .script (some hiddenTree) "" "a.ts" { mergeSmall := false } =
      finish { mergeSmall := false } "" (Outline.outline hiddenContext (.ofRoot hiddenProgram)) :=
    chunksOf_of_counted rfl rfl
      ((Outline.yields_outline hiddenContext (.ofRoot hiddenProgram)).counted rfl)
  unfold chunksAlone
  rw [hrun, finish_of_unmerged rfl]
  exact houtline

/-- The two functions; the name of the first is the name of an import, and no import binds it. -/
theorem exists_hidden :
    ∃ called caller, chunksAlone hiddenTree = [called, caller] ∧
      MadeFrom {} .script hiddenTree (.ofRoot hiddenProgram) "a.ts" { mergeSmall := false }
        callingItem caller ∧
      called.name = "x" ∧ called.kind = .functionDecl ∧ called.exported = false ∧
      caller.name = "f" ∧ caller.parentId = none ∧ called.id ≠ caller.id ∧
      called.name ∈ (Script.imports hiddenTree ⟨.ofRoot hiddenProgram, none⟩).map (·.name) ∧
      called.name ∉ Script.boundNames hiddenTree (.ofRoot hiddenProgram) := by
  have hcalled : (hiddenFunction? calledItem).map
      (fun chunk => (chunk.name, chunk.kind, chunk.exported, chunk.id)) =
        some ("x", .functionDecl, false, "3545060b48e51233") := by decide +kernel
  have hcaller : (hiddenFunction? callingItem).map
      (fun chunk => (chunk.name, chunk.parentId, chunk.id)) =
        some ("f", none, "487fcfab3c10aa7d") := by decide +kernel
  have hbound : "x" ∈ (Script.imports hiddenTree ⟨.ofRoot hiddenProgram, none⟩).map (·.name) ∧
      "x" ∉ Script.boundNames hiddenTree (.ofRoot hiddenProgram) := by decide
  obtain ⟨called, hmade, hcalled⟩ := Option.map_eq_some_iff.mp hcalled
  obtain ⟨caller, hmade', hcaller⟩ := Option.map_eq_some_iff.mp hcaller
  simp only [Prod.mk.injEq] at hcalled hcaller
  obtain ⟨hname, hkind, hexported, hid⟩ := hcalled
  obtain ⟨hname', hparent, hid'⟩ := hcaller
  refine ⟨called, caller, ?_, ⟨.estimate, none, .functionDecl, _, caller, [], rfl, hmade',
    (Outline.linked_nil_of_makeChunk? hmade').symm⟩, hname, hkind, hexported, hname', hparent, ?_,
    hname ▸ hbound.1, hname ▸ hbound.2⟩
  · rw [chunksAlone_hidden, hmade, hmade']
    rfl
  · rw [hid, hid']
    decide

theorem local_call_leads_iff_hidden :
    ∃ called caller, chunksAlone hiddenTree = [called, caller] ∧
      Script.Calls hiddenTree callingItem called.name ∧
      ((Builder.noFiles.build [called, caller]).Leads caller.id called.id ↔
        called.name ∉ (Script.imports hiddenTree ⟨.ofRoot hiddenProgram, none⟩).map (·.name) ∨
          (∃ d ∈ caller.dependencies, d.kind ≠ .reference ∧
            called ∈ Builder.noFiles.meaningOf (index [called, caller]) d caller) ∨
          caller.parentId = some called.id ∧ called.id ≠ "") ∧
      Script.Hides hiddenTree (.ofRoot hiddenProgram) called.name := by
  obtain ⟨called, caller, hchunks, hmade, hname, hkind, -, hname', -, hne, hlisted, hunbound⟩ :=
    exists_hidden
  have hcut := chunksOf_alone hiddenTree
  rw [hchunks] at hcut
  have hids : ([called, caller].map (·.id)).Nodup := by simp [hne]
  have hcalls : Script.Calls hiddenTree callingItem called.name := hname ▸ calls_callingItem
  obtain ⟨-, hleads⟩ := local_call_leads_iff Builder.noFiles {} hiddenTree (.ofRoot hiddenProgram)
    "" "a.ts" { mergeSmall := false } [called, caller] [called, caller] rfl rfl hcut
    (fun _ h => h) hids caller (List.mem_cons_of_mem _ List.mem_cons_self)
  obtain ⟨hedge, hhides⟩ := hleads callingItem hmade called List.mem_cons_self hcalls
    (by rw [hname, hname']; decide) (by rw [hname]; decide) hne (by rw [hkind]; decide)
  exact ⟨called, caller, hchunks, hcalls, hedge, (hhides rfl hunbound).mp hlisted⟩

/-- A function is not linked to a local one that it calls, as another module exports its name and
the file imports that under an alias. -/
theorem aliased_import_hides_function :
    ¬∀ (b : Builder) (c : Chunker) (tree : Tree) (root : Cursor) (code path : String)
        (options : Options) (cut : List Chunk), tree.rootCursor? = some root →
      root.kind = "program" → options.mergeSmall = false →
      c.chunksOf .script (some tree) code path options = .ok cut → (cut.map (·.id)).Nodup →
        ∀ caller ∈ cut, ∀ item, c.MadeFrom .script tree root path options item caller →
          ∀ name, Script.Calls tree item name → name ≠ caller.name →
            name ∉ Script.builtinCalls → name ∉ Script.boundNames tree root →
              ∀ callee ∈ cut, callee.id ≠ caller.id → callee.kind ≠ .methodDecl →
                callee.name = name → (b.build cut).Leads caller.id callee.id := by
  intro hlinked
  obtain ⟨called, caller, hchunks, hmade, hname, hkind, hexported, hname', hparent, hne, hlisted,
    hunbound⟩ := exists_hidden
  have hcut := chunksOf_alone hiddenTree
  rw [hchunks] at hcut
  have hids : ([called, caller].map (·.id)).Nodup := by simp [hne]
  have hmethod : called.kind ≠ .methodDecl := by rw [hkind]; decide
  have hself : called.name ≠ caller.name := by rw [hname, hname']; decide
  have hbuiltin : called.name ∉ Script.builtinCalls := by rw [hname]; decide
  have hcalls : Script.Calls hiddenTree callingItem called.name := hname ▸ calls_callingItem
  have hcalled : called ∈ [called, caller] := List.mem_cons_self
  have hcaller : caller ∈ [called, caller] := List.mem_cons_of_mem _ List.mem_cons_self
  have hleads := hlinked Builder.noFiles {} hiddenTree (.ofRoot hiddenProgram) "" "a.ts"
    { mergeSmall := false } [called, caller] rfl rfl rfl hcut hids caller hcaller callingItem hmade
    called.name hcalls hself hbuiltin hunbound called hcalled hne hmethod rfl
  rcases (leads_iff_of_calls Builder.noFiles rfl rfl hcut (fun _ h => h) hids hcaller hcalled hmade
    hcalls hself hbuiltin hne hmethod).mp hleads with hfree | ⟨d, _, hdKind, hfound⟩ | ⟨hheld, _⟩
  · exact hfree hlisted
  · rcases Builder.exported_or_referenced _ hfound with ⟨href, -⟩ | ⟨-, hyes⟩
    · exact hdKind href
    · exact absurd (hyes.symm.trans hexported) (by decide)
  · exact absurd (hparent.symm.trans hheld) (by simp)

end Chunker

end ChunkGraph
