import ChunkGraph.Proofs.Chunker.Interface
import ChunkGraph.Proofs.FrontEnd.Inside
import ChunkGraph.Proofs.FrontEnd.Listing
import ChunkGraph.Proofs.Graph.Importing

/-!
# Exported chunks are listed

What a statement of a script declares is cut into one chunk, or, if it declares
variables, into one for each of them. Such a chunk says that it is exported if
the front end says so of what it is made of, and then the exports of the file
have an entry for it, with the name of the chunk and the name under which it is
exported. But there have to be exports: one export of a module under a name that
is a keyword, and the file has none.

The options of a component are chunks that are held by none as well, but stand
in an object and are never exported.

## Main results

* `exists_part` — what an exported chunk of a statement is made of.
* `Chunker.listed_of_exported` — exported chunks are among the exports of the
  file, if it has any.
* `Chunker.keyword_unlists_exports` — a file that has none.
* `Chunker.exported_eq_false_of_ambient` — names that an export clause does not
  reach.
-/

namespace ChunkGraph

open Syntax

namespace Script

/-- What a statement holds is a declaration, or it is the export of a value. -/
theorem kind_of_unwrap {statement : Cursor} {item : Item} (h : unwrap statement = some item) :
    declarationKinds.contains item.kind = true ∨ item.kind = "export_statement" := by
  induction hsize : statement.node.size using Nat.strongRecOn generalizing statement item with
  | ind size ih =>
      by_cases hkind : statement.kind = "export_statement"
      · cases hdeclaration : statement.child? "declaration" with
        | none =>
            rw [unwrap_of_no_child? hkind hdeclaration] at h
            split at h
            · obtain rfl := Option.some.inj h
              exact Or.inr hkind
            · exact absurd h (by simp)
        | some declaration =>
            rw [unwrap_of_child? hkind hdeclaration] at h
            obtain ⟨inner, hinner, rfl⟩ := Option.map_eq_some_iff.mp h
            have hkinds := ih _ (hsize ▸ Cursor.size_lt_of_child? hdeclaration) hinner rfl
            exact hkinds
      · rw [unwrap_of_not_export hkind] at h
        split at h
        · obtain ⟨node, hfound, rfl⟩ := Option.map_eq_some_iff.mp h
          have hdeclares := List.find?_some hfound
          exact Or.inl hdeclares
        · split at h
          · obtain ⟨node, hfound, rfl⟩ := Option.map_eq_some_iff.mp h
            have hnamespace := (Option.filter_eq_some_iff.mp hfound).2
            have hdeclares : ∀ kind ∈ namespaceKinds, declarationKinds.contains kind = true := by
              decide
            exact Or.inl (hdeclares node.kind (List.contains_iff_mem.mp hnamespace))
          · split at h
            · rename_i hdeclares
              obtain rfl := Option.some.inj h
              exact Or.inl hdeclares
            · exact absurd h (by simp)

end Script

namespace Outline

open Script (declarationKinds variableKinds)

/-- What a chunk made of a declaration says about its export. -/
theorem MadeOf.exported_eq {ctx : Context} {piece : Item} {c : Chunk} (h : MadeOf ctx piece c) :
    c.exported = ctx.frontEnd.isExported ctx.tree piece := by
  obtain ⟨_, _, _, _, _, _, rfl⟩ := h
  rfl

/-- The kinds of declarations that a rule applies to in a script. Options of components and methods
are told by more than their kind. -/
def kindsOf : Rule → List String
  | .componentOptions => []
  | .classRule => Script.classKinds
  | .interfaceRule => ["interface_declaration"]
  | .enumRule => ["enum_declaration"]
  | .typeAliasRule => ["type_alias_declaration"]
  | .namespaceRule => Script.namespaceKinds
  | .variableRule => variableKinds
  | .functionRule => Script.functionKinds
  | .methodRule => []

section Script

variable {ctx : Context} (hscript : ctx.frontEnd = .script) {item : Item} {c : Chunk}
include hscript

theorem contains_kindsOf {rule : Rule} (hrule : rule ∈ Rule.topLevel)
    (h : applies ctx item rule = true) :
    rule = .componentOptions ∨ (kindsOf rule).contains item.kind = true := by
  unfold applies at h
  rw [hscript] at h
  cases rule with
  | componentOptions => exact Or.inl rfl
  | methodRule => exact absurd hrule (by decide)
  | interfaceRule | enumRule | typeAliasRule =>
      exact Or.inr (List.contains_iff_mem.mpr (List.mem_singleton.mpr (eq_of_beq h)))
  | classRule | namespaceRule | variableRule | functionRule => exact Or.inr h

/-- Only the rule for variables applies to a statement that declares some. -/
theorem eq_variableRule_of_applies {rule : Rule} (hrule : rule ∈ Rule.topLevel)
    (hvariable : variableKinds.contains item.kind = true) (h : applies ctx item rule = true) :
    rule = .variableRule := by
  have honly : ∀ kind ∈ variableKinds, declarationKinds.contains kind = true ∧
      ∀ rule ∈ Rule.topLevel, (kindsOf rule).contains kind = true → rule = .variableRule := by
    decide
  obtain ⟨hdeclares, hkinds⟩ := honly item.kind (List.contains_iff_mem.mp hvariable)
  rcases contains_kindsOf hscript hrule h with rfl | hkind
  · rw [applies_componentOptions hscript hdeclares] at h
    exact absurd h (by decide)
  · exact hkinds rule hrule hkind

/-- What is cut from a statement with variables is made of its declarators. -/
theorem exists_declarator (hvariable : variableKinds.contains item.kind = true)
    (hc : c ∈ declarationChunks ctx item) :
    ∃ piece ∈ Script.declarators item, MadeOf ctx piece c := by
  obtain ⟨rule, htop, happlies, hrule, fuel, hc⟩ := exists_rule_of_mem hc
  obtain rfl := eq_variableRule_of_applies hscript htop hvariable happlies
  unfold dispatch at hc
  rw [hrule] at hc
  obtain ⟨piece, hpiece, hmade⟩ := List.mem_filterMap.mp hc
  rw [hscript] at hpiece
  exact ⟨piece, hpiece, madeOf_of_mem_variableChunk? hscript hmade⟩

/-- A chunk of an option that is held by none is made of the option. -/
theorem madeOf_of_mem_optionChunks (hc : c ∈ optionChunks ctx none item)
    (hparent : c.parentId = none) : MadeOf ctx item c := by
  rcases mem_optionChunks hc with ⟨_, _, made, members, hmade, rfl⟩ | ⟨block, _, _, _, _, hmade⟩
  · exact madeOf_of_makeChunk? hscript hmade members
  · obtain ⟨name, _, rfl⟩ := Option.map_eq_some_iff.mp hmade
    exact absurd hparent (Option.some_ne_none block.id)

/-- No option of a component is exported. -/
theorem exported_eq_false_of_mem_componentChunks (hc : c ∈ componentChunks ctx none item)
    (hoptions : ctx.frontEnd.isComponentOptions ctx.tree item = true)
    (hparent : c.parentId = none) : c.exported = false := by
  unfold componentChunks at hc
  rw [if_pos hoptions, hscript] at hc
  obtain ⟨option, hoption, hc⟩ := List.mem_flatMap.mp hc
  rw [(madeOf_of_mem_optionChunks hscript hc hparent).exported_eq, hscript]
  exact Script.isExported_of_mem_componentOptions (List.mem_of_mem_filter hoption)

/-- What is cut from the export of a value are options of a component, none of which is
exported. -/
theorem exported_eq_false_of_value (hkind : item.kind = "export_statement")
    (hc : c ∈ declarationChunks ctx item) (hparent : c.parentId = none) :
    c.exported = false := by
  obtain ⟨rule, htop, happlies, hrule, fuel, hc⟩ := exists_rule_of_mem hc
  have hnone : ∀ rule ∈ Rule.topLevel, (kindsOf rule).contains "export_statement" = false := by
    decide
  rcases contains_kindsOf hscript htop happlies with rfl | hclaimed
  · unfold dispatch at hc
    rw [hrule] at hc
    have hnotOption : ctx.frontEnd.isComponentOption ctx.tree item = false := by
      rw [hscript]
      show Script.isComponentOption ctx.tree item = false
      unfold Script.isComponentOption
      rw [hkind]
      rfl
    unfold applies at happlies
    rw [hnotOption, Bool.or_false] at happlies
    exact exported_eq_false_of_mem_componentChunks hscript hc happlies hparent
  · rw [hkind, hnone rule htop] at hclaimed
    exact absurd hclaimed (by decide)

/-- An exported chunk of a statement that is held by none is made of the declaration, or of a
declarator if that declares variables. -/
theorem exists_part {statement : Cursor} (hitem : Script.unwrap statement = some item)
    (hc : c ∈ declarationChunks ctx item) (hparent : c.parentId = none)
    (hexported : c.exported = true) :
    declarationKinds.contains item.kind = true ∧ ∃ piece, MadeOf ctx piece c ∧
      (piece = item ∧ variableKinds.contains item.kind = false ∨
        variableKinds.contains item.kind = true ∧ piece ∈ Script.declarators item) := by
  rcases Script.kind_of_unwrap hitem with hdeclares | hvalue
  · refine ⟨hdeclares, ?_⟩
    cases hvariable : variableKinds.contains item.kind with
    | true =>
        obtain ⟨piece, hpiece, hmade⟩ := exists_declarator hscript hvariable hc
        exact ⟨piece, hmade, Or.inr ⟨rfl, hpiece⟩⟩
    | false =>
        obtain ⟨piece, hpiece, hmade⟩ := exists_pieceOf hscript hdeclares hc hparent
        cases hpiece with
        | whole => exact ⟨item, hmade, Or.inl ⟨rfl, rfl⟩⟩
        | declarator hyes _ => exact absurd (hyes.symm.trans hvariable) (by decide)
  · have hnot := exported_eq_false_of_value hscript hvalue hc hparent
    exact absurd (hexported.symm.trans hnot) (by decide)

end Script

end Outline

namespace Chunker

section Scripts

variable {c : Chunker} {tree : Tree} {root statement : Cursor} {path : String}
  {options : Options} {chunk : Chunk}

/-- No chunk of several names that an ambient declaration declares is exported, whatever an export
clause of the file says, and so no import leads to one. -/
theorem exported_eq_false_of_ambient (hprogram : root.kind = "program")
    (hstatement : statement ∈ root.namedChildren)
    (hambient : statement.kind = "ambient_declaration") {item : Item}
    (hitem : Script.unwrap statement = some item)
    (hvariable : Script.variableKinds.contains item.kind = true)
    (hseveral : 1 < (Script.declarators item).length)
    (hchunk : c.CutFrom tree root statement path options chunk) : chunk.exported = false := by
  obtain ⟨tokenizer, other, _, hunwrap, hchunk⟩ := hchunk
  obtain rfl := Option.some.inj (hitem.symm.trans hunwrap)
  obtain ⟨piece, hpiece, hmade⟩ := Outline.exists_declarator rfl hvariable hchunk
  rw [hmade.exported_eq]
  exact Script.isExported_of_ambient hprogram hstatement hambient hitem hvariable hseveral hpiece

end Scripts

/-- A script whose export statements export one thing each has a list of exports, unless one of them
exports a module under a name that is missing. If nothing is merged, every exported chunk that is
held by none is on that list, with its own name as the name in the file and the name it is exported
under as the name for importers. That name may be another one only if an export statement stands
around another one of another sort. -/
theorem listed_of_exported (c : Chunker) (tree : Tree) (root : Cursor) (code path : String)
    (options : Options) (cut : List Chunk) (hsound : Script.TableSound tree)
    (hroot : tree.rootCursor? = some root) (hkind : root.kind ≠ "export_statement")
    (hregular : ∀ statement ∈ root.namedChildrenOfKind "export_statement",
      Script.Regular statement)
    (hmerge : options.mergeSmall = false)
    (hcut : c.chunksOf .script (some tree) code path options = .ok cut) :
    (Script.exports? tree root = none ↔
      ∃ statement ∈ root.namedChildrenOfKind "export_statement", Script.Nameless statement) ∧
    ∀ exports, Script.exports? tree root = some exports →
      ∀ chunk ∈ cut, chunk.parentId = none → chunk.exported = true →
        ∃ e ∈ exports, e.source = none ∧ e.localName = some chunk.name ∧
          (chunk.exportName = some e.name ∨
            ∃ statement ∈ root.namedChildren, c.CutFrom tree root statement path options chunk ∧
              Script.Mismatched statement) := by
  refine ⟨Script.exports?_eq_none_iff, fun exports hexports chunk hchunk hparent hexported => ?_⟩
  obtain ⟨statement, hstatement, hcutFrom⟩ := exists_cutFrom hroot hmerge hcut hchunk
  have ⟨tokenizer, item, _, hitem, hfrom⟩ := hcutFrom
  obtain ⟨hdeclares, piece, hmade, hpiece⟩ := Outline.exists_part rfl hitem hfrom hparent hexported
  have hisExported : Script.isExported tree piece = true := hmade.exported_eq.symm.trans hexported
  obtain ⟨kind, name, facets, members, hname, hne, rfl⟩ := hmade
  obtain ⟨origin, e, hentry, hsource, hlocal, hcalled⟩ := Script.exists_entry_of_isExported hsound
    hroot hkind hregular hstatement hitem hdeclares hpiece hname hne hisExported
  refine ⟨e, (Script.mem_exports?_iff hexports).mpr ⟨origin, hentry⟩, hsource, hlocal, ?_⟩
  rcases hcalled with hcalled | hmismatched
  · left
    show (if Script.isExported tree piece then Script.exportName tree piece else none) = some e.name
    rw [if_pos hisExported, hcalled]
  · exact Or.inr ⟨statement, hstatement, hcutFrom, hmismatched⟩

theorem listed_of_exported_alias :
    (Script.exports? aliasedTree (.ofRoot aliasedProgram) = none ↔
      ∃ statement ∈ (Cursor.ofRoot aliasedProgram).namedChildrenOfKind "export_statement",
        Script.Nameless statement) ∧
    ∃ exports, Script.exports? aliasedTree (.ofRoot aliasedProgram) = some exports ∧
      ∃ chunk ∈ chunksAlone aliasedTree, chunk.name = "f" ∧
        ∃ e ∈ exports, e.source = none ∧ e.localName = some "f" ∧
          (chunk.exportName = some e.name ∨
            ∃ statement ∈ (Cursor.ofRoot aliasedProgram).namedChildren,
              CutFrom {} aliasedTree (.ofRoot aliasedProgram) statement "a.ts"
                { mergeSmall := false } chunk ∧ Script.Mismatched statement) := by
  have hnames : (chunksAlone aliasedTree).map (fun c => (c.name, c.parentId, c.exported)) =
      [("f", none, true)] := by decide +kernel
  obtain ⟨chunk, _, hchunks, hchunk, _⟩ := List.map_eq_cons_iff.mp hnames
  simp only [Prod.mk.injEq] at hchunk
  obtain ⟨hname, hparent, hexported⟩ := hchunk
  have hmem : chunk ∈ chunksAlone aliasedTree := by
    rw [hchunks]
    exact List.mem_cons_self
  have hregular : ∀ statement ∈
      (Cursor.ofRoot aliasedProgram).namedChildrenOfKind "export_statement",
      Script.Regular statement := by
    intro statement hstatement
    obtain rfl := List.mem_singleton.mp hstatement
    exact ⟨by decide, fun hdefault => absurd hdefault (by decide)⟩
  obtain ⟨hnameless, hlisted⟩ := listed_of_exported {} aliasedTree (.ofRoot aliasedProgram) ""
    "a.ts" { mergeSmall := false } _ (Script.tableSound_of_none rfl) rfl (by decide) hregular rfl
    (chunksOf_alone aliasedTree)
  have hknown : (Script.exports? aliasedTree (.ofRoot aliasedProgram)).isSome = true := by
    decide +kernel
  obtain ⟨exports, hexports⟩ := Option.isSome_iff_exists.mp hknown
  obtain ⟨e, he, hsource, hlocal, hcalled⟩ := hlisted exports hexports chunk hmem hparent hexported
  exact ⟨hnameless, exports, hexports, chunk, hmem, hname, e, he, hsource, hname ▸ hlocal, hcalled⟩

/-- A function is exported, but the exports of its file are not known: another statement exports a
module under a name that is a keyword. -/
theorem keyword_unlists_exports :
    ¬∀ (c : Chunker) (tree : Tree) (root : Cursor) (code path : String) (options : Options)
        (cut : List Chunk), tree.exportTable? = none → tree.rootCursor? = some root →
      root.kind = "program" →
      (∀ statement ∈ root.namedChildrenOfKind "export_statement", Script.Regular statement) →
      options.mergeSmall = false → c.chunksOf .script (some tree) code path options = .ok cut →
      ∀ chunk ∈ cut, chunk.parentId = none → chunk.exported = true →
        ∃ exports, Script.exports? tree root = some exports ∧
          ∃ e ∈ exports, e.source = none ∧ e.localName = some chunk.name ∧
            chunk.exportName = some e.name := by
  intro hlisted
  have hnames : (chunksAlone (reexportTree "default" keywordName)).map
      (fun c => (c.name, c.parentId, c.exported)) = [("f", none, true)] := by decide +kernel
  obtain ⟨chunk, _, hchunks, hchunk, _⟩ := List.map_eq_cons_iff.mp hnames
  simp only [Prod.mk.injEq] at hchunk
  obtain ⟨_, hparent, hexported⟩ := hchunk
  have hmem : chunk ∈ chunksAlone (reexportTree "default" keywordName) := by
    rw [hchunks]
    exact List.mem_cons_self
  have hsingle : ∀ statement ∈
      (Cursor.ofRoot (reexportProgram keywordName)).namedChildrenOfKind "export_statement",
      (Script.exportedParts statement).length ≤ 1 ∧
        Script.isDefaultStatement statement = false := by
    decide +kernel
  have hunknown : Script.exports? (reexportTree "default" keywordName)
      (.ofRoot (reexportProgram keywordName)) = none := by
    decide +kernel
  obtain ⟨exports, hexports, _⟩ := hlisted {} (reexportTree "default" keywordName)
    (.ofRoot (reexportProgram keywordName)) "" "a.ts" { mergeSmall := false } _ rfl rfl rfl
    (fun statement hstatement => ⟨(hsingle statement hstatement).1, fun hdefault =>
      absurd ((hsingle statement hstatement).2.symm.trans hdefault) (by decide)⟩) rfl
    (chunksOf_alone _) chunk hmem hparent hexported
  exact absurd (hexports.symm.trans hunknown) (by simp)

end Chunker

end ChunkGraph
