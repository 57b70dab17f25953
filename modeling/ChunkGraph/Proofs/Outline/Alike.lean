import ChunkGraph.Outline.Basic
import ChunkGraph.Proofs.FrontEnd.Alike

/-!
# Chunks of declarations that cannot be told apart

The identity of a chunk is made of the path, the kind and the qualified name.
So declarations of two scripts that are alike are cut into chunks of the same
identities, one by one and in the same order, wherever they stand in their
files; and the chunks have the same size as long as the same text is counted.
Positions, hashes and dependencies may differ.

## Main definitions

* `Chunk.Alike` — chunks of the same identity, place and size.
* `Context.reread` — what the rules know about another tree.

## Main results

* `rel_dispatch` — the chunks of declarations that are alike.
* `rel_declarationChunks` — the same at the top level.
-/

namespace ChunkGraph

open Syntax

/-- The chunks have the same identity, belong to the same place and are equally large. -/
structure Chunk.Alike (c c' : Chunk) : Prop where
  /-- Their identity. -/
  id_eq : c.id = c'.id
  /-- Their kind. -/
  kind_eq : c.kind = c'.kind
  /-- What they are called. -/
  qualifiedName_eq : c.qualifiedName = c'.qualifiedName
  /-- Their file. -/
  filePath_eq : c.filePath = c'.filePath
  /-- What holds them. -/
  parentId_eq : c.parentId = c'.parentId
  /-- Their tokens. -/
  tokenCount_eq : c.tokenCount = c'.tokenCount

namespace Outline

/-- What the rules know about another tree, everything else being the same. -/
def Context.reread (ctx : Context) (tree : Tree) (imports : List Dependency) : Context :=
  { ctx with tree, imports }

section Reread

variable (ctx : Context) (tree : Tree) (imports : List Dependency)

@[simp] theorem frontEnd_reread : (ctx.reread tree imports).frontEnd = ctx.frontEnd := rfl

@[simp] theorem tree_reread : (ctx.reread tree imports).tree = tree := rfl

@[simp] theorem rules_reread : (ctx.reread tree imports).rules = ctx.rules := rfl

end Reread

theorem qualify_eq {parent parent' : Option Chunk} (h : Option.Rel Chunk.Alike parent parent')
    (name : String) : Context.qualify parent name = Context.qualify parent' name := by
  cases h with
  | none => rfl
  | @some container container' hcontainer =>
      show container.qualifiedName ++ "." ++ name = container'.qualifiedName ++ "." ++ name
      rw [hcontainer.qualifiedName_eq]

/-- The members of a container do not matter for what it is. -/
theorem rel_withMembers {container container' : Chunk} (h : Chunk.Alike container container')
    {members members' : List Chunk} (hmembers : List.Forall₂ Chunk.Alike members members') :
    List.Forall₂ Chunk.Alike (withMembers container members) (withMembers container' members') :=
  .cons ⟨h.id_eq, h.kind_eq, h.qualifiedName_eq, h.filePath_eq, h.parentId_eq, h.tokenCount_eq⟩
    hmembers

/-- A container with its members, or alone if these are not asked for. -/
theorem rel_container {container container' : Chunk} (h : Chunk.Alike container container')
    {members members' : List Chunk} (hmembers : List.Forall₂ Chunk.Alike members members')
    (nested : Bool) :
    List.Forall₂ Chunk.Alike (if nested then withMembers container members else [container])
      (if nested then withMembers container' members' else [container']) := by
  cases nested with
  | true => exact rel_withMembers h hmembers
  | false => exact .cons h .nil

section Rules

variable {ctx : Context} {tree' : Tree} (imports' : List Dependency)
  {parent parent' : Option Chunk} {item item' : Item} (hscript : ctx.frontEnd = .script)
  (hparent : Option.Rel Chunk.Alike parent parent') (hitem : Item.Alike ctx.tree tree' item item')

/-! ## Single chunks -/

include hparent hitem in
theorem chunkNamed_alike (kind : ChunkKind) (name : String) (facets facets' : Facets) :
    Chunk.Alike (ctx.chunkNamed item parent kind name facets)
      ((ctx.reread tree' imports').chunkNamed item' parent' kind name facets') where
  id_eq := by
    show chunkId ctx.filePath (Context.qualify parent name) kind =
      chunkId ctx.filePath (Context.qualify parent' name) kind
    rw [qualify_eq hparent]
  kind_eq := rfl
  qualifiedName_eq := qualify_eq hparent name
  filePath_eq := rfl
  parentId_eq := rel_option_map_eq hparent fun _ _ h => h.id_eq
  tokenCount_eq := by
    show (ctx.tokenizer.count? (item.text ctx.tree)).map Int.ofNat =
      (ctx.tokenizer.count? (item'.text tree')).map Int.ofNat
    rw [hitem.text_eq]

include hscript hitem

theorem nameOf_eq : ctx.frontEnd.nameOf ctx.tree item = ctx.frontEnd.nameOf tree' item' := by
  rw [hscript]
  exact Script.nameOf_eq hitem

include hparent

theorem rel_makeChunk? (kind : ChunkKind) (facets facets' : Facets) :
    Option.Rel Chunk.Alike (ctx.makeChunk? item parent kind facets)
      ((ctx.reread tree' imports').makeChunk? item' parent' kind facets') := by
  unfold Context.makeChunk?
  rw [frontEnd_reread, tree_reread, nameOf_eq hscript hitem]
  cases (ctx.frontEnd.nameOf tree' item').bind nonEmpty? with
  | none => exact .none
  | some name => exact .some (chunkNamed_alike imports' hparent hitem kind name facets facets')

/-! ## Components -/

omit hparent in
theorem rel_entryChunk? {block block' : Chunk} (hblock : Chunk.Alike block block')
    (kind : ChunkKind) (role : String) :
    Option.Rel Chunk.Alike (entryChunk? ctx block kind role item)
      (entryChunk? (ctx.reread tree' imports') block' kind role item') :=
  rel_makeChunk? imports' hscript (.some hblock) hitem kind _ _

theorem rel_optionChunks :
    List.Forall₂ Chunk.Alike (optionChunks ctx parent item)
      (optionChunks (ctx.reread tree' imports') parent' item') := by
  have hentries : List.Forall₂ (Item.Alike ctx.tree tree') (ctx.frontEnd.optionEntries item)
      (ctx.frontEnd.optionEntries item') := by
    rw [hscript]
    exact Script.rel_optionEntries hitem
  unfold optionChunks
  rw [frontEnd_reread, tree_reread, nameOf_eq hscript hitem]
  dsimp only
  split
  · exact rel_toList (rel_makeChunk? imports' hscript hparent hitem _ _ _)
  · split
    · exact .nil
    · rename_i kind role _
      rcases rel_cases (rel_makeChunk? imports' hscript hparent hitem .topLevelDecl
          { optionType := some role } { optionType := some role }) with
        ⟨hx, hy⟩ | ⟨block, block', hx, hy, hblock⟩
      · rw [hx, hy]
        exact .nil
      · simp only [hx, hy]
        refine rel_container hblock (List.rel_filterMap ?_ hentries) ctx.options.includeNested
        exact fun entry entry' hentry => rel_entryChunk? imports' hscript hentry hblock kind role

omit hparent in
theorem isComponentOptions_eq : ctx.frontEnd.isComponentOptions ctx.tree item =
    ctx.frontEnd.isComponentOptions tree' item' := by
  rw [hscript]
  exact Script.isComponentOptions_eq hitem

omit hparent in
theorem isComponentOption_eq : ctx.frontEnd.isComponentOption ctx.tree item =
    ctx.frontEnd.isComponentOption tree' item' := by
  rw [hscript]
  exact Script.isComponentOption_eq hitem

theorem rel_componentChunks :
    List.Forall₂ Chunk.Alike (componentChunks ctx parent item)
      (componentChunks (ctx.reread tree' imports') parent' item') := by
  have hoptions : List.Forall₂ (Item.Alike ctx.tree tree') (ctx.frontEnd.componentOptions item)
      (ctx.frontEnd.componentOptions item') := by
    rw [hscript]
    exact Script.rel_componentOptions hitem
  unfold componentChunks
  rw [frontEnd_reread, tree_reread, isComponentOptions_eq hscript hitem]
  split
  · refine List.rel_flatMap (rel_filter hoptions ?_) ?_
    · exact fun option option' hoption => isComponentOption_eq hscript hoption
    · exact fun option option' hoption => rel_optionChunks imports' hscript hparent hoption
  · exact rel_optionChunks imports' hscript hparent hitem

/-! ## Rules -/

variable (hexports : Script.exportTable ctx.tree = Script.exportTable tree')

include hexports in
theorem rel_variableChunk? :
    Option.Rel Chunk.Alike (variableChunk? ctx parent item)
      (variableChunk? (ctx.reread tree' imports') parent' item') := by
  have hfunction : (ctx.frontEnd.initializer? item).any ctx.frontEnd.isFunction =
      (ctx.frontEnd.initializer? item').any ctx.frontEnd.isFunction := by
    rw [hscript]
    rcases rel_cases (Script.rel_initializer? hitem) with ⟨hx, hy⟩ | ⟨value, value', hx, hy, hvalue⟩
    · show (Script.initializer? item).any _ = (Script.initializer? item').any _
      rw [hx, hy]
    · show (Script.initializer? item).any _ = (Script.initializer? item').any _
      rw [hx, hy]
      show Script.functionKinds.contains value.kind = Script.functionKinds.contains value'.kind
      rw [hvalue.kind_eq]
  have hexported : ctx.frontEnd.isExported ctx.tree item =
      ctx.frontEnd.isExported tree' item' := by
    rw [hscript]
    exact Script.isExported_eq hitem hexports
  unfold variableChunk?
  rw [frontEnd_reread, tree_reread, hfunction, hexported]
  split
  · exact rel_makeChunk? imports' hscript hparent hitem _ _ _
  · split
    · exact rel_makeChunk? imports' hscript hparent hitem _ _ _
    · exact .none

omit hparent in
/-- The same rules apply. -/
theorem chooseRule?_eq (rules : List Rule) :
    chooseRule? ctx rules item = chooseRule? (ctx.reread tree' imports') rules item' := by
  have happlies (rule : Rule) :
      applies ctx item rule = applies (ctx.reread tree' imports') item' rule := by
    cases rule with
    | componentOptions =>
        show (ctx.frontEnd.isComponentOptions ctx.tree item ||
            ctx.frontEnd.isComponentOption ctx.tree item) =
          (ctx.frontEnd.isComponentOptions tree' item' ||
            ctx.frontEnd.isComponentOption tree' item')
        rw [isComponentOptions_eq hscript hitem, isComponentOption_eq hscript hitem]
    | methodRule =>
        show ctx.frontEnd.isMethod item = ctx.frontEnd.isMethod item'
        rw [hscript]
        exact Script.isMethod_eq hitem
    -- The other rules go by the kind of the declaration.
    | _ =>
        simp only [applies, frontEnd_reread, hscript, hitem.kind_eq, FrontEnd.isClass,
          FrontEnd.isInterface, FrontEnd.isEnum, FrontEnd.isTypeAlias, FrontEnd.isNamespace,
          FrontEnd.isVariableStatement, FrontEnd.isFunction, Script.isClass, Script.isInterface,
          Script.isEnum, Script.isTypeAlias, Script.isNamespace, Script.isVariableStatement,
          Script.isFunction]
  unfold chooseRule?
  simp only [happlies, rules_reread]

theorem rel_containerChunks (kind : ChunkKind) {cut cut' : Chunk → Item → List Chunk}
    (hcut : ∀ container container', Chunk.Alike container container' → ∀ member member',
      Item.Alike ctx.tree tree' member member' →
        List.Forall₂ Chunk.Alike (cut container member) (cut' container' member')) :
    List.Forall₂ Chunk.Alike (containerChunks ctx parent kind cut item)
      (containerChunks (ctx.reread tree' imports') parent' kind cut' item') := by
  have hmembers : List.Forall₂ (Item.Alike ctx.tree tree') (ctx.frontEnd.members item)
      (ctx.frontEnd.members item') := by
    rw [hscript]
    exact Script.rel_members hitem
  unfold containerChunks
  rcases rel_cases (rel_makeChunk? imports' hscript hparent hitem kind {} {}) with
    ⟨hx, hy⟩ | ⟨container, container', hx, hy, hcontainer⟩
  · rw [hx, hy]
    exact .nil
  · simp only [hx, hy]
    refine rel_container hcontainer (List.rel_flatMap hmembers ?_) ctx.options.includeNested
    exact fun member member' hmember => hcut container container' hcontainer member member' hmember

include hexports in
/-- Whatever rules are tried, declarations that are alike have chunks that are. -/
theorem rel_dispatch (fuel : Nat) (rules : List Rule) :
    List.Forall₂ Chunk.Alike (dispatch ctx fuel rules parent item)
      (dispatch (ctx.reread tree' imports') fuel rules parent' item') := by
  induction fuel generalizing rules parent parent' item item' with
  | zero => exact .nil
  | succ fuel ih =>
      unfold dispatch
      rw [← chooseRule?_eq imports' hscript hitem rules]
      cases chooseRule? ctx rules item with
      | none => exact .nil
      | some rule =>
          cases rule with
          | componentOptions => exact rel_componentChunks imports' hscript hparent hitem
          | classRule =>
              exact rel_containerChunks imports' hscript hparent hitem .classDecl
                fun _ _ hcontainer _ _ hmember => ih (.some hcontainer) hmember Rule.classMembers
          | namespaceRule =>
              exact rel_containerChunks imports' hscript hparent hitem .namespaceDecl
                fun _ _ hcontainer _ _ hmember =>
                  ih (.some hcontainer) hmember Rule.namespaceMembers
          | variableRule =>
              have hdeclarators : List.Forall₂ (Item.Alike ctx.tree tree')
                  (ctx.frontEnd.declarators item) (ctx.frontEnd.declarators item') := by
                rw [hscript]
                exact Script.rel_declarators hitem
              exact List.rel_filterMap (fun _ _ hdeclarator =>
                rel_variableChunk? imports' hscript hparent hdeclarator hexports) hdeclarators
          | _ => exact rel_toList (rel_makeChunk? imports' hscript hparent hitem _ _ _)

end Rules

/-- Declarations at the top level that are alike have chunks that are. -/
theorem rel_declarationChunks {ctx : Context} {tree' : Tree} (imports' : List Dependency)
    (hscript : ctx.frontEnd = .script)
    (hexports : Script.exportTable ctx.tree = Script.exportTable tree') {item item' : Item}
    (hitem : Item.Alike ctx.tree tree' item item') :
    List.Forall₂ Chunk.Alike (declarationChunks ctx item)
      (declarationChunks (ctx.reread tree' imports') item') := by
  unfold declarationChunks
  rw [hitem.node.node.size_eq]
  exact rel_dispatch imports' hscript .none hitem hexports _ _

end Outline

end ChunkGraph
