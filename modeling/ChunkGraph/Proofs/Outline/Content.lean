import ChunkGraph.Outline.Basic

/-!
# Chunks with and without their text

The rules look at the text of a declaration whether it is kept or not. So a tree
is cut into the same chunks either way, one by one and in the same order, and
those that are cut without their text are the others with the text left out:
names, places, fingerprints and numbers of tokens are the same.

## Main definitions

* `Chunk.bare` — a chunk without its text.
* `Options.keeping`, `Context.keeping` — the same request, with texts kept.

## Main results

* `dispatch_keeping` — the chunks of a declaration.
* `outline_keeping` — the chunks of a tree.
-/

namespace ChunkGraph

open Syntax

/-- The chunk without its text. -/
def Chunk.bare (c : Chunk) : Chunk := { c with content := none }

/-- The same options, but chunks keep their text. -/
def Options.keeping (options : Options) : Options := { options with includeContent := true }

namespace Outline

/-- What the rules know if chunks are to keep their text. -/
def Context.keeping (ctx : Context) : Context := { ctx with options := ctx.options.keeping }

section Keeping

variable (ctx : Context)

@[simp] theorem frontEnd_keeping : ctx.keeping.frontEnd = ctx.frontEnd := rfl

@[simp] theorem tree_keeping : ctx.keeping.tree = ctx.tree := rfl

@[simp] theorem functionFacets_keeping (item : Item) :
    ctx.keeping.functionFacets item = ctx.functionFacets item := rfl

@[simp] theorem applies_keeping (item : Item) : applies ctx.keeping item = applies ctx item := by
  funext rule
  cases rule with
  | _ => rfl

@[simp] theorem chooseRule?_keeping (rules : List Rule) (item : Item) :
    chooseRule? ctx.keeping rules item = chooseRule? ctx rules item := by
  unfold chooseRule?
  rw [applies_keeping]
  rfl

end Keeping

/-! ## Containers -/

theorem withMembers_bare (container : Chunk) (members : List Chunk) :
    withMembers container.bare (members.map Chunk.bare) =
      (withMembers container members).map Chunk.bare := by
  have hids : ((members.map Chunk.bare).filter (·.parentId == some container.bare.id)).map (·.id) =
      (members.filter (·.parentId == some container.id)).map (·.id) := by
    rw [List.filter_map, List.map_map]
    rfl
  unfold withMembers
  simp only [hids]
  rfl

/-- What is left out of both branches is left out of the result. -/
theorem ite_eq_apply {α β : Type} (f : α → β) (asked : Bool) {x y : β} {x' y' : α}
    (hx : x = f x') (hy : y = f y') :
    (if asked then x else y) = f (if asked then x' else y') := by
  cases asked with
  | true => exact hx
  | false => exact hy

section Rules

variable {ctx : Context} (hcontent : ctx.options.includeContent = false)
include hcontent

/-! ## Single chunks -/

theorem chunkNamed_keeping (item : Item) (parent : Option Chunk) (kind : ChunkKind) (name : String)
    (facets : Facets) :
    ctx.chunkNamed item (parent.map Chunk.bare) kind name facets =
      (ctx.keeping.chunkNamed item parent kind name facets).bare := by
  unfold Context.chunkNamed
  rw [hcontent]
  cases parent with
  | none => rfl
  | some container => rfl

theorem makeChunk?_keeping (item : Item) (parent : Option Chunk) (kind : ChunkKind)
    (facets : Facets) :
    ctx.makeChunk? item (parent.map Chunk.bare) kind facets =
      (ctx.keeping.makeChunk? item parent kind facets).map Chunk.bare := by
  unfold Context.makeChunk?
  rw [Option.map_map]
  exact congrArg (Option.map · _) (funext fun name =>
    chunkNamed_keeping hcontent item parent kind name facets)

theorem toList_makeChunk?_keeping (item : Item) (parent : Option Chunk) (kind : ChunkKind)
    (facets : Facets) :
    (ctx.makeChunk? item (parent.map Chunk.bare) kind facets).toList =
      (ctx.keeping.makeChunk? item parent kind facets).toList.map Chunk.bare := by
  rw [makeChunk?_keeping hcontent]
  cases ctx.keeping.makeChunk? item parent kind facets with
  | none => rfl
  | some chunk => rfl

/-! ## Components -/

theorem entryChunk?_keeping (block : Chunk) (kind : ChunkKind) (role : String) (item : Item) :
    entryChunk? ctx block.bare kind role item =
      (entryChunk? ctx.keeping block kind role item).map Chunk.bare :=
  makeChunk?_keeping hcontent item (some block) kind _

theorem optionChunks_keeping (parent : Option Chunk) (item : Item) :
    optionChunks ctx (parent.map Chunk.bare) item =
      (optionChunks ctx.keeping parent item).map Chunk.bare := by
  unfold optionChunks
  simp only [frontEnd_keeping, tree_keeping, functionFacets_keeping]
  split
  · exact toList_makeChunk?_keeping hcontent item parent .functionDecl _
  · split
    · rfl
    · rename_i kind role _
      rw [makeChunk?_keeping hcontent]
      cases ctx.keeping.makeChunk? item parent .topLevelDecl { optionType := some role } with
      | none => rfl
      | some block =>
          refine ite_eq_apply (List.map Chunk.bare) ctx.options.includeNested ?_ rfl
          rw [← withMembers_bare, List.map_filterMap]
          exact congrArg (fun cut => withMembers block.bare (List.filterMap cut _))
            (funext fun entry => entryChunk?_keeping hcontent block kind role entry)

theorem componentChunks_keeping (parent : Option Chunk) (item : Item) :
    componentChunks ctx (parent.map Chunk.bare) item =
      (componentChunks ctx.keeping parent item).map Chunk.bare := by
  refine ite_eq_apply (List.map Chunk.bare) (ctx.frontEnd.isComponentOptions ctx.tree item) ?_
    (optionChunks_keeping hcontent parent item)
  rw [List.map_flatMap]
  exact congrArg (List.flatMap · _) (funext fun option =>
    optionChunks_keeping hcontent parent option)

/-! ## Rules -/

theorem variableChunk?_keeping (parent : Option Chunk) (item : Item) :
    variableChunk? ctx (parent.map Chunk.bare) item =
      (variableChunk? ctx.keeping parent item).map Chunk.bare := by
  refine ite_eq_apply (Option.map Chunk.bare)
    ((ctx.frontEnd.initializer? item).any ctx.frontEnd.isFunction)
    (makeChunk?_keeping hcontent item parent .functionDecl _) ?_
  exact ite_eq_apply (Option.map Chunk.bare) (ctx.frontEnd.isExported ctx.tree item)
    (makeChunk?_keeping hcontent item parent .exportDecl {}) rfl

theorem containerChunks_keeping (parent : Option Chunk) (kind : ChunkKind)
    {cut cut' : Chunk → Item → List Chunk} (item : Item)
    (hcut : ∀ container member,
      cut container.bare member = (cut' container member).map Chunk.bare) :
    containerChunks ctx (parent.map Chunk.bare) kind cut item =
      (containerChunks ctx.keeping parent kind cut' item).map Chunk.bare := by
  unfold containerChunks
  rw [makeChunk?_keeping hcontent]
  cases ctx.keeping.makeChunk? item parent kind {} with
  | none => rfl
  | some container =>
      refine ite_eq_apply (List.map Chunk.bare) ctx.options.includeNested ?_ rfl
      rw [← withMembers_bare, List.map_flatMap]
      exact congrArg (fun cut => withMembers container.bare (List.flatMap cut _))
        (funext fun member => hcut container member)

/-- Whatever rules are tried, a declaration has the same chunks with and without their text. -/
theorem dispatch_keeping (fuel : Nat) (rules : List Rule) (parent : Option Chunk) (item : Item) :
    dispatch ctx fuel rules (parent.map Chunk.bare) item =
      (dispatch ctx.keeping fuel rules parent item).map Chunk.bare := by
  induction fuel generalizing rules parent item with
  | zero => rfl
  | succ fuel ih =>
      unfold dispatch
      rw [chooseRule?_keeping]
      cases chooseRule? ctx rules item with
      | none => rfl
      | some rule =>
          cases rule with
          | componentOptions => exact componentChunks_keeping hcontent parent item
          | classRule =>
              exact containerChunks_keeping hcontent parent .classDecl item
                fun container member => ih Rule.classMembers (some container) member
          | namespaceRule =>
              exact containerChunks_keeping hcontent parent .namespaceDecl item
                fun container member => ih Rule.namespaceMembers (some container) member
          | variableRule =>
              show List.filterMap _ _ = (List.filterMap _ _).map Chunk.bare
              rw [List.map_filterMap]
              exact congrArg (List.filterMap · _) (funext fun declarator =>
                variableChunk?_keeping hcontent parent declarator)
          | _ => exact toList_makeChunk?_keeping hcontent item parent _ _

/-- A tree has the same chunks with and without their text. -/
theorem outline_keeping (root : Cursor) :
    outline ctx root = (outline ctx.keeping root).map Chunk.bare := by
  unfold outline
  rw [List.map_flatMap]
  exact congrArg (List.flatMap · _) (funext fun item =>
    dispatch_keeping hcontent item.node.node.size Rule.topLevel none item)

end Rules

end Outline

end ChunkGraph
