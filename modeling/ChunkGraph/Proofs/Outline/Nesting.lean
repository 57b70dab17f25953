import ChunkGraph.Proofs.Chunk.Unnoticed
import ChunkGraph.Proofs.FrontEnd.Spans
import ChunkGraph.Proofs.Outline.Location
import ChunkGraph.Proofs.Outline.Pieces

/-!
# Trees cut without members

Members are cut after their container and point to it. The container is made
before them, and they leave nothing in it but the list of their identities. So a
tree that is cut without members has the chunks that are held by none, in their
order, without such lists.

Classes, namespaces and the blocks of options are the only containers, and all
of them stand on their own. So what is held follows a chunk that stands on its
own.

## Main definitions

* `Options.flat`, `Options.nested`, `Context.flat` — the same request, without
  members and with them.
* `Flattens` — chunks that are held, left out.

## Main results

* `flattens_dispatch` — the chunks of a declaration.
* `flattens_outline` — the chunks of a tree.
-/

namespace ChunkGraph

open Syntax

/-- The same options, but members have no chunks. -/
def Options.flat (options : Options) : Options := { options with includeNested := false }

/-- The same options, but members have chunks. -/
def Options.nested (options : Options) : Options := { options with includeNested := true }

/-- What is held follows chunks that stand on their own, and the others are those that are left
when it is left out. -/
structure Flattens (all tops : List Chunk) : Prop where
  /-- What is held follows a chunk that stands on its own. -/
  sheltered : Sheltered all
  /-- The others are left. -/
  roots_eq : roots all = tops

theorem roots_append (chunks more : List Chunk) :
    roots (chunks ++ more) = roots chunks ++ roots more := by
  unfold roots
  rw [List.filter_append, List.map_append]

namespace Flattens

theorem nil : Flattens [] [] := ⟨.nil, rfl⟩

theorem append {all tops more moreTops : List Chunk} (h : Flattens all tops)
    (hmore : Flattens more moreTops) : Flattens (all ++ more) (tops ++ moreTops) := by
  refine ⟨h.sheltered.append hmore.sheltered, ?_⟩
  rw [roots_append, h.roots_eq, hmore.roots_eq]

theorem flatMap {α : Type} {items : List α} {cut cutFlat : α → List Chunk}
    (h : ∀ item ∈ items, Flattens (cut item) (cutFlat item)) :
    Flattens (items.flatMap cut) (items.flatMap cutFlat) := by
  induction items with
  | nil => exact .nil
  | cons item items ih =>
      rw [List.flatMap_cons, List.flatMap_cons]
      exact (h item List.mem_cons_self).append
        (ih fun other hother => h other (List.mem_cons_of_mem item hother))

end Flattens

namespace Outline

/-- What the rules know if members are to have no chunks. -/
def Context.flat (ctx : Context) : Context := { ctx with options := ctx.options.flat }

section Flat

variable (ctx : Context)

@[simp] theorem frontEnd_flat : ctx.flat.frontEnd = ctx.frontEnd := rfl

@[simp] theorem tree_flat : ctx.flat.tree = ctx.tree := rfl

@[simp] theorem makeChunk?_flat (item : Item) (parent : Option Chunk) (kind : ChunkKind)
    (facets : Facets) :
    ctx.flat.makeChunk? item parent kind facets = ctx.makeChunk? item parent kind facets := rfl

@[simp] theorem chooseRule?_flat (rules : List Rule) (item : Item) :
    chooseRule? ctx.flat rules item = chooseRule? ctx rules item := by
  have happlies : applies ctx.flat item = applies ctx item := by
    funext rule
    cases rule with
    | _ => rfl
  unfold chooseRule?
  rw [happlies]
  rfl

end Flat

/-! ## Single chunks -/

section Single

variable {ctx : Context} {item : Item} {kind : ChunkKind} {facets : Facets} {c : Chunk}

/-- A chunk without a container is held by none and lists no members. -/
theorem flattens_singleton (hmade : ctx.makeChunk? item none kind facets = some c) :
    Flattens [c] [c] := by
  obtain ⟨name, _, rfl⟩ := Option.map_eq_some_iff.mp hmade
  exact ⟨.single rfl .nil, rfl⟩

theorem flattens_toList (ctx : Context) (item : Item) (kind : ChunkKind) (facets : Facets) :
    Flattens (ctx.makeChunk? item none kind facets).toList
      (ctx.makeChunk? item none kind facets).toList := by
  cases hmade : ctx.makeChunk? item none kind facets with
  | none => exact .nil
  | some c => exact flattens_singleton hmade

/-- A chunk of a kind that stands on its own is left of itself and its members. -/
theorem flattens_withMembers (hmade : ctx.makeChunk? item none kind facets = some c)
    (hstands : ChunkKind.structural.contains kind = true) {members : List Chunk}
    (hmembers : ∀ m ∈ members, m.parentId ≠ none) : Flattens (withMembers c members) [c] := by
  have hheld : ∀ m ∈ members, m.isRoot = false := fun m hm =>
    Option.isNone_eq_false_iff.mpr (Option.isSome_iff_ne_none.mpr (hmembers m hm))
  have hlinked : withMembers c members = linked c members :: (members ++ []) := by
    rw [List.append_nil]
    rfl
  obtain ⟨name, _, rfl⟩ := Option.map_eq_some_iff.mp hmade
  rw [hlinked]
  refine ⟨.container rfl ?_ hheld .nil, ?_⟩
  · show (!ChunkKind.structural.contains kind) = false
    rw [hstands]
    rfl
  · unfold roots
    rw [filter_isRoot_container rfl hheld]
    rfl

end Single

/-! ## Rules -/

section Rules

variable (ctx : Context) (item : Item)

theorem flattens_containerChunks {kind : ChunkKind} (hstands : kind ∈ ChunkKind.structural)
    {cut cutFlat : Chunk → Item → List Chunk}
    (hcut : ∀ container member, ∀ c ∈ cut container member, c.parentId ≠ none) :
    Flattens (containerChunks ctx none kind cut item)
      (containerChunks ctx.flat none kind cutFlat item) := by
  unfold containerChunks
  rw [makeChunk?_flat]
  cases hmade : ctx.makeChunk? item none kind {} with
  | none => exact .nil
  | some container =>
      show Flattens (if ctx.options.includeNested then _ else _) [container]
      split
      · refine flattens_withMembers hmade (List.contains_iff_mem.mpr hstands) fun m hm => ?_
        obtain ⟨member, _, hm⟩ := List.mem_flatMap.mp hm
        exact hcut container member m hm
      · exact flattens_singleton hmade

theorem parentId_entryChunk? {block : Chunk} {kind : ChunkKind} {role : String} {entry : Item}
    {c : Chunk} (h : entryChunk? ctx block kind role entry = some c) : c.parentId ≠ none := by
  obtain ⟨name, _, rfl⟩ := Option.map_eq_some_iff.mp h
  exact Option.some_ne_none block.id

theorem flattens_optionChunks :
    Flattens (optionChunks ctx none item) (optionChunks ctx.flat none item) := by
  unfold optionChunks
  simp only [frontEnd_flat, tree_flat, makeChunk?_flat]
  split
  · exact flattens_toList ctx item .functionDecl _
  · split
    · exact .nil
    · rename_i kind role _
      cases hmade : ctx.makeChunk? item none .topLevelDecl { optionType := some role } with
      | none => exact .nil
      | some block =>
          show Flattens (if ctx.options.includeNested then _ else _) [block]
          split
          · refine flattens_withMembers hmade (by decide) fun m hm => ?_
            obtain ⟨entry, _, hm⟩ := List.mem_filterMap.mp hm
            exact parentId_entryChunk? ctx hm
          · exact flattens_singleton hmade

theorem flattens_componentChunks :
    Flattens (componentChunks ctx none item) (componentChunks ctx.flat none item) := by
  show Flattens (if ctx.frontEnd.isComponentOptions ctx.tree item then _ else _)
    (if ctx.frontEnd.isComponentOptions ctx.tree item then _ else _)
  split
  · exact .flatMap fun option _ => flattens_optionChunks ctx option
  · exact flattens_optionChunks ctx item

theorem flattens_variableChunk? :
    Flattens (variableChunk? ctx none item).toList (variableChunk? ctx.flat none item).toList := by
  have hsame : variableChunk? ctx.flat none item = variableChunk? ctx none item := rfl
  rw [hsame]
  unfold variableChunk?
  split
  · exact flattens_toList ctx item .functionDecl _
  · split
    · exact flattens_toList ctx item .exportDecl {}
    · exact .nil

/-- Whatever rules are tried, a declaration that is cut without members has the chunks that are held
by none. -/
theorem flattens_dispatch (fuel : Nat) (rules : List Rule) :
    Flattens (dispatch ctx fuel rules none item) (dispatch ctx.flat fuel rules none item) := by
  have hheld (fuel : Nat) (rules : List Rule) (container : Chunk) (member : Item) :
      ∀ c ∈ dispatch ctx fuel rules (some container) member, c.parentId ≠ none :=
    (yields_dispatch ctx (some container) member fuel rules).parentId_ne_none
      (Option.some_ne_none container)
  cases fuel with
  | zero => exact .nil
  | succ fuel =>
      unfold dispatch
      rw [chooseRule?_flat]
      cases chooseRule? ctx rules item with
      | none => exact .nil
      | some rule =>
          cases rule with
          | componentOptions => exact flattens_componentChunks ctx item
          | classRule =>
              exact flattens_containerChunks ctx item (by decide) (hheld fuel Rule.classMembers)
          | namespaceRule =>
              exact flattens_containerChunks ctx item (by decide)
                (hheld fuel Rule.namespaceMembers)
          | variableRule =>
              show Flattens (List.filterMap _ _) (List.filterMap _ _)
              rw [List.filterMap_eq_flatMap_toList, List.filterMap_eq_flatMap_toList]
              exact .flatMap fun declarator _ => flattens_variableChunk? ctx declarator
          | _ => exact flattens_toList ctx item _ _

end Rules

/-- A tree that is cut without members has the chunks that are held by none. -/
theorem flattens_outline (ctx : Context) (root : Cursor) :
    Flattens (outline ctx root) (outline ctx.flat root) :=
  .flatMap fun item _ => flattens_dispatch ctx item item.node.node.size Rule.topLevel

end Outline

end ChunkGraph
