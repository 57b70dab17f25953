import ChunkGraph.Proofs.FrontEnd.Exports
import ChunkGraph.Proofs.Outline.Shape

/-!
# Chunks that are held by none

What a statement of a script declares is cut into one chunk, or into one for
each declarator. All other chunks that are cut from it are members and are held
by another. So a chunk that is held by none is made of the declaration itself or
of a declarator, and says of its export what the front end says of that.

## Main results

* `Yields.parentId_ne_none` — what is cut inside a container is held.
* `exists_pieceOf` — what a chunk that is held by none is made of.
-/

namespace ChunkGraph.Outline

open Syntax
open Script (PieceOf declarationKinds)

/-- What is cut inside a container is held by a chunk. -/
theorem Yields.parentId_ne_none {ctx : Context} {parent : Option Chunk} {items : List Item}
    {chunks : List Chunk} (h : Yields ctx parent items chunks) (hparent : parent ≠ none) :
    ∀ c ∈ chunks, c.parentId ≠ none := by
  induction h with
  | nil => exact fun _ hc => absurd hc List.not_mem_nil
  | @chunk parent item kind facets made parts items members rest _ hmade _ _ _ ihmembers ihrest =>
      intro c hc
      rcases List.mem_cons.mp hc with rfl | hc
      · obtain ⟨name, _, rfl⟩ := Option.map_eq_some_iff.mp hmade
        obtain ⟨holder, rfl⟩ := Option.ne_none_iff_exists'.mp hparent
        exact Option.some_ne_none _
      · rcases List.mem_append.mp hc with hc | hc
        · exact ihmembers (Option.some_ne_none made) c hc
        · exact ihrest hparent c hc
  | parts _ _ _ ihfound ihrest =>
      intro c hc
      rcases List.mem_append.mp hc with hc | hc
      · exact ihfound hparent c hc
      · exact ihrest hparent c hc

/-- A chunk is made of a declaration and is held by none. -/
def MadeOf (ctx : Context) (piece : Item) (c : Chunk) : Prop :=
  ∃ kind name facets members, Script.nameOf ctx.tree piece = some name ∧ name ≠ "" ∧
    c = linked (ctx.chunkNamed piece none kind name facets) members

section Script

variable {ctx : Context} (hscript : ctx.frontEnd = .script) {item : Item} {c : Chunk}
include hscript

theorem madeOf_of_makeChunk? {kind : ChunkKind} {facets : Facets} {made : Chunk}
    (h : ctx.makeChunk? item none kind facets = some made) (members : List Chunk) :
    MadeOf ctx item (linked made members) := by
  obtain ⟨name, hname, rfl⟩ := Option.map_eq_some_iff.mp h
  obtain ⟨text, htext, hne⟩ := Option.bind_eq_some_iff.mp hname
  rw [hscript] at htext
  refine ⟨kind, name, facets, members, ?_, Script.ne_empty_of_nonEmpty? hne, rfl⟩
  rw [← Script.eq_of_nonEmpty? hne]
  exact htext

theorem madeOf_of_mem_toList {kind : ChunkKind} {facets : Facets}
    (h : c ∈ (ctx.makeChunk? item none kind facets).toList) : MadeOf ctx item c := by
  have hmade := Option.mem_toList.mp h
  rw [← linked_nil_of_makeChunk? hmade]
  exact madeOf_of_makeChunk? hscript hmade []

theorem madeOf_of_mem_variableChunk? (h : variableChunk? ctx none item = some c) :
    MadeOf ctx item c := by
  obtain ⟨_, _, hmade⟩ := exists_makeChunk?_of_variableChunk? h
  exact madeOf_of_mem_toList hscript (Option.mem_toList.mpr hmade)

theorem madeOf_of_mem_containerChunks {kind : ChunkKind} {rules : List Rule} {fuel : Nat}
    (h : c ∈ containerChunks ctx none kind
      (fun container => dispatch ctx fuel rules (some container)) item)
    (hparent : c.parentId = none) : MadeOf ctx item c := by
  obtain ⟨container, hmade, ⟨members, rfl⟩ | ⟨_, _, member, _, hc, _⟩⟩ := mem_containerChunks h
  · exact madeOf_of_makeChunk? hscript hmade members
  · have hyields := yields_dispatch ctx (some container) member fuel rules
    exact absurd hparent (hyields.parentId_ne_none (Option.some_ne_none container) c hc)

/-- No declaration is an object of options, or an option. -/
theorem applies_componentOptions (hkind : declarationKinds.contains item.kind = true) :
    applies ctx item .componentOptions = false := by
  have hstatement : item.node.kind ≠ "export_statement" :=
    Script.kind_ne_of_declaration hkind (by decide)
  have hproperty : Script.propertyKinds.contains item.kind = false := by
    have hnot : ∀ kind ∈ declarationKinds, Script.propertyKinds.contains kind = false := by decide
    exact hnot item.kind (List.contains_iff_mem.mp hkind)
  have hobject : Script.isComponentOptions ctx.tree item = false := by
    unfold Script.isComponentOptions Script.optionsObject?
    rw [if_pos (by simpa using hstatement)]
  have hoption : Script.isComponentOption ctx.tree item = false := by
    unfold Script.isComponentOption
    rw [hproperty]
    rfl
  show (ctx.frontEnd.isComponentOptions ctx.tree item ||
    ctx.frontEnd.isComponentOption ctx.tree item) = false
  rw [hscript]
  show (Script.isComponentOptions ctx.tree item || Script.isComponentOption ctx.tree item) = false
  rw [hobject, hoption]
  rfl

/-- A chunk of a declaration that is held by none is made of it, or of a declarator of it. -/
theorem exists_pieceOf (hkind : declarationKinds.contains item.kind = true)
    (hc : c ∈ declarationChunks ctx item) (hparent : c.parentId = none) :
    ∃ piece, PieceOf item piece ∧ MadeOf ctx piece c := by
  obtain ⟨rule, _, happlies, hrule, fuel, hc⟩ := exists_rule_of_mem hc
  unfold dispatch at hc
  rw [hrule] at hc
  cases rule with
  | componentOptions =>
      rw [applies_componentOptions hscript hkind] at happlies
      exact absurd happlies (by decide)
  | classRule =>
      exact ⟨item, .whole, madeOf_of_mem_containerChunks hscript hc hparent⟩
  | namespaceRule =>
      exact ⟨item, .whole, madeOf_of_mem_containerChunks hscript hc hparent⟩
  | variableRule =>
      obtain ⟨piece, hpiece, hmade⟩ := List.mem_filterMap.mp hc
      have hvariable : ctx.frontEnd.isVariableStatement item = true := happlies
      rw [hscript] at hpiece hvariable
      exact ⟨piece, .declarator hvariable hpiece,
        madeOf_of_mem_variableChunk? hscript hmade⟩
  | _ => exact ⟨item, .whole, madeOf_of_mem_toList hscript hc⟩

end Script

end ChunkGraph.Outline
