import ChunkGraph.Proofs.FrontEnd.Inside
import ChunkGraph.Proofs.Outline.Shape

/-!
# Members that are exported

In a script neither the members of a class nor the entries of an option of a
component are exported. What stands in a namespace may be, in an export statement
of its own. So an exported chunk that is held by another one is held by a
namespace.

## Main definitions

* `NamespaceHeld` — below a container nothing but a namespace holds the chunk.

## Main results

* `namespaceHeld_of_dispatch`, `namespaceHeld_of_outline` — what holds an exported chunk.
-/

namespace ChunkGraph.Outline

open Syntax

/-- A container holds the chunk, or a namespace below it does. -/
def NamespaceHeld (parent : Option Chunk) (chunks : List Chunk) (c : Chunk) : Prop :=
  c.parentId = parent.map (·.id) ∨
    ∃ holder ∈ chunks, holder.kind = .namespaceDecl ∧ c.parentId = some holder.id

/-- More chunks can only bring more namespaces. -/
theorem NamespaceHeld.mono {parent : Option Chunk} {few many : List Chunk} {c : Chunk}
    (h : NamespaceHeld parent few c) (hsub : ∀ chunk ∈ few, chunk ∈ many) :
    NamespaceHeld parent many c := by
  rcases h with hdirect | ⟨holder, hholder, hkind, hheld⟩
  · exact Or.inl hdirect
  · exact Or.inr ⟨holder, hsub holder hholder, hkind, hheld⟩

section Made

variable {ctx : Context} {item : Item} {parent : Option Chunk} {kind : ChunkKind}
  {facets : Facets} {c : Chunk}

theorem exported_of_makeChunk? (h : ctx.makeChunk? item parent kind facets = some c) :
    c.exported = ctx.frontEnd.isExported ctx.tree item := by
  obtain ⟨name, _, rfl⟩ := Option.map_eq_some_iff.mp h
  rfl

theorem parentId_of_makeChunk? (h : ctx.makeChunk? item parent kind facets = some c) :
    c.parentId = parent.map (·.id) := by
  obtain ⟨name, _, rfl⟩ := Option.map_eq_some_iff.mp h
  rfl

theorem kind_of_makeChunk? (h : ctx.makeChunk? item parent kind facets = some c) :
    c.kind = kind := by
  obtain ⟨name, _, rfl⟩ := Option.map_eq_some_iff.mp h
  rfl

/-- A rule for members of a class makes one chunk of a method or a function. -/
theorem exists_makeChunk?_of_classMembers {fuel : Nat}
    (h : c ∈ dispatch ctx fuel Rule.classMembers parent item) :
    (ctx.frontEnd.isMethod item = true ∨ ctx.frontEnd.isFunction item = true) ∧
      ∃ kind facets, ctx.makeChunk? item parent kind facets = some c := by
  cases fuel with
  | zero => exact absurd h List.not_mem_nil
  | succ fuel =>
      unfold dispatch at h
      cases hrule : chooseRule? ctx Rule.classMembers item with
      | none =>
          rw [hrule] at h
          exact absurd h List.not_mem_nil
      | some rule =>
          rw [hrule] at h
          obtain ⟨hmem, happlies⟩ := of_chooseRule? hrule
          rcases List.mem_cons.mp hmem with rfl | hrest
          · exact ⟨Or.inl happlies, _, _, Option.mem_toList.mp h⟩
          · obtain rfl := List.mem_singleton.mp hrest
            exact ⟨Or.inr happlies, _, _, Option.mem_toList.mp h⟩

end Made

section Script

variable {ctx : Context} {item : Item} {parent : Option Chunk} {c : Chunk}
  (hscript : ctx.frontEnd.ReadsScripts)
include hscript

/-- An option of a component stands where the object stands, and no entry of it is exported. -/
theorem parentId_of_mem_optionChunks (hc : c ∈ optionChunks ctx parent item)
    (hexported : c.exported = true) : c.parentId = parent.map (·.id) := by
  rcases mem_optionChunks hc with ⟨_, _, made, members, hmade, rfl⟩ |
    ⟨_, entry, hentry, _, _, hmade⟩
  · have hdirect := parentId_of_makeChunk? hmade
    exact hdirect
  · rw [exported_of_makeChunk? hmade,
      FrontEnd.isExported_of_mem_optionEntries hscript hentry] at hexported
    exact absurd hexported (by decide)

theorem parentId_of_mem_componentChunks (hc : c ∈ componentChunks ctx parent item)
    (hexported : c.exported = true) : c.parentId = parent.map (·.id) := by
  unfold componentChunks at hc
  split at hc
  · obtain ⟨option, _, hc⟩ := List.mem_flatMap.mp hc
    exact parentId_of_mem_optionChunks hscript hc hexported
  · exact parentId_of_mem_optionChunks hscript hc hexported

/-- In a script what holds an exported chunk below a container is the container, or a namespace. -/
theorem namespaceHeld_of_dispatch {fuel : Nat} {rules : List Rule}
    (hitem : item.Everywhere Script.ClassBodied) (hc : c ∈ dispatch ctx fuel rules parent item)
    (hexported : c.exported = true) :
    NamespaceHeld parent (dispatch ctx fuel rules parent item) c := by
  induction fuel generalizing rules parent item with
  | zero => exact absurd hc List.not_mem_nil
  | succ fuel ih =>
      unfold dispatch at hc ⊢
      split at hc
      case h_1 => exact absurd hc List.not_mem_nil
      case h_2 => exact Or.inl (parentId_of_mem_componentChunks hscript hc hexported)
      case h_3 hrule =>
        have hclass : ctx.frontEnd.isClass item = true := (of_chooseRule? hrule).2
        obtain ⟨container, hmade, ⟨members, rfl⟩ | ⟨_, _, member, hmember, hc, _⟩⟩ :=
          mem_containerChunks hc
        · have hdirect := parentId_of_makeChunk? hmade
          exact Or.inl hdirect
        · obtain ⟨hkind, _, _, hcut⟩ := exists_makeChunk?_of_classMembers hc
          rw [exported_of_makeChunk? hcut,
            FrontEnd.isExported_of_mem_members hscript hclass hitem hmember hkind] at hexported
          exact absurd hexported (by decide)
      case h_7 =>
        obtain ⟨container, hmade, ⟨members, rfl⟩ | ⟨members, hall, member, hmember, hc, hsub⟩⟩ :=
          mem_containerChunks hc
        · have hdirect := parentId_of_makeChunk? hmade
          exact Or.inl hdirect
        · have hparts : PartsOf ctx item (ctx.frontEnd.members item) := .members
          have hpart := FrontEnd.everywhere_partsOf hitem hparts member hmember
          simp only [hall]
          rcases ih hpart hc with hheld | ⟨holder, hholder, hkind, hheld⟩
          · have hkind := kind_of_makeChunk? hmade
            exact Or.inr ⟨linked container members, List.mem_cons_self, hkind, hheld⟩
          · exact Or.inr ⟨holder, List.mem_cons_of_mem _ (hsub holder hholder), hkind, hheld⟩
      case h_8 =>
        obtain ⟨declarator, _, hcut⟩ := List.mem_filterMap.mp hc
        obtain ⟨_, _, hmade⟩ := exists_makeChunk?_of_variableChunk? hcut
        exact Or.inl (parentId_of_makeChunk? hmade)
      all_goals exact Or.inl (parentId_of_makeChunk? (Option.mem_toList.mp hc))

/-- In a script an exported chunk stands at the top level or in a namespace. -/
theorem namespaceHeld_of_outline {root : Syntax.Cursor} (hroot : root.Everywhere Script.ClassBodied)
    (hc : c ∈ outline ctx root) (hexported : c.exported = true) :
    NamespaceHeld none (outline ctx root) c := by
  obtain ⟨item, hitem, hc⟩ := List.mem_flatMap.mp hc
  have hgood := FrontEnd.everywhere_declarations ctx.frontEnd ctx.tree hroot item hitem
  exact (namespaceHeld_of_dispatch hscript hgood hc hexported).mono
    fun chunk hchunk => List.mem_flatMap.mpr ⟨item, hitem, hchunk⟩

end Script

end ChunkGraph.Outline
