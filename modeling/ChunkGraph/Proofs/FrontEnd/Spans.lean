import ChunkGraph.Proofs.FrontEnd.Statements
import ChunkGraph.Proofs.Outline.Shape
import ChunkGraph.Proofs.Syntax.Spans

/-!
# Spans of declarations

A chunk covers the statement that wraps its declaration, and the wrapper is
chosen in several places: an export, an ambient or an expression statement
around a declaration, or a variable statement around its only declarator. In
each of them the wrapper is the node from which the declaration was found, so
the declarations that a node is divided into have spans that lie inside that
node and follow one another.

This is a property of scripts and of components, whose declarations are found
among the children of a node. The declarations of other languages are found at
any depth, and several may have one wrapper.

## Main definitions

* `Item.Spanned` — a declaration whose spans fit together.
* `Divides` — declarations inside a node, one after the other.

## Main results

* `FrontEnd.divides_declarations` — the declarations of a file divide its root.
* `FrontEnd.divides_of_partsOf` — the parts of a declaration divide its span.
-/

namespace ChunkGraph

open Syntax

/-- The spans below a declaration fit together, and it lies inside what its chunk covers. -/
structure Item.Spanned (item : Item) : Prop where
  /-- The spans below the declaration fit together. -/
  wellSpanned : item.node.node.WellSpanned
  /-- The chunk covers the declaration. -/
  inside : item.node.node.Inside item.span.node

/-- What a chunk covers starts before it stops. -/
theorem Item.Spanned.start_le_stop {item : Item} (h : item.Spanned) :
    item.span.node.start ≤ item.span.node.stop :=
  Nat.le_trans h.inside.1 (Nat.le_trans h.wellSpanned.start_le_stop h.inside.2)

/-- The spans of declarations lie inside a node and follow one another. -/
structure Divides (whole : Node) (items : List Item) : Prop where
  /-- The spans of each declaration fit together. -/
  spanned : ∀ item ∈ items, item.Spanned
  /-- They lie inside the node. -/
  inside : ∀ item ∈ items, item.span.node.Inside whole
  /-- They follow one another. -/
  ordered : items.Pairwise fun a b => a.span.node.Before b.span.node

namespace Divides

variable {whole : Node} {items fewer : List Item}

theorem nil : Divides whole [] :=
  ⟨fun _ h => absurd h List.not_mem_nil, fun _ h => absurd h List.not_mem_nil, .nil⟩

theorem sublist (h : Divides whole items) (hfewer : fewer.Sublist items) : Divides whole fewer :=
  ⟨fun item hitem => h.spanned item (hfewer.subset hitem),
    fun item hitem => h.inside item (hfewer.subset hitem), h.ordered.sublist hfewer⟩

theorem singleton {item : Item} (h : item.Spanned) : Divides item.span.node [item] := by
  refine ⟨?_, ?_, List.pairwise_singleton _ _⟩
  · intro other hother
    rw [List.mem_singleton.mp hother]
    exact h
  · intro other hother
    rw [List.mem_singleton.mp hother]
    exact .refl _

/-- Declarations can be divided further. -/
theorem flatMap {f : Item → List Item} (h : Divides whole items)
    (hf : ∀ item ∈ items, Divides item.span.node (f item)) : Divides whole (items.flatMap f) := by
  refine ⟨?_, ?_, ?_⟩
  · intro part hpart
    obtain ⟨item, hitem, hpart⟩ := List.mem_flatMap.mp hpart
    exact (hf item hitem).spanned part hpart
  · intro part hpart
    obtain ⟨item, hitem, hpart⟩ := List.mem_flatMap.mp hpart
    exact ((hf item hitem).inside part hpart).trans (h.inside item hitem)
  · refine List.pairwise_flatMap.mpr ⟨fun item hitem => (hf item hitem).ordered, ?_⟩
    refine h.ordered.imp_of_mem ?_
    intro a b ha hb hbefore x hx y hy
    exact hbefore.mono ((hf a ha).inside x hx) ((hf b hb).inside y hy)

end Divides

/-! ## Places inside a node -/

/-- The spans below a place fit together and lie inside a node. -/
structure Fits (whole : Node) (c : Cursor) : Prop where
  /-- They fit together. -/
  wellSpanned : c.node.WellSpanned
  /-- They lie inside the node. -/
  inside : c.node.Inside whole

namespace Fits

variable {whole : Node} {c child : Cursor}

theorem self (h : c.node.WellSpanned) : Fits c.node c := ⟨h, .refl _⟩

theorem of_mem_children (h : Fits whole c) (hchild : child ∈ c.children) : Fits whole child :=
  ⟨Cursor.wellSpanned_of_mem_children h.wellSpanned hchild,
    (Cursor.inside_of_mem_children h.wellSpanned hchild).trans h.inside⟩

theorem of_mem_namedChildren (h : Fits whole c) (hchild : child ∈ c.namedChildren) :
    Fits whole child :=
  h.of_mem_children (List.mem_of_mem_filter hchild)

theorem of_child? {field : String} (h : Fits whole c) (hchild : c.child? field = some child) :
    Fits whole child :=
  h.of_mem_children (List.mem_of_find?_eq_some hchild)

theorem of_namedChildOfKind? {kind : String} (h : Fits whole c)
    (hchild : c.namedChildOfKind? kind = some child) : Fits whole child :=
  h.of_mem_namedChildren (List.mem_of_find?_eq_some hchild)

/-- Declarations found in some of the children, each with the child as what its chunk covers. -/
theorem divides_filterMap (h : Fits whole c) {children : List Cursor}
    (hchildren : children.Sublist c.children) {find? : Cursor → Option Item}
    (hfind : ∀ child item, child.node.WellSpanned → find? child = some item →
      item.Spanned ∧ item.span = child) : Divides whole (children.filterMap find?) := by
  have hchild {item : Item} (hitem : item ∈ children.filterMap find?) :
      item.Spanned ∧ Fits whole item.span := by
    obtain ⟨child, hmem, hfound⟩ := List.mem_filterMap.mp hitem
    have hfits : Fits whole child := h.of_mem_children (hchildren.subset hmem)
    obtain ⟨hspanned, hspan⟩ := hfind child item hfits.wellSpanned hfound
    rw [hspan]
    exact ⟨hspanned, hfits⟩
  refine ⟨fun item hitem => (hchild hitem).1, fun item hitem => (hchild hitem).2.inside, ?_⟩
  refine List.pairwise_filterMap.mpr ?_
  refine ((Cursor.pairwise_children h.wellSpanned).sublist hchildren).imp_of_mem ?_
  intro a b ha hb hbefore x hx y hy
  have hxspan := (hfind a x (h.of_mem_children (hchildren.subset ha)).wellSpanned hx).2
  have hyspan := (hfind b y (h.of_mem_children (hchildren.subset hb)).wellSpanned hy).2
  rw [hxspan, hyspan]
  exact hbefore

/-- A place is a declaration that nothing wraps. -/
theorem spanned_bare (h : c.node.WellSpanned) : (⟨c, none⟩ : Item).Spanned := ⟨h, .refl _⟩

/-- Some of the children, each taken for a declaration. -/
theorem divides_map (h : Fits whole c) {children : List Cursor}
    (hchildren : children.Sublist c.children) :
    Divides whole (children.map (⟨·, none⟩)) := by
  have hmap : (children.map (⟨·, none⟩) : List Item) =
      children.filterMap fun child => some ⟨child, none⟩ := by
    rw [← List.filterMap_eq_map]
    rfl
  rw [hmap]
  refine h.divides_filterMap hchildren ?_
  intro child item hchild hitem
  obtain rfl := Option.some.inj hitem
  exact ⟨spanned_bare hchild, rfl⟩

/-- Named children of some sort, each taken for a declaration. -/
theorem divides_filter (h : Fits whole c) (p : Cursor → Bool) :
    Divides whole ((c.namedChildren.filter p).map (⟨·, none⟩)) :=
  h.divides_map (List.filter_sublist.trans List.filter_sublist)

end Fits

/-! ## Scripts -/

namespace Script

/-- A declaration found in a statement is covered by that statement. -/
theorem spanned_of_unwrap (c : Cursor) (item : Item) (hc : c.node.WellSpanned)
    (h : unwrap c = some item) : item.Spanned ∧ item.span = c := by
  generalize hsize : c.node.size = size
  induction size using Nat.strongRecOn generalizing c item with
  | ind size ih =>
      rcases unwrap_cases h with ⟨declaration, inner, hchild, hinner, rfl⟩ |
        ⟨inner, hinner, rfl⟩ | rfl
      · have hfits := (Fits.self hc).of_child? hchild
        have hsmaller := Cursor.size_lt_of_child? hchild
        obtain ⟨hspanned, hspan⟩ := ih _ (hsize ▸ hsmaller) declaration inner hfits.wellSpanned
          hinner rfl
        have hinside := hspanned.inside
        rw [hspan] at hinside
        exact ⟨⟨hspanned.wellSpanned, hinside.trans hfits.inside⟩, rfl⟩
      · have hfits := (Fits.self hc).of_mem_namedChildren hinner
        exact ⟨⟨hfits.wellSpanned, hfits.inside⟩, rfl⟩
      · exact ⟨Fits.spanned_bare hc, rfl⟩

theorem divides_declarationsIn {whole : Node} {container : Cursor} (h : Fits whole container) :
    Divides whole (declarationsIn container) :=
  h.divides_filterMap List.filter_sublist fun child item hchild hitem =>
    spanned_of_unwrap child item hchild hitem

theorem divides_members {item : Item} (h : item.Spanned) :
    Divides item.span.node (members item) := by
  have hitem : Fits item.span.node item.node := ⟨h.wellSpanned, h.inside⟩
  unfold members
  split
  · split
    · rename_i body hbody
      exact (hitem.of_child? hbody).divides_filter _
    · exact .nil
  · split
    · split
      · rename_i body hbody
        exact divides_declarationsIn (hitem.of_child? hbody)
      · exact .nil
    · exact .nil

theorem divides_declarators {item : Item} (h : item.Spanned) :
    Divides item.span.node (declarators item) := by
  have hitem : Fits item.span.node item.node := ⟨h.wellSpanned, h.inside⟩
  have hchildren : (item.node.namedChildrenOfKind "variable_declarator").Sublist
      item.node.children := List.filter_sublist.trans List.filter_sublist
  unfold declarators
  split
  · rename_i only honly
    rw [honly] at hchildren
    have hfits : Fits item.span.node only := hitem.of_mem_children (hchildren.subset (by simp))
    have hspanned : (⟨only, some item.span⟩ : Item).Spanned := ⟨hfits.wellSpanned, hfits.inside⟩
    exact .singleton hspanned
  · exact hitem.divides_filter _

theorem divides_optionProperties {whole : Node} {object : Cursor} (h : Fits whole object) :
    Divides whole (optionProperties object) :=
  h.divides_filter _

/-- The object of options stands in the statement that exports it. -/
theorem fits_of_optionsObject? {whole : Node} {c object : Cursor} (h : Fits whole c)
    (hobject : optionsObject? c = some object) : Fits whole object := by
  unfold optionsObject? at hobject
  split at hobject
  · exact absurd hobject (by simp)
  · obtain ⟨hvalue, _⟩ := Option.filter_eq_some_iff.mp hobject
    split at hvalue
    · rename_i value hchild
      have hfits := h.of_child? hchild
      split at hvalue
      · obtain ⟨arguments, harguments, hkind⟩ := Option.bind_eq_some_iff.mp hvalue
        exact (hfits.of_child? harguments).of_namedChildOfKind? hkind
      · rw [← Option.some.inj hvalue]
        exact hfits
    · exact absurd hvalue (by simp)

theorem divides_componentOptions {item : Item} (h : item.Spanned) :
    Divides item.span.node (componentOptions item) := by
  have hitem : Fits item.span.node item.node := ⟨h.wellSpanned, h.inside⟩
  unfold componentOptions
  split
  · rename_i object hobject
    exact divides_optionProperties (fits_of_optionsObject? hitem hobject)
  · exact .nil

theorem divides_optionEntries {item : Item} (h : item.Spanned) :
    Divides item.span.node (optionEntries item) := by
  have hitem : Fits item.span.node item.node := ⟨h.wellSpanned, h.inside⟩
  unfold optionEntries
  split
  · rename_i value hvalue
    unfold propertyValue? at hvalue
    split at hvalue
    · obtain ⟨child, hchild, rfl⟩ := Option.map_eq_some_iff.mp hvalue
      have hfits := hitem.of_child? hchild
      split
      · exact divides_optionProperties hfits
      · split
        · exact hfits.divides_filter _
        · exact .nil
    · exact absurd hvalue (by simp)
  · exact .nil

end Script

/-! ## Files -/

namespace FrontEnd

/-- The front ends that find declarations among the children of a node. -/
def ReadsScripts (frontEnd : FrontEnd) : Prop := frontEnd = .script ∨ frontEnd = .component

/-- The declarations of a file lie inside its root and follow one another. -/
theorem divides_declarations {frontEnd : FrontEnd} (hscript : frontEnd.ReadsScripts) (tree : Tree)
    {root : Cursor} (hroot : root.node.WellSpanned) :
    Divides root.node (frontEnd.declarations tree root) := by
  have hfound := Script.divides_declarationsIn (.self hroot)
  rcases hscript with rfl | rfl
  · exact hfound
  · show Divides root.node (Component.declarations tree root)
    unfold Component.declarations
    simp only
    split
    · exact hfound
    · refine hfound.flatMap ?_
      intro item hitem
      have hspanned := hfound.spanned item hitem
      split
      · exact Script.divides_componentOptions hspanned
      · exact .singleton hspanned

/-- The parts of a declaration lie inside what its chunk covers and follow one another. -/
theorem divides_of_partsOf {ctx : Outline.Context} (hscript : ctx.frontEnd.ReadsScripts)
    {item : Item} (h : item.Spanned) {parts : List Item} (hparts : Outline.PartsOf ctx item parts) :
    Divides item.span.node parts := by
  cases hparts with
  | none => exact .nil
  | members =>
      rcases hscript with hfront | hfront
      all_goals rw [hfront]; exact Script.divides_members h
  | declarators =>
      rcases hscript with hfront | hfront
      all_goals rw [hfront]; exact Script.divides_declarators h
  | options =>
      refine Divides.sublist ?_ List.filter_sublist
      rcases hscript with hfront | hfront
      all_goals rw [hfront]; exact Script.divides_componentOptions h
  | entries =>
      rcases hscript with hfront | hfront
      all_goals rw [hfront]; exact Script.divides_optionEntries h

end FrontEnd

end ChunkGraph
