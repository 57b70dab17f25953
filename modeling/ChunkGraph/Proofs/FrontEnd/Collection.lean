import ChunkGraph.FrontEnd.Generic
import ChunkGraph.Proofs.Syntax.Order

/-!
# Which declarations are collected

Declarations are collected below a place through named children. The search does
not go into a declaration, and it goes into a block only if a wrapper is right
above it. So a declaration is collected exactly if nothing stands between it and
the place that the search does not go into. No declaration stands between, so
none of those that are collected is above another.

## Main definitions

* `Generic.Collected` — nothing keeps the search from a declaration.

## Main results

* `Generic.collectIn_eq` — what is collected by what the named children give.
* `Generic.mem_collectIn_iff` — what is collected.
* `Generic.collectIn_sublist` — it is collected in document order.
* `Generic.collect_complete_and_apart` — both, with the wrappers, and that what
  is collected is not nested.
-/

namespace ChunkGraph.Generic

open Relation Syntax Syntax.Cursor

variable {language : String} {n c m child : Cursor}

/-! ## One level -/

/-- The search goes into a child that is no declaration: it is no block, or a wrapper is above. -/
def entersFrom (parent child : Cursor) : Bool :=
  !blockKinds.contains child.kind || wrapperKinds.contains parent.kind

theorem entersFrom_iff :
    entersFrom n child = true ↔ (child.kind ∈ blockKinds → n.kind ∈ wrapperKinds) := by
  unfold entersFrom
  rw [Bool.or_eq_true, Bool.not_eq_true', List.contains_iff_mem, imp_iff_not_or,
    ← Bool.not_eq_true, List.contains_iff_mem]

/-- What a named child gives: itself, or what is below it. -/
def found (language : String) (parent child : Cursor) : List Cursor :=
  if isDeclaration language child.node then [child]
  else if entersFrom parent child then collectIn language child.above child.node
  else []

theorem collectAmong_eq (language : String) (parent : Node) (above : List Frame)
    (before nodes : List Node) :
    collectAmong language parent above before nodes =
      ((placed parent above before nodes).filter (·.node.named)).flatMap
        (found language ⟨parent, above⟩) := by
  induction nodes generalizing before with
  | nil => rfl
  | cons node rest ih =>
      rw [collectAmong, ih, placed, List.filter_cons]
      cases hnamed : node.named with
      | false => simp
      | true => simp [found, entersFrom, Cursor.kind]

/-- What is collected below a place is what its named children give, one after the other. -/
theorem collectIn_eq (language : String) (n : Cursor) :
    collectIn language n.above n.node = n.namedChildren.flatMap (found language n) := by
  obtain ⟨⟨kind, named, field, start, stop, children⟩, above⟩ := n
  rw [collectIn, collectAmong_eq]
  rfl

theorem mem_found_iff :
    c ∈ found language n child ↔
      isDeclaration language child.node = true ∧ c = child ∨
        isDeclaration language child.node = false ∧ entersFrom n child = true ∧
          c ∈ collectIn language child.above child.node := by
  unfold found
  cases isDeclaration language child.node <;> cases entersFrom n child <;> simp

/-! ## The whole tree -/

/-- A declaration below a place, reached through named children, such that no place strictly between
them is a declaration, and none is a block unless a wrapper is right above it. -/
structure Collected (language : String) (n c : Cursor) : Prop where
  /-- It is below the place. -/
  below : TransGen IsNamedChild n c
  /-- It is a declaration. -/
  declares : isDeclaration language c.node = true
  /-- What stands between is no declaration, and a block only right below a wrapper. -/
  between : ∀ m, TransGen IsNamedChild n m → TransGen IsNamedChild m c →
    isDeclaration language m.node = false ∧
      (m.kind ∈ blockKinds → ∃ parent, m.parent? = some parent ∧ parent.kind ∈ wrapperKinds)

/-- What stands between a place and one below a child is that child or below it. -/
theorem below_child (hchild : IsNamedChild n child) (hc : ReflTransGen IsNamedChild child c)
    (hm : TransGen IsNamedChild n m) (hmc : ReflTransGen IsNamedChild m c) :
    ReflTransGen IsNamedChild child m := by
  obtain ⟨first, hfirst, hbelow⟩ := TransGen.head'_iff.mp hm
  have hsame : first = child := hfirst.isChild.eq_of_common hchild.isChild
    (reaches_of_named (hbelow.trans hmc)) (reaches_of_named hc)
  rwa [← hsame]

/-- A declaration is collected if and only if nothing keeps the search from it. -/
theorem mem_collectIn_iff (language : String) (n c : Cursor) :
    c ∈ collectIn language n.above n.node ↔ Collected language n c := by
  induction hsize : n.node.size using Nat.strongRecOn generalizing n with
  | ind size ih =>
      rw [collectIn_eq, List.mem_flatMap]
      constructor
      · rintro ⟨child, hchild, hfound⟩
        have hdown : IsNamedChild n child := hchild
        rcases mem_found_iff.mp hfound with ⟨hdeclares, rfl⟩ | ⟨hnot, henters, hdeeper⟩
        · refine ⟨.single hdown, hdeclares, fun m hm hmc => ?_⟩
          have hback := below_child hdown .refl hm hmc.to_reflTransGen
          have hless := size_lt_of_below (below_of_named hmc)
          have hle := size_le_of_below (reaches_of_named hback)
          omega
        · have hcollected := (ih _ (hsize ▸ size_lt_of_mem_namedChildren hchild) child rfl).mp
            hdeeper
          refine ⟨hcollected.below.head hdown, hcollected.declares, fun m hm hmc => ?_⟩
          have hback := below_child hdown hcollected.below.to_reflTransGen hm hmc.to_reflTransGen
          rcases reflTransGen_iff_eq_or_transGen.mp hback with rfl | hbelow
          · exact ⟨hnot, fun hblock => ⟨n, parent?_of_mem_children hdown.isChild,
              entersFrom_iff.mp henters hblock⟩⟩
          · exact hcollected.between m hbelow hmc
      · intro h
        obtain ⟨child, hdown, hrest⟩ := TransGen.head'_iff.mp h.below
        refine ⟨child, hdown, mem_found_iff.mpr ?_⟩
        rcases reflTransGen_iff_eq_or_transGen.mp hrest with rfl | hbelow
        · exact Or.inl ⟨h.declares, rfl⟩
        · obtain ⟨hnot, hblock⟩ := h.between child (.single hdown) hbelow
          have henters : child.kind ∈ blockKinds → n.kind ∈ wrapperKinds := by
            intro hkind
            obtain ⟨parent, hparent, hwrapper⟩ := hblock hkind
            rw [parent?_of_mem_children hdown.isChild] at hparent
            rwa [Option.some.inj hparent]
          have hcollected : Collected language child c :=
            ⟨hbelow, h.declares, fun m hm hmc => h.between m (hm.head hdown) hmc⟩
          exact Or.inr ⟨hnot, entersFrom_iff.mpr henters,
            (ih _ (hsize ▸ size_lt_of_mem_namedChildren hdown) child rfl).mpr hcollected⟩

/-- Declarations are collected in document order. -/
theorem collectIn_sublist (language : String) (n : Cursor) :
    (collectIn language n.above n.node).Sublist n.documentOrder := by
  induction hsize : n.node.size using Nat.strongRecOn generalizing n with
  | ind size ih =>
      have hchild : ∀ child ∈ n.children,
          (found language n child).Sublist child.documentOrder := by
        intro child hchild
        have hbelow := ih _ (hsize ▸ size_lt_of_mem_children hchild) child rfl
        unfold found
        split
        · rw [documentOrder_eq]
          exact (List.nil_sublist _).cons_cons child
        · split
          · exact hbelow
          · exact List.nil_sublist _
      rw [collectIn_eq, documentOrder_eq]
      exact ((List.filter_sublist.flatMap _).trans (List.Sublist.flatMap_right _ hchild)).cons n

/-- What is collected is wrapped by the statement right above it, if that is a wrapper. -/
theorem outer_wrap (c : Cursor) :
    (wrap c).node = c ∧ (wrap c).outer = c.parent?.filter (wrapperKinds.contains ·.kind) := by
  unfold wrap
  cases c.parent? with
  | none => exact ⟨rfl, rfl⟩
  | some parent =>
      simp only [Option.filter]
      split
      · exact ⟨rfl, rfl⟩
      · exact ⟨rfl, rfl⟩

theorem map_node_collect (language : String) (n : Cursor) :
    (collect language n).map (·.node) = collectIn language n.above n.node := by
  unfold collect
  rw [List.map_map]
  exact (List.map_congr_left fun c _ => (outer_wrap c).1).trans (List.map_id _)

/-- The declarations below a place are collected in document order, each of them once and with the
wrapper right above it, and they are those that nothing keeps the search from. None of them is above
another. -/
theorem collect_complete_and_apart (language : String) (n : Cursor) :
    (∀ c, c ∈ (collect language n).map (·.node) ↔ Collected language n c) ∧
      ((collect language n).map (·.node)).Sublist n.documentOrder ∧
      ((collect language n).map (·.node)).Nodup ∧
      (∀ a ∈ (collect language n).map (·.node), ∀ b ∈ (collect language n).map (·.node),
        ¬TransGen IsChild a b) ∧
      ∀ item ∈ collect language n,
        item.outer = item.node.parent?.filter (wrapperKinds.contains ·.kind) := by
  rw [map_node_collect]
  have horder := collectIn_sublist language n
  refine ⟨mem_collectIn_iff language n, horder, horder.nodup (nodup_documentOrder n), ?_, ?_⟩
  · intro a ha b hb hab
    have hfirst := (mem_collectIn_iff language n a).mp ha
    have hsecond := (mem_collectIn_iff language n b).mp hb
    have hnamed := named_of_between hsecond.below
      (below_of_named hfirst.below).to_reflTransGen hab
    obtain ⟨hnot, _⟩ := hsecond.between a hfirst.below hnamed
    rw [hfirst.declares] at hnot
    exact absurd hnot (by decide)
  · intro item hitem
    obtain ⟨c, _, rfl⟩ := List.mem_map.mp hitem
    obtain ⟨hnode, houter⟩ := outer_wrap c
    rw [hnode, houter]

/-- A decorated class with a method, a function defined only under a condition, and a function. -/
def decoratedModule : Node :=
  .mk "module" true "" 0 73
    [.mk "decorated_definition" true "" 0 31
      [.mk "decorator" true "" 0 4 [.mk "@" false "" 0 1 [], .mk "identifier" true "" 1 4 []],
       .mk "class_definition" true "definition" 5 31
        [.mk "class" false "" 5 10 [],
         .mk "identifier" true "name" 11 12 [],
         .mk "block" true "body" 18 31 [.mk "function_definition" true "" 18 31 []]]],
     .mk "if_statement" true "" 32 58
      [.mk "if" false "" 32 34 [],
       .mk "identifier" true "condition" 35 36 [],
       .mk "block" true "consequence" 42 58 [.mk "function_definition" true "" 42 58 []]],
     .mk "function_definition" true "" 59 72 []]

theorem collect_complete_and_apart_decorated :
    ∃ first second, collect "python" (.ofRoot decoratedModule) = [first, second] ∧
      first.kind = "class_definition" ∧ first.outer.map (·.kind) = some "decorated_definition" ∧
      second.kind = "function_definition" ∧ second.outer = none ∧
      Collected "python" (.ofRoot decoratedModule) first.node ∧
      Collected "python" (.ofRoot decoratedModule) second.node ∧
      ¬TransGen IsChild first.node second.node ∧
      first.outer = first.node.parent?.filter (wrapperKinds.contains ·.kind) := by
  obtain ⟨hmem, _, _, hapart, houter⟩ :=
    collect_complete_and_apart "python" (.ofRoot decoratedModule)
  have hfirst : (collect "python" (.ofRoot decoratedModule))[0] ∈
      collect "python" (.ofRoot decoratedModule) := List.getElem_mem (by decide)
  have hsecond : (collect "python" (.ofRoot decoratedModule))[1] ∈
      collect "python" (.ofRoot decoratedModule) := List.getElem_mem (by decide)
  have hfirstNode := List.mem_map_of_mem (f := (·.node)) hfirst
  have hsecondNode := List.mem_map_of_mem (f := (·.node)) hsecond
  exact ⟨_, _, rfl, by decide, by decide, by decide, rfl, (hmem _).mp hfirstNode,
    (hmem _).mp hsecondNode, hapart _ hfirstNode _ hsecondNode, houter _ hfirst⟩

end ChunkGraph.Generic
