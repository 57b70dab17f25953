import ChunkGraph.Proofs.FrontEnd.Statements
import ChunkGraph.Proofs.Syntax.Alike

/-!
# Declarations that cannot be told apart

Two declarations of two scripts are alike when their nodes are, and when they
are wrapped in statements that are. Then they have the same name and are of the
same kind, and they are divided into declarations that are alike again.

Whether a declaration is exported depends on more than its place, since a clause
elsewhere in the file may name it. It is the same for both provided that the two
files list the same names for export.

## Main definitions

* `Item.Alike` — declarations that are alike.

## Main results

* `Script.rel_unwrap`, `Script.rel_declarationsIn` — declarations in statements.
* `Script.rel_members`, `Script.rel_declarators`, `Script.rel_optionEntries`, … —
  the parts of a declaration.
* `Script.nameOf_eq`, `Script.isExported_eq` — what they are called, and whether
  they are exported.
-/

namespace ChunkGraph

open Syntax

variable {tree tree' : Tree}

/-- The declarations are alike, and so are the statements that wrap them. -/
structure Item.Alike (tree tree' : Tree) (item item' : Item) : Prop where
  /-- The declarations are alike. -/
  node : Cursor.Alike tree tree' item.node item'.node
  /-- The statements that wrap them are alike. -/
  outer : Option.Rel (Cursor.Alike tree tree') item.outer item'.outer

namespace Item.Alike

variable {item item' : Item}

theorem kind_eq (h : Item.Alike tree tree' item item') : item.kind = item'.kind := h.node.kind_eq

theorem span (h : Item.Alike tree tree' item item') :
    Cursor.Alike tree tree' item.span item'.span :=
  rel_getD h.outer h.node

theorem text_eq (h : Item.Alike tree tree' item item') : item.text tree = item'.text tree' :=
  h.span.textOf_eq

theorem child? (h : Item.Alike tree tree' item item') (field : String) :
    Option.Rel (Cursor.Alike tree tree') (item.child? field) (item'.child? field) :=
  h.node.child? field

/-- Places that are alike are declarations that are. -/
theorem ofCursor {c c' : Cursor} (h : Cursor.Alike tree tree' c c') :
    Item.Alike tree tree' ⟨c, none⟩ ⟨c', none⟩ :=
  ⟨h, .none⟩

end Item.Alike

namespace Script

/-! ## From statements to declarations -/

/-- The declarations in statements that are alike. -/
theorem rel_unwrap {c c' : Cursor} (h : Cursor.Alike tree tree' c c') :
    Option.Rel (Item.Alike tree tree') (unwrap c) (unwrap c') := by
  induction hsize : c.node.size using Nat.strongRecOn generalizing c c' with
  | _ n ih =>
      by_cases hexport : c.kind = "export_statement"
      · have hexport' : c'.kind = "export_statement" := h.kind_eq.symm.trans hexport
        rcases rel_cases (h.child? "declaration") with ⟨hnone, hnone'⟩ | ⟨d, d', hd, hd', hdd⟩
        · rw [unwrap_of_no_child? hexport hnone, unwrap_of_no_child? hexport' hnone',
            rel_isSome (h.child? "value")]
          split
          · exact .some (.ofCursor h)
          · exact .none
        · rw [unwrap_of_child? hexport hd, unwrap_of_child? hexport' hd']
          have hinner := ih d.node.size (hsize ▸ Cursor.size_lt_of_child? hd) hdd rfl
          exact rel_option_map hinner fun _ _ hi => ⟨hi.node, .some h⟩
      · have hexport' : c'.kind ≠ "export_statement" := fun heq => hexport (h.kind_eq.trans heq)
        rw [unwrap_of_not_export hexport, unwrap_of_not_export hexport', h.kind_eq]
        split
        · have hfound := rel_find? h.namedChildren (p := fun x => declarationKinds.contains x.kind)
            (q := fun x => declarationKinds.contains x.kind) fun _ _ hx => by rw [hx.kind_eq]
          exact rel_option_map hfound fun _ _ hi => ⟨hi, .some h⟩
        · split
          · have hfound := rel_option_filter (rel_head? h.namedChildren)
              (p := fun x => namespaceKinds.contains x.kind)
              (q := fun x => namespaceKinds.contains x.kind) fun _ _ hx => by rw [hx.kind_eq]
            exact rel_option_map hfound fun _ _ hi => ⟨hi, .some h⟩
          · split
            · exact .some (.ofCursor h)
            · exact .none

/-- The declarations in containers that are alike. -/
theorem rel_declarationsIn {c c' : Cursor} (h : Cursor.Alike tree tree' c c') :
    List.Forall₂ (Item.Alike tree tree') (declarationsIn c) (declarationsIn c') :=
  List.rel_filterMap (fun _ _ hchild => rel_unwrap hchild) h.namedChildren

section Parts

variable {item item' : Item} (h : Item.Alike tree tree' item item')
include h

/-! ## Parts of a declaration -/

theorem rel_members : List.Forall₂ (Item.Alike tree tree') (members item) (members item') := by
  unfold members
  rw [h.kind_eq]
  split
  · rcases rel_cases (h.child? "body") with ⟨hx, hy⟩ | ⟨body, body', hx, hy, hbody⟩
    · rw [hx, hy]
      exact .nil
    · rw [hx, hy]
      refine List.rel_map (fun _ _ hmember => .ofCursor hmember) (rel_filter hbody.namedChildren ?_)
      intro member member' hmember
      rw [hmember.kind_eq]
  · split
    · rcases rel_cases (h.child? "body") with ⟨hx, hy⟩ | ⟨body, body', hx, hy, hbody⟩
      · rw [hx, hy]
        exact .nil
      · rw [hx, hy]
        exact rel_declarationsIn hbody
    · exact .nil

theorem rel_declarators :
    List.Forall₂ (Item.Alike tree tree') (declarators item) (declarators item') := by
  have hfound := h.node.namedChildrenOfKind "variable_declarator"
  unfold declarators
  generalize item.node.namedChildrenOfKind "variable_declarator" = found at hfound
  generalize item'.node.namedChildrenOfKind "variable_declarator" = found' at hfound
  cases hfound with
  | nil => exact .nil
  | cons hfirst hrest =>
      cases hrest with
      | nil => exact .cons ⟨hfirst, .some h.span⟩ .nil
      | cons hsecond hrest =>
          exact List.rel_map (fun _ _ hd => .ofCursor hd) (.cons hfirst (.cons hsecond hrest))

theorem rel_initializer? :
    Option.Rel (Item.Alike tree tree') (initializer? item) (initializer? item') :=
  rel_option_map (h.child? "value") fun _ _ hvalue => .ofCursor hvalue

omit h in
theorem rel_optionsObject? {c c' : Cursor} (h : Cursor.Alike tree tree' c c') :
    Option.Rel (Cursor.Alike tree tree') (optionsObject? c) (optionsObject? c') := by
  unfold optionsObject?
  rw [h.kind_eq]
  split
  · exact .none
  · refine rel_option_filter ?_ fun _ _ hvalue => by rw [hvalue.kind_eq]
    rcases rel_cases (h.child? "value") with ⟨hx, hy⟩ | ⟨value, value', hx, hy, hvalue⟩
    · rw [hx, hy]
      exact .none
    · simp only [hx, hy, hvalue.kind_eq]
      split
      · exact rel_option_bind (hvalue.child? "arguments") fun _ _ harguments =>
          harguments.namedChildOfKind? "object"
      · exact .some hvalue

omit h in
theorem rel_optionProperties {c c' : Cursor} (h : Cursor.Alike tree tree' c c') :
    List.Forall₂ (Item.Alike tree tree') (optionProperties c) (optionProperties c') := by
  refine List.rel_map (fun _ _ hproperty => .ofCursor hproperty) (rel_filter h.namedChildren ?_)
  intro property property' hproperty
  rw [hproperty.kind_eq]

theorem rel_componentOptions :
    List.Forall₂ (Item.Alike tree tree') (componentOptions item) (componentOptions item') := by
  unfold componentOptions
  rcases rel_cases (rel_optionsObject? h.node) with ⟨hx, hy⟩ | ⟨object, object', hx, hy, hobject⟩
  · rw [hx, hy]
    exact .nil
  · rw [hx, hy]
    exact rel_optionProperties hobject

theorem rel_propertyValue? :
    Option.Rel (Item.Alike tree tree') (propertyValue? item) (propertyValue? item') := by
  unfold propertyValue?
  rw [h.kind_eq]
  split
  · exact rel_option_map (h.child? "value") fun _ _ hvalue => .ofCursor hvalue
  · exact .none

theorem rel_optionEntries :
    List.Forall₂ (Item.Alike tree tree') (optionEntries item) (optionEntries item') := by
  unfold optionEntries
  rcases rel_cases (rel_propertyValue? h) with ⟨hx, hy⟩ | ⟨value, value', hx, hy, hvalue⟩
  · rw [hx, hy]
    exact .nil
  · simp only [hx, hy, hvalue.kind_eq]
    split
    · exact rel_optionProperties hvalue.node
    · split
      · exact List.rel_map (fun _ _ hentry => .ofCursor hentry)
          (hvalue.node.namedChildrenOfKind "string")
      · exact .nil

/-! ## Names and kinds -/

theorem nameOf_eq : nameOf tree item = nameOf tree' item' := by
  unfold nameOf
  rw [h.kind_eq]
  split
  · rw [h.node.textOf_eq]
  · split
    · exact rel_option_map_eq (h.child? "key") fun _ _ hkey => by rw [hkey.textOf_eq]
    · rcases rel_cases (h.child? "name") with ⟨hx, hy⟩ | ⟨name, name', hx, hy, hname⟩
      · rw [hx, hy]
      · simp only [hx, hy, hname.kind_eq, hname.textOf_eq]

theorem isMethod_eq : isMethod item = isMethod item' := by
  unfold isMethod
  rw [h.kind_eq]
  rcases rel_cases (h.child? "value") with ⟨hx, hy⟩ | ⟨value, value', hx, hy, hvalue⟩
  · rw [hx, hy]
  · simp only [hx, hy, hvalue.kind_eq]

theorem namesOption_eq : namesOption tree item = namesOption tree' item' := by
  unfold namesOption
  rw [nameOf_eq h]

theorem isComponentOptions_eq : isComponentOptions tree item = isComponentOptions tree' item' := by
  unfold isComponentOptions
  rcases rel_cases (rel_optionsObject? h.node) with ⟨hx, hy⟩ | ⟨object, object', hx, hy, hobject⟩
  · rw [hx, hy]
  · rw [hx, hy]
    exact rel_any (rel_optionProperties hobject) fun _ _ hproperty => namesOption_eq hproperty

/-- The statements that the options belong to are of the same kind. -/
theorem rel_optionHolder? :
    Option.Rel Cursor.SameKindsUp (optionHolder? item) (optionHolder? item') := by
  unfold optionHolder?
  refine rel_option_bind (Cursor.rel_parent? h.node.kindsUp) fun parent parent' hparent => ?_
  rw [hparent.kind_eq]
  split
  · exact .none
  · refine rel_option_bind (Cursor.rel_parent? hparent) fun holder holder' hholder => ?_
    rw [hholder.kind_eq]
    split
    · exact rel_option_bind (Cursor.rel_parent? hholder) fun _ _ hcall => Cursor.rel_parent? hcall
    · exact .some hholder

theorem isComponentOption_eq : isComponentOption tree item = isComponentOption tree' item' := by
  unfold isComponentOption
  rw [h.kind_eq, namesOption_eq h]
  rcases rel_cases (rel_optionHolder? h) with ⟨hx, hy⟩ | ⟨holder, holder', hx, hy, hholder⟩
  · rw [hx, hy]
  · simp only [hx, hy, hholder.kind_eq]

/-! ## Exports -/

/-- The statements that they stand in are of the same kinds. -/
theorem rel_exportStatement? :
    Option.Rel Cursor.SameKindsUp (exportStatement? item) (exportStatement? item') := by
  have hparent : Option.Rel Cursor.SameKindsUp
      (if item.kind == "variable_declarator" then item.node.parent?.bind (·.parent?)
        else item.node.parent?)
      (if item'.kind == "variable_declarator" then item'.node.parent?.bind (·.parent?)
        else item'.node.parent?) := by
    rw [h.kind_eq]
    split
    · exact rel_option_bind (Cursor.rel_parent? h.node.kindsUp) fun _ _ hp => Cursor.rel_parent? hp
    · exact Cursor.rel_parent? h.node.kindsUp
  unfold exportStatement?
  refine rel_option_filter ?_ fun _ _ hp => by rw [hp.kind_eq]
  rcases rel_cases hparent with ⟨hx, hy⟩ | ⟨parent, parent', hx, hy, hp⟩
  · simp only [hx, hy]
    exact .none
  · simp only [hx, hy, hp.kind_eq]
    split
    · exact Cursor.rel_parent? hp
    · exact .some hp

omit h in
/-- What stands above decides on the top level by its kinds alone. -/
theorem topLevelBelow_eq {above above' : List Frame}
    (hkinds : above.map (·.parent.kind) = above'.map (·.parent.kind)) :
    topLevelBelow above = topLevelBelow above' := by
  induction above generalizing above' with
  | nil =>
      cases above' with
      | nil => rfl
      | cons _ _ => exact absurd hkinds (by simp)
  | cons frame above ih =>
      cases above' with
      | nil => exact absurd hkinds (by simp)
      | cons frame' above' =>
          rw [List.map_cons, List.map_cons] at hkinds
          obtain ⟨hkind, habove⟩ := List.cons.inj hkinds
          rw [topLevelBelow, topLevelBelow, hkind, ih habove]

theorem isTopLevel_eq : isTopLevel item = isTopLevel item' := topLevelBelow_eq h.span.above

/-- If both files list the same names for export, both declarations are exported or neither. -/
theorem isExported_eq (hexports : exportTable tree = exportTable tree') :
    isExported tree item = isExported tree' item' := by
  have hlookup (name : String) : localExport? tree name = localExport? tree' name := by
    unfold localExport?
    rw [hexports]
  unfold isExported
  rw [rel_isSome (rel_exportStatement? h), nameOf_eq h, isTopLevel_eq h]
  cases nameOf tree' item' with
  | none => rfl
  | some name => simp only [hlookup]

end Parts

/-- What a clause says of names. -/
theorem specifiers_eq {c c' : Cursor} (h : Cursor.Alike tree tree' c c') :
    specifiers tree c = specifiers tree' c' := by
  refine filterMap_eq h.namedChildren fun specifier specifier' hspecifier => ?_
  refine rel_option_map_eq (hspecifier.child? "name") fun name name' hname => ?_
  rw [hname.textOf_eq,
    rel_option_map_eq (hspecifier.child? "alias") fun _ _ halias => halias.textOf_eq]

/-- Statements that are alike export the same names. -/
theorem statementExports_eq {c c' : Cursor} (h : Cursor.Alike tree tree' c c') :
    statementExports tree c = statementExports tree' c' := by
  have hclauses (read : String × Option String → String × String) :
      ((c.namedChildrenOfKind "export_clause").flatMap fun clause =>
        (specifiers tree clause).map read) =
      (c'.namedChildrenOfKind "export_clause").flatMap fun clause =>
        (specifiers tree' clause).map read :=
    flatMap_eq (h.namedChildrenOfKind "export_clause") fun _ _ hclause => by
      rw [specifiers_eq hclause]
  unfold statementExports
  simp only [h.kind_eq, rel_isSome (h.child? "source"), hclauses]
  rcases rel_cases (h.child? "value") with ⟨hx, hy⟩ | ⟨value, value', hx, hy, hvalue⟩
  · rw [hx, hy]
  · simp only [hx, hy, hvalue.kind_eq, hvalue.textOf_eq]

end Script

end ChunkGraph
