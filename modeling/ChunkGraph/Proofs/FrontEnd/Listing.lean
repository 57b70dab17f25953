import ChunkGraph.Proofs.FrontEnd.Entries

/-!
# What is exported is listed

A declaration says of itself whether it is exported and under which name. The
exports of the file list that name beside the name of the declaration, whichever
of the two ways it is exported: in an export statement of its own, or by a clause
or a default export elsewhere in the file.

The grammars let an export statement export one thing only. Where a statement
held a declaration and a clause side by side, the list would have the
declaration alone, and the table of names the clause. They do not let it export
an export statement either; of two such statements a declaration asks the inner
one whether it is a default export, and the list the outer one.

## Main definitions

* `exportedParts` — what an export statement exports.
* `Regular` — an export statement that exports one thing.
* `Mismatched` — an export statement around another one, of another sort.

## Main results

* `exists_entry_of_mem_localExports` — the entries behind the table of names.
* `exists_entry_of_isExported` — the entry of a declaration that is exported.
-/

namespace ChunkGraph.Script

open ChunkGraph.Syntax

/-- What an export statement exports: a declaration, a value or a clause. -/
def exportedParts (statement : Cursor) : List Cursor :=
  statement.childrenIn "declaration" ++ statement.childrenIn "value" ++
    statement.namedChildrenOfKind "export_clause"

/-- An export statement that exports one thing. -/
structure Regular (statement : Cursor) : Prop where
  /-- It exports one thing at most. -/
  single : (exportedParts statement).length ≤ 1
  /-- No variables are declared by a default export. -/
  unvaried : isDefaultStatement statement = true →
    ∀ item, unwrap statement = some item → variableKinds.contains item.kind = false

/-- The statement exports another export statement, and one of the two is a default export. -/
def Mismatched (statement : Cursor) : Prop :=
  ∃ inner item around, statement.child? "declaration" = some inner ∧
    inner.kind = "export_statement" ∧ unwrap statement = some item ∧
    exportAround? item.node.parent? = some around ∧
    isDefaultStatement around ≠ isDefaultStatement statement

/-! ## Regular statements -/

theorem mem_childrenIn_of_child? {c child : Cursor} {field : String}
    (h : c.child? field = some child) : child ∈ c.childrenIn field := by
  have hfield := List.find?_some h
  exact List.mem_filter.mpr ⟨List.mem_of_find?_eq_some h, hfield⟩

theorem child?_eq_none_of_length {c : Cursor} {field : String}
    (h : (c.childrenIn field).length = 0) : c.child? field = none := by
  cases hchild : c.child? field with
  | none => rfl
  | some child =>
      have hpos := List.length_pos_of_mem (mem_childrenIn_of_child? hchild)
      omega

namespace Regular

variable {statement : Cursor} (h : Regular statement)
include h

theorem length_le :
    (statement.childrenIn "declaration").length + (statement.childrenIn "value").length +
      (statement.namedChildrenOfKind "export_clause").length ≤ 1 := by
  have hsingle := h.single
  unfold exportedParts at hsingle
  rw [List.length_append, List.length_append] at hsingle
  exact hsingle

/-- A statement that exports a value declares nothing. -/
theorem declaration_of_value {value : Cursor} (hvalue : statement.child? "value" = some value) :
    statement.child? "declaration" = none := by
  have hpos := List.length_pos_of_mem (mem_childrenIn_of_child? hvalue)
  have hle := h.length_le
  exact child?_eq_none_of_length (by omega)

/-- A statement with a clause has nothing else to export. -/
theorem alone_of_clause {clause : Cursor}
    (hclause : clause ∈ statement.namedChildrenOfKind "export_clause") :
    statement.child? "declaration" = none ∧ statement.child? "value" = none ∧
      statement.namedChildOfKind? "export_clause" = some clause := by
  have hpos := List.length_pos_of_mem hclause
  have hle := h.length_le
  refine ⟨child?_eq_none_of_length (by omega), child?_eq_none_of_length (by omega), ?_⟩
  have hone : (statement.namedChildrenOfKind "export_clause").length = 1 := by omega
  obtain ⟨only, honly⟩ := List.length_eq_one_iff.mp hone
  rw [honly] at hclause
  obtain rfl := List.mem_singleton.mp hclause
  show statement.namedChildren.find? (·.kind == "export_clause") = some clause
  rw [← List.head?_filter]
  exact congrArg List.head? honly

end Regular

/-! ## Names exported apart from their declarations -/

section Table

variable {tree : Tree} {root : Cursor} {name exported : String}

/-- What a statement says about names declared elsewhere is among its exports. -/
theorem exists_export_of_mem_statementExports {statement : Cursor} (hregular : Regular statement)
    (h : (name, exported) ∈ statementExports tree statement) :
    statement.kind = "export_statement" ∧ ∃ entries, exportsOf? tree statement = some entries ∧
      ∃ e ∈ entries, e.source = none ∧ e.localName = some name ∧ e.name = exported := by
  unfold statementExports at h
  split at h
  · exact absurd h List.not_mem_nil
  rename_i hcounts
  rw [Bool.not_eq_true, Bool.or_eq_false_iff, bne_eq_false_iff_eq, Option.isSome_eq_false_iff,
    Option.isNone_iff_eq_none] at hcounts
  obtain ⟨hkind, hsource⟩ := hcounts
  refine ⟨hkind, ?_⟩
  have hclauses (hmem : (name, exported) ∈
      (statement.namedChildrenOfKind "export_clause").flatMap fun clause =>
        (specifiers tree clause).map fun pair => (pair.1, pair.2.getD pair.1)) :
      ∃ entries, exportsOf? tree statement = some entries ∧
        ∃ e ∈ entries, e.source = none ∧ e.localName = some name ∧ e.name = exported := by
    obtain ⟨clause, hclause, hmem⟩ := List.mem_flatMap.mp hmem
    obtain ⟨⟨inside, given⟩, hspecifier, hpair⟩ := List.mem_map.mp hmem
    obtain ⟨rfl, rfl⟩ := Prod.mk.inj hpair
    obtain ⟨hdeclaration, hvalue, hfirst⟩ := hregular.alone_of_clause hclause
    refine ⟨(specifiers tree clause).map fun pair =>
        ⟨pair.2.getD pair.1, some pair.1, none, pair.2.getD pair.1 == "default"⟩, ?_,
      ⟨given.getD inside, some inside, none, given.getD inside == "default"⟩,
      List.mem_map.mpr ⟨(inside, given), hspecifier, rfl⟩, rfl, rfl, rfl⟩
    unfold exportsOf?
    rw [hdeclaration, hvalue, hfirst, hsource]
    rfl
  simp only at h
  split at h
  · rename_i value hvalue
    split at h
    · rename_i hidentifier
      obtain ⟨rfl, rfl⟩ := Prod.mk.inj (List.mem_singleton.mp h)
      refine ⟨_, ?_, _, List.mem_singleton_self ⟨"default", some (tree.textOf value), none, true⟩,
        rfl, rfl, rfl⟩
      unfold exportsOf?
      rw [hregular.declaration_of_value hvalue, hvalue]
      simp only [if_pos hidentifier]
    · exact hclauses h
  · exact hclauses h

/-- Every line of the table of names is an entry of an export statement of the file. -/
theorem exists_entry_of_mem_localExports (hroot : tree.rootCursor? = some root)
    (hregular : ∀ statement ∈ root.namedChildrenOfKind "export_statement", Regular statement)
    (h : (name, exported) ∈ localExports tree) :
    ∃ origin e, IsEntry tree root origin e ∧ e.source = none ∧ e.localName = some name ∧
      e.name = exported := by
  unfold localExports at h
  rw [hroot] at h
  obtain ⟨origin, horigin, h⟩ := List.mem_flatMap.mp h
  by_cases hkind : origin.kind = "export_statement"
  · have hnamed : origin ∈ root.namedChildrenOfKind "export_statement" :=
      List.mem_filter.mpr ⟨horigin, beq_iff_eq.mpr hkind⟩
    obtain ⟨_, entries, hentries, e, he, hsource, hlocal, hname⟩ :=
      exists_export_of_mem_statementExports (hregular origin hnamed) h
    exact ⟨origin, e, ⟨hnamed, entries, hentries, he⟩, hsource, hlocal, hname⟩
  · unfold statementExports at h
    rw [if_pos (by simp [hkind])] at h
    exact absurd h List.not_mem_nil

/-- What the table of names answers is a line of it. -/
theorem mem_of_localExport? (hsound : TableSound tree)
    (h : localExport? tree name = some exported) : (name, exported) ∈ localExports tree :=
  hsound ▸ List.mem_reverse.mp (Keyed.mem_of_lookup h)

end Table

/-! ## Declarations in export statements -/

/-- Whether it stands for the statement or not, a declarator is the same node. -/
theorem map_node_declarators (item : Item) :
    (declarators item).map (·.node) = item.node.namedChildrenOfKind "variable_declarator" := by
  unfold declarators
  split
  · rename_i only honly
    rw [honly]
    rfl
  · rw [List.map_map]
    exact List.map_id' _

/-- A name is that of a node, whatever wraps it. -/
theorem nameOf_congr {tree : Tree} {item other : Item} (h : item.node = other.node) :
    nameOf tree item = nameOf tree other := by
  obtain ⟨node, outer⟩ := item
  obtain rfl := h
  rfl

/-- What an export statement declares is what its declaration holds. -/
theorem exists_declaration_of_unwrap {statement : Cursor}
    (hkind : statement.kind = "export_statement") {item : Item} (h : unwrap statement = some item)
    (hdeclares : declarationKinds.contains item.kind = true) :
    ∃ declaration inner, statement.child? "declaration" = some declaration ∧
      unwrap declaration = some inner ∧ item.node = inner.node := by
  cases hdeclaration : statement.child? "declaration" with
  | none =>
      rw [unwrap_of_no_child? hkind hdeclaration] at h
      split at h
      · obtain rfl := Option.some.inj h
        exact absurd hkind (kind_ne_of_declaration hdeclares (by decide))
      · exact absurd h (by simp)
  | some declaration =>
      rw [unwrap_of_child? hkind hdeclaration] at h
      obtain ⟨inner, hinner, rfl⟩ := Option.map_eq_some_iff.mp h
      exact ⟨declaration, inner, rfl, hinner, rfl⟩

/-- It stands in that statement or in none, unless the declaration is an export statement in
turn. -/
theorem exportAround?_of_unwrap {statement declaration around : Cursor} {item : Item}
    (hkind : statement.kind = "export_statement")
    (hdeclaration : statement.child? "declaration" = some declaration)
    (hplain : declaration.kind ≠ "export_statement") (h : unwrap statement = some item)
    (haround : exportAround? item.node.parent? = some around) : around = statement := by
  by_cases hown : declarationKinds.contains declaration.kind = true ∨
      declaration.kind = "ambient_declaration"
  · obtain ⟨_, hstands⟩ := unwrap_of_own hkind hdeclaration hown h
    exact Option.some.inj (haround.symm.trans hstands)
  · -- A namespace in an expression statement does not stand in the export statement.
    obtain ⟨hnot, hambient⟩ := not_or.mp hown
    rw [unwrap_of_child? hkind hdeclaration] at h
    obtain ⟨inner, hinner, rfl⟩ := Option.map_eq_some_iff.mp h
    rw [unwrap_of_not_export hplain, if_neg (by simpa using hambient)] at hinner
    by_cases hexpression : (declaration.kind == "expression_statement") = true
    · rw [if_pos hexpression] at hinner
      obtain ⟨node, hnode, rfl⟩ := Option.map_eq_some_iff.mp hinner
      obtain ⟨hhead, _⟩ := Option.filter_eq_some_iff.mp hnode
      have hparent : node.parent? = some declaration :=
        Cursor.parent?_of_mem_children (List.mem_of_mem_filter (List.mem_of_head? hhead))
      have hnone : exportAround? node.parent? = none := by
        rw [hparent]
        unfold exportAround?
        simp [eq_of_beq hexpression, Option.filter]
      exact absurd (hnone.symm.trans haround) (by simp)
    · rw [if_neg hexpression, if_neg hnot] at hinner
      exact absurd hinner (by simp)

/-- An export statement around what another one declares is a default export if that one is, unless
the two are mismatched. -/
theorem isDefaultStatement_eq_or {statement declaration around : Cursor} {item : Item}
    (hkind : statement.kind = "export_statement")
    (hdeclaration : statement.child? "declaration" = some declaration)
    (h : unwrap statement = some item)
    (haround : exportAround? item.node.parent? = some around) :
    isDefaultStatement around = isDefaultStatement statement ∨ Mismatched statement := by
  by_cases hsame : isDefaultStatement around = isDefaultStatement statement
  · exact Or.inl hsame
  · refine Or.inr ⟨declaration, item, around, hdeclaration, ?_, h, haround, hsame⟩
    refine Decidable.byContradiction fun hplain => hsame ?_
    rw [exportAround?_of_unwrap hkind hdeclaration hplain h haround]

/-- What an export statement declares is among its exports, under the name of the declaration, or as
the default export. -/
theorem exists_entry_of_declared {tree : Tree} {root statement declaration : Cursor}
    {item inner piece : Item} {name : String}
    (hstatement : statement ∈ root.namedChildrenOfKind "export_statement")
    (hdeclaration : statement.child? "declaration" = some declaration)
    (hinner : unwrap declaration = some inner) (hnode : item.node = inner.node)
    (hpiece : piece = item ∧ variableKinds.contains item.kind = false ∨
      isDefaultStatement statement = false ∧ variableKinds.contains item.kind = true ∧
        piece ∈ declarators item)
    (hname : nameOf tree piece = some name) (hne : name ≠ "") :
    ∃ e, IsEntry tree root statement e ∧ e.source = none ∧ e.localName = some name ∧
      e.name = if isDefaultStatement statement then "default" else name := by
  have hsame : item.kind = inner.kind := congrArg Cursor.kind hnode
  have hfull (found : String) (hfound : found ≠ "") : nonEmpty? found = some found := by
    unfold nonEmpty?
    rw [if_neg fun hempty => hfound (String.isEmpty_iff.mp hempty)]
  have hentries : exportsOf? tree statement =
      some (declaredExports tree (isDefaultStatement statement) declaration) := by
    unfold exportsOf?
    rw [hdeclaration]
  have hentry (e : Export)
      (he : e ∈ declaredExports tree (isDefaultStatement statement) declaration) :
      IsEntry tree root statement e := ⟨hstatement, _, hentries, he⟩
  unfold declaredExports at hentry
  rw [hinner] at hentry
  rcases hpiece with ⟨rfl, hkind⟩ | ⟨hdefault, hkind, hpiece⟩
  · simp only [← hsame, hkind, Bool.false_eq_true, if_false] at hentry
    rw [nameOf_congr hnode] at hname
    simp only [hname, Option.bind_some, hfull name hne] at hentry
    exact ⟨_, hentry _ (List.mem_singleton_self _), rfl, rfl, rfl⟩
  · simp only [← hsame, hkind, if_true] at hentry
    have hmem : piece.node ∈ (declarators inner).map (·.node) := by
      rw [map_node_declarators, ← hnode, ← map_node_declarators]
      exact List.mem_map_of_mem hpiece
    obtain ⟨declarator, hdeclarator, hsameNode⟩ := List.mem_map.mp hmem
    have hdeclaratorName : (nameOf tree declarator).bind nonEmpty? = some name := by
      rw [nameOf_congr hsameNode, hname, Option.bind_some, hfull name hne]
    refine ⟨⟨name, some name, none, false⟩, hentry _ ?_, rfl, rfl, ?_⟩
    · exact List.mem_map_of_mem (List.mem_filterMap.mpr ⟨declarator, hdeclarator, hdeclaratorName⟩)
    · rw [hdefault]
      rfl

/-- What is declared at the top level and is exported is an entry of an export statement of the
file, under the name under which it is exported, unless it stands in mismatched statements. -/
theorem exists_entry_of_isExported {tree : Tree} {root statement : Cursor}
    (hsound : TableSound tree) (hroot : tree.rootCursor? = some root)
    (hkind : root.kind ≠ "export_statement")
    (hregular : ∀ statement ∈ root.namedChildrenOfKind "export_statement", Regular statement)
    (hstatement : statement ∈ root.namedChildren) {item piece : Item}
    (hitem : unwrap statement = some item) (hdeclares : declarationKinds.contains item.kind = true)
    (hpiece : piece = item ∧ variableKinds.contains item.kind = false ∨
      variableKinds.contains item.kind = true ∧ piece ∈ declarators item)
    {name : String} (hname : nameOf tree piece = some name) (hne : name ≠ "")
    (hexported : isExported tree piece = true) :
    ∃ origin e, IsEntry tree root origin e ∧ e.source = none ∧ e.localName = some name ∧
      (exportName tree piece = some e.name ∨ Mismatched statement) := by
  have hpieceOf : PieceOf item piece := by
    rcases hpiece with ⟨rfl, _⟩ | ⟨hvariable, hpiece⟩
    · exact .whole
    · exact .declarator hvariable hpiece
  have hstands := exportStatement?_of_pieceOf hdeclares hpieceOf
  unfold isExported at hexported
  unfold exportName
  cases haround : exportStatement? piece with
  | none =>
      rw [haround, hname] at hexported
      simp only [Option.isSome_none, Bool.false_or, Bool.and_eq_true] at hexported
      obtain ⟨⟨hfull, hlisted⟩, htop⟩ := hexported
      obtain ⟨exported, htable⟩ := Option.isSome_iff_exists.mp hlisted
      obtain ⟨origin, e, hentry, hsource, hlocal, rfl⟩ :=
        exists_entry_of_mem_localExports hroot hregular (mem_of_localExport? hsound htable)
      refine ⟨origin, e, hentry, hsource, hlocal, Or.inl ?_⟩
      simp only [hname, hfull, htop, Bool.and_self, if_true, htable]
  | some around =>
      rw [hstands] at haround
      have hnothing : exportAround? (some root) = none := exportAround?_of_root hroot hkind
      have hown : statement.kind = "export_statement" := by
        refine Decidable.byContradiction fun hother => ?_
        have hparent : statement.parent? = some root :=
          Cursor.parent?_of_mem_children (List.mem_of_mem_filter hstatement)
        have hnone := (unwrap_of_apart hnothing hparent hother hitem).2.2.1
        exact absurd (hnone.symm.trans haround) (by simp)
      have horigin : statement ∈ root.namedChildrenOfKind "export_statement" :=
        List.mem_filter.mpr ⟨hstatement, beq_iff_eq.mpr hown⟩
      obtain ⟨declaration, inner, hdeclaration, hinner, hnode⟩ :=
        exists_declaration_of_unwrap hown hitem hdeclares
      have hdefault (hvariable : variableKinds.contains item.kind = true) :
          isDefaultStatement statement = false := by
        refine Bool.eq_false_iff.mpr fun hyes => ?_
        have hnot := (hregular statement horigin).unvaried hyes item hitem
        exact absurd (hvariable.symm.trans hnot) (by decide)
      obtain ⟨e, hentry, hsource, hlocal, hcalled⟩ := exists_entry_of_declared horigin hdeclaration
        hinner hnode (hpiece.imp id fun ⟨hvariable, hmem⟩ => ⟨hdefault hvariable, hvariable, hmem⟩)
        hname hne
      refine ⟨statement, e, hentry, hsource, hlocal, ?_⟩
      rcases isDefaultStatement_eq_or hown hdeclaration hitem haround with hsame | hmismatched
      · left
        rw [hcalled, hname, ← hsame]
        simp only
        split
        · rfl
        · rfl
      · exact Or.inr hmismatched

end ChunkGraph.Script
