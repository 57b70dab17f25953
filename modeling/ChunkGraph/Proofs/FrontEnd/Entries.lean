import ChunkGraph.Proofs.FrontEnd.Exports

/-!
# The entries of export statements

An export statement declares something, exports a value, has a clause with names,
or passes on a whole module, under a name or not. Its entries follow from which
of these it is. They are known for every shape of a statement but one: a module
that is exported under a name has to have one, and a name that is a keyword is
none.

## Main definitions

* `Nameless` — the export statements whose entries are not known.
* `Gives` — what an export statement exports, by what it holds.

## Main results

* `exportsOf?_eq_none_iff`, `mem_exportsOf?_iff` — the entries of a statement.
* `exists_exports?_of_named`, `exports?_eq_none_iff` — when the exports of a file
  are known.
* `mem_exports?_iff_gives` — what they are.
-/

namespace ChunkGraph.Script

open ChunkGraph.Syntax

/-! ## Statements -/

/-- The statement exports a module under a name, and there is no name. -/
structure Nameless (statement : Cursor) : Prop where
  /-- It declares nothing. -/
  undeclared : statement.child? "declaration" = none
  /-- It exports no value. -/
  valueless : statement.child? "value" = none
  /-- It has no clause. -/
  clauseless : statement.namedChildOfKind? "export_clause" = none
  /-- It has a place for a name that has no named child. -/
  unnamed : ∃ space, statement.namedChildOfKind? "namespace_export" = some space ∧
    space.namedChildren = []

/-- What an export statement exports. -/
inductive Gives (tree : Tree) (statement : Cursor) : Export → Prop where
  /-- A variable that it declares. -/
  | declarator {declaration : Cursor} {item piece : Item} {name : String}
      (hdeclaration : statement.child? "declaration" = some declaration)
      (hitem : unwrap declaration = some item)
      (hkind : variableKinds.contains item.kind = true) (hpiece : piece ∈ declarators item)
      (hname : nameOf tree piece = some name) (hne : name ≠ "") :
      Gives tree statement ⟨name, some name, none, false⟩
  /-- Anything else that it declares. -/
  | declared {declaration : Cursor} {item : Item} {name : String}
      (hdeclaration : statement.child? "declaration" = some declaration)
      (hitem : unwrap declaration = some item)
      (hkind : variableKinds.contains item.kind = false)
      (hname : nameOf tree item = some name) (hne : name ≠ "") :
      Gives tree statement ⟨if isDefaultStatement statement then "default" else name, some name,
        none, isDefaultStatement statement⟩
  /-- A value, as the default export. -/
  | value {value : Cursor} (hdeclaration : statement.child? "declaration" = none)
      (hvalue : statement.child? "value" = some value) :
      Gives tree statement ⟨"default",
        if value.kind == "identifier" then some (tree.textOf value) else none, none, true⟩
  /-- A name in its clause. -/
  | specifier {clause specifier name : Cursor}
      (hdeclaration : statement.child? "declaration" = none)
      (hvalue : statement.child? "value" = none)
      (hclause : statement.namedChildOfKind? "export_clause" = some clause)
      (hspecifier : specifier ∈ clause.namedChildren)
      (hname : specifier.child? "name" = some name) {exported : String}
      (hexported : exported = ((specifier.child? "alias").getD name |> tree.textOf)) :
      Gives tree statement ⟨exported, some (tree.textOf name),
        (statement.child? "source").map fun s => unquote (tree.textOf s), exported == "default"⟩
  /-- A whole module under a name. -/
  | space {space name : Cursor} (hdeclaration : statement.child? "declaration" = none)
      (hvalue : statement.child? "value" = none)
      (hclause : statement.namedChildOfKind? "export_clause" = none)
      (hspace : statement.namedChildOfKind? "namespace_export" = some space)
      (hname : space.namedChildren.getLast? = some name) :
      Gives tree statement ⟨tree.textOf name, none,
        (statement.child? "source").map fun s => unquote (tree.textOf s), false⟩
  /-- All that a module exports. -/
  | all (hdeclaration : statement.child? "declaration" = none)
      (hvalue : statement.child? "value" = none)
      (hclause : statement.namedChildOfKind? "export_clause" = none)
      (hspace : statement.namedChildOfKind? "namespace_export" = none) :
      Gives tree statement ⟨"*", none,
        (statement.child? "source").map fun s => unquote (tree.textOf s), false⟩

section Statement

variable {tree : Tree} {statement : Cursor} {entries : List Export} {e : Export}

/-- The entries of a statement are not known exactly if a name for a module is missing. -/
theorem exportsOf?_eq_none_iff : exportsOf? tree statement = none ↔ Nameless statement := by
  constructor
  · intro h
    unfold exportsOf? at h
    simp only at h
    split at h
    · exact absurd h (by simp)
    · exact absurd h (by simp)
    · rename_i hdeclaration hvalue
      split at h
      · exact absurd h (by simp)
      · rename_i hclause
        split at h
        · rename_i space hspace
          exact ⟨hdeclaration, hvalue, hclause, space, hspace,
            List.getLast?_eq_none_iff.mp (Option.map_eq_none_iff.mp h)⟩
        · exact absurd h (by simp)
  · rintro ⟨hdeclaration, hvalue, hclause, space, hspace, hunnamed⟩
    unfold exportsOf?
    rw [hdeclaration, hvalue, hclause, hspace]
    simp only
    rw [hunnamed]
    rfl

theorem bind_nonEmpty?_eq_some_iff {found : Option String} {name : String} :
    found.bind nonEmpty? = some name ↔ found = some name ∧ name ≠ "" := by
  constructor
  · intro h
    obtain ⟨text, rfl, htext⟩ := Option.bind_eq_some_iff.mp h
    exact ⟨congrArg some (eq_of_nonEmpty? htext), ne_empty_of_nonEmpty? htext⟩
  · rintro ⟨rfl, hne⟩
    show nonEmpty? name = some name
    unfold nonEmpty?
    rw [if_neg fun hempty => hne (String.isEmpty_iff.mp hempty)]

/-- What a statement exports that declares something. -/
theorem gives_of_mem_declaredExports {declaration : Cursor}
    (hdeclaration : statement.child? "declaration" = some declaration)
    (h : e ∈ declaredExports tree (isDefaultStatement statement) declaration) :
    Gives tree statement e := by
  unfold declaredExports at h
  split at h
  · exact absurd h List.not_mem_nil
  · rename_i item hitem
    split at h
    · rename_i hkind
      obtain ⟨name, hnamed, rfl⟩ := List.mem_map.mp h
      obtain ⟨piece, hpiece, hfound⟩ := List.mem_filterMap.mp hnamed
      obtain ⟨hname, hne⟩ := bind_nonEmpty?_eq_some_iff.mp hfound
      exact .declarator hdeclaration hitem hkind hpiece hname hne
    · rename_i hkind
      split at h
      · rename_i name hfound
        obtain ⟨hname, hne⟩ := bind_nonEmpty?_eq_some_iff.mp hfound
        rw [List.mem_singleton.mp h]
        exact .declared hdeclaration hitem (Bool.eq_false_iff.mpr hkind) hname hne
      · exact absurd h List.not_mem_nil

/-- The entries of a statement are what it exports. -/
theorem gives_of_mem_exportsOf? (h : exportsOf? tree statement = some entries) (he : e ∈ entries) :
    Gives tree statement e := by
  unfold exportsOf? at h
  simp only at h
  split at h
  · rename_i declaration hdeclaration
    obtain rfl := Option.some.inj h
    exact gives_of_mem_declaredExports hdeclaration he
  · rename_i value hdeclaration hvalue
    obtain rfl := Option.some.inj h
    rw [List.mem_singleton.mp he]
    exact .value hdeclaration hvalue
  · rename_i hdeclaration hvalue
    split at h
    · rename_i clause hclause
      obtain rfl := Option.some.inj h
      obtain ⟨_, hpair, rfl⟩ := List.mem_map.mp he
      obtain ⟨specifier, hspecifier, hnamed⟩ := List.mem_filterMap.mp hpair
      obtain ⟨name, hname, rfl⟩ := Option.map_eq_some_iff.mp hnamed
      refine .specifier hdeclaration hvalue hclause hspecifier hname ?_
      cases specifier.child? "alias" with
      | none => rfl
      | some _ => rfl
    · rename_i hclause
      split at h
      · rename_i space hspace
        obtain ⟨name, hname, rfl⟩ := Option.map_eq_some_iff.mp h
        rw [List.mem_singleton.mp he]
        exact .space hdeclaration hvalue hclause hspace hname
      · rename_i hspace
        obtain rfl := Option.some.inj h
        rw [List.mem_singleton.mp he]
        exact .all hdeclaration hvalue hclause hspace

/-- What a statement exports is among its entries. -/
theorem Gives.exists_mem (h : Gives tree statement e) :
    ∃ entries, exportsOf? tree statement = some entries ∧ e ∈ entries := by
  unfold exportsOf?
  cases h with
  | declarator hdeclaration hitem hkind hpiece hname hne =>
      rw [hdeclaration]
      refine ⟨_, rfl, ?_⟩
      unfold declaredExports
      simp only [hitem, hkind, if_true]
      exact List.mem_map_of_mem (List.mem_filterMap.mpr
        ⟨_, hpiece, bind_nonEmpty?_eq_some_iff.mpr ⟨hname, hne⟩⟩)
  | declared hdeclaration hitem hkind hname hne =>
      rw [hdeclaration]
      refine ⟨_, rfl, ?_⟩
      unfold declaredExports
      simp only [hitem, hkind, bind_nonEmpty?_eq_some_iff.mpr ⟨hname, hne⟩, Bool.false_eq_true,
        if_false]
      exact List.mem_singleton_self _
  | value hdeclaration hvalue =>
      rw [hdeclaration, hvalue]
      exact ⟨_, rfl, List.mem_singleton_self _⟩
  | @specifier clause specifier name hdeclaration hvalue hclause hspecifier hname _ hexported =>
      rw [hdeclaration, hvalue, hclause]
      refine ⟨_, rfl, List.mem_map.mpr
        ⟨(tree.textOf name, (specifier.child? "alias").map tree.textOf), ?_, ?_⟩⟩
      · exact List.mem_filterMap.mpr ⟨specifier, hspecifier, by rw [hname]; rfl⟩
      · rw [hexported]
        cases specifier.child? "alias" with
        | none => rfl
        | some _ => rfl
  | space hdeclaration hvalue hclause hspace hname =>
      rw [hdeclaration, hvalue, hclause, hspace]
      simp only
      rw [hname]
      exact ⟨_, rfl, List.mem_singleton_self _⟩
  | all hdeclaration hvalue hclause hspace =>
      rw [hdeclaration, hvalue, hclause, hspace]
      exact ⟨_, rfl, List.mem_singleton_self _⟩

/-- The entries of a statement, if they are known, are all that it exports. -/
theorem mem_exportsOf?_iff (h : exportsOf? tree statement = some entries) :
    e ∈ entries ↔ Gives tree statement e := by
  constructor
  · exact gives_of_mem_exportsOf? h
  · intro hgives
    obtain ⟨found, hfound, he⟩ := hgives.exists_mem
    obtain rfl := Option.some.inj (hfound.symm.trans h)
    exact he

end Statement

/-! ## Files -/

section File

variable {tree : Tree} {root : Cursor}

/-- The exports of a file are known if no name for a module is missing. -/
theorem exists_exports?_of_named
    (h : ∀ statement ∈ root.namedChildrenOfKind "export_statement", ¬Nameless statement) :
    ∃ exports, exports? tree root = some exports := by
  have hknown : ∀ statement ∈ root.namedChildrenOfKind "export_statement",
      ∃ entries, exportsOf? tree statement = some entries := by
    intro statement hstatement
    refine Option.ne_none_iff_exists'.mp fun hnone => ?_
    exact h statement hstatement (exportsOf?_eq_none_iff.mp hnone)
  obtain ⟨lists, hlists⟩ := exists_mapM_eq_some hknown
  exact ⟨lists.flatten, congrArg (Option.map List.flatten) hlists⟩

/-- The exports of a file are not known if a name for a module is missing. -/
theorem exports?_eq_none {statement : Cursor}
    (hstatement : statement ∈ root.namedChildrenOfKind "export_statement")
    (h : Nameless statement) : exports? tree root = none := by
  unfold exports?
  rw [Option.map_eq_none_iff, Option.eq_none_iff_forall_ne_some]
  intro lists hlists
  obtain ⟨entries, hentries⟩ := exists_eq_some_of_mapM hlists statement hstatement
  exact absurd ((exportsOf?_eq_none_iff.mpr h).symm.trans hentries) (by simp)

/-- The exports of a file are not known exactly if a name for a module is missing. -/
theorem exports?_eq_none_iff : exports? tree root = none ↔
    ∃ statement ∈ root.namedChildrenOfKind "export_statement", Nameless statement := by
  constructor
  · intro hnone
    refine Classical.byContradiction fun hnamed => ?_
    obtain ⟨exports, hexports⟩ : ∃ exports, exports? tree root = some exports :=
      exists_exports?_of_named fun statement hstatement hnameless =>
        hnamed ⟨statement, hstatement, hnameless⟩
    exact absurd (hexports.symm.trans hnone) (by simp)
  · rintro ⟨statement, hstatement, hnameless⟩
    exact exports?_eq_none hstatement hnameless

/-- The exports of a file are what its export statements export. -/
theorem mem_exports?_iff_gives {exports : List Export} (h : exports? tree root = some exports)
    {e : Export} :
    e ∈ exports ↔
      ∃ statement ∈ root.namedChildrenOfKind "export_statement", Gives tree statement e := by
  rw [mem_exports?_iff h]
  constructor
  · rintro ⟨statement, hstatement, entries, hentries, he⟩
    exact ⟨statement, hstatement, (mem_exportsOf?_iff hentries).mp he⟩
  · rintro ⟨statement, hstatement, hgives⟩
    exact ⟨statement, hstatement, hgives.exists_mem⟩

end File

end ChunkGraph.Script
