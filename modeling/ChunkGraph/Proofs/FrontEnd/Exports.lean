import ChunkGraph.Proofs.Data.Keyed
import ChunkGraph.Proofs.Data.Partial
import ChunkGraph.Proofs.FrontEnd.Statements

/-!
# Two readings of the export statements of a script

The exports of a file are read off its export statements one by one. Whether a
declaration is exported, and under which name, is asked of the declaration: of
the export statement that it stands in, or else of a table of the names that the
file exports apart from their declarations. The table has one name for importers
for each name of the file; of several the last one counts.

Both readings agree on an entry and what it exports: on the declaration inside
its own statement, and on a declaration at the top level that an export clause
or a default export names, provided that none behind it gives the declaration
another name. Of the several names that a file can list for one declaration the
declaration has only one.

## Main definitions

* `IsEntry` — an entry of an export statement of a file.
* `PieceOf` — a declaration, or a declarator of it.
* `Concerns` — an entry exports what a statement declares.
* `TableSound` — the table that a tree keeps is the one that is read off it.

## Main results

* `mem_exports?_iff` — the exports of a file are the entries of its export
  statements.
* `exportStatement?_of_pieceOf` — a declarator stands where its statement does.
* `exported_of_concerns` — what an entry exports is exported under its name.
-/

namespace ChunkGraph.Script

open ChunkGraph.Syntax

theorem eq_of_nonEmpty? {text name : String} (h : nonEmpty? text = some name) : text = name := by
  unfold nonEmpty? at h
  split at h
  · exact absurd h (by simp)
  · exact Option.some.inj h

theorem ne_empty_of_nonEmpty? {text name : String} (h : nonEmpty? text = some name) :
    name ≠ "" := by
  obtain rfl := eq_of_nonEmpty? h
  unfold nonEmpty? at h
  split at h
  · exact absurd h (by simp)
  · rename_i hfull
    exact fun hempty => hfull (String.isEmpty_iff.mpr hempty)

/-- The export is an entry of an export statement of the file. -/
def IsEntry (tree : Tree) (root origin : Cursor) (e : Export) : Prop :=
  origin ∈ root.namedChildrenOfKind "export_statement" ∧
    ∃ entries, exportsOf? tree origin = some entries ∧ e ∈ entries

/-- The exports of a file are the entries of its export statements. -/
theorem mem_exports?_iff {tree : Tree} {root : Cursor} {exports : List Export}
    (h : exports? tree root = some exports) {e : Export} :
    e ∈ exports ↔ ∃ origin, IsEntry tree root origin e := by
  obtain ⟨lists, hlists, rfl⟩ := Option.map_eq_some_iff.mp h
  rw [List.mem_flatten]
  constructor
  · rintro ⟨entries, hentries, he⟩
    obtain ⟨origin, horigin, hfound⟩ := (mem_iff_of_mapM_eq_some hlists entries).mp hentries
    exact ⟨origin, horigin, entries, hfound, he⟩
  · rintro ⟨origin, horigin, entries, hfound, he⟩
    exact ⟨entries, (mem_iff_of_mapM_eq_some hlists entries).mpr ⟨origin, horigin, hfound⟩, he⟩

/-- The declaration that a chunk at the top level is made of: what a statement holds, or one of the
declarators of it. -/
inductive PieceOf (item : Item) : Item → Prop where
  /-- What the statement holds. -/
  | whole : PieceOf item item
  /-- A declarator of it. -/
  | declarator {piece : Item} (hkind : variableKinds.contains item.kind = true)
      (hpiece : piece ∈ declarators item) : PieceOf item piece

/-- If the tree keeps a table of the names exported apart from their declarations, it is the one
that is read off it. -/
def TableSound (tree : Tree) : Prop := exportTable tree = localExports tree

/-- A tree that keeps no table keeps no wrong one. -/
theorem tableSound_of_none {tree : Tree} (h : tree.exportTable? = none) : TableSound tree := by
  unfold TableSound exportTable
  rw [h]
  rfl

/-- The table that a tree is given to keep is the right one. -/
theorem TableSound.keepTable {tree : Tree} (h : TableSound tree) : TableSound (keepTable tree) := h

/-- An entry of an export statement exports what a statement declares. -/
inductive Concerns (tree : Tree) (root : Cursor) (e : Export) : Cursor → Prop where
  /-- It is an entry of that statement, which holds a declaration. What a default export declares
  is the default export. -/
  | own {statement declaration : Cursor} (hentry : IsEntry tree root statement e)
      (hdeclaration : statement.child? "declaration" = some declaration)
      (hkind : declarationKinds.contains declaration.kind = true ∨
        declaration.kind = "ambient_declaration")
      (hdefault : e.isDefault = isDefaultStatement statement) : Concerns tree root e statement
  /-- It is an entry of another statement, and its name is the one that the table has for what it
  names in the file: the last one that a clause or a default export gives. The statement itself
  exports nothing, and if it is an ambient one it declares a single name. -/
  | apart {origin statement : Cursor} (hentry : IsEntry tree root origin e) (hname : e.name ≠ "")
      (hlast : e.localName.bind (localExport? tree) = some e.name)
      (hkind : statement.kind ≠ "export_statement")
      (hambient : statement.kind = "ambient_declaration" →
        ∀ item, unwrap statement = some item → (declarators item).length ≤ 1) :
      Concerns tree root e statement

/-! ## Where declarations stand -/

theorem kind_ne_of_declaration {kind other : String} (h : declarationKinds.contains kind = true)
    (hother : declarationKinds.contains other = false) : kind ≠ other := by
  rintro rfl
  exact absurd h (by rw [hother]; decide)

/-- A declarator is a named child of its statement. It covers what the statement does if it is the
only one. -/
theorem of_mem_declarators {item piece : Item} (h : piece ∈ declarators item) :
    piece.kind = "variable_declarator" ∧ piece.node.parent? = some item.node ∧
      (piece.span = item.span ∨ piece.span = piece.node ∧ 1 < (declarators item).length) := by
  have hnode {c : Cursor} (hc : c ∈ item.node.namedChildrenOfKind "variable_declarator") :
      c.kind = "variable_declarator" ∧ c.parent? = some item.node := by
    obtain ⟨hnamed, hkind⟩ := List.mem_filter.mp hc
    exact ⟨eq_of_beq hkind, Cursor.parent?_of_mem_children (List.mem_of_mem_filter hnamed)⟩
  unfold declarators at h ⊢
  cases hlist : item.node.namedChildrenOfKind "variable_declarator" with
  | nil =>
      rw [hlist] at h
      exact absurd h List.not_mem_nil
  | cons first rest =>
      rw [hlist] at h hnode
      cases rest with
      | nil =>
          obtain rfl := List.mem_singleton.mp h
          obtain ⟨hkind, hparent⟩ := hnode List.mem_cons_self
          exact ⟨hkind, hparent, Or.inl rfl⟩
      | cons second rest =>
          obtain ⟨c, hc, rfl⟩ := List.mem_map.mp h
          obtain ⟨hkind, hparent⟩ := hnode hc
          refine ⟨hkind, hparent, Or.inr ⟨rfl, ?_⟩⟩
          rw [List.length_map, List.length_cons, List.length_cons]
          omega

/-- One of several declarators covers itself only. -/
theorem span_of_several {item piece : Item} (h : piece ∈ declarators item)
    (hseveral : 1 < (declarators item).length) : piece.span = piece.node := by
  unfold declarators at h hseveral
  split at h
  · rename_i only honly
    rw [honly] at hseveral
    exact absurd hseveral (Nat.lt_irrefl 1)
  · obtain ⟨c, _, rfl⟩ := List.mem_map.mp h
    rfl

/-- The export statement around a place, across an ambient declaration. -/
def exportAround? (parent : Option Cursor) : Option Cursor :=
  (match parent with
    | some p => if p.kind == "ambient_declaration" then p.parent? else some p
    | none => none).filter (·.kind == "export_statement")

theorem exportStatement?_eq (item : Item) :
    exportStatement? item = exportAround? (if item.kind == "variable_declarator" then
      item.node.parent?.bind (·.parent?) else item.node.parent?) := rfl

/-- Nothing stands around a program. -/
theorem exportAround?_of_program {root : Cursor} (h : root.kind = "program") :
    exportAround? (some root) = none := by
  unfold exportAround?
  simp [h, Option.filter]

/-- Nothing stands around the root of a tree, unless it is an export statement itself. -/
theorem exportAround?_of_root {tree : Tree} {root : Cursor} (hroot : tree.rootCursor? = some root)
    (h : root.kind ≠ "export_statement") : exportAround? (some root) = none := by
  obtain ⟨node, _, rfl⟩ := Option.map_eq_some_iff.mp hroot
  unfold exportAround?
  dsimp only [Cursor.parent?_ofRoot]
  split
  · rfl
  · exact if_neg (by simpa using h)

/-- What stands around a place is an export statement, be it the place itself. -/
theorem kind_ne_of_exportAround? {place : Cursor} (h : exportAround? (some place) = none) :
    place.kind ≠ "export_statement" := by
  intro hkind
  unfold exportAround? at h
  simp [hkind, Option.filter] at h

/-- A declarator stands in the export statement that its statement stands in. -/
theorem exportStatement?_of_pieceOf {item piece : Item}
    (hkind : declarationKinds.contains item.kind = true) (hpiece : PieceOf item piece) :
    exportStatement? piece = exportAround? item.node.parent? := by
  rw [exportStatement?_eq]
  cases hpiece with
  | whole =>
      have hne : item.kind ≠ "variable_declarator" := kind_ne_of_declaration hkind (by decide)
      rw [if_neg (by simpa using hne)]
  | declarator _ hpiece =>
      obtain ⟨hdeclarator, hparent, _⟩ := of_mem_declarators hpiece
      rw [if_pos (beq_iff_eq.mpr hdeclarator), hparent]
      rfl

/-- What an export statement holds, alone or in an ambient declaration, is a declaration that stands
in it. -/
theorem unwrap_of_own {statement declaration : Cursor} {item : Item}
    (hstatement : statement.kind = "export_statement")
    (hdeclaration : statement.child? "declaration" = some declaration)
    (hkind : declarationKinds.contains declaration.kind = true ∨
      declaration.kind = "ambient_declaration") (h : unwrap statement = some item) :
    declarationKinds.contains item.kind = true ∧
      exportAround? item.node.parent? = some statement := by
  have hparent : declaration.parent? = some statement :=
    Cursor.parent?_of_mem_children (List.mem_of_find?_eq_some hdeclaration)
  have haround : exportAround? (some statement) = some statement := by
    unfold exportAround?
    simp [hstatement, Option.filter]
  rw [unwrap_of_child? hstatement hdeclaration] at h
  obtain ⟨inner, hinner, rfl⟩ := Option.map_eq_some_iff.mp h
  rcases hkind with hkind | hambient
  · rw [unwrap_of_declaration hkind] at hinner
    obtain rfl := Option.some.inj hinner
    refine ⟨hkind, ?_⟩
    show exportAround? declaration.parent? = some statement
    rw [hparent, haround]
  · have hnot : declaration.kind ≠ "export_statement" := by
      rw [hambient]
      decide
    rw [unwrap_of_not_export hnot, if_pos (beq_iff_eq.mpr hambient)] at hinner
    obtain ⟨node, hfound, rfl⟩ := Option.map_eq_some_iff.mp hinner
    have hnode : node.parent? = some declaration :=
      Cursor.parent?_of_mem_children (List.mem_of_mem_filter (List.mem_of_find?_eq_some hfound))
    have hdeclares := List.find?_some hfound
    refine ⟨hdeclares, ?_⟩
    show exportAround? node.parent? = some statement
    rw [hnode, ← haround]
    unfold exportAround?
    simp [hambient, hparent, hstatement]

/-- What another statement at the top level holds is a declaration that covers the statement and
stands in no export statement: it is the statement, is ambient, or is a namespace. -/
theorem unwrap_of_apart {root statement : Cursor} {item : Item}
    (houtside : exportAround? (some root) = none) (hparent : statement.parent? = some root)
    (hstatement : statement.kind ≠ "export_statement") (h : unwrap statement = some item) :
    declarationKinds.contains item.kind = true ∧ item.span = statement ∧
      exportAround? item.node.parent? = none ∧
      (item.node = statement ∨ statement.kind = "ambient_declaration" ∨
        namespaceKinds.contains item.kind = true) := by
  have hroot : exportAround? statement.parent? = none := by rw [hparent, houtside]
  have hchild {node : Cursor} (hnode : node ∈ statement.namedChildren) :
      node.parent? = some statement :=
    Cursor.parent?_of_mem_children (List.mem_of_mem_filter hnode)
  rw [unwrap_of_not_export hstatement] at h
  split at h
  · rename_i hambient
    have hambient := eq_of_beq hambient
    obtain ⟨node, hfound, rfl⟩ := Option.map_eq_some_iff.mp h
    have hdeclares := List.find?_some hfound
    refine ⟨hdeclares, rfl, ?_, Or.inr (Or.inl hambient)⟩
    show exportAround? node.parent? = none
    rw [hchild (List.mem_of_find?_eq_some hfound)]
    unfold exportAround?
    simp [hambient, hparent, Option.filter, kind_ne_of_exportAround? houtside]
  · split at h
    · rename_i hexpression
      have hexpression := eq_of_beq hexpression
      obtain ⟨node, hfound, rfl⟩ := Option.map_eq_some_iff.mp h
      obtain ⟨hhead, hnamespace⟩ := Option.filter_eq_some_iff.mp hfound
      have hdeclares : ∀ kind ∈ namespaceKinds, declarationKinds.contains kind = true := by decide
      refine ⟨hdeclares node.kind (List.contains_iff_mem.mp hnamespace), rfl, ?_,
        Or.inr (Or.inr hnamespace)⟩
      show exportAround? node.parent? = none
      rw [hchild (List.mem_of_head? hhead)]
      unfold exportAround?
      simp [hexpression, Option.filter]
    · split at h
      · rename_i hdeclares
        obtain rfl := Option.some.inj h
        exact ⟨hdeclares, rfl, hroot, Or.inl rfl⟩
      · exact absurd h (by simp)

/-! ## The top level -/

theorem topLevelBelow_of_parent? {c parent : Cursor} (h : c.parent? = some parent) :
    topLevelBelow c.above =
      if parent.kind == "program" then true
      else if ["lexical_declaration", "variable_declaration", "export_statement"].contains
          parent.kind then topLevelBelow parent.above
      else false := by
  unfold Cursor.parent? at h
  split at h
  · exact absurd h (by simp)
  · rename_i frame above habove
    rw [habove, ← Option.some.inj h]
    rfl

/-- A declarator stands at the top level if its statement does. -/
theorem topLevelBelow_of_declarator {item : Item} {declarator : Cursor}
    (hvariable : variableKinds.contains item.kind = true)
    (hparent : declarator.parent? = some item.node) :
    topLevelBelow declarator.above = topLevelBelow item.node.above := by
  have hpasses : ∀ kind ∈ variableKinds, (kind == "program") = false ∧
      ["lexical_declaration", "variable_declaration", "export_statement"].contains kind =
        true := by decide
  obtain ⟨hother, hpass⟩ := hpasses item.kind (List.contains_iff_mem.mp hvariable)
  rw [topLevelBelow_of_parent? hparent]
  show (if (item.kind == "program") = true then true
    else if [_, _, _].contains item.kind = true then _ else false) = _
  rw [hother, if_neg Bool.false_ne_true, if_pos hpass]

/-- What a statement at the top level declares stands at the top level, unless it is one of several
names that an ambient declaration declares. -/
theorem isTopLevel_of_pieceOf {root statement : Cursor} {item piece : Item}
    (hprogram : root.kind = "program") (hparent : statement.parent? = some root)
    (hstatement : statement.kind ≠ "export_statement") (h : unwrap statement = some item)
    (hambient : statement.kind = "ambient_declaration" → (declarators item).length ≤ 1)
    (hpiece : PieceOf item piece) : isTopLevel piece = true := by
  obtain ⟨_, hspan, _, hplace⟩ :=
    unwrap_of_apart (exportAround?_of_program hprogram) hparent hstatement h
  have htop : topLevelBelow statement.above = true := by
    rw [topLevelBelow_of_parent? hparent, if_pos (beq_iff_eq.mpr hprogram)]
  cases hpiece with
  | whole =>
      unfold isTopLevel
      rw [hspan, htop]
  | declarator hvariable hpiece =>
      obtain ⟨_, hup, hcovers⟩ := of_mem_declarators hpiece
      unfold isTopLevel
      rcases hcovers with hcovers | ⟨hcovers, hseveral⟩
      · rw [hcovers, hspan, htop]
      · have hnode : item.node = statement := by
          rcases hplace with hnode | hkind | hnamespace
          · exact hnode
          · have hsingle := hambient hkind
            omega
          · have hnot : ∀ kind ∈ namespaceKinds, variableKinds.contains kind = false := by decide
            have hfalse := hnot item.kind (List.contains_iff_mem.mp hnamespace)
            exact absurd hvariable (by rw [hfalse]; decide)
        rw [hcovers, topLevelBelow_of_declarator hvariable hup, hnode, htop]

/-! ## Entries -/

/-- What an export statement says of the declaration in it, by the name of the declaration. -/
theorem of_mem_declaredExports {tree : Tree} {isDefault : Bool} {declaration : Cursor} {e : Export}
    (h : e ∈ declaredExports tree isDefault declaration) :
    ∃ name, name ≠ "" ∧ e.localName = some name ∧
      (e.isDefault = true ∧ e.name = "default" ∨ e.isDefault = false ∧ e.name = name) := by
  unfold declaredExports at h
  split at h
  · exact absurd h List.not_mem_nil
  · rename_i inner _
    split at h
    · obtain ⟨name, hnamed, rfl⟩ := List.mem_map.mp h
      obtain ⟨declarator, _, hfound⟩ := List.mem_filterMap.mp hnamed
      obtain ⟨_, _, hne⟩ := Option.bind_eq_some_iff.mp hfound
      exact ⟨name, ne_empty_of_nonEmpty? hne, rfl, Or.inr ⟨rfl, rfl⟩⟩
    · split at h
      · rename_i name hfound
        obtain rfl := List.mem_singleton.mp h
        obtain ⟨_, _, hne⟩ := Option.bind_eq_some_iff.mp hfound
        refine ⟨name, ne_empty_of_nonEmpty? hne, rfl, ?_⟩
        cases isDefault with
        | true => exact Or.inl ⟨rfl, rfl⟩
        | false => exact Or.inr ⟨rfl, rfl⟩
      · exact absurd h List.not_mem_nil

/-- The entry of a default export has the name of default exports. -/
theorem IsEntry.name_of_isDefault {tree : Tree} {root origin : Cursor} {e : Export}
    (h : IsEntry tree root origin e) (hdefault : e.isDefault = true) : e.name = "default" := by
  obtain ⟨_, entries, hentries, he⟩ := h
  unfold exportsOf? at hentries
  simp only at hentries
  split at hentries
  · obtain rfl := Option.some.inj hentries
    obtain ⟨_, _, _, ⟨_, hname⟩ | ⟨hno, _⟩⟩ := of_mem_declaredExports he
    · exact hname
    · exact absurd (hno.symm.trans hdefault) (by decide)
  · obtain rfl := Option.some.inj hentries
    rw [List.mem_singleton.mp he]
  · split at hentries
    · obtain rfl := Option.some.inj hentries
      obtain ⟨_, _, rfl⟩ := List.mem_map.mp he
      exact eq_of_beq hdefault
    · split at hentries
      · obtain ⟨_, _, rfl⟩ := Option.map_eq_some_iff.mp hentries
        rw [List.mem_singleton.mp he] at hdefault
        exact absurd hdefault (by simp)
      · obtain rfl := Option.some.inj hentries
        rw [List.mem_singleton.mp he] at hdefault
        exact absurd hdefault (by simp)

theorem Concerns.exists_isEntry {tree : Tree} {root statement : Cursor} {e : Export}
    (h : Concerns tree root e statement) : ∃ origin, IsEntry tree root origin e := by
  cases h with
  | own hentry _ _ _ => exact ⟨_, hentry⟩
  | apart hentry _ _ _ _ => exact ⟨_, hentry⟩

/-- What a statement with such an entry holds is a declaration. -/
theorem Concerns.contains_kind {tree : Tree} {root statement : Cursor} {e : Export}
    (h : Concerns tree root e statement) (hprogram : root.kind = "program")
    (hstatement : statement ∈ root.namedChildren) {item : Item}
    (hitem : unwrap statement = some item) : declarationKinds.contains item.kind = true := by
  cases h with
  | own hentry hdeclaration hkind _ =>
      exact (unwrap_of_own (eq_of_beq (List.mem_filter.mp hentry.1).2) hdeclaration hkind hitem).1
  | apart _ _ _ hkind _ =>
      have hparent : statement.parent? = some root :=
        Cursor.parent?_of_mem_children (List.mem_of_mem_filter hstatement)
      exact (unwrap_of_apart (exportAround?_of_program hprogram) hparent hkind hitem).1

/-- What an export statement declares is exported under the name of its entry. -/
theorem exported_of_own {tree : Tree} {root statement declaration : Cursor} {e : Export}
    (hentry : IsEntry tree root statement e)
    (hdeclaration : statement.child? "declaration" = some declaration)
    (hkind : declarationKinds.contains declaration.kind = true ∨
      declaration.kind = "ambient_declaration")
    (hdefault : e.isDefault = isDefaultStatement statement) {item piece : Item}
    (hitem : unwrap statement = some item) (hpiece : PieceOf item piece) {name : String}
    (hname : nameOf tree piece = some name) (hne : name ≠ "") (hlocal : e.localName = some name) :
    isExported tree piece = true ∧ exportName tree piece = some e.name ∧ e.name ≠ "" := by
  obtain ⟨horigin, entries, hentries, he⟩ := hentry
  have hexport := eq_of_beq (List.mem_filter.mp horigin).2
  obtain ⟨hdeclares, haround⟩ := unwrap_of_own hexport hdeclaration hkind hitem
  have hstands : exportStatement? piece = some statement :=
    (exportStatement?_of_pieceOf hdeclares hpiece).trans haround
  unfold exportsOf? at hentries
  rw [hdeclaration] at hentries
  obtain rfl := Option.some.inj hentries
  obtain ⟨declared, _, hdeclared, hcases⟩ := of_mem_declaredExports he
  obtain rfl := Option.some.inj (hlocal.symm.trans hdeclared)
  have hexported : isExported tree piece = true := by
    unfold isExported
    rw [hstands]
    rfl
  have hcalled : exportName tree piece =
      if e.isDefault = true then some "default" else some name := by
    unfold exportName
    rw [hstands, hdefault, hname]
  rcases hcases with ⟨hyes, hentryName⟩ | ⟨hno, hentryName⟩
  · rw [hcalled, hyes, hentryName]
    exact ⟨hexported, rfl, by decide⟩
  · rw [hcalled, hno, hentryName]
    exact ⟨hexported, rfl, hne⟩

/-- What a statement that exports nothing declares is exported under the name that the table has
for it. -/
theorem exported_of_localExport? {tree : Tree} {root statement : Cursor}
    (hprogram : root.kind = "program") (hstatement : statement ∈ root.namedChildren)
    (hkind : statement.kind ≠ "export_statement") {item piece : Item}
    (hitem : unwrap statement = some item)
    (hambient : statement.kind = "ambient_declaration" → (declarators item).length ≤ 1)
    (hpiece : PieceOf item piece) {name exported : String} (hname : nameOf tree piece = some name)
    (hne : name ≠ "") (htable : localExport? tree name = some exported) :
    isExported tree piece = true ∧ exportName tree piece = some exported := by
  have hparent : statement.parent? = some root :=
    Cursor.parent?_of_mem_children (List.mem_of_mem_filter hstatement)
  obtain ⟨hdeclares, _, haround, _⟩ :=
    unwrap_of_apart (exportAround?_of_program hprogram) hparent hkind hitem
  have hstands : exportStatement? piece = none :=
    (exportStatement?_of_pieceOf hdeclares hpiece).trans haround
  have htop : isTopLevel piece = true :=
    isTopLevel_of_pieceOf hprogram hparent hkind hitem hambient hpiece
  have hfull : name.isEmpty = false := by
    rw [Bool.eq_false_iff, ne_eq, String.isEmpty_iff]
    exact hne
  constructor
  · unfold isExported
    rw [hstands, hname]
    simp [hfull, htable, htop]
  · unfold exportName
    rw [hstands, hname]
    simp [hfull, htable, htop]

/-- What an entry exports is exported, under the name of the entry. -/
theorem exported_of_concerns {tree : Tree} {root statement : Cursor} {e : Export}
    (hprogram : root.kind = "program") (hstatement : statement ∈ root.namedChildren)
    (hconcerns : Concerns tree root e statement) {item piece : Item}
    (hitem : unwrap statement = some item) (hpiece : PieceOf item piece) {name : String}
    (hname : nameOf tree piece = some name) (hne : name ≠ "") (hlocal : e.localName = some name) :
    isExported tree piece = true ∧ exportName tree piece = some e.name ∧ e.name ≠ "" := by
  cases hconcerns with
  | own hentry hdeclaration hkind hdefault =>
      exact exported_of_own hentry hdeclaration hkind hdefault hitem hpiece hname hne hlocal
  | apart _ hcalled hlast hkind hambient =>
      rw [hlocal, Option.bind_some] at hlast
      obtain ⟨hexported, hexportName⟩ := exported_of_localExport? hprogram hstatement hkind hitem
        (fun hkind => hambient hkind item hitem) hpiece hname hne hlast
      exact ⟨hexported, hexportName, hcalled⟩

/-- None of several names that an ambient declaration declares is exported by a clause or a default
export: a declarator is not found to stand at the top level there. -/
theorem isExported_of_ambient {tree : Tree} {root statement : Cursor}
    (hprogram : root.kind = "program") (hstatement : statement ∈ root.namedChildren)
    (hambient : statement.kind = "ambient_declaration") {item piece : Item}
    (hitem : unwrap statement = some item) (hvariable : variableKinds.contains item.kind = true)
    (hseveral : 1 < (declarators item).length) (hpiece : piece ∈ declarators item) :
    isExported tree piece = false := by
  have hparent : statement.parent? = some root :=
    Cursor.parent?_of_mem_children (List.mem_of_mem_filter hstatement)
  have hstatementKind : statement.kind ≠ "export_statement" := by
    rw [hambient]
    decide
  obtain ⟨hdeclares, _, haround, _⟩ :=
    unwrap_of_apart (exportAround?_of_program hprogram) hparent hstatementKind hitem
  have hstands : exportStatement? piece = none :=
    (exportStatement?_of_pieceOf hdeclares (.declarator hvariable hpiece)).trans haround
  have hitemParent : item.node.parent? = some statement := by
    rw [unwrap_of_not_export hstatementKind, if_pos (beq_iff_eq.mpr hambient)] at hitem
    obtain ⟨node, hfound, rfl⟩ := Option.map_eq_some_iff.mp hitem
    have hnamed := List.mem_of_mem_filter (List.mem_of_find?_eq_some hfound)
    exact Cursor.parent?_of_mem_children hnamed
  have hlow : isTopLevel piece = false := by
    unfold isTopLevel
    rw [span_of_several hpiece hseveral,
      topLevelBelow_of_declarator hvariable (of_mem_declarators hpiece).2.1,
      topLevelBelow_of_parent? hitemParent, hambient]
    rfl
  unfold isExported
  rw [hstands, hlow]
  cases nameOf tree piece with
  | none => rfl
  | some name => exact Bool.and_false _

end ChunkGraph.Script
