import ChunkGraph.Proofs.Graph.Reachability
import ChunkGraph.Proofs.Outline.Dependencies

/-!
# Names that a script refers to

A declaration refers to the functions that it calls by a plain name, unless the
imports of the file have an entry of that name. An entry has the name that a
module exports, which is not always the name that the file uses: behind an alias
the file uses another one, and what an export statement passes on it does not use
at all. Such an entry hides a declaration of the file that has the same name.

## Main definitions

* `Calls` — a declaration calls a function by a plain name.
* `boundNames` — the names that the import statements of a file bind.
* `Hides` — an import has a name that no import statement binds.

## Main results

* `reference_mem_references_of_calls` — a call is a reference.
* `exists_reference_merged_iff` — the references that a declaration keeps.
* `mem_names_iff_hides` — the names of imports that are not bound.
-/

namespace ChunkGraph

open Syntax

namespace Script

/-- The declaration calls a function by a plain name. -/
def Calls (tree : Tree) (item : Item) (name : String) : Prop :=
  ∃ call ∈ walkAll item.span, call.kind = "call_expression" ∧
    ∃ function, identifierIn? call "function" = some function ∧ tree.textOf function = name

/-- The name that an import specifier binds: its alias if it has one. -/
def specifierBinds (tree : Tree) (specifier : Cursor) : Option String :=
  match specifier.child? "alias" with
  | some given => some (tree.textOf given)
  | none => (specifier.child? "name").map fun name => unquote (tree.textOf name)

/-- The names that a part of an import clause binds. -/
def partBinds (tree : Tree) (part : Cursor) : List String :=
  if part.kind == "identifier" then [tree.textOf part]
  else if part.kind == "namespace_import" then
    (part.namedChildrenOfKind "identifier").map tree.textOf
  else if part.kind == "named_imports" then
    (part.namedChildrenOfKind "import_specifier").filterMap (specifierBinds tree)
  else []

/-- The names that an import statement binds. -/
def statementBinds (tree : Tree) (statement : Cursor) : List String :=
  ((statement.namedChildrenOfKind "import_clause").flatMap (·.namedChildren)).flatMap
      (partBinds tree) ++
    ((statement.namedChildrenOfKind "import_require_clause").flatMap
      (·.namedChildrenOfKind "identifier")).map tree.textOf

/-- The names that the import statements of a file bind. -/
def boundNames (tree : Tree) (root : Cursor) : List String :=
  (root.namedChildrenOfKind "import_statement").flatMap (statementBinds tree)

/-- The imports of a file have a name that is not bound by an import statement. -/
inductive Hides (tree : Tree) (root : Cursor) (name : String) : Prop where
  /-- An import statement gives another name to what it imports. -/
  | aliased {statement source clause part specifier imported given : Cursor}
      (hstatement : statement ∈ root.namedChildrenOfKind "import_statement")
      (hsource : statement.child? "source" = some source)
      (hclause : statement.namedChildOfKind? "import_clause" = some clause)
      (hpart : part ∈ clause.namedChildren) (hkind : part.kind = "named_imports")
      (hspecifier : specifier ∈ part.namedChildrenOfKind "import_specifier")
      (himported : specifier.child? "name" = some imported)
      (hgiven : specifier.child? "alias" = some given)
      (hname : unquote (tree.textOf imported) = name)
  /-- An import statement only runs a module. -/
  | ran {statement source : Cursor}
      (hstatement : statement ∈ root.namedChildrenOfKind "import_statement")
      (hsource : statement.child? "source" = some source)
      (hclause : statement.namedChildOfKind? "import_clause" = none) (hname : name = "*")
  /-- An export statement passes on what another module exports. -/
  | passedOn {statement : Cursor} {d : Dependency}
      (hstatement : statement ∈ root.namedChildrenOfKind "export_statement")
      (hd : d ∈ passedOnImports tree statement) (hname : d.name = name)
  /-- A variable statement loads a module by a call. -/
  | loaded {statement : Cursor} {d : Dependency} (hstatement : statement ∈ root.namedChildren)
      (hkind : variableKinds.contains statement.kind = true)
      (hd : d ∈ callImports tree statement) (hname : d.name = name)

/-! ## References -/

theorem mem_distinct {names : List String} {name : String} :
    name ∈ distinct names ↔ name ∈ names := by
  have hadded := mem_foldl_addId names [] name
  rw [show distinct names = names.foldl addId [] from rfl, hadded]
  exact or_iff_right List.not_mem_nil

/-- A call is a reference, unless it is one of the declaration to itself or of a built-in name. -/
theorem reference_mem_references_of_calls {tree : Tree} {item : Item} {name : String}
    (h : Calls tree item name) (hne : name ≠ "") (hself : nameOf tree item ≠ some name)
    (hbuiltin : name ∉ builtinCalls) : reference name ∈ references tree item := by
  obtain ⟨call, hcall, hkind, function, hfunction, rfl⟩ := h
  have htarget (declared : List String) : target? tree declared call = some function := by
    unfold target?
    rw [if_pos (beq_iff_eq.mpr hkind), hfunction]
  refine mem_asReferences.mpr ⟨_, mem_distinct.mpr (List.mem_filter.mpr ⟨?_, ?_⟩), rfl⟩
  · refine List.mem_filterMap.mpr ⟨call, hcall, ?_⟩
    rw [htarget]
    rfl
  · simp only [Bool.and_eq_true, Bool.not_eq_true', bne_iff_ne, ne_eq]
    refine ⟨⟨?_, fun hsame => hself hsame.symm⟩, ?_⟩
    · simpa using hne
    · simpa using hbuiltin

/-! ## Imports -/

/-- What an import clause imports is no reference, and has a name that the clause binds, unless it
is given an alias. -/
theorem bound_or_aliased {tree : Tree} {source : String} {part : Cursor} {d : Dependency}
    (h : d ∈ clauseImports tree source part) :
    d.kind = .imported ∧ (d.name ∈ partBinds tree part ∨
      part.kind = "named_imports" ∧ ∃ specifier ∈ part.namedChildrenOfKind "import_specifier",
        ∃ imported given, specifier.child? "name" = some imported ∧
          specifier.child? "alias" = some given ∧ unquote (tree.textOf imported) = d.name) := by
  unfold clauseImports at h
  unfold partBinds
  split at h
  · rename_i hkind
    rw [List.mem_singleton.mp h, if_pos hkind]
    exact ⟨rfl, Or.inl (List.mem_singleton_self _)⟩
  rename_i hidentifier
  rw [if_neg hidentifier]
  split at h
  · rename_i hkind
    rw [if_pos hkind]
    split at h
    · rename_i name hname
      rw [List.mem_singleton.mp h]
      have hfound := List.find?_some hname
      exact ⟨rfl, Or.inl (List.mem_map_of_mem
        (List.mem_filter.mpr ⟨List.mem_of_find?_eq_some hname, hfound⟩))⟩
    · exact absurd h List.not_mem_nil
  rename_i hspace
  rw [if_neg hspace]
  split at h
  · rename_i hkind
    rw [if_pos hkind]
    obtain ⟨specifier, hspecifier, hd⟩ := List.mem_filterMap.mp h
    obtain ⟨imported, himported, rfl⟩ := Option.map_eq_some_iff.mp hd
    refine ⟨rfl, ?_⟩
    cases hgiven : specifier.child? "alias" with
    | some given =>
        exact Or.inr ⟨eq_of_beq hkind, specifier, hspecifier, imported, given, himported, hgiven,
          rfl⟩
    | none =>
        refine Or.inl (List.mem_filterMap.mpr ⟨specifier, hspecifier, ?_⟩)
        unfold specifierBinds
        rw [hgiven, himported]
        rfl
  · exact absurd h List.not_mem_nil

/-- The imports of a program come from its import statements, from those that pass exports on, and
from the calls in its variable statements. -/
theorem mem_imports_of_program {tree : Tree} {item : Item} (hprogram : item.kind = "program")
    {d : Dependency} :
    d ∈ imports tree item ↔
      (∃ statement ∈ item.node.namedChildrenOfKind "import_statement",
          d ∈ statementImports tree statement) ∨
        (∃ statement ∈ item.node.namedChildrenOfKind "export_statement",
          d ∈ passedOnImports tree statement) ∨
        ∃ statement ∈ item.node.namedChildren, variableKinds.contains statement.kind = true ∧
          d ∈ callImports tree statement := by
  have hdistinct : ∀ kind ∈ variableKinds,
      (kind == "import_statement") = false ∧ (kind == "export_statement") = false := by decide
  unfold imports
  rw [if_pos (beq_iff_eq.mpr hprogram), List.mem_flatMap]
  constructor
  · rintro ⟨statement, hstatement, hd⟩
    split at hd
    · rename_i hkind
      exact Or.inl ⟨statement, List.mem_filter.mpr ⟨hstatement, hkind⟩, hd⟩
    · split at hd
      · rename_i hkind
        exact Or.inr (Or.inl ⟨statement, List.mem_filter.mpr ⟨hstatement, hkind⟩, hd⟩)
      · split at hd
        · rename_i hkind
          exact Or.inr (Or.inr ⟨statement, hstatement, hkind, hd⟩)
        · exact absurd hd List.not_mem_nil
  · rintro (⟨statement, hstatement, hd⟩ | ⟨statement, hstatement, hd⟩ |
      ⟨statement, hstatement, hkind, hd⟩)
    · obtain ⟨hnamed, hkind⟩ := List.mem_filter.mp hstatement
      exact ⟨statement, hnamed, by rw [if_pos hkind]; exact hd⟩
    · obtain ⟨hnamed, hkind⟩ := List.mem_filter.mp hstatement
      have hother : ¬ (statement.kind == "import_statement") = true := by
        rw [eq_of_beq hkind]
        decide
      exact ⟨statement, hnamed, by rw [if_neg hother, if_pos hkind]; exact hd⟩
    · obtain ⟨himport, hexport⟩ := hdistinct _ (List.contains_iff_mem.mp hkind)
      exact ⟨statement, hstatement, by
        rw [himport, hexport, if_neg (by decide), if_neg (by decide), if_pos hkind]; exact hd⟩

/-- What an import statement imports is no reference, and has a name that the statement binds, or
that the statement gives an alias to, or it is the module that the statement runs. -/
theorem bound_or_hides {tree : Tree} {root statement : Cursor} {d : Dependency}
    (hstatement : statement ∈ root.namedChildrenOfKind "import_statement")
    (h : d ∈ statementImports tree statement) :
    d.kind = .imported ∧ (d.name ∈ boundNames tree root ∨ Hides tree root d.name) := by
  unfold statementImports at h
  cases hsource : statement.child? "source" with
  | none =>
      rw [hsource] at h
      exact absurd h List.not_mem_nil
  | some source =>
      rw [hsource] at h
      cases hclause : statement.namedChildOfKind? "import_clause" with
      | none =>
          rw [hclause] at h
          rw [List.mem_singleton.mp h]
          exact ⟨rfl, Or.inr (.ran hstatement hsource hclause rfl)⟩
      | some clause =>
          rw [hclause] at h
          obtain ⟨part, hpart, hd⟩ := List.mem_flatMap.mp h
          obtain ⟨hkind, hbound | ⟨hnamed, specifier, hspecifier, imported, given, himported,
            hgiven, hname⟩⟩ := bound_or_aliased hd
          · refine ⟨hkind, Or.inl (List.mem_flatMap.mpr ⟨statement, hstatement,
              List.mem_append_left _ (List.mem_flatMap.mpr ⟨part, ?_, hbound⟩)⟩)⟩
            have hfound := List.find?_some hclause
            exact List.mem_flatMap.mpr
              ⟨clause, List.mem_filter.mpr ⟨List.mem_of_find?_eq_some hclause, hfound⟩, hpart⟩
          · exact ⟨hkind, Or.inr (.aliased hstatement hsource hclause hpart hnamed hspecifier
              himported hgiven hname)⟩

theorem kind_of_mem_passedOnImports {tree : Tree} {statement : Cursor} {d : Dependency}
    (h : d ∈ passedOnImports tree statement) : d.kind = .imported := by
  unfold passedOnImports at h
  split at h
  · exact absurd h List.not_mem_nil
  · simp only at h
    split at h
    · rw [List.mem_singleton.mp h]
    · obtain ⟨_, _, rfl⟩ := List.mem_map.mp h
      rfl

/-- No import is a reference. -/
theorem kind_ne_of_mem_imports {tree : Tree} {item : Item} {d : Dependency}
    (h : d ∈ imports tree item) : d.kind ≠ .reference := by
  by_cases hprogram : item.kind = "program"
  · rcases (mem_imports_of_program hprogram).mp h with ⟨statement, hstatement, hd⟩ |
      ⟨statement, _, hd⟩ | ⟨statement, _, _, hd⟩
    · rw [(bound_or_hides hstatement hd).1]
      exact DependencyKind.noConfusion
    · rw [kind_of_mem_passedOnImports hd]
      exact DependencyKind.noConfusion
    · obtain ⟨call, _, hcall⟩ := List.mem_filterMap.mp hd
      exact (plain_of_callImport? hcall).2
  · exact (plain_of_mem_imports hprogram h).2

/-- A name that no import statement binds is the name of an import exactly if the imports hide
it. -/
theorem mem_names_iff_hides {tree : Tree} {root : Cursor} (hprogram : root.kind = "program")
    {name : String} (hbound : name ∉ boundNames tree root) :
    name ∈ (imports tree ⟨root, none⟩).map (·.name) ↔ Hides tree root name := by
  have hitem : (⟨root, none⟩ : Item).kind = "program" := hprogram
  rw [List.mem_map]
  constructor
  · rintro ⟨d, hd, rfl⟩
    rcases (mem_imports_of_program hitem).mp hd with ⟨statement, hstatement, hd⟩ |
      ⟨statement, hstatement, hd⟩ | ⟨statement, hstatement, hkind, hd⟩
    · exact (bound_or_hides hstatement hd).2.resolve_left hbound
    · exact .passedOn hstatement hd rfl
    · exact .loaded hstatement hkind hd rfl
  · rintro (⟨hstatement, hsource, hclause, hpart, hkind, hspecifier, himported, hgiven, rfl⟩ |
      ⟨hstatement, hsource, hclause, rfl⟩ | ⟨hstatement, hd, rfl⟩ | ⟨hstatement, hkind, hd, rfl⟩)
    · rename_i statement source clause part specifier imported given
      refine ⟨{ name := unquote (tree.textOf imported), source := unquote (tree.textOf source) },
        (mem_imports_of_program hitem).mpr (Or.inl ⟨statement, hstatement, ?_⟩), rfl⟩
      unfold statementImports
      rw [hsource, hclause]
      refine List.mem_flatMap.mpr ⟨part, hpart, ?_⟩
      unfold clauseImports
      rw [hkind, if_neg (by decide), if_neg (by decide), if_pos (by decide)]
      exact List.mem_filterMap.mpr ⟨specifier, hspecifier, by rw [himported]; rfl⟩
    · rename_i statement source
      refine ⟨{ name := "*", source := unquote (tree.textOf source) },
        (mem_imports_of_program hitem).mpr (Or.inl ⟨statement, hstatement, ?_⟩), rfl⟩
      unfold statementImports
      rw [hsource, hclause]
      exact List.mem_singleton_self _
    · exact ⟨_, (mem_imports_of_program hitem).mpr (Or.inr (Or.inl ⟨_, hstatement, hd⟩)), rfl⟩
    · exact ⟨_, (mem_imports_of_program hitem).mpr (Or.inr (Or.inr ⟨_, hstatement, hkind, hd⟩)),
        rfl⟩

/-! ## References that are kept -/

section Kept

variable {ctx : Outline.Context} (hscript : ctx.frontEnd = .script) {item : Item}
include hscript

/-- The references among what a declaration depends on by itself. -/
theorem mem_ownDependencies_of_reference {d : Dependency} (hkind : d.kind = .reference) :
    d ∈ ctx.ownDependencies item ↔
      d ∈ references ctx.tree item ∧ d.name ∉ ctx.imports.map (·.name) := by
  have hloaded : d ∉ ctx.frontEnd.imports ctx.tree item := by
    rw [hscript]
    exact fun hd => kind_ne_of_mem_imports hd hkind
  have hreferences : ctx.frontEnd.references ctx.tree item = references ctx.tree item := by
    rw [hscript]
    rfl
  unfold Outline.Context.ownDependencies
  rw [List.mem_append, or_iff_right hloaded, List.mem_filter, hreferences]
  simp

/-- A declaration keeps a reference to a name exactly if no import of the file has that name. -/
theorem exists_reference_merged_iff (himports : ∀ d ∈ ctx.imports, d.kind ≠ .reference)
    {name : String} (hrefers : reference name ∈ references ctx.tree item) :
    (∃ d ∈ Outline.mergeDependencies (ctx.ownDependencies item) ctx.imports,
        d.kind = .reference ∧ d.name = name) ↔ name ∉ ctx.imports.map (·.name) := by
  constructor
  · rintro ⟨d, hd, hkind, rfl⟩
    rcases List.mem_append.mp (Outline.mem_mergeDependencies.mp hd).1.mem with hown | himport
    · exact ((mem_ownDependencies_of_reference hscript hkind).mp hown).2
    · exact absurd hkind (himports d himport)
  · intro hfree
    have hown : reference name ∈ ctx.ownDependencies item :=
      (mem_ownDependencies_of_reference hscript rfl).mpr ⟨hrefers, hfree⟩
    obtain ⟨first, hfirst, hkey⟩ := Outline.exists_isFirst (List.mem_append_left ctx.imports hown)
    have hkind : first.kind = .reference := congrArg Prod.fst hkey
    have hfirstOwn : first ∈ ctx.ownDependencies item :=
      (List.mem_append.mp hfirst.mem).resolve_right fun himport => himports first himport hkind
    exact ⟨first, Outline.mem_mergeDependencies.mpr ⟨hfirst, Or.inl hfirstOwn⟩, hkind,
      congrArg (·.2.2) hkey⟩

end Kept

end Script

end ChunkGraph
