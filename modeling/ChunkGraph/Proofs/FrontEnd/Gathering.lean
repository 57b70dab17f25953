import ChunkGraph.FrontEnd.Basic
import ChunkGraph.Proofs.FrontEnd.References
import ChunkGraph.Proofs.Syntax.Walk

/-!
# What is gathered on a walk

The names that a declaration relies on and the calls by which it loads modules are
gathered on a walk through its nodes. So they come in document order: each entry
comes from a place, and a place that stands earlier in the document has the
earlier entry. A name is noted once, at the place that mentions it first.

## Main definitions

* `Gathered` — entries that come from places in document order.
* `FirstMention` — the first place to mention a name.
* `FrontEnd.mention?` — the name that a place mentions.
* `Script.searchedPlaces` — where calls are looked for.

## Main results

* `gathered_filterMap`, `gathered_distinct` — what a list of places gives.
* `FrontEnd.gathered_references`, `Script.gathered_callImports`,
  `Script.gathered_imports` — references and calls that load modules.
* `walk_is_preorder_and_gathers` — the walk comes to an end with the pre-order of
  a tree, and what is gathered on it.
-/

namespace ChunkGraph

open Relation Syntax Syntax.Cursor

/-! ## Entries from places -/

section Gathered

variable {α : Type} {taken : Cursor → Prop} {give : Cursor → Option α} {found : List α}

/-- The entries come from the places that are taken, in document order, one from each place. -/
def Gathered (taken : Cursor → Prop) (give : Cursor → Option α) (found : List α) : Prop :=
  ∃ places : List Cursor, places.Pairwise Precedes ∧ (∀ c, c ∈ places ↔ taken c) ∧
    places.map give = found.map some

theorem Gathered.map {β : Type} (h : Gathered taken give found) (f : α → β) :
    Gathered taken (fun c => (give c).map f) (found.map f) := by
  obtain ⟨places, horder, hmem, hgive⟩ := h
  refine ⟨places, horder, hmem, ?_⟩
  calc places.map (fun c => (give c).map f)
      = (places.map give).map (Option.map f) := by rw [List.map_map]; rfl
    _ = (found.map some).map (Option.map f) := by rw [hgive]
    _ = (found.map f).map some := by rw [List.map_map, List.map_map]; rfl

/-- What places in document order give is gathered from those that give something. -/
theorem gathered_filterMap {places : List Cursor} (horder : places.Pairwise Precedes)
    (give : Cursor → Option α) :
    Gathered (fun c => c ∈ places ∧ (give c).isSome) give (places.filterMap give) := by
  refine ⟨places.filter fun c => (give c).isSome, horder.filter _, fun c => List.mem_filter, ?_⟩
  rw [List.map_filterMap_some_eq_filter_map_isSome, List.filter_map]
  rfl

end Gathered

/-! ## First mentions -/

/-- The place mentions a name that no earlier one of the places mentions. -/
def FirstMention (places : List Cursor) (mention? : Cursor → Option String) (c : Cursor) : Prop :=
  c ∈ places ∧ ∃ name, mention? c = some name ∧
    ∀ other ∈ places, Precedes other c → mention? other ≠ some name

/-- A place behind all others mentions a name first if none of them mentions it. -/
theorem firstMention_concat {places : List Cursor} {last : Cursor}
    (hlast : ∀ other ∈ places, Precedes other last) (mention? : Cursor → Option String)
    (c : Cursor) :
    FirstMention (places ++ [last]) mention? c ↔
      FirstMention places mention? c ∨
        c = last ∧ ∃ name, mention? last = some name ∧ name ∉ places.filterMap mention? := by
  constructor
  · rintro ⟨hc, name, hname, hfirst⟩
    rcases List.mem_append.mp hc with hplace | hend
    · exact Or.inl ⟨hplace, name, hname, fun other hother =>
        hfirst other (List.mem_append_left _ hother)⟩
    · obtain rfl := List.mem_singleton.mp hend
      refine Or.inr ⟨rfl, name, hname, fun hmentioned => ?_⟩
      obtain ⟨other, hother, hsame⟩ := List.mem_filterMap.mp hmentioned
      exact hfirst other (List.mem_append_left _ hother) (hlast other hother) hsame
  · rintro (⟨hplace, name, hname, hfirst⟩ | ⟨rfl, name, hname, hnew⟩)
    · refine ⟨List.mem_append_left _ hplace, name, hname, fun other hother hbefore => ?_⟩
      rcases List.mem_append.mp hother with hother | hend
      · exact hfirst other hother hbefore
      · obtain rfl := List.mem_singleton.mp hend
        exact absurd hbefore (hlast c hplace).asymm
    · refine ⟨List.mem_append_right _ (List.mem_singleton_self _), name, hname, ?_⟩
      intro other hother hbefore hsame
      rcases List.mem_append.mp hother with hother | hend
      · exact hnew (List.mem_filterMap.mpr ⟨other, hother, hsame⟩)
      · obtain rfl := List.mem_singleton.mp hend
        exact hbefore.asymm hbefore

theorem Script.distinct_concat (names : List String) (name : String) :
    Script.distinct (names ++ [name]) =
      if name ∈ names then Script.distinct names else Script.distinct names ++ [name] := by
  have hlast : Script.distinct (names ++ [name]) =
      if (Script.distinct names).contains name then Script.distinct names
      else Script.distinct names ++ [name] := List.foldl_concat ..
  simp only [hlast, List.contains_iff_mem, Script.mem_distinct]

/-- Each name is noted at the place that mentions it first. -/
theorem gathered_distinct {places : List Cursor} (horder : places.Pairwise Precedes)
    (mention? : Cursor → Option String) :
    Gathered (FirstMention places mention?) mention?
      (Script.distinct (places.filterMap mention?)) := by
  induction places using List.reverseRecOn with
  | nil => exact ⟨[], .nil, fun c => by simp [FirstMention], rfl⟩
  | append_singleton places last ih =>
      obtain ⟨hfront, -, hbehind⟩ := List.pairwise_append.mp horder
      have hlast : ∀ other ∈ places, Precedes other last :=
        fun other hother => hbehind other hother last (List.mem_singleton_self _)
      obtain ⟨firsts, hfirsts, hmem, hgive⟩ := ih hfront
      have hconcat := firstMention_concat hlast mention?
      rw [List.filterMap_append]
      cases hname : mention? last with
      | none =>
          rw [List.filterMap_cons_none hname, List.filterMap_nil, List.append_nil]
          refine ⟨firsts, hfirsts, fun c => ?_, hgive⟩
          simp only [hmem, hconcat, hname, reduceCtorEq, false_and, exists_false, and_false,
            or_false]
      | some name =>
          rw [List.filterMap_cons_some hname, List.filterMap_nil, Script.distinct_concat]
          by_cases hnew : name ∈ places.filterMap mention?
          · rw [if_pos hnew]
            refine ⟨firsts, hfirsts, fun c => ?_, hgive⟩
            simp only [hmem, hconcat, hname, Option.some.injEq, exists_eq_left', hnew,
              not_true_eq_false, and_false, or_false]
          · rw [if_neg hnew]
            refine ⟨firsts ++ [last], ?_, fun c => ?_, ?_⟩
            · refine List.pairwise_append.mpr ⟨hfirsts, List.pairwise_singleton _ _, ?_⟩
              intro first hfirst other hother
              rw [List.mem_singleton.mp hother]
              exact hlast first ((hmem first).mp hfirst).1
            · simp only [List.mem_append, List.mem_singleton, hmem, hconcat, hname,
                Option.some.injEq, exists_eq_left', hnew, not_false_eq_true, and_true]
            · rw [List.map_append, List.map_append, hgive, List.map_singleton, hname]
              rfl

/-! ## References -/

/-- The name that a place mentions, unless the declaration itself or something built in has it. -/
def Script.mention? (tree : Tree) (item : Item) (c : Cursor) : Option String :=
  ((Script.target? tree (Script.typeVariables tree item.span) c).map tree.textOf).filter
    fun name => !name.isEmpty && some name != Script.nameOf tree item &&
      !Script.builtinCalls.contains name

/-- The name that a place mentions, unless the declaration itself has it. -/
def Generic.mention? (tree : Tree) (item : Item) (c : Cursor) : Option String :=
  ((Generic.target? c).map tree.textOf).filter fun name =>
    !name.isEmpty && some name != Generic.nameOf tree item

namespace FrontEnd

/-- The place at which the search for references begins. -/
def searched : FrontEnd → Item → Cursor
  | .generic _ => (·.node)
  | _ => (·.span)

/-- The name that a place in a declaration mentions. -/
def mention? : FrontEnd → Tree → Item → Cursor → Option String
  | .generic _ => Generic.mention?
  | _ => Script.mention?

theorem references_eq (frontEnd : FrontEnd) (tree : Tree) (item : Item) :
    frontEnd.references tree item =
      (Script.distinct ((frontEnd.searched item).documentOrder.filterMap
        (frontEnd.mention? tree item))).map Script.reference := by
  rw [documentOrder, ← walkAll_eq_preorder]
  cases frontEnd with
  | script | component =>
      show Script.references tree item = _
      rw [Script.references, List.filter_filterMap]
      rfl
  | generic language =>
      show Generic.references tree item = _
      rw [Generic.references, List.filter_filterMap]
      rfl

/-- A declaration refers to a name at the place that mentions it first. -/
theorem gathered_references (frontEnd : FrontEnd) (tree : Tree) (item : Item) :
    Gathered
      (FirstMention (frontEnd.searched item).documentOrder (frontEnd.mention? tree item))
      (fun c => (frontEnd.mention? tree item c).map Script.reference)
      (frontEnd.references tree item) := by
  rw [references_eq]
  exact (gathered_distinct (pairwise_documentOrder _) _).map Script.reference

end FrontEnd

/-! ## Calls that load modules -/

namespace Script

theorem callImports_eq (tree : Tree) (c : Cursor) :
    callImports tree c = c.documentOrder.filterMap (callImport? tree) := by
  rw [callImports, walkAll_eq_preorder, documentOrder]

/-- The calls below a place that load a module. -/
theorem gathered_callImports (tree : Tree) (c : Cursor) :
    Gathered (fun call => call ∈ c.documentOrder ∧ (callImport? tree call).isSome)
      (callImport? tree) (callImports tree c) := by
  rw [callImports_eq]
  exact gathered_filterMap c.pairwise_documentOrder (callImport? tree)

/-- The places at which calls are looked for in a statement of a program. -/
def statementPlaces (statement : Cursor) : List Cursor :=
  if variableKinds.contains statement.kind then statement.documentOrder else []

/-- The places at which calls are looked for: those of the variable statements of a program, and
those of any other declaration. -/
def searchedPlaces (item : Item) : List Cursor :=
  if item.kind == "program" then item.node.namedChildren.flatMap statementPlaces
  else item.span.documentOrder

theorem statementPlaces_sublist (statement : Cursor) :
    (statementPlaces statement).Sublist statement.documentOrder := by
  unfold statementPlaces
  split
  · exact List.Sublist.refl _
  · exact List.nil_sublist _

theorem pairwise_searchedPlaces (item : Item) : (searchedPlaces item).Pairwise Precedes := by
  unfold searchedPlaces
  split
  · refine List.pairwise_flatMap.mpr ⟨fun statement _ => ?_, ?_⟩
    · exact statement.pairwise_documentOrder.sublist (statementPlaces_sublist statement)
    · refine (item.node.pairwise_precede_children.sublist List.filter_sublist).imp ?_
      intro left right h a ha b hb
      exact h a ((statementPlaces_sublist left).subset ha) b
        ((statementPlaces_sublist right).subset hb)
  · exact item.span.pairwise_documentOrder

/-- What import statements give is left out. -/
theorem filter_imported {found : List Dependency} (h : ∀ d ∈ found, d.kind = .imported) :
    found.filter (·.kind != .imported) = [] := by
  refine List.filter_eq_nil_iff.mpr fun d hd => ?_
  rw [h d hd]
  decide

/-- What calls give is kept. -/
theorem filter_callImports (tree : Tree) (c : Cursor) :
    (callImports tree c).filter (·.kind != .imported) = callImports tree c := by
  refine List.filter_eq_self.mpr fun d hd => ?_
  obtain ⟨call, -, hcall⟩ := List.mem_filterMap.mp hd
  obtain ⟨source, rfl | rfl⟩ := callImport?_cases hcall
  · rfl
  · rfl

/-- Besides what import statements give, and those that pass exports on, the imports are what the
calls give. -/
theorem filter_imports_eq (tree : Tree) (item : Item) :
    (imports tree item).filter (·.kind != .imported) =
      (searchedPlaces item).filterMap (callImport? tree) := by
  unfold imports searchedPlaces
  by_cases hprogram : item.kind == "program"
  · rw [if_pos hprogram, if_pos hprogram, List.filter_flatMap, List.filterMap_flatMap]
    refine List.flatMap_congr fun statement hstatement => ?_
    unfold statementPlaces
    split
    · rename_i himport
      have hnamed : statement ∈ item.node.namedChildrenOfKind "import_statement" :=
        List.mem_filter.mpr ⟨hstatement, himport⟩
      rw [filter_imported fun d hd => (bound_or_hides hnamed hd).1, eq_of_beq himport]
      rfl
    · split
      · rename_i hexport
        rw [filter_imported fun d hd => kind_of_mem_passedOnImports hd, eq_of_beq hexport]
        rfl
      · split
        · rw [filter_callImports, callImports_eq]
        · rfl
  · rw [if_neg hprogram, if_neg hprogram, filter_callImports, callImports_eq]

/-- The calls by which a declaration loads modules, or the variable statements of a program. -/
theorem gathered_imports (tree : Tree) (item : Item) :
    Gathered (fun call => call ∈ searchedPlaces item ∧ (callImport? tree call).isSome)
      (callImport? tree) ((imports tree item).filter (·.kind != .imported)) := by
  rw [filter_imports_eq]
  exact gathered_filterMap (pairwise_searchedPlaces item) (callImport? tree)

end Script

/-- The loop over a stack makes no more steps than the tree has nodes, and when it has stopped it
has visited the pre-order of the tree, without what is below the places where it stops, the one at
which it begins apart. If it stops nowhere, it visits every place once, in document order. Hence the
calls that load modules, and the first mentions of names, are gathered in document order. -/
theorem walk_is_preorder_and_gathers (stop : Cursor → Bool) (top : Cursor) :
    ((∀ n last, WalkLoop.Runs stop top n ⟨[top], []⟩ last →
          n ≤ top.node.size ∧ (last.stack = [] → last.visited = walk stop top)) ∧
        ∃ n last, WalkLoop.Runs stop top n ⟨[top], []⟩ last ∧ last.stack = []) ∧
      (walk stop top =
          top :: top.children.flatMap (fun child => preorder stop child.above child.node) ∧
        (walk stop top).Sublist top.documentOrder ∧
        ∀ c, c ∈ walk stop top ↔ Visited stop top c) ∧
      (walkAll top = top.documentOrder ∧ top.documentOrder.Pairwise Precedes ∧
        top.documentOrder.Nodup ∧ top.documentOrder.length = top.node.size ∧
        ∀ c, c ∈ top.documentOrder ↔ ReflTransGen IsChild top c) ∧
      (∀ tree, Gathered
        (fun call => call ∈ top.documentOrder ∧ (Script.callImport? tree call).isSome)
        (Script.callImport? tree) (Script.callImports tree top)) ∧
      (∀ tree item, Gathered
        (fun call => call ∈ Script.searchedPlaces item ∧ (Script.callImport? tree call).isSome)
        (Script.callImport? tree) ((Script.imports tree item).filter (·.kind != .imported))) ∧
      ∀ (frontEnd : FrontEnd) tree item, Gathered
        (FirstMention (frontEnd.searched item).documentOrder (frontEnd.mention? tree item))
        (fun c => (frontEnd.mention? tree item c).map Script.reference)
        (frontEnd.references tree item) := by
  refine ⟨⟨fun n last hruns => ⟨?_, hruns.visited_eq⟩, WalkLoop.exists_halted stop top _⟩,
    ⟨walk_eq_preorder stop top, walk_sublist stop top, mem_walk_iff stop top⟩,
    ⟨walkAll_eq_preorder top, pairwise_documentOrder top, nodup_documentOrder top,
      length_documentOrder top, fun c => mem_documentOrder_iff⟩,
    fun tree => Script.gathered_callImports tree top, Script.gathered_imports,
    FrontEnd.gathered_references⟩
  have hwork := hruns.add_work_le
  have hstart : WalkLoop.work ⟨[top], []⟩ = top.node.size := by
    rw [WalkLoop.work, WalkLoop.pending, List.reverse_singleton, pendingSize_cons]
    rfl
  omega

/-- A call with another one as its argument: `f(require('m'))`. -/
def nestedCall : Node :=
  .mk "call_expression" true "" 0 15
    [.mk "identifier" true "function" 0 1 [],
     .mk "arguments" true "arguments" 1 15
      [.mk "call_expression" true "" 2 14
        [.mk "identifier" true "function" 2 9 [],
         .mk "arguments" true "arguments" 9 14 [.mk "string" true "" 10 13 []]]]]

/-- The source with the nested call. -/
def nestedTree : Tree where
  language := "typescript"
  source := Text.Utf8.encode "f(require('m'))".toList
  root := some nestedCall

/-- A walk that stops at calls still enters the call at which it begins, but not the one inside. The
outer call is a reference, and the inner one loads a module. -/
theorem walk_is_preorder_and_gathers_nested :
    ∃ n last, WalkLoop.Runs (·.kind == "call_expression") (.ofRoot nestedCall) n
        ⟨[.ofRoot nestedCall], []⟩ last ∧ last.stack = [] ∧ n ≤ 7 ∧
      last.visited.map (·.kind) =
        ["call_expression", "identifier", "arguments", "call_expression"] ∧
      (walkAll (.ofRoot nestedCall)).Nodup ∧
      (Script.callImports nestedTree (.ofRoot nestedCall)).map (·.source) = ["m"] ∧
      FrontEnd.script.references nestedTree ⟨.ofRoot nestedCall, none⟩ =
        [Script.reference "f"] := by
  obtain ⟨⟨hruns, n, last, hrun, hhalted⟩, ⟨hwalk, -, -⟩, ⟨hall, -, hnodup, -, -⟩, -, -, -⟩ :=
    walk_is_preorder_and_gathers (·.kind == "call_expression") (.ofRoot nestedCall)
  obtain ⟨hsteps, hvisited⟩ := hruns n last hrun
  refine ⟨n, last, hrun, hhalted, hsteps, ?_, ?_, ?_, ?_⟩
  · rw [hvisited hhalted, hwalk]
    rfl
  · rw [hall]
    exact hnodup
  · rw [Script.callImports_eq]
    decide
  · rw [FrontEnd.references_eq]
    decide

end ChunkGraph
