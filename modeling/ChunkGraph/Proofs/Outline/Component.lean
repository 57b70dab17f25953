import ChunkGraph.Proofs.Data.Related
import ChunkGraph.Proofs.Outline.Twins

/-!
# Scripts inside components

The script of a component is cut like a script that stands alone. Every question
about a declaration has the same answer in both, since only the bytes of the
script are looked at; so the chunks mirror each other, further down by the lines
before the script.

The two differ in one place. A component that exports an object of options has
these options for declarations, while a script has the statement that exports
them, and a rule divides the statement. Both come to the same: an option is a
property, which no other rule for the top level applies to.

## Main definitions

* `Context.inComponent` — what the rules know about the same script inside a
  component.

## Main results

* `matched_dispatch` — the chunks of a declaration in both.
* `matched_options` — the chunks of an object of options in both.
* `matched_outline` — the chunks of the whole script in both.
-/

namespace ChunkGraph

open Syntax

/-- The tree of a script, as the tree of a component that holds it. -/
def Syntax.Tree.inComponent (tree : Tree) (lines : Nat) (optionsApi : Bool) : Tree :=
  { tree with language := "vue", lineOffset := lines + tree.lineOffset, optionsApi }

namespace Outline

/-- What the rules know about a script that a component holds. -/
def Context.inComponent (ctx : Context) (path : String) (lines : Nat) (optionsApi : Bool) :
    Context :=
  { ctx with
    frontEnd := .component, filePath := path, tree := ctx.tree.inComponent lines optionsApi }

section InComponent

variable {ctx : Context} {path : String} {lines : Nat} {optionsApi : Bool}

/-! ## Single chunks -/

theorem range_inComponent (tree : Tree) (item : Item) :
    item.range (tree.inComponent lines optionsApi) = (item.range tree).movedDown lines := by
  have hline (row : Nat) : (row : Int) + 1 + ((lines + tree.lineOffset : Nat) : Int) =
      (row : Int) + 1 + (tree.lineOffset : Int) + (lines : Int) := by
    omega
  show (⟨⟨_, _⟩, ⟨_, _⟩⟩ : Range) = ⟨⟨_, _⟩, ⟨_, _⟩⟩
  congr 2
  · exact hline _
  · exact hline _

/-- The documentation of a component follows the conventions of scripts. -/
theorem docComment_inComponent {tree : Tree} (hlanguage : tree.language = "typescript")
    (item : Item) :
    Script.docComment (tree.inComponent lines optionsApi) item = Script.docComment tree item := by
  unfold Script.docComment DocComment.docComment
  rw [hlanguage]
  rfl

variable (hscript : ctx.frontEnd = .script)

include hscript

theorem ownDependencies_inComponent (item : Item) :
    (ctx.inComponent path lines optionsApi).ownDependencies item = ctx.ownDependencies item := by
  unfold Context.ownDependencies
  rw [hscript]
  rfl

theorem nameOf_inComponent (item : Item) :
    (ctx.inComponent path lines optionsApi).frontEnd.nameOf
        (ctx.inComponent path lines optionsApi).tree item = ctx.frontEnd.nameOf ctx.tree item := by
  rw [hscript]
  rfl

variable (hlanguage : ctx.tree.language = "typescript")

include hlanguage

theorem functionFacets_inComponent (item : Item) :
    (ctx.inComponent path lines optionsApi).functionFacets item = ctx.functionFacets item := by
  unfold Context.functionFacets
  rw [hlanguage, hscript]
  rfl

theorem chunkNamed_mirrors {container container' : Option Chunk} (item : Item) (kind : ChunkKind)
    {name : String} (facets : Facets)
    (hqualified : Context.qualify container name = Context.qualify container' name) :
    ((ctx.inComponent path lines optionsApi).chunkNamed item container kind name facets).Mirrors
      lines (ctx.chunkNamed item container' kind name facets) := by
  have hrange : item.range (ctx.inComponent path lines optionsApi).tree =
      (item.range ctx.tree).movedDown lines := range_inComponent ctx.tree item
  have hdoc : (ctx.inComponent path lines optionsApi).frontEnd.docComment
      (ctx.inComponent path lines optionsApi).tree item =
        FrontEnd.docComment .script ctx.tree item := docComment_inComponent hlanguage item
  unfold Chunk.Mirrors Context.chunkNamed
  rw [ownDependencies_inComponent hscript]
  simp only [hqualified, hrange, hdoc, hscript]
  rfl

variable {parent : Option (Chunk × Chunk)}
  (hparent : ∀ twin ∈ parent, Chunk.Mirrors lines twin.1 twin.2)

include hparent

/-- The chunks of a declaration in both files are twins, or there is none in either. -/
theorem rel_makeChunk?_inComponent (item : Item) {kind : ChunkKind}
    (hkind : kind ∈ producedKinds) (facets : Facets) :
    Option.Rel (fun c c' => AreTwins lines path ctx.filePath parent (c, c') ∧
        c.childrenIds = [] ∧ c'.childrenIds = [])
      ((ctx.inComponent path lines optionsApi).makeChunk? item (parent.map Prod.fst) kind facets)
      (ctx.makeChunk? item (parent.map Prod.snd) kind facets) := by
  have hangs {ctx : Context} {container : Option Chunk} {c : Chunk}
      (hmade : ctx.makeChunk? item container kind facets = some c) :
      Hangs ctx.filePath container c := by
    obtain ⟨hname, hid, hkind, hholder, hqualified⟩ := hangs_linked hkind hmade []
    exact ⟨hname, hid, hkind, hholder, hqualified⟩
  have hqualified (name : String) : Context.qualify (parent.map Prod.fst) name =
      Context.qualify (parent.map Prod.snd) name := by
    cases parent with
    | none => rfl
    | some holder =>
        show holder.1.qualifiedName ++ "." ++ name = holder.2.qualifiedName ++ "." ++ name
        rw [(hparent holder rfl).qualifiedName_eq]
  cases hname : (ctx.frontEnd.nameOf ctx.tree item).bind nonEmpty? with
  | none =>
      unfold Context.makeChunk?
      rw [nameOf_inComponent hscript, hname]
      exact .none
  | some name =>
      have hmade : (ctx.inComponent path lines optionsApi).makeChunk? item (parent.map Prod.fst)
          kind facets = some ((ctx.inComponent path lines optionsApi).chunkNamed item
            (parent.map Prod.fst) kind name facets) := by
        unfold Context.makeChunk?
        rw [nameOf_inComponent hscript, hname]
        rfl
      have hmade' : ctx.makeChunk? item (parent.map Prod.snd) kind facets =
          some (ctx.chunkNamed item (parent.map Prod.snd) kind name facets) := by
        unfold Context.makeChunk?
        rw [hname]
        rfl
      rw [hmade, hmade']
      refine .some ⟨⟨?_, hangs hmade, hangs hmade'⟩, rfl, rfl⟩
      exact chunkNamed_mirrors hscript hlanguage item kind facets (hqualified name)

/-- A declaration may be a chunk by itself. -/
theorem matched_toList (item : Item) {kind : ChunkKind} (hkind : kind ∈ producedKinds)
    (facets : Facets) :
    Matched lines path ctx.filePath parent
      ((ctx.inComponent path lines optionsApi).makeChunk? item (parent.map Prod.fst) kind
        facets).toList
      (ctx.makeChunk? item (parent.map Prod.snd) kind facets).toList := by
  rcases rel_cases (rel_makeChunk?_inComponent hscript hlanguage hparent item hkind facets) with
    ⟨hnone, hnone'⟩ | ⟨c, c', hmade, hmade', htwins, hlists, hlists'⟩
  · rw [hnone, hnone']
    exact .nil
  · rw [hmade, hmade']
    exact .single htwins hlists hlists'

/-- A declaration may be a container of the chunks of its parts. -/
theorem matched_container (item : Item) {kind : ChunkKind} (hkind : kind ∈ producedKinds)
    (facets : Facets) {cut cut' : Chunk → List Chunk}
    (hcut : ∀ c c', (∀ twin ∈ some (c, c'), Chunk.Mirrors lines twin.1 twin.2) →
      Matched lines path ctx.filePath (some (c, c')) (cut c) (cut' c')) :
    Matched lines path ctx.filePath parent
      (match (ctx.inComponent path lines optionsApi).makeChunk? item (parent.map Prod.fst) kind
          facets with
        | none => []
        | some c => if ctx.options.includeNested then withMembers c (cut c) else [c])
      (match ctx.makeChunk? item (parent.map Prod.snd) kind facets with
        | none => []
        | some c' => if ctx.options.includeNested then withMembers c' (cut' c') else [c']) := by
  rcases rel_cases (rel_makeChunk?_inComponent hscript hlanguage hparent item hkind facets) with
    ⟨hnone, hnone'⟩ | ⟨c, c', hmade, hmade', htwins, hlists, hlists'⟩
  · rw [hnone, hnone']
    exact .nil
  · rw [hmade, hmade']
    cases ctx.options.includeNested with
    | true =>
        have hholder : ∀ twin ∈ some (c, c'), Chunk.Mirrors lines twin.1 twin.2 := by
          rintro _ ⟨⟩
          exact htwins.mirrors
        exact .withMembers htwins (hcut c c' hholder)
    | false => exact .single htwins hlists hlists'

/-! ## Rules -/

theorem matched_optionChunks (item : Item) :
    Matched lines path ctx.filePath parent
      (optionChunks (ctx.inComponent path lines optionsApi) (parent.map Prod.fst) item)
      (optionChunks ctx (parent.map Prod.snd) item) := by
  have hentries : (ctx.inComponent path lines optionsApi).frontEnd.optionEntries item =
      ctx.frontEnd.optionEntries item := by
    rw [hscript]
    rfl
  unfold optionChunks
  rw [nameOf_inComponent hscript, functionFacets_inComponent hscript hlanguage, hentries]
  dsimp only
  split
  · exact matched_toList hscript hlanguage hparent item (by decide) _
  · split
    · exact .nil
    · rename_i kind role hblock
      have hkind := optionBlocks_produced hblock
      refine matched_container hscript hlanguage hparent item (by decide) _ fun c c' hholder => ?_
      rw [List.filterMap_eq_flatMap_toList, List.filterMap_eq_flatMap_toList]
      refine .flatMap fun entry _ => ?_
      unfold entryChunk?
      rw [functionFacets_inComponent hscript hlanguage]
      exact matched_toList hscript hlanguage hholder entry hkind _

theorem matched_componentChunks (item : Item) :
    Matched lines path ctx.filePath parent
      (componentChunks (ctx.inComponent path lines optionsApi) (parent.map Prod.fst) item)
      (componentChunks ctx (parent.map Prod.snd) item) := by
  have hsame : (ctx.inComponent path lines optionsApi).frontEnd.isComponentOptions
      (ctx.inComponent path lines optionsApi).tree item =
        ctx.frontEnd.isComponentOptions ctx.tree item := by
    rw [hscript]
    rfl
  have hoptions : ((ctx.inComponent path lines optionsApi).frontEnd.componentOptions item).filter
      ((ctx.inComponent path lines optionsApi).frontEnd.isComponentOption
        (ctx.inComponent path lines optionsApi).tree) =
        (ctx.frontEnd.componentOptions item).filter
          (ctx.frontEnd.isComponentOption ctx.tree) := by
    rw [hscript]
    rfl
  unfold componentChunks
  rw [hsame, hoptions]
  split
  · exact .flatMap fun option _ => matched_optionChunks hscript hlanguage hparent option
  · exact matched_optionChunks hscript hlanguage hparent item

theorem matched_variableChunk? (item : Item) :
    Matched lines path ctx.filePath parent
      (variableChunk? (ctx.inComponent path lines optionsApi) (parent.map Prod.fst) item).toList
      (variableChunk? ctx (parent.map Prod.snd) item).toList := by
  have hfunction : ((ctx.inComponent path lines optionsApi).frontEnd.initializer? item).any
      (ctx.inComponent path lines optionsApi).frontEnd.isFunction =
        (ctx.frontEnd.initializer? item).any ctx.frontEnd.isFunction := by
    rw [hscript]
    rfl
  have hexported : (ctx.inComponent path lines optionsApi).frontEnd.isExported
      (ctx.inComponent path lines optionsApi).tree item =
        ctx.frontEnd.isExported ctx.tree item := by
    rw [hscript]
    rfl
  unfold variableChunk?
  rw [hfunction, hexported, functionFacets_inComponent hscript hlanguage]
  split
  · exact matched_toList hscript hlanguage hparent item (by decide) _
  · split
    · exact matched_toList hscript hlanguage hparent item (by decide) _
    · exact .nil

omit hlanguage hparent in
/-- The same rules apply in both files. -/
theorem chooseRule?_inComponent (rules : List Rule) (item : Item) :
    chooseRule? (ctx.inComponent path lines optionsApi) rules item =
      chooseRule? ctx rules item := by
  have happlies (rule : Rule) : applies (ctx.inComponent path lines optionsApi) item rule =
      applies ctx item rule := by
    cases rule with
    | _ =>
        unfold applies
        rw [hscript]
        rfl
  unfold chooseRule?
  simp only [happlies]
  rfl

theorem matched_containerChunks (item : Item) {kind : ChunkKind} (hkind : kind ∈ producedKinds)
    {cut cut' : Chunk → Item → List Chunk}
    (hcut : ∀ c c', (∀ twin ∈ some (c, c'), Chunk.Mirrors lines twin.1 twin.2) → ∀ member,
      Matched lines path ctx.filePath (some (c, c')) (cut c member) (cut' c' member)) :
    Matched lines path ctx.filePath parent
      (containerChunks (ctx.inComponent path lines optionsApi) (parent.map Prod.fst) kind cut item)
      (containerChunks ctx (parent.map Prod.snd) kind cut' item) := by
  have hmembers : (ctx.inComponent path lines optionsApi).frontEnd.members item =
      ctx.frontEnd.members item := by
    rw [hscript]
    rfl
  unfold containerChunks
  rw [hmembers]
  exact matched_container hscript hlanguage hparent item hkind {} fun c c' hholder =>
    .flatMap fun member _ => hcut c c' hholder member

/-- Whatever rules are tried, a declaration has the same chunks in both files. -/
theorem matched_dispatch (fuel : Nat) (rules : List Rule) (item : Item) :
    Matched lines path ctx.filePath parent
      (dispatch (ctx.inComponent path lines optionsApi) fuel rules (parent.map Prod.fst) item)
      (dispatch ctx fuel rules (parent.map Prod.snd) item) := by
  induction fuel generalizing rules parent item with
  | zero => exact .nil
  | succ fuel ih =>
      unfold dispatch
      rw [chooseRule?_inComponent hscript]
      cases chooseRule? ctx rules item with
      | none => exact .nil
      | some rule =>
          cases rule with
          | componentOptions => exact matched_componentChunks hscript hlanguage hparent item
          | classRule =>
              exact matched_containerChunks hscript hlanguage hparent item (by decide)
                fun c c' hholder member => ih hholder Rule.classMembers member
          | namespaceRule =>
              exact matched_containerChunks hscript hlanguage hparent item (by decide)
                fun c c' hholder member => ih hholder Rule.namespaceMembers member
          | variableRule =>
              have hdeclarators : (ctx.inComponent path lines optionsApi).frontEnd.declarators
                  item = ctx.frontEnd.declarators item := by
                rw [hscript]
                rfl
              dsimp only
              rw [hdeclarators, List.filterMap_eq_flatMap_toList, List.filterMap_eq_flatMap_toList]
              exact .flatMap fun declarator _ =>
                matched_variableChunk? hscript hlanguage hparent declarator
          | functionRule =>
              dsimp only
              rw [functionFacets_inComponent hscript hlanguage]
              exact matched_toList hscript hlanguage hparent item (by decide) _
          | methodRule =>
              have hvisibility : (ctx.inComponent path lines optionsApi).frontEnd.visibility
                  (ctx.inComponent path lines optionsApi).tree item =
                    ctx.frontEnd.visibility ctx.tree item := by
                rw [hscript]
                rfl
              dsimp only
              rw [functionFacets_inComponent hscript hlanguage, hvisibility]
              exact matched_toList hscript hlanguage hparent item (by decide) _
          | _ => exact matched_toList hscript hlanguage hparent item (by decide) _

omit hparent in
/-- A declaration at the top level has the same chunks in both files. -/
theorem matched_declarationChunks (item : Item) :
    Matched lines path ctx.filePath none
      (declarationChunks (ctx.inComponent path lines optionsApi) item)
      (declarationChunks ctx item) :=
  matched_dispatch hscript hlanguage (by simp) item.node.node.size Rule.topLevel item

end InComponent

/-! ## Objects of options -/

/-- The rule for options is the only one for the top level that applies to an export or to a
property. -/
theorem chooseRule?_of_option {ctx : Context} (hscript : ctx.frontEnd = .script) {item : Item}
    (hkind : item.kind ∈ "export_statement" :: Script.propertyKinds) :
    chooseRule? ctx Rule.topLevel item =
      if ctx.rules.contains .componentOptions && applies ctx item .componentOptions then
        some .componentOptions
      else none := by
  have hnot : ∀ kind ∈ "export_statement" :: Script.propertyKinds,
      Script.classKinds.contains kind = false ∧ (kind == "interface_declaration") = false ∧
      (kind == "enum_declaration") = false ∧ (kind == "type_alias_declaration") = false ∧
      Script.namespaceKinds.contains kind = false ∧ Script.variableKinds.contains kind = false ∧
      Script.functionKinds.contains kind = false := by
    decide
  obtain ⟨hclass, hinterface, henum, halias, hnamespace, hvariable, hfunction⟩ := hnot _ hkind
  have hothers : ∀ rule ∈ Rule.topLevel.tail, applies ctx item rule = false := by
    intro rule hrule
    cases rule with
    | componentOptions => exact absurd hrule (by decide)
    | methodRule => exact absurd hrule (by decide)
    | _ =>
        unfold applies
        rw [hscript]
        assumption
  have hnone : Rule.topLevel.tail.find? (fun rule =>
      ctx.rules.contains rule && applies ctx item rule) = none := by
    refine List.find?_eq_none.mpr fun rule hrule => ?_
    rw [hothers rule hrule, Bool.and_false]
    exact Bool.false_ne_true
  show (Rule.componentOptions :: Rule.topLevel.tail).find? (fun rule =>
    ctx.rules.contains rule && applies ctx item rule) = _
  rw [List.find?_cons, hnone]
  cases ctx.rules.contains Rule.componentOptions && applies ctx item .componentOptions with
  | true => rfl
  | false => rfl

/-- Where only the rule for options can apply, it cuts the declaration or nothing does. -/
theorem declarationChunks_of_choice {ctx : Context} {item : Item} {applied : Bool}
    (h : chooseRule? ctx Rule.topLevel item = if applied then some .componentOptions else none) :
    declarationChunks ctx item = if applied then componentChunks ctx none item else [] := by
  unfold declarationChunks
  rw [Node.size_eq]
  unfold dispatch
  rw [h]
  cases applied with
  | true => rfl
  | false => rfl

/-- Only what is kept has a part in what is cut one by one. -/
theorem flatMap_filter_eq {α β : Type} (kept : α → Bool) (cut : α → List β) (items : List α) :
    (items.filter kept).flatMap cut =
      items.flatMap fun item => if kept item then cut item else [] := by
  induction items with
  | nil => rfl
  | cons item items ih =>
      rw [List.flatMap_cons, ← ih]
      cases hkept : kept item with
      | true => rw [List.filter_cons_of_pos hkept, List.flatMap_cons, if_pos rfl]
      | false => rw [List.filter_cons_of_neg (by simp [hkept]), if_neg Bool.false_ne_true]; rfl

section Options

variable {ctx : Context} {path : String} {lines : Nat} {optionsApi : Bool}
  (hscript : ctx.frontEnd = .script)

include hscript

/-- The chunks of a property, taken for a declaration of a component. -/
theorem declarationChunks_of_property {item : Item} (hkind : item.kind ∈ Script.propertyKinds) :
    declarationChunks (ctx.inComponent path lines optionsApi) item =
      if ctx.rules.contains .componentOptions && Script.isComponentOption ctx.tree item then
        optionChunks (ctx.inComponent path lines optionsApi) none item
      else [] := by
  have hobject : Script.isComponentOptions ctx.tree item = false := by
    have hnot : ∀ kind ∈ Script.propertyKinds, (kind != "export_statement") = true := by decide
    unfold Script.isComponentOptions Script.optionsObject?
    rw [if_pos (hnot item.node.kind hkind)]
  have happlies : applies ctx item .componentOptions = Script.isComponentOption ctx.tree item := by
    unfold applies
    rw [hscript]
    show (Script.isComponentOptions ctx.tree item || Script.isComponentOption ctx.tree item) = _
    rw [hobject, Bool.false_or]
  have hchoice : chooseRule? (ctx.inComponent path lines optionsApi) Rule.topLevel item =
      if ctx.rules.contains .componentOptions && Script.isComponentOption ctx.tree item then
        some .componentOptions
      else none := by
    rw [chooseRule?_inComponent hscript,
      chooseRule?_of_option hscript (List.mem_cons_of_mem _ hkind), happlies]
  have hsingle : componentChunks (ctx.inComponent path lines optionsApi) none item =
      optionChunks (ctx.inComponent path lines optionsApi) none item := by
    have hnot : ¬ (ctx.inComponent path lines optionsApi).frontEnd.isComponentOptions
        (ctx.inComponent path lines optionsApi).tree item = true :=
      Bool.eq_false_iff.mp hobject
    unfold componentChunks
    rw [if_neg hnot]
  rw [declarationChunks_of_choice hchoice, hsingle]

/-- The chunks of the export of an object of options, taken for a declaration of a script. -/
theorem declarationChunks_of_componentOptions {item : Item}
    (hobject : Script.isComponentOptions ctx.tree item = true) :
    declarationChunks ctx item =
      if ctx.rules.contains .componentOptions then
        ((Script.componentOptions item).filter (Script.isComponentOption ctx.tree)).flatMap
          (optionChunks ctx none)
      else [] := by
  have hkind : item.kind = "export_statement" := by
    unfold Script.isComponentOptions Script.optionsObject? at hobject
    split at hobject
    · rename_i object hfound
      split at hfound
      · exact absurd hfound (by simp)
      · rename_i hexport
        show item.node.kind = "export_statement"
        simpa using hexport
    · exact absurd hobject (by simp)
  have happlies : applies ctx item .componentOptions = true := by
    unfold applies
    rw [hscript]
    show (Script.isComponentOptions ctx.tree item || Script.isComponentOption ctx.tree item) = true
    rw [hobject, Bool.true_or]
  have hchoice := chooseRule?_of_option hscript
    (show item.kind ∈ "export_statement" :: Script.propertyKinds from
      hkind ▸ List.mem_cons_self)
  have hdivided : componentChunks ctx none item =
      ((Script.componentOptions item).filter (Script.isComponentOption ctx.tree)).flatMap
        (optionChunks ctx none) := by
    unfold componentChunks
    rw [hscript]
    exact if_pos hobject
  rw [happlies, Bool.and_true] at hchoice
  rw [declarationChunks_of_choice hchoice, hdivided]

variable (hlanguage : ctx.tree.language = "typescript")

include hlanguage

/-- The options of a component have the chunks of the statement that exports them in a script. -/
theorem matched_options {item : Item} (hobject : Script.isComponentOptions ctx.tree item = true) :
    Matched lines path ctx.filePath none
      ((Script.componentOptions item).flatMap
        (declarationChunks (ctx.inComponent path lines optionsApi)))
      (declarationChunks ctx item) := by
  have hproperty : ∀ option ∈ Script.componentOptions item,
      option.kind ∈ Script.propertyKinds := by
    intro option hoption
    unfold Script.componentOptions at hoption
    split at hoption
    · obtain ⟨c, hc, rfl⟩ := List.mem_map.mp hoption
      exact List.contains_iff_mem.mp (List.mem_filter.mp hc).2
    · exact absurd hoption List.not_mem_nil
  rw [List.flatMap_congr fun option hoption =>
    declarationChunks_of_property hscript (hproperty option hoption),
    declarationChunks_of_componentOptions hscript hobject]
  cases ctx.rules.contains Rule.componentOptions with
  | true =>
      simp only [Bool.true_and, if_true]
      rw [← flatMap_filter_eq]
      exact .flatMap fun option _ => matched_optionChunks hscript hlanguage (by simp) option
  | false =>
      simp only [Bool.false_and, Bool.false_eq_true, if_false]
      rw [List.flatMap_eq_nil_iff.mpr fun option _ => rfl]
      exact .nil

/-- A component has the chunks that its script has by itself. -/
theorem matched_outline (root : Cursor) :
    Matched lines path ctx.filePath none
      (outline (ctx.inComponent path lines optionsApi) root) (outline ctx root) := by
  have hdeclarations : ctx.frontEnd.declarations ctx.tree root = Script.declarationsIn root := by
    rw [hscript]
    rfl
  unfold outline
  rw [hdeclarations]
  show Matched lines path ctx.filePath none
    ((Component.declarations (ctx.tree.inComponent lines optionsApi) root).flatMap _) _
  unfold Component.declarations
  cases optionsApi with
  | false => exact .flatMap fun item _ => matched_declarationChunks hscript hlanguage item
  | true =>
      show Matched lines path ctx.filePath none ((List.flatMap _ _).flatMap _) _
      rw [List.flatMap_assoc]
      refine .flatMap fun item _ => ?_
      split
      · rename_i hobject
        exact matched_options hscript hlanguage hobject
      · rw [List.flatMap_singleton]
        exact matched_declarationChunks hscript hlanguage item

end Options

end Outline

end ChunkGraph
