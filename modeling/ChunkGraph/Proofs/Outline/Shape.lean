import ChunkGraph.Outline.Basic
import Mathlib.Data.List.Basic

/-!
# What the rules make of declarations

Whichever rule claims a declaration, one of two things happens. Either a chunk
is made of it, and the parts it is divided into are cut with that chunk as their
container; or the declaration has no chunk of its own, and its parts are cut in
its place. A rule that cuts a single chunk finds no parts, and a declaration
that nothing claims is divided into none.

The relation `Yields` says so for lists of declarations, with one constructor
for each of the two and one for the empty list, so that what holds of all chunks
of a file is shown by induction over it and no rule is opened again.

## Main definitions

* `PartsOf` — the lists of declarations that a declaration can be divided into.
* `linked` — a container that lists those of its members that point to it.
* `Yields` — the chunks of a list of declarations under a container.

## Main results

* `yields_dispatch` — what the rules make of a declaration, whatever they are.
* `mem_containerChunks`, `mem_optionChunks` — where a chunk of a container or of
  an option comes from.
* `yields_outline` — what is made of a whole file.
-/

namespace ChunkGraph.Outline

open Syntax

/-- The kinds that rules give to chunks. -/
def producedKinds : List ChunkKind := ChunkKind.names.map (·.1)

/-- The lists of declarations that a declaration can be divided into. -/
inductive PartsOf (ctx : Context) (item : Item) : List Item → Prop where
  /-- It has no parts. -/
  | none : PartsOf ctx item []
  /-- The members of a class or a namespace. -/
  | members : PartsOf ctx item (ctx.frontEnd.members item)
  /-- The declarators of a variable statement. -/
  | declarators : PartsOf ctx item (ctx.frontEnd.declarators item)
  /-- The options of a component. -/
  | options : PartsOf ctx item
      ((ctx.frontEnd.componentOptions item).filter (ctx.frontEnd.isComponentOption ctx.tree))
  /-- The entries of an option. -/
  | entries : PartsOf ctx item (ctx.frontEnd.optionEntries item)

/-- A container that lists those of the chunks below it that point to it. -/
def linked (container : Chunk) (members : List Chunk) : Chunk :=
  { container with
    childrenIds := (members.filter (·.parentId == some container.id)).map (·.id) }

@[simp] theorem id_linked (container : Chunk) (members : List Chunk) :
    (linked container members).id = container.id := rfl

/-- A chunk that has just been made lists no members. -/
theorem linked_nil_of_makeChunk? {ctx : Context} {item : Item} {parent : Option Chunk}
    {kind : ChunkKind} {facets : Facets} {c : Chunk}
    (hmade : ctx.makeChunk? item parent kind facets = some c) : linked c [] = c := by
  obtain ⟨name, _, rfl⟩ := Option.map_eq_some_iff.mp hmade
  rfl

/-- The chunks of a list of declarations under a container. -/
inductive Yields (ctx : Context) : Option Chunk → List Item → List Chunk → Prop where
  /-- No declarations have no chunks. -/
  | nil {parent : Option Chunk} : Yields ctx parent [] []
  /-- A declaration has a chunk, which holds the chunks of its parts. -/
  | chunk {parent : Option Chunk} {item : Item} {kind : ChunkKind} {facets : Facets} {c : Chunk}
      {parts items : List Item} {members rest : List Chunk} (hkind : kind ∈ producedKinds)
      (hmade : ctx.makeChunk? item parent kind facets = some c) (hparts : PartsOf ctx item parts)
      (hmembers : Yields ctx (some c) parts members) (hrest : Yields ctx parent items rest) :
      Yields ctx parent (item :: items) (linked c members :: (members ++ rest))
  /-- A declaration has no chunk of its own, and the chunks of its parts stand for it. -/
  | parts {parent : Option Chunk} {item : Item} {parts items : List Item}
      {found rest : List Chunk} (hparts : PartsOf ctx item parts)
      (hfound : Yields ctx parent parts found) (hrest : Yields ctx parent items rest) :
      Yields ctx parent (item :: items) (found ++ rest)

namespace Yields

variable {ctx : Context} {parent : Option Chunk}

/-- Lists of declarations can be cut one after the other. -/
theorem append {items more : List Item} {chunks others : List Chunk}
    (h : Yields ctx parent items chunks) (hmore : Yields ctx parent more others) :
    Yields ctx parent (items ++ more) (chunks ++ others) := by
  induction h with
  | nil => exact hmore
  | chunk hkind hmade hparts hmembers _ _ ih =>
      rw [List.cons_append, List.cons_append, List.append_assoc]
      exact .chunk hkind hmade hparts hmembers (ih hmore)
  | parts hparts hfound _ _ ih =>
      rw [List.cons_append, List.append_assoc]
      exact .parts hparts hfound (ih hmore)

/-- Declarations can be cut one by one. -/
theorem flatMap {items : List Item} {cut : Item → List Chunk}
    (h : ∀ item ∈ items, Yields ctx parent [item] (cut item)) :
    Yields ctx parent items (items.flatMap cut) := by
  induction items with
  | nil => exact .nil
  | cons item items ih =>
      rw [List.flatMap_cons]
      have hrest := ih fun other hother => h other (List.mem_cons_of_mem item hother)
      exact (h item List.mem_cons_self).append hrest

/-- A declaration may have no chunks. -/
theorem nothing (item : Item) : Yields ctx parent [item] [] := .parts .none .nil .nil

/-- A declaration may be a chunk without members. -/
theorem single {item : Item} {kind : ChunkKind} {facets : Facets} {c : Chunk}
    (hkind : kind ∈ producedKinds) (hmade : ctx.makeChunk? item parent kind facets = some c) :
    Yields ctx parent [item] [c] := by
  have hyields := Yields.chunk hkind hmade .none .nil (@Yields.nil ctx parent)
  rw [linked_nil_of_makeChunk? hmade] at hyields
  exact hyields

theorem toList {item : Item} {kind : ChunkKind} {facets : Facets} (hkind : kind ∈ producedKinds) :
    Yields ctx parent [item] (ctx.makeChunk? item parent kind facets).toList := by
  cases hmade : ctx.makeChunk? item parent kind facets with
  | none => exact .nothing item
  | some c => exact .single hkind hmade

/-- A declaration may hold the chunks of its parts. -/
theorem container {item : Item} {kind : ChunkKind} {facets : Facets} {c : Chunk}
    {parts : List Item} {members : List Chunk} (hkind : kind ∈ producedKinds)
    (hmade : ctx.makeChunk? item parent kind facets = some c) (hparts : PartsOf ctx item parts)
    (hmembers : Yields ctx (some c) parts members) :
    Yields ctx parent [item] (withMembers c members) := by
  have hyields := Yields.chunk hkind hmade hparts hmembers (@Yields.nil ctx parent)
  rw [List.append_nil] at hyields
  exact hyields

/-- The chunks of its parts may stand for a declaration. -/
theorem ofParts {item : Item} {parts : List Item} {found : List Chunk}
    (hparts : PartsOf ctx item parts) (hfound : Yields ctx parent parts found) :
    Yields ctx parent [item] found := by
  have hyields := Yields.parts hparts hfound (@Yields.nil ctx parent)
  rw [List.append_nil] at hyields
  exact hyields

end Yields

/-! ## Rules -/

section Rules

variable (ctx : Context) (parent : Option Chunk) (item : Item)

/-- Parts with at most one chunk each. -/
theorem yields_filterMap {parts : List Item} {cut? : Item → Option Chunk}
    (h : ∀ part ∈ parts, Yields ctx parent [part] (cut? part).toList) :
    Yields ctx parent parts (parts.filterMap cut?) := by
  rw [List.filterMap_eq_flatMap_toList]
  exact Yields.flatMap h

/-- The entries of an option have the kind of their block. -/
theorem optionBlocks_produced {option role : String} {kind : ChunkKind}
    (h : optionBlocks.lookup option = some (kind, role)) : kind ∈ producedKinds := by
  have hall : ∀ entry ∈ optionBlocks, entry.2.1 ∈ producedKinds := by decide
  obtain ⟨_, _, heq, _⟩ := List.lookup_eq_some_iff.mp h
  refine hall (option, kind, role) ?_
  rw [heq]
  exact List.mem_append_right _ List.mem_cons_self

theorem yields_optionChunks : Yields ctx parent [item] (optionChunks ctx parent item) := by
  unfold optionChunks
  simp only
  split
  · exact .toList (by decide)
  · split
    · exact .nothing item
    · rename_i kind role hblock
      have hkind := optionBlocks_produced hblock
      split
      · exact .nothing item
      · rename_i block hmade
        split
        · refine .container (by decide) hmade .entries (yields_filterMap ctx _ ?_)
          intro entry _
          exact .toList hkind
        · exact .single (by decide) hmade

theorem yields_componentChunks : Yields ctx parent [item] (componentChunks ctx parent item) := by
  unfold componentChunks
  split
  · exact .ofParts .options (.flatMap fun option _ => yields_optionChunks ctx parent option)
  · exact yields_optionChunks ctx parent item

theorem yields_variableChunk? :
    Yields ctx parent [item] (variableChunk? ctx parent item).toList := by
  unfold variableChunk?
  split
  · exact .toList (by decide)
  · split
    · exact .toList (by decide)
    · exact .nothing item

theorem yields_containerChunks {kind : ChunkKind} {cut : Chunk → Item → List Chunk}
    (hkind : kind ∈ producedKinds)
    (hcut : ∀ container member, Yields ctx (some container) [member] (cut container member)) :
    Yields ctx parent [item] (containerChunks ctx parent kind cut item) := by
  unfold containerChunks
  split
  · exact .nothing item
  · rename_i container hmade
    split
    · exact .container hkind hmade .members (.flatMap fun member _ => hcut container member)
    · exact .single hkind hmade

/-- Whatever rules are tried, a declaration becomes a chunk with the chunks of its parts below it,
or these chunks alone. -/
theorem yields_dispatch (fuel : Nat) (rules : List Rule) :
    Yields ctx parent [item] (dispatch ctx fuel rules parent item) := by
  induction fuel generalizing rules parent item with
  | zero => exact .nothing item
  | succ fuel ih =>
      unfold dispatch
      split
      case h_1 => exact .nothing item
      case h_2 => exact yields_componentChunks ctx parent item
      case h_3 =>
        exact yields_containerChunks ctx parent item (by decide) fun container member =>
          ih (some container) member Rule.classMembers
      case h_7 =>
        exact yields_containerChunks ctx parent item (by decide) fun container member =>
          ih (some container) member Rule.namespaceMembers
      case h_8 =>
        refine .ofParts .declarators (yields_filterMap ctx parent ?_)
        intro declarator _
        exact yields_variableChunk? ctx parent declarator
      -- An interface, an enumeration, a type alias, a function or a method is a chunk by itself.
      all_goals exact .toList (by decide)

end Rules

/-! ## Rules read back -/

section Inversion

variable {ctx : Context} {item : Item} {parent : Option Chunk} {c : Chunk}

/-- A rule that is chosen is one of those that are tried, and it applies. -/
theorem of_chooseRule? {rules : List Rule} {rule : Rule}
    (h : chooseRule? ctx rules item = some rule) :
    rule ∈ rules ∧ applies ctx item rule = true := by
  unfold chooseRule? at h
  have hchosen := List.find?_some h
  exact ⟨List.mem_of_find?_eq_some h, (Bool.and_eq_true_iff.mp hchosen).2⟩

/-- What is cut from a declaration is cut by a rule for the top level that applies to it. -/
theorem exists_rule_of_mem (hc : c ∈ declarationChunks ctx item) :
    ∃ rule ∈ Rule.topLevel, applies ctx item rule = true ∧
      chooseRule? ctx Rule.topLevel item = some rule ∧
      ∃ fuel, c ∈ dispatch ctx (fuel + 1) Rule.topLevel none item := by
  unfold declarationChunks at hc
  generalize item.node.node.size = fuel at hc
  cases fuel with
  | zero => exact absurd hc List.not_mem_nil
  | succ fuel =>
      cases hrule : chooseRule? ctx Rule.topLevel item with
      | none =>
          unfold dispatch at hc
          rw [hrule] at hc
          exact absurd hc List.not_mem_nil
      | some rule =>
          obtain ⟨htop, happlies⟩ := of_chooseRule? hrule
          exact ⟨rule, htop, happlies, rfl, fuel, hc⟩

/-- The chunk of a declarator is a function or an export. -/
theorem exists_makeChunk?_of_variableChunk? (h : variableChunk? ctx parent item = some c) :
    ∃ kind facets, ctx.makeChunk? item parent kind facets = some c := by
  unfold variableChunk? at h
  split at h
  · exact ⟨_, _, h⟩
  · split at h
    · exact ⟨_, _, h⟩
    · exact absurd h (by simp)

/-- A container comes first and the members after it. -/
theorem mem_containerChunks {kind : ChunkKind} {cut : Chunk → Item → List Chunk}
    (h : c ∈ containerChunks ctx parent kind cut item) :
    ∃ container, ctx.makeChunk? item parent kind {} = some container ∧
      ((∃ members, c = linked container members) ∨
        ∃ members, containerChunks ctx parent kind cut item = linked container members :: members ∧
          ∃ member ∈ ctx.frontEnd.members item, c ∈ cut container member ∧
            ∀ chunk ∈ cut container member, chunk ∈ members) := by
  unfold containerChunks at h ⊢
  split at h
  · exact absurd h List.not_mem_nil
  · rename_i container hmade
    refine ⟨container, hmade, ?_⟩
    split at h
    · rename_i hnested
      rw [if_pos hnested]
      rcases List.mem_cons.mp h with rfl | hmember
      · exact Or.inl ⟨_, rfl⟩
      · obtain ⟨member, hmember, hc⟩ := List.mem_flatMap.mp hmember
        exact Or.inr ⟨_, rfl, member, hmember, hc,
          fun chunk hchunk => List.mem_flatMap.mpr ⟨member, hmember, hchunk⟩⟩
    · rw [List.mem_singleton.mp h]
      exact Or.inl ⟨[], (linked_nil_of_makeChunk? hmade).symm⟩

/-- An option has a chunk of its own, which holds those of its entries. -/
theorem mem_optionChunks (h : c ∈ optionChunks ctx parent item) :
    (∃ kind facets made members, ctx.makeChunk? item parent kind facets = some made ∧
      c = linked made members) ∨
      ∃ block, ∃ entry ∈ ctx.frontEnd.optionEntries item, ∃ kind facets,
        ctx.makeChunk? entry (some block) kind facets = some c := by
  have halone {kind : ChunkKind} {facets : Facets}
      (hmade : ctx.makeChunk? item parent kind facets = some c) :
      ∃ kind facets made members, ctx.makeChunk? item parent kind facets = some made ∧
        c = linked made members :=
    ⟨kind, facets, c, [], hmade, (linked_nil_of_makeChunk? hmade).symm⟩
  unfold optionChunks at h
  simp only at h
  split at h
  · exact Or.inl (halone (Option.mem_toList.mp h))
  · split at h
    · exact absurd h List.not_mem_nil
    · split at h
      · exact absurd h List.not_mem_nil
      · rename_i block hmade
        split at h
        · rcases List.mem_cons.mp h with rfl | hentry
          · exact Or.inl ⟨_, _, block, _, hmade, rfl⟩
          · obtain ⟨entry, hentry, hcut⟩ := List.mem_filterMap.mp hentry
            exact Or.inr ⟨block, entry, hentry, _, _, hcut⟩
        · obtain rfl := List.mem_singleton.mp h
          exact Or.inl (halone hmade)

end Inversion

/-- The chunks of a file are those of its declarations. -/
theorem yields_outline (ctx : Context) (root : Cursor) :
    Yields ctx none (ctx.frontEnd.declarations ctx.tree root) (outline ctx root) :=
  .flatMap fun item _ => yields_dispatch ctx none item item.node.node.size Rule.topLevel

end ChunkGraph.Outline
