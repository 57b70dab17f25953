import ChunkGraph.Chunk.Identity

/-!
# When two declarations have the same identity

The text that is digested for an identity is the normalized path, the kind and
the qualified name, with colons between them. The names of the kinds have no
colon, but paths and qualified names may have some. So a text can be cut in more
than one way: where the path of one declaration goes on with a colon, the kind of
another one and a part of its qualified name. This needs a colon in that path and
one in that qualified name, and without them the text tells all three parts.

## Main definitions

* `Identity` — the three parts, with `Identity.text` and `Identity.id`.
* `Identity.Same` — they agree.
* `Identity.ReadsAs` — the text can be cut further behind.

## Main results

* `Identity.text_eq_iff` — the two ways in which texts can be equal.
* `Identity.text_and_id_eq_iff` — what this means for identities.
* `Identity.ambiguous_text` — a text that can be cut in two ways.
-/

namespace ChunkGraph

/-! ## Lists with a separator -/

/-- An element of two lists in a row is in one of them. -/
theorem append_eq_append_cons {α : Type} {left right before after : List α} {x : α}
    (h : left ++ right = before ++ x :: after) :
    (∃ behind, left = before ++ x :: behind ∧ after = behind ++ right) ∨
      ∃ front, before = left ++ front ∧ right = front ++ x :: after := by
  rcases List.append_eq_append_iff.mp h with ⟨front, hbefore, hright⟩ | ⟨behind, hleft, hafter⟩
  · exact Or.inr ⟨front, hbefore, hright⟩
  · cases behind with
    | nil => exact Or.inr ⟨[], by rw [hleft, List.append_nil, List.append_nil], hafter.symm⟩
    | cons first behind =>
        obtain ⟨rfl, rfl⟩ := List.cons.inj hafter
        exact Or.inl ⟨behind, hleft, rfl⟩

/-- Two texts with no separator in front of their first one agree in front of it and behind it. -/
theorem append_cons_inj_of_not_mem {α : Type} {sep : α} {front front' behind behind' : List α}
    (hfront : sep ∉ front) (hfront' : sep ∉ front')
    (h : front ++ sep :: behind = front' ++ sep :: behind') :
    front = front' ∧ behind = behind' := by
  rcases append_eq_append_cons h with ⟨rest, rfl, _⟩ | ⟨rest, rfl, hrest⟩
  · exact absurd (List.mem_append_right _ List.mem_cons_self) hfront
  · cases rest with
    | nil => exact ⟨(List.append_nil _).symm, (List.cons.inj hrest).2⟩
    | cons first rest =>
        obtain ⟨rfl, _⟩ := List.cons.inj hrest
        exact absurd (List.mem_append_right _ List.mem_cons_self) hfront'

/-! ## Texts of identities -/

/-- What the identity of a declaration is made from. -/
structure Identity where
  /-- The file, in any spelling. -/
  path : String
  /-- What is declared. -/
  kind : ChunkKind
  /-- Its name below those of the declarations around it. -/
  qualifiedName : String

namespace Identity

/-- The text whose digest is the identity. -/
def text (d : Identity) : String := identityText d.path d.qualifiedName d.kind

/-- The identity. -/
def id (d : Identity) : String := chunkId d.path d.qualifiedName d.kind

/-- The kind is one that rules produce. -/
def Produced (d : Identity) : Prop := d.kind ∈ ChunkKind.names.map (·.1)

/-- The three parts agree, the paths after normalization. -/
def Same (d e : Identity) : Prop :=
  Path.normalize d.path = Path.normalize e.path ∧ d.kind = e.kind ∧
    d.qualifiedName = e.qualifiedName

/-- The text is also that of a declaration whose path goes on with the kind and with the front of
the qualified name. -/
def ReadsAs (d e : Identity) : Prop :=
  ∃ front : List Char,
    (Path.normalize e.path).toList =
        (Path.normalize d.path).toList ++ ':' :: (d.kind.name.toList ++ front) ∧
      ':' :: d.qualifiedName.toList =
        front ++ ':' :: (e.kind.name.toList ++ ':' :: e.qualifiedName.toList)

theorem text_toList (d : Identity) :
    d.text.toList =
      (Path.normalize d.path).toList ++
        ':' :: (d.kind.name.toList ++ ':' :: d.qualifiedName.toList) := by
  have hcolon : ":".toList = [':'] := rfl
  simp only [text, identityText, String.toList_append, hcolon, List.append_assoc,
    List.cons_append, List.nil_append]

/-- The name of a kind that rules give has no colon. -/
theorem colon_not_mem_name {kind : ChunkKind} (h : kind ∈ ChunkKind.names.map (·.1)) :
    ':' ∉ kind.name.toList := by
  have hall : ∀ kind ∈ ChunkKind.names.map (·.1), ':' ∉ kind.name.toList := by decide
  exact hall kind h

/-- The kinds that rules give have different names. -/
theorem name_inj {kind kind' : ChunkKind} (h : kind ∈ ChunkKind.names.map (·.1))
    (h' : kind' ∈ ChunkKind.names.map (·.1)) (hname : kind.name.toList = kind'.name.toList) :
    kind = kind' := by
  have hall : ∀ kind ∈ ChunkKind.names.map (·.1), ∀ kind' ∈ ChunkKind.names.map (·.1),
      kind.name.toList = kind'.name.toList → kind = kind' := by decide
  exact hall kind h kind' h' hname

variable {d e : Identity}

/-- If one path begins with the other one, the texts are equal only if all agrees or the longer path
goes on with the kind of the other declaration. -/
theorem same_or_readsAs (hd : d.Produced) (he : e.Produced) {rest : List Char}
    (hpath : (Path.normalize e.path).toList = (Path.normalize d.path).toList ++ rest)
    (hrest : ':' :: (d.kind.name.toList ++ ':' :: d.qualifiedName.toList) =
      rest ++ ':' :: (e.kind.name.toList ++ ':' :: e.qualifiedName.toList)) :
    d.Same e ∨ d.ReadsAs e := by
  cases rest with
  | nil =>
      have hbehind := (List.cons.inj hrest).2
      obtain ⟨hkind, hname⟩ := append_cons_inj_of_not_mem (colon_not_mem_name hd)
        (colon_not_mem_name he) hbehind
      rw [List.append_nil] at hpath
      exact Or.inl ⟨String.toList_injective hpath.symm, name_inj hd he hkind,
        String.toList_injective hname⟩
  | cons first rest =>
      obtain ⟨rfl, hbehind⟩ := List.cons.inj hrest
      rcases append_eq_append_cons hbehind with ⟨behind, hkind, _⟩ | ⟨front, rfl, hname⟩
      · exact absurd (hkind ▸ List.mem_append_right _ List.mem_cons_self)
          (colon_not_mem_name hd)
      · exact Or.inr ⟨front, hpath, hname⟩

theorem Same.text_eq (h : d.Same e) : d.text = e.text := by
  obtain ⟨hpath, hkind, hname⟩ := h
  apply String.toList_injective
  rw [text_toList, text_toList, hpath, hkind, hname]

theorem ReadsAs.text_eq (h : d.ReadsAs e) : d.text = e.text := by
  obtain ⟨front, hpath, hname⟩ := h
  apply String.toList_injective
  rw [text_toList, text_toList, hpath, hname]
  simp only [List.append_assoc, List.cons_append]

/-- Two texts are equal exactly if the declarations agree, or if the path of one of them goes on
with the kind and a part of the qualified name of the other one. -/
theorem text_eq_iff (hd : d.Produced) (he : e.Produced) :
    d.text = e.text ↔ d.Same e ∨ d.ReadsAs e ∨ e.ReadsAs d := by
  constructor
  · intro h
    have hlists := congrArg String.toList h
    rw [text_toList, text_toList] at hlists
    rcases List.append_eq_append_iff.mp hlists with ⟨rest, hpath, hrest⟩ | ⟨rest, hpath, hrest⟩
    · rcases same_or_readsAs hd he hpath hrest with hsame | hreads
      · exact Or.inl hsame
      · exact Or.inr (Or.inl hreads)
    · rcases same_or_readsAs he hd hpath hrest with ⟨hpath, hkind, hname⟩ | hreads
      · exact Or.inl ⟨hpath.symm, hkind.symm, hname.symm⟩
      · exact Or.inr (Or.inr hreads)
  · rintro (hsame | hreads | hreads)
    · exact hsame.text_eq
    · exact hreads.text_eq
    · exact hreads.text_eq.symm

/-- A path that goes on with the kind of another declaration has a colon. -/
theorem ReadsAs.colon_mem_path (h : d.ReadsAs e) : ':' ∈ (Path.normalize e.path).toList := by
  obtain ⟨front, hpath, _⟩ := h
  rw [hpath]
  exact List.mem_append_right _ List.mem_cons_self

/-- The qualified name that goes on in a path has a colon. -/
theorem ReadsAs.colon_mem_qualifiedName (h : d.ReadsAs e) : ':' ∈ d.qualifiedName.toList := by
  obtain ⟨front, _, hname⟩ := h
  cases front with
  | nil =>
      rw [(List.cons.inj hname).2]
      exact List.mem_append_right _ List.mem_cons_self
  | cons first front =>
      rw [(List.cons.inj hname).2]
      exact List.mem_append_right _ List.mem_cons_self

/-- The two declarations are in different files. -/
theorem ReadsAs.path_ne (h : d.ReadsAs e) : Path.normalize d.path ≠ Path.normalize e.path := by
  obtain ⟨front, hpath, _⟩ := h
  intro hsame
  rw [← hsame] at hpath
  exact absurd (List.self_eq_append_right.mp hpath) (List.cons_ne_nil _ _)

/-- In one file, the text tells the kind and the qualified name. -/
theorem same_of_text_eq (hd : d.Produced) (he : e.Produced)
    (hpath : Path.normalize d.path = Path.normalize e.path) (h : d.text = e.text) : d.Same e := by
  rcases (text_eq_iff hd he).mp h with hsame | hreads | hreads
  · exact hsame
  · exact absurd hpath hreads.path_ne
  · exact absurd hpath.symm hreads.path_ne

/-- The text of an identity tells its three parts unless one path has a colon and the qualified name
of the other declaration has one as well. Where digests differ if the texts do, the same holds of
identities. -/
theorem text_and_id_eq_iff (hd : d.Produced) (he : e.Produced) :
    (d.text = e.text ↔ d.Same e ∨ d.ReadsAs e ∨ e.ReadsAs d) ∧
      (d.ReadsAs e → Path.normalize d.path ≠ Path.normalize e.path ∧
        ':' ∈ (Path.normalize e.path).toList ∧ ':' ∈ d.qualifiedName.toList) ∧
      (e.ReadsAs d → Path.normalize e.path ≠ Path.normalize d.path ∧
        ':' ∈ (Path.normalize d.path).toList ∧ ':' ∈ e.qualifiedName.toList) ∧
      ((shortDigest d.text = shortDigest e.text → d.text = e.text) →
        (d.id = e.id ↔ d.Same e ∨ d.ReadsAs e ∨ e.ReadsAs d)) := by
  refine ⟨text_eq_iff hd he, fun h => ⟨h.path_ne, h.colon_mem_path, h.colon_mem_qualifiedName⟩,
    fun h => ⟨h.path_ne, h.colon_mem_path, h.colon_mem_qualifiedName⟩, fun hdigest => ?_⟩
  rw [← text_eq_iff hd he]
  exact ⟨hdigest, congrArg shortDigest⟩

/-- A method with a quoted name in one file and a function in another file, whose name goes on with
the kind and the class of that method. -/
theorem ambiguous_text :
    (⟨"a.ts", .methodDecl, "C.x.ts:function:f"⟩ : Identity).Produced ∧
      (⟨"a.ts:method:C.x.ts", .functionDecl, "f"⟩ : Identity).Produced ∧
      (⟨"a.ts", .methodDecl, "C.x.ts:function:f"⟩ : Identity).text =
        (⟨"a.ts:method:C.x.ts", .functionDecl, "f"⟩ : Identity).text ∧
      (⟨"a.ts", .methodDecl, "C.x.ts:function:f"⟩ : Identity).id =
        (⟨"a.ts:method:C.x.ts", .functionDecl, "f"⟩ : Identity).id ∧
      ¬(⟨"a.ts", .methodDecl, "C.x.ts:function:f"⟩ : Identity).Same
        ⟨"a.ts:method:C.x.ts", .functionDecl, "f"⟩ := by
  have htext : identityText "a.ts" "C.x.ts:function:f" .methodDecl =
      identityText "a.ts:method:C.x.ts" "f" .functionDecl := by
    decide +kernel
  refine ⟨?_, ?_, htext, congrArg shortDigest htext, ?_⟩
  · show ChunkKind.methodDecl ∈ ChunkKind.names.map (·.1)
    decide
  · show ChunkKind.functionDecl ∈ ChunkKind.names.map (·.1)
    decide
  · rintro ⟨_, hkind, _⟩
    exact absurd hkind (by decide)

/-- A colon in a qualified name alone does no harm: the digests of two declarations differ. -/
theorem text_and_id_eq_iff_emits :
    (⟨"./src/a.vue", .methodDecl, "emits.update:open"⟩ : Identity).Produced ∧
      (⟨"src/b.vue", .methodDecl, "emits.update:open"⟩ : Identity).Produced ∧
      ((⟨"./src/a.vue", .methodDecl, "emits.update:open"⟩ : Identity).id =
          (⟨"src/b.vue", .methodDecl, "emits.update:open"⟩ : Identity).id ↔
        (⟨"./src/a.vue", .methodDecl, "emits.update:open"⟩ : Identity).Same
            ⟨"src/b.vue", .methodDecl, "emits.update:open"⟩ ∨
          (⟨"./src/a.vue", .methodDecl, "emits.update:open"⟩ : Identity).ReadsAs
            ⟨"src/b.vue", .methodDecl, "emits.update:open"⟩ ∨
          (⟨"src/b.vue", .methodDecl, "emits.update:open"⟩ : Identity).ReadsAs
            ⟨"./src/a.vue", .methodDecl, "emits.update:open"⟩) := by
  have hkind : ChunkKind.methodDecl ∈ ChunkKind.names.map (·.1) := by decide
  have hdigests : shortDigest (identityText "./src/a.vue" "emits.update:open" .methodDecl) ≠
      shortDigest (identityText "src/b.vue" "emits.update:open" .methodDecl) := by
    decide +kernel
  exact ⟨hkind, hkind,
    (text_and_id_eq_iff (d := ⟨"./src/a.vue", .methodDecl, "emits.update:open"⟩)
      (e := ⟨"src/b.vue", .methodDecl, "emits.update:open"⟩) hkind hkind).2.2.2
      fun hsame => absurd hsame hdigests⟩

end Identity

end ChunkGraph
