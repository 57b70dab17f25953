import ChunkGraph.Proofs.Cache.Operations
import ChunkGraph.Proofs.Chunker.PoolKey
import ChunkGraph.Proofs.Pool.Operations

/-!
# Sessions with one chunker

A chunker keeps parsed trees and front ends from one call to the next. Neither
shows in an answer: whatever has been asked before, at whatever times, and
whatever has expired, has been evicted or has been dropped since, a call is
answered as by a chunker that has just been made.

The invariant is that everything that is kept can be exchanged for something
new. A tree is what the text with its hash parses to, perhaps with the table of
the names that it exports apart from their declarations; cutting it again reads
that table where a new tree is gone through. A front end on a shelf is the one
that would be made for any file with that key. Everything else about a chunker
never changes, and `Chunker.clearCaches` forgets exactly the rest.

The hash of a text stands for the text. So it is assumed that of the texts used
under one path no two have the same hash, and that ages can be compared with the
lifetime of a tree.

## Main definitions

* `Chunker.KeptFrom` — a parsed tree, perhaps with its table.
* `TreesSound`, `ShelvesSound` — what is kept can be exchanged.
* `Chunker.Like` — a chunker differs from another in what it keeps only.
* `Call`, `Call.run`, `answers` — the calls of a session and their answers.

## Main results

* `Outline.outline_tabled` — a table that is kept does not show in the chunks.
* `Chunker.parse_sound`, `Chunker.withTree_sound` — what one parse does.
* `Call.run_sound` — what one call does.
* `answers_eq_answers_of_new` — the answers of a session.
-/

namespace ChunkGraph

open Number Syntax

/-! ## Trees with their tables -/

namespace Outline

/-- The rules with the tree of the file as it is after it has been cut. -/
def Context.tabled (ctx : Context) : Context :=
  { ctx with tree := ctx.frontEnd.keepTable ctx.tree }

/-- A table that is kept is the one that would be read off the tree, so a declaration is cut into
the same chunks. -/
theorem dispatch_tabled (ctx : Context) (fuel : Nat) :
    dispatch ctx.tabled fuel = dispatch ctx fuel := by
  induction fuel with
  | zero => rfl
  | succ fuel ih =>
      funext rules parent item
      unfold dispatch
      rw [ih]
      obtain ⟨frontEnd, tree, filePath, options, tokenizer, used, imports⟩ := ctx
      cases frontEnd <;> rfl

theorem outline_tabled (ctx : Context) : outline ctx.tabled = outline ctx := by
  have hchunks : declarationChunks ctx.tabled = declarationChunks ctx := by
    funext item
    unfold declarationChunks
    rw [dispatch_tabled]
  funext root
  have hdeclarations : ctx.frontEnd.declarations (ctx.frontEnd.keepTable ctx.tree) root =
      ctx.frontEnd.declarations ctx.tree root := by
    cases ctx.frontEnd <;> rfl
  show (ctx.frontEnd.declarations (ctx.frontEnd.keepTable ctx.tree) root).flatMap
    (declarationChunks ctx.tabled) = _
  rw [hchunks, hdeclarations]
  rfl

end Outline

namespace Chunker

variable {frontEnd : FrontEnd} {tree kept : Tree}

/-- A tree with its table is cut like the tree without. -/
theorem cut?_keepTable (c : Chunker) (frontEnd : FrontEnd) (tree : Tree) (path : String)
    (options : Options) :
    c.cut? frontEnd (frontEnd.keepTable tree) path options = c.cut? frontEnd tree path options := by
  have hroot : (frontEnd.keepTable tree).rootCursor? = tree.rootCursor? := by
    cases frontEnd <;> rfl
  have himports : frontEnd.imports (frontEnd.keepTable tree) = frontEnd.imports tree := by
    cases frontEnd <;> rfl
  unfold cut?
  rw [hroot, himports]
  cases tree.rootCursor? with
  | none => rfl
  | some root =>
      cases c.tokenizerFor? options with
      | none => dsimp only [Option.bind_eq_bind, Option.bind_none]
      | some tokenizer =>
          have houtline := congrFun (Outline.outline_tabled ⟨frontEnd, tree, path, options,
            tokenizer, c.rules, frontEnd.imports tree ⟨root, none⟩⟩) root
          unfold Outline.Context.tabled at houtline
          dsimp only [Option.bind_eq_bind, Option.bind_some]
          rw [houtline]

/-- It has the same imports and exports. -/
theorem interfaceOf_keepTable (frontEnd : FrontEnd) (tree : Tree) :
    interfaceOf frontEnd (some (frontEnd.keepTable tree)) = interfaceOf frontEnd (some tree) := by
  cases frontEnd <;> rfl

/-- A tree that is kept for a parsed one: that tree, perhaps with its table. -/
inductive KeptFrom (frontEnd : FrontEnd) (parsed : Tree) : Tree → Prop where
  /-- The tree as it was parsed. -/
  | bare : KeptFrom frontEnd parsed parsed
  /-- The tree with its table. -/
  | tabled : KeptFrom frontEnd parsed (frontEnd.keepTable parsed)

/-- A table that is kept once is kept for good. -/
theorem KeptFrom.keepTable (h : KeptFrom frontEnd tree kept) :
    KeptFrom frontEnd tree (frontEnd.keepTable kept) := by
  have htwice : frontEnd.keepTable (frontEnd.keepTable tree) = frontEnd.keepTable tree := by
    cases frontEnd <;> rfl
  cases h with
  | bare => exact .tabled
  | tabled => exact htwice.symm ▸ .tabled

/-- What is cut from a kept tree is what is cut from the parsed one. -/
theorem chunksOf_of_keptFrom (c : Chunker) (h : KeptFrom frontEnd tree kept)
    (code path : String) (options : Options) :
    c.chunksOf frontEnd (some kept) code path options =
      c.chunksOf frontEnd (some tree) code path options := by
  cases h with
  | bare => rfl
  | tabled =>
      unfold chunksOf
      rw [Option.bind_some, Option.bind_some, cut?_keepTable]

theorem interfaceOf_of_keptFrom (h : KeptFrom frontEnd tree kept) :
    interfaceOf frontEnd (some kept) = interfaceOf frontEnd (some tree) := by
  cases h with
  | bare => rfl
  | tabled => exact interfaceOf_keepTable frontEnd tree

end Chunker

/-! ## Kept trees -/

/-- Every kept tree is kept for what a used text with its hash parses to; there are none where the
capacity cannot be compared with. -/
def TreesSound (parser : Parser) (frontEndOf : String → FrontEnd)
    (used : String → String → Prop) (trees : Cache Tree) : Prop :=
  ∀ path entry, trees.entries.lookup path = some entry →
    trees.capacity.isNumber = true ∧
      ∃ code parsed, used path code ∧ entry.hash = contentHash code ∧
        (frontEndOf path).parse? parser code path = some parsed ∧
          Chunker.KeptFrom (frontEndOf path) parsed entry.value

section TreesSound

variable {parser : Parser} {frontEndOf : String → FrontEnd} {used : String → String → Prop}
  {trees fewer : Cache Tree}

/-- Fewer entries are sound if more are. -/
theorem TreesSound.of_lookup (h : TreesSound parser frontEndOf used trees)
    (hclear : fewer.clear = trees.clear)
    (hfewer : ∀ path entry, fewer.entries.lookup path = some entry →
      trees.entries.lookup path = some entry) : TreesSound parser frontEndOf used fewer := by
  intro path entry hentry
  have hcapacity : fewer.capacity = trees.capacity := (Cache.bounds_eq_of_clear_eq hclear).1
  rw [hcapacity]
  exact h path entry (hfewer path entry hentry)

/-- What a used text parses to can be kept. -/
theorem TreesSound.set (h : TreesSound parser frontEndOf used trees) (now : Quantity)
    (hnumber : trees.capacity.isNumber = true) {path code : String} {tree : Tree}
    (hused : used path code) (hparse : (frontEndOf path).parse? parser code path = some tree) :
    TreesSound parser frontEndOf used (trees.set now path (contentHash code) tree) := by
  have hcapacity : (trees.set now path (contentHash code) tree).capacity = trees.capacity :=
    (Cache.bounds_eq_of_clear_eq (Cache.clear_set _ _ _ _ _)).1
  intro other entry hentry
  rw [hcapacity]
  rcases Cache.lookup_set hentry with ⟨rfl, rfl⟩ | hold
  · exact ⟨hnumber, code, tree, hused, rfl, hparse, .bare⟩
  · exact h other entry hold

/-- The table of a kept tree can be kept as well. -/
theorem TreesSound.change (h : TreesSound parser frontEndOf used trees) {path : String}
    {leave : Tree → Tree}
    (hleave : ∀ tree kept, Chunker.KeptFrom (frontEndOf path) tree kept →
      Chunker.KeptFrom (frontEndOf path) tree (leave kept)) :
    TreesSound parser frontEndOf used (trees.change path leave) := by
  have hcapacity : (trees.change path leave).capacity = trees.capacity :=
    (Cache.bounds_eq_of_clear_eq (Cache.clear_change _ _ _)).1
  intro other entry hentry
  rw [hcapacity]
  rw [Cache.lookup_change] at hentry
  split at hentry
  · rename_i hsame
    obtain rfl := eq_of_beq hsame
    obtain ⟨old, hold, rfl⟩ := Option.map_eq_some_iff.mp hentry
    obtain ⟨hnumber, code, parsed, hcode, hhash, hparse, hkept⟩ := h other old hold
    exact ⟨hnumber, code, parsed, hcode, hhash, hparse, hleave parsed old.value hkept⟩
  · exact h other entry hentry

/-- Using a tree leaves it kept for what it was kept for. -/
theorem TreesSound.afterUse (h : TreesSound parser frontEndOf used trees) {path : String}
    {leave : Tree → Tree}
    (hleave : ∀ tree kept, Chunker.KeptFrom (frontEndOf path) tree kept →
      Chunker.KeptFrom (frontEndOf path) tree (leave kept)) (tree? : Option Tree) :
    TreesSound parser frontEndOf used (Chunker.afterUse leave path tree? trees) := by
  unfold Chunker.afterUse
  split
  · exact h.change hleave
  · exact h

/-- A kept tree with the hash of a used text is kept for what that text parses to. -/
theorem TreesSound.of_hash (h : TreesSound parser frontEndOf used trees)
    (hhash : ∀ path a b, used path a → used path b → contentHash a = contentHash b → a = b)
    {path code : String} {entry : Cache.Entry Tree} (hused : used path code)
    (hentry : trees.entries.lookup path = some entry) (hsame : entry.hash = contentHash code) :
    trees.capacity.isNumber = true ∧
      ∃ parsed, (frontEndOf path).parse? parser code path = some parsed ∧
        Chunker.KeptFrom (frontEndOf path) parsed entry.value := by
  obtain ⟨hnumber, other, parsed, hother, hotherHash, hparse, hkept⟩ := h path entry hentry
  obtain rfl : other = code := hhash path other code hother hused (hotherHash.symm.trans hsame)
  exact ⟨hnumber, parsed, hparse, hkept⟩

end TreesSound

namespace Chunker

/-- The tree that a front end makes of a text; one that is ill formed has none. -/
def parseSource? (parser : Parser) (frontEnd : FrontEnd) (source : SourceText) (path : String) :
    Option Tree :=
  match source with
  | .chars code => frontEnd.parse? parser code path
  | .illFormed => none

/-- The tree of a text where nothing has been kept and where the cache has a capacity. There is none
if that is no number. -/
def parsedWith (parser : Parser) (frontEnd : FrontEnd) (capacity : Bound) (source : SourceText)
    (path : String) : Option Tree :=
  if (capacity.fault? ">=" Bound.countType).isSome then none
  else parseSource? parser frontEnd source path

/-- A text is parsed as if nothing had been kept, but for the table of its tree, and what is kept
stays sound. -/
theorem parse_sound {parser : Parser} (now : Quantity) {frontEndOf : String → FrontEnd}
    {source : SourceText} {path : String} {trees : Cache Tree} {used : String → String → Prop}
    (hsound : TreesSound parser frontEndOf used trees) (hlifetime : trees.lifetime.isNumber = true)
    (hhash : ∀ path a b, used path a → used path b → contentHash a = contentHash b → a = b)
    (hused : ∀ code, source = .chars code → used path code) :
    Option.Rel (KeptFrom (frontEndOf path))
        (parsedWith parser (frontEndOf path) trees.capacity source path)
        (parse parser now (frontEndOf path) source path trees).1 ∧
      TreesSound parser frontEndOf used (parse parser now (frontEndOf path) source path trees).2 ∧
      (parse parser now (frontEndOf path) source path trees).2.clear = trees.clear := by
  cases source with
  | illFormed =>
      refine ⟨?_, hsound, rfl⟩
      rw [show parsedWith parser (frontEndOf path) trees.capacity .illFormed path = none from
        ite_self none]
      exact .none
  | chars code =>
      have hused := hused code rfl
      have hget : (trees.getFault? path).isSome = false := by
        rw [Cache.getFault?_eq_none hlifetime]
        rfl
      unfold parse parsedWith parseSource?
      simp only [hget, Bool.false_eq_true, if_false]
      cases hlookup : trees.get now path (contentHash code) with
      | mk found after =>
          cases found with
          | some tree =>
              obtain ⟨⟨entry, hentry, hsame, hvalue⟩, hentries, hclear⟩ :=
                Cache.get_eq_some hlookup
              obtain ⟨hnumber, parsed, hparse, hkept⟩ := hsound.of_hash hhash hused hentry hsame
              refine ⟨?_, ?_, hclear⟩
              · rw [Bound.isSome_fault?, hnumber, hparse]
                exact .some (hvalue ▸ hkept)
              · exact hsound.of_lookup hclear fun path entry hentry => hentries ▸ hentry
          | none =>
              obtain ⟨hcontains, hclear, hfewer⟩ := Cache.get_eq_none hlookup
              have hafter : TreesSound parser frontEndOf used after :=
                hsound.of_lookup hclear hfewer
              have hcapacity : after.capacity = trees.capacity :=
                (Cache.bounds_eq_of_clear_eq hclear).1
              have hfault := Cache.setFault?_of_not_contains hcontains
              rw [hcapacity] at hfault
              simp only
              rw [hfault]
              cases hparse : (frontEndOf path).parse? parser code path with
              | none =>
                  refine ⟨?_, hafter, hclear⟩
                  simp only [ite_self]
                  exact .none
              | some tree =>
                  simp only
                  rw [Bound.isSome_fault?]
                  cases hnumber : trees.capacity.isNumber with
                  | true =>
                      refine ⟨.some .bare, ?_, (Cache.clear_set _ _ _ _ _).trans hclear⟩
                      exact hafter.set now (hcapacity ▸ hnumber) hused hparse
                  | false => exact ⟨.none, hafter, hclear⟩

end Chunker

/-! ## Kept front ends -/

/-- Every kept front end is the one that would be made for a file with that key. -/
def ShelvesSound (pool : Pool FrontEnd) : Prop :=
  ∀ language path frontEnd,
    frontEnd ∈ pool.shelf (poolKey (FrontEnd.kindFor language) (some path)) →
      frontEnd = Chunker.newFrontEnd (FrontEnd.kindFor language) path

section ShelvesSound

variable {pool fewer : Pool FrontEnd}

/-- Fewer front ends are sound if more are. -/
theorem ShelvesSound.of_shelf (h : ShelvesSound pool)
    (hfewer : ∀ key frontEnd, frontEnd ∈ fewer.shelf key → frontEnd ∈ pool.shelf key) :
    ShelvesSound fewer :=
  fun language path frontEnd hmem => h language path frontEnd (hfewer _ frontEnd hmem)

/-- A new front end can be given back. -/
theorem ShelvesSound.release (h : ShelvesSound pool) (language path : String) :
    ShelvesSound (pool.release (poolKey (FrontEnd.kindFor language) (some path))
      (Chunker.newFrontEnd (FrontEnd.kindFor language) path)) := by
  intro other otherPath frontEnd hmem
  rcases Pool.mem_shelf_release hmem with hold | ⟨hkey, rfl⟩
  · exact h other otherPath frontEnd hold
  · exact (newFrontEnd_eq_of_poolKey_eq hkey).symm

end ShelvesSound

/-! ## One call -/

namespace Chunker

/-- The front end that would be made for a file. -/
def frontEndOf (c : Chunker) (path : String) : FrontEnd :=
  newFrontEnd (FrontEnd.kindFor (c.registry.detectPath path)) path

/-- The tree of a text where nothing has been kept. -/
def treeOf (parser : Parser) (c : Chunker) (source : SourceText) (path : String) : Option Tree :=
  parsedWith parser (c.frontEndOf path) c.trees.capacity source path

/-- A chunker differs from another in what it keeps only, and what it keeps can be exchanged. -/
structure Like (parser : Parser) (used : String → String → Prop) (new c : Chunker) : Prop where
  /-- Both agree when nothing is kept. -/
  clear_eq : c.clearCaches = new.clearCaches
  /-- Trees can be exchanged. -/
  trees_sound : TreesSound parser c.frontEndOf used c.trees
  /-- Front ends can be exchanged. -/
  shelves_sound : ShelvesSound c.pool

theorem clear_afterUse (leave : Tree → Tree) (path : String) (tree? : Option Tree)
    (trees : Cache Tree) : (afterUse leave path tree? trees).clear = trees.clear := by
  unfold afterUse
  split
  · exact Cache.clear_change _ _ _
  · rfl

/-- A call that parses a file is answered as if nothing had been kept, and leaves the chunker like
it was, provided that it does not ask a tree whether it has kept its table, and does nothing to it
but let it keep that. -/
theorem withTree_sound {parser : Parser} {used : String → String → Prop} {new c : Chunker}
    {β : Type} (hc : Like parser used new c) (hlifetime : c.trees.lifetime.isNumber = true)
    (hhash : ∀ path a b, used path a → used path b → contentHash a = contentHash b → a = b)
    (now : Quantity) {source : SourceText} {path : String}
    (hused : ∀ code, source = .chars code → used path code)
    (use : FrontEnd → Option Tree → β) (leave : FrontEnd → Tree → Tree)
    (huse : ∀ frontEnd tree kept, KeptFrom frontEnd tree kept →
      use frontEnd (some kept) = use frontEnd (some tree))
    (hleave : ∀ frontEnd tree kept, KeptFrom frontEnd tree kept →
      KeptFrom frontEnd tree (leave frontEnd kept)) :
    (c.withTree parser now source path use leave).1 =
        (match c.pool.releaseFault? with
          | some failure => .error failure
          | none => .ok (use (c.frontEndOf path) (c.treeOf parser source path))) ∧
      Like parser used new (c.withTree parser now source path use leave).2 := by
  have hkept : ∀ item, (c.pool.take (poolKey (FrontEnd.kindFor (c.registry.detectPath path))
      (some path))).1 = some item → item ∈ c.pool.shelf (poolKey (FrontEnd.kindFor
        (c.registry.detectPath path)) (some path)) := fun _ => Pool.mem_shelf_of_take
  have hrest : ∀ other item, item ∈ (c.pool.take (poolKey (FrontEnd.kindFor
      (c.registry.detectPath path)) (some path))).2.shelf other → item ∈ c.pool.shelf other :=
    fun _ _ => Pool.mem_shelf_take
  have hpoolClear := c.pool.clear_take
    (poolKey (FrontEnd.kindFor (c.registry.detectPath path)) (some path))
  obtain ⟨htree, htreesSound, htreesClear⟩ := parse_sound now hc.trees_sound hlifetime
    hhash hused
  cases htake : c.pool.take (poolKey (FrontEnd.kindFor (c.registry.detectPath path))
      (some path)) with
  | mk kept pool =>
      rw [htake] at hkept hrest hpoolClear
      have hfrontEnd : kept.getD (newFrontEnd (FrontEnd.kindFor (c.registry.detectPath path))
          path) = c.frontEndOf path := by
        cases kept with
        | none => rfl
        | some top => exact hc.shelves_sound _ _ top (hkept top rfl)
      have hpoolSound : ShelvesSound pool := hc.shelves_sound.of_shelf hrest
      have hfault : pool.releaseFault? = c.pool.releaseFault? := by
        unfold Pool.releaseFault?
        rw [Pool.capacity_eq_of_clear_eq hpoolClear]
      cases hparse : parse parser now (c.frontEndOf path) source path c.trees with
      | mk tree? trees =>
          rw [hparse] at htree htreesSound htreesClear
          replace htreesSound : TreesSound parser c.frontEndOf used trees := htreesSound
          have hsame : ∀ expected, Option.Rel (KeptFrom (c.frontEndOf path)) expected tree? →
              use (c.frontEndOf path) tree? = use (c.frontEndOf path) expected := by
            intro expected hrel
            cases hrel with
            | some hkept => exact huse _ _ _ hkept
            | none => rfl
          have hanswer := hsame (c.treeOf parser source path) htree
          have hlike : ∀ after : Pool FrontEnd, after.clear = pool.clear → ShelvesSound after →
              Like parser used new { c with
                trees := afterUse (leave (c.frontEndOf path)) path tree? trees
                pool := after } := by
            intro after hafter hsound
            refine ⟨?_, htreesSound.afterUse (hleave _) tree?, hsound⟩
            rw [← hc.clear_eq]
            unfold clearCaches
            rw [clear_afterUse, htreesClear, hafter, hpoolClear]
          unfold withTree
          simp only [htake, hfrontEnd, hparse, hfault]
          cases c.pool.releaseFault? with
          | some failure =>
              refine ⟨rfl, hlike _ rfl (hpoolSound.of_shelf fun _ _ hmem => ?_)⟩
              rw [Pool.shelf_withShelf] at hmem
              exact hmem
          | none =>
              exact ⟨congrArg Except.ok hanswer, hlike _ rfl (hpoolSound.release _ path)⟩

/-! ## Sessions -/

/-- A call of a session. -/
inductive Call where
  /-- The chunks of a text are asked for, with options or without. -/
  | chunk (source : SourceText) (path : String) (options : Option Options)
  /-- The imports and exports of a text are asked for. -/
  | analyze (source : SourceText) (path : String)
  /-- The tree of a file is dropped. -/
  | invalidate (path : String)
  /-- Everything that is kept is dropped. -/
  | clear
  deriving Repr

/-- What a call answers. -/
inductive Answer where
  /-- The chunks, or why there are none. -/
  | chunks (found : Except Failure (List Chunk))
  /-- The imports and exports, or why there are none. -/
  | interface (found : Except Failure Interface)
  /-- Nothing was asked for. -/
  | done

namespace Call

/-- The answer to a call at a time, and the chunker after it. -/
def run (parser : Parser) (now : Quantity) (c : Chunker) : Call → Answer × Chunker
  | chunk source path options =>
      let (found, after) := c.chunkCode parser now source path options
      (.chunks found, after)
  | analyze source path =>
      let (found, after) := c.analyze parser now source path
      (.interface found, after)
  | invalidate path => (.done, c.invalidate path)
  | clear => (.done, c.clearCaches)

/-- A call parses a text under a path. -/
def Uses : Call → String → String → Prop
  | chunk source path _, usedPath, usedCode => path = usedPath ∧ source = .chars usedCode
  | analyze source path, usedPath, usedCode => path = usedPath ∧ source = .chars usedCode
  | _, _, _ => False

/-- What is answered where nothing has been kept. -/
def answerOf (parser : Parser) (c : Chunker) : Call → Answer
  | chunk source path options =>
      .chunks (match c.pool.releaseFault? with
        | some failure => .error failure
        | none => c.chunksOf (c.frontEndOf path) (c.treeOf parser source path) source.text path
            (options.getD c.options))
  | analyze source path =>
      .interface (match c.pool.releaseFault? with
        | some failure => .error failure
        | none => .ok (interfaceOf (c.frontEndOf path) (c.treeOf parser source path)))
  | invalidate _ => .done
  | clear => .done

/-- What is answered where nothing has been kept depends on nothing that is kept. -/
theorem answerOf_clearCaches (parser : Parser) (c : Chunker) (call : Call) :
    call.answerOf parser c.clearCaches = call.answerOf parser c := by
  cases call with
  | chunk source path options => rfl
  | analyze source path => rfl
  | invalidate path => rfl
  | clear => rfl

/-- A call is answered as if nothing had been kept, and leaves the chunker like it was. -/
theorem run_sound {parser : Parser} {used : String → String → Prop} {new c : Chunker}
    (hc : Like parser used new c) (hlifetime : new.trees.lifetime.isNumber = true)
    (hhash : ∀ path a b, used path a → used path b → contentHash a = contentHash b → a = b)
    (now : Quantity) (call : Call) (hused : ∀ path code, call.Uses path code → used path code) :
    (call.run parser now c).1 = call.answerOf parser new ∧
      Like parser used new (call.run parser now c).2 := by
  have hcLifetime : c.trees.lifetime.isNumber = true := by
    have hsame : c.clearCaches.trees.lifetime = new.clearCaches.trees.lifetime := by
      rw [hc.clear_eq]
    rw [show c.trees.lifetime = new.trees.lifetime from hsame]
    exact hlifetime
  rw [← answerOf_clearCaches parser new, ← hc.clear_eq, answerOf_clearCaches]
  cases call with
  | chunk source path options =>
      obtain ⟨hfound, hafter⟩ := withTree_sound hc hcLifetime hhash now
        (fun code hcode => hused path code ⟨rfl, hcode⟩)
        (fun frontEnd tree? =>
          c.chunksOf frontEnd tree? source.text path (options.getD c.options))
        FrontEnd.keepTable
        (fun _ _ _ hkept => chunksOf_of_keptFrom c hkept source.text path _)
        fun _ _ _ hkept => hkept.keepTable
      refine ⟨?_, hafter⟩
      have hrun : (run parser now c (chunk source path options)).1 =
          .chunks ((c.withTree parser now source path (fun frontEnd tree? =>
            c.chunksOf frontEnd tree? source.text path (options.getD c.options))
              FrontEnd.keepTable).1.bind id) := rfl
      rw [hrun, hfound, answerOf]
      cases c.pool.releaseFault? with
      | some failure => rfl
      | none => rfl
  | analyze source path =>
      obtain ⟨hfound, hafter⟩ := withTree_sound hc hcLifetime hhash now
        (fun code hcode => hused path code ⟨rfl, hcode⟩) interfaceOf (fun _ tree => tree)
        (fun _ _ _ hkept => interfaceOf_of_keptFrom hkept) fun _ _ _ hkept => hkept
      refine ⟨?_, hafter⟩
      show Answer.interface (c.withTree parser now source path interfaceOf fun _ tree => tree).1 = _
      rw [hfound, answerOf]
  | invalidate path =>
      refine ⟨rfl, ?_⟩
      refine ⟨hc.clear_eq, ?_, hc.shelves_sound⟩
      exact hc.trees_sound.of_lookup rfl fun _ _ hentry => Cache.lookup_erase_of_eq_some hentry
  | clear =>
      refine ⟨rfl, ?_⟩
      refine ⟨hc.clear_eq, ?_, ?_⟩
      · intro path entry hentry
        exact absurd hentry (by simp [run, clearCaches, Cache.clear])
      · intro language path frontEnd hmem
        exact absurd hmem List.not_mem_nil

end Call

/-- The answers of a session, each call at a time of its own. -/
def answers (parser : Parser) : List (Quantity × Call) → Chunker → List Answer
  | [], _ => []
  | (now, call) :: rest, c =>
      let (answer, after) := call.run parser now c
      answer :: answers parser rest after

/-- Some call of the session parses a text under a path. -/
def Uses (session : List (Quantity × Call)) (path code : String) : Prop :=
  ∃ entry ∈ session, entry.2.Uses path code

/-- A chunker like a new one answers a session as a new one answers each of its calls. -/
theorem answers_eq_map_answerOf {parser : Parser} {used : String → String → Prop}
    {new c : Chunker} (hc : Like parser used new c)
    (hlifetime : new.trees.lifetime.isNumber = true)
    (hhash : ∀ path a b, used path a → used path b → contentHash a = contentHash b → a = b)
    {session : List (Quantity × Call)}
    (hused : ∀ path code, Uses session path code → used path code) :
    answers parser session c = session.map fun entry => entry.2.answerOf parser new := by
  induction session generalizing c with
  | nil => rfl
  | cons entry rest ih =>
      obtain ⟨now, call⟩ := entry
      obtain ⟨hanswer, hafter⟩ := Call.run_sound hc hlifetime hhash now
        call fun path code h => hused path code ⟨(now, call), List.mem_cons_self, h⟩
      have hrest := ih hafter fun path code ⟨entry, hentry, h⟩ =>
        hused path code ⟨entry, List.mem_cons_of_mem (now, call) hentry, h⟩
      show (call.run parser now c).1 :: answers parser rest (call.run parser now c).2 = _
      rw [hanswer, hrest]
      rfl

/-- A chunker that keeps nothing is like itself. -/
theorem like_self_of_empty {parser : Parser} {used : String → String → Prop} {c : Chunker}
    (htrees : c.trees.entries = []) (hshelves : c.pool.shelves = []) : Like parser used c c := by
  refine ⟨rfl, ?_, ?_⟩
  · intro path entry hentry
    rw [htrees] at hentry
    exact absurd hentry (by simp)
  · intro language path frontEnd hmem
    rw [Pool.shelf, hshelves] at hmem
    exact absurd hmem List.not_mem_nil

/-- A new chunker has the options it is made with, and keeps nothing. -/
theorem create_eq_ok {encoding : Encoding} {options : Options} {rules : List Rule} {made : Chunker}
    (h : create encoding options rules = .ok made) :
    made.trees = { capacity := options.treeCapacity, lifetime := options.treeLifetime } ∧
      made.pool = { capacity := options.poolSize } := by
  unfold create at h
  cases htokenizer : Tokenizer.ofName encoding options.tokenizer with
  | error failure =>
      rw [htokenizer] at h
      exact absurd h (by simp [bind, Except.bind])
  | ok tokenizer =>
      rw [htokenizer] at h
      obtain rfl := Except.ok.inj h
      exact ⟨rfl, rfl⟩

/-- A new chunker has the options it is made with and the languages known from the start. -/
theorem create_options {encoding : Encoding} {options : Options} {rules : List Rule}
    {made : Chunker} (h : create encoding options rules = .ok made) :
    made.options = options ∧ made.registry = .standard := by
  unfold create at h
  cases htokenizer : Tokenizer.ofName encoding options.tokenizer with
  | error failure =>
      rw [htokenizer] at h
      exact absurd h (by simp [bind, Except.bind])
  | ok tokenizer =>
      rw [htokenizer] at h
      obtain rfl := Except.ok.inj h
      exact ⟨rfl, rfl⟩

/-- Every answer of a session is the answer of a new chunker with the same options to that call
alone, whenever it is asked. Ages have to compare with the lifetime of a tree, so that is a number
as the options promise; the capacities need not be. -/
theorem answers_eq_answers_of_new (parser : Parser) (encoding : Encoding) (options : Options)
    (rules : List Rule) (registry : Registry) (made : Chunker) (session : List (Quantity × Call))
    (reading : Quantity) (hmade : create encoding options rules = .ok made)
    (hlifetime : options.treeLifetime.isNumber = true)
    (hhash : ∀ path a b, Uses session path a → Uses session path b →
      contentHash a = contentHash b → a = b) :
    answers parser session { made with registry } =
      session.map fun entry => (entry.2.run parser reading { made with registry }).1 := by
  obtain ⟨htrees, hpool⟩ := create_eq_ok hmade
  have hnew : Like parser (Uses session) { made with registry } { made with registry } := by
    apply like_self_of_empty
    · show made.trees.entries = []
      rw [htrees]
    · show made.pool.shelves = []
      rw [hpool]
  have hnumber : made.trees.lifetime.isNumber = true := by
    rw [htrees]
    exact hlifetime
  rw [answers_eq_map_answerOf hnew hnumber hhash fun _ _ h => h]
  apply List.map_congr_left
  intro entry hentry
  exact (Call.run_sound hnew hnumber hhash reading entry.2
    fun path code huses => ⟨entry, hentry, huses⟩).1.symm

/-- A script that exports its function under another name. -/
def renamedSource : String := "function f() {}\nexport \x7b f as g \x7d;"

/-- What it parses to. -/
def renamedProgram : Node :=
  .mk "program" true "" 0 34
    [.mk "function_declaration" true "" 0 15 [.mk "identifier" true "name" 9 10 []],
      .mk "export_statement" true "" 16 34
        [.mk "export_clause" true "" 23 33
          [.mk "export_specifier" true "" 25 31
            [.mk "identifier" true "name" 25 26 [], .mk "identifier" true "alias" 30 31 []]]]]

/-- That script is parsed, other scripts are programs without declarations, and nothing else is
parsed. -/
def renamedParser : Parser := fun grammar text =>
  if grammar == "typescript" then
    some (if text == renamedSource then renamedProgram else .mk "program" true "" 0 0 [])
  else none

/-- A file is asked about when nothing has been kept, with its tree kept, with the table of the tree
kept, with the tree expired, with a text that is ill formed, and with another text. A file that
fails to parse comes last. -/
def editSession : List (Quantity × Call) :=
  [(.whole 0, .analyze renamedSource "a.ts"), (.whole 1, .chunk renamedSource "a.ts" none),
    (.whole 2, .chunk renamedSource "a.ts" (some { mergeSmall := false })),
    (.whole 500, .chunk renamedSource "a.ts" none), (.whole 501, .chunk .illFormed "a.ts" none),
    (.whole 502, .chunk "g()" "a.ts" none), (.whole 503, .invalidate "a.ts"),
    (.whole 504, .analyze "x = 1" "b.py")]

theorem answers_eq_answers_of_new_edit :
    ∃ made, create .unavailable {} Rule.all = .ok made ∧
      ({} : Options).treeLifetime.isNumber = true ∧
      (∀ path a b, Uses editSession path a → Uses editSession path b →
        contentHash a = contentHash b → a = b) ∧
      answers renamedParser editSession { made with registry := .standard } =
        editSession.map (fun entry =>
          (entry.2.run renamedParser (.whole 0) { made with registry := .standard }).1) ∧
      (made.chunksOf .script (made.treeOf renamedParser renamedSource "a.ts") renamedSource "a.ts"
        {}).toOption.map (·.map fun chunk => (chunk.name, chunk.exportName)) =
          some [("f", some "g")] := by
  have huses : ∀ path code, Uses editSession path code →
      code ∈ [renamedSource, "g()", "x = 1"] := by
    intro path code h
    simp only [Uses, editSession, List.mem_cons, List.not_mem_nil, or_false, exists_eq_or_imp,
      exists_eq_left, Call.Uses, SourceText.chars.injEq, reduceCtorEq, and_false, false_or] at h
    rcases h with ⟨_, rfl⟩ | ⟨_, rfl⟩ | ⟨_, rfl⟩ | ⟨_, rfl⟩ | ⟨_, rfl⟩ | ⟨_, rfl⟩ <;> simp
  have hdifferent : ([renamedSource, "g()", "x = 1"].map contentHash).Nodup := by
    decide +kernel
  have hhash : ∀ path a b, Uses editSession path a → Uses editSession path b →
      contentHash a = contentHash b → a = b := fun path a b ha hb hsame =>
    List.inj_on_of_nodup_map hdifferent (huses path a ha) (huses path b hb) hsame
  refine ⟨_, rfl, rfl, hhash, answers_eq_answers_of_new renamedParser .unavailable {} Rule.all
    .standard _ editSession (.whole 0) rfl rfl hhash, ?_⟩
  decide +kernel

end Chunker

end ChunkGraph
