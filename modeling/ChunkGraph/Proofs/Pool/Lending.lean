import ChunkGraph.Proofs.Chunker.PoolKey
import ChunkGraph.Proofs.Pool.Operations

/-!
# Lending front ends

Front ends are lent and given back in any order, each once for every time it was
lent and for the kind and path it was lent for. Then nobody is handed what
someone else still has: every front end that has been made is on one shelf, or
is lent once, or has been dropped.

A front end on a shelf was made for some kind and path with that key, not for
the ones it is asked for next. That makes no difference for the three kinds that
there are. A text that is no kind of front end may be a key all the same; whoever
asks for it gets what is on that shelf.

## Main definitions

* `Desk` — a pool, the front ends that have been made and those that are lent.
* `Desk.get`, `Desk.release`, `Desk.clear` — lending, giving back and dropping.
* `Desk.Orderly` — only what is lent is given back.
* `Desk.Sound` — what every step keeps.
* `Desk.Lends` — what a desk promises whoever asks it.

## Main results

* `Desk.Sound.get`, `Desk.Sound.release`, `Desk.Sound.clear` — what each step keeps.
* `Desk.lends_after` — what holds after an orderly sequence of steps.
-/

namespace ChunkGraph

/-! ## A desk -/

/-- A front end that has been made, told from all others by its number. -/
structure Instance where
  /-- How many had been made before. -/
  serial : Nat
  /-- What was made. -/
  frontEnd : FrontEnd
  deriving DecidableEq

/-- A front end that is lent. -/
structure Loan where
  /-- The kind it was asked for. -/
  kind : String
  /-- The path it was asked for. -/
  path : Option String
  /-- What was lent. -/
  item : Instance
  deriving DecidableEq

/-- The key under which a front end was lent. -/
def Loan.key (loan : Loan) : String := poolKey loan.kind loan.path

/-- A pool that front ends are lent from. -/
structure Desk where
  /-- The pool. -/
  pool : Pool Instance
  /-- How many front ends have been made. -/
  made : Nat := 0
  /-- What is lent. -/
  loans : List Loan := []

namespace Desk

/-- A desk that has room for some front ends of each key, and has made none yet. -/
def new (size : Nat) : Desk := { pool := { capacity := .whole size } }

/-- The front end is lent. -/
def lend (desk : Desk) (kind : String) (path : Option String) (item : Instance) : Desk :=
  { desk with loans := ⟨kind, path, item⟩ :: desk.loans }

/-- A front end of a kind for a path is asked for. If the pool has none it is made. -/
def get (desk : Desk) (kind : String) (path : Option String) : Except Failure Instance × Desk :=
  let taken := desk.pool.take (poolKey kind path)
  match taken.1, FrontEnd.create kind path with
  | some item, _ => (.ok item, { desk with pool := taken.2 }.lend kind path item)
  | none, .ok frontEnd =>
      (.ok ⟨desk.made, frontEnd⟩,
        { desk with pool := taken.2, made := desk.made + 1 }.lend kind path ⟨desk.made, frontEnd⟩)
  | none, .error failure => (.error failure, { desk with pool := taken.2 })

/-- A front end that is lent is given back. -/
def release (desk : Desk) (loan : Loan) : Desk :=
  { desk with
    pool := desk.pool.release loan.key loan.item
    loans := desk.loans.erase loan }

/-- What the pool keeps is dropped. -/
def clear (desk : Desk) : Desk := { desk with pool := desk.pool.clear }

/-- What is asked for is on the shelf, or it is made, or it cannot be made. -/
theorem get_cases (desk : Desk) (kind : String) (path : Option String) :
    (∃ item, (desk.pool.take (poolKey kind path)).1 = some item ∧
      desk.get kind path = (.ok item,
        { desk with pool := (desk.pool.take (poolKey kind path)).2 }.lend kind path item)) ∨
    ((desk.pool.take (poolKey kind path)).1 = none ∧ ∃ frontEnd,
      FrontEnd.create kind path = .ok frontEnd ∧
      desk.get kind path = (.ok ⟨desk.made, frontEnd⟩,
        { desk with
          pool := (desk.pool.take (poolKey kind path)).2
          made := desk.made + 1 }.lend kind path ⟨desk.made, frontEnd⟩)) ∨
    ((desk.pool.take (poolKey kind path)).1 = none ∧ ∃ failure,
      FrontEnd.create kind path = .error failure ∧
      desk.get kind path = (.error failure,
        { desk with pool := (desk.pool.take (poolKey kind path)).2 })) := by
  cases hkept : (desk.pool.take (poolKey kind path)).1 with
  | some item => exact Or.inl ⟨item, rfl, by simp only [get, hkept]⟩
  | none =>
      cases hcreate : FrontEnd.create kind path with
      | ok frontEnd =>
          exact Or.inr (Or.inl ⟨rfl, frontEnd, rfl, by simp only [get, hkept, hcreate]⟩)
      | error failure =>
          exact Or.inr (Or.inr ⟨rfl, failure, rfl, by simp only [get, hkept, hcreate]⟩)

/-! ## What every step keeps -/

/-- The front end was made for some kind and path with the key. -/
def MadeFor (key : String) (frontEnd : FrontEnd) : Prop :=
  ∃ kind path, poolKey kind path = key ∧ FrontEnd.create kind path = .ok frontEnd

/-- How often a front end is kept or lent. -/
def held (pool : Pool Instance) (loans : List Loan) (serial : Nat) : Nat :=
  pool.kept.countP (·.serial == serial) + loans.countP (·.item.serial == serial)

section Held

variable (pool : Pool Instance) (loans : List Loan) (serial : Nat)

/-- What is lent is lent once more. -/
theorem held_cons (loan : Loan) : held pool (loan :: loans) serial =
    held pool loans serial + if loan.item.serial = serial then 1 else 0 := by
  unfold held
  rw [List.countP_cons, Nat.add_assoc]
  simp only [beq_iff_eq]

/-- What has been taken is kept no longer. -/
theorem held_take (key : String) :
    held (pool.take key).2 loans serial + (pool.take key).1.toList.countP (·.serial == serial) =
      held pool loans serial := by
  have hkept := pool.countP_kept_take key (·.serial == serial)
  unfold held
  omega

/-- What is given back is lent no longer. -/
theorem held_release_le {loan : Loan} (h : loan ∈ loans) :
    held (pool.release loan.key loan.item) (loans.erase loan) serial ≤ held pool loans serial := by
  have hkept := pool.countP_kept_release_le loan.key (·.serial == serial) loan.item
  have hlent : loans.countP (·.item.serial == serial) =
      (loans.erase loan).countP (·.item.serial == serial) +
        if (loan.item.serial == serial) = true then 1 else 0 := by
    rw [(List.perm_cons_erase h).countP_eq, List.countP_cons]
  rw [List.countP_singleton] at hkept
  unfold held
  omega

end Held

/-- What every step keeps. -/
structure Sound (size : Nat) (desk : Desk) : Prop where
  /-- The capacity does not change. -/
  capacity : desk.pool.capacity = .whole size
  /-- No shelf is overfull. -/
  bounded : ∀ key, (desk.pool.shelf key).length ≤ size
  /-- What has been made is in one place at most, and nothing else is anywhere. -/
  unique : ∀ serial, held desk.pool desk.loans serial ≤ if serial < desk.made then 1 else 0
  /-- What is on a shelf was made for its key. -/
  kept_fits : ∀ key, ∀ item ∈ desk.pool.shelf key, MadeFor key item.frontEnd
  /-- What is lent was made for the key it was lent under. -/
  lent_fits : ∀ loan ∈ desk.loans, MadeFor loan.key loan.item.frontEnd

theorem sound_new (size : Nat) : Sound size (new size) where
  capacity := rfl
  bounded _ := Nat.zero_le _
  unique _ := Nat.zero_le _
  kept_fits _ _ h := absurd h List.not_mem_nil
  lent_fits _ h := absurd h List.not_mem_nil

namespace Sound

variable {size : Nat} {desk : Desk}

/-- What is left after something has been asked for. -/
theorem take (h : Sound size desk) (key : String) :
    Sound size { desk with pool := (desk.pool.take key).2 } where
  capacity := (Pool.capacity_eq_of_clear_eq (desk.pool.clear_take key)).trans h.capacity
  bounded other := by
    show ((desk.pool.take key).2.shelf other).length ≤ size
    rw [Pool.shelf_take]
    split
    · rw [List.length_tail]
      exact Nat.le_trans (Nat.sub_le _ _) (h.bounded key)
    · exact h.bounded other
  unique serial := by
    have htake := held_take desk.pool desk.loans serial key
    exact Nat.le_trans (htake ▸ Nat.le_add_right _ _) (h.unique serial)
  kept_fits other item hitem := h.kept_fits other item (Pool.mem_shelf_take hitem)
  lent_fits := h.lent_fits

/-- What is taken from the pool can be lent. -/
theorem lend_kept (h : Sound size desk) {kind : String} {path : Option String} {item : Instance}
    (hitem : (desk.pool.take (poolKey kind path)).1 = some item) :
    Sound size
      ({ desk with pool := (desk.pool.take (poolKey kind path)).2 }.lend kind path item) where
  capacity := (h.take _).capacity
  bounded := (h.take _).bounded
  unique serial := by
    have htake := held_take desk.pool desk.loans serial (poolKey kind path)
    have hitem' : (some item).toList.countP (·.serial == serial) =
        if item.serial = serial then 1 else 0 := by
      rw [Option.toList_some, List.countP_singleton]
      simp only [beq_iff_eq]
    rw [hitem, hitem', ← held_cons _ _ _ ⟨kind, path, item⟩] at htake
    exact Nat.le_trans (Nat.le_of_eq htake) (h.unique serial)
  kept_fits := (h.take _).kept_fits
  lent_fits := List.forall_mem_cons.mpr
    ⟨h.kept_fits _ item (Pool.mem_shelf_of_take hitem), h.lent_fits⟩

/-- What is made can be lent. -/
theorem lend_made (h : Sound size desk) {kind : String} {path : Option String}
    {frontEnd : FrontEnd} (hcreate : FrontEnd.create kind path = .ok frontEnd) :
    Sound size ({ desk with
      pool := (desk.pool.take (poolKey kind path)).2
      made := desk.made + 1 }.lend kind path ⟨desk.made, frontEnd⟩) where
  capacity := (h.take _).capacity
  bounded := (h.take _).bounded
  unique serial := by
    have hold : held (desk.pool.take (poolKey kind path)).2 desk.loans serial ≤
        if serial < desk.made then 1 else 0 := (h.take _).unique serial
    refine Nat.le_trans (Nat.le_of_eq (held_cons _ _ _ _)) ?_
    show held (desk.pool.take (poolKey kind path)).2 desk.loans serial +
      (if desk.made = serial then 1 else 0) ≤ if serial < desk.made + 1 then 1 else 0
    split at hold <;> split <;> split <;> omega
  kept_fits := (h.take _).kept_fits
  lent_fits := List.forall_mem_cons.mpr ⟨⟨kind, path, rfl, hcreate⟩, h.lent_fits⟩

/-- Lending keeps a desk sound. -/
theorem get (h : Sound size desk) (kind : String) (path : Option String) :
    Sound size (desk.get kind path).2 := by
  rcases get_cases desk kind path with ⟨item, hitem, hget⟩ | ⟨_, frontEnd, hcreate, hget⟩ |
    ⟨_, failure, _, hget⟩
  · rw [hget]
    exact h.lend_kept hitem
  · rw [hget]
    exact h.lend_made hcreate
  · rw [hget]
    exact h.take _

/-- Giving back what is lent keeps a desk sound. -/
theorem release (h : Sound size desk) {loan : Loan} (hloan : loan ∈ desk.loans) :
    Sound size (desk.release loan) where
  capacity := h.capacity
  bounded other := by
    show ((desk.pool.release loan.key loan.item).shelf other).length ≤ size
    rw [Pool.shelf_release]
    split
    · split
      · rename_i hroom
        rw [h.capacity, Number.Quantity.ofNat, Bound.leavesRoom_whole, decide_eq_true_eq] at hroom
        rw [List.length_cons]
        omega
      · exact h.bounded loan.key
    · exact h.bounded other
  unique serial := by
    exact Nat.le_trans (held_release_le desk.pool desk.loans serial hloan) (h.unique serial)
  kept_fits other item hitem := by
    rcases Pool.mem_shelf_release hitem with hold | ⟨rfl, rfl⟩
    · exact h.kept_fits other item hold
    · exact h.lent_fits loan hloan
  lent_fits other hother := h.lent_fits other (List.mem_of_mem_erase hother)

/-- Dropping what is kept keeps a desk sound. -/
theorem clear (h : Sound size desk) : Sound size desk.clear where
  capacity := h.capacity
  bounded _ := Nat.zero_le _
  unique serial := by
    have hnone : held desk.pool.clear desk.loans serial =
        desk.loans.countP (·.item.serial == serial) := Nat.zero_add _
    refine Nat.le_trans (hnone ▸ Nat.le_add_left _ _) (h.unique serial)
  kept_fits _ _ hitem := absurd hitem List.not_mem_nil
  lent_fits := h.lent_fits

end Sound

/-! ## Sequences of steps -/

/-- A step at a desk. -/
inductive Step where
  /-- A front end is asked for. -/
  | get (kind : String) (path : Option String)
  /-- A front end is given back. -/
  | release (loan : Loan)
  /-- What is kept is dropped. -/
  | clear

/-- The desk after a step. -/
def run (desk : Desk) : Step → Desk
  | .get kind path => (desk.get kind path).2
  | .release loan => desk.release loan
  | .clear => desk.clear

/-- The desk after a sequence of steps. -/
def after (desk : Desk) (steps : List Step) : Desk := steps.foldl run desk

/-- Only what is lent is given back. -/
def Orderly (desk : Desk) : List Step → Prop
  | [] => True
  | .release loan :: steps => loan ∈ desk.loans ∧ (desk.release loan).Orderly steps
  | step :: steps => (desk.run step).Orderly steps

instance decidableOrderly : (desk : Desk) → (steps : List Step) → Decidable (desk.Orderly steps)
  | _, [] => isTrue trivial
  | desk, .release loan :: steps =>
      have := decidableOrderly (desk.release loan) steps
      inferInstanceAs (Decidable (loan ∈ desk.loans ∧ (desk.release loan).Orderly steps))
  | desk, .get kind path :: steps => decidableOrderly (desk.get kind path).2 steps
  | desk, .clear :: steps => decidableOrderly desk.clear steps

/-- A sequence of orderly steps keeps a desk sound. -/
theorem Sound.after {size : Nat} {desk : Desk} (h : Sound size desk) {steps : List Step}
    (horderly : desk.Orderly steps) : Sound size (desk.after steps) := by
  induction steps generalizing desk with
  | nil => exact h
  | cons step steps ih =>
      cases step with
      | get kind path => exact ih (h.get kind path) horderly
      | release loan => exact ih (h.release horderly.1) horderly.2
      | clear => exact ih h.clear horderly

/-! ## What a desk promises -/

/-- What a desk promises whoever asks it. -/
structure Lends (size : Nat) (desk : Desk) : Prop where
  /-- No more than `size` front ends are kept for a key. -/
  bounded : ∀ key, (desk.pool.shelf key).length ≤ size
  /-- Nobody is handed what is lent. -/
  exclusive : ∀ kind path item, (desk.get kind path).1 = .ok item →
    ∀ loan ∈ desk.loans, loan.item.serial ≠ item.serial
  /-- Whoever asks for a kind that there is gets a front end of that kind, and a generic one is
  bound to the language of the path. -/
  fitting : ∀ kind ∈ FrontEnd.kinds, ∀ path, ∃ item, (desk.get kind path).1 = .ok item ∧
    item.frontEnd.kind = kind ∧ (kind = FrontEnd.genericKind →
      item.frontEnd.language? = some (FrontEnd.languageFor path))
  /-- What is given back while there is room is what the next one with that key gets. -/
  returned : ∀ loan ∈ desk.loans, (desk.pool.shelf loan.key).length < size →
    ∀ kind path, poolKey kind path = loan.key →
      ((desk.release loan).get kind path).1 = .ok loan.item

/-- What is handed out is on the shelf, or is new. -/
theorem get_eq_ok {desk : Desk} {kind : String} {path : Option String} {item : Instance}
    (h : (desk.get kind path).1 = .ok item) :
    (desk.pool.take (poolKey kind path)).1 = some item ∨
      item.serial = desk.made ∧ FrontEnd.create kind path = .ok item.frontEnd := by
  rcases get_cases desk kind path with ⟨kept, hkept, hget⟩ | ⟨_, frontEnd, hcreate, hget⟩ |
    ⟨_, failure, _, hget⟩
  · rw [hget] at h
    obtain rfl := Except.ok.inj h
    exact Or.inl hkept
  · rw [hget] at h
    obtain rfl := Except.ok.inj h
    exact Or.inr ⟨rfl, hcreate⟩
  · rw [hget] at h
    exact absurd h (by simp)

theorem Sound.exclusive {size : Nat} {desk : Desk} (h : Sound size desk) {kind : String}
    {path : Option String} {item : Instance} (hget : (desk.get kind path).1 = .ok item)
    {loan : Loan} (hloan : loan ∈ desk.loans) : loan.item.serial ≠ item.serial := by
  intro hsame
  have hlent : 0 < desk.loans.countP (·.item.serial == item.serial) :=
    List.countP_pos_iff.mpr ⟨loan, hloan, by simpa using hsame⟩
  have hheld := h.unique item.serial
  unfold held at hheld
  rcases get_eq_ok hget with hkept | ⟨hnew, _⟩
  · have hshelf : 0 < (desk.pool.shelf (poolKey kind path)).countP
        (·.serial == item.serial) :=
      List.countP_pos_iff.mpr ⟨item, Pool.mem_shelf_of_take hkept, beq_self_eq_true _⟩
    have hle := desk.pool.countP_shelf_le (poolKey kind path) (·.serial == item.serial)
    split at hheld <;> omega
  · rw [if_neg (by omega)] at hheld
    omega

theorem Sound.fitting {size : Nat} {desk : Desk} (h : Sound size desk) {kind : String}
    (hkind : kind ∈ FrontEnd.kinds) (path : Option String) :
    ∃ item, (desk.get kind path).1 = .ok item ∧ item.frontEnd.kind = kind ∧
      (kind = FrontEnd.genericKind →
        item.frontEnd.language? = some (FrontEnd.languageFor path)) := by
  obtain ⟨frontEnd, hcreate, hfits⟩ := exists_create_of_mem_kinds hkind path
  rcases get_cases desk kind path with ⟨item, hkept, hget⟩ | ⟨_, made, hmade, hget⟩ |
    ⟨_, failure, hfailure, _⟩
  · -- What is on the shelf was made for another kind and path, but with the same key.
    obtain ⟨other, otherPath, hkey, hother⟩ := h.kept_fits _ item (Pool.mem_shelf_of_take hkept)
    have hsame := hcreate.symm.trans (create_eq_of_poolKey_eq hkind hkey.symm hother)
    rw [Except.ok.inj hsame] at hfits
    rw [hget]
    exact ⟨item, rfl, hfits⟩
  · rw [hcreate] at hmade
    obtain rfl := Except.ok.inj hmade
    rw [hget]
    exact ⟨_, rfl, hfits⟩
  · rw [hcreate] at hfailure
    exact absurd hfailure (by simp)

theorem Sound.returned {size : Nat} {desk : Desk} (h : Sound size desk) {loan : Loan}
    (hroom : (desk.pool.shelf loan.key).length < size) {kind : String} {path : Option String}
    (hkey : poolKey kind path = loan.key) :
    ((desk.release loan).get kind path).1 = .ok loan.item := by
  have hleaves : desk.pool.capacity.leavesRoom (.ofNat (desk.pool.shelf loan.key).length) =
      true := by
    rw [h.capacity, Number.Quantity.ofNat, Bound.leavesRoom_whole]
    exact decide_eq_true (Int.ofNat_lt.mpr hroom)
  have hshelf : (desk.release loan).pool.shelf (poolKey kind path) =
      loan.item :: desk.pool.shelf loan.key := by
    show (desk.pool.release loan.key loan.item).shelf (poolKey kind path) = _
    rw [hkey, Pool.shelf_release, if_pos rfl, if_pos hleaves]
  have htake : ((desk.release loan).pool.take (poolKey kind path)).1 = some loan.item := by
    rw [Pool.take_fst, hshelf]
    rfl
  rcases get_cases (desk.release loan) kind path with ⟨item, hkept, hget⟩ | ⟨hnone, _⟩ |
    ⟨hnone, _⟩
  · rw [htake] at hkept
    obtain rfl := Option.some.inj hkept
    rw [hget]
  · rw [htake] at hnone
    exact absurd hnone (by simp)
  · rw [htake] at hnone
    exact absurd hnone (by simp)

/-- After every orderly sequence of steps a desk keeps its promises. -/
theorem lends_after (size : Nat) (steps : List Step) (h : (new size).Orderly steps) :
    Lends size ((new size).after steps) := by
  have hsound := (sound_new size).after h
  exact ⟨hsound.bounded, fun _ _ _ hget _ hloan => hsound.exclusive hget hloan,
    fun _ hkind path => hsound.fitting hkind path,
    fun _ _ hroom _ _ hkey => hsound.returned hroom hkey⟩

/-- Two files of one language are read at the same time. What is given back for the first goes to
a third, and the second is given back after everything has been dropped. -/
def threeFiles : List Step :=
  [.get "treesitter" (some "a.py"), .get "treesitter" (some "lib/b.PY"),
    .release ⟨"treesitter", some "a.py", ⟨0, .generic "python"⟩⟩, .get "treesitter" (some "c.py"),
    .clear, .release ⟨"treesitter", some "lib/b.PY", ⟨1, .generic "python"⟩⟩]

theorem lends_after_threeFiles :
    (new 1).Orderly threeFiles ∧ Lends 1 ((new 1).after threeFiles) :=
  ⟨by decide +kernel, lends_after 1 threeFiles (by decide +kernel)⟩

/-- One file is read and its front end given back. -/
def oneFile : List Step :=
  [.get "treesitter" (some "a.py"),
    .release ⟨"treesitter", some "a.py", ⟨0, .generic "python"⟩⟩]

/-- The empty path is no path, though it has a language. And a text that is no kind of front end is
served when it is the key of one that is kept. -/
theorem lends_for_empty_path_and_key :
    (∃ item, ((new 5).get "treesitter" (some "")).1 = .ok item ∧
      item.frontEnd.language? = some "unknown" ∧ detectLanguage "" = "typescript") ∧
    (new 5).Orderly oneFile ∧
    ∃ item, (((new 5).after oneFile).get "treesitter:py" none).1 = .ok item ∧
      item.frontEnd.kind = "treesitter" :=
  ⟨⟨_, rfl, rfl, by decide⟩, by decide +kernel, _, rfl, rfl⟩

end Desk

end ChunkGraph
