import ChunkGraph.Data.Inline
import ChunkGraph.Failure
import ChunkGraph.Number.Quantity

/-!
# Bounds

Settings bound counts, sizes and ages. A bound is kept as it was given, and what
was given need not be an integer: it may have a fraction, it may be infinite,
and a truth value counts as zero or one. Nothing compares with an undefined
number, so a bound that is one is never reached and admits nothing. Data that
are no numbers cannot be compared at all: the comparisons are false of them, and
`Bound.fault?` tells what is wrong.

## Main definitions

* `Bound` — a bound as it was given.
* `Bound.admits`, `Bound.leavesRoom`, `Bound.reachedBy`, `Bound.passedBy` — the
  four comparisons of a quantity with a bound.
* `Bound.fault?` — why a bound cannot be compared, if it cannot.
* `Bound.count` — a bound that says how often something is done.

## Main statements

* `Bound.admits_whole`, … — for bounds that are integers, the comparisons are
  those of the integers.
* `Bound.reachedBy_mono` — a bound that is reached stays reached.
* `Bound.admits_mono` — what is admitted is so when it is smaller.
-/

namespace ChunkGraph

open Data Number

/-- A datum as a quantity. -/
def Data.Value.quantity? : Value → Option Quantity
  | .int n => some (.whole n)
  | .bool b => some (.whole (if b then 1 else 0))
  | .float x => some (.float x)
  | _ => none

/-- A bound, as it was given. -/
structure Bound where
  /-- What was given. -/
  given : Value
  deriving Repr, Inhabited

namespace Bound

/-- An integer as a bound. -/
def whole (n : Int) : Bound := ⟨.int n⟩

instance (n : Nat) : OfNat Bound n := ⟨whole n⟩

/-- The order of a quantity and a bound, if they have one. -/
def compare? (q : Quantity) (b : Bound) : Option Ordering := b.given.quantity?.bind q.compare?

/-- The quantity is at most the bound. -/
def admits (b : Bound) (q : Quantity) : Bool :=
  compare? q b == some .lt || compare? q b == some .eq

/-- The quantity is below the bound. -/
def leavesRoom (b : Bound) (q : Quantity) : Bool := compare? q b == some .lt

/-- The quantity is at least the bound. -/
def reachedBy (b : Bound) (q : Quantity) : Bool :=
  compare? q b == some .gt || compare? q b == some .eq

/-- The quantity is above the bound. -/
def passedBy (b : Bound) (q : Quantity) : Bool := compare? q b == some .gt

/-- The bound can be compared with quantities. -/
def isNumber (b : Bound) : Bool := b.given.quantity?.isSome

/-- Why quantities of a type cannot be compared with the bound, if they cannot. -/
def fault? (relation type : String) (b : Bound) : Option Failure :=
  if b.isNumber then none else some (.misuse (.unordered relation type b.given.typeWord))

/-- Why the bound cannot be compared with zero, if it cannot; the bound stands first. -/
def signFault? (relation : String) (b : Bound) : Option Failure :=
  if b.isNumber then none else some (.misuse (.unordered relation b.given.typeWord "int"))

/-- How often something is done at most; only an integer or a truth value can say. -/
def count (b : Bound) : Except Failure Nat :=
  match b.given with
  | .int n => .ok n.toNat
  | .bool yes => .ok (if yes then 1 else 0)
  | value => .error (.misuse (.noCount value.typeWord))

/-- The type of a count in words. -/
def countType : String := Value.typeWord (.int 0)

theorem compare?_whole (n m : Int) : compare? (.whole n) (whole m) = some (Ord.compare n m) :=
  Quantity.compare?_whole n m

/-- The place of a quantity is at or below that of a bound when it is not above it. -/
private theorem atMost_eq_decide (a b : Int) :
    (some (Ord.compare a b) == some Ordering.lt || some (Ord.compare a b) == some Ordering.eq) =
      decide (a ≤ b) := by
  rcases Int.lt_trichotomy a b with h | h | h
  · simp [Int.compare_eq_lt.2 h, Int.le_of_lt h]
  · simp [h]
  · simp [Int.compare_eq_gt.2 h, h]

/-- The place of a quantity is at or above that of a bound when it is not below it. -/
private theorem atLeast_eq_decide (a b : Int) :
    (some (Ord.compare a b) == some Ordering.gt || some (Ord.compare a b) == some Ordering.eq) =
      decide (b ≤ a) := by
  rcases Int.lt_trichotomy a b with h | h | h
  · simp [Int.compare_eq_lt.2 h, h]
  · simp [h]
  · simp [Int.compare_eq_gt.2 h, Int.le_of_lt h]

@[simp] theorem admits_whole (n m : Int) : (whole m).admits (.whole n) = decide (n ≤ m) := by
  unfold admits
  rw [compare?_whole]
  exact atMost_eq_decide n m

@[simp] theorem leavesRoom_whole (n m : Int) :
    (whole m).leavesRoom (.whole n) = decide (n < m) := by
  unfold leavesRoom
  rw [compare?_whole]
  rcases Int.lt_trichotomy n m with h | h | h
  · simp [Int.compare_eq_lt.2 h, h]
  · simp [h]
  · simp [Int.compare_eq_gt.2 h, Int.le_of_lt h]

@[simp] theorem reachedBy_whole (n m : Int) : (whole m).reachedBy (.whole n) = decide (m ≤ n) := by
  unfold reachedBy
  rw [compare?_whole]
  exact atLeast_eq_decide n m

@[simp] theorem passedBy_whole (n m : Int) : (whole m).passedBy (.whole n) = decide (m < n) := by
  unfold passedBy
  rw [compare?_whole]
  rcases Int.lt_trichotomy n m with h | h | h
  · simp [Int.compare_eq_lt.2 h, Int.le_of_lt h]
  · simp [h]
  · simp [Int.compare_eq_gt.2 h, h]

/-- A bound that an integer reaches is reached by every greater one. -/
theorem reachedBy_mono {b : Bound} {n m : Int} (hle : n ≤ m)
    (h : b.reachedBy (.whole n) = true) : b.reachedBy (.whole m) = true := by
  unfold reachedBy compare? at h ⊢
  cases hgiven : b.given.quantity? with
  | none =>
      rw [hgiven] at h
      exact absurd h (by simp)
  | some q =>
      rw [hgiven] at h
      simp only [Option.bind_some, Quantity.compare?] at h ⊢
      cases hlevel : q.level? with
      | none =>
          rw [hlevel] at h
          exact absurd h (by simp [Quantity.level?])
      | some level =>
          rw [hlevel] at h
          cases level with
          | bottom => rfl
          | top => exact absurd h (by simp [Quantity.level?, Level.compare])
          | rational c d =>
              have hn : decide (c * (1 : Nat) ≤ n * (d : Int)) = true :=
                (atLeast_eq_decide (n * d) (c * (1 : Nat))).symm.trans h
              have hmul : n * (d : Int) ≤ m * d := Int.mul_le_mul_of_nonneg_right hle (by omega)
              have hm : c * (1 : Nat) ≤ m * (d : Int) :=
                Int.le_trans (of_decide_eq_true hn) hmul
              exact (atLeast_eq_decide (m * d) (c * (1 : Nat))).trans (decide_eq_true hm)

/-- A bound that admits an integer admits every smaller one. -/
theorem admits_mono {b : Bound} {n m : Int} (hle : n ≤ m)
    (h : b.admits (.whole m) = true) : b.admits (.whole n) = true := by
  unfold admits compare? at h ⊢
  cases hgiven : b.given.quantity? with
  | none =>
      rw [hgiven] at h
      exact absurd h (by simp)
  | some q =>
      rw [hgiven] at h
      simp only [Option.bind_some, Quantity.compare?] at h ⊢
      cases hlevel : q.level? with
      | none =>
          rw [hlevel] at h
          exact absurd h (by simp [Quantity.level?])
      | some level =>
          rw [hlevel] at h
          cases level with
          | bottom => exact absurd h (by simp [Quantity.level?, Level.compare])
          | top => rfl
          | rational c d =>
              have hm : decide (m * (d : Int) ≤ c * (1 : Nat)) = true :=
                (atMost_eq_decide (m * d) (c * (1 : Nat))).symm.trans h
              have hmul : n * (d : Int) ≤ m * d := Int.mul_le_mul_of_nonneg_right hle (by omega)
              have hn : n * (d : Int) ≤ c * (1 : Nat) :=
                Int.le_trans hmul (of_decide_eq_true hm)
              exact (atMost_eq_decide (n * d) (c * (1 : Nat))).trans (decide_eq_true hn)

@[simp] theorem count_whole (n : Int) : (whole n).count = .ok n.toNat := rfl

@[simp] theorem isNumber_whole (n : Int) : (whole n).isNumber = true := rfl

theorem fault?_of_isNumber {b : Bound} (h : b.isNumber = true) (relation type : String) :
    b.fault? relation type = none := if_pos h

@[simp] theorem isSome_fault? (relation type : String) (b : Bound) :
    (b.fault? relation type).isSome = !b.isNumber := by
  unfold fault?
  cases b.isNumber
  · rfl
  · rfl

@[simp] theorem fault?_whole (relation type : String) (n : Int) :
    fault? relation type (whole n) = none := rfl

end Bound

end ChunkGraph
