import ChunkGraph.Number.Binary64

/-!
# Quantities

A quantity is an integer of any size or a number in binary64 format. Quantities
are compared by their exact values, whatever their formats. Sums and
differences of integers are exact; once a number with a fraction takes part,
they are rounded.

## Main definitions

* `Quantity` — the quantities.
* `Level`, `Quantity.level?` — their places on the line with both infinities.
* `Quantity.compare?` — their order; an undefined number has none.
* `Quantity.add`, `Quantity.sub` — sums and differences.
-/

namespace ChunkGraph.Number

/-- An integer or a number with a fraction. -/
inductive Quantity where
  /-- An integer. -/
  | whole (n : Int)
  /-- A number in binary64 format. -/
  | float (x : Binary64)
  deriving DecidableEq, Repr, Inhabited

/-- A place on the line of rationals with both infinities. -/
inductive Level where
  /-- Below everything else. -/
  | bottom
  /-- The quotient of an integer and a positive natural. -/
  | rational (num : Int) (den : Nat)
  /-- Above everything else. -/
  | top
  deriving DecidableEq, Repr

/-- The order of the line. -/
def Level.compare : Level → Level → Ordering
  | .rational a b, .rational c d => Ord.compare (a * d) (c * b)
  | .bottom, .bottom => .eq
  | .top, .top => .eq
  | .bottom, _ => .lt
  | _, .bottom => .gt
  | .top, _ => .gt
  | _, .top => .lt

/-- The place of a number on the line; an undefined number has none. -/
def Binary64.level? : Binary64 → Option Level
  | .finite negative significand exponent =>
      let (num, den) := ratio significand exponent
      some (.rational (signed negative num) den)
  | .infinite negative => some (if negative then .bottom else .top)
  | .nan _ => none

namespace Quantity

/-- A natural number as a quantity. -/
def ofNat (n : Nat) : Quantity := .whole n

/-- The place of a quantity on the line. -/
def level? : Quantity → Option Level
  | .whole n => some (.rational n 1)
  | .float x => x.level?

/-- The order of two quantities. -/
def compare? (x y : Quantity) : Option Ordering := do
  let a ← x.level?
  let b ← y.level?
  return a.compare b

/-- The first quantity is less than the second. -/
def lt (x y : Quantity) : Bool := x.compare? y == some .lt

/-- The first quantity is at most the second. -/
def le (x y : Quantity) : Bool := x.lt y || x.compare? y == some .eq

/-- A quantity in binary64 format. -/
def toBinary64 : Quantity → Binary64
  | .whole n => .ofInt n
  | .float x => x

/-- The sum of two quantities. -/
def add : Quantity → Quantity → Quantity
  | .whole n, .whole m => .whole (n + m)
  | x, y => .float (x.toBinary64.add y.toBinary64)

/-- The difference of two quantities. -/
def sub : Quantity → Quantity → Quantity
  | .whole n, .whole m => .whole (n - m)
  | x, y => .float (x.toBinary64.add y.toBinary64.neg)

theorem compare?_whole (n m : Int) : compare? (.whole n) (.whole m) = some (Ord.compare n m) := by
  simp [compare?, level?, Level.compare]

theorem sub_whole (n m : Int) : sub (.whole n) (.whole m) = .whole (n - m) := rfl

end Quantity

end ChunkGraph.Number
