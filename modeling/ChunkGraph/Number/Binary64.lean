/-!
# Floating-point numbers

Numbers with fractions are held in the binary64 format: a significand of at
most 53 bits times a power of two, rounded to nearest with ties to the even
significand. They are kept as exact integers, so that every operation on them
is exact arithmetic followed by one rounding.

## Main definitions

* `Binary64` — finite numbers, the infinities and the undefined number.
* `Binary64.ofRatio` — the nearest number to a quotient of naturals.
* `Binary64.ofScientific` — the nearest number to `digits · 10 ^ exponent`.
* `Binary64.ratio` — the exact value of a finite number.
* `Binary64.add`, `Binary64.times`, `Binary64.neg` — sums, multiples and
  opposites.
-/

namespace ChunkGraph.Number

/-- A number in binary64 format. -/
inductive Binary64 where
  /-- `significand · 2 ^ exponent`, negated if `negative`. -/
  | finite (negative : Bool) (significand : Nat) (exponent : Int)
  /-- Positive or negative infinity. -/
  | infinite (negative : Bool)
  /-- Not a number. Its payload tells apart undefined numbers of different origin; those of the
  payload zero have none. -/
  | nan (payload : Nat)
  deriving DecidableEq, Repr, Inhabited

/-- A power of two. -/
def twoTo (n : Nat) : Nat := Nat.pow 2 n

/-- A power of ten. -/
def tenTo (n : Nat) : Nat := Nat.pow 10 n

/-- The quotient `n / d` rounded to the nearest natural, a tie going to the even one. -/
def roundDiv (n d : Nat) : Nat :=
  let q := n / d
  let r := n % d
  if 2 * r < d then q else if d < 2 * r then q + 1 else if q % 2 == 0 then q else q + 1

namespace Binary64

/-- Exponent of the least positive number. -/
def leastExponent : Int := -1074

/-- The greatest exponent of a 53-bit significand. -/
def greatestExponent : Int := 971

/-- `num / den / 2 ^ exponent` as a quotient of naturals. -/
def scaled (num den : Nat) (exponent : Int) : Nat × Nat :=
  if exponent < 0 then (num * twoTo exponent.natAbs, den) else (num, den * twoTo exponent.natAbs)

/-- The exponent at which `num / den` has a significand of 53 bits, or the least one. -/
def exponentFor (num den : Nat) : Int :=
  let guess : Int := (Nat.log2 num : Int) - (Nat.log2 den : Int) - 53
  let (n, d) := scaled num den guess
  max leastExponent (if n / d < twoTo 53 then guess else guess + 1)

/-- The number nearest to `num / den`, negated if `negative`. -/
def ofRatio (negative : Bool) (num den : Nat) : Binary64 :=
  if num == 0 then .finite negative 0 0
  else
    let exponent := exponentFor num den
    let (n, d) := scaled num den exponent
    let q := roundDiv n d
    let (q, exponent) := if q == twoTo 53 then (twoTo 52, exponent + 1) else (q, exponent)
    if q == 0 then .finite negative 0 0
    else if greatestExponent < exponent then .infinite negative
    else .finite negative q exponent

/-- The number nearest to `digits · 10 ^ exponent`, negated if `negative`. -/
def ofScientific (negative : Bool) (digits : Nat) (exponent : Int) : Binary64 :=
  if digits == 0 then .finite negative 0 0
  -- Beyond these exponents the answer no longer depends on the digits.
  else if 400 < exponent then .infinite negative
  else if exponent + (Nat.log2 digits : Int) < -1500 then .finite negative 0 0
  else if exponent < 0 then ofRatio negative digits (tenTo exponent.natAbs)
  else ofRatio negative (digits * tenTo exponent.natAbs) 1

/-- The quotient of two naturals. -/
def div (num den : Nat) : Binary64 := ofRatio false num den

/-- An integer as a number of this format. -/
def ofInt (n : Int) : Binary64 := ofRatio (n < 0) n.natAbs 1

/-- The size of a finite number as a quotient of naturals. -/
def ratio (significand : Nat) (exponent : Int) : Nat × Nat :=
  if exponent < 0 then (significand, twoTo exponent.natAbs)
  else (significand * twoTo exponent.natAbs, 1)

/-- The number is less than zero. -/
def isNegative : Binary64 → Bool
  | .finite negative significand _ => negative && significand != 0
  | .infinite negative => negative
  | .nan _ => false

/-- The number is zero, of either sign. -/
def isZero : Binary64 → Bool
  | .finite _ significand _ => significand == 0
  | _ => false

/-- The two numbers have the same value: zeros agree, and so do undefined numbers of one origin. -/
def sameValue : Binary64 → Binary64 → Bool
  | .nan a, .nan b => a == b && a != 0
  | x, y => x == y || (x.isZero && y.isZero)

/-- The number equals the integer. -/
def equalsInt : Binary64 → Int → Bool
  | .finite negative significand exponent, n =>
      let (num, den) := ratio significand exponent
      num == n.natAbs * den && (num == 0 || negative == (n < 0 : Bool))
  | _, _ => false

/-- A natural number with a sign. -/
def signed (negative : Bool) (n : Nat) : Int := if negative then -(n : Int) else n

/-- The integer next to the number in the direction of zero, if it is finite. -/
def truncate? : Binary64 → Option Int
  | .finite negative significand exponent =>
      let (num, den) := ratio significand exponent
      some (signed negative (num / den))
  | _ => none

/-- The greatest integer that is at most the number, if it is finite. -/
def floor? : Binary64 → Option Int
  | .finite negative significand exponent =>
      let (num, den) := ratio significand exponent
      some (Int.fdiv (signed negative num) den)
  | _ => none

/-- The opposite number. -/
def neg : Binary64 → Binary64
  | .finite negative significand exponent => .finite (!negative) significand exponent
  | .infinite negative => .infinite (!negative)
  | .nan payload => .nan payload

/-- The number nearest to the product with a natural number. -/
def times (x : Binary64) (n : Nat) : Binary64 :=
  match x with
  | .finite negative significand exponent =>
      let (num, den) := ratio significand exponent
      ofRatio negative (num * n) den
  | .infinite negative => if n == 0 then .nan 0 else .infinite negative
  | .nan _ => .nan 0

/-- The number nearest to the sum. -/
def add : Binary64 → Binary64 → Binary64
  | .finite n s e, .finite m t f =>
      let (a, b) := ratio s e
      let (c, d) := ratio t f
      let sum := signed n (a * d) + signed m (c * b)
      if sum == 0 then .finite (n && m) 0 0 else ofRatio (sum < 0) sum.natAbs (b * d)
  | .infinite n, .infinite m => if n == m then .infinite n else .nan 0
  | .infinite n, .finite .. => .infinite n
  | .finite .., .infinite m => .infinite m
  | .nan _, _ => .nan 0
  | _, .nan _ => .nan 0

end Binary64

end ChunkGraph.Number
