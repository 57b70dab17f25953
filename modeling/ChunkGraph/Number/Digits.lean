import ChunkGraph.Number.Binary64
import ChunkGraph.Number.Decimal

/-!
# Decimal writing of floating-point numbers

Two written forms are in use. The *shortest* form has the fewest digits that
still read back as the same number, and of those the digits nearest to it; it
is written positionally when the decimal point falls between the fourth zero
in front of the digits and the sixteenth digit, and with an exponent otherwise.
The *fixed* form has a given number of places, a tie going to the even digit.

## Main definitions

* `shortestDigits` — the digits of the shortest form and the position of the
  decimal point in them.
* `Binary64.shortest` — the shortest form, with the words for the special
  numbers taken from a `SpecialNames`.
* `Binary64.fixed` — the fixed form.
-/

namespace ChunkGraph.Number

/-- The number of decimal digits of `n`; zero has none. -/
def decimalLength (n : Nat) : Nat := if n == 0 then 0 else (natural n).length

/-- The least `p` with `num / den < 10 ^ p`. -/
def pointPosition (num den : Nat) : Int :=
  let guess : Int := (decimalLength num : Int) - (decimalLength den : Int)
  let below (p : Int) : Bool :=
    if p < 0 then num * tenTo p.natAbs < den else num < den * tenTo p.natAbs
  if below guess then guess else guess + 1

/-- The reals that round to a number: a quotient with its neighbours halfway to the next ones. -/
structure Neighbourhood where
  /-- Numerator of the number. -/
  num : Nat
  /-- Numerator of the lower end. -/
  low : Nat
  /-- Numerator of the upper end. -/
  high : Nat
  /-- Common denominator. -/
  den : Nat
  /-- The ends belong to it. -/
  closed : Bool

/-- The neighbourhood of `significand · 2 ^ exponent`. -/
def neighbourhood (significand : Nat) (exponent : Int) : Neighbourhood :=
  let gap := if significand == twoTo 52 && Binary64.leastExponent < exponent then 1 else 2
  let (unit, den) := Binary64.ratio 1 exponent
  ⟨4 * significand * unit, (4 * significand - gap) * unit, (4 * significand + 2) * unit, 4 * den,
    significand % 2 == 0⟩

/-- The point `digits · 10 ^ place` lies in the neighbourhood. -/
def Neighbourhood.holds (nb : Neighbourhood) (digits : Nat) (place : Int) : Bool :=
  let (p, q) := if place < 0 then (digits * nb.den, tenTo place.natAbs)
    else (digits * tenTo place.natAbs * nb.den, 1)
  if nb.closed then nb.low * q ≤ p && p ≤ nb.high * q else nb.low * q < p && p < nb.high * q

/-- The digits of the point on the grid of `10 ^ place` nearest to the number, if one is inside. -/
def Neighbourhood.onGrid? (nb : Neighbourhood) (place : Int) : Option Nat :=
  let (n, d) := if place < 0 then (nb.num * tenTo place.natAbs, nb.den)
    else (nb.num, nb.den * tenTo place.natAbs)
  let nearest := roundDiv n d
  if nb.holds nearest place then some nearest
  else
    let other := if nearest * d ≤ n then nearest + 1 else nearest - 1
    if nb.holds other place then some other else none

/-- The first grid, from `count` digits on, with a point inside the neighbourhood. -/
def Neighbourhood.shortestFrom (nb : Neighbourhood) (point : Int) : Nat → Nat → Nat × Int
  | _, 0 => (0, 0)
  | count, fuel + 1 =>
      let place := point - count
      match nb.onGrid? place with
      | some digits => (digits, place)
      | none => nb.shortestFrom point (count + 1) fuel

/-- Digits without trailing zeros. -/
def dropZeros (digits : List Char) : List Char :=
  (digits.reverse.dropWhile (· == '0')).reverse

/-- The digits of the shortest form of a positive number, and how many of them stand before the
decimal point. -/
def shortestDigits (significand : Nat) (exponent : Int) : List Char × Int :=
  let nb := neighbourhood significand exponent
  let (digits, place) := nb.shortestFrom (pointPosition nb.num nb.den) 1 17
  let written := natural digits
  (dropZeros written, (written.length : Int) + place)

/-- The words for the numbers without digits. -/
structure SpecialNames where
  /-- Word for infinity, which a minus sign may precede. -/
  infinity : String
  /-- Word for the undefined number. -/
  undefined : String

/-- Digits with a decimal point after the first `point` of them. -/
def positional (digits : List Char) (point : Int) : List Char :=
  if point ≤ 0 then '0' :: '.' :: List.replicate point.natAbs '0' ++ digits
  else
    let whole := digits.take point.toNat ++ List.replicate (point.toNat - digits.length) '0'
    let fraction := digits.drop point.toNat
    whole ++ '.' :: (if fraction.isEmpty then ['0'] else fraction)

/-- Digits with an exponent of at least two digits and a sign. -/
def exponential (digits : List Char) (point : Int) : List Char :=
  let power := point - 1
  let size := natural power.natAbs
  let mantissa := match digits with
    | [] => ['0']
    | [d] => [d]
    | d :: rest => d :: '.' :: rest
  mantissa ++ 'e' :: (if power < 0 then '-' else '+') ::
    (if size.length < 2 then '0' :: size else size)

namespace Binary64

/-- The shortest form. -/
def shortest (names : SpecialNames) : Binary64 → String
  | .nan _ => names.undefined
  | .infinite negative => (if negative then "-" else "") ++ names.infinity
  | .finite negative significand exponent =>
      let body :=
        if significand == 0 then ['0', '.', '0']
        else
          let (digits, point) := shortestDigits significand exponent
          if -4 < point && point ≤ 16 then positional digits point else exponential digits point
      String.ofList (if negative then '-' :: body else body)

/-- `n` thousandths, say, written with three places. -/
def placed (places n : Nat) : List Char :=
  let digits := natural n
  let padded := List.replicate (places + 1 - digits.length) '0' ++ digits
  let split := padded.length - places
  if places == 0 then padded else padded.take split ++ '.' :: padded.drop split

/-- The form with a fixed number of places. -/
def fixed (places : Nat) : Binary64 → String
  | .nan _ => "nan"
  | .infinite negative => if negative then "-inf" else "inf"
  | .finite negative significand exponent =>
      let (num, den) := ratio significand exponent
      let body := placed places (roundDiv (num * tenTo places) den)
      String.ofList (if negative then '-' :: body else body)

end Binary64

end ChunkGraph.Number
