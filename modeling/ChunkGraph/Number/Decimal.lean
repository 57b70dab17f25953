/-!
# Decimal writing of integers

The digits of a natural number without leading zeros, and of an integer with a
minus sign in front when it is negative.

## Main definitions

* `natural`, `integer` — the written forms.
* `integerText` — the same as a `String`.
-/

namespace ChunkGraph.Number

/-- The digit for a value below ten. -/
def digit (n : Nat) : Char := Char.ofNat ('0'.toNat + n)

/-- The decimal digits of a natural number. -/
def natural (n : Nat) : List Char :=
  if n < 10 then [digit n] else natural (n / 10) ++ [digit (n % 10)]

/-- The decimal digits of an integer, after a minus sign if it is negative. -/
def integer : Int → List Char
  | .ofNat n => natural n
  | .negSucc n => '-' :: natural (n + 1)

/-- An integer in decimal. -/
def integerText (n : Int) : String := String.ofList (integer n)

theorem natural_of_lt {n : Nat} (h : n < 10) : natural n = [digit n] := by
  rw [natural, if_pos h]

theorem natural_of_le {n : Nat} (h : 10 ≤ n) :
    natural n = natural (n / 10) ++ [digit (n % 10)] := by
  rw [natural, if_neg (by omega)]

end ChunkGraph.Number
