/-!
# Base64

Raw bytes in a document are written in the standard alphabet: four characters
for three bytes, padded at the end with equals signs. Characters outside the
alphabet are passed over.

## Main definitions

* `decode` — the bytes a text stands for.
-/

namespace ChunkGraph.Text.Base64

/-- The six bits a character of the alphabet stands for. -/
def sextet? (c : Char) : Option Nat :=
  if 'A' ≤ c && c ≤ 'Z' then some (c.toNat - 'A'.toNat)
  else if 'a' ≤ c && c ≤ 'z' then some (c.toNat - 'a'.toNat + 26)
  else if '0' ≤ c && c ≤ '9' then some (c.toNat - '0'.toNat + 52)
  else if c == '+' then some 62
  else if c == '/' then some 63
  else none

/-- The bytes of a list of sextets, up to three bytes for four of them. -/
def bytes : List Nat → List UInt8
  | a :: b :: c :: d :: rest =>
      UInt8.ofNat (a * 4 + b / 16) :: UInt8.ofNat (b % 16 * 16 + c / 4) ::
        UInt8.ofNat (c % 4 * 64 + d) :: bytes rest
  | [a, b, c] => [UInt8.ofNat (a * 4 + b / 16), UInt8.ofNat (b % 16 * 16 + c / 4)]
  | [a, b] => [UInt8.ofNat (a * 4 + b / 16)]
  | _ => []

/-- The bytes a text stands for. -/
def decode (text : String) : List UInt8 := bytes (text.toList.filterMap sextet?)

end ChunkGraph.Text.Base64
