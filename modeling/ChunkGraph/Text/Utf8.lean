import ChunkGraph.Text.Lines

/-!
# UTF-8

Encoding is the standard one, character by character. Decoding never fails:
the longest beginning of a character that a wrong byte cuts short becomes one
replacement character, and so does every byte that cannot begin a character.

The decoder reads one byte at a time. Between characters it owes nothing; after
a leading byte it remembers the bits so far, how many continuation bytes are
owed, and which bytes the next one may be. The bounds exclude overlong forms,
surrogates and code points above `U+10FFFF`.

## Main definitions

* `encode` — the bytes of a text.
* `decode` — the text of any bytes, with replacement characters.
* `readText` — a file's text: decoded, with line ends unified.
* `firstFault?` — the first bytes that are no text, and why.
-/

namespace ChunkGraph.Text.Utf8

/-- The bytes of a text. -/
def encode (text : List Char) : List UInt8 := text.flatMap String.utf8EncodeChar

/-- A character of which some bytes have been read. -/
structure Pending where
  /-- Bits read so far. -/
  bits : Nat
  /-- Continuation bytes owed after the next one. -/
  owed : Nat
  /-- Least value of the next byte. -/
  low : Nat
  /-- Greatest value of the next byte. -/
  high : Nat
  deriving DecidableEq, Repr

/-- What a byte between characters begins. -/
inductive Lead where
  /-- A character of one byte. -/
  | ascii (n : Nat)
  /-- A longer character. -/
  | pending (p : Pending)
  /-- Nothing. -/
  | invalid
  deriving DecidableEq, Repr

/-- What byte `b` begins between characters. -/
def lead (b : Nat) : Lead :=
  if b < 0x80 then .ascii b
  else if b < 0xC2 then .invalid
  else if b < 0xE0 then .pending ⟨b - 0xC0, 0, 0x80, 0xBF⟩
  else if b == 0xE0 then .pending ⟨0, 1, 0xA0, 0xBF⟩
  else if b == 0xED then .pending ⟨0xD, 1, 0x80, 0x9F⟩
  else if b < 0xF0 then .pending ⟨b - 0xE0, 1, 0x80, 0xBF⟩
  else if b == 0xF0 then .pending ⟨0, 2, 0x90, 0xBF⟩
  else if b < 0xF4 then .pending ⟨b - 0xF0, 2, 0x80, 0xBF⟩
  else if b == 0xF4 then .pending ⟨4, 2, 0x80, 0x8F⟩
  else .invalid

/-- What an ill-formed sequence becomes. -/
def replacement : Char := Char.ofNat 0xFFFD

/-- The text of the bytes to come, given what was read of the current character. -/
def decodeFrom : Option Pending → List UInt8 → List Char
  | none, [] => []
  | some _, [] => [replacement]
  | none, b :: rest =>
      match lead b.toNat with
      | .ascii n => Char.ofNat n :: decodeFrom none rest
      | .pending p => decodeFrom (some p) rest
      | .invalid => replacement :: decodeFrom none rest
  | some p, b :: rest =>
      if p.low ≤ b.toNat && b.toNat ≤ p.high then
        let bits := p.bits * 64 + (b.toNat - 0x80)
        match p.owed with
        | 0 => Char.ofNat bits :: decodeFrom none rest
        | owed + 1 => decodeFrom (some ⟨bits, owed, 0x80, 0xBF⟩) rest
      else
        match lead b.toNat with
        | .ascii n => replacement :: Char.ofNat n :: decodeFrom none rest
        | .pending q => replacement :: decodeFrom (some q) rest
        | .invalid => replacement :: replacement :: decodeFrom none rest

/-- The text of the bytes, ill-formed parts replaced. -/
def decode (bytes : List UInt8) : List Char := decodeFrom none bytes

/-- The text of a file: decoded, every kind of line end turned into a line feed. -/
def readText (bytes : List UInt8) : String := String.ofList (unifyNewlines (decode bytes))

/-- The bytes are well-formed UTF-8. -/
def isValid (bytes : List UInt8) : Bool := encode (decode bytes) == bytes

/-! ## Faults -/

/-- Why bytes are no text. -/
inductive Fault where
  /-- The byte begins no character. -/
  | badStart
  /-- The bytes begin a character that does not go on. -/
  | badContinuation
  /-- The bytes begin a character, and nothing follows. -/
  | unexpectedEnd
  deriving DecidableEq, Repr, Inhabited

/-- Bytes that are no text. -/
structure BadBytes where
  /-- The bytes. -/
  bytes : List UInt8
  /-- The number of bytes in front of them. -/
  position : Nat
  /-- What is wrong with them. -/
  fault : Fault
  deriving DecidableEq, Repr, Inhabited

/-- The first bytes that are no text, from a position on, given what was read of the current
character and its bytes, the last first. -/
def firstFaultFrom : Nat → Option (Pending × List UInt8) → List UInt8 → Option BadBytes
  | _, none, [] => none
  | position, some (_, taken), [] =>
      some ⟨taken.reverse, position - taken.length, .unexpectedEnd⟩
  | position, none, b :: rest =>
      match lead b.toNat with
      | .ascii _ => firstFaultFrom (position + 1) none rest
      | .pending p => firstFaultFrom (position + 1) (some (p, [b])) rest
      | .invalid => some ⟨[b], position, .badStart⟩
  | position, some (p, taken), b :: rest =>
      if p.low ≤ b.toNat && b.toNat ≤ p.high then
        match p.owed with
        | 0 => firstFaultFrom (position + 1) none rest
        | owed + 1 =>
            firstFaultFrom (position + 1) (some (⟨0, owed, 0x80, 0xBF⟩, b :: taken)) rest
      else some ⟨taken.reverse, position - taken.length, .badContinuation⟩

/-- The first bytes that are no text. -/
def firstFault? (bytes : List UInt8) : Option BadBytes := firstFaultFrom 0 none bytes

@[simp] theorem encode_nil : encode [] = [] := rfl

@[simp] theorem encode_append (s t : List Char) : encode (s ++ t) = encode s ++ encode t := by
  simp [encode]

@[simp] theorem decode_nil : decode [] = [] := rfl

end ChunkGraph.Text.Utf8
