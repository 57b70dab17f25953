import ChunkGraph.Syntax.Tree
import Mathlib.Data.List.Basic

/-!
# Characters and their bytes

What is encoded is decoded to the same text, and the bytes of a text contain a
line feed for each line feed of the text, since all bytes of longer characters
are above the ASCII range. So a part of the bytes that begins and ends between
characters is the encoding of a part of the text, and rows counted in bytes are
rows counted in characters.

Decoding goes byte by byte. A character of several bytes is begun by a leading
byte, which says how many bytes are owed and bounds the next one; the bounds
leave out exactly what no character is encoded to.

## Main definitions

* `Pending.Long` — what has been read begins a character of several bytes.
* `Boundary` — a number of bytes that ends between two characters.

## Main results

* `decode_encode` — decoding undoes encoding.
* `count_encode` — line feeds among the bytes.
* `lineFeeds_decode` — line feeds in the text of any bytes, well formed or not.
* `Boundary.exists_slice` — the part of a text between two boundaries.
-/

namespace ChunkGraph.Text.Utf8

/-! ## The steps of the decoder -/

section Steps

variable {b : UInt8} {rest : List UInt8} {p : Pending}

theorem decodeFrom_ascii {n : Nat} (h : lead b.toNat = .ascii n) :
    decodeFrom none (b :: rest) = Char.ofNat n :: decodeFrom none rest := by
  rw [decodeFrom, h]

theorem decodeFrom_lead (h : lead b.toNat = .pending p) :
    decodeFrom none (b :: rest) = decodeFrom (some p) rest := by
  rw [decodeFrom, h]

/-- The last byte that is owed ends the character. -/
theorem decodeFrom_last {bits low high : Nat} (hlow : low ≤ b.toNat) (hhigh : b.toNat ≤ high) :
    decodeFrom (some ⟨bits, 0, low, high⟩) (b :: rest) =
      Char.ofNat (bits * 64 + (b.toNat - 0x80)) :: decodeFrom none rest := by
  rw [decodeFrom, if_pos (by simp [hlow, hhigh])]

/-- Any other byte that is owed adds its bits. -/
theorem decodeFrom_owed {bits owed low high : Nat} (hlow : low ≤ b.toNat)
    (hhigh : b.toNat ≤ high) :
    decodeFrom (some ⟨bits, owed + 1, low, high⟩) (b :: rest) =
      decodeFrom (some ⟨bits * 64 + (b.toNat - 0x80), owed, 0x80, 0xBF⟩) rest := by
  rw [decodeFrom, if_pos (by simp [hlow, hhigh])]

end Steps

/-! ## Leading bytes -/

theorem lead_ascii {v : Nat} (h : v ≤ 127) : lead v = .ascii v := by
  unfold lead
  rw [if_pos (by omega)]

/-- The byte that begins a character of two bytes. -/
theorem lead_two {v : Nat} (hlow : 127 < v) (hhigh : v ≤ 2047) :
    lead (v / 64 % 32 + 192) = .pending ⟨v / 64, 0, 0x80, 0xBF⟩ := by
  have hbits : v / 64 % 32 + 192 - 0xC0 = v / 64 := by omega
  unfold lead
  rw [if_neg (by omega), if_neg (by omega), if_pos (by omega), hbits]

/-- The byte that begins a character of three bytes leaves room for the second one. -/
theorem lead_three {v : Nat} (hlow : 2047 < v) (hhigh : v ≤ 65535) (hvalid : v.isValidChar) :
    ∃ low high, lead (v / 4096 % 16 + 224) = .pending ⟨v / 4096, 1, low, high⟩ ∧
      low ≤ v / 64 % 64 + 128 ∧ v / 64 % 64 + 128 ≤ high := by
  have hvalid : v < 55296 ∨ 57343 < v ∧ v < 1114112 := hvalid
  by_cases hfirst : v / 4096 = 0
  · -- Less would be an overlong form.
    rw [hfirst]
    exact ⟨0xA0, 0xBF, rfl, by omega, by omega⟩
  · by_cases hsurrogate : v / 4096 = 13
    · rw [hsurrogate]
      exact ⟨0x80, 0x9F, rfl, by omega, by omega⟩
    · have hbits : v / 4096 % 16 + 224 - 0xE0 = v / 4096 := by omega
      refine ⟨0x80, 0xBF, ?_, by omega, by omega⟩
      unfold lead
      rw [if_neg (by omega), if_neg (by omega), if_neg (by omega),
        if_neg (by rw [beq_iff_eq]; omega), if_neg (by rw [beq_iff_eq]; omega),
        if_pos (by omega), hbits]

/-- The byte that begins a character of four bytes leaves room for the second one. -/
theorem lead_four {v : Nat} (hlow : 65535 < v) (hhigh : v < 1114112) :
    ∃ low high, lead (v / 262144 % 8 + 240) = .pending ⟨v / 262144, 2, low, high⟩ ∧
      low ≤ v / 4096 % 64 + 128 ∧ v / 4096 % 64 + 128 ≤ high := by
  by_cases hfirst : v / 262144 = 0
  · rw [hfirst]
    exact ⟨0x90, 0xBF, rfl, by omega, by omega⟩
  · by_cases hlast : v / 262144 = 4
    · -- More would be above the last code point.
      rw [hlast]
      exact ⟨0x80, 0x8F, rfl, by omega, by omega⟩
    · have hbits : v / 262144 % 8 + 240 - 0xF0 = v / 262144 := by omega
      refine ⟨0x80, 0xBF, ?_, by omega, by omega⟩
      unfold lead
      rw [if_neg (by omega), if_neg (by omega), if_neg (by omega),
        if_neg (by rw [beq_iff_eq]; omega), if_neg (by rw [beq_iff_eq]; omega),
        if_neg (by omega), if_neg (by rw [beq_iff_eq]; omega), if_pos (by omega), hbits]

/-! ## Decoding undoes encoding -/

theorem toNat_byte {n : Nat} (h : n < 256) : (UInt8.ofNat n).toNat = n := by
  rw [UInt8.toNat_ofNat']
  omega

/-- A byte that continues a character. -/
theorem toNat_tail (n : Nat) : (UInt8.ofNat (n % 64 + 128)).toNat = n % 64 + 128 :=
  toNat_byte (by omega)

/-- The bytes of a character are decoded to it, whatever follows. -/
theorem decodeFrom_encodeChar (c : Char) (rest : List UInt8) :
    decodeFrom none (String.utf8EncodeChar c ++ rest) = c :: decodeFrom none rest := by
  have hvalid : c.val.toNat.isValidChar := c.valid
  have hlimit : c.val.toNat < 1114112 := by
    have hcases : c.val.toNat < 55296 ∨ 57343 < c.val.toNat ∧ c.val.toNat < 1114112 := hvalid
    omega
  have hchar : Char.ofNat c.val.toNat = c := Char.ofNat_toNat c
  rw [String.utf8EncodeChar.eq_1]
  generalize c.val.toNat = v at *
  rw [← hchar]
  split
  · rename_i hone
    have hlead : lead (UInt8.ofNat v).toNat = .ascii v := by
      rw [toNat_byte (by omega), lead_ascii hone]
    exact decodeFrom_ascii hlead
  · split
    · rename_i hone htwo
      have hlead : lead (UInt8.ofNat (v / 64 % 32 + 192)).toNat =
          .pending ⟨v / 64, 0, 0x80, 0xBF⟩ := by
        rw [toNat_byte (by omega), lead_two (by omega) htwo]
      have hbits : v / 64 * 64 + (v % 64 + 128 - 0x80) = v := by omega
      rw [List.cons_append, decodeFrom_lead hlead, List.cons_append,
        decodeFrom_last (by rw [toNat_tail]; omega) (by rw [toNat_tail]; omega), toNat_tail, hbits]
      rfl
    · split
      · rename_i htwo hthree
        obtain ⟨low, high, hlead, hlow, hhigh⟩ := lead_three (by omega) hthree hvalid
        rw [← toNat_byte (show v / 4096 % 16 + 224 < 256 by omega)] at hlead
        have hbits : (v / 4096 * 64 + (v / 64 % 64 + 128 - 0x80)) * 64 + (v % 64 + 128 - 0x80) =
            v := by
          omega
        rw [List.cons_append, decodeFrom_lead hlead, List.cons_append,
          decodeFrom_owed (by rwa [toNat_tail]) (by rwa [toNat_tail]), List.cons_append,
          decodeFrom_last (by rw [toNat_tail]; omega) (by rw [toNat_tail]; omega), toNat_tail,
          toNat_tail, hbits]
        rfl
      · rename_i htwo hthree
        obtain ⟨low, high, hlead, hlow, hhigh⟩ := lead_four (by omega) hlimit
        rw [← toNat_byte (show v / 262144 % 8 + 240 < 256 by omega)] at hlead
        have hbits : ((v / 262144 * 64 + (v / 4096 % 64 + 128 - 0x80)) * 64 +
            (v / 64 % 64 + 128 - 0x80)) * 64 + (v % 64 + 128 - 0x80) = v := by
          omega
        rw [List.cons_append, decodeFrom_lead hlead, List.cons_append,
          decodeFrom_owed (by rwa [toNat_tail]) (by rwa [toNat_tail]), List.cons_append,
          decodeFrom_owed (by rw [toNat_tail]; omega) (by rw [toNat_tail]; omega),
          List.cons_append,
          decodeFrom_last (by rw [toNat_tail]; omega) (by rw [toNat_tail]; omega), toNat_tail,
          toNat_tail, toNat_tail, hbits]
        rfl

/-- Decoding undoes encoding. -/
theorem decode_encode (text : List Char) : decode (encode text) = text := by
  unfold decode
  induction text with
  | nil => rfl
  | cons c text ih =>
      show decodeFrom none (String.utf8EncodeChar c ++ encode text) = c :: text
      rw [decodeFrom_encodeChar, ih]

/-! ## Line feeds -/

/-- A byte of a longer character is no line feed. -/
theorem byte_ne_lineFeed {n : Nat} (hlow : 128 ≤ n) (hhigh : n < 256) : 10 ≠ UInt8.ofNat n := by
  intro heq
  have hvalue := congrArg UInt8.toNat heq
  rw [toNat_byte hhigh] at hvalue
  have hten : (10 : UInt8).toNat = 10 := rfl
  omega

/-- A character has the byte of a line feed only if it is one. -/
theorem count_encodeChar (c : Char) :
    (String.utf8EncodeChar c).count 10 = if c = '\n' then 1 else 0 := by
  have hfeed : c = '\n' ↔ c.val.toNat = 10 := by
    constructor
    · rintro rfl
      rfl
    · intro h
      exact Char.ext (UInt32.toNat_inj.mp h)
  rw [String.utf8EncodeChar.eq_1]
  simp only [hfeed]
  generalize c.val.toNat = v
  split
  · rename_i hone
    by_cases hv : v = 10
    · subst hv
      rfl
    · rw [if_neg hv, List.count_eq_zero, List.mem_singleton]
      intro heq
      have hvalue := congrArg UInt8.toNat heq
      rw [toNat_byte (by omega)] at hvalue
      exact hv hvalue.symm
  · rename_i hone
    rw [if_neg (show ¬ v = 10 by omega), List.count_eq_zero]
    have hlead {n : Nat} (hlow : 128 ≤ n) (hhigh : n < 256) {bytes : List UInt8}
        (hbytes : 10 ∉ bytes) : 10 ∉ UInt8.ofNat n :: bytes :=
      List.not_mem_cons_of_ne_of_not_mem (byte_ne_lineFeed hlow hhigh) hbytes
    split
    · exact hlead (by omega) (by omega) (hlead (by omega) (by omega) List.not_mem_nil)
    · split
      · exact hlead (by omega) (by omega) (hlead (by omega) (by omega)
          (hlead (by omega) (by omega) List.not_mem_nil))
      · exact hlead (by omega) (by omega) (hlead (by omega) (by omega)
          (hlead (by omega) (by omega) (hlead (by omega) (by omega) List.not_mem_nil)))

/-- There are as many line feeds among the bytes as in the text. -/
theorem count_encode (text : List Char) : (encode text).count 10 = lineFeeds text := by
  induction text with
  | nil => rfl
  | cons c text ih =>
      show (String.utf8EncodeChar c ++ encode text).count 10 = (c :: text).count '\n'
      rw [List.count_append, count_encodeChar, ih, List.count_cons, Nat.add_comm]
      simp only [beq_iff_eq]
      rfl

/-! ## Line feeds of any bytes

Bytes that are no text lose none of their line feeds: a line feed goes on with no character, and
what is owed when it comes is replaced before it. -/

/-- What has been read of a character puts it outside of the ASCII range. -/
structure Pending.Long (p : Pending) : Prop where
  /-- The next byte is outside of the ASCII range. -/
  le_low : 0x80 ≤ p.low
  /-- With the next byte there are enough bits, or enough for the one after it. -/
  le_bits : (if p.owed = 0 then 0x80 else 2) ≤ p.bits * 64 + (p.low - 0x80)

/-- A leading byte begins a longer character. -/
theorem long_of_lead {b : Nat} {p : Pending} (h : lead b = .pending p) : p.Long := by
  unfold lead at h
  simp only [beq_iff_eq] at h
  split_ifs at h with hascii htail htwo hthree hsurrogate hmore hfour hrest hend <;>
    first | exact absurd h Lead.noConfusion | rw [← Lead.pending.inj h]
  all_goals refine ⟨?_, ?_⟩ <;> simp
  all_goals omega

/-- One more byte of a longer character leaves it one. -/
theorem Pending.Long.next {bits owed low high b : Nat}
    (h : Pending.Long ⟨bits, owed + 1, low, high⟩) (hlow : low ≤ b) :
    Pending.Long ⟨bits * 64 + (b - 0x80), owed, 0x80, 0xBF⟩ := by
  have hbits : 2 ≤ bits * 64 + (low - 0x80) := by
    have hbits := h.le_bits
    rwa [if_neg (Nat.succ_ne_zero owed)] at hbits
  refine ⟨Nat.le_refl 0x80, ?_⟩
  show (if owed = 0 then 0x80 else 2) ≤ (bits * 64 + (b - 0x80)) * 64 + (0x80 - 0x80)
  split_ifs <;> omega

/-- A byte of the ASCII range stands for itself. -/
theorem lead_eq_ascii {b n : Nat} (h : lead b = .ascii n) : n = b ∧ b < 0x80 := by
  unfold lead at h
  split_ifs at h with hascii
  exact ⟨(Lead.ascii.inj h).symm, hascii⟩

theorem le_of_lead_invalid {b : Nat} (h : lead b = .invalid) : 0x80 ≤ b := by
  unfold lead at h
  split_ifs at h <;> omega

theorem le_of_lead_pending {b : Nat} {p : Pending} (h : lead b = .pending p) : 0x80 ≤ b := by
  unfold lead at h
  split_ifs at h <;> omega

/-- A number stands for a line feed only if it is that of one. -/
theorem ofNat_eq_lineFeed_iff {n : Nat} : Char.ofNat n = '\n' ↔ n = 10 := by
  constructor
  · intro h
    by_cases hvalid : n.isValidChar
    · rw [Char.ofNat, dif_pos hvalid] at h
      exact congrArg Char.toNat h
    · rw [Char.ofNat, dif_neg hvalid] at h
      exact absurd h (by decide)
  · rintro rfl
    rfl

/-- A byte that does not go on with a character begins the next one. -/
theorem decodeFrom_of_not_range {b : UInt8} {rest : List UInt8} {p : Pending}
    (h : ¬(p.low ≤ b.toNat ∧ b.toNat ≤ p.high)) :
    decodeFrom (some p) (b :: rest) = replacement :: decodeFrom none (b :: rest) := by
  have hrange : (p.low ≤ b.toNat && b.toNat ≤ p.high) = false := by simpa using h
  simp only [decodeFrom, hrange, Bool.false_eq_true, if_false]
  cases lead b.toNat <;> rfl

/-- A byte of a longer character stands for no line feed. -/
theorem count_cons_of_le {b : UInt8} (h : 0x80 ≤ b.toNat) (bytes : List UInt8) :
    (b :: bytes).count 10 = bytes.count 10 := by
  refine List.count_cons_of_ne ?_
  rintro rfl
  exact absurd h (by decide)

/-- There are as many line feeds in the text as among the bytes still to come, whatever was read
before them. -/
theorem lineFeeds_decodeFrom (bytes : List UInt8) :
    ∀ pending : Option Pending, (∀ p ∈ pending, p.Long) →
      lineFeeds (decodeFrom pending bytes) = bytes.count 10 := by
  induction bytes with
  | nil =>
      intro pending _
      cases pending <;> rfl
  | cons b rest ih =>
      -- Between characters the byte stands for itself, begins a longer one, or is replaced.
      have hbetween : lineFeeds (decodeFrom none (b :: rest)) = (b :: rest).count 10 := by
        have hnone := ih none (by simp)
        unfold lineFeeds at ih hnone ⊢
        rw [decodeFrom]
        cases hlead : lead b.toNat with
        | ascii n =>
            obtain ⟨rfl, -⟩ := lead_eq_ascii hlead
            have hfeed : Char.ofNat b.toNat = '\n' ↔ b = 10 :=
              ofNat_eq_lineFeed_iff.trans (@UInt8.toNat_inj b 10)
            simp only [List.count_cons, beq_iff_eq, hfeed, hnone]
        | pending p =>
            have hp : ∀ q ∈ some p, q.Long := by
              rintro q ⟨⟩
              exact long_of_lead hlead
            rw [count_cons_of_le (le_of_lead_pending hlead)]
            exact ih (some p) hp
        | invalid =>
            rw [count_cons_of_le (le_of_lead_invalid hlead), ← hnone]
            exact List.count_cons_of_ne (by decide)
      intro pending hlong
      cases pending with
      | none => exact hbetween
      | some p =>
          obtain ⟨bits, owed, low, high⟩ := p
          have hp : Pending.Long ⟨bits, owed, low, high⟩ := hlong _ rfl
          have hlow : 0x80 ≤ low := hp.le_low
          by_cases hrange : low ≤ b.toNat ∧ b.toNat ≤ high
          · rw [count_cons_of_le (Nat.le_trans hlow hrange.1)]
            cases owed with
            | zero =>
                have hbits : 0x80 ≤ bits * 64 + (low - 0x80) := hp.le_bits
                have hne : Char.ofNat (bits * 64 + (b.toNat - 0x80)) ≠ '\n' := by
                  rw [Ne, ofNat_eq_lineFeed_iff]
                  omega
                rw [decodeFrom_last hrange.1 hrange.2, lineFeeds, List.count_cons_of_ne hne]
                exact ih none (by simp)
            | succ owed =>
                rw [decodeFrom_owed hrange.1 hrange.2]
                exact ih _ fun q hq => Option.some.inj hq ▸ hp.next hrange.1
          · rw [decodeFrom_of_not_range hrange, lineFeeds, List.count_cons_of_ne (by decide)]
            exact hbetween

/-- There are as many line feeds in the text of any bytes as among the bytes. -/
theorem lineFeeds_decode (bytes : List UInt8) : lineFeeds (decode bytes) = bytes.count 10 :=
  lineFeeds_decodeFrom bytes none (by simp)

/-! ## Boundaries -/

/-- The bytes before this one are whole characters. -/
def Boundary (text : List Char) (position : Nat) : Prop :=
  ∃ front back, text = front ++ back ∧ (encode front).length = position

/-- Only no characters have no bytes. -/
theorem eq_nil_of_length_encode {text : List Char} (h : (encode text).length = 0) : text = [] := by
  cases text with
  | nil => rfl
  | cons c text =>
      have hbytes : String.utf8EncodeChar c ++ encode text = [] := List.eq_nil_of_length_eq_zero h
      exact absurd (List.append_eq_nil_iff.mp hbytes).1 String.utf8EncodeChar_ne_nil

/-- A boundary is not behind the last byte. -/
theorem Boundary.le_length {text : List Char} {position : Nat} (h : Boundary text position) :
    position ≤ (encode text).length := by
  obtain ⟨front, back, rfl, rfl⟩ := h
  rw [encode_append, List.length_append]
  omega

/-- A text of ASCII characters has one byte for each of them. -/
theorem length_encode_of_ascii {text : List Char} (h : ∀ c ∈ text, c.toNat < 128) :
    (encode text).length = text.length := by
  induction text with
  | nil => rfl
  | cons c text ih =>
      have hone : (String.utf8EncodeChar c).length = 1 := by
        have hc : c.val.toNat < 128 := h c List.mem_cons_self
        rw [String.utf8EncodeChar.eq_1, if_pos (by omega)]
        rfl
      show (String.utf8EncodeChar c ++ encode text).length = text.length + 1
      rw [List.length_append, hone, ih fun d hd => h d (List.mem_cons_of_mem c hd), Nat.add_comm]

theorem boundary_of_ascii {text : List Char} (h : ∀ c ∈ text, c.toNat < 128) {position : Nat}
    (hposition : position ≤ text.length) : Boundary text position := by
  refine ⟨text.take position, text.drop position, (List.take_append_drop position text).symm, ?_⟩
  rw [length_encode_of_ascii fun c hc => h c (List.mem_of_mem_take hc),
    List.length_take_of_le hposition]

/-- Of two beginnings of a text that with no more bytes is the beginning of the other. -/
theorem exists_append_of_length_encode_le {front back longer rest : List Char}
    (htext : front ++ back = longer ++ rest)
    (hle : (encode front).length ≤ (encode longer).length) : ∃ part, longer = front ++ part := by
  rcases List.append_eq_append_iff.mp htext with ⟨part, hlonger, _⟩ | ⟨part, hfront, _⟩
  · exact ⟨part, hlonger⟩
  · have hnone : part = [] := by
      rw [hfront, encode_append, List.length_append] at hle
      exact eq_nil_of_length_encode (by omega)
    exact ⟨[], by rw [hfront, hnone, List.append_nil, List.append_nil]⟩

/-- Of two parts of a text that with its bytes among those of the other is a part of it. -/
theorem infix_of_length_encode_le {front part back frontOuter whole backOuter : List Char}
    (htext : front ++ part ++ back = frontOuter ++ whole ++ backOuter)
    (hfirst : (encode frontOuter).length ≤ (encode front).length)
    (hlast : (encode (front ++ part)).length ≤ (encode (frontOuter ++ whole)).length) :
    part <:+: whole := by
  obtain ⟨behind, hbehind⟩ := exists_append_of_length_encode_le htext hlast
  rw [List.append_assoc, List.append_assoc] at htext
  obtain ⟨before, rfl⟩ := exists_append_of_length_encode_le htext.symm hfirst
  rw [List.append_assoc, List.append_assoc] at hbehind
  exact ⟨before, behind, by rw [List.append_cancel_left hbehind, List.append_assoc]⟩

/-- What lies between two boundaries is a part of the text. -/
theorem Boundary.exists_slice {text : List Char} {start stop : Nat} (hstart : Boundary text start)
    (hstop : Boundary text stop) (hle : start ≤ stop) :
    ∃ front part back, text = front ++ part ++ back ∧ (encode front).length = start ∧
      (encode (front ++ part)).length = stop := by
  obtain ⟨front, rest, htext, rfl⟩ := hstart
  obtain ⟨longer, back, htext', rfl⟩ := hstop
  obtain ⟨part, rfl⟩ := exists_append_of_length_encode_le (htext.symm.trans htext') hle
  exact ⟨front, part, back, htext', rfl, rfl⟩

end ChunkGraph.Text.Utf8
