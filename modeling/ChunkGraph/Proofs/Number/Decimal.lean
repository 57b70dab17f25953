import ChunkGraph.Number.Decimal
import ChunkGraph.Number.Literal
import Mathlib.Algebra.Group.Nat.Defs
import Mathlib.Data.List.TakeWhile

/-!
# Reading decimal integers back

An integer that was written in decimal is read back, if it has no more digits
than are read. What is written consists of plain digits, after a minus sign if
the integer is negative. There is nothing around them that may be left out, and
no underscore between them, so the reader takes each digit for its value.

## Main results

* `exists_digits` — the digits of a natural number and their values.
* `length_natural_le` — how many digits there are.
* `readInt_integer` — what was written is read back.
-/

namespace ChunkGraph.Number

/-! ## Plain digits -/

theorem digitValue?_digit : ∀ value < 10, Text.digitValue? (digit value) = some value := by
  decide

/-- A plain digit is nothing else that the reader knows. -/
theorem digit_plain : ∀ value < 10, digit value ≠ '_' ∧ digit value ≠ '-' ∧ digit value ≠ '+' ∧
    digit value ≠ ':' ∧ isMargin (digit value) = false := by
  decide

theorem ofDigits_concat (values : List Nat) (value : Nat) :
    ofDigits (values ++ [value]) = 10 * ofDigits values + value := by
  unfold ofDigits
  rw [List.foldl_append]
  rfl

/-- A natural number is written as plain digits with its value. -/
theorem exists_digits (n : Nat) : ∃ values, natural n = values.map digit ∧ values ≠ [] ∧
    (∀ value ∈ values, value < 10) ∧ ofDigits values = n := by
  induction n using Nat.strongRecOn with
  | ind n ih =>
      by_cases hsmall : n < 10
      · refine ⟨[n], natural_of_lt hsmall, List.cons_ne_nil _ _, ?_, ?_⟩
        · intro value hvalue
          rw [List.mem_singleton.mp hvalue]
          exact hsmall
        · show 10 * 0 + n = n
          omega
      · obtain ⟨values, hwritten, _, hvalues, hsum⟩ := ih (n / 10) (by omega)
        have hlast : n % 10 < 10 := Nat.mod_lt n (by omega)
        refine ⟨values ++ [n % 10], ?_, by simp, ?_, ?_⟩
        · rw [natural_of_le (by omega), hwritten, List.map_append]
          rfl
        · intro value hvalue
          rcases List.mem_append.mp hvalue with hfront | hback
          · exact hvalues value hfront
          · rw [List.mem_singleton.mp hback]
            exact hlast
        · rw [ofDigits_concat, hsum]
          omega

/-- A number below a power of ten has no more digits than the exponent says. -/
theorem length_natural_le {n k : Nat} (hpos : 0 < k) (h : n < 10 ^ k) :
    (natural n).length ≤ k := by
  induction k generalizing n with
  | zero => exact absurd hpos (Nat.lt_irrefl 0)
  | succ k ih =>
      by_cases hsmall : n < 10
      · rw [natural_of_lt hsmall, List.length_singleton]
        omega
      · have hlonger : 0 < k := by
          refine Nat.pos_of_ne_zero fun hzero => hsmall ?_
          rw [hzero] at h
          omega
        have hfront : n / 10 < 10 ^ k := by
          rw [Nat.pow_succ] at h
          exact Nat.div_lt_of_lt_mul (by omega)
        have hlength := ih hlonger hfront
        rw [natural_of_le (by omega), List.length_append, List.length_singleton]
        omega

/-! ## Reading -/

/-- Without underscores, the values of the digits are read one by one. -/
theorem digitValues?_map_digit {values : List Nat} (hne : values ≠ [])
    (h : ∀ value ∈ values, value < 10) : digitValues? (values.map digit) = some values := by
  induction values with
  | nil => exact absurd rfl hne
  | cons first rest ih =>
      have hfirst : first < 10 := h first List.mem_cons_self
      have hread := digitValue?_digit first hfirst
      cases rest with
      | nil =>
          unfold digitValues?
          rw [List.map_cons, List.map_nil]
          simp only [hread]
          rfl
      | cons second rest =>
          have hsecond := (digit_plain second (h second (by simp))).1
          have hrest := ih (List.cons_ne_nil _ _) fun value hvalue =>
            h value (List.mem_cons_of_mem first hvalue)
          rw [List.map_cons] at hrest
          rw [List.map_cons, List.map_cons, digitValues?]
          · rw [hread, hrest]
            rfl
          · exact fun hnil => absurd hnil (List.cons_ne_nil _ _)
          · intro tail hunderscore
            exact hsecond (List.cons.inj hunderscore).1

/-- Nothing is left out around a text without margins. -/
theorem withoutMargins_of_forall {text : List Char} (h : ∀ c ∈ text, isMargin c = false) :
    withoutMargins text = text := by
  have hdrop {chars : List Char} (hchars : ∀ c ∈ chars, isMargin c = false) :
      chars.dropWhile isMargin = chars := by
    cases chars with
    | nil => rfl
    | cons c rest =>
        rw [List.dropWhile_cons, hchars c List.mem_cons_self]
        rfl
  unfold withoutMargins Text.dropWhileRight
  rw [hdrop h, hdrop fun c hc => h c (List.mem_reverse.mp hc), List.reverse_reverse]

/-- Digits are read as the number they stand for, behind the sign that was taken. -/
theorem readInt_of_digits {text : List Char} {negative : Bool} {values : List Nat}
    (hmargins : ∀ c ∈ text, isMargin c = false)
    (hsign : takeSign text = (negative, values.map digit)) (hne : values ≠ [])
    (hvalues : ∀ value ∈ values, value < 10) (hlength : values.length ≤ maxDigits) :
    readInt text = .ok (Binary64.signed negative (ofDigits values)) := by
  have hall : ∀ c ∈ values.map digit, isDigitOrSeparator c = true := by
    intro c hc
    obtain ⟨value, hvalue, rfl⟩ := List.mem_map.mp hc
    unfold isDigitOrSeparator
    rw [digitValue?_digit value (hvalues value hvalue), Option.isSome_some, Bool.or_true]
  unfold readInt
  rw [withoutMargins_of_forall hmargins, hsign]
  dsimp only
  rw [List.takeWhile_eq_self_iff.mpr hall, digitValues?_map_digit hne hvalues]
  dsimp only
  rw [if_neg (by omega), if_neg (Nat.lt_irrefl _)]

/-- What was written in decimal is read back, unless it has more digits than are read. -/
theorem readInt_integer {n : Int} (h : n.natAbs < 10 ^ maxDigits) :
    readInt (integer n) = .ok n := by
  obtain ⟨values, hwritten, hne, hvalues, hsum⟩ := exists_digits n.natAbs
  have hlength : values.length ≤ maxDigits := by
    have hdigits := length_natural_le (by decide) h
    rw [hwritten, List.length_map] at hdigits
    exact hdigits
  have hmargins : ∀ c ∈ values.map digit, isMargin c = false := by
    intro c hc
    obtain ⟨value, hvalue, rfl⟩ := List.mem_map.mp hc
    exact (digit_plain value (hvalues value hvalue)).2.2.2.2
  cases n with
  | ofNat n =>
      have hsign : takeSign (values.map digit) = (false, values.map digit) := by
        obtain ⟨first, rest, rfl⟩ := List.exists_cons_of_ne_nil hne
        obtain ⟨_, hminus, hplus, _⟩ := digit_plain first (hvalues first List.mem_cons_self)
        rw [List.map_cons, takeSign]
        · intro tail htail
          exact hminus (List.cons.inj htail).1
        · intro tail htail
          exact hplus (List.cons.inj htail).1
      have hread := readInt_of_digits hmargins hsign hne hvalues hlength
      rw [hsum] at hread
      rw [← hwritten] at hread
      exact hread
  | negSucc n =>
      have hminus : ∀ c ∈ '-' :: values.map digit, isMargin c = false :=
        List.forall_mem_cons.mpr ⟨by decide, hmargins⟩
      have hread := readInt_of_digits hminus rfl hne hvalues hlength
      rw [hsum, ← hwritten] at hread
      exact hread

end ChunkGraph.Number
