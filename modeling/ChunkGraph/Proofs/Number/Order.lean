import ChunkGraph.Number.Quantity

/-!
# The order of quantities

Quotients are compared by multiplying across, which is the order of the
rationals because every denominator is positive. So one quantity is less than
another exactly if both have a place on the line and the places stand in that
order. An undefined number has no place: it is less than nothing, and nothing is
less than it.

## Main results

* `Quantity.lt_iff` — what it means to be less.
* `Quantity.lt_trans`, `Quantity.lt_irrefl` — being less is a strict order.
-/

namespace ChunkGraph.Number

theorem Binary64.ratio_den_pos (significand : Nat) (exponent : Int) :
    0 < (ratio significand exponent).2 := by
  unfold ratio
  split
  · exact Nat.two_pow_pos _
  · exact Nat.one_pos

namespace Level

/-- A quotient has a positive denominator. -/
def Proper : Level → Prop
  | .rational _ den => 0 < den
  | _ => True

theorem compare_bottom_ne (a : Level) : a.compare .bottom ≠ .lt := by
  cases a with
  | bottom => decide
  | rational num den => simp [compare]
  | top => decide

theorem top_compare_ne (b : Level) : top.compare b ≠ .lt := by
  cases b with
  | bottom => decide
  | rational num den => simp [compare]
  | top => decide

theorem compare_self_ne (a : Level) : a.compare a ≠ .lt := by
  cases a with
  | bottom => decide
  | rational num den => simp [compare]
  | top => decide

theorem compare_rational {a c : Int} {b d : Nat} :
    (rational a b).compare (rational c d) = .lt ↔ a * d < c * b := Int.compare_eq_lt

/-- Multiplying across, quotients are compared one through another. -/
theorem mul_lt_mul_trans {a c e : Int} {b d f : Nat} (hb : 0 < b) (hf : 0 < f)
    (hac : a * d < c * b) (hce : c * f < e * d) : a * f < e * b := by
  have hfirst : a * d * f < c * b * f :=
    Int.mul_lt_mul_of_pos_right hac (Int.natCast_pos.mpr hf)
  have hsecond : c * f * b < e * d * b :=
    Int.mul_lt_mul_of_pos_right hce (Int.natCast_pos.mpr hb)
  have hmiddle : c * b * f = c * f * b := Int.mul_right_comm c b f
  have hall : a * f * d < e * b * d := by
    calc a * f * d = a * d * f := Int.mul_right_comm a f d
      _ < c * b * f := hfirst
      _ = c * f * b := hmiddle
      _ < e * d * b := hsecond
      _ = e * b * d := Int.mul_right_comm e d b
  exact Int.lt_of_mul_lt_mul_right hall (Int.natCast_nonneg d)

theorem compare_trans {a b c : Level} (ha : a.Proper) (hc : c.Proper) (hab : a.compare b = .lt)
    (hbc : b.compare c = .lt) : a.compare c = .lt := by
  cases a with
  | top => exact absurd hab (top_compare_ne b)
  | bottom =>
      cases c with
      | bottom => exact absurd hbc (compare_bottom_ne b)
      | rational num den => rfl
      | top => rfl
  | rational num den =>
      cases c with
      | bottom => exact absurd hbc (compare_bottom_ne b)
      | top => rfl
      | rational num' den' =>
          cases b with
          | bottom => exact absurd hab (compare_bottom_ne _)
          | top => exact absurd hbc (top_compare_ne _)
          | rational num'' den'' =>
              rw [compare_rational] at hab hbc ⊢
              exact mul_lt_mul_trans ha hc hab hbc

end Level

namespace Quantity

variable {x y z : Quantity}

theorem proper_of_level? {level : Level} (h : x.level? = some level) : level.Proper := by
  cases x with
  | whole n =>
      obtain rfl := Option.some.inj h
      exact Nat.one_pos
  | float x =>
      cases x with
      | finite negative significand exponent =>
          obtain rfl := Option.some.inj h
          exact Binary64.ratio_den_pos significand exponent
      | infinite negative =>
          obtain rfl := Option.some.inj h
          cases negative with
          | true => trivial
          | false => trivial
      | nan negative => exact absurd h (by simp [level?, Binary64.level?])

/-- One quantity is less than another if both have a place and the places stand in that order. -/
theorem lt_iff : x.lt y = true ↔
    ∃ a b, x.level? = some a ∧ y.level? = some b ∧ a.compare b = .lt := by
  unfold lt compare?
  cases x.level? with
  | none => simp
  | some a =>
      cases y.level? with
      | none => simp
      | some b => simp

theorem lt_trans (hxy : x.lt y = true) (hyz : y.lt z = true) : x.lt z = true := by
  obtain ⟨a, b, ha, hb, hab⟩ := lt_iff.mp hxy
  obtain ⟨b', c, hb', hc, hbc⟩ := lt_iff.mp hyz
  obtain rfl := Option.some.inj (hb.symm.trans hb')
  refine lt_iff.mpr ⟨a, c, ha, hc, ?_⟩
  exact Level.compare_trans (proper_of_level? ha) (proper_of_level? hc) hab hbc

theorem lt_irrefl (x : Quantity) : x.lt x = false := by
  rw [← Bool.not_eq_true, lt_iff]
  rintro ⟨a, b, ha, hb, hab⟩
  obtain rfl := Option.some.inj (ha.symm.trans hb)
  exact Level.compare_self_ne a hab

end Quantity

end ChunkGraph.Number
