import Mathlib.Algebra.Order.Field.Rat
import Mathlib.Data.Rat.Lemmas
import Mathlib.Tactic.Linarith
import Mathlib.Tactic.FieldSimp
import WastePickup.Number.Rounding

/-!
# Rounding to the nearest whole number, half to even

What it means to round half to even is said without a formula (`IsNearestEven`): no whole number is
nearer, and of two that are equally near the even one is taken. Rounding quotients is of that kind,
and so is cutting rationals to cents. The rest follows from what it means: the order of numbers is
kept by rounding, also where a half goes up on one side and down on the other.

* `isNearestEven_roundQuotient`, `exists_isNearestEven_ratCents`: the roundings in use.
* `IsNearestEven.mono`: rounding keeps the order.
* `ratCents_mono`: so does cutting to cents.
-/

namespace WastePickup.Number

/-- A whole number is nearest to a rational; if another one is as near, it is the even one of the
two. -/
structure IsNearestEven (y : Rat) (n : Int) : Prop where
  nearest : |y - n| ≤ 1 / 2
  even_of_tie : |y - n| = 1 / 2 → Even n

namespace IsNearestEven

variable {y z : Rat} {m n : Int}

/-- What is nearest stays so when both are reflected at zero. -/
theorem neg (h : IsNearestEven y n) : IsNearestEven (-y) (-n) where
  nearest := by
    rw [Int.cast_neg, ← neg_sub', abs_neg]
    exact h.nearest
  even_of_tie tie := by
    rw [Int.cast_neg, ← neg_sub', abs_neg] at tie
    exact (h.even_of_tie tie).neg

/-- Rounding keeps the order: were the lesser number rounded to more, both would lie half way
between neighbours that are both even. -/
theorem mono (hm : IsNearestEven y m) (hn : IsNearestEven z n) (h : y ≤ z) : m ≤ n := by
  by_contra hlt
  have hgap : (n : Rat) + 1 ≤ m := by exact_mod_cast Int.add_one_le_of_lt (not_le.1 hlt)
  obtain ⟨hlow, -⟩ := abs_le.1 hm.nearest
  obtain ⟨-, hhigh⟩ := abs_le.1 hn.nearest
  have hnext : (m : Rat) = n + 1 := by linarith
  have hy : y - m = -(1 / 2) := by linarith
  have hz : z - n = 1 / 2 := by linarith
  have hmeven : Even m := hm.even_of_tie (by rw [hy]; norm_num)
  have hneven : Even n := hn.even_of_tie (by rw [hz]; norm_num)
  have hodd : m = n + 1 := by exact_mod_cast hnext
  rw [hodd, Int.even_add_one] at hmeven
  exact hmeven hneven

end IsNearestEven

/-! ## The roundings in use -/

/-- A remainder is half of the divisor where the doubled quotient is an odd number. -/
theorem two_mul_mod_of_odd {num den odd : Nat} (h : 2 * num = den * odd) (hodd : odd % 2 = 1) :
    2 * (num % den) = den := by
  rw [← Nat.mul_mod_mul_left, h, Nat.mul_comm 2 den, Nat.mul_mod_mul_left, hodd, Nat.mul_one]

/-- A quotient is rounded half to even. -/
theorem isNearestEven_roundQuotient {num den : Nat} (h : 0 < den) :
    IsNearestEven (num / den) (roundQuotient num den) := by
  have hden : (0 : Rat) < den := by exact_mod_cast h
  have hle : (2 * den * roundQuotient num den : Rat) ≤ 2 * num + den := by
    exact_mod_cast roundQuotient_le h
  have hge : (2 * num : Rat) ≤ 2 * den * roundQuotient num den + den := by
    exact_mod_cast le_roundQuotient h
  have hgap : (num / den - (roundQuotient num den : Int) : Rat) =
      (num - den * roundQuotient num den) / den := by
    rw [Int.cast_natCast]
    field_simp
  constructor
  case nearest =>
    rw [hgap, abs_le, le_div_iff₀ hden, div_le_iff₀ hden]
    exact ⟨by linarith, by linarith⟩
  case even_of_tie =>
    intro tie
    have hhalf : 2 * (num % den) = den := by
      rw [hgap, abs_eq (by norm_num), div_eq_iff hden.ne', div_eq_iff hden.ne'] at tie
      rcases tie with above | below
      · have hodd : (2 * num : Rat) = den * (2 * roundQuotient num den + 1) := by linarith
        exact two_mul_mod_of_odd (by exact_mod_cast hodd) (by omega)
      · have hodd : (2 * num + den : Rat) = den * (2 * roundQuotient num den) := by linarith
        have hodd : 2 * num + den = den * (2 * roundQuotient num den) := by exact_mod_cast hodd
        have hpos : 1 ≤ 2 * roundQuotient num den :=
          Nat.pos_of_ne_zero fun hzero => by rw [hzero] at hodd; omega
        have hodd : 2 * num = den * (2 * roundQuotient num den - 1) := by
          rw [Nat.mul_sub, ← hodd]
          omega
        exact two_mul_mod_of_odd hodd (by omega)
    have heven := roundQuotient_even_of_tie hhalf
    rw [Int.even_iff]
    omega

/-- Cents are hundredths, rounded half to even. -/
theorem exists_isNearestEven_ratCents (x : Rat) :
    ∃ n : Int, IsNearestEven (100 * x) n ∧ ratCents x = n / 100 := by
  have habs : (((100 * x.num.natAbs : Nat) : Rat) / x.den) = 100 * |x| := by
    rw [Rat.abs_def, Rat.divInt_eq_div, Nat.cast_mul, Int.cast_natCast, Int.cast_natCast,
      mul_div_assoc]
    rfl
  have hround : IsNearestEven (((100 * x.num.natAbs : Nat) : Rat) / x.den)
      (roundQuotient (100 * x.num.natAbs) x.den) := isNearestEven_roundQuotient x.den_pos
  rw [habs] at hround
  unfold ratCents
  simp only [Rat.mkRat_eq_div]
  by_cases hneg : x.num < 0
  · rw [abs_of_neg (Rat.num_neg.1 hneg), mul_neg] at hround
    refine ⟨_, neg_neg (100 * x) ▸ hround.neg, ?_⟩
    rw [if_pos hneg]
    norm_num
  · rw [abs_of_nonneg (Rat.num_nonneg.1 (not_lt.1 hneg))] at hround
    refine ⟨_, hround, ?_⟩
    rw [if_neg hneg]
    norm_num

/-- Cutting to cents keeps the order. -/
theorem ratCents_mono {x y : Rat} (h : x ≤ y) : ratCents x ≤ ratCents y := by
  obtain ⟨m, hm, hx⟩ := exists_isNearestEven_ratCents x
  obtain ⟨n, hn, hy⟩ := exists_isNearestEven_ratCents y
  have hle : (m : Rat) ≤ n := by exact_mod_cast hm.mono hn (by linarith)
  rw [hx, hy]
  linarith

/-- Nothing is to be cut from zero. -/
@[simp] theorem ratCents_zero : ratCents 0 = 0 := by decide

/-- An amount that is not negative is cut to one that is not. -/
theorem ratCents_nonneg {x : Rat} (h : 0 ≤ x) : 0 ≤ ratCents x :=
  ratCents_zero ▸ ratCents_mono h

end WastePickup.Number
