import WastePickup.Number.HalfEven
import WastePickup.Store

/-!
# What is paid lies inside the estimate

A customer is told two figures when a pickup is booked, and is paid a third one when the waste has
been weighed. The three are computed from different prices, and each is rounded by itself. What is
paid lies between the two figures for the same weight all the same, to the cent, because rounding
keeps the order of what is rounded. This is about exact numbers: prices, weights and amounts are
rationals, and only the cut to cents loses something.

* `Band.midpoint_mem`: the price in the middle of a band.
* `Band.amount_of_nonneg`, `Band.amount_of_nonpos`: what the clamp at zero does to an amount.
* `Band.amount?_band?_eq_none_iff`: when there is no amount at all.
* `amount_lies_in_estimate`: the amount, its estimates, and how they grow.
-/

namespace WastePickup

namespace Band

/-- A band of exact prices, none of them below zero and the least not above the greatest. -/
structure IsOrdered (band : Band Rat) : Prop where
  nonneg : 0 ≤ band.min
  min_le_max : band.min ≤ band.max

variable {band dearer : Band Rat} {v w : Rat}

/-- The price in the middle lies between the ends. -/
theorem midpoint_mem (h : band.min ≤ band.max) :
    band.min ≤ band.midpoint ∧ band.midpoint ≤ band.max := by
  show band.min ≤ (band.min + band.max) / 2 ∧ (band.min + band.max) / 2 ≤ band.max
  exact ⟨by linarith, by linarith⟩

/-- The middle price of a band in order is not negative. -/
theorem IsOrdered.midpoint_nonneg (h : band.IsOrdered) : 0 ≤ band.midpoint :=
  h.nonneg.trans (midpoint_mem h.min_le_max).1

/-- A band that is no cheaper at either end is no cheaper in the middle. -/
theorem midpoint_mono (hmin : band.min ≤ dearer.min) (hmax : band.max ≤ dearer.max) :
    band.midpoint ≤ dearer.midpoint := by
  show (band.min + band.max) / 2 ≤ (dearer.min + dearer.max) / 2
  linarith

/-! ## Amounts and the clamp -/

/-- What is priced of a weight is what it is above zero. -/
theorem amount_eq (w : Rat) :
    band.amount (some w) = Number.ratCents (band.midpoint * (w ⊔ 0)) := by
  show Number.ratCents (band.midpoint * if 0 < w then w else 0) = _
  by_cases hpos : 0 < w
  · rw [if_pos hpos, max_eq_left hpos.le]
  · rw [if_neg hpos, max_eq_right (not_lt.1 hpos)]

/-- A weight is paid for at the middle price. -/
theorem amount_of_nonneg (h : 0 ≤ w) :
    band.amount (some w) = Number.ratCents (band.midpoint * w) := by
  rw [amount_eq, max_eq_left h]

/-- Nothing is paid where there is no weight. -/
theorem amount_of_nonpos (h : w ≤ 0) : band.amount (some w) = 0 := by
  rw [amount_eq, max_eq_right h, mul_zero, Number.ratCents_zero]

/-- No weight is priced like a weight of zero. -/
theorem amount_none : band.amount none = 0 :=
  amount_of_nonpos (le_refl 0)

/-- No amount is negative where the band is in order. -/
theorem IsOrdered.amount_nonneg (h : band.IsOrdered) (w : Option Rat) : 0 ≤ band.amount w := by
  cases w with
  | none => exact amount_none.ge
  | some w =>
    rw [amount_eq]
    exact Number.ratCents_nonneg (mul_nonneg h.midpoint_nonneg (le_max_right w 0))

/-! ## More waste, dearer bands -/

/-- More waste is not estimated at less. -/
theorem IsOrdered.estimate_mono (h : band.IsOrdered) (hw : v ≤ w) :
    (band.estimate v).1 ≤ (band.estimate w).1 ∧ (band.estimate v).2 ≤ (band.estimate w).2 :=
  ⟨Number.ratCents_mono (mul_le_mul_of_nonneg_left hw h.nonneg),
    Number.ratCents_mono (mul_le_mul_of_nonneg_left hw (h.nonneg.trans h.min_le_max))⟩

/-- No less is paid for more weight. -/
theorem IsOrdered.amount_mono (h : band.IsOrdered) (hw : v ≤ w) :
    band.amount (some v) ≤ band.amount (some w) := by
  rw [amount_eq, amount_eq]
  exact Number.ratCents_mono
    (mul_le_mul_of_nonneg_left (max_le_max_right 0 hw) h.midpoint_nonneg)

/-- In a dearer band, waste is not estimated at less. -/
theorem estimate_le_of_dearer (hmin : band.min ≤ dearer.min) (hmax : band.max ≤ dearer.max)
    (hw : 0 ≤ w) : (band.estimate w).1 ≤ (dearer.estimate w).1 ∧
      (band.estimate w).2 ≤ (dearer.estimate w).2 :=
  ⟨Number.ratCents_mono (mul_le_mul_of_nonneg_right hmin hw),
    Number.ratCents_mono (mul_le_mul_of_nonneg_right hmax hw)⟩

/-- No less is paid where the band is no cheaper at either end. -/
theorem amount_le_of_dearer (hmin : band.min ≤ dearer.min) (hmax : band.max ≤ dearer.max)
    (w : Rat) : band.amount (some w) ≤ dearer.amount (some w) := by
  rw [amount_eq, amount_eq]
  exact Number.ratCents_mono
    (mul_le_mul_of_nonneg_right (midpoint_mono hmin hmax) (le_max_right w 0))

/-! ## Categories without a band -/

/-- There is no amount exactly where there is no band. -/
theorem amount?_eq_none_iff {α : Type} [Priced α] (prices : Option (Band α)) (w : Option α) :
    Band.amount? prices w = none ↔ prices = none :=
  Option.map_eq_none_iff

/-- There is no amount exactly where there is no price row. -/
theorem amount?_band?_eq_none_iff (s : Store) (category : Int) (w : Option Float) :
    Band.amount? (s.band? category) w = none ↔
      ∀ row ∈ s.pricing.rows, row.wasteCategory ≠ category := by
  rw [amount?_eq_none_iff]
  simp [Store.band?, Store.pricing?]

end Band

/-- For a weight that is not below zero, the amount lies between the two figures of the estimate.
Estimates and amounts do not fall as the weight grows, nor as either end of the band does. The
amount is zero for weights of zero and below, and is never below zero. There is an amount unless the
category has no price row. -/
theorem amount_lies_in_estimate {band : Band Rat} (ordered : band.IsOrdered) :
    (∀ w, 0 ≤ w → (band.estimate w).1 ≤ band.amount (some w) ∧
      band.amount (some w) ≤ (band.estimate w).2) ∧
    (∀ v w, v ≤ w → (band.estimate v).1 ≤ (band.estimate w).1 ∧
      (band.estimate v).2 ≤ (band.estimate w).2 ∧ band.amount (some v) ≤ band.amount (some w)) ∧
    (∀ dearer : Band Rat, band.min ≤ dearer.min → band.max ≤ dearer.max → ∀ w, 0 ≤ w →
      (band.estimate w).1 ≤ (dearer.estimate w).1 ∧ (band.estimate w).2 ≤ (dearer.estimate w).2 ∧
      band.amount (some w) ≤ dearer.amount (some w)) ∧
    (∀ w, w ≤ 0 → band.amount (some w) = 0) ∧ (∀ w, 0 ≤ band.amount w) ∧
    (∀ (prices : Option (Band Rat)) w, Band.amount? prices w = none ↔ prices = none) ∧
    ∀ (s : Store) (category : Int) (w : Option Float),
      Band.amount? (s.band? category) w = none ↔
        ∀ row ∈ s.pricing.rows, row.wasteCategory ≠ category := by
  refine ⟨fun w hw => ?inside, fun v w hw => ?weights, fun dearer hmin hmax w hw => ?prices,
    fun w hw => Band.amount_of_nonpos hw, ordered.amount_nonneg, Band.amount?_eq_none_iff,
    Band.amount?_band?_eq_none_iff⟩
  case inside =>
    obtain ⟨hlow, hhigh⟩ := Band.midpoint_mem ordered.min_le_max
    rw [Band.amount_of_nonneg hw]
    exact ⟨Number.ratCents_mono (mul_le_mul_of_nonneg_right hlow hw),
      Number.ratCents_mono (mul_le_mul_of_nonneg_right hhigh hw)⟩
  case weights =>
    obtain ⟨hmin, hmax⟩ := ordered.estimate_mono hw
    exact ⟨hmin, hmax, ordered.amount_mono hw⟩
  case prices =>
    obtain ⟨hlow, hhigh⟩ := Band.estimate_le_of_dearer hmin hmax hw
    exact ⟨hlow, hhigh, Band.amount_le_of_dearer hmin hmax w⟩

/-- Both figures lie on a half cent and are rounded in different directions; the amount is between
them. -/
theorem half_cents_enclose_amount :
    let band : Band Rat := ⟨1 / 200, 3 / 200⟩
    band.estimate 1 = (0, 1 / 50) ∧ band.amount (some 1) = 1 / 100 ∧
      (band.estimate 1).1 ≤ band.amount (some 1) ∧ band.amount (some 1) ≤ (band.estimate 1).2 := by
  intro band
  have ordered : band.IsOrdered := ⟨by decide +kernel, by decide +kernel⟩
  exact ⟨by decide +kernel, by decide +kernel,
    (amount_lies_in_estimate ordered).1 1 (by decide)⟩

end WastePickup
