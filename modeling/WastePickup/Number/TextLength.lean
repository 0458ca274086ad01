import Mathlib.Algebra.Group.Nat.Defs
import WastePickup.Number.Digits

/-!
# How long the text of a float is

The compact text of a float has six digits at most and an exponent of three, because a float is less
than `2 ^ 1024` and a part of `2 ^ 1074`. So there is a bound on its length that holds for all
floats, the infinite ones and those that are no numbers included.

* `Digits.lt_of_leadOf`: a quotient is less than the power of ten after its first digit.
* `Digits.digits_cut_lt`: cutting to a number of digits gives no more digits than that.
* `Dyadic.natAbs_leadOf_lt`: the first digit of a float is not far from the point.
* `length_compactText_le`: the compact text has thirteen characters at most.
-/

namespace WastePickup.Number

/-! ## Digits of whole numbers -/

/-- A number has a digit at least. -/
theorem digitCount_pos (n : Nat) : 0 < digitCount n :=
  Nat.length_toDigits_pos

/-- A number has at most as many digits as a power of ten above it says. -/
theorem digitCount_le_iff {n k : Nat} (h : 0 < k) : digitCount n ≤ k ↔ n < 10 ^ k :=
  Nat.length_toDigits_le_iff (by decide) h

/-- A number is less than the power of ten with as many zeros as it has digits. -/
theorem lt_pow_digitCount (n : Nat) : n < 10 ^ digitCount n :=
  (digitCount_le_iff (digitCount_pos n)).1 (Nat.le_refl _)

/-- A number is at least the power of ten of its first digit. -/
theorem pow_digitCount_le {n : Nat} (h : 0 < n) : 10 ^ (digitCount n - 1) ≤ n := by
  by_cases hone : digitCount n = 1
  · rw [hone]
    exact h
  · have hpos := digitCount_pos n
    refine Nat.le_of_not_lt fun hlt => ?_
    have hle := (digitCount_le_iff (by omega)).2 hlt
    omega

/-! ## Cutting -/

/-- A bound on a quotient by a power of ten may be written with other powers of the same ratio. -/
theorem mul_pow_lt_of_ratio {num den k m k' m' : Nat} (h : num * 10 ^ k < den * 10 ^ m)
    (ratio : m' + k = m + k') : num * 10 ^ k' < den * 10 ^ m' := by
  refine Nat.lt_of_mul_lt_mul_right (a := 10 ^ k) ?_
  calc num * 10 ^ k' * 10 ^ k = num * 10 ^ k * 10 ^ k' := Nat.mul_right_comm ..
    _ < den * 10 ^ m * 10 ^ k' := Nat.mul_lt_mul_of_pos_right h (Nat.pow_pos (by decide))
    _ = den * 10 ^ m' * 10 ^ k := by
      rw [Nat.mul_assoc, Nat.mul_assoc, ← Nat.pow_add, ← Nat.pow_add, ratio]

/-- What is less than a multiple is not rounded beyond it. -/
theorem roundQuotient_le_of_lt {num den bound : Nat} (h : num < den * bound) :
    roundQuotient num den ≤ bound := by
  have hpos : 0 < den := Nat.pos_of_mul_pos_right (Nat.lt_of_le_of_lt (Nat.zero_le _) h)
  have hround : 2 * den * roundQuotient num den ≤ 2 * num + den := roundQuotient_le hpos
  refine Nat.le_of_not_lt fun hlt => ?_
  have hmul : 2 * den * (bound + 1) ≤ 2 * den * roundQuotient num den :=
    Nat.mul_le_mul_left _ hlt
  rw [Nat.mul_add, Nat.mul_assoc] at hmul
  omega

namespace Digits

/-- A quotient is less than the power of ten after its first digit. -/
theorem lt_of_leadOf {num den k m : Nat} (h : 0 < den)
    (ratio : (m : Int) - k = leadOf num den + 1) : num * 10 ^ k < den * 10 ^ m := by
  unfold leadOf at ratio
  simp only at ratio
  split at ratio
  · have hnum := lt_pow_digitCount num
    have hden := pow_digitCount_le h
    have hpos := digitCount_pos den
    refine mul_pow_lt_of_ratio (k := digitCount den - 1) (m := digitCount num) ?_ (by omega)
    calc num * 10 ^ (digitCount den - 1) < 10 ^ digitCount num * 10 ^ (digitCount den - 1) :=
          Nat.mul_lt_mul_of_pos_right hnum (Nat.pow_pos (by decide))
      _ ≤ 10 ^ digitCount num * den := Nat.mul_le_mul_left _ hden
      _ = den * 10 ^ digitCount num := Nat.mul_comm ..
  · rename_i hless
    exact mul_pow_lt_of_ratio (Nat.lt_of_not_le hless) (by omega)

/-- Cutting to a number of digits gives no more digits than that. -/
theorem digits_cut_lt {num den count : Nat} (h : 0 < den) (hcount : 0 < count) :
    (cut roundQuotient num den count).digits < 10 ^ count := by
  unfold cut
  simp only
  split
  · exact Nat.pow_lt_pow_right (by decide) (Nat.sub_lt hcount (by decide))
  · rename_i hcarry
    refine Nat.lt_of_le_of_ne (roundQuotient_le_of_lt ?_) hcarry
    show num * 10 ^ _ < den * 10 ^ _ * 10 ^ _
    rw [Nat.mul_assoc, ← Nat.pow_add]
    exact lt_of_leadOf h (by omega)

/-- A carry moves the first digit by one. -/
theorem natAbs_lead_cut_le (round : Nat → Nat → Nat) (num den count : Nat) :
    (cut round num den count).lead.natAbs ≤ (leadOf num den).natAbs + 1 := by
  unfold cut
  simp only
  split
  · show (leadOf num den + 1).natAbs ≤ _
    omega
  · exact Nat.le_succ _

/-- The text has no more characters than there are digits. -/
theorem length_text_le {d : Digits} {count : Nat} (hcount : 0 < count)
    (h : d.digits < 10 ^ count) : d.text.length ≤ count := by
  unfold text
  rw [List.length_reverse]
  refine Nat.le_trans (List.dropWhile_suffix _).length_le ?_
  rw [List.length_reverse]
  exact (digitCount_le_iff hcount).2 h

end Digits

/-! ## The size of a float -/

namespace Dyadic

/-- A float has 53 bits, which end between the bit of `2 ^ -1074` and that of `2 ^ 971`. -/
theorem ofFloat?_bounds {x : Float} {d : Dyadic} (h : ofFloat? x = some d) :
    d.mantissa < 2 ^ 53 ∧ -1074 ≤ d.exponent ∧ d.exponent ≤ 971 := by
  unfold ofFloat? at h
  simp only at h
  split at h
  · cases h
  · split at h
    · cases h
      simp only
      omega
    · cases h
      simp only
      omega

/-- The first digit of a float is not far from the point. -/
theorem natAbs_leadOf_lt {x : Float} {d : Dyadic} (h : ofFloat? x = some d) :
    (Digits.leadOf d.num d.den).natAbs < 700 := by
  obtain ⟨hmantissa, hleast, hgreatest⟩ := ofFloat?_bounds h
  have hnum : digitCount d.num ≤ 309 := by
    refine (digitCount_le_iff (by decide)).2 ?_
    calc d.num = d.mantissa * 2 ^ d.exponent.toNat := Nat.shiftLeft_eq ..
      _ < 2 ^ 53 * 2 ^ d.exponent.toNat :=
        Nat.mul_lt_mul_of_pos_right hmantissa (Nat.two_pow_pos _)
      _ ≤ 2 ^ 53 * 2 ^ 971 :=
        Nat.mul_le_mul_left _ (Nat.pow_le_pow_right (by decide) (by omega))
      _ < 10 ^ 309 := by decide +kernel
  have hden : digitCount d.den ≤ 324 := by
    refine (digitCount_le_iff (by decide)).2 ?_
    calc d.den = 2 ^ (-d.exponent).toNat := Nat.one_shiftLeft _
      _ ≤ 2 ^ 1074 := Nat.pow_le_pow_right (by decide) (by omega)
      _ < 10 ^ 324 := by decide +kernel
  unfold Digits.leadOf
  simp only
  split <;> omega

end Dyadic

/-! ## Setting out -/

namespace Layout

/-- An exponent of three digits at most, with its sign. -/
theorem length_exponentText_le {e : Int} (h : e.natAbs < 1000) :
    (exponentText e).length ≤ 4 := by
  have hdigits : (Nat.toDigits 10 e.natAbs).length ≤ 3 := (digitCount_le_iff (by decide)).2 h
  unfold exponentText
  simp only [List.length_cons]
  split
  · simp only [List.length_cons]
    omega
  · omega

/-- Six digits that are set out have the point and the exponent besides. -/
theorem length_place_le {digits : List Char} {lead : Int} (h : digits.length ≤ 6)
    (hlead : lead.natAbs < 1000) : ((⟨6, false⟩ : Layout).place digits lead).length ≤ 12 := by
  have hexponent := length_exponentText_le hlead
  unfold place
  split
  · -- One digit, the point, five more, and the exponent behind its letter.
    simp only [List.length_append, List.length_cons, List.length_take]
    split
    · simp only [List.length_nil]
      omega
    · simp only [List.length_cons, List.length_drop]
      omega
  · rename_i hplain
    simp only [not_or, Int.not_lt, Int.not_le] at hplain
    split
    · simp only [List.length_cons, List.length_append, List.length_replicate]
      omega
    · -- Up to six digits before the point; what is behind it is among the six that are given.
      simp only [Bool.false_eq_true, if_false, List.append_nil]
      split
      · simp only [List.length_append, List.length_take, List.length_replicate]
        omega
      · simp only [List.length_append, List.length_take, List.length_replicate, List.length_cons,
          List.length_drop]
        omega

end Layout

/-- The compact text of a float has thirteen characters at most. -/
theorem length_compactText_le (x : Float) : (compactText x).length ≤ 13 := by
  unfold compactText Layout.render
  split
  · split
    · decide
    · split <;> decide
  · rename_i d hd
    rw [String.length_ofList]
    have hmagnitude : ∀ magnitude : List Char, magnitude.length ≤ 12 →
        (if d.negative then '-' :: magnitude else magnitude).length ≤ 13 := by
      intro magnitude hlength
      split
      · exact Nat.succ_le_succ hlength
      · exact Nat.le_succ_of_le hlength
    refine hmagnitude _ ?_
    split
    · decide
    · have hlead := Digits.natAbs_lead_cut_le roundQuotient d.num d.den 6
      have hfar := Dyadic.natAbs_leadOf_lt hd
      have hdigits : (Digits.cut roundQuotient d.num d.den 6).digits < 10 ^ 6 :=
        Digits.digits_cut_lt d.den_pos (by decide)
      have hnear : (Digits.cut roundQuotient d.num d.den 6).lead.natAbs < 1000 := by omega
      exact Layout.length_place_le (Digits.length_text_le (by decide) hdigits) hnear

end WastePickup.Number
