import WastePickup.Number.NaN

/-!
# Floats that are equal

Two floats are equal if they are the same number, whatever the sign of a zero. What is not a number
equals nothing. So equality of floats is symmetric and transitive, and what is computed from equal
floats differs at most where the sign of a zero counts.

* `beq_iff`: when two floats are equal.
* `beq_symm`, `beq_trans`: equality among numbers.
* `mul_positivePart_congr`: a price times equal weights.
-/

namespace WastePickup.Number

open Float.Model

/-- Two values are the same number, or zeros of either sign. -/
def SameNumber (u v : UnpackedFloat) : Prop :=
  (u.isNaN = false ∧ u = v) ∨ (∃ sign, u = .zero sign) ∧ ∃ sign, v = .zero sign

/-- To be the same number goes both ways. -/
theorem SameNumber.symm {u v : UnpackedFloat} (h : SameNumber u v) : SameNumber v u := by
  rcases h with ⟨hu, rfl⟩ | ⟨hu, hv⟩
  · exact .inl ⟨hu, rfl⟩
  · exact .inr ⟨hv, hu⟩

/-- Two values that are the same number as a third are the same number. -/
theorem SameNumber.trans {u v w : UnpackedFloat} (h : SameNumber u v) (h' : SameNumber v w) :
    SameNumber u w := by
  rcases h with ⟨hu, rfl⟩ | ⟨hu, hv⟩
  · exact h'
  · rcases h' with ⟨-, rfl⟩ | ⟨-, hw⟩
    · exact .inr ⟨hu, hv⟩
    · exact .inr ⟨hu, hw⟩

/-- Finite values compare by their signs, their exponents and their mantissas. -/
theorem eq_of_compare_finite {sign sign' : UnpackedFloat.Sign} {m m' : Nat} {e e' : Int}
    {hm : 0 < m} {hm' : 0 < m'}
    (h : (UnpackedFloat.finite sign m e hm).compare (.finite sign' m' e' hm') = some .eq) :
    UnpackedFloat.finite sign m e hm = .finite sign' m' e' hm' := by
  have hparts : sign = sign' ∧ (compare e e').then (compare m m') = .eq := by
    cases sign with
    | positive =>
      cases sign' with
      | positive => exact ⟨rfl, Option.some.inj h⟩
      | negative => cases h
    | negative =>
      cases sign' with
      | positive => cases h
      | negative => exact ⟨rfl, Ordering.swap_eq_eq.1 (Option.some.inj h)⟩
  obtain ⟨rfl, hcompare⟩ := hparts
  obtain ⟨hexponent, hmantissa⟩ := Ordering.then_eq_eq.1 hcompare
  obtain rfl : e = e' := Std.LawfulEqOrd.eq_of_compare hexponent
  obtain rfl : m = m' := Std.LawfulEqOrd.eq_of_compare hmantissa
  rfl

/-- Values compare as equal exactly if they are the same number. -/
theorem compare_eq_iff {u v : UnpackedFloat} : u.compare v = some .eq ↔ SameNumber u v := by
  constructor
  · intro h
    cases u with
    | notANumber => cases h
    | infinity sign =>
      cases v with
      | infinity sign' => exact .inl ⟨rfl, by cases sign <;> cases sign' <;> first | rfl | cases h⟩
      | notANumber => cases sign <;> cases h
      | zero | finite => cases sign <;> cases h
    | zero sign =>
      cases v with
      | zero sign' => exact .inr ⟨⟨_, rfl⟩, _, rfl⟩
      | notANumber => cases h
      | infinity sign' | finite sign' => cases sign' <;> cases h
    | finite sign m e hm =>
      cases v with
      | finite sign' m' e' hm' => exact .inl ⟨rfl, eq_of_compare_finite h⟩
      | notANumber => cases h
      | infinity sign' => cases sign' <;> cases h
      | zero => cases sign <;> cases h
  · rintro (⟨hu, rfl⟩ | ⟨⟨sign, rfl⟩, sign', rfl⟩)
    · exact compare_self hu
    · rfl

/-- Two floats are equal exactly if they are the same number. -/
theorem beq_iff {x y : Float} : (x == y) = true ↔ SameNumber x.toModel.unpack y.toModel.unpack := by
  have hbeq : (x == y) = (x.toModel.unpack.compare y.toModel.unpack == some .eq) := rfl
  rw [hbeq, beq_iff_eq, compare_eq_iff]

/-- Equality of floats goes both ways. -/
theorem beq_symm {x y : Float} (h : (x == y) = true) : (y == x) = true :=
  beq_iff.2 (beq_iff.1 h).symm

/-- Two floats that equal a third are equal. -/
theorem beq_trans {x y z : Float} (h : (x == y) = true) (h' : (y == z) = true) :
    (x == z) = true :=
  beq_iff.2 ((beq_iff.1 h).trans (beq_iff.1 h'))

/-- A product depends on the value of what is multiplied. -/
theorem mul_congr (x : Float) {y z : Float} (h : y.toModel.unpack = z.toModel.unpack) :
    x * y = x * z := by
  have hmul : ∀ y : Float, x * y = Float.ofModel (Float.Model.pack
      (UnpackedFloat.mul Format.binary64 x.toModel.unpack y.toModel.unpack)) := fun _ => rfl
  rw [hmul, hmul, h]

/-- So does what it is above. -/
theorem lt_congr (x : Float) {y z : Float} (h : y.toModel.unpack = z.toModel.unpack) :
    x < y ↔ x < z := by
  have hlt : ∀ y : Float, x < y ↔
      decide ((x.toModel.unpack.compare y.toModel.unpack == some .lt) = true) = true :=
    fun _ => Iff.rfl
  rw [hlt, hlt, h]

/-- A product with the positive part of a number is the same for equal numbers. -/
theorem mul_positivePart_congr (x : Float) {y z : Float} (h : (y == z) = true) :
    (x * if 0.0 < y then y else 0.0) = x * if 0.0 < z then z else 0.0 := by
  rcases beq_iff.1 h with ⟨-, hyz⟩ | ⟨⟨sign, hy⟩, sign', hz⟩
  · by_cases hpos : 0.0 < y
    · rw [if_pos hpos, if_pos ((lt_congr _ hyz).1 hpos)]
      exact mul_congr x hyz
    · rw [if_neg hpos, if_neg fun hz => hpos ((lt_congr _ hyz).2 hz)]
  · rw [if_neg fun hpos => unpack_ne_zero hpos sign hy,
      if_neg fun hpos => unpack_ne_zero hpos sign' hz]

/-- What equals something is a number. -/
theorem isNaN_of_beq {x y : Float} (h : (x == y) = true) : x.isNaN = false := by
  rcases beq_iff.1 h with ⟨hx, -⟩ | ⟨⟨sign, hx⟩, -⟩
  · exact hx
  · show x.toModel.unpack.isNaN = false
    rw [hx]
    rfl

end WastePickup.Number
