import WastePickup.Number.Rounding

/-!
# Results that are numbers

A calculation with floats may come to something that is not a number. This does not happen as long
as the rules of the format are looked after: rounding, decimals and the cut to cents always give
numbers, and a product is one unless an infinity meets a zero.

* `isNaN_unpack_pack`: whether a value is a number is kept when it is packed into bits.
* `isNaN_of_le`: what compares with anything is a number.
* `isNaN_mul`: when a product is a number.
* `isNaN_floatCents`: a number that is cut to cents is a number.
-/

namespace WastePickup.Number

open Float.Model

/-! ## Packed values -/

/-- A packed value is not a number exactly when its exponent is all ones and its mantissa is not
zero. -/
theorem isNaN_unpack (spec : Format) (b : BitVec spec.numBits) :
    (UnpackedFloat.unpack spec b).isNaN = true ↔
      UnpackedFloat.unpackExponent b = -1#_ ∧ UnpackedFloat.unpackMantissa b ≠ 0#_ := by
  unfold UnpackedFloat.unpack
  dsimp only
  by_cases hexponent : UnpackedFloat.unpackExponent b = -1#_
  · rw [if_pos hexponent]
    by_cases hmantissa : UnpackedFloat.unpackMantissa b = 0#_
    · rw [if_pos hmantissa]
      exact iff_of_false Bool.false_ne_true fun h => h.2 hmantissa
    · rw [if_neg hmantissa]
      exact iff_of_true rfl ⟨hexponent, hmantissa⟩
  · rw [if_neg hexponent]
    refine iff_of_false ?_ fun h => hexponent h.1
    by_cases hzero : UnpackedFloat.unpackExponent b = 0#_
    · rw [if_pos hzero]
      by_cases hmantissa : UnpackedFloat.unpackMantissa b = 0#_
      · rw [dif_pos hmantissa]
        exact Bool.false_ne_true
      · rw [dif_neg hmantissa]
        exact Bool.false_ne_true
    · rw [if_neg hzero]
      exact Bool.false_ne_true

/-- A finite value is packed as an infinity if its exponent is too large for the format, and else
with an exponent that is not all ones. -/
theorem pack_finite (sign : UnpackedFloat.Sign) (m : Nat) (e : Int) (hm : 0 < m) :
    let b := UnpackedFloat.pack Format.binary64 (.finite sign m e hm)
    UnpackedFloat.unpackExponent b ≠ -1#_ ∨ UnpackedFloat.unpackMantissa b = 0#_ := by
  intro b
  dsimp only [b]
  unfold UnpackedFloat.pack
  dsimp only
  split
  · right
    simp [UnpackedFloat.packedInfinity]
  · rename_i hexponent
    left
    split
    · rw [UnpackedFloat.unpackExponent_packComponents]
      intro h
      have hnat := congrArg BitVec.toNat h
      have hones : (-1#11 : BitVec 11).toNat = 2047 := by decide
      simp only [BitVec.toNat_ofNat] at hnat
      change _ = (-1#11 : BitVec 11).toNat at hnat
      omega
    · rw [UnpackedFloat.unpackExponent_packComponents]
      decide

/-- Whether a value is a number is kept when it is packed. -/
theorem isNaN_unpack_pack (u : UnpackedFloat) :
    (UnpackedFloat.unpack Format.binary64 (UnpackedFloat.pack Format.binary64 u)).isNaN =
      u.isNaN := by
  cases u with
  | notANumber => decide
  | infinity sign => cases sign <;> decide
  | zero sign => cases sign <;> decide
  | finite sign m e hm =>
    refine Bool.eq_false_iff.2 fun h => ?_
    obtain ⟨hexponent, hmantissa⟩ := (isNaN_unpack _ _).1 h
    exact (pack_finite sign m e hm).elim (absurd hexponent) hmantissa

/-- A float that is the result of an operation is a number if the result was one before it was
packed. -/
theorem isNaN_ofModel_pack {u : UnpackedFloat} (hu : u.isNaN = false) :
    (Float.ofModel (Float.Model.pack u)).isNaN = false :=
  (isNaN_unpack_pack u).trans hu

/-! ## Operations -/

/-- Whichever of two numbers is taken, it is a number. -/
theorem isNaN_dite {c : Prop} [Decidable c] {u : c → UnpackedFloat} {v : ¬c → UnpackedFloat}
    (hu : ∀ h, (u h).isNaN = false) (hv : ∀ h, (v h).isNaN = false) :
    (dite c u v).isNaN = false := by
  by_cases h : c
  · rw [dif_pos h]
    exact hu h
  · rw [dif_neg h]
    exact hv h

/-- Rounding gives a number. -/
theorem isNaN_roundWithAccuracy (spec : Format) (sign : UnpackedFloat.Sign) (m : Nat) (e : Int)
    (a : UnpackedFloat.Accuracy) :
    (UnpackedFloat.roundWithAccuracy spec sign m e a).isNaN = false := by
  unfold UnpackedFloat.roundWithAccuracy
  exact isNaN_dite (fun _ => rfl) fun _ => rfl

/-- What is put into normal form is a number. -/
theorem isNaN_normalize (spec : Format) (m e : Int) (sign : UnpackedFloat.Sign) :
    (UnpackedFloat.normalize spec m e sign).isNaN = false := by
  unfold UnpackedFloat.normalize
  split
  · exact isNaN_roundWithAccuracy _ _ _ _ _
  · rfl
  · exact isNaN_roundWithAccuracy _ _ _ _ _

/-- A product of numbers is a number unless an infinity meets a zero. -/
theorem isNaN_unpackedMul (spec : Format) {u v : UnpackedFloat} (hu : u.isNaN = false)
    (hv : v.isNaN = false) (huv : u.isInf = true → ∀ sign, v ≠ .zero sign)
    (hvu : v.isInf = true → ∀ sign, u ≠ .zero sign) :
    (UnpackedFloat.mul spec u v).isNaN = false := by
  cases u with
  | notANumber => cases hu
  | infinity sign =>
    cases v with
    | notANumber => cases hv
    | infinity => rfl
    | zero sign' => exact absurd rfl (huv rfl sign')
    | finite => rfl
  | zero sign =>
    cases v with
    | notANumber => cases hv
    | infinity => exact absurd rfl (hvu rfl sign)
    | zero => rfl
    | finite => rfl
  | finite sign m e hm =>
    cases v with
    | notANumber => cases hv
    | infinity => rfl
    | zero => rfl
    | finite => exact isNaN_roundWithAccuracy _ _ _ _ _

/-- A number divided by a finite one that is not zero is a number. -/
theorem isNaN_unpackedDiv (spec : Format) {u : UnpackedFloat} (hu : u.isNaN = false)
    (sign : UnpackedFloat.Sign) (m : Nat) (e : Int) (hm : 0 < m) :
    (UnpackedFloat.div spec u (.finite sign m e hm)).isNaN = false := by
  cases u with
  | notANumber => cases hu
  | infinity => rfl
  | zero => rfl
  | finite => exact isNaN_roundWithAccuracy _ _ _ _ _

/-- A decimal is a number, whatever its size. -/
theorem isNaN_unpackedOfScientific (spec : Format) (digits : Nat) (e : Int) :
    (UnpackedFloat.ofScientific spec digits e).isNaN = false := by
  unfold UnpackedFloat.ofScientific
  refine isNaN_dite (fun _ => rfl) fun _ => ?_
  by_cases hlarge : e > 2 ^ spec.exponentBits
  · rw [if_pos hlarge]
    rfl
  rw [if_neg hlarge]
  by_cases hsmall : e < -(2 ^ spec.exponentBits + (digits.log2 : Int))
  · rw [if_pos hsmall]
    rfl
  rw [if_neg hsmall]
  by_cases hwhole : 0 ≤ e
  · rw [if_pos hwhole]
    exact isNaN_roundWithAccuracy _ _ _ _ _
  · rw [if_neg hwhole]
    exact isNaN_unpackedDiv _ rfl _ _ _ _

/-- A number stays one when its sign is changed. -/
theorem isNaN_neg {x : Float} (hx : x.isNaN = false) : (-x).isNaN = false := by
  refine isNaN_ofModel_pack ?_
  have hu : x.toModel.unpack.isNaN = false := hx
  cases h : x.toModel.unpack with
  | notANumber => rw [h] at hu; cases hu
  | infinity | zero | finite => rfl

/-! ## Comparisons -/

/-- There is one value that is no number. -/
theorem eq_notANumber {u : UnpackedFloat} (h : u.isNaN = true) : u = .notANumber := by
  cases u with
  | notANumber => rfl
  | infinity | zero | finite => cases h

/-- Nothing compares with what is no number. -/
theorem compare_notANumber (u : UnpackedFloat) : u.compare .notANumber = none := by
  cases u <;> rfl

/-- A number compares as equal with itself. -/
theorem compare_self {u : UnpackedFloat} (hu : u.isNaN = false) : u.compare u = some .eq := by
  cases u with
  | notANumber => cases hu
  | infinity sign => cases sign <;> rfl
  | zero sign => rfl
  | finite sign m e hm =>
    have hsame : (compare e e).then (compare m m) = .eq := by
      simp [Std.ReflCmp.compare_self, Ordering.then]
    cases sign with
    | positive => exact congrArg some hsame
    | negative => exact congrArg (fun o => some o.swap) hsame

/-- What is at least something is a number. -/
theorem isNaN_of_le {l x : Float} (h : l ≤ x) : x.isNaN = false := by
  refine Bool.eq_false_iff.2 fun hx => ?_
  have hle : (l.toModel.unpack.compare x.toModel.unpack).any (·.isLE) = true :=
    of_decide_eq_true h
  have hnan : x.toModel.unpack = .notANumber := eq_notANumber hx
  rw [hnan, compare_notANumber] at hle
  cases hle

/-- What is above something is a number. -/
theorem isNaN_of_lt {l x : Float} (h : l < x) : x.isNaN = false := by
  refine Bool.eq_false_iff.2 fun hx => ?_
  have hlt : (l.toModel.unpack.compare x.toModel.unpack == some .lt) = true :=
    of_decide_eq_true h
  have hnan : x.toModel.unpack = .notANumber := eq_notANumber hx
  rw [hnan, compare_notANumber] at hlt
  cases hlt

/-- A value differs from itself exactly when it is not a number. -/
theorem bne_self (x : Float) : (x != x) = x.isNaN := by
  have hbeq : (x == x) = (x.toModel.unpack.compare x.toModel.unpack == some .eq) := rfl
  have hnan : x.isNaN = x.toModel.unpack.isNaN := rfl
  rw [bne, hbeq, hnan]
  cases h : x.toModel.unpack.isNaN with
  | true =>
    rw [eq_notANumber h]
    rfl
  | false =>
    rw [compare_self h]
    rfl

/-- The zero that is written without a sign is positive. -/
theorem unpack_zero : (0.0 : Float).toModel.unpack = .zero .positive := rfl

/-- A zero of either sign equals zero. -/
theorem beq_zero {x : Float} {sign : UnpackedFloat.Sign} (h : x.toModel.unpack = .zero sign) :
    (x == 0.0) = true := by
  have hbeq : (x == 0.0) =
      (x.toModel.unpack.compare (0.0 : Float).toModel.unpack == some .eq) := rfl
  rw [hbeq, unpack_zero, h]
  rfl

/-- What is above zero does not equal zero. -/
theorem unpack_ne_zero {x : Float} (h : 0.0 < x) (sign : UnpackedFloat.Sign) :
    x.toModel.unpack ≠ .zero sign := by
  intro hx
  have hlt : ((0.0 : Float).toModel.unpack.compare x.toModel.unpack == some .lt) = true :=
    of_decide_eq_true h
  rw [unpack_zero, hx] at hlt
  cases hlt

/-! ## Products and decimals -/

/-- A product of numbers is a number unless an infinity meets a zero. -/
theorem isNaN_mul {x y : Float} (hx : x.isNaN = false) (hy : y.isNaN = false)
    (hxy : x.isInf = true → ∀ sign, y.toModel.unpack ≠ .zero sign)
    (hyx : y.isInf = true → ∀ sign, x.toModel.unpack ≠ .zero sign) : (x * y).isNaN = false :=
  isNaN_ofModel_pack (isNaN_unpackedMul _ hx hy hxy hyx)

/-- The float nearest to a number of hundredths is a number. -/
theorem isNaN_ofScientific (digits : Nat) : (Float.ofScientific digits true 2).isNaN = false := by
  unfold Float.ofScientific
  split
  · -- Few digits: one division by the float that is a hundred.
    obtain ⟨sign, m, e, hm, hhundred⟩ : ∃ sign m e hm,
        (Float.ofBits 0x4059000000000000).toModel.unpack = .finite sign m e hm :=
      ⟨_, _, _, _, rfl⟩
    have hwhole : digits.toUInt64.toFloat.isNaN = false :=
      isNaN_ofModel_pack (isNaN_normalize _ _ _ _)
    refine isNaN_ofModel_pack ?_
    change (UnpackedFloat.div _ _ (Float.ofBits 0x4059000000000000).toModel.unpack).isNaN = false
    rw [hhundred]
    exact isNaN_unpackedDiv _ hwhole sign m e hm
  · exact isNaN_ofModel_pack (isNaN_unpackedOfScientific _ _ _)

/-- The float nearest to a decimal of hundredths is a number. -/
theorem isNaN_ofSignedDecimal (negative : Bool) (digits : Nat) :
    (ofSignedDecimal negative digits (-2)).isNaN = false := by
  have hdecimal : (ofDecimal digits (-2)).isNaN = false := by
    unfold ofDecimal
    simp only
    split
    · decide +kernel
    · split
      · decide +kernel
      · split
        · decide +kernel
        · exact isNaN_ofScientific digits
  unfold ofSignedDecimal
  split
  · exact isNaN_neg hdecimal
  · exact hdecimal

/-- A number that is cut to cents is a number. -/
theorem isNaN_floatCents {x : Float} (hx : x.isNaN = false) : (floatCents x).isNaN = false := by
  unfold floatCents
  split
  · exact hx
  · split
    · exact hx
    · exact isNaN_ofSignedDecimal _ _

end WastePickup.Number
