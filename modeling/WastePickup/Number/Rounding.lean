import WastePickup.Number.Given

/-!
# Rounding

Amounts have two decimals. A finite double is a whole number times a power of two;
`Dyadic.ofFloat?` takes it apart exactly, so that it can be rounded on its exact value. One rule of
rounding serves every place where a decimal is cut: the nearest whole number, and of two equally
near ones the even one.

* `roundQuotient_le`, `le_roundQuotient`: the result is within half a unit of the quotient.
* `roundQuotient_even_of_tie`: a tie goes to the even neighbour.
-/

namespace WastePickup.Number

/-! ## The exact value of a float -/

/-- The number `± mantissa · 2 ^ exponent`. -/
structure Dyadic where
  negative : Bool
  mantissa : Nat
  exponent : Int
  deriving DecidableEq

namespace Dyadic

/-- The exact value of a finite float, the sign of a zero kept; none for an infinity or a number
that is not one. -/
def ofFloat? (x : Float) : Option Dyadic :=
  let bits : Nat := x.toBits.toNat
  let negative := decide (bits >>> 63 = 1)
  let field : Nat := (bits >>> 52) % 0x800
  let fraction : Nat := bits % 0x10000000000000
  if field = 2047 then none
  else if field = 0 then some ⟨negative, fraction, -1074⟩
  else some ⟨negative, 0x10000000000000 + fraction, (field : Int) - 1075⟩

/-- The numerator of the magnitude. -/
def num (d : Dyadic) : Nat :=
  d.mantissa <<< d.exponent.toNat

/-- The denominator of the magnitude, a power of two. -/
def den (d : Dyadic) : Nat :=
  1 <<< (-d.exponent).toNat

/-- A magnitude has a denominator that divides. -/
theorem den_pos (d : Dyadic) : 0 < d.den := by
  rw [den, Nat.one_shiftLeft]
  exact Nat.two_pow_pos _

end Dyadic

/-! ## Half to even -/

/-- The whole number nearest to `num / den`; a tie goes to the even neighbour. -/
def roundQuotient (num den : Nat) : Nat :=
  let q := num / den
  let r := num % den
  if den < 2 * r ∨ (2 * r = den ∧ q % 2 = 1) then q + 1 else q

/-- Rounding goes up by at most half a unit. -/
theorem roundQuotient_le {num den : Nat} (h : 0 < den) :
    2 * den * roundQuotient num den ≤ 2 * num + den := by
  have e : den * (num / den) + num % den = num := Nat.div_add_mod num den
  have hr : num % den < den := Nat.mod_lt _ h
  unfold roundQuotient
  simp only
  split
  · rw [Nat.mul_add, Nat.mul_assoc]; omega
  · rw [Nat.mul_assoc]; omega

/-- Rounding goes down by at most half a unit. -/
theorem le_roundQuotient {num den : Nat} (h : 0 < den) :
    2 * num ≤ 2 * den * roundQuotient num den + den := by
  have e : den * (num / den) + num % den = num := Nat.div_add_mod num den
  have hr : num % den < den := Nat.mod_lt _ h
  unfold roundQuotient
  simp only
  split
  · rw [Nat.mul_add, Nat.mul_assoc]; omega
  · rw [Nat.mul_assoc]; omega

/-- A tie goes to the even neighbour. -/
theorem roundQuotient_even_of_tie {num den : Nat} (h : 2 * (num % den) = den) :
    roundQuotient num den % 2 = 0 := by
  unfold roundQuotient
  simp only [h, Nat.lt_irrefl, true_and, false_or]
  split <;> omega

/-! ## Cents -/

/-- The float nearest to `x` cut to two decimals. It is cut on its exact value, so `2.675`, which
lies just below that decimal, becomes `2.67`. Infinities, the sign of a zero and a value that is not
a number are kept. -/
def floatCents (x : Float) : Float :=
  match Dyadic.ofFloat? x with
  | none => x
  | some d =>
    if 0 ≤ d.exponent then x
    else ofSignedDecimal d.negative (roundQuotient (100 * d.num) d.den) (-2)

/-- A rational cut to two decimals. -/
def ratCents (x : Rat) : Rat :=
  let cents : Int := roundQuotient (100 * x.num.natAbs) x.den
  mkRat (if x.num < 0 then -cents else cents) 100

end WastePickup.Number
