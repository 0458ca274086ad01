import WastePickup.Number.Equal

/-!
# The order of floats

Floats that are numbers are ordered in a line, an infinity at each end and the zeros of either sign
in one place. What is not a number compares with nothing, so that of two floats neither may be below
the other nor at least it.

* `compare_swap`: comparing in the other direction gives the other answer.
* `le_of_not_lt`: of two numbers, one that is not above the other is at most it.
* `le_congr`: equal numbers stand alike in the order.
-/

namespace WastePickup.Number

open Float.Model

/-! ## Comparing values -/

/-- Exponents and mantissas compare in the other direction with the other answer. -/
theorem compare_parts_swap (e e' : Int) (m m' : Nat) :
    ((compare e e').then (compare m m')).swap = (compare e' e).then (compare m' m) := by
  rw [Ordering.swap_then, ← Std.OrientedCmp.eq_swap, ← Std.OrientedCmp.eq_swap]

/-- Comparing in the other direction gives the other answer. -/
theorem compare_swap (u v : UnpackedFloat) : (u.compare v).map Ordering.swap = v.compare u := by
  cases u with
  | notANumber => rw [compare_notANumber]; rfl
  | infinity sign =>
    cases v with
    | infinity sign' => cases sign <;> cases sign' <;> rfl
    | notANumber | zero | finite => cases sign <;> rfl
  | zero sign =>
    cases v with
    | infinity sign' | finite sign' => cases sign' <;> rfl
    | notANumber | zero => rfl
  | finite sign m e hm =>
    cases v with
    | notANumber => cases sign <;> rfl
    | infinity sign' => cases sign <;> cases sign' <;> rfl
    | zero => cases sign <;> rfl
    | finite sign' m' e' hm' =>
      have hparts := congrArg some (compare_parts_swap e e' m m')
      cases sign with
      | positive =>
        cases sign' with
        | positive => exact hparts
        | negative => rfl
      | negative =>
        cases sign' with
        | positive => rfl
        | negative => exact congrArg (Option.map Ordering.swap) hparts

/-- Two numbers compare. -/
theorem exists_compare {u v : UnpackedFloat} (hu : u.isNaN = false) (hv : v.isNaN = false) :
    ∃ o, u.compare v = some o := by
  cases u with
  | notANumber => cases hu
  | infinity sign =>
    cases v with
    | notANumber => cases hv
    | infinity => exact ⟨_, rfl⟩
    | zero | finite => cases sign <;> exact ⟨_, rfl⟩
  | zero sign =>
    cases v with
    | notANumber => cases hv
    | zero => exact ⟨_, rfl⟩
    | infinity sign' | finite sign' => cases sign' <;> exact ⟨_, rfl⟩
  | finite sign m e hm =>
    cases v with
    | notANumber => cases hv
    | zero => cases sign <;> exact ⟨_, rfl⟩
    | infinity sign' | finite sign' => cases sign <;> cases sign' <;> exact ⟨_, rfl⟩

/-- Equal numbers compare alike. -/
theorem compare_congr {u u' : UnpackedFloat} (h : SameNumber u u') (v : UnpackedFloat) :
    u.compare v = u'.compare v := by
  rcases h with ⟨-, rfl⟩ | ⟨⟨sign, rfl⟩, sign', rfl⟩
  · rfl
  · cases v with
    | infinity s | finite s => cases s <;> rfl
    | notANumber | zero => rfl

/-- Values that are the same number compare alike on the right. -/
theorem compare_congr_right {v v' : UnpackedFloat} (h : SameNumber v v') (u : UnpackedFloat) :
    u.compare v = u.compare v' := by
  rw [← compare_swap v u, ← compare_swap v' u, compare_congr h]

/-! ## Comparing floats -/

variable {x x' y y' : Float}

/-- A float is at most another if it compares as less or equal. -/
theorem le_iff : x ≤ y ↔ ∃ o, x.toModel.unpack.compare y.toModel.unpack = some o ∧ o.isLE := by
  have hle : x ≤ y ↔
      decide ((x.toModel.unpack.compare y.toModel.unpack).any (·.isLE) = true) = true := Iff.rfl
  rw [hle, decide_eq_true_eq, Option.any_eq_true]

/-- A float is less than another if it compares as less. -/
theorem lt_iff : x < y ↔ x.toModel.unpack.compare y.toModel.unpack = some .lt := by
  have hlt : x < y ↔
      decide ((x.toModel.unpack.compare y.toModel.unpack == some .lt) = true) = true := Iff.rfl
  rw [hlt, decide_eq_true_eq, beq_iff_eq]

/-- Of two numbers, one that is not above the other is at most it. -/
theorem le_of_not_lt (hx : x.isNaN = false) (hy : y.isNaN = false) (h : ¬y < x) : x ≤ y := by
  obtain ⟨o, ho⟩ := exists_compare (u := x.toModel.unpack) (v := y.toModel.unpack) hx hy
  refine le_iff.2 ⟨o, ho, ?_⟩
  have hswap : y.toModel.unpack.compare x.toModel.unpack = some o.swap := by
    rw [← compare_swap, ho]
    rfl
  rw [lt_iff, hswap] at h
  cases o with
  | lt | eq => rfl
  | gt => exact absurd rfl h

/-- What is at most something is not above it. -/
theorem not_lt_of_le (h : x ≤ y) : ¬y < x := by
  obtain ⟨o, ho, hle⟩ := le_iff.1 h
  rw [lt_iff, ← compare_swap, ho]
  cases o with
  | lt | eq => exact fun h => nomatch h
  | gt => cases hle

/-- A number equals itself. -/
theorem beq_self (hx : x.isNaN = false) : (x == x) = true :=
  beq_iff.2 (.inl ⟨hx, rfl⟩)

/-- Equal numbers stand alike in the order. -/
theorem le_congr (hx : (x == x') = true) (hy : (y == y') = true) : x ≤ y ↔ x' ≤ y' := by
  rw [le_iff, le_iff, compare_congr (beq_iff.1 hx), compare_congr_right (beq_iff.1 hy)]

end WastePickup.Number
