import WastePickup.Number.Rounding

/-!
# Price bands

A waste category has a price band: the least and the most that is paid for a kilogram. When a
pickup is booked, the two ends of the band give an estimate; when the waste has been weighed, the
middle of the band gives the amount. All three are rounded to cents.

The formulas are stated once, over any number type with the arithmetic they use (`Priced`). The
service runs them on floats; over exact rationals they can be reasoned about.
-/

namespace WastePickup

/-- The arithmetic of prices and weights. -/
class Priced (α : Type) where
  zero : α
  add : α → α → α
  mul : α → α → α
  half : α → α
  /-- The number if it is above zero, else zero. -/
  positivePart : α → α
  /-- The number cut to two decimals. -/
  cents : α → α

instance : Priced Float where
  zero := 0.0
  add := (· + ·)
  mul := (· * ·)
  half x := x / 2.0
  positivePart x := if 0.0 < x then x else 0.0
  cents := Number.floatCents

instance : Priced Rat where
  zero := 0
  add := (· + ·)
  mul := (· * ·)
  half x := x / 2
  positivePart x := if 0 < x then x else 0
  cents := Number.ratCents

/-- The least and the most that is paid for a kilogram. -/
structure Band (α : Type) where
  min : α
  max : α

namespace Band

variable {α : Type} [Priced α]

/-- The price in the middle of the band. -/
def midpoint (band : Band α) : α :=
  Priced.half (Priced.add band.min band.max)

/-- What a quantity is worth at the least and at the most. -/
def estimate (band : Band α) (quantity : α) : α × α :=
  (Priced.cents (Priced.mul band.min quantity), Priced.cents (Priced.mul band.max quantity))

/-- The amount for a weight, at the middle price. No weight, or one below zero, counts as zero. -/
def amount (band : Band α) (weight : Option α) : α :=
  Priced.cents
    (Priced.mul band.midpoint (Priced.positivePart (weight.getD Priced.zero)))

/-- The amount for a weight in a category that may have no band: then there is no amount. -/
def amount? (band : Option (Band α)) (weight : Option α) : Option α :=
  band.map fun b => b.amount weight

/-- The band of two prices, where a missing price and a zero of either sign count as zero. -/
def ofPrices (min max : Option Float) : Band Float :=
  ⟨orZero min, orZero max⟩
where
  orZero (price : Option Float) : Float :=
    match price with
    | none => 0.0
    | some x => if x == 0.0 then 0.0 else x

end Band

end WastePickup
