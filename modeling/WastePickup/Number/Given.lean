/-!
# Numbers as they are given

A request gives numbers with any number of digits. What is kept of a decimal is the nearest float;
decimals far outside the range of a double are settled by their size alone, so that a huge exponent
costs nothing. A whole number may be of any size as well, but the columns of the store, and a few
readings of requests, take only those that fit into 64 bits with a sign.

A weight or an amount may be given as a decimal or as a whole number, and is kept as a float. If no
float equals the number, what is kept is never what was given.

* `value?_float`: a float is kept as it is.
-/

namespace WastePickup.Number

/-! ## Decimals -/

/-- How many decimal digits a number has; zero has one. -/
def digitCount (n : Nat) : Nat :=
  (Nat.toDigits 10 n).length

/-- The float nearest to `digits · 10 ^ exponent`. -/
def ofDecimal (digits : Nat) (exponent : Int) : Float :=
  let size := (digitCount digits : Int) + exponent
  if digits = 0 then 0.0
  else if 320 < size then 1.0 / 0.0
  else if size < -340 then 0.0
  else Float.ofScientific digits (decide (exponent < 0)) exponent.natAbs

/-- The float nearest to a signed decimal; a negative zero keeps its sign. -/
def ofSignedDecimal (negative : Bool) (digits : Nat) (exponent : Int) : Float :=
  if negative then -ofDecimal digits exponent else ofDecimal digits exponent

/-! ## Whole numbers -/

/-- The float nearest to a whole number. -/
def ofWhole (n : Int) : Float :=
  if n < 0 then -ofDecimal n.natAbs 0 else ofDecimal n.natAbs 0

/-- Whether a whole number fits into 64 bits with a sign. -/
def fits64 (n : Int) : Bool :=
  -0x8000000000000000 ≤ n && n < 0x8000000000000000

/-! ## Weights and amounts -/

/-- A number as it is given. -/
inductive Given where
  | float (x : Float)
  | whole (n : Int)
  deriving DecidableEq

namespace Given

/-- The float that is kept; none if the number is beyond all floats. -/
def value? : Given → Option Float
  | float x => some x
  | whole n =>
    let x := ofWhole n
    if x.isFinite then some x else none

/-- Whether a float of any size equals the number: a whole number has at most 53 bits up to the
last one that is set. -/
def isExact : Given → Bool
  | float _ => true
  | whole n => n.natAbs % (1 <<< (n.natAbs.log2 - 52)) = 0

/-- Whether the number is above zero. -/
def isAboveZero : Given → Bool
  | float x => 0.0 < x
  | whole n => 0 < n

/-- A float is kept as it is. -/
theorem value?_float (x : Float) : (float x).value? = some x := rfl

end Given

end WastePickup.Number
