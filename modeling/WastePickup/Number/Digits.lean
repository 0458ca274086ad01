import WastePickup.Number.Rounding

/-!
# The decimal digits of a float

Two ways to choose digits for a float, both computed from its exact value: a fixed number of
significant digits, and the fewest digits that read back as the same float. `Layout` then says how
chosen digits are set out, plainly or with an exponent.
-/

namespace WastePickup.Number

/-- Chosen digits: the number `digits`, written with `count` digits, whose first digit stands for
`10 ^ lead`. -/
structure Digits where
  digits : Nat
  count : Nat
  lead : Int
  deriving DecidableEq

namespace Digits

/-- The power of ten of the first digit of `num / den`. -/
def leadOf (num den : Nat) : Int :=
  let guess := (digitCount num : Int) - (digitCount den : Int)
  if den * Nat.pow 10 guess.toNat ≤ num * Nat.pow 10 (-guess).toNat then guess else guess - 1

/-- `num / den` cut to a number of digits by a rule of rounding; a carry into a new first digit
moves the lead. -/
def cut (round : Nat → Nat → Nat) (num den count : Nat) : Digits :=
  let lead := leadOf num den
  let shift := (count : Int) - 1 - lead
  let n := round (num * Nat.pow 10 shift.toNat) (den * Nat.pow 10 (-shift).toNat)
  if n = Nat.pow 10 count then ⟨Nat.pow 10 (count - 1), count, lead + 1⟩ else ⟨n, count, lead⟩

/-- The float that the digits read as. -/
def toFloat (d : Digits) : Float :=
  ofDecimal d.digits (d.lead + 1 - d.count)

/-- The fewest digits, tried from `count` on, that read back as a positive float. Of several
candidates of one length the nearest is taken, and of two equally near ones the even one. -/
def shortestFrom (x : Float) (num den : Nat) : Nat → Nat → Digits
  | 0, count => cut roundQuotient num den count
  | fuel + 1, count =>
    let nearest := cut roundQuotient num den count
    let below := cut (· / ·) num den count
    let above := cut (fun n d => n / d + 1) num den count
    match [nearest, below, above].find? fun d => d.toFloat == x with
    | some d => d
    | none => shortestFrom x num den fuel (count + 1)

/-- Seventeen digits always read back, so the search has seventeen steps. -/
def shortest (x : Float) (num den : Nat) : Digits :=
  shortestFrom x num den 17 1

/-- The digits as text, with no zeros at the end. -/
def text (d : Digits) : List Char :=
  let all := Nat.toDigits 10 d.digits
  (all.reverse.dropWhile (· = '0')).reverse

end Digits

/-- How digits are set out. -/
structure Layout where
  /-- From this power of ten on, a number is written with an exponent; so is one below `1e-4`. -/
  exponentFrom : Int
  /-- Whether a whole number keeps a point and a zero. -/
  pointZero : Bool

namespace Layout

/-- An exponent has a sign and at least two digits. -/
def exponentText (e : Int) : List Char :=
  let digits := Nat.toDigits 10 e.natAbs
  (if e < 0 then '-' else '+') :: (if digits.length < 2 then '0' :: digits else digits)

/-- Set out nonzero digits without trailing zeros, the first of which stands for `10 ^ lead`. -/
def place (layout : Layout) (digits : List Char) (lead : Int) : List Char :=
  if lead < -4 ∨ layout.exponentFrom ≤ lead then
    let head := digits.take 1
    let tail := digits.drop 1
    head ++ (if tail.isEmpty then [] else '.' :: tail) ++ 'e' :: exponentText lead
  else if lead < 0 then
    '0' :: '.' :: List.replicate (-lead - 1).toNat '0' ++ digits
  else
    let whole := lead.toNat + 1
    let head := digits.take whole ++ List.replicate (whole - digits.length) '0'
    let tail := digits.drop whole
    if tail.isEmpty then head ++ (if layout.pointZero then ['.', '0'] else [])
    else head ++ '.' :: tail

/-- The text of a float, its digits chosen by `choose` from its exact magnitude. -/
def render (layout : Layout) (choose : Nat → Nat → Digits) (x : Float) : String :=
  match Dyadic.ofFloat? x with
  | none => if x != x then "nan" else if x < 0 then "-inf" else "inf"
  | some d =>
    let magnitude :=
      if d.mantissa = 0 then '0' :: (if layout.pointZero then ['.', '0'] else [])
      else
        let digits := choose d.num d.den
        layout.place digits.text digits.lead
    String.ofList (if d.negative then '-' :: magnitude else magnitude)

end Layout

/-- A number with as many digits as it takes to read it back; plain up to sixteen digits. -/
def shortestText (x : Float) : String :=
  Layout.render ⟨16, true⟩ (Digits.shortest (if x < 0 then -x else x)) x

/-- A number with six significant digits at most; plain up to six digits. -/
def compactText (x : Float) : String :=
  Layout.render ⟨6, false⟩ (fun num den => Digits.cut roundQuotient num den 6) x

end WastePickup.Number
