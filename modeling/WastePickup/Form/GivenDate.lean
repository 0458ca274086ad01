import WastePickup.Calendar.Instant
import WastePickup.Form.NumberText

/-!
# Dates as they are given

A date may be given as a number that counts from the beginning of 1970: seconds, or milliseconds
where the number is above twenty thousand million in size. The number has to fall on a midnight, to
the microsecond.

A date may also be given as a text: written `YYYY-MM-DD`, as a date-time that is a midnight, or as
the digits of such a number. The digits may have a sign in front, and no blanks.
-/

namespace WastePickup

/-! ## Timestamps -/

namespace Timestamp

/-- The number of the day 1970-01-01. -/
def epoch : Int := 719162

/-- The microseconds of a day. -/
def dayMicros : Int := 86400000000

/-- Up to this size a number counts seconds. -/
def mostSeconds : Int := 20000000000

/-- The microseconds of what a number counts: of a second or of a millisecond. -/
def unit (n : Int) : Int :=
  if n.natAbs ≤ mostSeconds then 1000000 else 1000

/-- The date that begins some microseconds after the beginning of 1970. -/
def dateAt? (micros : Int) : Option Date :=
  if micros % dayMicros = 0 then Date.ofDay? (epoch + micros / dayMicros) else none

/-- The date of a whole number. -/
def ofWhole? (n : Int) : Option Date :=
  dateAt? (n * unit n)

/-- The whole number at or below a float, within 64 bits. -/
def floorWhole (x : Float) : Int :=
  x.floor.toInt64.toInt

/-- What a float is above that whole number, in microseconds, if one is `unit` of them. -/
def fractionMicros (unit : Int) (x : Float) : Int :=
  ((x - x.floor) * Number.ofWhole unit).round.toUInt64.toNat

/-- The date of a number with a fraction. What it counts is decided by the whole number below it;
the fraction is rounded to microseconds, and may make up a whole one by that. -/
def ofFloat? (x : Float) : Option Date :=
  let n := floorWhole x
  if x != x then none else dateAt? (n * unit n + fractionMicros (unit n) x)

end Timestamp

/-! ## Dates given as text -/

namespace DateText

/-- The date of a timestamp without a point. -/
def wholeTimestamp? (cs : List Char) : Option Date :=
  let (negative, digits) := NumberText.sign cs
  if digits.isEmpty || !digits.all Char.isDigit then none
  else
    let n : Int := NumberText.digitsValue digits
    Timestamp.ofWhole? (if negative then -n else n)

/-- The date of a timestamp with a point, in front of which stand digits or nothing. -/
def decimalTimestamp? (cs : List Char) : Option Date :=
  let (_, body) := NumberText.sign cs
  if (body.dropWhile Char.isDigit).head? = some '.' then
    (NumberText.plainDecimal? cs).bind Timestamp.ofFloat?
  else none

/-- The date that a text stands for. -/
def date? (s : String) : Option Date :=
  Date.ofText? s <|> Date.midnight? s <|> wholeTimestamp? s.toList <|> decimalTimestamp? s.toList

end DateText

end WastePickup
