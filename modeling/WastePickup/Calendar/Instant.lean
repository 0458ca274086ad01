import WastePickup.Calendar.Date

/-!
# Points in time

A point in time is a number of microseconds since the beginning of the year 1, in no time zone. It
is written `YYYY-MM-DDTHH:MM:SS`, with six more digits only where there is a fraction of a second.

A request may give a date by a date-time, if that is a midnight; `midnight?` is that reading, with
the forms of time and zone that ISO 8601 knows.
-/

namespace WastePickup

/-- A point in time, in microseconds since 0001-01-01T00:00:00. -/
structure Instant where
  micros : Nat
  deriving DecidableEq

namespace Instant

/-- A second. -/
def second : Nat := 1000000

/-- A day. -/
def day : Nat := 86400 * second

/-- A point in time some seconds later. -/
def addSeconds (t : Instant) (seconds : Nat) : Instant :=
  ⟨t.micros + seconds * second⟩

/-- The day on which a point in time lies. -/
def date (t : Instant) : Date :=
  Date.ofDays (t.micros / day)

/-- The point in time of a date and a time of day. -/
def ofDate (d : Date) (micros : Nat) : Instant :=
  ⟨d.toDays * day + micros⟩

/-- The written form. -/
def text (t : Instant) : String :=
  let micros := t.micros % day
  let seconds := micros / second
  let fraction := micros % second
  String.ofList (t.date.chars ++ 'T' :: Date.twoDigits (seconds / 3600) ++
    ':' :: Date.twoDigits (seconds / 60 % 60) ++ ':' :: Date.twoDigits (seconds % 60) ++
    (if fraction = 0 then []
      else '.' :: (Date.twoDigits (fraction / 10000) ++ Date.fourDigits (fraction % 10000))))

/-- The seconds of a minute with their fraction, in microseconds, and what follows. -/
def readSeconds? (cs : List Char) : Option (Nat × List Char) :=
  match cs with
  | ':' :: s₁ :: s₂ :: rest => do
    let seconds ← Date.number? [s₁, s₂]
    if 60 ≤ seconds then none
    else match rest with
      | point :: digits =>
        if point = '.' ∨ point = ',' then
          let fraction := digits.takeWhile Char.isDigit
          if fraction.isEmpty then none
          else do
            let six := (fraction ++ List.replicate 6 '0').take 6
            some (seconds * second + (← Date.number? six), digits.dropWhile Char.isDigit)
        else some (seconds * second, rest)
      | [] => some (seconds * second, [])
  | _ => some (0, cs)

/-- A time of day in microseconds, and what follows. -/
def readTime? (cs : List Char) : Option (Nat × List Char) :=
  match cs with
  | h₁ :: h₂ :: ':' :: m₁ :: m₂ :: rest => do
    let hours ← Date.number? [h₁, h₂]
    let minutes ← Date.number? [m₁, m₂]
    if 24 ≤ hours ∨ 60 ≤ minutes then none
    else do
      let (micros, after) ← readSeconds? rest
      some ((hours * 3600 + minutes * 60) * second + micros, after)
  | _ => none

/-- Whether a text is a time zone: nothing, `Z`, or a signed offset below a day. -/
def isZone (cs : List Char) : Bool :=
  match cs with
  | [] => true
  | [z] => z = 'Z' || z = 'z'
  | [sign, h₁, h₂, ':', m₁, m₂] => isOffset sign [h₁, h₂] [m₁, m₂]
  | [sign, h₁, h₂, m₁, m₂] => isOffset sign [h₁, h₂] [m₁, m₂]
  | _ => false
where
  isOffset (sign : Char) (hours minutes : List Char) : Bool :=
    (sign = '+' || sign = '-' || sign = '\u2212') &&
      (Date.number? hours).any (· < 24) && (Date.number? minutes).any (· < 60)

/-- The point in time that a date-time stands for, its zone left aside. -/
def ofText? (s : String) : Option Instant := do
  let (date, rest) ← Date.read? s.toList
  match rest with
  | mark :: time =>
    if mark = 'T' ∨ mark = 't' ∨ mark = ' ' ∨ mark = '_' then do
      let (micros, zone) ← readTime? time
      if isZone zone then some (ofDate date micros) else none
    else none
  | [] => none

end Instant

/-- The date of a date-time that is a midnight. -/
def Date.midnight? (s : String) : Option Date := do
  let (date, rest) ← Date.read? s.toList
  match rest with
  | mark :: time =>
    if mark = 'T' ∨ mark = 't' ∨ mark = ' ' ∨ mark = '_' then do
      let (micros, zone) ← Instant.readTime? time
      if micros = 0 ∧ Instant.isZone zone then some date else none
    else none
  | [] => none

end WastePickup
