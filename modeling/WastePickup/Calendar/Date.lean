/-!
# Dates

A day of the proleptic Gregorian calendar, written `YYYY-MM-DD`. Days are numbered from
0001-01-01, which is day 0; the numbering is what adding days and ordering rest on.

* `ofText?_text`: the written form of a valid date reads back as that date.

Dates are not kept valid by their type: a date that a request gives is checked when it is read.
-/

namespace WastePickup

/-- A calendar date. -/
structure Date where
  year : Nat
  month : Nat
  day : Nat
  deriving DecidableEq

namespace Date

/-- Whether a year has a twenty-ninth of February. -/
def isLeap (year : Nat) : Bool :=
  year % 4 = 0 && (year % 100 ≠ 0 || year % 400 = 0)

/-- The number of days of a month. -/
def daysIn (year month : Nat) : Nat :=
  if month = 2 then (if isLeap year then 29 else 28)
  else if month = 4 ∨ month = 6 ∨ month = 9 ∨ month = 11 then 30
  else 31

/-- A real date in the years 1 to 9999. -/
def isValid (d : Date) : Bool :=
  1 ≤ d.year && d.year ≤ 9999 && 1 ≤ d.month && d.month ≤ 12 && 1 ≤ d.day &&
    d.day ≤ daysIn d.year d.month

/-! ## Day numbers

Years are counted from March, so that the leap day is the last day of a year. -/

/-- The number of a date; 0001-01-01 has number 0. -/
def toDays (d : Date) : Nat :=
  let year := if d.month ≤ 2 then d.year - 1 else d.year
  let month := if d.month ≤ 2 then d.month + 9 else d.month - 3
  let ofEra := year % 400
  year / 400 * 146097 + (ofEra * 365 + ofEra / 4 - ofEra / 100)
    + ((153 * month + 2) / 5 + d.day - 1) - 306

/-- The date of a number. -/
def ofDays (n : Nat) : Date :=
  let z := n + 306
  let era := z / 146097
  let dayOfEra := z % 146097
  let yearOfEra := (dayOfEra - dayOfEra / 1460 + dayOfEra / 36524 - dayOfEra / 146096) / 365
  let dayOfYear := dayOfEra - (365 * yearOfEra + yearOfEra / 4 - yearOfEra / 100)
  let marchMonth := (5 * dayOfYear + 2) / 153
  let month := if marchMonth < 10 then marchMonth + 3 else marchMonth - 9
  let year := yearOfEra + era * 400
  ⟨if month ≤ 2 then year + 1 else year, month, dayOfYear - (153 * marchMonth + 2) / 5 + 1⟩

/-- The number of the last date, 9999-12-31. -/
def lastDay : Nat := 3652058

/-- The date of a number, if the calendar reaches that far. -/
def ofDay? (n : Int) : Option Date :=
  if 0 ≤ n ∧ n ≤ lastDay then some (ofDays n.toNat) else none

/-- The date some days later, or earlier for a negative number. -/
def addDays? (d : Date) (days : Int) : Option Date :=
  ofDay? (d.toDays + days)

example : toDays ⟨9999, 12, 31⟩ = lastDay ∧ ofDays lastDay = ⟨9999, 12, 31⟩ := by decide

/-! ## Text -/

/-- A digit. -/
def digit (n : Nat) : Char :=
  Char.ofNat (48 + n % 10)

/-- Two digits, as months, days, hours and so on are written. -/
def twoDigits (n : Nat) : List Char :=
  [digit (n / 10), digit n]

/-- Four digits, as years are written. -/
def fourDigits (n : Nat) : List Char :=
  [digit (n / 1000), digit (n / 100), digit (n / 10), digit n]

/-- The written form, as characters. -/
def chars (d : Date) : List Char :=
  fourDigits d.year ++ '-' :: twoDigits d.month ++ '-' :: twoDigits d.day

/-- The written form. -/
def text (d : Date) : String :=
  String.ofList d.chars

/-- The number that digits stand for; none if one of them is not a digit. -/
def number? (cs : List Char) : Option Nat :=
  if cs.all Char.isDigit then some (cs.foldl (fun n c => 10 * n + (c.toNat - 48)) 0) else none

/-- A valid date in front, and what follows it. -/
def read? (cs : List Char) : Option (Date × List Char) :=
  match cs with
  | y₁ :: y₂ :: y₃ :: y₄ :: '-' :: m₁ :: m₂ :: '-' :: d₁ :: d₂ :: rest => do
    let date : Date := ⟨← number? [y₁, y₂, y₃, y₄], ← number? [m₁, m₂], ← number? [d₁, d₂]⟩
    if date.isValid then some (date, rest) else none
  | _ => none

/-- The date that a text is the written form of. -/
def ofText? (s : String) : Option Date :=
  match read? s.toList with
  | some (date, []) => some date
  | _ => none

/-! ## Reading what was written -/

/-- A number of two digits is read as it was written. -/
theorem number?_twoDigits {n : Nat} (h : n < 100) : number? (twoDigits n) = some n := by
  have all : ∀ n : Fin 100, number? (twoDigits n) = some n.val := by decide
  exact all ⟨n, h⟩

/-- What is written for a digit is one. -/
theorem isDigit_digit (n : Nat) : (digit n).isDigit = true := by
  have all : ∀ n : Fin 10, (Char.ofNat (48 + n)).isDigit = true := by decide
  exact all ⟨n % 10, Nat.mod_lt _ (by decide)⟩

/-- The code of a digit is that of zero and as many more. -/
theorem toNat_digit (n : Nat) : (digit n).toNat = 48 + n % 10 := by
  have all : ∀ n : Fin 10, (Char.ofNat (48 + n)).toNat = 48 + n := by decide
  exact all ⟨n % 10, Nat.mod_lt _ (by decide)⟩

/-- A number of four digits is read as it was written. -/
theorem number?_fourDigits {n : Nat} (h : n < 10000) : number? (fourDigits n) = some n := by
  simp only [number?, fourDigits, List.all_cons, isDigit_digit, List.all_nil, Bool.and_true,
    if_true, List.foldl_cons, List.foldl_nil, toNat_digit]
  congr 1
  omega

/-- A valid date in front of any text reads back. -/
theorem read?_chars_append {d : Date} (h : d.isValid = true) (rest : List Char) :
    read? (d.chars ++ rest) = some (d, rest) := by
  have hv := h
  simp only [isValid, Bool.and_eq_true, decide_eq_true_eq] at hv
  obtain ⟨⟨⟨⟨⟨_, hy⟩, _⟩, hm⟩, _⟩, hd⟩ := hv
  have hday : d.day < 100 := by
    refine Nat.lt_of_le_of_lt hd ?_
    unfold daysIn
    split
    · split <;> decide
    · split <;> decide
  have e4 := number?_fourDigits (n := d.year) (by omega)
  have em := number?_twoDigits (n := d.month) (by omega)
  have ed := number?_twoDigits hday
  simp only [fourDigits, twoDigits] at e4 em ed
  simp only [chars, fourDigits, twoDigits, List.cons_append, List.nil_append, read?, e4, em, ed,
    Option.bind_eq_bind, Option.bind_some, h, if_true]

/-- The written form of a valid date reads back as that date. -/
theorem ofText?_text {d : Date} (h : d.isValid = true) : ofText? d.text = some d := by
  have := read?_chars_append h []
  simp only [List.append_nil] at this
  simp [ofText?, text, this]

end Date

end WastePickup
