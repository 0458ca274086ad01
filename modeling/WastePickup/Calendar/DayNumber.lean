import WastePickup.Calendar.Date

/-!
# Day numbers tell dates apart

Dates are ordered by their numbers (`Date.toDays`). On valid dates nothing is lost by that: no two
of them have the same number. The numbering counts years that begin in March, so that the leap day
is the last day of a year; the days of a month lie before the next month (`daysBeforeMonth_le`), and
those of a year before the next year (`dayOfYear_lt`, `daysBeforeYear_succ`).

* `dayNumber_lt_of_year`, `dayOfYear_lt_of_month`: earlier years and months have lower numbers.
* `toDays_injective`: valid dates with the same number are the same date.
-/

namespace WastePickup.Date

/-! ## Years that begin in March -/

/-- The year of the numbering in which a date lies. -/
def marchYear (d : Date) : Nat :=
  if d.month ≤ 2 then d.year - 1 else d.year

/-- The month of that year, from 0 for March. -/
def marchMonth (d : Date) : Nat :=
  if d.month ≤ 2 then d.month + 9 else d.month - 3

/-- The days before a year of the numbering. -/
def daysBeforeYear (year : Nat) : Nat :=
  year / 400 * 146097 + (year % 400 * 365 + year % 400 / 4 - year % 400 / 100)

/-- The days of such a year before one of its months. -/
def daysBeforeMonth (month : Nat) : Nat :=
  (153 * month + 2) / 5

/-- The day of such a year, from 0. -/
def dayOfYear (d : Date) : Nat :=
  daysBeforeMonth d.marchMonth + d.day - 1

/-- The number of a day counts from a year that begins in March. -/
theorem toDays_eq (d : Date) : d.toDays = daysBeforeYear d.marchYear + d.dayOfYear - 306 := rfl

section Valid

variable {d e : Date}

/-- A month begins with its first day. -/
theorem one_le_day (h : d.isValid = true) : 1 ≤ d.day := by
  simp only [isValid, Bool.and_eq_true, decide_eq_true_eq] at h
  exact h.1.2

/-- From March on, a year has twelve months. -/
theorem marchMonth_le (h : d.isValid = true) : d.marchMonth ≤ 11 := by
  simp only [isValid, Bool.and_eq_true, decide_eq_true_eq] at h
  unfold marchMonth
  split
  · omega
  · omega

/-- The calendar's year and month are given by those of the numbering. -/
theorem year_month_of_march (h : d.isValid = true) :
    d.year = (if 10 ≤ d.marchMonth then d.marchYear + 1 else d.marchYear) ∧
      d.month = if 10 ≤ d.marchMonth then d.marchMonth - 9 else d.marchMonth + 3 := by
  simp only [isValid, Bool.and_eq_true, decide_eq_true_eq] at h
  obtain ⟨⟨⟨⟨⟨hyear, -⟩, hfirst⟩, hmonth⟩, -⟩, -⟩ := h
  by_cases hlate : d.month ≤ 2
  · have hmarch : d.marchMonth = d.month + 9 := if_pos hlate
    have hbefore : d.marchYear = d.year - 1 := if_pos hlate
    rw [hmarch, hbefore, if_pos (by omega), if_pos (by omega)]
    omega
  · have hmarch : d.marchMonth = d.month - 3 := if_neg hlate
    have hsame : d.marchYear = d.year := if_neg hlate
    rw [hmarch, hsame, if_neg (by omega), if_neg (by omega)]
    omega

/-! ## Months -/

/-- A later month has no fewer days before it. -/
theorem daysBeforeMonth_mono {month later : Nat} (h : month ≤ later) :
    daysBeforeMonth month ≤ daysBeforeMonth later := by
  apply Nat.div_le_div_right
  omega

/-- The days of a month lie before the next month. -/
theorem daysBeforeMonth_le (h : d.isValid = true) :
    daysBeforeMonth d.marchMonth + d.day ≤ daysBeforeMonth (d.marchMonth + 1) := by
  simp only [isValid, Bool.and_eq_true, decide_eq_true_eq] at h
  obtain ⟨⟨⟨-, hmonth⟩, -⟩, hday⟩ := h
  have all : ∀ month : Fin 13, ∀ leap : Bool,
      let march := if month.val ≤ 2 then month.val + 9 else month.val - 3
      daysBeforeMonth march + (if month.val = 2 then (if leap then 29 else 28) else
        if month.val = 4 ∨ month.val = 6 ∨ month.val = 9 ∨ month.val = 11 then 30 else 31) ≤
        daysBeforeMonth (march + 1) := by decide
  have hlength := all ⟨d.month, by omega⟩ (isLeap d.year)
  exact Nat.le_trans (Nat.add_le_add_left hday _) hlength

/-- The days of a month come before those of every later month. -/
theorem dayOfYear_lt_of_month (hd : d.isValid = true) (he : e.isValid = true)
    (h : d.marchMonth < e.marchMonth) : d.dayOfYear < e.dayOfYear := by
  have hbefore := daysBeforeMonth_le hd
  have hlater : daysBeforeMonth (d.marchMonth + 1) ≤ daysBeforeMonth e.marchMonth :=
    daysBeforeMonth_mono h
  have hfirst := one_le_day hd
  have hfirst' := one_le_day he
  unfold dayOfYear
  omega

/-! ## Years -/

/-- A year has 365 days, and one more if the February at its end has. -/
theorem dayOfYear_lt (h : d.isValid = true) :
    d.dayOfYear < 365 + if isLeap (d.marchYear + 1) then 1 else 0 := by
  have hbefore := daysBeforeMonth_le h
  have hmarch := marchMonth_le h
  have hlastMonth : daysBeforeMonth 11 = 337 := rfl
  simp only [isValid, Bool.and_eq_true, decide_eq_true_eq] at h
  obtain ⟨⟨⟨⟨⟨hyear, -⟩, -⟩, hmonth⟩, hfirst⟩, hday⟩ := h
  unfold dayOfYear
  by_cases hlast : d.marchMonth = 11
  · have hfebruary : d.month = 2 := by
      unfold marchMonth at hlast
      split at hlast
      · omega
      · omega
    have hnext : d.marchYear + 1 = d.year := by
      unfold marchYear
      rw [if_pos (by omega)]
      omega
    rw [daysIn, if_pos hfebruary] at hday
    rw [hlast, hnext, hlastMonth]
    split at hday
    · rename_i hleap
      rw [if_pos hleap]
      omega
    · rename_i hleap
      rw [if_neg hleap]
      omega
  · have hnext : daysBeforeMonth (d.marchMonth + 1) ≤ daysBeforeMonth 11 :=
      daysBeforeMonth_mono (by omega)
    omega

/-- The days of a year lie before the next one. -/
theorem daysBeforeYear_succ (year : Nat) :
    daysBeforeYear year + 365 + (if isLeap (year + 1) then 1 else 0) ≤
      daysBeforeYear (year + 1) := by
  have hleap : isLeap (year + 1) = isLeap (year % 400 + 1) := by
    have h4 : (year + 1) % 4 = (year % 400 + 1) % 4 := by omega
    have h100 : (year + 1) % 100 = (year % 400 + 1) % 100 := by omega
    have h400 : (year + 1) % 400 = (year % 400 + 1) % 400 := by omega
    rw [isLeap, isLeap, h4, h100, h400]
  -- What counts is where the year lies in its four hundred.
  have all : ∀ r < 400, r * 365 + r / 4 - r / 100 + 365 + (if isLeap (r + 1) then 1 else 0) ≤
      (r + 1) / 400 * 146097 + ((r + 1) % 400 * 365 + (r + 1) % 400 / 4 - (r + 1) % 400 / 100) := by
    decide +kernel
  have hyear := all (year % 400) (Nat.mod_lt _ (by decide))
  have hera : (year + 1) / 400 = year / 400 + (year % 400 + 1) / 400 := by omega
  have hmod : (year + 1) % 400 = (year % 400 + 1) % 400 := by omega
  unfold daysBeforeYear
  rw [hleap, hera, hmod, Nat.add_mul, Nat.add_assoc, Nat.add_assoc, Nat.add_assoc]
  apply Nat.add_le_add_left
  omega

/-- A later year has no fewer days before it. -/
theorem daysBeforeYear_mono {year later : Nat} (h : year ≤ later) :
    daysBeforeYear year ≤ daysBeforeYear later := by
  induction h with
  | refl => exact Nat.le_refl _
  | @step later _ ih =>
    have hnext := daysBeforeYear_succ later
    rw [Nat.succ_eq_add_one]
    omega

/-- The days of a year come before those of every later year. -/
theorem dayNumber_lt_of_year (hd : d.isValid = true) (h : d.marchYear < e.marchYear) :
    daysBeforeYear d.marchYear + d.dayOfYear < daysBeforeYear e.marchYear + e.dayOfYear := by
  have hday := dayOfYear_lt hd
  have hnext := daysBeforeYear_succ d.marchYear
  have hlater : daysBeforeYear (d.marchYear + 1) ≤ daysBeforeYear e.marchYear :=
    daysBeforeYear_mono h
  omega

/-! ## Numbers -/

/-- Nothing is cut off at the beginning: the first of January of the year 1 is day 306. -/
theorem le_dayNumber (h : d.isValid = true) :
    306 ≤ daysBeforeYear d.marchYear + d.dayOfYear := by
  have hfirst := one_le_day h
  simp only [isValid, Bool.and_eq_true, decide_eq_true_eq] at h
  obtain ⟨⟨⟨⟨⟨hyear, -⟩, hmonth⟩, -⟩, -⟩, -⟩ := h
  by_cases hlate : d.month ≤ 2
  · have hmarch : d.marchMonth = d.month + 9 := if_pos hlate
    have hbefore : daysBeforeMonth 10 ≤ daysBeforeMonth d.marchMonth :=
      daysBeforeMonth_mono (by omega)
    have hjanuary : daysBeforeMonth 10 = 306 := rfl
    unfold dayOfYear
    omega
  · have hmarch : d.marchYear = d.year := if_neg hlate
    have hbefore : daysBeforeYear 1 ≤ daysBeforeYear d.marchYear :=
      daysBeforeYear_mono (by omega)
    have hone : daysBeforeYear 1 = 365 := rfl
    omega

/-- Valid dates with the same number are the same date. -/
theorem toDays_injective (hd : d.isValid = true) (he : e.isValid = true)
    (h : d.toDays = e.toDays) : d = e := by
  have hnumber : daysBeforeYear d.marchYear + d.dayOfYear =
      daysBeforeYear e.marchYear + e.dayOfYear := by
    have hbound := le_dayNumber hd
    have hbound' := le_dayNumber he
    rw [toDays_eq, toDays_eq] at h
    omega
  have hyear : d.marchYear = e.marchYear := by
    rcases Nat.lt_trichotomy d.marchYear e.marchYear with hlt | heq | hgt
    · exact absurd hnumber (Nat.ne_of_lt (dayNumber_lt_of_year hd hlt))
    · exact heq
    · exact absurd hnumber (Nat.ne_of_gt (dayNumber_lt_of_year he hgt))
  have hday : d.dayOfYear = e.dayOfYear := by
    rw [hyear] at hnumber
    exact Nat.add_left_cancel hnumber
  have hmonth : d.marchMonth = e.marchMonth := by
    rcases Nat.lt_trichotomy d.marchMonth e.marchMonth with hlt | heq | hgt
    · exact absurd hday (Nat.ne_of_lt (dayOfYear_lt_of_month hd he hlt))
    · exact heq
    · exact absurd hday (Nat.ne_of_gt (dayOfYear_lt_of_month he hd hgt))
  have hday' : d.day = e.day := by
    have hfirst := one_le_day hd
    have hfirst' := one_le_day he
    rw [dayOfYear, dayOfYear, hmonth] at hday
    omega
  obtain ⟨dyear, dmonth⟩ := year_month_of_march hd
  obtain ⟨eyear, emonth⟩ := year_month_of_march he
  rw [hyear, hmonth, ← eyear] at dyear
  rw [hmonth, ← emonth] at dmonth
  cases d
  cases e
  simp only [Date.mk.injEq]
  exact ⟨dyear, dmonth, hday'⟩

end Valid

end WastePickup.Date
