import WastePickup.Calendar.DayNumber
import WastePickup.Form.Kind

/-!
# Dates that are read are valid

A date is read from a text, or from a number that counts seconds or milliseconds. A text is looked
at for a date that there is. A number is not: it gives the number of a day, and the date of that
day is computed. That this is a date that there is comes from how the years of the numbering follow
each other. A day lies in exactly one of them, and its year is found by one division
(`yearOf_eq`), although years differ in length.

* `isValid_ofDays`: every day up to the last one has a valid date.
* `Kind.isValid_of_readDate`: whatever a date is read from, it is valid.
-/

namespace WastePickup

namespace Date

/-! ## The year of a day -/

/-- The year of a day, both counted from the beginning of four hundred years. -/
def yearOf (day : Nat) : Nat :=
  (day - day / 1460 + day / 36524 - day / 146096) / 365

/-- Later days do not lie in earlier years. -/
theorem yearOf_mono {day later : Nat} (h : day ≤ later) : yearOf day ≤ yearOf later := by
  induction h with
  | refl => exact Nat.le_refl _
  | @step later _ ih =>
    refine Nat.le_trans ih (Nat.div_le_div_right ?_)
    omega

/-- A day of four hundred years lies in one of them. -/
theorem exists_year_of_day {day years : Nat} (h : day < daysBeforeYear years) :
    ∃ year < years, daysBeforeYear year ≤ day ∧ day < daysBeforeYear (year + 1) := by
  induction years with
  | zero => exact absurd h (Nat.not_lt_zero _)
  | succ years ih =>
    by_cases hlast : daysBeforeYear years ≤ day
    · exact ⟨years, Nat.lt_succ_self _, hlast, h⟩
    · obtain ⟨year, hyear, hday⟩ := ih (Nat.lt_of_not_le hlast)
      exact ⟨year, Nat.lt_succ_of_lt hyear, hday⟩

/-- The year of a day is found by the division: it is right for the first and for the last day of
every year. -/
theorem yearOf_eq {day year : Nat} (hyear : year < 400) (hfirst : daysBeforeYear year ≤ day)
    (hlast : day < daysBeforeYear (year + 1)) : yearOf day = year := by
  have all : ∀ year < 400, yearOf (daysBeforeYear year) = year ∧
      yearOf (daysBeforeYear (year + 1) - 1) = year := by decide +kernel
  obtain ⟨hbegin, hend⟩ := all year hyear
  have hle : yearOf day ≤ yearOf (daysBeforeYear (year + 1) - 1) := yearOf_mono (by omega)
  have hge : yearOf (daysBeforeYear year) ≤ yearOf day := yearOf_mono hfirst
  omega

/-- A year is not longer than its days. -/
theorem daysBeforeYear_succ_le {year : Nat} (h : year < 400) :
    daysBeforeYear (year + 1) ≤
      daysBeforeYear year + 365 + if isLeap (year + 1) then 1 else 0 := by
  have all : ∀ year < 400, daysBeforeYear (year + 1) ≤
      daysBeforeYear year + 365 + if isLeap (year + 1) then 1 else 0 := by decide +kernel
  exact all year h

/-! ## The month of a day -/

/-- The month and the day of a day of a year that begins in March. -/
def monthAndDay (dayOfYear : Nat) : Nat × Nat :=
  let marchMonth := (5 * dayOfYear + 2) / 153
  (if marchMonth < 10 then marchMonth + 3 else marchMonth - 9,
    dayOfYear - (153 * marchMonth + 2) / 5 + 1)

/-- A day of a year lies in a month; the last one of a leap year is the 29th of February. -/
theorem monthAndDay_valid (dayOfYear : Nat) (leap : Bool)
    (h : dayOfYear < 365 + if leap then 1 else 0) :
    let month := (monthAndDay dayOfYear).1
    let day := (monthAndDay dayOfYear).2
    1 ≤ month ∧ month ≤ 12 ∧ 1 ≤ day ∧ (306 ≤ dayOfYear ↔ month ≤ 2) ∧
      day ≤ (if month = 2 then (if leap then 29 else 28) else
        if month = 4 ∨ month = 6 ∨ month = 9 ∨ month = 11 then 30 else 31) := by
  have all : ∀ dayOfYear < 366, ∀ leap : Bool, dayOfYear < 365 + (if leap then 1 else 0) →
      let month := (monthAndDay dayOfYear).1
      let day := (monthAndDay dayOfYear).2
      1 ≤ month ∧ month ≤ 12 ∧ 1 ≤ day ∧ (306 ≤ dayOfYear ↔ month ≤ 2) ∧
        day ≤ (if month = 2 then (if leap then 29 else 28) else
          if month = 4 ∨ month = 6 ∨ month = 9 ∨ month = 11 then 30 else 31) := by
    decide +kernel
  refine all dayOfYear ?_ leap h
  split at h
  · exact h
  · exact Nat.lt_succ_of_lt h

/-! ## The date of a day -/

/-- Only the place of a year in its four hundred counts. -/
theorem isLeap_add_eras (year eras : Nat) : isLeap (year + eras * 400) = isLeap year := by
  have h4 : (year + eras * 400) % 4 = year % 4 := by omega
  have h100 : (year + eras * 400) % 100 = year % 100 := by omega
  have h400 : (year + eras * 400) % 400 = year % 400 := by omega
  rw [isLeap, isLeap, h4, h100, h400]

/-- The days before a year among the first four hundred. -/
theorem daysBeforeYear_of_lt {year : Nat} (h : year < 400) :
    daysBeforeYear year = 365 * year + year / 4 - year / 100 := by
  have hera : year / 400 = 0 := Nat.div_eq_of_lt h
  have hmod : year % 400 = year := Nat.mod_eq_of_lt h
  rw [daysBeforeYear, hera, hmod]
  omega

/-- The date of a day that lies in a given one of four hundred years. -/
theorem ofDays_of_year {n eras day year : Nat} (hn : n + 306 = eras * 146097 + day)
    (hday : day < 146097) (hyear : year < 400) (hfirst : daysBeforeYear year ≤ day)
    (hlast : day < daysBeforeYear (year + 1)) :
    ofDays n =
      ⟨if (monthAndDay (day - daysBeforeYear year)).1 ≤ 2 then year + eras * 400 + 1
        else year + eras * 400,
        (monthAndDay (day - daysBeforeYear year)).1,
        (monthAndDay (day - daysBeforeYear year)).2⟩ := by
  have heras : (n + 306) / 146097 = eras := by omega
  have hof : (n + 306) % 146097 = day := by omega
  have hnumber : (day - day / 1460 + day / 36524 - day / 146096) / 365 = year :=
    yearOf_eq hyear hfirst hlast
  simp only [ofDays, heras, hof, hnumber, ← daysBeforeYear_of_lt hyear]
  rfl

/-- Every day up to the last one has a valid date. -/
theorem isValid_ofDays {n : Nat} (h : n ≤ lastDay) : (ofDays n).isValid = true := by
  have hlastDay : lastDay = 3652058 := rfl
  have hall : daysBeforeYear 400 = 146097 := rfl
  obtain ⟨eras, day, hn, hlt⟩ : ∃ eras day, n + 306 = eras * 146097 + day ∧ day < 146097 :=
    ⟨(n + 306) / 146097, (n + 306) % 146097, by omega, by omega⟩
  obtain ⟨year, hyear, hfirst, hlast⟩ : ∃ year < 400,
      daysBeforeYear year ≤ day ∧ day < daysBeforeYear (year + 1) :=
    exists_year_of_day (by omega)
  have hlength := daysBeforeYear_succ_le hyear
  have hbefore := daysBeforeYear_of_lt hyear
  rw [ofDays_of_year hn hlt hyear hfirst hlast]
  generalize hof : day - daysBeforeYear year = dayOfYear
  obtain ⟨hmonth, hmonth', hone, hlate, hday⟩ :=
    monthAndDay_valid dayOfYear (isLeap (year + 1)) (by omega)
  simp only [isValid, Bool.and_eq_true, decide_eq_true_eq]
  refine ⟨⟨⟨⟨⟨?_, ?_⟩, hmonth⟩, hmonth'⟩, hone⟩, ?_⟩
  · split
    · omega
    · omega
  · split
    · omega
    · omega
  · rw [daysIn]
    by_cases hfebruary : (monthAndDay dayOfYear).1 = 2
    · rw [if_pos hfebruary] at hday
      have hnext : isLeap (year + eras * 400 + 1) = isLeap (year + 1) := by
        rw [Nat.add_right_comm, isLeap_add_eras]
      rwa [if_pos hfebruary, if_pos (Nat.le_of_eq hfebruary), hnext]
    · rw [if_neg hfebruary] at hday
      rwa [if_neg hfebruary]

/-- The date of a number is valid. -/
theorem isValid_of_ofDay? {n : Int} {d : Date} (h : ofDay? n = some d) : d.isValid = true := by
  unfold ofDay? at h
  split at h
  · rename_i hn
    cases h
    exact isValid_ofDays (by omega)
  · cases h

/-! ## Dates in a text -/

/-- A date that stands in front of a text is looked at. -/
theorem isValid_of_read? {cs rest : List Char} {d : Date} (h : read? cs = some (d, rest)) :
    d.isValid = true := by
  unfold read? at h
  split at h
  · simp only [Option.bind_eq_bind, Option.bind_eq_some_iff] at h
    obtain ⟨_, -, _, -, _, -, h⟩ := h
    split at h
    · rename_i hvalid
      cases h
      exact hvalid
    · cases h
  · cases h

/-- A date that is written out is valid. -/
theorem isValid_of_ofText? {s : String} {d : Date} (h : ofText? s = some d) :
    d.isValid = true := by
  unfold ofText? at h
  split at h
  · rename_i hread
    cases h
    exact isValid_of_read? hread
  · cases h

/-- The date of a midnight is valid. -/
theorem isValid_of_midnight? {s : String} {d : Date} (h : midnight? s = some d) :
    d.isValid = true := by
  simp only [midnight?, Option.bind_eq_bind, Option.bind_eq_some_iff] at h
  obtain ⟨⟨read, rest⟩, hread, h⟩ := h
  have hvalid : read.isValid = true := isValid_of_read? hread
  split at h
  · split at h
    · obtain ⟨_, -, h⟩ := Option.bind_eq_some_iff.1 h
      split at h
      · cases h
        exact hvalid
      · cases h
    · cases h
  · cases h

end Date

/-! ## Timestamps -/

namespace Timestamp

/-- The date that begins at an instant is valid. -/
theorem isValid_of_dateAt? {micros : Int} {d : Date} (h : dateAt? micros = some d) :
    d.isValid = true := by
  unfold dateAt? at h
  split at h
  · exact Date.isValid_of_ofDay? h
  · cases h

/-- The date of a whole number is valid. -/
theorem isValid_of_ofWhole? {n : Int} {d : Date} (h : ofWhole? n = some d) : d.isValid = true :=
  isValid_of_dateAt? h

/-- The date of a number with a fraction is valid. -/
theorem isValid_of_ofFloat? {x : Float} {d : Date} (h : ofFloat? x = some d) :
    d.isValid = true := by
  simp only [ofFloat?] at h
  split at h
  · cases h
  · exact isValid_of_dateAt? h

end Timestamp

/-! ## Dates of a request -/

namespace DateText

/-- The date of a timestamp without a point is valid. -/
theorem isValid_of_wholeTimestamp? {cs : List Char} {d : Date}
    (h : wholeTimestamp? cs = some d) : d.isValid = true := by
  simp only [wholeTimestamp?] at h
  split at h
  · cases h
  · exact Timestamp.isValid_of_ofWhole? h

/-- The date of a timestamp with a point is valid. -/
theorem isValid_of_decimalTimestamp? {cs : List Char} {d : Date}
    (h : decimalTimestamp? cs = some d) : d.isValid = true := by
  simp only [decimalTimestamp?] at h
  split at h
  · obtain ⟨x, -, hx⟩ := Option.bind_eq_some_iff.1 h
    exact Timestamp.isValid_of_ofFloat? hx
  · cases h

/-- Every way to give a date by a text gives a valid one. -/
theorem isValid_of_date? {s : String} {d : Date} (h : date? s = some d) : d.isValid = true := by
  simp only [date?, Option.orElse_eq_orElse, Option.orElse_eq_or, Option.or_eq_some_iff] at h
  obtain hdate | ⟨-, hmidnight | ⟨-, hwhole | ⟨-, hdecimal⟩⟩⟩ := h
  · exact Date.isValid_of_ofText? hdate
  · exact Date.isValid_of_midnight? hmidnight
  · exact isValid_of_wholeTimestamp? hwhole
  · exact isValid_of_decimalTimestamp? hdecimal

end DateText

/-- Whatever a date is read from, it is valid. -/
theorem Kind.isValid_of_readDate {j : Json} {d : Date} (h : Kind.readDate j = .ok d) :
    d.isValid = true := by
  have found {o : Option Date} (hfound : Kind.foundDate o = .ok d) : o = some d := by
    cases o with
    | none => cases hfound
    | some e =>
      cases hfound
      rfl
  unfold Kind.readDate at h
  split at h
  · split at h
    · exact Timestamp.isValid_of_ofWhole? (found h)
    · simp only at h
      split at h
      · exact Timestamp.isValid_of_ofFloat? (found h)
      · cases h
  · exact Timestamp.isValid_of_ofFloat? (found h)
  · cases h
  · exact DateText.isValid_of_date? (found h)
  · cases h

end WastePickup
