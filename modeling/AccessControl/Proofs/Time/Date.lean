import AccessControl.Time.Date

/-!
# Days and dates

`Date.ofDays` gives the date of every day (`toDays_ofDays`), and a date of the calendar on each day
that the calendar has (`isValid_ofDays`).

The days of a cycle are taken apart into centuries, spans of four years and years, each of which can
end in a day more than the regular ones (`exists_parts`). The quotient that `ofDays` takes for the
year of the cycle is settled on these parts, and the bounds of the day of the year follow from it
(`yearOfCycle_spec`).
-/

namespace AccessControl.Date

/-! ### The year of the cycle -/

/-- The days of a cycle before a year of it. -/
def yearStart (year : Int) : Int :=
  365 * year + year / 4 - year / 100

/-- The year of the cycle that a day of the cycle lies in. -/
def yearOfCycle (day : Int) : Int :=
  (day - day / 1460 + day / 36524 - day / 146096) / 365

/-- A day of the cycle lies in a century, in four years of the century and in one of these years.
Only a fourth year has a day 365, and not the last one of the first three centuries. -/
theorem exists_parts {day : Int} (hge : 0 ≤ day) (hlt : day < 146097) :
    ∃ century four year rest : Int,
      day = 36524 * century + 1461 * four + 365 * year + rest ∧
      0 ≤ century ∧ century ≤ 3 ∧ 0 ≤ four ∧ four ≤ 24 ∧ 0 ≤ year ∧ year ≤ 3 ∧ 0 ≤ rest ∧
      rest ≤ 365 ∧ (rest = 365 → year = 3 ∧ (four = 24 → century = 3)) := by
  obtain ⟨century, hcentury⟩ : ∃ century, century = min (day / 36524) 3 := ⟨_, rfl⟩
  obtain ⟨inCentury, hinCentury⟩ : ∃ inCentury, inCentury = day - 36524 * century := ⟨_, rfl⟩
  have hcenturies : 0 ≤ century ∧ century ≤ 3 ∧ 0 ≤ inCentury ∧
      inCentury ≤ 36524 ∧ (inCentury = 36524 → century = 3) := by omega
  obtain ⟨inFour, hinFour⟩ : ∃ inFour, inFour = inCentury % 1461 := ⟨_, rfl⟩
  obtain ⟨year, hyear⟩ : ∃ year, year = min (inFour / 365) 3 := ⟨_, rfl⟩
  have hyears : 0 ≤ year ∧ year ≤ 3 ∧ 0 ≤ inFour - 365 * year ∧ inFour - 365 * year ≤ 365 ∧
      (inFour - 365 * year = 365 → year = 3) := by omega
  exact ⟨century, inCentury / 1461, year, inFour - 365 * year, by omega, by omega, by omega,
    by omega, by omega, by omega, by omega, by omega, by omega, by omega⟩

/-- The year of the cycle on the parts of a day. -/
theorem yearOfCycle_eq {century four year rest : Int}
    (hcentury : 0 ≤ century ∧ century ≤ 3) (hfour : 0 ≤ four ∧ four ≤ 24)
    (hyear : 0 ≤ year ∧ year ≤ 3) (hrest : 0 ≤ rest ∧ rest ≤ 365)
    (hlast : rest = 365 → year = 3 ∧ (four = 24 → century = 3)) :
    yearOfCycle (36524 * century + 1461 * four + 365 * year + rest) =
      100 * century + 4 * four + year := by
  obtain ⟨day, hday⟩ : ∃ day, day = 36524 * century + 1461 * four + 365 * year + rest := ⟨_, rfl⟩
  rw [← hday, yearOfCycle]
  -- The day more at the end of four years is what the first quotient takes away.
  have hfours :
      day / 1460 = 25 * century + four + (24 * century + four + 365 * year + rest) / 1460 := by
    omega
  have hcenturies : day / 36524 - day / 146096 = century := by
    have hcases : 1461 * four + 365 * year + rest ≤ 36523 ∨ day = 146096 := by omega
    rcases hcases with hregular | hlastDay
    · have hquotient : day / 36524 = century := by omega
      have hzero : day / 146096 = 0 := by omega
      omega
    · omega
  omega

/-- A day of the cycle lies in its year, whose day 365 is a leap day. -/
theorem yearOfCycle_spec {day : Int} (hge : 0 ≤ day) (hlt : day < 146097) :
    0 ≤ yearOfCycle day ∧ yearOfCycle day ≤ 399 ∧ yearStart (yearOfCycle day) ≤ day ∧
      day - yearStart (yearOfCycle day) ≤ 365 ∧
      (day - yearStart (yearOfCycle day) = 365 →
        (yearOfCycle day + 1) % 4 = 0 ∧
          ((yearOfCycle day + 1) % 100 ≠ 0 ∨ (yearOfCycle day + 1) % 400 = 0)) := by
  obtain ⟨century, four, year, rest, rfl, hparts⟩ := exists_parts hge hlt
  rw [yearOfCycle_eq (by omega) (by omega) (by omega) (by omega) (by omega)]
  have hstart : yearStart (100 * century + 4 * four + year) =
      36524 * century + 1461 * four + 365 * year := by
    have hfours : (100 * century + 4 * four + year) / 4 = 25 * century + four := by omega
    have hcenturies : (100 * century + 4 * four + year) / 100 = century := by omega
    rw [yearStart, hfours, hcenturies]
    omega
  rw [hstart]
  omega

/-! ### Months -/

/-- The date on a day of a year that begins in March. -/
def ofYearDay (year day : Int) : Date :=
  let month := (5 * day + 2) / 153
  let calendarMonth := if month < 10 then month + 3 else month - 9
  ⟨if calendarMonth ≤ 2 then year + 1 else year, calendarMonth.toNat,
    (day - (153 * month + 2) / 5 + 1).toNat⟩

/-- The date of a day is that on a day of a year, whose day 365 is a leap day. -/
theorem exists_ofDays_eq (days : Int) :
    ∃ cycle year day : Int,
      ofDays days = ofYearDay (year + cycle * 400) day ∧
      days + 719468 = cycle * 146097 + (yearStart year + day) ∧
      (0 ≤ year ∧ year ≤ 399) ∧ (0 ≤ day ∧ day ≤ 365) ∧
      (day = 365 → isLeap (year + cycle * 400 + 1) = true) := by
  have hge : 0 ≤ (days + 719468) % 146097 := by omega
  obtain ⟨hge, hle, hstart, hrest, hleap⟩ := yearOfCycle_spec hge (by omega)
  refine ⟨(days + 719468) / 146097, yearOfCycle ((days + 719468) % 146097),
    (days + 719468) % 146097 - yearStart (yearOfCycle ((days + 719468) % 146097)), rfl, by omega,
    ⟨hge, hle⟩, ⟨by omega, hrest⟩, ?_⟩
  intro hday
  obtain ⟨hfour, hcentury⟩ := hleap hday
  simp only [isLeap, Bool.and_eq_true, Bool.or_eq_true, decide_eq_true_eq]
  omega

/-- The month of a day, and the days of the year before and after it. -/
theorem monthOfYear_spec {day : Int} (hge : 0 ≤ day) (hle : day ≤ 365) :
    0 ≤ (5 * day + 2) / 153 ∧ (5 * day + 2) / 153 ≤ 11 ∧
      (153 * ((5 * day + 2) / 153) + 2) / 5 ≤ day := by
  omega

/-- A day of a year has the number that the year and the day give. -/
theorem toDays_ofYearDay {cycle year day : Int} (hyear : 0 ≤ year ∧ year ≤ 399)
    (hday : 0 ≤ day ∧ day ≤ 365) :
    toDays (ofYearDay (year + cycle * 400) day) =
      cycle * 146097 + (yearStart year + day) - 719468 := by
  obtain ⟨hmonthGe, hmonthLe, hstart⟩ := monthOfYear_spec hday.1 hday.2
  unfold ofYearDay
  generalize (5 * day + 2) / 153 = month at hmonthGe hmonthLe hstart
  have hmonths : ∀ calendarMonth : Int,
      calendarMonth = (if month < 10 then month + 3 else month - 9) →
      ((calendarMonth.toNat : Int) + 9) % 12 = month ∧
      (calendarMonth.toNat ≤ 2 ↔ calendarMonth ≤ 2) := by
    intro calendarMonth hcalendar
    split at hcalendar <;> omega
  obtain ⟨hmonth, htwo⟩ := hmonths _ rfl
  have hdays : (((day - (153 * month + 2) / 5 + 1).toNat : Nat) : Int) =
      day - (153 * month + 2) / 5 + 1 := by omega
  unfold toDays yearStart
  simp only [hmonth, hdays, htwo]
  generalize (if month < 10 then month + 3 else month - 9) = calendarMonth
  split <;> omega

/-- **The date of a day lies on that day.** -/
theorem toDays_ofDays (days : Int) : toDays (ofDays days) = days := by
  obtain ⟨cycle, year, day, heq, hdays, hyear, hday, -⟩ := exists_ofDays_eq days
  rw [heq, toDays_ofYearDay hyear hday, ← hdays]
  omega

/-- The days of a month are those that the calendar gives the month. -/
theorem day_ofYearDay {year day : Int} (hday : 0 ≤ day ∧ day ≤ 365)
    (hleap : day = 365 → isLeap (year + 1) = true) :
    1 ≤ (ofYearDay year day).day ∧
      (ofYearDay year day).day ≤
        daysInMonth (ofYearDay year day).year (ofYearDay year day).month := by
  obtain ⟨hmonthGe, hmonthLe, hstart⟩ := monthOfYear_spec hday.1 hday.2
  have hend : day < (153 * ((5 * day + 2) / 153 + 1) + 2) / 5 := by omega
  unfold ofYearDay daysInMonth
  generalize (5 * day + 2) / 153 = month at hmonthGe hmonthLe hstart hend
  refine ⟨by simp only; omega, ?_⟩
  by_cases hlast : month = 11
  · -- February ends the year, so its day 29 is the day 365 of the year.
    subst hlast
    by_cases hday365 : day = 365
    · simp [hleap hday365]
      omega
    · simp
      split <;> omega
  · have hcalendar : (if month < 10 then month + 3 else month - 9).toNat ≠ 2 := by
      split <;> omega
    simp only
    rw [if_neg hcalendar]
    by_cases hmonth : month < 10
    · simp only [hmonth, if_true]
      split <;> omega
    · simp only [hmonth, if_false]
      split <;> omega

theorem month_ofYearDay (year : Int) {day : Int} (hday : 0 ≤ day ∧ day ≤ 365) :
    1 ≤ (ofYearDay year day).month ∧ (ofYearDay year day).month ≤ 12 := by
  obtain ⟨hmonthGe, hmonthLe, -⟩ := monthOfYear_spec hday.1 hday.2
  unfold ofYearDay
  simp only
  split <;> omega

/-- January and February belong to the next year. -/
theorem year_ofYearDay (year : Int) {day : Int} (hday : 0 ≤ day ∧ day ≤ 365) :
    (ofYearDay year day).year = if 306 ≤ day then year + 1 else year := by
  obtain ⟨hmonthGe, hmonthLe, -⟩ := monthOfYear_spec hday.1 hday.2
  unfold ofYearDay
  simp only
  split <;> split <;> omega

/-- **Every day of the calendar has a valid date.** -/
theorem isValid_ofDays {days : Int} (hge : -96465292 ≤ days) (hle : days ≤ 95026236) :
    (ofDays days).isValid = true := by
  obtain ⟨cycle, year, day, heq, hdays, hyear, hday, hleap⟩ := exists_ofDays_eq days
  have hyears : minYear ≤ (ofDays days).year ∧ (ofDays days).year ≤ maxYear := by
    rw [heq, year_ofYearDay _ hday, minYear, maxYear]
    unfold yearStart at hdays
    -- Only the first and the last cycle of the calendar are not whole.
    have hcycles : cycle = -656 ∨ (-656 < cycle ∧ cycle < 655) ∨ cycle = 655 := by omega
    rcases hcycles with rfl | hwhole | rfl
    · split <;> omega
    · split <;> omega
    · split <;> omega
  rw [heq] at hyears ⊢
  obtain ⟨hmonthGe, hmonthLe⟩ := month_ofYearDay (year + cycle * 400) hday
  obtain ⟨hdayGe, hdayLe⟩ := day_ofYearDay hday hleap
  simp only [isValid, Bool.and_eq_true, decide_eq_true_eq]
  exact ⟨⟨⟨⟨⟨hyears.1, hyears.2⟩, hmonthGe⟩, hmonthLe⟩, hdayGe⟩, hdayLe⟩

end AccessControl.Date
