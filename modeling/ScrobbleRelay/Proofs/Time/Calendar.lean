import Mathlib.Tactic.IntervalCases
import ScrobbleRelay.Time.Civil

/-!
# Days and dates

Counting the days up to the date of a day gives the day, for every day before
and after 1970.  A cycle of 400 years is cut into years that begin on the first
of March: the quotient that finds the year grows with the day and changes at
the first days of the years only, which are checked one by one.  Within such a
year the months have the same first days whether or not it ends in a leap day.
-/

namespace ScrobbleRelay.Time

/-! ## Years of a cycle -/

/-- The year of a cycle in which a day of the cycle lies. -/
def yearOfCycle (day : Nat) : Nat :=
  (day - day / 1460 + day / 36524 - day / 146096) / 365

def firstOfYear (year : Nat) : Nat :=
  365 * year + year / 4 - year / 100 + year / 400

theorem yearOfCycle_le_succ {day : Nat} (h : day + 1 < 146097) :
    yearOfCycle day ≤ yearOfCycle (day + 1) := by
  unfold yearOfCycle
  apply Nat.div_le_div_right
  by_cases hlast : day + 1 = 146096
  · obtain rfl : day = 146095 := by omega
    decide
  · omega

theorem yearOfCycle_mono {first last : Nat} (hle : first ≤ last)
    (h : last < 146097) : yearOfCycle first ≤ yearOfCycle last := by
  induction last, hle using Nat.le_induction with
  | base => exact Nat.le_refl _
  | succ day hle ih =>
      exact (ih (by omega)).trans (yearOfCycle_le_succ h)

theorem yearOfCycle_firstOfYear : ∀ year < 400,
    yearOfCycle (firstOfYear year) = year ∧
      yearOfCycle (firstOfYear (year + 1) - 1) = year := by
  decide +kernel

/-- A day lies between the first days of its year and of the next one. -/
theorem firstOfYear_le {day : Nat} (h : day < 146097) :
    yearOfCycle day < 400 ∧ firstOfYear (yearOfCycle day) ≤ day ∧
      day < firstOfYear (yearOfCycle day + 1) := by
  have hlast : yearOfCycle 146096 = 399 := by decide
  have hbound : yearOfCycle day ≤ 399 :=
    hlast ▸ yearOfCycle_mono (by omega) (by decide)
  refine ⟨by omega, ?_, ?_⟩
  · by_contra hbefore
    cases hyear : yearOfCycle day with
    | zero => simp [hyear, firstOfYear] at hbefore
    | succ year =>
        rw [hyear] at hbefore hbound
        have hfirst : firstOfYear (year + 1) < 146097 := by
          unfold firstOfYear
          omega
        have hle : yearOfCycle day ≤ yearOfCycle (firstOfYear (year + 1) - 1) :=
          yearOfCycle_mono (by omega) (by omega)
        rw [hyear, (yearOfCycle_firstOfYear year (by omega)).2] at hle
        omega
  · by_contra hafter
    have hnext : firstOfYear (yearOfCycle day + 1) ≤ day := Nat.not_lt.mp hafter
    have hyear : yearOfCycle day + 1 < 400 := by
      by_contra hlong
      have hlast : yearOfCycle day + 1 = 400 := by omega
      rw [hlast] at hnext
      have hcycle : firstOfYear 400 = 146097 := by decide
      omega
    have hle := yearOfCycle_mono hnext h
    rw [(yearOfCycle_firstOfYear _ hyear).1] at hle
    omega

/-! ## Days before a date -/

theorem daysBeforeYear_succ (year : Int) :
    Date.daysBeforeYear (year + 1) =
      Date.daysBeforeYear year + 365 + (if isLeap year then 1 else 0) := by
  unfold Date.daysBeforeYear isLeap
  by_cases hfour : year % 4 = 0 <;> by_cases hcentury : year % 100 = 0 <;>
    by_cases hcycle : year % 400 = 0 <;> simp [hfour, hcentury, hcycle] <;> omega

/-- The days before a month: those before March have no leap day before them. -/
theorem daysBeforeMonth_eq (year : Int) : ∀ month, 1 ≤ month → month ≤ 12 →
    Date.daysBeforeMonth year month =
      if month ≤ 2 then 31 * (month - 1)
      else 59 + (if isLeap year then 1 else 0) + (153 * (month - 3) + 2) / 5 := by
  intro month hfirst hlast
  interval_cases month <;> cases hleap : isLeap year <;>
    simp [Date.daysBeforeMonth, List.range_succ, daysInMonth, hleap]

/-! ## Dates in years that begin in March -/

/-- The date of a day of the year that begins in March. -/
def ofMarch (year : Int) (dayOfYear : Nat) : Date :=
  let month := (5 * dayOfYear + 2) / 153
  let day := dayOfYear - (153 * month + 2) / 5 + 1
  if month < 10 then ⟨year, month + 3, day⟩ else ⟨year + 1, month - 9, day⟩

theorem ofMarch_valid {year : Int} {n : Nat}
    (h : n < 365 + (if isLeap (year + 1) then 1 else 0)) :
    (ofMarch year n).Valid := by
  have hn : n < 366 := by split at h <;> omega
  unfold ofMarch
  generalize hmonth : (5 * n + 2) / 153 = month
  have hlast : month ≤ 11 := by omega
  interval_cases month <;> simp [Date.Valid, daysInMonth] <;> grind

/-- The day number of a date by the days before its year and those since
March. -/
theorem toDays_ofMarch (year : Int) {n : Nat} (hn : n < 366) :
    (ofMarch year n).toDays =
      Date.daysBeforeYear (year + 1) + n - 306 - 719162 := by
  have hsucc := daysBeforeYear_succ year
  unfold ofMarch
  generalize hmonth : (5 * n + 2) / 153 = month
  have hlast : month ≤ 11 := by omega
  have hday : (153 * month + 2) / 5 ≤ n := by omega
  by_cases hearly : month < 10
  · have hbefore := daysBeforeMonth_eq year (month + 3) (by omega) (by omega)
    simp only [hearly, if_true, Date.toDays]
    rw [hbefore, hsucc, if_neg (by omega)]
    split <;> omega
  · have hbefore := daysBeforeMonth_eq (year + 1) (month - 9) (by omega) (by omega)
    simp only [hearly, if_false, Date.toDays]
    rw [hbefore, if_pos (by omega)]
    omega

/-! ## Every day -/

theorem daysBeforeYear_cycle (cycle : Int) (year : Nat) :
    Date.daysBeforeYear (400 * cycle + year + 1) =
      146097 * cycle + firstOfYear year := by
  unfold Date.daysBeforeYear firstOfYear
  omega

/-- The date of a day, by its cycle and the year of the cycle that begins in
March. -/
theorem ofDays_eq (days : Int) :
    ∃ (cycle : Int) (year n : Nat),
      n < 365 + (if isLeap (400 * cycle + year + 1) then 1 else 0) ∧
      days + 719468 = 146097 * cycle + firstOfYear year + n ∧
      Date.ofDays days = ofMarch (400 * cycle + year) n := by
  generalize hcycle : (days + 719468) / 146097 = cycle
  generalize hday : ((days + 719468) % 146097).toNat = day
  have hdays : days + 719468 = 146097 * cycle + day := by omega
  obtain ⟨hyear, hfirst, hnext⟩ := firstOfYear_le (show day < 146097 by omega)
  have hn : day - firstOfYear (yearOfCycle day) <
      365 + (if isLeap (400 * cycle + yearOfCycle day + 1) then 1 else 0) := by
    have hsucc := daysBeforeYear_succ (400 * cycle + yearOfCycle day + 1)
    have hyears : (400 * cycle + yearOfCycle day + 1 : Int) =
        400 * cycle + (yearOfCycle day + 1 : Nat) := by omega
    rw [daysBeforeYear_cycle, hyears, daysBeforeYear_cycle] at hsucc
    rw [hyears]
    by_cases hleap : isLeap (400 * cycle + (yearOfCycle day + 1 : Nat)) = true
    · rw [if_pos hleap] at hsucc ⊢
      omega
    · rw [if_neg hleap] at hsucc ⊢
      omega
  refine ⟨cycle, yearOfCycle day, day - firstOfYear (yearOfCycle day), hn,
    by omega, ?_⟩
  have hplain : firstOfYear (yearOfCycle day) =
      365 * yearOfCycle day + yearOfCycle day / 4 - yearOfCycle day / 100 := by
    unfold firstOfYear
    omega
  have hquotient :
      (day - day / 1460 + day / 36524 - day / 146096) / 365 =
        yearOfCycle day := rfl
  have hshort : day - firstOfYear (yearOfCycle day) < 366 := by
    split at hn <;> omega
  simp only [Date.ofDays, hcycle, hday, hquotient, ← hplain, ofMarch]
  generalize day - firstOfYear (yearOfCycle day) = n at hshort ⊢
  generalize hmonth : (5 * n + 2) / 153 = month
  by_cases hearly : month < 10
  · simp [hearly]
    omega
  · simp [hearly]
    omega

theorem valid_ofDays (days : Int) : (Date.ofDays days).Valid := by
  obtain ⟨cycle, year, n, hn, -, hdate⟩ := ofDays_eq days
  rw [hdate]
  exact ofMarch_valid hn

theorem toDays_ofDays (days : Int) : (Date.ofDays days).toDays = days := by
  obtain ⟨cycle, year, n, hn, hdays, hdate⟩ := ofDays_eq days
  have hshort : n < 366 := by split at hn <;> omega
  rw [hdate, toDays_ofMarch _ hshort, daysBeforeYear_cycle]
  omega

end ScrobbleRelay.Time
