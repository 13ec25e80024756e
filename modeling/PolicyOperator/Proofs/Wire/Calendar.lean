import PolicyOperator.Instant
import Mathlib.Tactic

/-!
# The calendar

`toDays_ofDays` and `isValid_ofDays`: a number of days is turned into a day that exists, and that
day is numbered so.

Years are counted from March, 400 of them to an era. Within an era the year of a day is found by
taking the leap days out of its number (`levelled`): the years then have 365 days each, which is
checked for the 400 years of an era (`levelled_daysBefore`), and the number never decreases.
-/

namespace PolicyOperator.Date

/-! ## The years of an era -/

/-- Days of an era before the March with which a year begins. -/
def daysBefore (year : Int) : Int := 365 * year + year / 4 - year / 100

/-- A day of an era, counted without the leap days before it. -/
def levelled (day : Int) : Int := day - day / 1460 + day / 36524 - day / 146096

theorem levelled_mono {a b : Int} (h : a ≤ b) : levelled a ≤ levelled b := by
  have hstep : ∀ c : Int, levelled c ≤ levelled (c + 1) := by
    intro c
    -- a cycle of 400 years ends with one of its centuries
    have hcycle : ∀ d : Int, d / 146096 = d / 36524 / 4 := fun d => by omega
    simp only [levelled, hcycle]
    omega
  induction b, h using Int.leInduction with
  | base => exact le_refl _
  | succ b _ ih => exact ih.trans (hstep b)

/-- Levelled, each year of an era has 365 days; the leap day that may end it is not counted. -/
theorem levelled_daysBefore : ∀ year : Fin 400,
    (365 * year : Int) ≤ levelled (daysBefore year) ∧
      levelled (daysBefore (year + 1) - 1) < 365 * (year + 1) ∧
      (year ≠ 399 → daysBefore (year + 1) - daysBefore year =
        if isLeap (year + 1) then 366 else 365) := by
  decide +kernel

theorem isLeap_add_eras (year era : Int) : isLeap (year + era * 400) = isLeap year := by
  have h4 : (year + era * 400) % 4 = year % 4 := by omega
  have h100 : (year + era * 400) % 100 = year % 100 := by omega
  have h400 : (year + era * 400) % 400 = year % 400 := by omega
  rw [isLeap, isLeap, h4, h100, h400]

theorem daysBefore_le {day : Int} {year : Fin 400} (h : 0 ≤ day)
    (hyear : 365 * (year : Int) ≤ levelled day) : daysBefore year ≤ day := by
  by_contra hday
  by_cases hzero : (year : Nat) = 0
  · simp [hzero, daysBefore] at hday
    omega
  · -- the day would come in the year before, and level with it
    have hprevious := (levelled_daysBefore ⟨year - 1, by omega⟩).2.1
    have hmono := levelled_mono (show day ≤ daysBefore year - 1 by omega)
    simp only [show ((year - 1 : Nat) : Int) + 1 = year by omega] at hprevious
    omega

/-- A year has its day 365 only if it ends with a leap day. -/
theorem sub_daysBefore_le {day : Int} {year : Fin 400} (h : day < 146097)
    (hyear : levelled day < 365 * (year + 1)) :
    day - daysBefore year ≤ 365 ∧ (day - daysBefore year = 365 → isLeap (year + 1)) := by
  by_cases hlast : (year : Nat) = 399
  · simp only [hlast, daysBefore]
    exact ⟨by omega, fun _ => by decide⟩
  · have hnext := (levelled_daysBefore ⟨year + 1, by omega⟩).1
    have hday : day < daysBefore (year + 1) := by
      by_contra hday
      have hmono := levelled_mono (show daysBefore (year + 1) ≤ day by omega)
      simp only [Nat.cast_add, Nat.cast_one] at hnext
      omega
    have hne : year ≠ 399 := fun he => hlast (by rw [he]; rfl)
    have hlength := (levelled_daysBefore year).2.2 hne
    split at hlength
    · next hleap => exact ⟨by omega, fun _ => hleap⟩
    · exact ⟨by omega, fun h365 => by omega⟩

/-- The year of an era that a day lies in: the day comes after the days before it, and before the
next year. -/
theorem year_of_levelled {day : Int} (h : 0 ≤ day) (h' : day < 146097) :
    0 ≤ levelled day / 365 ∧ levelled day / 365 < 400 ∧
      0 ≤ day - daysBefore (levelled day / 365) ∧ day - daysBefore (levelled day / 365) ≤ 365 ∧
      (day - daysBefore (levelled day / 365) = 365 → isLeap (levelled day / 365 + 1)) := by
  have hlow : 0 ≤ levelled day := levelled_mono (a := 0) h
  have hhigh : levelled day ≤ 145999 := levelled_mono (b := 146096) (by omega)
  obtain ⟨year, hyear⟩ : ∃ year : Fin 400, (year : Int) = levelled day / 365 :=
    ⟨⟨(levelled day / 365).toNat, by omega⟩, by simp; omega⟩
  rw [← hyear]
  have hafter := daysBefore_le h (show 365 * (year : Int) ≤ levelled day by omega)
  have hbefore := sub_daysBefore_le h' (show levelled day < 365 * ((year : Int) + 1) by omega)
  exact ⟨by omega, by omega, by omega, hbefore⟩

/-! ## The days of a year -/

/-- The day of a year that begins in March, as month and day. -/
def ofYear (year day : Int) : Date :=
  let march := (5 * day + 2) / 153
  let month := if march < 10 then march + 3 else march - 9
  ⟨year + (if month ≤ 2 then 1 else 0), month.toNat, (day - (153 * march + 2) / 5 + 1).toNat⟩

theorem ofDays_eq (days : Int) :
    let year := levelled ((days + 719468) % 146097) / 365
    ofDays days = ofYear (year + (days + 719468) / 146097 * 400)
      ((days + 719468) % 146097 - daysBefore year) := rfl

theorem toDays_ofYear {year day : Int} (h : 0 ≤ day) (h' : day ≤ 365) :
    (ofYear year day).toDays =
      year / 400 * 146097 + (daysBefore (year % 400) + day) - 719468 := by
  simp only [ofYear, toDays, daysBefore]
  have hmarch : 0 ≤ (5 * day + 2) / 153 ∧ (5 * day + 2) / 153 ≤ 11 := by omega
  by_cases hlow : (5 * day + 2) / 153 < 10
  · have h1 : ¬ ((5 * day + 2) / 153 + 3 ≤ 2) := by omega
    have h2 : ¬ (((5 * day + 2) / 153 + 3).toNat ≤ 2) := by omega
    have h3 : ((((5 * day + 2) / 153 + 3).toNat : Int) + 9) % 12 = (5 * day + 2) / 153 := by omega
    simp only [hlow, if_true, h1, h2, if_false, h3, add_zero]
    omega
  · have h1 : (5 * day + 2) / 153 - 9 ≤ 2 := by omega
    have h2 : ((5 * day + 2) / 153 - 9).toNat ≤ 2 := by omega
    have h3 : ((((5 * day + 2) / 153 - 9).toNat : Int) + 9) % 12 = (5 * day + 2) / 153 := by omega
    simp only [hlow, if_false, h1, h2, if_true, h3, add_sub_cancel_right]
    omega

theorem isValid_ofYear {year day : Int} (h : 0 ≤ day) (h' : day ≤ 365)
    (hleap : day = 365 → isLeap (year + 1)) : (ofYear year day).isValid := by
  simp only [ofYear]
  obtain ⟨march, hmarch⟩ : ∃ march : Fin 12, (5 * day + 2) / 153 = march :=
    ⟨⟨((5 * day + 2) / 153).toNat, by omega⟩, by simp; omega⟩
  rw [hmarch]
  fin_cases march <;> simp [isValid, daysInMonth] at hmarch ⊢
  case «11» =>
    -- a year that begins in March ends with February
    split
    · omega
    · next hnone => exact ⟨by omega, by grind⟩
  all_goals omega

/-! ## All days -/

theorem exists_ofYear (days : Int) : ∃ year day : Int, 0 ≤ day ∧ day ≤ 365 ∧
    (day = 365 → isLeap (year + 1)) ∧ ofDays days = ofYear year day ∧
    year / 400 * 146097 + (daysBefore (year % 400) + day) - 719468 = days := by
  have hera : 0 ≤ (days + 719468) % 146097 ∧ (days + 719468) % 146097 < 146097 := by omega
  obtain ⟨h0, h400, hday, hday', hleap⟩ := year_of_levelled hera.1 hera.2
  have hyear : ∀ year era : Int, 0 ≤ year → year < 400 →
      (year + era * 400) / 400 = era ∧ (year + era * 400) % 400 = year := by omega
  refine ⟨_, _, hday, hday', fun h => ?_, ofDays_eq days, ?_⟩
  · rw [add_right_comm, isLeap_add_eras]
    exact hleap h
  · rw [(hyear _ _ h0 h400).1, (hyear _ _ h0 h400).2]
    omega

/-- The days since 1970 number the days of the calendar. -/
theorem toDays_ofDays (days : Int) : (ofDays days).toDays = days := by
  obtain ⟨year, day, h, h', -, hof, hdays⟩ := exists_ofYear days
  rw [hof, toDays_ofYear h h', hdays]

theorem isValid_ofDays (days : Int) : (ofDays days).isValid := by
  obtain ⟨year, day, h, h', hleap, hof, -⟩ := exists_ofYear days
  rw [hof]
  exact isValid_ofYear h h' hleap

/-- The month and the day of a month have two digits. -/
theorem two_digits_of_isValid {date : Date} (h : date.isValid) :
    date.month < 10 ^ 2 ∧ date.day < 10 ^ 2 := by
  simp only [isValid, Bool.and_eq_true, decide_eq_true_eq] at h
  have hle : daysInMonth date.year date.month ≤ 31 := by
    unfold daysInMonth
    split <;> grind
  omega

end PolicyOperator.Date
