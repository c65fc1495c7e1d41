import Mathlib

/-!
# The Gregorian calendar

Days are numbered from 1 January 1970.  A `CalendarDay` carries the proof that
its month has the day; numbering the days is a bijection that keeps their
order.
-/

namespace Heritage.Calendar

def isLeapYear (year : Int) : Bool :=
  year % 4 = 0 ∧ (year % 100 ≠ 0 ∨ year % 400 = 0)

def daysInYear (year : Int) : Int :=
  if isLeapYear year then 366 else 365

/-- The number of the first day of a year. -/
def dayFromYear (year : Int) : Int :=
  365 * (year - 1970) + (year - 1969) / 4 - (year - 1901) / 100 +
    (year - 1601) / 400

theorem dayFromYear_succ (year : Int) :
    dayFromYear (year + 1) = dayFromYear year + daysInYear year := by
  unfold dayFromYear daysInYear isLeapYear
  simp only [decide_eq_true_eq]
  split <;> omega

/-- The year of a day: an estimate from the mean year, put right by one. -/
def yearFromDay (day : Int) : Int :=
  let estimate := 1970 + day * 400 / 146097
  if day < dayFromYear estimate then
    estimate - 1
  else if dayFromYear (estimate + 1) ≤ day then
    estimate + 1
  else
    estimate

theorem yearFromDay_spec (day : Int) :
    dayFromYear (yearFromDay day) ≤ day ∧
      day < dayFromYear (yearFromDay day + 1) := by
  unfold yearFromDay
  dsimp only
  split
  · rename_i before
    rw [sub_add_cancel]
    refine ⟨?_, before⟩
    unfold dayFromYear at *
    omega
  · split
    · rename_i notBefore after
      refine ⟨after, ?_⟩
      unfold dayFromYear at *
      omega
    · rename_i notBefore notAfter
      exact ⟨not_lt.mp notBefore, not_le.mp notAfter⟩

theorem dayFromYear_mono {year later : Int} (earlier : year ≤ later) :
    dayFromYear year ≤ dayFromYear later := by
  unfold dayFromYear
  omega

def daysInMonth (year : Int) : Nat → Nat
  | 1 => 31
  | 2 => if isLeapYear year then 29 else 28
  | 3 => 31
  | 4 => 30
  | 5 => 31
  | 6 => 30
  | 7 => 31
  | 8 => 31
  | 9 => 30
  | 10 => 31
  | 11 => 30
  | 12 => 31
  | _ => 0

/-- The days of the months before a month. -/
def daysBeforeMonth (year : Int) : Nat → Nat
  | 0 => 0
  | month + 1 => daysBeforeMonth year month + daysInMonth year month

theorem daysBeforeMonth_mono (year : Int) {month later : Nat}
    (earlier : month ≤ later) :
    daysBeforeMonth year month ≤ daysBeforeMonth year later := by
  induction later, earlier using Nat.le_induction with
  | base =>
      exact le_refl _
  | succ later _ inductionHypothesis =>
      exact inductionHypothesis.trans (Nat.le_add_right _ _)

theorem daysBeforeMonth_end (year : Int) :
    (daysBeforeMonth year 13 : Int) = daysInYear year := by
  unfold daysInYear
  cases leap : isLeapYear year <;> simp [daysBeforeMonth, daysInMonth, leap]

/-- The month of the day with `dayOfYear` days of the year before it: the last
one that no more days come before. -/
def monthFromDayOfYear (year : Int) (dayOfYear : Nat) : Nat :=
  Nat.findGreatest (fun month => daysBeforeMonth year month ≤ dayOfYear) 12

theorem monthFromDayOfYear_spec (year : Int) {dayOfYear : Nat}
    (inYear : (dayOfYear : Int) < daysInYear year) :
    (1 ≤ monthFromDayOfYear year dayOfYear ∧
        monthFromDayOfYear year dayOfYear ≤ 12) ∧
      daysBeforeMonth year (monthFromDayOfYear year dayOfYear) ≤ dayOfYear ∧
      dayOfYear <
        daysBeforeMonth year (monthFromDayOfYear year dayOfYear + 1) := by
  have january : daysBeforeMonth year 1 ≤ dayOfYear := Nat.zero_le dayOfYear
  have isMonth : monthFromDayOfYear year dayOfYear ≤ 12 :=
    Nat.findGreatest_le 12
  refine ⟨⟨Nat.le_findGreatest (by omega) january, isMonth⟩, ?_, ?_⟩
  · exact
      Nat.findGreatest_spec
        (P := fun month => daysBeforeMonth year month ≤ dayOfYear)
        (by omega : 1 ≤ 12) january
  · rcases isMonth.lt_or_eq with before | december
    · exact
        not_le.mp
          (Nat.findGreatest_is_greatest
            (P := fun month => daysBeforeMonth year month ≤ dayOfYear)
            (Nat.lt_succ_self _) (Nat.succ_le_of_lt before))
    · have yearEnd := daysBeforeMonth_end year
      rw [december]
      change dayOfYear < daysBeforeMonth year 13
      omega

/-- A day that its month has. -/
structure CalendarDay where
  year : Int
  month : Nat
  day : Nat
  monthReal : 1 ≤ month ∧ month ≤ 12
  dayReal : 1 ≤ day ∧ day ≤ daysInMonth year month
  deriving DecidableEq, Repr

namespace CalendarDay

/-- Days since 1 January 1970. -/
def number (date : CalendarDay) : Int :=
  dayFromYear date.year + daysBeforeMonth date.year date.month +
    (date.day - 1)

/-- An earlier year, or an earlier month of it, or an earlier day of that. -/
def Before (date later : CalendarDay) : Prop :=
  date.year < later.year ∨
    date.year = later.year ∧
      (date.month < later.month ∨
        date.month = later.month ∧ date.day < later.day)

/-- A day comes before the next month and the next year. -/
theorem number_bounds (date : CalendarDay) :
    dayFromYear date.year + daysBeforeMonth date.year date.month ≤
        date.number ∧
      date.number <
        dayFromYear date.year + daysBeforeMonth date.year (date.month + 1) ∧
      dayFromYear date.year ≤ date.number ∧
      date.number < dayFromYear (date.year + 1) := by
  obtain ⟨-, isMonth⟩ := date.monthReal
  obtain ⟨positive, inMonth⟩ := date.dayReal
  have monthEnd :
      daysBeforeMonth date.year (date.month + 1) =
        daysBeforeMonth date.year date.month +
          daysInMonth date.year date.month := rfl
  have inYear :
      daysBeforeMonth date.year (date.month + 1) ≤
        daysBeforeMonth date.year 13 :=
    daysBeforeMonth_mono date.year (Nat.succ_le_succ isMonth)
  have yearEnd := daysBeforeMonth_end date.year
  rw [dayFromYear_succ]
  unfold number
  omega

theorem number_lt_of_before {date later : CalendarDay}
    (before : date.Before later) : date.number < later.number := by
  obtain ⟨-, monthEnd, -, yearEnd⟩ := date.number_bounds
  obtain ⟨laterMonth, -, laterYear, -⟩ := later.number_bounds
  rcases before with
    earlierYear | ⟨sameYear, earlierMonth | ⟨sameMonth, earlierDay⟩⟩
  · have next := dayFromYear_mono (Int.add_one_le_of_lt earlierYear)
    omega
  · have next :
        daysBeforeMonth later.year (date.month + 1) ≤
          daysBeforeMonth later.year later.month :=
      daysBeforeMonth_mono later.year earlierMonth
    rw [sameYear] at monthEnd
    omega
  · unfold number
    rw [sameYear, sameMonth]
    omega

theorem before_trichotomy (date other : CalendarDay) :
    date.Before other ∨ date = other ∨ other.Before date := by
  unfold Before
  rcases lt_trichotomy date.year other.year with earlier | sameYear | later
  · exact Or.inl (Or.inl earlier)
  · rcases lt_trichotomy date.month other.month with
      earlier | sameMonth | later
    · exact Or.inl (Or.inr ⟨sameYear, Or.inl earlier⟩)
    · rcases lt_trichotomy date.day other.day with earlier | sameDay | later
      · exact Or.inl (Or.inr ⟨sameYear, Or.inr ⟨sameMonth, earlier⟩⟩)
      · right
        left
        cases date
        cases other
        simp_all
      · exact
          Or.inr (Or.inr (Or.inr ⟨sameYear.symm, Or.inr ⟨sameMonth.symm, later⟩⟩))
    · exact Or.inr (Or.inr (Or.inr ⟨sameYear.symm, Or.inl later⟩))
  · exact Or.inr (Or.inr (Or.inl later))

theorem number_lt_iff {date later : CalendarDay} :
    date.number < later.number ↔ date.Before later := by
  constructor
  · intro earlier
    rcases before_trichotomy date later with before | rfl | after
    · exact before
    · exact absurd earlier (lt_irrefl _)
    · exact absurd earlier (number_lt_of_before after).not_gt
  · exact number_lt_of_before

theorem number_injective {date other : CalendarDay}
    (same : date.number = other.number) : date = other := by
  rcases before_trichotomy date other with before | equal | after
  · exact absurd same (number_lt_of_before before).ne
  · exact equal
  · exact absurd same.symm (number_lt_of_before after).ne

end CalendarDay

/-- The days of the year before a day. -/
def dayWithinYear (number : Int) : Nat :=
  (number - dayFromYear (yearFromDay number)).toNat

theorem dayWithinYear_spec (number : Int) :
    dayFromYear (yearFromDay number) + dayWithinYear number = number ∧
      (dayWithinYear number : Int) < daysInYear (yearFromDay number) := by
  obtain ⟨atLeast, below⟩ := yearFromDay_spec number
  rw [dayFromYear_succ] at below
  unfold dayWithinYear
  omega

/-- The day with a number. -/
def dayOf (number : Int) : CalendarDay where
  year := yearFromDay number
  month := monthFromDayOfYear (yearFromDay number) (dayWithinYear number)
  day :=
    dayWithinYear number -
        daysBeforeMonth (yearFromDay number)
          (monthFromDayOfYear (yearFromDay number) (dayWithinYear number)) +
      1
  monthReal :=
    (monthFromDayOfYear_spec _ (dayWithinYear_spec number).2).1
  dayReal := by
    obtain ⟨-, atLeast, below⟩ :=
      monthFromDayOfYear_spec _ (dayWithinYear_spec number).2
    rw [daysBeforeMonth] at below
    omega

theorem number_dayOf (number : Int) : (dayOf number).number = number := by
  obtain ⟨split, inYear⟩ := dayWithinYear_spec number
  obtain ⟨-, atLeast, -⟩ := monthFromDayOfYear_spec _ inYear
  unfold CalendarDay.number dayOf
  dsimp only
  omega

@[simp]
theorem dayOf_number (date : CalendarDay) : dayOf date.number = date :=
  CalendarDay.number_injective (number_dayOf date.number)

end Heritage.Calendar
