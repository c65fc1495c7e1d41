import Heritage.Exports.Filters

/-!
# Accepted requests can be read

The schema checks a day at midnight in UTC; the queries read it again, at
midnight in the Philippines or one day later.  For every accepted value, plain
or signed, these instants exist too.
-/

namespace Heritage.Exports

open Heritage.Store Heritage.Calendar
open Heritage.Payments (TxError)
open Repository

variable {platform : Platform} {value : String}

/-- The last and the first day of the time values are not the first of their
months. -/
theorem day_of_extreme {date : CalendarDay}
    (extreme : date.number = 100000000 ∨ date.number = -100000000) :
    date.day ≠ 1 := by
  have last : (dayOf 100000000).day = 13 := by decide
  have first : (dayOf (-100000000)).day = 20 := by decide
  rw [← dayOf_number date]
  rcases extreme with same | same
  · rw [same, last]
    decide
  · rw [same, first]
    decide

/-- The sign, the six digits and the month. -/
def signedMonth (date : CalendarDay) : List Char :=
  yearText date.year ++ '-' :: pad 2 date.month

theorem take_toISOString_signed {time : Int}
    (signed : ¬ (dayAt time).HasFourDigits) :
    (toISOString time).take 10 = signedMonth (dayAt time) := by
  have withSign :
      yearText (dayAt time).year =
        (if (dayAt time).year < 0 then '-' else '+') ::
          pad 6 (dayAt time).year.natAbs :=
    if_neg signed
  have sevenLetters : (yearText (dayAt time).year).length = 7 := by
    rw [withSign, List.length_cons, length_pad]
  have tenLetters : (signedMonth (dayAt time)).length = 10 := by
    rw [signedMonth, List.length_append, sevenLetters, List.length_cons,
      length_pad]
  have split :
      toISOString time =
        signedMonth (dayAt time) ++
          '-' :: (pad 2 (dayAt time).day ++
            'T' :: (timeText (timeWithinDay time) ++ ['Z'])) := by
    simp [toISOString, CalendarDay.text, signedMonth]
  rw [split, ← tenLetters]
  exact List.take_left' rfl

/-- A month without a day is read as its first. -/
theorem readDate_signedMonth {date : CalendarDay}
    (small : date.year.natAbs < 10 ^ 6) (rest : List Char) :
    readDate (signedMonth date ++ 'T' :: rest) =
      some (makeDay date.year date.month 1, 'T' :: rest) := by
  have monthDigits : date.month < 10 ^ 2 := by
    have isMonth := date.monthReal
    omega
  unfold signedMonth readDate
  simp only [List.append_assoc, List.cons_append, readYear_yearText small,
    Option.bind_eq_bind, Option.bind_some, List.head?_cons, if_true,
    readElement_pad date.monthReal monthDigits, readOptional]
  rfl

theorem inRange_of_dateParse {letters : List Char} {time : Int}
    (parsed : dateParse platform letters = some time) :
    -maxTime ≤ time ∧ time ≤ maxTime := by
  have clipped :
      ∀ before, timeClip before = some time →
        -maxTime ≤ time ∧ time ≤ maxTime := by
    intro before same
    unfold timeClip at same
    split at same
    · rename_i inRange
      rw [← Option.some.inj same]
      exact inRange
    · cases same
  unfold dateParse at parsed
  split at parsed
  · exact clipped _ parsed
  · obtain ⟨before, -, same⟩ := Option.bind_eq_some_iff.mp parsed
    exact clipped before same

/-- Both midnights of a value exist, and so does the day after. -/
structure ReadsDay (platform : Platform) (value : String) (number : Int) :
    Prop where
  utc :
    parseDay platform value "T00:00:00.000Z" =
      some (number * millisecondsPerDay)
  manila :
    parseDay platform value "T00:00:00.000+08:00" =
      some (number * millisecondsPerDay - philippineUtcOffsetMs)
  inside : -100000000 < number ∧ number < 100000000

theorem NamesDay.readsDay {date : CalendarDay} (names : NamesDay value date) :
    ReadsDay platform value date.number where
  utc := names.parseDay_eq platform
  manila := names.parseManilaDay_eq platform
  inside := by
    have bounds := names.number_bounds
    omega

/-- Midnight of a month's first day, in a time zone. -/
theorem readDateTime_signedMonth {date : CalendarDay}
    (small : date.year.natAbs < 10 ^ 6) {time zone : List Char} {offset : Int}
    (midnight : readTime time = some (0, zone))
    (readsZone : readZone zone = some offset) :
    readDateTime (signedMonth date ++ 'T' :: time) =
      some
        (makeDay date.year date.month 1 * millisecondsPerDay - offset) := by
  rw [readDateTime_of_parts (readDate_signedMonth small _) midnight
      readsZone,
    Nat.cast_zero, add_zero]

/-- A value with a sign stands for the first of its month. -/
theorem readsDay_of_signed {time : Int}
    (parsed : parseDay platform value "T00:00:00.000Z" = some time)
    (same : (toISOString time).take 10 = value.toList)
    (signed : ¬ (dayAt time).HasFourDigits) :
    ReadsDay platform value (dayAt time).number := by
  have inRange := inRange_of_dateParse parsed
  have small := dayAt_year inRange
  have letters : value.toList = signedMonth (dayAt time) := by
    rw [← same, take_toISOString_signed signed]
  have utc :
      readDateTime (value.toList ++ "T00:00:00.000Z".toList) =
        some
          (makeDay (dayAt time).year (dayAt time).month 1 *
              millisecondsPerDay - 0) := by
    have midnight : readTime "00:00:00.000Z".toList = some (0, ['Z']) := by
      decide
    rw [letters]
    exact readDateTime_signedMonth small midnight rfl
  have manila :
      readDateTime (value.toList ++ "T00:00:00.000+08:00".toList) =
        some
          (makeDay (dayAt time).year (dayAt time).month 1 *
              millisecondsPerDay - philippineUtcOffsetMs) := by
    have midnight :
        readTime "00:00:00.000+08:00".toList =
          some (0, "+08:00".toList) := by
      decide
    rw [letters]
    exact readDateTime_signedMonth small midnight (by decide)
  have midnight :
      time =
        makeDay (dayAt time).year (dayAt time).month 1 *
          millisecondsPerDay := by
    have clipped := parsed
    rw [parseDay, dateParse, utc] at clipped
    dsimp only at clipped
    unfold timeClip at clipped
    split at clipped
    · rw [sub_zero] at clipped
      exact (Option.some.inj clipped).symm
    · cases clipped
  have number :
      (dayAt time).number =
        makeDay (dayAt time).year (dayAt time).month 1 := by
    have divided :
        time / millisecondsPerDay =
          makeDay (dayAt time).year (dayAt time).month 1 := by
      conv_lhs => rw [midnight]
      exact Int.mul_ediv_cancel _ (by decide)
    rw [← divided]
    exact number_dayOf _
  have firstOfMonth : (dayAt time).day = 1 := by
    have counted := number
    unfold CalendarDay.number makeDay at counted
    omega
  rw [← number] at utc manila midnight
  have inside :
      -100000000 < (dayAt time).number ∧ (dayAt time).number < 100000000 := by
    have notExtreme := mt day_of_extreme (not_not.mpr firstOfMonth)
    rw [midnight] at inRange
    unfold maxTime millisecondsPerDay at inRange
    omega
  refine ⟨?_, ?_, inside⟩
  · rw [parsed, ← midnight]
  · rw [parseDay, dateParse, manila]
    apply if_pos
    unfold maxTime millisecondsPerDay philippineUtcOffsetMs
    omega

theorem exists_readsDay (real : isRealCalendarDate platform value) :
    ∃ number, ReadsDay platform value number := by
  unfold isRealCalendarDate at real
  obtain ⟨time, parsed, same⟩ := (Option.any_eq_true ..).mp real
  have letters : (toISOString time).take 10 = value.toList :=
    of_decide_eq_true same
  by_cases fourDigits : (dayAt time).HasFourDigits
  · rw [take_toISOString fourDigits] at letters
    have names : NamesDay value (dayAt time) := ⟨fourDigits, letters.symm⟩
    exact ⟨_, names.readsDay⟩
  · exact ⟨_, readsDay_of_signed parsed letters fourDigits⟩

section Ranges

variable {filters : DatedFilters}
  (realFrom :
    ∀ day, filters.rangeFrom = some day → isRealCalendarDate platform day)
  (realTo :
    ∀ day, filters.rangeTo = some day → isRealCalendarDate platform day)

include realFrom realTo

theorem exists_manilaDayRange :
    ∃ range, manilaDayRange platform filters = .ok range := by
  cases hasFrom : filters.rangeFrom with
  | none =>
      exact ⟨none, by simp only [manilaDayRange, hasFrom]⟩
  | some first =>
      cases hasTo : filters.rangeTo with
      | none =>
          exact ⟨none, by simp only [manilaDayRange, hasFrom, hasTo]⟩
      | some last =>
          obtain ⟨start, readsFirst⟩ := exists_readsDay (realFrom first hasFrom)
          obtain ⟨finish, readsLast⟩ := exists_readsDay (realTo last hasTo)
          have nextDay :
              timeClip
                  (finish * millisecondsPerDay - philippineUtcOffsetMs +
                    millisecondsPerDay) =
                some
                  (finish * millisecondsPerDay - philippineUtcOffsetMs +
                    millisecondsPerDay) := by
            have inside := readsLast.inside
            apply if_pos
            unfold maxTime millisecondsPerDay philippineUtcOffsetMs
            omega
          refine
            ⟨some
              { gte := start * millisecondsPerDay - philippineUtcOffsetMs
                lt :=
                  finish * millisecondsPerDay - philippineUtcOffsetMs +
                    millisecondsPerDay }, ?_⟩
          simp only [manilaDayRange, hasFrom, hasTo, readsFirst.manila,
            readsLast.manila, demand, ok_bind, nextDay]

theorem exists_dateOnlyRange :
    ∃ range, dateOnlyRange platform filters = .ok range := by
  cases hasFrom : filters.rangeFrom with
  | none =>
      exact ⟨none, by simp only [dateOnlyRange, hasFrom]⟩
  | some first =>
      cases hasTo : filters.rangeTo with
      | none =>
          exact ⟨none, by simp only [dateOnlyRange, hasFrom, hasTo]⟩
      | some last =>
          obtain ⟨start, readsFirst⟩ := exists_readsDay (realFrom first hasFrom)
          obtain ⟨finish, readsLast⟩ := exists_readsDay (realTo last hasTo)
          refine
            ⟨some
              { gte := start * millisecondsPerDay
                lte := finish * millisecondsPerDay }, ?_⟩
          simp only [dateOnlyRange, hasFrom, hasTo, readsFirst.utc,
            readsLast.utc, demand, ok_bind]

end Ranges

/-- The filter of an accepted request is read without an error. -/
theorem exists_recordFilter {raw : RawValue} {request : FinanceExportRequest}
    (accepted : financeExportRequestSchema platform raw = .ok request) :
    ∃ filter, recordFilter platform request = .ok filter := by
  obtain ⟨fields, dataset, parsed, noIssues, -⟩ := accepted_member accepted
  have manila :
      ∀ filters, request.dated = some filters →
        ∃ range, manilaDayRange platform filters = .ok range := by
    intro filters dated
    obtain ⟨realFrom, realTo⟩ := member_real parsed noIssues dated
    exact exists_manilaDayRange realFrom realTo
  cases request with
  | bookings bookingReference =>
      exact ⟨_, rfl⟩
  | payments filters status =>
      obtain ⟨range, read⟩ := manila filters rfl
      exact ⟨_, by rw [recordFilter, read]; rfl⟩
  | refunds filters =>
      obtain ⟨range, read⟩ := manila filters rfl
      exact ⟨_, by rw [recordFilter, read]; rfl⟩
  | allocations filters =>
      obtain ⟨range, read⟩ := manila filters rfl
      exact ⟨_, by rw [recordFilter, read]; rfl⟩
  | installments filters =>
      obtain ⟨realFrom, realTo⟩ := member_real parsed noIssues rfl
      obtain ⟨range, read⟩ := exists_dateOnlyRange realFrom realTo
      exact ⟨_, by rw [recordFilter, read]; rfl⟩

end Heritage.Exports
