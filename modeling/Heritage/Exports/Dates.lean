import Heritage.Exports.Schemas

/-!
# The range of an accepted request

A day passes the check when it is the first ten letters of an instant's
`toISOString`.  For years of four digits these are the day itself; for other
years they are the sign, the six digits and the month, which the checks also
let through.
-/

namespace Heritage.Exports

open Heritage.Calendar

variable {platform : Platform}

/-- The value is written with a sign. -/
def startsWithSign (value : String) : Bool :=
  value.toList.head? = some '+' ∨ value.toList.head? = some '-'

/-- The value names a calendar day as `YYYY-MM-DD`. -/
def NamesDay (value : String) (date : CalendarDay) : Prop :=
  date.HasFourDigits ∧ value.toList = date.text

theorem NamesDay.unsigned {value : String} {date : CalendarDay}
    (names : NamesDay value date) : startsWithSign value = false := by
  rw [startsWithSign, names.2, decide_eq_false_iff_not,
    CalendarDay.head_text_sign, not_not]
  exact names.1

/-- A checked value without a sign names a day. -/
theorem namesDay_of_unsigned {value : String}
    (real : isRealCalendarDate platform value)
    (unsigned : startsWithSign value = false) :
    ∃ date, NamesDay value date := by
  unfold isRealCalendarDate at real
  cases parsing : parseDay platform value "T00:00:00.000Z" with
  | none =>
      rw [parsing] at real
      cases real
  | some parsed =>
      rw [parsing] at real
      have same : (toISOString parsed).take 10 = value.toList :=
        of_decide_eq_true real
      have fourDigits : (dayAt parsed).HasFourDigits := by
        by_contra otherYear
        have signed := CalendarDay.head_text_sign.mpr otherYear
        rw [← head_take_toISOString, same] at signed
        exact absurd signed (of_decide_eq_false unsigned)
      exact
        ⟨dayAt parsed, fourDigits,
          same.symm.trans (take_toISOString fourDigits)⟩

/-- The days with four-digit years. -/
theorem NamesDay.number_bounds {value : String} {date : CalendarDay}
    (names : NamesDay value date) :
    -719528 ≤ date.number ∧ date.number < 2932897 := by
  obtain ⟨-, -, atLeast, below⟩ := date.number_bounds
  have first := dayFromYear_mono names.1.1
  have last : dayFromYear (date.year + 1) ≤ dayFromYear 10000 :=
    dayFromYear_mono (by have bound := names.1.2; omega)
  have firstDay : dayFromYear 0 = -719528 := by decide
  have lastDay : dayFromYear 10000 = 2932897 := by decide
  omega

/-- A day with a four-digit year is parsed as its midnight, on every
platform. -/
theorem NamesDay.parseDay_eq {value : String} {date : CalendarDay}
    (names : NamesDay value date) (platform : Platform) :
    parseDay platform value "T00:00:00.000Z" =
      some (date.number * millisecondsPerDay) := by
  have inRange :
      -maxTime ≤ date.number * millisecondsPerDay ∧
        date.number * millisecondsPerDay ≤ maxTime := by
    have bounds := names.number_bounds
    unfold maxTime millisecondsPerDay
    omega
  rw [parseDay, names.2, ← toISOString_midnight, dateParse,
    readDateTime_toISOString inRange]
  exact if_pos inRange

/-- Two days in order, no more than 366 counting both. -/
structure RealRange (first last : String) (start finish : CalendarDay) :
    Prop where
  first : NamesDay first start
  last : NamesDay last finish
  ordered : start.number ≤ finish.number
  atLeastOne : 1 ≤ finish.number - start.number + 1
  atMostAYear : finish.number - start.number + 1 ≤ 366

theorem NamesDay.countInclusiveDays_eq {first last : String}
    {start finish : CalendarDay} (namesFirst : NamesDay first start)
    (namesLast : NamesDay last finish) :
    countInclusiveDays platform first last =
      some (finish.number - start.number + 1) := by
  simp only [countInclusiveDays, namesFirst.parseDay_eq,
    namesLast.parseDay_eq, Option.bind_eq_bind, Option.bind_some,
    Option.some.injEq]
  unfold millisecondsPerDay
  omega

/-- The checks of the range are what they say on plain days. -/
theorem realRange_of_names {first last : String}
    {start finish : CalendarDay} (namesFirst : NamesDay first start)
    (namesLast : NamesDay last finish)
    (inOrder : ¬ codeUnits last.toList < codeUnits first.toList)
    (short :
      ¬ (countInclusiveDays platform first last).any
        fun days => financeExportMaxRangeDays < days) :
    RealRange first last start finish := by
  rw [namesFirst.2, namesLast.2,
    CalendarDay.text_lt_iff namesLast.1 namesFirst.1,
    ← CalendarDay.number_lt_iff, not_lt] at inOrder
  rw [namesFirst.countInclusiveDays_eq namesLast] at short
  have days : finish.number - start.number + 1 ≤ 366 := by
    simpa [financeExportMaxRangeDays] using short
  exact ⟨namesFirst, namesLast, inOrder, by omega, days⟩

theorem accepted_member {raw : RawValue} {request : FinanceExportRequest}
    (accepted : financeExportRequestSchema platform raw = .ok request) :
    ∃ fields dataset,
      (memberSchema platform fields dataset).value = some request ∧
        (memberSchema platform fields dataset).issues = [] ∧
        rangeIssues platform request = [] := by
  unfold financeExportRequestSchema at accepted
  split at accepted
  · rename_i fields
    split at accepted
    · cases accepted
    · rename_i dataset _
      dsimp only at accepted
      split at accepted
      · rename_i found hasValue noIssues
        cases accepted
        unfold allIssues at noIssues
        split at noIssues
        · obtain ⟨noneInMember, noneInRange⟩ :=
            List.append_eq_nil_iff.mp noIssues
          rw [hasValue] at noneInRange
          exact ⟨fields, dataset, hasValue, noneInMember, noneInRange⟩
        · rename_i stopped
          rw [noIssues] at stopped
          exact absurd rfl stopped
      · cases accepted
  · cases accepted

theorem optional_day_real {key : String} {value : RawValue} {day : String}
    (parsed :
      (optional (calendarDaySchema platform key) value).value =
        some (some day))
    (noIssues :
      (optional (calendarDaySchema platform key) value).issues = []) :
    isRealCalendarDate platform day := by
  cases value with
  | string text =>
      simp only [optional, calendarDaySchema, refinedString, Option.map_some,
        Option.some.injEq] at parsed noIssues
      subst parsed
      by_contra notReal
      rw [if_neg notReal] at noIssues
      cases noIssues
  | _ =>
      cases parsed

theorem datedFilters_real {fields : List (String × RawValue)}
    {filters : DatedFilters}
    (parsed : (datedFilters platform fields).value = some filters)
    (noIssues : (datedFilters platform fields).issues = []) :
    (∀ day, filters.rangeFrom = some day → isRealCalendarDate platform day) ∧
      ∀ day, filters.rangeTo = some day → isRealCalendarDate platform day := by
  simp only [datedFilters, Option.bind_eq_bind, Option.bind_eq_some_iff,
    Option.some.injEq] at parsed
  obtain ⟨rangeFrom, fromParsed, rangeTo, toParsed, _, -, rfl⟩ := parsed
  simp only [datedFilters, List.append_eq_nil_iff] at noIssues
  obtain ⟨⟨fromIssues, toIssues⟩, -⟩ := noIssues
  constructor
  · rintro day rfl
    exact optional_day_real fromParsed fromIssues
  · rintro day rfl
    exact optional_day_real toParsed toIssues

theorem member_real {fields : List (String × RawValue)}
    {dataset : FinanceExportDataset} {request : FinanceExportRequest}
    {filters : DatedFilters}
    (parsed : (memberSchema platform fields dataset).value = some request)
    (noIssues : (memberSchema platform fields dataset).issues = [])
    (dated : request.dated = some filters) :
    (∀ day, filters.rangeFrom = some day → isRealCalendarDate platform day) ∧
      ∀ day, filters.rangeTo = some day → isRealCalendarDate platform day := by
  have ofDated :
      ∀ request : DatedFilters → FinanceExportRequest, ∀ accepted,
        (∀ filters, (request filters).dated = some filters) →
          (datedSchema platform request fields).value = some accepted →
            (datedSchema platform request fields).issues = [] →
              accepted.dated = some filters →
                (datedFilters platform fields).value = some filters ∧
                  (datedFilters platform fields).issues = [] := by
    intro request accepted sameFilters hasValue empty dated
    obtain ⟨found, foundFilters, rfl⟩ := Option.map_eq_some_iff.mp hasValue
    rw [sameFilters] at dated
    cases dated
    exact ⟨foundFilters, (List.append_eq_nil_iff.mp empty).1⟩
  cases dataset with
  | bookings =>
      obtain ⟨reference, -, rfl⟩ := Option.map_eq_some_iff.mp parsed
      cases dated
  | payments =>
      simp only [memberSchema, Option.bind_eq_bind, Option.bind_eq_some_iff,
        Option.some.injEq, List.append_eq_nil_iff] at parsed noIssues
      obtain ⟨found, foundFilters, status, -, rfl⟩ := parsed
      cases dated
      exact datedFilters_real foundFilters noIssues.1.1
  | refunds =>
      obtain ⟨hasFilters, empty⟩ :=
        ofDated .refunds request (fun _ => rfl) parsed noIssues dated
      exact datedFilters_real hasFilters empty
  | allocations =>
      obtain ⟨hasFilters, empty⟩ :=
        ofDated .allocations request (fun _ => rfl) parsed noIssues dated
      exact datedFilters_real hasFilters empty
  | installments =>
      obtain ⟨hasFilters, empty⟩ :=
        ofDated .installments request (fun _ => rfl) parsed noIssues dated
      exact datedFilters_real hasFilters empty

/-- What acceptance says about the two ends of a range. -/
theorem accepted_range {raw : RawValue} {request : FinanceExportRequest}
    {filters : DatedFilters} {first last : String}
    (accepted : financeExportRequestSchema platform raw = .ok request)
    (dated : request.dated = some filters)
    (hasFrom : filters.rangeFrom = some first)
    (hasTo : filters.rangeTo = some last) :
    isRealCalendarDate platform first ∧ isRealCalendarDate platform last ∧
      ¬ codeUnits last.toList < codeUnits first.toList ∧
      ¬ (countInclusiveDays platform first last).any
        fun days => financeExportMaxRangeDays < days := by
  obtain ⟨fields, dataset, parsed, noIssues, noneInRange⟩ :=
    accepted_member accepted
  obtain ⟨realFrom, realTo⟩ := member_real parsed noIssues dated
  refine ⟨realFrom first hasFrom, realTo last hasTo, ?_⟩
  simp only [rangeIssues, dated, hasFrom, hasTo] at noneInRange
  split at noneInRange
  · cases noneInRange
  · rename_i inOrder
    split at noneInRange
    · cases noneInRange
    · rename_i short
      exact ⟨inOrder, short⟩

/-- An accepted range is a real one exactly when neither end is written with a
sign. -/
theorem accepted_range_real_iff (platform : Platform) (raw : RawValue)
    (request : FinanceExportRequest) (filters : DatedFilters)
    (first last : String)
    (accepted : financeExportRequestSchema platform raw = .ok request)
    (dated : request.dated = some filters)
    (hasFrom : filters.rangeFrom = some first)
    (hasTo : filters.rangeTo = some last) :
    (∃ start finish, RealRange first last start finish) ↔
      startsWithSign first = false ∧ startsWithSign last = false := by
  obtain ⟨realFirst, realLast, inOrder, short⟩ :=
    accepted_range accepted dated hasFrom hasTo
  constructor
  · rintro ⟨start, finish, range⟩
    exact ⟨range.first.unsigned, range.last.unsigned⟩
  · rintro ⟨firstUnsigned, lastUnsigned⟩
    obtain ⟨start, namesFirst⟩ := namesDay_of_unsigned realFirst firstUnsigned
    obtain ⟨finish, namesLast⟩ := namesDay_of_unsigned realLast lastUnsigned
    exact
      ⟨start, finish, realRange_of_names namesFirst namesLast inOrder short⟩

section LeapYear

/-- A platform that reads no string outside the format. -/
def strictPlatform : Platform := fun _ => none

theorem leap_year_accepted :
    ∃ start finish, RealRange "2024-01-01" "2024-12-31" start finish :=
  (accepted_range_real_iff strictPlatform
    (.object
      [("dataset", .string "payments"), ("from", .string "2024-01-01"),
        ("to", .string "2024-12-31")])
    (.payments ⟨some "2024-01-01", some "2024-12-31", none⟩ none)
    ⟨some "2024-01-01", some "2024-12-31", none⟩ "2024-01-01" "2024-12-31"
    rfl rfl rfl rfl).mpr ⟨by decide, by decide⟩

/-- The first of a month of the year 10000 is accepted as a day. -/
theorem expanded_year_accepted :
    financeExportRequestSchema strictPlatform
          (.object
            [("dataset", .string "payments"), ("from", .string "+010000-01"),
              ("to", .string "+010000-01")]) =
        .ok
          (.payments ⟨some "+010000-01", some "+010000-01", none⟩ none) ∧
      ¬ ∃ start finish,
        RealRange "+010000-01" "+010000-01" start finish := by
  refine ⟨rfl, ?_⟩
  rintro ⟨start, finish, range⟩
  have unsigned := range.first.unsigned
  revert unsigned
  decide

end LeapYear

end Heritage.Exports
