import Heritage.Exports.Filters

/-!
# The day filter and the printed day

The filter of an export compares instants with midnights in the Philippines;
the file prints each instant in Philippine time.  Both name the same day, so
the filter is a comparison of printed days.
-/

namespace Heritage.Exports

open Heritage.Calendar
open Repository

/-- The first ten letters of the printed timestamp. -/
def printedDay (instant : Timestamp) : List Char :=
  (formatManilaTimestamp instant).toList.take 10

/-- The year in the Philippines is printed with four digits. -/
def HasFourDigitYear (instant : Timestamp) : Prop :=
  (dayOf (manilaDay instant)).HasFourDigits

/-- The printed day is the day in the Philippines. -/
theorem printedDay_eq {instant : Timestamp}
    (fourDigits : HasFourDigitYear instant) :
    printedDay instant = (dayOf (manilaDay instant)).text := by
  have shifted :
      (toISOString (instant + philippineUtcOffsetMs)).take 10 =
        (dayOf (manilaDay instant)).text :=
    take_toISOString fourDigits
  have long :
      10 ≤ ((toISOString (instant + philippineUtcOffsetMs)).take 23).length := by
    have split :
        (toISOString (instant + philippineUtcOffsetMs)) =
          (dayOf (manilaDay instant)).text ++
            'T' ::
              (timeText (timeWithinDay (instant + philippineUtcOffsetMs)) ++
                ['Z']) :=
      rfl
    rw [split, List.length_take, List.length_append,
      CalendarDay.HasFourDigits.length_text fourDigits]
    omega
  unfold printedDay formatManilaTimestamp
  rw [String.toList_append, String.toList_ofList,
    List.take_append_of_le_length long, List.take_take]
  exact shifted

/-- Texts of days are in the order of the days. -/
theorem text_le_iff {date other : CalendarDay}
    (fourDigits : date.HasFourDigits) (otherDigits : other.HasFourDigits) :
    codeUnits date.text ≤ codeUnits other.text ↔
      date.number ≤ other.number := by
  rw [← not_lt, CalendarDay.text_lt_iff otherDigits fourDigits,
    ← CalendarDay.number_lt_iff, not_lt]

variable {platform : Platform} {filters : DatedFilters}

/-- An instant is in the range of two days exactly when its printed day lies
between them. -/
theorem manilaDayRange_holds_iff {first last : String}
    {start finish : CalendarDay} {range : InstantRange} {instant : Timestamp}
    (ofFirst : filters.rangeFrom = some first)
    (ofLast : filters.rangeTo = some last) (namesFirst : NamesDay first start)
    (namesLast : NamesDay last finish)
    (read : manilaDayRange platform filters = .ok (some range))
    (fourDigits : HasFourDigitYear instant) :
    range.holds instant ↔
      codeUnits first.toList ≤ codeUnits (printedDay instant) ∧
        codeUnits (printedDay instant) ≤ codeUnits last.toList := by
  obtain ⟨found, alsoRead, holds⟩ :=
    @manilaDayRange_of_names platform filters first last start finish ofFirst
      ofLast namesFirst namesLast
  obtain rfl : found = range := by
    rw [read] at alsoRead
    exact (Option.some.inj (Except.ok.inj alsoRead)).symm
  rw [holds, printedDay_eq fourDigits, namesFirst.2, namesLast.2,
    text_le_iff namesFirst.1 fourDigits, text_le_iff fourDigits namesLast.1,
    number_dayOf]

/-- Two ranges that meet at midnight make up one. -/
structure RangesJoin (platform : Platform) (first last next final : String) :
    Prop where
  joined :
    ∃ left right whole,
      manilaDayRange platform ⟨some first, some last, none⟩ =
          .ok (some left) ∧
        manilaDayRange platform ⟨some next, some final, none⟩ =
          .ok (some right) ∧
        manilaDayRange platform ⟨some first, some final, none⟩ =
          .ok (some whole) ∧
        ∀ instant,
          ¬ (left.holds instant ∧ right.holds instant) ∧
            (whole.holds instant ↔ left.holds instant ∨ right.holds instant)

theorem rangesJoin {first last next final : String}
    {start finish resume stop : CalendarDay}
    (namesFirst : NamesDay first start) (namesLast : NamesDay last finish)
    (namesNext : NamesDay next resume) (namesFinal : NamesDay final stop)
    (ordered : start.number ≤ finish.number)
    (dayAfter : resume.number = finish.number + 1)
    (later : resume.number ≤ stop.number) :
    RangesJoin platform first last next final := by
  obtain ⟨left, leftRead, leftHolds⟩ :=
    @manilaDayRange_of_names platform ⟨some first, some last, none⟩ _ _ _ _
      rfl rfl namesFirst namesLast
  obtain ⟨right, rightRead, rightHolds⟩ :=
    @manilaDayRange_of_names platform ⟨some next, some final, none⟩ _ _ _ _
      rfl rfl namesNext namesFinal
  obtain ⟨whole, wholeRead, wholeHolds⟩ :=
    @manilaDayRange_of_names platform ⟨some first, some final, none⟩ _ _ _ _
      rfl rfl namesFirst namesFinal
  refine ⟨left, right, whole, leftRead, rightRead, wholeRead, ?_⟩
  intro instant
  rw [leftHolds, rightHolds, wholeHolds]
  omega

/-- The day filter chooses the instants whose printed day it names, and ranges
of consecutive days partition their union. -/
theorem manila_filter_agrees (platform : Platform) :
    (∀ filters first last start finish instant,
      filters.rangeFrom = some first → filters.rangeTo = some last →
        NamesDay first start → NamesDay last finish →
          HasFourDigitYear instant →
            ∃ range,
              manilaDayRange platform filters = .ok (some range) ∧
                (range.holds instant ↔
                  codeUnits first.toList ≤ codeUnits (printedDay instant) ∧
                    codeUnits (printedDay instant) ≤
                      codeUnits last.toList)) ∧
      ∀ first last next final start finish resume stop,
        NamesDay first start → NamesDay last finish → NamesDay next resume →
          NamesDay final stop → start.number ≤ finish.number →
            resume.number = finish.number + 1 →
              resume.number ≤ stop.number →
                RangesJoin platform first last next final := by
  constructor
  · intro filters first last start finish instant ofFirst ofLast namesFirst
      namesLast fourDigits
    obtain ⟨range, read, -⟩ :=
      @manilaDayRange_of_names platform filters first last start finish
        ofFirst ofLast namesFirst namesLast
    exact
      ⟨range, read,
        manilaDayRange_holds_iff ofFirst ofLast namesFirst namesLast read
          fourDigits⟩
  · intro first last next final start finish resume stop namesFirst namesLast
      namesNext namesFinal ordered dayAfter later
    exact
      rangesJoin namesFirst namesLast namesNext namesFinal ordered dayAfter
        later

/-- The leap day of 2024 begins at 16:00 of the day before in UTC. -/
theorem leap_day_filter :
    ∃ range,
      manilaDayRange strictPlatform
            ⟨some "2024-02-29", some "2024-02-29", none⟩ =
          .ok (some range) ∧
        (range.holds 1709136000000 ↔
          codeUnits "2024-02-29".toList ≤
              codeUnits (printedDay 1709136000000) ∧
            codeUnits (printedDay 1709136000000) ≤
              codeUnits "2024-02-29".toList) := by
  have leapDay : NamesDay "2024-02-29" (dayOf 19782) :=
    ⟨by decide +kernel, by decide +kernel⟩
  have fourDigits : HasFourDigitYear 1709136000000 := by
    change (dayOf (manilaDay 1709136000000)).HasFourDigits
    decide +kernel
  exact
    (manila_filter_agrees strictPlatform).1
      ⟨some "2024-02-29", some "2024-02-29", none⟩ _ _ _ _ _ rfl rfl leapDay
      leapDay fourDigits

end Heritage.Exports
