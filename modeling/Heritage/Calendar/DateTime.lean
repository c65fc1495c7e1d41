import Heritage.Calendar.Digits
import Heritage.Calendar.Gregorian

/-!
# Date-time strings

The date-time string format of ECMAScript: `toISOString` writes an instant,
`readDateTime` reads every form of the format that fixes an instant, and
`dateParse` adds what an implementation makes of other strings.
-/

namespace Heritage.Calendar

def millisecondsPerDay : Int := 86400000

/-- The greatest time value: a hundred million days. -/
def maxTime : Int := 100000000 * millisecondsPerDay

def timeClip (time : Int) : Option Int :=
  if -maxTime ≤ time ∧ time ≤ maxTime then some time else none

/-- Four digits, or a sign and six. -/
def yearText (year : Int) : List Char :=
  if 0 ≤ year ∧ year ≤ 9999 then
    pad 4 year.toNat
  else
    (if year < 0 then '-' else '+') :: pad 6 year.natAbs

def CalendarDay.text (date : CalendarDay) : List Char :=
  yearText date.year ++ '-' :: (pad 2 date.month ++ '-' :: pad 2 date.day)

/-- `HH:mm:ss.sss` for the milliseconds of a day. -/
def timeText (time : Nat) : List Char :=
  pad 2 (time / 3600000) ++ ':' ::
    (pad 2 (time / 60000 % 60) ++ ':' ::
      (pad 2 (time / 1000 % 60) ++ '.' :: pad 3 (time % 1000)))

/-- The day of an instant, in UTC. -/
def dayAt (time : Int) : CalendarDay :=
  dayOf (time / millisecondsPerDay)

def timeWithinDay (time : Int) : Nat :=
  (time % millisecondsPerDay).toNat

def toISOString (time : Int) : List Char :=
  (dayAt time).text ++ 'T' :: (timeText (timeWithinDay time) ++ ['Z'])

/-- The day of a month, counted on into the next months. -/
def makeDay (year : Int) (month day : Nat) : Int :=
  dayFromYear year + daysBeforeMonth year month + (day - 1)

/-- `YYYY`, `+YYYYYY` or `-YYYYYY`; there is no year `-000000`. -/
def readYear : List Char → Option (Int × List Char)
  | '+' :: rest =>
      (readDigits 6 0 rest).map fun read => ((read.1 : Int), read.2)
  | '-' :: rest =>
      (readDigits 6 0 rest).bind fun read =>
        if read.1 = 0 then none else some (-(read.1 : Int), read.2)
  | letters =>
      (readDigits 4 0 letters).map fun read => ((read.1 : Int), read.2)

/-- A separator and a two-digit element within its bounds. -/
def readElement (separator : Char) (low high : Nat) :
    List Char → Option (Nat × List Char)
  | [] => none
  | letter :: rest =>
      if letter = separator then
        (readDigits 2 0 rest).filter fun read =>
          low ≤ read.1 ∧ read.1 ≤ high
      else
        none

/-- The element if its separator is there, and otherwise `absent`. -/
def readOptional (separator : Char) (low high absent : Nat)
    (letters : List Char) : Option (Nat × List Char) :=
  if letters.head? = some separator then
    readElement separator low high letters
  else
    some (absent, letters)

/-- `YYYY`, `YYYY-MM` or `YYYY-MM-DD`. -/
def readDate (letters : List Char) : Option (Int × List Char) := do
  let (year, afterYear) ← readYear letters
  if afterYear.head? = some '-' then
    let (month, afterMonth) ← readElement '-' 1 12 afterYear
    let (day, rest) ← readOptional '-' 1 31 1 afterMonth
    some (makeDay year month day, rest)
  else
    some (makeDay year 1 1, afterYear)

/-- `.sss` after seconds. -/
def readMilliseconds : List Char → Option (Nat × List Char)
  | '.' :: rest => readDigits 3 0 rest
  | letters => some (0, letters)

/-- `HH:mm`, `HH:mm:ss` or `HH:mm:ss.sss`; midnight may be written `24`. -/
def readTime (letters : List Char) : Option (Nat × List Char) := do
  let (hour, afterHour) ← readDigits 2 0 letters
  let (minute, afterMinute) ← readElement ':' 0 59 afterHour
  let (second, afterSecond) ← readOptional ':' 0 59 0 afterMinute
  let (millisecond, rest) ←
    if afterMinute.head? = some ':' then readMilliseconds afterSecond
    else some (0, afterSecond)
  if hour < 24 ∨ hour = 24 ∧ minute = 0 ∧ second = 0 ∧ millisecond = 0 then
    some
      (((hour * 60 + minute) * 60 + second) * 1000 + millisecond, rest)
  else
    none

def readOffset (letters : List Char) : Option Nat := do
  let (hour, afterHour) ← readDigits 2 0 letters
  let (minute, rest) ← readElement ':' 0 59 afterHour
  if hour < 24 ∧ rest = [] then some ((hour * 60 + minute) * 60000)
  else none

/-- `Z` or an offset from UTC.  A time without one is local time, which the
implementation reads. -/
def readZone : List Char → Option Int
  | ['Z'] => some 0
  | '+' :: rest => (readOffset rest).map fun offset => (offset : Int)
  | '-' :: rest => (readOffset rest).map fun offset => -(offset : Int)
  | _ => none

/-- The instant a string of the format names. -/
def readDateTime (letters : List Char) : Option Int := do
  let (day, rest) ← readDate letters
  match rest with
  | [] => some (day * millisecondsPerDay)
  | 'T' :: afterT => do
      let (time, zone) ← readTime afterT
      let offset ← readZone zone
      some (day * millisecondsPerDay + time - offset)
  | _ => none

/-- `Date.parse`: `platform` is what the implementation makes of the strings
the format leaves to it. -/
def dateParse (platform : List Char → Option Int) (letters : List Char) :
    Option Int :=
  match readDateTime letters with
  | some time => timeClip time
  | none => (platform letters).bind timeClip

/-! ## What is written is read back -/

theorem readYear_yearText {year : Int} (small : year.natAbs < 10 ^ 6)
    (rest : List Char) :
    readYear (yearText year ++ rest) = some (year, rest) := by
  unfold yearText
  split
  · rename_i fourDigits
    have below : year.toNat < 10 ^ 4 := by omega
    have unsigned :
        ∀ letter, ¬ letter.isDigit → ∀ others,
          pad 4 year.toNat ++ rest ≠ letter :: others := by
      intro letter notDigit others same
      exact head_pad_ne notDigit (by decide) (congrArg List.head? same)
    unfold readYear
    split
    · rename_i same
      exact absurd same (unsigned '+' (by decide) _)
    · rename_i same
      exact absurd same (unsigned '-' (by decide) _)
    · rw [readDigits_pad below]
      simp only [Option.map_some, Option.some.injEq, Prod.mk.injEq, and_true]
      omega
  · split
    · rename_i _ negative
      simp only [List.cons_append, readYear, readDigits_pad small,
        Option.bind_some, zero_mul, zero_add]
      rw [if_neg (by omega)]
      simp only [Option.some.injEq, Prod.mk.injEq, and_true]
      omega
    · rename_i _ notNegative
      simp only [List.cons_append, readYear, readDigits_pad small,
        Option.map_some, zero_mul, zero_add, Option.some.injEq,
        Prod.mk.injEq, and_true]
      omega

theorem readElement_pad {separator : Char} {low high number : Nat}
    (inBounds : low ≤ number ∧ number ≤ high) (twoDigits : number < 10 ^ 2)
    (rest : List Char) :
    readElement separator low high (separator :: (pad 2 number ++ rest)) =
      some (number, rest) := by
  simp [readElement, readDigits_pad twoDigits, inBounds]

theorem daysInMonth_le (year : Int) (month : Nat) :
    daysInMonth year month ≤ 31 := by
  unfold daysInMonth
  split <;> first | omega | (split <;> omega)

theorem CalendarDay.readDate_text (date : CalendarDay)
    (small : date.year.natAbs < 10 ^ 6) (rest : List Char) :
    readDate (date.text ++ rest) = some (date.number, rest) := by
  have monthDigits : date.month < 10 ^ 2 := by
    have isMonth := date.monthReal
    omega
  have dayBounds : 1 ≤ date.day ∧ date.day ≤ 31 :=
    ⟨date.dayReal.1, date.dayReal.2.trans (daysInMonth_le _ _)⟩
  unfold CalendarDay.text readDate
  simp only [List.append_assoc, List.cons_append, readYear_yearText small,
    Option.bind_eq_bind, Option.bind_some, List.head?_cons, if_true,
    readElement_pad date.monthReal monthDigits, readOptional,
    readElement_pad dayBounds (by omega : date.day < 10 ^ 2)]
  rfl

theorem readTime_timeText {time : Nat} (inDay : time < 86400000)
    (rest : List Char) :
    readTime (timeText time ++ rest) = some (time, rest) := by
  have hour : time / 3600000 < 10 ^ 2 := by omega
  have minute : time / 60000 % 60 < 10 ^ 2 := by omega
  have second : time / 1000 % 60 < 10 ^ 2 := by omega
  have millisecond : time % 1000 < 10 ^ 3 := by omega
  have minuteBounds : 0 ≤ time / 60000 % 60 ∧ time / 60000 % 60 ≤ 59 := by
    omega
  have secondBounds : 0 ≤ time / 1000 % 60 ∧ time / 1000 % 60 ≤ 59 := by
    omega
  unfold timeText readTime
  simp only [List.append_assoc, List.cons_append, readDigits_pad hour,
    Option.bind_eq_bind, Option.bind_some, zero_mul, zero_add,
    readElement_pad minuteBounds minute, readOptional, List.head?_cons,
    if_true, readElement_pad secondBounds second, readMilliseconds,
    readDigits_pad millisecond]
  rw [if_pos (Or.inl (by omega))]
  simp only [Option.some.injEq, Prod.mk.injEq, and_true]
  omega

theorem timeWithinDay_spec (time : Int) :
    timeWithinDay time < 86400000 ∧
      time / millisecondsPerDay * millisecondsPerDay + timeWithinDay time =
        time := by
  unfold timeWithinDay millisecondsPerDay
  omega

/-- The year of a time value has at most six digits. -/
theorem dayAt_year {time : Int}
    (inRange : -maxTime ≤ time ∧ time ≤ maxTime) :
    (dayAt time).year.natAbs < 10 ^ 6 := by
  obtain ⟨atLeast, below⟩ := yearFromDay_spec (time / millisecondsPerDay)
  change (yearFromDay (time / millisecondsPerDay)).natAbs < 10 ^ 6
  unfold maxTime millisecondsPerDay dayFromYear at *
  omega

/-- A day, a time and a zone name an instant. -/
theorem readDateTime_of_parts {letters afterT zone : List Char}
    {day offset : Int} {time : Nat}
    (readsDay : readDate letters = some (day, 'T' :: afterT))
    (readsTime : readTime afterT = some (time, zone))
    (readsZone : readZone zone = some offset) :
    readDateTime letters =
      some (day * millisecondsPerDay + time - offset) := by
  simp only [readDateTime, readsDay, readsTime, readsZone,
    Option.bind_eq_bind, Option.bind_some]

theorem readDateTime_toISOString {time : Int}
    (inRange : -maxTime ≤ time ∧ time ≤ maxTime) :
    readDateTime (toISOString time) = some time := by
  obtain ⟨inDay, split⟩ := timeWithinDay_spec time
  unfold toISOString
  rw [readDateTime_of_parts
      (CalendarDay.readDate_text _ (dayAt_year inRange) _)
      (readTime_timeText inDay _) rfl,
    dayAt, number_dayOf, sub_zero, split]

namespace CalendarDay

/-- The year is written with four digits and no sign. -/
def HasFourDigits (date : CalendarDay) : Prop :=
  0 ≤ date.year ∧ date.year ≤ 9999

instance (date : CalendarDay) : Decidable date.HasFourDigits :=
  inferInstanceAs (Decidable (_ ∧ _))

variable {date other : CalendarDay}

theorem HasFourDigits.text_eq (fourDigits : date.HasFourDigits) :
    date.text =
      pad 4 date.year.toNat ++ '-' ::
        (pad 2 date.month ++ '-' :: pad 2 date.day) := by
  have unsigned : yearText date.year = pad 4 date.year.toNat :=
    if_pos fourDigits
  rw [text, unsigned]

theorem HasFourDigits.length_text (fourDigits : date.HasFourDigits) :
    date.text.length = 10 := by
  simp [fourDigits.text_eq]

/-- The text starts with a sign exactly when the year needs one. -/
theorem head_text_sign :
    (date.text.head? = some '+' ∨ date.text.head? = some '-') ↔
      ¬ date.HasFourDigits := by
  by_cases fourDigits : date.HasFourDigits
  · rw [fourDigits.text_eq]
    have unsigned :
        ∀ letter, ¬ letter.isDigit →
          (pad 4 date.year.toNat ++ '-' ::
            (pad 2 date.month ++ '-' :: pad 2 date.day)).head? ≠
            some letter :=
      fun _ notDigit => head_pad_ne notDigit (by decide)
    simp only [fourDigits, not_true_eq_false, iff_false, not_or]
    exact ⟨unsigned '+' (by decide), unsigned '-' (by decide)⟩
  · have signed :
        yearText date.year =
          (if date.year < 0 then '-' else '+') :: pad 6 date.year.natAbs :=
      if_neg fourDigits
    simp only [text, signed, List.cons_append, List.head?_cons, fourDigits,
      not_false_eq_true, iff_true]
    split <;> simp

/-- Texts with four-digit years are in the order of their days. -/
theorem text_lt_iff (fourDigits : date.HasFourDigits)
    (otherDigits : other.HasFourDigits) :
    codeUnits date.text < codeUnits other.text ↔ date.Before other := by
  have year : date.year.toNat < 10 ^ 4 := by
    have bound := fourDigits.2
    omega
  have otherYear : other.year.toNat < 10 ^ 4 := by
    have bound := otherDigits.2
    omega
  have month : date.month < 10 ^ 2 := by
    have isMonth := date.monthReal
    omega
  have otherMonth : other.month < 10 ^ 2 := by
    have isMonth := other.monthReal
    omega
  have day : date.day < 10 ^ 2 := by
    have bound := date.dayReal.2.trans (daysInMonth_le _ _)
    omega
  have otherDay : other.day < 10 ^ 2 := by
    have bound := other.dayReal.2.trans (daysInMonth_le _ _)
    omega
  have dash : ∀ rest, codeUnits ('-' :: rest) = 45 :: codeUnits rest := by
    intro rest
    rfl
  rw [fourDigits.text_eq, otherDigits.text_eq, codeUnits_append,
    codeUnits_append,
    append_lt_append_iff (by rw [length_codeUnits_pad, length_codeUnits_pad]),
    codeUnits_pad_lt_iff year otherYear, codeUnits_pad_inj year otherYear,
    dash, dash, List.cons_lt_cons_iff, codeUnits_append, codeUnits_append,
    append_lt_append_iff (by rw [length_codeUnits_pad, length_codeUnits_pad]),
    codeUnits_pad_lt_iff month otherMonth, codeUnits_pad_inj month otherMonth,
    dash, dash, List.cons_lt_cons_iff, codeUnits_pad_lt_iff day otherDay]
  have nonnegative := fourDigits.1
  have otherNonnegative := otherDigits.1
  unfold Before
  omega

end CalendarDay

/-- The first ten letters of an instant with a four-digit year are its day. -/
theorem take_toISOString {time : Int}
    (fourDigits : (dayAt time).HasFourDigits) :
    (toISOString time).take 10 = (dayAt time).text := by
  rw [toISOString, ← fourDigits.length_text]
  exact List.take_left' rfl

theorem head_take_toISOString (time : Int) :
    ((toISOString time).take 10).head? = (dayAt time).text.head? := by
  have nonempty : (dayAt time).text ≠ [] := by
    simp [CalendarDay.text]
  rw [toISOString, List.head?_take, if_neg (by decide),
    List.head?_append_of_ne_nil _ nonempty]

/-- Midnight of a day, as the format writes it. -/
theorem toISOString_midnight (date : CalendarDay) :
    toISOString (date.number * millisecondsPerDay) =
      date.text ++ "T00:00:00.000Z".toList := by
  have sameDay :
      dayAt (date.number * millisecondsPerDay) = date := by
    rw [dayAt, Int.mul_ediv_cancel _ (by decide), dayOf_number]
  have midnight : timeWithinDay (date.number * millisecondsPerDay) = 0 := by
    rw [timeWithinDay, Int.mul_emod_left]
    rfl
  rw [toISOString, sameDay, midnight]
  rfl

end Heritage.Calendar
