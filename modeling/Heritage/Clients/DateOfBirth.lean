import Heritage.Clients.Edits
import Heritage.Clients.Schemas
import Heritage.Exports.Dates

/-!
# Dates of birth come back

A date of birth is read from a request, stored as a day and written out again
for the client's page.  The year is written without leading zeros: from the
year 1000 on the text is the submitted one, and before it is another that the
schema refuses.
-/

namespace Heritage.Clients

open Heritage.Store
open Heritage.Calendar
open Heritage.Exports (NamesDay)
open Repository

/-- `z.iso.date()` accepts the real days `YYYY-MM-DD`. -/
def ReadsIsoDates (isoDate : String → Bool) : Prop :=
  ∀ value, isoDate value ↔ ∃ date, NamesDay value date

section Written

variable {date : CalendarDay} {value : String}

theorem toList_toDateOnlyString (nonnegative : 0 ≤ date.year) :
    (toDateOnlyString date).toList =
      Nat.toDigits 10 date.year.toNat ++
        '-' :: (pad 2 date.month ++ '-' :: pad 2 date.day) := by
  obtain ⟨year, isYear⟩ := Int.eq_ofNat_of_zero_le nonnegative
  have digits : (toString date.year).toList = Nat.toDigits 10 year := by
    rw [isYear]
    exact Nat.toList_repr
  have sameYear : date.year.toNat = year := by omega
  simp only [toDateOnlyString, String.toList_append, digits, sameYear,
    String.toList_ofList, List.append_assoc]
  rfl

/-- The day is written as it was named exactly when its year fills the four
digits. -/
theorem toDateOnlyString_eq_iff (names : NamesDay value date) :
    toDateOnlyString date = value ↔ 1000 ≤ date.year := by
  obtain ⟨fourDigits, isText⟩ := names
  have small : date.year.toNat < 10 ^ (3 + 1) := by
    have upper := fourDigits.2
    omega
  have thousand : 10 ^ 3 ≤ date.year.toNat ↔ 1000 ≤ date.year := by
    have lower := fourDigits.1
    omega
  rw [← String.toList_inj, toList_toDateOnlyString fourDigits.1, isText,
    fourDigits.text_eq, ← thousand,
    ← toDigits_eq_pad_iff (by decide : 0 < 3) small]
  exact List.append_left_inj _

end Written

section Accepted

variable {platform : DatePlatform} {now : Timestamp} {value : String}
  {date : CalendarDay}

theorem dayAt_midnight (date : CalendarDay) :
    dayAt (date.number * millisecondsPerDay) = date := by
  rw [dayAt, Int.mul_ediv_cancel _ (by decide), dayOf_number]

theorem text_nonempty (names : NamesDay value date) : value ≠ "" := by
  intro isEmpty
  have tenLetters := names.1.length_text
  rw [← names.2, isEmpty] at tenLetters
  cases tenLetters

/-- The schema accepts a real day that is not later than today. -/
theorem dateOfBirthSchema_eq_ok_iff
    (reads : ReadsIsoDates platform.isoDate) :
    dateOfBirthSchema platform now (some value) = .ok (some date) ↔
      NamesDay value date ∧
        ¬ codeUnits (currentPhilippineBusinessDate now).toList <
          codeUnits value.toList := by
  have midnight :
      ∀ day, NamesDay value day →
        dateParse platform.parseOther
            (value.toList ++ "T00:00:00.000Z".toList) =
          some (day.number * millisecondsPerDay) :=
    fun day names => names.parseDay_eq platform.parseOther
  unfold dateOfBirthSchema
  constructor
  · intro accepted
    by_cases isEmpty : value = ""
    · simp [isEmpty] at accepted
    · by_cases isDay : platform.isoDate value
      · obtain ⟨day, names⟩ := (reads value).mp isDay
        by_cases future :
            codeUnits (currentPhilippineBusinessDate now).toList <
              codeUnits value.toList
        · simp [isEmpty, isDay, future] at accepted
        · simp only [isEmpty, isDay, future, if_false, if_true,
            midnight day names, dayAt_midnight, Except.ok.injEq,
            Option.some.injEq] at accepted
          subst accepted
          exact ⟨names, future⟩
      · simp [isEmpty, isDay] at accepted
  · rintro ⟨names, notFuture⟩
    have isDay : platform.isoDate value := (reads value).mpr ⟨date, names⟩
    simp only [text_nonempty names, isDay, notFuture, if_false, if_true,
      midnight date names, dayAt_midnight]

/-- Only the empty text clears a date of birth. -/
theorem empty_of_dateOfBirthSchema
    (cleared : dateOfBirthSchema platform now (some value) = .ok none) :
    value = "" := by
  by_contra nonempty
  simp only [dateOfBirthSchema, if_neg nonempty] at cleared
  split at cleared
  next =>
    split at cleared
    next => cases cleared
    next =>
      split at cleared
      next => cases cleared
      next => cases cleared
  next => cases cleared

/-- A later reading of the clock, with both days in four-digit years. -/
structure LaterReading (now later : Timestamp) : Prop where
  notBefore : now ≤ later
  filled : 1000 ≤ (manilaDay now).year
  fourDigits : (manilaDay later).year ≤ 9999

theorem number_manilaDay (now : Timestamp) :
    (manilaDay now).number =
      (now + philippineUtcOffsetMs) / millisecondsPerDay :=
  number_dayOf _

theorem LaterReading.number_le {later : Timestamp}
    (reading : LaterReading now later) :
    (manilaDay now).number ≤ (manilaDay later).number := by
  have notBefore := reading.notBefore
  rw [number_manilaDay, number_manilaDay]
  apply Int.ediv_le_ediv (by decide)
  exact Int.add_le_add_right notBefore _

/-- Days in order have their years in order. -/
theorem year_le_of_number_le {day other : CalendarDay}
    (ordered : day.number ≤ other.number) : day.year ≤ other.year := by
  by_contra later
  have before : other.Before day := Or.inl (not_le.mp later)
  exact absurd (CalendarDay.number_lt_of_before before) (not_lt.mpr ordered)

/-- Today as a text, in a four-digit year. -/
theorem currentPhilippineBusinessDate_eq
    (filled : 1000 ≤ (manilaDay now).year)
    (fourDigits : (manilaDay now).year ≤ 9999) :
    (currentPhilippineBusinessDate now).toList = (manilaDay now).text := by
  have names :
      NamesDay (String.ofList (manilaDay now).text) (manilaDay now) :=
    ⟨⟨by omega, fourDigits⟩, String.toList_ofList⟩
  rw [currentPhilippineBusinessDate,
    (toDateOnlyString_eq_iff names).mpr filled, String.toList_ofList]

/-- A day that was not in the future is not in the future later. -/
theorem not_future_later {later : Timestamp} (names : NamesDay value date)
    (notFuture :
      ¬ codeUnits (currentPhilippineBusinessDate now).toList <
        codeUnits value.toList)
    (reading : LaterReading now later) :
    ¬ codeUnits (currentPhilippineBusinessDate later).toList <
      codeUnits value.toList := by
  have ordered := reading.number_le
  have years := year_le_of_number_le ordered
  have nowFilled := reading.filled
  have laterDigits := reading.fourDigits
  have nowFour : (manilaDay now).HasFourDigits := ⟨by omega, by omega⟩
  have laterFour : (manilaDay later).HasFourDigits := ⟨by omega, by omega⟩
  rw [currentPhilippineBusinessDate_eq nowFilled nowFour.2, names.2,
    CalendarDay.text_lt_iff nowFour names.1, ← CalendarDay.number_lt_iff,
    not_lt] at notFuture
  rw [currentPhilippineBusinessDate_eq (by omega) laterDigits, names.2,
    CalendarDay.text_lt_iff laterFour names.1, ← CalendarDay.number_lt_iff,
    not_lt]
  exact notFuture.trans ordered

end Accepted

section Stored

variable {strings : StringPlatform} {context : RequestContext}
  {actor : AuthenticatedUser} {clientActor : ClientActor} {id : Uuid}
  {database stored : Database}

/-- An update that submits a date of birth leaves it in the client's row. -/
theorem stored_dateOfBirth {input : UpdateClientRequest}
    {result : UpdateClientResult} {date : CalendarDay}
    (submitted : input.dateOfBirth = some (some date))
    (succeeds :
      updateClientTransaction strings context actor clientActor id input
        database = .ok (result, stored)) :
    ∃ row,
      findClientById stored id = some row ∧
        row.details.dateOfBirth = some date ∧ HasChannel row := by
  have channel_kept :
      ∀ {before after : ClientRecord}, FieldsPatched input before after →
        ((input.email.getD before.contact.email).isSome ∨
          (input.phone.getD before.contact.phone).isSome) →
        HasChannel after := by
    intro before after patched hasChannel
    unfold HasChannel
    rw [patched.email, patched.phone]
    exact hasChannel
  obtain ⟨existing, found, -, hasChannel, ⟨unchanged, rfl⟩ |
    ⟨changed, rfl⟩⟩ := updateClientTransaction_eq_ok succeeds
  · have patched := fieldsPatched_of_unchanged unchanged
    refine ⟨existing, found, ?_, channel_kept patched hasChannel⟩
    rw [patched.dateOfBirth, submitted]
    rfl
  · have edited :
        FieldsPatched input existing
          (patched strings input context.now existing) :=
      fieldsPatched_patched input context.now existing
    refine
      ⟨patched strings input context.now existing,
        findClientById_writeClient found, ?_, channel_kept edited hasChannel⟩
    rw [edited.dateOfBirth, submitted]
    rfl

/-- The request that submits a date of birth and nothing else. -/
def onlyDateOfBirth (date : CalendarDay) (expectedUpdatedAt : Timestamp) :
    UpdateClientRequest where
  fullName := none
  email := none
  phone := none
  address := none
  nationality := none
  dateOfBirth := some (some date)
  emergencyContact := none
  notes := none
  expectedUpdatedAt := expectedUpdatedAt
  editsSomething := by simp

/-- Submitting the stored date writes nothing. -/
theorem onlyDateOfBirth_unchanged {row : ClientRecord} {date : CalendarDay}
    (holds : holdsClient stored.tables clientActor id)
    (found : findClientById stored id = some row)
    (isStored : row.details.dateOfBirth = some date)
    (hasChannel : HasChannel row) :
    ∃ result,
      updateClientTransaction strings context actor clientActor id
        (onlyDateOfBirth date row.details.updatedAt) stored =
          .ok (result, stored) := by
  have unchanged :
      changedFieldNames
          (changedData strings
            (onlyDateOfBirth date row.details.updatedAt) row) = [] := by
    simp [changedFieldNames, nameIfWritten, changedData, onlyDateOfBirth,
      Leads.changedTo, isStored]
  have contactKept :
      ((onlyDateOfBirth date row.details.updatedAt).email.getD
            row.contact.email).isSome ∨
        ((onlyDateOfBirth date row.details.updatedAt).phone.getD
            row.contact.phone).isSome :=
    hasChannel
  have read :
      ∃ detail, findClientByIdForRead stored id clientActor = some detail := by
    simp [findClientByIdForRead, found]
  obtain ⟨detail, isRead⟩ := read
  have sameVersion :
      row.details.updatedAt =
        (onlyDateOfBirth date row.details.updatedAt).expectedUpdatedAt := rfl
  simp only [updateClientTransaction, require_of holds, found, demand,
    ok_bind, require_of sameVersion, require_of contactKept, unchanged,
    if_true, isRead]
  exact ⟨_, rfl⟩

/-- What the client's page shows of a date of birth. -/
theorem dateOfBirth_of_read {row : ClientRecord}
    {detail : ClientDetailRecord} {reader : ClientActor}
    (found : findClientById stored id = some row)
    (read : findClientByIdForRead stored id reader = some detail) :
    detail.dateOfBirth = row.details.dateOfBirth.map toDateOnlyString ∧
      detail.updatedAt = row.details.updatedAt := by
  simp only [findClientByIdForRead, found, Option.map_some,
    Option.some.injEq] at read
  subst read
  exact ⟨rfl, rfl⟩

end Stored

/-! ## The round trip -/

/-- The submitted text is what every reader of the client gets back, and
submitting what was read, at any later time, is accepted and writes nothing. -/
structure DateRoundTrips (platform : DatePlatform) (strings : StringPlatform)
    (now : Timestamp) (value : String) (id : Uuid) (stored : Database) :
    Prop where
  read :
    ∀ reader,
      ∃ detail,
        findClientByIdForRead stored id reader = some detail ∧
          detail.dateOfBirth = some value
  resubmitted :
    ∀ reader detail returned later,
      findClientByIdForRead stored id reader = some detail →
        detail.dateOfBirth = some returned →
        LaterReading now later →
        ∃ date,
          dateOfBirthSchema platform later (some returned) =
              .ok (some date) ∧
            ∀ context actor clientActor,
              holdsClient stored.tables clientActor id →
                ∃ result,
                  updateClientTransaction strings context actor clientActor
                      id (onlyDateOfBirth date detail.updatedAt) stored =
                    .ok (result, stored)

/-- A date of birth that a client update stores comes back as it was submitted
exactly when its year is 1000 or later. -/
theorem date_of_birth_round_trips_iff {platform : DatePlatform}
    {strings : StringPlatform} {context : RequestContext} {now : Timestamp}
    {value : String} {date : CalendarDay} {actor : AuthenticatedUser}
    {clientActor : ClientActor} {id : Uuid} {input : UpdateClientRequest}
    {database stored : Database} {result : UpdateClientResult}
    (reads : ReadsIsoDates platform.isoDate)
    (accepted : dateOfBirthSchema platform now (some value) = .ok (some date))
    (submitted : input.dateOfBirth = some (some date))
    (succeeds :
      updateClientTransaction strings context actor clientActor id input
        database = .ok (result, stored)) :
    DateRoundTrips platform strings now value id stored ↔
      1000 ≤ date.year := by
  obtain ⟨names, notFuture⟩ := (dateOfBirthSchema_eq_ok_iff reads).mp accepted
  obtain ⟨row, found, isStored, hasChannel⟩ :=
    stored_dateOfBirth submitted succeeds
  have shows :
      ∀ {reader detail},
        findClientByIdForRead stored id reader = some detail →
          detail.dateOfBirth = some (toDateOnlyString date) := by
    intro reader detail read
    rw [(dateOfBirth_of_read found read).1, isStored]
    rfl
  rw [← toDateOnlyString_eq_iff names]
  constructor
  · intro roundTrips
    obtain ⟨detail, read, same⟩ := roundTrips.read clientActor
    rw [shows read] at same
    exact Option.some.inj same
  · intro sameText
    constructor
    · intro reader
      have isRead :
          ∃ detail, findClientByIdForRead stored id reader = some detail := by
        simp [findClientByIdForRead, found]
      obtain ⟨detail, read⟩ := isRead
      refine ⟨detail, read, ?_⟩
      rw [shows read, sameText]
    · intro reader detail returned later read isReturned reading
      rw [shows read, sameText, Option.some.injEq] at isReturned
      subst isReturned
      refine
        ⟨date,
          (dateOfBirthSchema_eq_ok_iff reads).mpr
            ⟨names, not_future_later names notFuture reading⟩, ?_⟩
      intro context actor clientActor holds
      rw [(dateOfBirth_of_read found read).2]
      exact onlyDateOfBirth_unchanged holds found isStored hasChannel

/-- A reader of the days `YYYY-MM-DD`. -/
def gregorianDates : DatePlatform where
  isoDate value :=
    (readDate value.toList).any fun read =>
      read.2 = [] ∧ (dayOf read.1).HasFourDigits ∧
        value.toList = (dayOf read.1).text
  parseOther _ := none

theorem gregorianDates_reads : ReadsIsoDates gregorianDates.isoDate := by
  intro value
  unfold gregorianDates
  constructor
  · intro isDay
    cases reading : readDate value.toList with
    | none =>
        simp [reading] at isDay
    | some read =>
        simp only [reading, Option.any_some, decide_eq_true_eq] at isDay
        obtain ⟨-, fourDigits, isText⟩ := isDay
        exact ⟨dayOf read.1, fourDigits, isText⟩
  · rintro ⟨date, fourDigits, isText⟩
    have small : date.year.natAbs < 10 ^ 6 := by
      have lower := fourDigits.1
      have upper := fourDigits.2
      omega
    have reading := CalendarDay.readDate_text date small []
    rw [List.append_nil, ← isText] at reading
    simp only [reading, Option.any_some, dayOf_number, decide_eq_true_eq]
    exact ⟨trivial, fourDigits, isText⟩

/-- One client with an email, version 0. -/
def oneClient : Database where
  tables :=
    { Leads.Tables.empty with
      clients :=
        [⟨1, "Ana Reyes", some anaAddress, none,
          some "ana@example.ph", none⟩] }
  details := [ClientDetails.initial 1 0]

def plainStrings : StringPlatform where
  trim := id
  toLowerCase := id

/-- The submission of a date for the one client, at the end of 2023. -/
def submission (date : CalendarDay) :
    Except ClientError (UpdateClientResult × Database) :=
  updateClientTransaction plainStrings ⟨id, 1700000000000⟩
    ⟨4, .adminManager⟩ ⟨4, .adminManager⟩ 1 (onlyDateOfBirth date 0) oneClient

theorem modern_date_round_trips :
    ∃ result stored,
      submission ⟨1990, 2, 28, by decide, by decide⟩ = .ok (result, stored) ∧
        (DateRoundTrips gregorianDates plainStrings 1700000000000
            "1990-02-28" 1 stored ↔
          1000 ≤ (1990 : Int)) := by
  refine ⟨_, _, rfl, ?_⟩
  exact
    @date_of_birth_round_trips_iff gregorianDates plainStrings
      ⟨id, 1700000000000⟩ 1700000000000 "1990-02-28"
      ⟨1990, 2, 28, by decide, by decide⟩ ⟨4, .adminManager⟩
      ⟨4, .adminManager⟩ 1 (onlyDateOfBirth _ 0) oneClient _ _
      gregorianDates_reads
      ((dateOfBirthSchema_eq_ok_iff gregorianDates_reads).mpr
        ⟨⟨by decide, by decide⟩, by decide +kernel⟩)
      rfl rfl

/-- The year 999 is accepted with a zero in front and read without it, and
what was read is refused. -/
theorem early_date_comes_back_shorter :
    dateOfBirthSchema gregorianDates 1700000000000 (some "0999-12-31") =
        .ok (some ⟨999, 12, 31, by decide, by decide⟩) ∧
      (∃ result stored,
        submission ⟨999, 12, 31, by decide, by decide⟩ =
            .ok (result, stored) ∧
          (findClientByIdForRead stored 1 ⟨4, .adminManager⟩).map
              ClientDetailRecord.dateOfBirth =
            some (some "999-12-31")) ∧
      dateOfBirthSchema gregorianDates 1700000000000 (some "999-12-31") =
        .error .invalid := by
  refine ⟨?_, ⟨_, _, rfl, ?_⟩, ?_⟩
  · exact
      (dateOfBirthSchema_eq_ok_iff gregorianDates_reads).mpr
        ⟨⟨by decide, by decide⟩, by decide +kernel⟩
  · decide +kernel
  · decide +kernel

end Heritage.Clients
