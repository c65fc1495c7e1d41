import Heritage.Clients.Repository

/-!
# The date of birth in a request

`dateOfBirthSchema` of the client schemas.  What `z.iso.date()` accepts and
what `Date` makes of strings outside its format belong to the platform.
-/

namespace Heritage.Clients

open Heritage.Calendar
open Repository (toDateOnlyString)

structure DatePlatform where
  /-- `z.iso.date()`. -/
  isoDate : String → Bool
  parseOther : List Char → Option Int

def philippineUtcOffsetMs : Int := 8 * 60 * 60 * 1000

/-- The day of an instant in Manila. -/
def manilaDay (now : Timestamp) : CalendarDay :=
  dayAt (now + philippineUtcOffsetMs)

def currentPhilippineBusinessDate (now : Timestamp) : String :=
  toDateOnlyString (manilaDay now)

inductive DateOfBirthIssue where
  | invalid
  | custom (message : String)
  | invalidDate
  deriving DecidableEq, Repr

/-- `none` is the raw `null`; an accepted day is stored in the date column of
the client.  A value that is later in code units is in the future. -/
def dateOfBirthSchema (platform : DatePlatform) (now : Timestamp)
    (raw : Option String) : Except DateOfBirthIssue (Option CalendarDay) :=
  match raw with
  | none => .ok none
  | some value =>
      if value = "" then
        .ok none
      else if platform.isoDate value then
        if codeUnits (currentPhilippineBusinessDate now).toList <
            codeUnits value.toList then
          .error (.custom "dateOfBirth cannot be a future date.")
        else
          match dateParse platform.parseOther
              (value.toList ++ "T00:00:00.000Z".toList) with
          | none => .error .invalidDate
          | some midnight => .ok (some (dayAt midnight))
      else
        .error .invalid

end Heritage.Clients
