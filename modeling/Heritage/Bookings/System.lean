import Heritage.Bookings.Service
import Heritage.Payments.Integrity

/-!
# The booking system

Status updates and payment operations in any order on one database, which
also sees new bookings and new assignments.  To the ledger an update is a
change of one booking's status.
-/

namespace Heritage.Bookings

open Heritage.Store
open Heritage.Payments (Booking BookingStatus Operation perform)

inductive Request where
  | operation (context : RequestContext) (actor : AuthenticatedUser)
      (operation : Operation)
  | updateBookingStatus (context : RequestContext)
      (actor : AuthenticatedUser) (id : Uuid)
      (input : UpdateBookingStatusInput)
  | bookingAdded (booking : Booking)
  | assignmentsChanged (staffAssignments : List StaffAssignment)

/-- Ids and booking references are unique. -/
def addBooking (bookings : List Booking) (booking : Booking) :
    List Booking :=
  if (findBy Booking.id booking.id bookings).isNone ∧
      (findBy Booking.bookingReference booking.bookingReference
        bookings).isNone then
    bookings ++ [booking]
  else
    bookings

def step (database : Database) : Request → Database
  | .operation context actor operation =>
      { database with
        ledger := (perform context actor operation database.ledger).2 }
  | .updateBookingStatus context actor id input =>
      (updateBookingStatus context actor id input database).2
  | .bookingAdded booking =>
      { database with
        ledger :=
          { database.ledger with
            bookings := addBooking database.ledger.bookings booking } }
  | .assignmentsChanged staffAssignments =>
      { database with
        ledger :=
          { database.ledger with staffAssignments := staffAssignments } }

/-- The database after `requests` on an empty one. -/
def databaseAfter (requests : List Request) : Database :=
  run step Database.empty requests

/-- A step on the ledger is silent or a step of the payment system. -/
theorem ledger_step (database : Database) (request : Request) :
    (step database request).ledger = database.ledger ∨
      ∃ seen,
        (step database request).ledger = Payments.step database.ledger seen := by
  cases request with
  | operation context actor operation =>
      exact Or.inr ⟨.operation context actor operation, rfl⟩
  | updateBookingStatus context actor id input =>
      apply
        @updateBookingStatus_after database context
          (fun after =>
            after.ledger = database.ledger ∨
              ∃ seen, after.ledger = Payments.step database.ledger seen)
          actor id input (Or.inl rfl)
      intro bookingActor record after succeeds
      rcases updateBookingStatusTransaction_ok succeeds with
        rfl | ⟨booking, row, logs, -, -, -, -, -, -, rfl⟩
      · exact Or.inl rfl
      · exact Or.inr ⟨.bookingStatusChanged id input.newStatus, rfl⟩
  | bookingAdded booking =>
      by_cases fresh :
          (findBy Booking.id booking.id database.ledger.bookings).isNone ∧
            (findBy Booking.bookingReference booking.bookingReference
              database.ledger.bookings).isNone
      · right
        refine ⟨.bookingAdded booking, ?_⟩
        simp only [step, addBooking, if_pos fresh, Payments.step,
          if_pos fresh.1]
      · left
        simp only [step, addBooking, if_neg fresh]
  | assignmentsChanged staffAssignments =>
      exact Or.inr ⟨.assignmentsChanged staffAssignments, rfl⟩

/-- Whatever the ledger goes through, the payment system can reach. -/
theorem ledger_run {database : Database}
    (reached :
      ∃ seen, database.ledger = Payments.tablesAfter seen)
    (requests : List Request) :
    ∃ seen,
      (run step database requests).ledger = Payments.tablesAfter seen := by
  apply
    @run_invariant _ _ step
      (fun current => ∃ seen, current.ledger = Payments.tablesAfter seen)
      database reached
  rintro current request ⟨seen, same⟩
  rcases ledger_step current request with silent | ⟨next, moved⟩
  · exact ⟨seen, silent.trans same⟩
  · refine ⟨seen ++ [next], ?_⟩
    rw [moved, same, Payments.tablesAfter, Payments.tablesAfter, run_append]
    rfl

theorem ledger_databaseAfter (requests : List Request) :
    ∃ seen,
      (databaseAfter requests).ledger = Payments.tablesAfter seen :=
  ledger_run ⟨[], rfl⟩ requests

end Heritage.Bookings
