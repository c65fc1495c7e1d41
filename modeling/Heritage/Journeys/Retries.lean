import Heritage.Journeys.Creation
import Heritage.Proposals.Retries

/-!
# Creating a booking, with its retries

`createBooking` as a whole: the loop that draws another reference after a
collision, and the read of a booking another call made first.  What its runs and
those of a revision commit is bounded here.
-/

namespace Heritage.Journeys.Retries

open Heritage.Store
open Heritage.Bookings
open Heritage.Proposals.Retries (RevisionTurn)

/-- What one transaction of a creation meets. -/
abbrev BookingTurn :=
  Turn AttemptContext Journeys.Database BookingError

/-- What a read outside the transactions meets. -/
abbrev RereadTurn :=
  Turn Unit Journeys.Database BookingError

def thrownOf : Bookings.TxError → Thrown BookingError
  | .booking error => .domain error
  | .uniqueViolation modelName fields => thrownViolation modelName fields

def bookingConflict (message : String) : Thrown BookingError :=
  .domain ⟨.bookingConflict, message⟩

def isBookingUniqueViolationOn (error : Thrown BookingError)
    (field : String) : Bool :=
  isUniqueViolationOn error "Booking" [field]

/-- The booking that won the race for the version. -/
def racedBooking (actor : BookingActor) (input : CreateBookingInput)
    (database : Journeys.Database) :
    Except (Thrown BookingError) CreateBookingResult :=
  match
    findBookingByProposalVersionIdForActor database actor
      input.proposalVersionId
  with
  | some raced => .ok ⟨raced, false⟩
  | none => .error (bookingConflict conflictMessage)

/-- The `catch` of a run; `none` goes on to the next one. -/
def caughtBooking (actor : BookingActor) (input : CreateBookingInput)
    (rereads : Nat → RereadTurn) (attempt : Nat)
    (error : Thrown BookingError) :
    Option (Except (Thrown BookingError) CreateBookingResult) :=
  if isBookingUniqueViolationOn error "bookingReference" then
    if attempt < maxBookingReferenceAttempts then
      none
    else
      some (.error (bookingConflict referenceConflictMessage))
  else if isBookingUniqueViolationOn error "proposalVersionId" then
    some (readOutside (rereads attempt) (racedBooking actor input))
  else if isResidualDatabaseConflict error then
    some (.error (bookingConflict conflictMessage))
  else
    some (.error error)

section Calls

variable (actor : BookingActor) (input : CreateBookingInput)
  (turns : Nat → Nat → BookingTurn) (rereads : Nat → RereadTurn)

/-- The transaction that this attempt of this run makes. -/
def bookingTransaction (run attempt : Nat) :
    Except (Thrown BookingError) CreateBookingResult × Journeys.Database :=
  runTransaction thrownOf
    (fun context => attemptCreateBooking context actor input)
    (turns run attempt)

def bookingOutcome (run attempt : Nat) :
    Except (Thrown BookingError) CreateBookingResult :=
  (bookingTransaction actor input turns run attempt).1

def bookingRun (run : Nat) :
    Finished (Thrown BookingError) CreateBookingResult :=
  runSerializableWithRetry (bookingOutcome actor input turns run)

def bookingLoop : Finished (Thrown BookingError) CreateBookingResult :=
  loopFrom maxBookingReferenceAttempts
    (fun run => (bookingRun actor input turns run).result)
    (caughtBooking actor input rereads)
    (.error (bookingConflict referenceConflictMessage)) 1

end Calls

/-- `turns` is what each attempt of each run meets, `rereads` what the read
after a lost race meets. -/
def createBooking (actor : AuthenticatedUser) (input : CreateBookingInput)
    (turns : Nat → Nat → BookingTurn) (rereads : Nat → RereadTurn) :
    Finished (Thrown BookingError) CreateBookingResult :=
  match assertBookingActor actor with
  | .error failure => ⟨.error (thrownOf failure), 0⟩
  | .ok bookingActor => bookingLoop bookingActor input turns rereads

/-- What holds of a call, whatever its transactions and its read meet. -/
structure BookingRetry (actor : BookingActor) (input : CreateBookingInput)
    (turns : Nat → Nat → BookingTurn) (rereads : Nat → RereadTurn)
    (call : Finished (Thrown BookingError) CreateBookingResult) : Prop where
  bounded :
    BoundedCall (bookingOutcome actor input turns)
      (ViolatesKey "Booking" ["bookingReference"]) call
  /-- A result is that of the last attempt, which committed what it wrote, or
  the stored booking of another call. -/
  committed :
    ∀ result, call.result = .ok result →
      1 ≤ call.attempts ∧
        ((∃ attempt,
            attempt = (bookingRun actor input turns call.attempts).attempts ∧
              attemptCreateBooking (turns call.attempts attempt).context actor
                  input (turns call.attempts attempt).found =
                .ok
                  (result,
                    (bookingTransaction actor input turns call.attempts
                      attempt).2)) ∨
          result.created = false ∧
            (∃ error,
              (bookingRun actor input turns call.attempts).result =
                  .error error ∧
                ViolatesKey "Booking" ["proposalVersionId"] error) ∧
            findBookingByProposalVersionIdForActor
                (rereads call.attempts).found actor input.proposalVersionId =
              some result.booking)
  /-- A call that throws has committed nothing. -/
  rolledBack :
    ∀ error, call.result = .error error →
      ∑ run ∈ Finset.Icc 1 call.attempts,
        successes (bookingOutcome actor input turns run)
          (bookingRun actor input turns run).attempts = 0
  unchanged :
    ∀ run attempt error,
      bookingOutcome actor input turns run attempt = .error error →
        (bookingTransaction actor input turns run attempt).2 =
          (turns run attempt).found

variable {actor : BookingActor} {input : CreateBookingInput}
  {turns : Nat → Nat → BookingTurn} {rereads : Nat → RereadTurn}
  {attempt : Nat} {error : Thrown BookingError}

theorem caughtBooking_eq_none :
    caughtBooking actor input rereads attempt error = none ↔
      ViolatesKey "Booking" ["bookingReference"] error ∧
        attempt < maxBookingReferenceAttempts := by
  rw [← isUniqueViolationOn_iff, ← isBookingUniqueViolationOn]
  unfold caughtBooking
  by_cases collides : isBookingUniqueViolationOn error "bookingReference"
  · simp [collides]
  · by_cases raced : isBookingUniqueViolationOn error "proposalVersionId"
    · simp [collides, raced]
    · by_cases residual : isResidualDatabaseConflict error
      · simp [collides, raced, residual]
      · simp [collides, raced, residual]

theorem racedBooking_eq_ok {database : Journeys.Database}
    {result : CreateBookingResult}
    (returns : racedBooking actor input database = .ok result) :
    result.created = false ∧
      findBookingByProposalVersionIdForActor database actor
          input.proposalVersionId =
        some result.booking := by
  unfold racedBooking at returns
  cases found : findBookingByProposalVersionIdForActor database actor
      input.proposalVersionId with
  | none =>
      rw [found] at returns
      cases returns
  | some raced =>
      rw [found] at returns
      obtain rfl := Except.ok.inj returns
      exact ⟨rfl, rfl⟩

/-- Only the booking of another call is an answer to an error. -/
theorem caughtBooking_eq_ok {result : CreateBookingResult}
    (answered :
      caughtBooking actor input rereads attempt error = some (.ok result)) :
    ViolatesKey "Booking" ["proposalVersionId"] error ∧
      result.created = false ∧
        findBookingByProposalVersionIdForActor (rereads attempt).found actor
            input.proposalVersionId =
          some result.booking := by
  unfold caughtBooking at answered
  by_cases collides : isBookingUniqueViolationOn error "bookingReference"
  · rw [if_pos collides] at answered
    obtain ⟨-, same⟩ := Option.ite_none_left_eq_some.mp answered
    cases same
  · rw [if_neg collides] at answered
    by_cases raced : isBookingUniqueViolationOn error "proposalVersionId"
    · rw [if_pos raced] at answered
      exact ⟨isUniqueViolationOn_iff.mp raced,
        racedBooking_eq_ok
          (read_of_readOutside (Option.some.inj answered))⟩
    · rw [if_neg raced] at answered
      by_cases residual : isResidualDatabaseConflict error
      · rw [if_pos residual] at answered
        cases answered
      · rw [if_neg residual] at answered
        cases answered

theorem booking_unchanged {run : Nat}
    (throws : bookingOutcome actor input turns run attempt = .error error) :
    (bookingTransaction actor input turns run attempt).2 =
      (turns run attempt).found :=
  runTransaction_rolledBack throws

theorem bookingLoop_decidedByLast (actor : BookingActor)
    (input : CreateBookingInput) (turns : Nat → Nat → BookingTurn)
    (rereads : Nat → RereadTurn) :
    DecidedByLast (fun run => (bookingRun actor input turns run).result)
        (caughtBooking actor input rereads) 1
        (bookingLoop actor input turns rereads) ∧
      (bookingLoop actor input turns rereads).attempts ≤
        maxBookingReferenceAttempts := by
  apply loopFrom_decidedByLast
  · intro run error goesOn
    exact (caughtBooking_eq_none.mp goesOn).2
  · decide

theorem bookingRetry_loop :
    BookingRetry actor input turns rereads
      (bookingLoop actor input turns rereads) := by
  obtain ⟨decided, runs⟩ :=
    bookingLoop_decidedByLast actor input turns rereads
  refine
    { bounded :=
        BoundedCall.of_decided decided runs fun _ _ => caughtBooking_eq_none
      committed := ?_
      rolledBack := ?_
      unchanged := fun _ _ _ => booking_unchanged }
  · intro result returns
    refine ⟨decided.started, ?_⟩
    rcases decided.answer with
      ⟨stored, lastReturns, same⟩ | ⟨error, fails, answered⟩
    · left
      obtain rfl := Except.ok.inj (returns.symm.trans same)
      exact ⟨_, rfl, runTransaction_committed (commits_of_ok lastReturns)⟩
    · right
      rw [returns] at answered
      obtain ⟨raced, notCreated, found⟩ := caughtBooking_eq_ok answered
      exact ⟨notCreated, ⟨error, fails, raced⟩, found⟩
  · intro error throws
    obtain ⟨failure, fails, -⟩ := decided.failed_of_error throws
    exact sum_successes_of_error
      (fun run => runSerializableWithRetry_decidedByLast _) decided fails

theorem isBookingUniqueViolationOn_thrownViolation {modelName field : String}
    {fields : List String} :
    isBookingUniqueViolationOn (thrownViolation modelName fields) field ↔
      modelName = "Booking" ∧ fields = [field] := by
  have columns := violatedFields_reportedViolation modelName fields
  unfold isBookingUniqueViolationOn
  rw [isUniqueViolationOn_iff]
  constructor
  · rintro ⟨report, same, named, oneColumn, known⟩
    obtain ⟨-, isReport⟩ := Thrown.knownRequest.inj same
    obtain rfl := Option.some.inj isReport
    rw [columns] at oneColumn known
    obtain ⟨column, rfl⟩ := List.length_eq_one_iff.mp oneColumn
    have sameColumn :=
      List.mem_singleton.mp (known column (List.mem_singleton_self column))
    exact ⟨Option.some.inj named, by rw [sameColumn]⟩
  · rintro ⟨rfl, rfl⟩
    refine ⟨_, rfl, rfl, ?_⟩
    rw [columns]
    exact ⟨rfl, fun _ member => member⟩

/-- What the loop makes of the outcome of one attempt. -/
def answerOf (reread : RereadTurn) (actor : BookingActor)
    (input : CreateBookingInput) :
    CreateBookingOutcome →
      Option (Except (Thrown BookingError) CreateBookingResult)
  | .returned result => some (.ok result)
  | .thrown failure => some (.error (thrownOf failure))
  | .tryAgain => none
  | .readRaced => some (readOutside reread (racedBooking actor input))

/-- The error of a failed attempt is caught as `caughtCreation` says. -/
theorem caughtBooking_thrownOf (failure : Bookings.TxError) :
    caughtBooking actor input rereads attempt (thrownOf failure) =
      answerOf (rereads attempt) actor input
        (caughtCreation attempt failure) := by
  cases failure with
  | booking error =>
      rfl
  | uniqueViolation modelName fields =>
      have sameTest (field : String) :
          isBookingUniqueViolationOn
              (thrownOf (.uniqueViolation modelName fields)) field ↔
            Bookings.TxError.uniqueViolation modelName fields =
              .uniqueViolation "Booking" [field] := by
        rw [thrownOf, isBookingUniqueViolationOn_thrownViolation,
          Bookings.TxError.uniqueViolation.injEq]
      unfold caughtBooking caughtCreation
      by_cases reference :
          isBookingUniqueViolationOn
            (thrownOf (.uniqueViolation modelName fields)) "bookingReference"
      · rw [if_pos reference, if_pos ((sameTest _).mp reference)]
        by_cases remaining : attempt < maxBookingReferenceAttempts
        · rw [if_pos remaining, if_pos remaining]
          rfl
        · rw [if_neg remaining, if_neg remaining]
          rfl
      · rw [if_neg reference, if_neg (reference ∘ (sameTest _).mpr)]
        by_cases raced :
            isBookingUniqueViolationOn
              (thrownOf (.uniqueViolation modelName fields))
              "proposalVersionId"
        · rw [if_pos raced, if_pos ((sameTest _).mp raced)]
          rfl
        · rw [if_neg raced, if_neg (raced ∘ (sameTest _).mpr)]
          rfl

theorem answerOf_readRacedBooking (reread : RereadTurn)
    (database : Journeys.Database) :
    answerOf reread actor input (readRacedBooking actor input database) =
      some (racedBooking actor input database) := by
  unfold readRacedBooking racedBooking
  cases findBookingByProposalVersionIdForActor database actor
      input.proposalVersionId with
  | none =>
      rfl
  | some raced =>
      rfl

/-- Runs, revisions and creations commit at most once. -/
structure RetriesCommitOnce : Prop where
  serializable :
    ∀ (δ α : Type) (outcome : Nat → Except (Thrown δ) α),
      SerializableRetry outcome (runSerializableWithRetry outcome)
  revision :
    ∀ (actor : AuthenticatedUser) (proposalId : Uuid)
      (input : Proposals.CreateProposalRevisionInput) (before : RevisionTurn)
      (turns : Nat → Nat → RevisionTurn),
      Proposals.Retries.RevisionRetry ⟨actor.id, .travelConsultant⟩ proposalId
        input turns
        (Proposals.Retries.createProposalRevision actor proposalId input before
          turns)
  booking :
    ∀ (actor : AuthenticatedUser) (bookingActor : BookingActor)
      (input : CreateBookingInput) (turns : Nat → Nat → BookingTurn)
      (rereads : Nat → RereadTurn),
      assertBookingActor actor = .ok bookingActor →
        BookingRetry bookingActor input turns rereads
          (createBooking actor input turns rereads)
  bookingRefused :
    ∀ (actor : AuthenticatedUser) (failure : Bookings.TxError)
      (input : CreateBookingInput) (turns : Nat → Nat → BookingTurn)
      (rereads : Nat → RereadTurn),
      assertBookingActor actor = .error failure →
        createBooking actor input turns rereads =
          ⟨.error (thrownOf failure), 0⟩

theorem retries_commit_once : RetriesCommitOnce where
  serializable := fun _ _ => serializableRetry
  revision := fun actor _ _ before _ =>
    Proposals.Retries.revisionRetry actor before
  booking := by
    intro actor bookingActor input turns rereads authorised
    rw [createBooking, authorised]
    exact bookingRetry_loop
  bookingRefused := by
    intro actor failure input turns rereads refused
    rw [createBooking, refused]

end Heritage.Journeys.Retries
