import Heritage.Journeys.Invariants

/-!
# The life of bookings

A booking is made once, from an accepted version and for its client, and moves
along allowed transitions.  An update names the status it starts from; the
only status a booking can come back to is one of the two it may swap between.
-/

namespace Heritage.Journeys

open Heritage.Store
open Heritage.Proposals
open Heritage.Bookings
open Heritage.Payments (Booking BookingStatus withBookingStatus)

/-- How far along a status is; `DOCUMENTS_REQUIRED` and `VISA_PROCESSING` are
equally far. -/
def statusRank : BookingStatus → Nat
  | .draft => 0
  | .pendingConfirmation => 1
  | .confirmed => 2
  | .inPreparation => 3
  | .documentsRequired => 4
  | .visaProcessing => 4
  | .readyForTravel => 5
  | .inProgress => 6
  | .completed => 7
  | .cancelled => 8

/-- The two statuses with a way back. -/
def isRevisited (status : BookingStatus) : Bool :=
  status = .documentsRequired ∨ status = .visaProcessing

/-- A transition leads further along, or from one of the two statuses to the
other. -/
theorem rank_of_allowed {current next : BookingStatus}
    (allowed : isTransitionAllowed current next) :
    statusRank current < statusRank next ∨
      isRevisited current ∧ statusRank current = statusRank next := by
  revert allowed
  cases current <;> cases next <;> decide

theorem rank_of_reaches {current next : BookingStatus}
    (reaches : Reaches current next) :
    statusRank current ≤ statusRank next := by
  induction reaches with
  | refl =>
      exact le_rfl
  | tail _ allowed inductionHypothesis =>
      rcases rank_of_allowed allowed with further | ⟨-, same⟩
      · omega
      · omega

/-- A status that a booking left and came back to is one of the two. -/
theorem isRevisited_of_cycle {current next : BookingStatus}
    (left : isTransitionAllowed current next) (back : Reaches next current) :
    isRevisited current := by
  have notBefore := rank_of_reaches back
  rcases rank_of_allowed left with further | ⟨revisited, -⟩
  · omega
  · exact revisited

/-- A completed or cancelled booking stays so. -/
theorem eq_of_reaches_of_terminal {current next : BookingStatus}
    (terminal : current = .completed ∨ current = .cancelled)
    (reaches : Reaches current next) : next = current := by
  induction reaches with
  | refl =>
      rfl
  | tail _ allowed inductionHypothesis =>
      rw [inductionHypothesis, not_allowed_of_terminal terminal] at allowed
      cases allowed

def bookingsOfVersion (database : Database) (versionId : Uuid) :
    List Booking :=
  database.bookings.filter fun booking =>
    database.sources.any fun source =>
      source.bookingId = booking.id ∧ source.proposalVersionId = versionId

section Reads

variable {database : Database}

theorem mem_bookingsOfVersion {versionId : Uuid} {booking : Booking} :
    booking ∈ bookingsOfVersion database versionId ↔
      booking ∈ database.bookings ∧
        ∃ source ∈ database.sources,
          source.bookingId = booking.id ∧
            source.proposalVersionId = versionId := by
  simp [bookingsOfVersion, List.mem_filter]

/-- Two bookings of one version are one row. -/
theorem eq_of_mem_bookingsOfVersion (sound : Sound database)
    {versionId : Uuid} {left right : Booking}
    (leftMember : left ∈ bookingsOfVersion database versionId)
    (rightMember : right ∈ bookingsOfVersion database versionId) :
    left = right := by
  obtain ⟨leftListed, leftSource, leftIn, leftOf, leftVersion⟩ :=
    mem_bookingsOfVersion.mp leftMember
  obtain ⟨rightListed, rightSource, rightIn, rightOf, rightVersion⟩ :=
    mem_bookingsOfVersion.mp rightMember
  have sameSource : leftSource = rightSource :=
    List.inj_on_of_nodup_map sound.oneBooking leftIn rightIn
      (leftVersion.trans rightVersion.symm)
  have sameId : left.id = right.id := by
    rw [← leftOf, ← rightOf, sameSource]
  exact
    List.inj_on_of_nodup_map sound.bookingIds leftListed rightListed sameId

/-- Every booking has a version it was made from. -/
theorem exists_source (sound : Sound database) {booking : Booking}
    (member : booking ∈ database.bookings) :
    ∃ source ∈ database.sources, source.bookingId = booking.id := by
  have listed : booking.id ∈ database.sources.map BookingSource.bookingId := by
    rw [sound.columns]
    exact List.mem_map_of_mem member
  exact List.mem_map.mp listed

theorem findBookingByProposalVersionIdForActor_eq_some {actor : BookingActor}
    {versionId : Uuid} {record : CreatedBookingRecord} :
    findBookingByProposalVersionIdForActor database actor versionId =
        some record ↔
      ∃ source booking,
        findBy BookingSource.proposalVersionId versionId database.sources =
            some source ∧
          findBy Booking.id source.bookingId database.bookings =
            some booking ∧
          Bookings.clientAssignmentFilter
            database.booking.ledger.staffAssignments actor
            booking.clientId ∧
          record = ⟨selectBooking booking, source.proposalVersionId⟩ := by
  simp only [findBookingByProposalVersionIdForActor, Option.bind_eq_bind,
    Option.bind_eq_some_iff, Option.filter_eq_some_iff, Option.some.injEq]
  constructor
  · rintro ⟨source, foundSource, booking, ⟨foundBooking, maySee⟩, rfl⟩
    exact ⟨source, booking, foundSource, foundBooking, maySee, rfl⟩
  · rintro ⟨source, booking, foundSource, foundBooking, maySee, rfl⟩
    exact ⟨source, foundSource, booking, ⟨foundBooking, maySee⟩, rfl⟩

end Reads

/-- The record is a booking of the database with its version. -/
def Records (database : Database) (record : CreatedBookingRecord) : Prop :=
  ∃ source booking,
    findBy BookingSource.proposalVersionId record.proposalVersionId
        database.sources =
        some source ∧
      findBy Booking.id source.bookingId database.bookings = some booking ∧
      record.toBookingRecord = selectBooking booking

section Answers

variable {context : AttemptContext} {call : Call} {number : Nat}
  {database : Database} {result : CreateBookingResult}

theorem records_of_found {actor : BookingActor} {versionId : Uuid}
    {record : CreatedBookingRecord}
    (found :
      findBookingByProposalVersionIdForActor database actor versionId =
        some record) :
    Records database record := by
  obtain ⟨source, booking, foundSource, foundBooking, -, rfl⟩ :=
    findBookingByProposalVersionIdForActor_eq_some.mp found
  refine ⟨source, booking, ?_, foundBooking, rfl⟩
  rw [key_of_findBy foundSource]
  exact foundSource

/-- What creating a booking returns is stored afterwards. -/
theorem records_of_returned
    (returned :
      (attempt context call number database).1 = .booked (.returned result)) :
    Records (attempt context call number database).2 result.booking := by
  cases call with
  | createBooking actor input =>
      simp only [attempt, createBookingAttempt] at returned ⊢
      cases outcome : attemptCreateBooking context actor input database with
      | error failure =>
          rw [transact_of_error outcome] at returned
          simp only [Answer.booked.injEq, caughtCreation] at returned
          split at returned
          · split at returned <;> cases returned
          · split at returned
            · cases returned
            · split at returned <;> cases returned
      | ok success =>
          obtain ⟨value, after⟩ := success
          rw [transact_of_ok outcome] at returned ⊢
          simp only [Answer.booked.injEq,
            CreateBookingOutcome.returned.injEq] at returned
          subst returned
          rcases attemptCreateBooking_ok outcome with
            ⟨found, -, rfl⟩ | ⟨booking, history, rfl, creation⟩
          · exact records_of_found found
          · have freshId := creation.freshId
            have freshVersion := creation.freshVersion
            obtain ⟨logs, rfl⟩ := creation.written
            exact
              ⟨⟨booking.id, input.proposalVersionId⟩, booking,
                @findBy_concat_self _ _ _ BookingSource.proposalVersionId
                  database.sources ⟨booking.id, input.proposalVersionId⟩
                  freshVersion,
                findBy_concat_self freshId, rfl⟩
  | readRaced actor input =>
      simp only [attempt, readRacedBooking, Answer.booked.injEq]
        at returned ⊢
      cases found :
          findBookingByProposalVersionIdForActor database actor
            input.proposalVersionId with
      | none =>
          rw [found] at returned
          cases returned
      | some raced =>
          rw [found] at returned
          cases returned
          exact records_of_found found
  | author | recordProposalResponse | submitClientProposalResponse |
    updateBookingStatus =>
      cases returned

/-- A stored booking is returned to whoever may see it, and nothing is
written. -/
theorem createBooking_of_stored {source : BookingSource} {booking : Booking}
    {versionId : Uuid}
    (foundSource :
      findBy BookingSource.proposalVersionId versionId database.sources =
        some source)
    (foundBooking :
      findBy Booking.id source.bookingId database.bookings = some booking)
    {actor : BookingActor}
    (maySee :
      Bookings.clientAssignmentFilter database.booking.ledger.staffAssignments
        actor booking.clientId) :
    attempt context (.createBooking actor ⟨versionId⟩) number database =
      (.booked (.returned ⟨⟨selectBooking booking, versionId⟩, false⟩),
        database) := by
  have found :
      findBookingByProposalVersionIdForActor database actor versionId =
        some ⟨selectBooking booking, versionId⟩ := by
    rw [findBookingByProposalVersionIdForActor_eq_some]
    refine ⟨source, booking, foundSource, foundBooking, maySee, ?_⟩
    rw [key_of_findBy foundSource]
  have succeeds :
      attemptCreateBooking context actor ⟨versionId⟩ database =
        .ok (⟨⟨selectBooking booking, versionId⟩, false⟩, database) := by
    simp only [attemptCreateBooking, found]
  simp only [attempt, createBookingAttempt, transact_of_ok succeeds]

end Answers

def statusIn (database : Database) (id : Uuid) : Option BookingStatus :=
  (findBy Booking.id id database.bookings).map Booking.status

/-- The attempt is a status update of the booking with this input, and it
changes the database. -/
def TakesEffect (state : State) (callId : Nat) (context : AttemptContext)
    (id : Uuid) (input : UpdateBookingStatusInput) : Prop :=
  ∃ waiting actor,
    findBy WaitingCall.callId callId state.waiting = some waiting ∧
      waiting.call = .updateBookingStatus actor id input ∧
      (step state (.attempt callId context)).database ≠ state.database

section Updates

variable {state : State} {callId : Nat} {context : AttemptContext}
  {waiting : WaitingCall} {id : Uuid} {input : UpdateBookingStatusInput}

theorem statusIn_withTransition {database : Database} {booking : Booking}
    {row : BookingStatusHistory} {logs : List BookingAuditLog}
    (found : findBy Booking.id row.bookingId database.bookings = some booking) :
    statusIn (withTransition database row logs) row.bookingId =
      some row.newStatus := by
  have moved :
      findBy Booking.id row.bookingId
          (withTransition database row logs).bookings =
        some (withBookingStatus row.newStatus booking) :=
    findBy_updateBy_self (fun _ => rfl) found
  rw [statusIn, moved]
  rfl

theorem statusIn_withTransition_other {database : Database}
    {row : BookingStatusHistory} {logs : List BookingAuditLog}
    (different : id ≠ row.bookingId) :
    statusIn (withTransition database row logs) id = statusIn database id := by
  have kept :
      findBy Booking.id id (withTransition database row logs).bookings =
        findBy Booking.id id database.bookings :=
    @findBy_updateBy_other _ _ _ Booking.id row.bookingId
      (withBookingStatus row.newStatus) database.bookings id (fun _ => rfl)
      different
  rw [statusIn, kept]
  rfl

/-- An update changes nothing, or leads the booking from the expected to the
new status by an allowed transition. -/
theorem update_step {actor : AuthenticatedUser}
    (found : findBy WaitingCall.callId callId state.waiting = some waiting)
    (updates : waiting.call = .updateBookingStatus actor id input) :
    (step state (.attempt callId context)).database = state.database ∨
      statusIn state.database id = some input.expectedStatus ∧
        isTransitionAllowed input.expectedStatus input.newStatus ∧
        statusIn (step state (.attempt callId context)).database id =
          some input.newStatus := by
  rw [step_attempt_database found, updates]
  rcases
    @updateBookingStatus_attempt context waiting.attempt state.database actor
      id input with
    unchanged |
      ⟨booking, row, logs, foundBooking, rfl, expected, next, allowed, -,
        after⟩
  · exact Or.inl unchanged
  · right
    rw [after, ← next, ← expected]
    refine ⟨?_, allowed, statusIn_withTransition foundBooking⟩
    rw [statusIn, foundBooking]
    rfl

theorem takesEffect_statuses
    (effective : TakesEffect state callId context id input) :
    statusIn state.database id = some input.expectedStatus ∧
      isTransitionAllowed input.expectedStatus input.newStatus ∧
      statusIn (step state (.attempt callId context)).database id =
        some input.newStatus := by
  obtain ⟨waiting, actor, found, updates, changed⟩ := effective
  rcases update_step found updates with unchanged | moved
  · exact absurd unchanged changed
  · exact moved

/-- An attempt that is no status update keeps the status of every booking. -/
theorem statusIn_of_other_call {database : Database} {call : Call}
    {number : Nat} {status : BookingStatus}
    (other : ∀ actor changedId change,
      call ≠ .updateBookingStatus actor changedId change)
    (before : statusIn database id = some status) :
    statusIn (attempt context call number database).2 id = some status := by
  obtain ⟨booking, found, rfl⟩ := Option.map_eq_some_iff.mp before
  cases call with
  | author | recordProposalResponse | submitClientProposalResponse |
    readRaced =>
      exact before
  | updateBookingStatus actor changedId change =>
      exact absurd rfl (other actor changedId change)
  | createBooking actor change =>
      simp only [attempt, createBookingAttempt_database]
      rcases
        transact_state_cases (attemptCreateBooking context actor change)
          database with unchanged | ⟨result, succeeds⟩
      · rw [unchanged]
        exact before
      · rcases attemptCreateBooking_ok succeeds with
          ⟨-, -, silent⟩ | ⟨made, history, -, creation⟩
        · rw [silent]
          exact before
        · obtain ⟨logs, written⟩ := creation.written
          rw [written]
          have kept :
              findBy Booking.id id (database.bookings ++ [made]) =
                some booking :=
            findBy_append_of_found _ found
          exact congrArg (Option.map Booking.status) kept

/-- A step that changes a booking's status is an update that took effect. -/
theorem update_of_status_changed {request : Request}
    {old new : BookingStatus}
    (before : statusIn state.database id = some old)
    (after : statusIn (step state request).database id = some new)
    (different : old ≠ new) :
    ∃ callId context change,
      request = .attempt callId context ∧
        TakesEffect state callId context id change ∧
        change.newStatus = new := by
  have unmoved :
      statusIn (step state request).database id = some old → False := by
    intro same
    exact different (Option.some.inj (same.symm.trans after))
  cases request with
  | call callId actor operation =>
      refine (unmoved ?_).elim
      rw [arrive_database]
      exact before
  | assignmentsChanged staffAssignments =>
      exact (unmoved before).elim
  | profileAdded profile =>
      exact (unmoved before).elim
  | attempt callId context =>
      cases found : findBy WaitingCall.callId callId state.waiting with
      | none =>
          refine (unmoved ?_).elim
          simp only [step, proceed, found]
          exact before
      | some waiting =>
          by_cases isUpdate :
              ∃ actor changedId change,
                waiting.call = .updateBookingStatus actor changedId change
          · obtain ⟨actor, changedId, change, updates⟩ := isUpdate
            rw [step_attempt_database found, updates] at after unmoved
            rcases
              @updateBookingStatus_attempt context waiting.attempt
                state.database actor changedId change with
              unchanged |
                ⟨booking, row, logs, foundBooking, ofId, -, next, -, -,
                  written⟩
            · rw [unchanged] at unmoved
              exact (unmoved before).elim
            · rw [written] at after unmoved
              by_cases same : id = changedId
              · subst same
                rw [← ofId, statusIn_withTransition foundBooking] at after
                have sameStatus : change.newStatus = new := by
                  rw [← next]
                  exact Option.some.inj after
                refine ⟨callId, context, change, rfl, ?_, sameStatus⟩
                refine ⟨waiting, actor, found, updates, ?_⟩
                rw [step_attempt_database found, updates]
                intro unchanged
                rw [written] at unchanged
                rw [unchanged] at unmoved
                exact unmoved before
              · refine (unmoved ?_).elim
                rw [← ofId] at same
                rw [statusIn_withTransition_other same]
                exact before
          · refine (unmoved ?_).elim
            rw [step_attempt_database found]
            apply statusIn_of_other_call _ before
            intro actor changedId change updates
            exact isUpdate ⟨actor, changedId, change, updates⟩

end Updates

theorem statusIn_extends {database later : Database} {id : Uuid}
    {status : BookingStatus} (kept : Extends database later)
    (before : statusIn database id = some status) :
    ∃ further, statusIn later id = some further ∧ Reaches status further := by
  obtain ⟨booking, found, rfl⟩ := Option.map_eq_some_iff.mp before
  obtain ⟨last, foundLast, advanced⟩ := kept.bookings id booking found
  refine ⟨last.status, ?_, advanced.reaches⟩
  rw [statusIn, foundLast]
  rfl

/-! ## Every run -/

/-- The bookings of a reached database, and what becomes of them. -/
structure BookingLife (requests more : List Request) : Prop where
  onePerVersion :
    ∀ versionId,
      ∀ left ∈ bookingsOfVersion (databaseAfter requests) versionId,
        ∀ right ∈ bookingsOfVersion (databaseAfter requests) versionId,
          left = right
  fromAccepted :
    ∀ booking ∈ (databaseAfter requests).bookings,
      ∃ versionId acceptance,
        booking ∈ bookingsOfVersion (databaseAfter requests) versionId ∧
          findProposalAcceptanceForVersion (databaseAfter requests).proposing
              versionId =
            some acceptance ∧
          acceptance.responseType = .accept ∧
          versionClient (databaseAfter requests).proposing.toTables
              versionId =
            some booking.clientId
  repeated :
    ∀ callId context waiting result,
      findBy WaitingCall.callId callId (stateAfter requests).waiting =
          some waiting →
        (attempt context waiting.call waiting.attempt
            (databaseAfter requests)).1 =
          .booked (.returned result) →
          ∀ laterContext actor number,
            Bookings.clientAssignmentFilter
                (databaseAfter
                  (requests ++
                    .attempt callId context ::
                      more)).booking.ledger.staffAssignments
                actor result.booking.clientId →
              ∃ same : CreatedBookingRecord,
                same.id = result.booking.id ∧
                  same.bookingReference = result.booking.bookingReference ∧
                  same.clientId = result.booking.clientId ∧
                  same.proposalVersionId =
                    result.booking.proposalVersionId ∧
                  attempt laterContext
                      (.createBooking actor
                        ⟨result.booking.proposalVersionId⟩)
                      number
                      (databaseAfter
                        (requests ++ .attempt callId context :: more)) =
                    (.booked (.returned ⟨same, false⟩),
                      databaseAfter
                        (requests ++ .attempt callId context :: more))
  paths :
    ∀ booking ∈ (databaseAfter requests).bookings,
      StatusPath (historyOf (databaseAfter requests) booking.id)
        booking.status
  settled :
    ∀ id status,
      statusIn (databaseAfter requests) id = some status →
        status = .completed ∨ status = .cancelled →
          statusIn (databaseAfter (requests ++ more)) id = some status
  updates :
    ∀ callId context waiting actor id input,
      findBy WaitingCall.callId callId (stateAfter requests).waiting =
          some waiting →
        waiting.call = .updateBookingStatus actor id input →
          databaseAfter (requests ++ [.attempt callId context]) =
              databaseAfter requests ∨
            statusIn (databaseAfter requests) id =
                some input.expectedStatus ∧
              isTransitionAllowed input.expectedStatus input.newStatus ∧
              statusIn (databaseAfter (requests ++ [.attempt callId context]))
                  id =
                some input.newStatus
  expectedOnce :
    ∀ between firstId firstContext firstInput secondId secondContext
      secondInput id,
      TakesEffect (stateAfter requests) firstId firstContext id firstInput →
        TakesEffect
            (stateAfter (requests ++ .attempt firstId firstContext :: between))
            secondId secondContext id secondInput →
          firstInput.expectedStatus = secondInput.expectedStatus →
            isRevisited firstInput.expectedStatus ∧
              ∃ earlier backId backContext backInput later,
                between = earlier ++ .attempt backId backContext :: later ∧
                  TakesEffect
                    (stateAfter
                      (requests ++ .attempt firstId firstContext :: earlier))
                    backId backContext id backInput ∧
                  backInput.newStatus = firstInput.expectedStatus

section Runs

variable (requests more : List Request)

theorem exists_version_of_booking {booking : Booking}
    (member : booking ∈ (databaseAfter requests).bookings) :
    ∃ versionId acceptance,
      booking ∈ bookingsOfVersion (databaseAfter requests) versionId ∧
        findProposalAcceptanceForVersion (databaseAfter requests).proposing
            versionId =
          some acceptance ∧
        acceptance.responseType = .accept ∧
        versionClient (databaseAfter requests).proposing.toTables versionId =
          some booking.clientId := by
  have sound := (reachable_databaseAfter requests).sound
  obtain ⟨source, sourceMember, ofBooking⟩ := exists_source sound member
  obtain ⟨acceptance, found, accepts⟩ := sound.accepted source sourceMember
  have foundBooking := findBy_of_mem sound.bookingIds member
  rw [← ofBooking] at foundBooking
  refine
    ⟨source.proposalVersionId, acceptance, ?_, found, accepts,
      sound.ownClient source sourceMember booking foundBooking⟩
  exact
    mem_bookingsOfVersion.mpr ⟨member, source, sourceMember, ofBooking, rfl⟩

/-- Whatever a creation returned, a later one by whoever may see the booking
returns the same and writes nothing. -/
theorem repeated_creation {callId : Nat} {context : AttemptContext}
    {waiting : WaitingCall} {result : CreateBookingResult}
    (found :
      findBy WaitingCall.callId callId (stateAfter requests).waiting =
        some waiting)
    (returned :
      (attempt context waiting.call waiting.attempt
          (databaseAfter requests)).1 =
        .booked (.returned result))
    {laterContext : AttemptContext} {actor : BookingActor} {number : Nat}
    (maySee :
      Bookings.clientAssignmentFilter
        (databaseAfter
          (requests ++
            .attempt callId context :: more)).booking.ledger.staffAssignments
        actor result.booking.clientId) :
    ∃ same : CreatedBookingRecord,
      same.id = result.booking.id ∧
        same.bookingReference = result.booking.bookingReference ∧
        same.clientId = result.booking.clientId ∧
        same.proposalVersionId = result.booking.proposalVersionId ∧
        attempt laterContext
            (.createBooking actor ⟨result.booking.proposalVersionId⟩) number
            (databaseAfter (requests ++ .attempt callId context :: more)) =
          (.booked (.returned ⟨same, false⟩),
            databaseAfter (requests ++ .attempt callId context :: more)) := by
  have recorded := records_of_returned returned
  have storedAfter :
      (attempt context waiting.call waiting.attempt
          (databaseAfter requests)).2 =
        databaseAfter (requests ++ [.attempt callId context]) := by
    rw [databaseAfter_concat, step_attempt_database found]
    rfl
  rw [storedAfter] at recorded
  have kept :=
    databaseAfter_extends (requests ++ [.attempt callId context]) more
  rw [List.append_assoc, List.singleton_append] at kept
  obtain ⟨source, booking, foundSource, foundBooking, sameRecord⟩ := recorded
  obtain ⟨last, foundLast, advanced⟩ :=
    kept.bookings source.bookingId booking foundBooking
  have sameClient : last.clientId = result.booking.clientId := by
    rw [sameRecord]
    exact congrArg (fun core => core.2.1) advanced.core
  refine
    ⟨⟨selectBooking last, result.booking.proposalVersionId⟩, ?_, ?_,
      sameClient, rfl, ?_⟩
  · rw [sameRecord]
    exact congrArg (fun core => core.1) advanced.core
  · rw [sameRecord]
    exact congrArg (fun core => core.2.2.1) advanced.core
  · rw [← sameClient] at maySee
    exact
      createBooking_of_stored (findBy_of_grown kept.sources foundSource)
        foundLast maySee

theorem expected_status_met_once {between : List Request}
    {firstId secondId : Nat} {firstContext secondContext : AttemptContext}
    {firstInput secondInput : UpdateBookingStatusInput} {id : Uuid}
    (first :
      TakesEffect (stateAfter requests) firstId firstContext id firstInput)
    (second :
      TakesEffect
        (stateAfter (requests ++ .attempt firstId firstContext :: between))
        secondId secondContext id secondInput)
    (sameExpected : firstInput.expectedStatus = secondInput.expectedStatus) :
    isRevisited firstInput.expectedStatus ∧
      ∃ earlier backId backContext backInput later,
        between = earlier ++ .attempt backId backContext :: later ∧
          TakesEffect
            (stateAfter
              (requests ++ .attempt firstId firstContext :: earlier))
            backId backContext id backInput ∧
          backInput.newStatus = firstInput.expectedStatus := by
  obtain ⟨-, allowed, moved⟩ := takesEffect_statuses first
  obtain ⟨back, -, -⟩ := takesEffect_statuses second
  rw [← sameExpected] at back
  rw [← databaseAfter_concat] at moved
  have left : firstInput.newStatus ≠ firstInput.expectedStatus := by
    intro same
    rw [same, not_allowed_self] at allowed
    cases allowed
  have keptBetween :
      ∀ earlier : List Request,
        Extends
          (databaseAfter (requests ++ [.attempt firstId firstContext]))
          (databaseAfter
            (requests ++ .attempt firstId firstContext :: earlier)) := by
    intro earlier
    have kept :=
      databaseAfter_extends (requests ++ [.attempt firstId firstContext])
        earlier
    rw [List.append_assoc, List.singleton_append] at kept
    exact kept
  obtain ⟨further, atEnd, reaches⟩ :=
    statusIn_extends (keptBetween between) moved
  have sameEnd : further = firstInput.expectedStatus :=
    Option.some.inj (atEnd.symm.trans back)
  rw [sameEnd] at reaches
  refine ⟨isRevisited_of_cycle allowed reaches, ?_⟩
  -- the step that brings the booking back to the expected status
  have splitRun :
      ∀ earlier : List Request,
        stateAfter (requests ++ .attempt firstId firstContext :: earlier) =
          run step
            (stateAfter (requests ++ [.attempt firstId firstContext]))
            earlier := by
    intro earlier
    unfold stateAfter
    rw [← run_append, List.append_assoc, List.singleton_append]
  have notYet :
      ¬ statusIn
            (stateAfter
              (requests ++ [.attempt firstId firstContext])).database id =
          some firstInput.expectedStatus := by
    intro already
    exact left (Option.some.inj (moved.symm.trans already))
  rw [splitRun] at back
  obtain ⟨earlier, request, later, split, before, after⟩ :=
    @exists_step_of_run _ _ step
      (fun state =>
        statusIn state.database id = some firstInput.expectedStatus)
      _ between notYet back
  obtain ⟨old, beforeStatus, -⟩ :=
    statusIn_extends (keptBetween earlier) moved
  unfold databaseAfter at beforeStatus
  rw [splitRun] at beforeStatus
  rw [run_append] at after
  have different : old ≠ firstInput.expectedStatus := by
    intro same
    rw [same] at beforeStatus
    exact before beforeStatus
  obtain ⟨backId, backContext, backInput, rfl, effective, sameNew⟩ :=
    update_of_status_changed beforeStatus after different
  rw [← splitRun] at effective
  exact
    ⟨earlier, backId, backContext, backInput, later, split, effective,
      sameNew⟩

/-- In any order of responses, creations and updates, a version has at most
one booking, made from an ACCEPT and for the proposal's client; creating it
again returns it; its history is a path of allowed transitions, which ends for
good in COMPLETED or CANCELLED; and of two updates that expect one status the
second takes effect only after another update brought the booking back to it,
which only DOCUMENTS_REQUIRED and VISA_PROCESSING allow. -/
theorem booking_life : BookingLife requests more where
  onePerVersion := fun versionId left leftMember right rightMember =>
    eq_of_mem_bookingsOfVersion (reachable_databaseAfter requests).sound
      leftMember rightMember
  fromAccepted := fun booking => exists_version_of_booking requests
  repeated := fun callId context waiting result found returned laterContext
      actor number maySee =>
    repeated_creation requests more found returned maySee
  paths := (reachable_databaseAfter requests).sound.paths
  settled := by
    intro id status before terminal
    obtain ⟨further, after, reaches⟩ :=
      statusIn_extends (databaseAfter_extends requests more) before
    rw [after, eq_of_reaches_of_terminal terminal reaches]
  updates := by
    intro callId context waiting actor id input found updates
    rw [databaseAfter_concat]
    exact update_step found updates
  expectedOnce := fun between firstId firstContext firstInput secondId
      secondContext secondInput id first second sameExpected =>
    expected_status_met_once requests first second sameExpected

end Runs

def consultant : AuthenticatedUser := ⟨1, .travelConsultant⟩

def attemptDraws (first : Nat) : AttemptContext where
  randomUuid index := first + index
  now := 0
  randomHex := "0123456789ABCDEF0123"

/-- A call of the consultant and its one attempt, with the ids from `first`
on. -/
def made (first : Nat) (operation : Operation) : List Request :=
  [.call first consultant operation, .attempt first (attemptDraws first)]

/-- A booking, from the proposal on until its documents are required. -/
def documentsRequired : List Request :=
  .assignmentsChanged
      [{ id := 2
         assignedStaffId := 1
         role := .travelConsultant
         assignedByUserId := 1
         leadId := none
         clientId := some 3
         bookingId := none
         endedAt := none }] ::
    (made 10 (.author (.createProposal ⟨3, "Palawan"⟩)) ++
      made 20 (.author (.publishProposalVersion 11 ⟨none⟩)) ++
      made 30
        (.recordProposalResponse 11
          { responseType := .accept
            respondedAt := 0
            responseMethod := ⟨"phone", by decide⟩
            evidenceReference := ⟨"call note", by decide⟩ }) ++
      made 40 (.createBooking ⟨11⟩) ++
      made 50 (.updateBookingStatus 40 ⟨.draft, .pendingConfirmation⟩) ++
      made 60 (.updateBookingStatus 40 ⟨.pendingConfirmation, .confirmed⟩) ++
      made 70 (.updateBookingStatus 40 ⟨.confirmed, .inPreparation⟩) ++
      made 80 (.updateBookingStatus 40 ⟨.inPreparation, .documentsRequired⟩) ++
      [.call 90 consultant
        (.updateBookingStatus 40 ⟨.documentsRequired, .visaProcessing⟩)])

/-- The booking goes on to `VISA_PROCESSING` and back. -/
def backToDocuments : List Request :=
  made 100 (.updateBookingStatus 40 ⟨.visaProcessing, .documentsRequired⟩) ++
    [.call 110 consultant
      (.updateBookingStatus 40 ⟨.documentsRequired, .readyForTravel⟩)]

theorem takesEffect_of_statuses {state : State} {callId : Nat}
    {context : AttemptContext} {waiting : WaitingCall}
    {actor : AuthenticatedUser} {id : Uuid}
    {input : UpdateBookingStatusInput} {old new : BookingStatus}
    (found : findBy WaitingCall.callId callId state.waiting = some waiting)
    (updates : waiting.call = .updateBookingStatus actor id input)
    (before : statusIn state.database id = some old)
    (after :
      statusIn (step state (.attempt callId context)).database id = some new)
    (different : old ≠ new) :
    TakesEffect state callId context id input := by
  refine ⟨waiting, actor, found, updates, ?_⟩
  intro unchanged
  rw [unchanged, before] at after
  exact different (Option.some.inj after)

/-- Two updates that expect `DOCUMENTS_REQUIRED` both take effect, with the
way back between them. -/
theorem expected_status_met_twice :
    ¬ ∀ (requests between : List Request) (firstId secondId : Nat)
        (firstContext secondContext : AttemptContext)
        (firstInput secondInput : UpdateBookingStatusInput) (id : Uuid),
        firstInput.expectedStatus = secondInput.expectedStatus →
          firstInput.newStatus ≠ secondInput.newStatus →
            TakesEffect (stateAfter requests) firstId firstContext id
                firstInput →
              ¬ TakesEffect
                  (stateAfter
                    (requests ++ .attempt firstId firstContext :: between))
                  secondId secondContext id secondInput := by
  intro atMostOne
  have first :
      TakesEffect (stateAfter documentsRequired) 90 (attemptDraws 90) 40
        ⟨.documentsRequired, .visaProcessing⟩ :=
    @takesEffect_of_statuses _ _ _
      ⟨90,
        .updateBookingStatus consultant 40
          ⟨.documentsRequired, .visaProcessing⟩,
        1⟩
      consultant 40 _ .documentsRequired .visaProcessing
      (by decide +kernel) rfl (by decide +kernel) (by decide +kernel)
      (by decide)
  have second :
      TakesEffect
        (stateAfter
          (documentsRequired ++
            .attempt 90 (attemptDraws 90) :: backToDocuments))
        110 (attemptDraws 110) 40 ⟨.documentsRequired, .readyForTravel⟩ :=
    @takesEffect_of_statuses _ _ _
      ⟨110,
        .updateBookingStatus consultant 40
          ⟨.documentsRequired, .readyForTravel⟩,
        1⟩
      consultant 40 _ .documentsRequired .readyForTravel
      (by decide +kernel) rfl (by decide +kernel) (by decide +kernel)
      (by decide)
  exact
    atMostOne documentsRequired backToDocuments 90 110 (attemptDraws 90)
      (attemptDraws 110) ⟨.documentsRequired, .visaProcessing⟩
      ⟨.documentsRequired, .readyForTravel⟩ 40 rfl (by decide) first second

end Heritage.Journeys
