import Heritage.Bookings.Service

/-!
# The status panel of a booking

`BookingStatusTransitionPanel`: what it shows, what it sends and what it makes
of an answer.  The page hands it a status with the transitions allowed from
it, and may hand it others at any time.
-/

namespace Heritage.Bookings

open Heritage.Store
open Heritage.Payments (BookingStatus)

/-- `Object.values(BookingStatus)`. -/
def bookingStatuses : List BookingStatus :=
  [.draft, .pendingConfirmation, .confirmed, .inPreparation,
    .documentsRequired, .visaProcessing, .readyForTravel, .inProgress,
    .completed, .cancelled]

/-- The targets that the page passes to the panel. -/
def allowedTargets (status : BookingStatus) : List BookingStatus :=
  bookingStatuses.filter fun target => isTransitionAllowed status target

theorem mem_allowedTargets {status target : BookingStatus} :
    target ∈ allowedTargets status ↔ isTransitionAllowed status target := by
  have listed : target ∈ bookingStatuses := by
    cases target <;> decide
  simp [allowedTargets, listed]

/-- `lastTransition`, with its `from` and `to`. -/
structure LastTransition where
  source : BookingStatus
  target : BookingStatus
  deriving DecidableEq, Repr

structure StatusPanel where
  bookingId : Uuid
  currentStatus : BookingStatus
  allowedTargetStatuses : List BookingStatus
  /-- The selected option; `none` is the empty one. -/
  selectedStatus : Option BookingStatus
  submitting : Bool
  formError : Option String
  conflict : Bool
  lastTransition : Option LastTransition
  deriving DecidableEq, Repr

/-- What the panel makes of a response. -/
inductive PanelAnswer where
  /-- No response, or a body that is not JSON. -/
  | failed
  | succeeded (id : Uuid) (status : BookingStatus)
  | refused (isConflict : Bool) (message : String)

def genericErrorMessage : String :=
  "Something went wrong while updating this booking status. Please check " ++
    "your connection and try again."

/-- The response of the route to the result of the service. -/
def PanelAnswer.ofResult : Except TxError BookingRecord → PanelAnswer
  | .ok booking => .succeeded booking.id booking.status
  | .error (.booking error) =>
      .refused (error.code = .bookingConflict) error.message
  | .error (.uniqueViolation _ _) =>
      .refused false "An unexpected error occurred."

namespace StatusPanel

/-- A mounted panel. -/
def mount (bookingId : Uuid) (status : BookingStatus) : StatusPanel where
  bookingId := bookingId
  currentStatus := status
  allowedTargetStatuses := allowedTargets status
  selectedStatus := none
  submitting := false
  formError := none
  conflict := false
  lastTransition := none

/-- A later page has arrived. -/
def withStatus (status : BookingStatus) (panel : StatusPanel) : StatusPanel :=
  { panel with
    currentStatus := status
    allowedTargetStatuses := allowedTargets status }

def staleGuardActive (panel : StatusPanel) : Bool :=
  panel.lastTransition.any fun last => last.source = panel.currentStatus

def disabled (panel : StatusPanel) : Bool :=
  panel.submitting || panel.staleGuardActive

/-- The user chooses an option. -/
def select (option : Option BookingStatus) (panel : StatusPanel) :
    StatusPanel :=
  { panel with selectedStatus := option }

/-- The panel after a click on the button, and the body of the request it
sends, if any. -/
def handleSubmit (panel : StatusPanel) :
    StatusPanel × Option UpdateBookingStatusInput :=
  if panel.staleGuardActive then
    (panel, none)
  else
    match panel.selectedStatus with
    | none => (panel, none)
    | some newStatus =>
        if panel.submitting then
          (panel, none)
        else
          ({ panel with
              formError := none
              conflict := false
              submitting := true },
            some ⟨panel.currentStatus, newStatus⟩)

/-- The answer to the request `sent`. -/
def settle (sent : UpdateBookingStatusInput) (answer : PanelAnswer)
    (panel : StatusPanel) : StatusPanel :=
  match answer with
  | .failed =>
      { panel with submitting := false, formError := some genericErrorMessage }
  | .succeeded id status =>
      if id = panel.bookingId ∧ status = sent.newStatus then
        { panel with
          submitting := false
          lastTransition := some ⟨sent.expectedStatus, sent.newStatus⟩
          selectedStatus := none }
      else
        { panel with
          submitting := false
          formError := some genericErrorMessage }
  | .refused isConflict message =>
      { panel with
        submitting := false
        conflict := panel.conflict || isConflict
        formError := some message }

variable {panel after : StatusPanel} {input : UpdateBookingStatusInput}

/-- What is sent is the status shown with the option chosen. -/
theorem handleSubmit_sends
    (sends : panel.handleSubmit = (after, some input)) :
    panel.staleGuardActive = false ∧ panel.submitting = false ∧
      panel.selectedStatus = some input.newStatus ∧
      input.expectedStatus = panel.currentStatus ∧
      after =
        { panel with
          formError := none
          conflict := false
          submitting := true } := by
  unfold handleSubmit at sends
  split at sends
  · cases sends
  next unguarded =>
    split at sends
    · cases sends
    next newStatus chosen =>
      split at sends
      · cases sends
      next idle =>
        cases sends
        exact ⟨by simpa using unguarded, by simpa using idle, chosen, rfl, rfl⟩

theorem bookingId_settle {answer : PanelAnswer} :
    (panel.settle input answer).bookingId = panel.bookingId := by
  cases answer with
  | failed => rfl
  | succeeded id status =>
      unfold settle
      dsimp only
      split <;> rfl
  | refused isConflict message => rfl

theorem status_settle {answer : PanelAnswer} :
    (panel.settle input answer).currentStatus = panel.currentStatus ∧
      (panel.settle input answer).allowedTargetStatuses =
        panel.allowedTargetStatuses ∧
      (panel.settle input answer).submitting = false := by
  cases answer with
  | failed => exact ⟨rfl, rfl, rfl⟩
  | succeeded id status =>
      unfold settle
      dsimp only
      split <;> exact ⟨rfl, rfl, rfl⟩
  | refused isConflict message => exact ⟨rfl, rfl, rfl⟩

end StatusPanel

end Heritage.Bookings
