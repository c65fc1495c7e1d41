import Heritage.Bookings.StatusPanel
import Heritage.Journeys.Bookings

/-!
# Status panels at work

Any number of status panels on any bookings, with pages read at any time and
delivered late, requests that overlap, answers that are lost, and a server
that does whatever anybody asks of it in between.
-/

namespace Heritage.Journeys

open Heritage.Store
open Heritage.Bookings
open Heritage.Payments (Booking BookingStatus)

/-- A page that showed a booking's status, and the number of server steps
before it was read. -/
structure StatusPage where
  bookingId : Uuid
  status : BookingStatus
  readAt : Nat

/-- A mounted panel with the page it shows, the request it is waiting for, by
its place among the requests sent, and the server step that answered its last
success. -/
structure OpenPanel where
  panel : StatusPanel
  readAt : Nat
  waitingFor : Option Nat
  confirmedAt : Option Nat

/-- A request that a panel sent, with the options it offered. -/
structure SentUpdate where
  bookingId : Uuid
  input : UpdateBookingStatusInput
  offered : List BookingStatus
  readAt : Nat
  sentAt : Nat

/-- How the attempt of an update ended, and the number of server steps before
it. -/
structure EndedUpdate where
  servedAt : Nat
  id : Uuid
  input : UpdateBookingStatusInput
  result : Except Bookings.TxError BookingRecord

structure Tabs where
  /-- What the server has done so far. -/
  requests : List Request
  pages : List StatusPage
  panels : List OpenPanel
  sent : List SentUpdate
  answers : List EndedUpdate

/-- The answer of a server step that attempts a status update. -/
def endedUpdates (requests : List Request) : Request → List EndedUpdate
  | .attempt callId context =>
      match findBy WaitingCall.callId callId (stateAfter requests).waiting with
      | none => []
      | some waiting =>
          match waiting.call with
          | .updateBookingStatus actor id input =>
              [{ servedAt := requests.length
                 id := id
                 input := input
                 result :=
                   (updateBookingStatus context.toRequestContext actor id
                     input (databaseAfter requests).booking).1 }]
          | _ => []
  | _ => []

namespace Tabs

def withPanel (tabs : Tabs) (index : Nat) (entry : OpenPanel) : Tabs :=
  { tabs with panels := tabs.panels.set index entry }

/-- One thing that can happen. -/
inductive Step (tabs : Tabs) : Tabs → Prop where
  | pageRead (id : Uuid) (actor : BookingActor) (record : BookingRecord)
      (found :
        findBookingByIdForActor (databaseAfter tabs.requests).booking actor
            id =
          some record) :
      Step tabs
        { tabs with
          pages :=
            tabs.pages ++ [⟨id, record.status, tabs.requests.length⟩] }
  | mounted (page : StatusPage) (read : page ∈ tabs.pages) :
      Step tabs
        { tabs with
          panels :=
            tabs.panels ++
              [{ panel := .mount page.bookingId page.status
                 readAt := page.readAt
                 waitingFor := none
                 confirmedAt := none }] }
  | propsChanged (index : Nat) (entry : OpenPanel) (page : StatusPage)
      (found : tabs.panels[index]? = some entry) (read : page ∈ tabs.pages)
      (sameBooking : page.bookingId = entry.panel.bookingId) :
      Step tabs
        (tabs.withPanel index
          { entry with
            panel := entry.panel.withStatus page.status
            readAt := page.readAt })
  | selected (index : Nat) (entry : OpenPanel)
      (option : Option BookingStatus)
      (found : tabs.panels[index]? = some entry)
      (enabled : entry.panel.disabled = false)
      (offered :
        ∀ status ∈ option, status ∈ entry.panel.allowedTargetStatuses) :
      Step tabs
        (tabs.withPanel index
          { entry with panel := entry.panel.select option })
  | submitted (index : Nat) (entry : OpenPanel) (panel : StatusPanel)
      (input : UpdateBookingStatusInput)
      (found : tabs.panels[index]? = some entry)
      (hasForm : entry.panel.allowedTargetStatuses ≠ [])
      (sends : entry.panel.handleSubmit = (panel, some input)) :
      Step tabs
        { tabs.withPanel index
            { entry with
              panel := panel
              waitingFor := some tabs.sent.length } with
          sent :=
            tabs.sent ++
              [{ bookingId := entry.panel.bookingId
                 input := input
                 offered := entry.panel.allowedTargetStatuses
                 readAt := entry.readAt
                 sentAt := tabs.requests.length }] }
  | served (request : Request) :
      Step tabs
        { tabs with
          requests := tabs.requests ++ [request]
          answers := tabs.answers ++ endedUpdates tabs.requests request }
  | failed (index : Nat) (entry : OpenPanel) (request : Nat)
      (update : SentUpdate) (found : tabs.panels[index]? = some entry)
      (waiting : entry.waitingFor = some request)
      (sent : tabs.sent[request]? = some update) :
      Step tabs
        (tabs.withPanel index
          { entry with
            panel := entry.panel.settle update.input .failed
            waitingFor := none })
  | answered (index : Nat) (entry : OpenPanel) (request : Nat)
      (update : SentUpdate) (ended : EndedUpdate)
      (found : tabs.panels[index]? = some entry)
      (waiting : entry.waitingFor = some request)
      (sent : tabs.sent[request]? = some update)
      (isAnswer : ended ∈ tabs.answers)
      (sameBooking : ended.id = update.bookingId)
      (sameInput : ended.input = update.input)
      (inOrder : update.sentAt ≤ ended.servedAt) :
      Step tabs
        (tabs.withPanel index
          { entry with
            panel :=
              entry.panel.settle update.input (.ofResult ended.result)
            waitingFor := none
            confirmedAt :=
              match ended.result with
              | .ok _ => some ended.servedAt
              | .error _ => entry.confirmedAt })

inductive Reachable : Tabs → Prop where
  | start : Reachable ⟨[], [], [], [], []⟩
  | next {tabs after : Tabs} (before : Reachable tabs)
      (step : Step tabs after) : Reachable after

end Tabs

/-- The booking's status after the first `count` server steps. -/
def statusAt (requests : List Request) (count : Nat) (id : Uuid) :
    Option BookingStatus :=
  statusIn (databaseAfter (requests.take count)) id

section Statuses

variable {requests more : List Request} {id : Uuid}
  {status : BookingStatus}

theorem statusAt_append {count : Nat} (inTime : count ≤ requests.length) :
    statusAt (requests ++ more) count id = statusAt requests count id := by
  unfold statusAt
  rw [List.take_append_of_le_length inTime]

theorem statusAt_length :
    statusAt requests requests.length id =
      statusIn (databaseAfter requests) id := by
  unfold statusAt
  rw [List.take_length]

/-- A booking only moves along. -/
theorem reaches_later {early late : Nat} (order : early ≤ late)
    (before : statusAt requests early id = some status) :
    ∃ further, statusAt requests late id = some further ∧
      Reaches status further := by
  have grown :
      requests.take late =
        requests.take early ++ (requests.take late).drop early := by
    have prefixSame :
        (requests.take late).take early = requests.take early := by
      rw [List.take_take, min_eq_left order]
    rw [← prefixSame, List.take_append_drop]
  unfold statusAt
  rw [grown]
  exact statusIn_extends (databaseAfter_extends _ _) before

/-- A booking that came back to a status it had left has one of the two. -/
theorem isRevisited_of_return {left : BookingStatus}
    (goes : Reaches status left) (returns : Reaches left status)
    (moved : status ≠ left) : isRevisited status := by
  rcases Relation.ReflTransGen.cases_head goes with
    same | ⟨next, allowed, onward⟩
  · exact absurd same moved
  · exact isRevisited_of_cycle allowed (onward.trans returns)

end Statuses

section Results

variable {context : RequestContext} {actor : AuthenticatedUser} {id : Uuid}
  {input : UpdateBookingStatusInput} {database : Bookings.Database}
  {record : BookingRecord}

theorem status_of_found {bookingActor : BookingActor}
    (found : findBookingByIdForActor database bookingActor id = some record) :
    record.id = id ∧
      (findBy Booking.id id database.ledger.bookings).map Booking.status =
        some record.status := by
  obtain ⟨booking, kept, rfl⟩ := Option.map_eq_some_iff.mp found
  obtain ⟨foundBooking, -⟩ := Option.filter_eq_some_iff.mp kept
  have sameId : booking.id = id := key_of_findBy foundBooking
  refine ⟨sameId, ?_⟩
  rw [foundBooking]
  rfl

/-- A successful update returns the booking in the new status, and leaves it
in this status. -/
theorem updateBookingStatusTransaction_returns {bookingActor : BookingActor}
    {after : Bookings.Database}
    (succeeds :
      updateBookingStatusTransaction context bookingActor id input database =
        .ok (record, after)) :
    record.id = id ∧ record.status = input.newStatus ∧
      (findBy Booking.id id after.ledger.bookings).map Booking.status =
        some input.newStatus := by
  obtain ⟨found, finds, rest⟩ := bind_eq_ok.mp succeeds
  obtain ⟨sameId, stored⟩ := status_of_found (demand_eq_ok.mp finds)
  dsimp only at rest
  split at rest
  next already =>
    cases rest
    refine ⟨sameId, already, ?_⟩
    rw [stored, already]
  next =>
    simp only [bind_eq_ok, updateBookingStatusWithHistory,
      Except.ok.injEq] at rest
    obtain ⟨-, -, -, -, written, ⟨-, -, rfl⟩, returned⟩ := rest
    cases returned
    refine ⟨sameId, rfl, ?_⟩
    obtain ⟨booking, foundBooking, -⟩ := Option.map_eq_some_iff.mp stored
    have moved :=
      @findBy_updateBy_self _ _ _ Booking.id id
        (Payments.withBookingStatus input.newStatus)
        database.ledger.bookings booking (fun _ => rfl) foundBooking
    exact
      (congrArg (Option.map Booking.status) moved)

theorem updateBookingStatus_returns
    (succeeds :
      (updateBookingStatus context actor id input database).1 = .ok record) :
    record.id = id ∧ record.status = input.newStatus ∧
      (findBy Booking.id id
          (updateBookingStatus context actor id input
            database).2.ledger.bookings).map Booking.status =
        some input.newStatus := by
  unfold updateBookingStatus at succeeds ⊢
  cases checked : assertBookingActor actor with
  | error failure =>
      rw [checked] at succeeds
      cases succeeds
  | ok bookingActor =>
      rw [checked] at succeeds
      dsimp only at succeeds ⊢
      cases outcome :
          updateBookingStatusTransaction context bookingActor id input
            database with
      | error failure =>
          rw [transact_of_error outcome] at succeeds
          cases succeeds
      | ok result =>
          obtain ⟨returned, after⟩ := result
          rw [transact_of_ok outcome] at succeeds ⊢
          cases succeeds
          exact updateBookingStatusTransaction_returns outcome

/-- An offered transition succeeds while the booking has the status that the
panel shows. -/
theorem updateBookingStatus_honoured {bookingActor : BookingActor}
    {target : BookingStatus}
    (isActor : assertBookingActor actor = .ok bookingActor)
    (found : findBookingByIdForActor database bookingActor id = some record)
    (offered : isTransitionAllowed record.status target)
    (fresh :
      findBy BookingStatusHistory.id (context.randomUuid 0)
          database.statusHistory =
        none) :
    (updateBookingStatus context actor id ⟨record.status, target⟩
        database).1 =
      .ok { record with status := target } := by
  have different : record.status ≠ target := by
    intro same
    rw [← same, not_allowed_self] at offered
    cases offered
  have succeeds :
      ∃ after,
        updateBookingStatusTransaction context bookingActor id
            ⟨record.status, target⟩ database =
          .ok ({ record with status := target }, after) := by
    simp [updateBookingStatusTransaction, found, demand, different, require,
      offered, updateBookingStatusWithHistory, fresh]
  obtain ⟨after, outcome⟩ := succeeds
  simp only [updateBookingStatus, isActor, transact_of_ok outcome]

end Results

/-! ## What is shown was stored -/

/-- The booking had the status after so many server steps. -/
def Had (requests : List Request) (count : Nat) (id : Uuid)
    (status : BookingStatus) : Prop :=
  count ≤ requests.length ∧ statusAt requests count id = some status

theorem Had.grow {requests more : List Request} {count : Nat} {id : Uuid}
    {status : BookingStatus} (had : Had requests count id status) :
    Had (requests ++ more) count id status := by
  obtain ⟨inTime, status⟩ := had
  refine ⟨inTime.trans (by simp), ?_⟩
  rw [statusAt_append inTime]
  exact status

/-- What a panel remembers: the booking had the one status before it had the
other. -/
def Remembers (requests : List Request) (id : Uuid)
    (confirmedAt : Option Nat) (last : LastTransition) : Prop :=
  ∃ readAt servedAt,
    confirmedAt = some servedAt ∧ readAt ≤ servedAt ∧
      Had requests readAt id last.source ∧
        Had requests (servedAt + 1) id last.target

structure PanelSound (requests : List Request) (sent : List SentUpdate)
    (entry : OpenPanel) : Prop where
  shown :
    Had requests entry.readAt entry.panel.bookingId entry.panel.currentStatus
  targets :
    entry.panel.allowedTargetStatuses =
      allowedTargets entry.panel.currentStatus
  waiting :
    ∀ request, entry.waitingFor = some request →
      ∃ update,
        sent[request]? = some update ∧
          update.bookingId = entry.panel.bookingId
  last :
    ∀ last, entry.panel.lastTransition = some last →
      Remembers requests entry.panel.bookingId entry.confirmedAt last

structure UpdateSound (requests : List Request) (update : SentUpdate) :
    Prop where
  shown :
    Had requests update.readAt update.bookingId update.input.expectedStatus
  inOrder : update.readAt ≤ update.sentAt
  offered : update.offered = allowedTargets update.input.expectedStatus

/-- A success left the booking in the status it was asked for. -/
def EndedSound (requests : List Request) (ended : EndedUpdate) : Prop :=
  ∀ record, ended.result = .ok record →
    record.id = ended.id ∧ record.status = ended.input.newStatus ∧
      Had requests (ended.servedAt + 1) ended.id ended.input.newStatus

namespace Tabs

structure Sound (tabs : Tabs) : Prop where
  pages :
    ∀ page ∈ tabs.pages,
      Had tabs.requests page.readAt page.bookingId page.status
  panels : ∀ entry ∈ tabs.panels, PanelSound tabs.requests tabs.sent entry
  sent :
    ∀ update ∈ tabs.sent,
      UpdateSound tabs.requests update ∧
        update.sentAt ≤ tabs.requests.length
  answers : ∀ ended ∈ tabs.answers, EndedSound tabs.requests ended

theorem sound_start : Sound ⟨[], [], [], [], []⟩ where
  pages := fun _ member => absurd member List.not_mem_nil
  panels := fun _ member => absurd member List.not_mem_nil
  sent := fun _ member => absurd member List.not_mem_nil
  answers := fun _ member => absurd member List.not_mem_nil

end Tabs

theorem Remembers.grow {requests more : List Request} {id : Uuid}
    {confirmedAt : Option Nat} {last : LastTransition}
    (remembers : Remembers requests id confirmedAt last) :
    Remembers (requests ++ more) id confirmedAt last := by
  obtain ⟨readAt, servedAt, confirmed, order, before, after⟩ := remembers
  exact ⟨readAt, servedAt, confirmed, order, before.grow, after.grow⟩

theorem PanelSound.grow {requests more : List Request}
    {sent : List SentUpdate} {entry : OpenPanel}
    (sound : PanelSound requests sent entry) :
    PanelSound (requests ++ more) sent entry where
  shown := sound.shown.grow
  targets := sound.targets
  waiting := sound.waiting
  last := fun last remembered => (sound.last last remembered).grow

theorem PanelSound.more_sent {requests : List Request}
    {sent more : List SentUpdate} {entry : OpenPanel}
    (sound : PanelSound requests sent entry) :
    PanelSound requests (sent ++ more) entry :=
  { sound with
    waiting := by
      intro request waits
      obtain ⟨update, isSent, own⟩ := sound.waiting request waits
      obtain ⟨inRange, -⟩ := List.getElem?_eq_some_iff.mp isSent
      refine ⟨update, ?_, own⟩
      rw [List.getElem?_append_left inRange, isSent] }

theorem UpdateSound.grow {requests more : List Request}
    {update : SentUpdate} (sound : UpdateSound requests update) :
    UpdateSound (requests ++ more) update where
  shown := sound.shown.grow
  inOrder := sound.inOrder
  offered := sound.offered

theorem EndedSound.grow {requests more : List Request} {ended : EndedUpdate}
    (sound : EndedSound requests ended) :
    EndedSound (requests ++ more) ended := by
  intro record succeeds
  obtain ⟨sameId, sameStatus, had⟩ := sound record succeeds
  exact ⟨sameId, sameStatus, had.grow⟩

/-- What a server step answers holds from then on. -/
theorem endedSound_of_step {requests : List Request} {request : Request}
    {ended : EndedUpdate}
    (isAnswer : ended ∈ endedUpdates requests request) :
    EndedSound (requests ++ [request]) ended := by
  cases request with
  | attempt callId context =>
      unfold endedUpdates at isAnswer
      dsimp only at isAnswer
      cases found :
          findBy WaitingCall.callId callId (stateAfter requests).waiting with
      | none =>
          rw [found] at isAnswer
          exact absurd isAnswer List.not_mem_nil
      | some waiting =>
          rw [found] at isAnswer
          dsimp only at isAnswer
          cases isCall : waiting.call with
          | updateBookingStatus actor id input =>
              rw [isCall] at isAnswer
              rw [List.mem_singleton.mp isAnswer]
              intro record succeeds
              obtain ⟨sameId, sameStatus, stored⟩ :=
                updateBookingStatus_returns succeeds
              refine ⟨sameId, sameStatus, by simp, ?_⟩
              have atEnd :
                  requests.length + 1 =
                    (requests ++ [Request.attempt callId context]).length := by
                simp
              dsimp only
              rw [atEnd, statusAt_length, databaseAfter_concat,
                step_attempt_database found, isCall]
              exact stored
          | _ =>
              rw [isCall] at isAnswer
              exact absurd isAnswer List.not_mem_nil
  | _ =>
      exact absurd isAnswer List.not_mem_nil

namespace Tabs

variable {tabs after : Tabs}

theorem Sound.withPanel {entry : OpenPanel} (sound : Sound tabs)
    (index : Nat) (panelSound : PanelSound tabs.requests tabs.sent entry) :
    Sound (tabs.withPanel index entry) :=
  { sound with
    panels := by
      intro other member
      rcases List.mem_or_eq_of_mem_set member with old | rfl
      · exact sound.panels other old
      · exact panelSound }

theorem Sound.served (sound : Sound tabs) (request : Request) :
    Sound
      { tabs with
        requests := tabs.requests ++ [request]
        answers := tabs.answers ++ endedUpdates tabs.requests request } where
  pages := fun page member => (sound.pages page member).grow
  panels := fun entry member => (sound.panels entry member).grow
  sent := by
    intro update member
    obtain ⟨updateSound, inTime⟩ := sound.sent update member
    exact ⟨updateSound.grow, inTime.trans (by simp)⟩
  answers := by
    intro ended member
    rcases List.mem_append.mp member with old | new
    · exact (sound.answers ended old).grow
    · exact endedSound_of_step new

theorem Sound.submitted {index : Nat} {entry : OpenPanel}
    {panel : StatusPanel} {input : UpdateBookingStatusInput}
    (sound : Sound tabs) (found : tabs.panels[index]? = some entry)
    (sends : entry.panel.handleSubmit = (panel, some input)) :
    Sound
      { tabs.withPanel index
          { entry with
            panel := panel
            waitingFor := some tabs.sent.length } with
        sent :=
          tabs.sent ++
            [{ bookingId := entry.panel.bookingId
               input := input
               offered := entry.panel.allowedTargetStatuses
               readAt := entry.readAt
               sentAt := tabs.requests.length }] } := by
  have entrySound := sound.panels entry (List.mem_of_getElem? found)
  obtain ⟨-, -, -, expected, rfl⟩ := StatusPanel.handleSubmit_sends sends
  refine ⟨sound.pages, ?_, ?_, sound.answers⟩
  · intro other member
    rcases List.mem_or_eq_of_mem_set member with old | rfl
    · exact (sound.panels other old).more_sent
    · exact
        { shown := entrySound.shown
          targets := entrySound.targets
          waiting := by
            intro request waits
            cases waits
            exact ⟨_, List.getElem?_concat_length, rfl⟩
          last := entrySound.last }
  · intro update member
    rcases List.mem_append.mp member with old | new
    · exact sound.sent update old
    · rw [List.mem_singleton.mp new]
      refine ⟨⟨?_, entrySound.shown.1, ?_⟩, le_rfl⟩
      · rw [expected]
        exact entrySound.shown
      · rw [expected]
        exact entrySound.targets

/-- An answer to a panel's own request. -/
theorem Sound.answered {index request : Nat} {entry : OpenPanel}
    {update : SentUpdate} {ended : EndedUpdate} (sound : Sound tabs)
    (found : tabs.panels[index]? = some entry)
    (waiting : entry.waitingFor = some request)
    (sent : tabs.sent[request]? = some update)
    (isAnswer : ended ∈ tabs.answers)
    (sameBooking : ended.id = update.bookingId)
    (sameInput : ended.input = update.input)
    (inOrder : update.sentAt ≤ ended.servedAt) :
    PanelSound tabs.requests tabs.sent
      { entry with
        panel := entry.panel.settle update.input (.ofResult ended.result)
        waitingFor := none
        confirmedAt :=
          match ended.result with
          | .ok _ => some ended.servedAt
          | .error _ => entry.confirmedAt } := by
  have entrySound := sound.panels entry (List.mem_of_getElem? found)
  obtain ⟨own, isOwn, ofBooking⟩ := entrySound.waiting request waiting
  obtain rfl : own = update := Option.some.inj (isOwn.symm.trans sent)
  obtain ⟨updateSound, -⟩ :=
    sound.sent own (List.mem_of_getElem? sent)
  have sameId : ended.id = entry.panel.bookingId :=
    sameBooking.trans ofBooking
  obtain ⟨sameStatus, sameTargets, -⟩ :=
    @StatusPanel.status_settle entry.panel own.input (.ofResult ended.result)
  refine ⟨?_, ?_, ?_, ?_⟩
  · dsimp only
    rw [StatusPanel.bookingId_settle, sameStatus]
    exact entrySound.shown
  · dsimp only
    rw [sameStatus, sameTargets]
    exact entrySound.targets
  · intro other waits
    cases waits
  · intro last remembered
    dsimp only at remembered ⊢
    rw [StatusPanel.bookingId_settle]
    cases result : ended.result with
    | error failure =>
        rw [result] at remembered
        have unchanged :
            (entry.panel.settle own.input
                (.ofResult (.error failure))).lastTransition =
              entry.panel.lastTransition := by
          cases failure with
          | booking error => rfl
          | uniqueViolation modelName fields => rfl
        rw [unchanged] at remembered
        exact entrySound.last last remembered
    | ok record =>
        obtain ⟨isBooking, isStatus, had⟩ :=
          sound.answers ended isAnswer record result
        rw [result] at remembered
        have confirmed :
            (entry.panel.settle own.input
                (.ofResult (.ok record))).lastTransition =
              some ⟨own.input.expectedStatus, own.input.newStatus⟩ := by
          have named : record.id = entry.panel.bookingId :=
            isBooking.trans sameId
          have moved : record.status = own.input.newStatus := by
            rw [isStatus, sameInput]
          simp [StatusPanel.settle, PanelAnswer.ofResult, named, moved]
        rw [confirmed] at remembered
        cases remembered
        rw [sameId, sameInput] at had
        have shown := updateSound.shown
        rw [ofBooking] at shown
        exact
          ⟨own.readAt, ended.servedAt, rfl,
            updateSound.inOrder.trans inOrder, shown, had⟩

theorem Sound.step (sound : Sound tabs) (step : Step tabs after) :
    Sound after := by
  cases step with
  | pageRead id actor record found =>
      refine { sound with pages := ?_ }
      intro page member
      rcases List.mem_append.mp member with old | new
      · exact sound.pages page old
      · rw [List.mem_singleton.mp new]
        refine ⟨le_rfl, ?_⟩
        dsimp only
        rw [statusAt_length]
        exact (status_of_found found).2
  | mounted page read =>
      refine { sound with panels := ?_ }
      intro entry member
      rcases List.mem_append.mp member with old | new
      · exact sound.panels entry old
      · rw [List.mem_singleton.mp new]
        exact
          { shown := sound.pages page read
            targets := rfl
            waiting := by
              intro request waits
              cases waits
            last := by
              intro last remembered
              cases remembered }
  | propsChanged index entry page found read sameBooking =>
      have entrySound := sound.panels entry (List.mem_of_getElem? found)
      have shown := sound.pages page read
      rw [sameBooking] at shown
      exact
        sound.withPanel index
          { shown := shown
            targets := rfl
            waiting := entrySound.waiting
            last := entrySound.last }
  | selected index entry option found enabled offered =>
      have entrySound := sound.panels entry (List.mem_of_getElem? found)
      exact
        sound.withPanel index
          { shown := entrySound.shown
            targets := entrySound.targets
            waiting := entrySound.waiting
            last := entrySound.last }
  | submitted index entry panel input found hasForm sends =>
      exact sound.submitted found sends
  | served request =>
      exact sound.served request
  | failed index entry request update found waiting sent =>
      have entrySound := sound.panels entry (List.mem_of_getElem? found)
      exact
        sound.withPanel index
          { shown := entrySound.shown
            targets := entrySound.targets
            waiting := by
              intro other waits
              cases waits
            last := entrySound.last }
  | answered index entry request update ended found waiting sent isAnswer
      sameBooking sameInput inOrder =>
      exact
        sound.withPanel index
          (sound.answered found waiting sent isAnswer sameBooking sameInput
            inOrder)

theorem Reachable.sound (reachable : Reachable tabs) : Sound tabs := by
  induction reachable with
  | start =>
      exact sound_start
  | next _ step inductionHypothesis =>
      exact inductionHypothesis.step step

/-- How the panels and the server fit together. -/
structure PanelsFit (tabs : Tabs) : Prop where
  /-- What takes effect was offered for the status that was shown. -/
  offered :
    ∀ update ∈ tabs.sent, ∀ earlier callId context later,
      tabs.requests = earlier ++ .attempt callId context :: later →
        TakesEffect (stateAfter earlier) callId context update.bookingId
            update.input →
          Had tabs.requests update.readAt update.bookingId
              update.input.expectedStatus ∧
            statusIn (databaseAfter earlier) update.bookingId =
                some update.input.expectedStatus ∧
              update.input.newStatus ∈ update.offered
  /-- What is offered succeeds as long as the status is the one shown. -/
  honoured :
    ∀ entry ∈ tabs.panels, ∀ target ∈ entry.panel.allowedTargetStatuses,
      ∀ context actor bookingActor record,
        assertBookingActor actor = .ok bookingActor →
          findBookingByIdForActor (databaseAfter tabs.requests).booking
                bookingActor entry.panel.bookingId =
              some record →
            record.status = entry.panel.currentStatus →
              findBy BookingStatusHistory.id (context.randomUuid 0)
                    (databaseAfter tabs.requests).booking.statusHistory =
                  none →
                (updateBookingStatus context actor entry.panel.bookingId
                      ⟨entry.panel.currentStatus, target⟩
                      (databaseAfter tabs.requests).booking).1 =
                  .ok { record with status := target }
  /-- A page read after the last success unblocks the panel, unless this
  success left the status as it was, or the booking came back to it. -/
  unblocked :
    ∀ entry ∈ tabs.panels, ∀ servedAt,
      entry.confirmedAt = some servedAt → servedAt < entry.readAt →
        entry.panel.staleGuardActive = false ∨
          ∃ last,
            entry.panel.lastTransition = some last ∧
              last.source = entry.panel.currentStatus ∧
                (last.target = last.source ∨ isRevisited last.source)

theorem unblocked_of_sound {entry : OpenPanel} {servedAt : Nat}
    {requests : List Request} {sent : List SentUpdate}
    (sound : PanelSound requests sent entry)
    (confirmed : entry.confirmedAt = some servedAt)
    (later : servedAt < entry.readAt) :
    entry.panel.staleGuardActive = false ∨
      ∃ last,
        entry.panel.lastTransition = some last ∧
          last.source = entry.panel.currentStatus ∧
            (last.target = last.source ∨ isRevisited last.source) := by
  cases remembered : entry.panel.lastTransition with
  | none =>
      left
      rw [StatusPanel.staleGuardActive, remembered]
      rfl
  | some last =>
      by_cases shows : last.source = entry.panel.currentStatus
      · refine Or.inr ⟨last, rfl, shows, ?_⟩
        obtain ⟨readAt, confirmedAt, isConfirmed, order, before, after⟩ :=
          sound.last last remembered
        obtain rfl : confirmedAt = servedAt :=
          Option.some.inj (isConfirmed.symm.trans confirmed)
        by_cases moved : last.source = last.target
        · exact Or.inl moved.symm
        · right
          obtain ⟨middle, atServed, goes⟩ :=
            reaches_later (Nat.le_succ_of_le order) before.2
          obtain rfl : last.target = middle :=
            Option.some.inj (after.2.symm.trans atServed)
          obtain ⟨finish, atRead, returns⟩ := reaches_later later after.2
          have shown := sound.shown.2
          rw [← shows] at shown
          obtain rfl : last.source = finish :=
            Option.some.inj (shown.symm.trans atRead)
          exact isRevisited_of_return goes returns moved
      · left
        simp [StatusPanel.staleGuardActive, remembered, shows]

/-- The server does something while nothing happens in the tabs. -/
theorem exists_reachable_served (reachable : Reachable tabs)
    (more : List Request) :
    ∃ answers,
      Reachable
        { tabs with
          requests := tabs.requests ++ more
          answers := tabs.answers ++ answers } := by
  induction more generalizing tabs with
  | nil =>
      refine ⟨[], ?_⟩
      rw [List.append_nil, List.append_nil]
      exact reachable
  | cons request rest inductionHypothesis =>
      obtain ⟨answers, served⟩ :=
        inductionHypothesis (reachable.next (.served request))
      refine ⟨endedUpdates tabs.requests request ++ answers, ?_⟩
      dsimp only at served
      rw [List.append_assoc, List.append_assoc, List.singleton_append]
        at served
      exact served

def consultantActor : BookingActor := ⟨1, .travelConsultant⟩

/-- The panel of booking 40 before its submission. -/
def documentsPanel : OpenPanel where
  panel :=
    (StatusPanel.mount 40 .documentsRequired).select (some .visaProcessing)
  readAt := documentsRequired.length
  waitingFor := none
  confirmedAt := none

/-- The panel sends the call that waits at the end of `documentsRequired`. -/
def visaUpdate : SentUpdate where
  bookingId := 40
  input := ⟨.documentsRequired, .visaProcessing⟩
  offered := allowedTargets .documentsRequired
  readAt := documentsRequired.length
  sentAt := documentsRequired.length

theorem visa_offered :
    ∀ status ∈ some BookingStatus.visaProcessing,
      status ∈ allowedTargets .documentsRequired := by
  decide

theorem exists_reachable_sent :
    ∃ answers,
      Reachable
        { requests := documentsRequired
          pages := [⟨40, .documentsRequired, documentsRequired.length⟩]
          panels :=
            [{ documentsPanel with
               panel := documentsPanel.panel.handleSubmit.1
               waitingFor := some 0 }]
          sent := [visaUpdate]
          answers := answers } := by
  obtain ⟨answers, served⟩ :=
    exists_reachable_served Reachable.start documentsRequired
  have stored :
      (findBookingByIdForActor (databaseAfter documentsRequired).booking
          consultantActor 40).map BookingRecord.status =
        some .documentsRequired := by
    decide +kernel
  obtain ⟨record, found, sameStatus⟩ := Option.map_eq_some_iff.mp stored
  have read := served.next (.pageRead 40 consultantActor record found)
  rw [sameStatus] at read
  have mounted := read.next (.mounted _ (List.mem_singleton.mpr rfl))
  have selected :=
    mounted.next
      (.selected 0 _ (some .visaProcessing) rfl rfl visa_offered)
  have submitted :=
    selected.next
      (.submitted 0 documentsPanel documentsPanel.panel.handleSubmit.1
        visaUpdate.input rfl (by decide) rfl)
  exact ⟨_, submitted⟩

/-- How the panel's own attempt ends. -/
def visaEnded : EndedUpdate where
  servedAt := documentsRequired.length
  id := 40
  input := visaUpdate.input
  result :=
    (updateBookingStatus (attemptDraws 90).toRequestContext consultant 40
      visaUpdate.input (databaseAfter documentsRequired).booking).1

theorem visa_ended :
    visaEnded ∈
      endedUpdates documentsRequired (.attempt 90 (attemptDraws 90)) := by
  have found :
      findBy WaitingCall.callId 90 (stateAfter documentsRequired).waiting =
        some
          ⟨90, .updateBookingStatus consultant 40 visaUpdate.input, 1⟩ := by
    decide +kernel
  simp only [endedUpdates, found]
  exact List.mem_singleton.mpr rfl

/-- The panel after the answer. -/
def confirmedPanel : OpenPanel where
  panel :=
    { StatusPanel.mount 40 .documentsRequired with
      lastTransition := some ⟨.documentsRequired, .visaProcessing⟩ }
  readAt := documentsRequired.length
  waitingFor := none
  confirmedAt := some documentsRequired.length

theorem visa_settled :
    documentsPanel.panel.handleSubmit.1.settle visaUpdate.input
        (.ofResult visaEnded.result) =
      confirmedPanel.panel := by
  decide +kernel

theorem visa_confirmed :
    (match visaEnded.result with
      | .ok _ => some visaEnded.servedAt
      | .error _ => none) =
      confirmedPanel.confirmedAt := by
  decide +kernel

theorem exists_reachable_confirmed :
    ∃ answers,
      Reachable
        { requests := documentsRequired ++ [.attempt 90 (attemptDraws 90)]
          pages := [⟨40, .documentsRequired, documentsRequired.length⟩]
          panels := [confirmedPanel]
          sent := [visaUpdate]
          answers := answers } := by
  obtain ⟨answers, sent⟩ := exists_reachable_sent
  have served := sent.next (.served (.attempt 90 (attemptDraws 90)))
  have answered :=
    served.next
      (.answered 0 _ 0 visaUpdate visaEnded rfl rfl rfl
        (List.mem_append_right _ visa_ended) rfl rfl le_rfl)
  have shape :
      OpenPanel.mk
          (documentsPanel.panel.handleSubmit.1.settle visaUpdate.input
            (.ofResult visaEnded.result))
          documentsRequired.length none
          (match visaEnded.result with
            | .ok _ => some visaEnded.servedAt
            | .error _ => none) =
        confirmedPanel := by
    rw [visa_settled, visa_confirmed]
    rfl
  refine
    ⟨answers ++
        endedUpdates documentsRequired (.attempt 90 (attemptDraws 90)), ?_⟩
  rw [← shape]
  exact answered

end Tabs

end Heritage.Journeys
