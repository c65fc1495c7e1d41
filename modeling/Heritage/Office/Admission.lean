import Heritage.Office.System

/-!
# Who waits

A call waits with the actor that its first checks admitted, and it goes on
with that actor after every attempt.
-/

namespace Heritage.Office

open Heritage.Store
open Heritage.Proposals (assertProposalAuthorActor assertProposalViewerActor)
open Heritage.Bookings (assertBookingActor)

/-- What the first checks of a waiting call found out about its user. -/
def Admitted (user : AuthenticatedUser) : Call → Prop
  | .clients (.createLead leadActor _ _) =>
      Leads.assertLeadActor user = .ok leadActor
  | .clients (.updateLead prepared) =>
      Leads.assertLeadActor user = .ok prepared.leadActor
  | .clients (.updateLeadStatus leadActor _ _) =>
      Leads.assertLeadActor user = .ok leadActor
  | .clients (.convertLead leadActor _ _) =>
      Leads.assertLeadActor user = .ok leadActor
  | .clients (.updateClient actor clientActor _ _) =>
      actor = user ∧ Clients.assertClientActor user = .ok clientActor
  | .journeys (.author author _) _ =>
      assertProposalAuthorActor user = .ok author
  | .journeys (.recordProposalResponse actor _ _) _ =>
      assertProposalViewerActor user = .ok actor
  | .journeys (.submitClientProposalResponse actor _ _) _ =>
      actor = user ∧ user.role = .client
  | .journeys (.createBooking actor _) _ =>
      assertBookingActor user = .ok actor
  | .journeys (.readRaced actor _) _ =>
      assertBookingActor user = .ok actor
  | .journeys (.updateBookingStatus actor _ _) _ =>
      actor = user
  | .invitation _ =>
      user.role ≠ .financeAccounting
  | .payment _ =>
      True

variable {platform : Invitations.Platform} {user : AuthenticatedUser}
  {call : Call}

theorem toOption_eq_some {ε α : Type} {result : Except ε α} {value : α} :
    result.toOption = some value ↔ result = .ok value := by
  cases result with
  | error failure => simp [Except.toOption]
  | ok found => simp [Except.toOption]

theorem admitted_of_admitLead {tables : Leads.Tables} {id : Uuid}
    {leadActor : Leads.Repository.LeadActor}
    (admits : Clients.admitLead tables user id = .ok leadActor) :
    Leads.assertLeadActor user = .ok leadActor := by
  simp only [Clients.admitLead, bind_eq_ok, require_eq_ok,
    exists_const] at admits
  obtain ⟨found, isActor, -, same⟩ := admits
  rw [isActor]
  exact same

theorem admitted_of_read {strings : StringPlatform} {id : Uuid}
    {input : Leads.UpdateLeadRequest} {tables : Leads.Tables}
    {prepared : Leads.PreparedUpdate}
    (read :
      Leads.readLeadForUpdate strings user id input tables =
        .ok (.write prepared)) :
    Leads.assertLeadActor user = .ok prepared.leadActor := by
  simp only [Leads.readLeadForUpdate, bind_eq_ok, require_eq_ok,
    demand_eq_ok, exists_const] at read
  obtain ⟨leadActor, isActor, -, existing, -, -, -, prepares⟩ := read
  split at prepares
  · cases prepares
  · simp only [Except.ok.injEq, Leads.UpdateReading.write.injEq] at prepares
    rw [← prepares]
    exact isActor

theorem admitted_clients {strings : StringPlatform} {tables : Leads.Tables}
    {operation : Clients.Operation} {waiting : Clients.Waiting}
    (admits :
      Clients.admitOperation strings user tables operation = some waiting) :
    Admitted user (.clients waiting) := by
  cases operation with
  | createLead input =>
      simp only [Clients.admitOperation, Option.map_eq_some_iff,
        toOption_eq_some] at admits
      obtain ⟨leadActor, isActor, rfl⟩ := admits
      exact isActor
  | updateLead id input =>
      simp only [Clients.admitOperation] at admits
      split at admits
      next read =>
        cases admits
        exact admitted_of_read read
      · cases admits
  | updateLeadStatus id input =>
      simp only [Clients.admitOperation, Option.map_eq_some_iff,
        toOption_eq_some] at admits
      obtain ⟨leadActor, admitted, rfl⟩ := admits
      exact admitted_of_admitLead admitted
  | convertLead id input =>
      simp only [Clients.admitOperation, Option.ite_none_right_eq_some,
        Option.map_eq_some_iff, toOption_eq_some] at admits
      obtain ⟨-, leadActor, admitted, rfl⟩ := admits
      exact admitted_of_admitLead admitted
  | updateClient id input =>
      simp only [Clients.admitOperation, Option.map_eq_some_iff, toOption_eq_some,
        Clients.admitUpdate, bind_eq_ok, require_eq_ok,
        exists_const] at admits
      obtain ⟨clientActor, ⟨found, isActor, -, same⟩, rfl⟩ := admits
      refine ⟨rfl, ?_⟩
      rw [isActor]
      exact same

theorem admitted_journeys {database : Journeys.Database}
    {operation : Journeys.Operation} {waiting : Journeys.Call}
    (admits :
      Journeys.firstChecks user operation database = some waiting)
    (number : Nat) :
    Admitted user (.journeys waiting number) := by
  cases operation with
  | author operation =>
      simp only [Journeys.firstChecks, toOption_eq_some, bind_eq_ok,
        Except.ok.injEq] at admits
      obtain ⟨author, isAuthor, -, -, rfl⟩ := admits
      exact isAuthor
  | recordProposalResponse versionId input =>
      simp only [Journeys.firstChecks, Option.map_eq_some_iff,
        toOption_eq_some, Proposals.recordProposalResponseChecks, bind_eq_ok,
        demand_eq_ok, require_eq_ok] at admits
      obtain ⟨proposalActor, ⟨found, isViewer, -, -, -, -, same⟩, rfl⟩ :=
        admits
      have sameActor : found = proposalActor := by
        simpa using same
      rw [sameActor] at isViewer
      exact isViewer
  | submitClientProposalResponse input =>
      simp only [Journeys.firstChecks, Option.map_eq_some_iff,
        toOption_eq_some, Proposals.submitClientProposalResponseChecks,
        Proposals.assertClientPortalActor, bind_eq_ok,
        require_eq_ok] at admits
      obtain ⟨ownedClientId, ⟨-, isClient, -⟩, rfl⟩ := admits
      exact ⟨rfl, isClient⟩
  | createBooking input =>
      simp only [Journeys.firstChecks, Option.map_eq_some_iff,
        toOption_eq_some] at admits
      obtain ⟨bookingActor, isActor, rfl⟩ := admits
      exact isActor
  | updateBookingStatus id input =>
      simp only [Journeys.firstChecks, Option.some.injEq] at admits
      rw [← admits]
      rfl

/-- A Finance user has no access to clients. -/
theorem notFinance_of_canAccessClient {rows : List StaffAssignment}
    {profiles : List ClientProfile} {clientId : Uuid}
    (access : canAccessClient rows profiles user clientId) :
    user.role ≠ .financeAccounting := by
  intro finance
  simp [canAccessClient, finance] at access

theorem admitted_of_admit {database : Database} {operation : Operation}
    (admits : admitOperation platform database user operation = some call) :
    Admitted user call := by
  cases operation with
  | clients operation =>
      simp only [admitOperation, Option.map_eq_some_iff] at admits
      obtain ⟨waiting, admitted, rfl⟩ := admits
      exact admitted_clients admitted
  | journeys operation =>
      simp only [admitOperation, Option.map_eq_some_iff] at admits
      obtain ⟨waiting, admitted, rfl⟩ := admits
      exact admitted_journeys admitted 1
  | invitation operation =>
      simp only [admitOperation, Option.ite_none_right_eq_some, Option.some.injEq,
        admitInvitation, Bool.and_eq_true] at admits
      obtain ⟨⟨access, -⟩, rfl⟩ := admits
      exact notFinance_of_canAccessClient access
  | payment operation =>
      simp only [admitOperation, Option.some.injEq] at admits
      rw [← admits]
      trivial

/-- A journey goes on as the call it was, or reads the booking of the one that
came first. -/
theorem admitted_continuation {waiting next : Journeys.WaitingCall}
    {answer : Journeys.Answer}
    (continues : Journeys.continuation waiting answer = some next)
    (admitted : Admitted user (.journeys waiting.call waiting.attempt)) :
    Admitted user (.journeys next.call next.attempt) := by
  unfold Journeys.continuation at continues
  split at continues
  · cases continues
    cases shape : waiting.call with
    | _ =>
        rw [shape] at admitted
        exact admitted
  · cases continues
    cases shape : waiting.call with
    | _ =>
        rw [shape] at admitted
        exact admitted
  · split at continues
    next isCreation =>
      cases continues
      rw [isCreation] at admitted
      exact admitted
    · cases continues
  · cases continues

theorem admitted_next {context : Journeys.AttemptContext} {rawToken : String}
    {database : Database} {next : Call}
    (continues :
      (attempt platform context rawToken database user call).next =
        some next)
    (admitted : Admitted user call) :
    Admitted user next := by
  cases call with
  | journeys waiting number =>
      simp only [attempt, Option.map_eq_some_iff] at continues
      obtain ⟨continued, follows, rfl⟩ := continues
      exact admitted_continuation follows admitted
  | clients waiting =>
      cases continues
  | invitation operation =>
      cases continues
  | payment operation =>
      cases continues

/-- Every waiting call was admitted for its actor. -/
def AllAdmitted (state : State) : Prop :=
  ∀ waiting ∈ state.waiting, Admitted waiting.actor waiting.call

theorem step_admitted (state : State) (request : Request)
    (earlier : AllAdmitted state) :
    AllAdmitted (step platform state request) := by
  intro waiting member
  cases request with
  | call actor operation =>
      rcases List.mem_append.mp member with old | new
      · exact earlier waiting old
      · obtain ⟨call, admits, rfl⟩ :=
          Option.map_eq_some_iff.mp (Option.mem_toList.mp new)
        exact admitted_of_admit admits
  | attempt context rawToken index =>
      simp only [step, act] at member
      cases found : state.waiting[index]? with
      | none =>
          rw [found] at member
          exact earlier waiting member
      | some current =>
          rw [found] at member
          dsimp only at member
          split at member
          · exact earlier waiting (List.mem_of_mem_eraseIdx member)
          next call continues =>
            rcases List.mem_or_eq_of_mem_set member with old | rfl
            · exact earlier waiting old
            · exact
                admitted_next continues
                  (earlier current (List.mem_of_getElem? found))
  | _ =>
      exact earlier waiting member

/-- In every reachable state the waiting calls were admitted for their
actors. -/
theorem stateAfter_admitted (platform : Invitations.Platform)
    (requests : List Request) :
    AllAdmitted (stateAfter platform requests) := by
  unfold stateAfter
  apply
    @run_invariant _ _ (step platform) AllAdmitted State.initial
  · intro waiting member
    exact absurd member List.not_mem_nil
  · intro state request earlier
    exact step_admitted state request earlier

end Heritage.Office
