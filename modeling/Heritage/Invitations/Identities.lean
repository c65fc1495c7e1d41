import Heritage.Invitations.Tokens

/-!
# Who writes the client profiles

Every request of the invitation system leaves the client profiles as they are,
except the write of another feature and a successful activation, which adds the
profile of the invited client.
-/

namespace Heritage.Invitations

open Heritage.Store
open Repository

variable {platform : Platform} {tables after : Tables}

theorem profiles_of_update {now : Timestamp} {id : Uuid}
    {data : InvitationRecord → InvitationRecord}
    {updated : InvitationRecord}
    (succeeds :
      updateInvitation tables now id data = .ok (updated, after)) :
    after.clientProfiles = tables.clientProfiles := by
  simp only [updateInvitation, bind_eq_ok, Except.ok.injEq, Prod.mk.injEq]
    at succeeds
  obtain ⟨-, -, -, -, -, rfl⟩ := succeeds
  rfl

theorem profiles_of_updateWhere {now : Timestamp} {id : Uuid}
    {condition : InvitationRecord → Bool}
    {data : InvitationRecord → InvitationRecord}
    {updated : Option InvitationRecord}
    (succeeds :
      updateInvitationWhere tables now id condition data =
        .ok (updated, after)) :
    after.clientProfiles = tables.clientProfiles := by
  unfold updateInvitationWhere at succeeds
  split at succeeds
  · simp only [Except.ok.injEq, Prod.mk.injEq] at succeeds
    obtain ⟨-, rfl⟩ := succeeds
    rfl
  · simp only [bind_eq_ok, Except.ok.injEq, Prod.mk.injEq] at succeeds
    obtain ⟨⟨result, written⟩, updating, -, rfl⟩ := succeeds
    exact profiles_of_update updating

theorem profiles_of_reservation {now : Timestamp} {id : Uuid}
    {concurrency : Option ResendConcurrencyPrecondition}
    {reservation : SendReservationInput} {updated : InvitationRecord}
    (succeeds :
      recordReservation tables now id concurrency reservation =
        .ok (updated, after)) :
    after.clientProfiles = tables.clientProfiles := by
  cases concurrency with
  | none =>
      exact profiles_of_update succeeds
  | some precondition =>
      simp only [recordReservation, bind_eq_ok, Except.ok.injEq,
        Prod.mk.injEq] at succeeds
      obtain ⟨⟨conditional, written⟩, reserving, -, -, -, rfl⟩ := succeeds
      exact profiles_of_updateWhere reserving

theorem profiles_of_prepare {context : RequestContext}
    {actor : AuthenticatedUser} {clientId : Uuid}
    {invitation : InvitationRecord}
    (succeeds :
      prepareInvitationTransaction context actor clientId tables =
        .ok (invitation, after)) :
    after.clientProfiles = tables.clientProfiles := by
  simp only [prepareInvitationTransaction, bind_eq_ok] at succeeds
  obtain ⟨-, -, finished⟩ := succeeds
  split at finished
  · simp only [bind_eq_ok, Except.ok.injEq, Prod.mk.injEq] at finished
    obtain ⟨-, -, -, rfl⟩ := finished
    rfl
  · simp only [createInvitation, bind_eq_ok, require_eq_ok, exists_const,
      Except.ok.injEq, Prod.mk.injEq] at finished
    obtain ⟨-, ⟨created, written⟩, ⟨-, -, -, -, rfl⟩, -, rfl⟩ := finished
    rfl

theorem profiles_of_reserve {context : RequestContext} {rawToken : String}
    {actor : AuthenticatedUser} {clientId : Uuid}
    {input : SendOrResendInput} {kind : ReservationKind}
    {outcome : ReservationOutcome}
    (succeeds :
      reserveSendOperationTransaction platform context rawToken actor
          clientId input kind tables =
        .ok (outcome, after)) :
    after.clientProfiles = tables.clientProfiles := by
  rcases reserveSendOperationTransaction_eq_ok succeeds with
    ⟨invitation, -, ⟨-, rfl⟩ |
      ⟨email, updated, written, entry, -, -, -, recording, -, -, rfl⟩⟩
  · rfl
  · have kept := profiles_of_reservation recording
    split
    · exact kept
    · exact kept

theorem profiles_of_confirm {context : RequestContext}
    {actor : AuthenticatedUser} {clientId idempotencyKey : Uuid}
    {invitation : InvitationRecord}
    (succeeds :
      confirmManualSendTransaction context actor clientId idempotencyKey
          tables =
        .ok (invitation, after)) :
    after.clientProfiles = tables.clientProfiles := by
  simp only [confirmManualSendTransaction, bind_eq_ok] at succeeds
  obtain ⟨-, -, found, -, finished⟩ := succeeds
  split at finished
  · simp only [Except.ok.injEq, Prod.mk.injEq] at finished
    obtain ⟨-, rfl⟩ := finished
    rfl
  · simp only [bind_eq_ok, Except.ok.injEq, Prod.mk.injEq] at finished
    obtain ⟨-, -, ⟨updated, written⟩, confirming, -, rfl⟩ := finished
    have kept := profiles_of_update confirming
    exact kept

theorem profiles_of_revoke {context : RequestContext}
    {actor : AuthenticatedUser} {clientId : Uuid} {reason : String}
    {invitation : InvitationRecord}
    (succeeds :
      revokeInvitationTransaction context actor clientId reason tables =
        .ok (invitation, after)) :
    after.clientProfiles = tables.clientProfiles := by
  simp only [revokeInvitationTransaction, bind_eq_ok] at succeeds
  obtain ⟨-, -, found, -, finished⟩ := succeeds
  split at finished
  · simp only [Except.ok.injEq, Prod.mk.injEq] at finished
    obtain ⟨-, rfl⟩ := finished
    rfl
  · simp only [bind_eq_ok, Except.ok.injEq, Prod.mk.injEq] at finished
    obtain ⟨-, -, ⟨updated, written⟩, revoking, -, rfl⟩ := finished
    have kept := profiles_of_update revoking
    exact kept

theorem profiles_of_webhook {now : Timestamp} {event : VerifiedWebhookEvent}
    {messageId : MessageId} {written : Option InvitationRecord}
    (succeeds :
      webhookTransaction now event messageId tables = .ok (written, after)) :
    after.clientProfiles = tables.clientProfiles := by
  unfold webhookTransaction at succeeds
  split at succeeds
  · cases succeeds
    rfl
  · cases succeeds
    rfl
  · split at succeeds
    · exact profiles_of_updateWhere succeeds
    · simp only [bind_eq_ok, Except.ok.injEq, Prod.mk.injEq] at succeeds
      obtain ⟨⟨updated, applied⟩, applying, -, rfl⟩ := succeeds
      exact profiles_of_update applying

theorem profiles_of_continue {now : Timestamp} {rawToken : String}
    {result : Activation.ContinueResult}
    (succeeds :
      Activation.continueInvitationTransaction platform now rawToken tables =
        .ok (result, after)) :
    after.clientProfiles = tables.clientProfiles := by
  simp only [Activation.continueInvitationTransaction, bind_eq_ok]
    at succeeds
  obtain ⟨invitation, -, -, -, finished⟩ := succeeds
  split at finished
  · simp only [Except.ok.injEq, Prod.mk.injEq] at finished
    obtain ⟨-, rfl⟩ := finished
    rfl
  · simp only [bind_eq_ok, Except.ok.injEq, Prod.mk.injEq] at finished
    obtain ⟨⟨marked, written⟩, marking, -, -, -, rfl⟩ := finished
    have kept := profiles_of_updateWhere marking
    exact kept

/-- A profile that no stored profile shares an id, a user or a client with. -/
structure NewProfile (stored : List ClientProfile) (profile : ClientProfile) :
    Prop where
  newId : ∀ other ∈ stored, other.id ≠ profile.id
  newUser : ∀ other ∈ stored, other.userId ≠ profile.userId
  newClient : ∀ other ∈ stored, other.clientId ≠ profile.clientId

/-- A successful activation adds the profile of the invited client. -/
theorem profile_of_activation {context : RequestContext}
    {rawToken passwordHash : String} {result : Activation.ActivateResult}
    (succeeds :
      Activation.activateAccountTransaction platform context rawToken
          passwordHash tables =
        .ok (result, after)) :
    ∃ invitation profile,
      findInvitationByTokenHash tables
          (platform.hashInvitationToken rawToken) = some invitation ∧
        profile.clientId = invitation.clientId ∧
        NewProfile tables.clientProfiles profile ∧
        after.clientProfiles = tables.clientProfiles ++ [profile] := by
  simp only [Activation.activateAccountTransaction, bind_eq_ok,
    demand_eq_ok, require_eq_ok, exists_const, Except.ok.injEq,
    Prod.mk.injEq] at succeeds
  obtain ⟨invitation, found, -, destinationEmail, -, -, -, fullName, -,
    ⟨created, withAccount⟩, creating, ⟨updatedInvitation, written⟩, marking,
    -, rfl⟩ := succeeds
  have kept := profiles_of_update marking
  simp only [Activation.Repository.createActivatedAccount,
    Activation.Repository.findClientProfileByClientId, bind_eq_ok,
    require_eq_ok, exists_const, Option.isNone_iff_eq_none,
    Option.map_eq_none_iff, findBy_eq_none_iff, Except.ok.injEq,
    Prod.mk.injEq] at creating
  obtain ⟨-, -, -, -, newId, newUser, newClient, -, rfl⟩ := creating
  exact ⟨invitation, _, found, rfl, ⟨newId, newUser, newClient⟩, kept⟩

theorem profiles_of_transact {α : Type}
    {body : Tables → Except TxError (α × Tables)}
    (kept :
      ∀ value after, body tables = .ok (value, after) →
        after.clientProfiles = tables.clientProfiles) :
    (transact body tables).2.clientProfiles = tables.clientProfiles := by
  rcases transact_state_cases body tables with unchanged | ⟨value, succeeds⟩
  · rw [unchanged]
  · exact kept value _ succeeds

theorem profiles_of_withClient {α : Type} {actor : AuthenticatedUser}
    {clientId : Uuid} {body : Tables → Except TxError (α × Tables)}
    (kept :
      ∀ value after, body tables = .ok (value, after) →
        after.clientProfiles = tables.clientProfiles) :
    (withClient actor clientId body tables).2.clientProfiles =
      tables.clientProfiles := by
  unfold withClient
  split
  · exact profiles_of_transact kept
  · rfl

theorem profiles_of_reserveSendOperation {context : RequestContext}
    {rawToken : String} {actor : AuthenticatedUser} {clientId : Uuid}
    {input : SendOrResendInput} {kind : ReservationKind} :
    (reserveSendOperation platform context rawToken actor clientId input kind
        tables).2.clientProfiles =
      tables.clientProfiles := by
  unfold reserveSendOperation
  split
  · split
    · rfl
    · exact profiles_of_transact fun _ _ => profiles_of_reserve
  · rfl

/-- The client whose account the request activates. -/
def activatedClient (platform : Platform) (tables : Tables) :
    Request → Option Uuid
  | .activateAccount context rawToken passwordHash =>
      match Activation.activateAccountTransaction platform context rawToken
          passwordHash tables with
      | .ok _ =>
          (findInvitationByTokenHash tables
            (platform.hashInvitationToken rawToken)).map
            InvitationRecord.clientId
      | .error _ => none
  | _ => none

/-- The profiles after a request: those before, with that of the client whose
account it activates. -/
inductive ProfilesAfter (before : List ClientProfile) :
    Option Uuid → List ClientProfile → Prop where
  | kept : ProfilesAfter before none before
  | added (profile : ClientProfile) (isNew : NewProfile before profile) :
      ProfilesAfter before (some profile.clientId) (before ++ [profile])

variable {state : State}

theorem step_profiles {request : Request}
    (keeps : KeepsClientProfiles state request) :
    ProfilesAfter state.tables.clientProfiles
      (activatedClient platform state.tables request)
      (step platform state request).tables.clientProfiles := by
  have unchanged {profiles : List ClientProfile}
      (kept : profiles = state.tables.clientProfiles) :
      ProfilesAfter state.tables.clientProfiles none profiles := by
    rw [kept]
    exact .kept
  cases request with
  | prepareInvitation context actor clientId =>
      simp only [step, perform, failureOf_snd]
      exact
        unchanged (profiles_of_withClient fun _ _ => profiles_of_prepare)
  | sendInvitation context rawToken actor clientId input =>
      simp only [step, perform, failureOf_snd]
      exact unchanged profiles_of_reserveSendOperation
  | resendInvitation context rawToken actor clientId input concurrency =>
      simp only [step, perform, failureOf_snd]
      exact unchanged profiles_of_reserveSendOperation
  | providerOutcome now index outcome =>
      refine unchanged ?_
      simp only [step, perform]
      split
      · rfl
      · simp only [failureOf_snd, attemptAutomatedDelivery]
        split
        · rfl
        · exact profiles_of_transact fun _ _ => profiles_of_updateWhere
  | confirmManualSend context actor clientId idempotencyKey =>
      simp only [step, perform, failureOf_snd]
      exact
        unchanged (profiles_of_withClient fun _ _ => profiles_of_confirm)
  | revokeInvitation context actor clientId reason =>
      simp only [step, perform, failureOf_snd]
      exact
        unchanged (profiles_of_withClient fun _ _ => profiles_of_revoke)
  | webhook now verified =>
      refine unchanged ?_
      simp only [step, perform, failureOf_snd, handleResendWebhookEvent]
      split
      · rfl
      · split
        · rfl
        · exact profiles_of_transact fun _ _ => profiles_of_webhook
  | continueInvitation now rawToken =>
      simp only [step, perform, failureOf_snd]
      exact
        unchanged (profiles_of_transact fun _ _ => profiles_of_continue)
  | activateAccount context rawToken passwordHash =>
      simp only [step, perform, failureOf_snd, Activation.activateAccount,
        activatedClient]
      cases outcome :
          Activation.activateAccountTransaction platform context rawToken
            passwordHash state.tables with
      | error failure =>
          rw [transact_of_error outcome]
          exact .kept
      | ok committed =>
          rw [transact_of_ok outcome]
          obtain ⟨invitation, profile, found, isInvited, isNew, added⟩ :=
            profile_of_activation outcome
          rw [found, Option.map_some, ← isInvited, added]
          exact .added profile isNew
  | assignmentsChanged staffAssignments =>
      exact .kept
  | clientsChanged clients =>
      exact .kept
  | usersChanged users accounts clientProfiles =>
      exact unchanged keeps

end Heritage.Invitations
