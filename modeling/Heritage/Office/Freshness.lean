import Heritage.Office.Access
import Heritage.Office.Admission
import Heritage.Invitations.Evidence
import Heritage.Payments.Scope
import Heritage.Proposals.Writes
import Heritage.Journeys.Commits

/-!
# Writes on fresh assignments

The checks of a call read the assignments before its transaction, and these
may change before any attempt.  Each transaction therefore reads them again.
What a Travel Consultant or a Finance user commits is committed while that
user holds the post of what is written.
-/

namespace Heritage.Office

open Heritage.Store
open Heritage.Assignments
open Heritage.Proposals (ProposalContext findProposalContext versionClient)
open Heritage.Bookings (assertBookingActor)
open Heritage.Payments (Booking)

/-- The posts of a lead or client operation.  A new lead belongs to nobody
yet. -/
def deskPosts : Clients.Waiting → List Post
  | .createLead _ _ _ => []
  | .updateLead prepared => [.lead prepared.id]
  | .updateLeadStatus _ id _ => [.lead id]
  | .convertLead _ id input =>
      .lead id :: input.clientId.toList.map .client
  | .updateClient _ _ id _ => [.client id]

/-- The client of the proposal, the version or the booking that a call
names. -/
def clientOf (database : Journeys.Database) : Journeys.Call → Option Uuid
  | .author _ (.createProposal input) => some input.clientId
  | .author _ (.createProposalRevision proposalId _) =>
      (findProposalContext database.proposing.toTables proposalId).map
        ProposalContext.clientId
  | .author _ (.publishProposalVersion versionId _) =>
      versionClient database.proposing.toTables versionId
  | .recordProposalResponse _ versionId _ =>
      versionClient database.proposing.toTables versionId
  | .submitClientProposalResponse _ _ input =>
      versionClient database.proposing.toTables input.proposalVersionId
  | .createBooking _ input =>
      versionClient database.proposing.toTables input.proposalVersionId
  | .readRaced _ input =>
      versionClient database.proposing.toTables input.proposalVersionId
  | .updateBookingStatus _ id _ =>
      (findBy Booking.id id database.bookings).map Booking.clientId

/-- The posts whose holder may perform the call; `none` when what it names is
missing. -/
def required (database : Database) (user : AuthenticatedUser) :
    Call → Option (List Post)
  | .clients waiting => some (deskPosts waiting)
  | .journeys call _ =>
      (clientOf database.journeys call).map fun clientId => [.client clientId]
  | .invitation operation => some [.client operation.clientId]
  | .payment operation =>
      (Payments.bookingOf database.journeys.booking.ledger operation).map
        fun bookingId => [.booking bookingId user.role]

/-- The user works only on what is assigned to them. -/
def WorksByAssignment (user : AuthenticatedUser) : Prop :=
  user.role = .travelConsultant ∨ user.role = .financeAccounting

section Checks

variable {user : AuthenticatedUser} {rows : List StaffAssignment}

theorem leadActor_of_assigned {leadActor : Leads.Repository.LeadActor}
    (isActor : Leads.assertLeadActor user = .ok leadActor)
    (assigned : WorksByAssignment user) :
    leadActor = ⟨user.id, .travelConsultant⟩ := by
  rcases assigned with consultant | finance
  · simp only [Leads.assertLeadActor, consultant, Except.ok.injEq] at isActor
    exact isActor.symm
  · simp only [Leads.assertLeadActor, finance, reduceCtorEq] at isActor

theorem clientActor_of_assigned {clientActor : Clients.Repository.ClientActor}
    (isActor : Clients.assertClientActor user = .ok clientActor)
    (assigned : WorksByAssignment user) :
    clientActor = ⟨user.id, .travelConsultant⟩ := by
  rcases assigned with consultant | finance
  · simp only [Clients.assertClientActor, consultant,
      Except.ok.injEq] at isActor
    exact isActor.symm
  · simp only [Clients.assertClientActor, finance, reduceCtorEq] at isActor

theorem viewer_of_assigned {viewer : Proposals.ProposalActor}
    (isViewer : Proposals.assertProposalViewerActor user = .ok viewer)
    (assigned : WorksByAssignment user) :
    viewer = ⟨user.id, .travelConsultant⟩ := by
  rcases assigned with consultant | finance
  · simp only [Proposals.assertProposalViewerActor, consultant,
      Except.ok.injEq] at isViewer
    exact isViewer.symm
  · simp only [Proposals.assertProposalViewerActor, finance,
      reduceCtorEq] at isViewer

theorem bookingActor_of_assigned {bookingActor : Bookings.BookingActor}
    (isActor : assertBookingActor user = .ok bookingActor)
    (assigned : WorksByAssignment user) :
    bookingActor = ⟨user.id, .travelConsultant⟩ := by
  rcases assigned with consultant | finance
  · simp only [assertBookingActor, consultant, Except.ok.injEq] at isActor
    exact isActor.symm
  · simp only [assertBookingActor, finance, reduceCtorEq] at isActor

theorem author_id {author : Proposals.ProposalActor}
    (isAuthor : Proposals.assertProposalAuthorActor user = .ok author) :
    author.id = user.id := by
  unfold Proposals.assertProposalAuthorActor at isAuthor
  split at isAuthor
  · simp only [Except.ok.injEq] at isAuthor
    rw [← isAuthor]
  · cases isAuthor

theorem holds_of_author {tables : Proposals.Tables} {actorId clientId : Uuid}
    {code : Proposals.ProposalErrorCode} {message : String} {checked : Unit}
    (sound : Exclusively tables.staffAssignments)
    (access :
      Proposals.assertProposalAuthorAccess tables actorId clientId code
          message =
        .ok checked) :
    Holds tables.staffAssignments actorId (.client clientId) := by
  rw [Proposals.assertProposalAuthorAccess, require_eq_ok] at access
  exact (findClient_any_iff sound).mp access

theorem holds_of_bookingFilter {clientId : Uuid}
    (sound : Exclusively rows)
    (visible :
      Bookings.clientAssignmentFilter rows ⟨user.id, .travelConsultant⟩
        clientId) :
    Holds rows user.id (.client clientId) :=
  (anyClient_iff sound).mp visible

theorem holds_of_payment {tables : Payments.Tables}
    {actor : Payments.Repository.PaymentActor} {bookingId : Uuid}
    (sound : Exclusively tables.staffAssignments)
    (acting : Payments.ActsFor actor user)
    (assigned : WorksByAssignment user)
    (visible :
      Payments.Repository.bookingAssignmentFilter tables actor bookingId) :
    Holds tables.staffAssignments user.id (.booking bookingId user.role) := by
  obtain ⟨sameId, sameRole⟩ := acting
  rw [← sameId, ← sameRole]
  unfold Payments.Repository.bookingAssignmentFilter at visible
  cases role : actor.role with
  | adminManager =>
      rw [role] at sameRole
      rcases assigned with consultant | finance
      · rw [consultant] at sameRole
        cases sameRole
      · rw [finance] at sameRole
        cases sameRole
  | travelConsultant =>
      rw [role] at visible
      exact (anyBooking_iff sound).mp visible
  | financeAccounting =>
      rw [role] at visible
      exact (anyBooking_iff sound).mp visible

end Checks

section Desk

variable {strings : StringPlatform} {context : RequestContext}
  {user : AuthenticatedUser} {tables : Leads.Tables}

theorem holds_of_lead {id : Uuid}
    (sound : Exclusively tables.staffAssignments)
    (held : Leads.holdsLead tables ⟨user.id, .travelConsultant⟩ id) :
    Holds tables.staffAssignments user.id (.lead id) :=
  (findLead_any_iff sound).mp held

theorem writeLeadUpdate_held {prepared : Leads.PreparedUpdate} :
    (Leads.writeLeadUpdate context prepared tables).2 = tables ∨
      Leads.holdsLead tables prepared.leadActor prepared.id := by
  rcases
    Leads.serve_tables_cases Leads.updateConflict
      (Leads.writeLeadUpdateTransaction context prepared) tables with
    silent | ⟨value, succeeds⟩
  · exact Or.inl silent
  · simp only [Leads.writeLeadUpdateTransaction, bind_eq_ok,
      require_eq_ok] at succeeds
    obtain ⟨-, held, -⟩ := succeeds
    exact Or.inr held

theorem updateLeadStatus_held {leadActor : Leads.Repository.LeadActor}
    {id : Uuid} {input : Leads.UpdateLeadStatusRequest} :
    (Leads.serve Leads.updateConflict
          (Leads.updateLeadStatusTransaction context leadActor id input)
          tables).2 =
        tables ∨
      Leads.holdsLead tables leadActor id := by
  rcases
    Leads.serve_tables_cases Leads.updateConflict
      (Leads.updateLeadStatusTransaction context leadActor id input)
      tables with silent | ⟨value, succeeds⟩
  · exact Or.inl silent
  · simp only [Leads.updateLeadStatusTransaction, bind_eq_ok,
      require_eq_ok] at succeeds
    obtain ⟨-, held, -⟩ := succeeds
    exact Or.inr held

theorem convertLead_held {leadActor : Leads.Repository.LeadActor} {id : Uuid}
    {input : Leads.ConvertLeadRequest} :
    (Leads.serve Leads.conversionConflict
          (Leads.convertLeadTransaction context leadActor id input)
          tables).2 =
        tables ∨
      Leads.holdsLead tables leadActor id ∧
        (leadActor.role = .travelConsultant →
          ∀ clientId ∈ input.clientId,
            (findActiveAssignmentForClient tables.staffAssignments
              clientId).any fun active =>
              active.assignedStaffId = leadActor.id) := by
  rcases
    Leads.serve_tables_cases Leads.conversionConflict
      (Leads.convertLeadTransaction context leadActor id input) tables with
    silent | ⟨value, succeeds⟩
  · exact Or.inl silent
  · simp only [Leads.convertLeadTransaction, bind_eq_ok, demand_eq_ok,
      require_eq_ok] at succeeds
    obtain ⟨lead, -, -, held, -, clientHeld, -⟩ := succeeds
    exact Or.inr ⟨held, clientHeld⟩

theorem updateClient_held {database : Clients.Repository.Database}
    {clientActor : Clients.Repository.ClientActor} {id : Uuid}
    {input : Clients.UpdateClientRequest} :
    (transact
          (Clients.updateClientTransaction strings context user clientActor id
            input)
          database).2 =
        database ∨
      Clients.holdsClient database.tables clientActor id := by
  rcases
    transact_state_cases
      (Clients.updateClientTransaction strings context user clientActor id
        input)
      database with silent | ⟨value, succeeds⟩
  · exact Or.inl silent
  · simp only [Clients.updateClientTransaction, bind_eq_ok,
      require_eq_ok] at succeeds
    obtain ⟨-, held, -⟩ := succeeds
    exact Or.inr held

/-- A lead operation that leaves the tables alone leaves the details too. -/
theorem onTables_of_silent {α : Type} {effect : Leads.Effect α}
    {now : Timestamp} {database : Clients.Repository.Database}
    (silent : (effect database.tables).2 = database.tables) :
    (Clients.onTables effect now database).2 = database := by
  simp only [Clients.onTables, silent, List.drop_length, List.map_nil,
    List.append_nil]

/-- A lead or client operation writes nothing unless its user holds its
posts. -/
theorem desk_held {database : Clients.Repository.Database}
    {waiting : Clients.Waiting}
    (sound : Exclusively database.tables.staffAssignments)
    (admitted : Admitted user (.clients waiting))
    (assigned : WorksByAssignment user) :
    (Clients.attempt strings context database waiting).2 = database ∨
      ∀ post ∈ deskPosts waiting,
        Holds database.tables.staffAssignments user.id post := by
  cases waiting with
  | createLead leadActor input duplicates =>
      right
      intro post member
      exact absurd member List.not_mem_nil
  | updateLead prepared =>
      rcases writeLeadUpdate_held with silent | held
      · exact Or.inl (onTables_of_silent silent)
      · right
        rw [leadActor_of_assigned admitted assigned] at held
        intro post member
        rw [List.mem_singleton.mp member]
        exact holds_of_lead sound held
  | updateLeadStatus leadActor id input =>
      rcases updateLeadStatus_held with silent | held
      · exact Or.inl (onTables_of_silent silent)
      · right
        rw [leadActor_of_assigned admitted assigned] at held
        intro post member
        rw [List.mem_singleton.mp member]
        exact holds_of_lead sound held
  | convertLead leadActor id input =>
      rcases convertLead_held with silent | ⟨held, clientHeld⟩
      · exact Or.inl (onTables_of_silent silent)
      · right
        have isConsultant := leadActor_of_assigned admitted assigned
        rw [isConsultant] at held clientHeld
        intro post member
        rcases List.mem_cons.mp member with rfl | linked
        · exact holds_of_lead sound held
        · obtain ⟨clientId, requested, rfl⟩ := List.mem_map.mp linked
          have ownClient :=
            clientHeld rfl clientId (Option.mem_toList.mp requested)
          exact (findClient_any_iff sound).mp ownClient
  | updateClient actor clientActor id input =>
      rcases updateClient_held with silent | held
      · exact Or.inl silent
      · right
        rw [clientActor_of_assigned admitted.2 assigned] at held
        intro post member
        rw [List.mem_singleton.mp member]
        exact (findClient_any_iff sound).mp held

end Desk

section Journeys

variable {context : Journeys.AttemptContext} {user : AuthenticatedUser}
  {database : Journeys.Database}

/-- The client a call names is known and its post is the user's. -/
def HoldsClientOf (database : Journeys.Database) (user : AuthenticatedUser)
    (call : Journeys.Call) : Prop :=
  ∃ clientId,
    clientOf database call = some clientId ∧
      Holds database.proposing.staffAssignments user.id (.client clientId)

theorem versionClient_of_found {tables : Proposals.Tables} {versionId : Uuid}
    {actor : Proposals.ProposalActor}
    {target : Proposals.ProposalVersionActorContext}
    (found :
      Proposals.findProposalVersionForActor tables actor versionId =
        some target) :
    versionClient tables versionId = some target.clientId := by
  simp only [Proposals.findProposalVersionForActor, Option.bind_eq_bind,
    Option.bind_eq_some_iff, Option.filter_eq_some_iff,
    Option.some.injEq] at found
  obtain ⟨version, foundVersion, proposal, ⟨foundProposal, -⟩, rfl⟩ := found
  simp only [versionClient, Proposals.findProposalVersionContext,
    Option.bind_eq_bind, foundVersion, foundProposal, Option.bind_some,
    Option.map_some]

theorem author_held {author : Proposals.ProposalActor}
    {operation : Proposals.Operation} {answer : Proposals.Answer}
    {after : Proposals.Tables}
    (sound : Exclusively database.proposing.staffAssignments)
    (isAuthor : Proposals.assertProposalAuthorActor user = .ok author)
    (succeeds :
      Proposals.transaction context.toRequestContext author operation
          database.proposing.toTables =
        .ok (answer, after)) :
    HoldsClientOf database user (.author author operation) := by
  rw [HoldsClientOf, ← author_id isAuthor]
  cases operation with
  | createProposal input =>
      simp only [Proposals.transaction, Proposals.createProposalTransaction,
        bind_eq_ok] at succeeds
      obtain ⟨checked, access, -⟩ := succeeds
      exact ⟨input.clientId, rfl, holds_of_author sound access⟩
  | createProposalRevision proposalId input =>
      simp only [Proposals.transaction,
        Proposals.createProposalRevisionTransaction, bind_eq_ok,
        demand_eq_ok] at succeeds
      obtain ⟨found, foundContext, checked, access, -⟩ := succeeds
      refine ⟨found.clientId, ?_, holds_of_author sound access⟩
      rw [clientOf, foundContext, Option.map_some]
  | publishProposalVersion versionId input =>
      simp only [Proposals.transaction,
        Proposals.publishProposalVersionTransaction, bind_eq_ok,
        demand_eq_ok] at succeeds
      obtain ⟨target, foundTarget, checked, access, -⟩ := succeeds
      exact
        ⟨target.clientId, versionClient_of_found foundTarget,
          holds_of_author sound access⟩

theorem recordProposalResponse_held {actor : Proposals.ProposalActor}
    {versionId : Uuid} {input : Proposals.RecordProposalResponseInput}
    {row : Proposals.ProposalAcceptance} {after : Proposals.PortalTables}
    (sound : Exclusively database.proposing.staffAssignments)
    (isViewer : Proposals.assertProposalViewerActor user = .ok actor)
    (assigned : WorksByAssignment user)
    (succeeds :
      Proposals.recordProposalResponseTransaction context.toRequestContext
          actor versionId input database.proposing =
        .ok (row, after)) :
    HoldsClientOf database user
      (.recordProposalResponse actor versionId input) := by
  have isConsultant := viewer_of_assigned isViewer assigned
  simp only [Proposals.recordProposalResponseTransaction, bind_eq_ok,
    demand_eq_ok, isConsultant, if_true] at succeeds
  obtain ⟨target, foundTarget, checked, access, -⟩ := succeeds
  exact
    ⟨target.clientId, versionClient_of_found foundTarget,
      holds_of_author sound access⟩

theorem createBooking_held {actor : Bookings.BookingActor}
    {input : Journeys.CreateBookingInput}
    {result : Journeys.CreateBookingResult} {after : Journeys.Database}
    (sound : Exclusively database.proposing.staffAssignments)
    (isActor : assertBookingActor user = .ok actor)
    (assigned : WorksByAssignment user)
    (succeeds :
      Journeys.attemptCreateBooking context actor input database =
        .ok (result, after)) :
    after = database ∨
      HoldsClientOf database user (.createBooking actor input) := by
  have isConsultant := bookingActor_of_assigned isActor assigned
  unfold Journeys.attemptCreateBooking at succeeds
  split at succeeds
  · simp only [Except.ok.injEq, Prod.mk.injEq] at succeeds
    exact Or.inl succeeds.2.symm
  · simp only [bind_eq_ok, demand_eq_ok,
      Journeys.findEligibleProposalVersionForActor, Option.bind_eq_bind,
      Option.bind_eq_some_iff, Option.filter_eq_some_iff,
      Option.some.injEq] at succeeds
    obtain
      ⟨eligible, ⟨version, foundVersion, proposal, ⟨foundProposal, visible⟩,
        -⟩, -⟩ := succeeds
    rw [isConsultant] at visible
    right
    refine ⟨proposal.clientId, ?_, holds_of_bookingFilter sound visible⟩
    simp only [clientOf, versionClient, Proposals.findProposalVersionContext,
      Option.bind_eq_bind, foundVersion, foundProposal, Option.bind_some,
      Option.map_some]

theorem updateBookingStatus_held {id : Uuid}
    {input : Bookings.UpdateBookingStatusInput}
    (sound : Exclusively database.proposing.staffAssignments)
    (sameRows :
      database.booking.ledger.staffAssignments =
        database.proposing.staffAssignments)
    (assigned : WorksByAssignment user) :
    (Bookings.updateBookingStatus context.toRequestContext user id input
          database.booking).2 =
        database.booking ∨
      HoldsClientOf database user (.updateBookingStatus user id input) := by
  unfold Bookings.updateBookingStatus
  cases isActor : assertBookingActor user with
  | error failure =>
      exact Or.inl rfl
  | ok bookingActor =>
      have isConsultant := bookingActor_of_assigned isActor assigned
      cases outcome :
          Bookings.updateBookingStatusTransaction context.toRequestContext
            bookingActor id input database.booking with
      | error failure =>
          left
          simp only [transact_of_error outcome]
      | ok result =>
          right
          simp only [Bookings.updateBookingStatusTransaction, bind_eq_ok,
            demand_eq_ok, Bookings.findBookingByIdForActor,
            Option.map_eq_some_iff, Option.filter_eq_some_iff] at outcome
          obtain ⟨found, ⟨booking, ⟨foundBooking, visible⟩, -⟩, -⟩ := outcome
          rw [isConsultant, sameRows] at visible
          refine ⟨booking.clientId, ?_, holds_of_bookingFilter sound visible⟩
          rw [clientOf, Journeys.Database.bookings, foundBooking,
            Option.map_some]

/-- A call on proposals or bookings writes nothing unless its user holds the
client. -/
theorem journey_held {call : Journeys.Call} {number : Nat}
    (sound : Exclusively database.proposing.staffAssignments)
    (sameRows :
      database.booking.ledger.staffAssignments =
        database.proposing.staffAssignments)
    (admitted : Admitted user (.journeys call number))
    (assigned : WorksByAssignment user) :
    (Journeys.attempt context call number database).2 = database ∨
      HoldsClientOf database user call := by
  cases call with
  | author author operation =>
      simp only [Journeys.attempt, Proposals.attempt_tables]
      rcases
        transact_state_cases
          (Proposals.transaction context.toRequestContext author operation)
          database.proposing.toTables with silent | ⟨answer, succeeds⟩
      · rw [silent]
        exact Or.inl rfl
      · exact Or.inr (author_held sound admitted succeeds)
  | recordProposalResponse actor versionId input =>
      simp only [Journeys.attempt]
      rcases
        transact_state_cases
          (Proposals.recordProposalResponseTransaction
            context.toRequestContext actor versionId input)
          database.proposing with silent | ⟨row, succeeds⟩
      · rw [silent]
        exact Or.inl rfl
      · exact
          Or.inr
            (recordProposalResponse_held sound admitted assigned succeeds)
  | submitClientProposalResponse actor ownedClientId input =>
      have isClient := admitted.2
      rcases assigned with consultant | finance
      · rw [consultant] at isClient
        cases isClient
      · rw [finance] at isClient
        cases isClient
  | createBooking actor input =>
      simp only [Journeys.attempt, Journeys.createBookingAttempt_database]
      rcases
        transact_state_cases
          (Journeys.attemptCreateBooking context actor input) database with
        silent | ⟨result, succeeds⟩
      · exact Or.inl silent
      · exact createBooking_held sound admitted assigned succeeds
  | readRaced actor input =>
      exact Or.inl rfl
  | updateBookingStatus actor id input =>
      have sameUser : actor = user := admitted
      rw [sameUser]
      rcases
        @updateBookingStatus_held context user database id input sound
          sameRows assigned with silent | held
      · left
        simp only [Journeys.attempt, silent]
      · exact Or.inr held

end Journeys

section Invitations

variable {platform : Invitations.Platform} {context : RequestContext}
  {user : AuthenticatedUser} {tables : Invitations.Tables}

/-- A transaction that checks the assignment first writes nothing unless its
user holds the client. -/
theorem invitation_transaction_held {α : Type} {clientId : Uuid}
    {body : Invitations.Tables →
      Except Invitations.TxError (α × Invitations.Tables)}
    {rest : Unit → Except Invitations.TxError (α × Invitations.Tables)}
    (rechecks :
      body tables =
        Invitations.assertTravelConsultantAssignment tables user clientId >>=
          rest)
    (sound : Exclusively tables.staffAssignments)
    (consultant : user.role = .travelConsultant) :
    (transact body tables).2 = tables ∨
      Holds tables.staffAssignments user.id (.client clientId) := by
  rcases transact_state_cases body tables with silent | ⟨value, succeeds⟩
  · exact Or.inl silent
  · rw [rechecks, bind_eq_ok] at succeeds
    obtain ⟨checked, access, -⟩ := succeeds
    rw [Invitations.assertTravelConsultantAssignment,
      require_eq_ok] at access
    exact Or.inr ((findClient_any_iff sound).mp (access consultant))

/-- An invitation operation writes nothing unless its user holds the
client. -/
theorem invitation_held {rawToken : String} {operation : InvitationOperation}
    (sound : Exclusively tables.staffAssignments)
    (consultant : user.role = .travelConsultant) :
    (attemptInvitation platform context rawToken user tables
          operation).2 =
        tables ∨
      Holds tables.staffAssignments user.id
        (.client operation.clientId) := by
  cases operation with
  | prepareInvitation clientId =>
      exact invitation_transaction_held rfl sound consultant
  | sendInvitation clientId input =>
      exact invitation_transaction_held rfl sound consultant
  | resendInvitation clientId input concurrency =>
      exact invitation_transaction_held rfl sound consultant
  | confirmManualSend clientId idempotencyKey =>
      exact invitation_transaction_held rfl sound consultant
  | revokeInvitation clientId reason =>
      exact invitation_transaction_held rfl sound consultant

end Invitations

/-! ## Every attempt -/

section Attempts

variable {platform : Invitations.Platform} {user : AuthenticatedUser}
  {database : Database}

/-- What an attempt commits is committed while its user holds every required
post. -/
theorem attempt_held {context : Journeys.AttemptContext} {rawToken : String}
    {call : Call} (shared : share database = database)
    (sound : Exclusively database.staffAssignments)
    (admitted : Admitted user call) (assigned : WorksByAssignment user) :
    (attempt platform context rawToken database user call).database =
        database ∨
      ∃ posts,
        required database user call = some posts ∧
          ∀ post ∈ posts, Holds database.staffAssignments user.id post := by
  cases call with
  | clients waiting =>
      rcases
        @desk_held platform.strings context.toRequestContext user
          database.desk.clients waiting sound admitted assigned with
        silent | held
      · left
        simp only [attempt, silent]
      · exact Or.inr ⟨deskPosts waiting, rfl, held⟩
  | journeys call number =>
      have sameRows := proposing_rows shared
      rcases
        @journey_held context user database.journeys call number
          (sameRows ▸ sound) ((ledger_rows shared).trans sameRows.symm)
          admitted assigned with silent | ⟨clientId, named, held⟩
      · left
        simp only [attempt, silent]
      · rw [sameRows] at held
        refine Or.inr ⟨[.client clientId], ?_, ?_⟩
        · rw [required, named, Option.map_some]
        · intro post member
          rw [List.mem_singleton.mp member]
          exact held
  | invitation operation =>
      have consultant : user.role = .travelConsultant := by
        rcases assigned with consultant | finance
        · exact consultant
        · exact absurd finance admitted
      have sameRows := portal_rows shared
      rcases
        @invitation_held platform context.toRequestContext user
          database.conversations.portal rawToken operation
          (sameRows ▸ sound) consultant with silent | held
      · left
        simp only [attempt, silent]
      · rw [sameRows] at held
        refine Or.inr ⟨[.client operation.clientId], rfl, ?_⟩
        intro post member
        rw [List.mem_singleton.mp member]
        exact held
  | payment operation =>
      have sameRows := ledger_rows shared
      rcases
        @Payments.perform_scoped database.journeys.booking.ledger user
          context.toRequestContext operation with
        silent | ⟨actor, acting, visible⟩
      · left
        simp only [attempt, silent]
      · obtain ⟨bookingId, named, permitted⟩ :=
          (Option.any_eq_true ..).mp visible
        have held :=
          holds_of_payment (sameRows ▸ sound) acting assigned permitted
        rw [sameRows] at held
        refine Or.inr ⟨[.booking bookingId user.role], ?_, ?_⟩
        · rw [required, named, Option.map_some]
        · intro post member
          rw [List.mem_singleton.mp member]
          exact held

/-- The attempt of a waiting call, once the tables it shares are shared. -/
theorem step_attempt_database {state : State}
    {context : Journeys.AttemptContext} {rawToken : String} {index : Nat}
    {waiting : WaitingCall} (found : state.waiting[index]? = some waiting) :
    (step platform state (.attempt context rawToken index)).database =
      share
        (attempt platform context rawToken state.database waiting.actor
          waiting.call).database := by
  simp only [step, act, found]

/-- Whatever was requested before, and however the assignments changed in
between: the checks of a call write nothing, an aborted attempt writes
nothing, and what an attempt of a Travel Consultant or of a Finance user
writes, it writes while that user holds the posts it requires. -/
theorem commits_while_assigned (platform : Invitations.Platform)
    (requests : List Request) :
    let state := stateAfter platform requests
    (∀ user operation,
        (step platform state (.call user operation)).database =
          state.database) ∧
      (∀ index,
        (step platform state (.aborted index)).database = state.database) ∧
      ∀ context rawToken index waiting,
        state.waiting[index]? = some waiting →
          WorksByAssignment waiting.actor →
            (step platform state (.attempt context rawToken index)).database =
                state.database ∨
              ∃ posts,
                required state.database waiting.actor waiting.call =
                    some posts ∧
                  ∀ post ∈ posts,
                    Holds state.database.staffAssignments waiting.actor.id
                      post := by
  intro state
  have shared : share state.database = state.database :=
    stateAfter_shared platform requests
  have sound : Exclusively state.database.staffAssignments :=
    (databaseAfter_sound platform requests).toExclusively
  refine ⟨?_, ?_, ?_⟩
  · intro user operation
    exact shared
  · intro index
    exact shared
  · intro context rawToken index waiting found assigned
    have admitted : Admitted waiting.actor waiting.call :=
      stateAfter_admitted platform requests waiting
        (List.mem_of_getElem? found)
    rw [step_attempt_database found]
    rcases attempt_held shared sound admitted assigned with silent | held
    · left
      rw [silent]
      exact shared
    · exact Or.inr held

end Attempts

/-- A status update of the consultant's lead waits. -/
def statusUpdateWaits : List Request :=
  leadOfConsultant ++
    [.call ⟨7, .travelConsultant⟩
      (.clients (.updateLeadStatus 20 ⟨.new, .underReview, none⟩))]

/-- The waiting update is written, by the consultant the lead is assigned
to. -/
theorem status_update_written_while_assigned :
    let platform := Invitations.examplePlatform
    let state := stateAfter platform statusUpdateWaits
    let context : Journeys.AttemptContext :=
      ⟨⟨fun _ => 40, 1700000060000⟩, ""⟩
    (step platform state (.attempt context "" 0)).database ≠
        state.database ∧
      ∃ waiting posts,
        state.waiting[0]? = some waiting ∧
          required state.database waiting.actor waiting.call = some posts ∧
          posts = [.lead 20] ∧
          ∀ post ∈ posts,
            Holds state.database.staffAssignments waiting.actor.id post := by
  intro platform state context
  have written :
      ((step platform state
            (.attempt context "" 0)).database.desk.clients.tables.leads.map
          Leads.Lead.status) ≠
        state.database.desk.clients.tables.leads.map Leads.Lead.status := by
    decide +kernel
  have changed :
      (step platform state (.attempt context "" 0)).database ≠
        state.database := by
    intro same
    exact written (by rw [same])
  have waits :
      state.waiting[0]? =
        some
          ⟨⟨7, .travelConsultant⟩,
            .clients
              (.updateLeadStatus ⟨7, .travelConsultant⟩ 20
                ⟨.new, .underReview, none⟩)⟩ :=
    rfl
  rcases
    (commits_while_assigned platform statusUpdateWaits).2.2 context "" 0 _
      waits (Or.inl rfl) with silent | ⟨posts, requires, held⟩
  · exact absurd silent changed
  · refine ⟨changed, _, posts, waits, requires, ?_, held⟩
    exact (Option.some.inj requires).symm

end Heritage.Office
