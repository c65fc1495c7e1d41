import Heritage.Clients.Edits
import Heritage.Conversations.Commits
import Heritage.Invitations.Evidence
import Heritage.Office.Access
import Heritage.Office.Lists

/-!
# What is listed is what may be opened

A list filters by some active assignment of its actor, and an operation on one
record looks up the one active assignment and compares.  For every member of
staff they admit the same leads, clients, proposals, bookings and
conversations.
-/

namespace Heritage.Office

open Heritage.Store
open Heritage.Assignments
open Heritage.Conversations (Conversation ConversationStaffActor
  assertConversationStaffActor conversationVisibilityFilter
  findActiveParticipant findConversationOwnerClientId staffAuthorized)
open Heritage.Clients.Repository (ClientDetails ClientRecord)

variable {platform : Invitations.Platform} {user : AuthenticatedUser}
  {rows : List StaffAssignment} {profiles : List ClientProfile}

/-- `replyAsStaff` authorises the user for the conversation. -/
def AdmitsReply (tables : Conversations.Tables) (user : AuthenticatedUser)
    (conversationId : Uuid) : Prop :=
  ∃ staffActor ownerClientId,
    assertConversationStaffActor user = .ok staffActor ∧
      findConversationOwnerClientId tables conversationId =
          some ownerClientId ∧
        staffAuthorized tables user staffActor conversationId ownerClientId

/-- A reply with a known visibility and a body is written exactly when its
author is authorised, up to what the database says of the new row. -/
theorem replyAsStaff_eq_ok_iff {context : RequestContext}
    {input : Conversations.ReplyAsStaffInput} {tables : Conversations.Tables}
    {visibility : Conversations.MessageVisibility} {body : String}
    {written : Uuid × Conversations.Tables}
    (visible : Conversations.parseVisibility input.visibility = .ok visibility)
    (parsed :
      Conversations.parseBody platform.strings input.body = .ok body) :
    Conversations.replyAsStaff platform.strings context user input tables =
        .ok written ↔
      AdmitsReply tables user input.conversationId ∧
        Conversations.createMessage tables context.now
            { id := context.randomUuid 0
              conversationId := input.conversationId
              body := body
              visibility := visibility
              authorStaffUserId := some user.id
              authorClientProfileId := none } =
          .ok written := by
  simp only [Conversations.replyAsStaff, visible, parsed, bind_eq_ok,
    demand_eq_ok, require_eq_ok, exists_const, Except.ok.injEq,
    exists_eq_left', AdmitsReply]
  constructor
  · rintro ⟨staffActor, isStaff, owner, found, authorized, creates⟩
    exact ⟨⟨staffActor, owner, isStaff, found, authorized⟩, creates⟩
  · rintro ⟨⟨staffActor, owner, isStaff, found, authorized⟩, creates⟩
    exact ⟨staffActor, isStaff, owner, found, authorized, creates⟩

section Checks

variable (sound : Exclusively rows) (staff : user.role ≠ .client)

include sound

theorem lead_visible_iff {leadId : Uuid} :
    (∃ leadActor,
      Leads.assertLeadActor user = .ok leadActor ∧
        Leads.leadAssignmentFilter rows leadActor leadId) ↔
      canAccessLead rows user leadId := by
  cases role : user.role with
  | adminManager =>
      simp [Leads.assertLeadActor, Leads.leadAssignmentFilter, canAccessLead,
        role]
  | travelConsultant =>
      simp only [Leads.assertLeadActor, Leads.leadAssignmentFilter,
        canAccessLead, role, Except.ok.injEq, exists_eq_left']
      rw [anyLead_iff sound, findLead_any_iff sound]
  | _ =>
      simp [Leads.assertLeadActor, canAccessLead, role]

include staff

theorem client_visible_iff {clientId : Uuid} :
    (∃ clientActor,
      Clients.assertClientActor user = .ok clientActor ∧
        Clients.clientAssignmentFilter rows clientActor clientId) ↔
      canAccessClient rows profiles user clientId := by
  cases role : user.role with
  | adminManager =>
      simp [Clients.assertClientActor, Clients.clientAssignmentFilter,
        canAccessClient, role]
  | travelConsultant =>
      simp only [Clients.assertClientActor, Clients.clientAssignmentFilter,
        canAccessClient, role, Except.ok.injEq, exists_eq_left']
      rw [anyClient_iff sound, findClient_any_iff sound]
  | client =>
      exact absurd role staff
  | _ =>
      simp [Clients.assertClientActor, canAccessClient, role]

theorem proposal_visible_iff {clientId : Uuid} :
    (∃ proposalActor,
      Proposals.assertProposalViewerActor user = .ok proposalActor ∧
        Proposals.proposalClientAssignmentFilter rows proposalActor
          clientId) ↔
      canAccessClient rows profiles user clientId := by
  cases role : user.role with
  | adminManager =>
      simp [Proposals.assertProposalViewerActor,
        Proposals.proposalClientAssignmentFilter, canAccessClient, role]
  | travelConsultant =>
      simp only [Proposals.assertProposalViewerActor,
        Proposals.proposalClientAssignmentFilter, canAccessClient, role,
        Except.ok.injEq, exists_eq_left']
      rw [anyClient_iff sound, findClient_any_iff sound]
  | client =>
      exact absurd role staff
  | _ =>
      simp [Proposals.assertProposalViewerActor, canAccessClient, role]

theorem booking_visible_iff {clientId : Uuid} :
    (∃ bookingActor,
      Bookings.assertBookingActor user = .ok bookingActor ∧
        Bookings.clientAssignmentFilter rows bookingActor clientId) ↔
      canAccessClient rows profiles user clientId := by
  cases role : user.role with
  | adminManager =>
      simp [Bookings.assertBookingActor, Bookings.clientAssignmentFilter,
        canAccessClient, role]
  | travelConsultant =>
      simp only [Bookings.assertBookingActor,
        Bookings.clientAssignmentFilter, canAccessClient, role,
        Except.ok.injEq, exists_eq_left']
      rw [anyClient_iff sound, findClient_any_iff sound]
  | client =>
      exact absurd role staff
  | _ =>
      simp [Bookings.assertBookingActor, canAccessClient, role]

end Checks

section Conversations

variable {tables : Conversations.Tables}

/-- The filter of the list against the check of a reply. -/
theorem conversationFilter_iff
    (sound : Exclusively tables.portal.staffAssignments)
    {staffActor : ConversationStaffActor}
    (isStaff : assertConversationStaffActor user = .ok staffActor)
    (conversation : Conversation) :
    conversationVisibilityFilter tables staffActor conversation ↔
      staffAuthorized tables user staffActor conversation.id
        conversation.clientId := by
  simp only [assertConversationStaffActor, bind_eq_ok, demand_eq_ok,
    Except.ok.injEq] at isStaff
  obtain ⟨staffRole, permitted, rfl⟩ := isStaff
  unfold conversationVisibilityFilter staffAuthorized canAccessClient
  cases role : user.role with
  | adminManager =>
      cases role ▸ permitted
      simp
  | travelConsultant =>
      cases role ▸ permitted
      dsimp only
      rw [anyClient_iff sound, findClient_any_iff sound]
  | financeAccounting =>
      cases role ▸ permitted
      simp [findActiveParticipant,
        Conversations.ParticipantIdentity.selects, and_comm]
  | visaDocumentation =>
      cases role ▸ permitted
      simp [findActiveParticipant,
        Conversations.ParticipantIdentity.selects, and_comm]
  | systemAdministrator =>
      cases role ▸ permitted
  | client =>
      cases role ▸ permitted

/-- A stored conversation is listed for a member of staff exactly when that
member may reply in it. -/
theorem conversation_listed_iff
    (sound : Exclusively tables.portal.staffAssignments)
    (uniqueIds : (tables.conversations.map Conversation.id).Nodup)
    {conversation : Conversation}
    (stored : conversation ∈ tables.conversations) :
    (∃ items,
      Conversations.listConversationsForStaff user tables = .ok items ∧
        ∃ item ∈ items, item.id = conversation.id) ↔
      AdmitsReply tables user conversation.id := by
  have owner :
      findConversationOwnerClientId tables conversation.id =
        some conversation.clientId := by
    rw [findConversationOwnerClientId, findBy_of_mem uniqueIds stored,
      Option.map_some]
  simp only [Conversations.listConversationsForStaff, bind_eq_ok,
    Except.ok.injEq, AdmitsReply, owner]
  constructor
  · rintro ⟨items, ⟨staffActor, isStaff, rfl⟩, item, member, sameId⟩
    obtain ⟨row, listed, rfl⟩ := List.mem_map.mp member
    obtain ⟨other, ordered, rfl⟩ := List.mem_map.mp listed
    obtain ⟨otherStored, visible⟩ :=
      List.mem_filter.mp (mem_latestFirst.mp ordered)
    have same : other = conversation :=
      List.inj_on_of_nodup_map uniqueIds otherStored stored sameId
    rw [same] at visible
    exact
      ⟨staffActor, conversation.clientId, isStaff, rfl,
        (conversationFilter_iff sound isStaff conversation).mp visible⟩
  · rintro ⟨staffActor, ownerClientId, isStaff, sameOwner, authorized⟩
    rw [← Option.some.inj sameOwner] at authorized
    have visible :=
      (conversationFilter_iff sound isStaff conversation).mpr authorized
    have ordered :
        conversation ∈
          latestFirst Conversation.createdAt Conversation.id
            (tables.conversations.filter
              (conversationVisibilityFilter tables staffActor)) :=
      mem_latestFirst.mpr (List.mem_filter.mpr ⟨stored, visible⟩)
    refine ⟨_, ⟨staffActor, isStaff, rfl⟩, ?_⟩
    refine ⟨_, List.mem_map.mpr ⟨_, List.mem_map.mpr ⟨_, ordered, rfl⟩, rfl⟩,
      rfl⟩

end Conversations

section Lists

variable {contains : String → String → Bool} {pageSize : PageSize}

theorem lead_listed_iff {tables : Leads.Tables}
    (sound : Exclusively tables.staffAssignments) {lead : Leads.Lead}
    (stored : lead ∈ tables.leads) :
    Listed pageSize
        (fun query =>
          Leads.listLeads contains user tables (.unfiltered query))
        (Leads.toLeadRecordWithAssignment tables lead) ↔
      canAccessLead tables.staffAssignments user lead.id := by
  have unfiltered :
      ∀ leadActor query,
        Leads.isListedLead contains tables leadActor (.unfiltered query) =
          fun row =>
            Leads.leadAssignmentFilter tables.staffAssignments leadActor
              row.id := by
    intro leadActor query
    funext row
    simp only [Leads.isListedLead, Leads.ListLeadsQuery.unfiltered,
      searchWhere, Option.all_none, Bool.and_true]
  have listed :=
    @listed_iff _ _ _ _ Leads.Lead.createdAt Leads.Lead.id
      (Leads.toLeadRecordWithAssignment tables) pageSize tables.leads
      (Leads.assertLeadActor user)
      (fun leadActor row =>
        Leads.leadAssignmentFilter tables.staffAssignments leadActor row.id)
      (fun query =>
        Leads.listLeads contains user tables (.unfiltered query))
      lead ?_ stored ?_
  · exact listed.trans (lead_visible_iff sound)
  · intro query
    simp only [Leads.listLeads, Leads.listLeadsForActor, unfiltered]
    rfl
  · intro leadActor other shown
    have sameLead : other = lead :=
      congrArg Leads.LeadRecordWithAssignment.toLead shown
    rw [sameLead]

theorem client_listed_iff {database : Clients.Repository.Database}
    (sound : Exclusively database.tables.staffAssignments)
    (staff : user.role ≠ .client) {record : ClientRecord}
    (stored : record ∈ database.clientRecords) :
    Listed pageSize
        (fun query =>
          Clients.listClients contains user database (.unfiltered query))
        (Clients.toClientListItem database record) ↔
      canAccessClient database.tables.staffAssignments profiles user
        record.contact.id := by
  have unfiltered :
      ∀ clientActor query,
        Clients.isListedClient contains database clientActor
            (.unfiltered query) =
          fun row =>
            Clients.clientAssignmentFilter database.tables.staffAssignments
              clientActor row.contact.id := by
    intro clientActor query
    funext row
    simp only [Clients.isListedClient, Clients.ListClientsQuery.unfiltered,
      searchWhere, Option.all_none, Bool.and_true]
  have listed :=
    @listed_iff _ _ _ _ (fun row : ClientRecord => row.details.createdAt)
      (fun row => row.contact.id) (Clients.toClientListItem database)
      pageSize database.clientRecords (Clients.assertClientActor user)
      (fun clientActor row =>
        Clients.clientAssignmentFilter database.tables.staffAssignments
          clientActor row.contact.id)
      (fun query =>
        Clients.listClients contains user database (.unfiltered query))
      record ?_ stored ?_
  · exact listed.trans (client_visible_iff sound staff)
  · intro query
    simp only [Clients.listClients, Clients.listClientsForActor, unfiltered]
    rfl
  · intro clientActor other shown
    have sameId : other.contact.id = record.contact.id :=
      congrArg Clients.ClientListItem.id shown
    rw [sameId]

theorem proposal_listed_iff {clients : List Client}
    {tables : Proposals.Tables} (sound : Exclusively tables.staffAssignments)
    (staff : user.role ≠ .client) {proposal : Proposals.Proposal}
    (stored : proposal ∈ tables.proposals) :
    Listed pageSize (Proposals.listProposals clients user tables)
        (Proposals.selectProposalListItem clients proposal) ↔
      canAccessClient tables.staffAssignments profiles user
        proposal.clientId := by
  have listed :=
    @listed_iff _ _ _ _ Proposals.Proposal.createdAt Proposals.Proposal.id
      (Proposals.selectProposalListItem clients) pageSize tables.proposals
      (Proposals.assertProposalViewerActor user)
      (fun proposalActor row =>
        Proposals.proposalClientAssignmentFilter tables.staffAssignments
          proposalActor row.clientId)
      (Proposals.listProposals clients user tables) proposal
      (fun _ => rfl) stored ?_
  · exact listed.trans (proposal_visible_iff sound staff)
  · intro proposalActor other shown
    have sameClient : other.clientId = proposal.clientId :=
      congrArg (fun item : Proposals.ProposalListItem => item.client.id) shown
    rw [sameClient]

theorem booking_listed_iff {database : Bookings.Database}
    (sound : Exclusively database.ledger.staffAssignments)
    (staff : user.role ≠ .client) {booking : Payments.Booking}
    (stored : booking ∈ database.ledger.bookings) :
    Listed pageSize (Bookings.listBookings user database)
        (Bookings.selectBooking booking) ↔
      canAccessClient database.ledger.staffAssignments profiles user
        booking.clientId := by
  have listed :=
    @listed_iff _ _ _ _ Payments.Booking.createdAt Payments.Booking.id
      Bookings.selectBooking pageSize database.ledger.bookings
      (Bookings.assertBookingActor user)
      (fun bookingActor row =>
        Bookings.clientAssignmentFilter database.ledger.staffAssignments
          bookingActor row.clientId)
      (Bookings.listBookings user database) booking (fun _ => rfl) stored ?_
  · exact listed.trans (booking_visible_iff sound staff)
  · intro bookingActor other shown
    have sameClient : other.clientId = booking.clientId :=
      congrArg Bookings.BookingRecord.clientId shown
    rw [sameClient]

end Lists

/-- The two parts of the client table hold the same rows. -/
def Detailed (database : Clients.Repository.Database) : Prop :=
  database.details.map ClientDetails.clientId =
    database.tables.clients.map Client.id

section Details

variable {strings : StringPlatform} {context : RequestContext}
  {database : Clients.Repository.Database}

theorem Detailed.added {after : Clients.Repository.Database}
    {now : Timestamp} (detailed : Detailed database)
    (grew : database.tables.clients <+: after.tables.clients)
    (added :
      after.details =
        database.details ++
          (after.tables.clients.drop database.tables.clients.length).map
            fun client => .initial client.id now) :
    Detailed after := by
  obtain ⟨created, appended⟩ := grew
  have createdIds :
      (created.map fun client => ClientDetails.initial client.id now).map
          ClientDetails.clientId =
        created.map Client.id := by
    rw [List.map_map]
    rfl
  rw [← appended, List.drop_left] at added
  rw [Detailed, added, ← appended, List.map_append, List.map_append,
    createdIds, detailed]

/-- An attempt adds the details of every client it adds. -/
theorem attempt_detailed (detailed : Detailed database)
    (waiting : Clients.Waiting) :
    Detailed (Clients.attempt strings context database waiting).2 := by
  have committed :=
    @Clients.attempt_commit strings context database waiting
  cases waiting with
  | updateClient actor clientActor id input =>
      rcases
        transact_state_cases
          (Clients.updateClientTransaction strings context actor clientActor
            id input)
          database with kept | ⟨result, succeeds⟩
      · simp only [Clients.attempt, kept]
        exact detailed
      · obtain ⟨existing, -, -, -, ⟨-, kept⟩ | ⟨-, written⟩⟩ :=
          Clients.updateClientTransaction_eq_ok succeeds
        · simp only [Clients.attempt, kept]
          exact detailed
        · simp only [Clients.attempt, written, Detailed,
            Clients.Repository.writeClient, Leads.Repository.insertAuditLog]
          have sameDetails :=
            @map_updateBy_of_kept _ _ _ ClientDetails.clientId id
              ((Clients.changedData strings input existing).changeDetails
                context.now)
              database.details _ ClientDetails.clientId fun _ => rfl
          have sameContacts :=
            @map_updateBy_of_kept _ _ _ Client.id id
              (Clients.changedData strings input existing).changeContact
              database.tables.clients _ Client.id fun _ => rfl
          exact (sameDetails.trans detailed).trans sameContacts.symm
  | createLead leadActor input duplicates =>
      refine detailed.added (Clients.clients_grew_of_commit committed ?_) rfl
      intro actor clientActor id input isEdit
      cases isEdit
  | updateLead prepared =>
      refine detailed.added (Clients.clients_grew_of_commit committed ?_) rfl
      intro actor clientActor id input isEdit
      cases isEdit
  | updateLeadStatus leadActor id input =>
      refine detailed.added (Clients.clients_grew_of_commit committed ?_) rfl
      intro actor clientActor id input isEdit
      cases isEdit
  | convertLead leadActor id input =>
      refine detailed.added (Clients.clients_grew_of_commit committed ?_) rfl
      intro actor clientActor id input isEdit
      cases isEdit

/-- A stored client has its details, and with them it is a row. -/
theorem exists_details (detailed : Detailed database) {client : Client}
    (stored : client ∈ database.tables.clients) :
    ∃ details,
      findBy ClientDetails.clientId client.id database.details =
          some details ∧
        ⟨client, details⟩ ∈ database.clientRecords := by
  have listed :
      client.id ∈ database.details.map ClientDetails.clientId := by
    rw [detailed]
    exact List.mem_map_of_mem stored
  cases found :
      findBy ClientDetails.clientId client.id database.details with
  | none =>
      obtain ⟨details, member, sameId⟩ := List.mem_map.mp listed
      exact absurd sameId (findBy_eq_none_iff.mp found details member)
  | some details =>
      refine ⟨details, rfl, List.mem_filterMap.mpr ⟨client, stored, ?_⟩⟩
      rw [found, Option.map_some]

end Details

section Runs

theorem perform_conversationIds {context : RequestContext}
    {tables after : Conversations.Tables}
    {operation : Conversations.Operation} {created : Uuid}
    (unique : (tables.conversations.map Conversation.id).Nodup)
    (succeeds :
      Conversations.perform platform context user tables operation =
        .ok (created, after)) :
    (after.conversations.map Conversation.id).Nodup := by
  have stores :
      ∀ draft,
        Conversations.storeDraft context draft tables =
            .ok (created, after) →
          (after.conversations.map Conversation.id).Nodup := by
    intro draft storing
    obtain ⟨-, newId, -, -, -, -, -, rfl⟩ :=
      Conversations.createConversationWithFirstMessage_eq_ok.mp storing
    exact nodup_map_concat unique newId
  have replies :
      ∀ now input,
        Conversations.createMessage tables now input =
            .ok (created, after) →
          (after.conversations.map Conversation.id).Nodup := by
    intro now input storing
    obtain ⟨-, -, -, rfl⟩ := Conversations.createMessage_eq_ok.mp storing
    exact unique
  cases operation with
  | createConversationAsClient clientId input =>
      simp only [Conversations.perform,
        Conversations.createConversationAsClient, bind_eq_ok] at succeeds
      obtain ⟨draft, -, storing⟩ := succeeds
      exact stores draft storing
  | createConversationAsStaff input =>
      simp only [Conversations.perform,
        Conversations.createConversationAsStaff, bind_eq_ok] at succeeds
      obtain ⟨draft, -, storing⟩ := succeeds
      exact stores draft storing
  | replyAsClient clientId input =>
      simp only [Conversations.perform, Conversations.replyAsClient,
        bind_eq_ok] at succeeds
      obtain ⟨identity, -, body, -, -, -, -, -, storing⟩ := succeeds
      exact replies _ _ storing
  | replyAsStaff input =>
      simp only [Conversations.perform, Conversations.replyAsStaff,
        bind_eq_ok] at succeeds
      obtain ⟨staffActor, -, visibility, -, body, -, owner, -, -, -,
        storing⟩ := succeeds
      exact replies _ _ storing

/-- What the lists rely on besides the assignments. -/
structure Indexed (database : Database) : Prop where
  conversationIds :
    (database.conversations.conversations.map Conversation.id).Nodup
  detailed : Detailed database.desk.clients

theorem indexed_empty : Indexed Database.empty where
  conversationIds := List.nodup_nil
  detailed := rfl

theorem assign_detailed {context : RequestContext}
    {operation : Assignments.Operation} {desk : Assignments.Tables}
    (sound : Sound desk.clients.tables) (detailed : Detailed desk.clients) :
    Detailed
      (Assignments.perform platform.strings context user operation
        desk).2.clients := by
  rcases
    @Assignments.perform_after platform.strings context desk user operation
      sound.toExclusively with silent | ⟨-, rewritten, auditLogs, -, wrote⟩
  · rw [silent]
    exact detailed
  · rw [wrote]
    exact detailed

theorem attempt_indexed {context : Journeys.AttemptContext}
    {rawToken : String} {database : Database} (indexed : Indexed database)
    (call : Call) :
    Indexed
      (attempt platform context rawToken database user call).database := by
  obtain ⟨conversationIds, detailed⟩ := indexed
  cases call with
  | clients waiting =>
      exact ⟨conversationIds, attempt_detailed detailed waiting⟩
  | journeys call number =>
      exact ⟨conversationIds, detailed⟩
  | invitation operation =>
      exact ⟨conversationIds, detailed⟩
  | payment operation =>
      exact ⟨conversationIds, detailed⟩

theorem act_indexed (state : State) (request : Request)
    (sound : Sound state.database.desk.clients.tables)
    (indexed : Indexed state.database) :
    Indexed (act platform state request).database := by
  obtain ⟨conversationIds, detailed⟩ := indexed
  cases request with
  | attempt context rawToken index =>
      unfold act
      dsimp only
      cases state.waiting[index]? with
      | none =>
          exact ⟨conversationIds, detailed⟩
      | some waiting =>
          exact attempt_indexed ⟨conversationIds, detailed⟩ waiting.call
  | assign context actor operation =>
      exact ⟨conversationIds, assign_detailed sound detailed⟩
  | conversation context actor operation =>
      refine ⟨?_, detailed⟩
      rcases
        transact_state_cases
          (fun tables =>
            Conversations.perform platform context actor tables operation)
          state.database.conversations with silent | ⟨created, succeeds⟩
      · simp only [act, silent]
        exact conversationIds
      · exact perform_conversationIds conversationIds succeeds
  | _ =>
      exact ⟨conversationIds, detailed⟩

theorem databaseAfter_indexed (platform : Invitations.Platform)
    (requests : List Request) :
    Indexed (databaseAfter platform requests) := by
  have both :
      Sound (databaseAfter platform requests).desk.clients.tables ∧
        Indexed (databaseAfter platform requests) := by
    unfold databaseAfter stateAfter
    apply
      @run_invariant _ _ (step platform)
        (fun state =>
          Sound state.database.desk.clients.tables ∧
            Indexed state.database)
        State.initial ⟨sound_empty, indexed_empty⟩
    rintro state request ⟨sound, indexed⟩
    have acted := @act_indexed platform state request sound indexed
    exact
      ⟨share_sound (act_sound state request sound),
        acted.conversationIds, acted.detailed⟩
  exact both.2

end Runs

/-! ## Every list against its check -/

/-- In each list some page shows exactly the records that the user's single
operations admit. -/
structure ListsAgree (contains : String → String → Bool)
    (database : Database) (user : AuthenticatedUser) (pageSize : PageSize) :
    Prop where
  leads :
    ∀ lead ∈ database.desk.clients.tables.leads,
      Listed pageSize
          (fun query =>
            Leads.listLeads contains user database.desk.clients.tables
              (.unfiltered query))
          (Leads.toLeadRecordWithAssignment database.desk.clients.tables
            lead) ↔
        canAccessLead database.staffAssignments user lead.id
  clients :
    ∀ client ∈ database.desk.clients.tables.clients,
      ∃ details,
        findBy ClientDetails.clientId client.id
              database.desk.clients.details =
            some details ∧
          (Listed pageSize
              (fun query =>
                Clients.listClients contains user database.desk.clients
                  (.unfiltered query))
              (Clients.toClientListItem database.desk.clients
                ⟨client, details⟩) ↔
            canAccessClient database.staffAssignments database.clientProfiles
              user client.id)
  proposals :
    ∀ proposal ∈ database.journeys.proposing.proposals,
      Listed pageSize
          (Proposals.listProposals database.desk.clients.tables.clients user
            database.journeys.proposing.toTables)
          (Proposals.selectProposalListItem
            database.desk.clients.tables.clients proposal) ↔
        canAccessClient database.staffAssignments database.clientProfiles user
          proposal.clientId
  bookings :
    ∀ booking ∈ database.journeys.bookings,
      Listed pageSize
          (Bookings.listBookings user database.journeys.booking)
          (Bookings.selectBooking booking) ↔
        canAccessClient database.staffAssignments database.clientProfiles user
          booking.clientId
  conversations :
    ∀ conversation ∈ database.conversations.conversations,
      (∃ items,
          Conversations.listConversationsForStaff user
                database.conversations =
              .ok items ∧
            ∃ item ∈ items, item.id = conversation.id) ↔
        AdmitsReply database.conversations user conversation.id

/-- Whatever was requested before, every list shows a member of staff exactly
the records that the check of a single one admits. -/
theorem lists_agree_with_checks (contains : String → String → Bool)
    (platform : Invitations.Platform) (requests : List Request)
    (user : AuthenticatedUser) (staff : user.role ≠ .client)
    (pageSize : PageSize) :
    ListsAgree contains (databaseAfter platform requests) user pageSize := by
  have shared := stateAfter_shared platform requests
  have sound : Exclusively (databaseAfter platform requests).staffAssignments :=
    (databaseAfter_sound platform requests).toExclusively
  have indexed := databaseAfter_indexed platform requests
  have proposing := proposing_rows shared
  have ledger := ledger_rows shared
  have portal := portal_rows shared
  constructor
  · intro lead stored
    exact lead_listed_iff sound stored
  · intro client stored
    obtain ⟨details, found, isRow⟩ := exists_details indexed.detailed stored
    exact ⟨details, found, client_listed_iff sound staff isRow⟩
  · intro proposal stored
    rw [← proposing]
    exact proposal_listed_iff (proposing ▸ sound) staff stored
  · intro booking stored
    rw [← ledger]
    exact booking_listed_iff (ledger ▸ sound) staff stored
  · intro conversation stored
    exact
      conversation_listed_iff (portal ▸ sound) indexed.conversationIds stored

def tenRows : PageSize where
  value := 10
  atLeast := by decide
  atMost := by decide

/-- The list of its consultant shows the lead, and that of consultant 8 does
not. -/
theorem lead_listed_for_its_consultant :
    let database :=
      databaseAfter Invitations.examplePlatform leadOfConsultant
    let tables := database.desk.clients.tables
    let listFor : Uuid → PageQuery →
        Except Leads.TxError (ListResult Leads.LeadRecordWithAssignment) :=
      fun consultantId query =>
        Leads.listLeads (fun value text => value = text)
          ⟨consultantId, .travelConsultant⟩ tables (.unfiltered query)
    ∃ lead ∈ tables.leads,
      lead.id = 20 ∧
        Listed tenRows (listFor 7)
          (Leads.toLeadRecordWithAssignment tables lead) ∧
        ¬ Listed tenRows (listFor 8)
          (Leads.toLeadRecordWithAssignment tables lead) := by
  intro database tables listFor
  have agreesFor :
      ∀ consultantId : Uuid,
        ListsAgree (fun value text => value = text) database
          ⟨consultantId, .travelConsultant⟩ tenRows := by
    intro consultantId
    exact
      lists_agree_with_checks _ Invitations.examplePlatform leadOfConsultant
        ⟨consultantId, .travelConsultant⟩ (fun same => by cases same) tenRows
  have stored : ∃ lead, tables.leads = [lead] ∧ lead.id = 20 :=
    ⟨_, rfl, rfl⟩
  obtain ⟨lead, only, isTwenty⟩ := stored
  have member : lead ∈ tables.leads := by
    rw [only]
    exact List.mem_singleton_self lead
  refine ⟨lead, member, isTwenty, ?_, ?_⟩
  · apply ((agreesFor 7).leads lead member).mpr
    rw [isTwenty]
    decide +kernel
  · intro listed
    have access := ((agreesFor 8).leads lead member).mp listed
    rw [isTwenty] at access
    revert access
    decide +kernel

end Heritage.Office
