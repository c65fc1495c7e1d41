import Heritage.Clients.Service
import Heritage.Journeys.Creation
import Heritage.Store.Paging

/-!
# The lists of staff

`listLeads`, `listClients`, `listProposals` and `listBookings` with the reads
under them.  Each asserts its actor's role, keeps the rows that pass the
actor's assignment filter, and shows one page of them, the latest first.
-/

namespace Heritage.Office

open Heritage.Store

/-- `pageSize` as every list's schema lets it through. -/
structure PageSize where
  value : Nat
  atLeast : 1 ≤ value
  atMost : value ≤ 100

structure PageQuery where
  page : Nat
  isPage : 1 ≤ page
  pageSize : PageSize

structure ListResult (ι : Type) where
  items : List ι
  page : Nat
  pageSize : Nat
  total : Nat

/-- One page of `rows` and their number. -/
def pageResult {ρ ι : Type} (createdAt : ρ → Timestamp) (id : ρ → Uuid)
    (toItem : ρ → ι) (query : PageQuery) (rows : List ρ) : ListResult ι where
  items :=
    (pageOf query.page query.pageSize.value
      (latestFirst createdAt id rows)).map toItem
  page := query.page
  pageSize := query.pageSize.value
  total := rows.length

/-- `search` across some fields; `contains` is the database's case-insensitive
search. -/
def searchWhere (contains : String → String → Bool)
    (search : Option NonBlank) (fields : List (Option String)) : Bool :=
  search.all fun text =>
    fields.any fun field => field.any fun value => contains value text.value

end Heritage.Office

namespace Heritage.Leads

open Heritage.Store
open Heritage.Office (PageQuery ListResult pageResult searchWhere)
open Repository

def leadAssignmentFilter (staffAssignments : List StaffAssignment)
    (actor : LeadActor) (leadId : Uuid) : Bool :=
  match actor.role with
  | .adminManager => true
  | .travelConsultant =>
      staffAssignments.any fun assignment =>
        assignment.leadId = some leadId ∧
          assignment.assignedStaffId = actor.id ∧ assignment.endedAt = none

structure ListLeadsQuery extends PageQuery where
  status : Option LeadStatus
  source : Option NonBlank
  search : Option NonBlank

structure LeadRecordWithAssignment extends Lead where
  /-- The id of the assigned staff member. -/
  assignment : Option Uuid

def toLeadRecordWithAssignment (tables : Tables) (lead : Lead) :
    LeadRecordWithAssignment where
  toLead := lead
  assignment :=
    (findActiveAssignmentForLead tables.staffAssignments lead.id).map
      StaffAssignment.assignedStaffId

/-- `where`. -/
def isListedLead (contains : String → String → Bool) (tables : Tables)
    (actor : LeadActor) (query : ListLeadsQuery) (lead : Lead) : Bool :=
  leadAssignmentFilter tables.staffAssignments actor lead.id &&
    (query.status.all fun status => lead.status = status) &&
    (query.source.all fun source => lead.source = source.value) &&
    searchWhere contains query.search
      [some lead.fullName, lead.email.map NonBlank.value,
        lead.phone.map NonBlank.value]

def listLeadsForActor (contains : String → String → Bool) (tables : Tables)
    (actor : LeadActor) (query : ListLeadsQuery) :
    ListResult LeadRecordWithAssignment :=
  pageResult Lead.createdAt Lead.id (toLeadRecordWithAssignment tables)
    query.toPageQuery
    (tables.leads.filter (isListedLead contains tables actor query))

def listLeads (contains : String → String → Bool) (actor : AuthenticatedUser)
    (tables : Tables) (query : ListLeadsQuery) :
    Except TxError (ListResult LeadRecordWithAssignment) := do
  let leadActor ← assertLeadActor actor
  .ok (listLeadsForActor contains tables leadActor query)

/-- The query without a filter. -/
def ListLeadsQuery.unfiltered (query : PageQuery) : ListLeadsQuery where
  toPageQuery := query
  status := none
  source := none
  search := none

end Heritage.Leads

namespace Heritage.Clients

open Heritage.Store
open Heritage.Office (PageQuery ListResult pageResult searchWhere)
open Repository

def clientAssignmentFilter (staffAssignments : List StaffAssignment)
    (actor : ClientActor) (clientId : Uuid) : Bool :=
  match actor.role with
  | .adminManager => true
  | .travelConsultant =>
      staffAssignments.any fun assignment =>
        assignment.clientId = some clientId ∧
          assignment.assignedStaffId = actor.id ∧ assignment.endedAt = none

structure ListClientsQuery extends PageQuery where
  search : Option NonBlank

structure ClientListItem where
  id : Uuid
  fullName : String
  email : Option NonBlank
  phone : Option NonBlank
  createdAt : Timestamp
  assignment : Option Uuid

def toClientListItem (database : Database) (row : ClientRecord) :
    ClientListItem where
  id := row.contact.id
  fullName := row.contact.fullName
  email := row.contact.email
  phone := row.contact.phone
  createdAt := row.details.createdAt
  assignment :=
    (findActiveAssignmentForClient database.tables.staffAssignments
      row.contact.id).map StaffAssignment.assignedStaffId

/-- The rows of `client`. -/
def Repository.Database.clientRecords (database : Database) :
    List ClientRecord :=
  database.tables.clients.filterMap fun contact =>
    (findBy ClientDetails.clientId contact.id database.details).map
      fun details => ⟨contact, details⟩

/-- `where`. -/
def isListedClient (contains : String → String → Bool) (database : Database)
    (actor : ClientActor) (query : ListClientsQuery) (row : ClientRecord) :
    Bool :=
  clientAssignmentFilter database.tables.staffAssignments actor
      row.contact.id &&
    searchWhere contains query.search
      [some row.contact.fullName, row.contact.email.map NonBlank.value,
        row.contact.phone.map NonBlank.value]

def listClientsForActor (contains : String → String → Bool)
    (database : Database) (actor : ClientActor) (query : ListClientsQuery) :
    ListResult ClientListItem :=
  pageResult (fun row => row.details.createdAt) (fun row => row.contact.id)
    (toClientListItem database) query.toPageQuery
    (database.clientRecords.filter
      (isListedClient contains database actor query))

def listClients (contains : String → String → Bool)
    (actor : AuthenticatedUser) (database : Database)
    (query : ListClientsQuery) :
    Except ClientError (ListResult ClientListItem) := do
  let clientActor ← assertClientActor actor
  .ok (listClientsForActor contains database clientActor query)

/-- The query without a filter. -/
def ListClientsQuery.unfiltered (query : PageQuery) : ListClientsQuery where
  toPageQuery := query
  search := none

end Heritage.Clients

namespace Heritage.Proposals

open Heritage.Store
open Heritage.Office (PageQuery ListResult pageResult)

structure ProposalClientIdentity where
  id : Uuid
  fullName : String

structure ProposalListItem where
  id : Uuid
  client : ProposalClientIdentity
  createdAt : Timestamp
  updatedAt : Timestamp

/-- A proposal always has its client; a missing one has no name. -/
def selectProposalListItem (clients : List Client) (proposal : Proposal) :
    ProposalListItem where
  id := proposal.id
  client :=
    { id := proposal.clientId
      fullName :=
        ((findBy Client.id proposal.clientId clients).map
          Client.fullName).getD "" }
  createdAt := proposal.createdAt
  updatedAt := proposal.updatedAt

def listProposalsForActor (clients : List Client) (tables : Tables)
    (actor : ProposalActor) (query : PageQuery) :
    ListResult ProposalListItem :=
  pageResult Proposal.createdAt Proposal.id (selectProposalListItem clients)
    query
    (tables.proposals.filter fun proposal =>
      proposalClientAssignmentFilter tables.staffAssignments actor
        proposal.clientId)

def listProposals (clients : List Client) (actor : AuthenticatedUser)
    (tables : Tables) (query : PageQuery) :
    Except TxError (ListResult ProposalListItem) := do
  let proposalActor ← assertProposalViewerActor actor
  .ok (listProposalsForActor clients tables proposalActor query)

end Heritage.Proposals

namespace Heritage.Bookings

open Heritage.Store
open Heritage.Office (PageQuery ListResult pageResult)
open Heritage.Payments (Booking)

def listBookingsForActor (database : Database) (actor : BookingActor)
    (query : PageQuery) : ListResult BookingRecord :=
  pageResult Booking.createdAt Booking.id selectBooking query
    (database.ledger.bookings.filter fun booking =>
      clientAssignmentFilter database.ledger.staffAssignments actor
        booking.clientId)

def listBookings (actor : AuthenticatedUser) (database : Database)
    (query : PageQuery) : Except TxError (ListResult BookingRecord) := do
  let bookingActor ← assertBookingActor actor
  .ok (listBookingsForActor database bookingActor query)

end Heritage.Bookings

namespace Heritage.Office

open Heritage.Store

/-- Some page of the list shows the item. -/
def Listed {ε ι : Type} (pageSize : PageSize)
    (list : PageQuery → Except ε (ListResult ι)) (item : ι) : Prop :=
  ∃ query result,
    query.pageSize = pageSize ∧ list query = .ok result ∧
      item ∈ result.items

section Listed

variable {ε α ρ ι : Type} {createdAt : ρ → Timestamp} {id : ρ → Uuid}
  {toItem : ρ → ι} {pageSize : PageSize} {rows : List ρ}

theorem mem_items_iff {item : ι} :
    (∃ query : PageQuery,
      query.pageSize = pageSize ∧
        item ∈ (pageResult createdAt id toItem query rows).items) ↔
      ∃ row ∈ rows, toItem row = item := by
  constructor
  · rintro ⟨query, -, member⟩
    obtain ⟨row, onPage, shown⟩ := List.mem_map.mp member
    exact ⟨row, mem_latestFirst.mp (mem_of_mem_pageOf onPage), shown⟩
  · rintro ⟨row, member, shown⟩
    have ordered : row ∈ latestFirst createdAt id rows :=
      mem_latestFirst.mpr member
    obtain ⟨page, isPage, onPage⟩ :=
      (mem_iff_exists_page pageSize.atLeast).mp ordered
    exact
      ⟨⟨page, isPage, pageSize⟩, rfl, List.mem_map.mpr ⟨row, onPage, shown⟩⟩

/-- A row is listed exactly when its actor is admitted and keeps it, where the
item shows everything that decides this. -/
theorem listed_iff {admitted : Except ε α} {keeps : α → ρ → Bool}
    {list : PageQuery → Except ε (ListResult ι)} {row : ρ}
    (lists :
      ∀ query,
        list query =
          admitted >>= fun actor =>
            .ok
              (pageResult createdAt id toItem query
                (rows.filter (keeps actor))))
    (stored : row ∈ rows)
    (shows :
      ∀ actor other, toItem other = toItem row →
        keeps actor other = keeps actor row) :
    Listed pageSize list (toItem row) ↔
      ∃ actor, admitted = .ok actor ∧ keeps actor row := by
  simp only [Listed, lists, bind_eq_ok, Except.ok.injEq]
  constructor
  · rintro ⟨query, result, sameSize, ⟨actor, isAdmitted, rfl⟩, member⟩
    obtain ⟨other, kept, shown⟩ :=
      mem_items_iff.mp ⟨query, sameSize, member⟩
    refine ⟨actor, isAdmitted, ?_⟩
    rw [← shows actor other shown]
    exact (List.mem_filter.mp kept).2
  · rintro ⟨actor, isAdmitted, keepsRow⟩
    obtain ⟨query, sameSize, member⟩ :=
      mem_items_iff.mpr
        ⟨row, List.mem_filter.mpr ⟨stored, keepsRow⟩, rfl⟩
    exact ⟨query, _, sameSize, ⟨actor, isAdmitted, rfl⟩, member⟩

end Listed

end Heritage.Office
