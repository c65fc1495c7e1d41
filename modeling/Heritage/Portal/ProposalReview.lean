import Heritage.Calendar.DateTime
import Heritage.Journeys.TravelStatus
import Heritage.Portal.Pages

/-!
# The proposal review pages of a client

`findClientProposalReviewPage` and `getClientProposalReviewPage`.  A page has
the cards a client sees and, in the same order, the identifiers the server
keeps to itself.
-/

namespace Heritage.Portal

open Heritage.Store
open Heritage.Proposals
open Heritage.Journeys (clientVisibleVersionBaseWhere)

def clientProposalReviewPageSize : Nat := 10

structure ReviewAcceptance where
  responseType : ProposalResponseType
  respondedAt : Timestamp
  deriving DecidableEq, Repr

structure ClientProposalReviewRow where
  proposalVersionId : Uuid
  proposalId : Uuid
  versionNumber : Nat
  content : Option String
  clientVisibleAt : Timestamp
  acceptance : Option ReviewAcceptance
  deriving DecidableEq, Repr

def countCurrentClientVisibleProposalVersions (tables : PortalTables)
    (clientId : Uuid) : Nat :=
  tables.versions.countP
    (clientVisibleVersionBaseWhere tables.toTables clientId)

/-- When the proposal of a version was created. -/
def proposalCreatedAt (tables : PortalTables) (version : ProposalVersion) :
    Timestamp :=
  ((findBy Proposal.id version.proposalId tables.proposals).map
    Proposal.createdAt).getD 0

/-- The versions a client sees, the newest proposal first and the smaller id
first among proposals created together. -/
def visibleVersions (tables : PortalTables) (clientId : Uuid) :
    List ProposalVersion :=
  newestFirst (proposalCreatedAt tables) ProposalVersion.proposalId
    (tables.versions.filter
      (clientVisibleVersionBaseWhere tables.toTables clientId))

/-- The predicate of the query requires `clientVisibleAt`. -/
def reviewRow (tables : PortalTables) (version : ProposalVersion) :
    ClientProposalReviewRow where
  proposalVersionId := version.id
  proposalId := version.proposalId
  versionNumber := version.versionNumber
  content := version.content
  clientVisibleAt := version.clientVisibleAt.getD 0
  acceptance :=
    (findProposalAcceptanceForVersion tables version.id).map fun acceptance =>
      ⟨acceptance.responseType, acceptance.respondedAt⟩

def findClientProposalReviewPage (tables : PortalTables) (clientId : Uuid)
    (skip take : Nat) : List ClientProposalReviewRow :=
  (((visibleVersions tables clientId).drop skip).take take).map
    (reviewRow tables)

inductive ClientProposalReviewContent where
  | unavailable
  | available (text : String)
  deriving DecidableEq, Repr

structure ClientProposalReviewResponse where
  responseType : ProposalResponseType
  respondedAt : String
  deriving DecidableEq, Repr

structure ClientProposalReviewCard where
  versionNumber : Nat
  publishedAt : String
  content : ClientProposalReviewContent
  response : Option ClientProposalReviewResponse
  statusLabel : String
  deriving DecidableEq, Repr

structure ClientProposalReviewRender where
  page : Nat
  hasPrevious : Bool
  hasNext : Bool
  isEmpty : Bool
  cards : List ClientProposalReviewCard
  deriving DecidableEq, Repr

structure ClientProposalReviewServerCard where
  proposalVersionId : Uuid
  proposalId : Uuid
  deriving DecidableEq, Repr

structure ClientProposalReviewPage where
  render : ClientProposalReviewRender
  /-- `serverModel.cards`. -/
  serverCards : List ClientProposalReviewServerCard
  deriving DecidableEq, Repr

/-- `CLIENT_PROPOSAL_STATUS_LABELS`. -/
def clientProposalStatusLabel : Option ProposalResponseType → String
  | none => "Awaiting your response"
  | some .accept => "Accepted"
  | some .decline => "Declined"
  | some .requestChanges => "Changes requested"

def toClientProposalReviewContent :
    Option String → ClientProposalReviewContent
  | none => .unavailable
  | some text => .available text

/-- `Date.prototype.toISOString`. -/
def isoText (instant : Timestamp) : String :=
  String.ofList (Calendar.toISOString instant)

def toClientProposalReviewResponse (acceptance : Option ReviewAcceptance) :
    Option ClientProposalReviewResponse :=
  acceptance.map fun response =>
    ⟨response.responseType, isoText response.respondedAt⟩

def reviewCard (row : ClientProposalReviewRow) :
    ClientProposalReviewCard where
  versionNumber := row.versionNumber
  publishedAt := isoText row.clientVisibleAt
  content := toClientProposalReviewContent row.content
  response := toClientProposalReviewResponse row.acceptance
  statusLabel :=
    clientProposalStatusLabel (row.acceptance.map ReviewAcceptance.responseType)

def serverCard (row : ClientProposalReviewRow) :
    ClientProposalReviewServerCard :=
  ⟨row.proposalVersionId, row.proposalId⟩

def toClientProposalReviewPage (rows : List ClientProposalReviewRow)
    (page : Nat) (hasPrevious : Bool) : ClientProposalReviewPage :=
  let pageRows := rows.take clientProposalReviewPageSize
  { render :=
      { page := page
        hasPrevious := hasPrevious
        hasNext := clientProposalReviewPageSize < rows.length
        isEmpty := pageRows.isEmpty
        cards := pageRows.map reviewCard }
    serverCards := pageRows.map serverCard }

def assertClientPortalAccess (tables : PortalTables)
    (actor : AuthenticatedUser) (clientId : Uuid) : Except TxError Unit := do
  assertClientPortalActor actor
  require
    (canAccessClient tables.staffAssignments tables.clientProfiles actor
      clientId)
    (proposalError .clientForbidden clientForbiddenMessage)

def getClientProposalReviewPage (tables : PortalTables)
    (actor : AuthenticatedUser) (clientId : Uuid) (page : Rat) :
    Except TxError (PageResult ClientProposalReviewPage) := do
  assertClientPortalAccess tables actor clientId
  .ok <|
    readPage clientProposalReviewPageSize
      (countCurrentClientVisibleProposalVersions tables clientId)
      (findClientProposalReviewPage tables clientId)
      toClientProposalReviewPage page

section Pages

variable (tables : PortalTables) (clientId : Uuid)

/-- The rows of a client's review, in the order of the query. -/
def reviewRows : List ClientProposalReviewRow :=
  (visibleVersions tables clientId).map (reviewRow tables)

/-- The page that shows these rows. -/
def reviewPageFor (number : Nat) (rows : List ClientProposalReviewRow)
    (hasNext : Bool) : ClientProposalReviewPage where
  render :=
    { page := number
      hasPrevious := 1 < number
      hasNext := hasNext
      isEmpty := rows.isEmpty
      cards := rows.map reviewCard }
  serverCards := rows.map serverCard

theorem length_reviewRows :
    (reviewRows tables clientId).length =
      countCurrentClientVisibleProposalVersions tables clientId := by
  rw [reviewRows, List.length_map, visibleVersions,
    (newestFirst_perm _ _ _).length_eq]
  exact List.countP_eq_length_filter.symm

theorem reviewPages_showAll
    (counted : (reviewRows tables clientId).length ≤ maxSafeInteger) :
    ShowsAll clientProposalReviewPageSize (reviewRows tables clientId)
      (readPage clientProposalReviewPageSize
        (countCurrentClientVisibleProposalVersions tables clientId)
        (findClientProposalReviewPage tables clientId)
        toClientProposalReviewPage)
      reviewPageFor := by
  rw [← length_reviewRows]
  apply readPage_showsAll (by decide) counted
  · intro skip take
    rw [findClientProposalReviewPage, reviewRows, List.map_take,
      List.map_drop]
  · intro number isPage
    unfold toClientProposalReviewPage reviewPageFor
    simp only [take_lookAhead,
      lt_length_lookAhead_iff (by decide : 0 < clientProposalReviewPageSize)
        isPage]

end Pages

end Heritage.Portal
