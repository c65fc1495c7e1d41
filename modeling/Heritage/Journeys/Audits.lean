import Heritage.Journeys.System
import Heritage.Store.Trail

/-!
# The audit entries of proposals, responses and bookings

An attempt writes nothing, or writes and adds one entry that names its actor.
The entries about proposals, new bookings and status changes stand apart.
-/

namespace Heritage

open Heritage.Store

namespace Proposals

section Writes

variable {tables : Tables}

theorem createProposalWithFirstVersion_leaves (versionId : Uuid)
    (now : Timestamp) (input : CreateProposalRow) :
    Leaves (createProposalWithFirstVersion tables versionId now input)
      fun written => written.auditLogs = tables.auditLogs := by
  iterate 2
    apply leaves_bind
    intro _ _
  exact leaves_ok rfl

theorem createProposalRevision_leaves (versionId : Uuid) (now : Timestamp)
    (input : CreateProposalRevisionRow) :
    Leaves (createProposalRevision tables versionId now input)
      fun written => written.auditLogs = tables.auditLogs :=
  leaves_bind fun _ _ => leaves_ok rfl

theorem updateVersion_leaves (id : Uuid)
    (change : ProposalVersion → ProposalVersion) :
    Leaves (updateVersion tables id change) fun written =>
      written.auditLogs = tables.auditLogs := by
  iterate 2
    apply leaves_bind
    intro _ _
  exact leaves_ok rfl

theorem auditLogs_of_supersedeCurrent {now : Timestamp}
    {current : Option ProposalVersion} {superseded : Tables}
    (supersedes : supersedeCurrent tables now current = .ok superseded) :
    superseded.auditLogs = tables.auditLogs := by
  cases current with
  | none =>
      cases supersedes
      rfl
  | some version =>
      obtain ⟨marked, marks, returned⟩ := bind_eq_ok.mp supersedes
      cases returned
      exact updateVersion_leaves _ _ _ _ marks

end Writes

/-- The change is documented by entries of one user. -/
def DocumentedBy (actorId : Uuid) : Tables → Tables → Prop :=
  Documented Tables.auditLogs fun entry => entry.actorId = actorId

section Transactions

variable {context : RequestContext} {author : ProposalActor}
  {tables : Tables}

theorem createProposalTransaction_documented (input : CreateProposalInput) :
    Leaves (createProposalTransaction context author input tables)
      (DocumentedBy author.id tables) := by
  apply leaves_bind
  intro _ _
  refine leaves_seq (createProposalWithFirstVersion_leaves _ _ _) ?_
  intro created written same
  exact leaves_ok (documented_insert (continues_of_eq same) rfl rfl)

theorem createProposalRevisionTransaction_documented (proposalId : Uuid)
    (input : CreateProposalRevisionInput) :
    Leaves
      (createProposalRevisionTransaction context author proposalId input
        tables)
      (DocumentedBy author.id tables) := by
  iterate 2
    apply leaves_bind
    intro _ _
  refine leaves_seq (createProposalRevision_leaves _ _ _) ?_
  intro version written same
  exact leaves_ok (documented_insert (continues_of_eq same) rfl rfl)

theorem publishProposalVersionTransaction_documented (versionId : Uuid)
    (input : PublishProposalVersionInput) :
    Leaves
      (publishProposalVersionTransaction context author versionId input
        tables)
      (DocumentedBy author.id tables) := by
  apply leaves_bind
  intro target _
  apply leaves_bind
  intro _ _
  dsimp only
  split
  · exact leaves_ok documented_refl
  · iterate 2
      apply leaves_bind
      intro _ _
    apply leaves_bind
    intro superseded supersedes
    refine leaves_seq (updateVersion_leaves _ _) ?_
    intro updated written same
    have unlogged : written.auditLogs = tables.auditLogs :=
      same.trans (auditLogs_of_supersedeCurrent supersedes)
    exact leaves_ok (documented_insert (continues_of_eq unlogged) rfl rfl)

/-- An attempt of an author accounts for what it writes. -/
theorem attempt_documented (operation : Operation) (number : Nat) :
    DocumentedBy author.id tables
      (attempt context author operation number tables).2 := by
  have leaves :
      Leaves (transaction context author operation tables)
        (DocumentedBy author.id tables) := by
    cases operation with
    | createProposal input =>
        exact createProposalTransaction_documented input
    | createProposalRevision proposalId input =>
        exact createProposalRevisionTransaction_documented proposalId input
    | publishProposalVersion versionId input =>
        exact publishProposalVersionTransaction_documented versionId input
  have served :
      (attempt context author operation number tables).2 =
        (transact (transaction context author operation) tables).2 := by
    unfold attempt
    cases transact (transaction context author operation) tables with
    | mk outcome stored =>
        cases outcome <;> rfl
  rw [served]
  exact transact_leaves documented_refl leaves

end Transactions

/-- The entries beside the proposals and their responses. -/
def portalLogs (tables : PortalTables) : List AuditLog :=
  tables.auditLogs

section Responses

variable {context : RequestContext} {tables : PortalTables}

theorem createExternalProposalAcceptance_leaves
    (input : CreateExternalProposalAcceptanceInput) :
    Leaves (createExternalProposalAcceptance tables context input)
      fun written => portalLogs written = portalLogs tables :=
  leaves_bind fun _ _ => leaves_ok rfl

theorem createPortalProposalAcceptance_leaves
    (input : CreatePortalProposalAcceptanceInput) :
    Leaves (createPortalProposalAcceptance tables context input)
      fun written => portalLogs written = portalLogs tables :=
  leaves_bind fun _ _ => leaves_ok rfl

theorem recordProposalResponseTransaction_documented
    (proposalActor : ProposalActor) (versionId : Uuid)
    (input : RecordProposalResponseInput) :
    Leaves
      (recordProposalResponseTransaction context proposalActor versionId
        input tables)
      (Documented portalLogs (fun entry => entry.actorId = proposalActor.id)
        tables) := by
  apply leaves_bind
  intro target _
  iterate 3
    apply leaves_bind
    intro _ _
  refine leaves_seq (createExternalProposalAcceptance_leaves _) ?_
  intro acceptance written same
  exact leaves_ok (documented_insert (continues_of_eq same) rfl rfl)

theorem submitClientProposalResponseTransaction_documented
    (actor : AuthenticatedUser) (ownedClientId : Uuid)
    (input : SubmitClientProposalResponseInput) :
    Leaves
      (submitClientProposalResponseTransaction context actor ownedClientId
        input tables)
      (Documented portalLogs (fun entry => entry.actorId = actor.id)
        tables) := by
  iterate 6
    apply leaves_bind
    intro _ _
  refine leaves_seq (createPortalProposalAcceptance_leaves _) ?_
  intro acceptance written same
  exact leaves_ok (documented_insert (continues_of_eq same) rfl rfl)

end Responses

end Proposals

namespace Bookings

variable {context : RequestContext} {database : Database}

theorem updateBookingStatusWithHistory_leaves (booking : BookingRecord)
    (row : BookingStatusHistory) :
    Leaves (updateBookingStatusWithHistory database booking row)
      fun written =>
        written.auditLogs = database.auditLogs ∧
          written.ledger.auditLogs = database.ledger.auditLogs :=
  leaves_bind fun _ _ => leaves_ok ⟨rfl, rfl⟩

/-- A status change accounts for what it writes, and adds no payment entry. -/
theorem updateBookingStatusTransaction_documented (actor : BookingActor)
    (id : Uuid) (input : UpdateBookingStatusInput) :
    Leaves (updateBookingStatusTransaction context actor id input database)
      fun after =>
        Documented Database.auditLogs (fun entry => entry.actorId = actor.id)
            database after ∧
          after.ledger.auditLogs = database.ledger.auditLogs := by
  apply leaves_bind
  intro found _
  dsimp only
  split
  · exact leaves_ok ⟨documented_refl, rfl⟩
  · iterate 2
      apply leaves_bind
      intro _ _
    refine leaves_seq (updateBookingStatusWithHistory_leaves _ _) ?_
    intro updated written same
    exact
      leaves_ok
        ⟨documented_insert (continues_of_eq same.1) rfl rfl, same.2⟩

theorem id_of_assertBookingActor {user : AuthenticatedUser}
    {actor : BookingActor} (isActor : assertBookingActor user = .ok actor) :
    actor.id = user.id := by
  unfold assertBookingActor at isActor
  split at isActor
  · cases isActor
    rfl
  · cases isActor
    rfl
  · cases isActor

theorem updateBookingStatus_documented (user : AuthenticatedUser) (id : Uuid)
    (input : UpdateBookingStatusInput) :
    Documented Database.auditLogs (fun entry => entry.actorId = user.id)
        database (updateBookingStatus context user id input database).2 ∧
      (updateBookingStatus context user id input database).2.ledger.auditLogs =
        database.ledger.auditLogs := by
  unfold updateBookingStatus
  cases outcome : assertBookingActor user with
  | error failure =>
      exact ⟨documented_refl, rfl⟩
  | ok actor =>
      rw [← id_of_assertBookingActor outcome]
      have leaves :=
        @updateBookingStatusTransaction_documented context database actor id
          input
      have documented :=
        transact_leaves ⟨documented_refl, rfl⟩ leaves
      dsimp only
      cases served :
          transact (updateBookingStatusTransaction context actor id input)
            database with
      | mk result stored =>
          rw [served] at documented
          cases result with
          | ok booking => exact documented
          | error failure => exact documented

end Bookings

namespace Journeys

open Bookings

variable {context : AttemptContext} {database : Database}

/-- The logs a new booking adds no entry to. -/
structure OtherLogsKept (before after : Database) : Prop where
  proposing : after.proposing = before.proposing
  statuses : after.booking.auditLogs = before.booking.auditLogs
  payments : after.booking.ledger.auditLogs = before.booking.ledger.auditLogs

theorem createBookingWithInitialHistory_leaves
    (drawn : RequestContext) (input : CreateBookingRow) :
    Leaves (createBookingWithInitialHistory database drawn input)
      fun written =>
        written.creationLogs = database.creationLogs ∧
          OtherLogsKept database written := by
  iterate 4
    apply leaves_bind
    intro _ _
  exact leaves_ok ⟨rfl, rfl, rfl, rfl⟩

theorem attemptCreateBooking_documented (actor : BookingActor)
    (input : CreateBookingInput) :
    Leaves (attemptCreateBooking context actor input database)
      fun after =>
        Documented Database.creationLogs
            (fun entry => entry.actorId = actor.id) database after ∧
          OtherLogsKept database after := by
  unfold attemptCreateBooking
  split
  · exact leaves_ok ⟨documented_refl, rfl, rfl, rfl⟩
  · apply leaves_bind
    intro eligible _
    apply leaves_bind
    intro _ _
    refine leaves_seq (createBookingWithInitialHistory_leaves _ _) ?_
    intro created written same
    obtain ⟨sameLog, others⟩ := same
    apply leaves_ok
    exact
      ⟨documented_insert (continues_of_eq sameLog) rfl rfl,
        others.proposing, others.statuses, others.payments⟩

/-- An attempt to create a booking accounts for what it writes. -/
theorem createBookingAttempt_documented (actor : BookingActor)
    (input : CreateBookingInput) (number : Nat) :
    Documented Database.creationLogs (fun entry => entry.actorId = actor.id)
        database
        (createBookingAttempt context actor input number database).2 ∧
      OtherLogsKept database
        (createBookingAttempt context actor input number database).2 := by
  have documented :=
    transact_leaves ⟨documented_refl, rfl, rfl, rfl⟩
      (@attemptCreateBooking_documented context database actor input)
  unfold createBookingAttempt
  cases served :
      transact (attemptCreateBooking context actor input) database with
  | mk result stored =>
      rw [served] at documented
      cases result with
      | ok value => exact documented
      | error failure => exact documented

end Journeys

end Heritage
