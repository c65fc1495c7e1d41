import Heritage.Journeys.Commits
import Heritage.Proposals.Lifecycle
import Heritage.Store.History

/-!
# What journeys keep

Responses, the versions of bookings and status histories are only added to;
the client of a version stays; a booking keeps its client and moves along
allowed transitions.
-/

namespace Heritage.Journeys

open Heritage.Store
open Heritage.Proposals
open Heritage.Bookings
open Heritage.Payments (Booking BookingStatus withBookingStatus)

section VersionClient

variable {tables after : Proposals.Tables} {versionId clientId : Uuid}

theorem versionClient_eq_some :
    versionClient tables versionId = some clientId ↔
      ∃ version proposal,
        findBy ProposalVersion.id versionId tables.versions = some version ∧
          findBy Proposal.id version.proposalId tables.proposals =
            some proposal ∧
          proposal.clientId = clientId := by
  simp [versionClient, findProposalVersionContext, Option.bind_eq_some_iff]

theorem proposals_prefix_of_write (write : Write tables after) :
    tables.proposals <+: after.proposals := by
  cases write with
  | created => exact List.prefix_append _ _
  | revised => exact List.prefix_rfl
  | published => exact List.prefix_rfl

theorem versionClient_of_write (lifecycle : Lifecycle tables)
    (write : Write tables after)
    (own : versionClient tables versionId = some clientId) :
    versionClient after versionId = some clientId := by
  rw [versionClient_eq_some] at own ⊢
  obtain ⟨version, proposal, foundVersion, foundProposal, sameClient⟩ := own
  obtain ⟨later, member, kept⟩ :=
    write.kept lifecycle version (mem_of_findBy foundVersion)
  have foundLater :=
    findBy_of_mem (write.lifecycle lifecycle).versionIds member
  rw [kept.id, key_of_findBy foundVersion] at foundLater
  refine ⟨later, proposal, foundLater, ?_, sameClient⟩
  rw [kept.proposalId]
  exact findBy_of_grown (proposals_prefix_of_write write) foundProposal

end VersionClient

/-- A chain of allowed transitions. -/
def Reaches : BookingStatus → BookingStatus → Prop :=
  Relation.ReflTransGen fun current next => isTransitionAllowed current next

/-- What a booking never changes. -/
def bookingCore (booking : Booking) : Uuid × Uuid × String × Timestamp :=
  (booking.id, booking.clientId, booking.bookingReference, booking.createdAt)

/-- The later row is the booking, further along. -/
structure Advanced (booking later : Booking) : Prop where
  core : bookingCore later = bookingCore booking
  reaches : Reaches booking.status later.status

theorem Advanced.refl (booking : Booking) : Advanced booking booking :=
  ⟨rfl, .refl⟩

theorem Advanced.trans {first second third : Booking}
    (earlier : Advanced first second) (later : Advanced second third) :
    Advanced first third :=
  ⟨later.core.trans earlier.core, earlier.reaches.trans later.reaches⟩

structure Extends (earlier later : Database) : Prop where
  profiles :
    earlier.proposing.clientProfiles <+: later.proposing.clientProfiles
  acceptances : earlier.proposing.acceptances <+: later.proposing.acceptances
  clients :
    ∀ versionId clientId,
      versionClient earlier.proposing.toTables versionId = some clientId →
        versionClient later.proposing.toTables versionId = some clientId
  sources : earlier.sources <+: later.sources
  bookings :
    ∀ id booking,
      findBy Booking.id id earlier.bookings = some booking →
        ∃ kept,
          findBy Booking.id id later.bookings = some kept ∧
            Advanced booking kept
  histories : earlier.booking.statusHistory <+: later.booking.statusHistory

theorem Extends.refl (database : Database) : Extends database database where
  profiles := List.prefix_rfl
  acceptances := List.prefix_rfl
  clients := fun _ _ own => own
  sources := List.prefix_rfl
  bookings := fun _ booking found => ⟨booking, found, Advanced.refl booking⟩
  histories := List.prefix_rfl

theorem Extends.trans {first second third : Database}
    (earlier : Extends first second) (later : Extends second third) :
    Extends first third where
  profiles := earlier.profiles.trans later.profiles
  acceptances := earlier.acceptances.trans later.acceptances
  clients := fun versionId clientId own =>
    later.clients versionId clientId (earlier.clients versionId clientId own)
  sources := earlier.sources.trans later.sources
  bookings := by
    intro id booking found
    obtain ⟨middle, foundMiddle, advanced⟩ := earlier.bookings id booking found
    obtain ⟨last, foundLast, further⟩ := later.bookings id middle foundMiddle
    exact ⟨last, foundLast, advanced.trans further⟩
  histories := earlier.histories.trans later.histories

theorem extends_withStaffAssignments (database : Database)
    (staffAssignments : List StaffAssignment) :
    Extends database (withStaffAssignments staffAssignments database) :=
  { Extends.refl database with }

theorem addProfile_prefix (profiles : List ClientProfile)
    (profile : ClientProfile) : profiles <+: addProfile profiles profile := by
  unfold addProfile
  split
  · exact List.prefix_append _ _
  · exact List.prefix_rfl

theorem extends_withProfile (database : Database) (profile : ClientProfile) :
    Extends database (withProfile profile database) :=
  { Extends.refl database with profiles := addProfile_prefix _ profile }

/-- One transition advances one booking and keeps the others. -/
theorem withTransition_advances {database : Database} {moved : Booking}
    {row : BookingStatusHistory} {logs : List BookingAuditLog}
    (foundMoved :
      findBy Booking.id row.bookingId database.bookings = some moved)
    (allowed : isTransitionAllowed moved.status row.newStatus)
    {id : Uuid} {booking : Booking}
    (found : findBy Booking.id id database.bookings = some booking) :
    ∃ kept,
      findBy Booking.id id (withTransition database row logs).bookings =
          some kept ∧
        Advanced booking kept := by
  by_cases same : id = row.bookingId
  · subst same
    obtain rfl : moved = booking :=
      Option.some.inj (foundMoved.symm.trans found)
    exact
      ⟨withBookingStatus row.newStatus moved,
        findBy_updateBy_self (fun _ => rfl) found, rfl, .single allowed⟩
  · have kept :
        findBy Booking.id id (withTransition database row logs).bookings =
          some booking := by
      rw [← found]
      exact
        @findBy_updateBy_other _ _ _ Booking.id row.bookingId
          (withBookingStatus row.newStatus) database.bookings id
          (fun _ => rfl) same
    exact ⟨booking, kept, Advanced.refl booking⟩

theorem Commit.extends {database after : Database}
    (lifecycle : Lifecycle database.proposing.toTables)
    (commit : Commit database after) : Extends database after := by
  cases commit with
  | unchanged => exact Extends.refl database
  | authored tables write =>
      exact
        { Extends.refl database with
          clients := fun _ _ => versionClient_of_write lifecycle write }
  | responded row tables response =>
      obtain ⟨logs, rfl⟩ := response.written
      exact
        { Extends.refl database with
          acceptances := List.prefix_append _ _ }
  | booked versionId booking history after creation =>
      obtain ⟨logs, rfl⟩ := creation.written
      exact
        { Extends.refl database with
          sources := List.prefix_append _ _
          bookings := fun id old found =>
            ⟨old, findBy_append_of_found _ found, Advanced.refl old⟩
          histories := List.prefix_append _ _ }
  | moved booking row logs found allowed previous =>
      exact
        { Extends.refl database with
          bookings := fun id old =>
            withTransition_advances found allowed
          histories := List.prefix_append _ _ }

theorem Commit.lifecycle {database after : Database}
    (lifecycle : Lifecycle database.proposing.toTables)
    (commit : Commit database after) :
    Lifecycle after.proposing.toTables := by
  cases commit with
  | unchanged => exact lifecycle
  | authored tables write => exact write.lifecycle lifecycle
  | responded row tables response =>
      obtain ⟨logs, rfl⟩ := response.written
      exact { lifecycle with }
  | booked versionId booking history after creation =>
      obtain ⟨logs, rfl⟩ := creation.written
      exact lifecycle
  | moved => exact lifecycle

theorem step_lifecycle (state : State) (request : Request)
    (lifecycle : Lifecycle state.database.proposing.toTables) :
    Lifecycle (step state request).database.proposing.toTables :=
  @step_commits (fun after => Lifecycle after.proposing.toTables) state
    request (fun _ => { lifecycle with }) (fun _ => lifecycle)
    (fun _ commit => commit.lifecycle lifecycle)

theorem lifecycle_databaseAfter (requests : List Request) :
    Lifecycle (databaseAfter requests).proposing.toTables :=
  @run_invariant _ _ step
    (fun state => Lifecycle state.database.proposing.toTables) State.initial
    lifecycle_empty step_lifecycle requests

theorem step_extends (state : State) (request : Request)
    (lifecycle : Lifecycle state.database.proposing.toTables) :
    Extends state.database (step state request).database :=
  @step_commits (Extends state.database) state request
    (extends_withStaffAssignments state.database)
    (extends_withProfile state.database)
    (fun _ commit => commit.extends lifecycle)

/-- Whatever was stored is kept by the rest of the run. -/
theorem databaseAfter_extends (requests more : List Request) :
    Extends (databaseAfter requests) (databaseAfter (requests ++ more)) := by
  unfold databaseAfter stateAfter
  rw [run_append]
  exact
    @run_related _ _ step
      (fun state => Lifecycle state.database.proposing.toTables)
      (fun earlier later => Extends earlier.database later.database)
      (fun current => Extends.refl current.database)
      (fun first second => first.trans second) step_lifecycle step_extends _
      (lifecycle_databaseAfter requests) more

end Heritage.Journeys
