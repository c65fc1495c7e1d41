import Heritage.Journeys.Persistence

/-!
# The invariant of journeys

One response a version, one booking a version, and for each booking a history
that leads along allowed transitions to its status.
-/

namespace Heritage.Journeys

open Heritage.Store
open Heritage.Proposals
open Heritage.Bookings
open Heritage.Payments (Booking BookingStatus withBookingStatus)

/-- The history rows of a booking, oldest first. -/
def historyOf (database : Database) (bookingId : Uuid) :
    List BookingStatusHistory :=
  database.booking.statusHistory.filter fun row => row.bookingId = bookingId

/-- The history starts in `DRAFT`, goes on by allowed transitions, each from
where the one before it ended, and ends in `status`. -/
def StatusPath (history : List BookingStatusHistory)
    (status : BookingStatus) : Prop :=
  ∃ first rest,
    history = first :: rest ∧
      first.previousStatus = none ∧
      first.newStatus = .draft ∧
      Chained BookingStatusHistory.previousStatus
        (fun row => some row.newStatus) (some .draft) rest (some status) ∧
      ∀ row ∈ rest,
        row.previousStatus.any fun previous =>
          isTransitionAllowed previous row.newStatus

theorem statusPath_singleton {row : BookingStatusHistory}
    (fromNothing : row.previousStatus = none) (toDraft : row.newStatus = .draft) :
    StatusPath [row] .draft :=
  ⟨row, [], rfl, fromNothing, toDraft, rfl, by simp⟩

theorem StatusPath.concat {history : List BookingStatusHistory}
    {status : BookingStatus} {row : BookingStatusHistory}
    (path : StatusPath history status)
    (previous : row.previousStatus = some status)
    (allowed : isTransitionAllowed status row.newStatus) :
    StatusPath (history ++ [row]) row.newStatus := by
  obtain ⟨first, rest, rfl, fromNothing, toDraft, chained, steps⟩ := path
  rw [← previous] at chained
  refine
    ⟨first, rest ++ [row], rfl, fromNothing, toDraft,
      chained_concat chained rfl, ?_⟩
  intro item member
  rcases List.mem_append.mp member with old | new
  · exact steps item old
  · rw [List.mem_singleton.mp new, previous]
    exact allowed

structure Sound (database : Database) : Prop where
  profileIds :
    (database.proposing.clientProfiles.map ClientProfile.id).Nodup
  onePerVersion :
    (database.proposing.acceptances.map
      ProposalAcceptance.proposalVersionId).Nodup
  attributed :
    ∀ row ∈ database.proposing.acceptances, Attributed database.proposing row
  bookingIds : (database.bookings.map Booking.id).Nodup
  columns :
    database.sources.map BookingSource.bookingId =
      database.bookings.map Booking.id
  oneBooking :
    (database.sources.map BookingSource.proposalVersionId).Nodup
  accepted :
    ∀ source ∈ database.sources, ∃ acceptance,
      findProposalAcceptanceForVersion database.proposing
          source.proposalVersionId =
          some acceptance ∧
        acceptance.responseType = .accept
  ownClient :
    ∀ source ∈ database.sources, ∀ booking,
      findBy Booking.id source.bookingId database.bookings = some booking →
        versionClient database.proposing.toTables source.proposalVersionId =
          some booking.clientId
  historyKnown :
    ∀ row ∈ database.booking.statusHistory,
      row.bookingId ∈ database.bookings.map Booking.id
  paths :
    ∀ booking ∈ database.bookings,
      StatusPath (historyOf database booking.id) booking.status

theorem sound_empty : Sound Database.empty := by
  constructor <;>
    simp [Database.empty, PortalTables.empty, Database.bookings,
      Bookings.Database.empty, Payments.Tables.empty]

section Preserved

variable {database after : Database}

/-- A response stays attributed while the database grows. -/
theorem attributed_of_extends (kept : Extends database after)
    {row : ProposalAcceptance}
    (attributed : Attributed database.proposing row) :
    Attributed after.proposing row := by
  rcases attributed with external | ⟨portal, profile, member, own, client⟩
  · exact Or.inl external
  · right
    exact
      ⟨portal, profile, kept.profiles.subset member, own,
        kept.clients _ _ client⟩

theorem Sound.withStaffAssignments (sound : Sound database)
    (staffAssignments : List StaffAssignment) :
    Sound (withStaffAssignments staffAssignments database) :=
  { sound with }

theorem Sound.withProfile (sound : Sound database) (profile : ClientProfile) :
    Sound (withProfile profile database) :=
  { sound with
    profileIds := by
      unfold Journeys.withProfile addProfile
      dsimp only
      split
      · rename_i fresh
        exact
          nodup_map_concat sound.profileIds
            (Option.isNone_iff_eq_none.mp fresh.1)
      · exact sound.profileIds
    attributed := fun row member =>
      attributed_of_extends (extends_withProfile database profile)
        (sound.attributed row member) }

theorem Sound.authored (sound : Sound database) {tables : Proposals.Tables}
    (lifecycle : Lifecycle database.proposing.toTables)
    (write : Write database.proposing.toTables tables) :
    Sound
      { database with
        proposing := { database.proposing with toTables := tables } } := by
  have kept := (Commit.authored tables write).extends lifecycle
  exact
    { sound with
      attributed := fun row member =>
        attributed_of_extends kept (sound.attributed row member)
      ownClient := fun source member booking found =>
        kept.clients _ _ (sound.ownClient source member booking found) }

theorem Sound.responded (sound : Sound database) {row : ProposalAcceptance}
    {tables : PortalTables}
    (lifecycle : Lifecycle database.proposing.toTables)
    (response : Response database.proposing row tables) :
    Sound { database with proposing := tables } := by
  have kept := (Commit.responded row tables response).extends lifecycle
  have attributed := response.attributed
  obtain ⟨logs, rfl⟩ := response.written
  exact
    { sound with
      onePerVersion :=
        nodup_map_concat sound.onePerVersion response.unanswered
      attributed := by
        intro other member
        apply attributed_of_extends kept
        rcases List.mem_append.mp member with old | new
        · exact sound.attributed other old
        · rw [List.mem_singleton.mp new]
          exact attributed
      accepted := by
        intro source member
        obtain ⟨acceptance, found, accepts⟩ := sound.accepted source member
        exact ⟨acceptance, findBy_of_grown kept.acceptances found, accepts⟩ }

theorem Sound.booked (sound : Sound database) {versionId : Uuid}
    {booking : Booking} {history : BookingStatusHistory}
    (creation : Creation database versionId booking history after) :
    Sound after := by
  have freshBooking := creation.freshId
  have unknown : booking.id ∉ database.bookings.map Booking.id := by
    intro listed
    obtain ⟨other, found⟩ := exists_findBy_of_mem_map listed
    rw [freshBooking] at found
    cases found
  have ofOthers :
      ∀ {id : Uuid} {found : Booking},
        findBy Booking.id id (database.bookings ++ [booking]) = some found →
          id ∈ database.bookings.map Booking.id →
            findBy Booking.id id database.bookings = some found := by
    intro id found foundLater listed
    obtain ⟨old, foundOld⟩ := exists_findBy_of_mem_map listed
    rw [findBy_append_of_found _ foundOld] at foundLater
    exact foundOld.trans foundLater
  obtain ⟨logs, rfl⟩ := creation.written
  exact
    { sound with
      bookingIds := nodup_map_concat sound.bookingIds freshBooking
      columns := by
        simp only [Database.bookings, List.map_append, List.map_cons,
          List.map_nil, sound.columns]
      oneBooking := nodup_map_concat sound.oneBooking creation.freshVersion
      accepted := by
        intro source member
        rcases List.mem_append.mp member with old | new
        · exact sound.accepted source old
        · rw [List.mem_singleton.mp new]
          exact creation.accepted
      ownClient := by
        intro source member other found
        rcases List.mem_append.mp member with old | new
        · have listed : source.bookingId ∈ database.bookings.map Booking.id := by
            rw [← sound.columns]
            exact List.mem_map_of_mem old
          exact sound.ownClient source old other (ofOthers found listed)
        · rw [List.mem_singleton.mp new] at found ⊢
          have isNew : some booking = some other :=
            (findBy_concat_self freshBooking).symm.trans found
          rw [← Option.some.inj isNew]
          exact creation.ownClient
      historyKnown := by
        intro row member
        change row.bookingId ∈ (database.bookings ++ [booking]).map Booking.id
        rw [List.map_append]
        rcases List.mem_append.mp member with old | new
        · exact List.mem_append_left _ (sound.historyKnown row old)
        · rw [List.mem_singleton.mp new, creation.ofBooking]
          exact List.mem_append_right _ (List.mem_singleton_self _)
      paths := by
        intro other member
        simp only [historyOf, List.filter_append]
        rcases List.mem_append.mp member with old | new
        · have different : history.bookingId ≠ other.id := by
            intro same
            apply unknown
            rw [← creation.ofBooking, same]
            exact List.mem_map_of_mem old
          rw [List.filter_singleton]
          simpa [different, historyOf] using sound.paths other old
        · rw [List.mem_singleton.mp new, creation.draft]
          have noneYet :
              (database.booking.statusHistory.filter fun row =>
                row.bookingId = booking.id) = [] := by
            apply List.filter_eq_nil_iff.mpr
            intro row rowMember own
            apply unknown
            rw [← of_decide_eq_true own]
            exact sound.historyKnown row rowMember
          rw [noneYet, List.filter_singleton]
          simpa [creation.ofBooking] using
            statusPath_singleton creation.fromNothing creation.toDraft }

theorem Sound.moved (sound : Sound database) {booking : Booking}
    {row : BookingStatusHistory} {logs : List BookingAuditLog}
    (found : findBy Booking.id row.bookingId database.bookings = some booking)
    (allowed : isTransitionAllowed booking.status row.newStatus)
    (previous : row.previousStatus = some booking.status) :
    Sound (withTransition database row logs) := by
  have sameIds :
      (withTransition database row logs).bookings.map Booking.id =
        database.bookings.map Booking.id :=
    map_updateBy_of_kept fun _ => rfl
  have ofBooking : booking.id = row.bookingId := key_of_findBy found
  exact
    { sound with
      bookingIds := by
        rw [sameIds]
        exact sound.bookingIds
      columns := sound.columns.trans sameIds.symm
      ownClient := by
        intro source member later foundLater
        have listed : source.bookingId ∈ database.bookings.map Booking.id := by
          rw [← sound.columns]
          exact List.mem_map_of_mem member
        obtain ⟨old, foundOld⟩ := exists_findBy_of_mem_map listed
        obtain ⟨kept, foundKept, advanced⟩ :=
          withTransition_advances found allowed foundOld
        obtain rfl : later = kept :=
          Option.some.inj (foundLater.symm.trans foundKept)
        have sameClient : later.clientId = old.clientId :=
          congrArg (fun core => core.2.1) advanced.core
        rw [sameClient]
        exact sound.ownClient source member old foundOld
      historyKnown := by
        intro item member
        rw [sameIds]
        rcases List.mem_append.mp member with old | new
        · exact sound.historyKnown item old
        · rw [List.mem_singleton.mp new, ← ofBooking]
          exact List.mem_map_of_mem (mem_of_findBy found)
      paths := by
        have histories :
            ∀ id,
              historyOf (withTransition database row logs) id =
                historyOf database id ++
                  [row].filter fun item => item.bookingId = id :=
          fun id => List.filter_append ..
        apply
          @forall_mem_updateBy _ _ _ Booking.id row.bookingId
            (withBookingStatus row.newStatus) database.bookings
            (fun later =>
              StatusPath (historyOf (withTransition database row logs) later.id)
                later.status)
            booking sound.bookingIds found
        · rw [histories]
          have path := sound.paths booking (mem_of_findBy found)
          have concat := path.concat previous allowed
          simpa [withBookingStatus, ofBooking] using concat
        · intro other member different
          rw [histories, List.filter_singleton]
          simpa [Ne.symm different] using sound.paths other member }

end Preserved

theorem Commit.sound {database after : Database} (sound : Sound database)
    (lifecycle : Lifecycle database.proposing.toTables)
    (commit : Commit database after) : Sound after := by
  cases commit with
  | unchanged => exact sound
  | authored tables write => exact sound.authored lifecycle write
  | responded row tables response => exact sound.responded lifecycle response
  | booked versionId booking history after creation =>
      exact sound.booked creation
  | moved booking row logs found allowed previous =>
      exact sound.moved found allowed previous

/-- What holds of every reachable database. -/
structure Reachable (database : Database) : Prop where
  lifecycle : Lifecycle database.proposing.toTables
  sound : Sound database

theorem step_reachable (state : State) (request : Request)
    (reachable : Reachable state.database) :
    Reachable (step state request).database where
  lifecycle := step_lifecycle state request reachable.lifecycle
  sound :=
    step_commits state request reachable.sound.withStaffAssignments
      reachable.sound.withProfile
      fun _ commit => commit.sound reachable.sound reachable.lifecycle

theorem reachable_databaseAfter (requests : List Request) :
    Reachable (databaseAfter requests) :=
  @run_invariant _ _ step (fun state => Reachable state.database)
    State.initial ⟨lifecycle_empty, sound_empty⟩ step_reachable requests

end Heritage.Journeys
