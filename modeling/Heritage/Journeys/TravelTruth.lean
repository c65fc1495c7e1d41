import Heritage.Journeys.TravelStatus

/-!
# The travel status tells the truth

What the counted facts say of the stored rows, and what the derived line
therefore says of a client in any reached database.
-/

namespace Heritage.Journeys

open Heritage.Store
open Heritage.Proposals
open Heritage.Bookings
open Heritage.Payments (Booking BookingStatus)

section BookingFacts

variable (database : Database) (clientId : Uuid) {status : BookingStatus}

/-- The client has a booking in the status. -/
def HasBookingIn (status : BookingStatus) : Prop :=
  ∃ booking ∈ database.bookings,
    booking.clientId = clientId ∧ booking.status = status

theorem get_map_keys {κ ν : Type} [DecidableEq κ] (keys : List κ)
    (value : κ → ν) (sought : κ) :
    Entries.get (keys.map fun key => (key, value key)) sought =
      if sought ∈ keys then some (value sought) else none := by
  induction keys with
  | nil =>
      rfl
  | cons key rest inductionHypothesis =>
      by_cases same : key = sought
      · simp [Entries.get, same]
      · simpa [Entries.get, same, Ne.symm same] using inductionHypothesis

theorem get_groupClientBookings (notDraft : status ≠ .draft) :
    ((groupClientBookings database clientId).get status).getD 0 =
      database.bookings.countP fun booking =>
        booking.clientId = clientId ∧ booking.status = status := by
  have counted :
      ((database.bookings.filter fun booking =>
          booking.clientId = clientId ∧ booking.status ≠ .draft).countP
          fun booking => booking.status = status) =
        database.bookings.countP fun booking =>
          booking.clientId = clientId ∧ booking.status = status := by
    rw [List.countP_filter]
    apply List.countP_congr
    intro booking _
    simp only [Bool.and_eq_true, decide_eq_true_eq]
    constructor
    · rintro ⟨inStatus, ofClient, -⟩
      exact ⟨ofClient, inStatus⟩
    · rintro ⟨ofClient, inStatus⟩
      exact ⟨inStatus, ofClient, by rw [inStatus]; exact notDraft⟩
  rw [groupClientBookings, get_map_keys, ← counted]
  split
  · rfl
  · rename_i absent
    symm
    rw [Option.getD_none, List.countP_eq_zero]
    intro booking member inStatus
    apply absent
    rw [List.mem_dedup, ← of_decide_eq_true inStatus]
    exact List.mem_map_of_mem member

theorem keys_groupClientBookings :
    ((groupClientBookings database clientId).map Prod.fst).Nodup := by
  rw [groupClientBookings, List.map_map]
  have keys :
      ∀ value : BookingStatus → Nat,
        Prod.fst ∘ (fun status => (status, value status)) = id :=
    fun _ => rfl
  rw [keys, List.map_id]
  exact List.nodup_dedup _

theorem draft_not_grouped :
    ∀ row ∈ groupClientBookings database clientId, row.1 ≠ .draft := by
  intro row member
  obtain ⟨status, listed, rfl⟩ := List.mem_map.mp member
  obtain ⟨booking, visible, rfl⟩ :=
    List.mem_map.mp (List.mem_dedup.mp listed)
  have notDraft := (List.mem_filter.mp visible).2
  simp only [decide_eq_true_eq] at notDraft
  exact notDraft.2

/-- The facts count the client's bookings in each status but `DRAFT`. -/
theorem count_findClientBookingFacts (notDraft : status ≠ .draft) :
    (findClientBookingFacts database clientId).count status =
      database.bookings.countP fun booking =>
        booking.clientId = clientId ∧ booking.status = status := by
  have unguarded :
      (groupClientBookings database clientId).foldl
          (fun byStatus row =>
            if row.1 ≠ .draft then byStatus.set row.1 row.2 else byStatus)
          emptyByStatus =
        (groupClientBookings database clientId).foldl
          (fun byStatus row => byStatus.set row.1 row.2) emptyByStatus := by
    apply List.foldl_ext
    intro byStatus row member
    rw [if_pos (draft_not_grouped database clientId row member)]
  have empty : emptyByStatus.get status = some 0 := by
    cases status <;> first | rfl | exact absurd rfl notDraft
  rw [← get_groupClientBookings database clientId notDraft,
    ClientBookingFacts.count, findClientBookingFacts, unguarded,
    Entries.get_foldl_set (keys_groupClientBookings database clientId), empty]
  cases (groupClientBookings database clientId).get status <;> rfl

theorem count_pos_iff (notDraft : status ≠ .draft) :
    0 < (findClientBookingFacts database clientId).count status ↔
      HasBookingIn database clientId status := by
  rw [count_findClientBookingFacts database clientId notDraft,
    List.countP_pos_iff]
  simp [HasBookingIn]

end BookingFacts

section Active

variable {facts : ClientBookingFacts}

/-- What counting some entries adds to what was found before. -/
theorem foldl_countActive (entries : List (BookingStatus × Nat))
    (found : ActiveBookings) :
    let counted := entries.foldl (countActive facts) found
    (0 < counted.activeCount ↔
        0 < found.activeCount ∨
          ∃ entry ∈ entries, 0 < facts.count entry.1) ∧
      found.peakActiveOrdinal ≤ counted.peakActiveOrdinal ∧
      (∀ entry ∈ entries,
        0 < facts.count entry.1 → entry.2 ≤ counted.peakActiveOrdinal) ∧
      (counted.peakActiveOrdinal = found.peakActiveOrdinal ∨
        ∃ entry ∈ entries,
          0 < facts.count entry.1 ∧
            counted.peakActiveOrdinal = entry.2) := by
  induction entries generalizing found with
  | nil =>
      simp
  | cons head rest inductionHypothesis =>
      obtain ⟨positive, above, bounds, reached⟩ :=
        inductionHypothesis (countActive facts found head)
      simp only [List.foldl_cons]
      by_cases occurs : facts.count head.1 > 0
      · have peak :
            (countActive facts found head).peakActiveOrdinal =
              max head.2 found.peakActiveOrdinal := by
          simp only [countActive, if_pos occurs]
          split <;> omega
        have count :
            (countActive facts found head).activeCount =
              found.activeCount + facts.count head.1 := by
          simp only [countActive, if_pos occurs]
        rw [peak] at above reached
        rw [count] at positive
        refine ⟨?_, ?_, ?_, ?_⟩
        · rw [positive]
          constructor
          · intro _
            exact Or.inr ⟨head, List.mem_cons_self, occurs⟩
          · intro _
            left
            omega
        · omega
        · intro entry member entryOccurs
          rcases List.mem_cons.mp member with rfl | inRest
          · omega
          · exact bounds entry inRest entryOccurs
        · rcases reached with same | ⟨entry, member, entryOccurs, atEntry⟩
          · rw [same]
            rcases le_total head.2 found.peakActiveOrdinal with below | above
            · left
              omega
            · right
              exact ⟨head, List.mem_cons_self, occurs, by omega⟩
          · right
            exact
              ⟨entry, List.mem_cons_of_mem head member, entryOccurs, atEntry⟩
      · have skipped : countActive facts found head = found := by
          rw [countActive, if_neg occurs]
        rw [skipped] at positive above bounds reached ⊢
        refine ⟨?_, above, ?_, ?_⟩
        · rw [positive]
          simp [occurs]
        · intro entry member entryOccurs
          rcases List.mem_cons.mp member with rfl | inRest
          · exact absurd entryOccurs occurs
          · exact bounds entry inRest entryOccurs
        · rcases reached with same | ⟨entry, member, entryOccurs, atEntry⟩
          · exact Or.inl same
          · right
            exact
              ⟨entry, List.mem_cons_of_mem head member, entryOccurs, atEntry⟩

/-- A booking in this status is active. -/
def isActive (status : BookingStatus) : Bool :=
  status ∈ activeOrdinal.map Prod.fst

/-- The ordinal of an active status. -/
def activeRank (status : BookingStatus) : Nat :=
  (Entries.get activeOrdinal status).getD 0

/-- The line that names an active status. -/
def bookingLine (status : BookingStatus) : Option ProgressLineState :=
  activeLine (activeRank status)

theorem activeRank_of_entry {entry : BookingStatus × Nat}
    (member : entry ∈ activeOrdinal) : activeRank entry.1 = entry.2 := by
  revert entry
  decide

theorem bookingLine_of_active {status : BookingStatus}
    (active : isActive status) :
    ∃ line, bookingLine status = some line := by
  cases status <;> first | exact ⟨_, rfl⟩ | cases active

/-- Without an active booking the rules from the eighth on decide. -/
theorem deriveProgressLine_of_quiet {proposalFacts : ClientProposalFacts}
    (quiet : ∀ status, isActive status → facts.count status = 0) :
    deriveProgressLine proposalFacts facts =
      deriveQuietLine proposalFacts facts := by
  have counted := (@foldl_countActive facts activeOrdinal ⟨0, 0⟩).1
  have nothing : ¬ (activeBookings facts).activeCount > 0 := by
    intro positive
    rcases counted.mp positive with zero | ⟨entry, member, occurs⟩
    · exact absurd zero (lt_irrefl 0)
    · have active : isActive entry.1 :=
        decide_eq_true (List.mem_map_of_mem member)
      rw [quiet entry.1 active] at occurs
      exact absurd occurs (lt_irrefl 0)
  rw [deriveProgressLine, if_neg nothing]

/-- With an active booking the line names the furthest status there is. -/
theorem deriveProgressLine_of_active {proposalFacts : ClientProposalFacts}
    {status : BookingStatus} (active : isActive status)
    (occurs : 0 < facts.count status) :
    ∃ furthest,
      isActive furthest ∧ 0 < facts.count furthest ∧
        bookingLine furthest =
          some (deriveProgressLine proposalFacts facts) ∧
        ∀ other, isActive other → 0 < facts.count other →
          activeRank other ≤ activeRank furthest := by
  obtain ⟨counted, -, bounds, reached⟩ :=
    @foldl_countActive facts activeOrdinal ⟨0, 0⟩
  have listed :
      ∀ {other : BookingStatus}, isActive other →
        ∃ entry ∈ activeOrdinal, entry.1 = other :=
    fun isListed => List.mem_map.mp (of_decide_eq_true isListed)
  obtain ⟨given, givenMember, rfl⟩ := listed active
  have positive : (activeBookings facts).activeCount > 0 :=
    counted.mpr (Or.inr ⟨given, givenMember, occurs⟩)
  have aboveGiven : given.2 ≤ (activeBookings facts).peakActiveOrdinal :=
    bounds given givenMember occurs
  have ordinals : ∀ entry ∈ activeOrdinal, 0 < entry.2 := by decide
  have ordinalPositive := ordinals given givenMember
  rcases reached with zero | ⟨entry, member, entryOccurs, atEntry⟩
  · have isZero : (activeBookings facts).peakActiveOrdinal = 0 := zero
    omega
  · have isPeak : (activeBookings facts).peakActiveOrdinal = entry.2 := atEntry
    have entryActive : isActive entry.1 :=
      decide_eq_true (List.mem_map_of_mem member)
    refine ⟨entry.1, entryActive, entryOccurs, ?_, ?_⟩
    · obtain ⟨line, named⟩ := bookingLine_of_active entryActive
      have atPeak :
          activeLine (activeBookings facts).peakActiveOrdinal = some line := by
        rw [isPeak, ← activeRank_of_entry member]
        exact named
      rw [named, deriveProgressLine, if_pos positive, atPeak]
      rfl
    · intro other otherActive otherOccurs
      obtain ⟨otherEntry, otherMember, rfl⟩ := listed otherActive
      rw [activeRank_of_entry otherMember, activeRank_of_entry member,
        ← isPeak]
      exact bounds otherEntry otherMember otherOccurs

end Active

/-- Where exactly one of three tests holds, their counts add up. -/
theorem countP_of_exactly_one {ρ : Type} {rows : List ρ}
    {base first second third : ρ → Bool}
    (exactlyOne :
      ∀ row ∈ rows,
        base row →
          (first row).toNat + (second row).toNat + (third row).toNat = 1) :
    (rows.countP fun row => base row && first row) +
          (rows.countP fun row => base row && second row) +
        (rows.countP fun row => base row && third row) =
      rows.countP base := by
  induction rows with
  | nil =>
      rfl
  | cons head rest inductionHypothesis =>
      have restCount :=
        inductionHypothesis fun row member =>
          exactlyOne row (List.mem_cons_of_mem head member)
      have headOne := exactlyOne head List.mem_cons_self
      simp only [List.countP_cons]
      cases isBase : base head with
      | false =>
          simpa using restCount
      | true =>
          have one := headOne isBase
          cases atFirst : first head <;> cases atSecond : second head <;>
            cases atThird : third head <;>
              simp_all <;> omega

section ProposalFacts

variable {database : Database} {clientId : Uuid} {version : ProposalVersion}

theorem isUnanswered_eq :
    isUnanswered database version =
      (findProposalAcceptanceForVersion database.proposing
        version.id).isNone := by
  rw [Bool.eq_iff_iff, Option.isNone_iff_eq_none,
    findProposalAcceptanceForVersion, findBy_eq_none_iff]
  simp [isUnanswered]

theorem isAnsweredBy_eq (sound : Sound database)
    (types : List ProposalResponseType) :
    isAnsweredBy database types version =
      (findProposalAcceptanceForVersion database.proposing version.id).any
        fun acceptance => acceptance.responseType ∈ types := by
  rw [Bool.eq_iff_iff]
  simp only [isAnsweredBy, List.any_eq_true, decide_eq_true_eq,
    Option.any_eq_true]
  constructor
  · rintro ⟨acceptance, member, ofVersion, ofType⟩
    refine ⟨acceptance, ?_, ofType⟩
    rw [findProposalAcceptanceForVersion, ← ofVersion]
    exact findBy_of_mem sound.onePerVersion member
  · rintro ⟨acceptance, found, ofType⟩
    exact
      ⟨acceptance, mem_of_findBy found, key_of_findBy found, ofType⟩

theorem facts_add_up (sound : Sound database) (clientId : Uuid) :
    (findClientProposalFacts database clientId).awaitingResponse +
          (findClientProposalFacts database clientId).accepted +
        (findClientProposalFacts database clientId).respondedNonAccept =
      (findClientProposalFacts database clientId).currentVisibleTotal := by
  apply countP_of_exactly_one
  intro version _ _
  rw [isUnanswered_eq, isAnsweredBy_eq sound, isAnsweredBy_eq sound]
  cases findProposalAcceptanceForVersion database.proposing version.id with
  | none =>
      rfl
  | some acceptance =>
      cases answer : acceptance.responseType <;> simp [answer]

/-- The counted versions are the current ones of the client's proposals. -/
theorem clientVisibleVersionBaseWhere_iff
    (lifecycle : Lifecycle database.proposing.toTables)
    (member : version ∈ database.proposing.versions) :
    clientVisibleVersionBaseWhere database.proposing.toTables clientId
        version ↔
      version.isCurrent ∧
        versionClient database.proposing.toTables version.id =
          some clientId := by
  have found := findBy_of_mem lifecycle.versionIds member
  rw [versionClient_eq_some]
  simp only [clientVisibleVersionBaseWhere, ProposalVersion.isCurrent,
    Bool.and_eq_true, Option.any_eq_true, decide_eq_true_eq]
  constructor
  · rintro ⟨⟨⟨proposal, foundProposal, own⟩, visible⟩, notSuperseded⟩
    exact
      ⟨⟨visible, notSuperseded⟩, version, proposal, found, foundProposal,
        own⟩
  · rintro ⟨⟨visible, notSuperseded⟩, same, proposal, foundSame,
      foundProposal, own⟩
    obtain rfl : version = same :=
      Option.some.inj (found.symm.trans foundSame)
    exact ⟨⟨⟨proposal, foundProposal, own⟩, visible⟩, notSuperseded⟩

/-- An accepted version with a booking the client sees makes a booking of the
client outside `DRAFT`. -/
theorem hasBooking_of_visible (sound : Sound database)
    (own :
      versionClient database.proposing.toTables version.id = some clientId)
    (visible : ¬ isWithoutClientVisibleBooking database version) :
    ∃ status, status ≠ .draft ∧ HasBookingIn database clientId status := by
  simp only [isWithoutClientVisibleBooking, decide_eq_true_eq, not_or,
    Bool.not_eq_true, List.any_eq_false] at visible
  obtain ⟨someBooking, noDraft⟩ := visible
  obtain ⟨booking, member⟩ := List.exists_mem_of_ne_nil _ someBooking
  obtain ⟨listed, source, sourceMember, ofBooking, ofVersion⟩ :=
    mem_bookingsOfVersion.mp member
  have foundBooking := findBy_of_mem sound.bookingIds listed
  rw [← ofBooking] at foundBooking
  have client := sound.ownClient source sourceMember booking foundBooking
  rw [ofVersion, own] at client
  refine ⟨booking.status, ?_, booking, listed, ?_, rfl⟩
  · simpa using noDraft booking member
  · exact (Option.some.inj client).symm

end ProposalFacts

/-! ## Every reached database -/

/-- What the derived line of a client says. -/
structure TravelTruth (database : Database) (clientId : Uuid) : Prop where
  factsAddUp :
    (findClientProposalFacts database clientId).awaitingResponse +
          (findClientProposalFacts database clientId).accepted +
        (findClientProposalFacts database clientId).respondedNonAccept =
      (findClientProposalFacts database clientId).currentVisibleTotal
  firstProposal :
    (travelStatus database clientId).progressLine = .awaitingFirstProposal →
      (∀ version ∈ database.proposing.versions,
          version.isCurrent →
            versionClient database.proposing.toTables version.id ≠
              some clientId) ∧
        ∀ booking ∈ database.bookings,
          booking.clientId = clientId → booking.status = .draft
  quiet :
    (travelStatus database clientId).progressLine ∈
        [ProgressLineState.proposalAcceptedAwaitingBooking, .tripCompleted,
          .proposalInReview, .noActiveBooking] →
      ∀ booking ∈ database.bookings,
        booking.clientId = clientId → ¬ isActive booking.status
  furthest :
    (travelStatus database clientId).progressLine ∉
        [ProgressLineState.awaitingFirstProposal,
          .proposalAcceptedAwaitingBooking, .tripCompleted,
          .proposalInReview, .noActiveBooking] →
      ∃ booking ∈ database.bookings,
        booking.clientId = clientId ∧
          bookingLine booking.status =
            some (travelStatus database clientId).progressLine ∧
          ∀ other ∈ database.bookings,
            other.clientId = clientId →
              isActive other.status →
                activeRank other.status ≤ activeRank booking.status

section Truth

variable {database : Database} {clientId : Uuid}

theorem ne_draft_of_active {status : BookingStatus}
    (active : isActive status) : status ≠ .draft := by
  rintro rfl
  cases active

/-- Whether the client has an active booking decides which rules apply. -/
theorem active_or_quiet (database : Database) (clientId : Uuid) :
    (∃ status, isActive status ∧
      0 < (findClientBookingFacts database clientId).count status) ∨
      ∀ status, isActive status →
        (findClientBookingFacts database clientId).count status = 0 := by
  by_cases some :
      ∃ status, isActive status ∧
        0 < (findClientBookingFacts database clientId).count status
  · exact Or.inl some
  · right
    intro status active
    by_contra occurs
    exact some ⟨status, active, Nat.pos_of_ne_zero occurs⟩

theorem quiet_of_counts
    (counts :
      ∀ status, isActive status →
        (findClientBookingFacts database clientId).count status = 0) :
    ∀ booking ∈ database.bookings,
      booking.clientId = clientId → ¬ isActive booking.status := by
  intro booking member ofClient active
  have occurs :=
    (count_pos_iff database clientId (ne_draft_of_active active)).mpr
      ⟨booking, member, ofClient, rfl⟩
  rw [counts booking.status active] at occurs
  exact absurd occurs (lt_irrefl 0)

/-- The five lines that name no active booking. -/
def quietLines : List ProgressLineState :=
  [.awaitingFirstProposal, .proposalAcceptedAwaitingBooking, .tripCompleted,
    .proposalInReview, .noActiveBooking]

theorem not_quiet_of_bookingLine {status : BookingStatus}
    {line : ProgressLineState} (named : bookingLine status = some line) :
    line ∉ quietLines := by
  revert named
  cases status <;> cases line <;> decide

theorem quiet_of_deriveQuietLine (proposalFacts : ClientProposalFacts)
    (bookingFacts : ClientBookingFacts) :
    deriveQuietLine proposalFacts bookingFacts ∈ quietLines := by
  unfold deriveQuietLine
  dsimp only
  split
  · decide
  · split
    · decide
    · split
      · decide
      · split <;> decide

/-- The line is one of the five exactly when no booking is active. -/
theorem quiet_of_line
    (line : (travelStatus database clientId).progressLine ∈ quietLines) :
    ∀ status, isActive status →
      (findClientBookingFacts database clientId).count status = 0 := by
  rcases active_or_quiet database clientId with
    ⟨status, active, occurs⟩ | counts
  · obtain ⟨furthest, -, -, named, -⟩ :=
      @deriveProgressLine_of_active _
        (findClientProposalFacts database clientId) status active occurs
    exact absurd line (not_quiet_of_bookingLine named)
  · exact counts

/-- The last rule is reached only when every other count is zero. -/
theorem counts_of_awaitingFirstProposal {proposalFacts : ClientProposalFacts}
    {bookingFacts : ClientBookingFacts}
    (line :
      deriveQuietLine proposalFacts bookingFacts = .awaitingFirstProposal) :
    proposalFacts.acceptedWithoutClientVisibleBooking = 0 ∧
      proposalFacts.awaitingResponse = 0 ∧
      proposalFacts.respondedNonAccept = 0 ∧
      bookingFacts.count .completed = 0 ∧
      bookingFacts.count .cancelled = 0 := by
  unfold deriveQuietLine at line
  dsimp only at line
  split at line
  · cases line
  · split at line
    · cases line
    · split at line
      · cases line
      · split at line
        · cases line
        · omega

theorem draft_or_counted {status : BookingStatus} (notDraft : status ≠ .draft) :
    isActive status ∨ status = .completed ∨ status = .cancelled := by
  revert notDraft
  cases status <;> decide

theorem awaiting_first_proposal (lifecycle : Lifecycle database.proposing.toTables)
    (sound : Sound database)
    (line :
      (travelStatus database clientId).progressLine =
        .awaitingFirstProposal) :
    (∀ version ∈ database.proposing.versions,
        version.isCurrent →
          versionClient database.proposing.toTables version.id ≠
            some clientId) ∧
      ∀ booking ∈ database.bookings,
        booking.clientId = clientId → booking.status = .draft := by
  have counts := quiet_of_line (by rw [line]; decide)
  have quietLine :
      deriveQuietLine (findClientProposalFacts database clientId)
          (findClientBookingFacts database clientId) =
        .awaitingFirstProposal := by
    rw [← deriveProgressLine_of_quiet counts]
    exact line
  obtain ⟨unbooked, unanswered, refused, completed, cancelled⟩ :=
    counts_of_awaitingFirstProposal quietLine
  have noBooking :
      ∀ status, status ≠ .draft → ¬ HasBookingIn database clientId status := by
    intro status notDraft has
    have occurs := (count_pos_iff database clientId notDraft).mpr has
    rcases draft_or_counted notDraft with active | rfl | rfl
    · have zero := counts status active
      omega
    · omega
    · omega
  constructor
  · intro version member isCurrent own
    have visible :=
      (clientVisibleVersionBaseWhere_iff lifecycle member).mpr
        ⟨isCurrent, own⟩
    have total :
        0 < (findClientProposalFacts database clientId).currentVisibleTotal :=
      List.countP_pos_iff.mpr ⟨version, member, visible⟩
    have sum := facts_add_up sound clientId
    have someAccepted :
        0 < (findClientProposalFacts database clientId).accepted := by
      omega
    obtain ⟨accepted, acceptedMember, accepts⟩ :=
      List.countP_pos_iff.mp someAccepted
    have base :
        clientVisibleVersionBaseWhere database.proposing.toTables clientId
          accepted := by
      simp only [Bool.and_eq_true] at accepts
      exact accepts.1
    have booked :
        ¬ isWithoutClientVisibleBooking database accepted := by
      have none := List.countP_eq_zero.mp unbooked accepted acceptedMember
      rw [accepts, Bool.true_and] at none
      exact none
    obtain ⟨status, notDraft, has⟩ :=
      hasBooking_of_visible sound
        ((clientVisibleVersionBaseWhere_iff lifecycle
          acceptedMember).mp base).2
        booked
    exact noBooking status notDraft has
  · intro booking member ofClient
    by_contra notDraft
    exact noBooking booking.status notDraft ⟨booking, member, ofClient, rfl⟩

theorem furthest_booking
    (line : (travelStatus database clientId).progressLine ∉ quietLines) :
    ∃ booking ∈ database.bookings,
      booking.clientId = clientId ∧
        bookingLine booking.status =
          some (travelStatus database clientId).progressLine ∧
        ∀ other ∈ database.bookings,
          other.clientId = clientId →
            isActive other.status →
              activeRank other.status ≤ activeRank booking.status := by
  rcases active_or_quiet database clientId with
    ⟨status, active, occurs⟩ | counts
  · obtain ⟨furthest, furthestActive, furthestOccurs, named, bounds⟩ :=
      @deriveProgressLine_of_active _
        (findClientProposalFacts database clientId) status active occurs
    obtain ⟨booking, member, ofClient, rfl⟩ :=
      (count_pos_iff database clientId
        (ne_draft_of_active furthestActive)).mp furthestOccurs
    refine ⟨booking, member, ofClient, named, ?_⟩
    intro other otherMember otherOfClient otherActive
    apply bounds other.status otherActive
    exact
      (count_pos_iff database clientId
        (ne_draft_of_active otherActive)).mpr
        ⟨other, otherMember, otherOfClient, rfl⟩
  · have quietLine :
        (travelStatus database clientId).progressLine =
          deriveQuietLine (findClientProposalFacts database clientId)
            (findClientBookingFacts database clientId) :=
      deriveProgressLine_of_quiet counts
    rw [quietLine] at line
    exact absurd (quiet_of_deriveQuietLine _ _) line

end Truth

/-- In every reached database the facts add up and the derived line says what
is so of the client. -/
theorem travel_status_tells_the_truth (requests : List Request)
    (clientId : Uuid) : TravelTruth (databaseAfter requests) clientId where
  factsAddUp := facts_add_up (reachable_databaseAfter requests).sound clientId
  firstProposal :=
    awaiting_first_proposal (reachable_databaseAfter requests).lifecycle
      (reachable_databaseAfter requests).sound
  quiet := by
    intro line
    exact
      quiet_of_counts (quiet_of_line (List.mem_cons_of_mem _ line))
  furthest := furthest_booking

end Heritage.Journeys
