import Heritage.Journeys.Invariants

/-!
# One response per version

Responses recorded by staff, given in the portal and publications in any
order: a version is answered at most once, while it is current, and by whom is
on record.
-/

namespace Heritage.Journeys

open Heritage.Store
open Heritage.Proposals

/-- The version is in the table and is the current client-visible one of its
proposal. -/
def Current (tables : Tables) (versionId : Uuid) : Prop :=
  ∃ version,
    findBy ProposalVersion.id versionId tables.versions = some version ∧
      findCurrentClientVisibleVersion tables version.proposalId =
        some version

/-- The version has no response yet and is current. -/
def Open (database : Database) (versionId : Uuid) : Prop :=
  findProposalAcceptanceForVersion database.proposing versionId = none ∧
    Current database.proposing.toTables versionId

/-- With unique ids the current version with the id is the version. -/
theorem current_of_isCurrentVersion {tables : Tables} {versionId : Uuid}
    (lifecycle : Lifecycle tables)
    (isCurrent : IsCurrentVersion tables versionId) :
    Current tables versionId := by
  obtain ⟨version, current, found, foundCurrent, currentId⟩ := isCurrent
  obtain ⟨member, -, -⟩ :=
    findCurrentClientVisibleVersion_eq_some foundCurrent
  have foundById := findBy_of_mem lifecycle.versionIds member
  rw [currentId, found] at foundById
  obtain rfl := Option.some.inj foundById
  exact ⟨version, found, foundCurrent⟩

theorem open_of_response {database : Database} {row : ProposalAcceptance}
    {tables : PortalTables}
    (lifecycle : Lifecycle database.proposing.toTables)
    (response : Response database.proposing row tables) :
    Open database row.proposalVersionId :=
  ⟨response.unanswered,
    current_of_isCurrentVersion lifecycle response.current⟩

section Attempts

variable {context : AttemptContext} {call : Call} {number : Nat}
  {database : Database}

/-- An attempt that is refused changes nothing. -/
theorem attempt_of_isRefusal
    (refused : (attempt context call number database).1.isRefusal) :
    (attempt context call number database).2 = database := by
  cases responds : call.respondsTo with
  | none =>
      cases call with
      | recordProposalResponse | submitClientProposalResponse =>
          cases responds
      | author | createBooking | readRaced | updateBookingStatus =>
          cases refused
  | some versionId =>
      rcases attempt_responds responds with
        ⟨-, unchanged⟩ | ⟨row, tables, -, -, answered, -⟩
      · exact unchanged
      · rw [answered] at refused
        cases refused

/-- A response to a version that is answered or not current is refused. -/
theorem isRefusal_of_not_open {versionId : Uuid}
    (lifecycle : Lifecycle database.proposing.toTables)
    (responds : call.respondsTo = some versionId)
    (closed : ¬ Open database versionId) :
    (attempt context call number database).1.isRefusal := by
  rcases attempt_responds responds with
    ⟨refused, -⟩ | ⟨row, tables, rfl, response, -, -⟩
  · exact refused
  · exact absurd (open_of_response lifecycle response) closed

end Attempts

/-- A step that adds a response found its version open. -/
theorem open_of_added {state : State} {request : Request}
    {acceptance : ProposalAcceptance}
    (lifecycle : Lifecycle state.database.proposing.toTables)
    (added :
      acceptance ∈ (step state request).database.proposing.acceptances)
    (absent : acceptance ∉ state.database.proposing.acceptances) :
    Open state.database acceptance.proposalVersionId := by
  apply
    @step_commits
      (fun after =>
        acceptance ∈ after.proposing.acceptances →
          Open state.database acceptance.proposalVersionId)
      state request (fun _ member => absurd member absent)
      (fun _ member => absurd member absent) ?_ added
  intro after commit member
  cases commit with
  | unchanged => exact absurd member absent
  | authored tables write => exact absurd member absent
  | responded row tables response =>
      have isOpen := open_of_response lifecycle response
      obtain ⟨logs, rfl⟩ := response.written
      rcases List.mem_append.mp member with old | new
      · exact absurd old absent
      · rw [List.mem_singleton.mp new]
        exact isOpen
  | booked versionId booking history after creation =>
      obtain ⟨logs, rfl⟩ := creation.written
      exact absurd member absent
  | moved => exact absurd member absent

/-- Exactly one of the two paths is filled in. -/
theorem one_path_of_attributed {tables : PortalTables}
    {row : ProposalAcceptance} (attributed : Attributed tables row) :
    (row.isExternal ∧ ¬ row.isPortal) ∨ (row.isPortal ∧ ¬ row.isExternal) := by
  have notBoth : row.isExternal → ¬ row.isPortal := by
    intro external portal
    simp only [ProposalAcceptance.isExternal, ProposalAcceptance.isPortal,
      Bool.and_eq_true, Option.isNone_iff_eq_none] at external portal
    rw [portal.1.1.2] at external
    simp at external
  rcases attributed with external | ⟨portal, -⟩
  · exact Or.inl ⟨external, notBoth external⟩
  · exact Or.inr ⟨portal, fun external => notBoth external portal⟩

/-- The profile a portal response names is found under its id, and it is that
of the proposal's client. -/
theorem own_profile_of_attributed {database : Database}
    (sound : Sound database) {row : ProposalAcceptance}
    (member : row ∈ database.proposing.acceptances) (portal : row.isPortal) :
    ∃ profileId profile,
      row.respondingClientProfileId = some profileId ∧
        findBy ClientProfile.id profileId database.proposing.clientProfiles =
          some profile ∧
        versionClient database.proposing.toTables row.proposalVersionId =
          some profile.clientId := by
  have attributed := sound.attributed row member
  rcases one_path_of_attributed attributed with
    ⟨-, notPortal⟩ | ⟨-, notExternal⟩
  · exact absurd portal notPortal
  · rcases attributed with
      external | ⟨-, profile, profileMember, own, client⟩
    · exact absurd external notExternal
    · exact
        ⟨profile.id, profile, own,
          findBy_of_mem sound.profileIds profileMember, client⟩

/-- The responses of a reached database, and what becomes of them. -/
structure OneResponse (requests more : List Request) : Prop where
  atMostOne :
    ∀ left ∈ (databaseAfter requests).proposing.acceptances,
      ∀ right ∈ (databaseAfter requests).proposing.acceptances,
        left.proposalVersionId = right.proposalVersionId → left = right
  kept :
    (databaseAfter requests).proposing.acceptances ⊆
      (databaseAfter (requests ++ more)).proposing.acceptances
  givenWhileCurrent :
    ∀ request acceptance,
      acceptance ∈
          (databaseAfter (requests ++ [request])).proposing.acceptances →
        acceptance ∉ (databaseAfter requests).proposing.acceptances →
          Current (databaseAfter requests).proposing.toTables
            acceptance.proposalVersionId
  onePath :
    ∀ acceptance ∈ (databaseAfter requests).proposing.acceptances,
      (acceptance.isExternal ∧ ¬ acceptance.isPortal) ∨
        (acceptance.isPortal ∧ ¬ acceptance.isExternal)
  ownProfile :
    ∀ acceptance ∈ (databaseAfter requests).proposing.acceptances,
      acceptance.isPortal →
        ∃ profileId profile,
          acceptance.respondingClientProfileId = some profileId ∧
            findBy ClientProfile.id profileId
                (databaseAfter requests).proposing.clientProfiles =
              some profile ∧
            versionClient (databaseAfter requests).proposing.toTables
                acceptance.proposalVersionId =
              some profile.clientId
  lateRefused :
    ∀ callId context waiting versionId,
      findBy WaitingCall.callId callId (stateAfter requests).waiting =
          some waiting →
        waiting.call.respondsTo = some versionId →
          ¬ Open (databaseAfter requests) versionId →
            (attempt context waiting.call waiting.attempt
              (databaseAfter requests)).1.isRefusal
  refusedUnchanged :
    ∀ callId context waiting,
      findBy WaitingCall.callId callId (stateAfter requests).waiting =
          some waiting →
        (attempt context waiting.call waiting.attempt
            (databaseAfter requests)).1.isRefusal →
          databaseAfter (requests ++ [.attempt callId context]) =
            databaseAfter requests
  arrivalUnchanged :
    ∀ callId actor operation,
      databaseAfter (requests ++ [.call callId actor operation]) =
        databaseAfter requests

/-- In any order of publications and responses of both kinds, a version has
one response, given while it was current and attributed to one side, and a
losing or late response changes nothing. -/
theorem one_response_per_version (requests more : List Request) :
    OneResponse requests more where
  atMostOne := by
    intro left leftMember right rightMember same
    exact
      List.inj_on_of_nodup_map
        (reachable_databaseAfter requests).sound.onePerVersion leftMember
        rightMember same
  kept := (databaseAfter_extends requests more).acceptances.subset
  givenWhileCurrent := by
    intro request acceptance added absent
    rw [databaseAfter_concat] at added
    exact
      (open_of_added (reachable_databaseAfter requests).lifecycle added
        absent).2
  onePath := by
    intro acceptance member
    exact
      one_path_of_attributed
        ((reachable_databaseAfter requests).sound.attributed acceptance member)
  ownProfile := by
    intro acceptance member portal
    exact
      own_profile_of_attributed (reachable_databaseAfter requests).sound
        member portal
  lateRefused := by
    intro callId context waiting versionId _ responds closed
    exact
      isRefusal_of_not_open (reachable_databaseAfter requests).lifecycle
        responds closed
  refusedUnchanged := by
    intro callId context waiting found refused
    rw [databaseAfter_concat, step_attempt_database found]
    exact attempt_of_isRefusal refused
  arrivalUnchanged := by
    intro callId actor operation
    rw [databaseAfter_concat]
    exact arrive_database (stateAfter requests) callId actor operation

end Heritage.Journeys
