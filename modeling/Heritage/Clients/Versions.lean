import Heritage.Clients.EditForm

/-!
# Versions of a client

The texts and the `updatedAt` that a client had at some time.  When no edit
gives back an `updatedAt`, it names one version, and a version that is left
does not come back.
-/

namespace Heritage.Clients

open Heritage.Store
open Repository

variable {platform : StringPlatform} {id : Uuid}

/-- The page shows a version that the client had at some time. -/
def IsVersion (platform : StringPlatform) (requests : List Request)
    (id : Uuid) (page : ClientPage) : Prop :=
  ∃ earlier row,
    earlier <+: requests ∧
      findClientById (databaseAfter platform earlier) id = some row ∧
        page = ⟨fieldsOf row, row.details.updatedAt⟩

theorem IsVersion.grow {requests more : List Request} {page : ClientPage}
    (version : IsVersion platform requests id page) :
    IsVersion platform (requests ++ more) id page := by
  obtain ⟨earlier, row, before, found, shown⟩ := version
  exact
    ⟨earlier, row, before.trans (List.prefix_append _ _), found, shown⟩

/-- A client that was found is found later. -/
theorem exists_row_later {earlier : List Request} {row : ClientRecord}
    (rest : List Request)
    (found : findClientById (databaseAfter platform earlier) id = some row) :
    ∃ later,
      findClientById (databaseAfter platform (earlier ++ rest)) id =
        some later := by
  unfold databaseAfter stateAfter at found ⊢
  rw [run_append]
  obtain ⟨kept, foundKept, -⟩ := @run_keeps_client platform id _ row rest found
  exact ⟨kept, foundKept⟩

/-- A version that is left does not come back: a row with the version of an
earlier row was the row all the time between. -/
theorem eq_of_version {requests earlier middle rest : List Request}
    {row between later : ClientRecord}
    (fresh : ChangesUpdatedAt platform requests)
    (before : earlier ++ middle ++ rest <+: requests)
    (found : findClientById (databaseAfter platform earlier) id = some row)
    (foundBetween :
      findClientById (databaseAfter platform (earlier ++ middle)) id =
        some between)
    (foundLater :
      findClientById (databaseAfter platform (earlier ++ middle ++ rest)) id =
        some later)
    (sameVersion : later.details.updatedAt = row.details.updatedAt) :
    later = between := by
  induction rest using List.reverseRecOn generalizing later with
  | nil =>
      rw [List.append_nil, foundBetween] at foundLater
      exact (Option.some.inj foundLater).symm
  | append_singleton rest request inductionHypothesis =>
      rw [← List.append_assoc] at before foundLater
      have beforeStep : earlier ++ middle ++ rest <+: requests :=
        (List.prefix_append _ _).trans before
      obtain ⟨last, foundLast⟩ := exists_row_later rest foundBetween
      rw [databaseAfter_concat] at foundLater
      rcases @step_findClientById platform id _ request last foundLast with
        same | ⟨input, effective⟩
      · rw [same] at foundLater
        obtain rfl := Option.some.inj foundLater
        exact inductionHypothesis beforeStep foundLast sameVersion
      · obtain ⟨context, index, rfl⟩ := effective.isAttempt
        obtain ⟨more, split⟩ := before
        have different : row.details.updatedAt ≠ context.now :=
          fresh (earlier ++ middle ++ rest) context index more id input
            (by rw [← split]; simp) effective earlier (middle ++ rest) row
            (List.append_assoc ..) found
        obtain ⟨actorId, old, new, sameId, edit⟩ :=
          applied_of_takesEffect effective
        have written := edit.written
        rw [sameId, foundLater] at written
        obtain rfl := Option.some.inj written
        exact absurd (sameVersion.symm.trans edit.newVersion) different

/-- Versions of one client with one `updatedAt` show the same texts. -/
theorem IsVersion.unique {requests : List Request} {page other : ClientPage}
    (fresh : ChangesUpdatedAt platform requests)
    (version : IsVersion platform requests id page)
    (otherVersion : IsVersion platform requests id other)
    (same : page.updatedAt = other.updatedAt) : page = other := by
  obtain ⟨earlier, row, before, found, rfl⟩ := version
  obtain ⟨otherEarlier, otherRow, otherBefore, otherFound, rfl⟩ :=
    otherVersion
  rcases List.prefix_or_prefix_of_prefix before otherBefore with
    ⟨rest, rfl⟩ | ⟨rest, rfl⟩
  · rw [← List.append_nil earlier] at found otherBefore otherFound
    have sameRow : otherRow = row :=
      eq_of_version fresh otherBefore (by simpa using found) found otherFound
        same.symm
    rw [sameRow]
  · rw [← List.append_nil otherEarlier] at otherFound before found
    have sameRow : row = otherRow :=
      eq_of_version fresh before (by simpa using otherFound) otherFound found
        same
    rw [sameRow]

/-- The client had this version and then another one. -/
def Superseded (platform : StringPlatform) (requests : List Request)
    (id : Uuid) (version : Timestamp) : Prop :=
  ∃ earlier middle row other,
    earlier ++ middle <+: requests ∧
      findClientById (databaseAfter platform earlier) id = some row ∧
        row.details.updatedAt = version ∧
          findClientById (databaseAfter platform (earlier ++ middle)) id =
              some other ∧
            other.details.updatedAt ≠ version

theorem Superseded.grow {requests more : List Request} {version : Timestamp}
    (superseded : Superseded platform requests id version) :
    Superseded platform (requests ++ more) id version := by
  obtain ⟨earlier, middle, row, other, before, rest⟩ := superseded
  exact
    ⟨earlier, middle, row, other, before.trans (List.prefix_append _ _), rest⟩

/-- The client never has a superseded version again. -/
theorem Superseded.ne {requests : List Request} {version : Timestamp}
    {row : ClientRecord} (superseded : Superseded platform requests id version)
    (fresh : ChangesUpdatedAt platform requests)
    (found : findClientById (databaseAfter platform requests) id = some row) :
    row.details.updatedAt ≠ version := by
  obtain ⟨earlier, middle, first, other, ⟨rest, rfl⟩, foundFirst, isVersion,
    foundOther, isOther⟩ := superseded
  intro back
  have same : row = other :=
    eq_of_version fresh List.prefix_rfl foundFirst foundOther found
      (back.trans isVersion.symm)
  rw [same] at back
  exact isOther back

/-- A version that is not the present one at a later time is superseded. -/
theorem superseded_of_other {requests middle : List Request}
    {page : ClientPage} {other : ClientRecord}
    (version : IsVersion platform requests id page)
    (found :
      findClientById (databaseAfter platform (requests ++ middle)) id =
        some other)
    (isOther : other.details.updatedAt ≠ page.updatedAt) :
    Superseded platform (requests ++ middle) id page.updatedAt := by
  obtain ⟨earlier, row, ⟨rest, rfl⟩, foundRow, rfl⟩ := version
  refine
    ⟨earlier, rest ++ middle, row, other, ?_, foundRow, rfl, ?_, isOther⟩
  · rw [List.append_assoc]
  · rw [← List.append_assoc]
    exact found

/-- The time of an attempt. -/
def attemptTime : Request → Option Timestamp
  | .attempt context _ => some context.now
  | _ => none

/-- The times of the attempts of a run. -/
def attemptTimes (requests : List Request) : List Timestamp :=
  requests.filterMap attemptTime

/-- The clients that an attempt creates have its time. -/
theorem updatedAt_of_created {now : Timestamp} {created : List Client}
    {kept : List ClientDetails} {details : ClientDetails}
    (member :
      details ∈ kept ++ created.map fun client => .initial client.id now) :
    details ∈ kept ∨ details.updatedAt = now := by
  rcases List.mem_append.mp member with old | new
  · exact Or.inl old
  · obtain ⟨client, -, rfl⟩ := List.mem_map.mp new
    exact Or.inr rfl

theorem updatedAt_of_edit {context : RequestContext}
    {actor : AuthenticatedUser} {clientActor : ClientActor}
    {input : UpdateClientRequest} {result : UpdateClientResult}
    {database stored : Database} {details : ClientDetails}
    (succeeds :
      updateClientTransaction platform context actor clientActor id input
        database = .ok (result, stored))
    (member : details ∈ stored.details) :
    details ∈ database.details ∨ details.updatedAt = context.now := by
  obtain ⟨existing, -, -, -, ⟨-, rfl⟩ | ⟨-, rfl⟩⟩ :=
    updateClientTransaction_eq_ok succeeds
  · exact Or.inl member
  · obtain ⟨old, isOld, rfl⟩ := mem_updateBy_iff.mp member
    by_cases edited : old.clientId = id
    · right
      rw [if_pos edited]
      rfl
    · left
      rw [if_neg edited]
      exact isOld

/-- An attempt gives no client an `updatedAt` but its own time. -/
theorem updatedAt_of_attempt {context : RequestContext}
    {database : Database} {waiting : Waiting} {details : ClientDetails}
    (member :
      details ∈ (attempt platform context database waiting).2.details) :
    details ∈ database.details ∨ details.updatedAt = context.now := by
  cases waiting with
  | createLead leadActor input duplicates =>
      exact updatedAt_of_created member
  | updateLead prepared => exact updatedAt_of_created member
  | updateLeadStatus leadActor id input =>
      exact updatedAt_of_created member
  | convertLead leadActor id input => exact updatedAt_of_created member
  | updateClient actor clientActor id input =>
      simp only [attempt] at member
      cases outcome :
          updateClientTransaction platform context actor clientActor id input
            database with
      | error refusal =>
          rw [transact_of_error outcome] at member
          exact Or.inl member
      | ok pair =>
          obtain ⟨result, stored⟩ := pair
          rw [transact_of_ok outcome] at member
          exact updatedAt_of_edit outcome member

theorem updatedAt_of_step {state : State} {request : Request}
    {details : ClientDetails}
    (member : details ∈ (step platform state request).database.details) :
    details ∈ state.database.details ∨
      attemptTime request = some details.updatedAt := by
  cases request with
  | call actor operation => exact Or.inl member
  | assignmentsChanged staffAssignments => exact Or.inl member
  | profilesChanged clientProfiles => exact Or.inl member
  | attempt context index =>
      cases atIndex : state.waiting[index]? with
      | none =>
          simp only [step, atIndex] at member
          exact Or.inl member
      | some waiting =>
          rw [step_attempt_database atIndex] at member
          rcases updatedAt_of_attempt member with old | isNow
          · exact Or.inl old
          · right
            rw [isNow]
            rfl

/-- Every `updatedAt` is the time of an attempt. -/
theorem updatedAt_mem_attemptTimes {requests : List Request}
    {details : ClientDetails}
    (member : details ∈ (databaseAfter platform requests).details) :
    details.updatedAt ∈ attemptTimes requests := by
  induction requests using List.reverseRecOn with
  | nil => cases member
  | append_singleton requests request inductionHypothesis =>
      rw [databaseAfter_concat] at member
      unfold attemptTimes at inductionHypothesis ⊢
      rw [List.filterMap_append, List.mem_append]
      rcases updatedAt_of_step member with old | isNow
      · exact Or.inl (inductionHypothesis old)
      · right
        exact
          List.mem_filterMap.mpr ⟨request, List.mem_singleton_self _, isNow⟩

/-- A clock that no two attempts read alike changes `updatedAt` with every
edit. -/
theorem changesUpdatedAt_of_nodup {requests : List Request}
    (distinct : (attemptTimes requests).Nodup) :
    ChangesUpdatedAt platform requests := by
  intro earlier context index later id input split _ past rest row before
    found same
  have earlierTime : row.details.updatedAt ∈ attemptTimes past := by
    obtain ⟨-, foundDetails⟩ := ids_of_findClientById found
    exact updatedAt_mem_attemptTimes (mem_of_findBy foundDetails)
  rw [split, before] at distinct
  unfold attemptTimes at distinct earlierTime
  rw [List.append_assoc, List.filterMap_append] at distinct
  have apart := (List.nodup_append.mp distinct).2.2
  refine apart _ earlierTime context.now ?_ same
  apply List.mem_filterMap.mpr
  exact
    ⟨.attempt context index,
      List.mem_append_right _ List.mem_cons_self, rfl⟩

end Heritage.Clients
