import Heritage.Leads.Commits

/-!
# Conversion options

The conversion panel asks which clients a lead may be linked to before it
converts the lead.  The answer is computed apart from the conversion: here
the two agree on every stored state.
-/

namespace Heritage.Leads

open Heritage.Store
open Repository

/-- The operation returns a value to its caller. -/
def Succeeds {α : Type} (effect : Effect α) (tables : Tables) : Prop :=
  ∃ value, (effect tables).1 = .ok value

theorem serve_succeeds_iff {α : Type} (conflict : TxError)
    (body : Tables → Except TxError (α × Tables)) (tables : Tables) :
    Succeeds (serve conflict body) tables ↔
      ∃ value after, body tables = .ok (value, after) := by
  unfold Succeeds serve transact
  cases outcome : body tables with
  | error failure =>
      simp
  | ok result =>
      obtain ⟨value, after⟩ := result
      simp

section Rechecks

variable {tables : Tables} {actor : AuthenticatedUser} {leadActor : LeadActor}

theorem holdsLead_of_canAccessLead {id : Uuid}
    (isActor : assertLeadActor actor = .ok leadActor)
    (access : canAccessLead tables.staffAssignments actor id) :
    holdsLead tables leadActor id := by
  unfold assertLeadActor at isActor
  cases role : actor.role with
  | adminManager =>
      simp only [role, Except.ok.injEq] at isActor
      subst isActor
      rfl
  | travelConsultant =>
      simp only [role, Except.ok.injEq] at isActor
      subst isActor
      simpa [canAccessLead, role, holdsLead] using access
  | _ =>
      simp [role] at isActor

/-- A consultant who passed the access check of a client holds it. -/
theorem client_held_of_canAccessClient {clientId : Uuid}
    (isActor : assertLeadActor actor = .ok leadActor)
    (access :
      canAccessClient tables.staffAssignments tables.clientProfiles actor
        clientId)
    (isConsultant : leadActor.role = .travelConsultant) :
    (findActiveAssignmentForClient tables.staffAssignments clientId).any
      fun active => active.assignedStaffId = leadActor.id := by
  unfold assertLeadActor at isActor
  cases role : actor.role with
  | adminManager =>
      simp only [role, Except.ok.injEq] at isActor
      subst isActor
      cases isConsultant
  | travelConsultant =>
      simp only [role, Except.ok.injEq] at isActor
      subst isActor
      simpa [canAccessClient, role] using access
  | _ =>
      simp [role] at isActor

end Rechecks

/-- The identifiers a conversion draws occur nowhere in the tables. -/
structure DrawsFreshIds (context : RequestContext) (tables : Tables) :
    Prop where
  client : ∀ row ∈ tables.clients, row.id ≠ context.randomUuid 0
  assignment : ∀ row ∈ tables.staffAssignments, row.id ≠ context.randomUuid 1
  assigned :
    ∀ row ∈ tables.staffAssignments,
      row.clientId ≠ some (context.randomUuid 0)

section Ways

variable {context : RequestContext} {tables : Tables} {found : Lead}
  {leadActor : LeadActor}

/-- The clients the conversion of a lead looks at. -/
def clientMatches (tables : Tables) (found : Lead) : List DuplicateMatchRow :=
  findDuplicateClientMatches tables
    ⟨found.normalizedEmail, found.normalizedPhone⟩

/-- The client a conversion of `found` creates. -/
def createdClient (context : RequestContext) (found : Lead) : Client where
  id := context.randomUuid 0
  fullName := found.fullName
  email := found.email
  phone := found.phone
  normalizedEmail := found.normalizedEmail
  normalizedPhone := found.normalizedPhone

theorem chooseClient_of_none (fresh : DrawsFreshIds context tables)
    (noMatch : clientMatches tables found = []) :
    chooseClient context found ⟨none⟩ tables =
      .ok
        ((⟨context.randomUuid 0, found.fullName⟩, true),
          { tables with
            clients := tables.clients ++ [createdClient context found] }) := by
  have unused :
      findBy Client.id (context.randomUuid 0) tables.clients = none :=
    findBy_eq_none_iff.mpr fresh.client
  have empty :
      ¬ 0 <
        (findDuplicateClientMatches tables
          ⟨found.normalizedEmail, found.normalizedPhone⟩).length := by
    have isEmpty : (clientMatches tables found).length = 0 := by
      rw [noMatch, List.length_nil]
    exact Nat.not_lt.mpr (Nat.le_of_eq isEmpty)
  simp only [chooseClient, require_of empty, ok_bind, createClientFromLead]
  rw [require_of (by rw [unused]; rfl)]
  rfl

/-- Any match blocks the creation of a client. -/
theorem noMatch_of_chooseClient {chosen : (ClientSummary × Bool) × Tables}
    (chooses : chooseClient context found ⟨none⟩ tables = .ok chosen) :
    clientMatches tables found = [] := by
  simp only [chooseClient, bind_eq_ok, require_eq_ok, exists_const]
    at chooses
  obtain ⟨unmatched, -⟩ := chooses
  exact List.eq_nil_of_length_eq_zero (Nat.eq_zero_of_not_pos unmatched)

/-- A client is linked exactly when it is one of the matches. -/
theorem chooseClient_some_iff {clientId : Uuid} :
    (∃ client clientCreated withClient,
        chooseClient context found ⟨some clientId⟩ tables =
          .ok ((client, clientCreated), withClient)) ↔
      ∃ row ∈ clientMatches tables found, row.id = clientId := by
  simp only [chooseClient, bind_eq_ok, demand_eq_ok, Except.ok.injEq,
    Prod.mk.injEq]
  constructor
  · rintro ⟨client, clientCreated, withClient, linked, matched, -⟩
    have isRequested := List.find?_some matched
    exact
      ⟨linked, List.mem_of_find?_eq_some matched,
        of_decide_eq_true isRequested⟩
  · rintro ⟨row, member, isRow⟩
    have matched :
        ((clientMatches tables found).find? fun other =>
          other.id = clientId).isSome := by
      rw [List.find?_isSome]
      exact ⟨row, member, decide_eq_true isRow⟩
    obtain ⟨linked, isLinked⟩ := Option.isSome_iff_exists.mp matched
    exact ⟨_, _, _, linked, isLinked, ⟨rfl, rfl⟩, rfl⟩

/-- A linked client inherits nothing. -/
theorem linked_of_chooseClient {clientId : Uuid} {client : ClientSummary}
    {clientCreated : Bool} {withClient : Tables}
    (chooses :
      chooseClient context found ⟨some clientId⟩ tables =
        .ok ((client, clientCreated), withClient)) :
    clientCreated = false ∧ withClient = tables := by
  simp only [chooseClient, bind_eq_ok, demand_eq_ok, Except.ok.injEq,
    Prod.mk.injEq] at chooses
  obtain ⟨linked, -, ⟨-, isLink⟩, same⟩ := chooses
  exact ⟨isLink.symm, same.symm⟩

/-- With fresh identifiers the created client gets its assignment. -/
theorem inheritAssignment_of_fresh (fresh : DrawsFreshIds context tables)
    (active : Option StaffAssignment) (client : ClientSummary)
    (isDrawn : client.id = context.randomUuid 0) (clients : List Client) :
    ∃ inherited,
      inheritAssignment context leadActor active client true
        { tables with clients := clients } = .ok inherited := by
  cases active with
  | none =>
      exact ⟨_, rfl⟩
  | some held =>
      have idUnused :
          findBy StaffAssignment.id (context.randomUuid 1)
            tables.staffAssignments = none :=
        findBy_eq_none_iff.mpr fresh.assignment
      have notAssigned :
          findActiveAssignmentForClient tables.staffAssignments client.id =
            none := by
        refine List.find?_eq_none.mpr ?_
        intro row member
        have other := fresh.assigned row member
        rw [← isDrawn] at other
        simp [other]
      simp [inheritAssignment, createAssignment, assignmentViolation,
        idUnused, notAssigned]

end Ways

section Conversion

variable {context : RequestContext} {tables : Tables}
  {actor : AuthenticatedUser} {leadActor : LeadActor} {id : Uuid}
  {found : Lead} {input : ConvertLeadRequest}

/-- The history of the conversion is written when the lead is stored. -/
theorem convertLeadWithHistory_of_found {written : Tables} {clientId : Uuid}
    {changedByUserId : Uuid} {now : Timestamp}
    (sameLeads : written.leads = tables.leads)
    (foundLead : findLeadById tables id = some found) :
    ∃ updated,
      convertLeadWithHistory written id clientId changedByUserId now =
        .ok updated := by
  have stillFound : findLeadById written id = some found := by
    unfold findLeadById at foundLead ⊢
    rw [sameLeads]
    exact foundLead
  simp [convertLeadWithHistory, stillFound, demand]

/-- A qualified lead is converted exactly when a client is chosen for it and
the assignment inherited. -/
theorem convertLeadTransaction_succeeds_iff
    (foundLead : findLeadById tables id = some found)
    (holds : holdsLead tables leadActor id)
    (recheck :
      leadActor.role = .travelConsultant →
        ∀ clientId ∈ input.clientId,
          (findActiveAssignmentForClient tables.staffAssignments
            clientId).any fun active =>
            active.assignedStaffId = leadActor.id)
    (qualified : found.status = .qualified) :
    (∃ result after,
        convertLeadTransaction context leadActor id input tables =
          .ok (result, after)) ↔
      ∃ client clientCreated withClient inherited,
        chooseClient context found input tables =
            .ok ((client, clientCreated), withClient) ∧
          inheritAssignment context leadActor
              (findActiveAssignmentForLead tables.staffAssignments id) client
              clientCreated withClient =
            .ok inherited := by
  have notConverted : ¬ found.status = .convertedToClient := by
    rw [qualified]
    decide
  simp only [convertLeadTransaction, foundLead, demand, ok_bind,
    require_of holds, require_of recheck, if_neg notConverted,
    require_of qualified, bind_eq_ok, Prod.exists, Except.ok.injEq,
    Prod.mk.injEq]
  constructor
  · rintro ⟨result, after, client, clientCreated, withClient, choosing,
      inherited, inheriting, -⟩
    exact
      ⟨client, clientCreated, withClient, inherited, choosing, inheriting⟩
  · rintro ⟨client, clientCreated, withClient, inherited, choosing,
      inheriting⟩
    have sameLeads : inherited.leads = tables.leads := by
      rw [inheritAssignment_leads inheriting, chooseClient_leads choosing]
    obtain ⟨⟨updated, written⟩, writing⟩ :=
      @convertLeadWithHistory_of_found _ _ _ _ client.id leadActor.id
        context.now sameLeads foundLead
    exact
      ⟨_, _, client, clientCreated, withClient, choosing, inherited,
        inheriting, updated, written, writing, rfl, rfl⟩

/-- The conversion of a lead within reach. -/
theorem convertLead_succeeds_iff
    (isActor : assertLeadActor actor = .ok leadActor)
    (access : canAccessLead tables.staffAssignments actor id)
    (foundLead : findLeadById tables id = some found)
    (qualified : found.status = .qualified) :
    Succeeds (convertLead context actor id input) tables ↔
      (∀ clientId ∈ input.clientId,
        canAccessClient tables.staffAssignments tables.clientProfiles actor
          clientId) ∧
      ∃ client clientCreated withClient inherited,
        chooseClient context found input tables =
            .ok ((client, clientCreated), withClient) ∧
          inheritAssignment context leadActor
              (findActiveAssignmentForLead tables.staffAssignments id) client
              clientCreated withClient =
            .ok inherited := by
  have opened :
      convertLead context actor id input tables =
        if ∀ clientId ∈ input.clientId,
            canAccessClient tables.staffAssignments tables.clientProfiles
              actor clientId then
          serve conversionConflict
            (convertLeadTransaction context leadActor id input) tables
        else
          (.error clientLinkNotAvailable, tables) := by
    simp only [convertLead, withLead, isActor, if_pos access]
  by_cases seesClient :
      ∀ clientId ∈ input.clientId,
        canAccessClient tables.staffAssignments tables.clientProfiles actor
          clientId
  · rw [if_pos seesClient] at opened
    have served :
        Succeeds (convertLead context actor id input) tables ↔
          Succeeds
            (serve conversionConflict
              (convertLeadTransaction context leadActor id input)) tables := by
      unfold Succeeds
      rw [opened]
    rw [served, serve_succeeds_iff,
      convertLeadTransaction_succeeds_iff foundLead
        (holdsLead_of_canAccessLead isActor access) ?_ qualified]
    · exact (and_iff_right seesClient).symm
    · intro isConsultant clientId requested
      exact
        client_held_of_canAccessClient isActor (seesClient clientId requested)
          isConsultant
  · rw [if_neg seesClient] at opened
    constructor
    · rintro ⟨value, returned⟩
      rw [opened] at returned
      cases returned
    · rintro ⟨sees, -⟩
      exact absurd sees seesClient

end Conversion

/-! ## Agreement -/

theorem getConversionOptions_of_found {tables : Tables}
    {actor : AuthenticatedUser} {leadActor : LeadActor} {id : Uuid}
    {found : Lead} (isActor : assertLeadActor actor = .ok leadActor)
    (access : canAccessLead tables.staffAssignments actor id)
    (foundLead : findLeadById tables id = some found)
    (qualified : found.status = .qualified) :
    getConversionOptions tables actor id =
      .ok
        { accessibleMatches :=
            ((clientMatches tables found).filter fun row =>
              canAccessClient tables.staffAssignments tables.clientProfiles
                actor row.id).map fun row =>
              ⟨row.id, row.fullName, row.matchedOn⟩
          restrictedMatchDetected :=
            ¬ (clientMatches tables found).all fun row =>
              canAccessClient tables.staffAssignments tables.clientProfiles
                actor row.id } := by
  simp only [getConversionOptions, isActor, ok_bind, require_of access,
    foundLead, demand, require_of qualified]
  rfl

/-- The conversion panel and the conversion itself decide alike: a client may
be created exactly when no match is shown and none is hidden, and a client
may be linked exactly when it is shown. -/
theorem conversion_options_agree {context : RequestContext} {tables : Tables}
    {actor : AuthenticatedUser} {leadActor : LeadActor} {id : Uuid}
    {found : Lead} (fresh : DrawsFreshIds context tables)
    (isActor : assertLeadActor actor = .ok leadActor)
    (access : canAccessLead tables.staffAssignments actor id)
    (foundLead : findLeadById tables id = some found)
    (qualified : found.status = .qualified) :
    ∃ options,
      getConversionOptions tables actor id = .ok options ∧
        (Succeeds (convertLead context actor id ⟨none⟩) tables ↔
          options.accessibleMatches = [] ∧
            options.restrictedMatchDetected = false) ∧
        ∀ clientId,
          Succeeds (convertLead context actor id ⟨some clientId⟩) tables ↔
            clientId ∈
              options.accessibleMatches.map AccessibleConversionCandidate.id := by
  refine
    ⟨_, getConversionOptions_of_found isActor access foundLead qualified,
      ?_, ?_⟩
  · rw [convertLead_succeeds_iff isActor access foundLead qualified]
    have nothing :
        (((clientMatches tables found).filter fun row =>
            canAccessClient tables.staffAssignments tables.clientProfiles
              actor row.id).map fun row =>
            (⟨row.id, row.fullName, row.matchedOn⟩ :
              AccessibleConversionCandidate)) = [] ∧
          decide
            (¬ (clientMatches tables found).all fun row =>
              canAccessClient tables.staffAssignments tables.clientProfiles
                actor row.id) = false ↔
        clientMatches tables found = [] := by
      cases clientMatches tables found with
      | nil =>
          simp
      | cons first rest =>
          simp only [List.map_eq_nil_iff, List.filter_eq_nil_iff,
            decide_eq_false_iff_not, not_not, List.all_eq_true, reduceCtorEq,
            iff_false, not_and]
          intro hidden shown
          exact
            hidden first List.mem_cons_self (shown first List.mem_cons_self)
    rw [nothing]
    constructor
    · rintro ⟨-, client, clientCreated, withClient, inherited, choosing, -⟩
      exact noMatch_of_chooseClient choosing
    · intro noMatch
      obtain ⟨inherited, inheriting⟩ :=
        @inheritAssignment_of_fresh context tables leadActor fresh
          (findActiveAssignmentForLead tables.staffAssignments id)
          ⟨context.randomUuid 0, found.fullName⟩ rfl
          (tables.clients ++ [createdClient context found])
      refine
        ⟨by simp, _, _, _, inherited, chooseClient_of_none fresh noMatch,
          inheriting⟩
  · intro clientId
    rw [convertLead_succeeds_iff isActor access foundLead qualified]
    simp only [Option.mem_def, Option.some.injEq, forall_eq', List.map_map,
      List.mem_map, List.mem_filter, Function.comp]
    constructor
    · rintro ⟨sees, client, clientCreated, withClient, inherited, choosing,
        -⟩
      obtain ⟨row, member, isRow⟩ :=
        chooseClient_some_iff.mp ⟨client, clientCreated, withClient, choosing⟩
      subst isRow
      exact ⟨row, ⟨member, sees⟩, rfl⟩
    · rintro ⟨row, ⟨member, sees⟩, rfl⟩
      obtain ⟨client, clientCreated, withClient, choosing⟩ :=
        (@chooseClient_some_iff context tables found row.id).mpr
          ⟨row, member, rfl⟩
      obtain ⟨isLink, sameTables⟩ := linked_of_chooseClient choosing
      subst isLink sameTables
      exact ⟨sees, client, false, _, _, choosing, rfl⟩

/-- A lead that shares its email with a client of the same consultant and its
phone with a client of nobody. -/
def twoMatches : Tables :=
  { Tables.empty with
    leads :=
      [{ id := 1
         status := .qualified
         fullName := "Ana Reyes"
         email := some anaAddress
         phone := some mobileNumber
         normalizedEmail := some "ana@example.ph"
         normalizedPhone := some "639171234567"
         source := "referral"
         notes := none
         clientId := none
         createdAt := 0
         updatedAt := 0 }]
    clients :=
      [⟨10, "Ana R.", none, none, some "ana@example.ph", none⟩,
        ⟨11, "A. Reyes", none, none, none, some "639171234567"⟩]
    staffAssignments :=
      [⟨20, 5, .travelConsultant, 4, some 1, none, none, none⟩,
        ⟨21, 5, .travelConsultant, 4, none, some 10, none, none⟩] }

theorem conversion_options_of_two_matches :
    ∃ options,
      getConversionOptions twoMatches ⟨5, .travelConsultant⟩ 1 = .ok options ∧
        (Succeeds
            (convertLead ⟨fun draw => 100 + draw, 7⟩ ⟨5, .travelConsultant⟩ 1
              ⟨none⟩) twoMatches ↔
          options.accessibleMatches = [] ∧
            options.restrictedMatchDetected = false) ∧
        ∀ clientId,
          Succeeds
              (convertLead ⟨fun draw => 100 + draw, 7⟩ ⟨5, .travelConsultant⟩
                1 ⟨some clientId⟩) twoMatches ↔
            clientId ∈
              options.accessibleMatches.map
                AccessibleConversionCandidate.id :=
  @conversion_options_agree ⟨fun draw => 100 + draw, 7⟩ twoMatches
    ⟨5, .travelConsultant⟩ ⟨5, .travelConsultant⟩ 1
    (twoMatches.leads.head (by decide))
    ⟨by decide, by decide, by decide⟩ (by decide) (by decide) (by decide)
    (by decide)

/-- The client of the consultant is shown, the other one is a flag. -/
example :
    getConversionOptions twoMatches ⟨5, .travelConsultant⟩ 1 =
      .ok ⟨[⟨10, "Ana R.", [.email]⟩], true⟩ := by
  decide

end Heritage.Leads
