import Heritage.Clients.Commits

/-!
# Normalized contacts

Leads and clients keep a normal form beside each contact value, and every
search for duplicates compares normal forms.  Four operations write these
columns, one of them from values it read earlier; none of them ever writes one
column without the other.
-/

namespace Heritage.Clients

open Heritage.Store
open Heritage.Leads (Tables Lead AuthorizedDuplicateMatch
  DuplicateMatchResult)
open Heritage.Leads.Repository (MatchedChannel DuplicateParams searched
  computeMatchedOn UpdateLeadFieldsInput LeadDuplicateMatchRow
  DuplicateMatchRow)
open Repository

section NormalForms

variable (platform : StringPlatform)

def normalEmail (email : Option NonBlank) : Option String :=
  email.map fun text => normalizeEmail platform text.value

def normalPhone (phone : Option NonBlank) : Option String :=
  phone.map fun text => normalizePhone text.value

/-- The normalized columns of a lead are those of its stored values. -/
structure LeadNormalized (lead : Lead) : Prop where
  email : lead.normalizedEmail = normalEmail platform lead.email
  phone : lead.normalizedPhone = normalPhone lead.phone

structure ClientNormalized (client : Client) : Prop where
  email : client.normalizedEmail = normalEmail platform client.email
  phone : client.normalizedPhone = normalPhone client.phone

/-- What a search for duplicates of a submitted email and phone compares. -/
def submitted (email phone : Option NonBlank) : DuplicateParams where
  normalizedEmail := normalEmail platform email
  normalizedPhone := normalPhone phone

/-- Both values are there and their normal forms are the same text, which is
not the empty one. -/
def SameNormalForm (normalize : NonBlank → String)
    (stored sought : Option NonBlank) : Prop :=
  ∃ first ∈ stored, ∃ second ∈ sought,
    normalize first = normalize second ∧ normalize second ≠ ""

instance (normalize : NonBlank → String) (stored sought : Option NonBlank) :
    Decidable (SameNormalForm normalize stored sought) :=
  decidable_of_iff
    (stored.any fun first =>
      sought.any fun second =>
        normalize first = normalize second ∧ normalize second ≠ "")
    (by simp [SameNormalForm, Option.any_eq_true])

/-- The channels on which stored values are duplicates of submitted ones. -/
def sharedChannels (storedEmail storedPhone email phone : Option NonBlank) :
    List MatchedChannel :=
  (if SameNormalForm (fun text => normalizeEmail platform text.value)
      storedEmail email then [.email] else []) ++
    (if SameNormalForm (fun text => normalizePhone text.value)
      storedPhone phone then [.phone] else [])

end NormalForms

variable {platform : StringPlatform}

/-- A normalized column is found by a search exactly when the stored value has
the normal form of the submitted one. -/
theorem searched_any_iff (normalize : NonBlank → String)
    (stored sought : Option NonBlank) :
    ((searched (sought.map normalize)).any fun text =>
        stored.map normalize = some text) ↔
      SameNormalForm normalize stored sought := by
  cases stored with
  | none =>
      simp [SameNormalForm, searched]
  | some first =>
      cases sought with
      | none =>
          simp [SameNormalForm, searched]
      | some second =>
          by_cases empty : normalize second = ""
          · simp [SameNormalForm, searched, empty]
          · simp [SameNormalForm, searched, empty]

theorem computeMatchedOn_normalized
    (storedEmail storedPhone email phone : Option NonBlank) :
    computeMatchedOn (normalEmail platform storedEmail)
        (normalPhone storedPhone) (submitted platform email phone) =
      sharedChannels platform storedEmail storedPhone email phone := by
  have emails :=
    searched_any_iff (fun text => normalizeEmail platform text.value)
      storedEmail email
  have phones :=
    searched_any_iff (fun text => normalizePhone text.value) storedPhone phone
  unfold computeMatchedOn sharedChannels
  congr 1
  · exact if_congr emails rfl rfl
  · exact if_congr phones rfl rfl

/-- A prepared write of a contact value writes its normal form with it. -/
structure WritesNormalized (platform : StringPlatform)
    (data : UpdateLeadFieldsInput) : Prop where
  email : data.normalizedEmail = data.email.map (normalEmail platform)
  phone : data.normalizedPhone = data.phone.map normalPhone

structure Normalized (platform : StringPlatform) (state : State) : Prop where
  leads :
    ∀ lead ∈ state.database.tables.leads, LeadNormalized platform lead
  clients :
    ∀ client ∈ state.database.tables.clients,
      ClientNormalized platform client
  prepared :
    ∀ prepared, .updateLead prepared ∈ state.waiting →
      WritesNormalized platform prepared.data

/-- A column written together with its normal form stays normal. -/
theorem getD_map_normal {normal : Option NonBlank → Option String}
    (written : Option (Option NonBlank)) (stored : Option NonBlank) :
    (written.map normal).getD (normal stored) =
      normal (written.getD stored) := by
  cases written with
  | none => rfl
  | some value => rfl

theorem leadNormalized_change {data : UpdateLeadFieldsInput}
    {now : Timestamp} {lead : Lead}
    (writes : WritesNormalized platform data)
    (stored : LeadNormalized platform lead) :
    LeadNormalized platform (data.change now lead) where
  email := by
    simp only [UpdateLeadFieldsInput.change, writes.email, stored.email]
    exact getD_map_normal data.email lead.email
  phone := by
    simp only [UpdateLeadFieldsInput.change, writes.phone, stored.phone]
    exact getD_map_normal data.phone lead.phone

theorem clientNormalized_changeContact {input : UpdateClientRequest}
    {existing : ClientRecord} {client : Client}
    (stored : ClientNormalized platform client) :
    ClientNormalized platform
      ((changedData platform input existing).changeContact client) where
  email := by
    simp only [UpdateClientFieldsInput.changeContact, stored.email]
    exact getD_map_normal (changedData platform input existing).email
      client.email
  phone := by
    simp only [UpdateClientFieldsInput.changeContact, stored.phone]
    exact getD_map_normal (changedData platform input existing).phone
      client.phone

/-- A reading prepares the normal form of every contact value it writes. -/
theorem writesNormalized_of_read {actor : AuthenticatedUser} {id : Uuid}
    {input : Leads.UpdateLeadRequest} {tables : Tables}
    {prepared : Leads.PreparedUpdate}
    (read :
      Leads.readLeadForUpdate platform actor id input tables =
        .ok (.write prepared)) :
    WritesNormalized platform prepared.data := by
  simp only [Leads.readLeadForUpdate, bind_eq_ok, require_eq_ok,
    demand_eq_ok, exists_const] at read
  obtain ⟨leadActor, -, -, existing, -, -, -, prepares⟩ := read
  split at prepares
  · cases prepares
  · simp only [Except.ok.injEq, Leads.UpdateReading.write.injEq] at prepares
    subst prepares
    exact ⟨rfl, rfl⟩

/-- Only a call prepares a write, and it prepares what it has read. -/
theorem step_prepared {state : State} {request : Request}
    {property : Leads.PreparedUpdate → Prop}
    (earlier :
      ∀ prepared, .updateLead prepared ∈ state.waiting → property prepared)
    (reads :
      ∀ actor id input prepared,
        Leads.readLeadForUpdate platform actor id input
            state.database.tables = .ok (.write prepared) →
          property prepared) :
    ∀ prepared,
      .updateLead prepared ∈ (step platform state request).waiting →
        property prepared := by
  intro prepared member
  cases request with
  | call actor operation =>
      rcases List.mem_append.mp member with old | new
      · exact earlier prepared old
      · have admitted := Option.mem_toList.mp new
        cases operation with
        | updateLead id input =>
            simp only [admitOperation] at admitted
            split at admitted
            next read =>
              cases admitted
              exact reads actor id input _ read
            · cases admitted
        | createLead input =>
            simp [admitOperation] at admitted
        | updateLeadStatus id input =>
            simp [admitOperation] at admitted
        | convertLead id input =>
            simp [admitOperation] at admitted
        | updateClient id input =>
            simp [admitOperation] at admitted
  | attempt context index =>
      unfold step at member
      dsimp only at member
      split at member
      · exact earlier prepared member
      · exact earlier prepared (List.mem_of_mem_eraseIdx member)
  | assignmentsChanged staffAssignments =>
      exact earlier prepared member
  | profilesChanged clientProfiles =>
      exact earlier prepared member

theorem clientsNormalized_of_chosen {tables : Tables} {lead : Lead}
    {requested : Option Uuid} {clientId : Uuid} {clientCreated : Bool}
    {clients : List Client}
    (stored :
      ∀ client ∈ tables.clients, ClientNormalized platform client)
    (leadNormalized : LeadNormalized platform lead)
    (chosen :
      ChosenClient tables lead requested clientId clientCreated clients) :
    ∀ client ∈ clients, ClientNormalized platform client := by
  cases chosen with
  | created copy fresh sameEmail samePhone sameNormalizedEmail
      sameNormalizedPhone unmatched =>
      intro client member
      rcases List.mem_append.mp member with old | new
      · exact stored client old
      · rw [List.mem_singleton.mp new]
        constructor
        · rw [sameNormalizedEmail, sameEmail]
          exact leadNormalized.email
        · rw [sameNormalizedPhone, samePhone]
          exact leadNormalized.phone
  | linked client known matching =>
      exact stored

theorem leadsNormalized_of_commit {tables after : Tables} {waiting : Waiting}
    (committed : Commit platform tables waiting after)
    (prepared :
      ∀ update, waiting = .updateLead update →
        WritesNormalized platform update.data)
    (stored : ∀ lead ∈ tables.leads, LeadNormalized platform lead) :
    ∀ lead ∈ after.leads, LeadNormalized platform lead := by
  cases committed with
  | kept =>
      exact stored
  | leadCreated row staffAssignments auditLogs fresh normalizedEmail
      normalizedPhone =>
      intro lead member
      rcases List.mem_append.mp member with old | new
      · exact stored lead old
      · rw [List.mem_singleton.mp new]
        exact ⟨normalizedEmail, normalizedPhone⟩
  | leadEdited now =>
      exact
        forall_mem_updateBy_of_kept stored fun lead normalized =>
          leadNormalized_change (prepared _ rfl) normalized
  | leadMoved lead now =>
      exact
        forall_mem_updateBy_of_kept stored fun row normalized =>
          ⟨normalized.email, normalized.phone⟩
  | leadConverted lead clientId clientCreated clients =>
      exact
        forall_mem_updateBy_of_kept stored fun row normalized =>
          ⟨normalized.email, normalized.phone⟩
  | clientEdited existing =>
      exact stored

theorem clientsNormalized_of_commit {tables after : Tables}
    {waiting : Waiting} (committed : Commit platform tables waiting after)
    (leads : ∀ lead ∈ tables.leads, LeadNormalized platform lead)
    (stored : ∀ client ∈ tables.clients, ClientNormalized platform client) :
    ∀ client ∈ after.clients, ClientNormalized platform client := by
  cases committed with
  | leadConverted lead clientId clientCreated clients staffAssignments now
      auditLogs found qualified chosen =>
      exact
        clientsNormalized_of_chosen stored (leads lead (mem_of_findBy found))
          chosen
  | clientEdited existing =>
      exact
        forall_mem_updateBy_of_kept stored fun client normalized =>
          clientNormalized_changeContact normalized
  | kept => exact stored
  | leadCreated => exact stored
  | leadEdited => exact stored
  | leadMoved => exact stored

theorem step_normalized {state : State} {request : Request}
    (normalized : Normalized platform state) :
    Normalized platform (step platform state request) where
  leads :=
    @step_tables _
      (fun tables => ∀ lead ∈ tables.leads, LeadNormalized platform lead)
      state request normalized.leads (fun _ => normalized.leads)
      (fun _ => normalized.leads)
      fun _ _ member committed =>
        leadsNormalized_of_commit committed
          (fun update isUpdate =>
            normalized.prepared update (isUpdate ▸ member))
          normalized.leads
  clients :=
    @step_tables _
      (fun tables =>
        ∀ client ∈ tables.clients, ClientNormalized platform client)
      state request normalized.clients (fun _ => normalized.clients)
      (fun _ => normalized.clients)
      fun _ _ _ committed =>
        clientsNormalized_of_commit committed normalized.leads
          normalized.clients
  prepared :=
    step_prepared normalized.prepared fun _ _ _ _ read =>
      writesNormalized_of_read read

theorem stateAfter_normalized (platform : StringPlatform)
    (requests : List Request) :
    Normalized platform (stateAfter platform requests) := by
  have initial : Normalized platform State.initial := by
    constructor
    · intro lead member
      cases member
    · intro client member
      cases member
    · intro prepared member
      cases member
  exact
    run_invariant initial (fun _ _ normalized => step_normalized normalized)
      requests

/-! ## Searches for duplicates -/

section Searches

variable (platform)

/-- What a search among `tables` answers to an actor: the leads and clients
that are not excluded and share a channel with the submitted values are listed
when the actor may see them, and the others are counted as restricted. -/
structure ReportsDuplicates (tables : Tables) (actor : AuthenticatedUser)
    (email phone : Option NonBlank) (leadExcluded : Lead → Prop)
    (clientExcluded : Client → Prop) (result : DuplicateMatchResult) :
    Prop where
  leads :
    ∀ id channels,
      (∃ found ∈ result.duplicateMatches,
          found.type = .lead ∧ found.id = id ∧
            found.matchedOn = channels) ↔
        ∃ lead ∈ tables.leads,
          lead.id = id ∧ ¬ leadExcluded lead ∧
            sharedChannels platform lead.email lead.phone email phone =
              channels ∧
            channels ≠ [] ∧
            canAccessLead tables.staffAssignments actor lead.id
  clients :
    ∀ id channels,
      (∃ found ∈ result.duplicateMatches,
          found.type = .client ∧ found.id = id ∧
            found.matchedOn = channels) ↔
        ∃ client ∈ tables.clients,
          client.id = id ∧ ¬ clientExcluded client ∧
            sharedChannels platform client.email client.phone email phone =
              channels ∧
            channels ≠ [] ∧
            canAccessClient tables.staffAssignments tables.clientProfiles
              actor client.id
  restricted :
    result.restrictedMatchDetected ↔
      (∃ lead ∈ tables.leads,
          ¬ leadExcluded lead ∧
            sharedChannels platform lead.email lead.phone email phone ≠ [] ∧
            ¬ canAccessLead tables.staffAssignments actor lead.id) ∨
        ∃ client ∈ tables.clients,
          ¬ clientExcluded client ∧
            sharedChannels platform client.email client.phone email phone ≠
              [] ∧
            ¬ canAccessClient tables.staffAssignments tables.clientProfiles
              actor client.id

variable {platform} {tables : Tables} {email phone : Option NonBlank}

/-- On normal columns the channels that match are the shared ones. -/
theorem LeadNormalized.matchedOn {lead : Lead}
    (normalized : LeadNormalized platform lead) :
    computeMatchedOn lead.normalizedEmail lead.normalizedPhone
        (submitted platform email phone) =
      sharedChannels platform lead.email lead.phone email phone := by
  rw [normalized.email, normalized.phone, computeMatchedOn_normalized]

theorem ClientNormalized.matchedOn {client : Client}
    (normalized : ClientNormalized platform client) :
    computeMatchedOn client.normalizedEmail client.normalizedPhone
        (submitted platform email phone) =
      sharedChannels platform client.email client.phone email phone := by
  rw [normalized.email, normalized.phone, computeMatchedOn_normalized]

/-- The rows a search keeps, when its channels are those of `shared`. -/
theorem mem_matches_iff {ρ τ : Type} {rows : List ρ} {keep : ρ → Prop}
    [DecidablePred keep] {matchedOn shared : ρ → List MatchedChannel}
    {image : ρ → List MatchedChannel → τ} {found : τ}
    (agree : ∀ row ∈ rows, matchedOn row = shared row) :
    (found ∈
        (rows.filter fun row => matchedOn row ≠ [] ∧ keep row).map
          fun row => image row (matchedOn row)) ↔
      ∃ row ∈ rows,
        keep row ∧ shared row ≠ [] ∧ found = image row (shared row) := by
  simp only [List.mem_map, List.mem_filter, decide_eq_true_eq]
  constructor
  · rintro ⟨row, ⟨member, matching, kept⟩, rfl⟩
    rw [agree row member] at matching ⊢
    exact ⟨row, member, kept, matching, rfl⟩
  · rintro ⟨row, member, kept, sharing, rfl⟩
    refine ⟨row, ⟨member, ?_, kept⟩, ?_⟩
    · rw [agree row member]
      exact sharing
    · rw [agree row member]

/-- The search of a conversion, which excludes no client. -/
theorem mem_clientMatches_iff
    (clients : ∀ client ∈ tables.clients, ClientNormalized platform client)
    {found : DuplicateMatchRow} :
    found ∈
        Leads.Repository.findDuplicateClientMatches tables
          (submitted platform email phone) ↔
      ∃ client ∈ tables.clients,
        sharedChannels platform client.email client.phone email phone ≠ [] ∧
          found =
            ⟨client.id, client.fullName,
              sharedChannels platform client.email client.phone email
                phone⟩ := by
  have everyClient :
      Leads.Repository.findDuplicateClientMatches tables
          (submitted platform email phone) =
        (tables.clients.filter fun row =>
          computeMatchedOn row.normalizedEmail row.normalizedPhone
              (submitted platform email phone) ≠ [] ∧ True).map
          fun row =>
            ⟨row.id, row.fullName,
              computeMatchedOn row.normalizedEmail row.normalizedPhone
                (submitted platform email phone)⟩ := by
    simp [Leads.Repository.findDuplicateClientMatches]
  rw [everyClient,
    mem_matches_iff fun client member => (clients client member).matchedOn]
  simp only [true_and]

/-- An answer that shows the visible matches of both kinds and flags the
others reports the duplicates the matches are. -/
theorem reportsDuplicates_of_matches {actor : AuthenticatedUser}
    {leadExcluded : Lead → Prop} {clientExcluded : Client → Prop}
    {leadMatches : List LeadDuplicateMatchRow}
    {clientMatches : List DuplicateMatchRow} {result : DuplicateMatchResult}
    (leads :
      ∀ found,
        found ∈ leadMatches ↔
          ∃ lead ∈ tables.leads,
            ¬ leadExcluded lead ∧
              sharedChannels platform lead.email lead.phone email phone ≠
                [] ∧
              found =
                ⟨lead.id, lead.fullName, lead.status,
                  sharedChannels platform lead.email lead.phone email
                    phone⟩)
    (clients :
      ∀ found,
        found ∈ clientMatches ↔
          ∃ client ∈ tables.clients,
            ¬ clientExcluded client ∧
              sharedChannels platform client.email client.phone email
                phone ≠ [] ∧
              found =
                ⟨client.id, client.fullName,
                  sharedChannels platform client.email client.phone email
                    phone⟩)
    (listed :
      ∀ shown,
        shown ∈ result.duplicateMatches ↔
          (∃ found ∈ leadMatches,
              canAccessLead tables.staffAssignments actor found.id ∧
                shown =
                  ⟨.lead, found.id, found.fullName, some found.status,
                    found.matchedOn⟩) ∨
            ∃ found ∈ clientMatches,
              canAccessClient tables.staffAssignments tables.clientProfiles
                  actor found.id ∧
                shown =
                  ⟨.client, found.id, found.fullName, none,
                    found.matchedOn⟩)
    (restricted :
      result.restrictedMatchDetected ↔
        (∃ found ∈ leadMatches,
            ¬ canAccessLead tables.staffAssignments actor found.id) ∨
          ∃ found ∈ clientMatches,
            ¬ canAccessClient tables.staffAssignments tables.clientProfiles
              actor found.id) :
    ReportsDuplicates platform tables actor email phone leadExcluded
      clientExcluded result where
  leads := by
    intro id channels
    constructor
    · rintro ⟨shown, member, isLead, rfl, rfl⟩
      rcases (listed shown).mp member with
        ⟨found, isFound, sees, rfl⟩ | ⟨found, isFound, sees, rfl⟩
      · obtain ⟨lead, leadMember, notExcluded, sharing, rfl⟩ :=
          (leads found).mp isFound
        exact ⟨lead, leadMember, rfl, notExcluded, rfl, sharing, sees⟩
      · cases isLead
    · rintro ⟨lead, member, rfl, notExcluded, rfl, sharing, sees⟩
      have isFound :=
        (leads _).mpr ⟨lead, member, notExcluded, sharing, rfl⟩
      exact
        ⟨_, (listed _).mpr (Or.inl ⟨_, isFound, sees, rfl⟩), rfl, rfl, rfl⟩
  clients := by
    intro id channels
    constructor
    · rintro ⟨shown, member, isClient, rfl, rfl⟩
      rcases (listed shown).mp member with
        ⟨found, isFound, sees, rfl⟩ | ⟨found, isFound, sees, rfl⟩
      · cases isClient
      · obtain ⟨client, clientMember, notExcluded, sharing, rfl⟩ :=
          (clients found).mp isFound
        exact ⟨client, clientMember, rfl, notExcluded, rfl, sharing, sees⟩
    · rintro ⟨client, member, rfl, notExcluded, rfl, sharing, sees⟩
      have isFound :=
        (clients _).mpr ⟨client, member, notExcluded, sharing, rfl⟩
      exact
        ⟨_, (listed _).mpr (Or.inr ⟨_, isFound, sees, rfl⟩), rfl, rfl, rfl⟩
  restricted := by
    rw [restricted]
    constructor
    · rintro (⟨found, isFound, hidden⟩ | ⟨found, isFound, hidden⟩)
      · obtain ⟨lead, member, notExcluded, sharing, rfl⟩ :=
          (leads found).mp isFound
        exact Or.inl ⟨lead, member, notExcluded, sharing, hidden⟩
      · obtain ⟨client, member, notExcluded, sharing, rfl⟩ :=
          (clients found).mp isFound
        exact Or.inr ⟨client, member, notExcluded, sharing, hidden⟩
    · rintro (⟨lead, member, notExcluded, sharing, hidden⟩ |
        ⟨client, member, notExcluded, sharing, hidden⟩)
      · exact
          Or.inl
            ⟨_, (leads _).mpr ⟨lead, member, notExcluded, sharing, rfl⟩,
              hidden⟩
      · exact
          Or.inr
            ⟨_, (clients _).mpr ⟨client, member, notExcluded, sharing, rfl⟩,
              hidden⟩

theorem mem_map_filter_iff {ρ τ : Type} {rows : List ρ} {keep : ρ → Bool}
    {image : ρ → τ} {shown : τ} :
    shown ∈ (rows.filter keep).map image ↔
      ∃ row ∈ rows, keep row ∧ shown = image row := by
  simp only [List.mem_map, List.mem_filter, and_assoc, eq_comm]

/-- Not every match is visible when one of them is hidden. -/
theorem some_hidden_iff {ρ τ : Type} {first : List ρ} {second : List τ}
    {seesFirst : ρ → Bool} {seesSecond : τ → Bool} :
    decide (¬ (first.all seesFirst ∧ second.all seesSecond)) ↔
      (∃ found ∈ first, ¬ seesFirst found) ∨
        ∃ found ∈ second, ¬ seesSecond found := by
  rw [decide_eq_true_iff, not_and_or]
  simp only [List.all_eq_true, not_forall, exists_prop]

/-- The search of `createLead` and `updateLead`. -/
theorem findDuplicateMatches_reports
    (leads : ∀ lead ∈ tables.leads, LeadNormalized platform lead)
    (clients : ∀ client ∈ tables.clients, ClientNormalized platform client)
    (actor : AuthenticatedUser) (email phone : Option NonBlank)
    (excludeLeadId : Option Uuid) :
    ReportsDuplicates platform tables actor email phone
      (fun lead => some lead.id = excludeLeadId) (fun _ => False)
      (Leads.findDuplicateMatches tables actor
        (submitted platform email phone) excludeLeadId) := by
  apply
    @reportsDuplicates_of_matches platform tables email phone actor _ _
      (Leads.Repository.findDuplicateLeadMatches tables
        (submitted platform email phone) excludeLeadId)
      (Leads.Repository.findDuplicateClientMatches tables
        (submitted platform email phone))
  · intro found
    exact mem_matches_iff fun lead member => (leads lead member).matchedOn
  · intro found
    simp only [not_false_eq_true, true_and]
    exact mem_clientMatches_iff clients
  · intro shown
    simp only [Leads.findDuplicateMatches, List.mem_append]
    exact or_congr mem_map_filter_iff mem_map_filter_iff
  · exact some_hidden_iff

/-- The search of `updateClient`. -/
theorem findDuplicateMatchesForClient_reports
    (leads : ∀ lead ∈ tables.leads, LeadNormalized platform lead)
    (clients : ∀ client ∈ tables.clients, ClientNormalized platform client)
    (actor : AuthenticatedUser) (email phone : Option NonBlank)
    (excludeClientId : Uuid) :
    ReportsDuplicates platform tables actor email phone
      (fun lead => lead.clientId = some excludeClientId)
      (fun client => client.id = excludeClientId)
      (findDuplicateMatchesForClient tables actor
        (submitted platform email phone) excludeClientId) := by
  apply
    @reportsDuplicates_of_matches platform tables email phone actor _ _
      (findDuplicateLeadMatches tables (submitted platform email phone)
        excludeClientId)
      (findDuplicateClientMatches tables (submitted platform email phone)
        excludeClientId)
  · intro found
    have notOwn : ∀ lead : Lead,
        ¬ lead.clientId = some excludeClientId ↔
          lead.clientId = none ∨ lead.clientId ≠ some excludeClientId := by
      intro lead
      cases lead.clientId with
      | none => simp
      | some clientId => simp
    apply
      (mem_matches_iff fun lead member =>
        (leads lead member).matchedOn).trans
    constructor
    · rintro ⟨lead, member, kept, found⟩
      exact ⟨lead, member, (notOwn lead).mpr kept, found⟩
    · rintro ⟨lead, member, kept, found⟩
      exact ⟨lead, member, (notOwn lead).mp kept, found⟩
  · intro found
    exact
      mem_matches_iff fun client member => (clients client member).matchedOn
  · intro shown
    simp only [findDuplicateMatchesForClient, List.mem_append]
    exact
      or_comm.trans (or_congr mem_map_filter_iff mem_map_filter_iff)
  · exact some_hidden_iff.trans or_comm

/-- What the operations look for in one state: `updateLead` and
`updateClient` search for the values the record will have, and a conversion
for the values of its lead. -/
structure SearchesStoredValues (platform : StringPlatform) (tables : Tables) :
    Prop where
  updateLead :
    ∀ lead ∈ tables.leads, ∀ input : Leads.UpdateLeadRequest,
      let data := Leads.changedData platform input lead
      DuplicateParams.mk (data.normalizedEmail.getD lead.normalizedEmail)
          (data.normalizedPhone.getD lead.normalizedPhone) =
        submitted platform (input.email.getD lead.email)
          (input.phone.getD lead.phone)
  updateClient :
    ∀ row : ClientRecord, row.contact ∈ tables.clients →
      ∀ input : UpdateClientRequest,
        let data := changedData platform input row
        DuplicateParams.mk
            (data.normalizedEmail.getD row.contact.normalizedEmail)
            (data.normalizedPhone.getD row.contact.normalizedPhone) =
          submitted platform (input.email.getD row.contact.email)
            (input.phone.getD row.contact.phone)
  convertLead :
    ∀ lead ∈ tables.leads,
      DuplicateParams.mk lead.normalizedEmail lead.normalizedPhone =
        submitted platform lead.email lead.phone

theorem changedTo_getD {τ : Type} [DecidableEq τ] (supplied : Option τ)
    (existing : τ) :
    (Leads.changedTo supplied existing).getD existing =
      supplied.getD existing := by
  cases supplied with
  | none => rfl
  | some value =>
      by_cases same : value = existing
      · simp [Leads.changedTo, Option.filter, same]
      · simp [Leads.changedTo, Option.filter, same]

/-- The value searched for is the normal form of the final value. -/
theorem searched_final {normal : Option NonBlank → Option String}
    (written : Option (Option NonBlank)) (stored : Option NonBlank) :
    (((Leads.changedTo written stored).map normal).getD (normal stored)) =
      normal (written.getD stored) := by
  rw [getD_map_normal, changedTo_getD]

theorem searchesStoredValues
    (leads : ∀ lead ∈ tables.leads, LeadNormalized platform lead)
    (clients : ∀ client ∈ tables.clients, ClientNormalized platform client) :
    SearchesStoredValues platform tables where
  updateLead := by
    intro lead member input
    rw [(leads lead member).email, (leads lead member).phone]
    exact
      congrArg₂ DuplicateParams.mk (searched_final input.email lead.email)
        (searched_final input.phone lead.phone)
  updateClient := by
    intro row member input
    rw [(clients row.contact member).email, (clients row.contact member).phone]
    exact
      congrArg₂ DuplicateParams.mk
        (searched_final input.email row.contact.email)
        (searched_final input.phone row.contact.phone)
  convertLead := by
    intro lead member
    rw [(leads lead member).email, (leads lead member).phone]
    rfl

end Searches

/-- After every run each normalized column is the normal form of its stored
value, and every search for duplicates finds exactly the records whose stored
email or phone has the same non-empty normal form as the one sought. -/
theorem normalized_contacts_never_drift (platform : StringPlatform)
    (requests : List Request) :
    let tables := (databaseAfter platform requests).tables
    (∀ lead ∈ tables.leads, LeadNormalized platform lead) ∧
      (∀ client ∈ tables.clients, ClientNormalized platform client) ∧
      SearchesStoredValues platform tables ∧
      (∀ actor email phone excludeLeadId,
        ReportsDuplicates platform tables actor email phone
          (fun lead => some lead.id = excludeLeadId) (fun _ => False)
          (Leads.findDuplicateMatches tables actor
            (submitted platform email phone) excludeLeadId)) ∧
      (∀ actor email phone excludeClientId,
        ReportsDuplicates platform tables actor email phone
          (fun lead => lead.clientId = some excludeClientId)
          (fun client => client.id = excludeClientId)
          (findDuplicateMatchesForClient tables actor
            (submitted platform email phone) excludeClientId)) ∧
      ∀ lead ∈ tables.leads, ∀ found,
        found ∈
            Leads.Repository.findDuplicateClientMatches tables
              ⟨lead.normalizedEmail, lead.normalizedPhone⟩ ↔
          ∃ client ∈ tables.clients,
            sharedChannels platform client.email client.phone lead.email
                lead.phone ≠ [] ∧
              found =
                ⟨client.id, client.fullName,
                  sharedChannels platform client.email client.phone
                    lead.email lead.phone⟩ := by
  intro tables
  have normalized := stateAfter_normalized platform requests
  refine
    ⟨normalized.leads, normalized.clients,
      searchesStoredValues normalized.leads normalized.clients,
      findDuplicateMatches_reports normalized.leads normalized.clients,
      findDuplicateMatchesForClient_reports normalized.leads
        normalized.clients, ?_⟩
  intro lead member found
  have params :=
    (searchesStoredValues normalized.leads
      normalized.clients).convertLead lead member
  rw [params]
  exact mem_clientMatches_iff normalized.clients

end Heritage.Clients
