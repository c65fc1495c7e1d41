import Heritage.Clients.Service
import Heritage.Store.Search

/-!
# What a search for duplicates gives away

Creating or editing a lead or a client searches all leads and clients for the
submitted contact.  An actor learns of the records in reach, and of the others
whether there is one.
-/

namespace Heritage.Clients

open Heritage.Store
open Heritage.Leads (Tables Lead AuthorizedDuplicateMatch
  DuplicateMatchResult)
open Heritage.Leads.Repository (DuplicateParams DuplicateMatchRow
  LeadDuplicateMatchRow MatchedChannel computeMatchedOn searched)

/-- The stored contact and the submitted one share a value on the channel. -/
def MatchesOn (params : DuplicateParams)
    (normalizedEmail normalizedPhone : Option String) : MatchedChannel → Prop
  | .email =>
      ∃ email, email ≠ "" ∧ params.normalizedEmail = some email ∧
        normalizedEmail = some email
  | .phone =>
      ∃ phone, phone ≠ "" ∧ params.normalizedPhone = some phone ∧
        normalizedPhone = some phone

section Channels

variable {params : DuplicateParams}
  {normalizedEmail normalizedPhone : Option String}

theorem searched_any_eq_some_iff {submitted stored : Option String} :
    (searched submitted).any (fun value => stored = some value) ↔
      ∃ value, value ≠ "" ∧ submitted = some value ∧ stored = some value := by
  cases submitted with
  | none =>
      simp [searched]
  | some value =>
      by_cases blank : value = ""
      · simp [searched, blank]
      · simp [searched, blank, Option.filter]

theorem mem_computeMatchedOn_iff {channel : MatchedChannel} :
    channel ∈ computeMatchedOn normalizedEmail normalizedPhone params ↔
      MatchesOn params normalizedEmail normalizedPhone channel := by
  have byEmail :=
    @searched_any_eq_some_iff params.normalizedEmail normalizedEmail
  have byPhone :=
    @searched_any_eq_some_iff params.normalizedPhone normalizedPhone
  unfold computeMatchedOn
  cases channel with
  | email =>
      rw [MatchesOn, ← byEmail, List.mem_append]
      split <;> split <;> simp_all
  | phone =>
      rw [MatchesOn, ← byPhone, List.mem_append]
      split <;> split <;> simp_all

theorem computeMatchedOn_nodup :
    (computeMatchedOn normalizedEmail normalizedPhone params).Nodup := by
  unfold computeMatchedOn
  split <;> split <;> simp

theorem matches_iff :
    computeMatchedOn normalizedEmail normalizedPhone params ≠ [] ↔
      ∃ channel,
        MatchesOn params normalizedEmail normalizedPhone channel := by
  constructor
  · intro matching
    obtain ⟨channel, member⟩ := List.exists_mem_of_ne_nil _ matching
    exact ⟨channel, mem_computeMatchedOn_iff.mp member⟩
  · rintro ⟨channel, isMatch⟩
    exact List.ne_nil_of_mem (mem_computeMatchedOn_iff.mpr isMatch)

end Channels

section Searches

variable (params : DuplicateParams) (leadExcluded : Lead → Bool)
  (clientExcluded : Client → Bool)

def keepsLead (row : Lead) : Bool :=
  computeMatchedOn row.normalizedEmail row.normalizedPhone params ≠ [] ∧
    ¬ leadExcluded row

def keepsClient (row : Client) : Bool :=
  computeMatchedOn row.normalizedEmail row.normalizedPhone params ≠ [] ∧
    ¬ clientExcluded row

def leadMatch (row : Lead) : AuthorizedDuplicateMatch where
  type := .lead
  id := row.id
  fullName := row.fullName
  status := some row.status
  matchedOn := computeMatchedOn row.normalizedEmail row.normalizedPhone params

def clientMatch (row : Client) : AuthorizedDuplicateMatch where
  type := .client
  id := row.id
  fullName := row.fullName
  status := none
  matchedOn := computeMatchedOn row.normalizedEmail row.normalizedPhone params

variable (tables : Tables) (actor : AuthenticatedUser)

def seesLead (row : Lead) : Bool :=
  canAccessLead tables.staffAssignments actor row.id

def seesClient (row : Client) : Bool :=
  canAccessClient tables.staffAssignments tables.clientProfiles actor row.id

/-- The leads in reach that a search shows. -/
def shownLeads : List AuthorizedDuplicateMatch :=
  shown (keepsLead params leadExcluded) (seesLead tables actor)
    (leadMatch params) tables.leads

/-- The clients in reach that a search shows. -/
def shownClients : List AuthorizedDuplicateMatch :=
  shown (keepsClient params clientExcluded) (seesClient tables actor)
    (clientMatch params) tables.clients

/-- The result is the answer of a search with these exclusions. -/
structure Answers (result : DuplicateMatchResult) : Prop where
  listed :
    result.duplicateMatches.Perm
      (shownLeads params leadExcluded tables actor ++
        shownClients params clientExcluded tables actor)
  restricted :
    result.restrictedMatchDetected =
      (hides (keepsLead params leadExcluded) (seesLead tables actor)
          tables.leads ||
        hides (keepsClient params clientExcluded) (seesClient tables actor)
          tables.clients)

end Searches

section Answered

variable {tables : Tables} {actor : AuthenticatedUser}
  {params : DuplicateParams} {leadExcluded : Lead → Bool}
  {clientExcluded : Client → Bool}

/-- The found leads the access check lets through, as the services list
them. -/
theorem shownLeads_eq {keep : Lead → Bool}
    (sameKept : keep = keepsLead params leadExcluded) :
    ((((tables.leads.filter keep).map fun row =>
        (⟨row.id, row.fullName, row.status,
          computeMatchedOn row.normalizedEmail row.normalizedPhone params⟩ :
          LeadDuplicateMatchRow)).filter fun found =>
        canAccessLead tables.staffAssignments actor found.id).map fun found =>
      (⟨.lead, found.id, found.fullName, some found.status,
        found.matchedOn⟩ : AuthorizedDuplicateMatch)) =
      shownLeads params leadExcluded tables actor := by
  rw [sameKept, List.filter_map, List.map_map]
  rfl

theorem shownClients_eq {keep : Client → Bool}
    (sameKept : keep = keepsClient params clientExcluded) :
    ((((tables.clients.filter keep).map fun row =>
        (⟨row.id, row.fullName,
          computeMatchedOn row.normalizedEmail row.normalizedPhone params⟩ :
          DuplicateMatchRow)).filter fun found =>
        canAccessClient tables.staffAssignments tables.clientProfiles actor
          found.id).map fun found =>
      (⟨.client, found.id, found.fullName, none, found.matchedOn⟩ :
        AuthorizedDuplicateMatch)) =
      shownClients params clientExcluded tables actor := by
  rw [sameKept, List.filter_map, List.map_map]
  rfl

/-- A search hides a row exactly when not all it found is in sight. -/
theorem not_all_eq_hides {ρ σ : Type} {rows : List ρ} {keep sees : ρ → Bool}
    {kept : ρ → Bool} {sight : σ → Bool} {image : ρ → σ}
    (sameKept : kept = keep) (sameSight : ∀ row, sight (image row) = sees row) :
    (!((rows.filter kept).map image).all sight) = hides keep sees rows := by
  have pulled : sight ∘ image = sees := funext sameSight
  rw [sameKept, List.all_map, pulled]
  simp only [hides, List.not_all_eq_any_not, decide_not, Bool.decide_eq_true]

theorem leadsHidden_eq {keep : Lead → Bool}
    (sameKept : keep = keepsLead params leadExcluded) :
    (!((tables.leads.filter keep).map fun row =>
        (⟨row.id, row.fullName, row.status,
          computeMatchedOn row.normalizedEmail row.normalizedPhone params⟩ :
          LeadDuplicateMatchRow)).all fun found =>
        canAccessLead tables.staffAssignments actor found.id) =
      hides (keepsLead params leadExcluded) (seesLead tables actor)
        tables.leads := by
  apply not_all_eq_hides sameKept
  intro row
  rfl

theorem clientsHidden_eq {keep : Client → Bool}
    (sameKept : keep = keepsClient params clientExcluded) :
    (!((tables.clients.filter keep).map fun row =>
        (⟨row.id, row.fullName,
          computeMatchedOn row.normalizedEmail row.normalizedPhone params⟩ :
          DuplicateMatchRow)).all fun found =>
        canAccessClient tables.staffAssignments tables.clientProfiles actor
          found.id) =
      hides (keepsClient params clientExcluded) (seesClient tables actor)
        tables.clients := by
  apply not_all_eq_hides sameKept
  intro row
  rfl

/-- The flag of a result, from the two lists that were found. -/
theorem flag_eq {σ τ : Type} {first : List σ} {second : List τ}
    {seesFirst : σ → Bool} {seesSecond : τ → Bool}
    {firstHidden secondHidden : Bool}
    (firstFlag : (!first.all seesFirst) = firstHidden)
    (secondFlag : (!second.all seesSecond) = secondHidden) :
    decide (¬ (first.all seesFirst ∧ second.all seesSecond)) =
      (firstHidden || secondHidden) := by
  rw [← firstFlag, ← secondFlag]
  cases first.all seesFirst <;> cases second.all seesSecond <;> rfl

/-- The search of `createLead` and `updateLead`. -/
theorem findDuplicateMatches_answers (excludeLeadId : Option Uuid) :
    Answers params (fun lead => some lead.id = excludeLeadId)
      (fun _ => false) tables actor
      (Leads.findDuplicateMatches tables actor params excludeLeadId) := by
  have leadsKept :
      (fun row : Lead =>
        decide
          (computeMatchedOn row.normalizedEmail row.normalizedPhone params ≠
              [] ∧
            some row.id ≠ excludeLeadId)) =
        keepsLead params fun lead => some lead.id = excludeLeadId := by
    funext row
    simp [keepsLead]
  have clientsKept :
      (fun row : Client =>
        decide
          (computeMatchedOn row.normalizedEmail row.normalizedPhone params ≠
            [])) =
        keepsClient params fun _ => false := by
    funext row
    simp [keepsClient]
  constructor
  · apply List.Perm.of_eq
    exact congrArg₂ List.append (shownLeads_eq leadsKept)
      (shownClients_eq clientsKept)
  · exact flag_eq (leadsHidden_eq leadsKept) (clientsHidden_eq clientsKept)

/-- The search of `updateClient`. -/
theorem findDuplicateMatchesForClient_answers (excludeClientId : Uuid) :
    Answers params (fun lead => lead.clientId = some excludeClientId)
      (fun client => client.id = excludeClientId) tables actor
      (findDuplicateMatchesForClient tables actor params
        excludeClientId) := by
  have leadsKept :
      (fun row : Lead =>
        decide
          (computeMatchedOn row.normalizedEmail row.normalizedPhone params ≠
              [] ∧
            (row.clientId = none ∨ row.clientId ≠ some excludeClientId))) =
        keepsLead params fun lead => lead.clientId = some excludeClientId := by
    funext row
    cases owner : row.clientId with
    | none => simp [keepsLead, owner]
    | some clientId => simp [keepsLead, owner]
  have clientsKept :
      (fun row : Client =>
        decide
          (computeMatchedOn row.normalizedEmail row.normalizedPhone params ≠
              [] ∧
            row.id ≠ excludeClientId)) =
        keepsClient params fun client => client.id = excludeClientId := by
    funext row
    simp [keepsClient]
  constructor
  · refine List.Perm.trans (List.Perm.of_eq ?_) List.perm_append_comm
    exact congrArg₂ List.append (shownClients_eq clientsKept)
      (shownLeads_eq leadsKept)
  · rw [Bool.or_comm]
    exact flag_eq (clientsHidden_eq clientsKept) (leadsHidden_eq leadsKept)

end Answered

/-- Two databases in which the actor sees the same leads and clients. -/
structure SameView (actor : AuthenticatedUser) (first second : Tables) :
    Prop where
  leads :
    ∀ lead,
      lead ∈ first.leads ∧ seesLead first actor lead ↔
        lead ∈ second.leads ∧ seesLead second actor lead
  clients :
    ∀ client,
      client ∈ first.clients ∧ seesClient first actor client ↔
        client ∈ second.clients ∧ seesClient second actor client

/-- The ids of the leads and of the clients are keys. -/
structure Keyed (tables : Tables) : Prop where
  leads : (tables.leads.map Lead.id).Nodup
  clients : (tables.clients.map Client.id).Nodup

/-- A lead or client out of reach matches the submitted contact. -/
def HiddenMatch (params : DuplicateParams) (leadExcluded : Lead → Bool)
    (clientExcluded : Client → Bool) (tables : Tables)
    (actor : AuthenticatedUser) : Prop :=
  (∃ lead ∈ tables.leads,
      ¬ leadExcluded lead ∧
        (∃ channel,
          MatchesOn params lead.normalizedEmail lead.normalizedPhone
            channel) ∧
        ¬ canAccessLead tables.staffAssignments actor lead.id) ∨
    ∃ client ∈ tables.clients,
      ¬ clientExcluded client ∧
        (∃ channel,
          MatchesOn params client.normalizedEmail client.normalizedPhone
            channel) ∧
        ¬ canAccessClient tables.staffAssignments tables.clientProfiles actor
          client.id

/-- The same result up to the order of the matches. -/
structure SameAnswer (first second : DuplicateMatchResult) : Prop where
  listed : first.duplicateMatches.Perm second.duplicateMatches
  restricted : first.restrictedMatchDetected = second.restrictedMatchDetected

section TwoDatabases

variable {params : DuplicateParams} {leadExcluded : Lead → Bool}
  {clientExcluded : Client → Bool} {actor : AuthenticatedUser}
  {first second : Tables} {firstResult secondResult : DuplicateMatchResult}

/-- The flag is the bit of the hidden matches. -/
theorem Answers.restricted_iff
    (answers :
      Answers params leadExcluded clientExcluded first actor firstResult) :
    firstResult.restrictedMatchDetected ↔
      HiddenMatch params leadExcluded clientExcluded first actor := by
  rw [answers.restricted, Bool.or_eq_true, hides_iff, hides_iff]
  simp only [keepsLead, keepsClient, seesLead, seesClient,
    decide_eq_true_eq, matches_iff]
  unfold HiddenMatch
  constructor
  · rintro (⟨lead, member, ⟨isMatch, kept⟩, hidden⟩ |
      ⟨client, member, ⟨isMatch, kept⟩, hidden⟩)
    · exact Or.inl ⟨lead, member, kept, isMatch, hidden⟩
    · exact Or.inr ⟨client, member, kept, isMatch, hidden⟩
  · rintro (⟨lead, member, kept, isMatch, hidden⟩ |
      ⟨client, member, kept, isMatch, hidden⟩)
    · exact Or.inl ⟨lead, member, ⟨isMatch, kept⟩, hidden⟩
    · exact Or.inr ⟨client, member, ⟨isMatch, kept⟩, hidden⟩

/-- Equal views and an equal bit give equal answers. -/
theorem sameAnswer_of_answers (firstKeyed : Keyed first)
    (secondKeyed : Keyed second) (sameView : SameView actor first second)
    (sameBit :
      HiddenMatch params leadExcluded clientExcluded first actor ↔
        HiddenMatch params leadExcluded clientExcluded second actor)
    (firstAnswers :
      Answers params leadExcluded clientExcluded first actor firstResult)
    (secondAnswers :
      Answers params leadExcluded clientExcluded second actor secondResult) :
    SameAnswer firstResult secondResult where
  listed := by
    have sameLeads :
        (shownLeads params leadExcluded first actor).Perm
          (shownLeads params leadExcluded second actor) :=
      shown_perm (List.Nodup.of_map _ firstKeyed.leads)
        (List.Nodup.of_map _ secondKeyed.leads) sameView.leads
    have sameClients :
        (shownClients params clientExcluded first actor).Perm
          (shownClients params clientExcluded second actor) :=
      shown_perm (List.Nodup.of_map _ firstKeyed.clients)
        (List.Nodup.of_map _ secondKeyed.clients) sameView.clients
    exact
      firstAnswers.listed.trans
        ((sameLeads.append sameClients).trans secondAnswers.listed.symm)
  restricted := by
    rw [Bool.eq_iff_iff, firstAnswers.restricted_iff,
      secondAnswers.restricted_iff]
    exact sameBit

end TwoDatabases

/-- Every matching record in reach that is not excluded is reported once, with
the channels on which it matches. -/
structure ReportsEach (params : DuplicateParams) (leadExcluded : Lead → Bool)
    (clientExcluded : Client → Bool) (tables : Tables)
    (actor : AuthenticatedUser) (result : DuplicateMatchResult) : Prop where
  leads :
    ∀ lead ∈ tables.leads, ¬ leadExcluded lead →
      (∃ channel,
        MatchesOn params lead.normalizedEmail lead.normalizedPhone
          channel) →
      canAccessLead tables.staffAssignments actor lead.id →
      ∃ channels,
        (result.duplicateMatches.filter fun found =>
            found.type = .lead ∧ found.id = lead.id) =
          [⟨.lead, lead.id, lead.fullName, some lead.status, channels⟩] ∧
        channels.Nodup ∧
        ∀ channel,
          channel ∈ channels ↔
            MatchesOn params lead.normalizedEmail lead.normalizedPhone channel
  clients :
    ∀ client ∈ tables.clients, ¬ clientExcluded client →
      (∃ channel,
        MatchesOn params client.normalizedEmail client.normalizedPhone
          channel) →
      canAccessClient tables.staffAssignments tables.clientProfiles actor
        client.id →
      ∃ channels,
        (result.duplicateMatches.filter fun found =>
            found.type = .client ∧ found.id = client.id) =
          [⟨.client, client.id, client.fullName, none, channels⟩] ∧
        channels.Nodup ∧
        ∀ channel,
          channel ∈ channels ↔
            MatchesOn params client.normalizedEmail client.normalizedPhone
              channel

section OneDatabase

variable {params : DuplicateParams} {leadExcluded : Lead → Bool}
  {clientExcluded : Client → Bool} {actor : AuthenticatedUser}
  {tables : Tables} {result : DuplicateMatchResult}

theorem type_of_mem_shownLeads {found : AuthorizedDuplicateMatch}
    (isShown : found ∈ shownLeads params leadExcluded tables actor) :
    found.type = .lead := by
  obtain ⟨lead, -, -, -, rfl⟩ := mem_shown_iff.mp isShown
  rfl

theorem type_of_mem_shownClients {found : AuthorizedDuplicateMatch}
    (isShown : found ∈ shownClients params clientExcluded tables actor) :
    found.type = .client := by
  obtain ⟨client, -, -, -, rfl⟩ := mem_shown_iff.mp isShown
  rfl

/-- A rearrangement of one element is that element. -/
theorem filter_eq_singleton_of_perm {τ : Type} {listed shownRows : List τ}
    {keep : τ → Bool} {only : τ} (rearranged : listed.Perm shownRows)
    (onlyOne : shownRows.filter keep = [only]) :
    listed.filter keep = [only] := by
  have filtered := rearranged.filter keep
  rw [onlyOne] at filtered
  exact List.perm_singleton.mp filtered

theorem Answers.reportsEach (keyed : Keyed tables)
    (answers : Answers params leadExcluded clientExcluded tables actor result) :
    ReportsEach params leadExcluded clientExcluded tables actor result where
  leads := by
    intro lead member notExcluded isMatch access
    have kept : keepsLead params leadExcluded lead :=
      decide_eq_true ⟨matches_iff.mpr isMatch, notExcluded⟩
    refine
      ⟨_, filter_eq_singleton_of_perm answers.listed ?_,
        computeMatchedOn_nodup, fun _ => mem_computeMatchedOn_iff⟩
    have ofLead :
        ((shownLeads params leadExcluded tables actor).filter fun found =>
            found.type = .lead ∧ found.id = lead.id) =
          [leadMatch params lead] := by
      rw [← @shown_filter_key Lead AuthorizedDuplicateMatch Uuid tables.leads
        _ (seesLead tables actor) (leadMatch params) _ Lead.id
        AuthorizedDuplicateMatch.id (fun _ => rfl) keyed.leads lead member
        kept access]
      apply List.filter_congr
      intro found isShown
      simp [type_of_mem_shownLeads isShown]
    have ofClient :
        ((shownClients params clientExcluded tables actor).filter fun found =>
            found.type = .lead ∧ found.id = lead.id) = [] := by
      rw [List.filter_eq_nil_iff]
      intro found isShown
      simp [type_of_mem_shownClients isShown]
    rw [List.filter_append, ofLead, ofClient]
    rfl
  clients := by
    intro client member notExcluded isMatch access
    have kept : keepsClient params clientExcluded client :=
      decide_eq_true ⟨matches_iff.mpr isMatch, notExcluded⟩
    refine
      ⟨_, filter_eq_singleton_of_perm answers.listed ?_,
        computeMatchedOn_nodup, fun _ => mem_computeMatchedOn_iff⟩
    have ofLead :
        ((shownLeads params leadExcluded tables actor).filter fun found =>
            found.type = .client ∧ found.id = client.id) = [] := by
      rw [List.filter_eq_nil_iff]
      intro found isShown
      simp [type_of_mem_shownLeads isShown]
    have ofClient :
        ((shownClients params clientExcluded tables actor).filter fun found =>
            found.type = .client ∧ found.id = client.id) =
          [clientMatch params client] := by
      rw [← @shown_filter_key Client AuthorizedDuplicateMatch Uuid
        tables.clients _ (seesClient tables actor) (clientMatch params) _
        Client.id AuthorizedDuplicateMatch.id (fun _ => rfl) keyed.clients
        client member kept access]
      apply List.filter_congr
      intro found isShown
      simp [type_of_mem_shownClients isShown]
    rw [List.filter_append, ofLead, ofClient]
    rfl

end OneDatabase

/-! ## The one bit -/

/-- What the searches answer depends on the records in reach and on whether a
record out of reach matches; each matching record in reach is reported once. -/
theorem duplicate_searches_leak_one_bit {first second : Tables}
    {actor : AuthenticatedUser} (params : DuplicateParams)
    (firstKeyed : Keyed first) (secondKeyed : Keyed second)
    (sameView : SameView actor first second) :
    (∀ excludeLeadId : Option Uuid,
      (HiddenMatch params (fun lead => some lead.id = excludeLeadId)
          (fun _ => false) first actor ↔
        HiddenMatch params (fun lead => some lead.id = excludeLeadId)
          (fun _ => false) second actor) →
      SameAnswer
        (Leads.findDuplicateMatches first actor params excludeLeadId)
        (Leads.findDuplicateMatches second actor params excludeLeadId)) ∧
    (∀ excludeClientId : Uuid,
      (HiddenMatch params (fun lead => lead.clientId = some excludeClientId)
          (fun client => client.id = excludeClientId) first actor ↔
        HiddenMatch params (fun lead => lead.clientId = some excludeClientId)
          (fun client => client.id = excludeClientId) second actor) →
      SameAnswer
        (findDuplicateMatchesForClient first actor params excludeClientId)
        (findDuplicateMatchesForClient second actor params
          excludeClientId)) ∧
    (∀ excludeLeadId : Option Uuid,
      ReportsEach params (fun lead => some lead.id = excludeLeadId)
        (fun _ => false) first actor
        (Leads.findDuplicateMatches first actor params excludeLeadId)) ∧
    ∀ excludeClientId : Uuid,
      ReportsEach params (fun lead => lead.clientId = some excludeClientId)
        (fun client => client.id = excludeClientId) first actor
        (findDuplicateMatchesForClient first actor params
          excludeClientId) := by
  refine ⟨?_, ?_, ?_, ?_⟩
  · intro excludeLeadId sameBit
    exact
      sameAnswer_of_answers firstKeyed secondKeyed sameView sameBit
        (findDuplicateMatches_answers excludeLeadId)
        (findDuplicateMatches_answers excludeLeadId)
  · intro excludeClientId sameBit
    exact
      sameAnswer_of_answers firstKeyed secondKeyed sameView sameBit
        (findDuplicateMatchesForClient_answers excludeClientId)
        (findDuplicateMatchesForClient_answers excludeClientId)
  · intro excludeLeadId
    exact (findDuplicateMatches_answers excludeLeadId).reportsEach firstKeyed
  · intro excludeClientId
    exact
      (findDuplicateMatchesForClient_answers excludeClientId).reportsEach
        firstKeyed

/-- Client 10 of a consultant, next to other leads and clients. -/
def besideClient (leads : List Lead) (clients : List Client) : Tables :=
  { Tables.empty with
    leads := leads
    clients :=
      ⟨10, "Ana Reyes", none, none, some "ana@example.ph", none⟩ :: clients
    staffAssignments :=
      [⟨20, 5, .travelConsultant, 4, none, some 10, none, none⟩] }

/-- A lead with Ana's address that nobody is assigned to. -/
def unassignedLead (status : Leads.LeadStatus) (clientId : Option Uuid) :
    Lead where
  id := 1
  status := status
  fullName := "Ana R."
  email := some anaAddress
  phone := none
  normalizedEmail := some "ana@example.ph"
  normalizedPhone := none
  source := "referral"
  notes := none
  clientId := clientId
  createdAt := 0
  updatedAt := 0

/-- Another client with Ana's address. -/
def unassignedClient : Client :=
  ⟨11, "A. Reyes", none, none, some "ana@example.ph", none⟩

/-- Leads nobody is assigned to, and clients other than client 10, are out of
the consultant's sight. -/
theorem sameView_besideClient {leads others : List Lead}
    {clients otherClients : List Client}
    (notShown : ∀ client ∈ clients ++ otherClients, client.id ≠ 10) :
    SameView ⟨5, .travelConsultant⟩ (besideClient leads clients)
      (besideClient others otherClients) where
  leads := by
    intro lead
    simp [seesLead, besideClient, canAccessLead, findActiveAssignmentForLead]
  clients := by
    intro client
    by_cases isAna : client.id = 10
    · have notFirst : client ∉ clients := fun member =>
        notShown client (List.mem_append_left _ member) isAna
      have notSecond : client ∉ otherClients := fun member =>
        notShown client (List.mem_append_right _ member) isAna
      simp [seesClient, besideClient, notFirst, notSecond]
    · have hidden : ∀ leads clients,
          ¬ seesClient (besideClient leads clients) ⟨5, .travelConsultant⟩
            client := by
        intro leads clients
        have notHeld : ¬ (10 : Uuid) = client.id := fun same =>
          isAna same.symm
        simp [seesClient, besideClient, canAccessClient,
          findActiveAssignmentForClient, notHeld]
      simp [hidden]

/-- A hidden lead in one database and a hidden client in the other. -/
theorem hidden_lead_or_client_looks_alike :
    SameAnswer
      (findDuplicateMatchesForClient
        (besideClient [unassignedLead .new none] []) ⟨5, .travelConsultant⟩
        ⟨some "ana@example.ph", none⟩ 10)
      (findDuplicateMatchesForClient
        (besideClient [] [unassignedClient]) ⟨5, .travelConsultant⟩
        ⟨some "ana@example.ph", none⟩ 10) := by
  refine
    (@duplicate_searches_leak_one_bit
      (besideClient [unassignedLead .new none] [])
      (besideClient [] [unassignedClient]) ⟨5, .travelConsultant⟩
      ⟨some "ana@example.ph", none⟩ ⟨by decide, by decide⟩
      ⟨by decide, by decide⟩ (sameView_besideClient (by decide))).2.1 10 ?_
  constructor
  · intro _
    exact
      Or.inr
        ⟨unassignedClient, by decide, by decide,
          ⟨.email, "ana@example.ph", by decide, rfl, rfl⟩, by decide⟩
  · intro _
    exact
      Or.inl
        ⟨unassignedLead .new none, by decide, by decide,
          ⟨.email, "ana@example.ph", by decide, rfl, rfl⟩, by decide⟩

/-- A hidden lead that the edited client came from is excluded before the
access check, so it is told apart from a hidden lead of nobody. -/
theorem own_lead_leaves_flag_down :
    Keyed (besideClient [unassignedLead .convertedToClient (some 10)] []) ∧
      Keyed (besideClient [unassignedLead .new none] []) ∧
      SameView ⟨5, .travelConsultant⟩
        (besideClient [unassignedLead .convertedToClient (some 10)] [])
        (besideClient [unassignedLead .new none] []) ∧
      HiddenMatch ⟨some "ana@example.ph", none⟩ (fun _ => false)
        (fun _ => false)
        (besideClient [unassignedLead .convertedToClient (some 10)] [])
        ⟨5, .travelConsultant⟩ ∧
      HiddenMatch ⟨some "ana@example.ph", none⟩ (fun _ => false)
        (fun _ => false) (besideClient [unassignedLead .new none] [])
        ⟨5, .travelConsultant⟩ ∧
      ¬ SameAnswer
        (findDuplicateMatchesForClient
          (besideClient [unassignedLead .convertedToClient (some 10)] [])
          ⟨5, .travelConsultant⟩ ⟨some "ana@example.ph", none⟩ 10)
        (findDuplicateMatchesForClient
          (besideClient [unassignedLead .new none] [])
          ⟨5, .travelConsultant⟩ ⟨some "ana@example.ph", none⟩ 10) := by
  refine
    ⟨⟨by decide, by decide⟩, ⟨by decide, by decide⟩,
      sameView_besideClient (by decide), ?_, ?_, ?_⟩
  · exact
      Or.inl
        ⟨unassignedLead .convertedToClient (some 10), by decide, by decide,
          ⟨.email, "ana@example.ph", by decide, rfl, rfl⟩, by decide⟩
  · exact
      Or.inl
        ⟨unassignedLead .new none, by decide, by decide,
          ⟨.email, "ana@example.ph", by decide, rfl, rfl⟩, by decide⟩
  · intro same
    exact absurd same.restricted (by decide)

end Heritage.Clients
