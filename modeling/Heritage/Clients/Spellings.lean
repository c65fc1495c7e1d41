import Heritage.Clients.Duplicates

/-!
# Spellings of mobile numbers

A mobile number is written with a leading zero, with the country code after a
plus or two zeros, or bare, and with any separators between the digits.
`normalizePhone` takes all its spellings to one form, which no spelling of
another number has.
-/

namespace Heritage.Clients

open Heritage.Leads (Tables Lead)
open Heritage.Leads.Repository (DuplicateParams DuplicateMatchRow
  LeadDuplicateMatchRow MatchedChannel computeMatchedOn)

/-- The ten digits of a mobile number, without prefix. -/
structure MobileNumber where
  digits : List Char
  areDigits : ∀ digit ∈ digits, digit.isDigit
  ten : digits.length = 10
  mobile : digits.head? = some '9'

/-- The ways to write a number. -/
inductive MobileNumber.Written (number : MobileNumber) : List Char → Prop where
  | domestic : number.Written ('0' :: number.digits)
  | plus : number.Written ('+' :: '6' :: '3' :: number.digits)
  | doubleZero : number.Written ('0' :: '0' :: '6' :: '3' :: number.digits)
  | bare : number.Written number.digits

/-- The second text is the first with characters that are no digits inserted
anywhere. -/
inductive Separated : List Char → List Char → Prop where
  | nil : Separated [] []
  | kept (letter : Char) {written text : List Char} :
      Separated written text → Separated (letter :: written) (letter :: text)
  | inserted (letter : Char) {written text : List Char}
      (notDigit : ¬ letter.isDigit) :
      Separated written text → Separated written (letter :: text)

/-- The text is a way to write the number, up to separators. -/
def MobileNumber.Spells (number : MobileNumber) (phone : String) : Prop :=
  ∃ written, number.Written written ∧ Separated written phone.toList

theorem MobileNumber.ext_digits {number other : MobileNumber}
    (same : number.digits = other.digits) : number = other := by
  cases number
  cases other
  cases same
  rfl

/-- Separators leave the digits as they are. -/
theorem filter_separated {written text : List Char}
    (separated : Separated written text) :
    text.filter Char.isDigit = written.filter Char.isDigit := by
  induction separated with
  | nil =>
      rfl
  | kept letter _ inductionHypothesis =>
      rw [List.filter_cons, List.filter_cons, inductionHypothesis]
  | inserted letter notDigit _ inductionHypothesis =>
      rw [List.filter_cons_of_neg notDigit, inductionHypothesis]

section Forms

variable {number : MobileNumber}

theorem MobileNumber.digits_eq (number : MobileNumber) :
    ∃ rest, number.digits = '9' :: rest ∧ rest.length = 9 := by
  have length := number.ten
  have first := number.mobile
  cases isDigits : number.digits with
  | nil =>
      rw [isDigits] at first
      cases first
  | cons head rest =>
      rw [isDigits] at length first
      obtain rfl := Option.some.inj first
      exact ⟨rest, rfl, Nat.succ.inj length⟩

theorem MobileNumber.filter_digits (number : MobileNumber) :
    number.digits.filter Char.isDigit = number.digits :=
  List.filter_eq_self.mpr number.areDigits

/-- The digits that each way of writing leaves. -/
theorem MobileNumber.Written.filter {written : List Char}
    (way : number.Written written) :
    written.filter Char.isDigit ∈
      [number.digits, '0' :: number.digits,
        '6' :: '3' :: number.digits,
        '0' :: '0' :: '6' :: '3' :: number.digits] := by
  cases way with
  | domestic =>
      rw [List.filter_cons_of_pos (by decide), number.filter_digits]
      simp
  | plus =>
      rw [List.filter_cons_of_neg (by decide),
        List.filter_cons_of_pos (by decide),
        List.filter_cons_of_pos (by decide), number.filter_digits]
      simp
  | doubleZero =>
      rw [List.filter_cons_of_pos (by decide),
        List.filter_cons_of_pos (by decide),
        List.filter_cons_of_pos (by decide),
        List.filter_cons_of_pos (by decide), number.filter_digits]
      simp
  | bare =>
      rw [number.filter_digits]
      simp

/-- Every spelling of a number has the normal form `63` and its digits. -/
theorem normalizePhone_of_spells {phone : String}
    (spells : number.Spells phone) :
    normalizePhone phone = String.ofList ('6' :: '3' :: number.digits) := by
  obtain ⟨written, way, separated⟩ := spells
  have digitsLeft := way.filter
  rw [← filter_separated separated] at digitsLeft
  obtain ⟨rest, isDigits, restLength⟩ := number.digits_eq
  rw [isDigits] at digitsLeft ⊢
  simp only [List.mem_cons, List.not_mem_nil, or_false] at digitsLeft
  unfold normalizePhone
  -- Each way of writing reaches its own branch of the cascade.
  rcases digitsLeft with bare | domestic | plus | doubleZero
  · rw [bare]
    simp [restLength]
  · rw [domestic]
    simp [restLength]
  · rw [plus]
    simp
  · rw [doubleZero]
    simp

theorem normalizePhone_eq_iff {other : MobileNumber} {first second : String}
    (spellsFirst : number.Spells first) (spellsSecond : other.Spells second) :
    normalizePhone first = normalizePhone second ↔ number = other := by
  rw [normalizePhone_of_spells spellsFirst,
    normalizePhone_of_spells spellsSecond]
  constructor
  · intro same
    have sameLetters := String.ofList_injective same
    exact
      MobileNumber.ext_digits
        (List.cons.inj (List.cons.inj sameLetters).2).2
  · rintro rfl
    rfl

end Forms

/-- A search for a spelling of one number matches a row with the normal form
of a spelling of another on the phone when the numbers are the same. -/
theorem phone_mem_computeMatchedOn_iff {number other : MobileNumber}
    {submitted stored : String} (spellsSubmitted : number.Spells submitted)
    (spellsStored : other.Spells stored) {params : DuplicateParams}
    (searched : params.normalizedPhone = some (normalizePhone submitted))
    (normalizedEmail : Option String) :
    MatchedChannel.phone ∈
        computeMatchedOn normalizedEmail (some (normalizePhone stored))
          params ↔
      number = other := by
  rw [mem_computeMatchedOn_iff, MatchesOn, searched,
    ← normalizePhone_eq_iff spellsSubmitted spellsStored]
  constructor
  · rintro ⟨phone, -, isSubmitted, isStored⟩
    rw [Option.some.inj isSubmitted, Option.some.inj isStored]
  · intro same
    refine ⟨normalizePhone submitted, ?_, rfl, by rw [same]⟩
    rw [normalizePhone_of_spells spellsSubmitted]
    intro blank
    simp at blank

/-- What the spellings of two mobile numbers have in common. -/
structure SpellingsMeet (number other : MobileNumber)
    (submitted stored : String) : Prop where
  normalForm :
    normalizePhone submitted = String.ofList ('6' :: '3' :: number.digits)
  sameForm :
    normalizePhone submitted = normalizePhone stored ↔ number = other
  /-- The search reports a client whose phone is the other spelling as a match
  on the phone when the numbers are the same. -/
  clients :
    ∀ (tables : Tables) (params : DuplicateParams),
      params.normalizedPhone = some (normalizePhone submitted) →
      ∀ client ∈ tables.clients,
        client.normalizedPhone = some (normalizePhone stored) →
        ((∃ found ∈ Leads.Repository.findDuplicateClientMatches tables params,
            found =
                ⟨client.id, client.fullName,
                  computeMatchedOn client.normalizedEmail
                    client.normalizedPhone params⟩ ∧
              .phone ∈ found.matchedOn) ↔
          number = other)
  /-- So it does for leads, but for the one that is edited. -/
  leads :
    ∀ (tables : Tables) (params : DuplicateParams) (excludeId : Option Uuid),
      params.normalizedPhone = some (normalizePhone submitted) →
      ∀ lead ∈ tables.leads, some lead.id ≠ excludeId →
        lead.normalizedPhone = some (normalizePhone stored) →
        ((∃ found ∈
              Leads.Repository.findDuplicateLeadMatches tables params
                excludeId,
            found =
                ⟨lead.id, lead.fullName, lead.status,
                  computeMatchedOn lead.normalizedEmail lead.normalizedPhone
                    params⟩ ∧
              .phone ∈ found.matchedOn) ↔
          number = other)

/-- The spellings of a mobile number have one normal form, and a search for
duplicates matches spellings of the same number and of no other. -/
theorem mobile_spellings_meet {number other : MobileNumber}
    {submitted stored : String} (spellsSubmitted : number.Spells submitted)
    (spellsStored : other.Spells stored) :
    SpellingsMeet number other submitted stored where
  normalForm := normalizePhone_of_spells spellsSubmitted
  sameForm := normalizePhone_eq_iff spellsSubmitted spellsStored
  clients := by
    intro tables params searched client member isStored
    have onPhone :=
      phone_mem_computeMatchedOn_iff spellsSubmitted spellsStored searched
        client.normalizedEmail
    rw [← isStored] at onPhone
    constructor
    · rintro ⟨found, -, rfl, matched⟩
      exact onPhone.mp matched
    · intro same
      have matched := onPhone.mpr same
      refine ⟨_, List.mem_map_of_mem (List.mem_filter.mpr ⟨member, ?_⟩), rfl,
        matched⟩
      exact decide_eq_true (List.ne_nil_of_mem matched)
  leads := by
    intro tables params excludeId searched lead member kept isStored
    have onPhone :=
      phone_mem_computeMatchedOn_iff spellsSubmitted spellsStored searched
        lead.normalizedEmail
    rw [← isStored] at onPhone
    constructor
    · rintro ⟨found, -, rfl, matched⟩
      exact onPhone.mp matched
    · intro same
      have matched := onPhone.mpr same
      refine ⟨_, List.mem_map_of_mem (List.mem_filter.mpr ⟨member, ?_⟩), rfl,
        matched⟩
      exact decide_eq_true ⟨List.ne_nil_of_mem matched, kept⟩

/-- Ten digits with the last one left open. -/
def numberEnding (last : Char) (isDigit : last.isDigit) : MobileNumber where
  digits := ['9', '1', '7', '6', '3', '0', '0', '9', '0', last]
  areDigits := by
    intro digit member
    simp only [List.mem_cons, List.not_mem_nil, or_false] at member
    rcases member with rfl | rfl | rfl | rfl | rfl | rfl | rfl | rfl | rfl |
      rfl
    all_goals first | decide | exact isDigit
  ten := rfl
  mobile := rfl

/-- `+63 917-6300900` and `0917 6300901` stay apart. -/
theorem neighbours_stay_apart :
    SpellingsMeet (numberEnding '0' (by decide))
      (numberEnding '1' (by decide)) "+63 917-6300900" "0917 6300901" :=
  mobile_spellings_meet
    ⟨_, .plus, .kept _ (.kept _ (.kept _ (.inserted _ (by decide)
      (.kept _ (.kept _ (.kept _ (.inserted _ (by decide)
        (.kept _ (.kept _ (.kept _ (.kept _ (.kept _ (.kept _ (.kept _
          .nil))))))))))))))⟩
    ⟨_, .domestic, .kept _ (.kept _ (.kept _ (.kept _ (.inserted _ (by decide)
      (.kept _ (.kept _ (.kept _ (.kept _ (.kept _ (.kept _ (.kept _
        .nil)))))))))))⟩

end Heritage.Clients
