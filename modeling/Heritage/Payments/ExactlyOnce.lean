import Heritage.Payments.Desk
import Heritage.Payments.OneRecord

/-!
# Payments are carried out exactly once

The invariant of the desk and its steps.  A key that was sent stands for one
request; a key that a row carries was put there by that request, whose record
is still stored.
-/

namespace Heritage.Payments

open Heritage.Exports (RawValue property)
open Heritage.Store

variable {uuid : String → Option Uuid} {desk after : Desk}

theorem idempotencyKeySchema_value {raw : RawValue} {key : String}
    (accepted : (idempotencyKeySchema "idempotencyKey" raw).value = some key) :
    raw = .string key := by
  cases raw with
  | string text => exact congrArg RawValue.string (Option.some.inj accepted)
  | _ => cases accepted

theorem property_of_schema {route : PaymentRoute} {fields : Properties}
    {operation : Operation} {key : String}
    (accepted : (route.schema uuid fields).value = some operation)
    (own : operation.idempotencyKey = some key) :
    property fields "idempotencyKey" = .string key := by
  cases route with
  | planApproval id =>
      obtain ⟨input, -, rfl⟩ := Option.map_eq_some_iff.mp accepted
      cases own
  | planWithdrawal id =>
      obtain ⟨input, -, rfl⟩ := Option.map_eq_some_iff.mp accepted
      cases own
  | receipt id =>
      obtain ⟨input, -, rfl⟩ := Option.map_eq_some_iff.mp accepted
      cases own
  | payments =>
      obtain ⟨input, read, rfl⟩ := Option.map_eq_some_iff.mp accepted
      obtain rfl := Option.some.inj own
      apply idempotencyKeySchema_value
      simp only [recordPaymentSchema, Option.bind_eq_bind,
        Option.bind_eq_some_iff, Option.some.injEq] at read
      obtain ⟨bookingId, -, amount, -, key, isKey, rfl⟩ := read
      exact isKey
  | confirmation id =>
      obtain ⟨input, read, rfl⟩ := Option.map_eq_some_iff.mp accepted
      obtain rfl := Option.some.inj own
      apply idempotencyKeySchema_value
      simp only [confirmPaymentSchema, reasonedChangeSchema,
        Option.bind_eq_bind, Option.bind_eq_some_iff, Option.some.injEq]
        at read
      obtain ⟨paymentId, -, reason, -, key, isKey, rfl⟩ := read
      exact isKey
  | reversal id =>
      obtain ⟨input, read, rfl⟩ := Option.map_eq_some_iff.mp accepted
      obtain rfl := Option.some.inj own
      apply idempotencyKeySchema_value
      simp only [reversePaymentSchema, reasonedChangeSchema,
        Option.bind_eq_bind, Option.bind_eq_some_iff, Option.some.injEq]
        at read
      obtain ⟨paymentId, -, reason, -, key, isKey, rfl⟩ := read
      exact isKey
  | refunds id =>
      obtain ⟨input, read, rfl⟩ := Option.map_eq_some_iff.mp accepted
      obtain rfl := Option.some.inj own
      apply idempotencyKeySchema_value
      simp only [refundPaymentSchema, Option.bind_eq_bind,
        Option.bind_eq_some_iff, Option.some.injEq] at read
      obtain ⟨paymentId, -, amount, -, reason, -, key, isKey, allocationId, -,
        rfl⟩ := read
      exact isKey
  | allocations =>
      obtain ⟨input, read, rfl⟩ := Option.map_eq_some_iff.mp accepted
      obtain rfl := Option.some.inj own
      apply idempotencyKeySchema_value
      simp only [createAllocationSchema, Option.bind_eq_bind,
        Option.bind_eq_some_iff, Option.some.injEq] at read
      obtain ⟨paymentId, -, installmentId, -, amount, -, key, isKey, rfl⟩ :=
        read
      exact isKey
  | allocationReversal id =>
      obtain ⟨input, read, rfl⟩ := Option.map_eq_some_iff.mp accepted
      obtain rfl := Option.some.inj own
      apply idempotencyKeySchema_value
      simp only [reverseAllocationSchema, reasonedChangeSchema,
        Option.bind_eq_bind, Option.bind_eq_some_iff, Option.some.injEq]
        at read
      obtain ⟨allocationId, -, reason, -, key, isKey, rfl⟩ := read
      exact isKey

/-- A route parameter is no key. -/
theorem pathValues_ne_idempotencyKey (route : PaymentRoute) :
    ∀ entry ∈ route.pathValues, entry.1 ≠ "idempotencyKey" := by
  intro entry member
  cases route <;> simp [PaymentRoute.pathValues] at member <;>
    simp [member]

/-- The operation made of a request has no other key than the request. -/
theorem Submission.key_of_operation {submission : Submission}
    {operation : Operation} {key : String}
    (made : submission.operation uuid = some operation)
    (own : operation.idempotencyKey = some key) :
    submission.key = some key := by
  unfold Submission.operation at made
  split at made
  next accepted parsed =>
    obtain rfl := Option.some.inj made
    simp only [PaymentRoute.parseJsonBody] at parsed
    split at parsed
    next value issues read clean =>
      obtain rfl := Except.ok.inj parsed
      have carried := property_of_schema read own
      rw [property_assignAll (pathValues_ne_idempotencyKey _)] at carried
      rw [Submission.key, carried]
    next => cases parsed
  next => cases made

namespace Desk

/-- A request under the key was carried out, and its record is stored. -/
def CarriedOut (uuid : String → Option Uuid) (desk : Desk) (key : String) :
    Prop :=
  ∃ submission ∈ desk.sent,
    ∃ operation response,
      submission.operation uuid = some operation ∧
        operation.idempotencyKey = some key ∧
        Traced desk.tables operation response

/-- The keys of the requests that were reported. -/
def reportedKeys (desk : Desk) : List String :=
  desk.reported.filterMap fun request =>
    desk.sent[request]?.bind Submission.key

structure Sound (uuid : String → Option Uuid) (desk : Desk) : Prop where
  integrity : Integrity desk.tables
  one : desk.senders.OneMessage
  held :
    ∀ entry ∈ desk.forms, entry.form.key ∈ storedKeys desk.tables →
      entry.form.key ∈ desk.carriedOut
  sent :
    ∀ submission ∈ desk.sent, ∀ key, submission.key = some key →
      key ∈ storedKeys desk.tables → key ∈ desk.carriedOut
  answered :
    ∀ entry ∈ desk.answers,
      ∃ submission,
        desk.sent[entry.1]? = some submission ∧
          ∀ operation key, submission.operation uuid = some operation →
            operation.idempotencyKey = some key →
              entry.2 ≠ .ofOutcome (.error idempotencyKeyConflict) ∧
                ∀ response, entry.2 = .done response →
                  Traced desk.tables operation response
  waiting :
    ∀ entry ∈ desk.forms, ∀ request, entry.waitingFor = some request →
      entry.form.submitting ∧
        ∃ submission,
          desk.sent[request]? = some submission ∧
            ∀ key, submission.key = some key → key = entry.form.key
  carried : ∀ key ∈ desk.carriedOut, desk.CarriedOut uuid key
  carriedOnce : desk.carriedOut.Nodup
  reported :
    ∀ request ∈ desk.reported,
      ∃ response, (request, .done response) ∈ desk.answers
  reportedOnce : desk.reportedKeys.Nodup
  past :
    ∀ key ∈ desk.reportedKeys, ∀ entry ∈ desk.forms, entry.form.key ≠ key

theorem sound_start : Sound uuid ⟨Tables.empty, [], [], [], [], []⟩ where
  integrity := integrity_empty
  one := Senders.oneMessage_nil
  held := fun _ member => absurd member List.not_mem_nil
  sent := fun _ member => absurd member List.not_mem_nil
  answered := fun _ member => absurd member List.not_mem_nil
  waiting := fun _ member => absurd member List.not_mem_nil
  carried := fun _ member => absurd member List.not_mem_nil
  carriedOnce := List.nodup_nil
  reported := fun _ member => absurd member List.not_mem_nil
  reportedOnce := List.nodup_nil
  past := fun _ member => absurd member List.not_mem_nil

theorem mem_senders_sent {key : String} {submission : Submission} :
    (key, submission) ∈ desk.senders.sent ↔
      submission ∈ desk.sent ∧ submission.key = some key := by
  simp only [senders, List.mem_filterMap, Option.map_eq_some_iff,
    Prod.mk.injEq]
  constructor
  · rintro ⟨other, member, otherKey, carries, rfl, rfl⟩
    exact ⟨member, carries⟩
  · rintro ⟨member, carries⟩
    exact ⟨submission, member, key, carries, rfl, rfl⟩

/-- A key that was sent is not new. -/
theorem not_unused_of_sent {submission : Submission} {key : String}
    (member : submission ∈ desk.sent) (carries : submission.key = some key) :
    ¬ desk.senders.Unused key := by
  intro unused
  exact
    unused.sent (key, submission) (mem_senders_sent.mpr ⟨member, carries⟩) rfl

theorem not_unused_of_held {entry : DeskForm} (member : entry ∈ desk.forms) :
    ¬ desk.senders.Unused entry.form.key := by
  intro unused
  exact
    unused.held entry.form.sender (List.mem_map.mpr ⟨entry, member, rfl⟩) rfl

theorem CarriedOut.mono {key : String} (carried : desk.CarriedOut uuid key)
    (sent : desk.sent ⊆ after.sent)
    (grew : Extends desk.tables after.tables) :
    after.CarriedOut uuid key := by
  obtain ⟨submission, member, operation, response, made, own, traced⟩ :=
    carried
  exact
    ⟨submission, sent member, operation, response, made, own,
      traced.extends grew⟩

/-- Requests under one key are one request. -/
theorem Sound.unique (sound : Sound uuid desk)
    {submission other : Submission} {key : String}
    (member : submission ∈ desk.sent) (otherMember : other ∈ desk.sent)
    (carries : submission.key = some key) (otherCarries : other.key = some key) :
    other = submission :=
  sound.one.sent (key, other) (mem_senders_sent.mpr ⟨otherMember, otherCarries⟩)
    (key, submission) (mem_senders_sent.mpr ⟨member, carries⟩) rfl

/-- The request under a key that was carried out is the one that left its
trace. -/
theorem Sound.traced_of_carriedOut (sound : Sound uuid desk)
    {submission : Submission} {operation : Operation} {key : String}
    (member : submission ∈ desk.sent)
    (made : submission.operation uuid = some operation)
    (own : operation.idempotencyKey = some key)
    (carried : desk.CarriedOut uuid key) :
    ∃ response, Traced desk.tables operation response := by
  obtain ⟨other, otherMember, otherOperation, response, otherMade, otherOwn,
    traced⟩ := carried
  obtain rfl :=
    sound.unique member otherMember (Submission.key_of_operation made own)
      (Submission.key_of_operation otherMade otherOwn)
  rw [made] at otherMade
  obtain rfl := Option.some.inj otherMade
  exact ⟨response, traced⟩

/-- The ledger grew, and each key it stores besides the old ones is nobody's,
or is logged for a request that was carried out. -/
theorem Sound.withTables (sound : Sound uuid desk) {tables : Tables}
    (logged : List String) (integrity : Integrity tables)
    (grew : Extends desk.tables tables)
    (stores :
      ∀ key ∈ storedKeys tables,
        key ∈ storedKeys desk.tables ∨ desk.senders.Unused key ∨
          key ∈ logged)
    (once : (desk.carriedOut ++ logged).Nodup)
    (carriedOut :
      ∀ key ∈ logged, CarriedOut uuid { desk with tables := tables } key) :
    Sound uuid
      { desk with
        tables := tables
        carriedOut := desk.carriedOut ++ logged } where
  integrity := integrity
  one := sound.one
  held := by
    intro entry member stored
    rcases stores _ stored with old | unused | isLogged
    · exact List.mem_append_left _ (sound.held entry member old)
    · exact absurd unused (not_unused_of_held member)
    · exact List.mem_append_right _ isLogged
  sent := by
    intro submission member key carries stored
    rcases stores _ stored with old | unused | isLogged
    · exact
        List.mem_append_left _ (sound.sent submission member key carries old)
    · exact absurd unused (not_unused_of_sent member carries)
    · exact List.mem_append_right _ isLogged
  answered := by
    intro entry member
    obtain ⟨submission, found, holds⟩ := sound.answered entry member
    refine ⟨submission, found, ?_⟩
    intro operation key made own
    obtain ⟨noConflict, traced⟩ := holds operation key made own
    exact
      ⟨noConflict, fun response done => (traced response done).extends grew⟩
  waiting := sound.waiting
  carried := by
    intro key member
    rcases List.mem_append.mp member with old | new
    · exact (sound.carried key old).mono (fun _ sent => sent) grew
    · exact carriedOut key new
  carriedOnce := once
  reported := sound.reported
  reportedOnce := sound.reportedOnce
  past := sound.past

/-- The ledger grew, and each new key is nobody's. -/
theorem Sound.withForeign (sound : Sound uuid desk) {tables : Tables}
    (integrity : Integrity tables) (grew : Extends desk.tables tables)
    (stores :
      ∀ key ∈ storedKeys tables,
        key ∈ storedKeys desk.tables ∨ desk.senders.Unused key) :
    Sound uuid { desk with tables := tables } := by
  have grown :=
    sound.withTables [] integrity grew
      (fun key stored => (stores key stored).imp_right Or.inl)
      (by simpa using sound.carriedOnce)
      (fun _ member => absurd member List.not_mem_nil)
  rwa [List.append_nil] at grown

/-- One more answer. -/
theorem Sound.withAnswer (sound : Sound uuid desk) {index : Nat}
    {submission : Submission} (answer : Answer)
    (found : desk.sent[index]? = some submission)
    (holds :
      ∀ operation key, submission.operation uuid = some operation →
        operation.idempotencyKey = some key →
          answer ≠ .ofOutcome (.error idempotencyKeyConflict) ∧
            ∀ response, answer = .done response →
              Traced desk.tables operation response) :
    Sound uuid
      { desk with answers := desk.answers ++ [(index, answer)] } where
  integrity := sound.integrity
  one := sound.one
  held := sound.held
  sent := sound.sent
  answered := by
    intro entry member
    rcases List.mem_append.mp member with old | new
    · exact sound.answered entry old
    · obtain rfl := List.mem_singleton.mp new
      exact ⟨submission, found, holds⟩
  waiting := sound.waiting
  carried := sound.carried
  carriedOnce := sound.carriedOnce
  reported := by
    intro request member
    obtain ⟨response, answered⟩ := sound.reported request member
    exact ⟨response, List.mem_append_left _ answered⟩
  reportedOnce := sound.reportedOnce
  past := sound.past

/-! ## Requests that are served -/

theorem ofOutcome_ne_conflict {outcome : Except TxError Response}
    (avoids : Avoids outcome idempotencyKeyConflict) :
    Answer.ofOutcome outcome ≠
      .ofOutcome (.error idempotencyKeyConflict) := by
  intro same
  cases outcome with
  | ok response => cases same
  | error failure =>
      cases failure with
      | payment error =>
          injection same with sameError
          apply avoids
          rw [sameError]
          rfl
      | uniqueViolation model columns => cases same
      | unknown message => cases same

theorem ok_of_done {outcome : Except TxError Response} {response : Response}
    (done : Answer.ofOutcome outcome = .done response) :
    outcome = .ok response := by
  cases outcome with
  | ok value =>
      injection done with same
      rw [same]
  | error failure => cases failure <;> cases done

/-- A request is turned away before its operation starts, or its operation is
performed. -/
theorem handle_cases (uuid : String → Option Uuid) (route : PaymentRoute)
    (context : RequestContext) (user : Option AuthenticatedUser)
    (body : Properties) (tables : Tables) :
    ((route.handle uuid context user (some (.object body)) tables).2 =
          tables ∧
        (route.handle uuid context user (some (.object body)) tables).1 ≠
          .ofOutcome (.error idempotencyKeyConflict) ∧
        ∀ response,
          (route.handle uuid context user (some (.object body)) tables).1 ≠
            .done response) ∨
      ∃ actor operation,
        Submission.operation uuid ⟨route, body⟩ = some operation ∧
          route.handle uuid context user (some (.object body)) tables =
            (.ofOutcome (perform context actor operation tables).1,
              (perform context actor operation tables).2) := by
  unfold PaymentRoute.handle Submission.operation
  cases user with
  | none => exact Or.inl ⟨rfl, Answer.noConfusion, fun _ => Answer.noConfusion⟩
  | some actor =>
      dsimp only
      split
      · cases route.parseJsonBody uuid (some (.object body)) with
        | error issues =>
            exact
              Or.inl ⟨rfl, Answer.noConfusion, fun _ => Answer.noConfusion⟩
        | ok operation => exact Or.inr ⟨actor, operation, rfl, rfl⟩
      · exact
          Or.inl ⟨rfl, Answer.noConfusion, fun _ => Answer.noConfusion⟩

/-- A keyed request is not refused for its key; its success leaves a trace,
and it changes the ledger only under a key that no row carries. -/
theorem Sound.perform_keyed (sound : Sound uuid desk)
    {submission : Submission} {operation : Operation} {key : String}
    (member : submission ∈ desk.sent)
    (made : submission.operation uuid = some operation)
    (own : operation.idempotencyKey = some key)
    (context : RequestContext) (user : AuthenticatedUser) :
    Avoids (perform context user operation desk.tables).1
        idempotencyKeyConflict ∧
      (∀ response,
        (perform context user operation desk.tables).1 = .ok response →
          Traced (perform context user operation desk.tables).2 operation
            response) ∧
      ((perform context user operation desk.tables).2 ≠ desk.tables →
        key ∉ storedKeys desk.tables ∧
          ∃ response,
            (perform context user operation desk.tables).1 =
              .ok response) := by
  have answered :
      ∀ response,
        (perform context user operation desk.tables).1 = .ok response →
          Traced (perform context user operation desk.tables).2 operation
            response := by
    intro response returned
    exact
      traced_of_answered sound.integrity (isMoneyOperation_of_key own)
        (Prod.ext returned rfl)
  by_cases stored : key ∈ storedKeys desk.tables
  · have carried :=
      sound.sent submission member key
        (Submission.key_of_operation made own) stored
    obtain ⟨response, traced⟩ :=
      sound.traced_of_carriedOut member made own (sound.carried key carried)
    rcases @perform_of_traced _ context user _ _ traced with
      ⟨again, performed, -⟩ | ⟨failure, other, performed⟩
    · refine ⟨?_, answered, ?_⟩
      · rw [performed]
        exact avoids_ok again
      · intro changed
        rw [performed] at changed
        exact absurd rfl changed
    · refine ⟨?_, answered, ?_⟩
      · rw [performed]
        intro same
        exact other (Except.error.inj same)
      · intro changed
        rw [performed] at changed
        exact absurd rfl changed
  · refine ⟨avoids_of_unstored own stored, answered, ?_⟩
    intro changed
    refine ⟨stored, ?_⟩
    cases outcome : (perform context user operation desk.tables).1 with
    | ok response => exact ⟨response, rfl⟩
    | error failure =>
        exact
          absurd (unchanged_of_key own (Prod.ext outcome rfl)) changed

theorem Sound.serve (sound : Sound uuid desk) {index : Nat}
    {submission : Submission} (context : RequestContext)
    (user : Option AuthenticatedUser)
    (found : desk.sent[index]? = some submission) :
    Sound uuid (desk.serve uuid context user index submission) := by
  have member := List.mem_of_getElem? found
  rcases handle_cases uuid submission.route context user submission.body
      desk.tables with
    ⟨silent, noConflict, notDone⟩ | ⟨actor, operation, made, performed⟩
  · have answered :=
      sound.withAnswer _ found fun operation key _ _ =>
        ⟨noConflict, fun response done => absurd done (notDone response)⟩
    simpa [Desk.serve, silent] using answered
  · have grew :
        Extends desk.tables
          (perform context actor operation desk.tables).2 :=
      extends_step sound.integrity (.operation context actor operation)
    have integrity :
        Integrity (perform context actor operation desk.tables).2 :=
      integrity_step sound.integrity (.operation context actor operation)
    have stores :
        StoresOnly operation.idempotencyKey desk.tables
          (perform context actor operation desk.tables).2 :=
      perform_storesOnly
    simp only [Desk.serve, performed]
    cases own : operation.idempotencyKey with
    | none =>
        rw [own] at stores
        have keyless : submission.operationKey uuid = none := by
          rw [Submission.operationKey, made, Option.bind_some, own]
        have grown :
            Sound uuid
              { desk with
                tables :=
                  (perform context actor operation desk.tables).2 } := by
          apply sound.withForeign integrity grew
          intro key stored
          rcases stores key stored with old | isOwn
          · exact Or.inl old
          · cases isOwn
        have answered :=
          grown.withAnswer
            (.ofOutcome (perform context actor operation desk.tables).1) found
            fun other key otherMade otherOwn => by
              rw [made] at otherMade
              obtain rfl := Option.some.inj otherMade
              rw [own] at otherOwn
              cases otherOwn
        simpa [keyless] using answered
    | some key =>
        rw [own] at stores
        obtain ⟨noConflict, traced, changes⟩ :=
          sound.perform_keyed member made own context actor
        have keyed : submission.operationKey uuid = some key := by
          rw [Submission.operationKey, made, Option.bind_some, own]
        have answerHolds :
            ∀ other otherKey, submission.operation uuid = some other →
              other.idempotencyKey = some otherKey →
                Answer.ofOutcome
                      (perform context actor operation desk.tables).1 ≠
                    .ofOutcome (.error idempotencyKeyConflict) ∧
                  ∀ response,
                    Answer.ofOutcome
                          (perform context actor operation desk.tables).1 =
                        .done response →
                      Traced
                        (perform context actor operation desk.tables).2
                        other response := by
          intro other otherKey otherMade otherOwn
          rw [made] at otherMade
          obtain rfl := Option.some.inj otherMade
          exact
            ⟨ofOutcome_ne_conflict noConflict,
              fun response done => traced response (ok_of_done done)⟩
        by_cases changed :
            (perform context actor operation desk.tables).2 = desk.tables
        · rw [changed] at answerHolds
          have answered := sound.withAnswer _ found answerHolds
          simpa [changed] using answered
        · obtain ⟨unstored, response, returned⟩ := changes changed
          have isNew : key ∉ desk.carriedOut := by
            intro listed
            obtain ⟨earlier, before⟩ :=
              sound.traced_of_carriedOut member made own
                (sound.carried key listed)
            exact unstored (stored_of_traced own before)
          have grown :
              Sound uuid
                { desk with
                  tables :=
                    (perform context actor operation desk.tables).2
                  carriedOut := desk.carriedOut ++ [key] } := by
            apply sound.withTables [key] integrity grew
            · intro other stored
              rcases stores other stored with old | isOwn
              · exact Or.inl old
              · obtain rfl := Option.some.inj isOwn
                exact Or.inr (Or.inr (List.mem_singleton_self _))
            · exact
                List.nodup_append_comm.mp
                  (List.nodup_cons.mpr ⟨isNew, sound.carriedOnce⟩)
            · intro other member
              obtain rfl := List.mem_singleton.mp member
              exact
                ⟨submission, List.mem_of_getElem? found, operation, response,
                  made, own, traced response returned⟩
          have answered := grown.withAnswer _ found answerHolds
          simpa [changed, keyed] using answered

/-- A reported key was sent. -/
theorem exists_sent_of_reported {key : String}
    (listed : key ∈ desk.reportedKeys) :
    ∃ submission ∈ desk.sent, submission.key = some key := by
  obtain ⟨request, -, named⟩ := List.mem_filterMap.mp listed
  obtain ⟨submission, found, carries⟩ := Option.bind_eq_some_iff.mp named
  exact ⟨submission, List.mem_of_getElem? found, carries⟩

/-- A new key was not reported. -/
theorem Fresh.ne_reported {key fresh : String} (isNew : desk.Fresh fresh)
    (listed : key ∈ desk.reportedKeys) : fresh ≠ key := by
  obtain ⟨submission, member, carries⟩ := exists_sent_of_reported listed
  rintro rfl
  exact not_unused_of_sent member carries isNew.unused

/-- The request a form waits for carries the key the form holds. -/
def Awaits (desk : Desk) (entry : DeskForm) : Prop :=
  ∀ request, entry.waitingFor = some request →
    entry.form.submitting ∧
      ∃ submission,
        desk.sent[request]? = some submission ∧
          ∀ key, submission.key = some key → key = entry.form.key

/-- A form takes a new key, or keeps its key and at most gives its message
up. -/
theorem senders_withForm {index : Nat} {entry changed : DeskForm}
    (found : desk.forms[index]? = some entry)
    (keeps :
      desk.Fresh changed.form.key ∨
        changed.form.key = entry.form.key ∧
          ∀ submission, changed.form.message = some submission →
            entry.form.message = some submission) :
    Senders.Step desk.senders (desk.withForm index changed).senders := by
  have sameSenders :
      (desk.withForm index changed).senders =
        { desk.senders with
          senders :=
            desk.senders.senders.set index changed.form.sender } := by
    simp [senders, Desk.withForm, List.map_set]
  rw [sameSenders]
  rcases keeps with fresh | ⟨sameKey, sameMessage⟩
  · exact .renewed index changed.form.sender fresh.unused
  · have foundSender :
        desk.senders.senders[index]? = some entry.form.sender := by
      simp [senders, found]
    exact
      .held index entry.form.sender changed.form.sender foundSender sameKey
        sameMessage

theorem senders_mounted {form : PaymentForm}
    (fresh : desk.Fresh form.key) :
    Senders.Step desk.senders
      (senders { desk with forms := desk.forms ++ [⟨form, none⟩] }) := by
  have sameSenders :
      senders { desk with forms := desk.forms ++ [⟨form, none⟩] } =
        { desk.senders with
          senders := desk.senders.senders ++ [form.sender] } := by
    simp [senders]
  rw [sameSenders]
  exact .joined form.sender fresh.unused

/-- A form sends its message, or a request without a key is sent. -/
theorem senders_withSent {entry : DeskForm} {submission : Submission}
    (member : entry ∈ desk.forms)
    (carries :
      submission.key = some entry.form.key ∧
          entry.form.message = some submission ∨
        submission.key = none) :
    Senders.Step desk.senders
      (senders { desk with sent := desk.sent ++ [submission] }) := by
  rcases carries with ⟨ownKey, sends⟩ | keyless
  · have sameSenders :
        senders { desk with sent := desk.sent ++ [submission] } =
          { desk.senders with
            sent :=
              desk.senders.sent ++
                [(entry.form.sender.key, submission)] } := by
      simp [senders, ownKey, PaymentForm.sender]
    rw [sameSenders]
    exact
      .sent entry.form.sender submission
        (List.mem_map.mpr ⟨entry, member, rfl⟩) sends
  · have sameSenders :
        senders { desk with sent := desk.sent ++ [submission] } =
          desk.senders := by
      simp [senders, keyless]
    rw [sameSenders]
    exact .idle

/-- A form that takes a new key, or keeps its key and at most gives its
message up. -/
theorem Sound.withForm (sound : Sound uuid desk) {index : Nat}
    {entry : DeskForm} (changed : DeskForm)
    (found : desk.forms[index]? = some entry)
    (keeps :
      desk.Fresh changed.form.key ∨
        changed.form.key = entry.form.key ∧
          ∀ submission, changed.form.message = some submission →
            entry.form.message = some submission)
    (awaits : desk.Awaits changed) :
    Sound uuid (desk.withForm index changed) where
  integrity := sound.integrity
  one := sound.one.step (senders_withForm found keeps)
  held := by
    intro other member stored
    rcases List.mem_or_eq_of_mem_set member with old | rfl
    · exact sound.held other old stored
    · rcases keeps with fresh | ⟨sameKey, -⟩
      · exact absurd stored fresh.unstored
      · rw [sameKey] at stored ⊢
        exact sound.held entry (List.mem_of_getElem? found) stored
  sent := sound.sent
  answered := sound.answered
  waiting := by
    intro other member
    rcases List.mem_or_eq_of_mem_set member with old | rfl
    · exact sound.waiting other old
    · exact awaits
  carried := sound.carried
  carriedOnce := sound.carriedOnce
  reported := sound.reported
  reportedOnce := sound.reportedOnce
  past := by
    intro key listed other member
    rcases List.mem_or_eq_of_mem_set member with old | rfl
    · exact sound.past key listed other old
    · rcases keeps with fresh | ⟨sameKey, -⟩
      · exact fresh.ne_reported listed
      · rw [sameKey]
        exact sound.past key listed entry (List.mem_of_getElem? found)

theorem Sound.mounted (sound : Sound uuid desk) {form : PaymentForm}
    (fresh : desk.Fresh form.key) :
    Sound uuid { desk with forms := desk.forms ++ [⟨form, none⟩] } where
  integrity := sound.integrity
  one := sound.one.step (senders_mounted fresh)
  held := by
    intro other member stored
    rcases List.mem_append.mp member with old | new
    · exact sound.held other old stored
    · obtain rfl := List.mem_singleton.mp new
      exact absurd stored fresh.unstored
  sent := sound.sent
  answered := sound.answered
  waiting := by
    intro other member request waits
    rcases List.mem_append.mp member with old | new
    · exact sound.waiting other old request waits
    · obtain rfl := List.mem_singleton.mp new
      cases waits
  carried := sound.carried
  carriedOnce := sound.carriedOnce
  reported := sound.reported
  reportedOnce := sound.reportedOnce
  past := by
    intro key listed other member
    rcases List.mem_append.mp member with old | new
    · exact sound.past key listed other old
    · obtain rfl := List.mem_singleton.mp new
      exact fresh.ne_reported listed

theorem getElem?_append_of_some {α : Type} {items more : List α}
    {index : Nat} {item : α} (found : items[index]? = some item) :
    (items ++ more)[index]? = some item := by
  obtain ⟨inRange, -⟩ := List.getElem?_eq_some_iff.mp found
  rw [List.getElem?_append_left inRange, found]

/-- Later requests do not change what was reported. -/
theorem Sound.reportedKeys_append (sound : Sound uuid desk)
    (submission : Submission) :
    reportedKeys { desk with sent := desk.sent ++ [submission] } =
      desk.reportedKeys := by
  apply List.filterMap_congr
  intro request listed
  obtain ⟨response, answered⟩ := sound.reported request listed
  obtain ⟨earlier, found, -⟩ := sound.answered _ answered
  dsimp only at found ⊢
  rw [found, getElem?_append_of_some found]

/-- One more request, under the key of a form or under none. -/
theorem Sound.withSent (sound : Sound uuid desk) {entry : DeskForm}
    {submission : Submission} (member : entry ∈ desk.forms)
    (carries :
      submission.key = some entry.form.key ∧
          entry.form.message = some submission ∨
        submission.key = none) :
    Sound uuid { desk with sent := desk.sent ++ [submission] } where
  integrity := sound.integrity
  one := sound.one.step (senders_withSent member carries)
  held := by
    intro other otherMember stored
    exact sound.held other otherMember stored
  sent := by
    intro other otherMember key otherCarries stored
    rcases List.mem_append.mp otherMember with old | new
    · exact sound.sent other old key otherCarries stored
    · obtain rfl := List.mem_singleton.mp new
      rcases carries with ⟨ownKey, -⟩ | keyless
      · rw [ownKey] at otherCarries
        obtain rfl := Option.some.inj otherCarries
        exact sound.held entry member stored
      · rw [keyless] at otherCarries
        cases otherCarries
  answered := by
    intro answer answerMember
    obtain ⟨other, found, holds⟩ := sound.answered answer answerMember
    exact ⟨other, getElem?_append_of_some found, holds⟩
  waiting := by
    intro other otherMember request waits
    obtain ⟨submits, earlier, found, ownKey⟩ :=
      sound.waiting other otherMember request waits
    exact ⟨submits, earlier, getElem?_append_of_some found, ownKey⟩
  carried := fun key listed =>
    (sound.carried key listed).mono (List.subset_append_left _ _)
      (Extends.refl _)
  carriedOnce := sound.carriedOnce
  reported := sound.reported
  reportedOnce := by
    rw [sound.reportedKeys_append]
    exact sound.reportedOnce
  past := by
    intro key listed
    rw [sound.reportedKeys_append] at listed
    exact sound.past key listed

theorem Sound.submitted (sound : Sound uuid desk) {index : Nat}
    {entry : DeskForm} {form : PaymentForm} {submission : Submission}
    (found : desk.forms[index]? = some entry)
    (sends : entry.form.handleSubmit = (form, some submission)) :
    Sound uuid
      { desk.withForm index ⟨form, some desk.sent.length⟩ with
        sent := desk.sent ++ [submission] } := by
  obtain ⟨sameKey, sameMessage, submits, carries⟩ :=
    PaymentForm.handleSubmit_sent sends
  have appended := sound.withSent (List.mem_of_getElem? found) carries
  apply appended.withForm ⟨form, some desk.sent.length⟩ found
  · exact
      Or.inr ⟨sameKey, fun _ wouldSend => by rwa [← sameMessage]⟩
  · intro request waits
    obtain rfl := Option.some.inj waits
    refine ⟨submits, submission, List.getElem?_concat_length .., ?_⟩
    intro key ownKey
    rcases carries with ⟨carried, -⟩ | keyless
    · rw [carried] at ownKey
      exact (Option.some.inj ownKey).symm.trans sameKey.symm
    · rw [keyless] at ownKey
      cases ownKey

/-- The form keeps the request it waits for. -/
theorem Sound.awaits (sound : Sound uuid desk) {index : Nat}
    {entry : DeskForm} (found : desk.forms[index]? = some entry) :
    desk.Awaits entry :=
  sound.waiting entry (List.mem_of_getElem? found)

theorem Sound.used (sound : Sound uuid desk) {index : Nat}
    {entry : DeskForm} {event : FormEvent} {key : String}
    (found : desk.forms[index]? = some entry)
    (enabled : ¬ entry.form.submitting) (fresh : desk.Fresh key) :
    Sound uuid
      (desk.withForm index
        { entry with form := entry.form.handle key event }) := by
  apply sound.withForm _ found
  · rcases @PaymentForm.handle_sender entry.form key event with
      renewed | kept
    · apply Or.inl
      rw [renewed]
      exact fresh
    · exact Or.inr kept
  · intro request waits
    exact absurd (sound.awaits found request waits).1 enabled

theorem Sound.asked (sound : Sound uuid desk) {index : Nat}
    {entry : DeskForm} {form : PaymentForm}
    (found : desk.forms[index]? = some entry)
    (asks : entry.form.handleSubmit = (form, none)) :
    Sound uuid (desk.withForm index { entry with form := form }) := by
  obtain ⟨sameKey, sameMessage, sameSubmitting⟩ :=
    PaymentForm.handleSubmit_asked asks
  apply sound.withForm _ found
  · exact
      Or.inr ⟨sameKey, fun _ wouldSend => by rwa [← sameMessage]⟩
  · intro request waits
    obtain ⟨submits, submission, sent, ownKey⟩ :=
      sound.awaits found request waits
    refine ⟨sameSubmitting.trans submits, submission, sent, ?_⟩
    intro key carries
    exact (ownKey key carries).trans sameKey.symm

/-- Two forms do not hold one key. -/
theorem Sound.eq_of_key (sound : Sound uuid desk) {index other : Nat}
    {entry otherEntry : DeskForm}
    (found : desk.forms[index]? = some entry)
    (otherFound : desk.forms[other]? = some otherEntry)
    (sameKey : otherEntry.form.key = entry.form.key) : other = index := by
  obtain ⟨inRange, -⟩ := List.getElem?_eq_some_iff.mp otherFound
  have inKeys :
      other < (desk.senders.senders.map Sender.key).length := by
    simpa [senders] using inRange
  apply (List.getElem?_inj inKeys sound.one.distinct).mp
  simp only [senders, List.getElem?_map, found, otherFound, Option.map_some,
    PaymentForm.sender, sameKey]

/-- `sendJson` takes nothing but a success for one. -/
theorem done_of_sendJson {route : PaymentRoute} {response : Option Answer}
    (ok : sendJson route response) :
    ∃ value, response = some (.done value) := by
  cases response with
  | none => cases ok
  | some answer =>
      cases answer with
      | done value => exact ⟨value, rfl⟩
      | refused error =>
          cases error with
          | mk code message => cases code <;> cases ok
      | _ => cases ok

/-- One more report, of a request whose key no form holds any more. -/
theorem Sound.withReported (sound : Sound uuid desk) {request : Nat}
    {submission : Submission} {response : Response}
    (sent : desk.sent[request]? = some submission)
    (answered : (request, .done response) ∈ desk.answers)
    (isPast :
      ∀ key, submission.key = some key →
        key ∉ desk.reportedKeys ∧
          ∀ entry ∈ desk.forms, entry.form.key ≠ key) :
    Sound uuid { desk with reported := desk.reported ++ [request] } := by
  have listed :
      reportedKeys { desk with reported := desk.reported ++ [request] } =
        desk.reportedKeys ++ submission.key.toList := by
    cases carries : submission.key <;>
      simp [reportedKeys, List.filterMap_append, sent, carries]
  exact
    { sound with
      reported := by
        intro other member
        rcases List.mem_append.mp member with old | new
        · exact sound.reported other old
        · obtain rfl := List.mem_singleton.mp new
          exact ⟨response, answered⟩
      reportedOnce := by
        rw [listed]
        cases carries : submission.key with
        | none => simpa using sound.reportedOnce
        | some key =>
            exact
              List.nodup_append_comm.mp
                (List.nodup_cons.mpr
                  ⟨(isPast key carries).1, sound.reportedOnce⟩)
      past := by
        intro key member entry held
        rw [listed] at member
        rcases List.mem_append.mp member with old | new
        · exact sound.past key old entry held
        · exact (isPast key (Option.mem_toList.mp new)).2 entry held }

theorem Sound.settled (sound : Sound uuid desk) {index request : Nat}
    {entry : DeskForm} {submission : Submission}
    {response : Option Answer} {key : String}
    (found : desk.forms[index]? = some entry)
    (waits : entry.waitingFor = some request)
    (sent : desk.sent[request]? = some submission)
    (answered :
      ∀ answer, response = some answer →
        (request, answer) ∈ desk.answers)
    (fresh : desk.Fresh key) :
    Sound uuid
      { desk.withForm index
          ⟨entry.form.settle (sendJson submission.route response) key,
            none⟩ with
        reported :=
          desk.reported ++
            (if sendJson submission.route response then [request]
              else []) } := by
  by_cases ok : sendJson submission.route response = true
  · obtain ⟨value, rfl⟩ := done_of_sendJson ok
    rw [ok, if_pos rfl]
    have renewed :
        Sound uuid
          (desk.withForm index ⟨entry.form.settle true key, none⟩) := by
      apply sound.withForm _ found
      · apply Or.inl
        rw [PaymentForm.settle_key_of_ok]
        exact fresh
      · intro other waitsAfter
        cases waitsAfter
    apply renewed.withReported sent (answered _ rfl)
    intro ownKey carries
    obtain ⟨-, awaited, awaitedSent, holds⟩ :=
      sound.awaits found request waits
    rw [sent] at awaitedSent
    obtain rfl := Option.some.inj awaitedSent
    obtain rfl := holds ownKey carries
    constructor
    · intro listed
      exact
        sound.past _ listed entry (List.mem_of_getElem? found) rfl
    · intro other member sameKey
      obtain ⟨place, foundAfter⟩ := List.mem_iff_getElem?.mp member
      by_cases samePlace : place = index
      · subst samePlace
        obtain ⟨inRange, -⟩ := List.getElem?_eq_some_iff.mp found
        obtain rfl :=
          Option.some.inj
            ((List.getElem?_set_self inRange).symm.trans foundAfter)
        rw [PaymentForm.settle_key_of_ok] at sameKey
        rw [sameKey] at fresh
        exact
          not_unused_of_held (List.mem_of_getElem? found) fresh.unused
      · have elsewhere : desk.forms[place]? = some other := by
          rw [← foundAfter]
          exact (List.getElem?_set_ne (Ne.symm samePlace)).symm
        exact samePlace (sound.eq_of_key found elsewhere sameKey)
  · rw [Bool.not_eq_true] at ok
    rw [ok]
    have kept :
        Sound uuid
          (desk.withForm index ⟨entry.form.settle false key, none⟩) := by
      apply sound.withForm _ found
      · obtain ⟨sameKey, sameMessage⟩ :=
          @PaymentForm.settle_of_failure entry.form key
        exact
          Or.inr ⟨sameKey, fun _ wouldSend => by rwa [← sameMessage]⟩
      · intro other waitsAfter
        cases waitsAfter
    rw [if_neg Bool.false_ne_true, List.append_nil]
    exact kept

theorem Sound.step (sound : Sound uuid desk) (next : Step uuid desk after) :
    Sound uuid after := by
  cases next with
  | mounted form isMounted fresh => exact sound.mounted fresh
  | used index entry event key found enabled fresh =>
      exact sound.used found enabled fresh
  | asked index entry form found asks => exact sound.asked found asks
  | submitted index entry form submission found sends =>
      exact sound.submitted found sends
  | served index submission context user found =>
      exact sound.serve context user found
  | broken index submission found =>
      apply sound.withAnswer _ found
      intro operation key made own
      exact
        ⟨Answer.noConfusion, fun response done => Answer.noConfusion done⟩
  | settled index entry request submission response key found waits sent
      answered fresh =>
      exact sound.settled found waits sent answered fresh
  | elsewhere request foreign =>
      apply
        sound.withForeign (integrity_step sound.integrity request)
          (extends_step sound.integrity request)
      intro key stored
      rcases step_storesOnly request key stored with old | own
      · exact Or.inl old
      · exact Or.inr (foreign key own)

/-- The invariant holds at every reachable desk. -/
theorem Reachable.sound (reachable : Reachable uuid desk) :
    Sound uuid desk := by
  induction reachable with
  | start => exact sound_start
  | next before step hypothesis => exact hypothesis.step step

/-! ## The ledger of a desk -/

/-- One step of a desk is at most one step of its ledger. -/
theorem tables_of_step (next : Step uuid desk after) :
    after.tables = desk.tables ∨
      ∃ request, after.tables = Payments.step desk.tables request := by
  cases next with
  | served index submission context user found =>
      unfold serve PaymentRoute.handle
      dsimp only
      split
      next => exact Or.inl rfl
      next actor =>
        split
        next =>
          split
          next => exact Or.inl rfl
          next operation parsed =>
            exact Or.inr ⟨.operation context actor operation, rfl⟩
        next => exact Or.inl rfl
  | elsewhere request foreign => exact Or.inr ⟨request, rfl⟩
  | _ => exact Or.inl rfl

theorem Reachable.exists_requests (reachable : Reachable uuid desk) :
    ∃ requests, desk.tables = tablesAfter requests := by
  induction reachable with
  | start => exact ⟨[], rfl⟩
  | next before step hypothesis =>
      obtain ⟨requests, same⟩ := hypothesis
      rcases tables_of_step step with kept | ⟨request, written⟩
      · exact ⟨requests, kept.trans same⟩
      · refine ⟨requests ++ [request], ?_⟩
        rw [written, same, tablesAfter, tablesAfter, run_append]
        rfl

/-- Where values do not repeat, items with one value are one item. -/
theorem eq_of_filterMap {α β : Type} {items : List α} {read : α → Option β}
    {item other : α} {value : β} (once : (items.filterMap read).Nodup)
    (member : item ∈ items) (otherMember : other ∈ items)
    (isValue : read item = some value)
    (otherValue : read other = some value) : item = other := by
  induction items with
  | nil => cases member
  | cons head tail inductionHypothesis =>
      have notTwice :
          ∀ later ∈ tail, read head = some value →
            read later ≠ some value := by
        intro later laterMember headValue laterValue
        rw [List.filterMap_cons_some headValue, List.nodup_cons] at once
        exact
          once.1 (List.mem_filterMap.mpr ⟨later, laterMember, laterValue⟩)
      have tailOnce : (tail.filterMap read).Nodup :=
        once.sublist ((List.sublist_cons_self head tail).filterMap read)
      rcases List.mem_cons.mp member with rfl | inTail
      · rcases List.mem_cons.mp otherMember with rfl | otherInTail
        · rfl
        · exact absurd otherValue (notTwice other otherInTail isValue)
      · rcases List.mem_cons.mp otherMember with rfl | otherInTail
        · exact absurd isValue (notTwice item inTail otherValue)
        · exact inductionHypothesis tailOnce inTail otherInTail

/-- The request at a place asks for the operation, under the key. -/
def Keyed (uuid : String → Option Uuid) (desk : Desk) (request : Nat)
    (key : String) (operation : Operation) : Prop :=
  ∃ submission,
    desk.sent[request]? = some submission ∧
      submission.operation uuid = some operation ∧
        operation.idempotencyKey = some key

theorem Sound.keyed (sound : Sound uuid desk) {request : Nat} {key : String}
    {operation : Operation} {answer : Answer}
    (keyed : desk.Keyed uuid request key operation)
    (answered : (request, answer) ∈ desk.answers) :
    answer ≠ .ofOutcome (.error idempotencyKeyConflict) ∧
      ∀ response, answer = .done response →
        Traced desk.tables operation response := by
  obtain ⟨submission, found, made, own⟩ := keyed
  obtain ⟨other, otherFound, holds⟩ := sound.answered _ answered
  dsimp only at otherFound
  rw [found] at otherFound
  obtain rfl := Option.some.inj otherFound
  exact holds operation key made own

theorem Keyed.key {request : Nat} {key : String} {operation : Operation}
    (keyed : desk.Keyed uuid request key operation) :
    desk.sent[request]?.bind Submission.key = some key := by
  obtain ⟨submission, found, made, own⟩ := keyed
  rw [found]
  exact Submission.key_of_operation made own

/-- Reported successes of one kind of operation that name one record are one
request. -/
theorem Reachable.reported_eq (reachable : Reachable uuid desk)
    {request other : Nat} {key otherKey : String}
    {operation otherOperation : Operation}
    {response otherResponse : Response}
    (listed : request ∈ desk.reported) (otherListed : other ∈ desk.reported)
    (keyed : desk.Keyed uuid request key operation)
    (otherKeyed : desk.Keyed uuid other otherKey otherOperation)
    (answered : (request, .done response) ∈ desk.answers)
    (otherAnswered : (other, .done otherResponse) ∈ desk.answers)
    (sameKind : operation.kind = otherOperation.kind)
    (sameRecord : response.named = otherResponse.named) :
    request = other := by
  have sound := reachable.sound
  have traced := (sound.keyed keyed answered).2 response rfl
  have otherTraced :=
    (sound.keyed otherKeyed otherAnswered).2 otherResponse rfl
  obtain ⟨requests, isLedger⟩ := reachable.exists_requests
  rw [isLedger] at traced otherTraced
  have sameKey :=
    key_of_sameRecord traced otherTraced sameKind sameRecord
  have carries := keyed.key
  have otherCarries := otherKeyed.key
  obtain ⟨-, -, -, own⟩ := keyed
  obtain ⟨-, -, -, otherOwn⟩ := otherKeyed
  rw [own, otherOwn] at sameKey
  rw [← Option.some.inj sameKey] at otherCarries
  exact
    eq_of_filterMap sound.reportedOnce listed otherListed carries
      otherCarries

/-- At every reachable desk: a key changed the ledger at most once, and
exactly once when a request under it was answered with success; no keyed
request was refused for its key; successes under one key name one record, and
a user who may access it is told so again, without a write, at any later
submission; and no two reported successes are one payment, one refund, one
allocation or one change of a payment's status. -/
theorem payments_exactly_once (reachable : Reachable uuid desk) :
    desk.carriedOut.Nodup ∧ desk.reportedKeys.Nodup ∧
      (∀ request ∈ desk.reported,
        ∃ response, (request, .done response) ∈ desk.answers) ∧
      (∀ request key operation answer,
        desk.Keyed uuid request key operation →
          (request, answer) ∈ desk.answers →
            answer ≠ .ofOutcome (.error idempotencyKeyConflict)) ∧
      (∀ request key operation response,
        desk.Keyed uuid request key operation →
          (request, .done response) ∈ desk.answers →
            key ∈ desk.carriedOut ∧
              (∀ other otherOperation otherResponse,
                desk.Keyed uuid other key otherOperation →
                  (other, .done otherResponse) ∈ desk.answers →
                    otherOperation = operation ∧
                      otherResponse.named = response.named) ∧
              ∀ context user, mayAccess desk.tables user operation →
                ∃ again,
                  perform context user operation desk.tables =
                      (.ok again, desk.tables) ∧
                    again.named = response.named) ∧
      ∀ request ∈ desk.reported, ∀ other ∈ desk.reported,
        ∀ key otherKey operation otherOperation response otherResponse,
          desk.Keyed uuid request key operation →
            desk.Keyed uuid other otherKey otherOperation →
            (request, .done response) ∈ desk.answers →
            (other, .done otherResponse) ∈ desk.answers →
            operation.kind = otherOperation.kind →
              response.named = otherResponse.named →
                request = other := by
  have sound := reachable.sound
  refine
    ⟨sound.carriedOnce, sound.reportedOnce, sound.reported, ?_, ?_, ?_⟩
  · intro request key operation answer keyed answered
    exact (sound.keyed keyed answered).1
  · intro request key operation response keyed answered
    have traced := (sound.keyed keyed answered).2 response rfl
    obtain ⟨submission, found, made, own⟩ := keyed
    have member := List.mem_of_getElem? found
    have carries := Submission.key_of_operation made own
    refine ⟨?_, ?_, ?_⟩
    · exact
        sound.sent submission member key carries (stored_of_traced own traced)
    · intro other otherOperation otherResponse otherKeyed otherAnswered
      have otherTraced :=
        (sound.keyed otherKeyed otherAnswered).2 otherResponse rfl
      obtain ⟨otherSubmission, otherFound, otherMade, otherOwn⟩ := otherKeyed
      obtain rfl :=
        sound.unique member (List.mem_of_getElem? otherFound) carries
          (Submission.key_of_operation otherMade otherOwn)
      rw [made] at otherMade
      obtain rfl := Option.some.inj otherMade
      exact ⟨rfl, named_of_traced traced otherTraced⟩
    · intro context user permitted
      exact answered_of_traced traced permitted
  · intro request listed other otherListed key otherKey operation
      otherOperation response otherResponse keyed otherKeyed answered
      otherAnswered sameKind sameRecord
    exact
      reachable.reported_eq listed otherListed keyed otherKeyed answered
        otherAnswered sameKind sameRecord

section Deposit

/-- The identifiers of the example. -/
def readId (text : String) : Option Uuid :=
  if text = "booking-10" then some 10 else none

def depositForm : PaymentForm :=
  .amount
    (AmountForm.mount
      ⟨.payments, [("bookingId", "booking-10")], [], false, false⟩ "first")

/-- The form while its request is under way. -/
def depositSent : PaymentForm :=
  ((depositForm.handle "second" (.amountChanged " 300.00 ")).handleSubmit).1

def depositSubmission : Submission where
  route := .payments
  body :=
    [("bookingId", .string "booking-10"), ("amount", .string "300.00"),
      ("idempotencyKey", .string "second")]

/-- The first response is lost. -/
def depositLost : Desk :=
  let served :=
    Desk.serve readId (contextOf 1) (some cashier) 0 depositSubmission
      ⟨tablesAfter cashierOpening, [⟨depositSent, some 0⟩],
        [depositSubmission], [], [], []⟩
  { served with forms := [⟨depositSent.settle false "third", none⟩] }

/-- The second one arrives. -/
def depositDesk : Desk :=
  let served :=
    Desk.serve readId (contextOf 2) (some cashier) 1 depositSubmission
      { depositLost with
        forms := [⟨depositSent, some 1⟩]
        sent := [depositSubmission, depositSubmission] }
  { served with
    forms := [⟨depositSent.settle true "third", none⟩]
    reported := [1] }

theorem reachable_opening :
    Reachable readId ⟨tablesAfter cashierOpening, [], [], [], [], []⟩ := by
  have booked :=
    Reachable.next (Reachable.start : Reachable readId _)
      (Step.elsewhere (.bookingAdded cashierBooking) fun _ own => by cases own)
  exact
    Reachable.next booked
      (Step.elsewhere
        (.assignmentsChanged
          [{ id := 5
             assignedStaffId := 1
             role := .financeAccounting
             assignedByUserId := 3
             leadId := none
             clientId := none
             bookingId := some 10
             endedAt := none }])
        fun _ own => by cases own)

theorem reachable_depositLost : Reachable readId depositLost := by
  have mounted :=
    Reachable.next reachable_opening
      (Step.mounted depositForm ⟨_, _, rfl⟩
        ⟨⟨by decide, by decide⟩, by decide⟩)
  have entered :=
    Reachable.next mounted
      (Step.used 0 ⟨depositForm, none⟩ (.amountChanged " 300.00 ") "second"
        rfl (by decide) ⟨⟨by decide, by decide⟩, by decide⟩)
  have submitted :=
    Reachable.next entered
      (Step.submitted 0 _ depositSent depositSubmission rfl rfl)
  have served :=
    Reachable.next submitted
      (Step.served 0 depositSubmission (contextOf 1) (some cashier) rfl)
  have settled :=
    Reachable.next served
      (Step.settled 0 _ 0 depositSubmission none "third" rfl rfl rfl
        (fun _ lost => by cases lost)
        ⟨⟨by decide, by decide⟩, by decide⟩)
  exact settled

theorem reachable_depositDesk : Reachable readId depositDesk := by
  have submitted :=
    Reachable.next reachable_depositLost
      (Step.submitted 0 _ depositSent depositSubmission rfl rfl)
  have served :=
    Reachable.next submitted
      (Step.served 1 depositSubmission (contextOf 2) (some cashier) rfl)
  have settled :=
    Reachable.next served
      (Step.settled 0 _ 1 depositSubmission
        (some (.done (.payment ⟨100, 10, 20, deposit.amount, .pending⟩)))
        "third" rfl rfl rfl
        (fun _ arrived => by
          obtain rfl := Option.some.inj arrived
          exact List.mem_append_right _ List.mem_cons_self)
        ⟨⟨by decide, by decide⟩, by decide⟩)
  exact settled

theorem deposit_carried_out_once :
    depositDesk.carriedOut.Nodup ∧ "second" ∈ depositDesk.carriedOut ∧
      ∃ again,
        perform (contextOf 3) cashier
            (.recordPayment ⟨10, deposit.amount, "second"⟩)
            depositDesk.tables =
          (.ok again, depositDesk.tables) ∧
        again.named =
          .payment ⟨100, 10, 20, deposit.amount, .pending⟩ := by
  obtain ⟨once, -, -, -, exactly, -⟩ :=
    payments_exactly_once reachable_depositDesk
  obtain ⟨listed, -, again⟩ :=
    exactly 1 "second" (.recordPayment ⟨10, deposit.amount, "second"⟩)
      (.payment ⟨100, 10, 20, deposit.amount, .pending⟩)
      ⟨depositSubmission, rfl, rfl, rfl⟩
      (List.mem_append_right _ List.mem_cons_self)
  exact ⟨once, listed, again (contextOf 3) cashier (by decide)⟩

end Deposit

end Desk

end Heritage.Payments
