import Heritage.Payments.Replay

/-!
# Writes of an assigned actor

Every transaction reads its booking, plan or payment through the actor's own
assignments before it writes.  So an operation that leaves other tables than
it met was performed for a booking the actor is assigned to in the tables it
met.
-/

namespace Heritage.Payments

open Heritage.Store
open Repository

/-- The booking of the plan behind an id. -/
def bookingOfPlan (tables : Tables) (paymentPlanId : Uuid) : Option Uuid :=
  (findBy PaymentPlan.id paymentPlanId tables.paymentPlans).map
    PaymentPlan.bookingId

/-- The booking of what an operation names. -/
def bookingOf (tables : Tables) : Operation → Option Uuid
  | .setBookingFinancials input => some input.bookingId
  | .proposePaymentPlan input => some input.bookingId
  | .approvePaymentPlan input => bookingOfPlan tables input.paymentPlanId
  | .withdrawPaymentPlan input => bookingOfPlan tables input.paymentPlanId
  | .issueReceipt input => bookingOfPayment tables input.paymentId
  | operation => targetBooking tables operation

/-- The user as a role assertion admits it. -/
def ActsFor (actor : PaymentActor) (user : AuthenticatedUser) : Prop :=
  actor.id = user.id ∧ actor.role.toRole = user.role

/-- The booking is known and passes the actor's filter. -/
def Visible (tables : Tables) (actor : PaymentActor)
    (bookingId : Option Uuid) : Prop :=
  bookingId.any (bookingAssignmentFilter tables actor)

/-- Nothing is written, or the booking is the user's. -/
def Scoped (tables : Tables) (user : AuthenticatedUser)
    (bookingId : Option Uuid) (after : Tables) : Prop :=
  after = tables ∨
    ∃ actor, ActsFor actor user ∧ Visible tables actor bookingId

variable {tables after : Tables} {user : AuthenticatedUser}
  {actor : PaymentActor} {context : RequestContext}

theorem actsFor_of_finance
    (admitted : assertFinanceActor user = .ok actor) :
    ActsFor actor user := by
  obtain ⟨finance, same⟩ := assertFinanceActor_eq_ok.mp admitted
  rw [same, ActsFor, finance]
  exact ⟨rfl, rfl⟩

theorem actsFor_of_proposer
    (admitted : assertProposerActor user = .ok actor) :
    ActsFor actor user := by
  unfold assertProposerActor at admitted
  cases role : user.role with
  | travelConsultant =>
      simp only [role, Except.ok.injEq] at admitted
      rw [← admitted, ActsFor, role]
      exact ⟨rfl, rfl⟩
  | _ =>
      simp only [role, reduceCtorEq] at admitted

theorem actsFor_of_withdrawer
    (admitted : assertWithdrawerActor user = .ok actor) :
    ActsFor actor user := by
  unfold assertWithdrawerActor at admitted
  cases role : user.role with
  | travelConsultant =>
      simp only [role, Except.ok.injEq] at admitted
      rw [← admitted, ActsFor, role]
      exact ⟨rfl, rfl⟩
  | financeAccounting =>
      simp only [role, Except.ok.injEq] at admitted
      rw [← admitted, ActsFor, role]
      exact ⟨rfl, rfl⟩
  | _ =>
      simp only [role, reduceCtorEq] at admitted

section Shape

variable {α : Type} {bookingId : Option Uuid}
  {checked : Except TxError PaymentActor}

theorem scoped_self : Scoped tables user bookingId tables :=
  Or.inl rfl

theorem withActor_scoped {operation : PaymentActor → Effect α}
    (commits :
      ∀ actor, checked = .ok actor →
        Scoped tables user bookingId (operation actor tables).2) :
    Scoped tables user bookingId (withActor checked operation tables).2 := by
  cases checked with
  | error failure =>
      exact scoped_self
  | ok actor =>
      exact commits actor rfl

theorem operation_scoped
    {body : PaymentActor → Tables → Except TxError (α × Tables)}
    {replay : PaymentActor → TxError → Tables → Except TxError (Option α)}
    {conflict : TxError}
    (acting : ∀ actor, checked = .ok actor → ActsFor actor user)
    (commits :
      ∀ actor value after, body actor tables = .ok (value, after) →
        after = tables ∨ Visible tables actor bookingId) :
    Scoped tables user bookingId
      (withActor checked
        (fun actor => serve (body actor) (replay actor) conflict)
        tables).2 := by
  apply withActor_scoped
  intro actor admitted
  apply serve_after scoped_self
  intro value after succeeds
  rcases commits actor value after succeeds with silent | visible
  · exact Or.inl silent
  · exact Or.inr ⟨actor, acting actor admitted, visible⟩

end Shape

theorem visible_booking {bookingId : Uuid} {found : BookingFinancials}
    (lookup :
      findBookingFinancialsForActor tables actor bookingId = some found) :
    Visible tables actor (some bookingId) := by
  obtain ⟨booking, -, visible, -⟩ :=
    findBookingFinancialsForActor_eq_some.mp lookup
  rw [Visible, Option.any_some]
  exact visible

theorem visible_plan {paymentPlanId : Uuid}
    {found : PaymentPlan × BookingFinancials}
    (lookup :
      findPaymentPlanWithBookingForActor tables actor paymentPlanId =
        some found) :
    Visible tables actor (bookingOfPlan tables paymentPlanId) := by
  obtain ⟨foundPlan, visible, -⟩ :=
    findPaymentPlanWithBookingForActor_eq_some.mp lookup
  rw [Visible, bookingOfPlan, foundPlan, Option.map_some, Option.any_some]
  exact visible

theorem visible_payment {paymentId : Uuid} {found : PaymentRecord}
    (lookup :
      findScopedPaymentOrForbidden tables actor paymentId = .ok found) :
    Visible tables actor (bookingOfPayment tables paymentId) := by
  obtain ⟨payment, foundPayment, visible, -⟩ :=
    findScopedPaymentOrForbidden_eq_ok.mp lookup
  rw [Visible, bookingOfPayment, foundPayment, Option.map_some,
    Option.any_some]
  exact visible

/-- A transaction that answers a replay without a write, and otherwise reads
its booking. -/
theorem scoped_of_replay {α : Type} {bookingId : Option Uuid}
    {resolved : Except TxError (Option α)}
    {next : Option α → Except TxError (α × Tables)} {value : α}
    (answers : ∀ replay, next (some replay) = .ok (replay, tables))
    (reads : next none = .ok (value, after) → Visible tables actor bookingId)
    (succeeds : (resolved >>= next) = .ok (value, after)) :
    after = tables ∨ Visible tables actor bookingId := by
  rcases replay_cases answers succeeds with ⟨-, replayed⟩ | ⟨-, continues⟩
  · exact Or.inl replayed
  · exact Or.inr (reads continues)

theorem setBookingFinancials_scoped (input : SetBookingFinancialsInput) :
    Scoped tables user (bookingOf tables (.setBookingFinancials input))
      (setBookingFinancials user input tables).2 := by
  apply operation_scoped
  · intro actor admitted
    exact actsFor_of_finance admitted
  · intro actor value after succeeds
    simp only [setBookingFinancialsTransaction, bind_eq_ok,
      demand_eq_ok] at succeeds
    obtain ⟨before, lookup, -⟩ := succeeds
    exact Or.inr (visible_booking lookup)

theorem proposePaymentPlan_scoped (input : ProposePaymentPlanInput) :
    Scoped tables user (bookingOf tables (.proposePaymentPlan input))
      (proposePaymentPlan context user input tables).2 := by
  unfold proposePaymentPlan
  apply withActor_scoped
  intro actor admitted
  cases installmentStructureViolation input.installments with
  | some violation =>
      exact scoped_self
  | none =>
      apply serve_after scoped_self
      intro value after succeeds
      simp only [proposePaymentPlanTransaction, bind_eq_ok,
        demand_eq_ok] at succeeds
      obtain ⟨booking, lookup, -⟩ := succeeds
      exact
        Or.inr
          ⟨actor, actsFor_of_proposer admitted, visible_booking lookup⟩

theorem approvePaymentPlan_scoped (input : ApprovePaymentPlanInput) :
    Scoped tables user (bookingOf tables (.approvePaymentPlan input))
      (approvePaymentPlan context user input tables).2 := by
  apply operation_scoped
  · intro actor admitted
    exact actsFor_of_finance admitted
  · intro actor value after succeeds
    simp only [approvePaymentPlanTransaction, bind_eq_ok,
      demand_eq_ok] at succeeds
    obtain ⟨found, lookup, -⟩ := succeeds
    exact Or.inr (visible_plan lookup)

theorem withdrawPaymentPlan_scoped (input : WithdrawPaymentPlanInput) :
    Scoped tables user (bookingOf tables (.withdrawPaymentPlan input))
      (withdrawPaymentPlan context user input tables).2 := by
  apply operation_scoped
  · intro actor admitted
    exact actsFor_of_withdrawer admitted
  · intro actor value after succeeds
    simp only [withdrawPaymentPlanTransaction, bind_eq_ok,
      demand_eq_ok] at succeeds
    obtain ⟨found, lookup, -⟩ := succeeds
    exact Or.inr (visible_plan lookup)

theorem recordPayment_scoped (input : RecordPaymentInput) :
    Scoped tables user (bookingOf tables (.recordPayment input))
      (recordPayment context user input tables).2 := by
  apply operation_scoped
  · intro actor admitted
    exact actsFor_of_finance admitted
  · intro actor value after succeeds
    simp only [recordPaymentTransaction, bind_eq_ok,
      demand_eq_ok] at succeeds
    obtain ⟨found, lookup, -⟩ := succeeds
    obtain ⟨booking, foundBooking, visible, -⟩ :=
      findBookingFinancialsForActor_eq_some.mp lookup
    have named :
        bookingOf tables (.recordPayment input) = some input.bookingId := by
      simp only [bookingOf, targetBooking, foundBooking, Option.map_some,
        key_of_findBy foundBooking]
    right
    rw [named, Visible, Option.any_some]
    exact visible

theorem confirmPayment_scoped (input : ConfirmPaymentInput) :
    Scoped tables user (bookingOf tables (.confirmPayment input))
      (confirmPayment user input tables).2 := by
  apply operation_scoped
  · intro actor admitted
    exact actsFor_of_finance admitted
  · intro actor value after succeeds
    unfold confirmPaymentTransaction at succeeds
    refine scoped_of_replay ?_ ?_ succeeds
    · intro replay
      rfl
    · intro continues
      simp only [bind_eq_ok] at continues
      obtain ⟨found, lookup, -⟩ := continues
      exact visible_payment lookup

theorem reversePayment_scoped (input : ReversePaymentInput) :
    Scoped tables user (bookingOf tables (.reversePayment input))
      (reversePayment user input tables).2 := by
  apply operation_scoped
  · intro actor admitted
    exact actsFor_of_finance admitted
  · intro actor value after succeeds
    unfold reversePaymentTransaction at succeeds
    refine scoped_of_replay ?_ ?_ succeeds
    · intro replay
      rfl
    · intro continues
      simp only [bind_eq_ok] at continues
      obtain ⟨found, lookup, -⟩ := continues
      exact visible_payment lookup

theorem refundPayment_scoped (input : RefundPaymentInput) :
    Scoped tables user (bookingOf tables (.refundPayment input))
      (refundPayment context user input tables).2 := by
  apply operation_scoped
  · intro actor admitted
    exact actsFor_of_finance admitted
  · intro actor value after succeeds
    unfold refundPaymentTransaction at succeeds
    refine scoped_of_replay ?_ ?_ succeeds
    · intro replay
      rfl
    · intro continues
      simp only [bind_eq_ok] at continues
      obtain ⟨-, -, found, lookup, -⟩ := continues
      exact visible_payment lookup

theorem issueReceipt_scoped (input : IssueReceiptInput) :
    Scoped tables user (bookingOf tables (.issueReceipt input))
      (issueReceipt context user input tables).2 := by
  apply operation_scoped
  · intro actor admitted
    exact actsFor_of_finance admitted
  · intro actor value after succeeds
    simp only [issueReceiptTransaction, bind_eq_ok] at succeeds
    obtain ⟨found, lookup, -⟩ := succeeds
    exact Or.inr (visible_payment lookup)

theorem createAllocation_scoped (input : CreateAllocationInput) :
    Scoped tables user (bookingOf tables (.createAllocation input))
      (createAllocation context user input tables).2 := by
  apply operation_scoped
  · intro actor admitted
    exact actsFor_of_finance admitted
  · intro actor value after succeeds
    unfold createAllocationTransaction at succeeds
    refine scoped_of_replay ?_ ?_ succeeds
    · intro replay
      rfl
    · intro continues
      simp only [bind_eq_ok] at continues
      obtain ⟨found, lookup, -⟩ := continues
      exact visible_payment lookup

theorem reverseAllocation_scoped (input : ReverseAllocationInput) :
    Scoped tables user (bookingOf tables (.reverseAllocation input))
      (reverseAllocation context user input tables).2 := by
  apply operation_scoped
  · intro actor admitted
    exact actsFor_of_finance admitted
  · intro actor value after succeeds
    unfold reverseAllocationTransaction at succeeds
    refine scoped_of_replay ?_ ?_ succeeds
    · intro replay
      rfl
    · intro continues
      simp only [bind_eq_ok, demand_eq_ok,
        findAllocationForReversal_eq_some] at continues
      obtain ⟨found, ⟨allocation, foundAllocation, rfl⟩, payment, lookup, -⟩ :=
        continues
      have named :
          bookingOf tables (.reverseAllocation input) =
            bookingOfPayment tables allocation.paymentId := by
        simp only [bookingOf, targetBooking, foundAllocation, Option.bind_some]
      rw [named]
      exact visible_payment lookup

/-- Whatever is performed, tables other than those it met were written for a
booking of the user. -/
theorem perform_scoped (operation : Operation) :
    Scoped tables user (bookingOf tables operation)
      (perform context user operation tables).2 := by
  cases operation with
  | setBookingFinancials input => exact setBookingFinancials_scoped input
  | proposePaymentPlan input => exact proposePaymentPlan_scoped input
  | approvePaymentPlan input => exact approvePaymentPlan_scoped input
  | withdrawPaymentPlan input => exact withdrawPaymentPlan_scoped input
  | recordPayment input => exact recordPayment_scoped input
  | confirmPayment input => exact confirmPayment_scoped input
  | reversePayment input => exact reversePayment_scoped input
  | refundPayment input => exact refundPayment_scoped input
  | issueReceipt input => exact issueReceipt_scoped input
  | createAllocation input => exact createAllocation_scoped input
  | reverseAllocation input => exact reverseAllocation_scoped input

end Heritage.Payments
