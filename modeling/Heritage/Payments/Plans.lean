import Heritage.Payments.Persistence

/-!
# The financial lock

A booking is priced before anything refers to it, and its price is fixed once
a payment or an active plan does.  So an approved plan keeps adding up to its
booking's total, and a receipt keeps its booking's currency.
-/

namespace Heritage.Payments

open Heritage.Store
open Repository

variable {tables after : Tables} {kind : WriteKind}

/-- The price of a stored booking is kept, or the booking was unlocked and is
priced now. -/
def PriceKept (tables : Tables) (before later : Booking) : Prop :=
  later.totalAmount = before.totalAmount ∧
      later.currencyCode = before.currencyCode ∨
    hasFinancialLock tables before.id = false ∧ later.totalAmount.isSome

theorem booking_commit (commit : Commit tables kind after)
    {bookingId : Uuid} {booking : Booking}
    (found : findBy Booking.id bookingId tables.bookings = some booking) :
    ∃ later,
      findBy Booking.id bookingId after.bookings = some later ∧
        PriceKept tables booking later := by
  cases commit with
  | bookingAdded added freshId =>
      exact
        ⟨booking, findBy_append_of_found _ found, Or.inl ⟨rfl, rfl⟩⟩
  | bookingStatusChanged changedId status =>
      have foundLater :
          findBy Booking.id bookingId
              (updateBy Booking.id changedId (withBookingStatus status)
                tables.bookings) =
            some
              (if booking.id = changedId then
                withBookingStatus status booking
              else
                booking) :=
        findBy_updateBy_of_found (fun _ => rfl) found
      refine ⟨_, foundLater, Or.inl ?_⟩
      split <;> exact ⟨rfl, rfl⟩
  | financialsSet pricedId totalAmount currencyCode logs unlocked =>
      have foundLater :
          findBy Booking.id bookingId
              (updateBy Booking.id pricedId
                (withFinancials totalAmount currencyCode) tables.bookings) =
            some
              (if booking.id = pricedId then
                withFinancials totalAmount currencyCode booking
              else
                booking) :=
        findBy_updateBy_of_found (fun _ => rfl) found
      refine ⟨_, foundLater, ?_⟩
      by_cases priced : booking.id = pricedId
      · rw [if_pos priced]
        exact Or.inr ⟨priced ▸ unlocked, rfl⟩
      · rw [if_neg priced]
        exact Or.inl ⟨rfl, rfl⟩
  | _ =>
      exact ⟨booking, found, Or.inl ⟨rfl, rfl⟩⟩

theorem PriceKept.isSome {before later : Booking}
    (kept : PriceKept tables before later)
    (priced : before.totalAmount.isSome) : later.totalAmount.isSome := by
  rcases kept with ⟨sameTotal, -⟩ | ⟨-, newlyPriced⟩
  · rw [sameTotal]
    exact priced
  · exact newlyPriced

theorem PriceKept.of_locked {before later : Booking}
    (kept : PriceKept tables before later)
    (locked : hasFinancialLock tables before.id = true) :
    later.totalAmount = before.totalAmount ∧
      later.currencyCode = before.currencyCode := by
  rcases kept with same | ⟨unlocked, -⟩
  · exact same
  · rw [locked] at unlocked
    cases unlocked

theorem locked_of_plan {plan : PaymentPlan}
    (member : plan ∈ tables.paymentPlans) (active : plan.status ≠ .withdrawn) :
    hasFinancialLock tables plan.bookingId = true := by
  cases lock : hasFinancialLock tables plan.bookingId with
  | true =>
      rfl
  | false =>
      exact
        absurd ((hasFinancialLock_eq_false.mp lock).1 plan member rfl) active

theorem locked_of_payment {payment : Payment}
    (member : payment ∈ tables.payments) :
    hasFinancialLock tables payment.bookingId = true := by
  cases lock : hasFinancialLock tables payment.bookingId with
  | true =>
      rfl
  | false =>
      exact
        absurd rfl ((hasFinancialLock_eq_false.mp lock).2 payment member)

/-- The booking behind an id is stored and has its total. -/
def PricedBooking (tables : Tables) (bookingId : Uuid) : Prop :=
  ∃ booking,
    findBy Booking.id bookingId tables.bookings = some booking ∧
      booking.totalAmount.isSome

/-- The plan's installments add up to its booking's total. -/
def ReconciledPlan (tables : Tables) (plan : PaymentPlan) : Prop :=
  ∃ booking totalAmount,
    findBy Booking.id plan.bookingId tables.bookings = some booking ∧
      booking.totalAmount = some totalAmount ∧
      sumInstallmentAmounts tables plan.id = totalAmount.value

/-- The receipt shows its payment's amount and its booking's currency. -/
def FaithfulReceipt (tables : Tables) (receipt : Receipt) : Prop :=
  ∃ payment booking,
    findBy Payment.id receipt.paymentId tables.payments = some payment ∧
      findBy Booking.id payment.bookingId tables.bookings = some booking ∧
      receipt.amount = payment.amount.value ∧
      booking.currencyCode = some receipt.currencyCode

structure Reconciled (tables : Tables) : Prop where
  onePlan :
    ∀ left ∈ tables.paymentPlans, ∀ right ∈ tables.paymentPlans,
      left.bookingId = right.bookingId →
        left.status ≠ .withdrawn → right.status ≠ .withdrawn →
          left.id = right.id
  approvedPlans :
    ∀ plan ∈ tables.paymentPlans, plan.status = .approved →
      ReconciledPlan tables plan
  pricedPlans :
    ∀ plan ∈ tables.paymentPlans, PricedBooking tables plan.bookingId
  pricedPayments :
    ∀ payment ∈ tables.payments, PricedBooking tables payment.bookingId
  receipts :
    ∀ receipt ∈ tables.receipts, FaithfulReceipt tables receipt

theorem reconciled_empty : Reconciled Tables.empty := by
  constructor <;> simp [Tables.empty]

theorem PricedBooking.commit (commit : Commit tables kind after)
    {bookingId : Uuid} (priced : PricedBooking tables bookingId) :
    PricedBooking after bookingId := by
  obtain ⟨booking, found, hasTotal⟩ := priced
  obtain ⟨later, foundLater, kept⟩ := booking_commit commit found
  exact ⟨later, foundLater, kept.isSome hasTotal⟩

/-- Later proposals insert installments of their own plan only. -/
theorem sumInstallmentAmounts_commit (commit : Commit tables kind after)
    {plan : PaymentPlan} (member : plan ∈ tables.paymentPlans) :
    sumInstallmentAmounts after plan.id =
      sumInstallmentAmounts tables plan.id := by
  cases commit with
  | planProposed booking rows logs permitted =>
      have otherPlan : rows.id ≠ plan.id := fun same =>
        findBy_eq_none_iff.mp permitted.freshId plan member same.symm
      have newRows :
          groupSum Installment.paymentPlanId (fun row => row.amount.value)
            plan.id rows.installmentRows = 0 := by
        apply groupSum_eq_zero
        intro installment installmentMember
        obtain ⟨_, -, rfl⟩ := List.mem_map.mp installmentMember
        exact otherPlan
      have split :
          sumInstallmentAmounts (audited (proposed tables rows) logs)
              plan.id =
            sumInstallmentAmounts tables plan.id +
              groupSum Installment.paymentPlanId
                (fun row => row.amount.value) plan.id
                rows.installmentRows :=
        groupSum_append _ _
      rw [split, newRows, add_zero]
  | _ =>
      rfl

theorem ReconciledPlan.commit (commit : Commit tables kind after)
    {plan : PaymentPlan} (member : plan ∈ tables.paymentPlans)
    (active : plan.status ≠ .withdrawn)
    (reconciled : ReconciledPlan tables plan) :
    ReconciledPlan after plan := by
  obtain ⟨booking, totalAmount, found, priced, sum⟩ := reconciled
  obtain ⟨later, foundLater, kept⟩ := booking_commit commit found
  have locked : hasFinancialLock tables booking.id = true := by
    rw [key_of_findBy found]
    exact locked_of_plan member active
  refine ⟨later, totalAmount, foundLater, ?_, ?_⟩
  · rw [(kept.of_locked locked).1]
    exact priced
  · rw [sumInstallmentAmounts_commit commit member]
    exact sum

theorem FaithfulReceipt.commit (integrity : Integrity tables)
    (commit : Commit tables kind after) {receipt : Receipt}
    (faithful : FaithfulReceipt tables receipt) :
    FaithfulReceipt after receipt := by
  obtain ⟨payment, booking, foundPayment, foundBooking, sameAmount,
    sameCurrency⟩ := faithful
  obtain ⟨laterPayment, foundLater, -, keptBooking, keptAmount⟩ :=
    (Extends.commit integrity commit).findPayment foundPayment
  obtain ⟨laterBooking, foundLaterBooking, kept⟩ :=
    booking_commit commit foundBooking
  have locked : hasFinancialLock tables booking.id = true := by
    rw [key_of_findBy foundBooking]
    exact locked_of_payment (mem_of_findBy foundPayment)
  refine ⟨laterPayment, laterBooking, foundLater, ?_, ?_, ?_⟩
  · rw [keptBooking]
    exact foundLaterBooking
  · rw [keptAmount]
    exact sameAmount
  · rw [(kept.of_locked locked).2]
    exact sameCurrency

section Decision

variable {plan : PaymentPlan} {change : PaymentPlan → PaymentPlan}

/-- A plan after a decision is an old one with the same terms, and the same
row unless it is the decided one. -/
theorem mem_replanned (integrity : Integrity tables)
    (foundPlan :
      findBy PaymentPlan.id plan.id tables.paymentPlans = some plan)
    {later : PaymentPlan}
    (member : later ∈ (replanned tables plan.id change).paymentPlans) :
    later = change plan ∨
      later ∈ tables.paymentPlans ∧ later.id ≠ plan.id := by
  apply
    @forall_mem_updateBy _ _ _ _ _ change _
      (fun row =>
        row = change plan ∨ row ∈ tables.paymentPlans ∧ row.id ≠ plan.id)
      plan integrity.planIds foundPlan (Or.inl rfl) ?_ later member
  intro row rowMember different
  exact Or.inr ⟨rowMember, different⟩

/-- The plans after a decision on one of them, which was active. -/
theorem Reconciled.onePlan_replanned (integrity : Integrity tables)
    (reconciled : Reconciled tables)
    (foundPlan :
      findBy PaymentPlan.id plan.id tables.paymentPlans = some plan)
    (isProposed : plan.status = .proposed)
    (keptId : (change plan).id = plan.id)
    (keptBooking : (change plan).bookingId = plan.bookingId) :
    ∀ left ∈ (replanned tables plan.id change).paymentPlans,
      ∀ right ∈ (replanned tables plan.id change).paymentPlans,
        left.bookingId = right.bookingId →
          left.status ≠ .withdrawn → right.status ≠ .withdrawn →
            left.id = right.id := by
  have planMember := mem_of_findBy foundPlan
  have active : plan.status ≠ .withdrawn := by
    rw [isProposed]
    decide
  intro left leftMember right rightMember sameBooking leftActive rightActive
  rcases mem_replanned integrity foundPlan leftMember with
    rfl | ⟨leftOld, -⟩ <;>
    rcases mem_replanned integrity foundPlan rightMember with
      rfl | ⟨rightOld, -⟩
  · rfl
  · rw [keptBooking] at sameBooking
    rw [keptId]
    exact
      reconciled.onePlan plan planMember right rightOld sameBooking active
        rightActive
  · rw [keptBooking] at sameBooking
    rw [keptId]
    exact
      reconciled.onePlan left leftOld plan planMember sameBooking leftActive
        active
  · exact
      reconciled.onePlan left leftOld right rightOld sameBooking leftActive
        rightActive

end Decision

theorem Reconciled.commit (integrity : Integrity tables)
    (reconciled : Reconciled tables)
    (commit : Commit tables kind after) : Reconciled after := by
  have pricedBooking :
      ∀ bookingId, PricedBooking tables bookingId →
        PricedBooking after bookingId :=
    fun _ priced => priced.commit commit
  have oldPlan :
      ∀ plan ∈ tables.paymentPlans, plan.status = .approved →
        ReconciledPlan after plan := by
    intro plan member approved
    have active : plan.status ≠ .withdrawn := by
      rw [approved]
      decide
    exact
      (reconciled.approvedPlans plan member approved).commit commit member
        active
  have oldReceipt :
      ∀ receipt ∈ tables.receipts, FaithfulReceipt after receipt :=
    fun receipt member =>
      (reconciled.receipts receipt member).commit integrity commit
  -- What a commit that touches neither plans, payments nor receipts keeps.
  have kept :
      after.paymentPlans = tables.paymentPlans →
        (∀ payment ∈ after.payments,
          PricedBooking tables payment.bookingId) →
        (∀ receipt ∈ after.receipts, FaithfulReceipt after receipt) →
          Reconciled after := by
    intro samePlans paymentsPriced receiptsFaithful
    refine ⟨?_, ?_, ?_, ?_, receiptsFaithful⟩
    · rw [samePlans]
      exact reconciled.onePlan
    · rw [samePlans]
      exact oldPlan
    · rw [samePlans]
      exact fun plan member =>
        pricedBooking _ (reconciled.pricedPlans plan member)
    · exact fun payment member =>
        pricedBooking _ (paymentsPriced payment member)
  have transitionedPriced :
      ∀ (paymentId : Uuid) (newStatus : PaymentStatus),
        ∀ payment ∈
            updateBy Payment.id paymentId (withStatus newStatus)
              tables.payments,
          PricedBooking tables payment.bookingId := by
    intro paymentId newStatus payment member
    obtain ⟨old, oldMember, rfl⟩ := mem_updateBy_iff.mp member
    split <;> exact reconciled.pricedPayments old oldMember
  cases commit with
  | planProposed booking rows logs permitted =>
      have priced : PricedBooking tables rows.bookingId :=
        ⟨booking, permitted.foundBooking, permitted.priced⟩
      refine ⟨?_, ?_, ?_, ?_, oldReceipt⟩
      · intro left leftMember right rightMember sameBooking leftActive
          rightActive
        rcases List.mem_append.mp leftMember with leftOld | leftNew <;>
          rcases List.mem_append.mp rightMember with rightOld | rightNew
        · exact
            reconciled.onePlan left leftOld right rightOld sameBooking
              leftActive rightActive
        · rw [List.mem_singleton.mp rightNew] at sameBooking
          exact
            absurd (permitted.noActivePlan left leftOld sameBooking)
              leftActive
        · rw [List.mem_singleton.mp leftNew] at sameBooking
          exact
            absurd (permitted.noActivePlan right rightOld sameBooking.symm)
              rightActive
        · rw [List.mem_singleton.mp leftNew, List.mem_singleton.mp rightNew]
      · intro plan member approved
        rcases List.mem_append.mp member with old | new
        · exact oldPlan plan old approved
        · rw [List.mem_singleton.mp new] at approved
          cases approved
      · intro plan member
        rcases List.mem_append.mp member with old | new
        · exact pricedBooking _ (reconciled.pricedPlans plan old)
        · rw [List.mem_singleton.mp new]
          exact pricedBooking _ priced
      · exact fun payment member =>
          pricedBooking _ (reconciled.pricedPayments payment member)
  | planApproved plan booking totalAmount row logs permitted =>
      refine ⟨?_, ?_, ?_, ?_, oldReceipt⟩
      · exact
          reconciled.onePlan_replanned integrity permitted.foundPlan
            permitted.isProposed rfl rfl
      · intro later member approved
        rcases mem_replanned integrity permitted.foundPlan member with
          rfl | ⟨old, -⟩
        · exact
            ⟨booking, totalAmount, permitted.foundBooking, permitted.priced,
              permitted.reconciled⟩
        · exact oldPlan later old approved
      · intro later member
        rcases mem_replanned integrity permitted.foundPlan member with
          rfl | ⟨old, -⟩
        · exact
            pricedBooking _
              (reconciled.pricedPlans plan
                (mem_of_findBy permitted.foundPlan))
        · exact pricedBooking _ (reconciled.pricedPlans later old)
      · exact fun payment member =>
          pricedBooking _ (reconciled.pricedPayments payment member)
  | planWithdrawn plan row logs foundPlan isProposed =>
      refine ⟨?_, ?_, ?_, ?_, oldReceipt⟩
      · exact
          reconciled.onePlan_replanned integrity foundPlan isProposed rfl rfl
      · intro later member approved
        rcases mem_replanned integrity foundPlan member with
          rfl | ⟨old, -⟩
        · cases approved
        · exact oldPlan later old approved
      · intro later member
        rcases mem_replanned integrity foundPlan member with
          rfl | ⟨old, -⟩
        · exact
            pricedBooking _
              (reconciled.pricedPlans plan (mem_of_findBy foundPlan))
        · exact pricedBooking _ (reconciled.pricedPlans later old)
      · exact fun payment member =>
          pricedBooking _ (reconciled.pricedPayments payment member)
  | paymentRecorded booking row logs permitted =>
      refine kept rfl ?_ oldReceipt
      intro payment member
      rcases List.mem_append.mp member with old | new
      · exact reconciled.pricedPayments payment old
      · rw [List.mem_singleton.mp new]
        refine ⟨booking, permitted.foundBooking, ?_⟩
        rw [booking.paired]
        exact permitted.priced
  | paymentConfirmed payment entry logs foundPayment ownEntry pending =>
      exact kept rfl (transitionedPriced payment.id .confirmed) oldReceipt
  | paymentReversed payment entry logs foundPayment ownEntry confirmed
      unrefunded =>
      exact kept rfl (transitionedPriced payment.id .reversed) oldReceipt
  | refundCompleted payment row entry logs permitted ownEntry completes =>
      exact kept rfl (transitionedPriced payment.id .refunded) oldReceipt
  | receiptIssued payment booking row logs foundPayment foundBooking
      sameAmount sameCurrency =>
      refine kept rfl reconciled.pricedPayments ?_
      intro receipt member
      rcases List.mem_append.mp member with old | new
      · exact oldReceipt receipt old
      · rw [List.mem_singleton.mp new]
        exact
          ⟨payment, booking, foundPayment, foundBooking, sameAmount,
            sameCurrency⟩
  | _ =>
      exact kept rfl reconciled.pricedPayments oldReceipt

theorem reconciled_tablesAfter (requests : List Request) :
    Reconciled (tablesAfter requests) :=
  invariant_of_sound_commits reconciled_empty
    (fun _ _ _ integrity reconciled commit =>
      reconciled.commit integrity commit)
    requests

/-! ## In every state and every later one -/

/-- Active plans, prices and receipts of one state. -/
def FinancialsConsistent (tables : Tables) : Prop :=
  (∀ bookingId,
    (tables.paymentPlans.filter fun plan =>
      plan.bookingId = bookingId ∧ isActivePlan plan).length ≤ 1) ∧
  (∀ plan ∈ tables.paymentPlans, plan.status = .approved →
    ∃ booking ∈ tables.bookings,
      booking.id = plan.bookingId ∧
        booking.totalAmount.map MoneyAmount.value =
          some (sumInstallmentAmounts tables plan.id)) ∧
  (∀ booking ∈ tables.bookings,
    (∃ payment ∈ tables.payments, payment.bookingId = booking.id) ∨
        (∃ plan ∈ tables.paymentPlans, plan.bookingId = booking.id) →
      booking.totalAmount.isSome ∧ booking.currencyCode.isSome) ∧
  ∀ receipt ∈ tables.receipts,
    ∃ payment ∈ tables.payments,
      ∃ booking ∈ tables.bookings,
        payment.id = receipt.paymentId ∧
          booking.id = payment.bookingId ∧
          receipt.amount = payment.amount.value ∧
          booking.currencyCode = some receipt.currencyCode

/-- A list without repetitions whose members are all the same. -/
private theorem length_le_one_of_subsingleton {ρ : Type*} {rows : List ρ}
    (distinct : rows.Nodup)
    (same : ∀ left ∈ rows, ∀ right ∈ rows, left = right) :
    rows.length ≤ 1 := by
  match rows, distinct with
  | [], _ =>
      simp
  | [_], _ =>
      simp
  | first :: second :: rest, distinct =>
      have firstIsSecond : first = second :=
        same first (by simp) second (by simp)
      rw [firstIsSecond] at distinct
      simp at distinct

/-- A stored row is the one its id finds. -/
private theorem priced_of_pricedBooking (integrity : Integrity tables)
    {booking : Booking} (member : booking ∈ tables.bookings)
    (priced : PricedBooking tables booking.id) :
    booking.totalAmount.isSome ∧ booking.currencyCode.isSome := by
  obtain ⟨found, foundBooking, hasTotal⟩ := priced
  rw [findBy_of_mem integrity.bookingIds member] at foundBooking
  cases foundBooking
  exact ⟨hasTotal, booking.paired ▸ hasTotal⟩

theorem Reconciled.consistent (integrity : Integrity tables)
    (reconciled : Reconciled tables) : FinancialsConsistent tables := by
  refine ⟨?_, ?_, ?_, ?_⟩
  · intro bookingId
    apply length_le_one_of_subsingleton
    · exact (List.Nodup.of_map _ integrity.planIds).filter _
    · intro left leftMember right rightMember
      simp only [List.mem_filter, decide_eq_true_eq, isActivePlan]
        at leftMember rightMember
      obtain ⟨leftStored, leftBooking, leftActive⟩ := leftMember
      obtain ⟨rightStored, rightBooking, rightActive⟩ := rightMember
      have sameId :=
        reconciled.onePlan left leftStored right rightStored
          (leftBooking.trans rightBooking.symm) leftActive rightActive
      exact
        List.inj_on_of_nodup_map integrity.planIds leftStored rightStored
          sameId
  · intro plan member approved
    obtain ⟨booking, totalAmount, found, priced, sum⟩ :=
      reconciled.approvedPlans plan member approved
    refine ⟨booking, mem_of_findBy found, key_of_findBy found, ?_⟩
    rw [priced, sum]
    rfl
  · rintro booking member (⟨payment, paymentMember, own⟩ |
      ⟨plan, planMember, own⟩)
    · exact
        priced_of_pricedBooking integrity member
          (own ▸ reconciled.pricedPayments payment paymentMember)
    · exact
        priced_of_pricedBooking integrity member
          (own ▸ reconciled.pricedPlans plan planMember)
  · intro receipt member
    obtain ⟨payment, booking, foundPayment, foundBooking, sameAmount,
      sameCurrency⟩ := reconciled.receipts receipt member
    exact
      ⟨payment, mem_of_findBy foundPayment, booking,
        mem_of_findBy foundBooking, key_of_findBy foundPayment,
        key_of_findBy foundBooking, sameAmount, sameCurrency⟩

theorem tablesAfter_append (requests more : List Request) :
    tablesAfter (requests ++ more) =
      run step (tablesAfter requests) more :=
  run_append step Tables.empty requests more

/-- A plan that is no longer `PROPOSED` is found unchanged ever after. -/
theorem findPlan_later (requests more : List Request) {plan : PaymentPlan}
    (member : plan ∈ (tablesAfter requests).paymentPlans)
    (settled : plan.status ≠ .proposed) :
    findBy PaymentPlan.id plan.id
        (tablesAfter (requests ++ more)).paymentPlans =
      some plan := by
  have grew :=
    extends_run (integrity_tablesAfter requests) more
  rw [← tablesAfter_append] at grew
  exact
    findBy_of_mem (integrity_tablesAfter (requests ++ more)).planIds
      (grew.settledPlans plan member settled)

/-- The financials are consistent in every state.  A decided plan and an
issued receipt are the same rows in every later state, which is consistent
too. -/
theorem financials_locked (requests more : List Request) :
    FinancialsConsistent (tablesAfter requests) ∧
      FinancialsConsistent (tablesAfter (requests ++ more)) ∧
      (∀ plan ∈ (tablesAfter requests).paymentPlans,
        plan.status = .approved ∨ plan.status = .withdrawn →
          findBy PaymentPlan.id plan.id
              (tablesAfter (requests ++ more)).paymentPlans =
            some plan) ∧
      ∀ receipt ∈ (tablesAfter requests).receipts,
        receipt ∈ (tablesAfter (requests ++ more)).receipts := by
  refine ⟨?_, ?_, ?_, ?_⟩
  · exact
      (reconciled_tablesAfter requests).consistent
        (integrity_tablesAfter requests)
  · exact
      (reconciled_tablesAfter (requests ++ more)).consistent
        (integrity_tablesAfter (requests ++ more))
  · intro plan member decided
    apply findPlan_later requests more member
    rcases decided with approved | withdrawn
    · rw [approved]
      decide
    · rw [withdrawn]
      decide
  · intro receipt member
    have grew := extends_run (integrity_tablesAfter requests) more
    rw [← tablesAfter_append] at grew
    exact grew.receipts.subset member

end Heritage.Payments
