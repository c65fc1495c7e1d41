import Heritage.Payments.Tables
import Heritage.Store.Rounding

/-!
# Balance formulas

The pure formulas of `calculations.ts`, in hundredths.  The amount due next is
added up as `Prisma.Decimal` adds, which keeps twenty significant digits.  The
other formulas are given for sums with no more digits than that, which
`Prisma.Decimal` adds exactly.
-/

namespace Heritage.Payments

open Heritage.Store

/-- The default precision of `Prisma.Decimal`. -/
def Decimal.precision : Nat := 20

/-- The default rounding of `Prisma.Decimal`: half up, away from zero. -/
def Decimal.rounded (value : Int) : Int :=
  toSignificantDigits Decimal.precision value

def Decimal.plus (total amount : Int) : Int :=
  Decimal.rounded (total + amount)

/-- `toFixed(2)`. -/
def toFixed2 (amount : Int) : String :=
  let digits := amount.natAbs
  let fraction := toString (digits % 100)
  (if amount < 0 then "-" else "") ++ toString (digits / 100) ++ "." ++
    (if fraction.length < 2 then "0" ++ fraction else fraction)

structure PaymentForCalculation where
  status : PaymentStatus
  amount : Int
  refundedTotal : Int

/-- The payment counts towards balances: `CONFIRMED` or `REFUNDED`. -/
def PaymentStatus.counts (status : PaymentStatus) : Bool :=
  status = .confirmed ∨ status = .refunded

def computeNetContribution (payment : PaymentForCalculation) : Int :=
  if payment.status ≠ .confirmed ∧ payment.status ≠ .refunded then
    0
  else
    let net := payment.amount - payment.refundedTotal
    if net < 0 then 0 else net

def computeNetConfirmedAmountPaid
    (payments : List PaymentForCalculation) : Int :=
  payments.foldl
    (fun total payment => total + computeNetContribution payment) 0

def computeRemainingBalance
    (totalAmount netConfirmedAmountPaid : Int) : Int :=
  let remaining := totalAmount - netConfirmedAmountPaid
  if remaining < 0 then 0 else remaining

def computeOverpayment
    (totalAmount netConfirmedAmountPaid : Int) : Int :=
  let overpaid := netConfirmedAmountPaid - totalAmount
  if overpaid < 0 then 0 else overpaid

structure ActiveAllocationForCalculation where
  amount : Int
  paymentStatus : PaymentStatus
  isReversed : Bool
  refundAllocatedTotal : Int

def computeNetActiveAllocation
    (allocations : List ActiveAllocationForCalculation) : Int :=
  allocations.foldl
    (fun total allocation =>
      if allocation.isReversed then
        total
      else if allocation.paymentStatus ≠ .confirmed ∧
          allocation.paymentStatus ≠ .refunded then
        total
      else
        total + allocation.amount - allocation.refundAllocatedTotal)
    0

def computeUnappliedCredit
    (netConfirmedAmountPaid : Int)
    (netActiveAllocationsByInstallment : List Int) : Int :=
  let totalAllocated :=
    netActiveAllocationsByInstallment.foldl
      (fun total allocation => total + allocation) 0
  netConfirmedAmountPaid - totalAllocated

def computeOutstandingInstallmentAmount
    (installmentAmount netActiveAllocation : Int) : Int :=
  let outstanding := installmentAmount - netActiveAllocation
  if outstanding < 0 then 0 else outstanding

structure InstallmentForNextDue where
  dueDate : Timestamp
  outstandingAmount : Int

def computeNextPaymentDue
    (installments : List InstallmentForNextDue) : Option Timestamp :=
  installments.foldl
    (fun (earliest : Option Timestamp) installment =>
      if installment.outstandingAmount ≤ (0 : Int) then
        earliest
      else
        match earliest with
        | none => some installment.dueDate
        | some date =>
            if installment.dueDate < date then some installment.dueDate
            else some date)
    none

def computeNextPaymentDueAmount
    (installments : List InstallmentForNextDue) : Option Int :=
  match computeNextPaymentDue installments with
  | none => none
  | some nextDue =>
      some <|
        installments.foldl
          (fun total installment =>
            if installment.dueDate = nextDue ∧
                installment.outstandingAmount > 0 then
              Decimal.plus total installment.outstandingAmount
            else
              total)
          0

structure SupportedCurrency where
  code : String
  minorUnits : Nat

def currencyListVersion : String := "currencies-v1"

def supportedCurrencies : List SupportedCurrency :=
  [{ code := "PHP", minorUnits := 2 }]

/-- The two digits after the decimal point. -/
def MoneyAmount.fractionalDigits (amount : MoneyAmount) : List Int :=
  [amount.value / 10 % 10, amount.value % 10]

def hasSupportedCurrencyPrecision
    (amount : MoneyAmount) (currencyCode : String) : Bool :=
  match supportedCurrencies.find? fun item => item.code = currencyCode with
  | none => false
  | some currency =>
      amount.fractionalDigits.length = 2 ∧
        (amount.fractionalDigits.drop currency.minorUnits).all
          fun digit => digit = 0

theorem computeRemainingBalance_eq (totalAmount paid : Int) :
    computeRemainingBalance totalAmount paid = max (totalAmount - paid) 0 := by
  simp only [computeRemainingBalance]
  split <;> omega

theorem computeOverpayment_eq (totalAmount paid : Int) :
    computeOverpayment totalAmount paid = max (paid - totalAmount) 0 := by
  simp only [computeOverpayment]
  split <;> omega

theorem computeOutstandingInstallmentAmount_eq (amount active : Int) :
    computeOutstandingInstallmentAmount amount active =
      max (amount - active) 0 := by
  simp only [computeOutstandingInstallmentAmount]
  split <;> omega

/-- A payment that counts and is not refunded beyond its amount contributes
what is left of it. -/
theorem computeNetContribution_eq {payment : PaymentForCalculation}
    (within : payment.refundedTotal ≤ payment.amount) :
    computeNetContribution payment =
      if payment.status.counts then
        payment.amount - payment.refundedTotal
      else
        0 := by
  have notNegative : ¬ payment.amount - payment.refundedTotal < 0 := by
    omega
  simp only [computeNetContribution, PaymentStatus.counts, notNegative,
    if_false]
  cases payment.status <;> simp

end Heritage.Payments
