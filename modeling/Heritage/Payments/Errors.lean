import Mathlib

/-!
# Payment errors

`PaymentError` is the service layer's domain error.  A transaction can also
fail on a unique index, which the callers map to a conflict or answer by a
replay, or with a plain error that no caller recognises.
-/

namespace Heritage.Payments

inductive PaymentErrorCode where
  | roleNotPermitted
  | bookingNotFound
  | bookingForbidden
  | paymentPlanForbidden
  | paymentPlanConflict
  | paymentForbidden
  | invalidPaymentTransition
  | paymentConflict
  | allocationNotPermitted
  | allocationReversalNotPermitted
  | refundExceedsRemaining
  | receiptNotPermitted
  | idempotencyKeyConflict
  | bookingCurrencyNotSet
  | bookingFinancialsLocked
  | bookingStatusNotPermitted
  | exportRowLimitExceeded
  deriving DecidableEq, Repr

/-- `STATUS_BY_CODE`. -/
def PaymentErrorCode.status : PaymentErrorCode → Nat
  | .roleNotPermitted => 403
  | .bookingNotFound => 404
  | .bookingForbidden => 403
  | .paymentPlanForbidden => 403
  | .paymentForbidden => 403
  | .exportRowLimitExceeded => 422
  | _ => 409

structure PaymentError where
  code : PaymentErrorCode
  message : String
  deriving DecidableEq, Repr

inductive TxError where
  | payment (error : PaymentError)
  | uniqueViolation (modelName : String) (fields : List String)
  | unknown (message : String)
  deriving DecidableEq, Repr

/-- The domain error with this code and message. -/
def paymentError (code : PaymentErrorCode) (message : String) : TxError :=
  .payment ⟨code, message⟩

/-- `isUniqueViolationOn`; the order of the columns does not matter and no
caller names more than one. -/
def isUniqueViolationOn (error : TxError) (modelName : String)
    (fields : List String) : Bool :=
  match error with
  | .uniqueViolation model columns => model = modelName ∧ columns = fields
  | _ => false

/-- `isResidualDatabaseConflict` for serialised transactions: a unique
violation. -/
def isOtherKnownConflict : TxError → Bool
  | .uniqueViolation _ _ => true
  | _ => false

end Heritage.Payments
