import Heritage.Payments.Forms

/-!
# Payment forms at work

Any number of payment forms, the ledger they write to and a network between
them that may lose, delay and repeat requests and answers.  Whatever happens
in between, a keyed request changes the ledger at most once, and a form that
submits again learns the outcome of its first attempt.
-/

namespace Heritage.Payments

open Heritage.Exports (RawValue Issue property)
open Heritage.Store

/-- A response of a payment route. -/
inductive Answer where
  | unauthenticated
  | forbidden
  | invalid (issues : List Issue)
  | refused (error : PaymentError)
  | failed
  | done (response : Response)

/-- The status of a successful response. -/
def PaymentRoute.successStatus : PaymentRoute → Nat
  | .payments | .allocations => 201
  | _ => 200

def PaymentRoute.status (route : PaymentRoute) : Answer → Nat
  | .unauthenticated => 401
  | .forbidden => 403
  | .invalid _ => 400
  | .refused error => error.code.status
  | .failed => 500
  | .done _ => route.successStatus

/-- `runPaymentAction` and the error handling of `withRole`. -/
def Answer.ofOutcome : Except TxError Response → Answer
  | .ok response => .done response
  | .error (.payment error) => .refused error
  | .error _ => .failed

/-- The handler behind `withRole`. -/
def PaymentRoute.handle (uuid : String → Option Uuid)
    (context : RequestContext) (user : Option AuthenticatedUser)
    (route : PaymentRoute) (json : Option RawValue) (tables : Tables) :
    Answer × Tables :=
  match user with
  | none => (.unauthenticated, tables)
  | some user =>
      if user.role ∈ route.allowedRoles then
        match route.parseJsonBody uuid json with
        | .error issues => (.invalid issues, tables)
        | .ok operation =>
            let outcome := perform context user operation tables
            (.ofOutcome outcome.1, outcome.2)
      else
        (.forbidden, tables)

/-- `sendJson`: whether the outcome is a success; `none` stands for a request
or a response that was lost. -/
def sendJson (route : PaymentRoute) (response : Option Answer) : Bool :=
  response.any fun answer =>
    200 ≤ route.status answer && route.status answer < 300

/-- A mounted form and the request it is waiting for, by its place among the
requests sent. -/
structure DeskForm where
  form : PaymentForm
  waitingFor : Option Nat

structure Desk where
  tables : Tables
  forms : List DeskForm
  sent : List Submission
  /-- The answers given, each with the request it is for. -/
  answers : List (Nat × Answer)
  /-- The key of each keyed request that changed the ledger, in order. -/
  carriedOut : List String
  /-- The requests that a form reported as successful. -/
  reported : List Nat

/-- The operation that the route makes of a request. -/
def Submission.operation (uuid : String → Option Uuid)
    (submission : Submission) : Option Operation :=
  match
    submission.route.parseJsonBody uuid (some (.object submission.body))
  with
  | .ok operation => some operation
  | .error _ => none

/-- The key of that operation. -/
def Submission.operationKey (uuid : String → Option Uuid)
    (submission : Submission) : Option String :=
  (submission.operation uuid).bind Operation.idempotencyKey

namespace Desk

/-- The forms as senders of keyed requests. -/
def senders (desk : Desk) : Senders String Submission where
  senders := desk.forms.map fun entry => entry.form.sender
  sent :=
    desk.sent.filterMap fun submission =>
      submission.key.map fun key => (key, submission)

/-- No form holds the key, no request carried it and no row does. -/
structure Fresh (desk : Desk) (key : String) : Prop where
  unused : desk.senders.Unused key
  unstored : key ∉ storedKeys desk.tables

/-- The desk after a request was served. -/
def serve (uuid : String → Option Uuid) (context : RequestContext)
    (user : Option AuthenticatedUser) (index : Nat)
    (submission : Submission) (desk : Desk) : Desk :=
  let outcome :=
    submission.route.handle uuid context user
      (some (.object submission.body)) desk.tables
  { desk with
    tables := outcome.2
    answers := desk.answers ++ [(index, outcome.1)]
    carriedOut :=
      desk.carriedOut ++
        (if outcome.2 = desk.tables then []
          else (submission.operationKey uuid).toList) }

/-- The desk with another form in one place. -/
def withForm (desk : Desk) (index : Nat) (entry : DeskForm) : Desk :=
  { desk with forms := desk.forms.set index entry }

/-- One thing that can happen.  The key that a form draws was never held, sent
or stored before, as a random identifier ensures, and a request that comes
from no form uses no key that a form holds or has sent. -/
inductive Step (uuid : String → Option Uuid) (desk : Desk) : Desk → Prop
  where
  | mounted (form : PaymentForm) (isMounted : form.IsMounted)
      (fresh : desk.Fresh form.key) :
      Step uuid desk { desk with forms := desk.forms ++ [⟨form, none⟩] }
  | used (index : Nat) (entry : DeskForm) (event : FormEvent)
      (key : String) (found : desk.forms[index]? = some entry)
      (enabled : ¬ entry.form.submitting) (fresh : desk.Fresh key) :
      Step uuid desk
        (desk.withForm index
          { entry with form := entry.form.handle key event })
  | asked (index : Nat) (entry : DeskForm) (form : PaymentForm)
      (found : desk.forms[index]? = some entry)
      (asks : entry.form.handleSubmit = (form, none)) :
      Step uuid desk (desk.withForm index { entry with form := form })
  | submitted (index : Nat) (entry : DeskForm) (form : PaymentForm)
      (submission : Submission) (found : desk.forms[index]? = some entry)
      (sends : entry.form.handleSubmit = (form, some submission)) :
      Step uuid desk
        { desk.withForm index ⟨form, some desk.sent.length⟩ with
          sent := desk.sent ++ [submission] }
  | served (index : Nat) (submission : Submission)
      (context : RequestContext) (user : Option AuthenticatedUser)
      (found : desk.sent[index]? = some submission) :
      Step uuid desk (desk.serve uuid context user index submission)
  | broken (index : Nat) (submission : Submission)
      (found : desk.sent[index]? = some submission) :
      Step uuid desk
        { desk with answers := desk.answers ++ [(index, .failed)] }
  | settled (index : Nat) (entry : DeskForm) (request : Nat)
      (submission : Submission) (response : Option Answer) (key : String)
      (found : desk.forms[index]? = some entry)
      (waiting : entry.waitingFor = some request)
      (sent : desk.sent[request]? = some submission)
      (answered :
        ∀ answer, response = some answer →
          (request, answer) ∈ desk.answers)
      (fresh : desk.Fresh key) :
      Step uuid desk
        { desk.withForm index
            ⟨entry.form.settle (sendJson submission.route response) key,
              none⟩ with
          reported :=
            desk.reported ++
              (if sendJson submission.route response then [request]
                else []) }
  | elsewhere (request : Request)
      (foreign :
        ∀ key, request.idempotencyKey = some key →
          desk.senders.Unused key) :
      Step uuid desk { desk with tables := step desk.tables request }

/-- The desks that can arise from an empty ledger. -/
inductive Reachable (uuid : String → Option Uuid) : Desk → Prop where
  | start : Reachable uuid ⟨Tables.empty, [], [], [], [], []⟩
  | next {desk after : Desk} (before : Reachable uuid desk)
      (step : Step uuid desk after) : Reachable uuid after

end Desk

end Heritage.Payments
