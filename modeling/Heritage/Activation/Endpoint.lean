import Heritage.Activation.FixedWindows
import Heritage.Activation.Gates
import Heritage.Store.Transaction

/-!
# The activation endpoint under load

The two routes of activation, with any number of requests under way.  Whatever
the order of their steps, a window lets through no more bodies than the limit
of a source and no more service calls than the limit of a token.
-/

namespace Heritage.Activation.Endpoint

open Heritage.Activation.Gates
open Heritage.Activation.RateLimit
open Heritage.Activation.Source (resolveRequestSource)
open Heritage.Exports (RawValue Issue)
open Heritage.Exports.Origin (ParsedUrl)
open Heritage.Store

inductive Route where
  | continueRoute
  | activateRoute
  deriving DecidableEq, Repr

/-- What a route asks of the service. -/
inductive ServiceCall where
  | continueInvitation (token : String)
  | activateAccount (token password : String)
  deriving DecidableEq, Repr

def ServiceCall.token : ServiceCall → String
  | .continueInvitation token => token
  | .activateAccount token _ => token

/-- What the routes use that is not theirs. -/
structure Deployment where
  betterAuthUrl : String
  parseUrl : String → Option ParsedUrl
  decodeUtf8 : List UInt8 → String
  jsonParse : String → Option RawValue
  toLowerCase : String → String
  hmac : String → String
  hashInvitationToken : String → String

/-- The schema of a route. -/
def schemaOf : Route → RawValue → Except (List Issue) ServiceCall
  | .continueRoute => fun raw =>
      (continueSchema raw).map fun data => .continueInvitation data.token
  | .activateRoute => fun raw =>
      (activateSchema raw).map fun data =>
        .activateAccount data.token data.password

section Steps

variable (deployment : Deployment)

/-- The gates before the first limit. -/
def checkHeaders (request : HttpRequest) : Except Response Unit := do
  checkOrigin deployment.parseUrl deployment.betterAuthUrl request
  checkContentType request
  checkDeclaredContentLength request

/-- The routes trust no header for the source. -/
def sourceOf (request : HttpRequest) : ResolvedSource :=
  resolveRequestSource deployment.toLowerCase request.headers ⟨none, none⟩

/-- Reading and parsing the body. -/
def readCall (route : Route) (request : HttpRequest) :
    Except Response ServiceCall := do
  let text ← readBoundedBody deployment.decodeUtf8 request
  parseJsonBody deployment.jsonParse (schemaOf route) text

/-- How far a request has come. -/
inductive Phase where
  | gated (route : Route) (request : HttpRequest)
  | allowed (route : Route) (request : HttpRequest) (time : Timestamp)
  | parsed (route : Route) (request : HttpRequest) (call : ServiceCall)
  | admitted (route : Route) (request : HttpRequest) (call : ServiceCall)
      (time : Timestamp)

structure Traffic where
  /-- What the limiter has been asked. -/
  limiter : List RateLimit.Request
  underWay : List Phase
  /-- The bodies read, by the time of their check. -/
  bodies : List Timestamp
  /-- The service calls made, with the time of their check. -/
  calls : List (ServiceCall × Timestamp)

def Traffic.quiet : Traffic where
  limiter := []
  underWay := []
  bodies := []
  calls := []

inductive Event where
  | arrived (route : Route) (request : HttpRequest)
  | sourceChecked (index : Nat) (now : Timestamp) (draw : Rat)
  | bodyRead (index : Nat)
  | tokenChecked (index : Nat) (now : Timestamp) (draw : Rat)
  | called (index : Nat)
  | cleanup (index : Nat) (fails : Bool)

namespace Traffic

/-- A request that comes to its next phase, or ends. -/
def advance (traffic : Traffic) (index : Nat) (next : Option Phase) :
    Traffic :=
  { traffic with
    underWay := traffic.underWay.eraseIdx index ++ next.toList }

/-- The decision of the limiter; `true` is a refusal. -/
def refuses (traffic : Traffic) (subject : Subject) (now : Timestamp) :
    Bool :=
  (check deployment.hmac subject now
    (stateAfter deployment.hmac traffic.limiter).buckets).1

/-- The limiter is asked, and the request goes on unless it is refused. -/
def limit (traffic : Traffic) (index : Nat) (subject : Subject)
    (now : Timestamp) (draw : Rat) (next : Phase) : Traffic :=
  { traffic.advance index
      (if traffic.refuses deployment subject now then none
      else some next) with
    limiter := traffic.limiter ++ [.check subject now draw] }

def tokenHashOf (call : ServiceCall) : String :=
  deployment.hashInvitationToken call.token

def step (traffic : Traffic) : Event → Traffic
  | .arrived route request =>
      match checkHeaders deployment request with
      | .ok () =>
          { traffic with
            underWay := traffic.underWay ++ [.gated route request] }
      | .error _ => traffic
  | .sourceChecked index now draw =>
      match traffic.underWay[index]? with
      | some (.gated route request) =>
          traffic.limit deployment index
            (.source (sourceOf deployment request)) now draw
            (.allowed route request now)
      | _ => traffic
  | .bodyRead index =>
      match traffic.underWay[index]? with
      | some (.allowed route request time) =>
          { traffic.advance index
              ((readCall deployment route request).toOption.map
                (.parsed route request)) with
            bodies := traffic.bodies ++ [time] }
      | _ => traffic
  | .tokenChecked index now draw =>
      match traffic.underWay[index]? with
      | some (.parsed route request call) =>
          traffic.limit deployment index
            (.token (tokenHashOf deployment call)) now draw
            (.admitted route request call now)
      | _ => traffic
  | .called index =>
      match traffic.underWay[index]? with
      | some (.admitted _ _ call time) =>
          { traffic.advance index none with
            calls := traffic.calls ++ [(call, time)] }
      | _ => traffic
  | .cleanup index fails =>
      { traffic with limiter := traffic.limiter ++ [.cleanup index fails] }

/-- The traffic after `events`. -/
def after (events : List Event) : Traffic :=
  run (step deployment) quiet events

end Traffic

end Steps

variable {deployment : Deployment}

/-! ## What the gates let through -/

/-- The bytes of the chunks. -/
def bytesOf (reads : List ChunkRead) : List UInt8 :=
  reads.flatMap fun read =>
    match read with
    | .chunk bytes => bytes
    | _ => []

/-- The loop keeps all the bytes or stops: however the body is cut into
chunks, it ends with the same bytes. -/
theorem readChunks_eq_ok {reads : List ChunkRead} {kept bytes : List UInt8}
    (inLimit : kept.length ≤ maxBodyBytes)
    (accepted : readChunks kept reads = .ok bytes) :
    bytes = kept ++ bytesOf reads ∧ bytes.length ≤ maxBodyBytes := by
  induction reads generalizing kept with
  | nil =>
      obtain rfl := Except.ok.inj accepted
      simp [bytesOf, inLimit]
  | cons read rest inductionHypothesis =>
      cases read with
      | fails => cases accepted
      | nothing => exact inductionHypothesis inLimit accepted
      | chunk chunk =>
          unfold readChunks at accepted
          split at accepted
          next => cases accepted
          next fits =>
            have longer : (kept ++ chunk).length ≤ maxBodyBytes := by
              rw [List.length_append]
              omega
            obtain ⟨rfl, short⟩ := inductionHypothesis longer accepted
            refine ⟨?_, short⟩
            simp [bytesOf]

theorem activationTokenSchema_eq {key text : String} {raw : RawValue}
    (isValue : (activationTokenSchema key raw).value = some text)
    (clean : (activationTokenSchema key raw).issues = []) :
    matchesToken text := by
  cases raw with
  | string value =>
      obtain rfl := Option.some.inj isValue
      simp only [activationTokenSchema] at clean
      by_contra other
      rw [if_neg other] at clean
      cases clean
  | _ => cases isValue

theorem continueSchema_eq_ok {raw : RawValue} {data : ContinueInput}
    (accepted : continueSchema raw = .ok data) : matchesToken data.token := by
  cases raw with
  | object fields =>
      simp only [continueSchema] at accepted
      split at accepted
      next text isValue clean =>
        obtain rfl := Except.ok.inj accepted
        exact activationTokenSchema_eq isValue clean
      next => cases accepted
  | _ => cases accepted

/-- The length of a text in code units. -/
def lengthOf (text : String) : Nat :=
  (Calendar.codeUnits text.toList).length

theorem passwordSchema_eq {key text : String} {raw : RawValue}
    (isValue : (passwordSchema key raw).value = some text)
    (clean : (passwordSchema key raw).issues = []) :
    12 ≤ lengthOf text ∧ lengthOf text ≤ 200 := by
  cases raw with
  | string value =>
      obtain rfl := Option.some.inj isValue
      simp only [passwordSchema, List.append_eq_nil_iff] at clean
      unfold lengthOf
      constructor
      · by_contra short
        have issue := clean.1
        rw [if_neg short] at issue
        cases issue
      · by_contra long
        have issue := clean.2
        rw [if_neg long] at issue
        cases issue
  | _ => cases isValue

/-- What a call can be. -/
def WellFormed : ServiceCall → Prop
  | .continueInvitation token => matchesToken token
  | .activateAccount token password =>
      matchesToken token ∧ 12 ≤ lengthOf password ∧ lengthOf password ≤ 200

theorem activateSchema_eq_ok {raw : RawValue} {data : ActivateInput}
    (accepted : activateSchema raw = .ok data) :
    WellFormed (.activateAccount data.token data.password) := by
  cases raw with
  | object fields =>
      simp only [activateSchema] at accepted
      split at accepted
      next input clean isInput noIssues =>
        obtain rfl := Except.ok.inj accepted
        simp only [Option.bind_eq_bind, Option.bind_eq_some_iff,
          Option.some.injEq] at isInput
        obtain ⟨token, isToken, password, isPassword, confirmation, -,
          rfl⟩ := isInput
        simp only [List.append_eq_nil_iff] at noIssues
        obtain ⟨⟨⟨tokenClean, passwordClean⟩, -⟩, -⟩ := noIssues
        exact
          ⟨activationTokenSchema_eq isToken tokenClean,
            passwordSchema_eq isPassword passwordClean⟩
      next => cases accepted
  | _ => cases accepted

theorem schemaOf_eq_ok {route : Route} {raw : RawValue} {call : ServiceCall}
    (accepted : schemaOf route raw = .ok call) : WellFormed call := by
  cases route with
  | continueRoute =>
      simp only [schemaOf] at accepted
      cases outcome : continueSchema raw with
      | error issues =>
          rw [outcome] at accepted
          cases accepted
      | ok data =>
          rw [outcome] at accepted
          obtain rfl := Except.ok.inj accepted
          exact continueSchema_eq_ok outcome
  | activateRoute =>
      simp only [schemaOf] at accepted
      cases outcome : activateSchema raw with
      | error issues =>
          rw [outcome] at accepted
          cases accepted
      | ok data =>
          rw [outcome] at accepted
          obtain rfl := Except.ok.inj accepted
          exact activateSchema_eq_ok outcome

/-- The bytes of a body, if there is one. -/
def bodyBytes (request : HttpRequest) : List UInt8 :=
  (request.body.map bytesOf).getD []

/-- A call is what the route's schema makes of the whole body, which is not
too long. -/
theorem readCall_eq_ok {route : Route} {request : HttpRequest}
    {call : ServiceCall}
    (accepted : readCall deployment route request = .ok call) :
    WellFormed call ∧ (bodyBytes request).length ≤ maxBodyBytes := by
  simp only [readCall, bind_eq_ok] at accepted
  obtain ⟨text, read, parsed⟩ := accepted
  constructor
  · unfold parseJsonBody at parsed
    split at parsed
    next => cases parsed
    next json isJson =>
      cases outcome : schemaOf route json with
      | error issues =>
          rw [outcome] at parsed
          cases parsed
      | ok value =>
          rw [outcome] at parsed
          obtain rfl := Except.ok.inj parsed
          exact schemaOf_eq_ok outcome
  · unfold readBoundedBody at read
    unfold bodyBytes
    split at read
    next noBody => simp [noBody]
    next reads isBody =>
      cases outcome : readChunks [] reads with
      | error refusal =>
          rw [outcome] at read
          cases read
      | ok bytes =>
          obtain ⟨whole, short⟩ := readChunks_eq_ok (by simp) outcome
          rw [List.nil_append] at whole
          rw [isBody, Option.map_some, Option.getD_some, ← whole]
          exact short

/-- Neither schema accepts a request without a body. -/
theorem schemaOf_undefined (route : Route) (call : ServiceCall) :
    schemaOf route .undefined ≠ .ok call := by
  cases route with
  | continueRoute =>
      intro accepted
      cases accepted
  | activateRoute =>
      intro accepted
      cases accepted

/-- The JSON text of a call is the decoding of the bytes of the body. -/
theorem json_of_readCall {route : Route} {request : HttpRequest}
    {call : ServiceCall}
    (accepted : readCall deployment route request = .ok call) :
    ∃ json,
      deployment.jsonParse (deployment.decodeUtf8 (bodyBytes request)) =
          some json ∧
        schemaOf route json = .ok call := by
  simp only [readCall, bind_eq_ok] at accepted
  obtain ⟨text, read, parsed⟩ := accepted
  have nonempty : text ≠ "" := by
    rintro rfl
    simp only [parseJsonBody, if_true] at parsed
    cases outcome : schemaOf route .undefined with
    | error issues =>
        rw [outcome] at parsed
        cases parsed
    | ok value => exact schemaOf_undefined route value outcome
  have isText : text = deployment.decodeUtf8 (bodyBytes request) := by
    unfold readBoundedBody at read
    unfold bodyBytes
    split at read
    next noBody => exact absurd (Except.ok.inj read).symm nonempty
    next reads isBody =>
      cases outcome : readChunks [] reads with
      | error refusal =>
          rw [outcome] at read
          cases read
      | ok bytes =>
          obtain ⟨whole, -⟩ := readChunks_eq_ok (by simp) outcome
          rw [outcome] at read
          rw [List.nil_append] at whole
          rw [isBody, Option.map_some, Option.getD_some, ← whole]
          exact (Except.ok.inj read).symm
  unfold parseJsonBody at parsed
  rw [if_neg nonempty] at parsed
  split at parsed
  next => cases parsed
  next json isJson =>
    cases outcome : schemaOf route json with
    | error issues =>
        rw [outcome] at parsed
        cases parsed
    | ok value =>
        rw [outcome] at parsed
        obtain rfl := Except.ok.inj parsed
        rw [← isText]
        exact ⟨json, isJson, outcome⟩

/-- The request names the application's own origin. -/
def SameOrigin (deployment : Deployment) (request : HttpRequest) : Prop :=
  ∃ originHeader expected actual,
    request.headers "origin" = some originHeader ∧
      deployment.parseUrl deployment.betterAuthUrl = some expected ∧
        deployment.parseUrl originHeader = some actual ∧
          actual.serializedOrigin = expected.serializedOrigin

theorem sameOrigin_of_checkHeaders {request : HttpRequest}
    (passed : checkHeaders deployment request = .ok ()) :
    SameOrigin deployment request := by
  simp only [checkHeaders, bind_eq_ok] at passed
  obtain ⟨_, origin, -⟩ := passed
  unfold checkOrigin at origin
  split at origin
  next => cases origin
  next originHeader present =>
    split at origin
    next expected actual isExpected isActual =>
      split at origin
      next => cases origin
      next same =>
        exact
          ⟨originHeader, expected, actual,
            (Option.filter_eq_some_iff.mp present).1, isExpected, isActual,
            not_not.mp same⟩
    next => cases origin

/-! ## The limiter -/

/-- The limiter refuses exactly when the window is full. -/
theorem check_eq_true_iff {hmac : String → String}
    {earlier : List RateLimit.Request} {subject : Subject} {now : Timestamp}
    {draw : Rat}
    (ordered : NearlyOrdered (earlier ++ [.check subject now draw])) :
    (check hmac subject now (stateAfter hmac earlier).buckets).1 = true ↔
      limitOf subject ≤
        checksIn hmac (bucketOf hmac subject now) earlier := by
  obtain ⟨events, traced⟩ := exists_traced hmac earlier
  have inTolerance :
      ∀ time ∈ checkTimes earlier, time - toleranceMs ≤ now := by
    intro time isTime
    unfold NearlyOrdered at ordered
    rw [checkTimes_concat, List.pairwise_append] at ordered
    exact ordered.2.2 time isTime now (by simp [Request.checkTime?])
  have counted :
      countOf (bucketOf hmac subject now) (stateAfter hmac earlier).buckets =
        checksIn hmac (bucketOf hmac subject now) earlier := by
    rw [traced.buckets,
      countOf_countersAfter (spares_of_nearlyOrdered traced inTolerance),
      traced.counted]
  rw [check_eq, decide_eq_true_iff, countOf_bump_self, counted,
    Nat.lt_succ_iff]

theorem nearlyOrdered_of_append {earlier later : List RateLimit.Request}
    (ordered : NearlyOrdered (earlier ++ later)) : NearlyOrdered earlier := by
  unfold NearlyOrdered checkTimes at ordered ⊢
  rw [List.filterMap_append, List.pairwise_append] at ordered
  exact ordered.1

/-- An entry that is taken out counted once. -/
theorem countP_eraseIdx {α : Type} {items : List α} {index : Nat} {item : α}
    (property : α → Bool) (found : items[index]? = some item) :
    items.countP property =
      (items.eraseIdx index).countP property +
        if property item then 1 else 0 := by
  induction items generalizing index with
  | nil => cases found
  | cons head tail inductionHypothesis =>
      cases index with
      | zero =>
          obtain rfl := Option.some.inj found
          rw [List.eraseIdx_cons_zero, List.countP_cons]
      | succ index =>
          rw [List.eraseIdx_cons_succ, List.countP_cons, List.countP_cons,
            inductionHypothesis found]
          omega

namespace Traffic

variable {traffic : Traffic} {event : Event} {id : BucketId}

/-- The bucket of the check that a request under way has passed last. -/
def passedBucket (deployment : Deployment) : Phase → Option BucketId
  | .allowed _ request time =>
      some
        (bucketOf deployment.hmac (.source (sourceOf deployment request))
          time)
  | .admitted _ _ call time =>
      some
        (bucketOf deployment.hmac (.token (tokenHashOf deployment call))
          time)
  | _ => none

/-- The bucket of a body that was read. -/
def bodyBucket (deployment : Deployment) (time : Timestamp) : BucketId :=
  bucketOf deployment.hmac (.source .untrusted) time

/-- The bucket of a call that was made. -/
def callBucket (deployment : Deployment) (made : ServiceCall × Timestamp) :
    BucketId :=
  bucketOf deployment.hmac (.token (tokenHashOf deployment made.1)) made.2

/-- The checks of a bucket that were passed, by those still under way and
those that went on. -/
def passes (deployment : Deployment) (id : BucketId) (traffic : Traffic) :
    Nat :=
  traffic.underWay.countP
      (fun phase => passedBucket deployment phase = some id) +
    traffic.bodies.countP (fun time => bodyBucket deployment time = id) +
      traffic.calls.countP fun made => callBucket deployment made = id

/-- The limit of a dimension. -/
def limitOfBucket (id : BucketId) : Nat :=
  match id.dimension with
  | .source => sourceLimit
  | .token => tokenLimit

theorem limitOf_eq (hmac : String → String) (subject : Subject)
    (now : Timestamp) :
    limitOf subject = limitOfBucket (bucketOf hmac subject now) := by
  cases subject <;> rfl

theorem passes_advance {index : Nat} {phase : Phase} {next : Option Phase}
    (found : traffic.underWay[index]? = some phase) :
    passes deployment id (traffic.advance index next) +
        (if passedBucket deployment phase = some id then 1 else 0) =
      passes deployment id traffic +
        if next.bind (passedBucket deployment) = some id then 1 else 0 := by
  have taken :=
    countP_eraseIdx
      (fun phase => decide (passedBucket deployment phase = some id)) found
  simp only [passes, advance, List.countP_append]
  simp only [decide_eq_true_eq] at taken
  cases next with
  | none =>
      simp only [Option.toList_none, List.countP_nil, Option.bind_none]
      simp
      omega
  | some after =>
      simp only [Option.toList_some, List.countP_singleton,
        Option.bind_some, decide_eq_true_eq]
      omega

/-- A request that goes on has left its bucket. -/
theorem passes_leave {index : Nat} {phase : Phase} {next : Option Phase}
    {left : BucketId} (found : traffic.underWay[index]? = some phase)
    (inBucket : passedBucket deployment phase = some left)
    (noBucket : next.bind (passedBucket deployment) = none) (id : BucketId) :
    passes deployment id (traffic.advance index next) +
        (if left = id then 1 else 0) =
      passes deployment id traffic := by
  have counts := @passes_advance deployment traffic id index phase next found
  rw [inBucket, noBucket] at counts
  simpa using counts

/-- No bucket was passed more often than it was checked, nor more often than
its limit. -/
structure Bounded (deployment : Deployment) (traffic : Traffic) : Prop where
  counted :
    ∀ id,
      passes deployment id traffic ≤
        checksIn deployment.hmac id traffic.limiter
  limited : ∀ id, passes deployment id traffic ≤ limitOfBucket id

/-- A step that asks the limiter nothing and passes nothing. -/
theorem Bounded.of_same {later : Traffic}
    (bounded : Bounded deployment traffic)
    (samePasses :
      ∀ id, passes deployment id later = passes deployment id traffic)
    (sameChecks :
      ∀ id,
        checksIn deployment.hmac id later.limiter =
          checksIn deployment.hmac id traffic.limiter) :
    Bounded deployment later where
  counted := by
    intro id
    rw [samePasses, sameChecks]
    exact bounded.counted id
  limited := by
    intro id
    rw [samePasses]
    exact bounded.limited id

theorem checksIn_check (id : BucketId) (requests : List RateLimit.Request)
    (subject : Subject) (now : Timestamp) (draw : Rat) :
    checksIn deployment.hmac id (requests ++ [.check subject now draw]) =
      checksIn deployment.hmac id requests +
        if bucketOf deployment.hmac subject now = id then 1 else 0 := by
  rw [checksIn_concat]
  simp only [Request.countsIn, decide_eq_true_eq]

/-- A check that lets a request through leaves the bucket within its
limit. -/
theorem Bounded.limit {index : Nat} {subject : Subject} {now : Timestamp}
    {draw : Rat} {phase next : Phase}
    (bounded : Bounded deployment traffic)
    (found : traffic.underWay[index]? = some phase)
    (unchecked : passedBucket deployment phase = none)
    (checked :
      passedBucket deployment next =
        some (bucketOf deployment.hmac subject now))
    (ordered :
      NearlyOrdered (traffic.limiter ++ [.check subject now draw])) :
    Bounded deployment
      (traffic.limit deployment index subject now draw next) := by
  have decision := @check_eq_true_iff deployment.hmac _ _ _ _ ordered
  have moved :
      ∀ id following,
        passes deployment id (traffic.advance index following) =
          passes deployment id traffic +
            if following.bind (passedBucket deployment) = some id then 1
            else 0 := by
    intro id following
    have counts :=
      @passes_advance deployment traffic id index phase following found
    rw [unchecked] at counts
    simpa using counts
  have samePasses :
      ∀ id,
        passes deployment id
            (traffic.limit deployment index subject now draw next) =
          passes deployment id
            (traffic.advance index
              (if traffic.refuses deployment subject now then none
              else some next)) := fun _ => rfl
  by_cases refused : traffic.refuses deployment subject now = true
  · have same :
        ∀ id,
          passes deployment id
              (traffic.limit deployment index subject now draw next) =
            passes deployment id traffic := by
      intro id
      rw [samePasses, if_pos refused, moved]
      rfl
    constructor
    · intro id
      rw [same]
      apply (bounded.counted id).trans
      rw [Traffic.limit, checksIn_check]
      exact Nat.le_add_right _ _
    · intro id
      rw [same]
      exact bounded.limited id
  · have more :
        ∀ id,
          passes deployment id
              (traffic.limit deployment index subject now draw next) =
            passes deployment id traffic +
              if bucketOf deployment.hmac subject now = id then 1 else 0 := by
      intro id
      rw [samePasses, if_neg refused, moved, Option.bind_some, checked]
      simp only [Option.some.injEq]
    constructor
    · intro id
      rw [more, Traffic.limit, checksIn_check]
      exact Nat.add_le_add_right (bounded.counted id) _
    · intro id
      rw [more]
      by_cases own : bucketOf deployment.hmac subject now = id
      · subst own
        have notFull :
            ¬ limitOf subject ≤
                checksIn deployment.hmac
                  (bucketOf deployment.hmac subject now)
                  traffic.limiter := by
          rw [← decision]
          exact refused
        have counted :=
          bounded.counted (bucketOf deployment.hmac subject now)
        rw [if_pos rfl, ← limitOf_eq]
        omega
      · rw [if_neg own]
        exact bounded.limited id

/-- A step bounds what it passes, if the clock stays nearly in order. -/
theorem Bounded.step (bounded : Bounded deployment traffic)
    (ordered : NearlyOrdered (step deployment traffic event).limiter) :
    Bounded deployment (step deployment traffic event) := by
  cases event with
  | arrived route request =>
      simp only [Traffic.step]
      split
      next =>
        apply bounded.of_same
        · intro id
          simp [passes, passedBucket]
        · intro id
          rfl
      next => exact bounded
  | sourceChecked index now draw =>
      simp only [Traffic.step] at ordered ⊢
      split at ordered
      next route request found =>
        exact bounded.limit found rfl rfl ordered
      next => exact bounded
  | bodyRead index =>
      simp only [Traffic.step]
      split
      next route request time found =>
        have noBucket :
            ((readCall deployment route request).toOption.map
                (Phase.parsed route request)).bind
              (passedBucket deployment) = none := by
          cases (readCall deployment route request).toOption <;> rfl
        apply bounded.of_same
        · intro id
          have left :=
            @passes_leave deployment traffic index _ _
              (bodyBucket deployment time) found rfl noBucket id
          rw [← left]
          simp only [passes, List.countP_append, List.countP_singleton,
            decide_eq_true_eq]
          simp only [advance]
          omega
        · intro id
          rfl
      next => exact bounded
  | tokenChecked index now draw =>
      simp only [Traffic.step] at ordered ⊢
      split at ordered
      next route request call found =>
        exact bounded.limit found rfl rfl ordered
      next => exact bounded
  | called index =>
      simp only [Traffic.step]
      split
      next route request call time found =>
        apply bounded.of_same
        · intro id
          have left :=
            @passes_leave deployment traffic index _ none
              (callBucket deployment (call, time)) found rfl rfl id
          rw [← left]
          simp only [passes, List.countP_append, List.countP_singleton,
            decide_eq_true_eq]
          simp only [advance]
          omega
        · intro id
          rfl
      next => exact bounded
  | cleanup index fails =>
      apply bounded.of_same
      · intro id
        rfl
      · intro id
        simp only [Traffic.step]
        rw [checksIn_concat]
        rfl

/-- What a request under way has passed. -/
def PhaseSound (deployment : Deployment) : Phase → Prop
  | .gated _ request => checkHeaders deployment request = .ok ()
  | .allowed _ request _ => checkHeaders deployment request = .ok ()
  | .parsed route request call =>
      checkHeaders deployment request = .ok () ∧
        readCall deployment route request = .ok call
  | .admitted route request call _ =>
      checkHeaders deployment request = .ok () ∧
        readCall deployment route request = .ok call

/-- The body of the request was read. -/
def isRead : Phase → Bool
  | .parsed _ _ _ => true
  | .admitted _ _ _ _ => true
  | _ => false

structure Sound (deployment : Deployment) (traffic : Traffic) : Prop where
  underWay : ∀ phase ∈ traffic.underWay, PhaseSound deployment phase
  calls :
    ∀ made ∈ traffic.calls,
      ∃ route request,
        checkHeaders deployment request = .ok () ∧
          readCall deployment route request = .ok made.1
  /-- A call and a request whose body was read have a body each. -/
  bodies :
    traffic.underWay.countP isRead + traffic.calls.length ≤
      traffic.bodies.length

theorem sound_quiet : Sound deployment quiet where
  underWay := fun _ member => absurd member List.not_mem_nil
  calls := fun _ member => absurd member List.not_mem_nil
  bodies := by simp [quiet]

theorem mem_underWay_of_advance {index : Nat} {next : Option Phase}
    {phase : Phase} (member : phase ∈ (traffic.advance index next).underWay) :
    phase ∈ traffic.underWay ∨ next = some phase := by
  rcases List.mem_append.mp member with old | new
  · exact Or.inl (List.mem_of_mem_eraseIdx old)
  · exact Or.inr (Option.mem_toList.mp new)

theorem countP_isRead_advance {index : Nat} {phase : Phase}
    {next : Option Phase}
    (found : traffic.underWay[index]? = some phase) :
    (traffic.advance index next).underWay.countP isRead +
        (if isRead phase then 1 else 0) =
      traffic.underWay.countP isRead +
        if next.any isRead then 1 else 0 := by
  have taken := countP_eraseIdx isRead found
  rw [advance, List.countP_append]
  cases next with
  | none =>
      simp only [Option.toList_none, List.countP_nil, Option.any_none]
      simp
      omega
  | some following =>
      simp only [Option.toList_some, List.countP_singleton, Option.any_some]
      omega

/-- A request that goes on to a phase with as much read. -/
theorem Sound.advance {index : Nat} {phase : Phase} {next : Option Phase}
    (sound : Sound deployment traffic)
    (found : traffic.underWay[index]? = some phase)
    (nextSound : ∀ following ∈ next, PhaseSound deployment following)
    (noMore : next.any isRead → isRead phase) :
    Sound deployment (traffic.advance index next) where
  underWay := by
    intro other member
    rcases mem_underWay_of_advance member with old | new
    · exact sound.underWay other old
    · exact nextSound other new
  calls := sound.calls
  bodies := by
    have counts := @countP_isRead_advance traffic index phase next found
    have bounded := sound.bodies
    by_cases read : next.any isRead = true
    · rw [if_pos read, if_pos (noMore read)] at counts
      change _ + traffic.calls.length ≤ traffic.bodies.length
      omega
    · rw [if_neg read] at counts
      change _ + traffic.calls.length ≤ traffic.bodies.length
      omega

theorem Sound.limit {index : Nat} {subject : Subject} {now : Timestamp}
    {draw : Rat} {phase next : Phase} (sound : Sound deployment traffic)
    (found : traffic.underWay[index]? = some phase)
    (nextSound : PhaseSound deployment next)
    (noMore : isRead next → isRead phase) :
    Sound deployment
      (traffic.limit deployment index subject now draw next) := by
  have advanced :
      Sound deployment
        (traffic.advance index
          (if traffic.refuses deployment subject now then none
          else some next)) := by
    apply sound.advance found
    · intro following isNext
      split at isNext
      · cases isNext
      · obtain rfl := Option.some.inj isNext
        exact nextSound
    · intro read
      split at read
      · cases read
      · exact noMore read
  exact { advanced with }

theorem Sound.step (sound : Sound deployment traffic) :
    Sound deployment (step deployment traffic event) := by
  cases event with
  | arrived route request =>
      simp only [Traffic.step]
      split
      next passed =>
        constructor
        · intro phase member
          rcases List.mem_append.mp member with old | new
          · exact sound.underWay phase old
          · rw [List.mem_singleton.mp new]
            exact passed
        · exact sound.calls
        · simpa [isRead] using sound.bodies
      next => exact sound
  | sourceChecked index now draw =>
      simp only [Traffic.step]
      split
      next route request found =>
        have passed := sound.underWay _ (List.mem_of_getElem? found)
        exact sound.limit found passed fun read => by cases read
      next => exact sound
  | bodyRead index =>
      simp only [Traffic.step]
      split
      next route request time found =>
        have passed := sound.underWay _ (List.mem_of_getElem? found)
        have counts :=
          @countP_isRead_advance traffic index _
            ((readCall deployment route request).toOption.map
              (.parsed route request)) found
        have atMostOne :
            (if ((readCall deployment route request).toOption.map
                (Phase.parsed route request)).any isRead then 1 else 0) ≤
              1 := by
          split <;> omega
        have bounded := sound.bodies
        constructor
        · intro phase member
          rcases mem_underWay_of_advance member with old | new
          · exact sound.underWay phase old
          · obtain ⟨call, isCall, rfl⟩ := Option.map_eq_some_iff.mp new
            refine ⟨passed, ?_⟩
            cases outcome : readCall deployment route request with
            | error refusal =>
                rw [outcome] at isCall
                cases isCall
            | ok value =>
                rw [outcome] at isCall
                obtain rfl := Option.some.inj isCall
                rfl
        · exact sound.calls
        · rw [List.length_append, List.length_singleton]
          change
            (traffic.advance index
                ((readCall deployment route request).toOption.map
                  (.parsed route request))).underWay.countP isRead +
                traffic.calls.length ≤
              traffic.bodies.length + 1
          simp only [isRead, Bool.false_eq_true, if_false] at counts
          omega
      next => exact sound
  | tokenChecked index now draw =>
      simp only [Traffic.step]
      split
      next route request call found =>
        have passed := sound.underWay _ (List.mem_of_getElem? found)
        exact sound.limit found passed fun _ => rfl
      next => exact sound
  | called index =>
      simp only [Traffic.step]
      split
      next route request call time found =>
        obtain ⟨passed, isCall⟩ :=
          sound.underWay _ (List.mem_of_getElem? found)
        have counts :=
          @countP_isRead_advance traffic index _ none found
        have bounded := sound.bodies
        constructor
        · intro phase member
          rcases mem_underWay_of_advance member with old | new
          · exact sound.underWay phase old
          · cases new
        · intro made member
          rcases List.mem_append.mp member with old | new
          · exact sound.calls made old
          · rw [List.mem_singleton.mp new]
            exact ⟨route, request, passed, isCall⟩
        · rw [List.length_append, List.length_singleton]
          change
            (traffic.advance index none).underWay.countP isRead +
                (traffic.calls.length + 1) ≤
              traffic.bodies.length
          simp only [isRead, if_true, Option.any_none, Bool.false_eq_true,
            if_false] at counts
          omega
      next => exact sound
  | cleanup index fails => exact { sound with }

/-! ## Runs -/

theorem after_concat (events : List Event) (event : Event) :
    after deployment (events ++ [event]) =
      step deployment (after deployment events) event := by
  unfold after
  rw [run_append]
  rfl

/-- A step only adds to what the limiter was asked. -/
theorem limiter_step (traffic : Traffic) (event : Event) :
    ∃ more,
      (step deployment traffic event).limiter = traffic.limiter ++ more := by
  cases event with
  | arrived route request =>
      simp only [Traffic.step]
      split <;> exact ⟨[], (List.append_nil _).symm⟩
  | sourceChecked index now draw =>
      simp only [Traffic.step]
      split
      next => exact ⟨_, rfl⟩
      next => exact ⟨[], (List.append_nil _).symm⟩
  | bodyRead index =>
      simp only [Traffic.step]
      split <;> exact ⟨[], (List.append_nil _).symm⟩
  | tokenChecked index now draw =>
      simp only [Traffic.step]
      split
      next => exact ⟨_, rfl⟩
      next => exact ⟨[], (List.append_nil _).symm⟩
  | called index =>
      simp only [Traffic.step]
      split <;> exact ⟨[], (List.append_nil _).symm⟩
  | cleanup index fails => exact ⟨_, rfl⟩

theorem bounded_after {events : List Event}
    (ordered : NearlyOrdered (after deployment events).limiter) :
    Bounded deployment (after deployment events) := by
  induction events using List.reverseRecOn with
  | nil => exact ⟨fun _ => Nat.zero_le _, fun _ => Nat.zero_le _⟩
  | append_singleton events event inductionHypothesis =>
      rw [after_concat] at ordered ⊢
      obtain ⟨more, isMore⟩ :=
        @limiter_step deployment (after deployment events) event
      have earlier := ordered
      rw [isMore] at earlier
      exact (inductionHypothesis (nearlyOrdered_of_append earlier)).step ordered

theorem sound_after (events : List Event) :
    Sound deployment (after deployment events) := by
  induction events using List.reverseRecOn with
  | nil => exact sound_quiet
  | append_singleton events event inductionHypothesis =>
      rw [after_concat]
      exact inductionHypothesis.step

/-- What the endpoint lets through. -/
structure Guarded (deployment : Deployment) (traffic : Traffic) :
    Prop where
  /-- Of the bodies whose source was checked in one window no more are read
  than one source may send, whoever sends them. -/
  bodies :
    ∀ window,
      (traffic.bodies.countP fun time =>
          floorToWindow time sourceWindowMs = window) ≤
        sourceLimit
  /-- A token that was checked in one window reaches the service no more often
  than its limit. -/
  calls :
    ∀ tokenHash window,
      (traffic.calls.countP fun made =>
          tokenHashOf deployment made.1 = tokenHash ∧
            floorToWindow made.2 tokenWindowMs = window) ≤
        tokenLimit
  /-- There is a body that was read for every call. -/
  read : traffic.calls.length ≤ traffic.bodies.length
  /-- A call is what the schema makes of the JSON text that the whole body is
  decoded to, of limited length, of a request of the application's own origin,
  with a token and a password that can be. -/
  genuine :
    ∀ made ∈ traffic.calls,
      WellFormed made.1 ∧
        ∃ route request json,
          readCall deployment route request = .ok made.1 ∧
            deployment.jsonParse
                (deployment.decodeUtf8 (bodyBytes request)) =
              some json ∧
            schemaOf route json = .ok made.1 ∧
            SameOrigin deployment request ∧
              (bodyBytes request).length ≤ maxBodyBytes

theorem localPort_bound : ∀ value ∈ some 3000, value ≤ 65535 := by
  decide

theorem localPort_other :
    some 3000 = none ∨ some 3000 ≠ Exports.Origin.standardPort "http" := by
  decide

def localUrl : ParsedUrl where
  scheme := "http"
  hostname := "localhost"
  port := some 3000
  portBound := localPort_bound
  notStandard := localPort_other

def presentedToken : String := "AbCdEfGhIjKlMnOpQrStUv-_"

def continueBody : String :=
  "\x7b\"token\":\"" ++ presentedToken ++ "\"\x7d"

def localDeployment : Deployment where
  betterAuthUrl := "http://localhost:3000"
  parseUrl text := if text = "http://localhost:3000" then some localUrl
    else none
  decodeUtf8 bytes :=
    String.ofList (bytes.map fun byte => Char.ofNat byte.toNat)
  jsonParse text :=
    if text = continueBody then
      some (.object [("token", .string presentedToken)])
    else
      none
  toLowerCase text := text
  hmac identifier := "hmac:" ++ identifier
  hashInvitationToken token := "sha256:" ++ token

/-- The body comes in two chunks with an empty read between. -/
def continueRequest : HttpRequest where
  headers name :=
    if name = "origin" then some "http://localhost:3000"
    else if name = "content-type" then some "Application/JSON; charset=utf-8"
    else none
  body :=
    let bytes := continueBody.toList.map fun letter =>
      UInt8.ofNat letter.toNat
    some [.chunk (bytes.take 11), .nothing, .chunk (bytes.drop 11)]

def oneCall : List Event :=
  [.arrived .continueRoute continueRequest, .sourceChecked 0 1000 (1 / 2),
    .bodyRead 0, .cleanup 0 false, .tokenChecked 0 1500 (1 / 2), .called 0]

end Traffic

end Heritage.Activation.Endpoint
