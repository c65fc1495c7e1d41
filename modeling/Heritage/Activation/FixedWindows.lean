import Heritage.Activation.RateLimit

/-!
# Fixed windows are exact

A cleanup deletes the buckets whose window started more than a day before the
check that started it, and no later check counts in such a window.  So a
check finds in its bucket all the checks before it, and is refused exactly
when there were as many as the limit.
-/

namespace Heritage.Activation.RateLimit

open Heritage.Store

variable {hmac : String → String}

def windowMsOf : Subject → Int
  | .source _ => sourceWindowMs
  | .token _ => tokenWindowMs

def limitOf : Subject → Nat
  | .source _ => sourceLimit
  | .token _ => tokenLimit

def bucketOf (hmac : String → String) (subject : Subject)
    (now : Timestamp) : BucketId :=
  match subject with
  | .source source =>
      ⟨.source, sourceBucketKey hmac source,
        floorToWindow now sourceWindowMs⟩
  | .token tokenHash => ⟨.token, tokenHash, floorToWindow now tokenWindowMs⟩

/-- Distinct identifiers have distinct digests, and none is the key that the
unresolved sources share. -/
structure DistinctKeys (hmac : String → String) : Prop where
  injective : Function.Injective hmac
  notShared : ∀ identifier, hmac identifier ≠ unknownSourceBucketKey

theorem sourceBucketKey_injective (distinct : DistinctKeys hmac) :
    Function.Injective (sourceBucketKey hmac) := by
  intro first second sameKey
  cases first with
  | trusted identifier =>
      cases second with
      | trusted other =>
          rw [distinct.injective sameKey]
      | untrusted =>
          exact absurd sameKey (distinct.notShared identifier)
  | untrusted =>
      cases second with
      | trusted other =>
          exact absurd sameKey.symm (distinct.notShared other)
      | untrusted =>
          rfl

/-- Two checks count in one bucket exactly when they have one subject and one
window. -/
theorem bucketOf_eq_iff (distinct : DistinctKeys hmac)
    {subject other : Subject} {now time : Timestamp} :
    bucketOf hmac subject now = bucketOf hmac other time ↔
      subject = other ∧
        floorToWindow now (windowMsOf subject) =
          floorToWindow time (windowMsOf other) := by
  cases subject with
  | source source =>
      cases other with
      | source otherSource =>
          simp only [bucketOf, BucketId.mk.injEq, true_and,
            Subject.source.injEq, windowMsOf,
            (sourceBucketKey_injective distinct).eq_iff]
      | token tokenHash =>
          simp [bucketOf]
  | token tokenHash =>
      cases other with
      | source otherSource =>
          simp [bucketOf]
      | token otherHash =>
          simp only [bucketOf, BucketId.mk.injEq, true_and,
            Subject.token.injEq, windowMsOf]

theorem check_eq (subject : Subject) (now : Timestamp)
    (buckets : List RateLimitBucket) :
    check hmac subject now buckets =
      (decide
          (limitOf subject <
            countOf (bucketOf hmac subject now)
              (bump (bucketOf hmac subject now) buckets)),
        bump (bucketOf hmac subject now) buckets) := by
  cases subject <;> rfl

theorem sub_lt_floorToWindow {now windowMs : Int} (positive : 0 < windowMs) :
    now - windowMs < floorToWindow now windowMs := by
  have parts := Int.mul_ediv_add_emod now windowMs
  have below := Int.emod_lt_of_pos now positive
  have commuted : now / windowMs * windowMs = windowMs * (now / windowMs) :=
    Int.mul_comm _ _
  change now - windowMs < now / windowMs * windowMs
  omega

/-- A window is at most an hour long. -/
theorem sub_lt_windowStart (subject : Subject) (now : Timestamp) :
    now - tokenWindowMs < (bucketOf hmac subject now).windowStart := by
  cases subject with
  | source source =>
      have shorter : now - tokenWindowMs ≤ now - sourceWindowMs :=
        Int.sub_le_sub_left (by decide) now
      exact lt_of_le_of_lt shorter (sub_lt_floorToWindow (by decide))
  | token tokenHash =>
      exact sub_lt_floorToWindow (by decide)

def Request.checkTime? : Request → Option Timestamp
  | .check _ now _ => some now
  | .cleanup _ _ => none

/-- The times of the checks, in the order of the run. -/
def checkTimes (requests : List Request) : List Timestamp :=
  requests.filterMap Request.checkTime?

def Request.countsIn (hmac : String → String) (id : BucketId) :
    Request → Bool
  | .check subject now _ => bucketOf hmac subject now = id
  | .cleanup _ _ => false

/-- The checks of a run that count in one bucket, refused ones included. -/
def checksIn (hmac : String → String) (id : BucketId)
    (requests : List Request) : Nat :=
  requests.countP (Request.countsIn hmac id)

/-- The buckets a cleanup at this time deletes. -/
def expiredAt (time : Timestamp) (id : BucketId) : Bool :=
  id.windowStart < time - retentionMs

/-- The table after a run is that of its counter events: the bumps are the
checks, and the drops are cleanups that earlier checks started. -/
structure Traced (hmac : String → String) (requests : List Request)
    (events : List (CounterEvent BucketId)) : Prop where
  buckets : (stateAfter hmac requests).buckets = countersAfter events
  counted : ∀ id, bumps id events = checksIn hmac id requests
  dropped :
    ∀ stale, CounterEvent.drop stale ∈ events →
      ∃ time ∈ checkTimes requests, stale = expiredAt time
  started :
    ∀ time ∈ (stateAfter hmac requests).cleanups,
      time ∈ checkTimes requests

theorem stateAfter_concat (requests : List Request) (request : Request) :
    stateAfter hmac (requests ++ [request]) =
      step hmac (stateAfter hmac requests) request := by
  simp [stateAfter, List.foldl_append]

theorem checksIn_concat (id : BucketId) (requests : List Request)
    (request : Request) :
    checksIn hmac id (requests ++ [request]) =
      checksIn hmac id requests +
        if request.countsIn hmac id then 1 else 0 := by
  simp [checksIn, List.countP_append, List.countP_singleton]

theorem checkTimes_concat (requests : List Request) (request : Request) :
    checkTimes (requests ++ [request]) =
      checkTimes requests ++ request.checkTime?.toList := by
  cases request <;> simp [checkTimes, Request.checkTime?]

section Steps

variable {requests : List Request} {events : List (CounterEvent BucketId)}

theorem traced_check (traced : Traced hmac requests events)
    (subject : Subject) (now : Timestamp) (draw : Rat) :
    Traced hmac (requests ++ [.check subject now draw])
      (events ++ [.bump (bucketOf hmac subject now)]) where
  buckets := by
    rw [stateAfter_concat, countersAfter_concat, ← traced.buckets]
    exact congrArg Prod.snd (check_eq subject now _)
  counted := by
    intro id
    rw [bumps_concat, checksIn_concat, traced.counted id]
    rfl
  dropped := by
    intro stale isEvent
    rcases List.mem_append.mp isEvent with earlier | isBump
    · obtain ⟨time, isTime, isCleanup⟩ := traced.dropped stale earlier
      rw [checkTimes_concat]
      exact ⟨time, List.mem_append_left _ isTime, isCleanup⟩
    · simp at isBump
  started := by
    intro time isStarted
    rw [stateAfter_concat] at isStarted
    rw [checkTimes_concat, List.mem_append]
    simp only [step] at isStarted
    split at isStarted
    · rcases List.mem_append.mp isStarted with earlier | isNow
      · exact Or.inl (traced.started time earlier)
      · exact Or.inr isNow
    · exact Or.inl (traced.started time isStarted)

/-- A cleanup that finds nothing to do, or fails, leaves the table. -/
theorem traced_unchanged {index : Nat} {fails : Bool}
    (traced : Traced hmac requests events)
    (unchanged :
      step hmac (stateAfter hmac requests) (.cleanup index fails) =
        stateAfter hmac requests) :
    Traced hmac (requests ++ [.cleanup index fails]) events where
  buckets := by
    rw [stateAfter_concat, unchanged]
    exact traced.buckets
  counted := by
    intro id
    rw [checksIn_concat]
    exact traced.counted id
  dropped := by
    intro stale isEvent
    rw [checkTimes_concat]
    simpa [Request.checkTime?] using traced.dropped stale isEvent
  started := by
    intro time isStarted
    rw [stateAfter_concat, unchanged] at isStarted
    rw [checkTimes_concat]
    exact List.mem_append_left _ (traced.started time isStarted)

theorem traced_cleanup {index : Nat} {time : Timestamp}
    (traced : Traced hmac requests events)
    (atIndex : (stateAfter hmac requests).cleanups[index]? = some time) :
    Traced hmac (requests ++ [.cleanup index false])
      (events ++ [.drop (expiredAt time)]) where
  buckets := by
    rw [stateAfter_concat, countersAfter_concat, ← traced.buckets]
    simp only [step, atIndex]
    rfl
  counted := by
    intro id
    rw [bumps_concat, checksIn_concat, traced.counted id]
    rfl
  dropped := by
    intro stale isEvent
    rw [checkTimes_concat]
    rcases List.mem_append.mp isEvent with earlier | isDrop
    · obtain ⟨other, isTime, isCleanup⟩ := traced.dropped stale earlier
      exact ⟨other, List.mem_append_left _ isTime, isCleanup⟩
    · simp only [List.mem_singleton, CounterEvent.drop.injEq] at isDrop
      have isTime := traced.started time (List.mem_of_getElem? atIndex)
      exact ⟨time, List.mem_append_left _ isTime, isDrop⟩
  started := by
    intro other isStarted
    rw [stateAfter_concat] at isStarted
    simp only [step, atIndex] at isStarted
    rw [checkTimes_concat]
    exact List.mem_append_left _ (traced.started other isStarted)

end Steps

theorem exists_traced (hmac : String → String) (requests : List Request) :
    ∃ events, Traced hmac requests events := by
  induction requests using List.reverseRecOn with
  | nil =>
      refine ⟨[], rfl, fun _ => rfl, ?_, ?_⟩
      · intro stale isEvent
        cases isEvent
      · intro time isStarted
        cases isStarted
  | append_singleton requests request inductionHypothesis =>
      obtain ⟨events, traced⟩ := inductionHypothesis
      cases request with
      | check subject now draw =>
          exact ⟨_, traced_check traced subject now draw⟩
      | cleanup index fails =>
          cases atIndex : (stateAfter hmac requests).cleanups[index]? with
          | none =>
              exact ⟨_, traced_unchanged traced (by simp [step, atIndex])⟩
          | some time =>
              cases fails with
              | true =>
                  exact
                    ⟨_, traced_unchanged traced (by simp [step, atIndex])⟩
              | false =>
                  exact ⟨_, traced_cleanup traced atIndex⟩

/-! ## Exactness -/

def toleranceMs : Int := 22 * 60 * 60 * 1000

/-- No check's time is more than the tolerance before that of an earlier
one. -/
def NearlyOrdered (requests : List Request) : Prop :=
  (checkTimes requests).Pairwise fun earlier later =>
    earlier - toleranceMs ≤ later

/-- An hour and the tolerance are less than the retention. -/
theorem not_expired {time now start : Int}
    (inTolerance : time - toleranceMs ≤ now)
    (recent : now - tokenWindowMs < start) : ¬ start < time - retentionMs := by
  unfold toleranceMs at inTolerance
  unfold tokenWindowMs at recent
  unfold retentionMs
  omega

/-- No cleanup before a check has deleted the bucket of the check. -/
theorem spares_of_nearlyOrdered {earlier : List Request}
    {events : List (CounterEvent BucketId)} {subject : Subject}
    {now : Timestamp} (traced : Traced hmac earlier events)
    (ordered : ∀ time ∈ checkTimes earlier, time - toleranceMs ≤ now) :
    Spares (bucketOf hmac subject now) events := by
  intro stale isDrop isStale
  obtain ⟨time, isTime, rfl⟩ := traced.dropped stale isDrop
  have expired :
      (bucketOf hmac subject now).windowStart < time - retentionMs :=
    of_decide_eq_true isStale
  exact
    not_expired (ordered time isTime) (sub_lt_windowStart subject now) expired

/-- The checks of one key in one window are allowed up to the limit and
refused from there on, whatever the other checks and the cleanups do. -/
theorem fixed_windows_exact (distinct : DistinctKeys hmac)
    {requests : List Request} (ordered : NearlyOrdered requests) :
    (∀ earlier subject now draw later,
      requests = earlier ++ .check subject now draw :: later →
        ((check hmac subject now (stateAfter hmac earlier).buckets).1 =
            true ↔
          limitOf subject ≤
            checksIn hmac (bucketOf hmac subject now) earlier)) ∧
      ∀ subject now other time,
        bucketOf hmac subject now = bucketOf hmac other time ↔
          subject = other ∧
            floorToWindow now (windowMsOf subject) =
              floorToWindow time (windowMsOf other) := by
  refine ⟨?_, fun _ _ _ _ => bucketOf_eq_iff distinct⟩
  rintro earlier subject now draw later rfl
  obtain ⟨events, traced⟩ := exists_traced hmac earlier
  have inTolerance :
      ∀ time ∈ checkTimes earlier, time - toleranceMs ≤ now := by
    intro time isTime
    unfold NearlyOrdered checkTimes at ordered
    rw [List.filterMap_append, List.pairwise_append] at ordered
    exact
      ordered.2.2 time isTime now
        (List.mem_filterMap.mpr ⟨_, List.mem_cons_self, rfl⟩)
  have exact_count :
      countOf (bucketOf hmac subject now)
          (stateAfter hmac earlier).buckets =
        checksIn hmac (bucketOf hmac subject now) earlier := by
    rw [traced.buckets,
      countOf_countersAfter (spares_of_nearlyOrdered traced inTolerance),
      traced.counted]
  rw [check_eq, decide_eq_true_iff, countOf_bump_self, exact_count,
    Nat.lt_succ_iff]

/-- Ten checks of one token with a cleanup after the first. -/
def tenChecks : List Request :=
  .check (.token "5f3a") 0 0 :: .cleanup 0 false ::
    List.replicate 9 (.check (.token "5f3a") 1000 (1 / 2))

theorem digests_distinct : DistinctKeys (fun identifier => "hmac:" ++ identifier) where
  injective := by
    intro first second sameKey
    have sameLetters := congrArg String.toList sameKey
    simp only [String.toList_append, List.append_cancel_left_eq] at sameLetters
    exact String.toList_inj.mp sameLetters
  notShared := by
    intro identifier sameKey
    have sameLetters := congrArg (fun text => text.toList.head?) sameKey
    simp [unknownSourceBucketKey, String.toList_append] at sameLetters

theorem eleventh_check_refused :
    (check (fun identifier => "hmac:" ++ identifier) (.token "5f3a") 2000
          (stateAfter (fun identifier => "hmac:" ++ identifier)
            tenChecks).buckets).1 =
        true ↔
      limitOf (.token "5f3a") ≤
        checksIn (fun identifier => "hmac:" ++ identifier)
          (bucketOf (fun identifier => "hmac:" ++ identifier)
            (.token "5f3a") 2000) tenChecks :=
  (@fixed_windows_exact (fun identifier => "hmac:" ++ identifier)
    digests_distinct
    (tenChecks ++ [.check (.token "5f3a") 2000 (1 / 2)])
    (by unfold NearlyOrdered; decide)).1 tenChecks (.token "5f3a") 2000
    (1 / 2) [] rfl

end Heritage.Activation.RateLimit
