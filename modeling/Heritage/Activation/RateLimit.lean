import Heritage.Shared.Identity
import Heritage.Store.Counters

/-!
# Activation rate limits

`rate-limit.ts` of activation.  A bucket counts the requests of one key in one
window; the requests of both dimensions count in one table, and a small part
of them deletes the buckets that are more than a day old.
-/

namespace Heritage.Activation.RateLimit

open Heritage.Store

inductive RateLimitDimension where
  | source
  | token
  deriving DecidableEq, Repr

/-- The compound unique index of the table. -/
structure BucketId where
  dimension : RateLimitDimension
  bucketKey : String
  windowStart : Timestamp
  deriving DecidableEq, Repr

/-- A row of `rate_limit_bucket`. -/
abbrev RateLimitBucket := Counter BucketId

inductive ResolvedSource where
  | trusted (identifier : String)
  | untrusted
  deriving DecidableEq, Repr

def sourceLimit : Nat := 30

def sourceWindowMs : Int := 15 * 60 * 1000

def tokenLimit : Nat := 10

def tokenWindowMs : Int := 60 * 60 * 1000

def unknownSourceBucketKey : String := "unknown-source"

def retentionMs : Int := 24 * 60 * 60 * 1000

def floorToWindow (now : Timestamp) (windowMs : Int) : Timestamp :=
  now / windowMs * windowMs

/-- `draw` is what `Math.random` returns. -/
def shouldRunCleanup (draw : Rat) : Bool :=
  draw < 1 / 100

def cleanupExpiredBuckets (now : Timestamp) (buckets : List RateLimitBucket) :
    List RateLimitBucket :=
  dropStale (fun id => id.windowStart < now - retentionMs) buckets

/-- The atomic upsert and its decision: `true` is a refusal. -/
def incrementAndCheck (dimension : RateLimitDimension) (bucketKey : String)
    (windowMs : Int) (limit : Nat) (now : Timestamp)
    (buckets : List RateLimitBucket) : Bool × List RateLimitBucket :=
  let id : BucketId := ⟨dimension, bucketKey, floorToWindow now windowMs⟩
  let updated := bump id buckets
  (limit < countOf id updated, updated)

/-- `hmac` is the keyed digest of an identifier. -/
def sourceBucketKey (hmac : String → String) : ResolvedSource → String
  | .trusted identifier => hmac identifier
  | .untrusted => unknownSourceBucketKey

def checkSourceRateLimit (hmac : String → String) (source : ResolvedSource)
    (now : Timestamp) (buckets : List RateLimitBucket) :
    Bool × List RateLimitBucket :=
  incrementAndCheck .source (sourceBucketKey hmac source) sourceWindowMs
    sourceLimit now buckets

def checkTokenRateLimit (tokenHash : String) (now : Timestamp)
    (buckets : List RateLimitBucket) : Bool × List RateLimitBucket :=
  incrementAndCheck .token tokenHash tokenWindowMs tokenLimit now buckets

/-- What a check is about. -/
inductive Subject where
  | source (source : ResolvedSource)
  | token (tokenHash : String)
  deriving DecidableEq, Repr

def check (hmac : String → String) (subject : Subject) (now : Timestamp)
    (buckets : List RateLimitBucket) : Bool × List RateLimitBucket :=
  match subject with
  | .source source => checkSourceRateLimit hmac source now buckets
  | .token tokenHash => checkTokenRateLimit tokenHash now buckets

/-- A check makes its decision first.  The cleanup it may start runs later,
after any other requests, and may fail. -/
inductive Request where
  | check (subject : Subject) (now : Timestamp) (draw : Rat)
  | cleanup (index : Nat) (fails : Bool)

structure State where
  buckets : List RateLimitBucket
  /-- The times of the checks whose cleanup has started. -/
  cleanups : List Timestamp

def State.initial : State where
  buckets := []
  cleanups := []

def step (hmac : String → String) (state : State) : Request → State
  | .check subject now draw =>
      { buckets := (check hmac subject now state.buckets).2
        cleanups :=
          if shouldRunCleanup draw then state.cleanups ++ [now]
          else state.cleanups }
  | .cleanup index fails =>
      match state.cleanups[index]? with
      | none => state
      | some now =>
          if fails then state
          else
            { state with buckets := cleanupExpiredBuckets now state.buckets }

def stateAfter (hmac : String → String) (requests : List Request) : State :=
  requests.foldl (step hmac) State.initial

end Heritage.Activation.RateLimit
