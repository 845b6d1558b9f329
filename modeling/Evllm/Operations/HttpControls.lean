/-
# The rate limiter

`rateLimit` of `src/operations/http-controls.ts`: a bucket for each key counts
the requests until its `resetAt`. A bucket that has expired is replaced when the
next request for its key comes; every `cleanupEvery` requests, and when a new
key finds no room, all that have expired are removed. A new key that still finds
none is refused.

Key definitions: `RateLimitOptions`, `Bucket`, `RateLimiter`, `handle`, `served`.
-/
import Evllm.Lib.JsMap
import Evllm.Lib.Run
import Mathlib.Data.Rat.Floor

namespace Evllm
namespace Operations

open Lib

/-- The options, which `positiveInteger` has checked. -/
structure RateLimitOptions where
  limit : ℕ
  windowMs : ℕ
  maxBuckets : ℕ
  cleanupEvery : ℕ
  limit_pos : 0 < limit
  windowMs_pos : 0 < windowMs
  maxBuckets_pos : 0 < maxBuckets
  cleanupEvery_pos : 0 < cleanupEvery

structure Bucket where
  count : ℕ
  resetAt : ℚ
  deriving DecidableEq, Repr

/-- What the handler reads of a request and its response, and of the clock. -/
structure Request where
  ip : Option String
  path : String
  correlationId : Option String
  time : ℚ
  deriving DecidableEq, Repr

def Request.key (request : Request) : String :=
  request.ip.getD "undefined" ++ ":" ++ if request.path.startsWith "/api/v1/auth" then "auth" else "api"

/-- The headers `ratelimit-limit`, `ratelimit-remaining` and `retry-after`. -/
structure Headers where
  limit : ℕ
  remaining : ℕ
  retryAfter : Option ℤ
  deriving DecidableEq, Repr

/-- A request is passed on, or answered with status 429 and its correlation id. -/
inductive Reply where
  | passed (headers : Headers)
  | overLimit (headers : Headers) (correlationId : String)
  | overCapacity (headers : Headers) (correlationId : String)
  deriving DecidableEq, Repr

def Reply.isPassed : Reply → Bool
  | .passed _ => true
  | _ => false

def Reply.isOverCapacity : Reply → Bool
  | .overCapacity _ _ => true
  | _ => false

structure RateLimiter where
  buckets : JsMap String Bucket
  requestCount : ℕ

def newLimiter : RateLimiter := ⟨.empty, 0⟩

def removeExpiredBuckets (buckets : JsMap String Bucket) (currentTime : ℚ) : JsMap String Bucket :=
  buckets.filter fun _ bucket => currentTime < bucket.resetAt

variable (O : RateLimitOptions) (S : RateLimiter) (request : Request)

/-- The headers of `rejectRateLimited`. -/
def rejectedHeaders (resetAt currentTime : ℚ) : Headers :=
  ⟨O.limit, 0, some (max 1 ⌈(resetAt - currentTime) / 1000⌉)⟩

/-- When a request that finds no room may come again. The capacity is positive,
so there is a bucket. -/
def capacityReset (buckets : JsMap String Bucket) (time : ℚ) : ℚ :=
  match (buckets.values.map (·.resetAt)).min? with
  | some earliestReset => max (time + 1000) earliestReset
  | none => time + 1000

/-- The bucket that counts a request. -/
def bucketFor (time : ℚ) : Option Bucket → Bucket
  | none => ⟨0, time + O.windowMs⟩
  | some current => if current.resetAt ≤ time then ⟨0, time + O.windowMs⟩ else current

/-- The request is counted. -/
def count (buckets : JsMap String Bucket) (requestCount : ℕ) (current : Option Bucket) : Reply × RateLimiter :=
  let found := bucketFor O request.time current
  let bucket : Bucket := { found with count := found.count + 1 }
  (if O.limit < bucket.count then
      .overLimit (rejectedHeaders O bucket.resetAt request.time) (request.correlationId.getD "")
    else .passed ⟨O.limit, O.limit - bucket.count, none⟩,
    ⟨buckets.set request.key bucket, requestCount⟩)

/-- The handler that `rateLimit` returns. -/
def handle : Reply × RateLimiter :=
  let requestCount := S.requestCount + 1
  let buckets := if requestCount % O.cleanupEvery = 0 then removeExpiredBuckets S.buckets request.time else S.buckets
  let current := buckets.get request.key
  if current = none ∧ O.maxBuckets ≤ buckets.size then
    let buckets := removeExpiredBuckets buckets request.time
    if O.maxBuckets ≤ buckets.size then
      (.overCapacity (rejectedHeaders O (capacityReset buckets request.time) request.time)
        (request.correlationId.getD ""), ⟨buckets, requestCount⟩)
    else count O request buckets requestCount current
  else count O request buckets requestCount current

/-- The limiter after some requests. -/
def limiterAfter (requests : List Request) : RateLimiter :=
  run (fun S request => (handle O S request).2) S requests

/-- The requests with their replies. -/
def served (O : RateLimitOptions) : RateLimiter → List Request → List (Request × Reply)
  | _, [] => []
  | S, request :: requests => (request, (handle O S request).1) :: served O (handle O S request).2 requests

end Operations
end Evllm
