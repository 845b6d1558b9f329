/-
# What the rate limiter guarantees

With a clock that does not go back, only buckets that have expired are removed
or replaced. So a bucket counts all requests for its key from its creation to
its `resetAt`, and no more than `limit` of them are passed on; an interval as
long as the window meets at most two buckets of a key.

Key definitions: `Creates`, `passedCount`, `RateLimited`.
Key theorems: `handle_live`, `passedCount_live`, `passedCount_interval`,
`requests_rateLimited`.
-/
import Evllm.Operations.HttpControls
import Mathlib.Tactic.Linarith

namespace Evllm
namespace Operations

open Lib

variable {O : RateLimitOptions} {S : RateLimiter} {request : Request} {requests : List Request} {key : String}
  {bucket : Bucket}

/-! ### One request -/

theorem get_removeExpiredBuckets {buckets : JsMap String Bucket} {time : ℚ} :
    (removeExpiredBuckets buckets time).get key = some bucket ↔ buckets.get key = some bucket ∧ time < bucket.resetAt := by
  rw [removeExpiredBuckets, JsMap.get_filter, decide_eq_true_eq]

/-- The buckets that the request finds. -/
def found (O : RateLimitOptions) (S : RateLimiter) (request : Request) : JsMap String Bucket :=
  if (S.requestCount + 1) % O.cleanupEvery = 0 then removeExpiredBuckets S.buckets request.time else S.buckets

theorem found_get (h : (found O S request).get key = some bucket) : S.buckets.get key = some bucket := by
  unfold found at h
  split_ifs at h
  · exact (get_removeExpiredBuckets.mp h).1
  · exact h

theorem found_live (hget : S.buckets.get key = some bucket) (hlive : request.time < bucket.resetAt) :
    (found O S request).get key = some bucket := by
  unfold found
  split_ifs
  · exact get_removeExpiredBuckets.mpr ⟨hget, hlive⟩
  · exact hget

theorem found_size : (found O S request).size ≤ S.buckets.size := by
  unfold found
  split_ifs
  · exact JsMap.size_filter_le _ _
  · exact le_rfl

/-- What the handler does: it refuses a key without a bucket where no room is
left by those that have not expired, and counts the request otherwise. -/
theorem handle_cases (O : RateLimitOptions) (S : RateLimiter) (request : Request) :
    ((handle O S request).1.isOverCapacity ∧ (found O S request).get request.key = none ∧
        (handle O S request).2.buckets = removeExpiredBuckets (found O S request) request.time) ∨
      ∃ buckets, (buckets = found O S request ∨ (found O S request).get request.key = none ∧
          buckets = removeExpiredBuckets (found O S request) request.time) ∧
        ((found O S request).get request.key = none → buckets.size < O.maxBuckets) ∧
        handle O S request = count O request buckets (S.requestCount + 1) ((found O S request).get request.key) := by
  have hhandle : handle O S request =
      if (found O S request).get request.key = none ∧ O.maxBuckets ≤ (found O S request).size then
        if O.maxBuckets ≤ (removeExpiredBuckets (found O S request) request.time).size then
          (.overCapacity (rejectedHeaders O (capacityReset (removeExpiredBuckets (found O S request) request.time)
            request.time) request.time) (request.correlationId.getD ""),
            ⟨removeExpiredBuckets (found O S request) request.time, S.requestCount + 1⟩)
        else count O request (removeExpiredBuckets (found O S request) request.time) (S.requestCount + 1)
          ((found O S request).get request.key)
      else count O request (found O S request) (S.requestCount + 1) ((found O S request).get request.key) := rfl
  rw [hhandle]
  split_ifs with hfull hstill
  · exact .inl ⟨rfl, hfull.1, rfl⟩
  · exact .inr ⟨_, .inr ⟨hfull.1, rfl⟩, fun _ => not_le.mp hstill, rfl⟩
  · exact .inr ⟨_, .inl rfl, fun hnone => not_le.mp fun hsize => hfull ⟨hnone, hsize⟩, rfl⟩

/-- A bucket for another key was there before. -/
theorem handle_other_old (hkey : request.key ≠ key) (h : (handle O S request).2.buckets.get key = some bucket) :
    S.buckets.get key = some bucket := by
  obtain ⟨-, -, hbuckets⟩ | ⟨buckets, hbuckets, -, hcount⟩ := handle_cases O S request
  · rw [hbuckets] at h
    exact found_get (get_removeExpiredBuckets.mp h).1
  · rw [hcount, count, JsMap.get_set_ne _ _ hkey] at h
    obtain rfl | ⟨-, rfl⟩ := hbuckets
    · exact found_get h
    · exact found_get (get_removeExpiredBuckets.mp h).1

/-- It stays until it has expired. -/
theorem handle_other_live (hkey : request.key ≠ key) (hget : S.buckets.get key = some bucket)
    (hlive : request.time < bucket.resetAt) : (handle O S request).2.buckets.get key = some bucket := by
  have hfound := found_live (O := O) hget hlive
  obtain ⟨-, -, hbuckets⟩ | ⟨buckets, hbuckets, -, hcount⟩ := handle_cases O S request
  · rw [hbuckets]
    exact get_removeExpiredBuckets.mpr ⟨hfound, hlive⟩
  · rw [hcount, count, JsMap.get_set_ne _ _ hkey]
    obtain rfl | ⟨-, rfl⟩ := hbuckets
    · exact hfound
    · exact get_removeExpiredBuckets.mpr ⟨hfound, hlive⟩

/-- A live bucket counts the request for its key, which is not refused for capacity. -/
theorem handle_live (hget : S.buckets.get request.key = some bucket) (hlive : request.time < bucket.resetAt) :
    (handle O S request).2.buckets.get request.key = some ⟨bucket.count + 1, bucket.resetAt⟩ ∧
      ((handle O S request).1.isPassed ↔ bucket.count + 1 ≤ O.limit) ∧ ¬(handle O S request).1.isOverCapacity := by
  have hfound := found_live (O := O) hget hlive
  obtain ⟨-, hnone, -⟩ | ⟨buckets, -, -, hcount⟩ := handle_cases O S request
  · rw [hfound] at hnone
    cases hnone
  · have hbucket : bucketFor O request.time (some bucket) = bucket := if_neg (not_le.mpr hlive)
    rw [hcount, hfound, count, hbucket]
    refine ⟨JsMap.get_set_self _ _ _, ?_⟩
    simp only
    split_ifs with hover
    · exact ⟨iff_of_false (by simp [Reply.isPassed]) (by omega), by simp [Reply.isOverCapacity]⟩
    · exact ⟨iff_of_true rfl (by omega), by simp [Reply.isOverCapacity]⟩

/-- Without a live bucket, a request is refused for capacity and leaves none, or
creates a bucket and is passed on. -/
theorem handle_expired (hexpired : ∀ bucket, S.buckets.get request.key = some bucket → bucket.resetAt ≤ request.time) :
    (¬(handle O S request).1.isPassed ∧ (handle O S request).2.buckets.get request.key = none) ∨
      ((handle O S request).1.isPassed ∧
        (handle O S request).2.buckets.get request.key = some ⟨1, request.time + O.windowMs⟩) := by
  obtain ⟨hrefused, hnone, hbuckets⟩ | ⟨buckets, -, -, hcount⟩ := handle_cases O S request
  · left
    constructor
    · intro hpassed
      cases hreply : (handle O S request).1 <;> simp_all [Reply.isPassed, Reply.isOverCapacity]
    · rw [hbuckets, Option.eq_none_iff_forall_ne_some]
      intro bucket hget
      rw [(get_removeExpiredBuckets.mp hget).1] at hnone
      cases hnone
  · right
    have hbucket : bucketFor O request.time ((found O S request).get request.key) =
        ⟨0, request.time + O.windowMs⟩ := by
      cases hfound : (found O S request).get request.key with
      | none => rfl
      | some bucket => exact if_pos (hexpired bucket (found_get hfound))
    have hlimit := O.limit_pos
    rw [hcount, count, hbucket]
    refine ⟨?_, JsMap.get_set_self _ _ _⟩
    simp only [zero_add]
    rw [if_neg (by omega)]
    rfl

/-- The number of buckets stays within the capacity. -/
theorem handle_size (h : S.buckets.size ≤ O.maxBuckets) : (handle O S request).2.buckets.size ≤ O.maxBuckets := by
  have hsize : (found O S request).size ≤ O.maxBuckets := found_size.trans h
  obtain ⟨-, -, hbuckets⟩ | ⟨buckets, hbuckets, hroom, hcount⟩ := handle_cases O S request
  · rw [hbuckets]
    exact (JsMap.size_filter_le _ _).trans hsize
  · rw [hcount, count]
    cases hget : (found O S request).get request.key with
    | none => exact (JsMap.size_set_le _ _ _).trans (hroom hget)
    | some current =>
      have hsame : buckets = found O S request := hbuckets.resolve_right fun hnone => by simp [hget] at hnone
      have hmem : request.key ∈ buckets.keys := (JsMap.mem_keys_iff _ _).mpr ⟨current, hsame ▸ hget⟩
      have hlength : ∀ m : JsMap String Bucket, m.size = m.keys.length := fun m => by simp [JsMap.keys, JsMap.size]
      rw [hlength, JsMap.keys_set_of_mem _ hmem, ← hlength, hsame]
      exact hsize

/-! ### Runs -/

theorem limiterAfter_append (requests more : List Request) : limiterAfter O S (requests ++ more) =
    limiterAfter O (limiterAfter O S requests) more := run_append _ _ _ _

theorem served_append : ∀ (requests more : List Request) (S : RateLimiter),
    served O S (requests ++ more) = served O S requests ++ served O (limiterAfter O S requests) more
  | [], _, _ => rfl
  | _ :: requests, more, _ => congrArg (_ :: ·) (served_append requests more _)

/-- The requests for a key that are passed on at times with `p`. -/
def passedCount (O : RateLimitOptions) (S : RateLimiter) (key : String) (p : ℚ → Prop) [DecidablePred p]
    (requests : List Request) : ℕ :=
  (served O S requests).countP fun entry => entry.1.key = key ∧ entry.2.isPassed ∧ p entry.1.time

variable {p q : ℚ → Prop} [DecidablePred p] [DecidablePred q]

theorem passedCount_cons : passedCount O S key p (request :: requests) =
    passedCount O (handle O S request).2 key p requests +
      if request.key = key ∧ (handle O S request).1.isPassed ∧ p request.time then 1 else 0 := by
  rw [passedCount, served, List.countP_cons, ← passedCount]
  simp

theorem passedCount_append (more : List Request) : passedCount O S key p (requests ++ more) =
    passedCount O S key p requests + passedCount O (limiterAfter O S requests) key p more := by
  rw [passedCount, served_append, List.countP_append, ← passedCount, ← passedCount]

theorem mem_served : ∀ {requests : List Request} {S : RateLimiter} {entry : Request × Reply},
    entry ∈ served O S requests → entry.1 ∈ requests
  | _ :: _, _, _, h => by
    obtain rfl | h := List.mem_cons.mp h
    · exact List.mem_cons_self
    · exact List.mem_cons_of_mem _ (mem_served h)

theorem passedCount_eq_zero (h : ∀ request ∈ requests, ¬p request.time) : passedCount O S key p requests = 0 := by
  refine List.countP_eq_zero.mpr fun entry hentry hpassed => ?_
  exact h entry.1 (mem_served hentry) (of_decide_eq_true hpassed).2.2

theorem passedCount_mono (h : ∀ time, p time → q time) :
    passedCount O S key p requests ≤ passedCount O S key q requests := by
  refine List.countP_mono_left fun entry _ hentry => ?_
  obtain ⟨hkey, hpassed, hp⟩ := of_decide_eq_true hentry
  exact decide_eq_true ⟨hkey, hpassed, h _ hp⟩

/-- The clock does not go back. -/
def Ordered (requests : List Request) : Prop := requests.Pairwise fun r r' => r.time ≤ r'.time

/-- A bucket that is there passes on what is left of the limit until it expires. -/
theorem passedCount_live : ∀ {requests : List Request} {S : RateLimiter} {bucket : Bucket}, Ordered requests →
    S.buckets.get key = some bucket →
      passedCount O S key (· < bucket.resetAt) requests ≤ O.limit - bucket.count
  | [], _, _, _, _ => Nat.zero_le _
  | request :: requests, S, bucket, hordered, hget => by
    obtain ⟨hlater, hrest⟩ := List.pairwise_cons.mp hordered
    obtain hlive | hexpired := lt_or_ge request.time bucket.resetAt
    · rw [passedCount_cons]
      by_cases hkey : request.key = key
      · rw [← hkey] at hget
        obtain ⟨hnext, hpassed, -⟩ := handle_live (O := O) hget hlive
        rw [hkey] at hnext
        have hcount := passedCount_live hrest hnext
        simp only at hcount
        split_ifs with hnow
        · have hle := hpassed.mp hnow.2.1
          omega
        · omega
      · rw [if_neg fun hnow => hkey hnow.1, Nat.add_zero]
        exact passedCount_live hrest (handle_other_live hkey hget hlive)
    · refine (passedCount_eq_zero ?_).trans_le (Nat.zero_le _)
      intro r hr
      obtain rfl | hr := List.mem_cons.mp hr
      · exact not_lt.mpr hexpired
      · exact not_lt.mpr (hexpired.trans (hlater r hr))

/-- Nor do the requests up to a window after it pass on more than the limit in
addition: the next bucket for the key is created after it has expired. -/
theorem passedCount_fresh {start : ℚ} : ∀ {requests : List Request} {S : RateLimiter}, Ordered requests →
    (∀ request ∈ requests, start ≤ request.time) →
      (∀ bucket, S.buckets.get key = some bucket → bucket.resetAt ≤ start) →
        passedCount O S key (· < start + O.windowMs) requests ≤ O.limit
  | [], _, _, _, _ => Nat.zero_le _
  | request :: requests, S, hordered, hfrom, hexpired => by
    obtain ⟨-, hrest⟩ := List.pairwise_cons.mp hordered
    have hnow := hfrom request List.mem_cons_self
    have hstart : ∀ r ∈ requests, start ≤ r.time := fun r hr => hfrom r (List.mem_cons_of_mem _ hr)
    rw [passedCount_cons]
    by_cases hkey : request.key = key
    · have hold : ∀ bucket, S.buckets.get request.key = some bucket → bucket.resetAt ≤ request.time :=
        fun bucket hget => (hexpired bucket (hkey ▸ hget)).trans hnow
      obtain ⟨hrefused, hnone⟩ | ⟨-, hcreated⟩ := handle_expired (O := O) hold
      · rw [if_neg fun h => hrefused h.2.1, Nat.add_zero]
        refine passedCount_fresh hrest hstart fun bucket hget => ?_
        rw [← hkey, hnone] at hget
        cases hget
      · rw [hkey] at hcreated
        have hlimit := O.limit_pos
        have hcount := passedCount_live (O := O) hrest hcreated
        have hmono : passedCount O (handle O S request).2 key (· < start + O.windowMs) requests ≤
            passedCount O (handle O S request).2 key (· < request.time + O.windowMs) requests :=
          passedCount_mono fun time hlt => hlt.trans_le (by linarith)
        simp only at hcount
        split_ifs <;> omega
    · rw [if_neg fun h => hkey h.1, Nat.add_zero]
      exact passedCount_fresh hrest hstart fun bucket hget => hexpired bucket (handle_other_old hkey hget)

/-- The requests until a window after a bucket expires: what the bucket has left,
and the limit. -/
theorem passedCount_next (last : ℚ) : ∀ {requests : List Request} {S : RateLimiter} {bucket : Bucket},
    Ordered requests → S.buckets.get key = some bucket → last < bucket.resetAt + O.windowMs →
      passedCount O S key (· ≤ last) requests ≤ (O.limit - bucket.count) + O.limit
  | [], _, _, _, _, _ => Nat.zero_le _
  | request :: requests, S, bucket, hordered, hget, huntil => by
    obtain hlive | hexpired := lt_or_ge request.time bucket.resetAt
    · obtain ⟨-, hrest⟩ := List.pairwise_cons.mp hordered
      rw [passedCount_cons]
      by_cases hkey : request.key = key
      · rw [← hkey] at hget
        obtain ⟨hnext, hpassed, -⟩ := handle_live (O := O) hget hlive
        rw [hkey] at hnext
        have hcount := passedCount_next last hrest hnext huntil
        simp only at hcount
        split_ifs with hnow
        · have hle := hpassed.mp hnow.2.1
          omega
        · omega
      · rw [if_neg fun h => hkey h.1, Nat.add_zero]
        exact passedCount_next last hrest (handle_other_live hkey hget hlive) huntil
    · have hfrom : ∀ r ∈ request :: requests, bucket.resetAt ≤ r.time := by
        intro r hr
        obtain rfl | hr := List.mem_cons.mp hr
        · exact hexpired
        · exact hexpired.trans ((List.pairwise_cons.mp hordered).1 r hr)
      have hold : ∀ other, S.buckets.get key = some other → other.resetAt ≤ bucket.resetAt := by
        intro other hother
        rw [hget] at hother
        cases hother
        exact le_rfl
      have hfresh := passedCount_fresh (O := O) hordered hfrom hold
      have hmono : passedCount O S key (· ≤ last) (request :: requests) ≤
          passedCount O S key (· < bucket.resetAt + O.windowMs) (request :: requests) :=
        passedCount_mono fun time hle => hle.trans_lt huntil
      omega

/-- From any state on, a window passes on at most twice the limit: what the
bucket has left that is there at its start, and the next one, or two that are
created in it. -/
theorem passedCount_window {start : ℚ} : ∀ {requests : List Request} {S : RateLimiter}, Ordered requests →
    (∀ request ∈ requests, start ≤ request.time) →
      passedCount O S key (· ≤ start + O.windowMs) requests ≤ 2 * O.limit
  | [], _, _, _ => Nat.zero_le _
  | request :: requests, S, hordered, hfrom => by
    by_cases hexpired : ∀ bucket, S.buckets.get key = some bucket → bucket.resetAt ≤ start
    · obtain ⟨-, hrest⟩ := List.pairwise_cons.mp hordered
      have hnow := hfrom request List.mem_cons_self
      have hfrom' : ∀ r ∈ requests, start ≤ r.time := fun r hr => hfrom r (List.mem_cons_of_mem _ hr)
      have hwindow : (0 : ℚ) < O.windowMs := by exact_mod_cast O.windowMs_pos
      rw [passedCount_cons]
      by_cases hpassed : request.key = key ∧ (handle O S request).1.isPassed ∧ request.time ≤ start + O.windowMs
      · obtain ⟨hkey, hpasses, -⟩ := hpassed
        have hold : ∀ bucket, S.buckets.get request.key = some bucket → bucket.resetAt ≤ request.time :=
          fun bucket hget => (hexpired bucket (hkey ▸ hget)).trans hnow
        obtain ⟨hrefused, -⟩ | ⟨-, hcreated⟩ := handle_expired (O := O) hold
        · exact absurd hpasses hrefused
        · rw [hkey] at hcreated
          have hlimit := O.limit_pos
          have hcount := passedCount_next (start + O.windowMs) hrest hcreated (by simp only; linarith)
          simp only at hcount
          split_ifs <;> omega
      · rw [if_neg hpassed, Nat.add_zero]
        exact passedCount_window hrest hfrom'
    · push Not at hexpired
      obtain ⟨bucket, hget, hlater⟩ := hexpired
      have hcount := passedCount_next (start + O.windowMs) hordered hget (by linarith)
      omega

/-- Any interval as long as the window. -/
theorem passedCount_interval {start : ℚ} : ∀ {requests : List Request} {S : RateLimiter}, Ordered requests →
    passedCount O S key (fun time => start ≤ time ∧ time ≤ start + O.windowMs) requests ≤ 2 * O.limit
  | [], _, _ => Nat.zero_le _
  | request :: requests, S, hordered => by
    obtain ⟨hlater, hrest⟩ := List.pairwise_cons.mp hordered
    obtain hbefore | hfrom := lt_or_ge request.time start
    · rw [passedCount_cons, if_neg fun h => not_le.mpr hbefore h.2.2.1, Nat.add_zero]
      exact passedCount_interval hrest
    · refine (passedCount_mono fun time htime => htime.2).trans (passedCount_window hordered ?_)
      intro r hr
      obtain rfl | hr := List.mem_cons.mp hr
      · exact hfrom
      · exact hfrom.trans (hlater r hr)

/-- A bucket stays while it is live. -/
theorem limiterAfter_live : ∀ {requests : List Request} {S : RateLimiter} {bucket : Bucket},
    S.buckets.get key = some bucket → (∀ request ∈ requests, request.time < bucket.resetAt) →
      ∃ count, (limiterAfter O S requests).buckets.get key = some ⟨count, bucket.resetAt⟩
  | [], _, bucket, hget, _ => ⟨bucket.count, hget⟩
  | request :: requests, S, bucket, hget, hlive => by
    have hnow := hlive request List.mem_cons_self
    have hlater : ∀ r ∈ requests, r.time < bucket.resetAt := fun r hr => hlive r (List.mem_cons_of_mem _ hr)
    by_cases hkey : request.key = key
    · rw [← hkey] at hget
      obtain ⟨hnext, -, -⟩ := handle_live (O := O) hget hnow
      rw [hkey] at hnext
      obtain ⟨count, hcount⟩ := limiterAfter_live hnext hlater
      exact ⟨count, hcount⟩
    · exact limiterAfter_live (S := (handle O S request).2) (handle_other_live hkey hget hnow) hlater

/-- The request creates a bucket for its key. -/
structure Creates (O : RateLimitOptions) (S : RateLimiter) (request : Request) : Prop where
  expired : ∀ bucket, S.buckets.get request.key = some bucket → bucket.resetAt ≤ request.time
  created : (handle O S request).2.buckets.get request.key = some ⟨1, request.time + O.windowMs⟩

/-- What is guaranteed of these requests. -/
structure RateLimited (O : RateLimitOptions) (requests : List Request) : Prop where
  /-- From its creation to its `resetAt`, a bucket passes on at most `limit` requests. -/
  lifetime : ∀ before request after, requests = before ++ request :: after →
    Creates O (limiterAfter O newLimiter before) request →
      passedCount O (limiterAfter O newLimiter before) request.key (· < request.time + O.windowMs) (request :: after) ≤
        O.limit
  /-- An interval as long as the window passes on at most twice as many. -/
  interval : ∀ key start,
    passedCount O newLimiter key (fun time => start ≤ time ∧ time ≤ start + O.windowMs) requests ≤ 2 * O.limit
  /-- A bucket is there until its `resetAt`. -/
  kept : ∀ before request between after, requests = before ++ request :: (between ++ after) →
    Creates O (limiterAfter O newLimiter before) request →
      (∀ r ∈ between, r.time < request.time + O.windowMs) →
        ∃ count, (limiterAfter O newLimiter (before ++ request :: between)).buckets.get request.key =
          some ⟨count, request.time + O.windowMs⟩
  /-- A key with a live bucket is not refused for capacity. -/
  live : ∀ before request after, requests = before ++ request :: after →
    ∀ bucket, (limiterAfter O newLimiter before).buckets.get request.key = some bucket →
      request.time < bucket.resetAt → ¬(handle O (limiterAfter O newLimiter before) request).1.isOverCapacity
  bounded : ∀ beginning, beginning <+: requests → (limiterAfter O newLimiter beginning).buckets.size ≤ O.maxBuckets

/-- **Rate limiting.** With a clock that does not go back, any requests are rate
limited. -/
theorem requests_rateLimited (O : RateLimitOptions) {requests : List Request} (hordered : Ordered requests) :
    RateLimited O requests where
  lifetime := by
    rintro before request after rfl hcreates
    have hrest : Ordered after := (List.pairwise_cons.mp (List.pairwise_append.mp hordered).2.1).2
    have hlimit := O.limit_pos
    have hcount := passedCount_live (O := O) hrest hcreates.created
    simp only at hcount
    rw [passedCount_cons]
    split_ifs <;> omega
  interval key start := passedCount_interval hordered
  kept := by
    rintro before request between after - hcreates hlive
    rw [limiterAfter_append]
    obtain ⟨count, hcount⟩ := limiterAfter_live (O := O) hcreates.created hlive
    exact ⟨count, hcount⟩
  live := by
    rintro before request after - bucket hget hlive
    exact (handle_live hget hlive).2.2
  bounded beginning _ := run_invariant (I := fun S : RateLimiter => S.buckets.size ≤ O.maxBuckets)
    (fun _ _ => handle_size) beginning (Nat.zero_le _)

/-! Two requests in a window, one bucket. -/

def sampleOptions : RateLimitOptions where
  limit := 2
  windowMs := 1000
  maxBuckets := 1
  cleanupEvery := 3
  limit_pos := by decide
  windowMs_pos := by decide
  maxBuckets_pos := by decide
  cleanupEvery_pos := by decide

def sampleRequest (ip : String) (time : ℚ) : Request := ⟨some ip, "/api/v1/offers", none, time⟩

/-- The third request is over the limit, another key finds no room, and at the
`resetAt` the window is open again. -/
def sampleRequests : List Request :=
  [sampleRequest "a" 0, sampleRequest "a" 1, sampleRequest "a" 999, sampleRequest "b" 999, sampleRequest "a" 1000]

example : (served sampleOptions newLimiter sampleRequests).map (fun entry => entry.2.isPassed) =
    [true, true, false, false, true] := by decide +kernel

theorem sampleRequests_rateLimited : Ordered sampleRequests ∧ RateLimited sampleOptions sampleRequests := by
  have hordered : Ordered sampleRequests := by
    unfold Ordered
    decide +kernel
  exact ⟨hordered, requests_rateLimited sampleOptions hordered⟩

end Operations
end Evllm
