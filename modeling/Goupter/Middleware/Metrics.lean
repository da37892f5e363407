import Goupter.Cache.Json

/-!
# Request metrics

`RequestMetrics` and `MetricsWithConfig` of `src/pkg/server/middleware/metrics.go`. `Record`
counts a request as a success when its status is in `200..399` and as a failure otherwise,
adds one under its status code, its method and its latency bucket, adds its latency to the
total and keeps the least and the greatest latency. `Reset` starts the counts again and leaves
the requests in flight, which `IncrInFlight` and `DecrInFlight` count atomically, alone.
`GetSnapshot` copies everything, with the average, least and greatest latency only once a
request has been recorded.

Every method takes the lock or is atomic, so concurrent calls act one after another, and a
run of the metrics is a list of operations (`MetricsOp`). Its meaning is the list of the
requests recorded since the last reset (`Summarises`): every count is the number of those
requests with that status, method or bucket, in `int64` arithmetic, and the latency fields
are their sum, least and greatest latency (`run_summarises`).

The middleware makes, for a request it does not skip, `IncrInFlight`, then `Record` once the
handlers have returned, then the deferred `DecrInFlight`; when a handler panics, the panic
passes `Record` by and only the deferred call runs. Whatever the order in which concurrent
requests interleave these calls, the metrics count exactly the requests that were not skipped
and did not panic, and nothing stays in flight once all have finished
(`interleaved_requests_summarised`).

Counters, durations and instants are `int64`, so the counts wrap as Go's do (`wrapInt64`).
A Go map of counts is the list of its entries in the order their keys were added
(`Counts`); nothing here depends on that order. `LastTime` is `none` for the zero
`time.Time`. `SuccessRate`, `QPS` and the handlers that print the snapshot compute with
`float64` and text, and are not modelled.
-/

namespace Goupter.Middleware

open Goupter.Cache (wrapInt64 minInt64 maxInt64 wrapInt64_of_inRange wrapInt64_inRange)

/-! ### `int64` arithmetic -/

@[simp] theorem wrapInt64_wrapInt64_add (x y : Int) : wrapInt64 (wrapInt64 x + y) = wrapInt64 (x + y) := by
  unfold wrapInt64
  omega

@[simp] theorem wrapInt64_wrapInt64 (x : Int) : wrapInt64 (wrapInt64 x) = wrapInt64 x :=
  wrapInt64_of_inRange (wrapInt64_inRange x).1 (wrapInt64_inRange x).2

@[simp] theorem wrapInt64_add_wrapInt64_right (x y : Int) : wrapInt64 (x + wrapInt64 y) = wrapInt64 (x + y) := by
  unfold wrapInt64
  omega

@[simp] theorem wrapInt64_zero : wrapInt64 0 = 0 := by decide

/-! ### Maps of counts -/

/-- A Go `map[κ]int64` of counts, by its entries in the order their keys were added. -/
structure Counts (κ : Type) where
  entries : List (κ × Int)

namespace Counts

variable {κ : Type}

/-- `make(map[κ]int64)`. -/
def empty : Counts κ := ⟨[]⟩

variable [DecidableEq κ]

/-- The count a list of entries holds under `k`, `0` when there is none. -/
def lookup : List (κ × Int) → κ → Int
  | [], _ => 0
  | (key, n) :: rest, k => if key = k then n else lookup rest k

/-- The entries with the count under `k` set to `n`. -/
def update : List (κ × Int) → κ → Int → List (κ × Int)
  | [], k, n => [(k, n)]
  | (key, m) :: rest, k, n => if key = k then (k, n) :: rest else (key, m) :: update rest k n

/-- `m[k]`. -/
def get (m : Counts κ) (k : κ) : Int := lookup m.entries k

/-- `m[k]++`, in `int64` arithmetic. -/
def incr (m : Counts κ) (k : κ) : Counts κ := ⟨update m.entries k (wrapInt64 (m.get k + 1))⟩

theorem lookup_update (entries : List (κ × Int)) (k k' : κ) (n : Int) :
    lookup (update entries k n) k' = if k = k' then n else lookup entries k' := by
  induction entries with
  | nil => simp [update, lookup]
  | cons entry rest ih =>
    obtain ⟨key, m⟩ := entry
    by_cases same : key = k
    · subst same
      by_cases hit : key = k' <;> simp [update, lookup, hit]
    · by_cases hit : key = k'
      · subst hit
        simp [update, lookup, same, Ne.symm same]
      · simp [update, lookup, same, hit, ih]

@[simp] theorem get_empty (k : κ) : (empty : Counts κ).get k = 0 := rfl

theorem get_incr (m : Counts κ) (k k' : κ) :
    (m.incr k).get k' = if k = k' then wrapInt64 (m.get k + 1) else m.get k' :=
  lookup_update _ _ _ _

/-- A map that counts, for each key, the items of `items` with that key, still does after
`m[key x]++` for one more item `x`. -/
theorem get_incr_countP {α : Type} {m : Counts κ} {key : α → κ} {items : List α}
    (counts : ∀ k, m.get k = wrapInt64 (items.countP (key · = k))) (x : α) (k : κ) :
    (m.incr (key x)).get k = wrapInt64 ((items ++ [x]).countP (key · = k)) := by
  rw [get_incr, List.countP_append, List.countP_singleton, counts]
  by_cases hit : key x = k
  · subst hit
    simp
  · simp [hit, counts]

end Counts

/-! ### The metrics and their operations -/

/-- `RequestMetrics`, without its lock. -/
structure RequestMetrics where
  totalRequests : Int
  successRequests : Int
  failedRequests : Int
  inFlightRequests : Int
  totalLatency : Int
  minLatency : Int
  maxLatency : Int
  statusCodeCounts : Counts Int
  methodCounts : Counts String
  latencyBuckets : Counts String
  startTime : Int
  lastTime : Option Int

/-- `NewRequestMetrics()` at `now`. -/
def newRequestMetrics (now : Int) : RequestMetrics :=
  { totalRequests := 0, successRequests := 0, failedRequests := 0, inFlightRequests := 0,
    totalLatency := 0, minLatency := maxInt64, maxLatency := 0,
    statusCodeCounts := .empty, methodCounts := .empty, latencyBuckets := .empty,
    startTime := now, lastTime := none }

/-- `getLatencyBucket`: the bucket of the latency's whole milliseconds, which `Milliseconds`
truncates toward zero. -/
def getLatencyBucket (latency : Int) : String :=
  let ms := latency.tdiv 1000000
  if ms < 10 then "<10ms"
  else if ms < 50 then "10-50ms"
  else if ms < 100 then "50-100ms"
  else if ms < 500 then "100-500ms"
  else if ms < 1000 then "500ms-1s"
  else ">1s"

/-- The test of `Record`: `statusCode >= 200 && statusCode < 400`. -/
def succeeded (statusCode : Int) : Bool := decide (200 ≤ statusCode ∧ statusCode < 400)

namespace RequestMetrics

/-- `Record(statusCode, method, latency)`, whose `time.Now()` is `now`. -/
def record (m : RequestMetrics) (now statusCode : Int) (method : String) (latency : Int) : RequestMetrics :=
  { m with
    totalRequests := wrapInt64 (m.totalRequests + 1)
    successRequests := if succeeded statusCode then wrapInt64 (m.successRequests + 1) else m.successRequests
    failedRequests := if succeeded statusCode then m.failedRequests else wrapInt64 (m.failedRequests + 1)
    statusCodeCounts := m.statusCodeCounts.incr statusCode
    methodCounts := m.methodCounts.incr method
    totalLatency := wrapInt64 (m.totalLatency + latency)
    minLatency := if latency < m.minLatency then latency else m.minLatency
    maxLatency := if latency > m.maxLatency then latency else m.maxLatency
    latencyBuckets := m.latencyBuckets.incr (getLatencyBucket latency)
    lastTime := some now }

/-- `IncrInFlight()`. -/
def incrInFlight (m : RequestMetrics) : RequestMetrics :=
  { m with inFlightRequests := wrapInt64 (m.inFlightRequests + 1) }

/-- `DecrInFlight()`. -/
def decrInFlight (m : RequestMetrics) : RequestMetrics :=
  { m with inFlightRequests := wrapInt64 (m.inFlightRequests + -1) }

/-- `Reset()` at `now`: the requests in flight and `LastTime` stay. -/
def reset (m : RequestMetrics) (now : Int) : RequestMetrics :=
  { m with
    totalRequests := 0, successRequests := 0, failedRequests := 0,
    statusCodeCounts := .empty, methodCounts := .empty, totalLatency := 0,
    minLatency := maxInt64, maxLatency := 0, latencyBuckets := .empty, startTime := now }

end RequestMetrics

/-- `MetricsSnapshot`. -/
structure MetricsSnapshot where
  totalRequests : Int
  successRequests : Int
  failedRequests : Int
  inFlightRequests : Int
  avgLatency : Int
  minLatency : Int
  maxLatency : Int
  startTime : Int
  lastTime : Option Int
  statusCodeCounts : Counts Int
  methodCounts : Counts String
  latencyBuckets : Counts String

/-- `GetSnapshot()`: the average is `int64` division, which truncates toward zero. -/
def RequestMetrics.getSnapshot (m : RequestMetrics) : MetricsSnapshot :=
  let measured := decide (m.totalRequests > 0)
  { totalRequests := m.totalRequests, successRequests := m.successRequests,
    failedRequests := m.failedRequests, inFlightRequests := m.inFlightRequests,
    avgLatency := if measured then m.totalLatency.tdiv m.totalRequests else 0,
    minLatency := if measured then m.minLatency else 0,
    maxLatency := if measured then m.maxLatency else 0,
    startTime := m.startTime, lastTime := m.lastTime,
    statusCodeCounts := m.statusCodeCounts, methodCounts := m.methodCounts,
    latencyBuckets := m.latencyBuckets }

/-- A call on the metrics; `GetSnapshot` only reads them. -/
inductive MetricsOp where
  | record (now statusCode : Int) (method : String) (latency : Int)
  | incrInFlight
  | decrInFlight
  | reset (now : Int)
deriving DecidableEq

namespace RequestMetrics

/-- One call. -/
def apply (m : RequestMetrics) : MetricsOp → RequestMetrics
  | .record now statusCode method latency => m.record now statusCode method latency
  | .incrInFlight => m.incrInFlight
  | .decrInFlight => m.decrInFlight
  | .reset now => m.reset now

/-- Calls one after another. -/
def run (m : RequestMetrics) (ops : List MetricsOp) : RequestMetrics := ops.foldl apply m

end RequestMetrics

/-! ### What a run of the metrics holds -/

/-- A request as `Record` was given it. -/
structure Recorded where
  statusCode : Int
  method : String
  latency : Int

/-- The requests recorded since the last reset, after one more call. -/
def recordedStep (recorded : List Recorded) : MetricsOp → List Recorded
  | .record _ statusCode method latency => recorded ++ [⟨statusCode, method, latency⟩]
  | .reset _ => []
  | .incrInFlight | .decrInFlight => recorded

/-- The sum of the latencies, added in order as `TotalLatency += latency` does. -/
def latencySum (recorded : List Recorded) : Int := recorded.foldl (fun sum r => sum + r.latency) 0

/-- `if latency < m.MinLatency { m.MinLatency = latency }`. -/
def lowerLatency (least : Int) (r : Recorded) : Int := if r.latency < least then r.latency else least

/-- `if latency > m.MaxLatency { m.MaxLatency = latency }`. -/
def higherLatency (greatest : Int) (r : Recorded) : Int := if r.latency > greatest then r.latency else greatest

/-- The metrics hold the counts, the latency sum and the extreme latencies of the requests
`recorded`, in `int64` arithmetic. -/
structure Summarises (m : RequestMetrics) (recorded : List Recorded) : Prop where
  total : m.totalRequests = wrapInt64 recorded.length
  success : m.successRequests = wrapInt64 (recorded.countP (succeeded ·.statusCode))
  failed : m.failedRequests = wrapInt64 (recorded.countP (!succeeded ·.statusCode))
  statusCode : ∀ code, m.statusCodeCounts.get code = wrapInt64 (recorded.countP (·.statusCode = code))
  method : ∀ method, m.methodCounts.get method = wrapInt64 (recorded.countP (·.method = method))
  bucket : ∀ bucket, m.latencyBuckets.get bucket =
    wrapInt64 (recorded.countP (getLatencyBucket ·.latency = bucket))
  latency : m.totalLatency = wrapInt64 (latencySum recorded)
  minLatency : m.minLatency = recorded.foldl lowerLatency maxInt64
  maxLatency : m.maxLatency = recorded.foldl higherLatency 0

/-- Metrics with every count and sum at zero and the latency extremes at their starting values
summarise no request. -/
theorem Summarises.of_zero {m : RequestMetrics} (total : m.totalRequests = 0) (success : m.successRequests = 0)
    (failed : m.failedRequests = 0) (statusCodes : m.statusCodeCounts = .empty)
    (methods : m.methodCounts = .empty) (buckets : m.latencyBuckets = .empty) (latency : m.totalLatency = 0)
    (least : m.minLatency = maxInt64) (greatest : m.maxLatency = 0) : Summarises m [] where
  total := by simp [total]
  success := by simp [success]
  failed := by simp [failed]
  statusCode _ := by simp [statusCodes]
  method _ := by simp [methods]
  bucket _ := by simp [buckets]
  latency := by simp [latency, latencySum]
  minLatency := least
  maxLatency := greatest

theorem newRequestMetrics_summarises (now : Int) : Summarises (newRequestMetrics now) [] :=
  .of_zero rfl rfl rfl rfl rfl rfl rfl rfl rfl

theorem wrapInt64_countP_append {α : Type} (p : α → Bool) (items : List α) (x : α) :
    wrapInt64 ((items ++ [x]).countP p) =
      if p x then wrapInt64 (wrapInt64 (items.countP p) + 1) else wrapInt64 (items.countP p) := by
  cases hit : p x <;> simp [List.countP_append, hit]

theorem Summarises.record {m : RequestMetrics} {recorded : List Recorded} (holds : Summarises m recorded)
    (now statusCode : Int) (method : String) (latency : Int) :
    Summarises (m.record now statusCode method latency) (recorded ++ [⟨statusCode, method, latency⟩]) where
  total := by simp [RequestMetrics.record, holds.total]
  success := by
    rw [wrapInt64_countP_append, ← holds.success]
    rfl
  failed := by
    rw [wrapInt64_countP_append, ← holds.failed]
    simp only [RequestMetrics.record]
    cases succeeded statusCode <;> rfl
  statusCode := Counts.get_incr_countP holds.statusCode (⟨statusCode, method, latency⟩ : Recorded)
  method := Counts.get_incr_countP holds.method (⟨statusCode, method, latency⟩ : Recorded)
  bucket := Counts.get_incr_countP holds.bucket (⟨statusCode, method, latency⟩ : Recorded)
  latency := by simp [RequestMetrics.record, holds.latency, latencySum]
  minLatency := by simp [RequestMetrics.record, holds.minLatency, lowerLatency]
  maxLatency := by simp [RequestMetrics.record, holds.maxLatency, higherLatency]

theorem Summarises.reset (m : RequestMetrics) (now : Int) : Summarises (m.reset now) [] :=
  .of_zero rfl rfl rfl rfl rfl rfl rfl rfl rfl

theorem Summarises.apply {m : RequestMetrics} {recorded : List Recorded} (holds : Summarises m recorded)
    (op : MetricsOp) : Summarises (m.apply op) (recordedStep recorded op) := by
  cases op with
  | record now statusCode method latency => exact holds.record now statusCode method latency
  | reset now => exact Summarises.reset m now
  | incrInFlight | decrInFlight => exact { holds with }

/-- The change a call makes to the requests in flight. -/
def MetricsOp.inFlightChange : MetricsOp → Int
  | .incrInFlight => 1
  | .decrInFlight => -1
  | .record .. | .reset _ => 0

/-- The requests in flight after calls, from `start`, before `int64` wrapping. -/
def inFlightAfter (start : Int) (ops : List MetricsOp) : Int :=
  ops.foldl (fun count op => count + op.inFlightChange) start

theorem wrapInt64_inFlightAfter (start : Int) (ops : List MetricsOp) :
    wrapInt64 (inFlightAfter (wrapInt64 start) ops) = wrapInt64 (inFlightAfter start ops) := by
  induction ops generalizing start with
  | nil => simp [inFlightAfter]
  | cons op ops ih =>
    simp only [inFlightAfter, List.foldl_cons] at ih ⊢
    rw [← ih (wrapInt64 start + _), ← ih (start + _), wrapInt64_wrapInt64_add]

theorem inFlightRequests_apply (m : RequestMetrics) (op : MetricsOp)
    (inRange : minInt64 ≤ m.inFlightRequests ∧ m.inFlightRequests ≤ maxInt64) :
    (m.apply op).inFlightRequests = wrapInt64 (m.inFlightRequests + op.inFlightChange) := by
  cases op <;> simp [RequestMetrics.apply, RequestMetrics.record, RequestMetrics.incrInFlight,
    RequestMetrics.decrInFlight, RequestMetrics.reset, MetricsOp.inFlightChange, inRange]

/-- The requests in flight are the calls' balance of increments and decrements. -/
theorem run_inFlightRequests (m : RequestMetrics) (ops : List MetricsOp)
    (inRange : minInt64 ≤ m.inFlightRequests ∧ m.inFlightRequests ≤ maxInt64) :
    (m.run ops).inFlightRequests = wrapInt64 (inFlightAfter m.inFlightRequests ops) := by
  induction ops generalizing m with
  | nil => simp [RequestMetrics.run, inFlightAfter, inRange]
  | cons op ops ih =>
    have stepped := inFlightRequests_apply m op inRange
    have next := ih (m.apply op) (stepped ▸ wrapInt64_inRange _)
    simp only [RequestMetrics.run, List.foldl_cons] at next ⊢
    rw [next, stepped, wrapInt64_inFlightAfter]
    rfl

/-- Every run from `NewRequestMetrics` holds the counts and latencies of the requests recorded
since its last reset, and as many requests in flight as it started and did not finish. -/
theorem run_summarises (now : Int) (ops : List MetricsOp) :
    Summarises ((newRequestMetrics now).run ops) (ops.foldl recordedStep []) ∧
      ((newRequestMetrics now).run ops).inFlightRequests = wrapInt64 (inFlightAfter 0 ops) := by
  refine ⟨?_, run_inFlightRequests _ ops (show minInt64 ≤ 0 ∧ 0 ≤ maxInt64 by decide)⟩
  suffices ∀ (m : RequestMetrics) recorded, Summarises m recorded →
      Summarises (m.run ops) (ops.foldl recordedStep recorded) from
    this _ _ (newRequestMetrics_summarises now)
  induction ops with
  | nil => exact fun _ _ holds => holds
  | cons op ops ih => exact fun m recorded holds => ih _ _ (holds.apply op)

/-! ### Concurrent requests through the middleware -/

/-- What the handlers after the middleware did with a request: answered it, with the status
`c.Writer.Status()` then reads, or panicked. -/
inductive HandlerOutcome where
  | answered (statusCode : Int)
  | panicked

/-- A request through `MetricsWithConfig`: its path and method, the instant `start` and the
instant `time.Since(start)` reads, the instant `Record` reads, and what the handlers did. -/
structure HandledRequest where
  path : String
  method : String
  start : Int
  finish : Int
  recordedAt : Int
  outcome : HandlerOutcome

/-- `MetricsWithConfig(cfg)` on one request: the calls it makes on the metrics, in order. A
skipped path only runs `c.Next()`; the metrics of the run are those `cfg.Metrics` names, the
global ones when it names none. -/
def metricsWithConfig (skipPaths : List String) (req : HandledRequest) : List MetricsOp :=
  if req.path ∈ skipPaths then []
  else
    match req.outcome with
    | .answered statusCode =>
      [.incrInFlight, .record req.recordedAt statusCode req.method (req.finish - req.start), .decrInFlight]
    | .panicked => [.incrInFlight, .decrInFlight]

/-- The request as the metrics should count it: not at all when its path is skipped or its
handlers panicked. -/
def measured (skipPaths : List String) (req : HandledRequest) : Option Recorded :=
  if req.path ∈ skipPaths then none
  else
    match req.outcome with
    | .answered statusCode => some ⟨statusCode, req.method, req.finish - req.start⟩
    | .panicked => none

/-- The request a call records, if it is a `Record`. -/
def MetricsOp.recorded : MetricsOp → Option Recorded
  | .record _ statusCode method latency => some ⟨statusCode, method, latency⟩
  | .incrInFlight | .decrInFlight | .reset _ => none

/-- Whether a call is a `Reset`. -/
def MetricsOp.isReset : MetricsOp → Bool
  | .reset _ => true
  | .record .. | .incrInFlight | .decrInFlight => false

theorem foldl_recordedStep_of_not_reset (recorded : List Recorded) (ops : List MetricsOp)
    (noReset : ∀ op ∈ ops, op.isReset = false) :
    ops.foldl recordedStep recorded = recorded ++ ops.filterMap MetricsOp.recorded := by
  induction ops generalizing recorded with
  | nil => simp
  | cons op ops ih =>
    rw [List.foldl_cons, ih _ fun op' mem => noReset op' (List.mem_cons_of_mem _ mem)]
    cases op with
    | reset now => cases noReset _ (List.mem_cons_self _ _)
    | record | incrInFlight | decrInFlight => simp [recordedStep, MetricsOp.recorded]

theorem metricsWithConfig_not_reset (skipPaths : List String) (req : HandledRequest) :
    ∀ op ∈ metricsWithConfig skipPaths req, op.isReset = false := by
  unfold metricsWithConfig
  split
  · simp
  · split <;> simp [MetricsOp.isReset]

theorem filterMap_recorded_metricsWithConfig (skipPaths : List String) (req : HandledRequest) :
    (metricsWithConfig skipPaths req).filterMap MetricsOp.recorded = (measured skipPaths req).toList := by
  unfold metricsWithConfig measured
  split
  · rfl
  · split <;> rfl

theorem inFlightAfter_append (start : Int) (ops ops' : List MetricsOp) :
    inFlightAfter start (ops ++ ops') = inFlightAfter (inFlightAfter start ops) ops' :=
  List.foldl_append _ _ _ _

theorem inFlightAfter_metricsWithConfig (start : Int) (skipPaths : List String) (req : HandledRequest) :
    inFlightAfter start (metricsWithConfig skipPaths req) = start := by
  unfold metricsWithConfig
  split
  · rfl
  · split <;> simp only [inFlightAfter, List.foldl_cons, List.foldl_nil, MetricsOp.inFlightChange] <;> omega

theorem inFlightAfter_flatMap (start : Int) (skipPaths : List String) (reqs : List HandledRequest) :
    inFlightAfter start (reqs.flatMap (metricsWithConfig skipPaths)) = start := by
  induction reqs with
  | nil => rfl
  | cons req reqs ih =>
    rw [List.flatMap_cons, inFlightAfter_append, inFlightAfter_metricsWithConfig, ih]

theorem lowerLatency_right_comm (least : Int) (x y : Recorded) :
    lowerLatency (lowerLatency least x) y = lowerLatency (lowerLatency least y) x := by
  unfold lowerLatency
  (repeat' split) <;> omega

theorem higherLatency_right_comm (greatest : Int) (x y : Recorded) :
    higherLatency (higherLatency greatest x) y = higherLatency (higherLatency greatest y) x := by
  unfold higherLatency
  (repeat' split) <;> omega

/-- What the metrics hold does not depend on the order of the requests. -/
theorem Summarises.perm {m : RequestMetrics} {recorded recorded' : List Recorded} (holds : Summarises m recorded)
    (reordered : recorded.Perm recorded') : Summarises m recorded' where
  total := holds.total.trans (by rw [reordered.length_eq])
  success := holds.success.trans (by rw [reordered.countP_eq])
  failed := holds.failed.trans (by rw [reordered.countP_eq])
  statusCode code := (holds.statusCode code).trans (by rw [reordered.countP_eq])
  method method := (holds.method method).trans (by rw [reordered.countP_eq])
  bucket bucket := (holds.bucket bucket).trans (by rw [reordered.countP_eq])
  latency := holds.latency.trans (by
    rw [latencySum, latencySum, reordered.foldl_eq' (fun _ _ _ _ _ => by omega)])
  minLatency := holds.minLatency.trans (reordered.foldl_eq' (fun x _ y _ _ => lowerLatency_right_comm _ x y) _)
  maxLatency := holds.maxLatency.trans (reordered.foldl_eq' (fun x _ y _ _ => higherLatency_right_comm _ x y) _)

theorem flatMap_toList_eq_filterMap {α β : Type} (f : α → Option β) (items : List α) :
    items.flatMap (fun x => (f x).toList) = items.filterMap f := by
  induction items with
  | nil => rfl
  | cons x items ih => cases hit : f x <;> simp [List.filterMap_cons, hit, ih]

/-- However concurrent requests through `MetricsWithConfig` interleave their calls, in any
order indeed, metrics started by `NewRequestMetrics` count exactly the requests whose path is
not skipped and whose handlers did not panic, with their statuses, methods and latencies, and
have no request in flight once all have finished. -/
theorem interleaved_requests_summarised (now : Int) (skipPaths : List String) (reqs : List HandledRequest)
    (ops : List MetricsOp) (interleaved : ops.Perm (reqs.flatMap (metricsWithConfig skipPaths))) :
    Summarises ((newRequestMetrics now).run ops) (reqs.filterMap (measured skipPaths)) ∧
      ((newRequestMetrics now).run ops).inFlightRequests = 0 := by
  obtain ⟨holds, inFlight⟩ := run_summarises now ops
  have noReset : ∀ op ∈ ops, op.isReset = false := fun op mem => by
    obtain ⟨req, -, mem⟩ := List.mem_flatMap.mp (interleaved.subset mem)
    exact metricsWithConfig_not_reset skipPaths req op mem
  rw [foldl_recordedStep_of_not_reset _ _ noReset, List.nil_append] at holds
  have counted : (reqs.flatMap (metricsWithConfig skipPaths)).filterMap MetricsOp.recorded =
      reqs.filterMap (measured skipPaths) := by
    rw [List.filterMap_flatMap, ← flatMap_toList_eq_filterMap (measured skipPaths) reqs]
    simp only [filterMap_recorded_metricsWithConfig]
  refine ⟨holds.perm (counted ▸ interleaved.filterMap _), ?_⟩
  rw [inFlight, inFlightAfter, interleaved.foldl_eq' (fun _ _ _ _ _ => by omega), ← inFlightAfter,
    inFlightAfter_flatMap, wrapInt64_zero]

/-- Three requests at once: one answered, one whose handler panicked while the first was in
flight, and one on a skipped path. -/
theorem interleaved_requests_summarised_panic_and_skip :
    Summarises ((newRequestMetrics 0).run
        [.incrInFlight, .incrInFlight, .decrInFlight, .record 6 200 "GET" 5, .decrInFlight])
      ([⟨"/users", "GET", 0, 5, 6, .answered 200⟩, ⟨"/orders", "POST", 1, 3, 3, .panicked⟩,
        ⟨"/metrics", "GET", 2, 4, 4, .answered 200⟩].filterMap (measured ["/metrics"])) ∧
    ((newRequestMetrics 0).run
        [.incrInFlight, .incrInFlight, .decrInFlight, .record 6 200 "GET" 5, .decrInFlight]).inFlightRequests = 0 :=
  interleaved_requests_summarised 0 ["/metrics"] _ _ (by decide)

end Goupter.Middleware
