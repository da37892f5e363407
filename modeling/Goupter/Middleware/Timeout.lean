import Goupter.Cache.Json
import Goupter.Config.Duration

/-!
# Request timeouts

`TimeoutResponse`, `TimeoutWithCustomResponse`, `TimeoutWithConfig`, `Timeout` and
`RequestTimeout` of `src/pkg/server/middleware/timeout.go`.

`TimeoutWithCustomResponse(timeout, timeoutHandler)` puts a `TimeoutResponse` around
`c.Writer` and runs the handlers in a goroutine. When the deadline wins the `select`, it sets
`timedOut` and answers through `c`, with `timeoutHandler(c)` or with
`AbortWithStatusJSON(504, ...)`, while the handlers' goroutine goes on. Once `timedOut` is set,
`TimeoutResponse` refuses `Write` and `WriteString` and drops `WriteHeader`; the methods it does
not override reach the embedded writer. The answer is written through `c.Writer`, that same
`TimeoutResponse`, after `timedOut` is set, so whatever order the two goroutines' calls take,
the writer receives the handlers' calls made before the deadline and, after it, only calls
such as `Header()`: none of the answer's status or body
(`timeoutWithCustomResponse_received`). `TimeoutWithConfig` answers on the writer itself, which
receives the whole answer, and the handlers' calls after it as well
(`timeoutWithConfig_reply_received`).

A request's writer is modelled by the calls it receives, in order. `gin`'s
`AbortWithStatusJSON(code, obj)` makes the calls `WriteHeader(code)`, `Header()`, for the
content type, and `Write` of `json.Marshal(obj)`. Neither goroutine takes a lock, and
`timedOut` is a plain field that both read or write, so each call and the setting of
`timedOut` is one step, and a run is any order of the steps that keeps each goroutine's own
order (`Interleaves`).

`RequestTimeout` reads the `X-Request-Timeout` header with `time.ParseDuration` and caps the
result at `maxTimeout`, but never bounds it from below: a header `-` followed by a count and
a unit gives the request that negative timeout, whatever the default and the cap, so its
context is past its deadline from the start (`requestTimeout_neg_count_unit`).
-/

namespace Goupter.Middleware

open Goupter.Cache (Json)
open Goupter.Configuration (parseDuration unitMap digitsValue twoPow63)

/-- `TimeoutConfig`, the timeout in nanoseconds. -/
structure TimeoutConfig where
  timeout : Int
  message : String
  statusCode : Int
deriving DecidableEq, Repr

/-- `DefaultTimeoutConfig()`. -/
def defaultTimeoutConfig : TimeoutConfig := ⟨30000000000, "Request timeout", 504⟩

/-- The configuration `Timeout(timeout)` passes to `TimeoutWithConfig`. -/
def timeoutConfigOf (timeout : Int) : TimeoutConfig := { defaultTimeoutConfig with timeout := timeout }

/-- A call on `c.Writer`, a `gin.ResponseWriter`. -/
inductive WriterCall where
  | writeHeader (code : Int)
  | write (data : String)
  | writeString (s : String)
  /-- A method `TimeoutResponse` does not override, such as `Header` or `WriteHeaderNow`. -/
  | other (method : String)
deriving DecidableEq, Repr

/-- The calls `c.AbortWithStatusJSON(code, gin.H{"code": code, "message": message})` makes on
`c.Writer`. -/
def abortWithStatusJSON (code : Int) (message : String) : List WriterCall :=
  [.writeHeader code, .other "Header",
    .write (Json.render (.object [("code", .number code 0), ("message", .string message)]))]

/-- `TimeoutResponse`: the calls its embedded writer has received, and `timedOut`. -/
structure TimeoutResponse where
  received : List WriterCall
  timedOut : Bool
deriving DecidableEq, Repr

/-- What a call on a `TimeoutResponse` gives its caller. -/
inductive CallResult where
  /-- The call went to the embedded writer. -/
  | passed
  /-- `Write` and `WriteString` return `0, context.DeadlineExceeded`. -/
  | deadlineExceeded
  /-- `WriteHeader` returns nothing, and writes nothing. -/
  | dropped
deriving DecidableEq, Repr

namespace TimeoutResponse

/-- The call made on the embedded writer. -/
def pass (tr : TimeoutResponse) (call : WriterCall) : TimeoutResponse × CallResult :=
  ({ tr with received := tr.received ++ [call] }, .passed)

/-- `Write` and `WriteString`, which refuse the call once `timedOut` is set. -/
def writeGuarded (tr : TimeoutResponse) (call : WriterCall) : TimeoutResponse × CallResult :=
  if tr.timedOut then (tr, .deadlineExceeded) else tr.pass call

/-- `TimeoutResponse.Write(b)`. -/
def write (tr : TimeoutResponse) (data : String) : TimeoutResponse × CallResult :=
  tr.writeGuarded (.write data)

/-- `TimeoutResponse.WriteString(s)`. -/
def writeString (tr : TimeoutResponse) (s : String) : TimeoutResponse × CallResult :=
  tr.writeGuarded (.writeString s)

/-- `TimeoutResponse.WriteHeader(code)`, which drops the call once `timedOut` is set. -/
def writeHeader (tr : TimeoutResponse) (code : Int) : TimeoutResponse × CallResult :=
  if !tr.timedOut then tr.pass (.writeHeader code) else (tr, .dropped)

/-- A call on the `TimeoutResponse`. -/
def call (tr : TimeoutResponse) : WriterCall → TimeoutResponse × CallResult
  | .writeHeader code => tr.writeHeader code
  | .write data => tr.write data
  | .writeString s => tr.writeString s
  | .other method => tr.pass (.other method)

end TimeoutResponse

/-- A step of a request through a timeout middleware: a call of the handlers' goroutine on
`c.Writer`, the deadline winning the `select`, or a call the middleware's answer makes on
`c.Writer`. -/
inductive TimeoutEvent where
  | handler (call : WriterCall)
  | timeout
  | reply (call : WriterCall)
deriving DecidableEq, Repr

/-- Whether a step is the handlers' goroutine's. -/
def TimeoutEvent.isHandler : TimeoutEvent → Bool
  | .handler _ => true
  | _ => false

/-- The call a step makes on `c.Writer`. -/
def TimeoutEvent.callOf : TimeoutEvent → Option WriterCall
  | .handler call => some call
  | .timeout => none
  | .reply call => some call

/-- The call a step makes on `c.Writer` when `TimeoutResponse` does not override it. -/
def TimeoutEvent.passThrough : TimeoutEvent → Option WriterCall
  | .handler (.other method) => some (.other method)
  | .reply (.other method) => some (.other method)
  | _ => none

/-- The orders the steps of a request can take: the handlers' calls `hs` in their order and,
when the deadline wins, the deadline and then the answer's calls `reply`, in theirs. -/
def Interleaves (hs reply : List WriterCall) (events : List TimeoutEvent) : Prop :=
  events.filter TimeoutEvent.isHandler = hs.map .handler ∧
    (events.filter (!·.isHandler) = [] ∨ events.filter (!·.isHandler) = .timeout :: reply.map .reply)

namespace TimeoutResponse

/-- One step on the `TimeoutResponse` of `TimeoutWithCustomResponse`: the deadline sets
`tr.timedOut = true`. -/
def step (tr : TimeoutResponse) : TimeoutEvent → TimeoutResponse
  | .handler c => (tr.call c).1
  | .timeout => { tr with timedOut := true }
  | .reply c => (tr.call c).1

/-- The steps of a request, in order. -/
def run (tr : TimeoutResponse) (events : List TimeoutEvent) : TimeoutResponse := events.foldl step tr

end TimeoutResponse

/-- The answer of `TimeoutWithCustomResponse` on the deadline: the calls `timeoutHandler(c)`
makes on `c.Writer`, or, with no handler, those of `AbortWithStatusJSON(504, ...)`. -/
def customTimeoutReply (timeoutHandler : Option (List WriterCall)) : List WriterCall :=
  timeoutHandler.getD (abortWithStatusJSON 504 "Request timeout")

namespace TimeoutResponse

theorem call_of_not_timedOut (tr : TimeoutResponse) (timedOut : tr.timedOut = false) (c : WriterCall) :
    (tr.call c).1 = { tr with received := tr.received ++ [c] } := by
  cases c <;> simp [call, write, writeString, writeHeader, writeGuarded, pass, timedOut]

/-- Once `timedOut` is set, only the calls `TimeoutResponse` does not override reach the
writer. -/
theorem run_received_of_timedOut :
    ∀ (tr : TimeoutResponse) (events : List TimeoutEvent), tr.timedOut = true →
      (tr.run events).received = tr.received ++ events.filterMap TimeoutEvent.passThrough ∧
        (tr.run events).timedOut = true
  | tr, [], timedOut => ⟨(List.append_nil _).symm, timedOut⟩
  | tr, e :: events, timedOut => by
    have stepped : (step tr e).timedOut = true ∧ (step tr e).received = tr.received ++ e.passThrough.toList := by
      cases e with
      | timeout => simp [step, TimeoutEvent.passThrough]
      | handler c | reply c =>
        cases c <;> simp [step, call, write, writeString, writeHeader, writeGuarded, pass, timedOut,
          TimeoutEvent.passThrough]
    obtain ⟨received, flag⟩ := run_received_of_timedOut (step tr e) events stepped.1
    refine ⟨?_, flag⟩
    show (run (step tr e) events).received = _
    rw [received, stepped.2, List.filterMap_cons]
    cases e.passThrough <;> simp

/-- Every call before the first deadline reaches the writer; after it, only the calls
`TimeoutResponse` does not override. -/
theorem run_received :
    ∀ (tr : TimeoutResponse) (events : List TimeoutEvent), tr.timedOut = false →
      (tr.run events).received =
        tr.received ++ (events.takeWhile (· ≠ .timeout)).filterMap TimeoutEvent.callOf ++
          (events.dropWhile (· ≠ .timeout)).filterMap TimeoutEvent.passThrough
  | tr, [], _ => by simp [run]
  | tr, .timeout :: events, _ => by
    have := (run_received_of_timedOut { tr with timedOut := true } events rfl).1
    simp only [run, List.foldl_cons, step] at this ⊢
    simp [this, TimeoutEvent.passThrough]
  | tr, .handler c :: events, timedOut | tr, .reply c :: events, timedOut => by
    have := run_received ⟨tr.received ++ [c], false⟩ events rfl
    simp only [run, List.foldl_cons, step, call_of_not_timedOut tr timedOut, timedOut] at this ⊢
    rw [this, List.takeWhile_cons_of_pos (by simp), List.dropWhile_cons_of_pos (by simp)]
    simp [TimeoutEvent.callOf]

end TimeoutResponse

/-- Before the deadline, only the handlers' goroutine runs: the steps before it are the first
of the handlers' calls. -/
theorem takeWhile_of_interleaves {hs reply : List WriterCall} {events : List TimeoutEvent}
    (interleaves : Interleaves hs reply events) :
    (events.takeWhile (· ≠ .timeout)).filterMap TimeoutEvent.callOf =
      hs.take (events.takeWhile (· ≠ .timeout)).length := by
  obtain ⟨handlers, others⟩ := interleaves
  have noTimeout : ∀ e ∈ events.takeWhile (· ≠ .timeout), e ≠ .timeout := fun e mem => by
    simpa using List.all_eq_true.mp List.all_takeWhile e mem
  have whole := List.takeWhile_append_dropWhile (· ≠ TimeoutEvent.timeout) events
  generalize events.takeWhile (· ≠ .timeout) = before at whole noTimeout ⊢
  generalize events.dropWhile (· ≠ .timeout) = after at whole
  subst whole
  have allHandlers : ∀ e ∈ before, e.isHandler = true := by
    intro e mem
    cases notHandler : e.isHandler
    case true => rfl
    exfalso
    have inFilter : e ∈ before.filter (!·.isHandler) := List.mem_filter.mpr ⟨mem, by simp [notHandler]⟩
    obtain ⟨x, xs, first⟩ := List.exists_cons_of_ne_nil (List.ne_nil_of_mem inFilter)
    have xmem : x ∈ before := (List.mem_filter.mp (first ▸ List.mem_cons_self x xs)).1
    rw [List.filter_append, first] at others
    rcases others with empty | starts
    · cases empty
    · exact noTimeout x xmem (List.cons.inj starts).1
  rw [List.filter_append, List.filter_eq_self.mpr allHandlers] at handlers
  have prefix_eq : before = (hs.take before.length).map .handler := by
    rw [List.map_take, ← handlers, List.take_left]
  calc before.filterMap TimeoutEvent.callOf
      = ((hs.take before.length).map .handler).filterMap TimeoutEvent.callOf := congrArg _ prefix_eq
    _ = hs.take before.length := by
      rw [List.filterMap_map]
      exact List.filterMap_some _

/-- However the handlers' goroutine and the deadline's answer interleave, the writer of
`TimeoutWithCustomResponse` receives the handlers' calls made before the deadline and, after
it, only the calls `TimeoutResponse` does not override: no status or body of the answer,
whatever `timeoutHandler` writes, so the default `504` answer is never written. -/
theorem timeoutWithCustomResponse_received (timeoutHandler : Option (List WriterCall)) (hs : List WriterCall)
    (events : List TimeoutEvent) (interleaves : Interleaves hs (customTimeoutReply timeoutHandler) events) :
    (TimeoutResponse.run ⟨[], false⟩ events).received =
      hs.take (events.takeWhile (· ≠ .timeout)).length ++
        (events.dropWhile (· ≠ .timeout)).filterMap TimeoutEvent.passThrough := by
  rw [TimeoutResponse.run_received _ _ rfl, List.nil_append, takeWhile_of_interleaves interleaves]

/-- The handlers answer `200` and start a body, the deadline passes, and the custom answer
`503` is written while the handlers write the rest of the body. -/
theorem timeoutWithCustomResponse_received_busy :
    (TimeoutResponse.run ⟨[], false⟩
        [.handler (.writeHeader 200), .handler (.write "par"), .timeout, .reply (.writeHeader 503),
          .handler (.write "tial"), .reply (.other "Header"), .reply (.write "busy")]).received =
      [WriterCall.writeHeader 200, .write "par", .write "tial"].take
          ([TimeoutEvent.handler (.writeHeader 200), .handler (.write "par"), .timeout, .reply (.writeHeader 503),
            .handler (.write "tial"), .reply (.other "Header"), .reply (.write "busy")].takeWhile (· ≠ .timeout)).length ++
        ([TimeoutEvent.handler (.writeHeader 200), .handler (.write "par"), .timeout, .reply (.writeHeader 503),
          .handler (.write "tial"), .reply (.other "Header"), .reply (.write "busy")].dropWhile (· ≠ .timeout)).filterMap
          TimeoutEvent.passThrough :=
  timeoutWithCustomResponse_received (some [.writeHeader 503, .other "Header", .write "busy"])
    [.writeHeader 200, .write "par", .write "tial"] _ (by unfold Interleaves; decide)

/-- `RequestTimeout(defaultTimeout, maxTimeout)`: the timeout it gives the request's context,
from its `X-Request-Timeout` header, `""` when the request has none. -/
def requestTimeout (defaultTimeout maxTimeout : Int) (header : String) : Int :=
  let timeout :=
    if header ≠ "" then
      match parseDuration header with
      | .ok d => d
      | .error _ => defaultTimeout
    else defaultTimeout
  if maxTimeout > 0 ∧ timeout > maxTimeout then maxTimeout else timeout

/-- A header of `-`, a decimal count and a unit gives the request minus that many of the
unit's nanoseconds, down to `-2^63`, whatever the default and the cap: its context is past its
deadline from the start. -/
theorem requestTimeout_neg_count_unit (defaultTimeout maxTimeout : Int) {ds : List Char} {u : String} {ns : Nat}
    (unit : (u, ns) ∈ unitMap) (nonEmpty : ds ≠ []) (digits : ∀ c ∈ ds, c.isDigit)
    (fits : digitsValue 0 ds * ns ≤ twoPow63) :
    requestTimeout defaultTimeout maxTimeout (String.mk ('-' :: (ds ++ u.toList))) = -(digitsValue 0 ds * ns : Nat) := by
  have named : String.mk ('-' :: (ds ++ u.toList)) ≠ "" := fun empty =>
    List.cons_ne_nil _ _ (congrArg String.data empty)
  have nonpos : -((digitsValue 0 ds * ns : Nat) : Int) ≤ 0 := Int.neg_nonpos_of_nonneg (Int.ofNat_nonneg _)
  unfold requestTimeout
  simp only [if_pos named, Goupter.Configuration.parseDuration_neg_count_unit unit nonEmpty digits, if_pos fits]
  exact if_neg fun ⟨positive, above⟩ => Int.not_lt.mpr nonpos (Int.lt_trans positive above)

theorem requestTimeout_neg_count_unit_one_second :
    requestTimeout 30000000000 60000000000 (String.mk ('-' :: (['1'] ++ "s".toList))) = -(digitsValue 0 ['1'] * 1000000000 : Nat) :=
  requestTimeout_neg_count_unit 30000000000 60000000000 (by decide) (by decide) (by decide) (by decide)

end Goupter.Middleware
