import Goupter.Middleware.RateLimiter

/-!
# The window limiter

`SlidingWindowLimiter` of `src/pkg/server/middleware/ratelimit.go`. Each key has a `window`:
the count admitted in it and the instant it started. `AllowN(key, n)` at `now` starts a new
window, holding `n`, when the key has none or its window is at least `windowLen` old, and
admits the call when `n ≤ limit`; otherwise it admits the call when the count plus `n` stays
within `limit`, and adds `n`. A cleanup goroutine deletes, at each tick, the windows at least
`2 * windowLen` old. Every method holds the limiter's lock, so a run is a sequence of calls.

Despite its name the limiter counts in fixed windows, each starting at the first call after
the previous one ended. A burst of `limit` at the start of a window and another when it
ends are both admitted, so an interval of length `windowLen` can hold `2 * limit`; a window
filled a nanosecond before it ends and a burst when it ends put `2 * limit - 1` in one
nanosecond (`sliding_window_admits_two_bursts`).
-/

namespace Goupter.Middleware

/-- `window`: the count admitted since the window started, and its start. -/
structure Window where
  count : Int
  startTime : Int
deriving DecidableEq, Repr

/-- `SlidingWindowLimiter`, without its lock. -/
structure SlidingWindowLimiter where
  windows : String → Option Window
  limit : Int
  windowLen : Int

/-- `NewSlidingWindowLimiter(limit, windowLen)`: no windows yet. -/
def newSlidingWindowLimiter (limit windowLen : Int) : SlidingWindowLimiter :=
  ⟨fun _ => none, limit, windowLen⟩

namespace SlidingWindowLimiter

/-- `l.windows[key] = &window{count: n, startTime: now}`, admitting the call when
`n <= l.limit`. -/
def startWindow (now : Int) (key : String) (n : Int) (l : SlidingWindowLimiter) :
    SlidingWindowLimiter × Bool :=
  ({ l with windows := Function.update l.windows key (some ⟨n, now⟩) }, decide (n ≤ l.limit))

/-- `SlidingWindowLimiter.AllowN` at `now`. -/
def allowN (now : Int) (key : String) (n : Int) (l : SlidingWindowLimiter) :
    SlidingWindowLimiter × Bool :=
  match l.windows key with
  | none => l.startWindow now key n
  | some w =>
    if l.windowLen ≤ now - w.startTime then l.startWindow now key n
    else if w.count + n ≤ l.limit then
      ({ l with windows := Function.update l.windows key (some ⟨w.count + n, w.startTime⟩) }, true)
    else (l, false)

/-- `SlidingWindowLimiter.Allow`: `AllowN(key, 1)`. -/
def allow (now : Int) (key : String) (l : SlidingWindowLimiter) : SlidingWindowLimiter × Bool :=
  l.allowN now key 1

/-- One tick of `cleanup` at `now`: the windows at least `2 * windowLen` old are deleted. -/
def cleanup (now : Int) (l : SlidingWindowLimiter) : SlidingWindowLimiter :=
  { l with windows := fun key => (l.windows key).filter fun w => now - w.startTime < l.windowLen * 2 }

/-- A call on the limiter: `AllowN(key, n)` at `now`, or a cleanup tick at `now`. -/
inductive Call where
  | allowN (key : String) (n : Int) (now : Int)
  | cleanup (now : Int)

/-- One call, on the limiter and the requests admitted so far, each with its key, instant
and count. -/
def step (s : SlidingWindowLimiter × List (String × Int × Int)) :
    Call → SlidingWindowLimiter × List (String × Int × Int)
  | .allowN key n now =>
    ((s.1.allowN now key n).1, if (s.1.allowN now key n).2 then s.2 ++ [(key, now, n)] else s.2)
  | .cleanup now => (s.1.cleanup now, s.2)

/-- A run of calls from `l`: the limiter after them and the requests admitted. -/
def serve (l : SlidingWindowLimiter) (calls : List Call) : SlidingWindowLimiter × List (String × Int × Int) :=
  calls.foldl step (l, [])

end SlidingWindowLimiter

open SlidingWindowLimiter

/-- For every limit and window length, a burst of `limit` when a key's window starts and
another `windowLen` later, when it ends, are both admitted: the interval between them, of
length `windowLen`, holds `2 * limit`, which is more than `limit` for any limit of at least
one. With one request when the window starts, `limit - 1` a nanosecond before it ends and
`limit` when it ends, all are admitted, and a single nanosecond holds `2 * limit - 1`. -/
theorem sliding_window_admits_two_bursts (limit windowLen : Int) (key : String) (t : Int)
    (nonnegLen : 0 ≤ windowLen) :
    Server.admittedIn key t (t + windowLen)
        ((newSlidingWindowLimiter limit windowLen).serve
          [.allowN key limit t, .allowN key limit (t + windowLen)]).2 = 2 * limit ∧
      (2 ≤ windowLen → 1 ≤ limit →
        Server.admittedIn key (t + windowLen - 1) (t + windowLen)
          ((newSlidingWindowLimiter limit windowLen).serve
            [.allowN key 1 t, .allowN key (limit - 1) (t + windowLen - 1), .allowN key limit (t + windowLen)]).2 =
          2 * limit - 1) := by
  refine ⟨?_, fun longer positive => ?_⟩
  · simp [serve, step, allowN, startWindow, newSlidingWindowLimiter, Server.admittedIn,
      TokenBucket.admittedIn, nonnegLen, show limit + limit = 2 * limit by omega]
  · have early : ¬(t + windowLen ≤ t + 1) := by omega
    have inside : ¬(windowLen ≤ t + windowLen - 1 - t) := by omega
    simp [serve, step, allowN, startWindow, newSlidingWindowLimiter, Server.admittedIn,
      TokenBucket.admittedIn, positive, early, inside, show limit - 1 + limit = 2 * limit - 1 by omega]

/-- `NewSlidingWindowLimiter(10, time.Second)`: ten requests at `0` and ten at one second; and
one at `0`, nine at `999999999` and ten at one second. -/
theorem sliding_window_admits_two_bursts_per_second :
    Server.admittedIn "10.0.0.1" 0 (0 + 1000000000)
        ((newSlidingWindowLimiter 10 1000000000).serve
          [.allowN "10.0.0.1" 10 0, .allowN "10.0.0.1" 10 (0 + 1000000000)]).2 = 2 * 10 ∧
      Server.admittedIn "10.0.0.1" (0 + 1000000000 - 1) (0 + 1000000000)
          ((newSlidingWindowLimiter 10 1000000000).serve
            [.allowN "10.0.0.1" 1 0, .allowN "10.0.0.1" (10 - 1) (0 + 1000000000 - 1),
              .allowN "10.0.0.1" 10 (0 + 1000000000)]).2 =
        2 * 10 - 1 :=
  ⟨(sliding_window_admits_two_bursts 10 1000000000 "10.0.0.1" 0 (by decide)).1,
    (sliding_window_admits_two_bursts 10 1000000000 "10.0.0.1" 0 (by decide)).2 (by decide) (by decide)⟩

end Goupter.Middleware
