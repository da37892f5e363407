import Mathlib.Logic.Function.Basic
import Goupter.Middleware.TokenBucket

/-!
# The per-key rate limiter

`IPRateLimiter` of `src/pkg/server/middleware/ratelimit.go`: a map from each key to its own
`TokenBucket`, created full on the key's first request. `Allow(key)` is
`getLimiter(key).Allow(key)`: the lookup or creation of the key's bucket under the limiter's
lock, then `AllowN` under the bucket's own lock. A cleanup goroutine deletes from the map,
at each tick, every bucket whose stored tokens read full.

`getLimiter` reads under the read lock and, on a miss, checks again and creates under the
write lock; either way its result is the key's bucket as the map held it at one instant
under the lock, so it is one step here. Buckets live on a heap (`buckets`), and the map and
the requests in flight refer to them by position, as the Go code holds pointers: a bucket the
cleanup deletes from the map stays on the heap, and a request that already holds it still
takes its tokens from it.

Requests interleave with each other and with cleanup passes at the grain of those critical
sections (`Server.step`). Between a request's lookup and its `AllowN`, a cleanup pass can
delete the bucket the request holds; the key's next request then gets a new, full bucket
while the first still spends from the old one. So for every capacity and rate there is an
interleaving, at one instant, that admits `capacity + 1` requests of one key
(`cleanup_admits_second_burst`), above the `capacity` that one bucket allows in that window
(`TokenBucket.admittedIn_le`).
-/

namespace Goupter.Middleware

/-- `IPRateLimiter`, without its lock: `limiters` maps a key to the position of its bucket
on the heap `buckets`. -/
structure IPRateLimiter where
  rate : ℚ
  capacity : Int
  buckets : List TokenBucket
  limiters : String → Option Nat

/-- `NewIPRateLimiter(rate, capacity)`: no buckets yet. -/
def newIPRateLimiter (rate : ℚ) (capacity : Int) : IPRateLimiter :=
  ⟨rate, capacity, [], fun _ => none⟩

namespace IPRateLimiter

/-- `getLimiter(ip)` at `now`: the position of the key's bucket, after putting a new full
bucket in the map if it had none. -/
def getLimiter (ip : String) (now : Int) (l : IPRateLimiter) : IPRateLimiter × Nat :=
  match l.limiters ip with
  | some limiter => (l, limiter)
  | none =>
    ({ l with
        buckets := l.buckets ++ [newTokenBucket l.rate l.capacity now]
        limiters := Function.update l.limiters ip (some l.buckets.length) },
      l.buckets.length)

/-- `limiter.AllowN(key, n)` on the bucket at position `limiter`. -/
def allowNAt (limiter : Nat) (now n : Int) (l : IPRateLimiter) : IPRateLimiter × Bool :=
  match l.buckets[limiter]? with
  | some tb => ({ l with buckets := l.buckets.set limiter (tb.allowN now n).1 }, (tb.allowN now n).2)
  | none => (l, false)

/-- The test of `cleanup`: `limiter.tokens >= float64(limiter.capacity)`. -/
def isFull (l : IPRateLimiter) (limiter : Nat) : Bool :=
  match l.buckets[limiter]? with
  | some tb => decide ((tb.capacity : ℚ) ≤ tb.tokens)
  | none => false

/-- One tick of `cleanup`: every key whose bucket reads full is deleted from the map. -/
def cleanup (l : IPRateLimiter) : IPRateLimiter :=
  { l with limiters := fun ip => (l.limiters ip).filter fun limiter => !l.isFull limiter }

end IPRateLimiter

/-- A request between its two critical sections: its key, its count and the bucket
`getLimiter` gave it. -/
structure Request where
  key : String
  n : Int
  limiter : Nat

/-- The limiter, the request each goroutine has in flight, and the requests admitted so far,
each with its key, instant and count. -/
structure Server where
  limiter : IPRateLimiter
  inFlight : Nat → Option Request
  admitted : List (String × Int × Int)

/-- One critical section of one goroutine: a request's `getLimiter`, its `AllowN`, or a tick
of the cleanup goroutine. -/
inductive Action
  | getLimiter (client : Nat) (key : String) (n : Int) (now : Int)
  | allowN (client : Nat) (now : Int)
  | cleanup

namespace Server

/-- A new limiter with no request in flight. -/
def start (rate : ℚ) (capacity : Int) : Server :=
  ⟨newIPRateLimiter rate capacity, fun _ => none, []⟩

/-- One step of the interleaving. A goroutine starts a request only when it has none in
flight, and finishes only the one it has. -/
def step (s : Server) : Action → Server
  | .getLimiter client key n now =>
    match s.inFlight client with
    | some _ => s
    | none =>
      { s with
        limiter := (s.limiter.getLimiter key now).1
        inFlight := Function.update s.inFlight client (some ⟨key, n, (s.limiter.getLimiter key now).2⟩) }
  | .allowN client now =>
    match s.inFlight client with
    | none => s
    | some request =>
      { limiter := (s.limiter.allowNAt request.limiter now request.n).1
        inFlight := Function.update s.inFlight client none
        admitted :=
          if (s.limiter.allowNAt request.limiter now request.n).2 then
            s.admitted ++ [(request.key, now, request.n)]
          else s.admitted }
  | .cleanup => { s with limiter := s.limiter.cleanup }

/-- The server after a schedule of steps. -/
def run (s : Server) (actions : List Action) : Server :=
  actions.foldl step s

/-- The requests of `key` admitted in `[a, b]`, counted by their `n`. -/
def admittedIn (key : String) (a b : Int) (admitted : List (String × Int × Int)) : Int :=
  TokenBucket.admittedIn a b ((admitted.filter fun request => request.1 = key).map Prod.snd)

theorem run_append (s : Server) (first rest : List Action) :
    s.run (first ++ rest) = (s.run first).run rest :=
  List.foldl_append _ _ _ _

/-- `Allow(key)` by `client` at `now`, its two critical sections run back to back. -/
def allowSteps (client : Nat) (key : String) (now : Int) : List Action :=
  [.getLimiter client key 1 now, .allowN client now]

/-- The failing interleaving: a request of `key` by goroutine `0` takes the key's bucket, a
cleanup pass runs, the request spends from its bucket, then goroutine `1` makes `burst`
requests of `key` one after another. -/
def deleteWhileHeld (key : String) (now : Int) (burst : Nat) : List Action :=
  [.getLimiter 0 key 1 now, .cleanup, .allowN 0 now] ++ (List.replicate burst (allowSteps 1 key now)).flatten

section Burst

variable {client : Nat} {key : String} {now : Int} {s : Server}

/-- A request whose two critical sections run back to back, while the key's bucket is in the
map, is that bucket's `AllowN`. -/
theorem run_request_of_mapped {n : Int} {limiter : Nat} {tb : TokenBucket} (idle : s.inFlight client = none)
    (mapped : s.limiter.limiters key = some limiter) (atLimiter : s.limiter.buckets[limiter]? = some tb) :
    s.run [.getLimiter client key n now, .allowN client now] =
      { s with
        limiter := { s.limiter with buckets := s.limiter.buckets.set limiter (tb.allowN now n).1 }
        admitted := if (tb.allowN now n).2 then s.admitted ++ [(key, now, n)] else s.admitted } := by
  simp only [run, List.foldl, step, idle, IPRateLimiter.getLimiter, mapped, Function.update_same,
    IPRateLimiter.allowNAt, atLimiter, Function.update_idem]
  rw [← idle, Function.update_eq_self]

/-- A request whose two critical sections run back to back, while the key has no bucket in the
map, puts a new full bucket there and is its `AllowN`. -/
theorem run_request_of_unmapped {n : Int} (idle : s.inFlight client = none)
    (unmapped : s.limiter.limiters key = none) :
    s.run [.getLimiter client key n now, .allowN client now] =
      { s with
        limiter := { s.limiter with
          buckets := s.limiter.buckets ++ [((newTokenBucket s.limiter.rate s.limiter.capacity now).allowN now n).1]
          limiters := Function.update s.limiter.limiters key (some s.limiter.buckets.length) }
        admitted := if ((newTokenBucket s.limiter.rate s.limiter.capacity now).allowN now n).2 then
          s.admitted ++ [(key, now, n)] else s.admitted } := by
  simp only [run, List.foldl, step, idle, IPRateLimiter.getLimiter, unmapped, Function.update_same,
    IPRateLimiter.allowNAt, List.getElem?_concat_length, Function.update_idem,
    List.set_append_right _ _ (le_refl _), Nat.sub_self, List.set_cons_zero]
  rw [← idle, Function.update_eq_self]

/-- `Allow(key)` with the key's bucket in the map takes a token from it. -/
theorem run_allow_of_mapped {limiter : Nat} {tb : TokenBucket} (idle : s.inFlight client = none)
    (mapped : s.limiter.limiters key = some limiter) (atLimiter : s.limiter.buckets[limiter]? = some tb)
    (fresh : tb.lastUpdate = now) (atMost : tb.tokens ≤ tb.capacity) (enough : 1 ≤ tb.tokens) :
    s.run (allowSteps client key now) =
      { s with
        limiter := { s.limiter with buckets := s.limiter.buckets.set limiter { tb with tokens := tb.tokens - 1 } }
        admitted := s.admitted ++ [(key, now, 1)] } := by
  subst fresh
  rw [allowSteps, run_request_of_mapped idle mapped atLimiter,
    tb.allowN_at_lastUpdate 1 atMost (by exact_mod_cast enough), if_pos rfl, Int.cast_one]

/-- `Allow(key)` with no bucket for the key in the map puts a new one there and takes a token
from it. -/
theorem run_allow_of_unmapped (idle : s.inFlight client = none) (unmapped : s.limiter.limiters key = none)
    (positive : 1 ≤ s.limiter.capacity) :
    s.run (allowSteps client key now) =
      { s with
        limiter := { s.limiter with
          buckets := s.limiter.buckets ++
            [{ newTokenBucket s.limiter.rate s.limiter.capacity now with tokens := s.limiter.capacity - 1 }]
          limiters := Function.update s.limiter.limiters key (some s.limiter.buckets.length) }
        admitted := s.admitted ++ [(key, now, 1)] } := by
  have taken : (newTokenBucket s.limiter.rate s.limiter.capacity now).allowN now 1 =
      ({ newTokenBucket s.limiter.rate s.limiter.capacity now with tokens := s.limiter.capacity - 1 }, true) :=
    (newTokenBucket s.limiter.rate s.limiter.capacity now).allowN_at_lastUpdate 1 le_rfl
      (by simp only [newTokenBucket]; exact_mod_cast positive)
  rw [allowSteps, run_request_of_unmapped idle unmapped, taken, if_pos rfl]

/-- `k` requests of `key` at `now`, while the key's bucket was last updated then and holds at
least `k` tokens, are all admitted. -/
theorem run_allows_of_mapped (limiter : Nat) (k : Nat) :
    ∀ (s : Server) (tb : TokenBucket), s.inFlight client = none → s.limiter.limiters key = some limiter →
      s.limiter.buckets[limiter]? = some tb → tb.lastUpdate = now → tb.tokens ≤ tb.capacity →
      (k : ℚ) ≤ tb.tokens →
      (s.run (List.replicate k (allowSteps client key now)).flatten).admitted =
        s.admitted ++ List.replicate k (key, now, 1) := by
  induction k with
  | zero => intros; simp [run]
  | succ k ih =>
    intro s tb idle mapped atLimiter fresh atMost enough
    push_cast at enough
    have inBounds : limiter < s.limiter.buckets.length := (List.getElem?_eq_some_iff.mp atLimiter).1
    rw [List.replicate_succ, List.flatten_cons, run_append,
      run_allow_of_mapped idle mapped atLimiter fresh atMost (by linarith [(k.cast_nonneg : (0 : ℚ) ≤ k)]),
      ih _ { tb with tokens := tb.tokens - 1 }]
    · simp [List.replicate_succ]
    · exact idle
    · exact mapped
    · exact List.getElem?_set_self inBounds
    · exact fresh
    · dsimp only; linarith
    · dsimp only; linarith

/-- A request that takes a new bucket, a cleanup pass that deletes it while the request holds
it, and the request's `AllowN`: one request is admitted, and the key has no bucket in the
map. -/
theorem run_deleted_while_held (rate : ℚ) (capacity : Int) (key : String) (now : Int)
    (positive : 0 < capacity) :
    let s := (start rate capacity).run [.getLimiter 0 key 1 now, .cleanup, .allowN 0 now]
    s.inFlight 1 = none ∧ s.limiter.limiters key = none ∧ s.limiter.rate = rate ∧
      s.limiter.capacity = capacity ∧ s.limiter.buckets.length = 1 ∧ s.admitted = [(key, now, 1)] := by
  have taken : (newTokenBucket rate capacity now).allowN now 1 =
      ({ newTokenBucket rate capacity now with tokens := capacity - 1 }, true) :=
    (newTokenBucket rate capacity now).allowN_at_lastUpdate 1 le_rfl
      (by simp only [newTokenBucket]; exact_mod_cast positive)
  have full : ((newTokenBucket rate capacity now).capacity : ℚ) ≤ (newTokenBucket rate capacity now).tokens :=
    le_rfl
  simp [run, step, start, newIPRateLimiter, IPRateLimiter.getLimiter, IPRateLimiter.cleanup,
    IPRateLimiter.isFull, IPRateLimiter.allowNAt, taken, full]

end Burst

end Server

/-- A cleanup pass between a request's `getLimiter` and its `AllowN` lets a key exceed its
bucket's bound: the request still spends from the bucket the pass deleted, while the next
requests get a new full bucket. At one instant, `capacity + 1` requests are admitted where
one bucket allows `capacity`. -/
theorem cleanup_admits_second_burst (rate : ℚ) (capacity : Int) (key : String) (now : Int)
    (positive : 0 < capacity) :
    Server.admittedIn key now now
        ((Server.start rate capacity).run (Server.deleteWhileHeld key now capacity.toNat)).admitted =
      capacity + 1 ∧
    (capacity : ℚ) + ((now - now : Int) : ℚ) / second * rate <
      Server.admittedIn key now now
        ((Server.start rate capacity).run (Server.deleteWhileHeld key now capacity.toNat)).admitted := by
  obtain ⟨idle, unmapped, sameRate, sameCapacity, oneBucket, admittedFirst⟩ :=
    Server.run_deleted_while_held rate capacity key now positive
  obtain ⟨k, burst⟩ : ∃ k : Nat, capacity.toNat = k + 1 := ⟨capacity.toNat - 1, by omega⟩
  have admitted : ((Server.start rate capacity).run (Server.deleteWhileHeld key now capacity.toNat)).admitted =
      (key, now, 1) :: (key, now, 1) :: List.replicate k (key, now, 1) := by
    simp only [Server.deleteWhileHeld, Server.run_append, burst, List.replicate_succ, List.flatten_cons]
    rw [Server.run_allow_of_unmapped idle unmapped (by omega),
      Server.run_allows_of_mapped 1 k _ { newTokenBucket rate capacity now with tokens := capacity - 1 }]
    · simp [admittedFirst]
    · exact idle
    · simp [oneBucket]
    · rw [← oneBucket, List.getElem?_concat_length, sameRate, sameCapacity]
    · rfl
    · simp [newTokenBucket, sameCapacity]
    · have : ((k + 1 : Nat) : ℚ) = capacity := by exact_mod_cast (burst ▸ Int.toNat_of_nonneg positive.le)
      simp only [newTokenBucket]
      push_cast at this
      linarith
  have total : Server.admittedIn key now now
      ((Server.start rate capacity).run (Server.deleteWhileHeld key now capacity.toNat)).admitted = capacity + 1 := by
    simp [admitted, Server.admittedIn, TokenBucket.admittedIn]
    omega
  refine ⟨total, ?_⟩
  rw [total, sub_self, Int.cast_zero, zero_div, zero_mul, add_zero]
  push_cast
  exact lt_add_one _

/-- Capacity one: two requests of one key are admitted at one instant. -/
theorem cleanup_admits_second_burst_capacity_one :
    0 < (1 : Int) ∧
      (Server.admittedIn "10.0.0.1" 0 0
          ((Server.start 1 1).run (Server.deleteWhileHeld "10.0.0.1" 0 (1 : Int).toNat)).admitted = 1 + 1 ∧
        ((1 : Int) : ℚ) + ((0 - 0 : Int) : ℚ) / second * 1 <
          Server.admittedIn "10.0.0.1" 0 0
            ((Server.start 1 1).run (Server.deleteWhileHeld "10.0.0.1" 0 (1 : Int).toNat)).admitted) :=
  ⟨by decide, cleanup_admits_second_burst 1 1 "10.0.0.1" 0 (by decide)⟩

end Goupter.Middleware
