import Mathlib.Algebra.BigOperators.Group.List
import Mathlib.Algebra.Order.Field.Rat
import Mathlib.Tactic.Linarith
import Mathlib.Tactic.Ring

/-!
# The token bucket

`TokenBucket` of `src/pkg/server/middleware/ratelimit.go`. A bucket holds `tokens`, at most
`capacity`, and the instant of its last update. `AllowN(key, n)` first adds the tokens the
elapsed time is worth at `rate` tokens a second, capped at `capacity`, then takes `n` of them
if there are that many, and reports whether it did. The key is not read.

Instants are `time.Time` as nanoseconds (`Int`); the `float64` fields and the elapsed
seconds are exact rationals, so no rounding is modelled.

The main result, `admittedIn_le`, is the bound a bucket gives over any run of `AllowN` calls
at non-decreasing instants: the tokens granted to calls in `[a, b]` are at most
`capacity + rate * (b - a)`, with `b - a` in seconds. It is proved by one step of the run
(`refill_le_add`, `refill_allowN_le`) and an induction over the calls (`window_bound`).
With `Valid.serve`, which keeps the tokens between `0` and `capacity` along the run, it gives
`token_bucket_bound` for a bucket as `NewTokenBucket` creates it.
-/

namespace Goupter.Middleware

/-- One second, in nanoseconds. -/
def second : Int := 1000000000

theorem second_pos : (0 : ℚ) < (second : ℚ) := by
  norm_num [second]

/-- `TokenBucket`, without its mutex: every access holds it. -/
structure TokenBucket where
  rate : ℚ
  capacity : Int
  tokens : ℚ
  lastUpdate : Int
  deriving DecidableEq

/-- `NewTokenBucket(rate, capacity)` at `now`: a full bucket. -/
def newTokenBucket (rate : ℚ) (capacity : Int) (now : Int) : TokenBucket :=
  ⟨rate, capacity, capacity, now⟩

namespace TokenBucket

/-- `elapsed := now.Sub(tb.lastUpdate).Seconds()`. -/
def elapsed (now : Int) (tb : TokenBucket) : ℚ :=
  ((now - tb.lastUpdate : Int) : ℚ) / second

/-- The tokens `AllowN` has after adding `elapsed * rate`, capped at `capacity`. -/
def refill (now : Int) (tb : TokenBucket) : ℚ :=
  let tokens := tb.tokens + tb.elapsed now * tb.rate
  if tokens > tb.capacity then tb.capacity else tokens

/-- `TokenBucket.AllowN`: the bucket after the call, and whether the `n` tokens were taken. -/
def allowN (now : Int) (n : Int) (tb : TokenBucket) : TokenBucket × Bool :=
  let tokens := tb.refill now
  if tokens ≥ n then ({ tb with tokens := tokens - n, lastUpdate := now }, true)
  else ({ tb with tokens := tokens, lastUpdate := now }, false)

/-- `TokenBucket.Allow`: `AllowN(key, 1)`. -/
def allow (now : Int) (tb : TokenBucket) : TokenBucket × Bool :=
  tb.allowN now 1

/-- A run of `AllowN` calls, each an instant and a count: the bucket after them, and the
calls that were granted, in order. -/
def serve : TokenBucket → List (Int × Int) → TokenBucket × List (Int × Int)
  | tb, [] => (tb, [])
  | tb, (now, n) :: calls =>
    let (next, ok) := tb.allowN now n
    let (final, admitted) := serve next calls
    (final, if ok then (now, n) :: admitted else admitted)

/-- The tokens granted to the calls of `admitted` made in `[a, b]`. -/
def admittedIn (a b : Int) (admitted : List (Int × Int)) : Int :=
  ((admitted.filter fun call => decide (a ≤ call.1 ∧ call.1 ≤ b)).map Prod.snd).sum

/-- What every bucket of a limiter keeps: a rate that does not drain it, and between zero and
`capacity` tokens. -/
structure Valid (tb : TokenBucket) : Prop where
  rate_nonneg : 0 ≤ tb.rate
  tokens_nonneg : 0 ≤ tb.tokens
  tokens_le : tb.tokens ≤ tb.capacity

/-- The seconds from `u` to `t` add up over an intermediate instant `m`. -/
theorem seconds_add (u m t : Int) :
    ((t - u : Int) : ℚ) / second = ((m - u : Int) : ℚ) / second + ((t - m : Int) : ℚ) / second := by
  rw [← add_div]
  push_cast
  ring

/-- The tokens a non-negative rate adds from `u` to a later `t`. -/
theorem gain_nonneg {rate : ℚ} (nonnegRate : 0 ≤ rate) {u t : Int} (later : u ≤ t) :
    0 ≤ ((t - u : Int) : ℚ) / second * rate :=
  mul_nonneg (div_nonneg (by exact_mod_cast Int.sub_nonneg.mpr later) second_pos.le) nonnegRate

section Refill

variable {tb : TokenBucket}

@[simp]
theorem allowN_lastUpdate (now n : Int) : (tb.allowN now n).1.lastUpdate = now := by
  unfold allowN; dsimp only
  split <;> rfl

@[simp]
theorem allowN_capacity (now n : Int) : (tb.allowN now n).1.capacity = tb.capacity := by
  unfold allowN; dsimp only
  split <;> rfl

@[simp]
theorem allowN_rate (now n : Int) : (tb.allowN now n).1.rate = tb.rate := by
  unfold allowN; dsimp only
  split <;> rfl

/-- What one call takes: `n` tokens from the refill when it grants them, none otherwise. -/
theorem allowN_tokens (now n : Int) :
    (tb.allowN now n).1.tokens = tb.refill now - if (tb.allowN now n).2 then (n : ℚ) else 0 := by
  unfold allowN; dsimp only
  split <;> simp

theorem allowN_granted {now n : Int} (granted : (tb.allowN now n).2 = true) : (n : ℚ) ≤ tb.refill now := by
  unfold allowN at granted; dsimp only at granted
  split at granted
  · assumption
  · cases granted

theorem elapsed_nonneg {now : Int} (after : tb.lastUpdate ≤ now) : 0 ≤ tb.elapsed now :=
  div_nonneg (by exact_mod_cast Int.sub_nonneg.mpr after) second_pos.le

theorem refill_eq_min (now : Int) :
    tb.refill now = min (tb.capacity : ℚ) (tb.tokens + tb.elapsed now * tb.rate) := by
  unfold refill; dsimp only
  split
  · exact (min_eq_left (le_of_lt ‹_›)).symm
  · exact (min_eq_right (not_lt.mp ‹_›)).symm

theorem refill_le_capacity (tb : TokenBucket) (now : Int) : tb.refill now ≤ tb.capacity := by
  rw [refill_eq_min]
  exact min_le_left _ _

theorem refill_le (tb : TokenBucket) (now : Int) : tb.refill now ≤ tb.tokens + tb.elapsed now * tb.rate := by
  rw [refill_eq_min]
  exact min_le_right _ _

theorem refill_nonneg (valid : tb.Valid) {now : Int} (after : tb.lastUpdate ≤ now) : 0 ≤ tb.refill now := by
  rw [refill_eq_min]
  exact le_min (valid.tokens_nonneg.trans valid.tokens_le)
    (add_nonneg valid.tokens_nonneg (mul_nonneg (elapsed_nonneg after) valid.rate_nonneg))

/-- The elapsed time adds up: from the last update to `now` is to `u`, then on to `now`. -/
theorem elapsed_add (u now : Int) :
    tb.elapsed now = tb.elapsed u + ((now - u : Int) : ℚ) / second :=
  seconds_add tb.lastUpdate u now

/-- Refilling later adds at most what the extra time is worth. -/
theorem refill_le_add (nonnegRate : 0 ≤ tb.rate) {u now : Int} (later : u ≤ now) :
    tb.refill now ≤ tb.refill u + ((now - u : Int) : ℚ) / second * tb.rate := by
  have gain := gain_nonneg nonnegRate later
  rw [refill_eq_min, refill_eq_min, elapsed_add u now, add_mul, ← add_assoc]
  calc min (tb.capacity : ℚ) (tb.tokens + tb.elapsed u * tb.rate + ((now - u : Int) : ℚ) / second * tb.rate)
      ≤ min (tb.capacity + ((now - u : Int) : ℚ) / second * tb.rate)
          (tb.tokens + tb.elapsed u * tb.rate + ((now - u : Int) : ℚ) / second * tb.rate) :=
        min_le_min_right _ (le_add_of_nonneg_right gain)
    _ = min (tb.capacity : ℚ) (tb.tokens + tb.elapsed u * tb.rate) + ((now - u : Int) : ℚ) / second * tb.rate :=
        min_add_add_right _ _ _

theorem taken_nonneg (tb : TokenBucket) (now : Int) {n : Int} (nonnegCount : 0 ≤ n) :
    (0 : ℚ) ≤ if (tb.allowN now n).2 then (n : ℚ) else 0 := by
  split
  · exact_mod_cast nonnegCount
  · exact le_rfl

/-- A call at `now` leaves the bucket no fuller, seen from a later instant `u`, than it was. -/
theorem refill_allowN_le (tb : TokenBucket) (now u : Int) {n : Int} (nonnegCount : 0 ≤ n) :
    (tb.allowN now n).1.refill u ≤ tb.refill u := by
  have since : (tb.allowN now n).1.elapsed u = ((u - now : Int) : ℚ) / second := by
    rw [elapsed, allowN_lastUpdate]
  rw [refill_eq_min, refill_eq_min, allowN_capacity, allowN_rate, allowN_tokens, since,
    elapsed_add now u, add_mul]
  rw [← add_assoc]
  exact min_le_min_left _
    (add_le_add_right ((sub_le_self _ (taken_nonneg tb now nonnegCount)).trans (refill_le tb now)) _)

/-- At the instant of its last update, a bucket that is not over capacity holds what it stores. -/
theorem refill_self (tb : TokenBucket) (atMost : tb.tokens ≤ tb.capacity) :
    tb.refill tb.lastUpdate = tb.tokens := by
  rw [refill_eq_min, elapsed, sub_self, Int.cast_zero, zero_div, zero_mul, add_zero]
  exact min_eq_right atMost

/-- Right after a call, the refill at the same instant is what the call left. -/
theorem refill_allowN_self {now n : Int} (nonnegCount : 0 ≤ n) :
    (tb.allowN now n).1.refill now = (tb.allowN now n).1.tokens := by
  have left := refill_self (tb.allowN now n).1 (by
    rw [allowN_tokens, allowN_capacity]
    exact (sub_le_self _ (taken_nonneg tb now nonnegCount)).trans (refill_le_capacity tb now))
  rwa [allowN_lastUpdate] at left

/-- A call at the instant of the last update takes `n` tokens when the bucket has them. -/
theorem allowN_at_lastUpdate (n : Int) (atMost : tb.tokens ≤ tb.capacity) (enough : (n : ℚ) ≤ tb.tokens) :
    tb.allowN tb.lastUpdate n = ({ tb with tokens := tb.tokens - n }, true) := by
  unfold allowN; dsimp only
  rw [refill_self tb atMost, if_pos enough]

/-- A bucket that stores its capacity acts, at any later call, as a new bucket created at the
call: both refill to `capacity`. -/
theorem allowN_of_full (nonnegRate : 0 ≤ tb.rate) (full : tb.tokens = tb.capacity) {now n : Int}
    (after : tb.lastUpdate ≤ now) : tb.allowN now n = (newTokenBucket tb.rate tb.capacity now).allowN now n := by
  have same : tb.refill now = (newTokenBucket tb.rate tb.capacity now).refill now := by
    have created : (newTokenBucket tb.rate tb.capacity now).refill now = tb.capacity :=
      refill_self (newTokenBucket tb.rate tb.capacity now) le_rfl
    rw [created, refill_eq_min, full]
    exact min_eq_left (le_add_of_nonneg_right (mul_nonneg (elapsed_nonneg after) nonnegRate))
  unfold allowN; dsimp only
  rw [same]
  rfl

/-- A call keeps a bucket valid. -/
theorem Valid.allowN (valid : tb.Valid) {now n : Int} (after : tb.lastUpdate ≤ now) (nonnegCount : 0 ≤ n) :
    (tb.allowN now n).1.Valid := by
  have atMost := refill_le_capacity tb now
  have atLeast := refill_nonneg valid after
  refine ⟨by rw [allowN_rate]; exact valid.rate_nonneg, ?_, ?_⟩
  · rw [allowN_tokens]
    split
    · exact sub_nonneg.mpr (allowN_granted ‹_›)
    · rwa [sub_zero]
  · rw [allowN_tokens, allowN_capacity]
    exact (sub_le_self _ (taken_nonneg tb now nonnegCount)).trans atMost

end Refill

section Window

theorem serve_cons (tb : TokenBucket) (now n : Int) (calls : List (Int × Int)) :
    (serve tb ((now, n) :: calls)).2 =
      (if (tb.allowN now n).2 then [(now, n)] else []) ++ (serve (tb.allowN now n).1 calls).2 := by
  show (match tb.allowN now n with
    | (next, ok) => match serve next calls with
      | (final, admitted) => (final, if ok then (now, n) :: admitted else admitted)).2 = _
  rcases tb.allowN now n with ⟨next, _ | _⟩ <;> rfl

theorem serve_fst_cons (tb : TokenBucket) (now n : Int) (calls : List (Int × Int)) :
    (serve tb ((now, n) :: calls)).1 = (serve (tb.allowN now n).1 calls).1 := by
  show (match tb.allowN now n with
    | (next, ok) => match serve next calls with
      | (final, admitted) => (final, if ok then (now, n) :: admitted else admitted)).1 = _
  rcases tb.allowN now n with ⟨next, _ | _⟩ <;> rfl

@[simp] theorem serve_capacity (tb : TokenBucket) (calls : List (Int × Int)) :
    (serve tb calls).1.capacity = tb.capacity := by
  induction calls generalizing tb with
  | nil => rfl
  | cons call calls ih => rw [serve_fst_cons, ih, allowN_capacity]

/-- A run of calls at non-decreasing instants, none before the last update, keeps a bucket
valid. -/
theorem Valid.serve {tb : TokenBucket} (valid : tb.Valid) {calls : List (Int × Int)}
    (sorted : (calls.map Prod.fst).Pairwise (· ≤ ·)) (started : ∀ call ∈ calls, tb.lastUpdate ≤ call.1)
    (counts : ∀ call ∈ calls, 0 ≤ call.2) : (serve tb calls).1.Valid := by
  induction calls generalizing tb with
  | nil => exact valid
  | cons call calls ih =>
    obtain ⟨now, n⟩ := call
    obtain ⟨nowFirst, restSorted⟩ := List.pairwise_cons.mp sorted
    rw [serve_fst_cons]
    exact ih (valid.allowN (started _ (List.mem_cons_self _ _)) (counts _ (List.mem_cons_self _ _)))
      restSorted (fun call mem => by
        rw [allowN_lastUpdate]
        exact nowFirst _ (List.mem_map_of_mem Prod.fst mem))
      fun call mem => counts call (List.mem_cons_of_mem _ mem)

theorem mem_of_admitted {tb : TokenBucket} {calls : List (Int × Int)} {call : Int × Int}
    (admitted : call ∈ (serve tb calls).2) : call ∈ calls := by
  induction calls generalizing tb with
  | nil => cases admitted
  | cons head calls ih =>
    rw [serve_cons, List.mem_append] at admitted
    rcases admitted with first | rest
    · split at first
      · rw [List.mem_singleton.mp first]
        exact List.mem_cons_self _ _
      · cases first
    · exact List.mem_cons_of_mem _ (ih rest)

theorem admittedIn_append (a b : Int) (first rest : List (Int × Int)) :
    admittedIn a b (first ++ rest) = admittedIn a b first + admittedIn a b rest := by
  simp [admittedIn, List.filter_append, List.sum_append]

/-- A window that starts at or before every admitted call counts them as one that starts at
the earliest of them. -/
theorem admittedIn_restart {u t b : Int} {admitted : List (Int × Int)} (earlier : u ≤ t)
    (after : ∀ call ∈ admitted, t ≤ call.1) : admittedIn u b admitted = admittedIn t b admitted := by
  have same : admitted.filter (fun call => decide (u ≤ call.1 ∧ call.1 ≤ b)) =
      admitted.filter (fun call => decide (t ≤ call.1 ∧ call.1 ≤ b)) :=
    List.filter_congr fun call mem => by
      have := after call mem
      simp only [decide_eq_decide]
      omega
  rw [admittedIn, same, admittedIn]

theorem admittedIn_eq_zero {a b : Int} {admitted : List (Int × Int)}
    (outside : ∀ call ∈ admitted, b < call.1) : admittedIn a b admitted = 0 := by
  unfold admittedIn
  rw [List.filter_eq_nil_iff.mpr fun call mem => by simp [Int.not_le.mpr (outside call mem)]]
  rfl

variable (b : Int)

/-- From instant `u` on, the calls of a run made up to `b` are granted at most the bucket's
refill at `u` and what the time from `u` to `b` is worth. -/
theorem window_bound (calls : List (Int × Int)) :
    ∀ (tb : TokenBucket) (u : Int), tb.Valid → tb.lastUpdate ≤ u → u ≤ b →
      (calls.map Prod.fst).Pairwise (· ≤ ·) → (∀ call ∈ calls, tb.lastUpdate ≤ call.1) →
      (∀ call ∈ calls, 0 ≤ call.2) →
      (admittedIn u b (serve tb calls).2 : ℚ) ≤ tb.refill u + ((b - u : Int) : ℚ) / second * tb.rate := by
  induction calls with
  | nil =>
    intro tb u valid after within _ _ _
    have gain := gain_nonneg valid.rate_nonneg within
    have := refill_nonneg valid after
    show ((admittedIn u b [] : Int) : ℚ) ≤ _
    simp only [admittedIn, List.filter_nil, List.map_nil, List.sum_nil, Int.cast_zero]
    linarith
  | cons call calls ih =>
    obtain ⟨now, n⟩ := call
    intro tb u valid after within sorted started counts
    obtain ⟨nowFirst, restSorted⟩ := List.pairwise_cons.mp sorted
    have restAfter : ∀ call ∈ calls, now ≤ call.1 := fun call mem =>
      nowFirst _ (List.mem_map_of_mem Prod.fst mem)
    have nonnegCount : 0 ≤ n := counts _ (List.mem_cons_self _ _)
    have nowAfter : tb.lastUpdate ≤ now := started _ (List.mem_cons_self _ _)
    have nextValid := valid.allowN nowAfter nonnegCount
    rw [serve_cons, admittedIn_append, Int.cast_add]
    by_cases early : now < u
    · have notCounted : admittedIn u b (if (tb.allowN now n).2 then [(now, n)] else []) = 0 := by
        split <;> simp [admittedIn, Int.not_le.mpr early]
      have rest := ih (tb.allowN now n).1 u nextValid (by rw [allowN_lastUpdate]; omega) within
        restSorted (fun call mem => by rw [allowN_lastUpdate]; exact restAfter call mem)
        (fun call mem => counts call (List.mem_cons_of_mem _ mem))
      have fuller := refill_allowN_le tb now u nonnegCount
      rw [notCounted, Int.cast_zero, zero_add, allowN_rate] at *
      linarith
    · by_cases late : b < now
      · have notCounted : admittedIn u b (if (tb.allowN now n).2 then [(now, n)] else []) = 0 := by
          split <;> simp [admittedIn, Int.not_le.mpr late]
        rw [notCounted, admittedIn_eq_zero fun call mem =>
          Int.lt_of_lt_of_le late (restAfter call (mem_of_admitted mem))]
        have := refill_nonneg valid after
        have gain := gain_nonneg valid.rate_nonneg within
        simp only [Int.cast_zero, zero_add]
        linarith
      · have inWindow : u ≤ now ∧ now ≤ b := ⟨Int.not_lt.mp early, Int.not_lt.mp late⟩
        have counted : (admittedIn u b (if (tb.allowN now n).2 then [(now, n)] else []) : ℚ) =
            if (tb.allowN now n).2 then (n : ℚ) else 0 := by
          split <;> simp [admittedIn, inWindow]
        have restarted : admittedIn u b (serve (tb.allowN now n).1 calls).2 =
            admittedIn now b (serve (tb.allowN now n).1 calls).2 :=
          admittedIn_restart inWindow.1 fun call mem => restAfter call (mem_of_admitted mem)
        have rest := ih (tb.allowN now n).1 now nextValid (by rw [allowN_lastUpdate]) inWindow.2
          restSorted (fun call mem => by rw [allowN_lastUpdate]; exact restAfter call mem)
          (fun call mem => counts call (List.mem_cons_of_mem _ mem))
        rw [refill_allowN_self nonnegCount, allowN_tokens, allowN_rate] at rest
        have step := refill_le_add valid.rate_nonneg inWindow.1
        rw [counted, restarted, seconds_add u now b, add_mul]
        linarith

/-- A valid bucket grants the calls of any run at non-decreasing instants, within any window
`[a, b]`, at most `capacity + rate * (b - a)` tokens, `b - a` in seconds. -/
theorem admittedIn_le (a : Int) (tb : TokenBucket) (calls : List (Int × Int)) (valid : tb.Valid)
    (within : a ≤ b) (sorted : (calls.map Prod.fst).Pairwise (· ≤ ·))
    (started : ∀ call ∈ calls, tb.lastUpdate ≤ call.1) (counts : ∀ call ∈ calls, 0 ≤ call.2) :
    (admittedIn a b (serve tb calls).2 : ℚ) ≤ tb.capacity + ((b - a : Int) : ℚ) / second * tb.rate := by
  have window := gain_nonneg valid.rate_nonneg within
  by_cases fresh : tb.lastUpdate ≤ a
  · have := window_bound b calls tb a valid fresh within sorted started counts
    linarith [refill_le_capacity tb a]
  · by_cases unused : b < tb.lastUpdate
    · rw [admittedIn_eq_zero fun call mem =>
        Int.lt_of_lt_of_le unused (started call (mem_of_admitted mem)), Int.cast_zero]
      linarith [valid.tokens_nonneg.trans valid.tokens_le]
    · have later := window_bound b calls tb tb.lastUpdate valid le_rfl (Int.not_lt.mp unused) sorted
        started counts
      rw [← admittedIn_restart (Int.le_of_lt (Int.not_le.mp fresh))
        fun call mem => started call (mem_of_admitted mem)] at later
      have before := gain_nonneg valid.rate_nonneg (Int.le_of_lt (Int.not_le.mp fresh))
      rw [seconds_add a tb.lastUpdate b, add_mul]
      linarith [refill_le_capacity tb tb.lastUpdate]

end Window

/-- The token-bucket bound: a bucket created with a non-negative rate and capacity and
called with counts of at least one at non-decreasing instants holds between `0` and
`capacity` tokens after every call, and grants the calls of any window `[a, b]` at most
`capacity + rate * (b - a)` tokens, `b - a` in seconds. -/
theorem token_bucket_bound (rate : ℚ) (capacity created : Int) (calls : List (Int × Int))
    (nonnegRate : 0 ≤ rate) (nonnegCapacity : 0 ≤ capacity)
    (sorted : (calls.map Prod.fst).Pairwise (· ≤ ·)) (started : ∀ call ∈ calls, created ≤ call.1)
    (counts : ∀ call ∈ calls, 1 ≤ call.2) :
    (∀ k, 0 ≤ (serve (newTokenBucket rate capacity created) (calls.take k)).1.tokens ∧
      (serve (newTokenBucket rate capacity created) (calls.take k)).1.tokens ≤ capacity) ∧
    ∀ a b, a ≤ b → (admittedIn a b (serve (newTokenBucket rate capacity created) calls).2 : ℚ) ≤
      capacity + ((b - a : Int) : ℚ) / second * rate := by
  have valid : (newTokenBucket rate capacity created).Valid :=
    ⟨nonnegRate, Int.cast_nonneg.mpr nonnegCapacity, le_rfl⟩
  have nonnegCounts : ∀ call ∈ calls, 0 ≤ call.2 := fun call mem => by
    have := counts call mem
    omega
  refine ⟨fun k => ?_, fun a b within =>
    admittedIn_le b a _ calls valid within sorted started nonnegCounts⟩
  have prefixValid := valid.serve (sorted.sublist ((List.take_sublist k calls).map Prod.fst))
    (fun call mem => started call (List.mem_of_mem_take mem))
    fun call mem => nonnegCounts call (List.mem_of_mem_take mem)
  have atMost := prefixValid.tokens_le
  rw [serve_capacity] at atMost
  exact ⟨prefixValid.tokens_nonneg, atMost⟩

/-- The default limiter's bucket, 10 tokens a second and 100 at most, with a burst of 100
at its creation and a call one second later. -/
theorem token_bucket_bound_default_burst :
    (∀ k, 0 ≤ (serve (newTokenBucket 10 100 0) ([(0, 1), (0, 99), (0, 1), (1000000000, 10)].take k)).1.tokens ∧
      (serve (newTokenBucket 10 100 0) ([(0, 1), (0, 99), (0, 1), (1000000000, 10)].take k)).1.tokens ≤ (100 : Int)) ∧
    ∀ a b, a ≤ b →
      (admittedIn a b (serve (newTokenBucket 10 100 0) [(0, 1), (0, 99), (0, 1), (1000000000, 10)]).2 : ℚ) ≤
        (100 : Int) + ((b - a : Int) : ℚ) / second * 10 :=
  token_bucket_bound 10 100 0 [(0, 1), (0, 99), (0, 1), (1000000000, 10)] (by norm_num) (by decide)
    (by decide) (by decide) (by decide)

end TokenBucket

end Goupter.Middleware
