import Mathlib.Data.List.Basic
import Goupter.Cache.Memory.Basic

/-!
# Counters of the in-process store

`IncrBy` holds the store's lock for its whole read-modify-write, so concurrent counter
calls on a key run one after another, in some order; a history of counter calls is a
list. Each call returns the previous value plus its delta, reduced to `int64`
(`counterReplay_replies`): no update is lost, and while the sums stay in range they are
exact (`counterReplay_replies_of_inRange`).

Three departures from the spec show up here. The sum is Go `int64` arithmetic, so it
wraps around instead of failing as the network tier's `INCRBY` does
(`incrBy_wraps_on_overflow`). `IncrBy` writes a fresh item with no expiry, so
incrementing a counter that had a TTL makes it permanent (`incrBy_drops_expiry`). And
`IncrBy` ignores the error of `json.Unmarshal`, so a live value that is not an `int64` is
read as `0` and overwritten by the delta, with a `nil` error
(`counter_overwrites_non_integer`), where `INCRBY` fails and leaves the value.
-/

namespace Goupter.Cache

/-- The delta of a counter call in the integers: `-n` for `DecrBy(n)`. -/
def CounterOp.delta : CounterOp → Int
  | .incr => 1
  | .incrBy n => n
  | .decr => -1
  | .decrBy n => -n

/-- Adding a reduced `int64` is adding the integer and reducing. -/
theorem wrapInt64_add_wrapInt64 (x y : Int) : wrapInt64 (x + wrapInt64 y) = wrapInt64 (x + y) := by
  unfold wrapInt64
  omega

namespace MemoryCache

variable (c : MemoryCache) (now : Int) (key : String)

/-- After `IncrBy` the key holds the returned value, with no expiry. -/
@[simp] theorem incrBy_data (value : Int) :
    (c.incrBy now key value).1.data key =
      some { value := .number (c.incrBy now key value).2 0, expiresAt := none } := by
  simp [incrBy]

/-- Every counter call returns the value it read plus its delta, in `int64` arithmetic. -/
theorem counter_reply (op : CounterOp) :
    (c.counter now key op).2 = wrapInt64 (c.counterValue now key + op.delta) := by
  cases op <;> simp [counter, decrBy, incrBy, CounterOp.delta, wrapInt64_add_wrapInt64]

/-- An `int64` written with no expiry is read back as itself at any instant. -/
theorem counterValue_insert_int64 {n : Int} (lower : minInt64 ≤ n) (upper : n ≤ maxInt64)
    (later : Int) :
    (c.insert key { value := .number n 0, expiresAt := none }).counterValue later key = n := by
  simp [counterValue, live_insert, CacheItem.isExpired, Codec.int64, lower, upper]

/-- A counter written by a counter call is read back as the value it returned, at any
later instant. -/
theorem counterValue_counter (op : CounterOp) (later : Int) :
    (c.counter now key op).1.counterValue later key = (c.counter now key op).2 := by
  have written : ∀ value,
      (c.incrBy now key value).1.counterValue later key = (c.incrBy now key value).2 := fun value =>
    counterValue_insert_int64 c key (wrapInt64_inRange _).1 (wrapInt64_inRange _).2 later
  cases op <;> exact written _

/-- A counter call leaves the key holding the value it returned, with no expiry. -/
theorem counter_data (op : CounterOp) :
    (c.counter now key op).1.data key =
      some { value := .number (c.counter now key op).2 0, expiresAt := none } := by
  cases op <;> exact incrBy_data c now key _

/-- A live value that is not an `int64` (a string, a fraction, an object, a boolean, `null`)
is read as `0`: `IncrBy` drops the error of `json.Unmarshal`. -/
theorem counterValue_of_not_int64 {item : CacheItem} (isLive : c.live now key = some item)
    (notInt64 : ∀ m, item.value = .number m 0 → ¬(minInt64 ≤ m ∧ m ≤ maxInt64)) :
    c.counterValue now key = 0 := by
  unfold counterValue
  rw [isLive]
  obtain ⟨value, expiresAt⟩ := item
  cases value with
  | number m e =>
    show (if e = 0 ∧ minInt64 ≤ m ∧ m ≤ maxInt64 then (m, none) else _).1 = 0
    split
    · rename_i isInt64
      obtain ⟨rfl, inRange⟩ := isInt64
      exact absurd inRange (notInt64 m rfl)
    · rfl
  | _ => rfl

/-- A counter call on a key whose live value is not an `int64` does not fail: it replies with
its delta and a `nil` error, and replaces the value with the delta, with no expiry. -/
theorem counter_overwrites_non_integer {α : Type} (codec : Codec α) (op : CounterOp)
    {item : CacheItem} (isLive : c.live now key = some item)
    (notInt64 : ∀ m, item.value = .number m 0 → ¬(minInt64 ≤ m ∧ m ≤ maxInt64)) :
    (c.perform codec now (.counter key op)).2 = (wrapInt64 op.delta, none) ∧
      (c.perform codec now (.counter key op)).1.data key =
        some { value := .number (wrapInt64 op.delta) 0, expiresAt := none } := by
  have reply : (c.counter now key op).2 = wrapInt64 op.delta := by
    rw [counter_reply, counterValue_of_not_int64 c now key isLive notInt64, Int.zero_add]
  exact ⟨by rw [← reply]; rfl, by rw [← reply]; exact counter_data c now key op⟩

/-- `Set("k", "abc", 0)` then `Incr("k")`: the reply is `1, nil` and `"k"` now holds `1`. -/
theorem counter_overwrites_non_integer_incr_string :
    ((empty.insert "k" (.make 0 (.string "abc") 0)).perform Codec.any 0 (.counter "k" .incr)).2 =
        (wrapInt64 (CounterOp.delta .incr), none) ∧
      ((empty.insert "k" (.make 0 (.string "abc") 0)).perform Codec.any 0 (.counter "k" .incr)).1.data "k" =
        some { value := .number (wrapInt64 (CounterOp.delta .incr)) 0, expiresAt := none } :=
  counter_overwrites_non_integer (empty.insert "k" (.make 0 (.string "abc") 0)) 0 "k" Codec.any .incr
    (show _ = some (.make 0 (.string "abc") 0) by simp) fun _ isNumber => Json.noConfusion isNumber

/-- A history of counter calls on `key`, at the given instants: the store after it and
the values the calls returned. -/
def counterReplay : List (Int × CounterOp) → MemoryCache → MemoryCache × List Int
  | [], c => (c, [])
  | (now, op) :: calls, c =>
    let step := c.counter now key op
    let rest := counterReplay calls step.1
    (rest.1, step.2 :: rest.2)

/-- The values returned by a history of counter calls: starting from what the first
call reads, each is the previous one plus the call's delta, reduced to `int64`. -/
theorem counterReplay_replies (op : CounterOp) (calls : List (Int × CounterOp)) :
    (counterReplay key ((now, op) :: calls) c).2 =
      (((op :: calls.map Prod.snd).map CounterOp.delta).scanl
        (fun acc delta => wrapInt64 (acc + delta)) (c.counterValue now key)).tail := by
  induction calls generalizing c now op with
  | nil => simp [counterReplay, counter_reply]
  | cons call calls ih =>
    obtain ⟨later, next⟩ := call
    have rest := ih (c.counter now key op).1 later next
    rw [counterValue_counter] at rest
    show (c.counter now key op).2 ::
      (counterReplay key ((later, next) :: calls) (c.counter now key op).1).2 = _
    rw [rest, counter_reply]
    rfl

/-- Reduction to `int64` changes none of a list of partial sums that stay in range. -/
theorem scanl_wrapInt64_of_inRange (start : Int) (deltas : List Int)
    (inRange : ∀ sum ∈ deltas.scanl (· + ·) start, minInt64 ≤ sum ∧ sum ≤ maxInt64) :
    deltas.scanl (fun acc delta => wrapInt64 (acc + delta)) start = deltas.scanl (· + ·) start := by
  induction deltas generalizing start with
  | nil => rfl
  | cons delta deltas ih =>
    have sumInRange := inRange (start + delta) (by cases deltas <;> simp)
    simp only [List.scanl, wrapInt64_of_inRange sumInRange.1 sumInRange.2, List.cons.injEq, true_and]
    exact ih _ fun sum mem => inRange sum (List.mem_cons_of_mem _ mem)

/-- While every partial sum stays within `int64`, each counter call of a history returns
exactly the value it read plus its delta. -/
theorem counterReplay_replies_of_inRange (op : CounterOp) (calls : List (Int × CounterOp))
    (inRange : ∀ sum ∈ ((op :: calls.map Prod.snd).map CounterOp.delta).scanl (· + ·)
      (c.counterValue now key), minInt64 ≤ sum ∧ sum ≤ maxInt64) :
    (counterReplay key ((now, op) :: calls) c).2 =
      (((op :: calls.map Prod.snd).map CounterOp.delta).scanl (· + ·) (c.counterValue now key)).tail := by
  rw [counterReplay_replies, scanl_wrapInt64_of_inRange _ _ inRange]

/-- The failing input of the counter's range: from a missing key, `IncrBy(MaxInt64)` and
then `Incr` returns `MinInt64` and stores it, for the sum `2^63`; `DecrBy(MinInt64)` on a
missing key also returns `MinInt64` for the sum `2^63`. -/
theorem incrBy_wraps_on_overflow :
    (counterReplay "counter" [(0, .incrBy maxInt64), (0, .incr)] empty).2 = [maxInt64, minInt64] ∧
      (counterReplay "counter" [(0, .incrBy maxInt64), (0, .incr)] empty).1.data "counter" =
        some { value := .number minInt64 0, expiresAt := none } ∧
      (empty.counter 0 "counter" (.decrBy minInt64)).2 = minInt64 := by
  decide

/-- The failing input of the counter's expiry: a counter set at `0` to live 60
nanoseconds has TTL `60`; after `IncrBy(1)` at `0` its TTL is `-1`, and at `61` it still
exists, where the counter it replaced had expired. -/
theorem incrBy_drops_expiry :
    let c : MemoryCache := empty.insert "counter" (.make 0 (.number 10 0) 60)
    let incremented := (c.incrBy 0 "counter" 1).1
    c.ttl 0 "counter" = 60 ∧ incremented.ttl 0 "counter" = -1 ∧
      c.exists 61 "counter" = false ∧ incremented.exists 61 "counter" = true := by
  decide

end MemoryCache

end Goupter.Cache
