import Mathlib.Algebra.Order.Group.Nat
import Goupter.Cache.Json

/-!
# The rate sampler

`RateSampler` of `src/pkg/log/sampler_test.go`. `NewRateSampler(rate)` replaces a rate of
zero or less by `1`; `Sample` adds one to an `int64` counter with `atomic.AddInt64` and
samples when the new count `n` satisfies `n % rate == 1`. The atomic add gives each call its
own count, so the calls are taken in the order of their adds, one after another, and `k`
calls are `sampleRun` of `k`. The level and the message are not read.

With a rate of at least `2`, exactly `⌈k / rate⌉` of the first `k` calls sample: the first,
the `(rate + 1)`-th, and so on (`sampleRun_count_of_two_le`). With a rate of `1`, and so with
every rate of zero or less, `n % 1` is `0` and never `1`: no call samples at all
(`rate_one_never_samples`), where the type's comment promises every message.
-/

namespace Goupter.Log

open Goupter.Cache (wrapInt64 maxInt64 minInt64)

/-- `RateSampler`: the rate and the count of calls so far, both `int64`. -/
structure RateSampler where
  rate : Int
  counter : Int
deriving DecidableEq, Repr

/-- `NewRateSampler(rate)`: a rate of zero or less is replaced by `1`. -/
def newRateSampler (rate : Int) : RateSampler := ⟨if rate ≤ 0 then 1 else rate, 0⟩

namespace RateSampler

/-- `RateSampler.Sample`: `n := atomic.AddInt64(&s.counter, 1)` in `int64` arithmetic, then
`n % s.rate == 1` with Go's remainder, which takes the sign of `n`. -/
def sample (s : RateSampler) : RateSampler × Bool :=
  (⟨s.rate, wrapInt64 (s.counter + 1)⟩, (wrapInt64 (s.counter + 1)).tmod s.rate == 1)

/-- `k` calls of `Sample` in turn: the sampler after them and their answers. -/
def sampleRun : RateSampler → Nat → RateSampler × List Bool
  | s, 0 => (s, [])
  | s, k + 1 => ((sampleRun s.sample.1 k).1, s.sample.2 :: (sampleRun s.sample.1 k).2)

/-- The answers of `k` calls: the `i`-th call, from `0`, samples when the counter plus
`i + 1`, in `int64`, leaves remainder `1`. -/
theorem sampleRun_answers (s : RateSampler) (k : Nat) :
    (s.sampleRun k).2 =
      (List.range k).map fun i : Nat => (wrapInt64 (s.counter + ((i : Int) + 1))).tmod s.rate == 1 := by
  induction k generalizing s with
  | zero => rfl
  | succ k ih =>
    simp only [sampleRun, ih, List.range_succ_eq_map, List.map_cons, List.map_map]
    congr 1
    refine List.map_congr_left fun i _ => ?_
    have carried : wrapInt64 (wrapInt64 (s.counter + 1) + ((i : Int) + 1)) =
        wrapInt64 (s.counter + (((i + 1 : Nat) : Int) + 1)) := by
      unfold wrapInt64
      omega
    simp only [Function.comp_apply, sample, carried]

end RateSampler

open RateSampler

/-- With a rate of `1`, or any rate of zero or less, which `NewRateSampler` turns into `1`,
no call samples. -/
theorem rate_one_never_samples (rate : Int) (atMostOne : rate ≤ 1) (k : Nat) :
    ((newRateSampler rate).sampleRun k).2 = List.replicate k false := by
  have one : (newRateSampler rate).rate = 1 := by
    simp only [newRateSampler]
    split <;> omega
  rw [sampleRun_answers, one]
  simp [Int.tmod_one, List.map_const']

/-- `NewRateSampler(0)`, then three calls of `Sample`. -/
theorem rate_one_never_samples_zero_rate :
    ((newRateSampler 0).sampleRun 3).2 = List.replicate 3 false :=
  rate_one_never_samples 0 (by decide) 3

/-- `(i + 1) % rate = 1` exactly when `rate` divides `i`, for a rate of at least `2`. -/
theorem succ_mod_eq_one_iff {rate : Nat} (two : 2 ≤ rate) (i : Nat) : (i + 1) % rate = 1 ↔ rate ∣ i := by
  rw [Nat.dvd_iff_mod_eq_zero, Nat.add_mod, Nat.mod_eq_of_lt (show 1 < rate by omega)]
  have := Nat.mod_lt i (show 0 < rate by omega)
  rcases Nat.lt_or_ge (i % rate + 1) rate with small | big
  · rw [Nat.mod_eq_of_lt small]
    omega
  · rw [show i % rate + 1 = rate by omega, Nat.mod_self]
    omega

/-- Among the counts `1, ..., k`, those with remainder `1` are `⌈k / rate⌉`. -/
theorem count_succ_mod_eq_one {rate : Nat} (two : 2 ≤ rate) (k : Nat) :
    ((List.range k).map fun i => decide ((i + 1) % rate = 1)).count true = (k + rate - 1) / rate := by
  induction k with
  | zero => exact (Nat.div_eq_of_lt (by omega)).symm
  | succ k ih =>
    rw [List.range_succ, List.map_append, List.count_append, ih,
      show k + 1 + rate - 1 = k + rate - 1 + 1 by omega, Nat.succ_div,
      show k + rate - 1 + 1 = k + rate by omega]
    by_cases divides : rate ∣ k <;> simp [Nat.dvd_add_self_right, succ_mod_eq_one_iff two, divides]

/-- With a rate of at least `2`, and while the counter stays within `int64`, exactly
`⌈k / rate⌉` of the first `k` calls sample. -/
theorem sampleRun_count_of_two_le (rate : Int) (two : 2 ≤ rate) (k : Nat) (inRange : (k : Int) ≤ maxInt64) :
    ((newRateSampler rate).sampleRun k).2.count true = (k + rate.toNat - 1) / rate.toNat := by
  have clamped : (newRateSampler rate).rate = ((rate.toNat : Nat) : Int) := by
    simp only [newRateSampler]
    split <;> omega
  rw [sampleRun_answers, clamped, ← count_succ_mod_eq_one (show 2 ≤ rate.toNat by omega)]
  refine congrArg (List.count true) (List.map_congr_left fun i mem => ?_)
  have small : minInt64 ≤ 0 + ((i : Int) + 1) ∧ 0 + ((i : Int) + 1) ≤ maxInt64 := by
    have := List.mem_range.mp mem
    unfold minInt64 at *
    omega
  show ((wrapInt64 (0 + ((i : Int) + 1))).tmod _ == 1) = _
  rw [Goupter.Cache.wrapInt64_of_inRange small.1 small.2, Int.tmod_eq_emod (by omega) (by omega)]
  rw [Int.zero_add, show ((i : Int) + 1) = ((i + 1 : Nat) : Int) by omega, ← Int.natCast_mod]
  generalize (i + 1) % rate.toNat = remainder
  by_cases one : remainder = 1
  · subst one
    rfl
  · rw [decide_eq_false one]
    exact beq_false_of_ne (by omega)

end Goupter.Log
