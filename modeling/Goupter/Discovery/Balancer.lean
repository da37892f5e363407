import Mathlib.Data.List.Rotate
import Goupter.Cache.Json
import Goupter.Discovery.Health

/-!
# The round-robin balancer

`RoundRobinBalancer` of `src/pkg/response/response.go`. `Select(services)` returns `nil` for
no service, and otherwise `services[b.index % len(services)]`, then adds one to `index`, a Go
`int` of 64 bits. Go's `%` takes the sign of `index`, and indexing a slice at a negative
position panics before `index++` runs.

Called with the same services, `Select` goes round them in order: any `len(services)`
calls in a row return each service once, the list rotated by the index
(`selectRun_round`). After `2^63` calls the index wraps to `-2^63`; unless the number of
services divides `2^63`, its remainder is negative, and from then on every call panics at the
same index, which never moves again (`selectRun_panics_after_wrap`).
-/

namespace Goupter.Discovery

open Goupter.Cache (wrapInt64 maxInt64 minInt64)

/-- `RoundRobinBalancer`: `index`, with no lock. -/
structure RoundRobinBalancer where
  index : Int
deriving DecidableEq, Repr

/-- `NewRoundRobinBalancer()`. -/
def newRoundRobinBalancer : RoundRobinBalancer := ⟨0⟩

/-- What `Select` gives. -/
inductive Selected where
  /-- `nil`, for no service. -/
  | none
  | service (s : ServiceInfo)
  /-- The panic of indexing the slice at position `i`. -/
  | indexOutOfRange (i : Int)

/-- `services[i]`: the element, or `none` where Go panics. -/
def sliceIndex {α : Type} (xs : List α) (i : Int) : Option α := if 0 ≤ i then xs[i.toNat]? else none

/-- `RoundRobinBalancer.Select(services)`. -/
def RoundRobinBalancer.select (b : RoundRobinBalancer) (services : List ServiceInfo) :
    RoundRobinBalancer × Selected :=
  if services.length = 0 then (b, .none)
  else
    match sliceIndex services (b.index.tmod services.length) with
    | some s => (⟨wrapInt64 (b.index + 1)⟩, .service s)
    | none => (b, .indexOutOfRange (b.index.tmod services.length))

/-- `k` calls of `Select` in turn with the same services. -/
def RoundRobinBalancer.selectRun (b : RoundRobinBalancer) (services : List ServiceInfo) :
    Nat → RoundRobinBalancer × List Selected
  | 0 => (b, [])
  | k + 1 =>
    let rest := (b.select services).1.selectRun services k
    (rest.1, (b.select services).2 :: rest.2)

namespace RoundRobinBalancer

/-- From a non-negative index, `Select` returns the service at the index modulo their number. -/
theorem select_ofNat (m : Nat) {services : List ServiceInfo} (nonEmpty : 0 < services.length) :
    (⟨m⟩ : RoundRobinBalancer).select services =
      (⟨wrapInt64 (m + 1)⟩, .service (services.get ⟨m % services.length, Nat.mod_lt _ nonEmpty⟩)) := by
  have position : (m : Int).tmod services.length = ((m % services.length : Nat) : Int) := by
    rw [Int.tmod_eq_emod (Int.ofNat_nonneg m) (by omega)]
    omega
  simp only [select, if_neg (Nat.pos_iff_ne_zero.mp nonEmpty), sliceIndex, position, Int.ofNat_nonneg, if_true,
    Int.toNat_ofNat, List.getElem?_eq_getElem (Nat.mod_lt _ nonEmpty), List.get_eq_getElem]

/-- Calls from a non-negative index, as long as it does not pass `2^63 - 1` before the last
one, return the services at the successive indices modulo their number. -/
theorem selectRun_ofNat {services : List ServiceInfo} (nonEmpty : 0 < services.length) :
    ∀ (k m : Nat), (m : Int) + k ≤ maxInt64 + 1 →
      ((⟨m⟩ : RoundRobinBalancer).selectRun services k).2 =
        (List.range k).map fun j => .service (services.get ⟨(m + j) % services.length, Nat.mod_lt _ nonEmpty⟩)
  | 0, _, _ => rfl
  | 1, m, _ => by
    rw [selectRun, select_ofNat m nonEmpty]
    rfl
  | k + 2, m, within => by
    have next : wrapInt64 ((m : Int) + 1) = ((m + 1 : Nat) : Int) :=
      Goupter.Cache.wrapInt64_of_inRange (by unfold minInt64; omega) (by unfold maxInt64 at *; omega)
    rw [selectRun, select_ofNat m nonEmpty, next]
    dsimp only
    rw [selectRun_ofNat nonEmpty (k + 1) (m + 1) (by push_cast at *; omega), List.range_succ_eq_map (k + 1),
      List.map_cons, List.map_map]
    refine List.cons_eq_cons.mpr ⟨by simp, List.map_congr_left fun j _ => ?_⟩
    simp only [Function.comp_apply, Nat.add_assoc, Nat.add_comm 1 j]

/-- Calls that keep the index within `int64` leave it that many further. -/
theorem selectRun_ofNat_index {services : List ServiceInfo} (nonEmpty : 0 < services.length) :
    ∀ (k m : Nat), (m : Int) ≤ maxInt64 → (m : Int) + k ≤ maxInt64 + 1 →
      ((⟨m⟩ : RoundRobinBalancer).selectRun services k).1 = ⟨wrapInt64 (m + k)⟩
  | 0, m, valid, _ => by
    simp only [selectRun, Int.ofNat_zero, Int.add_zero]
    rw [Goupter.Cache.wrapInt64_of_inRange (by unfold minInt64; omega) valid]
  | k + 1, m, valid, within => by
    by_cases last : k = 0
    · subst last
      rw [selectRun, select_ofNat m nonEmpty]
      rfl
    · have next : wrapInt64 ((m : Int) + 1) = ((m + 1 : Nat) : Int) :=
        Goupter.Cache.wrapInt64_of_inRange (by unfold minInt64; omega) (by unfold maxInt64 at *; omega)
      rw [selectRun, select_ofNat m nonEmpty, next]
      dsimp only
      rw [selectRun_ofNat_index nonEmpty k (m + 1) (by unfold maxInt64 at *; omega) (by push_cast at *; omega),
        show ((m + 1 : Nat) : Int) + k = m + ((k + 1 : Nat) : Int) by push_cast; omega]

/-- Any `len(services)` calls in a row, from a non-negative index that does not pass
`2^63 - 1` before the last, return each service once: the services rotated by the index. -/
theorem selectRun_round (b : RoundRobinBalancer) (services : List ServiceInfo) (nonEmpty : 0 < services.length)
    (nonneg : 0 ≤ b.index) (within : b.index + services.length ≤ maxInt64 + 1) :
    (b.selectRun services services.length).2 =
      (services.rotate (b.index.toNat % services.length)).map .service := by
  obtain ⟨m, index⟩ := Int.eq_ofNat_of_zero_le nonneg
  obtain ⟨index'⟩ := b
  subst index
  rw [selectRun_ofNat nonEmpty _ m within]
  refine List.ext_getElem (by simp) fun j lhs rhs => ?_
  simp only [List.getElem_map, List.getElem_range, List.get_eq_getElem, List.getElem_rotate, Int.toNat_ofNat]
  congr 2
  rw [Nat.add_mod_mod, Nat.add_comm]

/-- Three instances, from index `5`: the round starts at the third. -/
theorem selectRun_round_three :
    ((⟨5⟩ : RoundRobinBalancer).selectRun
        [⟨"a", "api", "10.0.0.1", 80, [], [], .passing⟩, ⟨"b", "api", "10.0.0.2", 80, [], [], .passing⟩,
          ⟨"c", "api", "10.0.0.3", 80, [], [], .passing⟩] 3).2 =
      ([⟨"a", "api", "10.0.0.1", 80, [], [], .passing⟩, ⟨"b", "api", "10.0.0.2", 80, [], [], .passing⟩,
          ⟨"c", "api", "10.0.0.3", 80, [], [], .passing⟩].rotate ((5 : Int).toNat % 3)).map Selected.service :=
  selectRun_round ⟨5⟩ _ (by decide) (by decide) (by decide)

theorem minInt64_tmod (n : Nat) : minInt64.tmod (n : Int) = -((9223372036854775808 % n : Nat) : Int) := by
  unfold minInt64
  rfl

/-- At `-2^63`, with a number of services that does not divide `2^63`, `Select` panics at a
negative position and leaves the index where it is. -/
theorem select_minInt64 {services : List ServiceInfo} (nonEmpty : 0 < services.length)
    (notDivides : 9223372036854775808 % services.length ≠ 0) :
    (⟨minInt64⟩ : RoundRobinBalancer).select services =
      (⟨minInt64⟩, .indexOutOfRange (minInt64.tmod services.length)) := by
  have negative : ¬0 ≤ minInt64.tmod services.length := by
    rw [minInt64_tmod]
    omega
  simp only [select, if_neg (Nat.pos_iff_ne_zero.mp nonEmpty), sliceIndex, if_neg negative]

theorem selectRun_add (b : RoundRobinBalancer) (services : List ServiceInfo) (k : Nat) :
    ∀ j, b.selectRun services (j + k) =
      (((b.selectRun services j).1.selectRun services k).1,
        (b.selectRun services j).2 ++ ((b.selectRun services j).1.selectRun services k).2)
  | 0 => by simp [selectRun]
  | j + 1 => by
    rw [Nat.add_right_comm, selectRun, selectRun, selectRun_add (b.select services).1 services k j]
    rfl

/-- From a new balancer, with a number of services that does not divide `2^63`, the first
`2^63` calls go round the services, and every call after them panics. -/
theorem selectRun_panics_after_wrap (services : List ServiceInfo) (nonEmpty : 0 < services.length)
    (notDivides : 9223372036854775808 % services.length ≠ 0) (k : Nat) :
    (newRoundRobinBalancer.selectRun services (9223372036854775808 + k)).2 =
      (List.range 9223372036854775808).map (fun j => .service (services.get ⟨j % services.length, Nat.mod_lt _ nonEmpty⟩)) ++
        List.replicate k (.indexOutOfRange (minInt64.tmod services.length)) := by
  have stuck : ∀ k, ((⟨minInt64⟩ : RoundRobinBalancer).selectRun services k).2 =
      List.replicate k (.indexOutOfRange (minInt64.tmod services.length)) := fun k => by
    induction k with
    | zero => rfl
    | succ k ih => simp only [selectRun, select_minInt64 nonEmpty notDivides, ih, List.replicate_succ]
  have wrapped : (newRoundRobinBalancer.selectRun services 9223372036854775808).1 = ⟨minInt64⟩ := by
    rw [show newRoundRobinBalancer = ⟨(0 : Nat)⟩ from rfl,
      selectRun_ofNat_index nonEmpty _ 0 (by decide) (by decide)]
    congr 1
  rw [selectRun_add, wrapped, stuck, show newRoundRobinBalancer = ⟨(0 : Nat)⟩ from rfl,
    selectRun_ofNat nonEmpty _ 0 (by decide)]
  simp only [Nat.zero_add]

/-- Three instances: after `2^63` calls, the next two panic. -/
theorem selectRun_panics_after_wrap_three :
    (newRoundRobinBalancer.selectRun
        [⟨"a", "api", "10.0.0.1", 80, [], [], .passing⟩, ⟨"b", "api", "10.0.0.2", 80, [], [], .passing⟩,
          ⟨"c", "api", "10.0.0.3", 80, [], [], .passing⟩] (9223372036854775808 + 2)).2 =
      (List.range 9223372036854775808).map (fun j => Selected.service
          ([⟨"a", "api", "10.0.0.1", 80, [], [], .passing⟩, ⟨"b", "api", "10.0.0.2", 80, [], [], .passing⟩,
            ⟨"c", "api", "10.0.0.3", 80, [], [], .passing⟩].get ⟨j % 3, Nat.mod_lt _ (by decide)⟩)) ++
        List.replicate 2 (.indexOutOfRange (minInt64.tmod 3)) :=
  selectRun_panics_after_wrap _ (by decide) (by decide) 2

end RoundRobinBalancer

end Goupter.Discovery
