import Goupter.Cache.Multi.Basic
import Goupter.Cache.Multi.Memory
import Goupter.Cache.Memory.Semantics

/-!
# Multi-level `MGet`

`multiLevelCache.MGet` walks the levels in order with the keys not yet resolved. A level
whose `MGet` fails contributes nothing and the next level is asked for the same keys; a
level that answers resolves the remaining keys it returns, and the next level is asked for
the others, in their order and with their repeats; the walk stops once no key is left.

Over every world the trace of `MGet` is a list of `MGetCall`s on levels `0, 1, ...`, each
asking exactly the keys the calls before it left unresolved, and the result sends each key
to the value of the first call that answered it (`mget_first_hit`). Over in-process levels
at one instant, a key is in the result exactly when it was asked for and some level holds
it live with a document that `json.Unmarshal` decodes into `interface{}`, while `Exists`
finds every key some level holds live: a live document that does not decode, a number
past the range of `float64`, is found by `Exists` and left out by `MGet`
(`mget_omits_undecodable_live_key`).
-/

namespace Goupter.Cache

namespace MultiLevelCache

open Prog

/-- One `MGet` call of the multi-level cache: the keys it asked for and the level's reply. -/
structure MGetCall where
  keys : List String
  values : String → Option Json
  err : Option Error

namespace MGetCall

/-- The trace entry of a call on the level numbered with it. -/
def entry {α : Type} (call : Nat × MGetCall) : Entry α :=
  ⟨call.1, .mget call.2.keys, (call.2.values, call.2.err)⟩

/-- What a call resolved: the keys it asked for and got back, unless the level failed. -/
def answered (call : MGetCall) (k : String) : Option Json :=
  if call.err.isNone ∧ k ∈ call.keys then call.values k else none

theorem mem_of_answered {call : MGetCall} {k : String} (hit : (call.answered k).isSome) :
    k ∈ call.keys := by
  unfold answered at hit
  split at hit
  · exact ‹_ ∧ _›.2
  · cases hit

end MGetCall

/-- The value of `k` from the first call that answered it. -/
def firstHit (calls : List MGetCall) (k : String) : Option Json := calls.findSome? (·.answered k)

/-- The keys of `keys` that no call answered, in order and with their repeats. -/
def unresolved (keys : List String) (calls : List MGetCall) : List String :=
  keys.filter fun k => (firstHit calls k).isNone

theorem firstHit_cons (call : MGetCall) (calls : List MGetCall) (k : String) :
    firstHit (call :: calls) k = (call.answered k).or (firstHit calls k) := by
  simp only [firstHit, List.findSome?_cons]
  cases call.answered k <;> rfl

@[simp] theorem unresolved_nil (keys : List String) : unresolved keys [] = keys := by
  simp [unresolved, firstHit]

theorem unresolved_cons (keys : List String) (call : MGetCall) (calls : List MGetCall) :
    unresolved keys (call :: calls) =
      unresolved (keys.filter fun k => (call.answered k).isNone) calls := by
  simp only [unresolved, List.filter_filter, firstHit_cons]
  congr 1
  funext k
  cases call.answered k <;> simp

variable {α σ : Type} (w : World α σ) (now : Int)

/-- One step of the walk: the call on level `j` with the remaining keys, then the walk from
`j + 1` with the result and the keys that call left. -/
theorem run_mgetFrom_succ (result : String → Option Json) (remaining : List String) (count j : Nat)
    (s : σ) (nonempty : remaining.isEmpty = false) :
    ∃ call : MGetCall, call.keys = remaining ∧
      (call.values, call.err) = (w.perform now j (.mget remaining) s).2 ∧
      run w now (mgetFrom result remaining j (count + 1) : Prog α _) s =
        ((run w now (mgetFrom (fun k => (call.answered k).or (result k))
            (remaining.filter fun k => (call.answered k).isNone) (j + 1) count)
            (w.perform now j (.mget remaining) s).1).1,
          (run w now (mgetFrom (fun k => (call.answered k).or (result k))
            (remaining.filter fun k => (call.answered k).isNone) (j + 1) count)
            (w.perform now j (.mget remaining) s).1).2.1,
          MGetCall.entry (j, call) ::
            (run w now (mgetFrom (fun k => (call.answered k).or (result k))
              (remaining.filter fun k => (call.answered k).isNone) (j + 1) count)
              (w.perform now j (.mget remaining) s).1).2.2) := by
  simp only [mgetFrom, nonempty, Bool.false_eq_true, if_false, run_bind, run_callLevel,
    List.singleton_append]
  generalize w.perform now j (.mget remaining) s = step
  obtain ⟨after, values, err⟩ := step
  refine ⟨⟨remaining, values, err⟩, rfl, rfl, ?_⟩
  cases err with
  | some err =>
    have kept : remaining.filter (fun _ => true) = remaining := List.filter_eq_self.mpr fun _ _ => rfl
    simp [MGetCall.answered, MGetCall.entry, kept]
  | none =>
    have merged : (fun key => if key ∈ remaining then (values key).orElse fun _ => result key else result key) =
        fun k => ((MGetCall.mk remaining values none).answered k).or (result k) :=
      funext fun k => by
        by_cases mem : k ∈ remaining <;> simp only [MGetCall.answered, mem, Option.isNone_none,
          true_and, if_true, if_false, Option.none_or] <;> cases values k <;> rfl
    have left : remaining.filter (fun key => (values key).isNone) =
        remaining.filter fun k => ((MGetCall.mk remaining values none).answered k).isNone :=
      List.filter_congr fun k mem => by simp [MGetCall.answered, mem]
    simp only [merged, left]
    rfl

/-- The walk from level `j` with `count` levels left: calls on levels `j, j + 1, ...`, at
most `count` of them, each asking for the keys the calls before it left, never for none;
it stops early only when no key is left; its result adds to `result` the first answer for
each key, and only keys of `remaining` are answered. -/
theorem run_mgetFrom_calls (result : String → Option Json) (remaining : List String) (count j : Nat)
    (s : σ) :
    ∃ calls : List MGetCall,
      (run w now (mgetFrom result remaining j count : Prog α _) s).2.2 =
        (calls.enumFrom j).map MGetCall.entry ∧
      calls.length ≤ count ∧
      (∀ pre call post, calls = pre ++ call :: post →
        call.keys = unresolved remaining pre ∧ call.keys ≠ []) ∧
      (calls.length = count ∨ unresolved remaining calls = []) ∧
      (run w now (mgetFrom result remaining j count : Prog α _) s).2.1 =
        (fun k => (firstHit calls k).or (result k), none) ∧
      ∀ k, (firstHit calls k).isSome → k ∈ remaining := by
  induction count generalizing j result remaining s with
  | zero => exact ⟨[], rfl, Nat.le_refl _, fun pre _ _ split => by simp at split, .inl rfl, rfl, by simp [firstHit]⟩
  | succ count ih =>
    cases nonempty : remaining.isEmpty with
    | true =>
      have none_left := List.isEmpty_iff.mp nonempty
      refine ⟨[], by simp [mgetFrom, nonempty], by simp, fun pre _ _ split => by simp at split,
        .inr (by simp [none_left]), by simp only [mgetFrom, nonempty, ↓reduceIte]; rfl, by simp [firstHit]⟩
    | false =>
      obtain ⟨call, asked, -, step⟩ := run_mgetFrom_succ w now result remaining count j s nonempty
      obtain ⟨calls, trace, length, prefixes, stops, value, answeredLeft⟩ := ih
        (fun k => (call.answered k).or (result k)) (remaining.filter fun k => (call.answered k).isNone)
        (j + 1) (w.perform now j (.mget remaining) s).1
      refine ⟨call :: calls, by rw [step, trace]; rfl, by simp [length], ?_, ?_, ?_, ?_⟩
      · intro pre next post split
        cases pre with
        | nil =>
          cases split
          exact ⟨by simp [asked], by simpa [asked, List.isEmpty_iff] using nonempty⟩
        | cons first pre =>
          simp only [List.cons_append, List.cons.injEq] at split
          obtain ⟨rfl, rest⟩ := split
          rw [unresolved_cons]
          exact prefixes pre next post rest
      · rw [unresolved_cons]
        exact stops.imp (by simp) id
      · rw [step, value]
        congr 1
        funext k
        rw [firstHit_cons]
        cases hit : call.answered k with
        | none => simp
        | some v =>
          have : firstHit calls k = none := Option.not_isSome_iff_eq_none.mp fun later => by
            simpa [hit] using answeredLeft k later
          simp [this]
      · intro k hit
        rw [firstHit_cons] at hit
        cases first : call.answered k with
        | some v => exact asked ▸ MGetCall.mem_of_answered (by simp [first])
        | none =>
          rw [first, Option.none_or] at hit
          exact (List.mem_filter.mp (answeredLeft k hit)).1

section Memory

variable (codec : Codec α) (stores : List MemoryCache)

/-- A read on in-process levels leaves the stores as they were, and is answered by the
level's store, or fails when there is no such level. -/
theorem memoryLevels_perform_read (j : Nat) (op : Op α) (read : op.isRead = true) :
    (memoryLevels codec).perform now j op stores =
      (stores, match stores[j]? with
        | some c => (c.perform codec now op).2
        | none => op.failed (.other "no such level")) := by
  have unchanged : ((memoryLevels codec).perform now j op stores).1 = stores :=
    after_reads codec now stores [⟨j, op, op.failed (.other "")⟩] (by simpa using read)
  refine Prod.ext unchanged ?_
  simp only [memoryLevels]
  cases stores[j]? <;> rfl

/-- Whether key `k` is live on level `i`; a missing level holds nothing. -/
def liveOn (k : String) (i : Nat) : Bool := (stores[i]?.bind fun c => c.live now k).isSome

/-- The levels from `j`, `count` of them: the first, or the ones after it. -/
theorem exists_range_succ (P : Nat → Prop) (j count : Nat) :
    (∃ i, j ≤ i ∧ i < j + (count + 1) ∧ P i) ↔ P j ∨ ∃ i, j + 1 ≤ i ∧ i < j + 1 + count ∧ P i := by
  constructor
  · rintro ⟨i, lower, upper, holds⟩
    by_cases first : i = j
    · exact .inl (first ▸ holds)
    · exact .inr ⟨i, by omega, by omega, holds⟩
  · rintro (holds | ⟨i, lower, upper, holds⟩)
    · exact ⟨j, Nat.le_refl _, by omega, holds⟩
    · exact ⟨i, by omega, by omega, holds⟩

/-- Whether key `k` is live on level `i` with a document that decodes into `interface{}`. -/
def decodedOn (k : String) (i : Nat) : Bool := (stores[i]?.bind fun c => c.decoded now k).isSome

/-- A call of the walk on an in-process level answers a key exactly when it asked for it
and the key is live there with a document that decodes. -/
theorem answered_memory {call : MGetCall} {keys : List String} {j : Nat}
    (reply : (call.values, call.err) = ((memoryLevels codec).perform now j (.mget keys) stores).2)
    (asked : call.keys = keys) (k : String) :
    (call.answered k).isSome = (decide (k ∈ keys) && decodedOn now stores k j) := by
  rw [memoryLevels_perform_read now codec stores j (.mget keys) rfl] at reply
  obtain ⟨keys', values, err⟩ := call
  subst asked
  simp only [MGetCall.answered, decodedOn]
  cases level : stores[j]? with
  | none =>
    simp only [level] at reply
    cases reply
    simp [Op.failed]
  | some c =>
    simp only [level] at reply
    cases reply
    have found : (c.mget now keys' k).isSome ↔ k ∈ keys' ∧ (c.decoded now k).isSome := by
      rw [Option.isSome_iff_exists, c.mget_isSome_iff now, c.decoded_isSome_iff now]
    by_cases mem : k ∈ keys' <;> simp_all [MemoryCache.perform, MemoryCache.performIn, MemoryCache.mget]

theorem decodedOn_iff (k : String) (i : Nat) : decodedOn now stores k i = true ↔
    ∃ item, stores[i]?.bind (·.live now k) = some item ∧ item.value.decodesAny = true := by
  unfold decodedOn
  cases stores[i]? <;> simp [MemoryCache.decoded_isSome_iff]

/-- Over in-process levels, the walk from level `j` finds a key exactly when it was found
before or is still asked for and live with a document that decodes on one of its levels. -/
theorem mgetFrom_isSome_memory (k : String) (count j : Nat) (result : String → Option Json)
    (remaining : List String) :
    ((run (memoryLevels codec) now (mgetFrom result remaining j count) stores).2.1.1 k).isSome ↔
      (result k).isSome ∨
        (k ∈ remaining ∧ ∃ i, j ≤ i ∧ i < j + count ∧ decodedOn now stores k i = true) := by
  induction count generalizing j result remaining with
  | zero =>
    simp only [mgetFrom, run_pure]
    exact ⟨.inl, fun found => found.resolve_right fun ⟨_, i, lower, upper, _⟩ => by omega⟩
  | succ count ih =>
    cases nonempty : remaining.isEmpty with
    | true =>
      obtain rfl := List.isEmpty_iff.mp nonempty
      simp only [mgetFrom, List.isEmpty_nil, ↓reduceIte, run_pure, List.not_mem_nil, false_and, or_false]
    | false =>
      obtain ⟨call, asked, reply, step⟩ :=
        run_mgetFrom_succ (memoryLevels codec) now result remaining count j stores nonempty
      rw [step, memoryLevels_perform_read now codec stores j (.mget remaining) rfl, ih, exists_range_succ,
        Option.isSome_or, List.mem_filter, ← Option.not_isSome, answered_memory now codec stores reply asked]
      by_cases mem : k ∈ remaining <;> by_cases live : decodedOn now stores k j <;> simp [mem, live]

/-- Over in-process levels, `Exists` from level `j` finds a key exactly when it is live on
one of its levels. -/
theorem existsFrom_memory (key : String) (count j : Nat) :
    (run (memoryLevels codec) now (existsFrom key j count) stores).2.1.1 = true ↔
      ∃ i, j ≤ i ∧ i < j + count ∧ liveOn now stores key i = true := by
  induction count generalizing j with
  | zero => exact ⟨nofun, fun ⟨i, lower, upper, _⟩ => by omega⟩
  | succ count ih =>
    simp only [existsFrom, run_bind, run_callLevel,
      memoryLevels_perform_read now codec stores j (.exists key) rfl]
    rw [exists_range_succ, ← ih]
    simp only [liveOn]
    cases level : stores[j]? with
    | none => simp [Op.failed]
    | some c =>
      by_cases live : (c.live now key).isSome <;>
        simp [live, MemoryCache.perform, MemoryCache.performIn, MemoryCache.exists]

end Memory

/-- `MGet` is the pointwise first hit. Over every world: calls on levels `0, 1, ...`, in
order and at most `n` of them, each asking for the keys of `keys` that the calls before it
left unresolved, in order and with their repeats, and never for none; the walk ends early
only when no key is left, and a level that fails resolves nothing. The result sends each key
to the value of the first call that answered it, with a `nil` error. Over in-process levels
at one instant, a key is in the result exactly when it was asked for and some level holds
it live with a document that decodes into `interface{}`, and `Exists` finds it exactly
when some level holds it live. -/
theorem mget_first_hit (n : Nat) (keys : List String) (s : σ) :
    (∃ calls : List MGetCall,
      (run w now (mget n keys : Prog α _) s).2.2 = calls.enum.map MGetCall.entry ∧
      calls.length ≤ n ∧
      (∀ pre call post, calls = pre ++ call :: post → call.keys = unresolved keys pre ∧ call.keys ≠ []) ∧
      (calls.length = n ∨ unresolved keys calls = []) ∧
      (run w now (mget n keys : Prog α _) s).2.1 = (firstHit calls, none)) ∧
    ∀ (codec : Codec α) (stores : List MemoryCache) (k : String),
      (((run (memoryLevels codec) now (mget n keys) stores).2.1.1 k).isSome ↔
        k ∈ keys ∧ ∃ i < n, ∃ item, stores[i]?.bind (·.live now k) = some item ∧ item.value.decodesAny = true) ∧
      ((run (memoryLevels codec) now («exists» n k) stores).2.1.1 = true ↔
        ∃ i < n, ∃ item, stores[i]?.bind (·.live now k) = some item) := by
  constructor
  · obtain ⟨calls, trace, length, prefixes, stops, value, -⟩ :=
      run_mgetFrom_calls w now (fun _ => none) keys n 0 s
    exact ⟨calls, trace, length, prefixes, stops, by rw [mget, value]; simp [Option.or_none]⟩
  · intro codec stores k
    rw [mget, mgetFrom_isSome_memory, «exists», existsFrom_memory]
    simp [decodedOn_iff, liveOn, Option.isSome_iff_exists]

/-- One level holding a live number past the range of `float64`: `Exists` finds the key
and `MGet` leaves it out. -/
theorem mget_omits_undecodable_live_key :
    (run (memoryLevels Codec.any) 0 («exists» 1 "k")
        [MemoryCache.empty.insert "k" ⟨.number float64Limit 0, none⟩]).2.1.1 = true ∧
      (run (memoryLevels Codec.any) 0 (mget 1 ["k"])
        [MemoryCache.empty.insert "k" ⟨.number float64Limit 0, none⟩]).2.1.1 "k" = none := by
  decide

end MultiLevelCache

end Goupter.Cache
