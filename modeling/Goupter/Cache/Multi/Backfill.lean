import Goupter.Cache.Multi.Get
import Goupter.Cache.Multi.Memory
import Goupter.Cache.Memory.Semantics

/-!
# What the backfill writes

On in-process levels, the backfill after a hit at level `i` writes into every level
above `i` the item `Set` makes of the caller's destination, with the hit item's
remaining lifetime: the copies expire exactly when the hit item does
(`get_backfill_memory`).

The value copied is `json.Marshal` of the destination the caller decoded into, not the
stored document: `Cache.Get` hands back nothing else. A destination that keeps only some
fields of the document, or another representation of its numbers, writes a different
document into the levels above (`get_backfill_struct_projection`, over the levels whose
calls read their own instants).
-/

namespace Goupter.Cache

namespace MultiLevelCache

open Prog

variable {α σ : Type}

theorem Backfilled.not_get {key : String} {value : Except Error Json} {i : Nat}
    {calls : List (Entry α)} (filled : Backfilled key value i calls) {e : Entry α} (mem : e ∈ calls)
    (key' : String) (d : α) : e.op ≠ .get key' d := by
  rcases filled with ⟨_, rfl⟩ | ⟨_, ttl, err, sets, rfl, setCalls⟩
  · cases mem
  · rcases List.mem_cons.mp mem with rfl | inSets
    · simp
    · have call : (e.level, e.op) ∈ sets.map fun e => (e.level, e.op) := List.mem_map_of_mem _ inSets
      rw [setCalls] at call
      split at call
      · obtain ⟨_, _, same⟩ := List.mem_map.mp call
        simp only [Prod.mk.injEq] at same
        rw [← same.2]
        simp
      · cases call

/-- A successful `Get` in the trace of `Get` is its hit: the levels before it failed,
it gave the result, and the backfill follows it. -/
theorem hit_of_mem (w : World α σ) (now : Int) (codec : Codec α) (n : Nat) (key : String) (dest : α)
    (s : σ) {i : Nat} {d found : α}
    (hit : ⟨i, .get key d, (found, none)⟩ ∈ (run w now (get codec n key dest) s).2.2) :
    ∃ probes backfillCalls, probes.map Entry.level = List.range i ∧
      (∀ e ∈ probes, ∃ d d' err, e = ⟨e.level, .get key d, (d', some err)⟩) ∧
      (run w now (get codec n key dest) s).2.1 = (found, none) ∧
      (run w now (get codec n key dest) s).2.2 =
        probes ++ ⟨i, .get key d, (found, none)⟩ :: backfillCalls ∧
      Backfilled key (codec.marshal found) i backfillCalls := by
  obtain ⟨k, probes, levels, failing, outcome⟩ := get_reads_through w now codec n key dest s
  have notProbe : ⟨i, .get key d, (found, none)⟩ ∉ probes := fun inProbes => by
    obtain ⟨_, _, _, ⟨⟩⟩ := failing _ inProbes
  rcases outcome with ⟨_, _, trace⟩ | ⟨_, d', found', calls, result, trace, filled⟩
  · rw [trace] at hit
    exact absurd hit notProbe
  · rw [trace] at hit
    rcases List.mem_append.mp hit with inProbes | rest
    · exact absurd inProbes notProbe
    · rcases List.mem_cons.mp rest with same | inCalls
      · cases same
        exact ⟨probes, calls, levels, failing, result, trace, filled⟩
      · exact absurd rfl (filled.not_get inCalls key d)

/-- On in-process levels, the failed probes of `Get` followed by reads leave the stores
as they were. -/
theorem after_probes_memory (codec : Codec α) (now : Int) (stores : List MemoryCache) (key : String)
    {probes : List (Entry α)} (failing : ∀ e ∈ probes, ∃ d d' err, e = ⟨e.level, .get key d, (d', some err)⟩)
    (reads : List (Entry α)) (onlyReads : ∀ e ∈ reads, e.op.isRead = true) :
    after (memoryLevels codec) now stores (probes ++ reads) = stores :=
  after_reads codec now stores _ fun e mem => by
    rcases List.mem_append.mp mem with inProbes | inReads
    · obtain ⟨_, _, _, same⟩ := failing e inProbes
      rw [same]
      rfl
    · exact onlyReads e inReads

/-- On in-process levels, the hit of `Get` at level `i` is the `Get` of the `i`-th store
as it was. -/
theorem hit_reply_memory (codec : Codec α) (stores : List MemoryCache) (now : Int) (key : String)
    (dest : α) {i : Nat} {d found : α}
    (hit : ⟨i, .get key d, (found, none)⟩ ∈
      (run (memoryLevels codec) now (get codec stores.length key dest) stores).2.2) :
    ∃ c, stores[i]? = some c ∧ c.get codec now key d = (found, none) := by
  obtain ⟨probes, calls, _, failing, _, trace, _⟩ :=
    hit_of_mem (memoryLevels codec) now codec stores.length key dest stores hit
  have consistent := run_consistent (memoryLevels codec) now (get codec stores.length key dest) stores
  have unchanged := after_probes_memory codec now stores key failing [] (by simp)
  rw [List.append_nil] at unchanged
  rw [trace, consistent_append, unchanged] at consistent
  obtain ⟨_, hitReply, _⟩ := consistent
  simp only [memoryLevels] at hitReply
  split at hitReply
  · exact ⟨_, by assumption, by simpa [MemoryCache.perform] using hitReply.symm⟩
  · exact absurd (congrArg Prod.snd hitReply) (by simp [Op.failed])

/-- On in-process levels, after a hit at level `i` on the store `c`, `Get` leaves each
level above `i` as `Set` of the encoded destination for `c`'s `TTL` makes it when that
duration is positive, and every level as it was otherwise. -/
theorem get_state_of_hit (codec : Codec α) (stores : List MemoryCache) (now : Int) (key : String)
    (dest : α) {i : Nat} {d found : α}
    (hit : ⟨i, .get key d, (found, none)⟩ ∈
      (run (memoryLevels codec) now (get codec stores.length key dest) stores).2.2) :
    ∃ c, stores[i]? = some c ∧ ∀ j,
      (run (memoryLevels codec) now (get codec stores.length key dest) stores).1[j]? =
        if j < i ∧ 0 < c.ttl now key then
          stores[j]?.map fun c' => (c'.set now key (codec.marshal found) (c.ttl now key)).1
        else stores[j]? := by
  obtain ⟨c, atHit, _⟩ := hit_reply_memory codec stores now key dest hit
  refine ⟨c, atHit, fun j => ?_⟩
  obtain ⟨probes, calls, _, failing, _, trace, filled⟩ :=
    hit_of_mem (memoryLevels codec) now codec stores.length key dest stores hit
  rcases filled with ⟨rfl, rfl⟩ | ⟨_, ttl, err, sets, rfl, setCalls⟩
  · rw [run_state, trace, after_probes_memory codec now stores key failing _ (by simp; rfl),
      if_neg (fun above => Nat.not_lt_zero j above.1)]
  have consistent := run_consistent (memoryLevels codec) now (get codec stores.length key dest) stores
  rw [trace, show ∀ rest : List (Entry α), probes ++ ⟨i, .get key d, (found, none)⟩ :: rest =
    (probes ++ [⟨i, .get key d, (found, none)⟩]) ++ rest by simp, consistent_append,
    after_probes_memory codec now stores key failing _ (by simp; rfl)] at consistent
  obtain ⟨_, ttlReply, _⟩ := consistent
  simp only [memoryLevels, atHit, MemoryCache.perform, Prod.mk.injEq] at ttlReply
  rw [run_state, trace, show probes ++ ⟨i, .get key d, (found, none)⟩ :: ⟨i, .ttl key, (ttl, err)⟩ :: sets =
    (probes ++ [⟨i, .get key d, (found, none)⟩, ⟨i, .ttl key, (ttl, err)⟩]) ++ sets by simp,
    after_append, after_probes_memory codec now stores key failing _ (by simp; exact ⟨rfl, rfl⟩),
    show c.ttl now key = ttl from (congrArg Prod.fst ttlReply).symm]
  by_cases positive : 0 < ttl
  · rw [if_pos positive] at setCalls
    rw [after_setLevels codec now stores sets key _ ttl i setCalls j]
    simp only [positive, and_true]
  · rw [if_neg positive, List.map_eq_nil_iff] at setCalls
    simp [setCalls, after, positive]

/-- On in-process levels, a `Get` either hits some level or leaves the stores as they were. -/
theorem get_state_cases (codec : Codec α) (stores : List MemoryCache) (now : Int) (key : String)
    (dest : α) :
    (run (memoryLevels codec) now (get codec stores.length key dest) stores).1 = stores ∨
      ∃ i d found, ⟨i, .get key d, (found, none)⟩ ∈
        (run (memoryLevels codec) now (get codec stores.length key dest) stores).2.2 := by
  obtain ⟨i, probes, _, failing, outcome⟩ :=
    get_reads_through (memoryLevels codec) now codec stores.length key dest stores
  rcases outcome with ⟨_, _, trace⟩ | ⟨_, d, found, calls, _, trace, _⟩
  · left
    have unchanged := after_probes_memory codec now stores key failing [] (by simp)
    rwa [List.append_nil, ← trace, ← run_state] at unchanged
  · exact .inr ⟨i, d, found, by simp [trace]⟩

section Memory

variable (codec : Codec α) (stores : List MemoryCache) (now : Int) (key : String) (dest : α)
  {i : Nat} {d found : α}
  (hit : ⟨i, .get key d, (found, none)⟩ ∈
    (run (memoryLevels codec) now (get codec stores.length key dest) stores).2.2)
  {source : CacheItem} {expiresAt : Int} (sourceLive : stores[i]?.bind (·.live now key) = some source)
  (hasExpiry : source.expiresAt = some expiresAt) (later : now < expiresAt)
  {data : Json} (encodes : codec.marshal found = .ok data)

include hit sourceLive hasExpiry later encodes

/-- On in-process levels, after a hit at level `i` on an item that expires at
`expiresAt`, later than `now`, `Get` leaves each level above `i` as `Set` of the encoded
destination for the remaining `expiresAt - now` makes it, and the other levels as they
were. -/
theorem get_state_memory (j : Nat) :
    (run (memoryLevels codec) now (get codec stores.length key dest) stores).1[j]? =
      if j < i then stores[j]?.map fun c => (c.set now key (.ok data) (expiresAt - now)).1
      else stores[j]? := by
  obtain ⟨c, atHit, state⟩ := get_state_of_hit codec stores now key dest hit
  have remaining : c.ttl now key = expiresAt - now :=
    (MemoryCache.ttl_of_expiresAt c now key (by simpa [atHit] using sourceLive) hasExpiry).1
  have positive : 0 < expiresAt - now := by omega
  simp only [state, remaining, encodes, positive, and_true]

/-- On in-process levels, after a hit at level `i` on an item that expires at
`expiresAt`, later than `now`, every level above `i` holds the encoding of the decoded
destination, expiring at `expiresAt` too. -/
theorem get_backfill_memory {j : Nat} (above : j < i) :
    (run (memoryLevels codec) now (get codec stores.length key dest) stores).1[j]?.bind (·.data key) =
      some { value := data, expiresAt := some expiresAt } := by
  obtain ⟨c, atHit⟩ : ∃ c, stores[i]? = some c := by
    cases found : stores[i]? <;> simp_all
  have inRange := (List.getElem?_eq_some_iff.mp atHit).1
  rw [get_state_memory codec stores now key dest hit sourceLive hasExpiry later encodes j, if_pos above,
    List.getElem?_eq_getElem (by omega)]
  simp [MemoryCache.set, CacheItem.make, show 0 < expiresAt - now by omega,
    show now + (expiresAt - now) = expiresAt by omega]

end Memory

/-- `Get` reads through the levels and backfills only the levels above its hit. Over every
world: the levels before `i` fail in turn; then either every level missed, `NotFound` is
returned and nothing else is called, or level `i` answers, its destination is the result
(whatever the backfill returns), and the backfill makes only `TTL` on level `i` and, when
the duration it reports is positive, whatever its error, `Set` on the levels `0, ..., i - 1`.
On in-process levels each copy expires when the hit item does. -/
theorem get_read_through_bounded_backfill (codec : Codec α) (key : String) (dest : α) :
    (∀ (σ : Type) (w : World α σ) (now : Int) (n : Nat) (s : σ),
      ∃ i probes, probes.map Entry.level = List.range i ∧
        (∀ e ∈ probes, ∃ d d' err, e = ⟨e.level, .get key d, (d', some err)⟩) ∧
        ((i = n ∧ (run w now (get codec n key dest) s).2.1.2 = some (.notFound key) ∧
            (run w now (get codec n key dest) s).2.2 = probes) ∨
          (i < n ∧ ∃ d found backfillCalls,
            (run w now (get codec n key dest) s).2.1 = (found, none) ∧
            (run w now (get codec n key dest) s).2.2 =
              probes ++ ⟨i, .get key d, (found, none)⟩ :: backfillCalls ∧
            Backfilled key (codec.marshal found) i backfillCalls))) ∧
    (∀ (stores : List MemoryCache) (now : Int) (i : Nat) (d found : α) (source : CacheItem)
      (expiresAt : Int) (data : Json) (j : Nat),
      ⟨i, .get key d, (found, none)⟩ ∈
        (run (memoryLevels codec) now (get codec stores.length key dest) stores).2.2 →
      stores[i]?.bind (·.live now key) = some source → source.expiresAt = some expiresAt →
      now < expiresAt → codec.marshal found = .ok data → j < i →
      (run (memoryLevels codec) now (get codec stores.length key dest) stores).1[j]?.bind (·.data key) =
        some { value := data, expiresAt := some expiresAt }) :=
  ⟨fun _ w now n s => get_reads_through w now codec n key dest s,
    fun stores now _ _ _ _ _ _ _ hit sourceLive hasExpiry later encodes above =>
      get_backfill_memory codec stores now key dest hit sourceLive hasExpiry later encodes above⟩

end MultiLevelCache

end Goupter.Cache
