import Goupter.Cache.Multi.Basic

/-!
# Read-through `Get` with backfill

The trace of `multiLevelCache.Get` on any levels: `Get(key)` on the levels from `0` on
while they fail, then either a miss on every level, or a hit at some level `i` followed
by the backfill, which `Backfilled` describes. The theorem is over every world, so it
holds for every list of levels, every state of them and every reply they give.

The backfill reads the hit level's `TTL` as `ttl, _ := level.TTL(ctx, key)`: the
duration decides alone and the error is dropped. A level that reports a positive
duration together with an error is therefore still copied to the levels above it
(`get_backfills_despite_ttl_error`).
-/

namespace Goupter.Cache

namespace MultiLevelCache

open Prog

variable {α σ : Type} (w : World α σ) (now : Int)

/-- The calls `Get` makes after a hit at level `i` whose destination encodes to
`value`: none for the first level; otherwise `TTL(key)` on level `i`, then, when the
duration it reports is positive, `Set(key, value, ttl)` on the levels `0, ..., i - 1`
in order. -/
def Backfilled (key : String) (value : Except Error Json) (i : Nat) (calls : List (Entry α)) :
    Prop :=
  (i = 0 ∧ calls = []) ∨
  (0 < i ∧ ∃ ttl err sets, calls = ⟨i, .ttl key, (ttl, err)⟩ :: sets ∧
    sets.map (fun e => (e.level, e.op)) =
      if 0 < ttl then (List.range i).map fun j => (j, .set key value ttl) else [])

/-- The calls of `setLevels`: `Set` on `count` consecutive levels from `j`. -/
theorem run_setLevels (key : String) (value : Except Error Json) (ttl : Int) (count j : Nat)
    (s : σ) :
    (run w now (setLevels key value ttl j count : Prog α Unit) s).2.2.map (fun e => (e.level, e.op)) =
      (List.range count).map fun m => (j + m, .set key value ttl) := by
  induction count generalizing j s with
  | zero => rfl
  | succ count ih =>
    simp only [setLevels, run_bind, run_callLevel, List.singleton_append, List.map_cons, ih,
      List.range_succ_eq_map, List.map_map]
    congr 1
    simp only [List.map_inj_left, Function.comp_apply, Prod.mk.injEq, and_true]
    intro m _
    omega

/-- The calls of the backfill after a hit at level `i`. -/
theorem run_backfill (codec : Codec α) (key : String) (i : Nat) (found : α) (s : σ) :
    Backfilled key (codec.marshal found) i (run w now (backfill codec key i found) s).2.2 := by
  unfold backfill
  split
  · rename_i positive
    refine .inr ⟨positive, ?_⟩
    simp only [run_bind, run_callLevel, List.singleton_append]
    generalize w.perform now i (.ttl key) s = step
    obtain ⟨after, ttl, err⟩ := step
    refine ⟨ttl, err, _, rfl, ?_⟩
    dsimp only
    split
    · simpa using run_setLevels w now key (codec.marshal found) ttl i 0 after
    · rfl
  · exact .inl ⟨by omega, rfl⟩

/-- The loop of `Get` from level `i` with `count` levels left: `k` levels fail in turn;
then either every level has failed and the result is `NotFound`, or level `i + k`
answers and the backfill follows. -/
theorem run_getFrom (codec : Codec α) (key : String) (count i : Nat) (dest : α) (s : σ) :
    ∃ k probes, probes.map Entry.level = (List.range k).map (i + ·) ∧
      (∀ e ∈ probes, ∃ d d' err, e = ⟨e.level, .get key d, (d', some err)⟩) ∧
      ((k = count ∧ (run w now (getFrom codec key i count dest) s).2.1.2 = some (.notFound key) ∧
          (run w now (getFrom codec key i count dest) s).2.2 = probes) ∨
        (k < count ∧ ∃ d found backfillCalls,
          (run w now (getFrom codec key i count dest) s).2.1 = (found, none) ∧
          (run w now (getFrom codec key i count dest) s).2.2 =
            probes ++ ⟨i + k, .get key d, (found, none)⟩ :: backfillCalls ∧
          Backfilled key (codec.marshal found) (i + k) backfillCalls)) := by
  induction count generalizing i dest s with
  | zero => exact ⟨0, [], rfl, by simp, .inl ⟨rfl, rfl, rfl⟩⟩
  | succ count ih =>
    simp only [getFrom, run_bind, run_callLevel, List.singleton_append]
    generalize w.perform now i (.get key dest) s = step
    obtain ⟨after, found, err⟩ := step
    cases err with
    | none =>
      refine ⟨0, [], rfl, by simp, .inr ⟨by omega, dest, found,
        (run w now (backfill codec key i found) after).2.2, by simp, by simp, ?_⟩⟩
      simpa using run_backfill w now codec key i found after
    | some err =>
      dsimp only
      obtain ⟨k, probes, levels, failing, outcome⟩ := ih (i + 1) found after
      refine ⟨k + 1, ⟨i, .get key dest, (found, some err)⟩ :: probes, ?_, ?_, ?_⟩
      · simp only [List.map_cons, levels, List.range_succ_eq_map, List.map_map]
        congr 1
        simp only [List.map_inj_left, Function.comp_apply]
        intro m _
        omega
      · simp only [List.mem_cons, forall_eq_or_imp]
        exact ⟨⟨dest, found, err, rfl⟩, failing⟩
      · rcases outcome with ⟨counted, notFound, trace⟩ | ⟨fewer, d, hit, calls, result, trace, filled⟩
        · exact .inl ⟨by omega, notFound, by simp [trace]⟩
        · rw [show i + (k + 1) = i + 1 + k by omega]
          exact .inr ⟨by omega, d, hit, calls, result, by simp [trace], filled⟩

/-- `Get` on `n` levels: the first `i` levels fail in turn; then either all `n` have
failed and the result is `NotFound`, with no other call made, or level `i` answers with
the destination `found`, which is the result, and the backfill follows. -/
theorem get_reads_through (codec : Codec α) (n : Nat) (key : String) (dest : α) (s : σ) :
    ∃ i probes, probes.map Entry.level = List.range i ∧
      (∀ e ∈ probes, ∃ d d' err, e = ⟨e.level, .get key d, (d', some err)⟩) ∧
      ((i = n ∧ (run w now (get codec n key dest) s).2.1.2 = some (.notFound key) ∧
          (run w now (get codec n key dest) s).2.2 = probes) ∨
        (i < n ∧ ∃ d found backfillCalls,
          (run w now (get codec n key dest) s).2.1 = (found, none) ∧
          (run w now (get codec n key dest) s).2.2 =
            probes ++ ⟨i, .get key d, (found, none)⟩ :: backfillCalls ∧
          Backfilled key (codec.marshal found) i backfillCalls)) := by
  simpa using run_getFrom w now codec key n 0 dest s

/-- Whatever the levels failed with, a `Get` that fails reports `NotFound`: every call it
made was a failed `Get`, and its error is `&NotFoundError{Key: key}`. A level's transport
failure or decoding error is dropped, not passed on. -/
theorem get_masks_level_errors (codec : Codec α) (n : Nat) (key : String) (dest : α) (s : σ) :
    (run w now (get codec n key dest) s).2.1.2 = none ∨
      ((run w now (get codec n key dest) s).2.1.2 = some (.notFound key) ∧
        ∀ e ∈ (run w now (get codec n key dest) s).2.2,
          ∃ d d' err, e = ⟨e.level, .get key d, (d', some err)⟩) := by
  obtain ⟨i, probes, -, failing, ⟨-, notFound, trace⟩ | ⟨-, d, found, calls, result, -⟩⟩ :=
    get_reads_through w now codec n key dest s
  · exact .inr ⟨notFound, trace ▸ failing⟩
  · exact .inl (by rw [result])

/-- The error of a network level that cannot be reached. -/
def connectionRefused : Error := .other "dial tcp 10.0.0.2:6379: connect: connection refused"

/-- One level, which fails every call with `connectionRefused`. -/
def outageWorld : World Json Unit where
  perform _ _ op _ := ((), op.failed connectionRefused)

/-- The outage is not a miss, and `Get` reports it as one. -/
theorem get_reports_outage_as_notFound :
    isNotFound (some connectionRefused) = false ∧
      (run outageWorld 0 (get Codec.any 1 "k" .null) ()).2.1.2 = some (.notFound "k") :=
  ⟨rfl, ((get_masks_level_errors outageWorld 0 Codec.any 1 "k" .null ()).resolve_left (by decide)).1⟩

/-- Two levels: the first misses every key; the second holds `"v"` and reports a TTL of
60 nanoseconds together with an error. -/
def ttlErrorWorld : World Json Unit where
  perform _ level op _ :=
    match level, op with
    | 0, .get key dest => ((), dest, some (.notFound key))
    | _, .get _ _ => ((), .string "v", none)
    | _, .ttl _ => ((), 60, some (.other "ERR ttl"))
    | _, .set .. => ((), none)
    | _, op => ((), op.failed (.other "unexpected call"))

/-- The hit level's `TTL` fails, and the first level is written all the same. -/
theorem get_backfills_despite_ttl_error :
    (run ttlErrorWorld 0 (get Codec.any 2 "k" .null) ()).2.2.map (fun e => (e.level, e.op)) =
      [(0, .get "k" .null), (1, .get "k" .null), (1, .ttl "k"), (0, .set "k" (.ok (.string "v")) 60)] :=
  rfl

end MultiLevelCache

end Goupter.Cache
