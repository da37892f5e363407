import Goupter.Cache.Multi.Get

/-!
# The calls of the other methods

Over every world, the calls each method of `multiLevelCache` makes besides `Get`: the
fan-out methods (`Set`, `Delete`, `MSet`, `MDelete`, `Expire`, `Close`) make the same call
on every level in order; `Exists` and `MGet` only read; `TTL` and the counters make one
call, on the last level, and return its reply; `SetNX` asks the last level and, when that
level created the key, writes the same value into every level before it.
-/

namespace Goupter.Cache

namespace MultiLevelCache

open Prog

variable {α σ : Type} (w : World α σ) (now : Int)

/-- The calls of a fan-out: `op` on `count` consecutive levels from `j`. -/
theorem run_fanOut (op : Op α) (errorOf : op.Reply → Option Error) (count j : Nat)
    (lastErr : Option Error) (s : σ) :
    (run w now (fanOut op errorOf j count lastErr) s).2.2.map (fun e => (e.level, e.op)) =
      (List.range count).map fun m => (j + m, op) := by
  induction count generalizing j lastErr s with
  | zero => rfl
  | succ count ih =>
    simp only [fanOut, run_bind, run_callLevel, List.singleton_append, List.map_cons, ih,
      List.range_succ_eq_map, List.map_map]
    congr 1
    simp only [List.map_inj_left, Function.comp_apply, Prod.mk.injEq, and_true]
    intro m _
    omega

/-- A fan-out makes one call on each level from `j` in turn, whatever the replies; its
result is the error of the last level that failed, or `lastErr` when none did. -/
theorem run_fanOut_replies (op : Op α) (errorOf : op.Reply → Option Error) (count j : Nat)
    (lastErr : Option Error) (s : σ) :
    ∃ replies : List op.Reply, replies.length = count ∧
      (run w now (fanOut op errorOf j count lastErr) s).2.2 =
        (replies.enumFrom j).map (fun call => ⟨call.1, op, call.2⟩) ∧
      (run w now (fanOut op errorOf j count lastErr) s).2.1 =
        (replies.filterMap errorOf).getLast?.or lastErr := by
  induction count generalizing j lastErr s with
  | zero => exact ⟨[], rfl, rfl, rfl⟩
  | succ count ih =>
    simp only [fanOut, run_bind, run_callLevel, List.singleton_append]
    generalize w.perform now j op s = step
    obtain ⟨after, reply⟩ := step
    dsimp only
    cases failed : errorOf reply with
    | none =>
      obtain ⟨replies, length, trace, result⟩ := ih (j + 1) lastErr after
      exact ⟨reply :: replies, by simp [length], by simp [trace], by simp [result, failed]⟩
    | some err =>
      obtain ⟨replies, length, trace, result⟩ := ih (j + 1) (some err) after
      refine ⟨reply :: replies, by simp [length], by simp [trace], ?_⟩
      rw [result, List.filterMap_cons_some failed, List.getLast?_cons]
      cases (replies.filterMap errorOf).getLast? <;> rfl

/-- A run of a fan-out method's loop `for _, level := range c.levels` on `n` levels: the same
call `op` on levels `0, ..., n - 1`, each once and in order whatever the earlier ones
returned, and as result the `lastErr` the loop keeps, the error of the highest-index level
that failed, `nil` when none did. -/
def FansOut (n : Nat) (op : Op α) (errorOf : op.Reply → Option Error) (p : Prog α (Option Error))
    (s : σ) : Prop :=
  ∃ replies : List op.Reply, replies.length = n ∧
    (run w now p s).2.2 = replies.enum.map (fun call => ⟨call.1, op, call.2⟩) ∧
    (run w now p s).2.1 = (replies.filterMap errorOf).getLast?

theorem fansOut_fanOut (n : Nat) (op : Op α) (errorOf : op.Reply → Option Error) (s : σ) :
    FansOut w now n op errorOf (fanOut op errorOf 0 n none) s := by
  obtain ⟨replies, length, trace, result⟩ := run_fanOut_replies w now op errorOf n 0 none s
  exact ⟨replies, length, trace, by rw [result, Option.or_none]⟩

/-- A run of `Ping`'s loop on `n` levels: `level.Ping(ctx)` on levels `0, 1, ...` in order,
which either all return `nil`, and then `Ping` returns `nil`, or stop at the first level
that fails, whose error `Ping` returns. -/
def StopsAtFirstFailure (n : Nat) (p : Prog α (Option Error)) (s : σ) : Prop :=
  ∃ replies : List (Option Error),
    (run w now p s).2.2 = replies.enum.map (fun call => ⟨call.1, .ping, call.2⟩) ∧
    ((replies = List.replicate n none ∧ (run w now p s).2.1 = none) ∨
      ∃ k err, k < n ∧ replies = List.replicate k none ++ [some err] ∧ (run w now p s).2.1 = some err)

theorem run_pingFrom_replies (count j : Nat) (s : σ) :
    ∃ replies : List (Option Error),
      (run w now (pingFrom j count : Prog α _) s).2.2 =
        (replies.enumFrom j).map (fun call => ⟨call.1, .ping, call.2⟩) ∧
      ((replies = List.replicate count none ∧ (run w now (pingFrom j count : Prog α _) s).2.1 = none) ∨
        ∃ k err, k < count ∧ replies = List.replicate k none ++ [some err] ∧
          (run w now (pingFrom j count : Prog α _) s).2.1 = some err) := by
  induction count generalizing j s with
  | zero => exact ⟨[], rfl, .inl ⟨rfl, rfl⟩⟩
  | succ count ih =>
    simp only [pingFrom, run_bind, run_callLevel, List.singleton_append]
    generalize w.perform now j .ping s = step
    obtain ⟨after, reply⟩ := step
    cases reply with
    | some err => exact ⟨[some err], rfl, .inr ⟨0, err, by omega, rfl, rfl⟩⟩
    | none =>
      obtain ⟨replies, trace, outcome⟩ := ih (j + 1) after
      refine ⟨none :: replies, by simp [trace], ?_⟩
      rcases outcome with ⟨all, result⟩ | ⟨k, err, fewer, stopped, result⟩
      · exact .inl ⟨by simp [all, List.replicate_succ], result⟩
      · exact .inr ⟨k + 1, err, by omega, by simp [stopped, List.replicate_succ], result⟩

/-- The fan-out policy: `Set`, `Delete`, `MSet`, `MDelete`, `Expire` and `Close` call every
level once, in order, whatever the earlier levels returned, and return the error of the
last level that failed; `Ping` stops at the first level that fails and returns its error. -/
theorem fanOut_policy (n : Nat) (key : String) (value : Except Error Json) (ttl : Int)
    (items : List (String × Except Error Json)) (keys : List String) (s : σ) :
    FansOut w now n (.set key value ttl) id (set n key value ttl) s ∧
      FansOut w now n (.delete key) id (delete n key) s ∧
      FansOut w now n (.mset items ttl) id (mset n items ttl) s ∧
      FansOut w now n (.mdelete keys) id (mdelete n keys) s ∧
      FansOut w now n (.expire key ttl) id (expire n key ttl) s ∧
      FansOut w now n .close id (close n) s ∧
      StopsAtFirstFailure w now n (ping n : Prog α _) s :=
  ⟨fansOut_fanOut w now n (.set key value ttl) id s, fansOut_fanOut w now n (.delete key) id s,
    fansOut_fanOut w now n (.mset items ttl) id s, fansOut_fanOut w now n (.mdelete keys) id s,
    fansOut_fanOut w now n (.expire key ttl) id s, fansOut_fanOut w now n .close id s,
    run_pingFrom_replies w now n 0 s⟩

theorem run_existsFrom (key : String) (count j : Nat) (s : σ) :
    ∀ e ∈ (run w now (existsFrom key j count : Prog α _) s).2.2, e.op = .exists key := by
  induction count generalizing j s with
  | zero => simp [existsFrom]
  | succ count ih =>
    simp only [existsFrom, run_bind, run_callLevel, List.singleton_append, List.mem_cons,
      forall_eq_or_imp, true_and]
    generalize w.perform now j (.exists key) s = step
    obtain ⟨after, found, err⟩ := step
    dsimp only
    split
    · simp
    · exact ih _ _

theorem run_mgetFrom (result : String → Option Json) (remaining : List String) (count j : Nat)
    (s : σ) : ∀ e ∈ (run w now (mgetFrom result remaining j count : Prog α _) s).2.2,
      ∃ keys, e.op = .mget keys := by
  induction count generalizing result remaining j s with
  | zero => simp [mgetFrom]
  | succ count ih =>
    simp only [mgetFrom]
    split
    · simp
    · simp only [run_bind, run_callLevel, List.singleton_append, List.mem_cons, forall_eq_or_imp]
      refine ⟨⟨remaining, rfl⟩, ?_⟩
      generalize w.perform now j (.mget remaining) s = step
      obtain ⟨after, values, err⟩ := step
      dsimp only
      split <;> apply ih

theorem run_pingFrom (count j : Nat) (s : σ) :
    ∀ e ∈ (run w now (pingFrom j count : Prog α _) s).2.2, e.op = .ping := by
  induction count generalizing j s with
  | zero => simp [pingFrom]
  | succ count ih =>
    simp only [pingFrom, run_bind, run_callLevel, List.singleton_append, List.mem_cons,
      forall_eq_or_imp, true_and]
    split
    · simp
    · exact ih _ _

/-- `TTL` is the last level's `TTL`. -/
theorem run_ttl (n : Nat) (key : String) (s : σ) (positive : 0 < n) :
    run w now (ttl n key : Prog α _) s =
      ((w.perform now (n - 1) (.ttl key) s).1, (w.perform now (n - 1) (.ttl key) s).2,
        [⟨n - 1, .ttl key, (w.perform now (n - 1) (.ttl key) s).2⟩]) := by
  simp only [ttl, if_pos positive]
  rfl

/-- `SetNX`: the last level's `SetNX`; when it created the key without error, `Set` of the
same value and TTL on the levels before it; the result is the last level's, with `false`
beside an error. -/
theorem run_setNX (n : Nat) (key : String) (value : Except Error Json) (ttl : Int) (s : σ)
    (positive : 0 < n) :
    ∃ created err copies,
      (run w now (setNX n key value ttl : Prog α _) s).2.2 =
        ⟨n - 1, .setNX key value ttl, (created, err)⟩ :: copies ∧
      copies.map (fun e => (e.level, e.op)) =
        (if err = none ∧ created = true then (List.range (n - 1)).map fun j => (j, .set key value ttl)
        else []) ∧
      (run w now (setNX n key value ttl : Prog α _) s).2.1 =
        if err = none then (created, none) else (false, err) := by
  simp only [setNX, positive, if_true, run_bind, run_callLevel, List.singleton_append]
  generalize w.perform now (n - 1) (.setNX key value ttl) s = step
  obtain ⟨after, created, err⟩ := step
  refine ⟨created, err, _, rfl, ?_⟩
  cases err with
  | some err => simp
  | none =>
    cases created
    · simp
    · simpa using run_setLevels w now key value ttl (n - 1) 0 after

end MultiLevelCache

end Goupter.Cache
