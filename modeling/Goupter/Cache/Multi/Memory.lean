import Goupter.Cache.Memory.Basic
import Goupter.Cache.Multi.Prog

/-!
# In-process stores as levels

A list of in-process stores is a world: a call on level `j` is the call on the `j`-th
store. Each store changes only through the calls made on it, so after a trace the
`j`-th store is the effect of the trace's calls on level `j`, in order
(`after_memoryLevels`). Reads (`Get`, `Exists`, `MGet`, `TTL`, and `Close` and `Ping`,
which the model leaves without effect) change no store.

In `memoryLevels` every call reads the clock at the instant the program runs at. In Go
each method of each store reads `time.Now()` itself, and `clockedLevels` is that world:
it numbers the calls, and the call numbered `m` reads `env m`, so that a theorem over
every `env` holds for every schedule of the readings. At a constant clock the two worlds
make the same calls with the same replies (`run_clockedLevels_at`).
-/

namespace Goupter.Cache

variable {α : Type}

/-- The calls that leave an in-process store as it was. -/
def Op.isRead : Op α → Bool
  | .get .. | .exists _ | .mget _ | .ttl _ | .close | .ping => true
  | _ => false

namespace MemoryCache

theorem performIn_of_isRead (codec : Codec α) (reads : Reads) (c : MemoryCache) {op : Op α}
    (read : op.isRead = true) : (c.performIn codec reads op).1 = c := by
  cases op <;> first | rfl | cases read

end MemoryCache

/-- In-process stores as the levels of a multi-level cache. -/
def memoryLevels (codec : Codec α) : World α (List MemoryCache) where
  perform now j op stores :=
    match stores[j]? with
    | some c => (stores.set j (c.perform codec now op).1, (c.perform codec now op).2)
    | none => (stores, op.failed (.other "no such level"))

namespace Prog

variable (codec : Codec α) (now : Int)

theorem memoryLevels_perform_getElem? (j k : Nat) (op : Op α) (stores : List MemoryCache) :
    ((memoryLevels codec).perform now j op stores).1[k]? =
      if j = k then stores[k]?.map fun c => (c.perform codec now op).1 else stores[k]? := by
  simp only [memoryLevels]
  split
  · rename_i c found
    simp only [List.getElem?_set]
    split
    · subst_vars
      simp [found, (List.getElem?_eq_some_iff.mp found).1]
    · rfl
  · rename_i missing
    split
    · subst_vars
      simp [missing]
    · rfl

/-- After a trace, each store is the effect of the trace's calls on its level. -/
theorem after_memoryLevels (stores : List MemoryCache) (trace : List (Entry α)) (k : Nat) :
    (after (memoryLevels codec) now stores trace)[k]? =
      stores[k]?.map fun c =>
        (trace.filter (·.level = k)).foldl (fun c e => (c.perform codec now e.op).1) c := by
  induction trace generalizing stores with
  | nil => simp [after]
  | cons e trace ih =>
    simp only [after, List.foldl_cons] at ih ⊢
    rw [ih, memoryLevels_perform_getElem?]
    by_cases same : e.level = k <;> simp [same, List.filter_cons, Function.comp_def]

/-- A trace of reads leaves the stores as they were. -/
theorem after_reads (stores : List MemoryCache) (trace : List (Entry α))
    (reads : ∀ e ∈ trace, e.op.isRead = true) : after (memoryLevels codec) now stores trace = stores := by
  induction trace generalizing stores with
  | nil => rfl
  | cons e trace ih =>
    simp only [after, List.foldl_cons] at ih ⊢
    have unchanged : ((memoryLevels codec).perform now e.level e.op stores).1 = stores := by
      apply List.ext_getElem?
      intro k
      rw [memoryLevels_perform_getElem?]
      split
      · subst_vars
        cases stores[e.level]? <;>
          simp [MemoryCache.perform, MemoryCache.performIn_of_isRead codec _ _ (reads e (List.mem_cons_self _ _))]
      · rfl
    rw [unchanged]
    exact ih stores fun e mem => reads e (List.mem_cons_of_mem _ mem)

/-- The state after a trace depends on its calls, not on their replies. -/
theorem after_eq_of_calls {σ : Type} (w : World α σ) (s : σ) (trace trace' : List (Entry α))
    (sameCalls : trace.map (fun e => (e.level, e.op)) = trace'.map fun e => (e.level, e.op)) :
    after w now s trace = after w now s trace' := by
  induction trace generalizing trace' s with
  | nil => cases trace' <;> simp_all
  | cons e trace ih =>
    cases trace' with
    | nil => simp at sameCalls
    | cons e' trace' =>
      simp only [List.map_cons, List.cons.injEq, Prod.mk.injEq] at sameCalls
      obtain ⟨⟨sameLevel, sameOp⟩, rest⟩ := sameCalls
      simp only [after, List.foldl_cons] at ih ⊢
      rw [sameLevel, sameOp]
      exact ih _ _ rest

/-- The same call on the levels `0, ..., i - 1`, in order. -/
theorem after_uniform (stores : List MemoryCache) (calls : List (Entry α)) (op : Op α) (i : Nat)
    (uniform : calls.map (fun e => (e.level, e.op)) = (List.range i).map fun j => (j, op)) (j : Nat) :
    (after (memoryLevels codec) now stores calls)[j]? =
      if j < i then stores[j]?.map fun c => (c.perform codec now op).1 else stores[j]? := by
  rw [after_eq_of_calls now _ stores calls ((List.range i).map fun j => ⟨j, op, op.failed (.other "")⟩)
    (by simpa [Function.comp_def] using uniform)]
  clear uniform
  induction i with
  | zero => simp [after]
  | succ i ih =>
    simp only [List.range_succ, List.map_append, List.map_cons, List.map_nil, after,
      List.foldl_append, List.foldl_cons, List.foldl_nil] at ih ⊢
    rw [memoryLevels_perform_getElem?, ih]
    by_cases last : i = j
    · subst last
      simp
    · simp only [last, if_false]
      by_cases below : j < i
      · simp [below, show j < i + 1 by omega]
      · simp [below, show ¬j < i + 1 by omega]

/-- `Set(key, value, ttl)` on the levels `0, ..., i - 1`, in order. -/
theorem after_setLevels (stores : List MemoryCache) (sets : List (Entry α)) (key : String)
    (value : Except Error Json) (ttl : Int) (i : Nat)
    (calls : sets.map (fun e => (e.level, e.op)) = (List.range i).map fun j => (j, .set key value ttl))
    (j : Nat) :
    (after (memoryLevels codec) now stores sets)[j]? =
      if j < i then stores[j]?.map fun c => (c.set now key value ttl).1 else stores[j]? :=
  after_uniform codec now stores sets _ i calls j

end Prog

/-- In-process stores as levels whose calls read the world outside the stores in turn:
the state counts the calls made, and the call numbered `m` reads `env m`, whatever
instant the program runs at. -/
def clockedLevels (codec : Codec α) (env : Nat → Reads) : World α (List MemoryCache × Nat) where
  perform _ j op s :=
    match s.1[j]? with
    | some c => ((s.1.set j (c.performIn codec (env s.2) op).1, s.2 + 1), (c.performIn codec (env s.2) op).2)
    | none => ((s.1, s.2 + 1), op.failed (.other "no such level"))

namespace Prog

variable (codec : Codec α) (env : Nat → Reads) (t : Int)

theorem clockedLevels_perform_counter (j : Nat) (op : Op α) (s : List MemoryCache × Nat) :
    ((clockedLevels codec env).perform t j op s).1.2 = s.2 + 1 := by
  simp only [clockedLevels]
  split <;> rfl

theorem clockedLevels_perform_getElem? (j k : Nat) (op : Op α) (s : List MemoryCache × Nat) :
    ((clockedLevels codec env).perform t j op s).1.1[k]? =
      if j = k then s.1[k]?.map fun c => (c.performIn codec (env s.2) op).1 else s.1[k]? := by
  simp only [clockedLevels]
  split
  · rename_i c found
    simp only [List.getElem?_set]
    split
    · subst_vars
      simp [found, (List.getElem?_eq_some_iff.mp found).1]
    · rfl
  · rename_i missing
    split
    · subst_vars
      simp [missing]
    · rfl

/-- A trace of `count` calls advances the counter by `count`. -/
theorem after_clocked_counter (s : List MemoryCache × Nat) (trace : List (Entry α)) :
    (after (clockedLevels codec env) t s trace).2 = s.2 + trace.length := by
  induction trace generalizing s with
  | nil => rfl
  | cons e trace ih =>
    rw [after_cons, ih, clockedLevels_perform_counter, List.length_cons]
    omega

theorem after_clocked_reads (s : List MemoryCache × Nat) (trace : List (Entry α))
    (reads : ∀ e ∈ trace, e.op.isRead = true) : (after (clockedLevels codec env) t s trace).1 = s.1 := by
  induction trace generalizing s with
  | nil => rfl
  | cons e trace ih =>
    rw [after_cons, ih _ fun e mem => reads e (List.mem_cons_of_mem _ mem)]
    apply List.ext_getElem?
    intro k
    rw [clockedLevels_perform_getElem?]
    split
    · subst_vars
      cases s.1[e.level]? <;>
        simp [MemoryCache.performIn_of_isRead codec _ _ (reads e (List.mem_cons_self _ _))]
    · rfl

/-- The same call on the levels `0, ..., i - 1`, in order, the `j`-th reading what the call
numbered `m + j` reads. -/
theorem after_clocked_uniform (stores : List MemoryCache) (m : Nat) (calls : List (Entry α)) (op : Op α)
    (i : Nat) (uniform : calls.map (fun e => (e.level, e.op)) = (List.range i).map fun j => (j, op))
    (j : Nat) :
    (after (clockedLevels codec env) t (stores, m) calls).1[j]? =
      if j < i then stores[j]?.map fun c => (c.performIn codec (env (m + j)) op).1 else stores[j]? := by
  rw [after_eq_of_calls t _ (stores, m) calls ((List.range i).map fun j => ⟨j, op, op.failed (.other "")⟩)
    (by simpa [Function.comp_def] using uniform)]
  clear uniform
  induction i with
  | zero => simp [after]
  | succ i ih =>
    simp only [List.range_succ, List.map_append, List.map_cons, List.map_nil, after,
      List.foldl_append, List.foldl_cons, List.foldl_nil] at ih ⊢
    have counter := after_clocked_counter codec env t (stores, m)
      ((List.range i).map fun j => (⟨j, op, op.failed (.other "")⟩ : Entry α))
    simp only [after, List.length_map, List.length_range] at counter
    rw [clockedLevels_perform_getElem?, ih, counter]
    by_cases last : i = j
    · subst last
      simp
    · simp only [last, if_false]
      by_cases below : j < i
      · simp [below, show j < i + 1 by omega]
      · simp [below, show ¬j < i + 1 by omega]

theorem clockedLevels_at_perform (now : Int) (j : Nat) (op : Op α) (stores : List MemoryCache) (m : Nat) :
    (clockedLevels codec fun _ => .at now).perform t j op (stores, m) =
      ((((memoryLevels codec).perform now j op stores).1, m + 1),
        ((memoryLevels codec).perform now j op stores).2) := by
  simp only [clockedLevels, memoryLevels]
  split <;> rfl

/-- At a constant clock the clocked levels are the levels of `memoryLevels`: a program
makes the same calls, gets the same replies and leaves the same stores. -/
theorem run_clockedLevels_at {β : Type} (now : Int) (p : Prog α β) (stores : List MemoryCache) (m : Nat) :
    run (clockedLevels codec fun _ => .at now) t p (stores, m) =
      (((run (memoryLevels codec) now p stores).1, m + (run (memoryLevels codec) now p stores).2.2.length),
        (run (memoryLevels codec) now p stores).2.1, (run (memoryLevels codec) now p stores).2.2) := by
  induction p generalizing stores m with
  | done result => rfl
  | call level op next ih =>
    simp only [run_call, clockedLevels_at_perform, ih, List.length_cons, Prod.mk.injEq, and_true, true_and]
    omega

end Prog

end Goupter.Cache