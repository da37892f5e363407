import Mathlib.Logic.Function.Basic
import Goupter.Cache.Memory.Exclusion
import Goupter.Cache.Multi.Effects

/-!
# Caches that share their last level

Several multi-level caches whose last level is one in-process store, each with levels of
its own before it, run their methods concurrently. Only the calls on the levels are
atomic: each is made under its store's lock, so a scheduler interleaves the methods call
by call (`Shared.step`). The shared store sees a serial history of calls and cleanup
passes, which the model keeps as a ghost record, together with, for each method that
returned, the position in that history of its first call on the shared store.

The `SetNX` of the multi-level cache makes its first call on the last level, and the rest
of it returns what that call decided (`setNX_first_call`). So every `SetNX` that returned
was decided at its own position of the shared history (`Shared.Invariant`), and two of
one key that returned `true` were decided at two positions between which, by
`MemoryCache.setNX_excludes`, the key's life ended: `SetNX` is a lock across the caches.
-/

namespace Goupter.Cache

namespace Prog

variable {α β γ : Type}

/-- Every way the rest of a program can go returns `result`. -/
inductive Returns : Prog α β → β → Prop
  | done (result : β) : Returns (.done result) result
  | call {level : Nat} {op : Op α} {next : op.Reply → Prog α β} {result : β} :
      (∀ reply, Returns (next reply) result) → Returns (.call level op next) result

theorem returns_bind_pure (p : Prog α β) (result : γ) :
    Returns (p >>= fun _ => pure result) result := by
  induction p with
  | done _ => exact .done result
  | call level op next ih => exact .call ih

theorem Returns.eq_of_done {result result' : β} (returns : Returns (.done result' : Prog α β) result) :
    result' = result := by
  cases returns
  rfl

theorem Returns.next {level : Nat} {op : Op α} {next : op.Reply → Prog α β} {result : β}
    (returns : Returns (.call level op next) result) (reply : op.Reply) : Returns (next reply) result := by
  cases returns with
  | call rest => exact rest reply

end Prog

namespace MultiLevelCache

open Prog

variable {α : Type}

/-- What `SetNX` returns for the reply of the last level: whether it created the key, or
`false` with its error. -/
def setNXResult (reply : Bool × Option Error) : Bool × Option Error :=
  if reply.2 = none then (reply.1, none) else (false, reply.2)

/-- `SetNX` first calls `SetNX` on the last level, and the rest of it returns what that
call decided. -/
theorem setNX_first_call (levels : Nat) (key : String) (value : Except Error Json) (ttl : Int) :
    ∃ next, (setNX (levels + 1) key value ttl : Prog α _) = .call levels (.setNX key value ttl) next ∧
      ∀ reply, Returns (next reply) (setNXResult reply) := by
  unfold setNX
  rw [if_pos (Nat.succ_pos levels)]
  refine ⟨_, rfl, fun ⟨created, err⟩ => ?_⟩
  cases err with
  | some err => exact .done _
  | none =>
    cases created
    · exact .done _
    · exact returns_bind_pure _ _

end MultiLevelCache

/-- A multi-level cache whose last level is the shared store. -/
structure Client (α : Type) where
  /-- Its own levels, before the shared one. -/
  levels : List MemoryCache
  /-- The method it is running, with what is left of its program. -/
  running : Option (Σ op : Op α, Prog α op.Reply)
  /-- The position in the shared store's history of the first call the running method
  made on it. -/
  firstShared : Option Nat

/-- Multi-level caches sharing their last level, with the history of the shared store. -/
structure Shared (α : Type) where
  store : MemoryCache
  clients : Nat → Client α
  /-- Every call and cleanup pass of the shared store, in order. -/
  history : List (Event α)
  /-- Every method that returned: the client, the call with its result, and the position
  of its first call on the shared store. -/
  returned : List (Nat × (Σ op : Op α, op.Reply) × Option Nat)

/-- What the scheduler does next: a client starts a method, a client makes the next call
of its method or returns, or the shared store's cleanup runs. -/
inductive Action (α : Type) where
  | invoke (client : Nat) (op : Op α)
  | advance (now : Int) (client : Nat)
  | sweep (now : Int)

namespace Action

/-- The instant of an action that can reach the shared store. -/
def instant {α : Type} : Action α → Option Int
  | invoke .. => none
  | advance now _ => some now
  | sweep now => some now

end Action

namespace Shared

variable {α : Type} (codec : Codec α)

/-- Caches that share `store`, client `o` with its own levels `levels o`, all idle. -/
def start (store : MemoryCache) (levels : Nat → List MemoryCache) : Shared α where
  store := store
  clients o := ⟨levels o, none, none⟩
  history := []
  returned := []

/-- Client `o` replaced by `client`. -/
def setClient (s : Shared α) (o : Nat) (client : Client α) : Shared α :=
  { s with clients := Function.update s.clients o client }

/-- One action of the scheduler. A call on level `levels.length` of a client is a call on
the shared store; the others are calls on its own levels. -/
def step (s : Shared α) : Action α → Shared α
  | .invoke o op =>
    match (s.clients o).running with
    | some _ => s
    | none =>
      s.setClient o ⟨(s.clients o).levels,
        some ⟨op, MultiLevelCache.program codec ((s.clients o).levels.length + 1) op⟩, none⟩
  | .advance now o =>
    match (s.clients o).running with
    | none => s
    | some ⟨op, .done result⟩ =>
      { s.setClient o ⟨(s.clients o).levels, none, none⟩ with
        returned := s.returned ++ [(o, ⟨op, result⟩, (s.clients o).firstShared)] }
    | some ⟨op, .call level tierOp next⟩ =>
      if level = (s.clients o).levels.length then
        { s.setClient o ⟨(s.clients o).levels, some ⟨op, next (s.store.perform codec now tierOp).2⟩,
            (s.clients o).firstShared.orElse fun _ => some s.history.length⟩ with
          store := (s.store.perform codec now tierOp).1
          history := s.history ++ [.call now tierOp] }
      else
        s.setClient o ⟨((memoryLevels codec).perform now level tierOp (s.clients o).levels).1,
          some ⟨op, next ((memoryLevels codec).perform now level tierOp (s.clients o).levels).2⟩,
          (s.clients o).firstShared⟩
  | .sweep now => { s with store := s.store.cleanup now, history := s.history ++ [.sweep now] }

/-- The caches after a run of actions. -/
def run (s : Shared α) (actions : List (Action α)) : Shared α := actions.foldl (step codec) s

@[simp] theorem setClient_clients (s : Shared α) (o : Nat) (client : Client α) (o' : Nat) :
    (s.setClient o client).clients o' = if o' = o then client else s.clients o' :=
  Function.update_apply _ _ _ _

/-- The positions of the first shared calls of the methods that returned. -/
def returnedPositions (s : Shared α) : List Nat := s.returned.filterMap (·.2.2)

/-- The positions of first shared calls are distinct: each belongs to one method, running
or returned, and all are positions of the history. -/
structure Positions (s : Shared α) : Prop where
  firstShared_lt : ∀ o m, (s.clients o).firstShared = some m → m < s.history.length
  firstShared_fresh : ∀ o m, (s.clients o).firstShared = some m → m ∉ s.returnedPositions
  firstShared_unique : ∀ o o' m, (s.clients o).firstShared = some m →
    (s.clients o').firstShared = some m → o = o'
  returned_lt : ∀ m ∈ s.returnedPositions, m < s.history.length
  returned_nodup : s.returnedPositions.Nodup

/-- A client whose first shared call is unset or kept leaves the positions distinct. -/
theorem Positions.setClient {s : Shared α} (positions : s.Positions) (o : Nat) (client : Client α)
    (kept : client.firstShared = none ∨ client.firstShared = (s.clients o).firstShared) :
    (s.setClient o client).Positions := by
  have cases : ∀ o' m, ((s.setClient o client).clients o').firstShared = some m →
      (s.clients o').firstShared = some m := by
    intro o' m first
    rw [setClient_clients] at first
    split at first
    · subst_vars
      rcases kept with unset | same
      · rw [unset] at first
        cases first
      · rwa [same] at first
    · exact first
  exact ⟨fun o m first => positions.firstShared_lt o m (cases o m first),
    fun o m first => positions.firstShared_fresh o m (cases o m first),
    fun o o' m first first' => positions.firstShared_unique o o' m (cases o m first) (cases o' m first'),
    positions.returned_lt, positions.returned_nodup⟩

section Invariant

variable (c₀ : MemoryCache)

/-- The `SetNX(key, value, ttl)` whose call on the shared store is at position `m` of its
history decided `result` there. -/
def Decided (history : List (Event α)) (key : String) (value : Except Error Json) (ttl : Int)
    (m : Nat) (result : Bool × Option Error) : Prop :=
  ∃ now, history[m]? = some (.call now (.setNX key value ttl)) ∧
    result = MultiLevelCache.setNXResult
      ((MemoryCache.before codec c₀ history m).setNX now key value ttl).2

theorem Decided.append {history : List (Event α)} {key : String} {value : Except Error Json}
    {ttl : Int} {m : Nat} {result : Bool × Option Error}
    (decided : Decided codec c₀ history key value ttl m result) (e : Event α) :
    Decided codec c₀ (history ++ [e]) key value ttl m result := by
  obtain ⟨now, atM, decides⟩ := decided
  have inRange := (List.getElem?_eq_some_iff.mp atM).1
  refine ⟨now, by rwa [List.getElem?_append_left inRange], ?_⟩
  rwa [MemoryCache.before, List.take_append_of_le_length (Nat.le_of_lt inRange)]

/-- What holds of every state the scheduler reaches from caches sharing `c₀`: the shared
store is what its history made of `c₀`; every running `SetNX` either has not called it yet
or was decided at its first call there, and will return what was decided; every
`SetNX` that returned was decided at the position it recorded. -/
structure Invariant (s : Shared α) : Prop where
  store_eq : s.store = (MemoryCache.replay codec s.history c₀).1
  positions : s.Positions
  setNX_running : ∀ o key value ttl (p : Prog α (Bool × Option Error)),
    (s.clients o).running = some ⟨.setNX key value ttl, p⟩ →
      ((s.clients o).firstShared = none ∧
        p = MultiLevelCache.setNX ((s.clients o).levels.length + 1) key value ttl) ∨
      ∃ m result, (s.clients o).firstShared = some m ∧
        Decided codec c₀ s.history key value ttl m result ∧ Prog.Returns p result
  setNX_returned : ∀ o key value ttl result first,
    (o, (⟨.setNX key value ttl, result⟩ : Σ op : Op α, op.Reply), first) ∈ s.returned →
      ∃ m, first = some m ∧ Decided codec c₀ s.history key value ttl m result

theorem invariant_start (levels : Nat → List MemoryCache) :
    Invariant codec c₀ (start c₀ levels : Shared α) := by
  refine ⟨rfl, ⟨?_, ?_, ?_, ?_, ?_⟩, ?_, ?_⟩ <;> simp [start, returnedPositions]

/-- A longer history with the same clients and returned methods keeps the positions
distinct. -/
theorem Positions.grow {s s' : Shared α} (positions : s.Positions) (clients : s'.clients = s.clients)
    (returned : s'.returned = s.returned) (longer : s.history.length ≤ s'.history.length) :
    s'.Positions := by
  obtain ⟨firstLt, fresh, unique, returnedLt, nodup⟩ := positions
  refine ⟨fun o m first => ?_, fun o m first => ?_, fun o o' m first first' => ?_, fun m mem => ?_, ?_⟩
  · rw [clients] at first
    exact Nat.lt_of_lt_of_le (firstLt o m first) longer
  · rw [clients] at first
    rw [returnedPositions, returned]
    exact fresh o m first
  · rw [clients] at first first'
    exact unique o o' m first first'
  · rw [returnedPositions, returned] at mem
    exact Nat.lt_of_lt_of_le (returnedLt m mem) longer
  · rw [returnedPositions, returned]
    exact nodup

variable {codec c₀} {s : Shared α}

theorem Invariant.invoke (inv : Invariant codec c₀ s) (o : Nat) (op : Op α) :
    Invariant codec c₀ (s.step codec (.invoke o op)) := by
  simp only [step]
  split
  · exact inv
  refine ⟨inv.store_eq, inv.positions.setClient o _ (.inl rfl), fun o' key value ttl p running => ?_,
    inv.setNX_returned⟩
  by_cases same : o' = o
  · subst same
    simp only [setClient_clients, if_true, Option.some.injEq] at running ⊢
    obtain ⟨sameOp, started⟩ := Sigma.ext_iff.mp running
    dsimp only at sameOp started
    subst sameOp
    exact .inl ⟨trivial, (eq_of_heq started).symm⟩
  · simp only [setClient_clients, same, if_false] at running ⊢
    exact inv.setNX_running o' key value ttl p running

theorem Invariant.sweep (inv : Invariant codec c₀ s) (now : Int) :
    Invariant codec c₀ (s.step codec (.sweep now)) := by
  refine ⟨?_, inv.positions.grow rfl rfl (by simp [step]), fun o key value ttl p running => ?_,
    fun o key value ttl result first mem => ?_⟩
  · show s.store.cleanup now = (MemoryCache.replay codec (s.history ++ [.sweep now]) c₀).1
    rw [MemoryCache.replay_append, ← inv.store_eq]
    rfl
  · rcases inv.setNX_running o key value ttl p running with unstarted | ⟨m, result, first, decided, returns⟩
    · exact .inl unstarted
    · exact .inr ⟨m, result, first, decided.append codec c₀ _, returns⟩
  · obtain ⟨m, first, decided⟩ := inv.setNX_returned o key value ttl result first mem
    exact ⟨m, first, decided.append codec c₀ _⟩

theorem setNX_not_done (levels : Nat) (key : String) (value : Except Error Json) (ttl : Int)
    (result : Bool × Option Error) :
    (MultiLevelCache.setNX (levels + 1) key value ttl : Prog α _) ≠ .done result := by
  obtain ⟨next, first, _⟩ := MultiLevelCache.setNX_first_call (α := α) levels key value ttl
  rw [first]
  exact Prog.noConfusion

/-- A method that returns records the position of its first shared call. -/
theorem Invariant.finish (inv : Invariant codec c₀ s) {o : Nat} {op : Op α} {result : op.Reply}
    (running : (s.clients o).running = some ⟨op, .done result⟩) :
    Invariant codec c₀ { s.setClient o ⟨(s.clients o).levels, none, none⟩ with
      returned := s.returned ++ [(o, ⟨op, result⟩, (s.clients o).firstShared)] } := by
  obtain ⟨firstLt, fresh, unique, returnedLt, nodup⟩ := inv.positions
  have others : ∀ o' m, ((s.setClient o ⟨(s.clients o).levels, none, none⟩).clients o').firstShared =
      some m → o' ≠ o ∧ (s.clients o').firstShared = some m := by
    intro o' m first
    rw [setClient_clients] at first
    split at first
    · cases first
    · exact ⟨‹_›, first⟩
  have positions : returnedPositions { s.setClient o ⟨(s.clients o).levels, none, none⟩ with
      returned := s.returned ++ [(o, ⟨op, result⟩, (s.clients o).firstShared)] } =
      s.returnedPositions ++ (s.clients o).firstShared.toList := by
    simp only [returnedPositions, List.filterMap_append, List.filterMap_cons, List.filterMap_nil]
    cases (s.clients o).firstShared <;> rfl
  refine ⟨inv.store_eq, ⟨fun o' m first => firstLt o' m (others o' m first).2, fun o' m first => ?_,
    fun o₁ o₂ m first₁ first₂ => ?_, fun m mem => ?_, ?_⟩, fun o' key value ttl p running' => ?_,
    fun o' key value ttl res first mem => ?_⟩
  · obtain ⟨other, first⟩ := others o' m first
    rw [positions, List.mem_append, not_or]
    refine ⟨fresh o' m first, fun mine => other (unique o' o m first ?_)⟩
    simpa using mine
  · exact unique o₁ o₂ m (others o₁ m first₁).2 (others o₂ m first₂).2
  · rw [positions, List.mem_append] at mem
    rcases mem with old | mine
    · exact returnedLt m old
    · exact firstLt o m (by simpa using mine)
  · rw [positions, List.Nodup, List.pairwise_append]
    refine ⟨nodup, ?_, fun m old m' mine same => ?_⟩
    · cases (s.clients o).firstShared <;> simp
    · subst same
      exact fresh o m (by simpa using mine) old
  · have other : o' ≠ o := by
      intro same
      subst same
      simp at running'
    simp only [setClient_clients, other, if_false] at running' ⊢
    exact inv.setNX_running o' key value ttl p running'
  · rcases List.mem_append.mp mem with old | mine
    · exact inv.setNX_returned o' key value ttl res first old
    simp only [List.mem_singleton, Prod.mk.injEq] at mine
    obtain ⟨rfl, same, rfl⟩ := mine
    obtain ⟨sameOp, sameResult⟩ := Sigma.ext_iff.mp same
    dsimp only at sameOp sameResult
    subst sameOp
    rcases inv.setNX_running o' key value ttl _ running with ⟨_, unstarted⟩ | ⟨m, decided, first, isDecided, returns⟩
    · exact absurd unstarted.symm (setNX_not_done _ key value ttl result)
    · refine ⟨m, first, ?_⟩
      rwa [eq_of_heq sameResult, returns.eq_of_done]

/-- A call on a client's own level changes neither the shared store nor any position. -/
theorem Invariant.ownCall (inv : Invariant codec c₀ s) {o : Nat} {op : Op α} {level : Nat}
    {tierOp : Op α} {next : tierOp.Reply → Prog α op.Reply}
    (running : (s.clients o).running = some ⟨op, .call level tierOp next⟩)
    (own : level ≠ (s.clients o).levels.length) (levels : List MemoryCache) (reply : tierOp.Reply) :
    Invariant codec c₀ (s.setClient o ⟨levels, some ⟨op, next reply⟩, (s.clients o).firstShared⟩) := by
  refine ⟨inv.store_eq, inv.positions.setClient o _ (.inr rfl), fun o' key value ttl p running' => ?_,
    inv.setNX_returned⟩
  by_cases same : o' = o
  · subst same
    simp only [setClient_clients, if_true, Option.some.injEq] at running' ⊢
    obtain ⟨sameOp, sameProg⟩ := Sigma.ext_iff.mp running'
    dsimp only at sameOp sameProg
    subst sameOp
    rcases inv.setNX_running o' key value ttl _ running with ⟨_, unstarted⟩ | ⟨m, result, first, decided, returns⟩
    · obtain ⟨next₀, firstCall, _⟩ := MultiLevelCache.setNX_first_call (α := α) (s.clients o').levels.length
        key value ttl
      rw [firstCall] at unstarted
      exact absurd (Prog.call.inj unstarted).1 own
    · exact .inr ⟨m, result, first, decided, eq_of_heq sameProg ▸ returns.next reply⟩
  · simp only [setClient_clients, same, if_false] at running' ⊢
    exact inv.setNX_running o' key value ttl p running'

/-- A call on the shared store extends its history; a `SetNX` that makes its first call
there is decided at that position. -/
theorem Invariant.sharedCall (inv : Invariant codec c₀ s) {o : Nat} {op : Op α} {level : Nat}
    {tierOp : Op α} {next : tierOp.Reply → Prog α op.Reply}
    (running : (s.clients o).running = some ⟨op, .call level tierOp next⟩)
    (shared : level = (s.clients o).levels.length) (now : Int) :
    Invariant codec c₀ { s.setClient o ⟨(s.clients o).levels, some ⟨op, next (s.store.perform codec now tierOp).2⟩,
        (s.clients o).firstShared.orElse fun _ => some s.history.length⟩ with
      store := (s.store.perform codec now tierOp).1
      history := s.history ++ [.call now tierOp] } := by
  obtain ⟨firstLt, fresh, unique, returnedLt, nodup⟩ := inv.positions
  have firstOf : ∀ o' m, ((s.setClient o ⟨(s.clients o).levels, some ⟨op, next (s.store.perform codec now tierOp).2⟩,
      (s.clients o).firstShared.orElse fun _ => some s.history.length⟩).clients o').firstShared = some m →
      (s.clients o').firstShared = some m ∨ (o' = o ∧ m = s.history.length) := by
    intro o' m first
    rw [setClient_clients] at first
    split at first
    · subst_vars
      cases old : (s.clients o').firstShared with
      | none =>
        rw [old] at first
        exact .inr ⟨rfl, (Option.some.inj first).symm⟩
      | some m' =>
        rw [old] at first
        exact .inl first
    · exact .inl first
  refine ⟨?_, ⟨fun o' m first => ?_, fun o' m first => ?_, fun o₁ o₂ m first₁ first₂ => ?_,
    fun m mem => by simpa using Nat.lt_succ_of_lt (returnedLt m mem), nodup⟩,
    fun o' key value ttl p running' => ?_, fun o' key value ttl res first mem => ?_⟩
  · show (s.store.perform codec now tierOp).1 = (MemoryCache.replay codec (s.history ++ [.call now tierOp]) c₀).1
    rw [MemoryCache.replay_append, ← inv.store_eq]
    rfl
  · rcases firstOf o' m first with old | ⟨_, rfl⟩
    · simpa using Nat.lt_succ_of_lt (firstLt o' m old)
    · simp
  · rcases firstOf o' m first with old | ⟨_, rfl⟩
    · exact fresh o' m old
    · exact fun mem => Nat.lt_irrefl _ (returnedLt _ mem)
  · rcases firstOf o₁ m first₁ with old₁ | ⟨rfl, new₁⟩ <;>
      rcases firstOf o₂ m first₂ with old₂ | ⟨rfl, new₂⟩
    · exact unique o₁ o₂ m old₁ old₂
    · exact absurd (firstLt o₁ m old₁) (by omega)
    · exact absurd (firstLt o₂ m old₂) (by omega)
    · rfl
  · by_cases same : o' = o
    · subst same
      simp only [setClient_clients, if_true, Option.some.injEq] at running' ⊢
      obtain ⟨sameOp, sameProg⟩ := Sigma.ext_iff.mp running'
      dsimp only at sameOp sameProg
      subst sameOp
      rcases inv.setNX_running o' key value ttl _ running with ⟨unset, unstarted⟩ | ⟨m, result, first, decided, returns⟩
      · obtain ⟨next₀, firstCall, decides⟩ := MultiLevelCache.setNX_first_call (α := α)
          (s.clients o').levels.length key value ttl
        rw [firstCall] at unstarted
        obtain ⟨rfl, rfl, sameNext⟩ := Prog.call.inj unstarted
        cases eq_of_heq sameNext
        refine .inr ⟨s.history.length, _, by rw [unset]; rfl, ⟨now, by simp, ?_⟩,
          eq_of_heq sameProg ▸ decides _⟩
        rw [MemoryCache.before, List.take_left' rfl, ← inv.store_eq]
        rfl
      · refine .inr ⟨m, result, by rw [first]; rfl, decided.append codec c₀ _, ?_⟩
        exact eq_of_heq sameProg ▸ returns.next _
    · simp only [setClient_clients, same, if_false] at running' ⊢
      rcases inv.setNX_running o' key value ttl p running' with unstarted | ⟨m, result, first, decided, returns⟩
      · exact .inl unstarted
      · exact .inr ⟨m, result, first, decided.append codec c₀ _, returns⟩
  · obtain ⟨m, first, decided⟩ := inv.setNX_returned o' key value ttl res first mem
    exact ⟨m, first, decided.append codec c₀ _⟩

theorem Invariant.schedule (inv : Invariant codec c₀ s) (a : Action α) :
    Invariant codec c₀ (s.step codec a) := by
  cases a with
  | invoke o op => exact inv.invoke o op
  | sweep now => exact inv.sweep now
  | advance now o =>
    simp only [step]
    split
    · exact inv
    · exact inv.finish ‹_›
    · split
      · exact inv.sharedCall ‹_› ‹_› now
      · exact inv.ownCall ‹_› ‹_› _ _

theorem Invariant.run (inv : Invariant codec c₀ s) (actions : List (Action α)) :
    Invariant codec c₀ (s.run codec actions) := by
  induction actions generalizing s with
  | nil => exact inv
  | cons a actions ih => exact ih (inv.schedule a)

end Invariant

/-- A step adds to the shared history at most one event, at the instant of the action. -/
theorem step_history (s : Shared α) (a : Action α) :
    ∃ extra, (s.step codec a).history = s.history ++ extra ∧
      (extra.map Event.time).Sublist a.instant.toList := by
  cases a with
  | invoke o op =>
    refine ⟨[], ?_, by simp⟩
    simp only [step]
    split <;> simp [setClient]
  | sweep now => exact ⟨[.sweep now], rfl, by simp [Action.instant]⟩
  | advance now o =>
    simp only [step]
    split
    · exact ⟨[], by simp, by simp⟩
    · exact ⟨[], by simp [setClient], by simp⟩
    · split
      · exact ⟨[.call now _], rfl, by simp [Action.instant]⟩
      · exact ⟨[], by simp [setClient], by simp⟩

theorem run_history (s : Shared α) (actions : List (Action α)) :
    ∃ extra, (s.run codec actions).history = s.history ++ extra ∧
      (extra.map Event.time).Sublist (actions.filterMap Action.instant) := by
  induction actions generalizing s with
  | nil => exact ⟨[], by simp [run], by simp⟩
  | cons a actions ih =>
    obtain ⟨first, firstHistory, firstTimes⟩ := step_history codec s a
    obtain ⟨rest, restHistory, restTimes⟩ := ih (s.step codec a)
    refine ⟨first ++ rest, by rw [run, List.foldl_cons, ← run, restHistory, firstHistory, List.append_assoc], ?_⟩
    rw [List.map_append, List.filterMap_cons]
    cases instant : a.instant with
    | none =>
      rw [instant, Option.toList_none, List.sublist_nil, List.map_eq_nil_iff] at firstTimes
      simpa [firstTimes] using restTimes
    | some t =>
      rw [instant, Option.toList_some] at firstTimes
      exact firstTimes.append restTimes

/-- Two entries of a list with one position recorded in a list without repetition are one. -/
theorem eq_of_filterMap_nodup {β : Type} {l : List β} {f : β → Option Nat} (nodup : (l.filterMap f).Nodup)
    {i j m : Nat} {x y : β} (atI : l[i]? = some x) (atJ : l[j]? = some y) (fx : f x = some m)
    (fy : f y = some m) : i = j := by
  induction l generalizing i j with
  | nil => simp at atI
  | cons a l ih =>
    have mem : ∀ {k z}, l[k]? = some z → f z = some m → m ∈ l.filterMap f :=
      fun at' fz => List.mem_filterMap.mpr ⟨_, List.getElem?_mem at', fz⟩
    cases i <;> cases j
    · rfl
    · simp only [List.getElem?_cons_zero, Option.some.injEq] at atI
      rw [List.getElem?_cons_succ] at atJ
      subst atI
      rw [List.filterMap_cons, fx, List.nodup_cons] at nodup
      exact absurd (mem atJ fy) nodup.1
    · simp only [List.getElem?_cons_zero, Option.some.injEq] at atJ
      rw [List.getElem?_cons_succ] at atI
      subst atJ
      rw [List.filterMap_cons, fy, List.nodup_cons] at nodup
      exact absurd (mem atI fx) nodup.1
    · rw [List.getElem?_cons_succ] at atI atJ
      have tail : (l.filterMap f).Nodup := by
        rw [List.filterMap_cons] at nodup
        split at nodup
        · exact nodup
        · exact (List.nodup_cons.mp nodup).2
      rw [ih tail atI atJ]

theorem setNXResult_true {reply : Bool × Option Error}
    (created : MultiLevelCache.setNXResult reply = (true, none)) : reply.1 = true := by
  unfold MultiLevelCache.setNXResult at created
  split at created <;> simp_all

/-- `SetNX` is a lock across multi-level caches that share their last level, whatever
their own levels hold and however the scheduler interleaves their calls. Every `SetNX`
that returned was decided by its first call on the shared store. Two of one key that
returned `true` were decided at distinct positions of the store's history, and between
them a call deleted the key or the store held the key expired. Whatever instants the
calls of the levels read, a `SetNX` that returns `false` changes no level, and one that
returns `true` had a value and wrote it into every level. -/
theorem setNX_mutual_exclusion (store : MemoryCache) (levels : Nat → List MemoryCache)
    (actions : List (Action α)) (ordered : List.Pairwise (· ≤ ·) (actions.filterMap Action.instant)) :
    let s := (start store levels).run codec actions
    (∀ o key value ttl result first,
      (o, (⟨.setNX key value ttl, result⟩ : Σ op : Op α, op.Reply), first) ∈ s.returned →
        ∃ m now, first = some m ∧ s.history[m]? = some (.call now (.setNX key value ttl)) ∧
          result = MultiLevelCache.setNXResult
            ((MemoryCache.before codec store s.history m).setNX now key value ttl).2) ∧
    (∀ (p₁ p₂ o₁ o₂ : Nat) key value₁ value₂ ttl₁ ttl₂ (m₁ m₂ : Nat), p₁ ≠ p₂ →
      s.returned[p₁]? = some (o₁, (⟨.setNX key value₁ ttl₁, (true, none)⟩ : Σ op : Op α, op.Reply), some m₁) →
      s.returned[p₂]? = some (o₂, (⟨.setNX key value₂ ttl₂, (true, none)⟩ : Σ op : Op α, op.Reply), some m₂) →
        m₁ ≠ m₂ ∧ (m₁ < m₂ → ∃ m e, m₁ < m ∧ m ≤ m₂ ∧ s.history[m]? = some e ∧
          ((m < m₂ ∧ e.kills key = true) ∨
            (MemoryCache.before codec store s.history m).holdsExpired e.time key = true))) ∧
    (∀ env t (stores : List MemoryCache) m key value ttl,
      (Prog.run (clockedLevels codec env) t (MultiLevelCache.setNX stores.length key value ttl : Prog α _)
        (stores, m)).2.1.1 = false →
      (Prog.run (clockedLevels codec env) t (MultiLevelCache.setNX stores.length key value ttl : Prog α _)
        (stores, m)).1.1 = stores) ∧
    (∀ env t (stores : List MemoryCache) m key value ttl,
      (Prog.run (clockedLevels codec env) t (MultiLevelCache.setNX stores.length key value ttl : Prog α _)
        (stores, m)).2.1.1 = true →
      ∃ data, value = .ok data ∧ ∀ j < stores.length,
        ((Prog.run (clockedLevels codec env) t (MultiLevelCache.setNX stores.length key value ttl : Prog α _)
          (stores, m)).1.1[j]?.bind (·.data key)).map CacheItem.value = some data) := by
  intro s
  have inv : Invariant codec store s := (invariant_start codec store levels).run actions
  have historyOrdered : List.Pairwise (· ≤ ·) (s.history.map Event.time) := by
    obtain ⟨extra, history, times⟩ := run_history codec (start store levels) actions
    rw [history]
    exact ordered.sublist times
  have decided : ∀ o key value ttl result first,
      (o, (⟨.setNX key value ttl, result⟩ : Σ op : Op α, op.Reply), first) ∈ s.returned →
        ∃ m now, first = some m ∧ s.history[m]? = some (.call now (.setNX key value ttl)) ∧
          result = MultiLevelCache.setNXResult
            ((MemoryCache.before codec store s.history m).setNX now key value ttl).2 := by
    intro o key value ttl result first mem
    obtain ⟨m, rfl, now, atM, decides⟩ := inv.setNX_returned o key value ttl result first mem
    exact ⟨m, now, rfl, atM, decides⟩
  refine ⟨decided, fun p₁ p₂ o₁ o₂ key value₁ value₂ ttl₁ ttl₂ m₁ m₂ distinct at₁ at₂ => ?_,
    fun env t stores m key value ttl => (MultiLevelCache.setNX_state_clocked codec env t stores m key value ttl).1,
    fun env t stores m key value ttl created => ?_⟩
  · have distinctPositions : m₁ ≠ m₂ := fun same => distinct
      (eq_of_filterMap_nodup inv.positions.returned_nodup at₁ at₂ rfl (by rw [same]))
    refine ⟨distinctPositions, fun earlier => ?_⟩
    obtain ⟨_, t₁, ⟨⟩, first, firstDecides⟩ := decided _ _ _ _ _ _ (List.getElem?_mem at₁)
    obtain ⟨_, t₂, ⟨⟩, second, secondDecides⟩ := decided _ _ _ _ _ _ (List.getElem?_mem at₂)
    exact MemoryCache.setNX_excludes codec store s.history historyOrdered earlier first second
      (setNXResult_true firstDecides.symm) (setNXResult_true secondDecides.symm)
  · obtain ⟨data, rfl, written⟩ := (MultiLevelCache.setNX_state_clocked codec env t stores m key _ ttl).2 created
    refine ⟨data, rfl, fun j below => ?_⟩
    rw [written, List.getElem?_eq_getElem below]
    simp [MemoryCache.set]

/-- Two clients with one level of their own each: the first takes the lock `"lock"` and
returns, then the second tries. -/
theorem setNX_mutual_exclusion_lock_twice :
    let s := (start MemoryCache.empty fun _ => [MemoryCache.empty]).run Codec.any
      [.invoke 0 (.setNX "lock" (.ok (.string "a")) 60), .advance 0 0, .advance 0 0, .advance 0 0,
        .invoke 1 (.setNX "lock" (.ok (.string "b")) 60), .advance 1 1, .advance 1 1]
    (∀ o key value ttl result first,
      (o, (⟨.setNX key value ttl, result⟩ : Σ op : Op Json, op.Reply), first) ∈ s.returned →
        ∃ m now, first = some m ∧ s.history[m]? = some (.call now (.setNX key value ttl)) ∧
          result = MultiLevelCache.setNXResult
            ((MemoryCache.before Codec.any MemoryCache.empty s.history m).setNX now key value ttl).2) ∧
    (∀ (p₁ p₂ o₁ o₂ : Nat) key value₁ value₂ ttl₁ ttl₂ (m₁ m₂ : Nat), p₁ ≠ p₂ →
      s.returned[p₁]? = some (o₁, (⟨.setNX key value₁ ttl₁, (true, none)⟩ : Σ op : Op Json, op.Reply), some m₁) →
      s.returned[p₂]? = some (o₂, (⟨.setNX key value₂ ttl₂, (true, none)⟩ : Σ op : Op Json, op.Reply), some m₂) →
        m₁ ≠ m₂ ∧ (m₁ < m₂ → ∃ m e, m₁ < m ∧ m ≤ m₂ ∧ s.history[m]? = some e ∧
          ((m < m₂ ∧ e.kills key = true) ∨
            (MemoryCache.before Codec.any MemoryCache.empty s.history m).holdsExpired e.time key = true))) ∧
    (∀ env t (stores : List MemoryCache) m key value ttl,
      (Prog.run (clockedLevels Codec.any env) t (MultiLevelCache.setNX stores.length key value ttl : Prog Json _)
        (stores, m)).2.1.1 = false →
      (Prog.run (clockedLevels Codec.any env) t (MultiLevelCache.setNX stores.length key value ttl : Prog Json _)
        (stores, m)).1.1 = stores) ∧
    (∀ env t (stores : List MemoryCache) m key value ttl,
      (Prog.run (clockedLevels Codec.any env) t (MultiLevelCache.setNX stores.length key value ttl : Prog Json _)
        (stores, m)).2.1.1 = true →
      ∃ data, value = .ok data ∧ ∀ j < stores.length,
        ((Prog.run (clockedLevels Codec.any env) t (MultiLevelCache.setNX stores.length key value ttl : Prog Json _)
          (stores, m)).1.1[j]?.bind (·.data key)).map CacheItem.value = some data) :=
  setNX_mutual_exclusion Codec.any MemoryCache.empty (fun _ => [MemoryCache.empty]) _ (by decide)

end Shared

end Goupter.Cache
