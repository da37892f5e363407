import Mathlib.Data.List.Basic

/-!
# The Consul config center

`ConsulSource` and `ConsulConfigCenter` of `src/pkg/config/consul.go`, with the goroutines
they start. The center is a state machine: the program's calls (`Load`, `Watch`, `Stop`,
`OnChange`), the writes of the key in Consul and its outages, and the steps of the goroutines
in `Load`, in `source.Watch(c.ctx)` and in `autoRefreshLoop` interleave in any order. Each
goroutine step is one section between two locks of the source, and it writes only the fields
a goroutine writes (`Shared`), so the frame of every step is in its type. A query of Consul
and the locked write of the index it replied with are two steps: another goroutine can write
`source.lastIndex` between them.

`Stop` closes `source.watchStop`, which nothing reopens: the first `Stop` returns, and every
later one panics on the closed channel (`stop_panics_iff`). `Stop` cancels `c.ctx` for good,
and every goroutine that `Watch` starts afterwards leaves its loop at once: after a `Stop`
the callbacks run at most once more, for the query in flight, however the calls, goroutines
and writes interleave (`delivered_after_stop_le`). `Load` records the key's index in
`source.lastIndex`, which the watch loop reads before its next query: a load between two
queries makes the watch miss the change it loaded, and no callback runs until the key is
written again (`load_hides_change`). The load's write can also lower `source.lastIndex`
below the index a watch query recorded in between, and then the watch delivers that write
again.

The key is its value and its index; a write of it stands for `Put`, `Save`, `Delete` or
another client, and raises the index by one. `parseConfig` is modelled down to the format it
gives viper; viper's parse and unmarshal are the parameter `read`, `none` for their error. A
callback is counted, not run. `refreshInterval` only paces the ticker, whose ticks are steps.
-/

namespace Goupter.Configuration

/-! ### Parsing -/

/-- `unicode.IsSpace`, the runes `bytes.TrimSpace` trims. -/
def unicodeIsSpace (c : Char) : Bool :=
  [0x09, 0x0A, 0x0B, 0x0C, 0x0D, 0x20, 0x85, 0xA0, 0x1680, 0x2028, 0x2029, 0x202F, 0x205F,
    0x3000].contains c.toNat || (0x2000 ≤ c.toNat && c.toNat ≤ 0x200A)

/-- The type `parseConfig` gives viper: the center's format, or for an empty one `json` when
the data starts with a brace past its white space and `yaml` otherwise; `yml` is `yaml`. -/
def configType (format data : String) : String :=
  let format := if format = "" then
      (if (data.dropWhile unicodeIsSpace).startsWith "\x7b" then "json" else "yaml")
    else format
  if format = "yml" then "yaml" else format

section Parse

variable {α : Type} (read : String → String → Option α)

/-- `c.parseConfig(data, cfg)`: viper reads the data as `configType`. -/
def parseConfig (format data : String) : Option α := read (configType format data) data

end Parse

/-- The type `c.Save(cfg)` marshals to: JSON for `json`, YAML for every other format. -/
def saveType (format : String) : String := if format = "json" then "json" else "yaml"

/-- What `Save` writes, `Load` parses as the type it was written in exactly for the formats
`json`, `yaml`, `yml` and the empty one (whose YAML does not start with a brace); with any other
format viper knows, `Save` writes YAML that `Load` reads as that format. -/
theorem configType_eq_saveType_iff (format data : String)
    (yamlText : format = "" → (data.dropWhile unicodeIsSpace).startsWith "\x7b" = false) :
    configType format data = saveType format ↔ format = "json" ∨ format = "yaml" ∨ format = "yml" ∨ format = "" := by
  by_cases empty : format = ""
  · simp [configType, saveType, empty, yamlText empty]
  by_cases yml : format = "yml"
  · simp [configType, saveType, yml]
  by_cases json : format = "json"
  · simp [configType, saveType, json]
  simp [configType, saveType, empty, yml, json]

/-- With `WithFormat("toml")`, what `Save` writes is not read back as written. -/
theorem configType_eq_saveType_iff_toml :
    configType "toml" "app:\n  name: demo" = saveType "toml" ↔
      "toml" = "json" ∨ "toml" = "yaml" ∨ "toml" = "yml" ∨ "toml" = "" :=
  configType_eq_saveType_iff "toml" "app:\n  name: demo" (fun empty => absurd empty (by decide))

/-! ### The state -/

/-- The key `source.path` in Consul: its value, if it exists, and its index; and whether the
agent answers. -/
structure ConsulKey where
  value : Option String
  index : Nat
  reachable : Bool
deriving DecidableEq, Repr

/-- The fields the program's calls write: `c.ctx` cancelled, `source.watchStop` closed,
`c.isWatching`, `source.onChangeFn` set, the number of callbacks, and the options. -/
structure Control where
  cancelled : Bool
  watchStopClosed : Bool
  isWatching : Bool
  onChangeSet : Bool
  callbacks : Nat
  format : String
  autoRefresh : Bool
deriving DecidableEq, Repr

/-- The fields the goroutines write: `source.lastIndex`, `c.config`, `globalConfig`, and each
call of the callbacks, with the config and how many ran. -/
structure Shared (α : Type) where
  lastIndex : Nat
  config : Option α
  global : Option α
  delivered : List (α × Nat)
deriving DecidableEq, Repr

/-- Where a call of `ConsulConfigCenter.Load` is after the `kv.Get` of `source.Load`. -/
inductive LoadPhase (α : Type) where
  /-- `kv.Get` replied with the key's `index` and `data`: `s.lastIndex = meta.LastIndex`,
  under the lock, comes next, then the parse. -/
  | recordIndex (index : Nat) (data : String)
  /-- `c.config = cfg` comes next. -/
  | setConfig (cfg : α)
  /-- `globalConfig = cfg` comes next. -/
  | setGlobal (cfg : α)
  | returned
deriving DecidableEq, Repr

/-- Where the goroutine of `source.Watch(c.ctx)` is. -/
inductive WatchPhase (α : Type) where
  /-- At the loop's `select`. -/
  | top
  /-- In the blocking `kv.Get` with `WaitIndex: waitIndex`. -/
  | querying (waitIndex : Nat)
  /-- The query replied with a later `index` and the key's `value`: `s.lastIndex =
  meta.LastIndex`, under the lock, comes next, then `onChangeFn`. -/
  | recordIndex (index : Nat) (value : Option String)
  /-- In `onChangeFn`, parsed: `c.config = cfg` comes next. -/
  | setConfig (cfg : α)
  | setGlobal (cfg : α)
  /-- The callbacks are copied and run next. -/
  | runCallbacks (cfg : α)
  | exited
deriving DecidableEq, Repr

/-- Where an `autoRefreshLoop` goroutine is. -/
inductive RefreshPhase (α : Type) where
  /-- At the loop's `select`. -/
  | waiting
  | loading (load : LoadPhase α)
  | exited
deriving DecidableEq, Repr

/-- A `ConsulConfigCenter` over its `ConsulSource`, the key it reads, `globalConfig`, and the
goroutines in `Load`, `source.Watch` and `autoRefreshLoop`, in the order they started. -/
structure ConsulConfigCenter (α : Type) where
  consul : ConsulKey
  control : Control
  shared : Shared α
  loads : List (LoadPhase α)
  watchers : List (WatchPhase α)
  refreshers : List (RefreshPhase α)
deriving DecidableEq, Repr

/-- `NewConsulConfigCenter(NewConsulSource(addr, path), opts...)`: `format` and `autoRefresh`
are what `WithFormat` and `WithAutoRefresh` set (`yaml` and off without them). -/
def newConsulConfigCenter {α : Type} (consul : ConsulKey) (format : String) (autoRefresh : Bool)
    (global : Option α) : ConsulConfigCenter α :=
  ⟨consul, ⟨false, false, false, false, 0, format, autoRefresh⟩, ⟨0, none, global, []⟩, [], [], []⟩

/-- One step of the system: a call of the program, an event of Consul, or a goroutine's step. -/
inductive CenterStep where
  /-- The key is written. -/
  | put (data : String)
  /-- The key is deleted. -/
  | delete
  /-- The agent stops or starts answering. -/
  | setReachable (up : Bool)
  /-- A goroutine calls `Load()`. -/
  | load
  | watch
  | stop
  | onChange
  /-- The next section of the `i`-th call of `Load`. -/
  | loader (i : Nat)
  /-- The next step of the `i`-th watch goroutine. -/
  | watcher (i : Nat)
  /-- The ticker of the `i`-th refresh goroutine fires, and its `select` takes the tick. -/
  | tick (i : Nat)
  /-- The next step of the `i`-th refresh goroutine: at the `select`, it returns if `c.ctx` is
  done. -/
  | refresher (i : Nat)
deriving DecidableEq, Repr

/-- Whether a step writes the key. -/
def CenterStep.writesKey : CenterStep → Bool
  | .put _ | .delete => true
  | _ => false

section Steps

variable {α : Type} (read : String → String → Option α)

/-- The `kv.Get` of `c.source.Load()`: an error of Consul or a missing key returns an error;
otherwise the reply's index is recorded next. -/
def loadStart (consul : ConsulKey) : LoadPhase α :=
  if consul.reachable then
    match consul.value with
    | some data => .recordIndex consul.index data
    | none => .returned
  else .returned

/-- The locked sections of `c.Load()` after its query: the index is recorded and the data
parsed, then `c.config` and `globalConfig` are set. -/
def loadNext (control : Control) (s : Shared α) : LoadPhase α → Shared α × LoadPhase α
  | .recordIndex index data =>
    ({ s with lastIndex := index },
      match parseConfig read control.format data with
      | some cfg => .setConfig cfg
      | none => .returned)
  | .setConfig cfg => ({ s with config := some cfg }, .setGlobal cfg)
  | .setGlobal cfg => ({ s with global := some cfg }, .returned)
  | .returned => (s, .returned)

/-- One pass of the loop of `source.Watch(c.ctx)` up to its query's reply, the locked write of
the index it replied with, or one section of the `onChangeFn` that `c.Watch()` sets. An error
of Consul goes round the loop again. -/
def watchNext (consul : ConsulKey) (control : Control) (s : Shared α) : WatchPhase α → Shared α × WatchPhase α
  | .top => (s, if control.cancelled || control.watchStopClosed then .exited else .querying s.lastIndex)
  | .querying waitIndex =>
    (s, if consul.reachable && decide (waitIndex < consul.index) then .recordIndex consul.index consul.value
      else .top)
  | .recordIndex index value =>
    ({ s with lastIndex := index },
      match value, control.onChangeSet with
      | some data, true =>
        match parseConfig read control.format data with
        | some cfg => .setConfig cfg
        | none => .top
      | _, _ => .top)
  | .setConfig cfg => ({ s with config := some cfg }, .setGlobal cfg)
  | .setGlobal cfg => ({ s with global := some cfg }, .runCallbacks cfg)
  | .runCallbacks cfg => ({ s with delivered := s.delivered ++ [(cfg, control.callbacks)] }, .top)
  | .exited => (s, .exited)

/-- The refresh goroutine after a section of `c.Load()`: back at its `select` once it returns. -/
def afterLoad : LoadPhase α → RefreshPhase α
  | .returned => .waiting
  | .recordIndex index data => .loading (.recordIndex index data)
  | .setConfig cfg => .loading (.setConfig cfg)
  | .setGlobal cfg => .loading (.setGlobal cfg)

/-- One step of `autoRefreshLoop` other than a tick. -/
def refreshNext (control : Control) (s : Shared α) : RefreshPhase α → Shared α × RefreshPhase α
  | .waiting => (s, if control.cancelled then .exited else .waiting)
  | .loading load => ((loadNext read control s load).1, afterLoad (loadNext read control s load).2)
  | .exited => (s, .exited)

/-- Runs `next` on the `i`-th of the goroutines `gs`, if there is one. -/
def advance {φ : Type} (next : Shared α → φ → Shared α × φ) (s : Shared α) (gs : List φ) (i : Nat) :
    Shared α × List φ :=
  match gs[i]? with
  | some g => ((next s g).1, gs.set i (next s g).2)
  | none => (s, gs)

namespace ConsulConfigCenter

/-- `c.Watch()`: nothing while watching; otherwise it sets `isWatching` and `onChangeFn` and
starts the watch goroutine, and the refresh goroutine with `autoRefresh`. -/
def watch (c : ConsulConfigCenter α) : ConsulConfigCenter α :=
  if c.control.isWatching then c
  else
    { c with
      control := { c.control with isWatching := true, onChangeSet := true }
      watchers := c.watchers ++ [.top]
      refreshers := if c.control.autoRefresh then c.refreshers ++ [.waiting] else c.refreshers }

/-- `c.Stop()`, and whether it panics: `c.cancel()` runs, then `close(s.watchStop)` panics on a
channel already closed, before `isWatching` is reset. -/
def stop (c : ConsulConfigCenter α) : ConsulConfigCenter α × Bool :=
  if c.control.watchStopClosed then ({ c with control := { c.control with cancelled := true } }, true)
  else
    ({ c with control := { c.control with cancelled := true, watchStopClosed := true, isWatching := false } },
      false)

/-- One step of the system. -/
def step (c : ConsulConfigCenter α) : CenterStep → ConsulConfigCenter α
  | .put data => { c with consul := { c.consul with value := some data, index := c.consul.index + 1 } }
  | .delete => { c with consul := { c.consul with value := none, index := c.consul.index + 1 } }
  | .setReachable up => { c with consul := { c.consul with reachable := up } }
  | .load => { c with loads := c.loads ++ [loadStart c.consul] }
  | .watch => c.watch
  | .stop => c.stop.1
  | .onChange => { c with control := { c.control with callbacks := c.control.callbacks + 1 } }
  | .loader i =>
    let r := advance (loadNext read c.control) c.shared c.loads i
    { c with shared := r.1, loads := r.2 }
  | .watcher i =>
    let r := advance (watchNext read c.consul c.control) c.shared c.watchers i
    { c with shared := r.1, watchers := r.2 }
  | .tick i =>
    match c.refreshers[i]? with
    | some .waiting => { c with refreshers := c.refreshers.set i (afterLoad (loadStart c.consul)) }
    | _ => c
  | .refresher i =>
    let r := advance (refreshNext read c.control) c.shared c.refreshers i
    { c with shared := r.1, refreshers := r.2 }

/-- The steps in turn. -/
def run (c : ConsulConfigCenter α) (steps : List CenterStep) : ConsulConfigCenter α :=
  steps.foldl (step read) c

@[simp]
theorem run_nil (c : ConsulConfigCenter α) : c.run read [] = c := rfl

@[simp]
theorem run_cons (c : ConsulConfigCenter α) (s : CenterStep) (steps : List CenterStep) :
    c.run read (s :: steps) = (c.step read s).run read steps := rfl

theorem run_append (c : ConsulConfigCenter α) (steps more : List CenterStep) :
    c.run read (steps ++ more) = (c.run read steps).run read more :=
  List.foldl_append _ _ _ _

/-! ### `Stop` closes `watchStop` for good -/

/-- Only `Stop` cancels `c.ctx` and closes `watchStop`, and neither is ever undone. -/
theorem step_stopped (c : ConsulConfigCenter α) (s : CenterStep) :
    (c.step read s).control.cancelled = (c.control.cancelled || decide (s = .stop)) ∧
      (c.step read s).control.watchStopClosed = (c.control.watchStopClosed || decide (s = .stop)) := by
  cases s with
  | watch => simp only [step, watch]; split <;> simp
  | stop => simp only [step, stop]; split <;> simp_all
  | tick i => simp only [step]; split <;> simp
  | _ => simp [step]

/-- `Stop` moves no goroutine and writes nothing the goroutines write. -/
theorem stop_frame (c : ConsulConfigCenter α) : c.stop.1.shared = c.shared ∧ c.stop.1.watchers = c.watchers := by
  unfold stop; split <;> exact ⟨rfl, rfl⟩

/-- A flag that only `Stop` sets is set after a run exactly when the run holds a `Stop`. -/
theorem run_flag (flag : ConsulConfigCenter α → Bool)
    (stepFlag : ∀ c s, flag (c.step read s) = (flag c || decide (s = .stop))) (c : ConsulConfigCenter α)
    (steps : List CenterStep) : flag (c.run read steps) = (flag c || decide (.stop ∈ steps)) := by
  induction steps generalizing c with
  | nil => simp
  | cons s steps ih =>
    rw [run_cons, ih, stepFlag]
    simp [Bool.or_assoc, eq_comm]

/-- Every `Stop` but the first panics, whatever ran before it. -/
theorem stop_panics_iff (consul : ConsulKey) (format : String) (autoRefresh : Bool) (global : Option α)
    (steps : List CenterStep) :
    ((newConsulConfigCenter consul format autoRefresh global).run read steps).stop.2 = true ↔
      CenterStep.stop ∈ steps := by
  have panics : ∀ c : ConsulConfigCenter α, c.stop.2 = c.control.watchStopClosed := fun c => by
    unfold stop; split <;> simp_all
  rw [panics, run_flag read (fun c => c.control.watchStopClosed) fun c s => (step_stopped read c s).2]
  simp [newConsulConfigCenter]

/-! ### After `Stop`, the callbacks run at most once more -/

end ConsulConfigCenter

/-- Whether a watch goroutine can still run the callbacks once `c.ctx` is done: it is past
its `select`. -/
def WatchPhase.owes : WatchPhase α → Bool
  | .top | .exited => false
  | _ => true

/-- `Shared.delivered` is written only by the watch goroutine's last section. -/
@[simp]
theorem loadNext_delivered (control : Control) (s : Shared α) (load : LoadPhase α) :
    (loadNext read control s load).1.delivered = s.delivered := by
  cases load <;> rfl

@[simp]
theorem refreshNext_delivered (control : Control) (s : Shared α) (p : RefreshPhase α) :
    (refreshNext read control s p).1.delivered = s.delivered := by
  cases p <;> simp [refreshNext]

/-- Once `c.ctx` is done, a watch goroutine's step runs the callbacks only if the goroutine
owed them, and then owes nothing. -/
theorem watchNext_owes (consul : ConsulKey) {control : Control} (cancelled : control.cancelled = true)
    (s : Shared α) (p : WatchPhase α) :
    (watchNext read consul control s p).1.delivered.length + (if (watchNext read consul control s p).2.owes then 1 else 0) ≤
      s.delivered.length + (if p.owes then 1 else 0) ∧
    ((watchNext read consul control s p).2.owes = true → p.owes = true) := by
  cases p with
  | top => simp [watchNext, cancelled, WatchPhase.owes]
  | querying waitIndex => simp only [watchNext]; split <;> simp [WatchPhase.owes]
  | recordIndex index value =>
    refine ⟨Nat.add_le_add_left ?_ _, fun _ => rfl⟩
    simp only [WatchPhase.owes, if_true]
    split <;> simp
  | _ => simp [watchNext, WatchPhase.owes]

/-- What `advance` does: the `i`-th goroutine, if there is one, takes its step. -/
theorem advance_cases {φ : Type} (next : Shared α → φ → Shared α × φ) (s : Shared α) (gs : List φ) (i : Nat) :
    advance next s gs i = (s, gs) ∨
      ∃ g, gs[i]? = some g ∧ advance next s gs i = ((next s g).1, gs.set i (next s g).2) := by
  unfold advance
  split
  · exact .inr ⟨_, ‹_›, rfl⟩
  · exact .inl rfl

theorem countP_set_add {β : Type} (p : β → Bool) {gs : List β} {i : Nat} {g : β} (found : gs[i]? = some g) (g' : β) :
    (gs.set i g').countP p + (if p g then 1 else 0) = gs.countP p + (if p g' then 1 else 0) := by
  obtain ⟨bound, rfl⟩ := List.getElem?_eq_some_iff.mp found
  rw [List.countP_set p gs i g' bound]
  have := List.boole_getElem_le_countP p gs i bound
  omega

namespace ConsulConfigCenter

/-- Once `c.ctx` is done, no step adds to what the callbacks ran and the watch goroutines
still owe, and no step makes a goroutine owe. -/
theorem step_owes (c : ConsulConfigCenter α) (cancelled : c.control.cancelled = true) (s : CenterStep) :
    (c.step read s).shared.delivered.length + (c.step read s).watchers.countP WatchPhase.owes ≤
        c.shared.delivered.length + c.watchers.countP WatchPhase.owes ∧
      (c.step read s).watchers.countP WatchPhase.owes ≤ c.watchers.countP WatchPhase.owes := by
  cases s with
  | watch =>
    simp only [step, watch]
    split <;> simp [WatchPhase.owes]
  | stop => simp [step, stop_frame]
  | tick i => simp only [step]; split <;> simp
  | loader i =>
    rcases advance_cases (loadNext read c.control) c.shared c.loads i with same | ⟨_, _, same⟩ <;> simp [step, same]
  | refresher i =>
    rcases advance_cases (refreshNext read c.control) c.shared c.refreshers i with same | ⟨_, _, same⟩ <;>
      simp [step, same]
  | watcher i =>
    rcases advance_cases (watchNext read c.consul c.control) c.shared c.watchers i with same | ⟨g, found, same⟩
    · simp [step, same]
    · simp only [step, same]
      have set := countP_set_add WatchPhase.owes found (watchNext read c.consul c.control c.shared g).2
      have owes := watchNext_owes read c.consul cancelled c.shared g
      revert set owes
      cases (watchNext read c.consul c.control c.shared g).2.owes <;> cases g.owes <;> simp <;> omega
  | _ => simp [step]

/-- At most one watch goroutine and one refresh goroutine, and none while the center is not
watching. -/
structure Single (c : ConsulConfigCenter α) : Prop where
  watchers_le : c.watchers.length ≤ 1
  refreshers_le : c.refreshers.length ≤ 1
  idle : c.control.isWatching = false → c.watchers = [] ∧ c.refreshers = []

/-- A step other than `Stop` keeps a single watch and refresh goroutine: `Watch` starts them
only when the center is not watching, and the other steps move goroutines already there. -/
theorem step_single (c : ConsulConfigCenter α) (s : CenterStep) (notStop : s ≠ .stop) (single : Single c) :
    Single (c.step read s) := by
  obtain ⟨watchers_le, refreshers_le, idle⟩ := single
  cases s with
  | watch =>
    simp only [step, watch]
    split
    · exact ⟨watchers_le, refreshers_le, idle⟩
    · obtain ⟨none, none'⟩ := idle (by simp_all)
      refine ⟨by simp [none], by split <;> simp [none'], fun watching => by simp at watching⟩
  | stop => exact absurd rfl notStop
  | tick i =>
    simp only [step]
    split
    · exact ⟨watchers_le, by simpa using refreshers_le, fun off => by simp [idle off]⟩
    · exact ⟨watchers_le, refreshers_le, idle⟩
  | loader i =>
    rcases advance_cases (loadNext read c.control) c.shared c.loads i with same | ⟨_, _, same⟩ <;>
      simp only [step, same] <;> exact ⟨watchers_le, refreshers_le, idle⟩
  | refresher i =>
    rcases advance_cases (refreshNext read c.control) c.shared c.refreshers i with same | ⟨_, _, same⟩ <;>
      simp only [step, same] <;>
      exact ⟨by simpa using watchers_le, by simpa using refreshers_le, fun off => by simp [idle off]⟩
  | watcher i =>
    rcases advance_cases (watchNext read c.consul c.control) c.shared c.watchers i with same | ⟨_, _, same⟩ <;>
      simp only [step, same] <;>
      exact ⟨by simpa using watchers_le, by simpa using refreshers_le, fun off => by simp [idle off]⟩
  | _ => exact ⟨watchers_le, refreshers_le, idle⟩

/-- What holds in every run from a new center: at most one watch goroutine owes the
callbacks; and until `Stop`, a single watch and refresh goroutine. -/
structure WatchersInv (c : ConsulConfigCenter α) : Prop where
  owing_le : c.watchers.countP WatchPhase.owes ≤ 1
  single : c.control.cancelled = false → Single c

theorem WatchersInv.new (consul : ConsulKey) (format : String) (autoRefresh : Bool) (global : Option α) :
    WatchersInv (newConsulConfigCenter consul format autoRefresh global) :=
  ⟨by simp [newConsulConfigCenter], fun _ => ⟨by simp [newConsulConfigCenter], by simp [newConsulConfigCenter],
    fun _ => by simp [newConsulConfigCenter]⟩⟩

theorem WatchersInv.step {c : ConsulConfigCenter α} (inv : WatchersInv c) (s : CenterStep) :
    WatchersInv (c.step read s) := by
  cases cancelled : c.control.cancelled
  · by_cases isStop : s = .stop
    · subst isStop
      refine ⟨?_, fun running => by simp [step_stopped] at running⟩
      rw [show (c.step read .stop).watchers = c.watchers from (stop_frame c).2]
      exact (List.countP_le_length _).trans (inv.single cancelled).watchers_le
    · have single := step_single read c s isStop (inv.single cancelled)
      exact ⟨(List.countP_le_length _).trans single.watchers_le, fun _ => single⟩
  · refine ⟨(step_owes read c cancelled s).2.trans inv.owing_le, fun running => ?_⟩
    simp [step_stopped, cancelled] at running

theorem WatchersInv.run {c : ConsulConfigCenter α} (inv : WatchersInv c) (steps : List CenterStep) :
    WatchersInv (c.run read steps) := by
  induction steps generalizing c with
  | nil => exact inv
  | cons s steps ih => exact ih (inv.step read s)

/-- Until the first `Stop`, however often `Watch` is called and whatever runs between, a single
watch goroutine and a single refresh goroutine run. -/
theorem watch_starts_once (consul : ConsulKey) (format : String) (autoRefresh : Bool) (global : Option α)
    (steps : List CenterStep) (noStop : CenterStep.stop ∉ steps) :
    ((newConsulConfigCenter consul format autoRefresh global).run read steps).watchers.length ≤ 1 ∧
      ((newConsulConfigCenter consul format autoRefresh global).run read steps).refreshers.length ≤ 1 := by
  have running := run_flag read (fun c => c.control.cancelled) (fun c s => (step_stopped read c s).1)
    (newConsulConfigCenter consul format autoRefresh global) steps
  simp only [newConsulConfigCenter, noStop, decide_False, Bool.or_false] at running
  have single := ((WatchersInv.new consul format autoRefresh global).run read steps).single running
  exact ⟨single.watchers_le, single.refreshers_le⟩

/-- Twice `Watch`, with a watch step between. -/
theorem watch_starts_once_watching_twice :
    ((newConsulConfigCenter (α := String) ⟨some "a: 1", 7, true⟩ "yaml" true none).run (fun _ data => some data)
        [.watch, .watcher 0, .watch, .tick 0]).watchers.length ≤ 1 ∧
      ((newConsulConfigCenter (α := String) ⟨some "a: 1", 7, true⟩ "yaml" true none).run (fun _ data => some data)
        [.watch, .watcher 0, .watch, .tick 0]).refreshers.length ≤ 1 :=
  watch_starts_once _ _ _ _ _ _ (by decide)

/-- Once `c.ctx` is done, no run adds to what the callbacks ran and the watch goroutines still
owe. -/
theorem run_owes (c : ConsulConfigCenter α) (cancelled : c.control.cancelled = true) (steps : List CenterStep) :
    (c.run read steps).shared.delivered.length + (c.run read steps).watchers.countP WatchPhase.owes ≤
      c.shared.delivered.length + c.watchers.countP WatchPhase.owes := by
  induction steps generalizing c with
  | nil => exact le_refl _
  | cons s steps ih =>
    have still : (c.step read s).control.cancelled = true := by simp [step_stopped, cancelled]
    exact (ih _ still).trans (step_owes read c cancelled s).1

/-- After a `Stop`, the callbacks run at most once more, for the watch query in flight, however
the program's calls (`Watch` again among them), the goroutines and the writes of the key
interleave. -/
theorem delivered_after_stop_le (consul : ConsulKey) (format : String) (autoRefresh : Bool) (global : Option α)
    (before after : List CenterStep) :
    ((newConsulConfigCenter consul format autoRefresh global).run read (before ++ .stop :: after)).shared.delivered.length ≤
      ((newConsulConfigCenter consul format autoRefresh global).run read before).shared.delivered.length + 1 := by
  rw [run_append, run_cons]
  have inv := (WatchersInv.new consul format autoRefresh global).run read before
  generalize (newConsulConfigCenter consul format autoRefresh global).run read before = c at inv ⊢
  have bound := run_owes read (c.step read .stop) (by simp [step_stopped]) after
  rw [show c.step read .stop = c.stop.1 from rfl] at bound ⊢
  rw [(stop_frame c).1, (stop_frame c).2] at bound
  have := inv.owing_le
  omega

end ConsulConfigCenter

/-! ### A load between two queries hides its change from the callbacks -/

/-- The index a load in flight writes into `source.lastIndex` next, once its query replied. -/
def LoadPhase.pendingIndex : LoadPhase α → Option Nat
  | .recordIndex index _ => some index
  | _ => none

/-- The index the load of a refresh goroutine writes next. -/
def RefreshPhase.pendingIndex : RefreshPhase α → Option Nat
  | .loading load => load.pendingIndex
  | _ => none

/-- Whether a watch goroutine can no longer see a write at `index` or before: it is at its
`select`, from where it reads `source.lastIndex` afresh, or has returned, or its query waits on
a later index. -/
def WatchPhase.settled (index : Nat) : WatchPhase α → Bool
  | .top | .exited => true
  | .querying waitIndex => decide (index ≤ waitIndex)
  | _ => false

theorem loadNext_lastIndex (control : Control) (s : Shared α) (load : LoadPhase α) :
    (loadNext read control s load).1.lastIndex = load.pendingIndex.getD s.lastIndex := by
  cases load <;> rfl

/-- After a section of a load, no index is pending: the only one was written. -/
theorem loadNext_pendingIndex (control : Control) (s : Shared α) (load : LoadPhase α) :
    (loadNext read control s load).2.pendingIndex = none := by
  cases load with
  | recordIndex => simp only [loadNext]; split <;> rfl
  | _ => rfl

theorem afterLoad_pendingIndex (load : LoadPhase α) : (afterLoad load).pendingIndex = load.pendingIndex := by
  cases load <;> rfl

theorem refreshNext_lastIndex (control : Control) (s : Shared α) (p : RefreshPhase α) :
    (refreshNext read control s p).1.lastIndex = p.pendingIndex.getD s.lastIndex := by
  cases p <;> simp [refreshNext, loadNext_lastIndex, RefreshPhase.pendingIndex]

theorem refreshNext_pendingIndex (control : Control) (s : Shared α) (p : RefreshPhase α) :
    (refreshNext read control s p).2.pendingIndex = none := by
  cases p with
  | loading load =>
    simp only [refreshNext, afterLoad_pendingIndex, loadNext_pendingIndex]
  | waiting => simp only [refreshNext]; split <;> rfl
  | exited => rfl

/-- With the key's index recorded, a settled watch goroutine stays settled, keeps it recorded,
and runs no callback. -/
theorem watchNext_settled (consul : ConsulKey) (control : Control) (s : Shared α) (p : WatchPhase α)
    (recorded : consul.index ≤ s.lastIndex) (settled : p.settled consul.index = true) :
    consul.index ≤ (watchNext read consul control s p).1.lastIndex ∧
      (watchNext read consul control s p).2.settled consul.index = true ∧
      (watchNext read consul control s p).1.delivered = s.delivered := by
  cases p with
  | top => simp only [watchNext]; split <;> simp_all [WatchPhase.settled]
  | exited => simp_all [watchNext]
  | querying waitIndex =>
    simp only [WatchPhase.settled, decide_eq_true_eq] at settled
    simp only [watchNext, Bool.and_eq_true, decide_eq_true_eq]
    rw [if_neg fun ⟨_, later⟩ => absurd later (Nat.not_lt.mpr settled)]
    simp_all [WatchPhase.settled]
  | _ => simp [WatchPhase.settled] at settled

/-- No write is pending for the watch: the source has recorded the key's index, every watch
goroutine is settled, and no load in flight will write an older index. -/
structure Quiet (c : ConsulConfigCenter α) : Prop where
  recorded : c.consul.index ≤ c.shared.lastIndex
  settled : ∀ p ∈ c.watchers, p.settled c.consul.index = true
  loadsFresh : ∀ load ∈ c.loads, ∀ index ∈ load.pendingIndex, c.consul.index ≤ index
  refreshersFresh : ∀ p ∈ c.refreshers, ∀ index ∈ p.pendingIndex, c.consul.index ≤ index

/-- A load that has just queried the key will write its index. -/
theorem loadStart_fresh (consul : ConsulKey) : ∀ index ∈ (loadStart consul : LoadPhase α).pendingIndex,
    consul.index ≤ index := by
  unfold loadStart
  split
  · split <;> simp [LoadPhase.pendingIndex]
  · simp [LoadPhase.pendingIndex]

/-- Goroutines of which one took a step that leaves nothing pending. -/
theorem fresh_set {φ : Type} (pending : φ → Option Nat) {gs : List φ} {index : Nat}
    (fresh : ∀ g ∈ gs, ∀ k ∈ pending g, index ≤ k) (i : Nat) {g' : φ} (none : pending g' = none) :
    ∀ g ∈ gs.set i g', ∀ k ∈ pending g, index ≤ k := by
  intro g member
  rcases List.mem_or_eq_of_mem_set member with old | rfl
  · exact fresh g old
  · simp [none]

namespace ConsulConfigCenter

/-- A step that does not write the key keeps it quiet and runs no callback. -/
theorem quiet_step {c : ConsulConfigCenter α} (quiet : Quiet c) (s : CenterStep) (noWrite : s.writesKey = false) :
    Quiet (c.step read s) ∧ (c.step read s).shared.delivered = c.shared.delivered := by
  cases s with
  | put data => simp [CenterStep.writesKey] at noWrite
  | delete => simp [CenterStep.writesKey] at noWrite
  | load =>
    refine ⟨{ quiet with loadsFresh := fun load member => ?_ }, rfl⟩
    rcases List.mem_append.mp member with old | new
    · exact quiet.loadsFresh load old
    · rw [List.mem_singleton.mp new]
      exact loadStart_fresh _
  | tick i =>
    simp only [step]
    split
    · refine ⟨{ quiet with refreshersFresh := fun p member => ?_ }, rfl⟩
      rcases List.mem_or_eq_of_mem_set member with old | rfl
      · exact quiet.refreshersFresh p old
      · rw [afterLoad_pendingIndex]
        exact loadStart_fresh _
    · exact ⟨quiet, rfl⟩
  | watch =>
    simp only [step, watch]
    split
    · exact ⟨quiet, rfl⟩
    · refine ⟨{ quiet with settled := fun p member => ?_, refreshersFresh := fun p member => ?_ }, rfl⟩
      · rcases List.mem_append.mp member with old | new
        · exact quiet.settled p old
        · simp_all [WatchPhase.settled]
      · split at member
        · rcases List.mem_append.mp member with old | new
          · exact quiet.refreshersFresh p old
          · simp_all [RefreshPhase.pendingIndex]
        · exact quiet.refreshersFresh p member
  | stop => simp only [step, stop]; split <;> exact ⟨{ quiet with }, rfl⟩
  | loader i =>
    rcases advance_cases (loadNext read c.control) c.shared c.loads i with same | ⟨load, found, same⟩ <;>
      simp only [step, same]
    · exact ⟨quiet, trivial⟩
    · have fresh := fresh_set _ quiet.loadsFresh i (loadNext_pendingIndex read c.control c.shared load)
      refine ⟨{ quiet with recorded := ?_, loadsFresh := fresh }, by simp⟩
      rw [loadNext_lastIndex]
      cases pending : load.pendingIndex with
      | none => exact quiet.recorded
      | some index => exact quiet.loadsFresh load (List.getElem?_mem found) index pending
  | refresher i =>
    rcases advance_cases (refreshNext read c.control) c.shared c.refreshers i with same | ⟨p, found, same⟩ <;>
      simp only [step, same]
    · exact ⟨quiet, trivial⟩
    · have fresh := fresh_set _ quiet.refreshersFresh i (refreshNext_pendingIndex read c.control c.shared p)
      refine ⟨{ quiet with recorded := ?_, refreshersFresh := fresh }, by simp⟩
      rw [refreshNext_lastIndex]
      cases pending : p.pendingIndex with
      | none => exact quiet.recorded
      | some index => exact quiet.refreshersFresh p (List.getElem?_mem found) index pending
  | watcher i =>
    rcases advance_cases (watchNext read c.consul c.control) c.shared c.watchers i with same | ⟨g, found, same⟩ <;>
      simp only [step, same]
    · exact ⟨quiet, trivial⟩
    · obtain ⟨recorded, settled, delivered⟩ := watchNext_settled read c.consul c.control c.shared g quiet.recorded
        (quiet.settled g (List.getElem?_mem found))
      refine ⟨{ quiet with recorded := recorded, settled := fun p member => ?_ }, delivered⟩
      rcases List.mem_or_eq_of_mem_set member with old | rfl
      · exact quiet.settled p old
      · exact settled
  | _ => exact ⟨{ quiet with }, rfl⟩

theorem quiet_run {c : ConsulConfigCenter α} (quiet : Quiet c) (steps : List CenterStep)
    (noWrite : ∀ s ∈ steps, s.writesKey = false) : (c.run read steps).shared.delivered = c.shared.delivered := by
  induction steps generalizing c with
  | nil => rfl
  | cons s steps ih =>
    have next := quiet_step read quiet s (noWrite s (List.mem_cons_self _ _))
    rw [run_cons, ih next.1 fun t member => noWrite t (List.mem_cons_of_mem _ member), next.2]

/-- A load, of the program's `Load()` or of a tick of the refresh goroutine, whose query read
the key's last write makes the watch miss that write when it records the index while no watch
query has seen the write and no other load in flight carries an older index: no callback
runs until the key is written again, whatever else runs. -/
theorem load_hides_change (c : ConsulConfigCenter α) (s : CenterStep) {i : Nat}
    (records : (s = .loader i ∧ ∃ data, c.loads[i]? = some (.recordIndex c.consul.index data)) ∨
      (s = .refresher i ∧ ∃ data, c.refreshers[i]? = some (.loading (.recordIndex c.consul.index data))))
    (between : ∀ p ∈ c.watchers, p.settled c.consul.index = true)
    (noStale : (∀ load ∈ c.loads, ∀ index ∈ load.pendingIndex, c.consul.index ≤ index) ∧
      ∀ p ∈ c.refreshers, ∀ index ∈ p.pendingIndex, c.consul.index ≤ index)
    (steps : List CenterStep) (noWrite : ∀ t ∈ steps, t.writesKey = false) :
    ((c.step read s).run read steps).shared.delivered = c.shared.delivered := by
  rcases records with ⟨rfl, data, found⟩ | ⟨rfl, data, found⟩ <;> simp only [step, advance, found] <;>
    refine quiet_run read ?_ steps noWrite
  · exact ⟨le_refl _, between, fresh_set _ noStale.1 i (loadNext_pendingIndex ..), noStale.2⟩
  · exact ⟨le_refl _, between, noStale.1, fresh_set _ noStale.2 i (refreshNext_pendingIndex ..)⟩

/-- A write, then a load that records its index before the watch goroutine's next query: the
six steps that would have run the callbacks run none. -/
theorem load_hides_change_after_put :
    ((((newConsulConfigCenter (α := String) ⟨some "a: 1", 7, true⟩ "yaml" false none).run (fun _ data => some data)
        [.load, .loader 0, .loader 0, .loader 0, .watch, .put "a: 2", .load]).step (fun _ data => some data)
        (.loader 1)).run (fun _ data => some data) (List.replicate 6 (.watcher 0))).shared.delivered =
      ((newConsulConfigCenter (α := String) ⟨some "a: 1", 7, true⟩ "yaml" false none).run (fun _ data => some data)
        [.load, .loader 0, .loader 0, .loader 0, .watch, .put "a: 2", .load]).shared.delivered :=
  load_hides_change _ _ _ (.inl ⟨rfl, "a: 2", by decide⟩) (by decide) (by decide) _ (by decide)

end ConsulConfigCenter

end Steps

end Goupter.Configuration
