import Mathlib.Data.List.Basic

/-!
# The application's lifecycle

`App.Run` and `App.Shutdown` of `src/pkg/app/app.go`, with the `Start` and `Stop` of the HTTP
server (`HTTPServer` of `src/unnamed/part_014`) and of the gRPC server (`GRPCServer` of
`src/unnamed/part_011`) that they call.

`Run` checks and sets `running` under the mutex, runs the `BeforeStart` hooks, starts each
server in a goroutine of its own (`go a.httpServer.Start()`), registers the service, runs the
`AfterStart` hooks and waits for `SIGINT` or `SIGTERM`; then it calls `Shutdown`. `Shutdown`
checks and clears `running`, runs the `BeforeStop` hooks, deregisters the service, stops the
two servers, closes the message queue, the cache, the database and the discovery client, and
runs the `AfterStop` hooks. Every call of `Run` or `Shutdown` and every server goroutine is a
goroutine of the model, in the phase it has reached; one step of the model is one step of
one goroutine, at the points where it reads or writes what the others share. The outcome of
a hook, and of `Register` and `Deregister`, is chosen by the step that runs it. The four
closes are one step: nothing else reads what they close.

`HTTPServer.Start` makes its `http.Server` itself, inside the goroutine, and
`HTTPServer.Stop` does nothing while there is none. A `Shutdown` whose stop of the HTTP server
comes before that goroutine has run therefore stops nothing, and the server the goroutine
then makes serves with the application stopped (`httpServer_outlives_shutdown`); from then on
no step stops it until `Run` is called again (`stopped_app_keeps_serving`). The gRPC server is
made once, by `NewGRPCServer`, and `Serve` refuses a server that was stopped: after the first
`Shutdown` a later `Run` starts no gRPC server (`grpc_never_serves_again`). A `BeforeStart`
hook that fails makes `Run` return without clearing `running`, so until `Shutdown` is called
every later `Run` fails at its check (`failed_beforeStart_blocks_run`).

A signal before any `Run` has called `signal.Notify` ends the process (`terminated`), after
which nothing happens; the channels of later signals stay registered for good.
-/

namespace Goupter.App

/-- What `New` and its options gave the application: which of its parts are not `nil`, and
how many hooks of each kind. -/
structure AppParts where
  http : Bool
  grpc : Bool
  discovery : Bool
  config : Bool
  mq : Bool
  cache : Bool
  db : Bool
  beforeStart : Nat
  afterStart : Nat
  beforeStop : Nat
  afterStop : Nat
deriving DecidableEq, Repr

/-- An `http.Server` that `HTTPServer.Start` made: whether `Shutdown` was called on it, and
whether its `ListenAndServe` serves. -/
structure HttpInstance where
  shutDown : Bool
  serving : Bool
deriving DecidableEq, Repr

/-- The `grpc.Server` that `NewGRPCServer` made: whether `GracefulStop` was called on it, and
whether its `Serve` serves. -/
structure GrpcInstance where
  stopped : Bool
  serving : Bool
deriving DecidableEq, Repr

/-- The parts `Shutdown` closes. -/
structure Closed where
  mq : Bool
  cache : Bool
  db : Bool
  discovery : Bool
deriving DecidableEq, Repr

/-- Where a call of `Shutdown` is. -/
inductive ShutdownPhase where
  | check
  | beforeStop (i : Nat)
  | deregister
  | stopHTTP
  | stopGRPC
  /-- The closes of the message queue, the cache, the database and the discovery client. -/
  | close
  | afterStop (i : Nat)
  | returned
deriving DecidableEq, Repr

/-- What `Run` returned. -/
inductive RunResult where
  | alreadyRunning
  | beforeStartFailed
  | afterStartFailed
  /-- The `nil` of `Shutdown`, after the signal. -/
  | shutDown
deriving DecidableEq, Repr

/-- The error `Run` returns, as its text, given the text of the failed hook's error. -/
def RunResult.error (hookError : String) : RunResult → Option String
  | .alreadyRunning => some "app is already running"
  | .beforeStartFailed => some ("before start hook failed: " ++ hookError)
  | .afterStartFailed => some ("after start hook failed: " ++ hookError)
  | .shutDown => none

/-- Where a call of `Run` is. -/
inductive RunPhase where
  | check
  | beforeStart (i : Nat)
  | startHTTP
  | startGRPC
  | register
  | afterStart (i : Nat)
  /-- `<-quit`, after `signal.Notify`. -/
  | waiting
  /-- Its call of `Shutdown`. -/
  | shutdown (p : ShutdownPhase)
  | returned (r : RunResult)
deriving DecidableEq, Repr

/-- A goroutine of the program. -/
inductive Goroutine where
  | run (p : RunPhase)
  | shutdown (p : ShutdownPhase)
  /-- `go a.httpServer.Start()`, before it sets `s.server`. -/
  | httpAssign
  /-- `HTTPServer.Start` before `ListenAndServe` of the `k`-th `http.Server`. -/
  | httpListen (k : Nat)
  /-- `go a.grpcServer.Start()`, before `net.Listen` and `Serve`. -/
  | grpcServe
  | exited
deriving DecidableEq, Repr

/-- What the goroutines share: `App.running`, `HTTPServer.server` (an index into the
`http.Server`s that `Start` made), the gRPC server, the registration of the service, what
was closed, and the process's signal handling. -/
structure Shared where
  running : Bool
  httpServer : Option Nat
  httpServers : List HttpInstance
  grpc : GrpcInstance
  registered : Bool
  closed : Closed
  /-- Some `Run` has called `signal.Notify`. -/
  notified : Bool
  /-- A signal came before any `signal.Notify`, and the process ended. -/
  terminated : Bool
deriving DecidableEq, Repr

/-- The program: what its goroutines share, and the goroutines. -/
structure Program where
  shared : Shared
  goroutines : List Goroutine
deriving DecidableEq, Repr

/-- The program after `New`: not running, no server started, nothing closed. -/
def Program.new : Program :=
  ⟨⟨false, none, [], ⟨false, false⟩, false, ⟨false, false, false, false⟩, false, false⟩, []⟩

/-- What the program's environment does next: call `Run`, call `Shutdown`, send a signal, or
let a goroutine take its next step, with the outcome of the hook or the call it makes. -/
inductive AppStep where
  | run
  | shutdown
  | signal
  | goroutine (i : Nat) (ok : Bool)
deriving DecidableEq, Repr

namespace Shared

/-- `HTTPServer.Stop`: nothing while `s.server` is `nil`, otherwise `Shutdown` of that
`http.Server`, which ends its `ListenAndServe`. -/
def stopHTTP (s : Shared) : Shared :=
  match s.httpServer with
  | none => s
  | some k => { s with httpServers := s.httpServers.set k ⟨true, false⟩ }

/-- `s.server = &http.Server{...}` in `HTTPServer.Start`. -/
def assignHTTP (s : Shared) : Shared :=
  { s with httpServer := some s.httpServers.length, httpServers := s.httpServers ++ [⟨false, false⟩] }

/-- `ListenAndServe` of the `k`-th `http.Server`: `ErrServerClosed` after its `Shutdown`, a
failed `Listen` while another one serves on the address, and otherwise it serves. -/
def listenHTTP (s : Shared) (k : Nat) : Shared :=
  if s.httpServers[k]?.map HttpInstance.shutDown = some false ∧ ¬s.httpServers.any HttpInstance.serving then
    { s with httpServers := s.httpServers.set k ⟨false, true⟩ }
  else s

/-- `GRPCServer.Start`: `net.Listen` fails while the server serves on the address, `Serve`
returns `ErrServerStopped` after `GracefulStop`, and otherwise it serves. -/
def serveGRPC (s : Shared) : Shared :=
  if s.grpc.serving || s.grpc.stopped then s else { s with grpc := ⟨false, true⟩ }

end Shared

section Steps

variable (parts : AppParts)

/-- One step of a call of `Shutdown` at phase `p`: its next phase and the shared state after
it. `ok` is the outcome of `Deregister`; the hooks' errors are only logged. -/
def shutdownNext (ok : Bool) (s : Shared) : ShutdownPhase → ShutdownPhase × Shared
  | .check => if s.running then (.beforeStop 0, { s with running := false }) else (.returned, s)
  | .beforeStop i => (if i < parts.beforeStop then .beforeStop (i + 1) else .deregister, s)
  | .deregister => (.stopHTTP, { s with registered := s.registered && !(parts.discovery && parts.config && ok) })
  | .stopHTTP => (.stopGRPC, if parts.http then s.stopHTTP else s)
  | .stopGRPC => (.close, { s with grpc := if parts.grpc then ⟨true, false⟩ else s.grpc })
  | .close =>
    (.afterStop 0, { s with closed := ⟨s.closed.mq || parts.mq, s.closed.cache || parts.cache,
      s.closed.db || parts.db, s.closed.discovery || parts.discovery⟩ })
  | .afterStop i => (if i < parts.afterStop then .afterStop (i + 1) else .returned, s)
  | .returned => (.returned, s)

/-- One step of a call of `Run` at phase `p`: its next phase, the shared state after it, and
the goroutines it starts. `ok` is the outcome of the hook or of `Register`. -/
def runNext (ok : Bool) (s : Shared) : RunPhase → RunPhase × Shared × List Goroutine
  | .check => if s.running then (.returned .alreadyRunning, s, []) else (.beforeStart 0, { s with running := true }, [])
  | .beforeStart i =>
    if i < parts.beforeStart then (if ok then .beforeStart (i + 1) else .returned .beforeStartFailed, s, [])
    else (.startHTTP, s, [])
  | .startHTTP => (.startGRPC, s, if parts.http then [.httpAssign] else [])
  | .startGRPC => (.register, s, if parts.grpc then [.grpcServe] else [])
  | .register => (.afterStart 0, { s with registered := s.registered || (parts.discovery && parts.config && ok) }, [])
  | .afterStart i =>
    if i < parts.afterStart then (if ok then .afterStart (i + 1) else .returned .afterStartFailed, s, [])
    else (.waiting, { s with notified := true }, [])
  | .waiting => (.waiting, s, [])
  | .shutdown p =>
    ((if (shutdownNext parts ok s p).1 = .returned then .returned .shutDown else .shutdown (shutdownNext parts ok s p).1),
      (shutdownNext parts ok s p).2, [])
  | .returned r => (.returned r, s, [])

/-- One step of a goroutine: its next phase, the shared state after it, and the goroutines it
starts. -/
def goroutineNext (ok : Bool) (s : Shared) : Goroutine → Goroutine × Shared × List Goroutine
  | .run p => (.run (runNext parts ok s p).1, (runNext parts ok s p).2)
  | .shutdown p => (.shutdown (shutdownNext parts ok s p).1, (shutdownNext parts ok s p).2, [])
  | .httpAssign => (.httpListen s.httpServers.length, s.assignHTTP, [])
  | .httpListen k => (.exited, s.listenHTTP k, [])
  | .grpcServe => (.exited, s.serveGRPC, [])
  | .exited => (.exited, s, [])

/-- The signal wakes every `Run` that waits for it into its call of `Shutdown`. -/
def Goroutine.wake : Goroutine → Goroutine
  | .run .waiting => .run (.shutdown .check)
  | g => g

/-- One step of the program. -/
def step (c : Program) (e : AppStep) : Program :=
  if c.shared.terminated then c
  else
    match e with
    | .run => { c with goroutines := c.goroutines ++ [.run .check] }
    | .shutdown => { c with goroutines := c.goroutines ++ [.shutdown .check] }
    | .signal =>
      if c.shared.notified then { c with goroutines := c.goroutines.map Goroutine.wake }
      else { c with shared := { c.shared with terminated := true } }
    | .goroutine i ok =>
      match c.goroutines[i]? with
      | some g =>
        ⟨(goroutineNext parts ok c.shared g).2.1,
          c.goroutines.set i (goroutineNext parts ok c.shared g).1 ++ (goroutineNext parts ok c.shared g).2.2⟩
      | none => c

/-- The program after the steps in turn. -/
def run (c : Program) (steps : List AppStep) : Program :=
  steps.foldl (step parts) c

@[simp]
theorem run_nil (c : Program) : run parts c [] = c := rfl

@[simp]
theorem run_cons (c : Program) (e : AppStep) (steps : List AppStep) :
    run parts c (e :: steps) = run parts (step parts c e) steps := rfl

theorem run_append (c : Program) (steps more : List AppStep) :
    run parts c (steps ++ more) = run parts (run parts c steps) more :=
  List.foldl_append _ _ _ _

/-! ### Invariants kept by every step -/

/-- A property `S` of the shared state and a property `Q` of each goroutine that every step of
a goroutine keeps, for the goroutines it starts too, and that the signal's wake and the end of
the process keep. -/
structure Preserved (S : Shared → Prop) (Q : Goroutine → Prop) : Prop where
  next : ∀ s g ok, S s → Q g → S (goroutineNext parts ok s g).2.1 ∧ Q (goroutineNext parts ok s g).1 ∧
    ∀ g' ∈ (goroutineNext parts ok s g).2.2, Q g'
  wake : ∀ g, Q g → Q g.wake
  terminate : ∀ s, S s → S { s with terminated := true }

variable {S : Shared → Prop} {Q : Goroutine → Prop}

/-- Such properties hold after every step whose call, if it is one, starts a goroutine
satisfying `Q`. -/
theorem Preserved.step (preserved : Preserved parts S Q) {c : Program} (shared : S c.shared)
    (each : ∀ g ∈ c.goroutines, Q g) {e : AppStep} (calledRun : e = .run → Q (.run .check))
    (calledShutdown : e = .shutdown → Q (.shutdown .check)) :
    S (step parts c e).shared ∧ ∀ g ∈ (step parts c e).goroutines, Q g := by
  have appended : ∀ g', Q g' → ∀ g ∈ c.goroutines ++ [g'], Q g := fun g' called g mem => by
    rcases List.mem_append.mp mem with old | new
    · exact each g old
    · exact List.mem_singleton.mp new ▸ called
  unfold App.step
  split
  · exact ⟨shared, each⟩
  cases e with
  | run => exact ⟨shared, appended _ (calledRun rfl)⟩
  | shutdown => exact ⟨shared, appended _ (calledShutdown rfl)⟩
  | signal =>
    dsimp only
    split
    · refine ⟨shared, fun g mem => ?_⟩
      obtain ⟨g', mem', rfl⟩ := List.mem_map.mp mem
      exact preserved.wake g' (each g' mem')
    · exact ⟨preserved.terminate _ shared, each⟩
  | goroutine i ok =>
    dsimp only
    split
    · rename_i g found
      obtain ⟨shared', settled, spawned⟩ := preserved.next _ g ok shared (each g (List.getElem?_mem found))
      refine ⟨shared', fun g' mem => ?_⟩
      rcases List.mem_append.mp mem with old | new
      · rcases List.mem_or_eq_of_mem_set old with old | rfl
        · exact each g' old
        · exact settled
      · exact spawned g' new
    · exact ⟨shared, each⟩

theorem Preserved.run (preserved : Preserved parts S Q) {c : Program} (shared : S c.shared)
    (each : ∀ g ∈ c.goroutines, Q g) {steps : List AppStep} (calledRun : AppStep.run ∈ steps → Q (.run .check))
    (calledShutdown : AppStep.shutdown ∈ steps → Q (.shutdown .check)) :
    S (run parts c steps).shared ∧ ∀ g ∈ (run parts c steps).goroutines, Q g := by
  induction steps generalizing c with
  | nil => exact ⟨shared, each⟩
  | cons e steps ih =>
    obtain ⟨shared', each'⟩ := preserved.step parts shared each
      (fun first => calledRun (first ▸ List.mem_cons_self _ _))
      (fun first => calledShutdown (first ▸ List.mem_cons_self _ _))
    exact ih shared' each' (fun later => calledRun (List.mem_cons_of_mem _ later))
      (fun later => calledShutdown (List.mem_cons_of_mem _ later))

end Steps

/-! ### A stopped application keeps its HTTP server -/

/-- A phase of `Shutdown` past its check that has not yet stopped the HTTP server. -/
def ShutdownPhase.beforeHTTPStop : ShutdownPhase → Bool
  | .beforeStop _ | .deregister | .stopHTTP => true
  | _ => false

/-- A goroutine that may stop the HTTP server, or make the application run, without finding
it running first: a `Run` before its check, and a `Shutdown` past its check that has not
stopped the HTTP server. -/
def Goroutine.mayStopHTTP : Goroutine → Bool
  | .run .check => true
  | .run (.shutdown p) | .shutdown p => p.beforeHTTPStop
  | _ => false

/-- Every `http.Server` that serves in `s` serves in `s'`. -/
def Shared.KeepsServing (s s' : Shared) : Prop :=
  ∀ k : Nat, s.httpServers[k]?.map HttpInstance.serving = some true →
    s'.httpServers[k]?.map HttpInstance.serving = some true

namespace Shared

theorem keepsServing_of_httpServers {s s' : Shared} (same : s'.httpServers = s.httpServers) :
    s.KeepsServing s' := fun _ serving => same ▸ serving

theorem KeepsServing.trans {s s' s'' : Shared} (first : s.KeepsServing s') (second : s'.KeepsServing s'') :
    s.KeepsServing s'' := fun k serving => second k (first k serving)

theorem assignHTTP_keepsServing (s : Shared) : s.KeepsServing s.assignHTTP := by
  intro k serving
  obtain ⟨server, found, -⟩ := Option.map_eq_some'.mp serving
  have inRange := (List.getElem?_eq_some_iff.mp found).1
  simpa [assignHTTP, List.getElem?_append_left inRange] using serving

theorem listenHTTP_keepsServing (s : Shared) (j : Nat) : s.KeepsServing (s.listenHTTP j) := by
  intro k serving
  unfold listenHTTP
  split
  · by_cases same : j = k
    · subst same
      obtain ⟨server, found, -⟩ := Option.map_eq_some'.mp serving
      rw [List.getElem?_set_self (List.getElem?_eq_some_iff.mp found).1]
      rfl
    · rwa [List.getElem?_set_ne same]
  · exact serving

end Shared

section Steps

variable (parts : AppParts)

theorem shutdownNext_idle {s : Shared} (notRunning : s.running = false) {p : ShutdownPhase}
    (idle : p.beforeHTTPStop = false) (ok : Bool) :
    (shutdownNext parts ok s p).2.running = false ∧ (shutdownNext parts ok s p).1.beforeHTTPStop = false ∧
      (shutdownNext parts ok s p).2.httpServers = s.httpServers := by
  cases p with
  | check => simp [shutdownNext, notRunning, ShutdownPhase.beforeHTTPStop]
  | beforeStop | deregister | stopHTTP => simp [ShutdownPhase.beforeHTTPStop] at idle
  | stopGRPC => by_cases withGRPC : parts.grpc = true <;>
      simp [shutdownNext, withGRPC, notRunning, ShutdownPhase.beforeHTTPStop]
  | close => simp [shutdownNext, notRunning, ShutdownPhase.beforeHTTPStop]
  | afterStop i => by_cases last : i < parts.afterStop <;> simp [shutdownNext, notRunning, ShutdownPhase.beforeHTTPStop, last]
  | returned => simp [shutdownNext, notRunning, ShutdownPhase.beforeHTTPStop]

theorem runNext_idle {s : Shared} (notRunning : s.running = false) {p : RunPhase}
    (idle : (Goroutine.run p).mayStopHTTP = false) (ok : Bool) :
    (runNext parts ok s p).2.1.running = false ∧ (Goroutine.run (runNext parts ok s p).1).mayStopHTTP = false ∧
      (runNext parts ok s p).2.1.httpServers = s.httpServers ∧
      ∀ g ∈ (runNext parts ok s p).2.2, g.mayStopHTTP = false := by
  cases p with
  | check => simp [Goroutine.mayStopHTTP] at idle
  | beforeStart i =>
    by_cases hook : i < parts.beforeStart <;> cases ok <;> simp [runNext, hook, notRunning, Goroutine.mayStopHTTP]
  | startHTTP => by_cases withHTTP : parts.http = true <;> simp [runNext, withHTTP, notRunning, Goroutine.mayStopHTTP]
  | startGRPC => by_cases withGRPC : parts.grpc = true <;> simp [runNext, withGRPC, notRunning, Goroutine.mayStopHTTP]
  | register => by_cases registers : (parts.discovery && parts.config && ok) = true <;>
      simp [runNext, registers, notRunning, Goroutine.mayStopHTTP]
  | afterStart i =>
    by_cases hook : i < parts.afterStart <;> cases ok <;> simp [runNext, hook, notRunning, Goroutine.mayStopHTTP]
  | waiting | returned => simp [runNext, notRunning, Goroutine.mayStopHTTP]
  | shutdown p =>
    obtain ⟨stillStopped, settled, same⟩ := shutdownNext_idle parts notRunning idle ok
    refine ⟨stillStopped, ?_, same, by simp [runNext]⟩
    simp only [runNext]
    split <;> simp [Goroutine.mayStopHTTP, settled]

theorem goroutineNext_idle {s : Shared} (notRunning : s.running = false) {g : Goroutine}
    (idle : g.mayStopHTTP = false) (ok : Bool) :
    (goroutineNext parts ok s g).2.1.running = false ∧ (goroutineNext parts ok s g).1.mayStopHTTP = false ∧
      s.KeepsServing (goroutineNext parts ok s g).2.1 ∧
      ∀ g' ∈ (goroutineNext parts ok s g).2.2, g'.mayStopHTTP = false := by
  cases g with
  | run p =>
    obtain ⟨stillStopped, settled, same, spawned⟩ := runNext_idle parts notRunning idle ok
    exact ⟨stillStopped, settled, Shared.keepsServing_of_httpServers same, spawned⟩
  | shutdown p =>
    obtain ⟨stillStopped, settled, same⟩ := shutdownNext_idle parts notRunning idle ok
    exact ⟨stillStopped, settled, Shared.keepsServing_of_httpServers same, by simp [goroutineNext]⟩
  | httpAssign => exact ⟨notRunning, rfl, s.assignHTTP_keepsServing, by simp [goroutineNext]⟩
  | httpListen k =>
    refine ⟨?_, rfl, s.listenHTTP_keepsServing k, by simp [goroutineNext]⟩
    simp only [goroutineNext, Shared.listenHTTP]
    split <;> exact notRunning
  | grpcServe =>
    refine ⟨?_, rfl, Shared.keepsServing_of_httpServers ?_, by simp [goroutineNext]⟩ <;>
      simp only [goroutineNext, Shared.serveGRPC] <;> split <;> simp [notRunning]
  | exited => exact ⟨notRunning, rfl, Shared.keepsServing_of_httpServers rfl, by simp [goroutineNext]⟩

/-- The application is not running, and no goroutine may stop its HTTP server or make it run
without a new `Run`. -/
structure Stopped (c : Program) : Prop where
  notRunning : c.shared.running = false
  idle : ∀ g ∈ c.goroutines, g.mayStopHTTP = false

theorem preserved_stopped (s₀ : Shared) :
    Preserved parts (fun s => s.running = false ∧ s₀.KeepsServing s) (fun g => g.mayStopHTTP = false) where
  next s g ok shared idle := by
    obtain ⟨stillStopped, settled, keeps, spawned⟩ := goroutineNext_idle parts shared.1 idle ok
    exact ⟨⟨stillStopped, shared.2.trans keeps⟩, settled, spawned⟩
  wake g idle := by
    unfold Goroutine.wake
    split
    · rfl
    · exact idle
  terminate _ shared := shared

theorem Stopped.run {c : Program} (stopped : Stopped c) {steps : List AppStep} (noRun : AppStep.run ∉ steps) :
    Stopped (run parts c steps) ∧ c.shared.KeepsServing (run parts c steps).shared :=
  have kept := (preserved_stopped parts c.shared).run parts
    ⟨stopped.notRunning, Shared.keepsServing_of_httpServers rfl⟩ stopped.idle (fun called => absurd called noRun)
    fun _ => rfl
  ⟨⟨kept.1.1, kept.2⟩, kept.1.2⟩

/-- Once the application is stopped with an `http.Server` serving, and no goroutine may stop
it, that server serves after every sequence of steps without a call of `Run`: calls of
`Shutdown` and signals included. -/
theorem stopped_app_keeps_serving (c : Program) (notRunning : c.shared.running = false)
    (idle : ∀ g ∈ c.goroutines, g.mayStopHTTP = false) (k : Nat)
    (serving : c.shared.httpServers[k]?.map HttpInstance.serving = some true)
    (steps : List AppStep) (noRun : AppStep.run ∉ steps) :
    (run parts c steps).shared.httpServers[k]?.map HttpInstance.serving = some true :=
  (Stopped.run parts ⟨notRunning, idle⟩ noRun).2 k serving

/-! ### `Shutdown` can come before the HTTP server's goroutine -/

theorem set_self_of_getElem? {β : Type} {l : List β} {i : Nat} {x : β} (found : l[i]? = some x) :
    l.set i x = l := by
  obtain ⟨inRange, rfl⟩ := List.getElem?_eq_some_iff.mp found
  exact List.ext_getElem (by simp) fun k _ _ => by
    rw [List.getElem_set]
    split <;> simp_all

theorem step_goroutine {c : Program} (notTerminated : c.shared.terminated = false) {i : Nat} {g : Goroutine}
    (found : c.goroutines[i]? = some g) (ok : Bool) :
    step parts c (.goroutine i ok) =
      ⟨(goroutineNext parts ok c.shared g).2.1,
        c.goroutines.set i (goroutineNext parts ok c.shared g).1 ++ (goroutineNext parts ok c.shared g).2.2⟩ := by
  simp [step, notTerminated, found]

/-- Steps of one goroutine round a loop that leaves the shared state as it is. -/
theorem run_loop {sh : Shared} (notTerminated : sh.terminated = false) {gs : List Goroutine} {i : Nat}
    (P : Nat → Goroutine) (n : Nat) {j : Nat} (found : gs[i]? = some (P j))
    (loop : ∀ m, j ≤ m → m < j + n → goroutineNext parts true sh (P m) = (P (m + 1), sh, [])) :
    run parts ⟨sh, gs⟩ (List.replicate n (.goroutine i true)) = ⟨sh, gs.set i (P (j + n))⟩ := by
  induction n generalizing gs j with
  | zero => rw [Nat.add_zero, set_self_of_getElem? found]; rfl
  | succ n ih =>
    have inRange := (List.getElem?_eq_some_iff.mp found).1
    rw [List.replicate_succ, run_cons, step_goroutine parts notTerminated found,
      loop j (Nat.le_refl j) (by omega)]
    dsimp only
    rw [List.append_nil, ih (List.getElem?_set_self inRange) fun m above below => loop m (by omega) (by omega),
      List.set_set, Nat.add_right_comm, Nat.add_assoc]

/-- The server goroutines `Run` starts, in order. -/
def serverGoroutines : List Goroutine :=
  (if parts.http then [.httpAssign] else []) ++ (if parts.grpc then [.grpcServe] else [])

theorem map_wake_serverGoroutines : (serverGoroutines parts).map Goroutine.wake = serverGoroutines parts := by
  unfold serverGoroutines
  split <;> split <;> rfl

/-- A first `Run` whose hooks and `Register` succeed reaches its wait, with its server
goroutines not yet run. -/
theorem run_startUp :
    run parts Program.new ([.run, .goroutine 0 true] ++ List.replicate parts.beforeStart (.goroutine 0 true) ++
        List.replicate 4 (.goroutine 0 true) ++ List.replicate parts.afterStart (.goroutine 0 true) ++ [.goroutine 0 true]) =
      ⟨⟨true, none, [], ⟨false, false⟩, parts.discovery && parts.config, ⟨false, false, false, false⟩, true, false⟩,
        .run .waiting :: serverGoroutines parts⟩ := by
  have beforeHooks := run_loop parts
    (show (⟨true, none, [], ⟨false, false⟩, false, ⟨false, false, false, false⟩, false, false⟩ : Shared).terminated = false
      from rfl)
    (fun m => .run (.beforeStart m)) parts.beforeStart (j := 0) (List.getElem?_cons_zero (l := []))
    fun m _ below => by simp [goroutineNext, runNext, show m < parts.beforeStart by omega]
  have afterHooks := run_loop parts
    (show (⟨true, none, [], ⟨false, false⟩, parts.discovery && parts.config, ⟨false, false, false, false⟩, false,
      false⟩ : Shared).terminated = false from rfl)
    (fun m => .run (.afterStart m)) parts.afterStart (j := 0) (List.getElem?_cons_zero (l := serverGoroutines parts))
    fun m _ below => by simp [goroutineNext, runNext, show m < parts.afterStart by omega]
  simp only [List.set_cons_zero, Nat.zero_add] at beforeHooks afterHooks
  rw [run_append, run_append, run_append, run_append, show run parts Program.new [.run, .goroutine 0 true] =
    ⟨⟨true, none, [], ⟨false, false⟩, false, ⟨false, false, false, false⟩, false, false⟩, [.run (.beforeStart 0)]⟩ from rfl,
    beforeHooks]
  rw [show run parts _ (List.replicate 4 (.goroutine 0 true)) =
      ⟨⟨true, none, [], ⟨false, false⟩, parts.discovery && parts.config, ⟨false, false, false, false⟩, false, false⟩,
        .run (.afterStart 0) :: serverGoroutines parts⟩ by
    simp [List.replicate, step, goroutineNext, runNext, serverGoroutines], afterHooks]
  simp [step, goroutineNext, runNext]

/-- The signal then takes that `Run` through its `Shutdown` before its server goroutines run:
the stop of the HTTP server finds no `http.Server`. -/
theorem run_signalShutdown :
    run parts ⟨⟨true, none, [], ⟨false, false⟩, parts.discovery && parts.config, ⟨false, false, false, false⟩, true, false⟩,
        .run .waiting :: serverGoroutines parts⟩
      ([.signal, .goroutine 0 true] ++ List.replicate parts.beforeStop (.goroutine 0 true) ++
        List.replicate 5 (.goroutine 0 true) ++ List.replicate parts.afterStop (.goroutine 0 true) ++ [.goroutine 0 true]) =
      ⟨⟨false, none, [], if parts.grpc then ⟨true, false⟩ else ⟨false, false⟩, false,
          ⟨parts.mq, parts.cache, parts.db, parts.discovery⟩, true, false⟩,
        .run (.returned .shutDown) :: serverGoroutines parts⟩ := by
  have beforeHooks := run_loop parts
    (show (⟨false, none, [], ⟨false, false⟩, parts.discovery && parts.config, ⟨false, false, false, false⟩, true,
      false⟩ : Shared).terminated = false from rfl)
    (fun m => .run (.shutdown (.beforeStop m))) parts.beforeStop (j := 0)
    (List.getElem?_cons_zero (l := serverGoroutines parts))
    fun m _ below => by simp [goroutineNext, runNext, shutdownNext, show m < parts.beforeStop by omega]
  have afterHooks := run_loop parts
    (show (⟨false, none, [], if parts.grpc then ⟨true, false⟩ else ⟨false, false⟩, false,
      ⟨parts.mq, parts.cache, parts.db, parts.discovery⟩, true, false⟩ : Shared).terminated = false from rfl)
    (fun m => .run (.shutdown (.afterStop m))) parts.afterStop (j := 0)
    (List.getElem?_cons_zero (l := serverGoroutines parts))
    fun m _ below => by simp [goroutineNext, runNext, shutdownNext, show m < parts.afterStop by omega]
  simp only [List.set_cons_zero, Nat.zero_add] at beforeHooks afterHooks
  rw [run_append, run_append, run_append, run_append]
  rw [show run parts _ [.signal, .goroutine 0 true] =
      ⟨⟨false, none, [], ⟨false, false⟩, parts.discovery && parts.config, ⟨false, false, false, false⟩, true, false⟩,
        .run (.shutdown (.beforeStop 0)) :: serverGoroutines parts⟩ by
    simp [step, goroutineNext, runNext, shutdownNext, map_wake_serverGoroutines, Goroutine.wake], beforeHooks]
  rw [show run parts _ (List.replicate 5 (.goroutine 0 true)) =
      ⟨⟨false, none, [], if parts.grpc then ⟨true, false⟩ else ⟨false, false⟩, false,
          ⟨parts.mq, parts.cache, parts.db, parts.discovery⟩, true, false⟩,
        .run (.shutdown (.afterStop 0)) :: serverGoroutines parts⟩ by
    simp [List.replicate, step, goroutineNext, runNext, shutdownNext, Shared.stopHTTP], afterHooks]
  simp [step, goroutineNext, runNext, shutdownNext]

/-- Every application with an HTTP server has a run, whatever its other parts and hooks, in
which `Run` returns from its `Shutdown`, the application is not running, no goroutine may stop
the HTTP server any more, and an `http.Server` serves: the signal came before the server's
goroutine had run. The run's steps choose the outcomes of the hooks, of `Register` and of
`Deregister`: in it every hook and both calls succeed. -/
theorem httpServer_outlives_shutdown (withHTTP : parts.http = true) :
    ∃ steps, (run parts Program.new steps).shared.running = false ∧
      (run parts Program.new steps).goroutines[0]? = some (.run (.returned .shutDown)) ∧
      (∀ g ∈ (run parts Program.new steps).goroutines, g.mayStopHTTP = false) ∧
      (run parts Program.new steps).shared.httpServers[0]?.map HttpInstance.serving = some true := by
  refine ⟨([.run, .goroutine 0 true] ++ List.replicate parts.beforeStart (.goroutine 0 true) ++
      List.replicate 4 (.goroutine 0 true) ++ List.replicate parts.afterStart (.goroutine 0 true) ++ [.goroutine 0 true]) ++
    ([.signal, .goroutine 0 true] ++ List.replicate parts.beforeStop (.goroutine 0 true) ++
      List.replicate 5 (.goroutine 0 true) ++ List.replicate parts.afterStop (.goroutine 0 true) ++ [.goroutine 0 true]) ++
    [.goroutine 1 true, .goroutine 1 true], ?_⟩
  rw [run_append, run_append, run_startUp, run_signalShutdown]
  simp only [serverGoroutines, withHTTP, if_true, List.singleton_append]
  have served : run parts ⟨⟨false, none, [], if parts.grpc then ⟨true, false⟩ else ⟨false, false⟩, false,
        ⟨parts.mq, parts.cache, parts.db, parts.discovery⟩, true, false⟩,
      .run (.returned .shutDown) :: .httpAssign :: if parts.grpc then [.grpcServe] else []⟩
        [.goroutine 1 true, .goroutine 1 true] =
      ⟨⟨false, some 0, [⟨false, true⟩], if parts.grpc then ⟨true, false⟩ else ⟨false, false⟩, false,
        ⟨parts.mq, parts.cache, parts.db, parts.discovery⟩, true, false⟩,
      .run (.returned .shutDown) :: .exited :: if parts.grpc then [.grpcServe] else []⟩ := by
    simp [step, goroutineNext, Shared.assignHTTP, Shared.listenHTTP]
  rw [served]
  refine ⟨rfl, rfl, ?_, rfl⟩
  split <;> simp [Goroutine.mayStopHTTP]

/-! ### A stopped gRPC server stays stopped -/

theorem stopHTTP_grpc (s : Shared) : s.stopHTTP.grpc = s.grpc := by
  unfold Shared.stopHTTP
  split <;> rfl

theorem shutdownNext_grpc {s : Shared} (stopped : s.grpc = ⟨true, false⟩) (ok : Bool) (p : ShutdownPhase) :
    (shutdownNext parts ok s p).2.grpc = ⟨true, false⟩ := by
  cases p <;> simp only [shutdownNext] <;> (try split) <;> simp [stopped, stopHTTP_grpc]

theorem goroutineNext_grpc {s : Shared} (stopped : s.grpc = ⟨true, false⟩) (ok : Bool) (g : Goroutine) :
    (goroutineNext parts ok s g).2.1.grpc = ⟨true, false⟩ := by
  cases g with
  | run p =>
    cases p <;> simp only [goroutineNext, runNext] <;> (try split) <;> (try split) <;>
      simp [stopped, shutdownNext_grpc parts stopped]
  | shutdown p => exact shutdownNext_grpc parts stopped ok p
  | httpAssign | exited => exact stopped
  | httpListen k => simp only [goroutineNext, Shared.listenHTTP]; split <;> exact stopped
  | grpcServe => simp [goroutineNext, Shared.serveGRPC, stopped]

theorem preserved_grpcStopped : Preserved parts (fun s => s.grpc = ⟨true, false⟩) fun _ => True where
  next _ g ok stopped _ := ⟨goroutineNext_grpc parts stopped ok g, trivial, fun _ _ => trivial⟩
  wake _ _ := trivial
  terminate _ stopped := stopped

/-- Once `GracefulStop` has stopped the gRPC server, it is stopped and does not serve after
every sequence of steps: later calls of `Run` start its goroutine, whose `Serve` returns at
once. -/
theorem grpc_never_serves_again (c : Program) (stopped : c.shared.grpc = ⟨true, false⟩) (steps : List AppStep) :
    (run parts c steps).shared.grpc = ⟨true, false⟩ :=
  ((preserved_grpcStopped parts).run parts stopped (fun _ _ => trivial) (fun _ => trivial) fun _ => trivial).1

/-! ### A failed `BeforeStart` hook leaves the application marked running -/

/-- A goroutine that may still change whether the application runs, or start a server: a
`Run` past its check that has not returned, and a `Shutdown` that has not returned. -/
def Goroutine.active : Goroutine → Bool
  | .run .check | .run (.returned _) | .shutdown .returned => false
  | .run _ | .shutdown _ => true
  | _ => false

/-- The application is marked running and no goroutine can change that or start a server. -/
structure Blocked (c : Program) : Prop where
  running : c.shared.running = true
  inactive : ∀ g ∈ c.goroutines, g.active = false

theorem goroutineNext_inactive {s : Shared} (running : s.running = true) {g : Goroutine}
    (inactive : g.active = false) (ok : Bool) :
    (goroutineNext parts ok s g).2.1.running = true ∧ (goroutineNext parts ok s g).1.active = false ∧
      ∀ g' ∈ (goroutineNext parts ok s g).2.2, g'.active = false := by
  match g, inactive with
  | .run .check, _ => simp [goroutineNext, runNext, running, Goroutine.active]
  | .run (.returned _), _ | .shutdown .returned, _ | .exited, _ =>
    simp [goroutineNext, runNext, shutdownNext, running, Goroutine.active]
  | .httpAssign, _ => simp [goroutineNext, Shared.assignHTTP, running, Goroutine.active]
  | .httpListen k, _ =>
    simp only [goroutineNext, Shared.listenHTTP]
    split <;> simp [running, Goroutine.active]
  | .grpcServe, _ =>
    simp only [goroutineNext, Shared.serveGRPC]
    split <;> simp [running, Goroutine.active]

theorem wake_of_inactive {g : Goroutine} (inactive : g.active = false) : g.wake = g := by
  unfold Goroutine.wake
  split
  · simp [Goroutine.active] at inactive
  · rfl

theorem preserved_blocked : Preserved parts (fun s => s.running = true) fun g => g.active = false where
  next _ _ ok running inactive := goroutineNext_inactive parts running inactive ok
  wake _ inactive := by rw [wake_of_inactive inactive]; exact inactive
  terminate _ running := running

theorem Blocked.run {c : Program} (blocked : Blocked c) {steps : List AppStep}
    (noShutdown : AppStep.shutdown ∉ steps) : Blocked (run parts c steps) :=
  have kept := (preserved_blocked parts).run parts blocked.running blocked.inactive (fun _ => rfl)
    fun called => absurd called noShutdown
  ⟨kept.1, kept.2⟩

/-- When the first `BeforeStart` hook of the first `Run` fails, that `Run` returns with the
application still marked running. Until `Shutdown` is called, it stays marked so after every
sequence of steps, and no goroutine can start a server or clear the mark: every later `Run`
returns at its check ("app is already running"). -/
theorem failed_beforeStart_blocks_run (hooks : 0 < parts.beforeStart) (steps : List AppStep)
    (noShutdown : AppStep.shutdown ∉ steps) :
    (run parts Program.new [.run, .goroutine 0 true, .goroutine 0 false]).goroutines =
        [.run (.returned .beforeStartFailed)] ∧
      (run parts Program.new ([.run, .goroutine 0 true, .goroutine 0 false] ++ steps)).shared.running = true ∧
      ∀ g ∈ (run parts Program.new ([.run, .goroutine 0 true, .goroutine 0 false] ++ steps)).goroutines,
        g.active = false := by
  have failed : run parts Program.new [.run, .goroutine 0 true, .goroutine 0 false] =
      ⟨⟨true, none, [], ⟨false, false⟩, false, ⟨false, false, false, false⟩, false, false⟩,
        [.run (.returned .beforeStartFailed)]⟩ := by
    simp [Program.new, step, goroutineNext, runNext, hooks]
  have blocked := Blocked.run parts (c := run parts Program.new [.run, .goroutine 0 true, .goroutine 0 false])
    (by rw [failed]; exact ⟨rfl, by simp [Goroutine.active]⟩) noShutdown
  rw [run_append]
  exact ⟨by rw [failed], blocked.running, blocked.inactive⟩

end Steps

/-- An application with only an HTTP server and no hooks. -/
def httpOnly : AppParts := ⟨true, false, false, false, false, false, false, 0, 0, 0, 0⟩

theorem httpServer_outlives_shutdown_httpOnly :
    httpOnly.http = true ∧ ∃ steps, (run httpOnly Program.new steps).shared.running = false ∧
      (run httpOnly Program.new steps).goroutines[0]? = some (.run (.returned .shutDown)) ∧
      (∀ g ∈ (run httpOnly Program.new steps).goroutines, g.mayStopHTTP = false) ∧
      (run httpOnly Program.new steps).shared.httpServers[0]?.map HttpInstance.serving = some true :=
  ⟨rfl, httpServer_outlives_shutdown httpOnly rfl⟩

/-- The application after the run of `httpServer_outlives_shutdown` for `httpOnly`. -/
def leaked : Program :=
  ⟨⟨false, some 0, [⟨false, true⟩], ⟨false, false⟩, false, ⟨false, false, false, false⟩, true, false⟩,
    [.run (.returned .shutDown), .exited]⟩

theorem stopped_app_keeps_serving_after_shutdowns :
    leaked.shared.running = false ∧ (∀ g ∈ leaked.goroutines, g.mayStopHTTP = false) ∧
      leaked.shared.httpServers[0]?.map HttpInstance.serving = some true ∧
      AppStep.run ∉ [.shutdown, .signal, .goroutine 2 true, .goroutine 2 true] ∧
      (run httpOnly leaked [.shutdown, .signal, .goroutine 2 true, .goroutine 2 true]).shared.httpServers[0]?.map
        HttpInstance.serving = some true :=
  ⟨rfl, by decide, rfl, by decide,
    stopped_app_keeps_serving httpOnly leaked rfl (by decide) 0 rfl _ (by decide)⟩

theorem grpc_never_serves_again_after_run :
    (⟨⟨false, none, [], ⟨true, false⟩, false, ⟨false, false, false, false⟩, true, false⟩, []⟩ : Program).shared.grpc =
        ⟨true, false⟩ ∧
      (run ⟨false, true, false, false, false, false, false, 0, 0, 0, 0⟩
        ⟨⟨false, none, [], ⟨true, false⟩, false, ⟨false, false, false, false⟩, true, false⟩, []⟩
        [.run, .goroutine 0 true, .goroutine 0 true, .goroutine 0 true, .goroutine 0 true, .goroutine 1 true]).shared.grpc =
        ⟨true, false⟩ :=
  ⟨rfl, grpc_never_serves_again _ _ rfl _⟩

theorem failed_beforeStart_blocks_run_retried :
    0 < (⟨true, false, false, false, false, false, false, 1, 0, 0, 0⟩ : AppParts).beforeStart ∧
      AppStep.shutdown ∉ [.run, .goroutine 1 true, .signal] ∧
      (run ⟨true, false, false, false, false, false, false, 1, 0, 0, 0⟩ Program.new
          [.run, .goroutine 0 true, .goroutine 0 false]).goroutines = [.run (.returned .beforeStartFailed)] ∧
      (run ⟨true, false, false, false, false, false, false, 1, 0, 0, 0⟩ Program.new
          ([.run, .goroutine 0 true, .goroutine 0 false] ++ [.run, .goroutine 1 true, .signal])).shared.running = true ∧
      ∀ g ∈ (run ⟨true, false, false, false, false, false, false, 1, 0, 0, 0⟩ Program.new
          ([.run, .goroutine 0 true, .goroutine 0 false] ++ [.run, .goroutine 1 true, .signal])).goroutines,
        g.active = false :=
  ⟨by decide, by decide, failed_beforeStart_blocks_run _ (by decide) _ (by decide)⟩

end Goupter.App
