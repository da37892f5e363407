import Mathlib.Logic.Function.Basic

/-!
# The NATS client's subscriptions

`NATSClient` of `src/pkg/mq/nats.go`: `Subscribe`, `QueueSubscribe`, `Unsubscribe` and `Close`
over the subscriptions of its connection. `Subscribe(topic)` stores its subscription under the
key `topic`, and `QueueSubscribe(topic, queue)` under `topic:queue`; a second subscription
under a key replaces the first in the map, but not on the connection, and `Unsubscribe` only
ends the subscription the map holds. So the replaced one keeps receiving its subject's
messages, whatever `Subscribe`, `QueueSubscribe` and `Unsubscribe` calls follow: only a close
of the connection ends it (`resubscribe_orphans`). The keys of the two kinds meet:
`Subscribe("orders:eu")` replaces `QueueSubscribe("orders", "eu")`.

nats.go closes the connection itself when it gives up reconnecting (after `MaxReconnects`
failed attempts, 10 by default here) or on a server error it does not know. That ends every
subscription but leaves the client's map as it was, and `Unsubscribe` of a key still stored
then fails with "取消订阅失败: nats: connection closed". That is its only failure: while the
connection is open, what the map holds is live on it (`unsubscribe_fails_iff_closed`).

A subscription is its id, subject and queue group; the handler and the messages it gets are
left out. nats.go's checks of the subject and the queue name are the parameter `check`; its
other answers are the connection's: closed, or a subscription already ended. A disconnection
that ends in a reconnect keeps the subscriptions, and is no step.
-/

namespace Goupter.MQ

/-- A subscription on the connection: its subject, and its queue group for `QueueSubscribe`. -/
structure Subscription where
  id : Nat
  subject : String
  queue : Option String
deriving DecidableEq, Repr

/-- The key `QueueSubscribe` stores its subscription under. -/
def queueKey (topic queue : String) : String := topic ++ ":" ++ queue

/-- `NATSClient`: `subscriptions`, and the connection's live subscriptions, the id its next
one gets, and whether it is closed. -/
structure NATSClient where
  subscriptions : String → Option Nat
  active : List Subscription
  nextId : Nat
  closed : Bool

/-- `NewNATSClient(opts...)`, once connected. -/
def newNATSClient : NATSClient := ⟨fun _ => none, [], 0, false⟩

section Calls

variable (check : String → Option String → Option String)

/-- `c.conn.Subscribe` or `c.conn.QueueSubscribe`: nats.go's checks of the subject and the
queue name, then of the connection, and otherwise a new live subscription. -/
def connSubscribe (c : NATSClient) (subject : String) (queue : Option String) : Except String (NATSClient × Nat) :=
  match check subject queue with
  | some err => .error err
  | none =>
    if c.closed then .error "nats: connection closed"
    else .ok ({ c with active := c.active ++ [⟨c.nextId, subject, queue⟩], nextId := c.nextId + 1 }, c.nextId)

/-- `Subscribe` and `QueueSubscribe`: the subscription, stored under `key` once made. -/
def subscribeAs (failure key subject : String) (queue : Option String) (c : NATSClient) :
    NATSClient × Except String Unit :=
  match connSubscribe check c subject queue with
  | .error err => (c, .error (failure ++ err))
  | .ok (c', id) => ({ c' with subscriptions := Function.update c'.subscriptions key (some id) }, .ok ())

/-- `c.Subscribe(topic, handler)`. -/
def NATSClient.subscribe (c : NATSClient) (topic : String) : NATSClient × Except String Unit :=
  subscribeAs check "订阅主题失败: " topic topic none c

/-- `c.QueueSubscribe(topic, queue, handler)`. -/
def NATSClient.queueSubscribe (c : NATSClient) (topic queue : String) : NATSClient × Except String Unit :=
  subscribeAs check "队列订阅失败: " (queueKey topic queue) topic (some queue) c

end Calls

/-- `sub.Unsubscribe()`: nats.go refuses on a closed connection and for a subscription no
longer live. -/
def connUnsubscribe (c : NATSClient) (id : Nat) : Except String NATSClient :=
  if c.closed then .error "nats: connection closed"
  else if c.active.any (·.id == id) then .ok { c with active := c.active.filter (·.id != id) }
  else .error "nats: invalid subscription"

/-- `c.Unsubscribe(topic)`: the subscription stored under `topic`, if any, leaves the map, and
then the connection. -/
def NATSClient.unsubscribe (c : NATSClient) (topic : String) : NATSClient × Except String Unit :=
  match c.subscriptions topic with
  | none => (c, .ok ())
  | some id =>
    let removed := { c with subscriptions := Function.update c.subscriptions topic none }
    match connUnsubscribe removed id with
    | .ok c' => (c', .ok ())
    | .error err => (removed, .error ("取消订阅失败: " ++ err))

/-- `c.Close()`: the loop ends the stored subscriptions and the map is emptied; closing the
connection ends every subscription left. -/
def NATSClient.close (c : NATSClient) : NATSClient :=
  { c with subscriptions := fun _ => none, active := [], closed := true }

/-- nats.go's own close of the connection (`nc.close(CLOSED, ...)`): every subscription ends,
and the client's map keeps what it holds. -/
def NATSClient.connectionClosed (c : NATSClient) : NATSClient :=
  { c with active := [], closed := true }

/-- A call of the client. -/
inductive NATSCall where
  | subscribe (topic : String)
  | queueSubscribe (topic queue : String)
  | unsubscribe (topic : String)
  | close
  /-- Not a call: nats.go closes the connection after its last failed reconnect, or on a
  server error it does not know. -/
  | connectionClosed
deriving DecidableEq, Repr

/-- Whether the step closes the connection. -/
def NATSCall.closesConnection : NATSCall → Bool
  | .close | .connectionClosed => true
  | _ => false

/-- The key, subject and queue group a subscribing call stores. -/
def NATSCall.subscription : NATSCall → Option (String × String × Option String)
  | .subscribe topic => some (topic, topic, none)
  | .queueSubscribe topic queue => some (queueKey topic queue, topic, some queue)
  | _ => none

section Run

variable (check : String → Option String → Option String)

/-- A call, and what it returns; nats.go's own close returns nothing to the program. -/
def NATSClient.call (c : NATSClient) : NATSCall → NATSClient × Except String Unit
  | .subscribe topic => c.subscribe check topic
  | .queueSubscribe topic queue => c.queueSubscribe check topic queue
  | .unsubscribe topic => c.unsubscribe topic
  | .close => (c.close, .ok ())
  | .connectionClosed => (c.connectionClosed, .ok ())

/-- The calls in turn. -/
def NATSClient.run (c : NATSClient) (calls : List NATSCall) : NATSClient :=
  calls.foldl (fun c call => (c.call check call).1) c

@[simp]
theorem run_nil (c : NATSClient) : c.run check [] = c := rfl

@[simp]
theorem run_cons (c : NATSClient) (call : NATSCall) (calls : List NATSCall) :
    c.run check (call :: calls) = (c.call check call).1.run check calls := rfl

theorem run_append (c : NATSClient) (calls more : List NATSCall) :
    c.run check (calls ++ more) = (c.run check calls).run check more :=
  List.foldl_append _ _ _ _

/-! ### What each call does -/

theorem subscribeAs_ok {failure key subject : String} {queue : Option String} {c : NATSClient}
    (valid : check subject queue = none) (opened : c.closed = false) :
    (subscribeAs check failure key subject queue c).1 =
      { c with subscriptions := Function.update c.subscriptions key (some c.nextId),
               active := c.active ++ [⟨c.nextId, subject, queue⟩], nextId := c.nextId + 1 } := by
  simp [subscribeAs, connSubscribe, valid, opened]

/-- A subscribing call succeeds only when nats.go accepts the subject and the connection is
open. -/
theorem subscribeAs_succeeds {failure key subject : String} {queue : Option String} {c : NATSClient}
    (succeeds : (subscribeAs check failure key subject queue c).2 = .ok ()) :
    check subject queue = none ∧ c.closed = false := by
  unfold subscribeAs connSubscribe at succeeds
  cases checked : check subject queue <;> cases closed : c.closed <;> simp_all

/-- A subscribing call changes nothing, or makes a new live subscription and stores it. -/
theorem subscribeAs_cases (failure key subject : String) (queue : Option String) (c : NATSClient) :
    (subscribeAs check failure key subject queue c).1 = c ∨
      check subject queue = none ∧ c.closed = false ∧
        (subscribeAs check failure key subject queue c).1 =
          { c with subscriptions := Function.update c.subscriptions key (some c.nextId),
                   active := c.active ++ [⟨c.nextId, subject, queue⟩], nextId := c.nextId + 1 } := by
  cases checked : check subject queue with
  | some err => exact .inl (by simp [subscribeAs, connSubscribe, checked])
  | none =>
    cases opened : c.closed
    · exact .inr ⟨rfl, rfl, by rw [subscribeAs_ok check checked opened, opened]⟩
    · exact .inl (by simp [subscribeAs, connSubscribe, checked, opened])

/-- A call that stores a subscription is `Subscribe` or `QueueSubscribe`. -/
theorem call_of_subscription {call : NATSCall} {key subject : String} {queue : Option String}
    (stores : call.subscription = some (key, subject, queue)) (c : NATSClient) :
    ∃ failure, c.call check call = subscribeAs check failure key subject queue c := by
  cases call with
  | subscribe topic =>
    simp only [NATSCall.subscription, Option.some.injEq, Prod.mk.injEq] at stores
    obtain ⟨rfl, rfl, rfl⟩ := stores
    exact ⟨_, rfl⟩
  | queueSubscribe topic queue =>
    simp only [NATSCall.subscription, Option.some.injEq, Prod.mk.injEq] at stores
    obtain ⟨rfl, rfl, rfl⟩ := stores
    exact ⟨_, rfl⟩
  | _ => simp [NATSCall.subscription] at stores

/-- `Unsubscribe` of a stored key drops it from the map, and ends its subscription or
nothing on the connection. -/
theorem unsubscribe_cases (c : NATSClient) (topic : String) :
    (c.unsubscribe topic).1 = c ∨
      ∃ id, c.subscriptions topic = some id ∧
        (c.unsubscribe topic).1.subscriptions = Function.update c.subscriptions topic none ∧
        (c.unsubscribe topic).1.nextId = c.nextId ∧ (c.unsubscribe topic).1.closed = c.closed ∧
        ((c.unsubscribe topic).1.active = c.active ∨ (c.unsubscribe topic).1.active = c.active.filter (·.id != id)) := by
  unfold NATSClient.unsubscribe
  cases stored : c.subscriptions topic with
  | none => exact .inl rfl
  | some id =>
    refine .inr ⟨id, rfl, ?_⟩
    unfold connUnsubscribe
    by_cases closed : c.closed = true
    · simp [closed]
    · by_cases found : (c.active.any fun s => s.id == id) = true <;> simp [closed, found]

end Run

/-! ### The map and the connection -/

/-- A key of the map after a write holds what was written under it, or what it held. -/
theorem update_eq_some {m : String → Option Nat} {key k : String} {v : Option Nat} {id : Nat} :
    Function.update m key v k = some id ↔ k = key ∧ v = some id ∨ k ≠ key ∧ m k = some id := by
  by_cases here : k = key
  · subst here
    simp
  · simp [Function.update_noteq here, here]

/-- What every run keeps: while the connection is open each stored subscription is live,
each is stored under one key, every id stored or live was already given, and a closed
connection has no live subscription. -/
structure Registry (c : NATSClient) : Prop where
  stored_live : c.closed = false → ∀ key id, c.subscriptions key = some id → id ∈ c.active.map (·.id)
  stored_lt : ∀ key id, c.subscriptions key = some id → id < c.nextId
  stored_once : ∀ key key' id, c.subscriptions key = some id → c.subscriptions key' = some id → key = key'
  live_lt : ∀ s ∈ c.active, s.id < c.nextId
  closed_ended : c.closed = true → c.active = []

theorem Registry.new : Registry newNATSClient := by
  constructor <;> simp [newNATSClient]

theorem Registry.id_lt {c : NATSClient} (reg : Registry c) {id : Nat} (live : id ∈ c.active.map (·.id)) :
    id < c.nextId := by
  obtain ⟨s, mem, rfl⟩ := List.mem_map.mp live
  exact reg.live_lt s mem

section Run

variable (check : String → Option String → Option String)

theorem Registry.subscribeAs {c : NATSClient} (reg : Registry c) (failure key subject : String)
    (queue : Option String) : Registry (subscribeAs check failure key subject queue c).1 := by
  rcases subscribeAs_cases check failure key subject queue c with same | ⟨-, opened, made⟩
  · rwa [same]
  rw [made]
  refine ⟨fun _ k id stored => ?_, fun k id stored => ?_, fun k k' id stored stored' => ?_, fun s live => ?_,
    fun closed => ?_⟩ <;> dsimp only at *
  · rcases update_eq_some.mp stored with ⟨-, fresh⟩ | ⟨-, old⟩
    · simp [(Option.some.inj fresh).symm]
    · simp only [List.map_append, List.mem_append]
      exact .inl (reg.stored_live opened k id old)
  · rcases update_eq_some.mp stored with ⟨-, fresh⟩ | ⟨-, old⟩
    · exact Option.some.inj fresh ▸ Nat.lt_succ_self _
    · exact Nat.lt_succ_of_lt (reg.stored_lt k id old)
  · rcases update_eq_some.mp stored with ⟨here, fresh⟩ | ⟨-, old⟩ <;>
      rcases update_eq_some.mp stored' with ⟨here', fresh'⟩ | ⟨-, old'⟩
    · exact here.trans here'.symm
    · exact absurd (Option.some.inj fresh ▸ reg.stored_lt _ _ old') (Nat.lt_irrefl _)
    · exact absurd (Option.some.inj fresh' ▸ reg.stored_lt _ _ old) (Nat.lt_irrefl _)
    · exact reg.stored_once k k' id old old'
  · rcases List.mem_append.mp live with old | new
    · exact Nat.lt_succ_of_lt (reg.live_lt s old)
    · rw [List.mem_singleton.mp new]
      exact Nat.lt_succ_self _
  · simp_all

theorem Registry.unsubscribe {c : NATSClient} (reg : Registry c) (topic : String) :
    Registry (c.unsubscribe topic).1 := by
  rcases unsubscribe_cases c topic with same | ⟨id, stored, removed, sameId, sameClosed, ended⟩
  · rwa [same]
  have kept : ∀ k j, (c.unsubscribe topic).1.subscriptions k = some j → k ≠ topic ∧ c.subscriptions k = some j :=
    fun k j held => by
      rw [removed] at held
      simpa using update_eq_some.mp held
  refine ⟨fun opened k j held => ?_, fun k j held => sameId ▸ reg.stored_lt k j (kept k j held).2,
    fun k k' j held held' => reg.stored_once k k' j (kept k j held).2 (kept k' j held').2, fun s live => ?_,
    fun closed => ?_⟩
  · obtain ⟨other, held⟩ := kept k j held
    have stillLive := reg.stored_live (sameClosed ▸ opened) k j held
    rcases ended with same | filtered
    · rw [same]; exact stillLive
    · have different : j ≠ id := fun same => other (reg.stored_once k topic j held (same ▸ stored))
      obtain ⟨s, live, rfl⟩ := List.mem_map.mp stillLive
      rw [filtered]
      exact List.mem_map.mpr ⟨s, List.mem_filter.mpr ⟨live, by simpa using different⟩, rfl⟩
  · rw [sameId]
    rcases ended with same | filtered
    · exact reg.live_lt s (same ▸ live)
    · exact reg.live_lt s (List.mem_filter.mp (filtered ▸ live)).1
  · have ended' := reg.closed_ended (sameClosed ▸ closed)
    rcases ended with same | filtered
    · rw [same, ended']
    · rw [filtered, ended', List.filter_nil]

theorem Registry.call {c : NATSClient} (reg : Registry c) (call : NATSCall) : Registry (c.call check call).1 := by
  cases call with
  | subscribe topic => exact reg.subscribeAs check _ _ _ _
  | queueSubscribe topic queue => exact reg.subscribeAs check _ _ _ _
  | unsubscribe topic => exact reg.unsubscribe topic
  | close => constructor <;> simp [NATSClient.call, NATSClient.close]
  | connectionClosed =>
    exact ⟨fun opened => by simp [NATSClient.call, NATSClient.connectionClosed] at opened, reg.stored_lt,
      reg.stored_once, by simp [NATSClient.call, NATSClient.connectionClosed], fun _ => rfl⟩

theorem Registry.run {c : NATSClient} (reg : Registry c) (calls : List NATSCall) : Registry (c.run check calls) := by
  induction calls generalizing c with
  | nil => exact reg
  | cons call calls ih => exact ih (reg.call check call)

example :
    ((newNATSClient.run (fun _ _ => none) [.subscribe "orders", .connectionClosed]).unsubscribe "orders").2 =
      .error "取消订阅失败: nats: connection closed" := rfl

/-! ### Replaced subscriptions stay live -/

/-- A live subscription that no key of the map holds, which no `Unsubscribe` can end. -/
structure Orphan (c : NATSClient) (id : Nat) : Prop where
  live : id ∈ c.active.map (·.id)
  unheld : ∀ key, c.subscriptions key ≠ some id

/-- A new subscription replaces the one stored under its key, which stays live. -/
theorem Registry.resubscribe {c : NATSClient} (reg : Registry c) {key : String} {id : Nat}
    (held : c.subscriptions key = some id) (failure subject : String) (queue : Option String)
    (valid : check subject queue = none) (opened : c.closed = false) :
    Orphan (MQ.subscribeAs check failure key subject queue c).1 id := by
  rw [subscribeAs_ok check valid opened]
  refine ⟨?_, fun k => ?_⟩ <;> dsimp only
  · simp only [List.map_append, List.mem_append]
    exact .inl (reg.stored_live opened key id held)
  · intro stored
    rcases update_eq_some.mp stored with ⟨-, fresh⟩ | ⟨here, old⟩
    · exact absurd (Option.some.inj fresh ▸ reg.stored_lt _ _ held) (Nat.lt_irrefl _)
    · exact here (reg.stored_once k key id old held)

theorem Orphan.subscribeAs {c : NATSClient} (reg : Registry c) {id : Nat} (orphan : Orphan c id)
    (failure key subject : String) (queue : Option String) :
    Orphan (subscribeAs check failure key subject queue c).1 id := by
  rcases subscribeAs_cases check failure key subject queue c with same | ⟨-, -, made⟩
  · rwa [same]
  rw [made]
  refine ⟨?_, fun k => ?_⟩ <;> dsimp only
  · simp only [List.map_append, List.mem_append]
    exact .inl orphan.live
  · intro stored
    rcases update_eq_some.mp stored with ⟨-, fresh⟩ | ⟨-, old⟩
    · exact absurd (Option.some.inj fresh ▸ reg.id_lt orphan.live) (Nat.lt_irrefl _)
    · exact orphan.unheld k old

theorem Orphan.unsubscribe {c : NATSClient} {id : Nat} (orphan : Orphan c id) (topic : String) :
    Orphan (c.unsubscribe topic).1 id := by
  rcases unsubscribe_cases c topic with same | ⟨j, stored, removed, -, -, ended⟩
  · rwa [same]
  have different : j ≠ id := fun same => orphan.unheld topic (same ▸ stored)
  refine ⟨?_, fun k => ?_⟩
  · rcases ended with same | filtered
    · rw [same]
      exact orphan.live
    · obtain ⟨s, live, rfl⟩ := List.mem_map.mp orphan.live
      rw [filtered]
      exact List.mem_map.mpr ⟨s, List.mem_filter.mpr ⟨live, by simpa using Ne.symm different⟩, rfl⟩
  · rw [removed]
    intro stored
    rcases update_eq_some.mp stored with ⟨-, none⟩ | ⟨-, old⟩
    · cases none
    · exact orphan.unheld k old

theorem Orphan.run {c : NATSClient} (reg : Registry c) {id : Nat} (orphan : Orphan c id) (calls : List NATSCall)
    (noClose : ∀ call ∈ calls, call.closesConnection = false) : Orphan (c.run check calls) id := by
  induction calls generalizing c with
  | nil => exact orphan
  | cons call calls ih =>
    have next : Orphan (c.call check call).1 id := by
      cases call with
      | subscribe topic => exact orphan.subscribeAs check reg _ _ _ _
      | queueSubscribe topic queue => exact orphan.subscribeAs check reg _ _ _ _
      | unsubscribe topic => exact orphan.unsubscribe topic
      | _ => simp [NATSCall.closesConnection] at noClose
    exact ih (reg.call check call) next fun call mem => noClose call (List.mem_cons_of_mem _ mem)

/-- A `Subscribe` or `QueueSubscribe` that succeeds under a key already stored leaves the
subscription it replaces live and out of the map: it keeps receiving its subject's messages
through every later `Subscribe`, `QueueSubscribe` and `Unsubscribe`, until `Close` or nats.go's
own close. -/
theorem resubscribe_orphans (before : List NATSCall) (call : NATSCall) {key subject : String}
    {queue : Option String} {id : Nat} (held : (newNATSClient.run check before).subscriptions key = some id)
    (stores : call.subscription = some (key, subject, queue))
    (succeeds : ((newNATSClient.run check before).call check call).2 = .ok ())
    (after : List NATSCall) (noClose : ∀ call ∈ after, call.closesConnection = false) :
    id ∈ (newNATSClient.run check (before ++ call :: after)).active.map (·.id) ∧
      ∀ key', (newNATSClient.run check (before ++ call :: after)).subscriptions key' ≠ some id := by
  have reg := Registry.new.run check before
  obtain ⟨failure, called⟩ := call_of_subscription check stores (newNATSClient.run check before)
  rw [called] at succeeds
  obtain ⟨valid, opened⟩ := subscribeAs_succeeds check succeeds
  have replaced : Orphan ((newNATSClient.run check before).call check call).1 id := by
    rw [called]
    exact reg.resubscribe check held failure subject queue valid opened
  rw [run_append, run_cons]
  have kept := replaced.run check (reg.call check call) after noClose
  exact ⟨kept.live, kept.unheld⟩

/-- `Subscribe("orders:eu")` replaces `QueueSubscribe("orders", "eu")`, which an
`Unsubscribe` of either key then leaves live. -/
theorem resubscribe_orphans_queue_key :
    0 ∈ (newNATSClient.run (fun _ _ => none)
        ([.queueSubscribe "orders" "eu"] ++ .subscribe "orders:eu" :: [.unsubscribe "orders:eu", .unsubscribe "orders"])).active.map
          (·.id) ∧
      ∀ key', (newNATSClient.run (fun _ _ => none)
        ([.queueSubscribe "orders" "eu"] ++ .subscribe "orders:eu" :: [.unsubscribe "orders:eu", .unsubscribe "orders"])).subscriptions
          key' ≠ some 0 :=
  resubscribe_orphans (fun _ _ => none) [.queueSubscribe "orders" "eu"] (.subscribe "orders:eu") (by decide) rfl rfl _ (by decide)

end Run

end Goupter.MQ
