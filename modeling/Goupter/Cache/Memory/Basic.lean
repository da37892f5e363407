import Goupter.Cache.Interface

/-!
# The in-process store

`src/pkg/cache/memory.go`. The store is the map `data` from keys to `cacheItem`s; every
method is one function of the map and of what it reads from outside the store (`Reads`):
the instant each of its `time.Now()` calls returns, and for `MSet` the order in which
`range` visits the map. `TTL` and `SetNX` read the clock twice, `MGet`, `MSet` and
`cleanup` once per key; `performIn` is a call with its readings. The methods that read
the clock once take that instant, and `perform` is the call whose readings all return one
instant `now`. The zero `time.Time` of an item that never expires is `none`.

Reads (`Get`, `Exists`, `MGet`, `IncrBy`, `SetNX`) see an item only while it is not
expired, which `live` states once. `TTL` and `Expire` look at the map itself, and the
background `cleanup` pass keeps exactly the items that are not expired. The ticker and
the stop channel that drive `cleanup` are not modelled: a sweep is a step of its own,
taken at any instants.
-/

namespace Goupter.Cache

/-- `cacheItem`: the encoded value and its absolute expiry, `none` for the zero time. -/
structure CacheItem where
  value : Json
  expiresAt : Option Int
deriving DecidableEq, Repr

namespace CacheItem

/-- `cacheItem.isExpired`: `time.Now().After(expiresAt)`, and never for the zero time. -/
def isExpired (item : CacheItem) (now : Int) : Bool :=
  match item.expiresAt with
  | none => false
  | some expiresAt => decide (expiresAt < now)

/-- The item that `Set`, `MSet` and `SetNX` store: it expires at `now + ttl` when
`ttl > 0`, and never otherwise. -/
def make (now : Int) (data : Json) (ttl : Int) : CacheItem :=
  { value := data, expiresAt := if 0 < ttl then some (now + ttl) else none }

@[simp] theorem make_value (now : Int) (data : Json) (ttl : Int) :
    (make now data ttl).value = data := rfl

@[simp] theorem make_isExpired (now : Int) (data : Json) (ttl : Int) :
    (make now data ttl).isExpired now = false := by
  by_cases positive : 0 < ttl
  · simp only [make, isExpired, positive, if_true, decide_eq_false_iff_not]
    omega
  · simp [make, isExpired, positive]

/-- An item not expired at `later` was not expired at any earlier instant. -/
theorem not_isExpired_of_le {item : CacheItem} {now later : Int} (before : now ≤ later)
    (fresh : item.isExpired later = false) : item.isExpired now = false := by
  obtain ⟨_, _ | expiresAt⟩ := item
  · rfl
  · simp only [isExpired, decide_eq_false_iff_not] at *
    omega

end CacheItem

/-- `memoryCache`: the map of items. -/
structure MemoryCache where
  data : String → Option CacheItem

namespace MemoryCache

variable {α : Type}

/-- The store `NewMemoryCache` starts with. -/
def empty : MemoryCache := ⟨fun _ => none⟩

/-- `c.data[key] = item`. -/
def insert (c : MemoryCache) (key : String) (item : CacheItem) : MemoryCache :=
  ⟨fun k => if k = key then some item else c.data k⟩

/-- `delete(c.data, key)`. -/
def erase (c : MemoryCache) (key : String) : MemoryCache :=
  ⟨fun k => if k = key then none else c.data k⟩

/-- The item a read sees: `item, ok := c.data[key]` with `ok && !item.isExpired()`. -/
def live (c : MemoryCache) (now : Int) (key : String) : Option CacheItem :=
  (c.data key).filter fun item => !item.isExpired now

/-- `memoryCache.Get`: `NotFoundError` unless the item is live, else `json.Unmarshal`. -/
def get (codec : Codec α) (now : Int) (key : String) (dest : α) (c : MemoryCache) :
    α × Option Error :=
  match c.live now key with
  | some item => codec.unmarshal item.value dest
  | none => (dest, some (.notFound key))

/-- `memoryCache.Set`: a failed `json.Marshal` is returned and nothing is written. -/
def set (now : Int) (key : String) (value : Except Error Json) (ttl : Int)
    (c : MemoryCache) : MemoryCache × Option Error :=
  match value with
  | .ok data => (c.insert key (.make now data ttl), none)
  | .error err => (c, some err)

/-- `memoryCache.Delete`; it always returns `nil`. -/
def delete (key : String) (c : MemoryCache) : MemoryCache := c.erase key

/-- `memoryCache.Exists`; it always returns a `nil` error. -/
def «exists» (now : Int) (key : String) (c : MemoryCache) : Bool := (c.live now key).isSome

/-- The loop of `memoryCache.MGet` from the result so far: the key at position `i` is
checked at `clock i`, and a live item is decoded into `interface{}`; a key whose
decoding fails is left out. -/
def mgetLoop (c : MemoryCache) : (Nat → Int) → List String → (String → Option Json) →
    String → Option Json
  | _, [], result => result
  | clock, key :: keys, result =>
    c.mgetLoop (fun i => clock (i + 1)) keys
      (match (c.live (clock 0) key).map fun item => Codec.any.unmarshal item.value .null with
        | some (value, none) => fun k => if k = key then some value else result k
        | _ => result)

/-- `memoryCache.MGet` with the readings of its clock, one per key. -/
def mgetAt (clock : Nat → Int) (keys : List String) (c : MemoryCache) : String → Option Json :=
  c.mgetLoop clock keys fun _ => none

/-- `memoryCache.MGet` with every reading at `now`. -/
def mget (now : Int) (keys : List String) (c : MemoryCache) : String → Option Json :=
  c.mgetAt (fun _ => now) keys

/-- `memoryCache.MSet` over the items in the order its `range` visits them, the `i`-th
reading the clock at `clock i`: each item is written in turn, and the first value that
fails to encode ends the loop with its error, after the items before it were written. -/
def msetAt : (Nat → Int) → List (String × Except Error Json) → Int → MemoryCache →
    MemoryCache × Option Error
  | _, [], _, c => (c, none)
  | clock, (key, .ok data) :: items, ttl, c =>
    msetAt (fun i => clock (i + 1)) items ttl (c.insert key (.make (clock 0) data ttl))
  | _, (_, .error err) :: _, _, c => (c, some err)

/-- `memoryCache.MSet` with every reading at `now`. -/
def mset (now : Int) (items : List (String × Except Error Json)) (ttl : Int) (c : MemoryCache) :
    MemoryCache × Option Error :=
  msetAt (fun _ => now) items ttl c

/-- `memoryCache.MDelete`; it always returns `nil`. -/
def mdelete (keys : List String) (c : MemoryCache) : MemoryCache := keys.foldl erase c

/-- The value `IncrBy` starts from: the live item decoded into an `int64` variable that
starts at `0`; a failed decoding is ignored and leaves it `0`. -/
def counterValue (c : MemoryCache) (now : Int) (key : String) : Int :=
  match c.live now key with
  | some item => (Codec.int64.unmarshal item.value 0).1
  | none => 0

/-- `memoryCache.IncrBy`: `counterValue` plus `value` in `int64` arithmetic, written back
as a new item with no expiry. The error is always `nil`. -/
def incrBy (now : Int) (key : String) (value : Int) (c : MemoryCache) : MemoryCache × Int :=
  let current := wrapInt64 (c.counterValue now key + value)
  (c.insert key { value := .number current 0, expiresAt := none }, current)

/-- `memoryCache.DecrBy`: `IncrBy` of the `int64` negation of `value`. -/
def decrBy (now : Int) (key : String) (value : Int) (c : MemoryCache) : MemoryCache × Int :=
  c.incrBy now key (wrapInt64 (-value))

/-- The counter methods: `Incr` is `IncrBy(1)` and `Decr` is `DecrBy(1)`. -/
def counter (now : Int) (key : String) : CounterOp → MemoryCache → MemoryCache × Int
  | .incr, c => c.incrBy now key 1
  | .incrBy n, c => c.incrBy now key n
  | .decr, c => c.decrBy now key 1
  | .decrBy n, c => c.decrBy now key n

/-- `memoryCache.SetNX`, checking the key at `checkAt` and timing the new item from
`writeAt`: `false` while the key is live; otherwise a failed encoding is returned, and a
successful one is written. -/
def setNXAt (checkAt writeAt : Int) (key : String) (value : Except Error Json) (ttl : Int)
    (c : MemoryCache) : MemoryCache × Bool × Option Error :=
  match c.live checkAt key with
  | some _ => (c, false, none)
  | none =>
    match value with
    | .ok data => (c.insert key (.make writeAt data ttl), true, none)
    | .error err => (c, false, some err)

/-- `memoryCache.SetNX` with both readings at `now`. -/
def setNX (now : Int) (key : String) (value : Except Error Json) (ttl : Int)
    (c : MemoryCache) : MemoryCache × Bool × Option Error :=
  c.setNXAt now now key value ttl

/-- `memoryCache.Expire`: sets the expiry of any item in the map to `now + ttl`.
The error is always `nil`. -/
def expire (now : Int) (key : String) (ttl : Int) (c : MemoryCache) : MemoryCache :=
  match c.data key with
  | some item => c.insert key { item with expiresAt := some (now + ttl) }
  | none => c

/-- `memoryCache.TTL`, checking expiry at `checkAt` and reading `time.Until` at
`untilAt`: `-2` for a missing key, `-1` for an item with no expiry, `-2` for an expired
one, and `expiresAt - untilAt` otherwise, which is negative when the item expired
between the two readings. The error is always `nil`. -/
def ttlAt (checkAt untilAt : Int) (key : String) (c : MemoryCache) : Int :=
  match c.data key with
  | none => -2
  | some item =>
    match item.expiresAt with
    | none => -1
    | some expiresAt => if item.isExpired checkAt then -2 else expiresAt - untilAt

/-- `memoryCache.TTL` with both readings at `now`. -/
def ttl (now : Int) (key : String) (c : MemoryCache) : Int := c.ttlAt now now key

/-- One pass of `memoryCache.cleanup`, the item of `key` checked at `at key`: every
item expired at its check is deleted. -/
def cleanupAt («at» : String → Int) (c : MemoryCache) : MemoryCache :=
  ⟨fun key => (c.data key).filter fun item => !item.isExpired («at» key)⟩

/-- A pass of `memoryCache.cleanup` with every reading at `now`. -/
def cleanup (now : Int) (c : MemoryCache) : MemoryCache := c.cleanupAt fun _ => now

end MemoryCache

/-- What one call of the store reads from outside it. `clock i` is the instant its
`i`-th reading of `time.Now()` returns: one per key of `MGet` and per item of `MSet`, in
their order, two for `TTL` and `SetNX` (the expiry check first), and one for the other
methods. `order items` is the order in which `range` visits the map of an `MSet`, which
Go leaves open: some permutation of its items. -/
structure Reads where
  clock : Nat → Int
  order : List (String × Except Error Json) → List (String × Except Error Json)
  order_perm : ∀ items, (order items).Perm items

/-- Every reading at `now`, and the map of an `MSet` visited in the order of its list. -/
def Reads.at (now : Int) : Reads := ⟨fun _ => now, id, List.Perm.refl⟩

@[simp] theorem Reads.at_clock (now : Int) : (Reads.at now).clock = fun _ => now := rfl

@[simp] theorem Reads.at_order (now : Int) (items : List (String × Except Error Json)) :
    (Reads.at now).order items = items := rfl

namespace MemoryCache

variable {α : Type}

/-- The store as a `Cache`: one call, with what it reads and the Go results of the
method. -/
def performIn (codec : Codec α) (reads : Reads) : (op : Op α) → MemoryCache → MemoryCache × op.Reply
  | .get key dest, c => (c, c.get codec (reads.clock 0) key dest)
  | .set key value ttl, c => c.set (reads.clock 0) key value ttl
  | .delete key, c => (c.delete key, none)
  | .exists key, c => (c, c.exists (reads.clock 0) key, none)
  | .mget keys, c => (c, c.mgetAt reads.clock keys, none)
  | .mset items ttl, c => c.msetAt reads.clock (reads.order items) ttl
  | .mdelete keys, c => (c.mdelete keys, none)
  | .counter key op, c => ((c.counter (reads.clock 0) key op).1, (c.counter (reads.clock 0) key op).2, none)
  | .setNX key value ttl, c => c.setNXAt (reads.clock 0) (reads.clock 1) key value ttl
  | .expire key ttl, c => (c.expire (reads.clock 0) key ttl, none)
  | .ttl key, c => (c, c.ttlAt (reads.clock 0) (reads.clock 1) key, none)
  | .close, c => (c, none)
  | .ping, c => (c, none)

/-- A call whose readings of the clock all return `now`. -/
def perform (codec : Codec α) (now : Int) (op : Op α) (c : MemoryCache) : MemoryCache × op.Reply :=
  c.performIn codec (.at now) op

@[simp] theorem insert_data (c : MemoryCache) (key k : String) (item : CacheItem) :
    (c.insert key item).data k = if k = key then some item else c.data k := rfl

@[simp] theorem erase_data (c : MemoryCache) (key k : String) :
    (c.erase key).data k = if k = key then none else c.data k := rfl

theorem live_insert (c : MemoryCache) (now : Int) (key k : String) (item : CacheItem) :
    (c.insert key item).live now k =
      if k = key then (if item.isExpired now then none else some item) else c.live now k := by
  unfold live
  by_cases same : k = key
  · cases h : item.isExpired now <;> simp [same, Option.filter, h]
  · simp [same]

@[simp] theorem live_insert_make (c : MemoryCache) (now : Int) (key k : String) (data : Json)
    (ttl : Int) :
    (c.insert key (.make now data ttl)).live now k =
      if k = key then some (.make now data ttl) else c.live now k := by
  simp [live_insert]

@[simp] theorem live_erase (c : MemoryCache) (now : Int) (key k : String) :
    (c.erase key).live now k = if k = key then none else c.live now k := by
  unfold live
  split <;> simp_all

theorem isExpired_of_live {c : MemoryCache} {now : Int} {key : String} {item : CacheItem}
    (isLive : c.live now key = some item) : item.isExpired now = false := by
  unfold live at isLive
  generalize c.data key = found at isLive
  cases found with
  | none => cases isLive
  | some found => cases expired : found.isExpired now <;> simp_all [Option.filter]

theorem data_of_live {c : MemoryCache} {now : Int} {key : String} {item : CacheItem}
    (isLive : c.live now key = some item) : c.data key = some item :=
  (Option.filter_eq_some.mp isLive).1

@[simp] theorem live_cleanup (c : MemoryCache) (now : Int) : (c.cleanup now).live now = c.live now := by
  funext k
  simp only [live, cleanup, cleanupAt]
  cases c.data k <;> simp [Option.filter]
  split <;> simp_all

end MemoryCache

end Goupter.Cache
