import Goupter.Cache.Memory.Semantics

/-!
# The network adapter

`src/pkg/cache/redis.go`. `redisCache` keeps no state of its own: each method is one
command to the server through `go-redis`. The server is modelled by what those commands
read and write: under each key, the document whose text `SET` stored (the bytes are
`Json.render` of it, which `json.Unmarshal` reads back as the document), with an expiry
instant. The server keeps time in milliseconds: a command at the instant `now` reads its
clock as `now / millisecond`, `SET ... PX ms` stores the expiry `mstime() + ms`, and a key
is expired, and absent for every command, once the clock is past its expiry. A positive
duration reaches the server as `go-redis` sends it, in whole milliseconds and at least
one; `KeepTTL` (`-1`) keeps the key's expiry.

`Get` decodes the stored text into the destination. `MGet` returns the server's reply as
it is: for each key, the stored text as a Go `string`. The in-process store returns the
decoded document instead, when it decodes, and leaves the key out otherwise, so the two
implementations of `MGet` disagree on every value (`mget_returns_stored_text`).
-/

namespace Goupter.Cache

/-- One millisecond, in nanoseconds. -/
def millisecond : Int := 1000000

/-- What the adapter's commands see of the server: under each key, a document and the
millisecond it expires at, if any. -/
structure RedisServer where
  data : String → Option (Json × Option Int)

namespace RedisServer

/-- A server with no keys. -/
def empty : RedisServer := ⟨fun _ => none⟩

/-- An expiry that the server's clock, `now / millisecond`, is not past. -/
def fresh (now : Int) : Option Int → Bool
  | some expiresAt => !decide (expiresAt < now / millisecond)
  | none => true

/-- The document under `key` at `now`, unless its expiry has passed. -/
def lookup (server : RedisServer) (now : Int) (key : String) : Option (Json × Option Int) :=
  (server.data key).filter fun stored => fresh now stored.2

theorem fresh_of_lookup {server : RedisServer} {now : Int} {key : String} {stored : Json × Option Int}
    (found : server.lookup now key = some stored) : fresh now stored.2 = true :=
  (Option.filter_eq_some.mp found).2

end RedisServer

namespace RedisCache

/-- The whole milliseconds `go-redis` sends for a positive TTL: `PX` of them, at least
one (`EX` of whole seconds when the TTL is one, the same duration). -/
def serverTTL (ttl : Int) : Int :=
  if ttl < millisecond then 1 else ttl / millisecond

/-- The expiry `SET` gives `key`: the server's clock plus the milliseconds of `PX`/`EX`
for a positive TTL, the key's own expiry for `KEEPTTL` (`-1`), and none otherwise. -/
def expiryOfSet (now : Int) (key : String) (ttl : Int) (server : RedisServer) : Option Int :=
  if 0 < ttl then some (now / millisecond + serverTTL ttl)
  else if ttl = -1 then ((server.lookup now key).map Prod.snd).getD none
  else none

/-- `redisCache.Set`: `SET key json.Marshal(value)` with its expiry. A value that does not
encode is returned and nothing is sent. -/
def set (now : Int) (key : String) (value : Except Error Json) (ttl : Int) (server : RedisServer) :
    RedisServer × Option Error :=
  match value with
  | .error err => (server, some err)
  | .ok data =>
    (⟨fun k => if k = key then some (data, expiryOfSet now key ttl server) else server.data k⟩, none)

/-- `redisCache.Get`: `GET key`; a missing key is `NotFoundError`, a stored text is
decoded into the destination. -/
def get {α : Type} (codec : Codec α) (now : Int) (key : String) (dest : α) (server : RedisServer) :
    α × Option Error :=
  match server.lookup now key with
  | some (data, _) => codec.unmarshal data dest
  | none => (dest, some (.notFound key))

/-- `redisCache.Exists`: `EXISTS key`, whether the key is there. -/
def «exists» (now : Int) (key : String) (server : RedisServer) : Bool := (server.lookup now key).isSome

/-- `redisCache.MGet`: `MGET keys`, an error for an empty list as the server gives one;
otherwise each key with a value is mapped to the reply's `string`, the stored text. -/
def mget (now : Int) (keys : List String) (server : RedisServer) :
    (String → Option Json) × Option Error :=
  if keys.isEmpty then (fun _ => none, some (.other "ERR wrong number of arguments for 'mget' command"))
  else (fun key => if key ∈ keys then (server.lookup now key).map fun stored => .string stored.1.render
    else none, none)

theorem serverTTL_pos (ttl : Int) : 0 < serverTTL ttl := by
  unfold serverTTL millisecond
  split <;> omega

theorem fresh_expiryOfSet (now : Int) (key : String) (ttl : Int) (server : RedisServer) :
    RedisServer.fresh now (expiryOfSet now key ttl server) = true := by
  unfold expiryOfSet
  split
  · have := serverTTL_pos ttl
    simp [RedisServer.fresh]
    omega
  · split
    · cases found : server.lookup now key with
      | none => rfl
      | some stored => exact RedisServer.fresh_of_lookup found
    · rfl

/-- A key `Set` with a document is there at the same instant. -/
theorem lookup_set (now : Int) (key : String) (data : Json) (ttl : Int) (server : RedisServer) :
    (set now key (.ok data) ttl server).1.lookup now key = some (data, expiryOfSet now key ttl server) := by
  simp [set, RedisServer.lookup, fresh_expiryOfSet]

end RedisCache

namespace Json

theorem one_le_length_ite {p : Prop} [Decidable p] {a b : String} (left : 1 ≤ a.length)
    (right : 1 ≤ b.length) : 1 ≤ (if p then a else b).length := by
  split
  · exact left
  · exact right

/-- Every escape is at least one character: each branch of `escapeChar` is a literal or starts
with one, but the last, which is the character itself. -/
theorem length_escapeChar (c : Char) : 1 ≤ (escapeChar c).length := by
  unfold escapeChar
  repeat refine one_le_length_ite (Nat.le_of_ble_eq_true rfl) ?_
  simp [Char.toString]

/-- Escaping appends at least one character for each character. -/
theorem length_escaped (chars : List Char) (acc : String) :
    acc.length + chars.length ≤ ((chars.map escapeChar).foldl (· ++ ·) acc).length := by
  induction chars generalizing acc with
  | nil => simp
  | cons c chars ih =>
    have := ih (acc ++ escapeChar c)
    have := length_escapeChar c
    simp only [List.map_cons, List.foldl_cons, List.length_cons, String.length_append] at *
    omega

/-- The text of a string literal is longer than the string: two quotes and at least one
character for each. -/
theorem length_render_string (s : String) : s.length + 2 ≤ (string s).render.length := by
  have escaped : "".length + s.length ≤ (String.join (s.toList.map escapeChar)).length :=
    length_escaped s.toList ""
  simp only [render, String.length_append]
  have : "\"".length = 1 := rfl
  omega

theorem string_render_ne (data : Json) : string data.render ≠ data := by
  cases data with
  | string s =>
    intro same
    have := length_render_string s
    rw [string.inj same] at this
    omega
  | _ => exact Json.noConfusion

end Json

namespace RedisCache

/-- After `Set(key, data, ttl)`, `MGet([key])` of the in-process store gives the document
when `json.Unmarshal` decodes it into `interface{}` and leaves the key out otherwise, and
`MGet([key])` of the adapter gives the text the server stored, a string that is never the
document: the two never agree. -/
theorem mget_returns_stored_text (c : MemoryCache) (server : RedisServer) (now : Int) (key : String)
    (data : Json) (ttl : Int) :
    (c.set now key (.ok data) ttl).1.mget now [key] key = (if data.decodesAny then some data else none) ∧
      (mget now [key] (set now key (.ok data) ttl server).1).1 key = some (.string data.render) ∧
      (c.set now key (.ok data) ttl).1.mget now [key] key ≠
        (mget now [key] (set now key (.ok data) ttl server).1).1 key := by
  have adapter : (mget now [key] (set now key (.ok data) ttl server).1).1 key = some (.string data.render) := by
    simp [mget, lookup_set]
  have inProcess : (c.set now key (.ok data) ttl).1.mget now [key] key = if data.decodesAny then some data else none := by
    rw [MemoryCache.mget, MemoryCache.mgetAt, MemoryCache.mgetLoop_cons]
    simp only [MemoryCache.mgetLoop, MemoryCache.decoded, MemoryCache.live_set_ok, Option.filter]
    split <;> simp_all
  refine ⟨inProcess, adapter, ?_⟩
  rw [inProcess, adapter]
  split
  · exact fun same => Json.string_render_ne data (Option.some.inj same).symm
  · exact Option.noConfusion

end RedisCache

end Goupter.Cache
