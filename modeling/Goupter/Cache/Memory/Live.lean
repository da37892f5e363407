import Goupter.Cache.Memory.Basic

/-!
# Lazy expiry of the in-process store

The store deletes an expired item only when the background `cleanup` pass reaches it;
until then the item stays in the map. The design (§4.2 of the spec) is that this is
invisible: every read treats an expired item as absent, so two stores with the same
live entries at an instant answer the reads alike, `TTL` included (`ttlAt_eq_live`).

`Expire` is the exception: it looks the key up in the map without the expiry check of the
other methods, so it gives an expired item a new expiry and makes its old value visible
again, while on a swept store it does nothing (`expire_revives_expired_item`).
-/

namespace Goupter.Cache

namespace MemoryCache

variable {α : Type}

/-- Later live entries are the earlier ones that have not expired since. -/
theorem live_of_le (c : MemoryCache) {now later : Int} (before : now ≤ later) (key : String) :
    c.live later key = (c.live now key).filter fun item => !item.isExpired later := by
  unfold live
  cases c.data key with
  | none => rfl
  | some item =>
    cases expiredLater : item.isExpired later
    · simp [Option.filter, expiredLater, CacheItem.not_isExpired_of_le before expiredLater]
    · cases expiredNow : item.isExpired now <;> simp [Option.filter, expiredLater, expiredNow]

/-- `TTL` reads the map, but an item expired at its check answers as a missing one. -/
theorem ttlAt_eq_live (c : MemoryCache) (checkAt untilAt : Int) (key : String) :
    c.ttlAt checkAt untilAt key =
      match c.live checkAt key with
      | none => -2
      | some item =>
        match item.expiresAt with
        | none => -1
        | some expiresAt => expiresAt - untilAt := by
  unfold ttlAt live
  cases c.data key with
  | none => rfl
  | some item =>
    obtain ⟨value, _ | expiresAt⟩ := item
    · rfl
    · cases expired : CacheItem.isExpired ⟨value, some expiresAt⟩ checkAt <;>
        simp [expired, Option.filter]

/-- The failing input of `Expire`: an item set at `0` to live one nanosecond is expired
at `2` but still in the map. `Expire("k", 60)` then makes it exist again, while the same
call on the swept store, which has the same live entries, leaves the key missing. -/
theorem expire_revives_expired_item :
    let stale : MemoryCache := empty.insert "k" (.make 0 (.string "v") 1)
    let swept := stale.cleanup 2
    stale.live 2 = swept.live 2 ∧
      (stale.expire 2 "k" 60).exists 2 "k" = true ∧
      (swept.expire 2 "k" 60).exists 2 "k" = false :=
  ⟨(live_cleanup _ _).symm, by decide, by decide⟩

end MemoryCache

/-- One step of the store's history: a call at an instant, or a pass of `cleanup`. -/
inductive Event (α : Type) where
  | call (now : Int) (op : Op α)
  | sweep (now : Int)

namespace Event

variable {α : Type}

/-- The instant of a step. -/
@[simp] def time : Event α → Int
  | call now _ => now
  | sweep now => now

/-- Whether a step is a pass of `cleanup`. -/
def isSweep : Event α → Bool
  | call .. => false
  | sweep _ => true

/-- Whether a step is a call of `Expire`. -/
def isExpire : Event α → Bool
  | call _ (.expire ..) => true
  | _ => false

end Event

namespace MemoryCache

variable {α : Type}

/-- The store after a history, and the replies of its calls in order. -/
def replay (codec : Codec α) : List (Event α) → MemoryCache → MemoryCache × List (Σ op : Op α, op.Reply)
  | [], c => (c, [])
  | .call now op :: events, c =>
    let step := c.perform codec now op
    let rest := replay codec events step.1
    (rest.1, ⟨op, step.2⟩ :: rest.2)
  | .sweep now :: events, c => replay codec events (c.cleanup now)

end MemoryCache

end Goupter.Cache
