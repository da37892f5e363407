import Goupter.Cache.Multi.Prog

/-!
# The multi-level cache

`src/pkg/cache/multi.go`. `multiLevelCache` holds a list of `n` levels, index `0` the
nearest; each method is a program of calls on them. Loops over levels are written with
the index of the first level they visit and the number of levels left, so each is
structural.

`Get` probes the levels in order and, on a hit below the first level, backfills the
levels above with the destination it decoded and the hit level's TTL. `Set`, `Delete`,
`MSet`, `MDelete`, `Expire` and `Close` call every level and keep the last error.
`Exists` and `MGet` read through the levels. The counters, `SetNX` and `TTL` go to the
last level only, and `SetNX` copies a created value to the levels before it.
-/

namespace Goupter.Cache

namespace MultiLevelCache

open Prog

variable {α : Type}

/-- `for j := start; j < start+count; j++ { _ = c.levels[j].Set(ctx, key, value, ttl) }`. -/
def setLevels (key : String) (value : Except Error Json) (ttl : Int) : Nat → Nat → Prog α Unit
  | _, 0 => pure ()
  | j, count + 1 => do
    let _ ← callLevel j (.set key value ttl)
    setLevels key value ttl (j + 1) count

/-- The backfill after a hit at level `i > 0` with the decoded destination `found`:
`ttl, _ := level.TTL(ctx, key)`, and when it is positive, `Set(key, found, ttl)` on every
level before `i`. -/
def backfill (codec : Codec α) (key : String) (i : Nat) (found : α) : Prog α Unit :=
  if 0 < i then do
    let (ttl, _) ← callLevel i (.ttl key)
    if 0 < ttl then setLevels key (codec.marshal found) ttl 0 i
  else pure ()

/-- The loop of `Get` from level `i`, with `count` levels left: the first level that
answers without error is backfilled into the levels before it, and the destination it
decoded is the result. -/
def getFrom (codec : Codec α) (key : String) : Nat → Nat → α → Prog α (α × Option Error)
  | _, 0, dest => pure (dest, some (.notFound key))
  | i, count + 1, dest => do
    let (dest, err) ← callLevel i (.get key dest)
    match err with
    | none => do
      backfill codec key i dest
      pure (dest, none)
    | some _ => getFrom codec key (i + 1) count dest

/-- `multiLevelCache.Get`. -/
def get (codec : Codec α) (n : Nat) (key : String) (dest : α) : Prog α (α × Option Error) :=
  getFrom codec key 0 n dest

/-- The fan-out of `Set`, `Delete`, `MSet`, `MDelete`, `Expire` and `Close`: the same
call on every level from `j`, in order, whatever the earlier ones returned, keeping the
last error (`if err != nil { lastErr = err }`). -/
def fanOut (op : Op α) (errorOf : op.Reply → Option Error) :
    Nat → Nat → Option Error → Prog α (Option Error)
  | _, 0, lastErr => pure lastErr
  | j, count + 1, lastErr => do
    let reply ← callLevel j op
    fanOut op errorOf (j + 1) count (match errorOf reply with
      | some err => some err
      | none => lastErr)

/-- `multiLevelCache.Set`. -/
def set (n : Nat) (key : String) (value : Except Error Json) (ttl : Int) : Prog α (Option Error) :=
  fanOut (.set key value ttl) id 0 n none

/-- `multiLevelCache.Delete`. -/
def delete (n : Nat) (key : String) : Prog α (Option Error) :=
  fanOut (.delete key) id 0 n none

/-- `multiLevelCache.MSet`. -/
def mset (n : Nat) (items : List (String × Except Error Json)) (ttl : Int) :
    Prog α (Option Error) :=
  fanOut (.mset items ttl) id 0 n none

/-- `multiLevelCache.MDelete`. -/
def mdelete (n : Nat) (keys : List String) : Prog α (Option Error) :=
  fanOut (.mdelete keys) id 0 n none

/-- `multiLevelCache.Expire`. -/
def expire (n : Nat) (key : String) (ttl : Int) : Prog α (Option Error) :=
  fanOut (.expire key ttl) id 0 n none

/-- `multiLevelCache.Close`. -/
def close (n : Nat) : Prog α (Option Error) :=
  fanOut .close id 0 n none

/-- The loop of `Exists` from level `j`: `true` from the first level that answers `true`
without error. -/
def existsFrom (key : String) : Nat → Nat → Prog α (Bool × Option Error)
  | _, 0 => pure (false, none)
  | j, count + 1 => do
    let (found, err) ← callLevel j (.exists key)
    if err.isNone && found then pure (true, none) else existsFrom key (j + 1) count

/-- `multiLevelCache.Exists`. -/
def «exists» (n : Nat) (key : String) : Prog α (Bool × Option Error) := existsFrom key 0 n

/-- The loop of `MGet` from level `j`: stop once no key is left; a level that fails is
skipped; otherwise each remaining key it returns is added to the result, and the keys it
does not return, in order, are asked of the next level. -/
def mgetFrom : (String → Option Json) → List String → Nat → Nat →
    Prog α ((String → Option Json) × Option Error)
  | result, _, _, 0 => pure (result, none)
  | result, remaining, j, count + 1 =>
    if remaining.isEmpty then pure (result, none)
    else do
      let (values, err) ← callLevel j (.mget remaining)
      match err with
      | some _ => mgetFrom result remaining (j + 1) count
      | none =>
        mgetFrom (fun key => if key ∈ remaining then (values key).orElse fun _ => result key else result key)
          (remaining.filter fun key => (values key).isNone) (j + 1) count

/-- `multiLevelCache.MGet`. -/
def mget (n : Nat) (keys : List String) : Prog α ((String → Option Json) × Option Error) :=
  mgetFrom (fun _ => none) keys 0 n

/-- `multiLevelCache.Incr`, `IncrBy`, `Decr` and `DecrBy`: the last level's answer, or
`0, nil` with no levels. -/
def counter (n : Nat) (key : String) (op : CounterOp) : Prog α (Int × Option Error) :=
  if 0 < n then callLevel (n - 1) (.counter key op) else pure (0, none)

/-- `multiLevelCache.SetNX`: the last level decides; on creation the value is written to
every level before it, errors ignored. -/
def setNX (n : Nat) (key : String) (value : Except Error Json) (ttl : Int) :
    Prog α (Bool × Option Error) :=
  if 0 < n then do
    let (result, err) ← callLevel (n - 1) (.setNX key value ttl)
    match err with
    | some err => pure (false, some err)
    | none => do
      if result then setLevels key value ttl 0 (n - 1)
      pure (result, none)
  else pure (false, none)

/-- `multiLevelCache.TTL`: the last level's answer, or `-2, nil` with no levels. -/
def ttl (n : Nat) (key : String) : Prog α (Int × Option Error) :=
  if 0 < n then callLevel (n - 1) (.ttl key) else pure (-2, none)

/-- The loop of `Ping` from level `j`: the first error ends it. -/
def pingFrom : Nat → Nat → Prog α (Option Error)
  | _, 0 => pure none
  | j, count + 1 => do
    match ← callLevel j .ping with
    | some err => pure (some err)
    | none => pingFrom (j + 1) count

/-- `multiLevelCache.Ping`. -/
def ping (n : Nat) : Prog α (Option Error) := pingFrom 0 n

/-- The multi-level cache over `n` levels as a `Cache`: the program of each method. -/
def program (codec : Codec α) (n : Nat) : (op : Op α) → Prog α op.Reply
  | .get key dest => get codec n key dest
  | .set key value ttl => set n key value ttl
  | .delete key => delete n key
  | .exists key => «exists» n key
  | .mget keys => mget n keys
  | .mset items ttl => mset n items ttl
  | .mdelete keys => mdelete n keys
  | .counter key op => counter n key op
  | .setNX key value ttl => setNX n key value ttl
  | .expire key ttl => expire n key ttl
  | .ttl key => ttl n key
  | .close => close n
  | .ping => ping n

end MultiLevelCache

end Goupter.Cache
