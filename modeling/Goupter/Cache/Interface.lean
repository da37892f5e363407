import Goupter.Cache.Json

/-!
# The `Cache` interface

`src/pkg/cache/cache.go`. A call of a `Cache` method is an `Op`, with its arguments;
`Op.Reply` is what the method returns. Every store of the package, and the
multi-level cache itself, is a way of answering these calls.

Instants (`time.Time`) and durations (`time.Duration`) are integers of nanoseconds.
The context argument of every method is not modelled: no implementation of the package
reads it for anything but passing it on. `Set`, `MSet` and `SetNX` use their value
argument only through `json.Marshal`, so a value is given as that result,
`Except Error Json`. `Get` writes into a destination of the caller's type `α`.
-/

namespace Goupter.Cache

/-- The four counter methods: `Incr`, `IncrBy`, `Decr`, `DecrBy`. -/
inductive CounterOp where
  | incr
  | incrBy (n : Int)
  | decr
  | decrBy (n : Int)
deriving DecidableEq, Repr

/-- A call of a `Cache` method with its arguments. -/
inductive Op (α : Type) where
  | get (key : String) (dest : α)
  | set (key : String) (value : Except Error Json) (ttl : Int)
  | delete (key : String)
  | exists (key : String)
  | mget (keys : List String)
  | mset (items : List (String × Except Error Json)) (ttl : Int)
  | mdelete (keys : List String)
  | counter (key : String) (op : CounterOp)
  | setNX (key : String) (value : Except Error Json) (ttl : Int)
  | expire (key : String) (ttl : Int)
  | ttl (key : String)
  | close
  | ping

namespace Op

variable {α : Type}

/-- The Go results of a call: a map result is a function from keys, `nil` the empty one. -/
def Reply : Op α → Type
  | get .. => α × Option Error
  | «exists» _ => Bool × Option Error
  | mget _ => (String → Option Json) × Option Error
  | counter .. => Int × Option Error
  | setNX .. => Bool × Option Error
  | ttl _ => Int × Option Error
  | set .. | delete _ | mset .. | mdelete _ | expire .. | close | ping => Option Error

/-- The reply of a call that fails with `err` before doing anything: Go's zero values
with the error. -/
def failed (err : Error) : (op : Op α) → op.Reply
  | get _ dest => (dest, some err)
  | «exists» _ => (false, some err)
  | mget _ => (fun _ => none, some err)
  | counter .. => (0, some err)
  | setNX .. => (false, some err)
  | ttl _ => (0, some err)
  | set .. | delete _ | mset .. | mdelete _ | expire .. | close | ping => some err

/-- Whether a call may change what a store holds under `key`: the methods that write,
delete or re-time the keys they are given. -/
def writes (key : String) : Op α → Bool
  | set k .. | delete k | counter k _ | setNX k .. | expire k _ => decide (key = k)
  | mset items _ => decide (key ∈ items.map Prod.fst)
  | mdelete keys => decide (key ∈ keys)
  | get .. | «exists» _ | mget _ | ttl _ | close | ping => false

end Op

end Goupter.Cache
