/-!
# Errors of the cache package

`src/pkg/cache/errors.go` and the `NotFoundError` type of `memory.go`. A Go `error`
is modelled by the values that reach the cache layer: the `*NotFoundError` of a key,
the `ErrNotFound` sentinel, the errors of `encoding/json`, any other error value
(a transport failure of the network tier, `redis.Nil`, `errors.New(msg)`), and an
error that wraps another one, as `fmt.Errorf` with `%w` does.

An absent error is `none : Option Error`, Go's `nil`.
-/

namespace Goupter.Cache

/-- The Go `error` values of the cache layer. -/
inductive Error where
  /-- `&NotFoundError{Key: key}`. -/
  | notFound (key : String)
  /-- The `ErrNotFound` sentinel of `errors.go`. -/
  | errNotFound
  /-- An error of `encoding/json`: a value that cannot be encoded or a document that
  does not decode into the destination. -/
  | json (message : String)
  /-- Any other error value, known by its message. -/
  | other (message : String)
  /-- An error with its own message whose `Unwrap` returns `cause`. -/
  | wrapped (message : String) (cause : Error)
deriving DecidableEq, Repr

namespace Error

/-- `Error()`: the message of an error. -/
def message : Error → String
  | notFound key => "cache: key not found: " ++ key
  | errNotFound => "cache: key not found"
  | json message => message
  | other message => message
  | wrapped message _ => message

/-- `errors.As(err, &notFoundErr)` with a `*NotFoundError` target: some error of the chain
that `Unwrap` walks from `err` is a `*NotFoundError`. -/
def asNotFoundError : Error → Bool
  | notFound _ => true
  | wrapped _ cause => cause.asNotFoundError
  | _ => false

/-- `errors.Is(err, ErrNotFound)`: some error of the chain is the sentinel itself. -/
def isErrNotFound : Error → Bool
  | errNotFound => true
  | wrapped _ cause => cause.isErrNotFound
  | _ => false

end Error

/-- `IsNotFound`: `false` for `nil`; otherwise a `*NotFoundError` or the `ErrNotFound`
sentinel anywhere in the chain, or an error whose own message is `"redis: nil"`, the
message of the network client's `redis.Nil`. -/
def isNotFound : Option Error → Bool
  | none => false
  | some err => err.asNotFoundError || err.isErrNotFound || err.message == "redis: nil"

/-- Wrapping keeps the typed answers of `errors.As` and `errors.Is`, but the message test
reads only the outermost message: under a wrapper whose own message is anything else, the
chain is not-found exactly when it holds a typed not-found error. -/
theorem isNotFound_wrapped (message : String) (cause : Error) (other : message ≠ "redis: nil") :
    isNotFound (some (.wrapped message cause)) = (cause.asNotFoundError || cause.isErrNotFound) := by
  simp [isNotFound, Error.asNotFoundError, Error.isErrNotFound, Error.message, other]

/-- The client's `"redis: nil"` is not-found on its own and is no longer not-found once
wrapped with any other message: `IsNotFound` is not stable under `%w` wrapping. -/
theorem isNotFound_lost_under_wrapping (message : String) (cause : Error)
    (redisNil : cause.message = "redis: nil") (untyped : cause.asNotFoundError = false)
    (noSentinel : cause.isErrNotFound = false) (other : message ≠ "redis: nil") :
    isNotFound (some cause) = true ∧ isNotFound (some (.wrapped message cause)) = false := by
  rw [isNotFound_wrapped message cause other, untyped, noSentinel]
  simp [isNotFound, redisNil]

/-- `fmt.Errorf("get user: %w", redis.Nil)`. -/
theorem isNotFound_lost_under_wrapping_redis_nil :
    isNotFound (some (.other "redis: nil")) = true ∧
      isNotFound (some (.wrapped "get user: redis: nil" (.other "redis: nil"))) = false :=
  isNotFound_lost_under_wrapping "get user: redis: nil" (.other "redis: nil") rfl rfl rfl (by decide)

end Goupter.Cache
