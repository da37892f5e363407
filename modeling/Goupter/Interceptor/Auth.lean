import Goupter.Middleware.Auth

/-!
# Token authentication of gRPC calls

`UnaryAuth` and `StreamAuth` of `src/unnamed/part_010`. A call to a method that is not
skipped must carry metadata with a value under the metadata key; `extractToken` takes the
first value and, when it is at least as long as the scheme and a space, returns what follows
that many bytes, without looking at them. The token goes to the validator, whose user ID the
handler gets, or whose error rejects the call as unauthenticated. The two interceptors share
this body; they differ only in how the handler gets the context.

Metadata values are Go strings, so byte sequences, as in `Goupter.Middleware`. `Metadata` is
the metadata as `metadata.MD.Get` reads it: the values under the key `Get` is given.

Against the HTTP middleware (`extractToken_agrees_with_bearerToken_iff`): the middleware
takes the token only from a header that starts with `Bearer ` and has a non-empty token,
while `extractToken` with the scheme `Bearer` takes the bytes after the seventh from any
value of at least seven bytes. A value such as `Basic dXNlcjpwYXNz`, or `Bearer ` alone,
reaches the validator through the interceptor and is refused by the middleware.
-/

namespace Goupter.Interceptor

open Goupter.Middleware (ascii bearerPrefix bearerToken bearerToken_eq_ok)

/-- The gRPC status codes the interceptors return. -/
inductive Code where
  | unauthenticated
  | internal
deriving DecidableEq, Repr

/-- `status.Error(code, message)`. -/
structure Status where
  code : Code
  message : String
deriving DecidableEq, Repr

/-- Incoming metadata, as `metadata.MD.Get` reads it. -/
def Metadata := String → List (List UInt8)

/-- `AuthConfig`; the validator, `nil` when none is set, gives a user ID or an error's text. -/
structure AuthConfig where
  tokenValidator : Option (List UInt8 → Except String String)
  skipMethods : List String
  authScheme : List UInt8
  metadataKey : String

/-- `DefaultAuthConfig()`. -/
def defaultAuthConfig : AuthConfig :=
  ⟨none, ["/grpc.health.v1.Health/Check", "/grpc.health.v1.Health/Watch",
    "/grpc.reflection.v1alpha.ServerReflection/ServerReflectionInfo"], ascii "Bearer", "authorization"⟩

/-- `extractToken(ctx, metadataKey, scheme)`; `md` is `none` when the context has no
incoming metadata. -/
def extractToken (md : Option Metadata) (metadataKey : String) (scheme : List UInt8) :
    Except Status (List UInt8) :=
  match md with
  | none => .error ⟨.unauthenticated, "missing metadata"⟩
  | some md =>
    match md metadataKey with
    | [] => .error ⟨.unauthenticated, "missing authorization token"⟩
    | auth :: _ =>
      let pre := scheme ++ ascii " "
      if auth.length < pre.length then .error ⟨.unauthenticated, "invalid authorization format"⟩
      else .ok (auth.drop pre.length)

/-- What becomes of a call: rejected with a status, or passed to the handler, with the user
ID the validator gave when it was asked. -/
inductive Outcome where
  | rejected (status : Status)
  | handled (userID : Option String)
deriving DecidableEq, Repr

/-- The validator's answer: the handler runs with the user ID, or the call is rejected with
the error's text. -/
def validated (answer : Except String String) : Outcome :=
  match answer with
  | .error message => .rejected ⟨.unauthenticated, message⟩
  | .ok userID => .handled (some userID)

/-- The interceptor body `UnaryAuth` and `StreamAuth` share, with the defaults for an empty
metadata key and scheme. -/
def authenticate (cfg : AuthConfig) (fullMethod : String) (md : Option Metadata) : Outcome :=
  let metadataKey := if cfg.metadataKey = "" then "authorization" else cfg.metadataKey
  let scheme := if cfg.authScheme = [] then ascii "Bearer" else cfg.authScheme
  if fullMethod ∈ cfg.skipMethods then .handled none
  else
    match extractToken md metadataKey scheme with
    | .error status => .rejected status
    | .ok token =>
      match cfg.tokenValidator with
      | none => .rejected ⟨.internal, "token validator not configured"⟩
      | some validate => validated (validate token)

/-- `UnaryAuth(cfg)` on a call of `fullMethod`. -/
def unaryAuth (cfg : AuthConfig) (fullMethod : String) (md : Option Metadata) : Outcome :=
  authenticate cfg fullMethod md

/-- `StreamAuth(cfg)` on a stream of `fullMethod`. -/
def streamAuth (cfg : AuthConfig) (fullMethod : String) (md : Option Metadata) : Outcome :=
  authenticate cfg fullMethod md

/-! ### What the interceptors accept -/

/-- `extractToken` refuses a value shorter than the scheme and a space, and otherwise returns
what follows that many bytes. -/
theorem extractToken_of_value {md : Metadata} {metadataKey : String} {auth : List UInt8}
    {rest : List (List UInt8)} (scheme : List UInt8) (values : md metadataKey = auth :: rest) :
    extractToken (some md) metadataKey scheme =
      if auth.length < scheme.length + 1 then .error ⟨.unauthenticated, "invalid authorization format"⟩
      else .ok (auth.drop (scheme.length + 1)) := by
  simp only [extractToken, values, List.length_append, show (ascii " ").length = 1 from rfl]

/-- With the default configuration and a validator, a call of a method that is not skipped
is decided by `extractToken` and then by the validator on its token. -/
theorem unaryAuth_default (validate : List UInt8 → Except String String) {fullMethod : String}
    (notSkipped : fullMethod ∉ defaultAuthConfig.skipMethods) (md : Option Metadata) :
    unaryAuth { defaultAuthConfig with tokenValidator := some validate } fullMethod md =
      match extractToken md "authorization" (ascii "Bearer") with
      | .error status => .rejected status
      | .ok token => validated (validate token) := by
  simp only [unaryAuth, authenticate, if_neg notSkipped]
  rfl

/-! ### Against the HTTP middleware -/

theorem extractToken_agrees_with_bearerToken_iff (md : Metadata) (auth : List UInt8)
    (rest : List (List UInt8)) (values : md "authorization" = auth :: rest) :
    extractToken (some md) "authorization" (ascii "Bearer") =
        (if auth.length < 7 then .error ⟨.unauthenticated, "invalid authorization format"⟩ else .ok (auth.drop 7)) ∧
      (∀ token, bearerToken auth = .ok token ↔ auth = bearerPrefix ++ token ∧ token ≠ []) ∧
      (∀ (validate : List UInt8 → Except String String) (fullMethod : String),
        fullMethod ∉ defaultAuthConfig.skipMethods →
        unaryAuth { defaultAuthConfig with tokenValidator := some validate } fullMethod (some md) =
          if auth.length < 7 then .rejected ⟨.unauthenticated, "invalid authorization format"⟩
          else validated (validate (auth.drop 7))) ∧
      ((extractToken (some md) "authorization" (ascii "Bearer")).toOption = (bearerToken auth).toOption ↔
        (7 ≤ auth.length → bearerPrefix <+: auth ∧ 7 < auth.length)) := by
  have extracted := extractToken_of_value (ascii "Bearer") values
  have seven : (ascii "Bearer").length + 1 = 7 := rfl
  rw [seven] at extracted
  refine ⟨extracted, fun _ => bearerToken_eq_ok, fun validate fullMethod notSkipped => ?_, ?_⟩
  · rw [unaryAuth_default validate notSkipped, extracted]
    by_cases short : auth.length < 7 <;> simp only [short, if_true, if_false]
  · rw [extracted, Middleware.bearerToken_toOption]
    by_cases short : auth.length < 7
    · have refused : ¬(bearerPrefix <+: auth ∧ 7 < auth.length) := fun bearer => by omega
      simp [short, refused, Except.toOption]
    · by_cases bearer : bearerPrefix <+: auth ∧ 7 < auth.length <;>
        simp [short, bearer, Except.toOption, Nat.le_of_not_lt short]
theorem extractToken_agrees_with_bearerToken_iff_basic :
    extractToken (some fun _ => [ascii "Basic dXNlcjpwYXNz"]) "authorization" (ascii "Bearer") =
        .ok (ascii "XNlcjpwYXNz") ∧
      unaryAuth { defaultAuthConfig with tokenValidator := some fun _ => .ok "user" } "/test.Service/Method"
        (some fun _ => [ascii "Basic dXNlcjpwYXNz"]) = .handled (some "user") ∧
      bearerToken (ascii "Basic dXNlcjpwYXNz") = .error .invalidToken :=
  have agreement := extractToken_agrees_with_bearerToken_iff (fun _ => [ascii "Basic dXNlcjpwYXNz"]) _ [] rfl
  ⟨agreement.1.trans rfl, (agreement.2.2.1 _ _ (by decide)).trans rfl, rfl⟩

end Goupter.Interceptor
