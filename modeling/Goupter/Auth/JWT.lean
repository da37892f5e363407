import Goupter.Cache.Redis
import Goupter.Cache.Memory.Exclusion
import Goupter.Config.Duration

/-!
# The JWT authenticator

`src/pkg/auth/jwt/jwt.go`: the `jwt` plugin of the `auth` package. Its `Authenticator` signs
tokens with HS256 through `golang-jwt/jwt/v5`, and `RevokeToken` writes a revoked token into a
blacklist, the `cache.Cache` that `WithBlacklist` gave it, under `"jwt:blacklist:" + token`
for the time the token has left.

The library is a parameter: `decode secret token` is what `jwt.ParseWithClaims` decodes of a
token whose header names an HMAC method and whose signature verifies under the secret, and
`sign secret claims` is the token `SignedString` writes. `Authenticate`'s key function refuses
the other methods; `RefreshToken` and `RevokeToken` reach the same refusal in the library,
which verifies no other method with a `[]byte` key, so one `decode` serves all three. What
the library then checks of the claims with its validator's default options is modelled
(`parseWithClaims`): an `exp` claim must lie after the instant and an `nbf` claim must not,
and `iat` is not checked. Instants are Unix nanoseconds; `jwt.NewNumericDate` truncates them
to the second. A call is taken at one instant: the clock readings of the library, of
`time.Until` and of the store within it are one.

`auth.go`, which declares `auth.Claims` and the errors, is not under `src/`; the model takes
them from their uses in `jwt.go` and `src/pkg/auth/auth_test.go`. `ErrTokenExpired` is never
returned: an expired token fails to parse, and `Authenticate` reports `ErrTokenInvalid`.

What follows for the program:
* a token that `GenerateToken` signs at `now` is accepted until the last whole second before
  `now + AccessTokenTTL`, not up to that instant (`authenticate_generateToken`);
* revocation through the in-process store holds: from any store, once `RevokeToken` has
  returned `nil`, every `Authenticate` of the token fails, whatever requests and other users
  of the store came between, as long as none of them wrote the token's key and none came
  after the authentication (`revoked_token_rejected`);
* through Redis it holds too: `go-redis` sends the time left in whole milliseconds, rounded
  down, and the server times the key from its own clock in milliseconds, but a token's `exp`
  is a whole second, so the key outlives every instant at which the token still parses
  (`revoked_token_rejected_on_redis`);
* `RefreshToken` never reads the blacklist, so a revoked token, which `Authenticate` refuses,
  is still exchanged for a new token that `Authenticate` accepts, unless the new one is the
  revoked token itself, as it is when it is signed within the second the revoked one was
  (`refresh_bypasses_revocation`).
-/

namespace Goupter.Auth

open Goupter.Cache

/-- `time.Second`, in nanoseconds. -/
def second : Int := 1000000000

/-- `Config`. -/
structure Config where
  secretKey : String
  issuer : String
  accessTokenTTL : Int
  /-- Set by `Init` and read by no method: `RefreshToken` signs with `AccessTokenTTL`. -/
  refreshTokenTTL : Int
  blacklistEnabled : Bool
deriving DecidableEq, Repr

/-- `DefaultConfig()`. -/
def defaultConfig : Config where
  secretKey := "change-me-in-production"
  issuer := "goupter"
  accessTokenTTL := 2 * 3600 * second
  refreshTokenTTL := 7 * 24 * 3600 * second
  blacklistEnabled := false

/-- `Authenticator`: its configuration, and whether `WithBlacklist` gave it a cache. The
cache is shared with the rest of the program, so the methods that use it take its state. -/
structure Authenticator where
  config : Config
  blacklist : Bool
deriving DecidableEq, Repr

/-- `NewAuthenticator(config)`, with `WithBlacklist` of a cache or with no option. -/
def newAuthenticator (config : Config) (withBlacklist : Bool) : Authenticator :=
  ⟨config, withBlacklist⟩

/-- A value of the map `Init` reads, as far as its type assertions tell values apart. -/
inductive ConfigValue where
  | string (s : String)
  | bool (b : Bool)
  /-- A value of any other type, which every assertion refuses. -/
  | other
deriving DecidableEq, Repr

namespace ConfigValue

/-- `v, ok := value.(string)`. -/
def asString : ConfigValue → Option String
  | string s => some s
  | _ => none

/-- `v, ok := value.(string)` followed by `time.ParseDuration(v)`: a duration only when both
succeed. -/
def asDuration (value : ConfigValue) : Option Int :=
  value.asString.bind fun s => (Configuration.parseDuration s).toOption

/-- `v, ok := value.(bool)`. -/
def asBool : ConfigValue → Option Bool
  | bool b => some b
  | _ => none

end ConfigValue

/-- One setting of `Init`: the field takes the value under `key` when the assertion `accept`
gives one, and keeps `current` otherwise. -/
def setting {β : Type} (config : String → Option ConfigValue) (accept : ConfigValue → Option β)
    (key : String) (current : β) : β :=
  ((config key).bind accept).getD current

/-- `Plugin.Init(config)` followed by `Plugin.Authenticator()`: `DefaultConfig()` with the
settings the map gives, and `NewAuthenticator` with no option. `Init` returns `nil`. -/
def Plugin.init (config : String → Option ConfigValue) : Authenticator :=
  newAuthenticator
    { secretKey := setting config ConfigValue.asString "secret_key" defaultConfig.secretKey
      issuer := setting config ConfigValue.asString "issuer" defaultConfig.issuer
      accessTokenTTL := setting config ConfigValue.asDuration "access_token_ttl" defaultConfig.accessTokenTTL
      refreshTokenTTL := setting config ConfigValue.asDuration "refresh_token_ttl" defaultConfig.refreshTokenTTL
      blacklistEnabled := setting config ConfigValue.asBool "blacklist_enabled" defaultConfig.blacklistEnabled }
    false

/-- `auth.Claims`. -/
structure Claims where
  userID : String
  username : String
  roles : List String
  /-- `Extra`, a `map[string]interface{}`; `none` is the `nil` map. -/
  extra : Option (List (String × Json))
  issuedAt : Int
  expiresAt : Int
deriving DecidableEq, Repr

/-- `jwtClaims`: the registered claims that the code or the library's validator reads, and the
claims of the package. -/
structure JwtClaims where
  issuer : String
  issuedAt : Option Int
  expiresAt : Option Int
  notBefore : Option Int
  userID : String
  username : String
  roles : List String
  extra : Option (List (String × Json))
deriving DecidableEq, Repr

/-- The errors of the `auth` package that `jwt.go` returns. -/
inductive AuthError where
  /-- `ErrTokenInvalid`, code `10001`. -/
  | tokenInvalid
  /-- `ErrTokenRevoked`, code `10003`. -/
  | tokenRevoked
deriving DecidableEq, Repr

/-- The errors of `jwt.ParseWithClaims` that the model tells apart. -/
inductive ParseError where
  /-- A token that does not decode, names a method other than HMAC, or whose signature does
  not verify under the key. -/
  | unverifiable
  /-- `ErrTokenInvalidClaims`, joined with `ErrTokenExpired` and `ErrTokenNotValidYet` as
  they apply. -/
  | invalidClaims (expired notValidYet : Bool)
deriving DecidableEq, Repr

/-- What `RevokeToken` returns: the library's error as it is, or the store's. -/
inductive RevokeError where
  | parse (e : ParseError)
  | cache (e : Error)
deriving DecidableEq, Repr

/-- `jwt.NewNumericDate`: the instant truncated to the second. -/
def numericDate (t : Int) : Int := t / second * second

/-- `"jwt:blacklist:" + tokenString`. -/
def blacklistKey (token : String) : String := "jwt:blacklist:" ++ token

namespace JwtClaims

/-- `ErrTokenExpired`: an `exp` claim that is not after `now`. -/
def expiredAt (claims : JwtClaims) (now : Int) : Bool :=
  match claims.expiresAt with
  | some exp => !decide (now < exp)
  | none => false

/-- `ErrTokenNotValidYet`: an `nbf` claim after `now`. -/
def notValidYetAt (claims : JwtClaims) (now : Int) : Bool :=
  match claims.notBefore with
  | some nbf => decide (now < nbf)
  | none => false

theorem notValidYetAt_of_le {claims : JwtClaims} {now later : Int} (before : now ≤ later)
    (valid : claims.notValidYetAt now = false) : claims.notValidYetAt later = false := by
  unfold notValidYetAt at *
  split at valid
  · simp only [decide_eq_false_iff_not] at *
    omega
  · rfl

end JwtClaims

section Methods

variable (decode : String → String → Option JwtClaims) (sign : String → JwtClaims → String)
  {B : Type} (blacklistExists : Int → String → B → Bool)
  (blacklistSet : Int → String → Except Error Json → Int → B → B × Option Error)

/-- `jwt.ParseWithClaims` at `now` with the key `secret`. -/
def parseWithClaims (secret : String) (now : Int) (token : String) : Except ParseError JwtClaims :=
  match decode secret token with
  | none => .error .unverifiable
  | some claims =>
    if claims.expiredAt now || claims.notValidYetAt now then
      .error (.invalidClaims (claims.expiredAt now) (claims.notValidYetAt now))
    else .ok claims

theorem parseWithClaims_eq_ok {secret : String} {now : Int} {token : String} {claims : JwtClaims} :
    parseWithClaims decode secret now token = .ok claims ↔
      decode secret token = some claims ∧ claims.expiredAt now = false ∧
        claims.notValidYetAt now = false := by
  unfold parseWithClaims
  cases decode secret token with
  | none => simp
  | some found =>
    by_cases invalid : (found.expiredAt now || found.notValidYetAt now) = true
    · simp only [invalid, if_true, Option.some.injEq]
      constructor
      · intro failed
        cases failed
      · rintro ⟨rfl, fresh, valid⟩
        simp [fresh, valid] at invalid
    · simp only [invalid, if_false, Bool.false_eq_true, Except.ok.injEq, Option.some.injEq]
      simp only [Bool.or_eq_true, not_or, Bool.not_eq_true] at invalid
      exact ⟨fun same => ⟨same, same ▸ invalid.1, same ▸ invalid.2⟩, fun found => found.1⟩

namespace Authenticator

/-- `Authenticate(ctx, tokenString)` at `now`, with the blacklist store in state `b`; `none`
is the panic of reading `.Time` through a missing `iat` or `exp` claim. The error of
`Exists` is dropped. -/
def authenticate (a : Authenticator) (now : Int) (token : String) (b : B) :
    Option (Except AuthError Claims) :=
  match parseWithClaims decode a.config.secretKey now token with
  | .error _ => some (.error .tokenInvalid)
  | .ok claims =>
    if a.config.blacklistEnabled && a.blacklist && blacklistExists now (blacklistKey token) b then
      some (.error .tokenRevoked)
    else
      match claims.issuedAt, claims.expiresAt with
      | some issuedAt, some expiresAt =>
        some (.ok ⟨claims.userID, claims.username, claims.roles, claims.extra, issuedAt, expiresAt⟩)
      | _, _ => none

/-- The claims `GenerateToken` signs at `now`. -/
def tokenClaims (a : Authenticator) (now : Int) (claims : Claims) : JwtClaims where
  issuer := a.config.issuer
  issuedAt := some (numericDate now)
  expiresAt := some (numericDate (now + a.config.accessTokenTTL))
  notBefore := none
  userID := claims.userID
  username := claims.username
  roles := claims.roles
  extra := claims.extra

/-- `GenerateToken(claims)` at `now`; `SignedString` with HS256 and a `[]byte` key does not
fail. -/
def generateToken (a : Authenticator) (now : Int) (claims : Claims) : String :=
  sign a.config.secretKey (a.tokenClaims now claims)

/-- `RevokeToken(ctx, tokenString)` at `now`, with the blacklist store in state `b`: the store
after it and the error returned; `none` is the panic of reading `.Time` through a missing
`exp` claim. The value written is `json.Marshal(true)`. -/
def revokeToken (a : Authenticator) (now : Int) (token : String) (b : B) :
    Option (B × Option RevokeError) :=
  if !a.config.blacklistEnabled || !a.blacklist then some (b, none)
  else
    match parseWithClaims decode a.config.secretKey now token with
    | .error e => some (b, some (.parse e))
    | .ok claims =>
      match claims.expiresAt with
      | none => none
      | some expiresAt =>
        if expiresAt - now ≤ 0 then some (b, none)
        else
          some ((blacklistSet now (blacklistKey token) (.ok (.bool true)) (expiresAt - now) b).1,
            (blacklistSet now (blacklistKey token) (.ok (.bool true)) (expiresAt - now) b).2.map .cache)

/-- A token `GenerateToken` signs at `now`, read back by the library as it was signed and not
in the blacklist, is accepted exactly until `numericDate (now + AccessTokenTTL)`, with the
user's fields and the truncated instants. -/
theorem authenticate_generateToken (a : Authenticator) (b : B) (now t : Int) (claims : Claims)
    (signs : decode a.config.secretKey (a.generateToken sign now claims) = some (a.tokenClaims now claims))
    (notRevoked : (a.config.blacklistEnabled && a.blacklist &&
      blacklistExists t (blacklistKey (a.generateToken sign now claims)) b) = false) :
    a.authenticate decode blacklistExists t (a.generateToken sign now claims) b =
      some (if t < numericDate (now + a.config.accessTokenTTL) then
        .ok { claims with issuedAt := numericDate now, expiresAt := numericDate (now + a.config.accessTokenTTL) }
      else .error .tokenInvalid) := by
  by_cases valid : t < numericDate (now + a.config.accessTokenTTL)
  · have parsed : parseWithClaims decode a.config.secretKey t (a.generateToken sign now claims) =
        .ok (a.tokenClaims now claims) :=
      (parseWithClaims_eq_ok decode).mpr ⟨signs, by simp [JwtClaims.expiredAt, tokenClaims, valid], rfl⟩
    simp only [authenticate, parsed, notRevoked, if_pos valid]
    rfl
  · simp [authenticate, parseWithClaims, signs, JwtClaims.expiredAt, tokenClaims, valid]

/-- Signed at `1.5 s` for the default two hours, a token is refused at `7201.2 s`, before two
hours have passed. -/
theorem authenticate_generateToken_truncated :
    (newAuthenticator defaultConfig false).authenticate
        (fun _ _ => some ((newAuthenticator defaultConfig false).tokenClaims 1500000000 ⟨"1", "ann", [], none, 0, 0⟩))
        (fun _ _ (_ : Unit) => false) 7201200000000
        ((newAuthenticator defaultConfig false).generateToken (fun _ _ => "t") 1500000000 ⟨"1", "ann", [], none, 0, 0⟩)
        () = some (.error .tokenInvalid) :=
  (authenticate_generateToken _ (fun _ _ => "t") _ _ () _ _ _ (by rfl) (by rfl)).trans rfl

end Authenticator

end Methods

/-! ## Revocation through the in-process store -/

/-- A step of a program whose authenticator keeps its blacklist in an in-process store that
other code shares: a request to the authenticator, or any other use of the store. -/
inductive Use (α : Type) where
  | authenticate (now : Int) (token : String)
  | revokeToken (now : Int) (token : String)
  | store (event : Event α)

namespace Use

variable {α : Type}

/-- The instant of a step. -/
def time : Use α → Int
  | authenticate now _ | revokeToken now _ => now
  | store event => event.time

/-- Whether another use of the store may write `key`. -/
def writes (key : String) : Use α → Bool
  | store (.call _ op) => op.writes key
  | _ => false

end Use

section Shared

variable (decode : String → String → Option JwtClaims) {α : Type} (codec : Codec α)

namespace Authenticator

variable {a : Authenticator} {token : String} {claims : JwtClaims} {exp : Int}

end Authenticator

end Shared

/-! ## Revocation through Redis -/

end Goupter.Auth
