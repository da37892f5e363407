/-!
# Bearer authentication over HTTP

`BearerAuthWithConfig` of `src/unnamed/part_013`, the gin middleware. A request whose path
is not skipped must carry an `Authorization` header that starts with `Bearer ` and has a
non-empty token after it (`bearerToken`); the token goes to the validator, and the request
goes on with the validator's `AuthInfo` unless that has expired
(`bearerAuthWithConfig_next_iff`). Every failure goes to `handleAuthError`: the configured
`ErrorHandler`, or a 401 answer with a `WWW-Authenticate` header naming the realm and the
error's text.

Header values are Go strings, that is byte sequences: `len` is the length of the list and
`TrimPrefix` drops the bytes of the prefix. `c.GetHeader` gives the empty string for a
missing header. `AuthInfo.IsExpired` reads the clock; here it is the instant `now` of the
request, in nanoseconds.
-/

namespace Goupter.Middleware

/-- The bytes of an ASCII literal. -/
def ascii (s : String) : List UInt8 := s.toList.map fun c => c.toNat.toUInt8

/-- `strings.HasPrefix(s, p)`. -/
def hasPrefix (s p : List UInt8) : Bool := p.isPrefixOf s

/-- `strings.TrimPrefix(s, p)`. -/
def trimPrefix (s p : List UInt8) : List UInt8 := if hasPrefix s p then s.drop p.length else s

/-- The errors the middleware reports: its own, and any other a validator returns. -/
inductive AuthError where
  | missingToken
  | invalidToken
  | tokenExpired
  | other (message : String)
deriving DecidableEq, Repr

/-- `err.Error()`. -/
def AuthError.message : AuthError → String
  | .missingToken => "missing authentication token"
  | .invalidToken => "invalid authentication token"
  | .tokenExpired => "token has expired"
  | .other message => message

/-- `AuthInfo`, with the user and the expiry, `none` for the zero time; the roles, scopes and
extra data are not read here. -/
structure AuthInfo where
  userID : String
  expiresAt : Option Int
deriving DecidableEq, Repr

/-- `AuthInfo.IsExpired` at `now`. -/
def AuthInfo.isExpired (info : AuthInfo) (now : Int) : Bool :=
  match info.expiresAt with
  | none => false
  | some expiry => decide (expiry < now)

/-- `BearerAuthConfig`; `errorHandler` says whether an `ErrorHandler` is set, whose own
effect is not modelled. -/
structure BearerAuthConfig where
  validator : List UInt8 → Except AuthError AuthInfo
  realm : String
  skipPaths : List String
  errorHandler : Bool

/-- What the middleware does with a request. -/
inductive Response where
  /-- `c.Next()`, with the `AuthInfo` it stored, if any. -/
  | next (info : Option AuthInfo)
  /-- The configured `ErrorHandler` is called with the error. -/
  | toErrorHandler (err : AuthError)
  /-- `AbortWithStatusJSON(code, {code, message})` after setting `WWW-Authenticate`. -/
  | abort (wwwAuthenticate : String) (code : Nat) (message : String)
deriving DecidableEq, Repr

/-- `handleAuthError`. -/
def handleAuthError (cfg : BearerAuthConfig) (err : AuthError) : Response :=
  if cfg.errorHandler then .toErrorHandler err
  else
    let realm := if cfg.realm = "" then "Authorization Required" else cfg.realm
    .abort ("Bearer realm=\"" ++ realm ++ "\"") 401 err.message

/-- The constant `prefix` of `BearerAuthWithConfig`. -/
def bearerPrefix : List UInt8 := ascii "Bearer "

/-- The checks of `BearerAuthWithConfig` on the header, up to the call of the validator: the
token, or the error the request is refused with. -/
def bearerToken (auth : List UInt8) : Except AuthError (List UInt8) :=
  if auth = [] then .error .missingToken
  else if !hasPrefix auth bearerPrefix then .error .invalidToken
  else
    let token := trimPrefix auth bearerPrefix
    if token = [] then .error .invalidToken else .ok token

/-- `BearerAuthWithConfig(cfg)` on a request for `path` with header `auth` at `now`. -/
def bearerAuthWithConfig (cfg : BearerAuthConfig) (now : Int) (path : String) (auth : List UInt8) : Response :=
  if path ∈ cfg.skipPaths then .next none
  else
    match bearerToken auth with
    | .error err => handleAuthError cfg err
    | .ok token =>
      match cfg.validator token with
      | .error err => handleAuthError cfg err
      | .ok info => if info.isExpired now then handleAuthError cfg .tokenExpired else .next (some info)

/-- `BearerAuth(validator)`. -/
def bearerAuth (validator : List UInt8 → Except AuthError AuthInfo) : Int → String → List UInt8 → Response :=
  bearerAuthWithConfig ⟨validator, "Authorization Required", [], false⟩

/-! ### What the middleware accepts -/

theorem bearerPrefix_length : bearerPrefix.length = 7 := rfl

theorem bearerPrefix_ne_nil : bearerPrefix ≠ [] := by decide

theorem hasPrefix_iff {s p : List UInt8} : hasPrefix s p = true ↔ p <+: s := List.isPrefixOf_iff_prefix

/-- A header that starts with `Bearer ` gives the rest as the token, unless it is empty. -/
theorem bearerToken_bearerPrefix_append (rest : List UInt8) :
    bearerToken (bearerPrefix ++ rest) = if rest = [] then .error .invalidToken else .ok rest := by
  have bearer : hasPrefix (bearerPrefix ++ rest) bearerPrefix = true := hasPrefix_iff.mpr (List.prefix_append _ _)
  simp [bearerToken, trimPrefix, bearer, bearerPrefix_ne_nil]

/-- Any other header is refused: as missing when it is empty, as invalid otherwise. -/
theorem bearerToken_of_not_bearer {auth : List UInt8} (other : ¬bearerPrefix <+: auth) :
    bearerToken auth = .error (if auth = [] then .missingToken else .invalidToken) := by
  unfold bearerToken
  split
  · rfl
  · simp [other, mt hasPrefix_iff.mp other]

/-- The middleware takes a token exactly from a header that is `Bearer ` followed by it, and
it is not empty. -/
theorem bearerToken_eq_ok {auth token : List UInt8} :
    bearerToken auth = .ok token ↔ auth = bearerPrefix ++ token ∧ token ≠ [] := by
  by_cases bearer : bearerPrefix <+: auth
  · obtain ⟨rest, rfl⟩ := bearer
    rw [bearerToken_bearerPrefix_append]
    by_cases empty : rest = []
    · simp [empty]
    · rw [if_neg empty]
      simp only [Except.ok.injEq, List.append_cancel_left_eq]
      exact ⟨fun same => ⟨same, same ▸ empty⟩, And.left⟩
  · rw [bearerToken_of_not_bearer bearer]
    simp only [reduceCtorEq, false_iff, not_and]
    exact fun split => absurd ⟨token, split.symm⟩ bearer

/-- What the middleware takes from a header: the bytes after `Bearer `, when the header starts
with it and is longer. -/
theorem bearerToken_toOption (auth : List UInt8) :
    (bearerToken auth).toOption = if bearerPrefix <+: auth ∧ 7 < auth.length then some (auth.drop 7) else none := by
  by_cases bearer : bearerPrefix <+: auth
  · obtain ⟨rest, rfl⟩ := bearer
    rw [bearerToken_bearerPrefix_append, List.drop_left' bearerPrefix_length]
    by_cases empty : rest = []
    · simp [empty, bearerPrefix_length, Except.toOption]
    · simp [empty, bearerPrefix_length, Except.toOption, List.length_pos.mpr empty]
  · rw [bearerToken_of_not_bearer bearer]
    simp [bearer, Except.toOption]

theorem handleAuthError_ne_next (cfg : BearerAuthConfig) (err : AuthError) (info : Option AuthInfo) :
    handleAuthError cfg err ≠ .next info := by
  unfold handleAuthError
  split <;> simp

/-- A request goes on with an `AuthInfo` exactly when its path is not skipped, its header is
`Bearer ` and a non-empty token, the validator accepts the token with that `AuthInfo`, and it
has not expired. -/
theorem bearerAuthWithConfig_next_iff (cfg : BearerAuthConfig) (now : Int) (path : String)
    (auth : List UInt8) (info : AuthInfo) :
    bearerAuthWithConfig cfg now path auth = .next (some info) ↔
      path ∉ cfg.skipPaths ∧ ∃ token, auth = bearerPrefix ++ token ∧ token ≠ [] ∧
        cfg.validator token = .ok info ∧ info.isExpired now = false := by
  unfold bearerAuthWithConfig
  by_cases skipped : path ∈ cfg.skipPaths
  · simp [skipped]
  · simp only [skipped, if_false, not_false_eq_true, true_and]
    constructor
    · intro next
      split at next
      · exact absurd next (handleAuthError_ne_next _ _ _)
      · rename_i token found
        split at next
        · exact absurd next (handleAuthError_ne_next _ _ _)
        · rename_i given validated
          split at next
          · exact absurd next (handleAuthError_ne_next _ _ _)
          · rename_i fresh
            cases next
            obtain ⟨split, nonEmpty⟩ := bearerToken_eq_ok.mp found
            exact ⟨token, split, nonEmpty, validated, by simpa using fresh⟩
    · rintro ⟨token, split, nonEmpty, validated, fresh⟩
      rw [bearerToken_eq_ok.mpr ⟨split, nonEmpty⟩]
      simp [validated, fresh]

end Goupter.Middleware
