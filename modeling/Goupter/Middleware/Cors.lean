import Mathlib.Data.Nat.Digits
/-!
# Cross-origin requests

`CORSWithConfig`, `CORS` and `CORSAllowAll` of `src/pkg/server/middleware/cors.go`. The
configured origins either contain `*`, and then every origin is allowed, or are the list of
allowed origins. An allowed origin is answered in `Access-Control-Allow-Origin`: as `*` when
every origin is allowed without credentials, and as the request's own `Origin` otherwise.
With credentials, `Access-Control-Allow-Credentials: true` is always sent. A preflight
(`OPTIONS`) also gets the allowed methods and headers and, for a positive `MaxAge`,
`Access-Control-Max-Age`, and is answered with 204 without reaching the handlers; every other
request goes on, allowed or not.

The answer is `*` together with credentials only for a request whose `Origin` header is itself
`*` (`wildcard_with_credentials_iff`); a browser never sends that. `Access-Control-Max-Age`
is `string(rune(cfg.MaxAge))`, the character whose code point is `MaxAge`, and never the
decimal number of seconds: a single character, where the default `86400` has five digits
(`maxAgeHeader_ne_decimal`).

The middleware is modelled by the `c.Header` calls it makes, in order, and what it does with
the request; `c.Header` with an empty value deletes the header, and `applyHeaders` gives the
headers the response then has.
-/

namespace Goupter.Middleware

/-- `CORSConfig`. -/
structure CORSConfig where
  allowOrigins : List String
  allowMethods : List String
  allowHeaders : List String
  exposeHeaders : List String
  allowCredentials : Bool
  maxAge : Int
deriving DecidableEq, Repr

/-- `DefaultCORSConfig()`. -/
def defaultCORSConfig : CORSConfig where
  allowOrigins := ["*"]
  allowMethods := ["GET", "POST", "PUT", "PATCH", "DELETE", "HEAD", "OPTIONS"]
  allowHeaders := ["Origin", "Content-Type", "Accept", "Authorization", "X-Request-ID", "X-Trace-ID"]
  exposeHeaders := ["Content-Length", "X-Request-ID", "X-Trace-ID"]
  allowCredentials := true
  maxAge := 86400

/-- Go's `int32(x)`: the low 32 bits, in two's complement. -/
def wrapInt32 (x : Int) : Int := (x + 2147483648) % 4294967296 - 2147483648

/-- Go's `string(rune(x))`: the character of the code point, or U+FFFD when the code point is
negative, a surrogate or beyond U+10FFFF. -/
def runeString (x : Int) : String :=
  let r := wrapInt32 x
  if 0 ≤ r ∧ (r < 0xD800 ∨ (0xDFFF < r ∧ r < 0x110000)) then String.singleton (Char.ofNat r.toNat)
  else "�"

/-- What the middleware does with the request once its headers are set. -/
inductive CorsOutcome where
  /-- `c.Next()`. -/
  | next
  /-- `c.AbortWithStatus(code)`. -/
  | abort (code : Nat)
deriving DecidableEq, Repr

/-- The value sent in `Access-Control-Allow-Origin`, `""` for none. -/
def allowOriginFor (cfg : CORSConfig) (origin : String) : String :=
  if cfg.allowOrigins.any (· == "*") then (if cfg.allowCredentials then origin else "*")
  else if origin ∈ cfg.allowOrigins then origin else ""

/-- The headers `CORSWithConfig` sets on every request. -/
def corsHeaders (cfg : CORSConfig) (origin : String) : List (String × String) :=
  let allowOrigin := allowOriginFor cfg origin
  let exposeHeaders := ", ".intercalate cfg.exposeHeaders
  (if allowOrigin ≠ "" then [("Access-Control-Allow-Origin", allowOrigin)] else []) ++
  (if cfg.allowCredentials then [("Access-Control-Allow-Credentials", "true")] else []) ++
  (if exposeHeaders ≠ "" then [("Access-Control-Expose-Headers", exposeHeaders)] else [])

/-- The headers `CORSWithConfig` adds on a preflight. -/
def preflightHeaders (cfg : CORSConfig) : List (String × String) :=
  [("Access-Control-Allow-Methods", ", ".intercalate cfg.allowMethods),
    ("Access-Control-Allow-Headers", ", ".intercalate cfg.allowHeaders)] ++
  (if cfg.maxAge > 0 then [("Access-Control-Max-Age", runeString cfg.maxAge)] else [])

/-- `CORSWithConfig(cfg)` on a request with the `Origin` header `origin` (`""` when missing)
and the method `method`: the `c.Header` calls, in order, and the outcome. -/
def corsWithConfig (cfg : CORSConfig) (origin method : String) : List (String × String) × CorsOutcome :=
  if method = "OPTIONS" then (corsHeaders cfg origin ++ preflightHeaders cfg, .abort 204)
  else (corsHeaders cfg origin, .next)

/-- `CORS()`. -/
def cors (origin method : String) : List (String × String) × CorsOutcome :=
  corsWithConfig defaultCORSConfig origin method

/-- `CORSAllowAll()`. -/
def corsAllowAll (origin method : String) : List (String × String) × CorsOutcome :=
  let origin := if origin = "" then "*" else origin
  ([("Access-Control-Allow-Origin", origin), ("Access-Control-Allow-Credentials", "true"),
    ("Access-Control-Allow-Methods", "GET, POST, PUT, PATCH, DELETE, HEAD, OPTIONS"),
    ("Access-Control-Allow-Headers", "*"), ("Access-Control-Expose-Headers", "*"),
    ("Access-Control-Max-Age", "86400")],
    if method = "OPTIONS" then .abort 204 else .next)

/-- `c.Header(key, value)` on the response's headers: an empty value deletes the header, any
other replaces it. -/
def setHeader (headers : List (String × String)) (call : String × String) : List (String × String) :=
  let rest := headers.filter (·.1 ≠ call.1)
  if call.2 = "" then rest else call :: rest

/-- The response's headers after the calls. -/
def applyHeaders (headers : List (String × String)) (calls : List (String × String)) : List (String × String) :=
  calls.foldl setHeader headers

/-! ### What the answer allows -/

theorem allowOriginFor_eq_wildcard_iff (cfg : CORSConfig) (origin : String) :
    allowOriginFor cfg origin = "*" ↔
      cfg.allowOrigins.any (· == "*") ∧ (cfg.allowCredentials = false ∨ origin = "*") := by
  unfold allowOriginFor
  by_cases everyOrigin : cfg.allowOrigins.any (· == "*") = true
  · cases credentials : cfg.allowCredentials <;> simp [everyOrigin]
  · have notListed : "*" ∉ cfg.allowOrigins := fun listed =>
      everyOrigin (List.any_eq_true.mpr ⟨"*", listed, beq_self_eq_true _⟩)
    by_cases listed : origin ∈ cfg.allowOrigins
    · simp only [everyOrigin, listed, if_true, if_false, Bool.false_eq_true, false_and, iff_false]
      exact fun same => notListed (same ▸ listed)
    · simp [everyOrigin, listed]

theorem mem_corsWithConfig {cfg : CORSConfig} {origin method : String} {call : String × String} :
    call ∈ (corsWithConfig cfg origin method).1 ↔
      call ∈ corsHeaders cfg origin ∨ (method = "OPTIONS" ∧ call ∈ preflightHeaders cfg) := by
  unfold corsWithConfig
  by_cases preflight : method = "OPTIONS" <;> simp [preflight]

theorem mem_preflightHeaders {cfg : CORSConfig} {call : String × String} (preflight : call ∈ preflightHeaders cfg) :
    call.1 = "Access-Control-Allow-Methods" ∨ call.1 = "Access-Control-Allow-Headers" ∨
      call.1 = "Access-Control-Max-Age" := by
  unfold preflightHeaders at preflight
  split at preflight <;> simp at preflight <;> rcases preflight with rfl | rfl | rfl <;> simp

theorem allowOrigin_mem_corsHeaders_iff (cfg : CORSConfig) (origin value : String) :
    ("Access-Control-Allow-Origin", value) ∈ corsHeaders cfg origin ↔
      value ≠ "" ∧ allowOriginFor cfg origin = value := by
  unfold corsHeaders
  by_cases none : allowOriginFor cfg origin = "" <;> by_cases credentials : cfg.allowCredentials <;>
    by_cases exposed : ", ".intercalate cfg.exposeHeaders = "" <;> simp [none, credentials, exposed, eq_comm] <;>
    exact fun same => by rw [same]; exact none

theorem credentials_mem_corsHeaders_iff (cfg : CORSConfig) (origin : String) :
    ("Access-Control-Allow-Credentials", "true") ∈ corsHeaders cfg origin ↔ cfg.allowCredentials = true := by
  unfold corsHeaders
  by_cases none : allowOriginFor cfg origin = "" <;> by_cases credentials : cfg.allowCredentials <;>
    by_cases exposed : ", ".intercalate cfg.exposeHeaders = "" <;> simp [none, credentials, exposed]

/-- The answer allows every origin, `*`, together with credentials exactly when the
configuration allows every origin with credentials and the request's `Origin` is `*` itself. -/
theorem wildcard_with_credentials_iff (cfg : CORSConfig) (origin method : String) :
    ("Access-Control-Allow-Origin", "*") ∈ (corsWithConfig cfg origin method).1 ∧
        ("Access-Control-Allow-Credentials", "true") ∈ (corsWithConfig cfg origin method).1 ↔
      cfg.allowOrigins.any (· == "*") ∧ cfg.allowCredentials ∧ origin = "*" := by
  have notPreflight : ∀ call : String × String, call.1 = "Access-Control-Allow-Origin" ∨
      call.1 = "Access-Control-Allow-Credentials" → call ∉ preflightHeaders cfg := fun _ named preflight => by
    rcases mem_preflightHeaders preflight with same | same | same <;> rcases named with other | other <;>
      exact absurd (same.symm.trans other) (by decide)
  simp only [mem_corsWithConfig, notPreflight ("Access-Control-Allow-Origin", "*") (.inl rfl),
    notPreflight ("Access-Control-Allow-Credentials", "true") (.inr rfl), and_false, or_false,
    allowOrigin_mem_corsHeaders_iff, credentials_mem_corsHeaders_iff, allowOriginFor_eq_wildcard_iff]
  cases cfg.allowCredentials <;> simp

/-! ### `Access-Control-Max-Age` -/

theorem runeString_length (x : Int) : (runeString x).length = 1 := by
  unfold runeString
  dsimp only
  split
  · exact String.length_singleton _
  · rfl

theorem toDigitsCore_length_pos (base fuel n : Nat) : 0 < (Nat.toDigitsCore base (fuel + 1) n []).length := by
  simp only [Nat.toDigitsCore]
  split
  · exact Nat.one_pos
  · rw [Nat.toDigitsCore_lens_eq]
    exact Nat.succ_pos _

/-- The decimal text of a number of two digits or more has two characters or more. -/
theorem two_le_decimal_length {n : Nat} (large : 10 ≤ n) : 2 ≤ (toString n).length := by
  obtain ⟨fuel, rfl⟩ : ∃ fuel, n = fuel + 1 := ⟨n - 1, by omega⟩
  show 2 ≤ (Nat.toDigitsCore 10 (fuel + 1 + 1) (fuel + 1) []).length
  rw [Nat.toDigitsCore.eq_2, if_neg (by omega), Nat.toDigitsCore_lens_eq]
  exact Nat.succ_le_succ (toDigitsCore_length_pos _ _ _)

/-- The preflight's `Access-Control-Max-Age` is one character, the code point `MaxAge`, and is
never the decimal number of seconds it stands for. -/
theorem maxAgeHeader_ne_decimal (cfg : CORSConfig) (origin : String) (positive : 0 < cfg.maxAge) :
    ("Access-Control-Max-Age", runeString cfg.maxAge) ∈ (corsWithConfig cfg origin "OPTIONS").1 ∧
      runeString cfg.maxAge ≠ toString cfg.maxAge := by
  refine ⟨mem_corsWithConfig.mpr (.inr ⟨rfl, by simp [preflightHeaders, positive]⟩), fun same => ?_⟩
  obtain ⟨n, isNat⟩ := Int.eq_ofNat_of_zero_le (Int.le_of_lt positive)
  rw [isNat] at same positive
  change runeString n = toString n at same
  by_cases large : 10 ≤ n
  · have := two_le_decimal_length large
    rw [← same, runeString_length] at this
    omega
  · have differ : ∀ n < 10, runeString (n : Nat) ≠ toString n := by decide
    exact differ n (by omega) same

theorem maxAgeHeader_ne_decimal_default :
    ("Access-Control-Max-Age", runeString defaultCORSConfig.maxAge) ∈
        (corsWithConfig defaultCORSConfig "https://other.example" "OPTIONS").1 ∧
      runeString defaultCORSConfig.maxAge ≠ toString defaultCORSConfig.maxAge :=
  maxAgeHeader_ne_decimal defaultCORSConfig "https://other.example" (by decide)

end Goupter.Middleware
