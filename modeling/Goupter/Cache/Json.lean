import Goupter.Cache.Errors

/-!
# Stored documents and destination types

Every store of the cache package keeps a value as the output of `json.Marshal`, and
hands it back through `json.Unmarshal` into a destination the caller chooses. A stored
value is therefore a JSON document, `Json`. Number literals are kept as written, as
`mantissa * 10 ^ exponent`: Go writes an `int64` with exponent zero, and only such a
literal decodes into an integer variable.

Decoding into `interface{}` (`Codec.any`, and the values of `MGet`) fails in two ways on
documents that `json.Marshal` can write: a number whose magnitude `strconv.ParseFloat`
rounds past the largest `float64` (a `big.Int` of 309 digits, a `json.Number` such as
`1e400`), and nesting deeper than the 10000 levels of the decoder's scanner. Otherwise the
decoded value is returned as the document itself: the rounding of long literals to
`float64`, and the merging of an object's repeated keys into a Go map, are not modelled.

A destination type is a `Codec`: how `json.Unmarshal` changes a variable of the type
(possibly also when it fails) and how `json.Marshal` writes the variable back.
`Json.render` is the text of a document, which the network tier stores verbatim.
-/

namespace Goupter.Cache

/-- JSON documents. -/
inductive Json where
  | null
  | bool (b : Bool)
  | number (mantissa : Int) (exponent : Int)
  | string (s : String)
  | array (items : List Json)
  | object (fields : List (String × Json))
deriving Repr, Inhabited

namespace Json

mutual
/-- Decidable equality of documents (nested inductives get no derived instance). -/
def decEq : (a b : Json) → Decidable (a = b)
  | null, null => isTrue rfl
  | bool a, bool b =>
      if h : a = b then isTrue (h ▸ rfl) else isFalse fun e => h (by cases e; rfl)
  | number m e, number m' e' =>
      if h : m = m' ∧ e = e' then isTrue (by rw [h.1, h.2])
      else isFalse fun e => h (by cases e; exact ⟨rfl, rfl⟩)
  | string s, string s' =>
      if h : s = s' then isTrue (h ▸ rfl) else isFalse fun e => h (by cases e; rfl)
  | array xs, array ys =>
      match decEqItems xs ys with
      | isTrue h => isTrue (h ▸ rfl)
      | isFalse h => isFalse fun e => h (by cases e; rfl)
  | object xs, object ys =>
      match decEqFields xs ys with
      | isTrue h => isTrue (h ▸ rfl)
      | isFalse h => isFalse fun e => h (by cases e; rfl)
  | null, bool _ | null, number .. | null, string _ | null, array _ | null, object _
  | bool _, null | bool _, number .. | bool _, string _ | bool _, array _ | bool _, object _
  | number .., null | number .., bool _ | number .., string _ | number .., array _
  | number .., object _ | string _, null | string _, bool _ | string _, number ..
  | string _, array _ | string _, object _ | array _, null | array _, bool _
  | array _, number .. | array _, string _ | array _, object _ | object _, null
  | object _, bool _ | object _, number .. | object _, string _ | object _, array _ =>
      isFalse fun e => by cases e
/-- Decidable equality of arrays of documents. -/
def decEqItems : (a b : List Json) → Decidable (a = b)
  | [], [] => isTrue rfl
  | [], _ :: _ | _ :: _, [] => isFalse fun e => by cases e
  | x :: xs, y :: ys =>
      match decEq x y, decEqItems xs ys with
      | isTrue h, isTrue h' => isTrue (by rw [h, h'])
      | isFalse h, _ => isFalse fun e => h (by cases e; rfl)
      | _, isFalse h => isFalse fun e => h (by cases e; rfl)
/-- Decidable equality of the fields of objects. -/
def decEqFields : (a b : List (String × Json)) → Decidable (a = b)
  | [], [] => isTrue rfl
  | [], _ :: _ | _ :: _, [] => isFalse fun e => by cases e
  | (k, x) :: xs, (k', y) :: ys =>
      if hk : k = k' then
        match decEq x y, decEqFields xs ys with
        | isTrue h, isTrue h' => isTrue (by rw [hk, h, h'])
        | isFalse h, _ => isFalse fun e => h (by cases e; rfl)
        | _, isFalse h => isFalse fun e => h (by cases e; rfl)
      else isFalse fun e => hk (by cases e; rfl)
end

instance : DecidableEq Json := decEq

/-- One character of a string literal, escaped as `encoding/json` writes it. -/
def escapeChar (c : Char) : String :=
  if c = '"' then "\\\"" else if c = '\\' then "\\\\"
  else if c = '\n' then "\\n" else if c = '\r' then "\\r" else if c = '\t' then "\\t"
  else if c = '<' then "\\u003c" else if c = '>' then "\\u003e" else if c = '&' then "\\u0026"
  else if c.toNat < 32 then
    "\\u00" ++ (Nat.toDigits 16 (c.toNat / 16)).asString ++ (Nat.toDigits 16 (c.toNat % 16)).asString
  else c.toString

/-- A number literal: the integer form for exponent zero, a decimal point for a
negative exponent, and Go's `e+` form for a positive one. -/
def renderNumber (mantissa exponent : Int) : String :=
  if exponent = 0 then toString mantissa
  else if 0 < exponent then toString mantissa ++ "e+" ++ toString exponent
  else
    let digits := Nat.repr mantissa.natAbs
    let places := exponent.natAbs
    let padded := "".pushn '0' (places + 1 - digits.length) ++ digits
    (if mantissa < 0 then "-" else "") ++ padded.dropRight places ++ "." ++ padded.takeRight places

mutual
/-- The text of a document, as `json.Marshal` writes it. -/
def render : Json → String
  | null => "null"
  | bool b => if b then "true" else "false"
  | number m e => renderNumber m e
  | string s => "\"" ++ String.join (s.toList.map escapeChar) ++ "\""
  | array items => "[" ++ renderItems items ++ "]"
  | object fields => "\x7b" ++ renderFields fields ++ "\x7d"
/-- The comma-separated items of an array. -/
def renderItems : List Json → String
  | [] => ""
  | [item] => render item
  | item :: items => render item ++ "," ++ renderItems items
/-- The comma-separated `"key":value` fields of an object. -/
def renderFields : List (String × Json) → String
  | [] => ""
  | [(key, value)] => render (string key) ++ ":" ++ render value
  | (key, value) :: fields => render (string key) ++ ":" ++ render value ++ "," ++ renderFields fields
end

end Json

/-- A Go destination type as `encoding/json` treats it. `unmarshal data v` is the
content of the variable after `json.Unmarshal(data, &v)` and the error it returned;
`marshal v` is `json.Marshal(v)`. Both fail only with errors of `encoding/json`. -/
structure Codec (α : Type) where
  unmarshal : Json → α → α × Option Error
  marshal : α → Except Error Json
  unmarshal_fails_json : ∀ data v err, (unmarshal data v).2 = some err → ∃ message, err = .json message
  marshal_fails_json : ∀ v err, marshal v = .error err → ∃ message, err = .json message

/-- `2^1024 - 2^970`, the magnitude from which `strconv.ParseFloat` rounds a decimal to
infinity and fails with `ErrRange`: the largest `float64` is `2^1024 - 2^971`, and the
midpoint above it rounds to even, up. -/
def float64Limit : Nat :=
  179769313486231580793728971405303415079934132710037826936173778980444968292764750946649017977587207096330286416692887910946555547851940402630657488671505820681908902000708383676273854845817711531764475730270069855571366959622842914819860834936475292719074168444365510704342711559699508093042880177904174497792

namespace Json

/-- Whether `strconv.ParseFloat(literal, 64)` fails with `ErrRange` on the literal
`mantissa * 10 ^ exponent`. -/
def overflowsFloat64 (mantissa exponent : Int) : Bool :=
  if 0 ≤ exponent then decide (float64Limit ≤ mantissa.natAbs * Nat.pow 10 exponent.toNat)
  else decide (float64Limit * Nat.pow 10 (-exponent).toNat ≤ mantissa.natAbs)

mutual
/-- The bracket of the first array or object, in document order, that the scanner of
`encoding/json` refuses for opening a 10001st level, given the levels `depth` open
around the document. -/
def tooDeep (depth : Nat) : Json → Option Char
  | array items => if 10000 ≤ depth then some '[' else tooDeepItems (depth + 1) items
  | object fields => if 10000 ≤ depth then some '{' else tooDeepFields (depth + 1) fields
  | null | bool _ | number .. | string _ => none
/-- The first bracket past the limit among the items of an array. -/
def tooDeepItems (depth : Nat) : List Json → Option Char
  | [] => none
  | item :: items => (tooDeep depth item).orElse fun _ => tooDeepItems depth items
/-- The first bracket past the limit among the values of an object. -/
def tooDeepFields (depth : Nat) : List (String × Json) → Option Char
  | [] => none
  | (_, value) :: fields => (tooDeep depth value).orElse fun _ => tooDeepFields depth fields
end

mutual
/-- The first number literal, in document order, that does not fit a `float64`. -/
def firstOverflow : Json → Option (Int × Int)
  | number m e => if overflowsFloat64 m e then some (m, e) else none
  | array items => firstOverflowItems items
  | object fields => firstOverflowFields fields
  | null | bool _ | string _ => none
/-- The first such literal among the items of an array. -/
def firstOverflowItems : List Json → Option (Int × Int)
  | [] => none
  | item :: items => (firstOverflow item).orElse fun _ => firstOverflowItems items
/-- The first such literal among the values of an object. -/
def firstOverflowFields : List (String × Json) → Option (Int × Int)
  | [] => none
  | (_, value) :: fields => (firstOverflow value).orElse fun _ => firstOverflowFields fields
end

mutual
/-- What the decoder stores for a document inside an array or an object: a number that
does not fit a `float64` becomes `nil`, and decoding goes on. -/
def dropOverflows : Json → Json
  | number m e => if overflowsFloat64 m e then null else number m e
  | array items => array (dropOverflowsItems items)
  | object fields => object (dropOverflowsFields fields)
  | null => null
  | bool b => bool b
  | string s => string s
/-- `dropOverflows` on the items of an array. -/
def dropOverflowsItems : List Json → List Json
  | [] => []
  | item :: items => dropOverflows item :: dropOverflowsItems items
/-- `dropOverflows` on the values of an object. -/
def dropOverflowsFields : List (String × Json) → List (String × Json)
  | [] => []
  | (key, value) :: fields => (key, dropOverflows value) :: dropOverflowsFields fields
end

/-- Whether `json.Unmarshal` decodes the document into `interface{}` without error. -/
def decodesAny (data : Json) : Bool := (tooDeep 0 data).isNone && (firstOverflow data).isNone

end Json

/-- The `interface{}` destination. The scanner's check of the whole input comes first: a
document nested too deep is a `SyntaxError` and the variable is left as it was. Then a
number that does not fit a `float64` is an `UnmarshalTypeError`, the first one is
returned, and the variable becomes the document with such numbers as `nil`, or is left
as it was when the document is that number. Otherwise the variable is the document. -/
def Codec.any : Codec Json where
  unmarshal data v :=
    match data.tooDeep 0 with
    | some bracket => (v, some (.json ("invalid character '" ++ bracket.toString ++ "' exceeded max depth")))
    | none =>
      match data.firstOverflow with
      | none => (data, none)
      | some (m, e) =>
        ((match data with
          | .number .. => v
          | _ => data.dropOverflows),
          some (.json ("json: cannot unmarshal number " ++ Json.renderNumber m e ++
            " into Go value of type float64")))
  marshal v := .ok v
  unmarshal_fails_json data v err h := by
    simp only at h
    split at h
    · exact ⟨_, (Option.some.inj h).symm⟩
    · split at h
      · cases h
      · exact ⟨_, (Option.some.inj h).symm⟩
  marshal_fails_json _ _ h := by simp at h

theorem Codec.any_unmarshal_of_decodesAny {data : Json} (decodes : data.decodesAny = true) (v : Json) :
    Codec.any.unmarshal data v = (data, none) := by
  simp only [Json.decodesAny, Bool.and_eq_true, Option.isNone_iff_eq_none] at decodes
  simp [Codec.any, decodes.1, decodes.2]

theorem Codec.any_unmarshal_error_iff (data v : Json) :
    (Codec.any.unmarshal data v).2 = none ↔ data.decodesAny = true := by
  constructor
  · intro decoded
    simp only [Codec.any] at decoded
    simp only [Json.decodesAny, Bool.and_eq_true, Option.isNone_iff_eq_none]
    split at decoded
    · cases decoded
    · rename_i shallow
      split at decoded
      · exact ⟨shallow, ‹_›⟩
      · cases decoded
  · intro decodes
    rw [Codec.any_unmarshal_of_decodesAny decodes]

/-- The `interface{}` destination encodes back every document it decodes without error. -/
theorem Codec.any_roundTrip (data v : Json) (decoded : (Codec.any.unmarshal data v).2 = none) :
    Codec.any.marshal (Codec.any.unmarshal data v).1 = .ok data := by
  rw [Codec.any_unmarshal_of_decodesAny ((Codec.any_unmarshal_error_iff data v).mp decoded)]
  rfl

/-- The bounds of Go's `int64`: `-2^63`. -/
def minInt64 : Int := -9223372036854775808

/-- The bounds of Go's `int64`: `2^63 - 1`. -/
def maxInt64 : Int := 9223372036854775807

/-- Go's `int64` arithmetic: an integer reduced to 64-bit two's complement, modulo `2^64`. -/
def wrapInt64 (x : Int) : Int := (x + 9223372036854775808) % 18446744073709551616 - 9223372036854775808

/-- The `int64` destination: `strconv.ParseInt` of a literal with no fraction or
exponent part, in range; `null` leaves the variable unchanged; anything else is an
`UnmarshalTypeError` that leaves it unchanged too. -/
def Codec.int64 : Codec Int where
  unmarshal
    | .null, v => (v, none)
    | .number m e, v =>
        if e = 0 ∧ minInt64 ≤ m ∧ m ≤ maxInt64 then (m, none)
        else (v, some (.json "json: cannot unmarshal number into Go value of type int64"))
    | _, v => (v, some (.json "json: cannot unmarshal into Go value of type int64"))
  marshal n := .ok (.number n 0)
  unmarshal_fails_json
    | .null, _, _, h => by simp at h
    | .number m e, _, _, h => by
        dsimp only at h
        split at h
        · simp at h
        · simp at h
          exact ⟨_, h.symm⟩
    | .bool _, _, _, h | .string _, _, _, h | .array _, _, _, h | .object _, _, _, h => by
        simp at h
        exact ⟨_, h.symm⟩
  marshal_fails_json _ _ h := by simp at h

@[simp] theorem wrapInt64_of_inRange {x : Int} (lower : minInt64 ≤ x) (upper : x ≤ maxInt64) :
    wrapInt64 x = x := by
  unfold wrapInt64 minInt64 maxInt64 at *
  omega

theorem wrapInt64_inRange (x : Int) : minInt64 ≤ wrapInt64 x ∧ wrapInt64 x ≤ maxInt64 := by
  unfold wrapInt64 minInt64 maxInt64
  omega

end Goupter.Cache
