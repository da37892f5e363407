import Goupter.Log.Regex

/-!
# The default masker

`DefaultMasker` of `src/unnamed/part_004`. `Mask(s)` runs the rules in order, each replacing
every match of its pattern in the text by its mask function's image of the match: the
mobile-number rule, the ID-card rule, the e-mail rule, then the bank-card rule, and the
rules `AddRule` appended. `MaskField(key, value)` looks the lower-cased key up in the
sensitive keys and masks a string value by the key's type. The rules' mask functions have
the bodies of `maskPhone`, `maskIDCard`, `maskEmail` and `maskBankCard`, and read the mask
character when they run, so `WithMaskChar` applies to them as well.

The mask functions measure and cut strings by bytes; here they count characters, which is
the same on ASCII text, and so on every match of the built-in patterns. Keys are lower-cased
character by character, as `strings.ToLower` does on ASCII.
-/

namespace Goupter.Log

/-- `SensitiveType`. -/
inductive SensitiveType where
  | phone
  | idCard
  | email
  | bankCard
  | password
  | token
  | custom
deriving DecidableEq, Repr

/-- `MaskRule`: the mask function is given the masker's mask character, then the match. -/
structure MaskRule where
  type : SensitiveType
  pattern : Regex
  maskFunc : List Char → List Char → List Char

/-- `DefaultMasker`, without its lock. -/
structure DefaultMasker where
  rules : List MaskRule
  sensitiveKeys : List Char → Option SensitiveType
  maskChar : List Char

/-- `strings.ToLower`. -/
def toLower (s : List Char) : List Char := s.map Char.toLower

/-- `strings.Repeat(s, count)`. -/
def repeatString (s : List Char) (count : Nat) : List Char := (List.replicate count s).flatten

@[simp] theorem repeatString_single (c : Char) (count : Nat) : repeatString [c] count = List.replicate count c := by
  induction count with
  | zero => rfl
  | succ count ih => rw [repeatString, List.replicate_succ, List.flatten_cons, ← repeatString, ih]; rfl

/-- `maskAll`: the mask character once per character. -/
def maskAll (maskChar s : List Char) : List Char := repeatString maskChar s.length

/-- `maskPhone`: the first 3 and the last 4 of 11 characters stay; any other length is
masked whole. -/
def maskPhone (maskChar s : List Char) : List Char :=
  if s.length ≠ 11 then maskAll maskChar s else s.take 3 ++ repeatString maskChar 4 ++ s.drop 7

/-- The body `maskIDCard` and `maskBankCard` share: the first 6 and the last 4 characters
stay; a text shorter than 10 is masked whole. -/
def maskKeepingEnds (maskChar s : List Char) : List Char :=
  if s.length < 10 then maskAll maskChar s
  else s.take 6 ++ repeatString maskChar (s.length - 10) ++ s.drop (s.length - 4)

/-- `maskIDCard`. -/
def maskIDCard (maskChar s : List Char) : List Char := maskKeepingEnds maskChar s

/-- `maskBankCard`. -/
def maskBankCard (maskChar s : List Char) : List Char := maskKeepingEnds maskChar s

/-- `maskEmail`: the first character and everything from the first `@` stay; with no `@`,
or one at the start, the text is masked whole. -/
def maskEmail (maskChar s : List Char) : List Char :=
  match s.findIdx? (· = '@') with
  | some (atIndex + 1) => s.take 1 ++ repeatString maskChar atIndex ++ s.drop (atIndex + 1)
  | _ => maskAll maskChar s

namespace CharClass

/-- `[3-9]`. -/
def threeToNine : CharClass := ⟨[('3', '9')]⟩

/-- `[\dXx]`. -/
def digitOrX : CharClass := ⟨[('0', '9'), ('X', 'X'), ('x', 'x')]⟩

/-- `[\w.-]`. -/
def wordDotDash : CharClass := ⟨[('0', '9'), ('A', 'Z'), ('_', '_'), ('a', 'z'), ('.', '.'), ('-', '-')]⟩

end CharClass

open CharClass Regex

/-- `1[3-9]\d{9}`. -/
def phonePattern : Regex := .seq (char (single '1')) (.seq (char threeToNine) (.rep digit 9 (some 9)))

/-- `\d{17}[\dXx]|\d{15}`. -/
def idCardPattern : Regex := .alt (.seq (.rep digit 17 (some 17)) (char digitOrX)) (.rep digit 15 (some 15))

/-- `[\w.-]+@[\w.-]+\.\w+`. -/
def emailPattern : Regex :=
  .seq (.rep wordDotDash 1 none)
    (.seq (char (single '@')) (.seq (.rep wordDotDash 1 none) (.seq (char (single '.')) (.rep word 1 none))))

/-- `\d{16,19}`. -/
def bankCardPattern : Regex := .rep digit 16 (some 19)

/-- `initRules`: mobile numbers, ID cards, e-mail addresses, bank cards, in that order. -/
def initRules : List MaskRule :=
  [⟨.phone, phonePattern, maskPhone⟩, ⟨.idCard, idCardPattern, maskIDCard⟩,
    ⟨.email, emailPattern, maskEmail⟩, ⟨.bankCard, bankCardPattern, maskBankCard⟩]

/-- The sensitive keys `NewDefaultMasker` starts with. -/
def defaultSensitiveKeys : List (String × SensitiveType) :=
  [("password", .password), ("passwd", .password), ("pwd", .password), ("secret", .password),
    ("token", .token), ("access_token", .token), ("refresh_token", .token), ("api_key", .token),
    ("apikey", .token), ("phone", .phone), ("mobile", .phone), ("tel", .phone),
    ("id_card", .idCard), ("idcard", .idCard), ("identity", .idCard), ("email", .email),
    ("mail", .email), ("bank_card", .bankCard), ("bankcard", .bankCard), ("card_no", .bankCard)]

/-- `MaskerOption`. -/
def MaskerOption := DefaultMasker → DefaultMasker

/-- `WithMaskChar(char)`. -/
def withMaskChar (char : List Char) : MaskerOption := fun m => { m with maskChar := char }

/-- `WithSensitiveKeys(keys)`: each key, lower-cased, gets its type. -/
def withSensitiveKeys (keys : List (List Char × SensitiveType)) : MaskerOption := fun m =>
  { m with sensitiveKeys := keys.foldl (fun lookup key k =>
      if k = toLower key.1 then some key.2 else lookup k) m.sensitiveKeys }

/-- `NewDefaultMasker(opts...)`: mask character `*`, the default keys and rules, then the
options in order. -/
def newDefaultMasker (opts : List MaskerOption) : DefaultMasker :=
  opts.foldl (fun m opt => opt m)
    ⟨initRules, fun key => (defaultSensitiveKeys.find? (·.1.toList = key)).map (·.2), ['*']⟩

namespace DefaultMasker

/-- `Mask(s)`: every rule in turn replaces each match of its pattern. -/
def mask (m : DefaultMasker) (s : List Char) : List Char :=
  m.rules.foldl (fun result rule => rule.pattern.replaceAllStringFunc (rule.maskFunc m.maskChar) result) s

/-- A field value: a Go string, or a value of another type. -/
inductive FieldValue (α : Type) where
  | str (s : List Char)
  | other (value : α)
deriving DecidableEq, Repr

/-- `MaskField(key, value)`: a value under a key that is not sensitive, or that is not a
string, is returned as it is; passwords and tokens become eight mask characters; the other
types are masked by their own function, and a custom type whole. -/
def maskField {α : Type} (m : DefaultMasker) (key : List Char) (value : FieldValue α) : FieldValue α :=
  match m.sensitiveKeys (toLower key), value with
  | none, value => value
  | some _, .other value => .other value
  | some type, .str s =>
    .str <| match type with
      | .password | .token => repeatString m.maskChar 8
      | .phone => maskPhone m.maskChar s
      | .idCard => maskIDCard m.maskChar s
      | .email => maskEmail m.maskChar s
      | .bankCard => maskBankCard m.maskChar s
      | .custom => maskAll m.maskChar s

/-- `AddRule(pattern, maskFunc)`, for a pattern that compiles. -/
def addRule (m : DefaultMasker) (pattern : Regex) (maskFunc : List Char → List Char) : DefaultMasker :=
  { m with rules := m.rules ++ [⟨.custom, pattern, fun _ => maskFunc⟩] }

end DefaultMasker

end Goupter.Log
