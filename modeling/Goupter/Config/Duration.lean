/-!
# Parsing durations

`time.ParseDuration` of Go's standard library, which `validateConsul` of
`src/pkg/config/validator.go` calls on the interval and the timeout of the service's health
check, and `RequestTimeout` of `src/pkg/server/middleware/timeout.go` on the
`X-Request-Timeout` header. A duration is an optional sign and one or more numbers, each with
an optional fraction and a unit among `ns`, `us`, `µs`, `μs`, `ms`, `s`, `m` and `h`; `0`
alone is zero. The value is counted in nanoseconds in a `uint64`, and a duration beyond the
`int64` range is refused, except that the sum of the numbers can wrap around `2^64` without
being noticed, as Go's `d += v` does.

The text is read as characters. Go reads bytes, but every test it makes is on an ASCII byte
(a sign, `.`, a digit), and the bytes of any other character are none of these, so on the
UTF-8 text of a Go string the two readings cut it at the same places.

Go computes the nanoseconds a fraction adds as `float64(f) * (float64(unit) / scale)` and
truncates; here the quotient `f * unit / scale` is exact and rounded down. A fraction adds less
than one `unit`, at most an hour, so the two differ by at most one nanosecond, and only when
the exact value is within a thousandth of a nanosecond of a whole one. The texts of the errors
are not modelled; the callers here only ask whether there is one.
-/

namespace Goupter.Configuration

/-- The errors of `ParseDuration`: `time: invalid duration`, `time: missing unit in duration`
and `time: unknown unit ... in duration`. -/
inductive DurationError where
  | invalid
  | missingUnit
  | unknownUnit (unit : List Char)
deriving DecidableEq, Repr

/-- `1<<63`. -/
def twoPow63 : Nat := 9223372036854775808

/-- `2^64`, the modulus of `uint64` arithmetic. -/
def twoPow64 : Nat := 18446744073709551616

/-- `unitMap`: each unit and its nanoseconds. -/
def unitMap : List (String × Nat) :=
  [("ns", 1), ("us", 1000), ("µs", 1000), ("μs", 1000), ("ms", 1000000), ("s", 1000000000),
    ("m", 60000000000), ("h", 3600000000000)]

/-- `unitMap[u]`. -/
def unitOf (u : List Char) : Option Nat := (unitMap.find? (·.1.toList = u)).map (·.2)

/-- The value of a digit. -/
def digitValue (c : Char) : Nat := c.toNat - '0'.toNat

/-- `leadingInt`: the leading `[0-9]*` as a number, from `x`, and the rest; an error as soon
as the number passes `1<<63`. -/
def leadingInt (x : Nat) : List Char → Except Unit (Nat × List Char)
  | [] => .ok (x, [])
  | c :: s =>
    if c.isDigit then
      if x > twoPow63 / 10 then .error ()
      else if x * 10 + digitValue c > twoPow63 then .error ()
      else leadingInt (x * 10 + digitValue c) s
    else .ok (x, c :: s)

/-- `leadingFraction`: the leading `[0-9]*` as a number `x` with its `scale`, a power of ten;
once the number would pass `1<<63` the digits are skipped and no longer counted. -/
def leadingFraction (x scale : Nat) (overflow : Bool) : List Char → Nat × Nat × List Char
  | [] => (x, scale, [])
  | c :: s =>
    if c.isDigit then
      if overflow then leadingFraction x scale true s
      else if x > (twoPow63 - 1) / 10 then leadingFraction x scale true s
      else if x * 10 + digitValue c > twoPow63 then leadingFraction x scale true s
      else leadingFraction (x * 10 + digitValue c) (scale * 10) false s
    else (x, scale, c :: s)

/-- `(\.[0-9]*)?`: the fraction, its scale, the rest, and whether a digit followed the point. -/
def fraction (s : List Char) : Nat × Nat × List Char × Bool :=
  match s with
  | '.' :: rest =>
    let (f, scale, after) := leadingFraction 0 1 false rest
    (f, scale, after, decide (after.length ≠ rest.length))
  | _ => (0, 1, s, false)

/-- A character that ends a unit: `c == '.' || '0' <= c && c <= '9'`. -/
def endsUnit (c : Char) : Bool := c = '.' || c.isDigit

/-- The unit after a number, the number in nanoseconds with its fraction, and the checks
that it stays within `1<<63`; then the rest of the text. -/
def scaleByUnit (v f scale : Nat) (s : List Char) : Except DurationError (Nat × List Char) :=
  let u := s.takeWhile (!endsUnit ·)
  let rest := s.dropWhile (!endsUnit ·)
  if u = [] then .error .missingUnit
  else
    match unitOf u with
    | none => .error (.unknownUnit u)
    | some unit =>
      if v > twoPow63 / unit then .error .invalid
      else if f > 0 ∧ v * unit + f * unit / scale > twoPow63 then .error .invalid
      else .ok (if f > 0 then v * unit + f * unit / scale else v * unit, rest)

/-- The body of the loop of `ParseDuration`, up to `d += v`: the next number with its
fraction and unit, in nanoseconds, and the rest of the text. The loop runs while the text
is not empty. -/
def component (s : List Char) : Except DurationError (Nat × List Char) :=
  match s with
  | [] => .error .invalid
  | c :: _ =>
    if !endsUnit c then .error .invalid
    else
      match leadingInt 0 s with
      | .error () => .error .invalid
      | .ok (v, afterInt) =>
        let pre := decide (afterInt.length ≠ s.length)
        let (f, scale, afterFraction, post) := fraction afterInt
        if !pre && !post then .error .invalid
        else scaleByUnit v f scale afterFraction

theorem leadingInt_rest_length {x v : Nat} {s rest : List Char} (parsed : leadingInt x s = .ok (v, rest)) :
    rest.length ≤ s.length := by
  induction s generalizing x with
  | nil => cases parsed; exact Nat.le_refl _
  | cons c s ih =>
    unfold leadingInt at parsed
    split at parsed
    · split at parsed
      · cases parsed
      · split at parsed
        · cases parsed
        · exact Nat.le_succ_of_le (ih parsed)
    · cases parsed; exact Nat.le_refl _

theorem leadingFraction_rest_length (x scale : Nat) (overflow : Bool) (s : List Char) :
    (leadingFraction x scale overflow s).2.2.length ≤ s.length := by
  induction s generalizing x scale overflow with
  | nil => exact Nat.le_refl _
  | cons c s ih =>
    unfold leadingFraction
    split
    · split
      · exact Nat.le_succ_of_le (ih ..)
      · split
        · exact Nat.le_succ_of_le (ih ..)
        · split
          · exact Nat.le_succ_of_le (ih ..)
          · exact Nat.le_succ_of_le (ih ..)
    · exact Nat.le_refl _

theorem fraction_rest_length (s : List Char) : (fraction s).2.2.1.length ≤ s.length := by
  unfold fraction
  split
  · exact Nat.le_succ_of_le (leadingFraction_rest_length ..)
  · exact Nat.le_refl _

theorem scaleByUnit_rest_length {v f scale x : Nat} {s rest : List Char}
    (parsed : scaleByUnit v f scale s = .ok (x, rest)) : rest.length < s.length := by
  unfold scaleByUnit at parsed
  dsimp only at parsed
  split at parsed
  · cases parsed
  · rename_i nonEmpty
    have dropped : rest = s.dropWhile (!endsUnit ·) := by
      split at parsed
      · cases parsed
      · split at parsed
        · cases parsed
        · split at parsed
          · cases parsed
          · cases parsed
            rfl
    have whole := congrArg List.length (List.takeWhile_append_dropWhile (!endsUnit ·) s)
    rw [List.length_append, ← dropped] at whole
    have := List.length_pos.mpr nonEmpty
    omega

/-- Each pass of the loop reads at least one character: the unit is not empty. -/
theorem component_rest_length {s rest : List Char} {v : Nat} (parsed : component s = .ok (v, rest)) :
    rest.length < s.length := by
  unfold component at parsed
  split at parsed
  · cases parsed
  · split at parsed
    · cases parsed
    · split at parsed
      · cases parsed
      · rename_i afterInt int
        have afterLength := fraction_rest_length afterInt
        split at parsed
        rename_i fractionOf
        dsimp only at parsed
        split at parsed
        · cases parsed
        · rw [fractionOf] at afterLength
          have := scaleByUnit_rest_length parsed
          have := leadingInt_rest_length int
          simp only at afterLength
          omega

/-- The loop of `ParseDuration`: each pass adds its number to `d`, in `uint64` arithmetic,
and refuses a sum beyond `1<<63`. -/
def parseLoop (d : Nat) (s : List Char) : Except DurationError Nat :=
  if s = [] then .ok d
  else
    match _parsed : component s with
    | .error e => .error e
    | .ok (v, rest) =>
      if (d + v) % twoPow64 > twoPow63 then .error .invalid
      else parseLoop ((d + v) % twoPow64) rest
termination_by s.length
decreasing_by exact component_rest_length _parsed

/-- `[-+]?`: whether the text starts with `-`, and the text after the sign. -/
def consumeSign : List Char → Bool × List Char
  | '-' :: rest => (true, rest)
  | '+' :: rest => (false, rest)
  | s => (false, s)

/-- `ParseDuration(s)`, in nanoseconds. -/
def parseDuration (s : String) : Except DurationError Int :=
  let (neg, body) := consumeSign s.toList
  if body = ['0'] then .ok 0
  else if body = [] then .error .invalid
  else
    match parseLoop 0 body with
    | .error e => .error e
    | .ok d => if neg then .ok (-(d : Int)) else if d > twoPow63 - 1 then .error .invalid else .ok d

theorem parseLoop_nil (d : Nat) : parseLoop d [] = .ok d := by
  rw [parseLoop]
  rfl

theorem parseLoop_of_component {d v : Nat} {s rest : List Char} (nonEmpty : s ≠ [])
    (parsed : component s = .ok (v, rest)) :
    parseLoop d s =
      if (d + v) % twoPow64 > twoPow63 then .error .invalid else parseLoop ((d + v) % twoPow64) rest := by
  rw [parseLoop, if_neg nonEmpty]
  split <;> rename_i found <;> rw [found] at parsed <;> cases parsed
  rfl

theorem parseLoop_of_component_error {d : Nat} {s : List Char} {e : DurationError} (nonEmpty : s ≠ [])
    (parsed : component s = .error e) : parseLoop d s = .error e := by
  rw [parseLoop, if_neg nonEmpty]
  split <;> rename_i found <;> rw [found] at parsed <;> cases parsed
  rfl

/-! ### Reading a count of one unit -/

/-- The number a list of digits writes in decimal, after the digits of `x`. -/
def digitsValue (x : Nat) (ds : List Char) : Nat := ds.foldl (fun x c => x * 10 + digitValue c) x

theorem le_digitsValue (x : Nat) (ds : List Char) : x ≤ digitsValue x ds := by
  induction ds generalizing x with
  | nil => exact Nat.le_refl _
  | cons d ds ih => exact Nat.le_trans (by omega) (ih (x * 10 + digitValue d))

/-- `leadingInt` reads the whole run of digits and gives the number it writes, or fails
exactly when that number passes `1<<63`. -/
theorem leadingInt_digits {x : Nat} {ds rest : List Char} (digits : ∀ c ∈ ds, c.isDigit)
    (stops : ∀ c ∈ rest.head?, c.isDigit = false) (small : x ≤ twoPow63) :
    leadingInt x (ds ++ rest) = if digitsValue x ds ≤ twoPow63 then .ok (digitsValue x ds, rest) else .error () := by
  induction ds generalizing x with
  | nil =>
    rw [List.nil_append, digitsValue, List.foldl_nil, if_pos small]
    cases rest with
    | nil => rfl
    | cons c rest => simp [leadingInt, stops c rfl]
  | cons d ds ih =>
    have digit := digits d (List.mem_cons_self _ _)
    have grows := le_digitsValue (x * 10 + digitValue d) ds
    rw [List.cons_append, leadingInt.eq_2, if_pos digit]
    by_cases fits : x ≤ twoPow63 / 10 ∧ x * 10 + digitValue d ≤ twoPow63
    · rw [if_neg (by omega), if_neg (by omega), ih (fun c mem => digits c (List.mem_cons_of_mem _ mem)) fits.2]
      rfl
    · have over : ¬digitsValue x (d :: ds) ≤ twoPow63 := by
        simp only [digitsValue, List.foldl_cons] at grows ⊢
        omega
      rw [if_neg over]
      split
      · rfl
      · rw [if_pos (by omega)]

/-- The characters of a unit, none of which ends it. -/
theorem unitMap_chars {u : String} {ns : Nat} (unit : (u, ns) ∈ unitMap) :
    u.toList ≠ [] ∧ (∀ c ∈ u.toList, endsUnit c = false) ∧ unitOf u.toList = some ns ∧ 0 < ns := by
  simp only [unitMap, List.mem_cons, Prod.mk.injEq, List.mem_nil_iff, or_false] at unit
  rcases unit with ⟨rfl, rfl⟩ | ⟨rfl, rfl⟩ | ⟨rfl, rfl⟩ | ⟨rfl, rfl⟩ | ⟨rfl, rfl⟩ | ⟨rfl, rfl⟩ | ⟨rfl, rfl⟩ |
    ⟨rfl, rfl⟩ <;> decide

theorem scaleByUnit_unit {v ns : Nat} {u : String} {rest : List Char} (unit : (u, ns) ∈ unitMap)
    (stops : ∀ c ∈ rest.head?, endsUnit c = true) :
    scaleByUnit v 0 1 (u.toList ++ rest) = if v * ns ≤ twoPow63 then .ok (v * ns, rest) else .error .invalid := by
  obtain ⟨unitNonEmpty, unitChars, found, positive⟩ := unitMap_chars unit
  have inUnit : ∀ c ∈ u.toList, (!endsUnit c) = true := fun c mem => by simp [unitChars c mem]
  have unitOnly : rest.takeWhile (!endsUnit ·) = [] ∧ rest.dropWhile (!endsUnit ·) = rest := by
    cases rest with
    | nil => exact ⟨rfl, rfl⟩
    | cons c rest =>
      have ends := stops c rfl
      exact ⟨List.takeWhile_cons_of_neg (by simp [ends]), List.dropWhile_cons_of_neg (by simp [ends])⟩
  have divided : v > twoPow63 / ns ↔ ¬v * ns ≤ twoPow63 := by
    rw [Nat.not_le, gt_iff_lt, Nat.div_lt_iff_lt_mul positive]
  simp only [scaleByUnit, List.takeWhile_append_of_pos inUnit, List.dropWhile_append_of_pos inUnit, unitOnly.1,
    unitOnly.2, List.append_nil, if_neg unitNonEmpty, found, Nat.lt_irrefl, false_and, if_false, divided]
  by_cases fits : v * ns ≤ twoPow63 <;> simp [fits]

theorem fraction_of_not_point {c : Char} {cs : List Char} (notPoint : c ≠ '.') :
    fraction (c :: cs) = (0, 1, c :: cs, false) := by
  unfold fraction
  split
  · rename_i point; cases point; exact absurd rfl notPoint
  · rfl

/-- A run of digits and a unit, before the rest of the text, is the number times the unit,
when that is within `1<<63`. -/
theorem component_count_unit {ds rest : List Char} {u : String} {ns : Nat} (unit : (u, ns) ∈ unitMap)
    (nonEmpty : ds ≠ []) (digits : ∀ c ∈ ds, c.isDigit) (stops : ∀ c ∈ rest.head?, endsUnit c = true) :
    component (ds ++ u.toList ++ rest) =
      if digitsValue 0 ds * ns ≤ twoPow63 then .ok (digitsValue 0 ds * ns, rest) else .error .invalid := by
  obtain ⟨unitNonEmpty, unitChars, -, positive⟩ := unitMap_chars unit
  obtain ⟨d, ds', rfl⟩ := List.exists_cons_of_ne_nil nonEmpty
  obtain ⟨c, cs, unitText⟩ := List.exists_cons_of_ne_nil unitNonEmpty
  have first := unitChars c (unitText ▸ List.mem_cons_self c cs)
  simp only [endsUnit, Bool.or_eq_false_iff, decide_eq_false_iff_not] at first
  have read := @leadingInt_digits 0 _ (u.toList ++ rest) digits
    (by rw [unitText]; intro x mem; cases mem; exact first.2) (Nat.zero_le _)
  have leading : endsUnit d = true := by simp [endsUnit, digits d (List.mem_cons_self _ _)]
  rw [List.append_assoc]
  unfold component
  rw [read]
  by_cases fits : digitsValue 0 (d :: ds') ≤ twoPow63
  · have longer : (u.toList ++ rest).length ≠ (d :: (ds' ++ (u.toList ++ rest))).length := by
      simp only [List.length_append, List.length_cons]
      omega
    have noFraction : fraction (u.toList ++ rest) = (0, 1, u.toList ++ rest, false) := by
      rw [unitText]
      exact fraction_of_not_point first.1
    simp only [List.cons_append, leading, Bool.not_true, Bool.false_eq_true, if_false, if_pos fits, noFraction,
      longer, ne_eq, not_false_eq_true, decide_True, Bool.false_and]
    exact scaleByUnit_unit unit stops
  · have over : ¬digitsValue 0 (d :: ds') * ns ≤ twoPow63 := fun within =>
      fits (Nat.le_trans (Nat.le_mul_of_pos_right _ positive) within)
    simp only [List.cons_append, leading, Bool.not_true, Bool.false_eq_true, if_false, if_neg fits, if_neg over]

/-- The loop reads a decimal count and a unit as that many of the unit's nanoseconds when
that is within `1<<63`, and refuses it otherwise. -/
theorem parseLoop_count_unit {ds : List Char} {u : String} {ns : Nat} (unit : (u, ns) ∈ unitMap)
    (nonEmpty : ds ≠ []) (digits : ∀ c ∈ ds, c.isDigit) :
    parseLoop 0 (ds ++ u.toList) =
      if digitsValue 0 ds * ns ≤ twoPow63 then .ok (digitsValue 0 ds * ns) else .error .invalid := by
  have read := @component_count_unit _ [] _ _ unit nonEmpty digits (fun _ none => by cases none)
  rw [List.append_nil] at read
  have notEmpty : ds ++ u.toList ≠ [] := by simp [nonEmpty]
  by_cases fits : digitsValue 0 ds * ns ≤ twoPow63
  · rw [if_pos fits] at read
    have stays : (0 + digitsValue 0 ds * ns) % twoPow64 = digitsValue 0 ds * ns := by
      unfold twoPow63 twoPow64 at *
      omega
    rw [parseLoop_of_component notEmpty read, stays, if_neg (Nat.not_lt.mpr fits), parseLoop_nil, if_pos fits]
  · rw [if_neg fits] at read
    rw [parseLoop_of_component_error notEmpty read, if_neg fits]

/-- A count and a unit is neither the text `0` nor empty. -/
theorem count_unit_ne {ds : List Char} {u : String} {ns : Nat} (unit : (u, ns) ∈ unitMap) (nonEmpty : ds ≠ []) :
    ds ++ u.toList ≠ ['0'] ∧ ds ++ u.toList ≠ [] := by
  obtain ⟨unitNonEmpty, -, -, -⟩ := unitMap_chars unit
  refine ⟨fun single => ?_, by simp [nonEmpty]⟩
  have lengths := congrArg List.length single
  have := List.length_pos.mpr unitNonEmpty
  have := List.length_pos.mpr nonEmpty
  simp only [List.length_append, List.length_cons, List.length_nil] at lengths
  omega

/-- A decimal count and a unit is that many of the unit's nanoseconds when that is below
`2^63`, and is refused otherwise. -/
theorem parseDuration_count_unit {ds : List Char} {u : String} {ns : Nat} (unit : (u, ns) ∈ unitMap)
    (nonEmpty : ds ≠ []) (digits : ∀ c ∈ ds, c.isDigit) :
    parseDuration (String.mk (ds ++ u.toList)) =
      if digitsValue 0 ds * ns < twoPow63 then .ok (digitsValue 0 ds * ns : Nat) else .error .invalid := by
  obtain ⟨d, ds', rfl⟩ := List.exists_cons_of_ne_nil nonEmpty
  have unsigned : consumeSign (d :: ds' ++ u.toList) = (false, d :: ds' ++ u.toList) := by
    have digit := digits d (List.mem_cons_self _ _)
    unfold consumeSign
    split
    · rename_i minus; cases minus; simp at digit
    · rename_i plus; cases plus; simp at digit
    · rfl
  have body : (String.mk (d :: ds' ++ u.toList)).toList = d :: ds' ++ u.toList := rfl
  simp only [parseDuration, body, unsigned]
  rw [if_neg (count_unit_ne unit nonEmpty).1, if_neg (count_unit_ne unit nonEmpty).2,
    parseLoop_count_unit unit nonEmpty digits]
  by_cases below : digitsValue 0 (d :: ds') * ns < twoPow63
  · rw [if_pos (Nat.le_of_lt below), if_pos below]
    simp only [Bool.false_eq_true, if_false]
    rw [if_neg (by unfold twoPow63 at *; omega)]
  · rw [if_neg below]
    by_cases fits : digitsValue 0 (d :: ds') * ns ≤ twoPow63
    · rw [if_pos fits]
      simp only [Bool.false_eq_true, if_false]
      rw [if_pos (by unfold twoPow63 at *; omega)]
    · rw [if_neg fits]

/-- A `-`, a decimal count and a unit is minus that many of the unit's nanoseconds when that
is within `2^63`, and is refused otherwise. -/
theorem parseDuration_neg_count_unit {ds : List Char} {u : String} {ns : Nat} (unit : (u, ns) ∈ unitMap)
    (nonEmpty : ds ≠ []) (digits : ∀ c ∈ ds, c.isDigit) :
    parseDuration (String.mk ('-' :: (ds ++ u.toList))) =
      if digitsValue 0 ds * ns ≤ twoPow63 then .ok (-(digitsValue 0 ds * ns : Nat)) else .error .invalid := by
  have body : (String.mk ('-' :: (ds ++ u.toList))).toList = '-' :: (ds ++ u.toList) := rfl
  simp only [parseDuration, body, consumeSign]
  rw [if_neg (count_unit_ne unit nonEmpty).1, if_neg (count_unit_ne unit nonEmpty).2,
    parseLoop_count_unit unit nonEmpty digits]
  by_cases fits : digitsValue 0 ds * ns ≤ twoPow63
  · rw [if_pos fits, if_pos fits]
    simp only [if_true]
  · rw [if_neg fits, if_neg fits]

end Goupter.Configuration
