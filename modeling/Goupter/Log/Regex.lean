import Mathlib.Data.Nat.Defs
/-!
# Regular expressions as the masker uses them

The patterns of `DefaultMasker` (`src/unnamed/part_004`) are Go `regexp` patterns built from
character classes repeated a fixed or a bounded number of times, concatenation and
alternation; `Regex` is that fragment, with its syntax given as a tree (the parser of
`regexp.Compile` is not modelled).

Go matches leftmost-first: at the leftmost position where a match starts, it takes the
match that a backtracking search finds first, preferring the left branch of an alternation
and, for a greedy repeat, more repetitions. `Regex.matchK` is that search, in
continuation-passing style, and `matchLength` the length of the match it finds at the start
of a text. `replaceAllStringFunc` is the loop of `Regexp.ReplaceAllStringFunc`: from the
start of the text, each position where a match starts gets the replacement of that match
and the scan resumes after it; other characters are copied. An empty match right after a
match is not replaced, and the scan always moves on by at least one character.

Texts are lists of characters. Go indexes strings by bytes; every character these patterns
match is ASCII, where the two agree.
-/

namespace Goupter.Log

/-- A character class: the characters in one of its ranges. -/
structure CharClass where
  ranges : List (Char × Char)
deriving DecidableEq, Repr

namespace CharClass

def contains (cls : CharClass) (c : Char) : Bool :=
  cls.ranges.any fun range => decide (range.1 ≤ c ∧ c ≤ range.2)

/-- `\d`. -/
def digit : CharClass := ⟨[('0', '9')]⟩

/-- `\w`: ASCII letters, digits and `_`. -/
def word : CharClass := ⟨[('0', '9'), ('A', 'Z'), ('_', '_'), ('a', 'z')]⟩

/-- One character. -/
def single (c : Char) : CharClass := ⟨[(c, c)]⟩

/-- How many characters of the class start `s`, up to `most`. -/
def span (cls : CharClass) (most : Option Nat) (s : List Char) : Nat :=
  match most with
  | none => (s.takeWhile cls.contains).length
  | some most => min most (s.takeWhile cls.contains).length

end CharClass

/-- The pattern syntax the masker uses. -/
inductive Regex where
  /-- `cls{least,most}`, greedy; `most` is `none` for no bound, as in `cls+`. -/
  | rep (cls : CharClass) (least : Nat) (most : Option Nat)
  | seq (first second : Regex)
  | alt (left right : Regex)
deriving DecidableEq, Repr

namespace Regex

/-- One character of a class. -/
def char (cls : CharClass) : Regex := rep cls 1 (some 1)

/-- A greedy repeat tries the lengths `n, n - 1, ..., least` of the prefix, in that order. -/
def longestFirst {β : Type} (least : Nat) (k : List Char → Option β) (s : List Char) : Nat → Option β
  | 0 => if least = 0 then k s else none
  | n + 1 => if least ≤ n + 1 then (k (s.drop (n + 1))).orElse fun _ => longestFirst least k s n else none

/-- The backtracking search: the first way, in Go's order of preference, to match a prefix
of `s` whose rest the continuation `k` accepts. -/
def matchK {β : Type} : Regex → List Char → (List Char → Option β) → Option β
  | rep cls least most, s, k => longestFirst least k s (cls.span most s)
  | seq first second, s, k => first.matchK s fun rest => second.matchK rest k
  | alt left right, s, k => (left.matchK s k).orElse fun _ => right.matchK s k

/-- The length of the leftmost-first match that starts at the start of `s`. -/
def matchLength (r : Regex) (s : List Char) : Option Nat :=
  r.matchK s fun rest => some (s.length - rest.length)

/-- The scan of `ReplaceAllStringFunc`. `skip` characters of the last match are still to
pass; `adjacent` says that the scan stands right after a match. -/
def replaceScan (r : Regex) (repl : List Char → List Char) : Nat → Bool → List Char → List Char
  | skip + 1, _, _ :: rest => replaceScan r repl skip true rest
  | _ + 1, _, [] => []
  | 0, adjacent, s =>
    match r.matchLength s with
    | some 0 =>
      (if adjacent then [] else repl []) ++
        match s with
        | [] => []
        | c :: rest => c :: replaceScan r repl 0 false rest
    | some (len + 1) =>
      repl (s.take (len + 1)) ++
        match s with
        | [] => []
        | _ :: rest => replaceScan r repl len true rest
    | none =>
      match s with
      | [] => []
      | c :: rest => c :: replaceScan r repl 0 false rest

/-- `Regexp.ReplaceAllStringFunc(src, repl)`. -/
def replaceAllStringFunc (r : Regex) (repl : List Char → List Char) (src : List Char) : List Char :=
  r.replaceScan repl 0 false src

/-! ### The search -/

section Search

variable {β : Type}

theorem matchK_seq (first second : Regex) (s : List Char) (k : List Char → Option β) :
    (seq first second).matchK s k = first.matchK s fun rest => second.matchK rest k := rfl

theorem matchK_alt (left right : Regex) (s : List Char) (k : List Char → Option β) :
    (alt left right).matchK s k = (left.matchK s k).orElse fun _ => right.matchK s k := rfl

theorem longestFirst_of_lt (least : Nat) (k : List Char → Option β) (s : List Char) {n : Nat}
    (below : n < least) : longestFirst least k s n = none := by
  cases n with
  | zero => simp [longestFirst, show least ≠ 0 by omega]
  | succ n => simp [longestFirst, show ¬least ≤ n + 1 by omega]

theorem longestFirst_self (n : Nat) (k : List Char → Option β) (s : List Char) :
    longestFirst n k s n = k (s.drop n) := by
  cases n with
  | zero => simp [longestFirst]
  | succ n =>
    simp only [longestFirst, Nat.le_refl, if_true, longestFirst_of_lt (n + 1) k s (Nat.lt_succ_self n)]
    cases k (s.drop (n + 1)) <;> rfl

/-- Against a continuation that accepts every rest, a greedy repeat takes all it can. -/
theorem longestFirst_of_accepts (least : Nat) (k : List Char → Option β) (s : List Char) (n : Nat)
    (accepts : ∀ rest, (k rest).isSome) :
    longestFirst least k s n = if least ≤ n then k (s.drop n) else none := by
  cases n with
  | zero => by_cases zero : least = 0 <;> simp [longestFirst, zero]
  | succ n =>
    by_cases enough : least ≤ n + 1
    · obtain ⟨b, accepted⟩ := Option.isSome_iff_exists.mp (accepts (s.drop (n + 1)))
      simp [longestFirst, enough, accepted, Option.orElse]
    · simp [longestFirst, enough]

/-- `cls{n}` takes exactly `n` characters of the class, or fails. -/
theorem matchK_exact (cls : CharClass) (n : Nat) (s : List Char) (k : List Char → Option β) :
    (rep cls n (some n)).matchK s k =
      if n ≤ (s.takeWhile cls.contains).length then k (s.drop n) else none := by
  simp only [matchK, CharClass.span]
  split
  · rw [Nat.min_eq_left ‹_›, longestFirst_self]
  · exact longestFirst_of_lt n k s (by omega)

theorem matchK_char (cls : CharClass) (c : Char) (s : List Char) (k : List Char → Option β) :
    (char cls).matchK (c :: s) k = if cls.contains c then k s else none := by
  rw [char, matchK_exact]
  by_cases member : cls.contains c <;> simp [List.takeWhile_cons, member]

theorem matchK_char_nil (cls : CharClass) (k : List Char → Option β) : (char cls).matchK [] k = none := by
  rw [char, matchK_exact]
  simp

/-- Against a continuation that accepts every rest, `cls{least,most}` takes the longest run
of the class it may. -/
theorem matchK_bounded (cls : CharClass) (least most : Nat) (s : List Char) (k : List Char → Option β)
    (accepts : ∀ rest, (k rest).isSome) :
    (rep cls least (some most)).matchK s k =
      if least ≤ min most (s.takeWhile cls.contains).length
      then k (s.drop (min most (s.takeWhile cls.contains).length)) else none :=
  longestFirst_of_accepts least k s _ accepts

/-- What the search returns, its continuation returned on a suffix of the text. -/
theorem matchK_suffix (r : Regex) (s : List Char) (k : List Char → Option β) {b : β}
    (found : r.matchK s k = some b) : ∃ rest, rest <:+ s ∧ k rest = some b := by
  induction r generalizing s k with
  | rep cls least most =>
    simp only [matchK] at found
    generalize cls.span most s = n at found
    induction n with
    | zero =>
      simp only [longestFirst] at found
      split at found
      · exact ⟨s, List.suffix_refl s, found⟩
      · cases found
    | succ n ih =>
      simp only [longestFirst] at found
      split at found
      · cases taken : k (s.drop (n + 1)) with
        | none =>
          rw [taken] at found
          exact ih found
        | some b' =>
          rw [taken] at found
          cases found
          exact ⟨_, List.drop_suffix _ _, taken⟩
      · cases found
  | seq first second ihFirst ihSecond =>
    obtain ⟨middle, middleSuffix, secondFound⟩ := ihFirst s _ found
    obtain ⟨rest, restSuffix, accepted⟩ := ihSecond middle k secondFound
    exact ⟨rest, restSuffix.trans middleSuffix, accepted⟩
  | alt left right ihLeft ihRight =>
    simp only [matchK] at found
    cases leftFound : left.matchK s k with
    | none =>
      rw [leftFound] at found
      exact ihRight s k found
    | some b' =>
      rw [leftFound] at found
      cases found
      exact ihLeft s k leftFound

/-- A match is a prefix of the text, so no longer than it. -/
theorem matchLength_le_length (r : Regex) {s : List Char} {n : Nat} (found : r.matchLength s = some n) :
    n ≤ s.length := by
  obtain ⟨rest, -, accepted⟩ := matchK_suffix r s _ found
  exact Option.some.inj accepted ▸ Nat.sub_le _ _

end Search

/-! ### The scan -/

section Scan

variable (r : Regex) (repl : List Char → List Char)

/-- The characters of a match already replaced are passed over. -/
theorem replaceScan_skip (taken rest : List Char) :
    r.replaceScan repl taken.length true (taken ++ rest) = r.replaceScan repl 0 true rest := by
  induction taken with
  | nil => rfl
  | cons c taken ih => exact ih

/-- A position where no match starts is copied. -/
theorem replaceScan_copy {c : Char} {rest : List Char} (adjacent : Bool)
    (noMatch : r.matchLength (c :: rest) = none) :
    r.replaceScan repl 0 adjacent (c :: rest) = c :: r.replaceScan repl 0 false rest := by
  rw [replaceScan, noMatch]

theorem replaceScan_nil (adjacent : Bool) (noMatch : r.matchLength [] = none) :
    r.replaceScan repl 0 adjacent [] = [] := by
  rw [replaceScan, noMatch]

/-- A non-empty match is replaced, and the scan goes on after it. -/
theorem replaceScan_match {s : List Char} {len : Nat} (adjacent : Bool)
    (found : r.matchLength s = some (len + 1)) (within : len + 1 ≤ s.length) :
    r.replaceScan repl 0 adjacent s = repl (s.take (len + 1)) ++ r.replaceScan repl 0 true (s.drop (len + 1)) := by
  obtain _ | ⟨c, rest⟩ := s
  · cases within
  · rw [replaceScan, found]
    have skip := replaceScan_skip r repl (rest.take len) (rest.drop len)
    rw [List.take_append_drop, List.length_take_of_le (by simp at within; omega)] at skip
    show _ ++ r.replaceScan repl len true rest = _
    rw [skip]
    rfl

/-- A text in which no match starts is left as it is. -/
theorem replaceScan_of_no_match (s : List Char) (adjacent : Bool)
    (noMatch : ∀ i, r.matchLength (s.drop i) = none) : r.replaceScan repl 0 adjacent s = s := by
  induction s generalizing adjacent with
  | nil => exact replaceScan_nil r repl adjacent (noMatch 0)
  | cons c rest ih =>
    rw [replaceScan_copy r repl adjacent (noMatch 0), ih false fun i => noMatch (i + 1)]

/-- The characters before the first match are copied. -/
theorem replaceScan_append_of_no_match (before s : List Char) (adjacent : Bool)
    (noMatch : ∀ i < before.length, r.matchLength ((before ++ s).drop i) = none)
    (nonEmpty : ∀ t, r.matchLength t ≠ some 0) :
    r.replaceScan repl 0 adjacent (before ++ s) = before ++ r.replaceScan repl 0 false s := by
  induction before generalizing adjacent with
  | nil =>
    show r.replaceScan repl 0 adjacent s = r.replaceScan repl 0 false s
    cases s <;> rw [replaceScan, replaceScan] <;> split <;> first | rfl | exact absurd ‹_› (nonEmpty _)
  | cons c before ih =>
    have first : r.matchLength (c :: (before ++ s)) = none := by simpa using noMatch 0 (by simp)
    rw [List.cons_append, replaceScan_copy r repl adjacent first,
      ih false fun i below => by simpa using noMatch (i + 1) (by simp only [List.length_cons]; omega)]
    rfl

/-- Where a pattern matches somewhere in a text, there is a first position where it does. -/
theorem exists_first_match (s : List Char) (somewhere : ∃ i, (r.matchLength (s.drop i)).isSome) :
    ∃ p, (r.matchLength (s.drop p)).isSome ∧ ∀ i < p, r.matchLength (s.drop i) = none := by
  induction s with
  | nil =>
    obtain ⟨i, found⟩ := somewhere
    exact ⟨0, by simpa using found, fun i below => absurd below (Nat.not_lt_zero i)⟩
  | cons c rest ih =>
    cases here : r.matchLength (c :: rest) with
    | some len => exact ⟨0, by simp [here], fun i below => absurd below (Nat.not_lt_zero i)⟩
    | none =>
      obtain ⟨i, found⟩ := somewhere
      cases i with
      | zero => simp [here] at found
      | succ i =>
        obtain ⟨p, later, before⟩ := ih ⟨i, found⟩
        refine ⟨p + 1, later, fun j below => ?_⟩
        cases j with
        | zero => exact here
        | succ j => exact before j (by omega)

/-- A text with a single match, at `p`, becomes its text before `p`, the replacement of the
match, and its text after the match. -/
theorem replaceAllStringFunc_single_match (s : List Char) (p len : Nat)
    (nonEmpty : ∀ t, r.matchLength t ≠ some 0) (before : ∀ i < p, r.matchLength (s.drop i) = none)
    (found : r.matchLength (s.drop p) = some (len + 1))
    (after : ∀ i, r.matchLength (((s.drop p).drop (len + 1)).drop i) = none) :
    r.replaceAllStringFunc repl s = s.take p ++ repl ((s.drop p).take (len + 1)) ++ (s.drop p).drop (len + 1) :=
  calc r.replaceScan repl 0 false s
    _ = r.replaceScan repl 0 false (s.take p ++ s.drop p) := by rw [List.take_append_drop]
    _ = s.take p ++ r.replaceScan repl 0 false (s.drop p) :=
      replaceScan_append_of_no_match r repl _ _ false
        (fun i below => by rw [List.take_append_drop]; exact before i (Nat.lt_of_lt_of_le below (List.length_take_le p s)))
        nonEmpty
    _ = _ := by
      rw [replaceScan_match r repl false found (matchLength_le_length r found), replaceScan_of_no_match r repl _ true after,
        List.append_assoc]

end Scan

end Regex

end Goupter.Log
