import Goupter.Log.Masker

/-!
# `Mask` against `MaskField` on numbers

On a mobile number, an ID-card number or a bank-card number standing alone, does the
default masker's `Mask` give what `MaskField` gives under the matching key? The rules of
`Mask` run in turn over the whole text, and an earlier rule can claim part of a number
meant for a later one.

* A mobile number is masked alike by both (`mask_mobile`).
* An ID-card number is masked alike exactly when the mobile-number pattern matches nowhere
  in it (`mask_idCard`): where it does, the mobile rule masks four digits inside it, and no
  later rule finds a long enough run of digits left.
* A bank-card number is masked alike exactly when it has 18 digits and the mobile-number
  pattern matches nowhere in it (`mask_bankCard`): otherwise the ID-card rule (on 16, 17 or
  19 digits) or the mobile rule claims it first.

The proof rests on one spec lemma per pattern (what its leftmost-first match at the start of
a text is), on the scan lemmas of `Regex`, and on counting digits: a text whose runs of
digits are shorter than 15 and that holds no `@` is left alone by the last three rules
(`later_rules_keep`). Texts that differ are told apart by how many mask characters they
show.
-/

namespace Goupter.Log

open CharClass Regex

/-! ### Runs of digits -/

/-- How many digits start `s`. -/
def digitRun (s : List Char) : Nat := (s.takeWhile digit.contains).length

theorem digitRun_le_length (s : List Char) : digitRun s ≤ s.length :=
  (List.takeWhile_sublist _).length_le

theorem digitRun_cons_of_digit {c : Char} (s : List Char) (isDigit : digit.contains c = true) :
    digitRun (c :: s) = digitRun s + 1 := by
  simp [digitRun, List.takeWhile_cons, isDigit]

theorem digitRun_cons_of_not_digit {c : Char} (s : List Char) (notDigit : digit.contains c = false) :
    digitRun (c :: s) = 0 := by
  simp [digitRun, List.takeWhile_cons, notDigit]

/-- A run of digits stops at the first character that is not one. -/
theorem digitRun_append_le (before : List Char) {c : Char} (after : List Char)
    (notDigit : digit.contains c = false) : digitRun (before ++ c :: after) ≤ before.length := by
  induction before with
  | nil => simp [digitRun_cons_of_not_digit after notDigit]
  | cons d before ih =>
    cases isDigit : digit.contains d
    · simp [List.cons_append, digitRun_cons_of_not_digit _ isDigit]
    · rw [List.cons_append, digitRun_cons_of_digit _ isDigit]
      simpa using ih

theorem digitRun_append_of_digits {a : List Char} (b : List Char) (digits : ∀ c ∈ a, digit.contains c = true) :
    digitRun (a ++ b) = a.length + digitRun b := by
  induction a with
  | nil => simp
  | cons c a ih =>
    rw [List.cons_append, digitRun_cons_of_digit _ (digits c (List.mem_cons_self c a)),
      ih fun d mem => digits d (List.mem_cons_of_mem c mem), List.length_cons]
    omega

theorem digitRun_of_digits {s : List Char} (digits : ∀ c ∈ s, digit.contains c = true) : digitRun s = s.length := by
  simpa [digitRun] using digitRun_append_of_digits [] digits

/-- Every run of digits in `s` is shorter than `n`. -/
def ShortRuns (n : Nat) (s : List Char) : Prop := ∀ i, digitRun (s.drop i) < n

theorem shortRuns_of_length_lt {n : Nat} {s : List Char} (short : s.length < n) : ShortRuns n s :=
  fun i => by
    have := digitRun_le_length (s.drop i)
    simp only [List.length_drop] at this
    omega

/-- Text cut by a stretch of non-digits into two parts shorter than `n` has no run of `n`
digits. -/
theorem shortRuns_separated {n : Nat} (before marks after : List Char) (nonempty : marks ≠ [])
    (notDigits : ∀ c ∈ marks, digit.contains c = false) (shortBefore : before.length < n)
    (shortAfter : after.length < n) : ShortRuns n (before ++ marks ++ after) := by
  intro i
  rw [List.append_assoc, List.drop_append_eq_append_drop, List.drop_append_eq_append_drop]
  by_cases inBefore : i < before.length
  · obtain ⟨c, marks', rfl⟩ := List.exists_cons_of_ne_nil nonempty
    rw [show i - before.length = 0 by omega, List.drop_zero, List.cons_append]
    have := digitRun_append_le (before.drop i) (marks' ++ after.drop (0 - (c :: marks').length))
      (notDigits c (List.mem_cons_self _ _))
    simp only [List.length_drop] at this
    omega
  · rw [List.drop_eq_nil_of_le (by omega), List.nil_append]
    by_cases inMarks : i - before.length < marks.length
    · obtain ⟨c, rest, split⟩ := List.exists_cons_of_ne_nil
        (List.ne_nil_of_length_pos (by simp only [List.length_drop]; omega) : marks.drop (i - before.length) ≠ [])
      have mark : c ∈ marks := List.mem_of_mem_drop (split ▸ List.mem_cons_self c rest)
      rw [split, List.cons_append, digitRun_cons_of_not_digit _ (notDigits c mark)]
      omega
    · rw [List.drop_eq_nil_of_le (by omega), List.nil_append]
      exact shortRuns_of_length_lt shortAfter _

/-! ### The patterns -/

theorem char_le_antisymm {a b : Char} (below : a ≤ b) (above : b ≤ a) : a = b :=
  Char.ext (UInt32.eq_of_val_eq (Fin.ext (Nat.le_antisymm below above)))

theorem eq_of_single {c d : Char} (isC : (single c).contains d = true) : d = c := by
  simp only [single, CharClass.contains, List.any_cons, List.any_nil, Bool.or_false,
    decide_eq_true_eq] at isC
  exact char_le_antisymm isC.2 isC.1

theorem digit_of_one {c : Char} (one : (single '1').contains c = true) : digit.contains c = true := by
  simp only [single, digit, CharClass.contains, List.any_cons, List.any_nil, Bool.or_false,
    decide_eq_true_eq] at one ⊢
  exact ⟨Char.le_trans (by decide) one.1, Char.le_trans one.2 (by decide)⟩

theorem digit_of_threeToNine {c : Char} (inRange : threeToNine.contains c = true) :
    digit.contains c = true := by
  simp only [threeToNine, digit, CharClass.contains, List.any_cons, List.any_nil, Bool.or_false,
    decide_eq_true_eq] at inRange ⊢
  exact ⟨Char.le_trans (by decide) inRange.1, inRange.2⟩

theorem digitOrX_of_digit {c : Char} (isDigit : digit.contains c = true) : digitOrX.contains c = true := by
  simp only [digitOrX, digit, CharClass.contains, List.any_cons, List.any_nil, Bool.or_false] at isDigit ⊢
  simp [isDigit]

/-- The mobile-number pattern matches eleven characters: `1`, one of `3` to `9`, nine digits. -/
theorem phonePattern_matchLength (s : List Char) :
    phonePattern.matchLength s =
      match s with
      | c₁ :: c₂ :: rest =>
        if (single '1').contains c₁ ∧ threeToNine.contains c₂ ∧ 9 ≤ digitRun rest then some 11 else none
      | _ => none := by
  unfold matchLength phonePattern
  match s with
  | [] => simp [matchK_seq, matchK_char_nil]
  | [c₁] => by_cases one : (single '1').contains c₁ <;> simp [matchK_seq, matchK_char, matchK_char_nil, one]
  | c₁ :: c₂ :: rest =>
    simp only [matchK_seq, matchK_char, matchK_exact]
    by_cases one : (single '1').contains c₁ = true
    · by_cases second : threeToNine.contains c₂ = true
      · have fits := digitRun_le_length rest
        by_cases nine : 9 ≤ digitRun rest
        · simp only [digitRun] at fits nine
          simp [one, second, nine, digitRun, show rest.length + 1 + 1 - (rest.length - 9) = 11 by omega]
        · simp only [digitRun] at nine
          simp [one, second, nine, digitRun]
      · simp [one, second]
    · simp [one]

/-- A match of the mobile-number pattern is eleven characters that start a run of at least
eleven digits. -/
theorem phonePattern_match {s : List Char} (found : (phonePattern.matchLength s).isSome) :
    phonePattern.matchLength s = some 11 ∧ 11 ≤ digitRun s := by
  rw [phonePattern_matchLength] at found ⊢
  match s, found with
  | c₁ :: c₂ :: rest, found =>
    by_cases matched : (single '1').contains c₁ ∧ threeToNine.contains c₂ ∧ 9 ≤ digitRun rest
    · refine ⟨if_pos matched, ?_⟩
      rw [digitRun_cons_of_digit _ (digit_of_one matched.1),
        digitRun_cons_of_digit _ (digit_of_threeToNine matched.2.1)]
      omega
    · simp [matched] at found

/-- The ID-card pattern takes 17 digits and a digit or `X`, or else 15 digits. -/
theorem idCardPattern_matchLength (s : List Char) :
    idCardPattern.matchLength s =
      if 17 ≤ digitRun s ∧ (s.drop 17).head?.any digitOrX.contains then some 18
      else if 15 ≤ digitRun s then some 15 else none := by
  have fits := digitRun_le_length s
  unfold matchLength idCardPattern
  simp only [matchK_alt, matchK_seq, matchK_exact, show (s.takeWhile digit.contains).length = digitRun s from rfl]
  have fifteen : (if 15 ≤ digitRun s then some (s.length - (s.drop 15).length) else none) =
      if 15 ≤ digitRun s then some 15 else none := by
    split
    · simp only [List.length_drop, Option.some.injEq]
      omega
    · rfl
  by_cases seventeen : 17 ≤ digitRun s
  · simp only [seventeen, if_true, true_and]
    cases rest : s.drop 17 with
    | nil => simpa [matchK_char_nil] using fifteen
    | cons c tail =>
      have length : s.length = tail.length + 18 := by
        have := congrArg List.length rest
        simp only [List.length_drop, List.length_cons] at this
        omega
      by_cases x : digitOrX.contains c = true
      · simp [matchK_char, x, length, Option.orElse, show tail.length + 18 - tail.length = 18 by omega]
      · simpa [matchK_char, x] using fifteen
  · simpa [seventeen] using fifteen

/-- A match of the ID-card pattern starts a run of at least fifteen digits. -/
theorem idCardPattern_match {s : List Char} (found : (idCardPattern.matchLength s).isSome) :
    15 ≤ digitRun s := by
  rw [idCardPattern_matchLength] at found
  split at found
  · omega
  · split at found
    · assumption
    · cases found

/-- The bank-card pattern takes the run of digits that starts the text, up to 19, when it
has at least 16. -/
theorem bankCardPattern_matchLength (s : List Char) :
    bankCardPattern.matchLength s = if 16 ≤ digitRun s then some (min 19 (digitRun s)) else none := by
  have fits := digitRun_le_length s
  unfold matchLength bankCardPattern
  rw [matchK_bounded _ _ _ _ (fun rest => some (s.length - rest.length)) fun _ => rfl]
  simp only [show (s.takeWhile digit.contains).length = digitRun s from rfl, List.length_drop,
    show s.length - (s.length - min 19 (digitRun s)) = min 19 (digitRun s) by omega]
  by_cases sixteen : 16 ≤ digitRun s
  · simp [sixteen, show 16 ≤ min 19 (digitRun s) by omega]
  · simp [sixteen, show ¬16 ≤ min 19 (digitRun s) by omega]

/-- The e-mail pattern matches only a text with an `@` in it. -/
theorem emailPattern_matchLength_of_not_mem {s : List Char} (noAt : '@' ∉ s) :
    emailPattern.matchLength s = none := by
  unfold matchLength emailPattern
  rw [matchK_seq]
  cases found : (Regex.rep wordDotDash 1 none).matchK s _ with
  | none => rfl
  | some b =>
    obtain ⟨rest, suffix, accepted⟩ := matchK_suffix _ s _ found
    rw [matchK_seq] at accepted
    cases rest with
    | nil => simp [matchK_char_nil] at accepted
    | cons c rest =>
      rw [matchK_char] at accepted
      split at accepted
      · exact absurd (suffix.subset (eq_of_single ‹_› ▸ List.mem_cons_self c rest)) noAt
      · cases accepted

theorem phonePattern_nonEmpty (t : List Char) : phonePattern.matchLength t ≠ some 0 := fun zero => by
  have eleven := (phonePattern_match (by rw [zero]; rfl)).1
  rw [zero] at eleven
  cases eleven

/-- The ID-card pattern takes 18 characters or 15. -/
theorem idCardPattern_length {s : List Char} {m : Nat} (found : idCardPattern.matchLength s = some m) :
    m = 18 ∨ m = 15 := by
  rw [idCardPattern_matchLength] at found
  split at found
  · exact .inl (Option.some.inj found).symm
  · split at found
    · exact .inr (Option.some.inj found).symm
    · cases found

theorem idCardPattern_nonEmpty (t : List Char) : idCardPattern.matchLength t ≠ some 0 := fun zero => by
  rcases idCardPattern_length zero with eighteen | fifteen <;> omega

/-! ### The rules on text without long runs of digits -/

theorem phonePattern_none {t : List Char} (short : ShortRuns 11 t) (i : Nat) :
    phonePattern.matchLength (t.drop i) = none :=
  Option.not_isSome_iff_eq_none.mp fun found => absurd (phonePattern_match found).2 (Nat.not_le_of_lt (short i))

theorem idCardPattern_none {t : List Char} (short : ShortRuns 15 t) (i : Nat) :
    idCardPattern.matchLength (t.drop i) = none :=
  Option.not_isSome_iff_eq_none.mp fun found => absurd (idCardPattern_match found) (Nat.not_le_of_lt (short i))

theorem bankCardPattern_none {t : List Char} (short : ShortRuns 16 t) (i : Nat) :
    bankCardPattern.matchLength (t.drop i) = none := by
  rw [bankCardPattern_matchLength, if_neg (Nat.not_le_of_lt (short i))]

/-- The mobile-number pattern matches somewhere in `s`. -/
def PhoneMatchesIn (s : List Char) : Prop := ∃ i, (phonePattern.matchLength (s.drop i)).isSome

theorem phone_rule_keeps (repl : List Char → List Char) {t : List Char} (noPhone : ¬PhoneMatchesIn t) :
    phonePattern.replaceAllStringFunc repl t = t :=
  replaceScan_of_no_match _ _ _ _ fun i => Option.not_isSome_iff_eq_none.mp fun found => noPhone ⟨i, found⟩

theorem idCard_rule_keeps (repl : List Char → List Char) {t : List Char} (short : ShortRuns 15 t) :
    idCardPattern.replaceAllStringFunc repl t = t :=
  replaceScan_of_no_match _ _ _ _ (idCardPattern_none short)

theorem email_rule_keeps (repl : List Char → List Char) {t : List Char} (noAt : '@' ∉ t) :
    emailPattern.replaceAllStringFunc repl t = t :=
  replaceScan_of_no_match _ _ _ _ fun _ => emailPattern_matchLength_of_not_mem fun mem => noAt (List.mem_of_mem_drop mem)

theorem bankCard_rule_keeps (repl : List Char → List Char) {t : List Char} (short : ShortRuns 16 t) :
    bankCardPattern.replaceAllStringFunc repl t = t :=
  replaceScan_of_no_match _ _ _ _ (bankCardPattern_none short)

/-- `Mask` of the default masker is its four rules in turn. -/
theorem mask_newDefaultMasker (s : List Char) :
    (newDefaultMasker []).mask s =
      bankCardPattern.replaceAllStringFunc (maskBankCard ['*'])
        (emailPattern.replaceAllStringFunc (maskEmail ['*'])
          (idCardPattern.replaceAllStringFunc (maskIDCard ['*'])
            (phonePattern.replaceAllStringFunc (maskPhone ['*']) s))) := by
  simp only [DefaultMasker.mask, newDefaultMasker, initRules, List.foldl_cons, List.foldl_nil]

/-- A text whose runs of digits are shorter than 15 and that holds no `@` is left alone by
the last three rules. -/
theorem later_rules_keep {t : List Char} (short : ShortRuns 15 t) (noAt : '@' ∉ t) :
    bankCardPattern.replaceAllStringFunc (maskBankCard ['*'])
        (emailPattern.replaceAllStringFunc (maskEmail ['*']) (idCardPattern.replaceAllStringFunc (maskIDCard ['*']) t)) =
      t := by
  rw [idCard_rule_keeps _ short, email_rule_keeps _ noAt, bankCard_rule_keeps _ fun i => Nat.lt_succ_of_lt (short i)]

/-- The mobile-number rule, where its first match is at `p` and the text ends before a second
one could. -/
theorem phone_rule_first_match (repl : List Char → List Char) {s : List Char} {p : Nat}
    (before : ∀ i < p, phonePattern.matchLength (s.drop i) = none)
    (found : (phonePattern.matchLength (s.drop p)).isSome) (short : s.length < p + 22) :
    phonePattern.replaceAllStringFunc repl s = s.take p ++ repl ((s.drop p).take 11) ++ (s.drop p).drop 11 :=
  replaceAllStringFunc_single_match _ _ s p 10 phonePattern_nonEmpty before (phonePattern_match found).1
    (phonePattern_none (shortRuns_of_length_lt (by simp only [List.length_drop]; omega)))

/-! ### Masked texts -/

/-- A text with a stretch of mask characters between two parts shorter than `n` has no run of
`n` digits. -/
theorem shortRuns_masked {n k : Nat} (before after : List Char) (positive : 0 < k)
    (shortBefore : before.length < n) (shortAfter : after.length < n) :
    ShortRuns n (before ++ List.replicate k '*' ++ after) :=
  shortRuns_separated before _ after (List.ne_nil_of_length_pos (by simpa using positive))
    (fun c mem => List.eq_of_mem_replicate mem ▸ rfl) shortBefore shortAfter

theorem not_mem_masked {c : Char} {k : Nat} (before after : List Char) (notStar : c ≠ '*')
    (absent : c ∉ before ++ after) : c ∉ before ++ List.replicate k '*' ++ after := by
  simp only [List.mem_append, List.mem_replicate, not_or] at absent ⊢
  exact ⟨⟨absent.1, fun star => notStar star.2⟩, absent.2⟩

theorem count_star_masked {k : Nat} (before after : List Char) (noStar : '*' ∉ before ++ after) :
    (before ++ List.replicate k '*' ++ after).count '*' = k := by
  simp only [List.mem_append, not_or] at noStar
  simp [List.count_eq_zero.mpr noStar.1, List.count_eq_zero.mpr noStar.2]

/-- What is left unmasked of a piece `m` of `s` is taken from `s`. -/
theorem masked_subset (s : List Char) (p n i j : Nat) :
    (s.take p ++ ((s.drop p).take n).take i) ++ (((s.drop p).take n).drop j ++ (s.drop p).drop n) ⊆ s := by
  intro x mem
  rw [← List.take_append_drop p s, ← List.take_append_drop n (s.drop p)]
  simp only [List.mem_append] at mem ⊢
  rcases mem with (inBefore | inPiece) | (inPiece | inAfter)
  · exact .inl inBefore
  · exact .inr (.inl (List.mem_of_mem_take inPiece))
  · exact .inr (.inl (List.mem_of_mem_drop inPiece))
  · exact .inr (.inr inAfter)

theorem maskPhone_masked (before after : List Char) {m : List Char} (eleven : m.length = 11) :
    before ++ maskPhone ['*'] m ++ after = (before ++ m.take 3) ++ List.replicate 4 '*' ++ (m.drop 7 ++ after) := by
  simp [maskPhone, eleven]

theorem maskIDCard_masked {m : List Char} (after : List Char) (long : 10 ≤ m.length) :
    maskIDCard ['*'] m ++ after = m.take 6 ++ List.replicate (m.length - 10) '*' ++ (m.drop (m.length - 4) ++ after) := by
  simp [maskIDCard, maskKeepingEnds, Nat.not_lt_of_le long]

/-! ### `Mask` on a number -/

/-- Where the first match of the mobile-number pattern in a text of at most 19 characters is
at `p`, `Mask` masks four characters of it and leaves the rest of the text. -/
theorem mask_of_first_phone_match {s : List Char} {p : Nat}
    (before : ∀ i < p, phonePattern.matchLength (s.drop i) = none)
    (found : (phonePattern.matchLength (s.drop p)).isSome) (noAt : '@' ∉ s) (short : s.length ≤ 19) :
    (newDefaultMasker []).mask s = s.take p ++ maskPhone ['*'] ((s.drop p).take 11) ++ (s.drop p).drop 11 := by
  have fits : p + 11 ≤ s.length := by
    have := Nat.le_trans (phonePattern_match found).2 (digitRun_le_length _)
    simp only [List.length_drop] at this
    omega
  have eleven : ((s.drop p).take 11).length = 11 := by simp only [List.length_take, List.length_drop]; omega
  rw [mask_newDefaultMasker, phone_rule_first_match _ before found (by omega), maskPhone_masked _ _ eleven,
    later_rules_keep (shortRuns_masked _ _ (by decide) (by simp only [List.length_append, List.length_take, List.length_drop]; omega) (by simp only [List.length_append, List.length_take, List.length_drop]; omega))
      (not_mem_masked _ _ (by decide) fun mem => noAt (masked_subset s p 11 3 7 mem))]

/-- Where the mobile-number pattern matches nowhere and the ID-card pattern takes `m`
characters at the start, `Mask` is the ID-card mask of those characters and the rest. -/
theorem mask_of_no_phone {s : List Char} {m : Nat} (noPhone : ¬PhoneMatchesIn s) (noAt : '@' ∉ s)
    (found : idCardPattern.matchLength s = some m) (tail : s.length < m + 12) :
    (newDefaultMasker []).mask s = maskIDCard ['*'] (s.take m) ++ s.drop m := by
  have within := matchLength_le_length _ found
  have fifteen : 15 ≤ m := by rcases idCardPattern_length found with eighteen | fifteen <;> omega
  obtain ⟨len, rfl⟩ : ∃ len, m = len + 1 := ⟨m - 1, by omega⟩
  have idRule := replaceAllStringFunc_single_match idCardPattern (maskIDCard ['*']) s 0 len idCardPattern_nonEmpty
    (fun i below => absurd below (Nat.not_lt_zero i)) found
    (idCardPattern_none (shortRuns_of_length_lt (by simp only [List.length_drop]; omega)))
  have length : (s.take (len + 1)).length = len + 1 := List.length_take_of_le within
  rw [mask_newDefaultMasker, phone_rule_keeps _ noPhone, idRule, List.take_zero, List.drop_zero, List.nil_append,
    maskIDCard_masked _ (by omega), length,
    email_rule_keeps _ (not_mem_masked ((s.take (len + 1)).take 6) ((s.take (len + 1)).drop (len + 1 - 4) ++ s.drop (len + 1))
      (by decide) fun mem => noAt (masked_subset s 0 (len + 1) 6 (len + 1 - 4) mem)),
    bankCard_rule_keeps _ (shortRuns_masked _ _ (by omega) (by simp only [List.length_append, List.length_take, List.length_drop]; omega) (by simp only [List.length_append, List.length_take, List.length_drop]; omega))]

/-- Where the mobile-number pattern matches in a text of at most 19 characters with no `*`
and no `@`, `Mask` shows four mask characters. -/
theorem count_star_mask_of_phoneMatchesIn {s : List Char} (noStar : '*' ∉ s) (noAt : '@' ∉ s)
    (short : s.length ≤ 19) (phone : PhoneMatchesIn s) : ((newDefaultMasker []).mask s).count '*' = 4 := by
  obtain ⟨p, found, before⟩ := exists_first_match phonePattern s phone
  have eleven : ((s.drop p).take 11).length = 11 := by
    have := Nat.le_trans (phonePattern_match found).2 (digitRun_le_length _)
    simp only [List.length_take, List.length_drop] at this ⊢
    omega
  rw [mask_of_first_phone_match before found noAt short, maskPhone_masked _ _ eleven,
    count_star_masked _ _ fun mem => noStar (masked_subset s p 11 3 7 mem)]

/-- The ID-card mask of the first `m` characters shows `m - 10` mask characters. -/
theorem count_star_maskIDCard_take {s : List Char} {m : Nat} (noStar : '*' ∉ s) (long : 10 ≤ m)
    (within : m ≤ s.length) : (maskIDCard ['*'] (s.take m) ++ s.drop m).count '*' = m - 10 := by
  have length : (s.take m).length = m := List.length_take_of_le within
  rw [maskIDCard_masked _ (by omega), length,
    count_star_masked ((s.take m).take 6) ((s.take m).drop (m - 4) ++ s.drop m) fun mem =>
      noStar (masked_subset s 0 m 6 (m - 4) mem)]

/-- The ID-card mask of a whole text. -/
theorem maskIDCard_take_length (s : List Char) : maskIDCard ['*'] (s.take s.length) ++ s.drop s.length = maskIDCard ['*'] s := by
  rw [List.take_of_length_le (Nat.le_refl _), List.drop_of_length_le (Nat.le_refl _), List.append_nil]

theorem not_mem_of_digitOrX {s : List Char} (chars : ∀ c ∈ s, digitOrX.contains c = true) : '*' ∉ s ∧ '@' ∉ s :=
  ⟨fun mem => absurd (chars _ mem) (by decide), fun mem => absurd (chars _ mem) (by decide)⟩

/-! ### The three kinds of number -/

/-- An 11-digit mobile number: `1`, one of `3` to `9`, then nine digits. -/
def isMobile : List Char → Bool
  | c₁ :: c₂ :: rest =>
    (single '1').contains c₁ && threeToNine.contains c₂ && rest.length == 9 && rest.all digit.contains
  | _ => false

/-- An 18-character ID-card number: 17 digits, then a digit, `X` or `x`. -/
def isIDCard (s : List Char) : Bool :=
  s.length == 18 && (s.take 17).all digit.contains && (s.drop 17).all digitOrX.contains

/-- A bank-card number: 16 to 19 digits. -/
def isBankCard (s : List Char) : Bool :=
  decide (16 ≤ s.length) && decide (s.length ≤ 19) && s.all digit.contains

/-- A mobile number is masked as `maskPhone` masks it. -/
theorem mask_mobile {s : List Char} (mobile : isMobile s = true) : (newDefaultMasker []).mask s = maskPhone ['*'] s := by
  match s, mobile with
  | c₁ :: c₂ :: rest, mobile =>
    simp only [isMobile, Bool.and_eq_true, beq_iff_eq, List.all_eq_true] at mobile
    obtain ⟨⟨⟨one, second⟩, nine⟩, digits⟩ := mobile
    have found : phonePattern.matchLength (c₁ :: c₂ :: rest) = some 11 := by
      rw [phonePattern_matchLength]
      exact if_pos ⟨one, second, (digitRun_of_digits digits).trans nine ▸ Nat.le_refl 9⟩
    have chars : ∀ c ∈ c₁ :: c₂ :: rest, digitOrX.contains c = true := by
      simp only [List.mem_cons, forall_eq_or_imp]
      exact ⟨digitOrX_of_digit (digit_of_one one), digitOrX_of_digit (digit_of_threeToNine second),
        fun c mem => digitOrX_of_digit (digits c mem)⟩
    rw [mask_of_first_phone_match (p := 0) (fun i below => absurd below (Nat.not_lt_zero i)) (by rw [List.drop_zero, found]; rfl)
      (not_mem_of_digitOrX chars).2 (by simp [nine])]
    simp [List.take_of_length_le, List.drop_of_length_le, nine]

/-- An ID-card number is masked as `maskIDCard` masks it exactly when the mobile-number
pattern matches nowhere in it. -/
theorem mask_idCard {s : List Char} (idCard : isIDCard s = true) :
    (newDefaultMasker []).mask s = maskIDCard ['*'] s ↔ ¬PhoneMatchesIn s := by
  simp only [isIDCard, Bool.and_eq_true, beq_iff_eq, List.all_eq_true] at idCard
  obtain ⟨⟨eighteen, digits⟩, last⟩ := idCard
  have chars : ∀ c ∈ s, digitOrX.contains c = true := fun c mem => by
    rw [← List.take_append_drop 17 s, List.mem_append] at mem
    exact mem.elim (fun taken => digitOrX_of_digit (digits c taken)) (last c)
  obtain ⟨noStar, noAt⟩ := not_mem_of_digitOrX chars
  constructor
  · intro same phone
    have four := count_star_mask_of_phoneMatchesIn noStar noAt (by omega) phone
    rw [same, ← maskIDCard_take_length, count_star_maskIDCard_take noStar (by omega) (Nat.le_refl _)] at four
    omega
  · intro noPhone
    have found : idCardPattern.matchLength s = some 18 := by
      obtain ⟨c, rest, split⟩ := List.exists_cons_of_ne_nil
        (List.ne_nil_of_length_pos (by simp only [List.length_drop]; omega) : s.drop 17 ≠ [])
      have run := digitRun_append_of_digits (s.drop 17) digits
      rw [List.take_append_drop, List.length_take_of_le (by omega)] at run
      rw [idCardPattern_matchLength, if_pos ⟨by omega, by simp [split, last c (split ▸ List.mem_cons_self c rest)]⟩]
    rw [mask_of_no_phone noPhone noAt found (by omega), ← eighteen, maskIDCard_take_length]

/-- A bank-card number is masked as `maskBankCard` masks it exactly when it has 18 digits
and the mobile-number pattern matches nowhere in it. -/
theorem mask_bankCard {s : List Char} (bankCard : isBankCard s = true) :
    (newDefaultMasker []).mask s = maskBankCard ['*'] s ↔ s.length = 18 ∧ ¬PhoneMatchesIn s := by
  simp only [isBankCard, Bool.and_eq_true, decide_eq_true_eq, List.all_eq_true] at bankCard
  obtain ⟨⟨sixteen, nineteen⟩, digits⟩ := bankCard
  obtain ⟨noStar, noAt⟩ := not_mem_of_digitOrX fun c mem => digitOrX_of_digit (digits c mem)
  have bankStars : (maskBankCard ['*'] s).count '*' = s.length - 10 := by
    show (maskIDCard ['*'] s).count '*' = _
    rw [← maskIDCard_take_length, count_star_maskIDCard_take noStar (by omega) (Nat.le_refl _)]
  by_cases phone : PhoneMatchesIn s
  · have four := count_star_mask_of_phoneMatchesIn noStar noAt nineteen phone
    simp only [phone, not_true_eq_false, and_false, iff_false]
    intro same
    rw [same, bankStars] at four
    omega
  · have found : idCardPattern.matchLength s = some (if 18 ≤ s.length then 18 else 15) := by
      rw [idCardPattern_matchLength, digitRun_of_digits digits]
      by_cases eighteen : 18 ≤ s.length
      · obtain ⟨c, rest, split⟩ := List.exists_cons_of_ne_nil
          (List.ne_nil_of_length_pos (by simp only [List.length_drop]; omega) : s.drop 17 ≠ [])
        have isDigit := digits c (List.mem_of_mem_drop (split ▸ List.mem_cons_self c rest))
        simp [split, digitOrX_of_digit isDigit, eighteen, show 17 ≤ s.length by omega]
      · simp [List.drop_of_length_le (show s.length ≤ 17 by omega), eighteen, show 15 ≤ s.length by omega]
    generalize taken : (if 18 ≤ s.length then 18 else 15) = m at found
    have bounds : 15 ≤ m ∧ m ≤ s.length ∧ s.length < m + 3 ∧ (m = s.length ↔ s.length = 18) := by
      subst taken
      split <;> omega
    rw [mask_of_no_phone phone noAt found (by omega)]
    simp only [phone, not_false_eq_true, and_true]
    constructor
    · intro same
      have stars := count_star_maskIDCard_take noStar (by omega) bounds.2.1
      rw [same, bankStars] at stars
      omega
    · intro eighteen
      rw [show m = s.length by omega, maskIDCard_take_length]
      rfl

open DefaultMasker in
/-- `Mask` against `MaskField` on a mobile number, an ID-card number and a bank-card number,
each under its key. -/
theorem mask_agrees_with_maskField_iff {α : Type} (s : List Char) :
    (isMobile s = true →
      (FieldValue.str ((newDefaultMasker []).mask s) : FieldValue α) =
        (newDefaultMasker []).maskField "phone".toList (.str s)) ∧
    (isIDCard s = true →
      ((FieldValue.str ((newDefaultMasker []).mask s) : FieldValue α) =
        (newDefaultMasker []).maskField "id_card".toList (.str s) ↔ ¬PhoneMatchesIn s)) ∧
    (isBankCard s = true →
      ((FieldValue.str ((newDefaultMasker []).mask s) : FieldValue α) =
        (newDefaultMasker []).maskField "bank_card".toList (.str s) ↔ s.length = 18 ∧ ¬PhoneMatchesIn s)) := by
  refine ⟨fun mobile => ?_, fun idCard => ?_, fun bankCard => ?_⟩
  · exact congrArg FieldValue.str (mask_mobile mobile)
  · exact FieldValue.str.injEq _ _ ▸ mask_idCard idCard
  · exact FieldValue.str.injEq _ _ ▸ mask_bankCard bankCard

open DefaultMasker in
theorem mask_agrees_with_maskField_iff_id_card :
    isIDCard "110101199003071234".toList = true ∧ PhoneMatchesIn "110101199003071234".toList ∧
      (FieldValue.str ((newDefaultMasker []).mask "110101199003071234".toList) : FieldValue Unit) ≠
        (newDefaultMasker []).maskField "id_card".toList (.str "110101199003071234".toList) :=
  ⟨by decide, ⟨6, by decide⟩, fun same =>
    ((mask_agrees_with_maskField_iff _).2.1 (by decide)).mp same ⟨6, by decide⟩⟩

end Goupter.Log
