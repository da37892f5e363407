import Mathlib.Logic.Function.Basic

/-!
# The window sampler

`WindowSampler` of `src/pkg/log/sampler_test.go`, with the names `Level.String` of
`src/unnamed/part_007` gives the levels that make its keys. `Sample(level, msg)` keys a message
by `level.String() + ":" + msg` and keeps, for each key, a `windowCount`: the messages sampled
in the key's current window and the instant `resetTime` the window ends. A key with no window,
or whose window has ended (`now.After(wc.resetTime)`), gets a new one, of length `window`,
holding the message; otherwise the message is sampled while fewer than `maxCount` were. A
goroutine deletes, at each tick of `cleanup`, the windows that have ended. `NewWindowSampler`
replaces a `maxCount` of zero or less by `1`.

Every method holds the sampler's lock and reads `time.Now()` under it, and `After` compares
the monotonic readings, so a run is a sequence of calls whose instants never decrease.
Instants are nanoseconds, as integers. `count` never exceeds `maxCount`, so `count++` does not
overflow.

Over such runs the sampler answers each key's messages as one window (`windowStep`) that sees
that key's messages alone: the other keys and the cleanup ticks change no answer
(`run_refines_windowRun`). The windows are fixed, each starting at the first message after the
previous one ended, so a closed interval of length `window` can hold `2 * maxCount - 1` sampled
messages of one key (`sampled_in_window_reaches`), and never more (`sampled_in_window_le`),
where a sliding window would allow `maxCount`. Two calls share a window exactly when their
levels have the same name and their messages are equal, and every level outside the five
constants is named `unknown` (`sampleKey_eq_iff`).
-/

namespace Goupter.Log

/-- `Level`, an `int8`. -/
structure Level where
  code : Int
deriving DecidableEq, Repr

/-- `DebugLevel`, the first of the constants, `iota - 1`. -/
def debugLevel : Level := ⟨-1⟩

/-- `InfoLevel`. -/
def infoLevel : Level := ⟨0⟩

/-- `WarnLevel`. -/
def warnLevel : Level := ⟨1⟩

/-- `ErrorLevel`. -/
def errorLevel : Level := ⟨2⟩

/-- `FatalLevel`. -/
def fatalLevel : Level := ⟨3⟩

/-- `Level.String()`. -/
def Level.string (l : Level) : String :=
  if l = debugLevel then "debug"
  else if l = infoLevel then "info"
  else if l = warnLevel then "warn"
  else if l = errorLevel then "error"
  else if l = fatalLevel then "fatal"
  else "unknown"

/-- The key of `Sample`: `level.String() + ":" + msg`. -/
def sampleKey (level : Level) (msg : String) : String := level.string ++ ":" ++ msg

/-- `windowCount`: the messages sampled in the window and the instant it ends. -/
structure WindowCount where
  count : Int
  resetTime : Int
deriving DecidableEq, Repr

/-- `WindowSampler`, without its lock. -/
structure WindowSampler where
  window : Int
  maxCount : Int
  counts : String → Option WindowCount

/-- `NewWindowSampler(window, maxCount)`; the ticks of the `cleanup` goroutine it starts are
calls of a run. -/
def newWindowSampler (window maxCount : Int) : WindowSampler :=
  ⟨window, if maxCount ≤ 0 then 1 else maxCount, fun _ => none⟩

namespace WindowSampler

/-- `WindowSampler.Sample(level, msg)` at `now`. -/
def sample (now : Int) (level : Level) (msg : String) (s : WindowSampler) : WindowSampler × Bool :=
  let key := sampleKey level msg
  match s.counts key with
  | none => ({ s with counts := Function.update s.counts key (some ⟨1, now + s.window⟩) }, true)
  | some wc =>
    if now > wc.resetTime then
      ({ s with counts := Function.update s.counts key (some ⟨1, now + s.window⟩) }, true)
    else if wc.count < s.maxCount then
      ({ s with counts := Function.update s.counts key (some ⟨wc.count + 1, wc.resetTime⟩) }, true)
    else (s, false)

/-- One tick of `cleanup` at `now`: the windows that have ended are deleted. -/
def cleanup (now : Int) (s : WindowSampler) : WindowSampler :=
  { s with counts := fun key => (s.counts key).filter fun wc => !decide (now > wc.resetTime) }

end WindowSampler

/-- A call on the sampler: `Sample(level, msg)` at `now`, or a tick of `cleanup` at `now`. -/
inductive SamplerCall where
  | sample (level : Level) (msg : String) (now : Int)
  | cleanup (now : Int)

/-- The instant a call reads. -/
def SamplerCall.time : SamplerCall → Int
  | .sample _ _ now => now
  | .cleanup now => now

/-- The instant of a call of `Sample` with key `key`. -/
def SamplerCall.timeOf (key : String) : SamplerCall → Option Int
  | .sample level msg now => if sampleKey level msg = key then some now else none
  | .cleanup _ => none

namespace WindowSampler

/-- A run of calls: the sampler after them, and each answer of `Sample` with its key and
instant. -/
def run (s : WindowSampler) : List SamplerCall → WindowSampler × List (String × Int × Bool)
  | [] => (s, [])
  | .sample level msg now :: calls =>
    let rest := run (s.sample now level msg).1 calls
    (rest.1, (sampleKey level msg, now, (s.sample now level msg).2) :: rest.2)
  | .cleanup now :: calls => run (s.cleanup now) calls

end WindowSampler

/-! ### One key's window -/

/-- What `Sample` does with one key's window for a message at `now`: the window after it, and
whether the message is sampled. -/
def windowStep (window maxCount now : Int) : Option WindowCount → Option WindowCount × Bool
  | none => (some ⟨1, now + window⟩, true)
  | some wc =>
    if now > wc.resetTime then (some ⟨1, now + window⟩, true)
    else if wc.count < maxCount then (some ⟨wc.count + 1, wc.resetTime⟩, true)
    else (some wc, false)

/-- One key's messages at the instants `times`, from the window `wc`: the window after them,
and each instant with whether its message is sampled. -/
def windowRun (window maxCount : Int) :
    Option WindowCount → List Int → Option WindowCount × List (Int × Bool)
  | wc, [] => (wc, [])
  | wc, now :: times =>
    let rest := windowRun window maxCount (windowStep window maxCount now wc).1 times
    (rest.1, (now, (windowStep window maxCount now wc).2) :: rest.2)

/-- The answer of a run for key `key`, as an instant and whether it was sampled. -/
def answerOf (key : String) (r : String × Int × Bool) : Option (Int × Bool) :=
  if r.1 = key then some r.2 else none

namespace WindowSampler

/-- `Sample` changes the key's window as `windowStep` does, and no other. -/
theorem sample_eq (now : Int) (level : Level) (msg : String) (s : WindowSampler) :
    s.sample now level msg =
      ({ s with counts := (Function.update s.counts (sampleKey level msg)
          (windowStep s.window s.maxCount now (s.counts (sampleKey level msg))).1) },
        (windowStep s.window s.maxCount now (s.counts (sampleKey level msg))).2) := by
  unfold sample
  dsimp only
  cases found : s.counts (sampleKey level msg) with
  | none => rfl
  | some wc =>
    simp only [windowStep]
    split
    · rfl
    · split
      · rfl
      · rw [← found, Function.update_eq_self]

end WindowSampler

/-! ### Cleanup is not observable -/

/-- A key's window in a run with cleanup ticks, against the same key's window in the run
without them: the same, or deleted by a tick after it ended, before `last`. -/
def Agrees (last : Int) (cleaned kept : Option WindowCount) : Prop :=
  cleaned = kept ∨ cleaned = none ∧ ∃ wc, kept = some wc ∧ wc.resetTime < last

theorem Agrees.later {last now : Int} {cleaned kept : Option WindowCount} (agrees : Agrees last cleaned kept)
    (later : last ≤ now) : Agrees now cleaned kept := by
  rcases agrees with same | ⟨deleted, wc, kept, ended⟩
  · exact .inl same
  · exact .inr ⟨deleted, wc, kept, by omega⟩

/-- The same window written under a key, after `last`, keeps every key's agreement. -/
theorem Agrees.update {last now : Int} {counts kept : String → Option WindowCount}
    (agree : ∀ k, Agrees last (counts k) (kept k)) (later : last ≤ now) (key : String) (wc : Option WindowCount)
    (k : String) : Agrees now (Function.update counts key wc k) (Function.update kept key wc k) := by
  by_cases hit : k = key
  · subst hit
    simp only [Function.update_same]
    exact .inl rfl
  · simp only [Function.update_noteq hit]
    exact (agree k).later later

/-- A deleted window answers as the ended one it replaces. -/
theorem Agrees.windowStep_eq {last now : Int} {cleaned kept : Option WindowCount}
    (agrees : Agrees last cleaned kept) (later : last ≤ now) (window maxCount : Int) :
    windowStep window maxCount now cleaned = windowStep window maxCount now kept := by
  rcases agrees with same | ⟨rfl, wc, rfl, ended⟩
  · rw [same]
  · simp [windowStep, show now > wc.resetTime by omega]

theorem Agrees.cleanup {last now : Int} {cleaned kept : Option WindowCount} (agrees : Agrees last cleaned kept)
    (later : last ≤ now) : Agrees now (cleaned.filter fun wc => !decide (now > wc.resetTime)) kept := by
  rcases agrees with rfl | ⟨rfl, wc, kept, ended⟩
  · cases cleaned with
    | none => exact .inl rfl
    | some wc =>
      by_cases ended : now > wc.resetTime
      · exact .inr ⟨by simp [Option.filter, ended], wc, rfl, ended⟩
      · exact .inl (by simp [Option.filter, ended])
  · exact .inr ⟨rfl, wc, kept, by omega⟩

theorem timeOf_eq_some {key : String} {c : SamplerCall} {t : Int} (found : c.timeOf key = some t) :
    t = c.time := by
  cases c with
  | sample level msg now =>
    simp only [SamplerCall.timeOf] at found
    split at found <;> simp_all [SamplerCall.time]
  | cleanup now => cases found

theorem timeOf_sample_self (level : Level) (msg : String) (now : Int) :
    (SamplerCall.sample level msg now).timeOf (sampleKey level msg) = some now := if_pos rfl

theorem timeOf_sample_of_ne {level : Level} {msg key : String} (now : Int) (other : sampleKey level msg ≠ key) :
    (SamplerCall.sample level msg now).timeOf key = none := if_neg other

theorem answerOf_self (key : String) (r : Int × Bool) : answerOf key (key, r) = some r := if_pos rfl

theorem answerOf_of_ne {key k : String} (r : Int × Bool) (other : k ≠ key) : answerOf key (k, r) = none :=
  if_neg other

/-- The simulation: from a sampler whose windows agree with `kept`, every key's answers over
a run of calls no earlier than `last` are those of `windowRun` on that key's messages alone,
from its window in `kept`. -/
theorem run_answerOf (key : String) :
    ∀ (calls : List SamplerCall) (s : WindowSampler) (kept : String → Option WindowCount) (last : Int),
      (∀ k, Agrees last (s.counts k) (kept k)) → (∀ c ∈ calls, last ≤ c.time) →
      calls.Pairwise (fun c d => c.time ≤ d.time) →
      (s.run calls).2.filterMap (answerOf key) =
        (windowRun s.window s.maxCount (kept key) (calls.filterMap (·.timeOf key))).2
  | [], _, _, _, _, _, _ => rfl
  | .sample level msg now :: calls, s, kept, last, agree, later, sorted => by
    obtain ⟨afterNow, sorted⟩ := List.pairwise_cons.mp sorted
    have now_le : last ≤ now := later _ (List.mem_cons_self _ _)
    have same : windowStep s.window s.maxCount now (s.counts (sampleKey level msg)) =
        windowStep s.window s.maxCount now (kept (sampleKey level msg)) :=
      (agree _).windowStep_eq now_le _ _
    have agree' : ∀ k, Agrees now ((s.sample now level msg).1.counts k)
        (Function.update kept (sampleKey level msg)
          (windowStep s.window s.maxCount now (kept (sampleKey level msg))).1 k) := by
      rw [WindowSampler.sample_eq, same]
      exact Agrees.update agree now_le _ _
    have rest := run_answerOf key calls _ _ now agree' afterNow sorted
    simp only [WindowSampler.sample_eq, same] at rest
    simp only [WindowSampler.run, WindowSampler.sample_eq, same]
    by_cases hit : sampleKey level msg = key
    · subst hit
      rw [List.filterMap_cons_some (answerOf_self _ _), List.filterMap_cons_some (timeOf_sample_self _ _ _)]
      simp only [windowRun, rest, Function.update_same]
    · rw [List.filterMap_cons_none (answerOf_of_ne _ hit), List.filterMap_cons_none (timeOf_sample_of_ne _ hit),
        rest, Function.update_noteq (Ne.symm hit)]
  | .cleanup now :: calls, s, kept, last, agree, later, sorted => by
    obtain ⟨afterNow, sorted⟩ := List.pairwise_cons.mp sorted
    have now_le : last ≤ now := later _ (List.mem_cons_self _ _)
    exact run_answerOf key calls (s.cleanup now) kept now (fun k => (agree k).cleanup now_le) afterNow sorted

theorem exists_lower_bound {α : Type} (f : α → Int) : ∀ xs : List α, ∃ low, ∀ x ∈ xs, low ≤ f x
  | [] => ⟨0, fun _ mem => by cases mem⟩
  | x :: xs => by
    obtain ⟨low, below⟩ := exists_lower_bound f xs
    refine ⟨min (f x) low, fun y mem => ?_⟩
    rcases List.mem_cons.mp mem with rfl | mem
    · exact Int.min_le_left _ _
    · exact Int.le_trans (Int.min_le_right _ _) (below y mem)

/-- However the keys' messages and the cleanup ticks interleave, the answers a new sampler
gives one key's messages are those of one window that sees that key's messages alone, with
no cleanup. -/
theorem run_refines_windowRun (window maxCount : Int) (key : String) (calls : List SamplerCall)
    (sorted : calls.Pairwise fun c d => c.time ≤ d.time) :
    ((newWindowSampler window maxCount).run calls).2.filterMap (answerOf key) =
      (windowRun window (newWindowSampler window maxCount).maxCount none (calls.filterMap (·.timeOf key))).2 := by
  obtain ⟨low, below⟩ := exists_lower_bound SamplerCall.time calls
  exact run_answerOf key calls _ (fun _ => none) low (fun _ => .inl rfl) below sorted

/-- An info and a warning with the same text, then a cleanup tick that deletes both windows. -/
theorem run_refines_windowRun_cleanup_between :
    ((newWindowSampler 5 1).run
        [.sample infoLevel "a" 0, .sample warnLevel "a" 1, .cleanup 6, .sample infoLevel "a" 7]).2.filterMap
        (answerOf "info:a") =
      (windowRun 5 (newWindowSampler 5 1).maxCount none
        ([SamplerCall.sample infoLevel "a" 0, .sample warnLevel "a" 1, .cleanup 6, .sample infoLevel "a" 7].filterMap
          (·.timeOf "info:a"))).2 :=
  run_refines_windowRun 5 1 "info:a" _ (by decide)

/-! ### How many messages an interval holds -/

/-- The sampled messages among `answers` whose instant satisfies `p`. -/
def sampledIn (p : Int → Prop) [DecidablePred p] (answers : List (Int × Bool)) : Nat :=
  answers.countP fun r => r.2 && decide (p r.1)

section Counting

variable {p q r : Int → Prop} [DecidablePred p] [DecidablePred q] [DecidablePred r]

@[simp]
theorem sampledIn_append_singleton (answers : List (Int × Bool)) (t : Int) (b : Bool) :
    sampledIn p (answers ++ [(t, b)]) = sampledIn p answers + if b ∧ p t then 1 else 0 := by
  simp only [sampledIn, List.countP_append, List.countP_singleton]
  cases b <;> simp

theorem sampledIn_mono (answers : List (Int × Bool)) (implies : ∀ t, p t → q t) :
    sampledIn p answers ≤ sampledIn q answers :=
  List.countP_mono_left fun x _ => by
    simp only [Bool.and_eq_true, decide_eq_true_eq]
    exact fun ⟨sampled, holds⟩ => ⟨sampled, implies _ holds⟩

theorem sampledIn_le_add (answers : List (Int × Bool)) (covers : ∀ t, p t → q t ∨ r t) :
    sampledIn p answers ≤ sampledIn q answers + sampledIn r answers := by
  induction answers with
  | nil => exact Nat.le_refl _
  | cons x answers ih =>
    simp only [sampledIn, List.countP_cons] at *
    have := covers x.1
    by_cases sampled : x.2 <;> by_cases hp : p x.1 <;> by_cases hq : q x.1 <;> by_cases hr : r x.1 <;>
      simp_all <;> omega

theorem sampledIn_eq_zero {answers : List (Int × Bool)} (never : ∀ x ∈ answers, x.2 = true → ¬p x.1) :
    sampledIn p answers = 0 :=
  List.countP_eq_zero.mpr fun x mem => by
    simp only [Bool.and_eq_true, decide_eq_true_eq, not_and]
    exact never x mem

end Counting

section Bound

variable (window maxCount : Int)

/-- What a key's window `wc` says of the answers before it, all at `last` or earlier. The
window opened at `wc.resetTime - window` with a sampled message, at most `last`, and the
`count` messages sampled since are all before it ends, at most `maxCount`. Before it, an
interval of length `window` that reaches into it holds at most `maxCount - 1` sampled
messages, and one that does not at most `2 * maxCount - 1`. -/
structure EpochInv (last : Int) (wc : WindowCount) (answers : List (Int × Bool)) : Prop where
  opened_le : wc.resetTime - window ≤ last
  before_end : ∀ x ∈ answers, x.2 = true → wc.resetTime - window ≤ x.1 → x.1 ≤ wc.resetTime
  count_eq : (sampledIn (wc.resetTime - window ≤ ·) answers : Int) = wc.count
  opener : (sampledIn (wc.resetTime - window < ·) answers : Int) + 1 ≤ wc.count
  count_le : wc.count ≤ maxCount
  previous : ∀ a, wc.resetTime - window - window ≤ a →
    (sampledIn (fun t => a ≤ t ∧ t < wc.resetTime - window) answers : Int) + 1 ≤ maxCount
  earlier : ∀ a, a + window < wc.resetTime - window →
    (sampledIn (fun t => a ≤ t ∧ t ≤ a + window) answers : Int) + 1 ≤ 2 * maxCount

/-- What a key's window, or its absence, says of the answers before it. -/
def Epochs (last : Int) : Option WindowCount → List (Int × Bool) → Prop
  | none, answers => ∀ x ∈ answers, x.2 = false
  | some wc, answers => EpochInv window maxCount last wc answers

variable {window maxCount}

/-- Every interval of length `window` holds at most `2 * maxCount - 1` sampled messages: it
reaches into the current window and the one before it, and can hold the opening message of
only one of them. -/
theorem EpochInv.bound {last : Int} {wc : WindowCount} {answers : List (Int × Bool)}
    (holds : EpochInv window maxCount last wc answers) (a : Int) :
    (sampledIn (fun t => a ≤ t ∧ t ≤ a + window) answers : Int) + 1 ≤ 2 * maxCount := by
  have := holds.count_le
  by_cases before : a + window < wc.resetTime - window
  · exact holds.earlier a before
  by_cases reaches : a ≤ wc.resetTime - window
  · have split := sampledIn_le_add (q := fun t => a ≤ t ∧ t < wc.resetTime - window)
      (r := (wc.resetTime - window ≤ ·)) answers (p := fun t => a ≤ t ∧ t ≤ a + window) fun t _ => by omega
    have := holds.previous a (by omega)
    have := holds.count_eq
    omega
  · have inside := sampledIn_mono (p := fun t => a ≤ t ∧ t ≤ a + window) (q := (wc.resetTime - window < ·))
      answers fun t within => by omega
    have := holds.opener
    omega

theorem Epochs.bound {last : Int} {wc : Option WindowCount} {answers : List (Int × Bool)} (one : 1 ≤ maxCount)
    (holds : Epochs window maxCount last wc answers) (a : Int) :
    (sampledIn (fun t => a ≤ t ∧ t ≤ a + window) answers : Int) + 1 ≤ 2 * maxCount := by
  cases wc with
  | none =>
    rw [sampledIn_eq_zero fun x mem sampled => absurd sampled (by simp [holds x mem])]
    omega
  | some wc => exact EpochInv.bound holds a

/-- A message at `now` that opens a new window `wc`, sampled. -/
theorem EpochInv.start {now : Int} {wc : WindowCount} {answers : List (Int × Bool)} (nonneg : 0 ≤ window)
    (one : 1 ≤ maxCount) (opens : wc.resetTime - window = now) (single : wc.count = 1)
    (before : ∀ x ∈ answers, x.2 = true → x.1 < now)
    (previous : ∀ a, now - window ≤ a → (sampledIn (fun t => a ≤ t ∧ t < now) answers : Int) + 1 ≤ maxCount)
    (earlier : ∀ a, a + window < now →
      (sampledIn (fun t => a ≤ t ∧ t ≤ a + window) answers : Int) + 1 ≤ 2 * maxCount) :
    EpochInv window maxCount now wc (answers ++ [(now, true)]) := by
  have none_since : ∀ {q : Int → Prop} [DecidablePred q], (∀ t, q t → now ≤ t) → sampledIn q answers = 0 :=
    fun later => sampledIn_eq_zero fun x mem sampled within => by
      have := later _ within
      have := before x mem sampled
      omega
  refine ⟨by omega, fun x mem sampled within => ?_, ?_, ?_, by omega, fun a lo => ?_, fun a lo => ?_⟩
  · rcases List.mem_append.mp mem with mem | mem
    · have := before x mem sampled
      omega
    · obtain rfl := List.mem_singleton.mp mem
      omega
  · simp [opens, none_since fun t (h : now ≤ t) => h, single]
  · simp [opens, none_since fun t (h : now < t) => Int.le_of_lt h, single]
  · simpa [opens] using previous a (by omega)
  · simpa [opens, show ¬now ≤ a + window by omega] using earlier a (by omega)

/-- A message after the window has ended opens a new one. -/
theorem EpochInv.restart {last now : Int} {wc : WindowCount} {answers : List (Int × Bool)} (nonneg : 0 ≤ window)
    (one : 1 ≤ maxCount) (holds : EpochInv window maxCount last wc answers) (later : last ≤ now)
    (ended : now > wc.resetTime) :
    EpochInv window maxCount now ⟨1, now + window⟩ (answers ++ [(now, true)]) := by
  have opened := holds.opened_le
  refine EpochInv.start nonneg one (Int.add_sub_cancel now window) rfl (fun x mem sampled => ?_) (fun a lo => ?_)
    (fun a _ => holds.bound a)
  · have := holds.before_end x mem sampled
    by_cases since : wc.resetTime - window ≤ x.1
    · have := this since
      omega
    · omega
  · have inside := sampledIn_mono (p := fun t => a ≤ t ∧ t < now) (q := (wc.resetTime - window < ·))
      answers fun t within => by omega
    have := holds.opener
    have := holds.count_le
    omega

/-- A message before the window ends, below the count, is sampled and counted. -/
theorem EpochInv.admit {last now : Int} {wc : WindowCount} {answers : List (Int × Bool)}
    (holds : EpochInv window maxCount last wc answers) (later : last ≤ now) (inside : ¬now > wc.resetTime)
    (counted : wc.count < maxCount) :
    EpochInv window maxCount now ⟨wc.count + 1, wc.resetTime⟩ (answers ++ [(now, true)]) := by
  have opened := holds.opened_le
  have := holds.opener
  have := holds.count_eq
  refine ⟨?_, fun x mem sampled since => ?_, ?_, ?_, ?_, fun a lo => ?_, fun a lo => ?_⟩ <;> dsimp only at *
  · omega
  · rcases List.mem_append.mp mem with mem | mem
    · exact holds.before_end x mem sampled since
    · obtain rfl := List.mem_singleton.mp mem
      omega
  · simp only [sampledIn_append_singleton, true_and, if_pos (show wc.resetTime - window ≤ now by omega)]
    push_cast
    omega
  · simp only [sampledIn_append_singleton, true_and]
    split <;> push_cast <;> omega
  · omega
  · simpa [show ¬now < wc.resetTime - window by omega] using holds.previous a lo
  · simpa [show ¬now ≤ a + window by omega] using holds.earlier a lo

/-- A message before a full window ends is refused and changes nothing. -/
theorem EpochInv.refuse {last now : Int} {wc : WindowCount} {answers : List (Int × Bool)}
    (holds : EpochInv window maxCount last wc answers) (later : last ≤ now) :
    EpochInv window maxCount now wc (answers ++ [(now, false)]) := by
  have opened := holds.opened_le
  refine ⟨by omega, fun x mem sampled since => ?_, ?_, ?_, holds.count_le, fun a lo => ?_, fun a lo => ?_⟩
  · rcases List.mem_append.mp mem with mem | mem
    · exact holds.before_end x mem sampled since
    · obtain rfl := List.mem_singleton.mp mem
      cases sampled
  · simpa using holds.count_eq
  · simpa using holds.opener
  · simpa using holds.previous a lo
  · simpa using holds.earlier a lo

/-- One step of a key's window keeps what it says of the answers. -/
theorem Epochs.step {last now : Int} {wc : Option WindowCount} {answers : List (Int × Bool)}
    (nonneg : 0 ≤ window) (one : 1 ≤ maxCount) (holds : Epochs window maxCount last wc answers)
    (later : last ≤ now) :
    Epochs window maxCount now (windowStep window maxCount now wc).1
      (answers ++ [(now, (windowStep window maxCount now wc).2)]) := by
  cases wc with
  | none =>
    have never : ∀ x ∈ answers, x.2 = true → False := fun x mem sampled => by simp [holds x mem] at sampled
    refine EpochInv.start nonneg one (Int.add_sub_cancel now window) rfl (fun x mem sampled => (never x mem sampled).elim)
      (fun a _ => ?_) (fun a _ => ?_) <;>
    · rw [sampledIn_eq_zero fun x mem sampled => (never x mem sampled).elim]
      omega
  | some wc =>
    simp only [windowStep]
    split
    · exact EpochInv.restart nonneg one holds later ‹_›
    · split
      · exact EpochInv.admit holds later ‹_› ‹_›
      · exact EpochInv.refuse holds later

/-- Over every run of one key's window whose instants never decrease, every interval of
length `window` holds at most `2 * maxCount - 1` sampled messages. -/
theorem Epochs.windowRun_bound (nonneg : 0 ≤ window) (one : 1 ≤ maxCount) :
    ∀ (times : List Int) (wc : Option WindowCount) (answers : List (Int × Bool)) (last : Int),
      Epochs window maxCount last wc answers → (∀ t ∈ times, last ≤ t) → times.Pairwise (· ≤ ·) →
      ∀ a, (sampledIn (fun t => a ≤ t ∧ t ≤ a + window) (answers ++ (windowRun window maxCount wc times).2) : Int) + 1 ≤
        2 * maxCount
  | [], _, _, _, holds, _, _ => fun a => by simpa [windowRun] using holds.bound one a
  | now :: times, _, answers, _, holds, later, sorted => fun a => by
    obtain ⟨afterNow, sorted⟩ := List.pairwise_cons.mp sorted
    have := Epochs.windowRun_bound nonneg one times _ _ now (holds.step nonneg one (later now (List.mem_cons_self _ _)))
      afterNow sorted a
    simpa [windowRun] using this

end Bound

theorem length_filter_answerOf (key : String) (p : Int → Prop) [DecidablePred p] :
    ∀ answers : List (String × Int × Bool),
      (answers.filter fun x => x.1 = key ∧ p x.2.1 ∧ x.2.2 = true).length = sampledIn p (answers.filterMap (answerOf key))
  | [] => rfl
  | x :: answers => by
    have ih := length_filter_answerOf key p answers
    unfold sampledIn at ih ⊢
    by_cases hit : x.1 = key
    · rw [List.filterMap_cons_some (show answerOf key x = some x.2 from if_pos hit), List.filter_cons,
        List.countP_cons, ← ih]
      by_cases within : p x.2.1 <;> by_cases sampled : x.2.2 <;> simp [hit, within, sampled]
    · rw [List.filterMap_cons_none (show answerOf key x = none from if_neg hit), List.filter_cons, ← ih]
      simp [hit]

/-- Over every run whose instants never decrease, with any keys and cleanup ticks
interleaved, every closed interval of length `window` holds at most `2 * maxCount - 1`
sampled messages of one key. -/
theorem sampled_in_window_le (window maxCount : Int) (key : String) (calls : List SamplerCall)
    (sorted : calls.Pairwise fun c d => c.time ≤ d.time) (a : Int) :
    ((((newWindowSampler window maxCount).run calls).2.filter fun x =>
        x.1 = key ∧ (a ≤ x.2.1 ∧ x.2.1 ≤ a + window) ∧ x.2.2 = true).length : Int) ≤
      2 * (newWindowSampler window maxCount).maxCount - 1 := by
  have one : 1 ≤ (newWindowSampler window maxCount).maxCount := by
    simp only [newWindowSampler]
    split <;> omega
  obtain ⟨low, below⟩ := exists_lower_bound SamplerCall.time calls
  rw [length_filter_answerOf key (fun t => a ≤ t ∧ t ≤ a + window),
    run_answerOf key calls _ (fun _ => none) low (fun _ => .inl rfl) below sorted]
  by_cases nonneg : 0 ≤ window
  · have sortedTimes : (calls.filterMap (·.timeOf key)).Pairwise (· ≤ ·) :=
      sorted.filterMap _ fun c d ordered t found t' found' => by
        rw [timeOf_eq_some found, timeOf_eq_some found']
        exact ordered
    obtain ⟨first, atFirst⟩ := exists_lower_bound id (calls.filterMap (·.timeOf key))
    have := Epochs.windowRun_bound nonneg one _ none [] first (fun _ mem => by cases mem) atFirst sortedTimes a
    simp only [List.nil_append] at this
    exact Int.le_sub_right_of_add_le this
  · rw [sampledIn_eq_zero fun x _ _ within => nonneg (by omega)]
    omega

theorem sampled_in_window_le_one_second :
    ((((newWindowSampler 1000000000 2).run
        [.sample errorLevel "db down" 0, .sample errorLevel "db down" 1000000000, .cleanup 60000000000]).2.filter
        fun x => x.1 = "error:db down" ∧ (0 ≤ x.2.1 ∧ x.2.1 ≤ 0 + 1000000000) ∧ x.2.2 = true).length : Int) ≤
      2 * (newWindowSampler 1000000000 2).maxCount - 1 :=
  sampled_in_window_le 1000000000 2 "error:db down" _ (by decide) 0

theorem windowRun_append (window maxCount : Int) :
    ∀ (wc : Option WindowCount) (xs ys : List Int),
      windowRun window maxCount wc (xs ++ ys) =
        ((windowRun window maxCount (windowRun window maxCount wc xs).1 ys).1,
          (windowRun window maxCount wc xs).2 ++ (windowRun window maxCount (windowRun window maxCount wc xs).1 ys).2)
  | _, [], _ => rfl
  | wc, x :: xs, ys => by
    rw [List.cons_append]
    simp only [windowRun, windowRun_append _ _ _ xs ys, List.cons_append]

/-- Messages at one instant inside a window that has room for them are all sampled. -/
theorem windowRun_replicate {window maxCount now : Int} :
    ∀ (n : Nat) (count resetTime : Int), now ≤ resetTime → count + n ≤ maxCount →
      windowRun window maxCount (some ⟨count, resetTime⟩) (List.replicate n now) =
        (some ⟨count + n, resetTime⟩, List.replicate n (now, true))
  | 0, count, _, _, _ => by simp [windowRun]
  | n + 1, count, resetTime, notEnded, fits => by
    simp only [List.replicate_succ, windowRun, windowStep, if_neg (show ¬now > resetTime by omega),
      if_pos (show count < maxCount by omega),
      @windowRun_replicate window maxCount now n (count + 1) resetTime notEnded (by omega)]
    rw [show count + 1 + (n : Int) = count + ((n + 1 : Nat) : Int) by omega]

/-- For every window of at least a nanosecond, every `maxCount` of at least one and every
key, one message opening a window at `t`, `maxCount - 1` more when it ends and `maxCount` just
after fill the closed interval of length `window` from `t + 1` with `2 * maxCount - 1` sampled
messages. -/
theorem sampled_in_window_reaches (window : Int) (maxCount : Nat) (level : Level) (msg : String) (t : Int)
    (positive : 1 ≤ window) (one : 1 ≤ maxCount) :
    ((((newWindowSampler window maxCount).run
        (.sample level msg t :: (List.replicate (maxCount - 1) (.sample level msg (t + window)) ++
          List.replicate maxCount (.sample level msg (t + window + 1))))).2.filter fun x =>
        x.1 = sampleKey level msg ∧ (t + 1 ≤ x.2.1 ∧ x.2.1 ≤ t + 1 + window) ∧ x.2.2 = true).length : Int) =
      2 * maxCount - 1 := by
  obtain ⟨k, rfl⟩ : ∃ k, maxCount = k + 1 := ⟨maxCount - 1, by omega⟩
  have sorted : (SamplerCall.sample level msg t :: (List.replicate (k + 1 - 1) (.sample level msg (t + window)) ++
      List.replicate (k + 1) (.sample level msg (t + window + 1)))).Pairwise fun c d => c.time ≤ d.time := by
    simp only [List.pairwise_cons, List.pairwise_append, List.pairwise_replicate, List.mem_append,
      List.mem_replicate]
    refine ⟨fun c mem => ?_, ⟨.inr (Int.le_refl _), .inr (Int.le_refl _), fun c mem d mem' => ?_⟩⟩
    · rcases mem with ⟨_, rfl⟩ | ⟨_, rfl⟩ <;> simp only [SamplerCall.time] <;> omega
    · rw [mem.2, mem'.2]
      simp only [SamplerCall.time]
      omega
  have maxCount_eq : (newWindowSampler window ((k + 1 : Nat) : Int)).maxCount = ((k + 1 : Nat) : Int) := by
    simp only [newWindowSampler]
    split <;> omega
  obtain ⟨low, below⟩ := exists_lower_bound SamplerCall.time _
  rw [length_filter_answerOf (sampleKey level msg) (fun u => t + 1 ≤ u ∧ u ≤ t + 1 + window),
    run_answerOf _ _ _ (fun _ => none) low (fun _ => .inl rfl) below sorted, maxCount_eq,
    List.filterMap_cons_some (timeOf_sample_self _ _ _), List.filterMap_append,
    List.filterMap_replicate_of_some (timeOf_sample_self _ _ _), List.filterMap_replicate_of_some (timeOf_sample_self _ _ _),
    List.replicate_succ]
  simp only [newWindowSampler, Nat.add_sub_cancel, windowRun, windowStep, windowRun_append]
  rw [@windowRun_replicate window _ (t + window) k 1 (t + window) (Int.le_refl _) (by push_cast; omega)]
  simp only [if_pos (show t + window + 1 > t + window by omega)]
  rw [@windowRun_replicate window _ (t + window + 1) k 1 _ (by omega) (by push_cast; omega)]
  simp only [sampledIn, List.countP_cons, List.countP_append, List.countP_replicate, Bool.true_and,
    decide_eq_true_eq, if_neg (show ¬(t + 1 ≤ t ∧ t ≤ t + 1 + window) by omega),
    if_pos (show t + 1 ≤ t + window ∧ t + window ≤ t + 1 + window by omega),
    if_pos (show t + 1 ≤ t + window + 1 ∧ t + window + 1 ≤ t + 1 + window by omega)]
  push_cast
  omega

theorem sampled_in_window_reaches_one_second :
    ((((newWindowSampler 1000000000 (3 : Nat)).run
        (.sample errorLevel "db down" 0 :: (List.replicate (3 - 1) (.sample errorLevel "db down" (0 + 1000000000)) ++
          List.replicate 3 (.sample errorLevel "db down" (0 + 1000000000 + 1))))).2.filter fun x =>
        x.1 = sampleKey errorLevel "db down" ∧ (0 + 1 ≤ x.2.1 ∧ x.2.1 ≤ 0 + 1 + 1000000000) ∧ x.2.2 = true).length : Int) =
      2 * (3 : Nat) - 1 :=
  sampled_in_window_reaches 1000000000 3 errorLevel "db down" 0 (by decide) (by decide)

/-! ### Keys -/

theorem level_string_colon_free (l : Level) : ':' ∉ l.string.data := by
  unfold Level.string
  repeat' split
  all_goals decide

theorem append_colon_inj {xs ys xs' ys' : List Char} (free : ':' ∉ xs) (free' : ':' ∉ xs') :
    xs ++ ':' :: ys = xs' ++ ':' :: ys' ↔ xs = xs' ∧ ys = ys' := by
  induction xs generalizing xs' with
  | nil =>
    cases xs' with
    | nil => simp
    | cons c' xs' =>
      have other : ':' ≠ c' := fun same => free' (same ▸ List.mem_cons_self _ _)
      simp [other]
  | cons c xs ih =>
    have other : c ≠ ':' := fun same => free (same ▸ List.mem_cons_self _ _)
    cases xs' with
    | nil => simp [other]
    | cons c' xs' =>
      simp only [List.cons_append, List.cons.injEq, ih (fun mem => free (List.mem_cons_of_mem _ mem))
        (fun mem => free' (List.mem_cons_of_mem _ mem))]
      exact and_assoc.symm

/-- Two calls of `Sample` share a window exactly when their levels have the same name and
their messages are equal, whatever `:` the messages hold. -/
theorem sampleKey_eq_iff (level level' : Level) (msg msg' : String) :
    sampleKey level msg = sampleKey level' msg' ↔ level.string = level'.string ∧ msg = msg' := by
  simp only [sampleKey, String.ext_iff, String.data_append, List.append_assoc,
    show (":" : String).data = [':'] from rfl, List.singleton_append]
  exact append_colon_inj (level_string_colon_free level) (level_string_colon_free level')

end Goupter.Log
