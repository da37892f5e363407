import Goupter.Cache.Memory.Semantics

/-!
# `SetNX` as a lock

`memoryCache.SetNX` checks that the key is not live and writes it in one critical
section. Over a serial history of the store, then, once a `SetNX` of a key has created it,
no other `SetNX` of the key succeeds until a call deletes the key (`Delete`, `MDelete`)
or the store holds the key's item expired (`setNX_excludes`): every other call, and a
cleanup pass, leaves a live key live at its instant, except an `Expire` that gives it an
expiry already past, after which the store holds it expired (`live_apply`).
-/

namespace Goupter.Cache

namespace Event

variable {α : Type}

/-- Whether a call deletes `key`: `Delete` of it, or `MDelete` of a list with it. -/
def kills (key : String) : Event α → Bool
  | call _ (.delete k) => decide (k = key)
  | call _ (.mdelete keys) => decide (key ∈ keys)
  | _ => false

end Event

namespace MemoryCache

variable {α : Type} (codec : Codec α)

/-- The store holds an item for `key` that has expired by `now`. -/
def holdsExpired (c : MemoryCache) (now : Int) (key : String) : Bool :=
  match c.data key with
  | some item => item.isExpired now
  | none => false

/-- The effect of one step of a history on the store. -/
def apply : Event α → MemoryCache → MemoryCache
  | .call now op, c => (c.perform codec now op).1
  | .sweep now, c => c.cleanup now

theorem replay_append (events : List (Event α)) (e : Event α) (c : MemoryCache) :
    (replay codec (events ++ [e]) c).1 = apply codec e (replay codec events c).1 := by
  induction events generalizing c with
  | nil => cases e <;> rfl
  | cons event events ih => cases event <;> exact ih _

/-- The store before the `m`-th step of a history. -/
def before (c : MemoryCache) (history : List (Event α)) (m : Nat) : MemoryCache :=
  (replay codec (history.take m) c).1

theorem before_succ (c : MemoryCache) {history : List (Event α)} {m : Nat} {e : Event α}
    (atM : history[m]? = some e) :
    before codec c history (m + 1) = apply codec e (before codec c history m) := by
  obtain ⟨inRange, rfl⟩ := List.getElem?_eq_some_iff.mp atM
  rw [before, List.take_succ, List.getElem?_eq_getElem inRange, Option.toList_some, replay_append]
  rfl

section Live

variable {c : MemoryCache} {key : String}

theorem live_eq_of_data_eq {c' : MemoryCache} (same : c'.data key = c.data key) (now : Int) :
    c'.live now key = c.live now key := by
  simp only [live, same]

/-- A key live at `now` is live later unless the store holds its item expired then. -/
theorem live_of_not_holdsExpired {now later : Int} (before : now ≤ later)
    (isLive : (c.live now key).isSome) (fresh : c.holdsExpired later key = false) :
    (c.live later key).isSome := by
  obtain ⟨item, wasLive⟩ := Option.isSome_iff_exists.mp isLive
  have stored := data_of_live wasLive
  simp only [holdsExpired, stored] at fresh
  simp [live_of_le c before, wasLive, fresh, Option.filter]

theorem live_mset {now : Int} (items : List (String × Except Error Json)) (ttl : Int)
    (isLive : (c.live now key).isSome) : ((c.mset now items ttl).1.live now key).isSome := by
  induction items generalizing c with
  | nil => exact isLive
  | cons item items ih =>
    obtain ⟨k, _ | data⟩ := item
    · exact isLive
    · apply ih
      rw [live_insert_make]
      split
      · rfl
      · exact isLive

theorem holdsExpired_of_le {c : MemoryCache} {now later : Int} (before : now ≤ later)
    (expired : c.holdsExpired now key = true) : c.holdsExpired later key = true := by
  unfold holdsExpired at expired ⊢
  split at expired
  · rename_i item _
    cases fresh : item.isExpired later
    · rw [CacheItem.not_isExpired_of_le before fresh] at expired
      cases expired
    · rfl
  · cases expired

/-- A call that does not delete `key`, and a cleanup pass, leave it live at their
instant, or, for an `Expire` to an instant already past, held expired. -/
theorem live_apply {e : Event α} (isLive : (c.live e.time key).isSome) (keeps : e.kills key = false) :
    ((apply codec e c).live e.time key).isSome ∨ (apply codec e c).holdsExpired e.time key = true := by
  cases e with
  | sweep now => rw [apply, Event.time, live_cleanup]; exact .inl isLive
  | call now op =>
    simp only [Event.time] at isLive ⊢
    by_cases untouched : op.writes key = false
    · left
      rwa [apply, perform, live_eq_of_data_eq (performIn_data_of_not_writes c (.at now) codec untouched)]
    cases op with
    | set k value ttl =>
      obtain rfl : key = k := by simpa [Op.writes] using untouched
      cases value with
      | ok data => simp [apply, perform, performIn, set]
      | error => exact .inl isLive
    | mset items ttl => exact .inl (live_mset items ttl isLive)
    | counter k op =>
      obtain rfl : key = k := by simpa [Op.writes] using untouched
      obtain ⟨item, written, noExpiry⟩ : ∃ item, (c.counter now key op).1 = c.insert key item ∧
          item.expiresAt = none := by
        cases op <;> exact ⟨_, rfl, rfl⟩
      simp [apply, perform, performIn, written, live_insert, CacheItem.isExpired, noExpiry]
    | setNX k value ttl =>
      obtain rfl : key = k := by simpa [Op.writes] using untouched
      obtain ⟨item, wasLive⟩ := Option.isSome_iff_exists.mp isLive
      simp [apply, perform, performIn, setNXAt, wasLive]
    | expire k ttl =>
      obtain rfl : key = k := by simpa [Op.writes] using untouched
      obtain ⟨item, wasLive⟩ := Option.isSome_iff_exists.mp isLive
      simp only [apply, perform, performIn, Reads.at_clock, expire, data_of_live wasLive, live_insert,
        holdsExpired, insert_data, if_true]
      cases ({ item with expiresAt := some (now + ttl) } : CacheItem).isExpired now <;> simp
    | delete k => simp_all [Event.kills, Op.writes]
    | mdelete keys => simp_all [Event.kills, Op.writes]
    | get | «exists» | mget | ttl | close | ping => simp [Op.writes] at untouched

theorem live_setNX_of_true {now : Int} {value : Except Error Json} {ttl : Int}
    (created : (c.setNX now key value ttl).2.1 = true) : ((c.setNX now key value ttl).1.live now key).isSome := by
  unfold setNX setNXAt at created ⊢
  split at created
  · cases created
  · cases value with
    | ok data => simp
    | error => cases created

end Live

theorem time_le_of_lt {history : List (Event α)} (ordered : List.Pairwise (· ≤ ·) (history.map Event.time))
    {i j : Nat} {e e' : Event α} (atI : history[i]? = some e) (atJ : history[j]? = some e') (earlier : i < j) :
    e.time ≤ e'.time := by
  obtain ⟨inRangeI, rfl⟩ := List.getElem?_eq_some_iff.mp atI
  obtain ⟨inRangeJ, rfl⟩ := List.getElem?_eq_some_iff.mp atJ
  have ordered' := List.pairwise_iff_getElem.mp ordered i j (by simpa using inRangeI)
    (by simpa using inRangeJ) earlier
  simpa only [List.getElem_map] using ordered'

/-- Once a `SetNX` of `key` at position `m₁` of a history has created it, a `SetNX` of `key`
at a later position `m₂` succeeds only if a call between them deleted the key, or the store
held the key's item expired at some step after `m₁` up to `m₂`. -/
theorem setNX_excludes (c : MemoryCache) (history : List (Event α))
    (ordered : List.Pairwise (· ≤ ·) (history.map Event.time)) {key : String} {m₁ m₂ : Nat}
    (earlier : m₁ < m₂) {t₁ t₂ ttl₁ ttl₂ : Int} {value₁ value₂ : Except Error Json}
    (at₁ : history[m₁]? = some (.call t₁ (.setNX key value₁ ttl₁)))
    (at₂ : history[m₂]? = some (.call t₂ (.setNX key value₂ ttl₂)))
    (first : ((before codec c history m₁).setNX t₁ key value₁ ttl₁).2.1 = true)
    (second : ((before codec c history m₂).setNX t₂ key value₂ ttl₂).2.1 = true) :
    ∃ m e, m₁ < m ∧ m ≤ m₂ ∧ history[m]? = some e ∧
      ((m < m₂ ∧ e.kills key = true) ∨ (before codec c history m).holdsExpired e.time key = true) := by
  refine Classical.byContradiction fun untouched => ?_
  simp only [not_exists, not_and, not_or, Bool.not_eq_true] at untouched
  have inRange := (List.getElem?_eq_some_iff.mp at₂).1
  have stays : ∀ d, m₁ + 1 + d ≤ m₂ → ∃ e, history[m₁ + d]? = some e ∧
      ((before codec c history (m₁ + 1 + d)).live e.time key).isSome := by
    intro d
    induction d with
    | zero =>
      intro _
      refine ⟨_, at₁, ?_⟩
      rw [before_succ codec c at₁]
      exact live_setNX_of_true first
    | succ d ih =>
      intro below
      obtain ⟨e, atD, isLive⟩ := ih (by omega)
      obtain ⟨e', atNext⟩ : ∃ e', history[m₁ + 1 + d]? = some e' :=
        ⟨_, List.getElem?_eq_getElem (by omega)⟩
      have notExpired := (untouched (m₁ + 1 + d) e' (by omega) (by omega) atNext).2
      have notKilled := (untouched (m₁ + 1 + d) e' (by omega) (by omega) atNext).1 (by omega)
      refine ⟨e', by rwa [show m₁ + (d + 1) = m₁ + 1 + d by omega], ?_⟩
      rw [show m₁ + 1 + (d + 1) = m₁ + 1 + d + 1 by omega, before_succ codec c atNext]
      rcases live_apply codec (live_of_not_holdsExpired (time_le_of_lt ordered atD atNext (by omega))
        isLive notExpired) notKilled with stillLive | expired
      · exact stillLive
      · obtain ⟨e'', atAfter⟩ : ∃ e'', history[m₁ + 1 + d + 1]? = some e'' :=
          ⟨_, List.getElem?_eq_getElem (by omega)⟩
        have seen := holdsExpired_of_le (time_le_of_lt ordered atNext atAfter (by omega)) expired
        rw [← before_succ codec c atNext] at seen
        exact absurd seen (by simpa using (untouched _ e'' (by omega) (by omega) atAfter).2)
  obtain ⟨e, atLast, isLive⟩ := stays (m₂ - m₁ - 1) (by omega)
  rw [show m₁ + 1 + (m₂ - m₁ - 1) = m₂ by omega] at isLive
  have stillLive := live_of_not_holdsExpired
    (time_le_of_lt ordered atLast at₂ (by omega)) isLive (untouched m₂ _ earlier (Nat.le_refl _) at₂).2
  obtain ⟨item, liveAtSecond⟩ := Option.isSome_iff_exists.mp stillLive
  simp only [Event.time] at liveAtSecond
  simp [setNX, setNXAt, liveAtSecond] at second

end MemoryCache

end Goupter.Cache
