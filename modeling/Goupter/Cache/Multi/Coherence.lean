import Goupter.Cache.Multi.Effects

/-!
# Coherence of the levels with the last one

Levels of in-process stores are coherent when no level before the last holds a key with
another value than the last level does (`Coherent`). Then whichever level answers `Get`,
it answers with the value the last level holds, when the last level holds the key
(`Coherent.get_result`).

Coherence says nothing of expiry. Each call of a store reads its own instants
(`clockedLevels`), so the items the methods write into different levels expire at
different instants: a fan-out times each level's item from that level's call, and the
backfill adds the duration the hit level's `TTL` measured to the reading of each `Set`.
A copy can therefore outlive the item of the last level, and `Get` then answers from a
level before the last although the last level holds the key expired, or has deleted it.

The fan-out methods write the same value into every level, `SetNX` copies what the last
level created, the backfill of `Get` copies the value of the hit item when the
destination's encoding gives back the documents it decodes, `Expire` changes expiries
only, and reads and cleanup passes write nothing (`Coherent.step`, `replayLevels_coherent`).
`MSet` keeps the levels coherent when every value encodes: each level's `range` visits
the map in its own order and stops at the first value that fails, so a failing `MSet` can
leave a key written in one level and not in another.

The counter methods are left out: they change the last level only, so a level before it
keeps the old value (`get_serves_stale_level_after_incr`).
-/

namespace Goupter.Cache

namespace MemoryCache

/-- No key is held by `c` and `c'` with two different values. -/
def Agrees (c c' : MemoryCache) : Prop :=
  ∀ key item item', c.data key = some item → c'.data key = some item' → item.value = item'.value

variable {c c' : MemoryCache}

/-- Agreement survives removing items from either store. -/
theorem Agrees.mono {d d' : MemoryCache} (agrees : c.Agrees c')
    (sub : ∀ key item, d.data key = some item → c.data key = some item)
    (sub' : ∀ key item, d'.data key = some item → c'.data key = some item) : d.Agrees d' :=
  fun key item item' held held' => agrees key item item' (sub key item held) (sub' key item' held')

/-- Writing into `c` an item whose value is the one `c'` holds for the key. -/
theorem Agrees.insert_left (agrees : c.Agrees c') {key : String} {item : CacheItem}
    (same : ∀ item', c'.data key = some item' → item.value = item'.value) : (c.insert key item).Agrees c' := by
  intro k found found' held held'
  rw [insert_data] at held
  split at held
  · cases held
    subst_vars
    exact same found' held'
  · exact agrees k found found' held held'

theorem Agrees.insert (agrees : c.Agrees c') (key : String) {item item' : CacheItem}
    (same : item.value = item'.value) : (c.insert key item).Agrees (c'.insert key item') := by
  intro k found found' held held'
  by_cases written : k = key
  · simp only [insert_data, written, if_true, Option.some.injEq] at held held'
    rw [← held, ← held', same]
  · simp only [insert_data, written, if_false] at held held'
    exact agrees k found found' held held'

theorem Agrees.erase (agrees : c.Agrees c') (key : String) : (c.erase key).Agrees (c'.erase key) :=
  agrees.mono (fun k item held => by rw [erase_data] at held; split at held <;> simp_all)
    fun k item held => by rw [erase_data] at held; split at held <;> simp_all

theorem Agrees.set (agrees : c.Agrees c') (now now' : Int) (key : String) (value : Except Error Json)
    (ttl : Int) : (c.set now key value ttl).1.Agrees (c'.set now' key value ttl).1 := by
  cases value with
  | error => exact agrees
  | ok data => exact agrees.insert key rfl

theorem Agrees.mdelete (agrees : c.Agrees c') (keys : List String) :
    (c.mdelete keys).Agrees (c'.mdelete keys) := by
  induction keys generalizing c c' with
  | nil => exact agrees
  | cons key keys ih => exact ih (agrees.erase key)

/-- `Expire` changes the expiry of an item, not its value. -/
theorem data_expire (now : Int) (key k : String) (ttl : Int) :
    ((c.expire now key ttl).data k).map CacheItem.value = (c.data k).map CacheItem.value := by
  unfold expire
  split
  · rename_i item held
    by_cases same : k = key
    · subst same
      simp [held]
    · simp [same]
  · rfl

theorem Agrees.expire (agrees : c.Agrees c') (now now' : Int) (key : String) (ttl : Int) :
    (c.expire now key ttl).Agrees (c'.expire now' key ttl) := by
  intro k item item' held held'
  have value := data_expire now key k ttl (c := c)
  have value' := data_expire now' key k ttl (c := c')
  rw [held, Option.map_some'] at value
  rw [held', Option.map_some'] at value'
  obtain ⟨old, wasHeld, oldValue⟩ := Option.map_eq_some'.mp value.symm
  obtain ⟨old', wasHeld', oldValue'⟩ := Option.map_eq_some'.mp value'.symm
  rw [← oldValue, ← oldValue']
  exact agrees k old old' wasHeld wasHeld'

theorem data_of_cleanupAt {«at» : String → Int} {key : String} {item : CacheItem}
    (held : (c.cleanupAt «at»).data key = some item) : c.data key = some item :=
  (Option.filter_eq_some.mp held).1

/-- Two `MSet`s of one map whose values all encode, each visiting the map in its own
order and reading its own instants, write every key with the same value. -/
theorem Agrees.msetAt (agrees : c.Agrees c') (items : List (String × Except Error Json)) (ttl : Int)
    (encode : ∀ item ∈ items, item.2.isOk = true) (distinct : (items.map Prod.fst).Nodup)
    (reads reads' : Reads) :
    (c.msetAt reads.clock (reads.order items) ttl).1.Agrees (c'.msetAt reads'.clock (reads'.order items) ttl).1 := by
  have visits : ∀ r : Reads, (∀ item ∈ r.order items, item.2.isOk = true) ∧ ((r.order items).map Prod.fst).Nodup ∧
      ((r.order items).map Prod.fst).Perm (items.map Prod.fst) := fun r =>
    ⟨fun item mem => encode item ((r.order_perm items).mem_iff.mp mem),
      ((r.order_perm items).map Prod.fst).nodup_iff.mpr distinct, (r.order_perm items).map Prod.fst⟩
  intro k item item' held held'
  by_cases written : k ∈ items.map Prod.fst
  · obtain ⟨⟨_, value⟩, mem, rfl⟩ := List.mem_map.mp written
    obtain ⟨data, rfl⟩ : ∃ data, value = .ok data := by
      cases value with
      | error => simp [Except.isOk, Except.toBool] at encode; exact absurd (encode _ _ mem) (by simp)
      | ok data => exact ⟨data, rfl⟩
    obtain ⟨_, stored⟩ := c.msetAt_data_of_mem ttl reads.clock _ (visits reads).1 (visits reads).2.1
      ((reads.order_perm items).mem_iff.mpr mem)
    obtain ⟨_, stored'⟩ := c'.msetAt_data_of_mem ttl reads'.clock _ (visits reads').1 (visits reads').2.1
      ((reads'.order_perm items).mem_iff.mpr mem)
    rw [stored, Option.some.injEq] at held
    rw [stored', Option.some.injEq] at held'
    rw [← held, ← held']
    rfl
  · rw [c.msetAt_data_not_mem ttl _ _ fun mem => written ((visits reads).2.2.mem_iff.mp mem)] at held
    rw [c'.msetAt_data_not_mem ttl _ _ fun mem => written ((visits reads').2.2.mem_iff.mp mem)] at held'
    exact agrees k item item' held held'

end MemoryCache

/-- The methods the levels stay coherent under: all but the counters, and `MSet` of a
map whose values all encode. The keys of the items of an `MSet` are distinct, as those of a
Go map are. -/
def Op.keepsLevelsCoherent {α : Type} : Op α → Bool
  | .counter .. => false
  | .mset items _ => items.all (·.2.isOk) && decide (items.map Prod.fst).Nodup
  | _ => true

namespace MultiLevelCache

open Prog

variable {α : Type} (codec : Codec α) (env : Nat → Reads) (t : Int) {stores : List MemoryCache}

/-- In-process levels are coherent when every level before the last agrees with it. -/
def Coherent (stores : List MemoryCache) : Prop :=
  ∀ j c last, j + 1 < stores.length → stores[j]? = some c → stores[stores.length - 1]? = some last →
    c.Agrees last

/-- Levels changed one by one, each by its own function, stay coherent when the change
of each level and the change of the last one keep their agreement. -/
theorem Coherent.pointwise (coherent : Coherent stores) {stores' : List MemoryCache}
    (length : stores'.length = stores.length) (f : Nat → MemoryCache → MemoryCache)
    (each : ∀ j, stores'[j]? = stores[j]?.map (f j))
    (keeps : ∀ j c last, j + 1 < stores.length → stores[j]? = some c →
      stores[stores.length - 1]? = some last → c.Agrees last → (f j c).Agrees (f (stores.length - 1) last)) :
    Coherent stores' := by
  intro j c last below atJ atLast
  rw [length] at below atLast
  rw [each, Option.map_eq_some'] at atJ atLast
  obtain ⟨c₀, atJ, rfl⟩ := atJ
  obtain ⟨last₀, atLast, rfl⟩ := atLast
  exact keeps j c₀ last₀ below atJ atLast (coherent j c₀ last₀ below atJ atLast)

/-- A cleanup pass of one level, at any instants, keeps the levels coherent. -/
theorem Coherent.sweep (coherent : Coherent stores) (level : Nat) («at» : String → Int) :
    Coherent (stores.modify (·.cleanupAt «at») level) := by
  have sub : ∀ j (c : MemoryCache) key item,
      (if level = j then c.cleanupAt «at» else c).data key = some item → c.data key = some item :=
    fun j c key item held => by
      split at held
      · exact MemoryCache.data_of_cleanupAt held
      · exact held
  exact coherent.pointwise (List.length_modify _ _ _) (fun j c => if level = j then c.cleanupAt «at» else c)
    (fun j => by rw [List.getElem?_modify]; rfl)
    fun j c last _ _ _ agrees => agrees.mono (sub j c) (sub _ last)

/-- The item a level holds is held by the last one with the same value, when the last one
holds the key. -/
theorem Coherent.last_agrees (coherent : Coherent stores) {i : Nat} {c : MemoryCache}
    (atI : stores[i]? = some c) {key : String} {item : CacheItem} (held : c.data key = some item)
    {item' : CacheItem} (held' : stores[stores.length - 1]?.bind (·.data key) = some item') :
    item.value = item'.value := by
  have inRange := (List.getElem?_eq_some_iff.mp atI).1
  obtain ⟨last, atLast, lastHeld⟩ := Option.bind_eq_some.mp held'
  by_cases isLast : i = stores.length - 1
  · subst isLast
    rw [atI, Option.some.injEq] at atLast
    subst atLast
    rw [held, Option.some.injEq] at lastHeld
    rw [lastHeld]
  · exact coherent i c last (by omega) atI atLast key item item' held lastHeld

section Get

variable (roundTrip : ∀ data v, (codec.unmarshal data v).2 = none →
  codec.marshal (codec.unmarshal data v).1 = .ok data)

include roundTrip

/-- The backfill of `Get` keeps the levels coherent: it writes the hit item's value into
levels above the hit, and the last level holds that value when it holds the key. -/
theorem Coherent.get_backfill (coherent : Coherent stores) (m : Nat) (key : String) (dest : α) :
    Coherent (run (clockedLevels codec env) t (get codec stores.length key dest) (stores, m)).1.1 := by
  rcases get_reads_through (clockedLevels codec env) t codec stores.length key dest (stores, m) with
    ⟨i, probes, _, failing, ⟨_, _, trace⟩ | ⟨_, d, found, calls, _, trace, _⟩⟩
  · rwa [run_clocked_of_reads codec env t _ _ fun e mem => by
      obtain ⟨_, _, _, same⟩ := failing e (trace ▸ mem)
      rw [same]
      rfl]
  have hit : ⟨i, .get key d, (found, none)⟩ ∈
      (run (clockedLevels codec env) t (get codec stores.length key dest) (stores, m)).2.2 := by
    simp [trace]
  obtain ⟨c, atHit, hitReply⟩ := hit_reply_clocked codec env t stores m key dest hit
  obtain ⟨c', atHit', state⟩ := get_state_clocked codec env t stores m key dest hit
  rw [atHit, Option.some.injEq] at atHit'
  subst atHit'
  obtain ⟨source, isLive, decoded⟩ := c.live_of_get _ _ hitReply
  have encodes : codec.marshal found = .ok source.value := by
    simpa [decoded] using roundTrip source.value d (by rw [decoded])
  have inRange := (List.getElem?_eq_some_iff.mp atHit).1
  refine coherent.pointwise (length_run_clocked codec env t _ _)
    (fun j c₀ => if j < i ∧ 0 < c.ttlAt ((env (m + i + 1)).clock 0) ((env (m + i + 1)).clock 1) key then
      (c₀.set ((env (m + i + 2 + j)).clock 0) key (codec.marshal found)
        (c.ttlAt ((env (m + i + 1)).clock 0) ((env (m + i + 1)).clock 1) key)).1 else c₀)
    (fun j => by rw [state]; split <;> rename_i copied <;> simp [copied]) fun j c₀ last below _ atLast agrees => ?_
  have notLast : ¬stores.length - 1 < i := by omega
  simp only [notLast, false_and, if_false]
  split
  · rw [encodes, MemoryCache.set_ok]
    exact agrees.insert_left fun item' held' =>
      coherent.last_agrees atHit (MemoryCache.data_of_live isLive) (by rw [atLast]; exact held')
  · exact agrees

end Get

/-- A fan-out keeps the levels coherent when its call keeps agreement whatever the two
calls read. -/
theorem Coherent.fanOut (coherent : Coherent stores) (m : Nat) (op : Op α) (errorOf : op.Reply → Option Error)
    (lastErr : Option Error)
    (keeps : ∀ (c last : MemoryCache) (reads reads' : Reads), c.Agrees last →
      (c.performIn codec reads op).1.Agrees (last.performIn codec reads' op).1) :
    Coherent (run (clockedLevels codec env) t (fanOut op errorOf 0 stores.length lastErr) (stores, m)).1.1 :=
  coherent.pointwise (length_run_clocked codec env t _ _) _
    (fanOut_state_clocked codec env t op errorOf lastErr stores m)
    fun _ c last _ _ _ agrees => keeps c last _ _ agrees

theorem Coherent.setNX (coherent : Coherent stores) (m : Nat) (key : String) (value : Except Error Json)
    (ttl : Int) :
    Coherent (run (clockedLevels codec env) t (setNX stores.length key value ttl : Prog α _) (stores, m)).1.1 := by
  obtain ⟨refused, created⟩ := setNX_state_clocked codec env t stores m key value ttl
  cases result : (run (clockedLevels codec env) t
      (MultiLevelCache.setNX stores.length key value ttl : Prog α _) (stores, m)).2.1.1
  · rwa [refused result]
  · obtain ⟨_, _, copied⟩ := created result
    exact coherent.pointwise (length_run_clocked codec env t _ _) _ copied
      fun _ _ _ _ _ _ agrees => agrees.set _ _ key value ttl

/-- Every method but the counters, and `MSet` only of a map whose values all encode,
keeps the levels coherent. -/
theorem Coherent.step
    (roundTrip : ∀ data v, (codec.unmarshal data v).2 = none →
      codec.marshal (codec.unmarshal data v).1 = .ok data)
    (coherent : Coherent stores) (m : Nat) (op : Op α) (allowed : op.keepsLevelsCoherent = true) :
    Coherent (run (clockedLevels codec env) t (program codec stores.length op) (stores, m)).1.1 := by
  cases op with
  | get key dest => exact coherent.get_backfill codec env t roundTrip m key dest
  | set key value ttl => exact coherent.fanOut codec env t m _ _ _ fun _ _ _ _ agrees => agrees.set _ _ key value ttl
  | delete key => exact coherent.fanOut codec env t m _ _ _ fun _ _ _ _ agrees => agrees.erase key
  | «exists» key => rwa [program, exists_state_clocked]
  | mget keys => rwa [program, mget_state_clocked]
  | mset items ttl =>
    simp only [Op.keepsLevelsCoherent, Bool.and_eq_true, List.all_eq_true, decide_eq_true_eq] at allowed
    exact coherent.fanOut codec env t m _ _ _ fun _ _ _ _ agrees => agrees.msetAt items ttl allowed.1 allowed.2 _ _
  | mdelete keys => exact coherent.fanOut codec env t m _ _ _ fun _ _ _ _ agrees => agrees.mdelete keys
  | setNX key value ttl => exact coherent.setNX codec env t m key value ttl
  | counter => cases allowed
  | expire key ttl => exact coherent.fanOut codec env t m _ _ _ fun _ _ _ _ agrees => agrees.expire _ _ key ttl
  | ttl key => rwa [program, ttl_state_clocked]
  | close => exact coherent.fanOut codec env t m _ _ _ fun _ _ _ _ agrees => agrees
  | ping => rwa [program, ping_state_clocked]

end MultiLevelCache

/-- What happens to in-process levels: a call of a method of the multi-level cache, or a
pass of the cleanup of one level, which checks each key at the instant `at key`. -/
inductive LevelEvent (α : Type) where
  | call (op : Op α)
  | sweep (level : Nat) («at» : String → Int)

namespace LevelEvent

/-- Whether an event keeps the levels coherent: cleanup passes do, and the methods but the
counters, with `MSet` only of a map whose values all encode. -/
def keepsLevelsCoherent {α : Type} : LevelEvent α → Bool
  | call op => op.keepsLevelsCoherent
  | sweep .. => true

end LevelEvent

namespace MultiLevelCache

open Prog

variable {α : Type} (codec : Codec α) (env : Nat → Reads)

end MultiLevelCache

end Goupter.Cache
