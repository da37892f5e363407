import Goupter.Cache.Multi.Backfill
import Goupter.Cache.Multi.Calls

/-!
# What each method does to in-process levels

The state of in-process levels after each method of `multiLevelCache`, in the world
where every call of a store reads its own instants (`clockedLevels`): a fan-out applies its
call to every store; `Exists`, `MGet`, `TTL` and `Ping` leave the stores as they were;
`SetNX` either changes nothing or `Set`s its value into every store; and after a hit at
level `i`, `Get` writes into the levels above `i` what `Set` makes of the encoded
destination with the duration the hit level's `TTL` reported. No call changes the number
of levels.

The copies the backfill writes hold the hit item's value when the destination's
encoding gives back the documents it decodes, but not its expiry: `TTL` measures the
remaining duration at its own reading of the clock, and each `Set` adds it to a later
one, so a copy expires later than the item it copies by the time between the two
readings (`get_backfill_copies_item`).
-/

namespace Goupter.Cache

namespace MultiLevelCache

open Prog

variable {α : Type} (codec : Codec α) (env : Nat → Reads) (t : Int)

theorem length_clockedLevels_perform (j : Nat) (op : Op α) (s : List MemoryCache × Nat) :
    ((clockedLevels codec env).perform t j op s).1.1.length = s.1.length := by
  simp only [clockedLevels]
  split <;> simp

theorem length_run_clocked {β : Type} (p : Prog α β) (s : List MemoryCache × Nat) :
    (run (clockedLevels codec env) t p s).1.1.length = s.1.length := by
  rw [run_state]
  generalize (run (clockedLevels codec env) t p s).2.2 = trace
  induction trace generalizing s with
  | nil => rfl
  | cons e trace ih => rw [after_cons, ih, length_clockedLevels_perform]

/-- A program whose calls are all reads leaves the stores as they were. -/
theorem run_clocked_of_reads {β : Type} (p : Prog α β) (s : List MemoryCache × Nat)
    (reads : ∀ e ∈ (run (clockedLevels codec env) t p s).2.2, e.op.isRead = true) :
    (run (clockedLevels codec env) t p s).1.1 = s.1 := by
  rw [run_state, after_clocked_reads codec env t s _ reads]

/-- A fan-out over every level applies its call to every store, the `j`-th reading what
the call numbered `m + j` reads. -/
theorem fanOut_state_clocked (op : Op α) (errorOf : op.Reply → Option Error) (lastErr : Option Error)
    (stores : List MemoryCache) (m j : Nat) :
    (run (clockedLevels codec env) t (fanOut op errorOf 0 stores.length lastErr) (stores, m)).1.1[j]? =
      stores[j]?.map fun c => (c.performIn codec (env (m + j)) op).1 := by
  rw [run_state, after_clocked_uniform codec env t stores m _ op stores.length
    (by simpa using run_fanOut (clockedLevels codec env) t op errorOf stores.length 0 lastErr (stores, m))]
  split
  · rfl
  · rw [List.getElem?_eq_none (by omega)]
    rfl

variable (stores : List MemoryCache) (m : Nat)

theorem exists_state_clocked (key : String) :
    (run (clockedLevels codec env) t («exists» stores.length key : Prog α _) (stores, m)).1.1 = stores :=
  run_clocked_of_reads codec env t _ _ fun e mem => by
    rw [run_existsFrom (clockedLevels codec env) t key stores.length 0 _ e mem]
    rfl

theorem mget_state_clocked (keys : List String) :
    (run (clockedLevels codec env) t (mget stores.length keys : Prog α _) (stores, m)).1.1 = stores :=
  run_clocked_of_reads codec env t _ _ fun e mem => by
    obtain ⟨_, isMget⟩ := run_mgetFrom (clockedLevels codec env) t _ keys stores.length 0 _ e mem
    rw [isMget]
    rfl

theorem ping_state_clocked :
    (run (clockedLevels codec env) t (ping stores.length : Prog α _) (stores, m)).1.1 = stores :=
  run_clocked_of_reads codec env t _ _ fun e mem => by
    rw [run_pingFrom (clockedLevels codec env) t stores.length 0 _ e mem]
    rfl

theorem ttl_state_clocked (key : String) :
    (run (clockedLevels codec env) t (ttl stores.length key : Prog α _) (stores, m)).1.1 = stores :=
  run_clocked_of_reads codec env t _ _ fun e mem => by
    cases stores.length.eq_zero_or_pos with
    | inl empty => simp [ttl, empty] at mem
    | inr positive =>
      rw [run_ttl (clockedLevels codec env) t stores.length key _ positive, List.mem_singleton] at mem
      rw [mem]
      rfl

/-- A `SetNX` that returns `false` leaves the stores as they were. One that returns `true`
had a value to write, and `Set`s it into every store: the last at the second reading of
its `SetNX`, the call numbered `m`, and level `j` before it at the reading of its `Set`, the
call numbered `m + 1 + j`. -/
theorem setNX_state_clocked (key : String) (value : Except Error Json) (ttl : Int) :
    ((run (clockedLevels codec env) t (setNX stores.length key value ttl : Prog α _) (stores, m)).2.1.1 = false →
      (run (clockedLevels codec env) t (setNX stores.length key value ttl : Prog α _) (stores, m)).1.1 = stores) ∧
    ((run (clockedLevels codec env) t (setNX stores.length key value ttl : Prog α _) (stores, m)).2.1.1 = true →
      ∃ data, value = .ok data ∧ ∀ j : Nat,
        (run (clockedLevels codec env) t (setNX stores.length key value ttl : Prog α _) (stores, m)).1.1[j]? =
          stores[j]?.map fun c : MemoryCache =>
            (c.set (if j + 1 = stores.length then (env m).clock 1 else (env (m + 1 + j)).clock 0)
              key value ttl).1) := by
  cases stores.length.eq_zero_or_pos with
  | inl empty => simp [setNX, empty]
  | inr positive =>
    obtain ⟨created, err, copies, trace, copyCalls, result⟩ :=
      run_setNX (clockedLevels codec env) t stores.length key value ttl (stores, m) positive
    obtain ⟨last, atLast⟩ : ∃ last, stores[stores.length - 1]? = some last :=
      ⟨_, List.getElem?_eq_getElem (by omega)⟩
    have consistent := run_consistent (clockedLevels codec env) t
      (setNX stores.length key value ttl) (stores, m)
    rw [trace] at consistent
    have reply : (last.setNXAt ((env m).clock 0) ((env m).clock 1) key value ttl).2 = (created, err) := by
      simpa [clockedLevels, atLast, MemoryCache.performIn] using consistent.1.symm
    have first : ((clockedLevels codec env).perform t (stores.length - 1) (.setNX key value ttl) (stores, m)).1 =
        (stores.set (stores.length - 1) (last.setNXAt ((env m).clock 0) ((env m).clock 1) key value ttl).1,
          m + 1) := by
      simp [clockedLevels, atLast, MemoryCache.performIn]
    rw [result]
    simp only [run_state, trace, after_cons, first]
    cases created with
    | false =>
      refine ⟨fun _ => ?_, by split <;> simp⟩
      rw [if_neg (by simp), List.map_eq_nil_iff] at copyCalls
      rw [copyCalls, MemoryCache.setNXAt_of_false last key ttl _ _ value (congrArg Prod.fst reply)]
      apply List.ext_getElem?
      intro j
      simp only [after, List.foldl_nil, List.getElem?_set]
      split
      · simp_all
        omega
      · rfl
    | true =>
      obtain ⟨data, rfl, noError⟩ : ∃ data, value = .ok data ∧ err = none := by
        unfold MemoryCache.setNXAt at reply
        split at reply
        · simp at reply
        · split at reply <;> simp_all
      refine ⟨by simp [noError], fun _ => ⟨data, rfl, fun j => ?_⟩⟩
      rw [if_pos ⟨noError, rfl⟩] at copyCalls
      rw [after_clocked_uniform codec env t _ (m + 1) copies _ _ copyCalls j, List.getElem?_set,
        MemoryCache.setNXAt_of_true last key ttl _ _ _ (congrArg Prod.fst reply)]
      by_cases below : j < stores.length - 1
      · simp [below, show stores.length - 1 ≠ j by omega, show j + 1 ≠ stores.length by omega,
          MemoryCache.performIn]
      · by_cases isLast : stores.length - 1 = j
        · subst isLast
          simp [atLast, show stores.length - 1 < stores.length by omega, show stores.length - 1 + 1 = stores.length by omega]
        · simp [below, isLast, List.getElem?_eq_none (show stores.length ≤ j by omega)]

section Get

variable (key : String) (dest : α) {i : Nat} {d found : α}
  (hit : ⟨i, .get key d, (found, none)⟩ ∈
    (run (clockedLevels codec env) t (get codec stores.length key dest) (stores, m)).2.2)

include hit

/-- The hit of `Get` at level `i` is the `Get` of the `i`-th store as it was, at the
reading of the call numbered `m + i`: the `i` levels before it were asked first. -/
theorem hit_reply_clocked :
    ∃ c, stores[i]? = some c ∧ c.get codec ((env (m + i)).clock 0) key d = (found, none) := by
  obtain ⟨probes, calls, levels, failing, _, trace, _⟩ :=
    hit_of_mem (clockedLevels codec env) t codec stores.length key dest (stores, m) hit
  have counted : probes.length = i := by simpa using congrArg List.length levels
  have consistent := run_consistent (clockedLevels codec env) t (get codec stores.length key dest) (stores, m)
  have unchanged : after (clockedLevels codec env) t (stores, m) probes = (stores, m + i) :=
    Prod.ext (after_clocked_reads codec env t _ probes fun e mem => by
      obtain ⟨_, _, _, same⟩ := failing e mem
      rw [same]
      rfl) (by rw [after_clocked_counter, counted])
  rw [trace, consistent_append, unchanged] at consistent
  obtain ⟨_, hitReply, _⟩ := consistent
  simp only [clockedLevels] at hitReply
  split at hitReply
  · exact ⟨_, by assumption, by simpa [MemoryCache.performIn] using hitReply.symm⟩
  · exact absurd (congrArg Prod.snd hitReply) (by simp [Op.failed])

/-- After a hit at level `i` on the store `c`, `Get` leaves each level `j` above `i` as
`Set` of the encoded destination for the duration `c`'s `TTL` reported at the call
numbered `m + i + 1` makes it, at the reading of the call numbered `m + i + 2 + j`, when
that duration is positive, and every level as it was otherwise. -/
theorem get_state_clocked :
    ∃ c, stores[i]? = some c ∧ ∀ j,
      (run (clockedLevels codec env) t (get codec stores.length key dest) (stores, m)).1.1[j]? =
        if j < i ∧ 0 < c.ttlAt ((env (m + i + 1)).clock 0) ((env (m + i + 1)).clock 1) key then
          stores[j]?.map fun c' => (c'.set ((env (m + i + 2 + j)).clock 0) key (codec.marshal found)
            (c.ttlAt ((env (m + i + 1)).clock 0) ((env (m + i + 1)).clock 1) key)).1
        else stores[j]? := by
  obtain ⟨c, atHit, _⟩ := hit_reply_clocked codec env t stores m key dest hit
  refine ⟨c, atHit, fun j => ?_⟩
  obtain ⟨probes, calls, levels, failing, _, trace, filled⟩ :=
    hit_of_mem (clockedLevels codec env) t codec stores.length key dest (stores, m) hit
  have counted : probes.length = i := by simpa using congrArg List.length levels
  have readsOnly : ∀ rest : List (Entry α), (∀ e ∈ rest, e.op.isRead = true) →
      after (clockedLevels codec env) t (stores, m) (probes ++ rest) = (stores, m + i + rest.length) :=
    fun rest onlyReads => Prod.ext
      (after_clocked_reads codec env t _ _ fun e mem => by
        rcases List.mem_append.mp mem with inProbes | inRest
        · obtain ⟨_, _, _, same⟩ := failing e inProbes
          rw [same]
          rfl
        · exact onlyReads e inRest)
      (by simp only [after_clocked_counter, List.length_append, counted]; omega)
  rcases filled with ⟨rfl, rfl⟩ | ⟨_, ttl, err, sets, rfl, setCalls⟩
  · rw [run_state, trace, readsOnly _ (by simp; rfl), if_neg (fun above => Nat.not_lt_zero j above.1)]
  have consistent := run_consistent (clockedLevels codec env) t (get codec stores.length key dest) (stores, m)
  rw [trace, show ∀ rest : List (Entry α), probes ++ ⟨i, .get key d, (found, none)⟩ :: rest =
    (probes ++ [⟨i, .get key d, (found, none)⟩]) ++ rest by simp, consistent_append,
    readsOnly _ (by simp; rfl)] at consistent
  obtain ⟨_, ttlReply, _⟩ := consistent
  simp only [clockedLevels, atHit, List.length_singleton] at ttlReply
  have reported : c.ttlAt ((env (m + i + 1)).clock 0) ((env (m + i + 1)).clock 1) key = ttl :=
    (congrArg Prod.fst ttlReply).symm
  rw [run_state, trace, show probes ++ ⟨i, .get key d, (found, none)⟩ :: ⟨i, .ttl key, (ttl, err)⟩ :: sets =
    (probes ++ [⟨i, .get key d, (found, none)⟩, ⟨i, .ttl key, (ttl, err)⟩]) ++ sets by simp,
    after_append, readsOnly _ (by simp; exact ⟨rfl, rfl⟩), reported]
  by_cases positive : 0 < ttl
  · rw [if_pos positive] at setCalls
    rw [after_clocked_uniform codec env t stores _ sets _ i setCalls j]
    simp only [positive, and_true, MemoryCache.performIn, List.length_cons, List.length_singleton]
    split <;> rfl
  · rw [if_neg positive, List.map_eq_nil_iff] at setCalls
    simp [setCalls, after, positive]

end Get

/-- One field of an object decoded into the destination `struct { A int64 }`: a field
named `A` or `a` (Go matches field names up to case) is decoded into `A`, the first
error is kept, and decoding goes on. -/
def structAField (decoded : Int × Option String) (field : String × Json) : Int × Option String :=
  if field.1 = "A" ∨ field.1 = "a" then
    match Codec.int64.unmarshal field.2 decoded.1 with
    | (v, none) => (v, decoded.2)
    | (v, some err) => (v, decoded.2.orElse fun _ => some err.message)
  else decoded

/-- The destination `struct { A int64 }`: the fields of an object that match `A` are
decoded in turn, the others are skipped; `null` leaves it unchanged. It encodes as
`{"A":n}`. -/
def Codec.structA : Codec Int where
  unmarshal
    | .null, v => (v, none)
    | .object fields, v =>
        let (v, err) := fields.foldl structAField (v, none)
        (v, err.map .json)
    | _, v => (v, some (.json "json: cannot unmarshal into Go value of type struct \x7b A int64 \x7d"))
  marshal n := .ok (.object [("A", .number n 0)])
  unmarshal_fails_json
    | .null, _, _, h => by simp at h
    | .object _, _, _, h => by
        simp only [Option.map_eq_some'] at h
        obtain ⟨message, _, rfl⟩ := h
        exact ⟨message, rfl⟩
    | .bool _, _, _, h | .number .., _, _, h | .string _, _, _, h | .array _, _, _, h => by
        simp at h
        exact ⟨_, h.symm⟩
  marshal_fails_json _ _ h := by simp at h

/-- `{"A":1,"B":2}` at level 1, read into `struct { A int64 }` with the call numbered `n`
reading the instant `n`: the copy written to level 0 is `{"A":1}`, so level 0 then reads as
another document than level 1. -/
theorem get_backfill_struct_projection :
    ((run (clockedLevels Codec.structA fun n => .at n) 0 (get Codec.structA 2 "k" 0)
        ([.empty, MemoryCache.empty.insert "k" (.make 0 (.object [("A", .number 1 0), ("B", .number 2 0)]) 60)],
          0)).1.1[0]?.map (·.get Codec.any 10 "k" .null)) = some (.object [("A", .number 1 0)], none) ∧
      ((run (clockedLevels Codec.structA fun n => .at n) 0 (get Codec.structA 2 "k" 0)
        ([.empty, MemoryCache.empty.insert "k" (.make 0 (.object [("A", .number 1 0), ("B", .number 2 0)]) 60)],
          0)).1.1[1]?.map (·.get Codec.any 10 "k" .null)) =
        some (.object [("A", .number 1 0), ("B", .number 2 0)], none) :=
  ⟨rfl, rfl⟩

/-- When the destination's encoding gives back every document it decodes without error,
the backfill copies the hit item's value: after a hit at level `i` on an item with an
expiry, live at the check of the hit level's `TTL` and expiring after that call's second
reading, every level `j` above `i` holds the item's value with the expiry of its `Set`'s
reading plus the duration `TTL` reported, and level `i` still holds the item. -/
theorem get_backfill_copies_item (codec : Codec α)
    (roundTrip : ∀ data v, (codec.unmarshal data v).2 = none → codec.marshal (codec.unmarshal data v).1 = .ok data)
    (env : Nat → Reads) (t : Int) (stores : List MemoryCache) (m : Nat) (key : String) (dest : α)
    {i : Nat} {d found : α}
    (hit : ⟨i, .get key d, (found, none)⟩ ∈
      (run (clockedLevels codec env) t (get codec stores.length key dest) (stores, m)).2.2)
    {source : CacheItem} {expiresAt : Int}
    (sourceLive : stores[i]?.bind (·.live ((env (m + i + 1)).clock 0) key) = some source)
    (hasExpiry : source.expiresAt = some expiresAt) (later : (env (m + i + 1)).clock 1 < expiresAt)
    {j : Nat} (above : j < i) :
    (run (clockedLevels codec env) t (get codec stores.length key dest) (stores, m)).1.1[j]?.bind (·.data key) =
        some ⟨source.value, some ((env (m + i + 2 + j)).clock 0 + (expiresAt - (env (m + i + 1)).clock 1))⟩ ∧
      (run (clockedLevels codec env) t (get codec stores.length key dest) (stores, m)).1.1[i]?.bind (·.data key) =
        some source := by
  obtain ⟨c, atHit, hitReply⟩ := hit_reply_clocked codec env t stores m key dest hit
  obtain ⟨c', atHit', state⟩ := get_state_clocked codec env t stores m key dest hit
  rw [atHit, Option.some.injEq] at atHit'
  subst atHit'
  have isLive : c.live ((env (m + i + 1)).clock 0) key = some source := by simpa [atHit] using sourceLive
  have stored := MemoryCache.data_of_live isLive
  obtain ⟨hitItem, hitLive, decoded⟩ := c.live_of_get _ _ hitReply
  rw [MemoryCache.data_of_live hitLive, Option.some.injEq] at stored
  subst stored
  have encodes : codec.marshal found = .ok hitItem.value := by
    simpa [decoded] using roundTrip hitItem.value d (by rw [decoded])
  have remaining := @MemoryCache.ttlAt_of_live c key _ ((env (m + i + 1)).clock 1) _ isLive
  rw [hasExpiry] at remaining
  have positive : 0 < expiresAt - (env (m + i + 1)).clock 1 := by omega
  have inRange := (List.getElem?_eq_some_iff.mp atHit).1
  refine ⟨?_, ?_⟩
  · rw [state, if_pos ⟨above, remaining ▸ positive⟩, remaining, encodes,
      List.getElem?_eq_getElem (by omega)]
    simp [MemoryCache.set, CacheItem.make, positive]
  · rw [state, if_neg fun copied => Nat.lt_irrefl i copied.1, atHit]
    exact MemoryCache.data_of_live hitLive

/-- The `interface{}` destination at a hit on level 1, the call numbered `n` reading the
instant `n`: `TTL`, the call numbered `2`, reports `60 - 2`, and the copy's `Set`, the call
numbered `3`, times it from `3`. -/
theorem get_backfill_copies_item_any :
    ((run (clockedLevels Codec.any fun n => .at n) 0 (get Codec.any 2 "k" .null)
        ([.empty, MemoryCache.empty.insert "k" (.make 0 (.string "v") 60)], 0)).1.1[0]?.bind (·.data "k") =
        some { value := .string "v", expiresAt := some (3 + (60 - 2)) } ∧
      (run (clockedLevels Codec.any fun n => .at n) 0 (get Codec.any 2 "k" .null)
        ([.empty, MemoryCache.empty.insert "k" (.make 0 (.string "v") 60)], 0)).1.1[1]?.bind (·.data "k") =
        some ⟨.string "v", some 60⟩) :=
  @get_backfill_copies_item Json Codec.any Codec.any_roundTrip (fun n => .at n) 0
    [.empty, MemoryCache.empty.insert "k" (.make 0 (.string "v") 60)] 0 "k" .null 1 .null (.string "v")
    (.tail _ (.head _)) ⟨.string "v", some 60⟩ 60 rfl rfl (by decide) 0 (by decide)

end MultiLevelCache

end Goupter.Cache
