import Goupter.Cache.Memory.Live

/-!
# Per-key semantics of the in-process store

What each method of `memoryCache` does to one key, stated over the live entries at the
instants the call reads: writes make a key live with the value and expiry they were given,
deletes remove it, `SetNX` writes exactly when the key is not live at its check, every
write leaves the other keys' items as they were, and the reads agree with the live entries,
with two exceptions (`reads_disagree_with_live`). `MGet` leaves out a live key whose
document `json.Unmarshal` cannot decode into `interface{}`, such as a number past the
range of `float64`. `TTL` checks expiry and reads `time.Until` at two readings of the
clock: an item that expires between them gives its expiry minus the second reading, which
is `-1` or `-2`, the answers for an item without expiry and for a missing one, when it
expired a nanosecond or two before.

`MSet` is not all-or-nothing: a value that fails to encode ends it with its error after
the items before it, in the map's iteration order, were written
(`mset_keeps_writes_before_error`). The network adapter encodes every value before it sends
its pipeline, so there a failed encoding writes nothing.
-/

namespace Goupter.Cache

namespace MemoryCache

variable {α : Type} (c : MemoryCache) (now : Int) (key : String) (ttl : Int)

theorem set_ok (data : Json) :
    c.set now key (.ok data) ttl = (c.insert key (.make now data ttl), none) := rfl

theorem live_set_ok (data : Json) :
    (c.set now key (.ok data) ttl).1.live now key =
      some { value := data, expiresAt := if 0 < ttl then some (now + ttl) else none } := by
  rw [set_ok, live_insert_make, if_pos rfl]
  rfl

theorem delete_data_self : (c.delete key).data key = none := by
  simp [delete]

/-- An `MSet` that returns `nil` is the `Set` of each item in turn, the `i`-th in the
order `range` visits them at its reading `clock (n + i)`. -/
theorem msetAt_eq_foldl_set (clock : Nat → Int) (n : Nat) (items : List (String × Except Error Json))
    (succeeded : (c.msetAt (fun i => clock (n + i)) items ttl).2 = none) :
    (c.msetAt (fun i => clock (n + i)) items ttl).1 =
      (items.enumFrom n).foldl (fun c item => (c.set (clock item.1) item.2.1 item.2.2 ttl).1) c := by
  induction items generalizing c n with
  | nil => rfl
  | cons item items ih =>
    obtain ⟨k, err | data⟩ := item
    · simp [msetAt] at succeeded
    · have shifted : (fun i => clock (n + (i + 1))) = fun i => clock (n + 1 + i) :=
        funext fun i => by rw [Nat.add_right_comm, Nat.add_assoc]
      simp only [msetAt, shifted] at succeeded ⊢
      exact ih _ (n + 1) succeeded

/-- A key written by some `Set` of a sequence, or live before it, is live after it. -/
theorem live_foldl_set (written : List (String × Json)) {k : String}
    (touched : k ∈ written.map Prod.fst ∨ (c.live now k).isSome) :
    ((written.foldl (fun c item => (c.set now item.1 (.ok item.2) ttl).1) c).live now k).isSome := by
  induction written generalizing c with
  | nil => simpa using touched
  | cons item written ih =>
    apply ih
    by_cases same : k = item.1
    · exact .inr (by simp [set_ok, same])
    · rcases touched with mem | isLive
      · exact .inl (by simpa [same] using mem)
      · exact .inr (by simpa [set_ok, same] using isLive)

/-- `MSet` stops at the first value that fails to encode, in the map's iteration order, and
returns its error after the items before it were written: the store is left as the `Set` of
each of them, and each of their keys is live. -/
theorem mset_keeps_writes_before_error (written : List (String × Json)) (failing : String)
    (err : Error) (rest : List (String × Except Error Json)) :
    (c.mset now (written.map (fun item => (item.1, .ok item.2)) ++ (failing, .error err) :: rest) ttl).2 =
        some err ∧
      (c.mset now (written.map (fun item => (item.1, .ok item.2)) ++ (failing, .error err) :: rest) ttl).1 =
        written.foldl (fun c item => (c.set now item.1 (.ok item.2) ttl).1) c ∧
      ∀ k ∈ written.map Prod.fst,
        ((c.mset now (written.map (fun item => (item.1, .ok item.2)) ++ (failing, .error err) :: rest)
          ttl).1.live now k).isSome := by
  have stops : c.mset now (written.map (fun item => (item.1, .ok item.2)) ++ (failing, .error err) :: rest) ttl =
      (written.foldl (fun c item => (c.set now item.1 (.ok item.2) ttl).1) c, some err) := by
    induction written generalizing c with
    | nil => rfl
    | cons item written ih => exact ih _
  rw [stops]
  exact ⟨rfl, rfl, fun k mem => live_foldl_set c now ttl written (.inl mem)⟩

theorem mdelete_eq_foldl_delete (keys : List String) :
    c.mdelete keys = keys.foldl (fun c key => c.delete key) c := rfl

theorem setNXAt_true_iff (checkAt writeAt : Int) (data : Json) :
    (c.setNXAt checkAt writeAt key (.ok data) ttl).2.1 = true ↔ c.live checkAt key = none := by
  unfold setNXAt
  split <;> simp_all

theorem setNXAt_of_true (checkAt writeAt : Int) (value : Except Error Json)
    (created : (c.setNXAt checkAt writeAt key value ttl).2.1 = true) :
    (c.setNXAt checkAt writeAt key value ttl).1 = (c.set writeAt key value ttl).1 := by
  unfold setNXAt at *
  split at *
  · simp at created
  · cases value <;> simp_all [set]

theorem setNXAt_of_false (checkAt writeAt : Int) (value : Except Error Json)
    (refused : (c.setNXAt checkAt writeAt key value ttl).2.1 = false) :
    (c.setNXAt checkAt writeAt key value ttl).1 = c := by
  unfold setNXAt at *
  split at *
  · rfl
  · cases value <;> simp_all

section Frame

variable {k : String}

theorem set_data_ne (value : Except Error Json) (other : k ≠ key) :
    (c.set now key value ttl).1.data k = c.data k := by
  cases value <;> simp [set, other]

theorem delete_data_ne (other : k ≠ key) : (c.delete key).data k = c.data k := by
  simp [delete, other]

theorem setNXAt_data_ne (checkAt writeAt : Int) (value : Except Error Json) (other : k ≠ key) :
    (c.setNXAt checkAt writeAt key value ttl).1.data k = c.data k := by
  unfold setNXAt
  split
  · rfl
  · cases value <;> simp [other]

theorem msetAt_data_not_mem (clock : Nat → Int) (items : List (String × Except Error Json))
    (untouched : k ∉ items.map Prod.fst) : (c.msetAt clock items ttl).1.data k = c.data k := by
  induction items generalizing c clock with
  | nil => rfl
  | cons item items ih =>
    simp only [List.map_cons, List.mem_cons, not_or] at untouched
    obtain ⟨key, err | data⟩ := item
    · rfl
    · simpa [msetAt, untouched.1] using ih (c.insert key (.make (clock 0) data ttl)) _ untouched.2

/-- An `MSet` whose values all encode and whose keys are distinct, as the keys of a Go map
are, writes each key with its own value, timed from the reading of its turn. -/
theorem msetAt_data_of_mem (clock : Nat → Int) (items : List (String × Except Error Json))
    (encode : ∀ item ∈ items, item.2.isOk = true) (distinct : (items.map Prod.fst).Nodup)
    {data : Json} (mem : (k, .ok data) ∈ items) :
    ∃ writeAt, (c.msetAt clock items ttl).1.data k = some (.make writeAt data ttl) := by
  induction items generalizing c clock with
  | nil => cases mem
  | cons item items ih =>
    obtain ⟨key, err | value⟩ := item
    · simp [Except.isOk, Except.toBool] at encode
    · rw [List.map_cons, List.nodup_cons] at distinct
      simp only [List.mem_cons, Prod.mk.injEq, Except.ok.injEq] at mem
      rcases mem with ⟨rfl, rfl⟩ | later
      · exact ⟨clock 0, by rw [msetAt, msetAt_data_not_mem _ ttl _ _ distinct.1]; simp⟩
      · exact ih _ _ (fun item mem => encode item (List.mem_cons_of_mem _ mem)) distinct.2 later

theorem mdelete_data_not_mem (keys : List String) (untouched : k ∉ keys) :
    (c.mdelete keys).data k = c.data k := by
  induction keys generalizing c with
  | nil => rfl
  | cons key keys ih =>
    simp only [List.mem_cons, not_or] at untouched
    exact (ih (c.erase key) untouched.2).trans (by simp [untouched.1])

/-- A call that does not write `k` leaves its item as it was, whatever it reads. -/
theorem performIn_data_of_not_writes (reads : Reads) (codec : Codec α) {op : Op α}
    (keeps : op.writes k = false) : (c.performIn codec reads op).1.data k = c.data k := by
  cases op with
  | set key value ttl => exact set_data_ne c _ key ttl value (by simpa [Op.writes] using keeps)
  | delete key => exact delete_data_ne c key (by simpa [Op.writes] using keeps)
  | mset items ttl =>
    refine msetAt_data_not_mem c ttl _ _ fun mem => ?_
    have : k ∈ items.map Prod.fst := ((reads.order_perm items).map Prod.fst).subset mem
    simp [Op.writes, this] at keeps
  | mdelete keys => exact mdelete_data_not_mem c keys (by simpa [Op.writes] using keeps)
  | setNX key value ttl => exact setNXAt_data_ne c key ttl _ _ value (by simpa [Op.writes] using keeps)
  | counter key op =>
    have other : k ≠ key := by simpa [Op.writes] using keeps
    cases op <;> simp [performIn, counter, incrBy, decrBy, other]
  | expire key ttl =>
    have other : k ≠ key := by simpa [Op.writes] using keeps
    simp only [performIn, expire]
    split <;> simp [other]
  | get | «exists» | mget | ttl | close | ping => rfl

end Frame

section Reads

theorem get_notFound_iff (codec : Codec α) (dest : α) :
    (c.get codec now key dest).2 = some (.notFound key) ↔ c.live now key = none := by
  unfold get
  split
  · rename_i isLive
    simp only [isLive, reduceCtorEq, iff_false]
    intro notFound
    obtain ⟨_, isJson⟩ := codec.unmarshal_fails_json _ _ _ notFound
    cases isJson
  · simp_all

/-- A `Get` without error read a live item. -/
theorem live_of_get {codec : Codec α} {dest found : α} (hit : c.get codec now key dest = (found, none)) :
    ∃ item, c.live now key = some item ∧ codec.unmarshal item.value dest = (found, none) := by
  unfold get at hit
  split at hit
  · exact ⟨_, ‹_›, hit⟩
  · cases hit

theorem exists_iff : c.exists now key = true ↔ ∃ item, c.live now key = some item := by
  simp [«exists», Option.isSome_iff_exists]

/-- What `MGet` keeps of `key` at a reading `now`: the document of its live item, when
`json.Unmarshal` decodes it into `interface{}`. -/
def decoded (now : Int) (key : String) : Option Json :=
  ((c.live now key).filter fun item => item.value.decodesAny).map CacheItem.value

theorem decoded_eq_some_iff (value : Json) : c.decoded now key = some value ↔
    ∃ item, c.live now key = some item ∧ item.value.decodesAny = true ∧ item.value = value := by
  simp [decoded, Option.filter_eq_some, and_assoc]

theorem decoded_isSome_iff : (c.decoded now key).isSome ↔
    ∃ item, c.live now key = some item ∧ item.value.decodesAny = true := by
  simp [decoded, Option.isSome_iff_exists, Option.filter_eq_some]

/-- One key of the loop of `MGet`: a document that decodes is put into the result, and
anything else leaves it as it was. -/
theorem mgetLoop_cons (clock : Nat → Int) (keys : List String) (result : String → Option Json) :
    c.mgetLoop clock (key :: keys) result = c.mgetLoop (fun i => clock (i + 1)) keys
      fun k => if k = key then (c.decoded (clock 0) key).or (result k) else result k := by
  rw [mgetLoop]
  refine congrArg (c.mgetLoop _ keys) (funext fun k => ?_)
  cases isLive : c.live (clock 0) key with
  | none => simp [decoded, isLive]
  | some item =>
    cases decodes : item.value.decodesAny
    · have fails : (Codec.any.unmarshal item.value .null).2 ≠ none := fun ok => by
        simp [(Codec.any_unmarshal_error_iff _ _).mp ok] at decodes
      simp only [Option.map_some']
      generalize Codec.any.unmarshal item.value .null = decoding at fails ⊢
      obtain ⟨value, _ | err⟩ := decoding
      · simp at fails
      · by_cases same : k = key <;> simp [decoded, isLive, decodes, Option.filter, same]
    · simp [decoded, isLive, decodes, Option.filter, Codec.any_unmarshal_of_decodesAny decodes]

theorem mgetLoop_eq_some (clock : Nat → Int) (keys : List String) (result : String → Option Json)
    (k : String) (value : Json) (found : c.mgetLoop clock keys result k = some value) :
    result k = some value ∨ ∃ i, keys[i]? = some k ∧ c.decoded (clock i) k = some value := by
  induction keys generalizing clock result with
  | nil => exact .inl found
  | cons key keys ih =>
    rw [mgetLoop_cons] at found
    rcases ih _ _ found with earlier | ⟨i, at_i, later⟩
    · by_cases same : k = key
      · subst same
        simp only [if_true, Option.or_eq_some] at earlier
        rcases earlier with first | ⟨-, kept⟩
        · exact .inr ⟨0, by simp, first⟩
        · exact .inl kept
      · simp only [same, if_false] at earlier
        exact .inl earlier
    · exact .inr ⟨i + 1, by simpa using at_i, later⟩

theorem mgetLoop_isSome_iff (clock : Nat → Int) (keys : List String) (result : String → Option Json)
    (k : String) : (c.mgetLoop clock keys result k).isSome ↔
      (result k).isSome ∨ ∃ i, keys[i]? = some k ∧ (c.decoded (clock i) k).isSome := by
  induction keys generalizing clock result with
  | nil => simp [mgetLoop]
  | cons key keys ih =>
    rw [mgetLoop_cons, ih]
    conv => rhs; rw [← Nat.or_exists_add_one]
    simp only [List.getElem?_cons_zero, List.getElem?_cons_succ, Option.some.injEq]
    by_cases same : k = key
    · subst same
      simp only [if_true, Option.isSome_or, Bool.or_eq_true, true_and, or_assoc, or_comm, or_left_comm]
    · simp [same, Ne.symm same]

/-- `MGet` returns a key exactly when at one of its positions in the list the key is live
at that position's reading and its document decodes into `interface{}`, and then with the
document of such an item. -/
theorem mgetAt_isSome_iff (clock : Nat → Int) (keys : List String) (k : String) :
    (∃ value, c.mgetAt clock keys k = some value) ↔
      ∃ i, keys[i]? = some k ∧ ∃ item, c.live (clock i) k = some item ∧ item.value.decodesAny = true := by
  rw [← Option.isSome_iff_exists, mgetAt, mgetLoop_isSome_iff]
  simp [decoded_isSome_iff]

theorem mgetAt_eq_some (clock : Nat → Int) (keys : List String) (k : String) (value : Json)
    (found : c.mgetAt clock keys k = some value) :
    ∃ i item, keys[i]? = some k ∧ c.live (clock i) k = some item ∧ item.value = value := by
  rcases c.mgetLoop_eq_some clock keys _ k value found with none | ⟨i, at_i, decodes⟩
  · cases none
  · obtain ⟨item, isLive, -, same⟩ := (c.decoded_eq_some_iff _ k value).mp decodes
    exact ⟨i, item, at_i, isLive, same⟩

theorem mget_isSome_iff (keys : List String) (k : String) :
    (∃ value, c.mget now keys k = some value) ↔
      k ∈ keys ∧ ∃ item, c.live now k = some item ∧ item.value.decodesAny = true := by
  simp only [mget, mgetAt_isSome_iff, List.mem_iff_getElem?]
  constructor
  · rintro ⟨i, at_i, decodes⟩
    exact ⟨⟨i, at_i⟩, decodes⟩
  · rintro ⟨⟨i, at_i⟩, decodes⟩
    exact ⟨i, at_i, decodes⟩

/-- `TTL` reads the map once and the clock twice: a key not live at the check gives `-2`,
a live item without expiry `-1`, and a live item with one its expiry minus the second
reading. -/
theorem ttlAt_of_live {checkAt untilAt : Int} {item : CacheItem} (isLive : c.live checkAt key = some item) :
    c.ttlAt checkAt untilAt key = match item.expiresAt with
      | none => -1
      | some expiresAt => expiresAt - untilAt := by
  rewrite [ttlAt_eq_live, isLive]
  rfl

theorem ttlAt_of_not_live {checkAt untilAt : Int} (notLive : c.live checkAt key = none) :
    c.ttlAt checkAt untilAt key = -2 := by
  rw [ttlAt_eq_live, notLive]

theorem ttl_eq_neg_two_iff : c.ttl now key = -2 ↔ c.live now key = none := by
  cases isLive : c.live now key with
  | none => simp [ttl, c.ttlAt_of_not_live key isLive]
  | some item =>
    have fresh := isExpired_of_live isLive
    rw [ttl, c.ttlAt_of_live key isLive]
    obtain ⟨value, _ | expiresAt⟩ := item
    · simp
    · simp only [CacheItem.isExpired, decide_eq_false_iff_not] at fresh
      simp only [reduceCtorEq, iff_false]
      omega

theorem ttl_eq_neg_one_iff :
    c.ttl now key = -1 ↔ ∃ item, c.live now key = some item ∧ item.expiresAt = none := by
  cases isLive : c.live now key with
  | none => simp [ttl, c.ttlAt_of_not_live key isLive]
  | some item =>
    have fresh := isExpired_of_live isLive
    rw [ttl, c.ttlAt_of_live key isLive]
    obtain ⟨value, _ | expiresAt⟩ := item
    · simp
    · simp only [CacheItem.isExpired, decide_eq_false_iff_not] at fresh
      simp only [Option.some.injEq, exists_eq_left', reduceCtorEq, iff_false]
      omega

theorem ttl_of_expiresAt {item : CacheItem} {expiresAt : Int} (isLive : c.live now key = some item)
    (hasExpiry : item.expiresAt = some expiresAt) :
    c.ttl now key = expiresAt - now ∧ 0 ≤ expiresAt - now := by
  have fresh := isExpired_of_live isLive
  simp only [CacheItem.isExpired, hasExpiry, decide_eq_false_iff_not] at fresh
  have remaining := @ttlAt_of_live c key now now item isLive
  rw [hasExpiry] at remaining
  exact ⟨remaining, by omega⟩

end Reads

/-- The per-key semantics of the store for any key and any value that encodes to `data`,
each call with the instants its readings of the clock return. Writes make the key live
with the value and an expiry timed from the write's reading, deletes remove it, a
successful `MSet` is the `Set` of each item in the order `range` visits them, `SetNX`
writes exactly when the key is not live at its check, and every write leaves the other
keys' items as they were. `Get` and `Exists` agree with the live entries; `MGet` returns a
key exactly when it is live at one of its positions' readings with a document that
decodes into `interface{}`; `TTL` gives `-2` for a key not live at its check, `-1` for a
live item without expiry, and the expiry minus its second reading otherwise. -/
theorem per_key_semantics (codec : Codec α) (data : Json) (reads : Reads) :
    ((c.set (reads.clock 0) key (.ok data) ttl).2 = none ∧
      (c.set (reads.clock 0) key (.ok data) ttl).1.live (reads.clock 0) key =
        some { value := data, expiresAt := if 0 < ttl then some (reads.clock 0 + ttl) else none }) ∧
    (c.delete key).data key = none ∧
    (∀ items, (c.msetAt reads.clock items ttl).2 = none →
      (c.msetAt reads.clock items ttl).1 =
        (items.enum.foldl fun c item => (c.set (reads.clock item.1) item.2.1 item.2.2 ttl).1) c) ∧
    (∀ keys, c.mdelete keys = keys.foldl (fun c key => c.delete key) c) ∧
    ((c.setNXAt (reads.clock 0) (reads.clock 1) key (.ok data) ttl).2.1 = true ↔
      c.live (reads.clock 0) key = none) ∧
    (∀ value, (c.setNXAt (reads.clock 0) (reads.clock 1) key value ttl).2.1 = true →
      (c.setNXAt (reads.clock 0) (reads.clock 1) key value ttl).1 = (c.set (reads.clock 1) key value ttl).1) ∧
    (∀ value, (c.setNXAt (reads.clock 0) (reads.clock 1) key value ttl).2.1 = false →
      (c.setNXAt (reads.clock 0) (reads.clock 1) key value ttl).1 = c) ∧
    (∀ op : Op α, ∀ k, op.writes k = false → (c.performIn codec reads op).1.data k = c.data k) ∧
    (∀ dest, (c.get codec (reads.clock 0) key dest).2 = some (.notFound key) ↔
      c.live (reads.clock 0) key = none) ∧
    (c.exists (reads.clock 0) key = true ↔ ∃ item, c.live (reads.clock 0) key = some item) ∧
    (∀ keys k, (∃ value, c.mgetAt reads.clock keys k = some value) ↔
      ∃ i, keys[i]? = some k ∧ ∃ item, c.live (reads.clock i) k = some item ∧
        item.value.decodesAny = true) ∧
    (∀ keys k value, c.mgetAt reads.clock keys k = some value →
      ∃ i item, keys[i]? = some k ∧ c.live (reads.clock i) k = some item ∧ item.value = value) ∧
    (c.live (reads.clock 0) key = none → c.ttlAt (reads.clock 0) (reads.clock 1) key = -2) ∧
    (∀ item, c.live (reads.clock 0) key = some item →
      c.ttlAt (reads.clock 0) (reads.clock 1) key = match item.expiresAt with
        | none => -1
        | some expiresAt => expiresAt - reads.clock 1) :=
  ⟨⟨rfl, live_set_ok c _ key ttl data⟩, delete_data_self c key,
    fun items => by simpa using c.msetAt_eq_foldl_set ttl reads.clock 0 items,
    mdelete_eq_foldl_delete c,
    setNXAt_true_iff c key ttl _ _ data, setNXAt_of_true c key ttl _ _, setNXAt_of_false c key ttl _ _,
    fun _ _ keeps => performIn_data_of_not_writes c reads codec keeps,
    get_notFound_iff c _ key codec, exists_iff c _ key,
    mgetAt_isSome_iff c reads.clock, mgetAt_eq_some c reads.clock,
    ttlAt_of_not_live c key, fun _ => ttlAt_of_live c key⟩

/-- Two reads that disagree with the live entries at one instant. A live item holding a
number past the range of `float64` makes `Exists` report the key while `MGet` leaves it
out. A live item with an expiry whose two `TTL` readings straddle it gives `-1`, the
answer for an item without expiry, or `-2`, the answer for a missing one. -/
theorem reads_disagree_with_live :
    (empty.insert "k" ⟨.number float64Limit 0, none⟩).exists 0 "k" = true ∧
      (empty.insert "k" ⟨.number float64Limit 0, none⟩).mget 0 ["k"] "k" = none ∧
    (empty.insert "k" ⟨.null, some 0⟩).live 0 "k" = some ⟨.null, some 0⟩ ∧
      (empty.insert "k" ⟨.null, some 0⟩).ttlAt 0 1 "k" = -1 ∧
      (empty.insert "k" ⟨.null, some 0⟩).ttlAt 0 2 "k" = -2 := by
  decide

end MemoryCache

end Goupter.Cache
