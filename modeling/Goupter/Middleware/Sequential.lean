import Goupter.Middleware.RateLimiter

/-!
# Requests that no cleanup pass splits

The limiter keeps the bound of one bucket as long as no cleanup tick falls between a
request's `getLimiter` and its `AllowN`. A bucket the cleanup deletes stores its capacity,
and a bucket that stores its capacity acts, at any later call, as the new bucket the key's
next request creates (`TokenBucket.allowN_of_full`). So the limiter simulates one bucket per
key that is never deleted (`Tracks`, `Tracks.request`, `Tracks.cleanup`), the requests it
admits are those buckets' (`run_sequential`), each key's are its own bucket's
(`idealRun_filter`), and every key gets the bound of a single bucket
(`admittedIn_le_of_sequential`). The interleaving of `cleanup_admits_second_burst` is the one
this excludes: a cleanup tick inside a request.
-/

namespace Goupter.Middleware

/-- A request whose two critical sections run back to back, or a cleanup tick. -/
inductive Call
  | allowN (key : String) (n : Int) (now : Int)
  | cleanup

namespace Call

/-- The critical sections of a call, run by goroutine `0`. -/
def steps : Call → List Action
  | allowN key n now => [.getLimiter 0 key n now, .allowN 0 now]
  | cleanup => [.cleanup]

/-- The instant of a request. -/
def instant : Call → Option Int
  | allowN _ _ now => some now
  | cleanup => none

/-- The requests of `key`, each an instant and a count, in order. -/
def requestsOf (key : String) : List Call → List (Int × Int)
  | [] => []
  | allowN k n now :: calls => if k = key then (now, n) :: requestsOf key calls else requestsOf key calls
  | cleanup :: calls => requestsOf key calls

theorem requestsOf_sublist (key : String) (calls : List Call) :
    ((requestsOf key calls).map Prod.fst).Sublist (calls.filterMap instant) := by
  induction calls with
  | nil => exact List.Sublist.slnil
  | cons call calls ih =>
    cases call with
    | allowN k n now =>
      simp only [requestsOf, List.filterMap_cons, instant]
      split
      · exact ih.cons₂ now
      · exact ih.cons now
    | cleanup => exact ih

theorem mem_requestsOf {key : String} {calls : List Call} {request : Int × Int}
    (mem : request ∈ requestsOf key calls) : allowN key request.2 request.1 ∈ calls := by
  induction calls with
  | nil => cases mem
  | cons call calls ih =>
    cases call with
    | allowN k n now =>
      simp only [requestsOf] at mem
      split at mem
      · rcases List.mem_cons.mp mem with rfl | later
        · rename_i same
          rw [same]
          exact List.mem_cons_self _ _
        · exact List.mem_cons_of_mem _ (ih later)
      · exact List.mem_cons_of_mem _ (ih mem)
    | cleanup => exact List.mem_cons_of_mem _ (ih mem)

end Call

/-- One bucket per key, never deleted: each request is its key's bucket's `AllowN`, and a
cleanup tick changes nothing. The buckets after the calls, and the requests admitted. -/
def idealRun : (String → TokenBucket) → List Call → (String → TokenBucket) × List (String × Int × Int)
  | buckets, [] => (buckets, [])
  | buckets, .cleanup :: calls => idealRun buckets calls
  | buckets, .allowN key n now :: calls =>
    let rest := idealRun (Function.update buckets key ((buckets key).allowN now n).1) calls
    (rest.1, if ((buckets key).allowN now n).2 then (key, now, n) :: rest.2 else rest.2)

/-- The keys do not interact: the requests of `key` that the ideal buckets admit are those
its own bucket admits of its own requests. -/
theorem idealRun_filter (key : String) (calls : List Call) :
    ∀ buckets : String → TokenBucket,
      (((idealRun buckets calls).2.filter fun request => request.1 = key).map Prod.snd) =
        ((buckets key).serve (Call.requestsOf key calls)).2 := by
  induction calls with
  | nil => intro; rfl
  | cons call calls ih =>
    intro buckets
    cases call with
    | cleanup => exact ih buckets
    | allowN k n now =>
      have rest := ih (Function.update buckets k ((buckets k).allowN now n).1)
      by_cases same : k = key
      · subst same
        rw [Function.update_same] at rest
        simp only [idealRun, Call.requestsOf, if_pos, TokenBucket.serve_cons]
        split <;> simp [rest, *]
      · rw [Function.update_noteq (Ne.symm same)] at rest
        simp only [idealRun, Call.requestsOf, if_neg same]
        split <;> simp [same, rest]

namespace Server

/-- The limiter between two calls of goroutine `0` simulates the ideal buckets: a key in the
map has its ideal bucket there, a key out of it has an ideal bucket that stores its capacity,
no two keys share a bucket, and every ideal bucket is valid, has the limiter's rate and
capacity, and was last updated by `now`. -/
structure Tracks (s : Server) (buckets : String → TokenBucket) (now : Int) : Prop where
  idle : s.inFlight 0 = none
  mapped : ∀ key limiter, s.limiter.limiters key = some limiter → s.limiter.buckets[limiter]? = some (buckets key)
  full : ∀ key, s.limiter.limiters key = none → (buckets key).tokens = (buckets key).capacity
  injective : ∀ key key' limiter, s.limiter.limiters key = some limiter → s.limiter.limiters key' = some limiter →
    key = key'
  valid : ∀ key, (buckets key).Valid
  rate_eq : ∀ key, (buckets key).rate = s.limiter.rate
  capacity_eq : ∀ key, (buckets key).capacity = s.limiter.capacity
  updated : ∀ key, (buckets key).lastUpdate ≤ now

theorem tracks_start {rate : ℚ} {capacity : Int} (nonnegRate : 0 ≤ rate) (nonnegCapacity : 0 ≤ capacity)
    (now : Int) : Tracks (start rate capacity) (fun _ => newTokenBucket rate capacity now) now where
  idle := rfl
  mapped _ _ mapped := by cases mapped
  full _ _ := rfl
  injective _ _ _ mapped := by cases mapped
  valid _ := ⟨nonnegRate, by simp only [newTokenBucket]; exact_mod_cast nonnegCapacity, le_rfl⟩
  rate_eq _ := rfl
  capacity_eq _ := rfl
  updated _ := le_rfl

variable {s : Server} {buckets : String → TokenBucket} {now : Int}

theorem run_cleanup_limiters (key : String) :
    (s.run [.cleanup]).limiter.limiters key =
      (s.limiter.limiters key).filter fun limiter => !s.limiter.isFull limiter :=
  rfl

theorem limiters_of_run_cleanup {key : String} {limiter : Nat}
    (kept : (s.run [.cleanup]).limiter.limiters key = some limiter) : s.limiter.limiters key = some limiter :=
  (Option.filter_eq_some.mp (run_cleanup_limiters key ▸ kept)).1

/-- A cleanup tick deletes only keys whose bucket stores its capacity. -/
theorem Tracks.cleanup (tracks : Tracks s buckets now) : Tracks (s.run [.cleanup]) buckets now where
  idle := tracks.idle
  mapped key limiter kept := tracks.mapped key limiter (limiters_of_run_cleanup kept)
  full key deleted := by
    cases inMap : s.limiter.limiters key with
    | none => exact tracks.full key inMap
    | some limiter =>
      have atLimiter := tracks.mapped key limiter inMap
      rw [run_cleanup_limiters, inMap] at deleted
      simp only [Option.filter, IPRateLimiter.isFull, atLimiter] at deleted
      split at deleted
      · cases deleted
      · rename_i readsFull
        simp only [Bool.not_eq_true', decide_eq_false_iff_not, not_le, not_lt] at readsFull
        exact le_antisymm (tracks.valid key).tokens_le readsFull
  injective key key' limiter kept kept' :=
    tracks.injective key key' limiter (limiters_of_run_cleanup kept) (limiters_of_run_cleanup kept')
  valid := tracks.valid
  rate_eq := tracks.rate_eq
  capacity_eq := tracks.capacity_eq
  updated := tracks.updated

section Request

variable (key : String) {n t : Int}

/-- After a request of `key` at `t`, every ideal bucket is still valid, with the limiter's rate
and capacity, and last updated by `t`. -/
theorem Tracks.update_bucket (tracks : Tracks s buckets now) (later : now ≤ t) (nonnegCount : 0 ≤ n)
    (k : String) :
    (Function.update buckets key ((buckets key).allowN t n).1 k).Valid ∧
      (Function.update buckets key ((buckets key).allowN t n).1 k).rate = s.limiter.rate ∧
      (Function.update buckets key ((buckets key).allowN t n).1 k).capacity = s.limiter.capacity ∧
      (Function.update buckets key ((buckets key).allowN t n).1 k).lastUpdate ≤ t := by
  rw [Function.update_apply]
  split
  · subst k
    refine ⟨(tracks.valid _).allowN ((tracks.updated _).trans later) nonnegCount, ?_, ?_, ?_⟩
    · rw [TokenBucket.allowN_rate, tracks.rate_eq]
    · rw [TokenBucket.allowN_capacity, tracks.capacity_eq]
    · rw [TokenBucket.allowN_lastUpdate]
  · exact ⟨tracks.valid k, tracks.rate_eq k, tracks.capacity_eq k, (tracks.updated k).trans later⟩

theorem Tracks.lt_length_of_mapped (tracks : Tracks s buckets now) {k : String} {limiter : Nat}
    (mapped : s.limiter.limiters k = some limiter) : limiter < s.limiter.buckets.length :=
  (List.getElem?_eq_some_iff.mp (tracks.mapped k limiter mapped)).1

/-- A request whose two critical sections run back to back is its key's ideal bucket's
`AllowN`: the limiter tracks the ideal buckets after it, and admits the request exactly when
the ideal bucket does. -/
theorem Tracks.request (tracks : Tracks s buckets now) (later : now ≤ t) (nonnegCount : 0 ≤ n) :
    Tracks (s.run [.getLimiter 0 key n t, .allowN 0 t]) (Function.update buckets key ((buckets key).allowN t n).1) t ∧
      (s.run [.getLimiter 0 key n t, .allowN 0 t]).admitted =
        if ((buckets key).allowN t n).2 then s.admitted ++ [(key, t, n)] else s.admitted := by
  have fields := tracks.update_bucket key later nonnegCount
  cases inMap : s.limiter.limiters key with
  | some limiter =>
    rw [run_request_of_mapped tracks.idle inMap (tracks.mapped key limiter inMap)]
    refine ⟨⟨tracks.idle, fun k j mapped => ?_, fun k unmapped => ?_, tracks.injective,
      fun k => (fields k).1, fun k => (fields k).2.1, fun k => (fields k).2.2.1, fun k => (fields k).2.2.2⟩, rfl⟩
    · by_cases same : k = key
      · subst same
        obtain rfl : j = limiter := Option.some.inj (mapped.symm.trans inMap)
        rw [List.getElem?_set_self (tracks.lt_length_of_mapped inMap), Function.update_same]
      · have other : limiter ≠ j := fun sameLimiter =>
          same (tracks.injective k key j mapped (sameLimiter ▸ inMap))
        rw [List.getElem?_set_ne other, Function.update_noteq same]
        exact tracks.mapped k j mapped
    · have other : k ≠ key := by
        rintro rfl
        rw [inMap] at unmapped
        cases unmapped
      rw [Function.update_noteq other]
      exact tracks.full k unmapped
  | none =>
    have sameCall : (buckets key).allowN t n = (newTokenBucket s.limiter.rate s.limiter.capacity t).allowN t n := by
      rw [← tracks.rate_eq key, ← tracks.capacity_eq key]
      exact TokenBucket.allowN_of_full (tracks.valid key).rate_nonneg (tracks.full key inMap)
        ((tracks.updated key).trans later)
    rw [run_request_of_unmapped tracks.idle inMap, ← sameCall]
    refine ⟨⟨tracks.idle, fun k j mapped => ?_, fun k unmapped => ?_, fun k k' j mapped mapped' => ?_,
      fun k => (fields k).1, fun k => (fields k).2.1, fun k => (fields k).2.2.1, fun k => (fields k).2.2.2⟩, rfl⟩
    · dsimp only at mapped ⊢
      rw [Function.update_apply] at mapped ⊢
      split at mapped
      · obtain rfl := Option.some.inj mapped
        rw [if_pos ‹_›, List.getElem?_concat_length]
      · rw [if_neg ‹_›, List.getElem?_append_left (tracks.lt_length_of_mapped mapped)]
        exact tracks.mapped k j mapped
    · dsimp only at unmapped ⊢
      rw [Function.update_apply] at unmapped ⊢
      split at unmapped
      · cases unmapped
      · rw [if_neg ‹_›]
        exact tracks.full k unmapped
    · dsimp only at mapped mapped'
      rw [Function.update_apply] at mapped mapped'
      split at mapped <;> split at mapped'
      · subst_vars
        rfl
      · exact absurd (tracks.lt_length_of_mapped mapped') (by rw [← Option.some.inj mapped]; omega)
      · exact absurd (tracks.lt_length_of_mapped mapped) (by rw [← Option.some.inj mapped']; omega)
      · exact tracks.injective k k' j mapped mapped'

end Request

/-- Calls whose requests no cleanup tick splits, at non-decreasing instants from `now` on: the
limiter admits exactly the requests the ideal buckets admit. -/
theorem run_sequential (calls : List Call) :
    ∀ (s : Server) (buckets : String → TokenBucket) (now : Int), Tracks s buckets now →
      (calls.filterMap Call.instant).Pairwise (· ≤ ·) → (∀ t ∈ calls.filterMap Call.instant, now ≤ t) →
      (∀ key n t, Call.allowN key n t ∈ calls → 0 ≤ n) →
      (s.run (calls.flatMap Call.steps)).admitted = s.admitted ++ (idealRun buckets calls).2 := by
  induction calls with
  | nil => intros; simp [run, idealRun]
  | cons call calls ih =>
    intro s buckets now tracks ordered after counts
    have restCounts : ∀ key n t, Call.allowN key n t ∈ calls → 0 ≤ n := fun key n t mem =>
      counts key n t (List.mem_cons_of_mem _ mem)
    cases call with
    | cleanup =>
      rw [List.flatMap_cons, run_append]
      exact ih _ buckets now tracks.cleanup ordered after restCounts
    | allowN key n t =>
      simp only [List.filterMap_cons, Call.instant, List.pairwise_cons, List.mem_cons,
        forall_eq_or_imp] at ordered after
      obtain ⟨tracks', admitted⟩ := tracks.request key after.1 (counts key n t (List.mem_cons_self _ _))
      rw [List.flatMap_cons, run_append, Call.steps, ih _ _ t tracks' ordered.2 ordered.1 restCounts, admitted]
      simp only [idealRun]
      split <;> simp

end Server

/-- With no cleanup tick inside a request, every key gets the bound of one bucket: in any
window `[a, b]`, the limiter admits for a key at most `capacity + rate * (b - a)` tokens,
`b - a` in seconds. -/
theorem admittedIn_le_of_sequential (rate : ℚ) (capacity : Int) (calls : List Call) (key : String)
    (a b : Int) (nonnegRate : 0 ≤ rate) (nonnegCapacity : 0 ≤ capacity)
    (ordered : (calls.filterMap Call.instant).Pairwise (· ≤ ·))
    (counts : ∀ key n now, Call.allowN key n now ∈ calls → 0 ≤ n) (within : a ≤ b) :
    (Server.admittedIn key a b ((Server.start rate capacity).run (calls.flatMap Call.steps)).admitted : ℚ) ≤
      capacity + ((b - a : Int) : ℚ) / second * rate := by
  obtain ⟨first, beforeAll⟩ : ∃ first : Int, ∀ t ∈ calls.filterMap Call.instant, first ≤ t := by
    cases times : calls.filterMap Call.instant with
    | nil => exact ⟨0, fun _ mem => by cases mem⟩
    | cons t rest =>
      rw [times, List.pairwise_cons] at ordered
      refine ⟨t, fun t' mem => ?_⟩
      rcases List.mem_cons.mp mem with rfl | later
      · exact le_rfl
      · exact ordered.1 t' later
  have ideal := Server.run_sequential calls _ _ first
    (Server.tracks_start nonnegRate nonnegCapacity first) ordered beforeAll counts
  rw [Server.admittedIn, ideal, show (Server.start rate capacity).admitted = [] from rfl, List.nil_append,
    idealRun_filter]
  refine TokenBucket.admittedIn_le b a _ _ ⟨nonnegRate, by simp only [newTokenBucket]; exact_mod_cast nonnegCapacity,
    le_rfl⟩ within (ordered.sublist (Call.requestsOf_sublist key calls)) (fun request mem => ?_)
    (fun request mem => counts key request.2 request.1 (Call.mem_requestsOf mem))
  exact beforeAll _ (List.mem_filterMap.mpr ⟨_, Call.mem_requestsOf mem, rfl⟩)

end Goupter.Middleware
