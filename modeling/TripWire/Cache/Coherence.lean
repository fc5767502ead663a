import Mathlib
import TripWire.Cache.RedisCache

/-!
# Coherence of the shared cache

A `get` is stale when it returns what a `set` wrote, and the name was invalidated after that `set`
had returned and before the `get` was called.  Every stale `get` has one of two causes
(`stale_cause`):

* Redis still holds the value: the `set` reached Redis after the deletion of the invalidation, and
  returned before the invalidation did;
* Redis does not hold it, and the local copy does: the invalidation was made through another object,
  or by a pattern that the local copies are not cleared by.

The second cause needs no overlap.  A miss in Redis is taken for an unavailable Redis.

The invariant (`CacheInv`) says of every entry of Redis, of every local entry and of every returned
value which `set` it comes from, and which invalidations it cannot have missed.  `cache_coherent` is
the run theorem.
-/

namespace TripWire

open Py Machine

variable {V : Type}

section Coherence

variable (C : CacheConfig V)

/-- Whether a method invalidates the key: `delete` of the name, or a pattern that matches. -/
def covers : CacheOp V → String → Bool
  | .delete name, key => key = C.key name
  | .invalidatePattern pattern, key => C.globMatch (C.key pattern) key
  | _, _ => false

/-- The key that a method writes. -/
def setKey? : CacheOp V → Option String
  | .set name _ _ => some (C.key name)
  | _ => none

/-- The key that a method reads. -/
def getKey? : CacheOp V → Option String
  | .get name => some (C.key name)
  | _ => none

/-- The `get` returned a value although its name was invalidated after the `set` of the value and
before the `get`. -/
structure Stale (s : CacheSystem V) (g σ d : CacheCall V) (hit : CacheHit V) (key : String) :
    Prop where
  returned : g.result = some hit
  read : getKey? C g.op = some key
  origin : s.calls[hit.origin]? = some σ
  invalidation : d ∈ s.calls
  covered : covers C d.op key = true
  before : ∃ a b, σ.ended = some a ∧ d.ended = some b ∧ a < b ∧ b < g.began

/-- No `get` of the run so far was stale. -/
def Coherent (s : CacheSystem V) : Prop :=
  ∀ g ∈ s.calls, ∀ σ d hit key, ¬ Stale C s g σ d hit key

/-- Coherence as a check of the calls against each other. -/
theorem coherent_iff {s : CacheSystem V} :
    Coherent C s ↔
      ∀ g ∈ s.calls, ∀ hit ∈ g.result, ∀ key ∈ getKey? C g.op, ∀ σ ∈ s.calls[hit.origin]?,
        ∀ d ∈ s.calls, covers C d.op key = true → ∀ a ∈ σ.ended, ∀ b ∈ d.ended, a < b →
          ¬ b < g.began := by
  constructor
  · intro h g hg hit hhit key hkey σ hσ d hd hcov a ha b hb hab hbg
    exact h g hg σ d hit key ⟨hhit, hkey, hσ, hd, hcov, a, b, ha, hb, hab, hbg⟩
  · intro h g hg σ d hit key hstale
    obtain ⟨a, b, ha, hb, hab, hbg⟩ := hstale.before
    exact h g hg hit hstale.returned key hstale.read σ hstale.origin d hstale.invalidation
      hstale.covered a ha b hb hab hbg

instance (s : CacheSystem V) : Decidable (Coherent C s) := decidable_of_iff _ (coherent_iff C).symm

/-- Redis answers every command. -/
def CacheAction.Available : CacheAction V → Prop
  | .raise _ => False
  | _ => True

instance : DecidablePred (CacheAction.Available (V := V))
  | .raise _ => isFalse id
  | .call .. | .redis _ | .scan .. | .finish .. | .expire _ => isTrue trivial

/-- No `set` of a covered name that has returned reached Redis after the deletion of the
invalidation `c`. -/
def NotOvertaken (s : CacheSystem V) (c : CacheCall V) : Prop :=
  ∀ σ ∈ s.calls, ∀ key ∈ setKey? C σ.op, covers C c.op key = true → σ.ended.isSome = true →
    ∀ f ∈ c.touched, ∀ t ∈ σ.touched, t < f

/-- Since the local entry that `c` falls back on was written, its name was invalidated only through
the same object, and by calls that clear it. -/
def OwnInvalidations (s : CacheSystem V) (time : ℤ) (c : CacheCall V) : Prop :=
  ∀ key ∈ getKey? C c.op, ∀ e ∈ s.locals.get? (c.object, key), time < e.expiresAt →
    ∀ d ∈ s.calls, covers C d.op key = true → ∀ b ∈ d.ended, e.written < b →
      d.object = c.object ∧ clearsLocal C d.op key = true

/-- The condition on a step: an invalidation returns without having been overtaken, and a `get`
falls back only on an entry that no other object has invalidated. -/
def CacheOrderly (s : CacheSystem V) : CacheAction V → Prop
  | .finish i time =>
    ∀ c ∈ s.calls[i]?, c.stage = .answered → NotOvertaken C s c ∧ OwnInvalidations C s time c
  | _ => True

instance (s : CacheSystem V) (c : CacheCall V) : Decidable (NotOvertaken C s c) := by
  unfold NotOvertaken
  infer_instance

instance (s : CacheSystem V) (time : ℤ) (c : CacheCall V) :
    Decidable (OwnInvalidations C s time c) := by
  unfold OwnInvalidations
  infer_instance

instance (s : CacheSystem V) : DecidablePred (CacheOrderly C s)
  | .finish i time =>
    inferInstanceAs (Decidable (∀ c ∈ s.calls[i]?, c.stage = .answered →
      NotOvertaken C s c ∧ OwnInvalidations C s time c))
  | .call .. | .redis _ | .scan .. | .raise _ | .expire _ => isTrue trivial

/-! ### The invariant -/

/-- Redis has executed the deletion of the call. -/
def CacheCall.deleted (c : CacheCall V) : Bool :=
  match c.stage with
  | .answered | .returned => true
  | .waiting | .scanning _ => false

/-- The times of a call, and what its stage says about them. -/
structure CacheCall.Timely (clock : ℕ) (c : CacheCall V) : Prop where
  began : c.began < clock
  touched : ∀ t, c.touched = some t → t < clock
  ended : ∀ t, c.ended = some t → t < clock
  waiting : c.stage = .waiting → c.touched = none
  executed : c.stage ≠ .waiting → c.touched.isSome = true
  running : c.stage ≠ .returned → c.ended = none ∧ c.result = none

/-- What is known of an entry of Redis: the `set` that wrote it, and that it was written after every
deletion that covers it. -/
structure StoredOk (calls : List (CacheCall V)) (r : StoredEntry) : Prop where
  since : r.since ≤ r.written
  origin : ∃ σ, calls[r.origin]? = some σ ∧ setKey? C σ.op = some r.key ∧
    σ.touched = some r.written
  later : ∀ d ∈ calls, covers C d.op r.key = true → d.deleted = true →
    ∀ t, d.touched = some t → t ≤ r.written

/-- What is known of a local entry: the `set` that wrote it, and that it was written after every
method of its object that clears it. -/
structure LocalOk (calls : List (CacheCall V)) (e : LocalEntry V) : Prop where
  origin : ∃ σ, calls[e.origin]? = some σ ∧ setKey? C σ.op = some e.key ∧
    σ.ended = some e.written
  later : ∀ d ∈ calls, d.object = e.object → clearsLocal C d.op e.key = true →
    ∀ b, d.ended = some b → b ≤ e.written

/-- What is known of a returned value. -/
structure HitOk (calls : List (CacheCall V)) (g : CacheCall V) (hit : CacheHit V) : Prop where
  origin : ∃ key σ, getKey? C g.op = some key ∧ calls[hit.origin]? = some σ ∧
    setKey? C σ.op = some key ∧
    (if hit.fromRedis then σ.touched else σ.ended) = some hit.written
  ofRedis : hit.fromRedis = true → ∀ key, getKey? C g.op = some key →
    ∀ d ∈ calls, covers C d.op key = true → ∀ b, d.ended = some b → b < g.began →
      ∀ t, d.touched = some t → t ≤ hit.written
  ofCopy : hit.fromRedis = false → ∀ key, getKey? C g.op = some key →
    ∀ d ∈ calls, d.object = g.object → clearsLocal C d.op key = true →
      ∀ b, d.ended = some b → b < g.began → b ≤ hit.written

structure CacheInv (s : CacheSystem V) : Prop where
  calls : ∀ c ∈ s.calls, c.Timely s.clock
  redis : ∀ r ∈ s.redis.rows, StoredOk C s.calls r
  locals : ∀ e ∈ s.locals.rows, LocalOk C s.calls e
  hits : ∀ g ∈ s.calls, ∀ hit, g.result = some hit → HitOk C s.calls g hit

variable {C}

/-! ### Facts that survive a step -/

/-- What a step does not take from a call. -/
structure CacheCall.Keeps (c c' : CacheCall V) : Prop where
  op : c'.op = c.op
  touched : ∀ t, c.touched = some t → c'.touched = some t
  ended : ∀ t, c.ended = some t → c'.ended = some t

theorem CacheCall.Keeps.refl (c : CacheCall V) : c.Keeps c := ⟨rfl, fun _ h => h, fun _ h => h⟩

/-- The list of calls after a step in which at most the call `c'` is new or has moved. -/
structure CallsExtend (clock : ℕ) (calls calls' : List (CacheCall V)) (c' : CacheCall V) :
    Prop where
  get : ∀ (j : ℕ) (σ : CacheCall V), calls[j]? = some σ → ∃ σ', calls'[j]? = some σ' ∧ σ.Keeps σ'
  mem : ∀ d ∈ calls', d ∈ calls ∨ d = c'
  ended : ∀ b, c'.ended = some b → c' ∈ calls ∨ b = clock

theorem CallsExtend.append {clock : ℕ} (calls : List (CacheCall V)) {c' : CacheCall V}
    (hended : c'.ended = none) : CallsExtend clock calls (calls ++ [c']) c' where
  get := by
    intro j σ hj
    have hlt : j < calls.length := (List.getElem?_eq_some_iff.mp hj).1
    exact ⟨σ, by rwa [List.getElem?_append_left hlt], CacheCall.Keeps.refl σ⟩
  mem := by
    intro d hd
    rw [List.mem_append, List.mem_singleton] at hd
    exact hd
  ended := by
    intro b hb
    rw [hended] at hb
    cases hb

theorem CallsExtend.set {clock i : ℕ} {calls : List (CacheCall V)} {c c' : CacheCall V}
    (hi : calls[i]? = some c) (hkeeps : c.Keeps c')
    (hended : ∀ b, c'.ended = some b → c' = c ∨ b = clock) :
    CallsExtend clock calls (calls.set i c') c' where
  get := by
    intro j σ hj
    by_cases hji : i = j
    · subst hji
      rw [hi] at hj
      obtain rfl := Option.some.inj hj
      have hlt : i < calls.length := (List.getElem?_eq_some_iff.mp hi).1
      exact ⟨c', List.getElem?_set_self hlt, hkeeps⟩
    · exact ⟨σ, by rwa [List.getElem?_set_ne hji], CacheCall.Keeps.refl σ⟩
  mem := fun d hd => List.mem_or_eq_of_mem_set hd
  ended := by
    intro b hb
    rcases hended b hb with rfl | hclock
    · exact Or.inl (List.mem_of_getElem? hi)
    · exact Or.inr hclock

theorem StoredOk.extend {clock : ℕ} {calls calls' : List (CacheCall V)} {c' : CacheCall V}
    {r : StoredEntry} (h : StoredOk C calls r) (hext : CallsExtend clock calls calls' c')
    (hnew : covers C c'.op r.key = true → c'.deleted = true →
      ∀ t, c'.touched = some t → t ≤ r.written) : StoredOk C calls' r where
  since := h.since
  origin := by
    obtain ⟨σ, hσ, hkey, htouched⟩ := h.origin
    obtain ⟨σ', hσ', hkeeps⟩ := hext.get _ σ hσ
    exact ⟨σ', hσ', by rw [hkeeps.op, hkey], hkeeps.touched _ htouched⟩
  later := by
    intro d hd
    rcases hext.mem d hd with hd | rfl
    · exact h.later d hd
    · exact hnew

theorem LocalOk.extend {clock : ℕ} {calls calls' : List (CacheCall V)} {c' : CacheCall V}
    {e : LocalEntry V} (h : LocalOk C calls e) (hext : CallsExtend clock calls calls' c')
    (hnew : c'.object = e.object → clearsLocal C c'.op e.key = true →
      ∀ b, c'.ended = some b → b ≤ e.written) : LocalOk C calls' e where
  origin := by
    obtain ⟨σ, hσ, hkey, hended⟩ := h.origin
    obtain ⟨σ', hσ', hkeeps⟩ := hext.get _ σ hσ
    exact ⟨σ', hσ', by rw [hkeeps.op, hkey], hkeeps.ended _ hended⟩
  later := by
    intro d hd
    rcases hext.mem d hd with hd | rfl
    · exact h.later d hd
    · exact hnew

/-- An invalidation that returns now is too late for a `get` that was called before. -/
theorem HitOk.extend {clock : ℕ} {calls calls' : List (CacheCall V)} {c' g : CacheCall V}
    {hit : CacheHit V} (h : HitOk C calls g hit) (hext : CallsExtend clock calls calls' c')
    (hbegan : g.began ≤ clock) : HitOk C calls' g hit where
  origin := by
    obtain ⟨key, σ, hkey, hσ, hset, hwritten⟩ := h.origin
    obtain ⟨σ', hσ', hkeeps⟩ := hext.get _ σ hσ
    refine ⟨key, σ', hkey, hσ', by rw [hkeeps.op, hset], ?_⟩
    cases hsource : hit.fromRedis with
    | true =>
      rw [hsource] at hwritten
      exact hkeeps.touched _ hwritten
    | false =>
      rw [hsource] at hwritten
      exact hkeeps.ended _ hwritten
  ofRedis := by
    intro hsource key hkey d hd hcovers b hb hlt
    rcases hext.mem d hd with hd | rfl
    · exact h.ofRedis hsource key hkey d hd hcovers b hb hlt
    · rcases hext.ended b hb with hold | hclock
      · exact h.ofRedis hsource key hkey d hold hcovers b hb hlt
      · omega
  ofCopy := by
    intro hsource key hkey d hd hobject hclears b hb hlt
    rcases hext.mem d hd with hd | rfl
    · exact h.ofCopy hsource key hkey d hd hobject hclears b hb hlt
    · rcases hext.ended b hb with hold | hclock
      · exact h.ofCopy hsource key hkey d hold hobject hclears b hb hlt
      · omega

theorem CacheCall.Timely.later {clock : ℕ} {c : CacheCall V} (h : c.Timely clock) :
    c.Timely (clock + 1) where
  began := Nat.lt_succ_of_lt h.began
  touched := fun t ht => Nat.lt_succ_of_lt (h.touched t ht)
  ended := fun t ht => Nat.lt_succ_of_lt (h.ended t ht)
  waiting := h.waiting
  executed := h.executed
  running := h.running

/-- One call is new or has moved: what is left to show is about that call, the entries it leaves and
the value it returns. -/
theorem CacheInv.extend {s : CacheSystem V} (h : CacheInv C s) {calls' : List (CacheCall V)}
    {c' : CacheCall V} (hext : CallsExtend s.clock s.calls calls' c')
    (htimely : c'.Timely (s.clock + 1)) {redis : KeyedTable StoredEntry.key}
    {locals : KeyedTable (LocalEntry.slot (V := V))}
    (hredis : ∀ r ∈ redis.rows, StoredOk C calls' r)
    (hlocals : ∀ e ∈ locals.rows, LocalOk C calls' e)
    (hhit : ∀ hit, c'.result = some hit → HitOk C calls' c' hit) :
    CacheInv C { redis, locals, calls := calls', clock := s.clock + 1 } where
  calls := by
    intro d hd
    rcases hext.mem d hd with hd | rfl
    · exact (h.calls d hd).later
    · exact htimely
  redis := hredis
  locals := hlocals
  hits := by
    intro g hg hit hresult
    rcases hext.mem g hg with hg | rfl
    · exact (h.hits g hg hit hresult).extend hext (h.calls g hg).began.le
    · exact hhit hit hresult

/-- Time passes. -/
theorem CacheInv.tick {s : CacheSystem V} (h : CacheInv C s) :
    CacheInv C { s with clock := s.clock + 1 } where
  calls := fun c hc => (h.calls c hc).later
  redis := h.redis
  locals := h.locals
  hits := h.hits

/-- One call moves: what is left to show is about that call, the entries it leaves and the value it
returns. -/
theorem CacheInv.move {s : CacheSystem V} (h : CacheInv C s) {i : ℕ} {c c' : CacheCall V}
    (hi : s.calls[i]? = some c) (hkeeps : c.Keeps c') (htimely : c'.Timely (s.clock + 1))
    (hended : ∀ b, c'.ended = some b → b = s.clock) {redis : KeyedTable StoredEntry.key}
    {locals : KeyedTable (LocalEntry.slot (V := V))}
    (hredis : ∀ r ∈ redis.rows,
      (r ∈ s.redis.rows ∧ (covers C c'.op r.key = true → c'.deleted = true →
        ∀ t, c'.touched = some t → t ≤ r.written)) ∨ StoredOk C (s.calls.set i c') r)
    (hlocals : ∀ e ∈ locals.rows,
      (e ∈ s.locals.rows ∧ (c'.object = e.object → clearsLocal C c'.op e.key = true →
        c'.ended = none)) ∨ LocalOk C (s.calls.set i c') e)
    (hhit : ∀ hit, c'.result = some hit → HitOk C s.calls c' hit) :
    CacheInv C { redis, locals, calls := s.calls.set i c', clock := s.clock + 1 } := by
  have hext : CallsExtend s.clock s.calls (s.calls.set i c') c' :=
    CallsExtend.set hi hkeeps fun b hb => Or.inr (hended b hb)
  refine h.extend hext htimely ?_ ?_ ?_
  · intro r hr
    rcases hredis r hr with ⟨hold, hnew⟩ | hok
    · exact (h.redis r hold).extend hext hnew
    · exact hok
  · intro e he
    rcases hlocals e he with ⟨hold, hnew⟩ | hok
    · refine (h.locals e hold).extend hext ?_
      intro hobject hclears b hb
      rw [hnew hobject hclears] at hb
      cases hb
    · exact hok
  · intro hit hresult
    exact (hhit hit hresult).extend hext (Nat.lt_succ_iff.mp htimely.began)

/-- One call moves and does not return: what is left to show is about the entries in Redis. -/
theorem CacheInv.advance {s : CacheSystem V} (h : CacheInv C s) {i : ℕ} {c c' : CacheCall V}
    (hi : s.calls[i]? = some c) (hkeeps : c.Keeps c') (htimely : c'.Timely (s.clock + 1))
    (hrunning : c'.ended = none ∧ c'.result = none) {redis : KeyedTable StoredEntry.key}
    (hredis : ∀ r ∈ redis.rows,
      (r ∈ s.redis.rows ∧ (covers C c'.op r.key = true → c'.deleted = true →
        ∀ t, c'.touched = some t → t ≤ r.written)) ∨ StoredOk C (s.calls.set i c') r) :
    CacheInv C
      { redis, locals := s.locals, calls := s.calls.set i c', clock := s.clock + 1 } := by
  apply h.move hi hkeeps htimely
  · intro b hb
    rw [hrunning.1] at hb
    cases hb
  · exact hredis
  · exact fun e he => Or.inl ⟨he, fun _ _ => hrunning.1⟩
  · intro hit hresult
    rw [hrunning.2] at hresult
    cases hresult

/-- A call whose first command has been executed and that has not returned. -/
theorem CacheCall.Timely.command {clock : ℕ} {c : CacheCall V} (h : c.Timely clock)
    (hstage : c.stage = .waiting) (stage : CacheStage) (hwaiting : stage ≠ .waiting) :
    c.Keeps { c with stage, touched := some clock } ∧
      ({ c with stage, touched := some clock } : CacheCall V).Timely (clock + 1) := by
  have hrunning := h.running (by rw [hstage]; exact nofun)
  constructor
  · refine ⟨rfl, ?_, fun _ ht => ht⟩
    intro t ht
    rw [h.waiting hstage] at ht
    cases ht
  · refine ⟨Nat.lt_succ_of_lt h.began, ?_, fun t ht => Nat.lt_succ_of_lt (h.ended t ht),
      fun hw => absurd hw hwaiting, fun _ => rfl, fun _ => hrunning⟩
    intro t ht
    rw [← Option.some.inj ht]
    exact Nat.lt_succ_self clock

/-- A call that returns. -/
theorem CacheCall.Timely.finish {clock : ℕ} {c : CacheCall V} (h : c.Timely clock)
    (hstage : c.stage = .answered) (result : Option (CacheHit V)) :
    c.Keeps { c with stage := .returned, ended := some clock, result } ∧
      ({ c with stage := .returned, ended := some clock, result } : CacheCall V).Timely
        (clock + 1) := by
  have hrunning := h.running (by rw [hstage]; exact nofun)
  constructor
  · refine ⟨rfl, fun _ ht => ht, ?_⟩
    intro t ht
    rw [hrunning.1] at ht
    cases ht
  · refine ⟨Nat.lt_succ_of_lt h.began, fun t ht => Nat.lt_succ_of_lt (h.touched t ht), ?_, nofun,
      fun _ => h.executed (by rw [hstage]; exact nofun), fun hne => absurd rfl hne⟩
    intro t ht
    rw [← Option.some.inj ht]
    exact Nat.lt_succ_self clock

/-! ### The steps -/

/-- The reply to a `GET` is a stored entry of the key. -/
theorem decodeReply_eq_some {reply : Option StoredEntry} {hit : CacheHit V}
    (h : decodeReply C reply = some hit) :
    ∃ e, reply = some e ∧ hit.fromRedis = true ∧ hit.origin = e.origin ∧
      hit.written = e.written := by
  obtain ⟨e, he, h⟩ := Option.bind_eq_some_iff.mp h
  split_ifs at h
  obtain ⟨value, -, rfl⟩ := Option.map_eq_some_iff.mp h
  exact ⟨e, he, rfl, rfl, rfl⟩

/-- A call that does not move. -/
theorem CacheInv.stay {s : CacheSystem V} (h : CacheInv C s) {i : ℕ} {c : CacheCall V}
    (hi : s.calls[i]? = some c) :
    CacheInv C { s with calls := s.calls.set i c, clock := s.clock + 1 } := by
  have hsame : s.calls.set i c = s.calls := by
    obtain ⟨hlt, rfl⟩ := List.getElem?_eq_some_iff.mp hi
    exact List.set_getElem_self hlt
  rw [hsame]
  exact h.tick

/-- A running call has neither returned nor has it a result. -/
theorem CacheInv.running {s : CacheSystem V} (h : CacheInv C s) {i : ℕ} {c : CacheCall V}
    (hi : s.calls[i]? = some c) (hstage : c.stage ≠ .returned) :
    c.ended = none ∧ c.result = none :=
  (h.calls c (List.mem_of_getElem? hi)).running hstage

theorem CacheCall.Timely.deleted_of_ended {clock : ℕ} {c : CacheCall V} (h : c.Timely clock) {b : ℕ}
    (hb : c.ended = some b) : c.deleted = true := by
  have hstage : c.stage = .returned := by
    by_contra hne
    rw [(h.running hne).1] at hb
    cases hb
  simp [CacheCall.deleted, hstage]

/-- Redis executes the `GET` of a `get`, and has the value. -/
theorem CacheInv.hit {s : CacheSystem V} (h : CacheInv C s) {i : ℕ} {c : CacheCall V}
    (hi : s.calls[i]? = some c) {name : String} (hstage : c.stage = .waiting)
    (hop : c.op = .get name) {hit : CacheHit V}
    (hreply : decodeReply C (s.redis.get? (C.key name)) = some hit) :
    CacheInv C
      { s with
        calls := s.calls.set i
          { c with stage := .returned, touched := some s.clock, ended := some s.clock,
                   result := some hit }
        clock := s.clock + 1 } := by
  have htimely := h.calls c (List.mem_of_getElem? hi)
  have hrunning := h.running hi (by rw [hstage]; exact nofun)
  have hread : getKey? C c.op = some (C.key name) := by rw [hop]; rfl
  have hcovers : ∀ key, covers C c.op key = false := by intro key; rw [hop]; rfl
  have hclears : ∀ key, clearsLocal C c.op key = false := by intro key; rw [hop]; rfl
  apply h.move hi
  · refine ⟨rfl, ?_, ?_⟩
    · intro t ht
      rw [htimely.waiting hstage] at ht
      cases ht
    · intro t ht
      rw [hrunning.1] at ht
      cases ht
  · refine ⟨Nat.lt_succ_of_lt htimely.began, ?_, ?_, nofun, fun _ => rfl, fun hne => absurd rfl hne⟩
    · intro t ht
      rw [← Option.some.inj ht]
      exact Nat.lt_succ_self _
    · intro t ht
      rw [← Option.some.inj ht]
      exact Nat.lt_succ_self _
  · intro b hb
    exact (Option.some.inj hb).symm
  · intro r hr
    refine Or.inl ⟨hr, ?_⟩
    intro hcov
    rw [hcovers] at hcov
    cases hcov
  · intro e he
    refine Or.inl ⟨he, ?_⟩
    intro _ hcl
    rw [hclears] at hcl
    cases hcl
  · intro hit' hresult
    obtain rfl := Option.some.inj hresult
    obtain ⟨r, hr, hsource, horigin, hwritten⟩ := decodeReply_eq_some hreply
    obtain ⟨hmem, hkey⟩ := KeyedTable.get?_eq_some_iff.mp hr
    have hok := h.redis r hmem
    rw [← hkey] at hread
    refine ⟨?_, ?_, ?_⟩
    · obtain ⟨σ, hσ, hset, htouched⟩ := hok.origin
      refine ⟨r.key, σ, hread, by rw [horigin, hσ], hset, ?_⟩
      rw [hsource, hwritten]
      exact htouched
    · -- every invalidation that has returned executed its deletion before the entry was written
      intro _ key hkey' d hd hcov b hb _ t ht
      obtain rfl : r.key = key := Option.some.inj (hread.symm.trans hkey')
      rw [hwritten]
      exact hok.later d hd hcov ((h.calls d hd).deleted_of_ended hb) t ht
    · intro hcopy
      rw [hsource] at hcopy
      cases hcopy

/-- Redis executes the `SET` of a `set`. -/
theorem CacheInv.set {s : CacheSystem V} (h : CacheInv C s) {i : ℕ} {c : CacheCall V}
    (hi : s.calls[i]? = some c) {name : String} {value : V} {ttl : Option ℤ}
    (hstage : c.stage = .waiting) (hop : c.op = .set name value ttl) {r : StoredEntry}
    (hkey : r.key = C.key name) (horigin : r.origin = i) (hwritten : r.written = s.clock)
    (hsince : r.since ≤ r.written) :
    CacheInv C
      { redis := s.redis.put r, locals := s.locals,
        calls := s.calls.set i { c with stage := .answered, touched := some s.clock },
        clock := s.clock + 1 } := by
  have htimely := h.calls c (List.mem_of_getElem? hi)
  have hrunning := h.running hi (by rw [hstage]; exact nofun)
  have hcovers : ∀ key, covers C c.op key = false := by intro key; rw [hop]; rfl
  obtain ⟨hkeeps, htimely'⟩ := htimely.command hstage .answered nofun
  apply h.advance hi hkeeps htimely' hrunning
  intro r' hr'
  rcases KeyedTable.mem_put.mp hr' with ⟨hold, -⟩ | rfl
  · refine Or.inl ⟨hold, ?_⟩
    intro hcov
    rw [hcovers] at hcov
    cases hcov
  · refine Or.inr ⟨hsince, ?_, ?_⟩
    · have hlt : i < s.calls.length := (List.getElem?_eq_some_iff.mp hi).1
      rw [horigin, hwritten, hkey]
      exact ⟨_, List.getElem?_set_self hlt, by rw [hop]; rfl, rfl⟩
    · -- whatever was deleted before was deleted before this step
      intro d hd hcov _ t ht
      rw [hwritten]
      rcases List.mem_or_eq_of_mem_set hd with hd | rfl
      · exact ((h.calls d hd).touched t ht).le
      · rw [hcovers] at hcov
        cases hcov

/-- Redis executes a first command that writes nothing: a `GET` that misses, a `DEL`, or the opening
of a `SCAN`. -/
theorem CacheInv.command {s : CacheSystem V} (h : CacheInv C s) {i : ℕ} {c : CacheCall V}
    (hi : s.calls[i]? = some c) (hstage : c.stage = .waiting) (stage : CacheStage)
    (hwaiting : stage ≠ .waiting) {redis : KeyedTable StoredEntry.key}
    (hold : ∀ r ∈ redis.rows, r ∈ s.redis.rows)
    (hdeleted : stage = .answered ∨ stage = .returned →
      ∀ r ∈ redis.rows, covers C c.op r.key = false) :
    CacheInv C
      { redis, locals := s.locals,
        calls := s.calls.set i { c with stage, touched := some s.clock },
        clock := s.clock + 1 } := by
  have hrunning := h.running hi (by rw [hstage]; exact nofun)
  obtain ⟨hkeeps, htimely⟩ :=
    (h.calls c (List.mem_of_getElem? hi)).command hstage stage hwaiting
  apply h.advance hi hkeeps htimely hrunning
  intro r hr
  refine Or.inl ⟨hold r hr, ?_⟩
  intro hcov hdel
  cases stage with
  | waiting => exact absurd rfl hwaiting
  | scanning found => cases hdel
  | answered =>
    rw [hdeleted (Or.inl rfl) r hr] at hcov
    cases hcov
  | returned =>
    rw [hdeleted (Or.inr rfl) r hr] at hcov
    cases hcov

/-- A call that is scanning stays with its times. -/
theorem CacheCall.Timely.scanning {clock : ℕ} {c : CacheCall V} (h : c.Timely clock)
    {found : List String} (hstage : c.stage = .scanning found) {stage : CacheStage}
    (hwaiting : stage ≠ .waiting) :
    c.Keeps { c with stage } ∧ ({ c with stage } : CacheCall V).Timely (clock + 1) := by
  refine ⟨⟨rfl, fun _ ht => ht, fun _ ht => ht⟩, Nat.lt_succ_of_lt h.began,
    fun t ht => Nat.lt_succ_of_lt (h.touched t ht), fun t ht => Nat.lt_succ_of_lt (h.ended t ht),
    fun hw => absurd hw hwaiting, ?_, ?_⟩
  · intro _
    exact h.executed (by rw [hstage]; exact nofun)
  · intro _
    exact h.running (by rw [hstage]; exact nofun)

/-- A step of `invalidate_pattern` between the opening of the `SCAN` and its last command. -/
theorem CacheInv.scan {s : CacheSystem V} (h : CacheInv C s) {i : ℕ} {c : CacheCall V}
    (hi : s.calls[i]? = some c) {found : List String} (hstage : c.stage = .scanning found)
    (stage : CacheStage) (hwaiting : stage ≠ .waiting) {redis : KeyedTable StoredEntry.key}
    (hold : ∀ r ∈ redis.rows, r ∈ s.redis.rows)
    (hdeleted : ({ c with stage } : CacheCall V).deleted = true →
      ∀ r ∈ redis.rows, covers C c.op r.key = true → ∀ t, c.touched = some t → t ≤ r.written) :
    CacheInv C
      { redis, locals := s.locals, calls := s.calls.set i { c with stage },
        clock := s.clock + 1 } := by
  have hrunning := h.running hi (by rw [hstage]; exact nofun)
  obtain ⟨hkeeps, htimely⟩ := (h.calls c (List.mem_of_getElem? hi)).scanning hstage hwaiting
  apply h.advance hi hkeeps htimely hrunning
  exact fun r hr => Or.inl ⟨hold r hr, fun hcov hdel => hdeleted hdel r hr hcov⟩

/-- Redis executes a command. -/
theorem CacheInv.redisCommand {s : CacheSystem V} (h : CacheInv C s) {i : ℕ} {c : CacheCall V}
    (hi : s.calls[i]? = some c) :
    CacheInv C
      { redis := (redisCommand C s.redis s.clock i c).1, locals := s.locals,
        calls := s.calls.set i (redisCommand C s.redis s.clock i c).2, clock := s.clock + 1 } := by
  unfold TripWire.redisCommand
  split
  case h_1 name hstage hop =>
    split
    · rename_i hit hreply
      exact h.hit hi hstage hop hreply
    · refine h.command hi hstage .answered nofun (fun _ hr => hr) ?_
      intro _ r _
      rw [hop]
      rfl
  case h_2 name value ttl hstage hop =>
    refine h.set hi hstage hop rfl rfl rfl ?_
    -- the key has been there since an earlier step, or since this one
    cases hget : s.redis.get? (C.key name) with
    | none => exact le_rfl
    | some r =>
      have hok := h.redis r (KeyedTable.get?_eq_some_iff.mp hget).1
      obtain ⟨σ, hσ, -, htouched⟩ := hok.origin
      have hlt := (h.calls σ (List.mem_of_getElem? hσ)).touched _ htouched
      exact (lt_of_le_of_lt hok.since hlt).le
  case h_3 name hstage hop =>
    refine h.command hi hstage .answered nofun (fun r hr => (KeyedTable.mem_deleteWhere.mp hr).1) ?_
    intro _ r hr
    rw [hop]
    exact (KeyedTable.mem_deleteWhere.mp hr).2
  case h_4 pattern hstage hop =>
    refine h.command hi hstage (.scanning []) nofun (fun _ hr => hr) ?_
    rintro (hnext | hnext) <;> cases hnext
  case h_5 found pattern hstage hop =>
    split_ifs with hcomplete
    · refine h.scan hi hstage .answered nofun (fun r hr => (KeyedTable.mem_deleteWhere.mp hr).1) ?_
      intro _ r hr hcov t ht
      obtain ⟨hmem, hleft⟩ := KeyedTable.mem_deleteWhere.mp hr
      -- a matching key that was not found has not been there since the start of the scan
      have hkey : C.globMatch (C.key pattern) r.key = true := by
        rw [hop] at hcov
        exact hcov
      have hr' := List.all_eq_true.mp hcomplete r hmem
      rw [decide_eq_false_iff_not] at hleft
      have hsince : t ≤ r.since := by simpa [hkey, hleft, ht] using hr'
      exact hsince.trans (h.redis r hmem).since
    · exact h.stay hi
  case h_6 =>
    exact h.stay hi

/-- A reply to the `SCAN` arrives. -/
theorem CacheInv.scanReply {s : CacheSystem V} (h : CacheInv C s) {i : ℕ} {c : CacheCall V}
    (hi : s.calls[i]? = some c) (keys : List String) :
    CacheInv C
      { s with calls := s.calls.set i (scanReply C s.redis keys c), clock := s.clock + 1 } := by
  unfold TripWire.scanReply
  split
  · rename_i found pattern hstage hop
    refine h.scan hi hstage (.scanning _) nofun (fun _ hr => hr) ?_
    intro hdel
    cases hdel
  · exact h.stay hi

/-- A call returns. -/
theorem CacheInv.finish {s : CacheSystem V} (h : CacheInv C s) {i : ℕ} {c : CacheCall V}
    (hi : s.calls[i]? = some c) (hstage : c.stage = .answered) (result : Option (CacheHit V))
    {locals : KeyedTable (LocalEntry.slot (V := V))}
    (hlocals : ∀ e ∈ locals.rows,
      (e ∈ s.locals.rows ∧ (c.object = e.object → clearsLocal C c.op e.key = false)) ∨
        (e.written = s.clock ∧ e.origin = i ∧ setKey? C c.op = some e.key))
    (hhit : ∀ hit, result = some hit → HitOk C s.calls c hit) :
    CacheInv C
      { redis := s.redis, locals,
        calls := s.calls.set i
          { c with stage := .returned, ended := some s.clock, result },
        clock := s.clock + 1 } := by
  have hc := List.mem_of_getElem? hi
  obtain ⟨hkeeps, htimely⟩ := (h.calls c hc).finish hstage result
  apply h.move hi hkeeps htimely
  · intro b hb
    exact (Option.some.inj hb).symm
  · intro r hr
    exact Or.inl ⟨hr, fun hcov _ t ht =>
      (h.redis r hr).later c hc hcov (by simp [CacheCall.deleted, hstage]) t ht⟩
  · intro e he
    rcases hlocals e he with ⟨hold, hclears⟩ | ⟨hwritten, horigin, hset⟩
    · refine Or.inl ⟨hold, ?_⟩
      intro hobject hcl
      rw [hclears hobject] at hcl
      cases hcl
    · refine Or.inr ⟨?_, ?_⟩
      · have hlt : i < s.calls.length := (List.getElem?_eq_some_iff.mp hi).1
        rw [horigin, hwritten]
        exact ⟨_, List.getElem?_set_self hlt, hset, rfl⟩
      · -- nothing has returned after this step
        intro d hd _ _ b hb
        rw [hwritten]
        rcases List.mem_or_eq_of_mem_set hd with hd | rfl
        · exact ((h.calls d hd).ended b hb).le
        · exact (Option.some.inj hb).symm.le
  · intro hit hresult
    have hok := hhit hit hresult
    exact ⟨hok.origin, hok.ofRedis, hok.ofCopy⟩

/-- What a local entry of the object says to a `get` that falls back on it. -/
theorem CacheInv.hitOk_of_local {s : CacheSystem V} (h : CacheInv C s) {c : CacheCall V}
    {name : String} (hop : c.op = .get name) {e : LocalEntry V}
    (he : s.locals.get? (c.object, C.key name) = some e) :
    HitOk C s.calls c
      { value := e.value, fromRedis := false, origin := e.origin, written := e.written } := by
  obtain ⟨hmem, hslot⟩ := KeyedTable.get?_eq_some_iff.mp he
  have hobject : e.object = c.object := congrArg Prod.fst hslot
  have hkey : e.key = C.key name := congrArg Prod.snd hslot
  have hread : getKey? C c.op = some e.key := by rw [hop, hkey]; rfl
  have hok := h.locals e hmem
  refine ⟨?_, nofun, ?_⟩
  · obtain ⟨σ, hσ, hset, hended⟩ := hok.origin
    exact ⟨e.key, σ, hread, hσ, hset, hended⟩
  · intro _ key hkey' d hd hobj hcl b hb _
    obtain rfl : e.key = key := Option.some.inj (hread.symm.trans hkey')
    exact hok.later d hd (hobj.trans hobject.symm) hcl b hb

/-- A call runs to its end. -/
theorem CacheInv.localPart {s : CacheSystem V} (h : CacheInv C s) {i : ℕ} {c : CacheCall V}
    (hi : s.calls[i]? = some c) (time : ℤ) :
    CacheInv C
      { redis := s.redis, locals := (localPart C s.locals s.clock i time c).1,
        calls := s.calls.set i (localPart C s.locals s.clock i time c).2,
        clock := s.clock + 1 } := by
  unfold TripWire.localPart
  split
  · rename_i hstage
    have hnone := (h.running hi (by rw [hstage]; exact nofun)).2
    have hnothing : ∀ hit, c.result = some hit → HitOk C s.calls c hit := by
      intro hit hresult
      rw [hnone] at hresult
      cases hresult
    dsimp only
    split
    · -- `get`: the fallback
      rename_i name hop
      have hno : ∀ key, clearsLocal C c.op key = false := by intro key; rw [hop]; rfl
      split
      · exact h.finish hi hstage _ (fun e he => Or.inl ⟨he, fun _ => hno e.key⟩) hnothing
      · rename_i e he
        split_ifs
        · refine h.finish hi hstage _ (fun e he => Or.inl ⟨he, fun _ => hno e.key⟩) ?_
          intro hit hresult
          obtain rfl := Option.some.inj hresult
          exact h.hitOk_of_local hop he
        · refine h.finish hi hstage _ (fun e he => Or.inl ⟨?_, fun _ => hno e.key⟩) hnothing
          exact (KeyedTable.mem_deleteWhere.mp he).1
    · -- `set`: the new entry, and those of other slots
      rename_i name value ttl hop
      have hno : ∀ key, clearsLocal C c.op key = false := by intro key; rw [hop]; rfl
      refine h.finish hi hstage _ ?_ hnothing
      intro e he
      rcases KeyedTable.mem_put.mp he with ⟨hold, -⟩ | rfl
      · exact Or.inl ⟨hold, fun _ => hno e.key⟩
      · exact Or.inr ⟨rfl, rfl, by rw [hop]; rfl⟩
    · -- an invalidation: the entries it leaves are not cleared by it
      refine h.finish hi hstage _ ?_ hnothing
      intro e he
      obtain ⟨hold, hleft⟩ := KeyedTable.mem_deleteWhere.mp he
      refine Or.inl ⟨hold, ?_⟩
      intro hobject
      rw [hobject] at hleft
      simpa using hleft
  · exact h.stay hi

/-- **A step keeps the invariant**, as long as Redis answers. -/
theorem CacheInv.step {s : CacheSystem V} (h : CacheInv C s) {a : CacheAction V}
    (ha : a.Available) : CacheInv C (cacheStep C s a) := by
  cases a with
  | call object op =>
    have hext : CallsExtend s.clock s.calls (s.calls ++ [{ object, op, began := s.clock }])
        { object, op, began := s.clock } := CallsExtend.append s.calls rfl
    refine h.extend hext ⟨Nat.lt_succ_self _, nofun, nofun, fun _ => rfl, ?_, fun _ => ⟨rfl, rfl⟩⟩
      ?_ ?_ nofun
    · intro hne
      exact absurd rfl hne
    · intro r hr
      refine (h.redis r hr).extend hext ?_
      intro _ hdel
      cases hdel
    · intro e he
      exact (h.locals e he).extend hext fun _ _ => nofun
  | redis i =>
    cases hi : s.calls[i]? with
    | none =>
      simp only [cacheStep, hi]
      exact h.tick
    | some c =>
      simp only [cacheStep, hi]
      exact h.redisCommand hi
  | scan i keys =>
    cases hi : s.calls[i]? with
    | none =>
      simp only [cacheStep, hi]
      exact h.tick
    | some c =>
      simp only [cacheStep, hi]
      exact h.scanReply hi keys
  | raise i => exact ha.elim
  | finish i time =>
    cases hi : s.calls[i]? with
    | none =>
      simp only [cacheStep, hi]
      exact h.tick
    | some c =>
      simp only [cacheStep, hi]
      exact h.localPart hi time
  | expire key =>
    exact ⟨fun c hc => (h.calls c hc).later,
      fun r hr => h.redis r (KeyedTable.mem_deleteWhere.mp hr).1, h.locals, h.hits⟩

/-! ### Runs -/

/-- What a step makes of a call: it returns nothing and has not returned, or it is a `get` that
Redis answers, or it returns from its local part. -/
inductive CacheCall.After (C : CacheConfig V) (s : CacheSystem V) :
    CacheAction V → CacheCall V → Prop
  | old {a : CacheAction V} {d : CacheCall V} : d ∈ s.calls → After C s a d
  | running {a : CacheAction V} {d : CacheCall V} : d.ended = none → d.result = none → After C s a d
  | hit {a : CacheAction V} {d : CacheCall V} : (∀ key, covers C d.op key = false) →
      setKey? C d.op = none → (∀ h, d.result = some h → h.fromRedis = true) → After C s a d
  | finished {i : ℕ} {time : ℤ} {c d : CacheCall V} : s.calls[i]? = some c →
      c.stage = .answered → (d.object = c.object ∧ d.op = c.op ∧ d.touched = c.touched) →
      d.ended = some s.clock →
      (∀ h, d.result = some h → ∃ name e, c.op = .get name ∧
        s.locals.get? (c.object, C.key name) = some e ∧ time < e.expiresAt ∧
          h.written = e.written) →
      After C s (.finish i time) d

theorem after_redisCommand {s : CacheSystem V} (h : CacheInv C s) {a : CacheAction V} {i : ℕ}
    {c : CacheCall V} (hi : s.calls[i]? = some c) :
    CacheCall.After C s a (redisCommand C s.redis s.clock i c).2 := by
  have hold : CacheCall.After C s a c := .old (List.mem_of_getElem? hi)
  unfold redisCommand
  split
  case h_1 name hstage hop =>
    split
    · rename_i hit hreply
      refine .hit (fun _ => by rw [hop]; rfl) (by rw [hop]; rfl) ?_
      intro hit' hresult
      obtain rfl := Option.some.inj hresult
      obtain ⟨e, -, hsource, -⟩ := decodeReply_eq_some hreply
      exact hsource
    · have hrunning := h.running hi (by rw [hstage]; exact nofun)
      exact .running hrunning.1 hrunning.2
  case h_6 => exact hold
  case h_5 found pattern hstage hop =>
    have hrunning := h.running hi (by rw [hstage]; exact nofun)
    split_ifs
    · exact .running hrunning.1 hrunning.2
    · exact hold
  all_goals
    rename_i hstage hop
    have hrunning := h.running hi (by rw [hstage]; exact nofun)
    exact .running hrunning.1 hrunning.2

theorem after_localPart {s : CacheSystem V} (h : CacheInv C s) {i : ℕ} {c : CacheCall V}
    (hi : s.calls[i]? = some c) (time : ℤ) :
    CacheCall.After C s (.finish i time) (localPart C s.locals s.clock i time c).2 := by
  unfold localPart
  split
  · rename_i hstage
    have hnone := (h.running hi (by rw [hstage]; exact nofun)).2
    have hnothing : ∀ (d : CacheCall V), d.result = c.result → ∀ hit, d.result = some hit →
        ∃ name e, c.op = .get name ∧ s.locals.get? (c.object, C.key name) = some e ∧
          time < e.expiresAt ∧ hit.written = e.written := by
      intro d hd hit hresult
      rw [hd, hnone] at hresult
      cases hresult
    dsimp only
    split
    · rename_i name hop
      split
      · exact .finished hi hstage ⟨rfl, rfl, rfl⟩ rfl (hnothing _ rfl)
      · rename_i e he
        split_ifs with htime
        · refine .finished hi hstage ⟨rfl, rfl, rfl⟩ rfl ?_
          intro hit hresult
          obtain rfl := Option.some.inj hresult
          exact ⟨name, e, hop, he, htime, rfl⟩
        · exact .finished hi hstage ⟨rfl, rfl, rfl⟩ rfl (hnothing _ rfl)
    · exact .finished hi hstage ⟨rfl, rfl, rfl⟩ rfl (hnothing _ rfl)
    · exact .finished hi hstage ⟨rfl, rfl, rfl⟩ rfl (hnothing _ rfl)
  · exact .old (List.mem_of_getElem? hi)

/-- What a step makes of the calls. -/
theorem after_cacheStep {s : CacheSystem V} (h : CacheInv C s) {a : CacheAction V}
    (ha : a.Available) {d : CacheCall V} (hd : d ∈ (cacheStep C s a).calls) :
    CacheCall.After C s a d := by
  cases a with
  | call object op =>
    rcases List.mem_append.mp hd with hd | hd
    · exact .old hd
    · rw [List.mem_singleton] at hd
      rw [hd]
      exact .running rfl rfl
  | redis i =>
    cases hi : s.calls[i]? with
    | none =>
      simp only [cacheStep, hi] at hd
      exact .old hd
    | some c =>
      simp only [cacheStep, hi] at hd
      rcases List.mem_or_eq_of_mem_set hd with hd | rfl
      · exact .old hd
      · exact after_redisCommand h hi
  | scan i keys =>
    cases hi : s.calls[i]? with
    | none =>
      simp only [cacheStep, hi] at hd
      exact .old hd
    | some c =>
      simp only [cacheStep, hi] at hd
      rcases List.mem_or_eq_of_mem_set hd with hd | rfl
      · exact .old hd
      · unfold scanReply
        split
        · rename_i found pattern hstage hop
          have hrunning := h.running hi (by rw [hstage]; exact nofun)
          exact .running hrunning.1 hrunning.2
        · exact .old (List.mem_of_getElem? hi)
  | raise i => exact ha.elim
  | finish i time =>
    cases hi : s.calls[i]? with
    | none =>
      simp only [cacheStep, hi] at hd
      exact .old hd
    | some c =>
      simp only [cacheStep, hi] at hd
      rcases List.mem_or_eq_of_mem_set hd with hd | rfl
      · exact .old hd
      · exact after_localPart h hi time
  | expire key => exact .old hd

/-- What orderly steps add to the invariant: no invalidation that has returned was overtaken, and no
`get` that has returned fell back on an entry that another object had invalidated. -/
structure CacheInOrder (C : CacheConfig V) (s : CacheSystem V) : Prop where
  notOvertaken : ∀ d ∈ s.calls, ∀ σ ∈ s.calls, ∀ key, setKey? C σ.op = some key →
    covers C d.op key = true → ∀ a b, σ.ended = some a → d.ended = some b → a < b →
      ∀ f t, d.touched = some f → σ.touched = some t → t < f
  own : ∀ g ∈ s.calls, ∀ hit, g.result = some hit → hit.fromRedis = false →
    ∀ key, getKey? C g.op = some key → ∀ d ∈ s.calls, covers C d.op key = true →
      ∀ b, d.ended = some b → hit.written < b → b < g.began →
        d.object = g.object ∧ clearsLocal C d.op key = true

theorem CacheInOrder.step {s : CacheSystem V} (h : CacheInOrder C s) (hinv : CacheInv C s)
    {a : CacheAction V} (ha : a.Available) (horderly : CacheOrderly C s a) :
    CacheInOrder C (cacheStep C s a) := by
  have hinv' := hinv.step ha
  have hclock : (cacheStep C s a).clock = s.clock + 1 := by
    cases a <;> simp only [cacheStep] <;> split <;> rfl
  -- nothing has ended after this step, and every `get` began before the next
  have hlast : ∀ d ∈ (cacheStep C s a).calls, ∀ b, d.ended = some b → b ≤ s.clock := by
    intro d hd b hb
    have := (hinv'.calls d hd).ended b hb
    omega
  have hfirst : ∀ g ∈ (cacheStep C s a).calls, g.began ≤ s.clock := by
    intro g hg
    have := (hinv'.calls g hg).began
    omega
  constructor
  · intro d hd σ hσ key hset hcov x b hx hb hlt f t hf ht
    have hble := hlast d hd b hb
    cases after_cacheStep hinv ha hσ with
    | old hold =>
      cases after_cacheStep hinv ha hd with
      | old hd => exact h.notOvertaken d hd σ hold key hset hcov x b hx hb hlt f t hf ht
      | running hended _ =>
        rw [hended] at hb
        cases hb
      | hit hcovers _ _ =>
        rw [hcovers] at hcov
        cases hcov
      | finished hi hstage hsame _ _ =>
        rw [hsame.2.1] at hcov
        rw [hsame.2.2] at hf
        exact (horderly _ hi hstage).1 σ hold key hset hcov (by rw [hx]; rfl) f hf t ht
    | running hended _ =>
      rw [hended] at hx
      cases hx
    | hit _ hnone _ =>
      rw [hnone] at hset
      cases hset
    | finished _ _ _ hended _ =>
      obtain rfl : s.clock = x := Option.some.inj (hended.symm.trans hx)
      omega
  · intro g hg hit hresult hsource key hread d hd hcov b hb hlt hbg
    have hgle := hfirst g hg
    cases after_cacheStep hinv ha hd with
    | old hold =>
      cases after_cacheStep hinv ha hg with
      | old hg => exact h.own g hg hit hresult hsource key hread d hold hcov b hb hlt hbg
      | running _ hnone =>
        rw [hnone] at hresult
        cases hresult
      | hit _ _ hredis =>
        rw [hredis hit hresult] at hsource
        cases hsource
      | finished hi hstage hsame _ hfallback =>
        obtain ⟨name, e, hop, he, htime, hwritten⟩ := hfallback hit hresult
        rw [hsame.2.1, hop] at hread
        obtain rfl : C.key name = key := Option.some.inj hread
        rw [hwritten] at hlt
        rw [hsame.1]
        exact (horderly _ hi hstage).2 (C.key name)
          (by rw [hop]; rfl) e he htime d hold hcov b hb hlt
    | running hended _ =>
      rw [hended] at hb
      cases hb
    | hit hcovers _ _ =>
      rw [hcovers] at hcov
      cases hcov
    | finished _ _ _ hended _ =>
      obtain rfl : s.clock = b := Option.some.inj (hended.symm.trans hb)
      omega

/-- **The two causes** of a stale `get`: Redis held a value that was written after the deletion of
the invalidation, or the local copy had not been cleared by it. -/
theorem stale_cause {s : CacheSystem V} (h : CacheInv C s) {g σ d : CacheCall V} {hit : CacheHit V}
    {key : String} (hg : g ∈ s.calls) (hstale : Stale C s g σ d hit key) :
    (hit.fromRedis = true ∧ ∃ f t, d.touched = some f ∧ σ.touched = some t ∧ f ≤ t) ∨
      (hit.fromRedis = false ∧ σ.ended = some hit.written ∧
        ¬ (d.object = g.object ∧ clearsLocal C d.op key = true)) := by
  obtain ⟨a, b, ha, hb, hab, hbg⟩ := hstale.before
  have hok := h.hits g hg hit hstale.returned
  obtain ⟨key', σ', hread, hσ', -, hwritten⟩ := hok.origin
  obtain rfl : σ = σ' := Option.some.inj (hstale.origin.symm.trans hσ')
  have hd := hstale.invalidation
  cases hsource : hit.fromRedis with
  | true =>
    rw [hsource] at hwritten
    have hdeleted := (h.calls d hd).deleted_of_ended hb
    have hexecuted : d.touched.isSome = true := by
      refine (h.calls d hd).executed ?_
      intro hstage
      rw [CacheCall.deleted, hstage] at hdeleted
      cases hdeleted
    obtain ⟨f, hf⟩ := Option.isSome_iff_exists.mp hexecuted
    exact Or.inl ⟨rfl, f, hit.written, hf, hwritten,
      hok.ofRedis hsource key hstale.read d hd hstale.covered b hb hbg f hf⟩
  | false =>
    rw [hsource] at hwritten
    refine Or.inr ⟨rfl, hwritten, ?_⟩
    rintro ⟨hobject, hclears⟩
    have hle := hok.ofCopy hsource key hstale.read d hd hobject hclears b hb hbg
    obtain rfl : a = hit.written := Option.some.inj (ha.symm.trans hwritten)
    omega

/-- In order, no `get` was stale: both causes are excluded. -/
theorem CacheInOrder.coherent {s : CacheSystem V} (h : CacheInOrder C s) (hinv : CacheInv C s) :
    Coherent C s := by
  intro g hg σ d hit key hstale
  obtain ⟨a, b, ha, hb, hab, hbg⟩ := hstale.before
  have hd := hstale.invalidation
  have hσ := List.mem_of_getElem? hstale.origin
  rcases stale_cause hinv hg hstale with ⟨hsource, f, t, hf, ht, hle⟩ | ⟨hsource, hwritten, hother⟩
  · obtain ⟨key', σ', hread, hσ', hset, -⟩ := (hinv.hits g hg hit hstale.returned).origin
    obtain rfl : σ = σ' := Option.some.inj (hstale.origin.symm.trans hσ')
    obtain rfl : key = key' := Option.some.inj (hstale.read.symm.trans hread)
    have hlt := h.notOvertaken d hd σ hσ key hset hstale.covered a b ha hb hab f t hf ht
    omega
  · obtain rfl : a = hit.written := Option.some.inj (ha.symm.trans hwritten)
    exact hother (h.own g hg hit hstale.returned hsource key hstale.read d hd hstale.covered b hb
      hab hbg)

/-- **Coherence**: in a run in which Redis answers every command and every step is orderly, no `get`
returns a value that was invalidated after its `set` and before the `get`. -/
theorem cache_coherent (C : CacheConfig V) (actions : List (CacheAction V))
    (h : Meets (cacheStep C) (fun s a => a.Available ∧ CacheOrderly C s a) {} actions) :
    Coherent C (run (cacheStep C) {} actions) := by
  have hstart : CacheInv C ({} : CacheSystem V) ∧ CacheInOrder C ({} : CacheSystem V) :=
    ⟨⟨List.forall_mem_nil _, List.forall_mem_nil _, List.forall_mem_nil _, List.forall_mem_nil _⟩,
      ⟨List.forall_mem_nil _, List.forall_mem_nil _⟩⟩
  have hend := run_induction (I := fun s : CacheSystem V => CacheInv C s ∧ CacheInOrder C s)
    (fun s a hI hG => ⟨hI.1.step hG.1, hI.2.step hI.1 hG.1 hG.2⟩) hstart h
  exact hend.2.coherent hend.1

end Coherence

namespace Sample

/-- A cache of truth values with the prefix of the endpoint cache. -/
def flags : CacheConfig Bool where
  keyPrefix := "tripwire:cache"
  dumps := fun b => if b then "true" else "false"
  loads := fun raw => if raw = "true" then some true else if raw = "false" then some false else none
  globMatch := fun pattern key =>
    if pattern.toList.getLast? = some '*' then
      startsWith key (String.ofList pattern.toList.dropLast)
    else key = pattern

/-- The object 0 sets a name, the object `j` invalidates all names, and then the object 0 reads. -/
def invalidateThrough (j : ℕ) : List (CacheAction Bool) :=
  [.call 0 (.set "endpoints:0x22" true (some 30)), .redis 0, .finish 0 100,
    .call 0 (.get "endpoints:0x22"), .redis 1,
    .call j (.invalidatePattern "endpoints:*"), .redis 2,
    .scan 2 ["tripwire:cache:endpoints:0x22"], .redis 2, .finish 2 101,
    .call 0 (.get "endpoints:0x22"), .redis 3, .finish 3 102]

end Sample

/-- An object that invalidates what it has set itself does not read it again. -/
theorem cache_coherent_own_invalidation :
    Meets (cacheStep Sample.flags) (fun s a => a.Available ∧ CacheOrderly Sample.flags s a) {}
        (Sample.invalidateThrough 0) ∧
      Coherent Sample.flags (run (cacheStep Sample.flags) {} (Sample.invalidateThrough 0)) := by
  have h : Meets (cacheStep Sample.flags) (fun s a => a.Available ∧ CacheOrderly Sample.flags s a)
    {}
      (Sample.invalidateThrough 0) := by
    decide +kernel
  exact ⟨h, cache_coherent Sample.flags _ h⟩

/-- An object reads from its local copy what another object has invalidated. -/
theorem stale_get_other_object :
    (∀ a ∈ Sample.invalidateThrough 1, a.Available) ∧
      ¬ Coherent Sample.flags (run (cacheStep Sample.flags) {} (Sample.invalidateThrough 1)) := by
  decide +kernel

end TripWire
