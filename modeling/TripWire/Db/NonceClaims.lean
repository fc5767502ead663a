import TripWire.Db.NonceStore
import TripWire.Lib.Sequential
import Mathlib.Data.List.Induction
import Mathlib.Logic.Function.Basic

/-!
# The nonce table is a claim map

What the `nonces` table is for: a map from `(chain_id, nonce, lower(authorizer))` to the event and
the source that hold the key (`ClaimMap`), with two operations.  `record` claims a free key and
reports the holder of a held one; `invalidate` releases the keys an event holds.

The code does not run its operations one after the other.  `record_nonce_or_correlate` issues an
insert and, only on a conflict, a locked read of the row, and the statements of other sessions can
fall in between.  `Sessions` is the table together with the calls that stand between their two
statements, and a run is any sequence of statements of any sessions.

A call takes effect at the statement that returns.  That a conflict found earlier still means
something then is due to the invariant `Sessions.Pinned`: no statement removes a row.
-/

namespace TripWire

open Py

namespace NonceStore

variable {τ ε σ : Type}

/-! ### The claim map -/

/-- What a key is mapped to. -/
inductive Slot (ε σ : Type) where
  | free
  | claimed (eventId : Option ε) (source : σ)

/-- A call. -/
inductive Request (ε σ : Type) where
  | record (claim : Claim ε σ)
  | invalidate (eventId : ε)

/-- What a call returns. -/
inductive Reply (ε σ : Type) where
  | recorded (answer : Answer ε σ)
  | invalidated (found : Bool)

/-- The event `e` holds the key. -/
def Slot.HeldBy (e : ε) (slot : Slot ε σ) : Prop := ∃ source, slot = .claimed (some e) source

open Classical in
/-- The slot once the event `e` has lost its claims. -/
noncomputable def Slot.release (e : ε) (slot : Slot ε σ) : Slot ε σ :=
  if slot.HeldBy e then .free else slot

/-- A map from nonce keys to their holders. -/
abbrev ClaimMap (ε σ : Type) := NonceKey → Slot ε σ

namespace ClaimMap

/-- The map in which every key is free. -/
def unclaimed : ClaimMap ε σ := fun _ => .free

open Classical in
/-- The two operations of the map. -/
noncomputable def perform (m : ClaimMap ε σ) : Request ε σ → ClaimMap ε σ × Reply ε σ
  | .record c =>
    match m c.key with
    | .free =>
      (Function.update m c.key (.claimed c.eventId c.source), .recorded { isNew := true })
    | .claimed eventId source => (m, .recorded ⟨false, eventId, some source⟩)
  | .invalidate e => (fun k => (m k).release e, .invalidated (decide (∃ k, (m k).HeldBy e)))

end ClaimMap

/-! ### The sessions -/

/-- The tables, the calls that found a conflict and have not looked at the row yet, and the calls
that have returned, in the order in which they did. -/
structure Sessions (τ ε σ : Type) where
  store : Store ε σ := {}
  waiting : τ → Option (Claim ε σ) := fun _ => none
  history : List (Request ε σ × Reply ε σ) := []

/-- One statement of a session. -/
inductive Statement (τ ε σ : Type) where
  /-- The `INSERT` that begins a `record_nonce_or_correlate` call. -/
  | insert (session : τ) (claim : Claim ε σ) (now : ℤ)
  /-- The locked read, the reclaim and the return of a call that found a conflict. -/
  | resolve (session : τ) (now : ℤ)
  /-- The one `UPDATE` of an `invalidate_by_event_id` call. -/
  | invalidate (eventId : ε) (now : ℤ)

namespace Sessions

/-- The state after a statement.  A session that is inside a call begins no other. -/
def step [DecidableEq τ] [DecidableEq ε] (s : Sessions τ ε σ) :
    Statement τ ε σ → Sessions τ ε σ
  | .insert session c now =>
    match s.waiting session with
    | some _ => s
    | none =>
      match s.store.insertNonce now c.key c.eventId c.source with
      | some store =>
        { s with store, history := s.history ++ [(.record c, .recorded { isNew := true })] }
      | none => { s with waiting := Function.update s.waiting session (some c) }
  | .resolve session now =>
    match s.waiting session with
    | none => s
    | some c =>
      { store := (s.store.resolveConflict now c.key c.eventId c.source).1
        waiting := Function.update s.waiting session none
        history := s.history ++
          [(.record c, .recorded (s.store.resolveConflict now c.key c.eventId c.source).2)] }
  | .invalidate e now =>
    { s with
      store := (s.store.invalidateByEventId now e).1
      history := s.history ++
        [(.invalidate e, .invalidated (s.store.invalidateByEventId now e).2)] }

/-- The row of every conflict that a call has found is still there. -/
def Pinned (s : Sessions τ ε σ) : Prop :=
  ∀ session c, s.waiting session = some c → s.store.nonces.get? c.key ≠ none

end Sessions

/-- What a row of the table stands for. -/
def Slot.ofRow : Option (Row ε σ) → Slot ε σ
  | none => .free
  | some row => if row.reorgedAt.isSome then .free else .claimed row.eventId row.source

/-- The claim map that the tables stand for. -/
def Store.claims (s : Store ε σ) : ClaimMap ε σ := fun k => Slot.ofRow (s.nonces.get? k)

/-! ### The statements that return, against the map -/

theorem Slot.ofRow_of_isFree {row : Option (Row ε σ)} (h : Store.isFree row = true) :
    Slot.ofRow row = .free := by
  cases row with
  | none => rfl
  | some row => exact if_pos h

theorem Slot.ofRow_of_held {row : Row ε σ} (h : Store.isFree (some row) = false) :
    Slot.ofRow (some row) = .claimed row.eventId row.source :=
  if_neg (Bool.eq_false_iff.mp h)

theorem Slot.heldBy_ofRow [DecidableEq ε] {e : ε} {row : Option (Row ε σ)} :
    (Slot.ofRow row).HeldBy e ↔ ∃ r, row = some r ∧ r.activeFor e = true := by
  cases row with
  | none => simp [Slot.ofRow, Slot.HeldBy]
  | some r =>
    by_cases hreorg : r.reorgedAt.isSome = true
    · have hsome : r.reorgedAt ≠ none := Option.isSome_iff_ne_none.mp hreorg
      simp [Slot.ofRow, Slot.HeldBy, Row.activeFor, hreorg, hsome]
    · have hnone : r.reorgedAt = none := by simpa using hreorg
      simp [Slot.ofRow, Slot.HeldBy, Row.activeFor, hnone]

namespace Store

/-- Writing one row changes one slot. -/
theorem claims_of_get? {s s' : Store ε σ} {key : NonceKey} {row : Option (Row ε σ)}
    (h : ∀ k, s'.nonces.get? k = if key = k then row else s.nonces.get? k) :
    s'.claims = Function.update s.claims key (Slot.ofRow row) := by
  funext k
  rw [claims, h]
  by_cases hk : key = k
  · rw [if_pos hk, ← hk, Function.update_self]
  · rw [if_neg hk, Function.update_of_ne (Ne.symm hk)]
    rfl

/-- An insert that succeeds is a claim of a free key. -/
theorem perform_of_insertNonce {s s' : Store ε σ} {now : ℤ} {c : Claim ε σ}
    (h : s.insertNonce now c.key c.eventId c.source = some s') :
    s.claims.perform (.record c) = (s'.claims, .recorded { isNew := true }) := by
  obtain ⟨hnone, -, hget⟩ := insertNonce_eq_some h
  have hfree : s.claims c.key = .free := by rw [claims, hnone]; rfl
  rw [claims_of_get? hget]
  simp only [ClaimMap.perform, hfree]
  rfl

/-- What follows a conflict is a claim of a reorged key or a report of the holder. -/
theorem perform_of_resolveConflict {s : Store ε σ} {c : Claim ε σ}
    (h : s.nonces.get? c.key ≠ none) (now : ℤ) :
    s.claims.perform (.record c) =
      ((s.resolveConflict now c.key c.eventId c.source).1.claims,
        .recorded (s.resolveConflict now c.key c.eventId c.source).2) := by
  obtain ⟨row, hrow⟩ := Option.ne_none_iff_exists'.mp h
  obtain ⟨hanswer, -, hget⟩ := resolveConflict_spec hrow now c.eventId c.source
  have hslot : s.claims c.key = Slot.ofRow (some row) := by rw [claims, hrow]
  rw [claims_of_get? hget, hanswer]
  cases hfree : isFree (some row) with
  | true =>
    rw [Slot.ofRow_of_isFree hfree] at hslot
    have hreorg : row.reorgedAt.isSome = true := hfree
    simp only [ClaimMap.perform, hslot, claimedRow, hreorg, if_true]
    rfl
  | false =>
    rw [Slot.ofRow_of_held hfree] at hslot
    have hreorg : row.reorgedAt.isSome = false := hfree
    -- nothing is written: the update of the map puts back what is there
    simp only [ClaimMap.perform, hslot, claimedRow, hreorg, Bool.false_eq_true, if_false,
      Slot.ofRow_of_held hfree]
    rw [← hslot, Function.update_eq_self]

/-- The update of `invalidate_by_event_id` releases what the event holds. -/
theorem perform_of_invalidateByEventId [DecidableEq ε] (s : Store ε σ) (now : ℤ) (e : ε) :
    s.claims.perform (.invalidate e) =
      ((s.invalidateByEventId now e).1.claims, .invalidated (s.invalidateByEventId now e).2) := by
  have hfound : (∃ k, (s.claims k).HeldBy e) ↔ (s.invalidateByEventId now e).2 = true := by
    rw [invalidateByEventId_snd]
    simp only [claims, Slot.heldBy_ofRow]
  have hclaims : (s.invalidateByEventId now e).1.claims = fun k => (s.claims k).release e := by
    funext k
    rw [claims, get?_invalidateByEventId]
    simp only [claims, Slot.release, Slot.heldBy_ofRow]
    cases s.nonces.get? k with
    | none => simp
    | some r =>
      by_cases hactive : r.activeFor e = true
      · simp [hactive, Slot.ofRow, Row.invalidated]
      · simp [hactive]
  rw [ClaimMap.perform, hclaims]
  simp only [hfound, Bool.decide_eq_true]

end Store

/-! ### The simulation -/

namespace Sessions

variable [DecidableEq τ] [DecidableEq ε]

/-- What a statement can do: nothing, a claim, a conflict, the end of a call that found one, or an
invalidation. -/
theorem step_cases (s : Sessions τ ε σ) (x : Statement τ ε σ) :
    s.step x = s ∨
    (∃ now c store, s.store.insertNonce now c.key c.eventId c.source = some store ∧
      s.step x =
        { s with store, history := s.history ++ [(.record c, .recorded { isNew := true })] }) ∨
    (∃ session c, s.store.nonces.get? c.key ≠ none ∧
      s.step x = { s with waiting := Function.update s.waiting session (some c) }) ∨
    (∃ session now c, s.waiting session = some c ∧
      s.step x =
        { store := (s.store.resolveConflict now c.key c.eventId c.source).1
          waiting := Function.update s.waiting session none
          history := s.history ++
            [(.record c, .recorded (s.store.resolveConflict now c.key c.eventId c.source).2)] }) ∨
    ∃ now e, s.step x =
      { s with
        store := (s.store.invalidateByEventId now e).1
        history := s.history ++
          [(.invalidate e, .invalidated (s.store.invalidateByEventId now e).2)] } := by
  cases x with
  | insert session c now =>
    cases hwait : s.waiting session with
    | some c' => left; simp only [step, hwait]
    | none =>
      cases hins : s.store.insertNonce now c.key c.eventId c.source with
      | some store =>
        right; left
        exact ⟨now, c, store, hins, by simp only [step, hwait, hins]⟩
      | none =>
        right; right; left
        exact ⟨session, c, Store.insertNonce_eq_none_iff.mp hins, by simp only [step, hwait, hins]⟩
  | resolve session now =>
    cases hwait : s.waiting session with
    | none => left; simp only [step, hwait]
    | some c =>
      right; right; right; left
      exact ⟨session, now, c, hwait, by simp only [step, hwait]⟩
  | invalidate e now =>
    right; right; right; right
    exact ⟨now, e, rfl⟩

/-- No statement removes a row. -/
theorem get?_step_ne_none {s : Sessions τ ε σ} {k : NonceKey}
    (h : s.store.nonces.get? k ≠ none) (x : Statement τ ε σ) :
    (s.step x).store.nonces.get? k ≠ none := by
  obtain hx | ⟨now, c, store, hins, hx⟩ | ⟨session, c, -, hx⟩ | ⟨session, now, c, -, hx⟩ |
    ⟨now, e, hx⟩ := s.step_cases x <;> rw [hx]
  · exact h
  · rw [(Store.insertNonce_eq_some hins).2.2 k]
    split
    · exact Option.some_ne_none _
    · exact h
  · exact h
  · cases hrow : s.store.nonces.get? c.key with
    | none => simpa [Store.resolveConflict, hrow] using h
    | some row =>
      rw [(Store.resolveConflict_spec hrow now c.eventId c.source).2.2 k]
      split
      · exact Option.some_ne_none _
      · exact h
  · rw [Store.get?_invalidateByEventId]
    simpa using h

/-- A call waits only behind a row, and the row stays. -/
theorem Pinned.step {s : Sessions τ ε σ} (h : s.Pinned) (x : Statement τ ε σ) :
    (s.step x).Pinned := by
  intro t d hd
  have hrow : s.store.nonces.get? d.key ≠ none := by
    obtain hx | ⟨now, c, store, -, hx⟩ | ⟨session, c, hc, hx⟩ | ⟨session, now, c, -, hx⟩ |
      ⟨now, e, hx⟩ := s.step_cases x <;> rw [hx] at hd
    · exact h t d hd
    · exact h t d hd
    · change Function.update s.waiting session (some c) t = some d at hd
      by_cases ht : t = session
      · subst ht
        rw [Function.update_self] at hd
        exact Option.some.inj hd ▸ hc
      · rw [Function.update_of_ne ht] at hd
        exact h t d hd
    · change Function.update s.waiting session none t = some d at hd
      by_cases ht : t = session
      · subst ht
        rw [Function.update_self] at hd
        cases hd
      · rw [Function.update_of_ne ht] at hd
        exact h t d hd
    · exact h t d hd
  exact get?_step_ne_none hrow x

/-- **One statement of the code is at most one operation of the map.** -/
theorem step_simulates {s : Sessions τ ε σ} (h : s.Pinned) (x : Statement τ ε σ) :
    ((s.step x).store.claims = s.store.claims ∧ (s.step x).history = s.history) ∨
      ∃ entry, (s.step x).history = s.history ++ [entry] ∧
        s.store.claims.perform entry.1 = ((s.step x).store.claims, entry.2) := by
  obtain hx | ⟨now, c, store, hins, hx⟩ | ⟨session, c, -, hx⟩ | ⟨session, now, c, hc, hx⟩ |
    ⟨now, e, hx⟩ := s.step_cases x <;> rw [hx]
  · exact .inl ⟨rfl, rfl⟩
  · exact .inr ⟨_, rfl, Store.perform_of_insertNonce hins⟩
  · exact .inl ⟨rfl, rfl⟩
  · exact .inr ⟨_, rfl, Store.perform_of_resolveConflict (h session c hc) now⟩
  · exact .inr ⟨_, rfl, s.store.perform_of_invalidateByEventId now e⟩

/-- The answers of every interleaving are those of the map. -/
theorem legal_history (xs : List (Statement τ ε σ)) :
    Sequential.Legal ClaimMap.perform ClaimMap.unclaimed
      (Machine.run step ({} : Sessions τ ε σ) xs).history := by
  have hinit : ({} : Sessions τ ε σ).Pinned := by
    intro session c hc
    cases hc
  have hlegal : Sequential.Legal ClaimMap.perform ClaimMap.unclaimed
      ({} : Sessions τ ε σ).history := trivial
  exact Sequential.legal_of_simulation (I := Pinned) (fun s => s.store.claims) history
    (fun _ x h => ⟨h.step x, step_simulates h x⟩) hinit hlegal rfl xs

end Sessions

/-! ### What a legal history looks like at one key -/

/-- The claim of `key` that an answered call made, if it made one. -/
def successfulClaim (key : NonceKey) : Request ε σ × Reply ε σ → Option (Claim ε σ)
  | (.record c, .recorded answer) => if c.key = key ∧ answer.isNew = true then some c else none
  | _ => none

/-- The latest successful claim of `key` in a history. -/
def latestClaim (key : NonceKey) (h : List (Request ε σ × Reply ε σ)) : Option (Claim ε σ) :=
  (h.filterMap (successfulClaim key)).getLast?

/-- The map after a history that began with every key free. -/
noncomputable def mapAfter (h : List (Request ε σ × Reply ε σ)) : ClaimMap ε σ :=
  Sequential.after ClaimMap.perform ClaimMap.unclaimed h

theorem successfulClaim_ne_none {key : NonceKey} {entry : Request ε σ × Reply ε σ}
    (h : successfulClaim key entry ≠ none) :
    ∃ c answer, entry = (.record c, .recorded answer) ∧ c.key = key ∧ answer.isNew = true := by
  obtain ⟨q, r⟩ := entry
  cases q with
  | invalidate e => exact absurd rfl h
  | record c =>
    cases r with
    | invalidated found => exact absurd rfl h
    | recorded answer =>
      by_cases hc : c.key = key ∧ answer.isNew = true
      · exact ⟨c, answer, rfl, hc⟩
      · exact absurd (if_neg hc) h

theorem latestClaim_append_singleton (key : NonceKey) (h : List (Request ε σ × Reply ε σ))
    (entry : Request ε σ × Reply ε σ) :
    latestClaim key (h ++ [entry]) = (successfulClaim key entry).or (latestClaim key h) := by
  rw [latestClaim, latestClaim, List.filterMap_append]
  cases hc : successfulClaim key entry with
  | none => simp [hc]
  | some c => simp [hc]

namespace ClaimMap

theorem perform_record_of_free {m : ClaimMap ε σ} {c : Claim ε σ} (h : m c.key = .free) :
    m.perform (.record c) =
      (Function.update m c.key (.claimed c.eventId c.source), .recorded { isNew := true }) := by
  simp only [perform, h]

theorem perform_record_of_claimed {m : ClaimMap ε σ} {c : Claim ε σ} {eventId : Option ε}
    {source : σ}
    (h : m c.key = .claimed eventId source) :
    m.perform (.record c) = (m, .recorded ⟨false, eventId, some source⟩) := by
  simp only [perform, h]

/-- A claimed key stays claimed by the same event until the event is invalidated. -/
theorem perform_of_claimed {m : ClaimMap ε σ} {key : NonceKey} {eventId : Option ε} {source : σ}
    (h : m key = .claimed eventId source) (q : Request ε σ) :
    (m.perform q).1 key = .claimed eventId source ∨ ∃ e, eventId = some e ∧ q = .invalidate e := by
  cases q with
  | record c =>
    left
    cases hslot : m c.key with
    | claimed e s => rwa [perform_record_of_claimed hslot]
    | free =>
      have hne : key ≠ c.key := by
        rintro rfl
        rw [hslot] at h
        cases h
      rw [perform_record_of_free hslot]
      exact (Function.update_of_ne hne _ _).trans h
  | invalidate e =>
    by_cases heq : eventId = some e
    · exact .inr ⟨e, heq, rfl⟩
    · left
      have hheld : ¬ (m key).HeldBy e := by
        rintro ⟨s, hs⟩
        rw [h] at hs
        cases hs
        exact heq rfl
      show (m key).release e = .claimed eventId source
      rw [Slot.release, if_neg hheld, h]

end ClaimMap

/-- The holder of a key made its latest successful claim. -/
theorem latestClaim_of_mapAfter {h : List (Request ε σ × Reply ε σ)}
    (hlegal : Sequential.Legal ClaimMap.perform ClaimMap.unclaimed h) {key : NonceKey}
    {eventId : Option ε} {source : σ} (hheld : mapAfter h key = .claimed eventId source) :
    ∃ c, latestClaim key h = some c ∧ c.eventId = eventId ∧ c.source = source := by
  induction h using List.reverseRecOn with
  | nil => cases hheld
  | append_singleton h entry ih =>
    obtain ⟨hearlier, hreply, -⟩ := Sequential.legal_append.mp hlegal
    have hafter : mapAfter (h ++ [entry]) = ((mapAfter h).perform entry.1).1 :=
      Sequential.after_append _ _ _ _
    change ((mapAfter h).perform entry.1).2 = entry.2 at hreply
    rw [hafter] at hheld
    rw [latestClaim_append_singleton]
    obtain ⟨q, r⟩ := entry
    cases q with
    | record c =>
      cases hslot : mapAfter h c.key with
      | free =>
        rw [ClaimMap.perform_record_of_free hslot] at hheld hreply
        obtain rfl : .recorded { isNew := true } = r := hreply
        by_cases hkey : c.key = key
        · -- the call claimed the key itself
          subst hkey
          change Function.update (mapAfter h) c.key _ c.key = _ at hheld
          rw [Function.update_self] at hheld
          cases hheld
          exact ⟨c, by simp [successfulClaim], rfl, rfl⟩
        · change Function.update (mapAfter h) c.key _ key = _ at hheld
          rw [Function.update_of_ne (Ne.symm hkey)] at hheld
          simpa [successfulClaim, hkey] using ih hearlier hheld
      | claimed e s =>
        rw [ClaimMap.perform_record_of_claimed hslot] at hheld hreply
        obtain rfl : .recorded ⟨false, e, some s⟩ = r := hreply
        simpa [successfulClaim] using ih hearlier hheld
    | invalidate e =>
      have hheld' : (mapAfter h key).release e = .claimed eventId source := hheld
      rw [Slot.release] at hheld'
      split at hheld'
      · cases hheld'
      · simpa [successfulClaim] using ih hearlier hheld'

/-- A call that claims a key leaves it held. -/
theorem held_of_successfulClaim {m : ClaimMap ε σ} {key : NonceKey}
    {entry : Request ε σ × Reply ε σ} (hreply : (m.perform entry.1).2 = entry.2)
    (hclaim : successfulClaim key entry ≠ none) :
    ∃ eventId source, (m.perform entry.1).1 key = .claimed eventId source := by
  obtain ⟨c, answer, rfl, rfl, hnew⟩ := successfulClaim_ne_none hclaim
  cases hslot : m c.key with
  | free =>
    refine ⟨c.eventId, c.source, ?_⟩
    rw [ClaimMap.perform_record_of_free hslot]
    exact Function.update_self ..
  | claimed eventId source =>
    rw [ClaimMap.perform_record_of_claimed hslot] at hreply
    obtain rfl : _ = answer := Reply.recorded.inj hreply
    cases hnew

/-- Between two successful claims of a key its holder was invalidated. -/
theorem released_between {m : ClaimMap ε σ} {key : NonceKey}
    {mid h : List (Request ε σ × Reply ε σ)}
    {entry : Request ε σ × Reply ε σ}
    (hlegal : Sequential.Legal ClaimMap.perform m (mid ++ entry :: h))
    (hheld : ∃ eventId source, m key = .claimed eventId source)
    (hclaim : successfulClaim key entry ≠ none) :
    ∃ before e rest, mid = before ++ (.invalidate e, .invalidated true) :: rest ∧
      (Sequential.after ClaimMap.perform m before key).HeldBy e := by
  induction mid generalizing m with
  | nil =>
    -- a call on a held key is answered with the holder
    exfalso
    obtain ⟨eventId, source, hheld⟩ := hheld
    obtain ⟨c, answer, rfl, rfl, hnew⟩ := successfulClaim_ne_none hclaim
    have hreply : (m.perform (.record c)).2 = .recorded answer := hlegal.1
    rw [ClaimMap.perform_record_of_claimed hheld] at hreply
    obtain rfl : _ = answer := Reply.recorded.inj hreply
    cases hnew
  | cons x mid ih =>
    obtain ⟨hreply, hrest⟩ : (m.perform x.1).2 = x.2 ∧
        Sequential.Legal ClaimMap.perform (m.perform x.1).1 (mid ++ entry :: h) := hlegal
    obtain ⟨eventId, source, hheld⟩ := hheld
    rcases ClaimMap.perform_of_claimed hheld x.1 with hkept | ⟨e, rfl, hx⟩
    · obtain ⟨before, e, rest, hmid, he⟩ := ih hrest ⟨eventId, source, hkept⟩
      exact ⟨x :: before, e, rest, by rw [hmid, List.cons_append], he⟩
    · refine ⟨[], e, mid, ?_, source, hheld⟩
      obtain ⟨q, r⟩ := x
      obtain rfl : q = .invalidate e := hx
      have hfound : ∃ k, (m k).HeldBy e := ⟨key, source, hheld⟩
      obtain rfl : r = .invalidated true := by
        refine hreply.symm.trans ?_
        simp [ClaimMap.perform, hfound]
      rfl

/-! ### The theorem -/

/-- **The nonce table refines a claim map.** For every interleaving of the statements of any number
of calls, from empty tables: the calls are answered as the map answers them, one after the other in
the order in which they return; between two calls that claim a key an invalidation of the event that
held it was effective; and every call that is not new is told the event and the source of the latest
claim of its key. -/
theorem claim_map_refinement [DecidableEq τ] [DecidableEq ε] (xs : List (Statement τ ε σ)) :
    Sequential.Legal ClaimMap.perform ClaimMap.unclaimed
        (Machine.run Sessions.step ({} : Sessions τ ε σ) xs).history ∧
      (∀ key before first mid second rest,
        (Machine.run Sessions.step ({} : Sessions τ ε σ) xs).history =
            before ++ first :: (mid ++ second :: rest) →
        successfulClaim key first ≠ none → successfulClaim key second ≠ none →
        ∃ mid₁ e mid₂, mid = mid₁ ++ (.invalidate e, .invalidated true) :: mid₂ ∧
          (mapAfter (before ++ first :: mid₁) key).HeldBy e) ∧
      ∀ before c answer rest,
        (Machine.run Sessions.step ({} : Sessions τ ε σ) xs).history =
            before ++ (.record c, .recorded answer) :: rest →
        answer.isNew = false →
        ∃ holder, latestClaim c.key before = some holder ∧
          answer = ⟨false, holder.eventId, some holder.source⟩ := by
  have hlegal := Sessions.legal_history xs
  refine ⟨hlegal, ?_, ?_⟩
  · intro key before first mid second rest hsplit hfirst hsecond
    rw [hsplit] at hlegal
    obtain ⟨-, hreply, hrest⟩ := Sequential.legal_append.mp hlegal
    -- right after the first claim the key is held
    have hheld := held_of_successfulClaim hreply hfirst
    obtain ⟨mid₁, e, mid₂, hmid, he⟩ := released_between hrest hheld hsecond
    refine ⟨mid₁, e, mid₂, hmid, ?_⟩
    rw [mapAfter, Sequential.after_append]
    exact he
  · intro before c answer rest hsplit hdup
    rw [hsplit] at hlegal
    obtain ⟨hearlier, hreply, -⟩ := Sequential.legal_append.mp hlegal
    change ((mapAfter before).perform (.record c)).2 = .recorded answer at hreply
    cases hslot : mapAfter before c.key with
    | free =>
      rw [ClaimMap.perform_record_of_free hslot] at hreply
      obtain rfl := Reply.recorded.inj hreply
      cases hdup
    | claimed eventId source =>
      rw [ClaimMap.perform_record_of_claimed hslot] at hreply
      obtain rfl := Reply.recorded.inj hreply
      obtain ⟨holder, hholder, rfl, rfl⟩ := latestClaim_of_mapAfter hearlier hslot
      exact ⟨holder, hholder, rfl⟩

end NonceStore

end TripWire
