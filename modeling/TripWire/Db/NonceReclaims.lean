import TripWire.Db.NonceStore
import TripWire.Lib.Machine
import Mathlib.Data.List.Count
import Mathlib.Logic.Function.Basic

/-!
# Reclaiming a reorged nonce

`record_nonce_with_reorg` (migration 019) takes over a reorged nonce in two statements: an `EXISTS`
that looks at the row without a lock, and an `UPDATE` that does not look at it again.  Statements of
other sessions can fall in between, and under `READ COMMITTED` they go on seeing the row as reorged
until the transaction of the call commits.  (`record_nonce_or_correlate`, migration 020, reads the
row `FOR UPDATE`.)

`Reclaims` is what is committed together with the calls on their way and the rows that they hold,
and a run is any sequence of statements of any sessions.  If another call looks between the look of
a call and its commit, then both return `TRUE`: `reclaim_exclusive_iff`.
-/

namespace TripWire

open Py Machine

namespace NonceStore

variable {τ ε σ : Type}

/-- How far a call has come. -/
inductive ReclaimPoint where
  /-- The `INSERT` added a row, and the commit is next. -/
  | inserted
  /-- The `INSERT` found a row, and the `EXISTS` is next. -/
  | conflict
  /-- The `EXISTS` found the row reorged, and the `UPDATE` is next. -/
  | reorged
  /-- The row is updated, and the commit is next. -/
  | updated
  deriving DecidableEq

/-- A call of `record_nonce_with_reorg` on its way; `now()` is the time its transaction began. -/
structure ReclaimCall (ε : Type) where
  key : NonceKey
  eventId : Option ε
  now : ℤ
  point : ReclaimPoint

/-- The call reclaims the key: it has found the row reorged, and is not committed. -/
def ReclaimCall.IsReclaimOf (key : NonceKey) (call : ReclaimCall ε) : Prop :=
  call.key = key ∧ (call.point = .reorged ∨ call.point = .updated)

/-- The committed tables, the calls on their way, the sessions whose uncommitted write holds a row,
and what calls have returned. -/
structure Reclaims (τ ε σ : Type) where
  store : Store ε σ := {}
  waiting : τ → Option (ReclaimCall ε) := fun _ => none
  writer : NonceKey → Option τ := fun _ => none
  returned : List (NonceKey × Bool) := []

/-- One statement of a session.  Each sees what is committed when it begins. -/
inductive ReclaimStatement (τ ε : Type) where
  /-- The `INSERT ... ON CONFLICT DO NOTHING` that begins a call. -/
  | insert (session : τ) (key : NonceKey) (eventId : Option ε) (now : ℤ)
  /-- The `EXISTS` over the reorged rows. -/
  | check (session : τ)
  /-- The `UPDATE` of a call that found the row reorged. -/
  | update (session : τ)
  /-- The end of a call that has written. -/
  | commit (session : τ)

namespace Reclaims

/-- The committed row of the key is marked as reorged. -/
def isReorged (s : Reclaims τ ε σ) (key : NonceKey) : Bool :=
  (s.store.nonces.get? key).any fun row => row.reorgedAt.isSome

/-- The call of the session comes to a point. -/
def goOn [DecidableEq τ] (s : Reclaims τ ε σ) (session : τ) (call : ReclaimCall ε) :
    Reclaims τ ε σ :=
  { s with waiting := Function.update s.waiting session (some call) }

/-- The session writes the row of the key. -/
def hold (s : Reclaims τ ε σ) (session : τ) (key : NonceKey) : Reclaims τ ε σ :=
  { s with writer := Function.update s.writer key (some session) }

/-- The call of the session, which is for the key, returns. -/
def answer [DecidableEq τ] (s : Reclaims τ ε σ) (session : τ) (key : NonceKey) (isNew : Bool) :
    Reclaims τ ε σ :=
  { s with
    waiting := Function.update s.waiting session none
    returned := s.returned ++ [(key, isNew)] }

/-- The session commits these tables and lets go of the row; its call returns `TRUE`. -/
def publish [DecidableEq τ] (s : Reclaims τ ε σ) (session : τ) (key : NonceKey)
    (store : Store ε σ) : Reclaims τ ε σ :=
  { s with store, writer := Function.update s.writer key none }.answer session key true

/-- The state after a statement; `default` is what an insert that names no source writes.  A
statement that has to wait for the writer of a row does nothing, and may come again later.  The
lookup in the archive that follows a failed `EXISTS` answers `FALSE` either way. -/
def step [DecidableEq τ] (default : σ) (s : Reclaims τ ε σ) :
    ReclaimStatement τ ε → Reclaims τ ε σ
  | .insert session key eventId now =>
    match s.waiting session with
    | some _ => s
    | none =>
      match s.writer key with
      | some _ => s
      | none =>
        match s.store.insertNonce now key eventId default with
        | none => s.goOn session ⟨key, eventId, now, .conflict⟩
        | some _ => (s.hold session key).goOn session ⟨key, eventId, now, .inserted⟩
  | .check session =>
    match s.waiting session with
    | some ⟨key, eventId, now, .conflict⟩ =>
      if s.isReorged key then s.goOn session ⟨key, eventId, now, .reorged⟩
      else s.answer session key false
    | _ => s
  | .update session =>
    match s.waiting session with
    | some ⟨key, eventId, now, .reorged⟩ =>
      match s.writer key with
      | some _ => s
      | none => (s.hold session key).goOn session ⟨key, eventId, now, .updated⟩
    | _ => s
  | .commit session =>
    match s.waiting session with
    | some ⟨key, eventId, now, .inserted⟩ =>
      match s.store.insertNonce now key eventId default with
      | some store => s.publish session key store
      | none => s
    -- the condition of the `UPDATE` is the key, which still holds after another call's commit
    | some ⟨key, eventId, now, .updated⟩ =>
      s.publish session key (s.store.reclaimNonce now key eventId none)
    | _ => s

/-- The session stands between its look at the reorged row of the key and its commit. -/
def Between (s : Reclaims τ ε σ) (key : NonceKey) (session : τ) : Prop :=
  ∃ call, s.waiting session = some call ∧ call.IsReclaimOf key

/-- The session has found a row under the key and has not looked at it. -/
def Conflicted (s : Reclaims τ ε σ) (key : NonceKey) (session : τ) : Prop :=
  ∃ call, s.waiting session = some call ∧ call.key = key ∧ call.point = .conflict

/-- No session looks at the row of the key while another one stands between its look and its
commit. -/
def Undisturbed (key : NonceKey) (s : Reclaims τ ε σ) : ReclaimStatement τ ε → Prop
  | .check session => s.Conflicted key session → ∀ other, ¬s.Between key other
  | .insert .. | .update .. | .commit .. => True

/-- The number of calls for the key that returned `TRUE`. -/
def grants (s : Reclaims τ ε σ) (key : NonceKey) : ℕ := s.returned.count (key, true)

/-- The number of calls for the key that returned. -/
def answers (s : Reclaims τ ε σ) (key : NonceKey) : ℕ := s.returned.countP fun r => r.1 = key

/-- No call for the key is on its way. -/
def Quiet (s : Reclaims τ ε σ) (key : NonceKey) : Prop :=
  ∀ session call, s.waiting session = some call → call.key ≠ key

/-! ### The statements -/

variable [DecidableEq τ] {default : σ} {s : Reclaims τ ε σ} {session : τ} {key : NonceKey}
  {eventId : Option ε} {now : ℤ}

theorem step_insert_of_none (hidle : s.waiting session = none) (hfree : s.writer key = none)
    (hins : s.store.insertNonce now key eventId default = none) :
    s.step default (.insert session key eventId now) =
      s.goOn session ⟨key, eventId, now, .conflict⟩ := by
  simp only [step, hidle, hfree, hins]

theorem step_insert_of_some (hidle : s.waiting session = none) (hfree : s.writer key = none)
    {store : Store ε σ} (hins : s.store.insertNonce now key eventId default = some store) :
    s.step default (.insert session key eventId now) =
      (s.hold session key).goOn session ⟨key, eventId, now, .inserted⟩ := by
  simp only [step, hidle, hfree, hins]

theorem step_check_of_reorged (hwait : s.waiting session = some ⟨key, eventId, now, .conflict⟩)
    (hreorged : s.isReorged key = true) :
    s.step default (.check session) = s.goOn session ⟨key, eventId, now, .reorged⟩ := by
  simp only [step, hwait, hreorged, if_true]

theorem step_check_of_held (hwait : s.waiting session = some ⟨key, eventId, now, .conflict⟩)
    (hheld : s.isReorged key = false) :
    s.step default (.check session) = s.answer session key false := by
  simp only [step, hwait, hheld, Bool.false_eq_true, if_false]

theorem step_update_of_free (hwait : s.waiting session = some ⟨key, eventId, now, .reorged⟩)
    (hfree : s.writer key = none) :
    s.step default (.update session) =
      (s.hold session key).goOn session ⟨key, eventId, now, .updated⟩ := by
  simp only [step, hwait, hfree]

theorem step_commit_of_inserted (hwait : s.waiting session = some ⟨key, eventId, now, .inserted⟩)
    {store : Store ε σ} (hins : s.store.insertNonce now key eventId default = some store) :
    s.step default (.commit session) = s.publish session key store := by
  simp only [step, hwait, hins]

theorem step_commit_of_updated (hwait : s.waiting session = some ⟨key, eventId, now, .updated⟩) :
    s.step default (.commit session) =
      s.publish session key (s.store.reclaimNonce now key eventId none) := by
  simp only [step, hwait]

/-- A session without a call does nothing but begin one. -/
theorem step_of_idle (hidle : s.waiting session = none) :
    s.step default (.check session) = s ∧ s.step default (.update session) = s ∧
      s.step default (.commit session) = s := by
  simp only [step, hidle, and_self]

/-- Behind its insert, a call has nothing to do but to commit. -/
theorem step_of_inserted (hwait : s.waiting session = some ⟨key, eventId, now, .inserted⟩) :
    s.step default (.check session) = s ∧ s.step default (.update session) = s := by
  simp only [step, hwait, and_self]

theorem waiting_goOn (s : Reclaims τ ε σ) (session : τ) (call : ReclaimCall ε) :
    (s.goOn session call).waiting session = some call :=
  Function.update_self ..

theorem waiting_answer (s : Reclaims τ ε σ) (session : τ) (key : NonceKey) (isNew : Bool) :
    (s.answer session key isNew).waiting session = none :=
  Function.update_self ..

/-- The statements of a call, one after the other, are `record_nonce_with_reorg`. -/
theorem run_alone (hidle : s.waiting session = none) (hfree : s.writer key = none)
    (eventId : Option ε) (now : ℤ) :
    let s' := run (step default) s
      [.insert session key eventId now, .check session, .update session, .commit session]
    s'.store = (s.store.recordNonceWithReorg default now key eventId).1 ∧
      s'.returned = s.returned ++
        [(key, (s.store.recordNonceWithReorg default now key eventId).2)] ∧
      s'.waiting session = none := by
  rw [run_cons, run_cons, run_cons, run_cons]
  cases hins : s.store.insertNonce now key eventId default with
  | some store =>
    have hwait := waiting_goOn (s.hold session key) session ⟨key, eventId, now, .inserted⟩
    rw [step_insert_of_some hidle hfree hins, (step_of_inserted hwait).1,
      (step_of_inserted hwait).2, step_commit_of_inserted hwait hins, Store.recordNonceWithReorg,
      hins]
    exact ⟨rfl, rfl, waiting_answer ..⟩
  | none =>
    have hwait := waiting_goOn s session ⟨key, eventId, now, .conflict⟩
    rw [step_insert_of_none hidle hfree hins, Store.recordNonceWithReorg, hins]
    cases hreorged : s.isReorged key with
    | true =>
      have hrow : (s.store.nonces.get? key).any (fun row => row.reorgedAt.isSome) = true := hreorged
      have hfree' : ((s.goOn session ⟨key, eventId, now, .conflict⟩).goOn session
          ⟨key, eventId, now, .reorged⟩).writer key = none := hfree
      rw [step_check_of_reorged hwait hreorged, step_update_of_free (waiting_goOn ..) hfree',
        step_commit_of_updated (waiting_goOn ..), hrow]
      exact ⟨rfl, rfl, waiting_answer ..⟩
    | false =>
      have hrow : (s.store.nonces.get? key).any (fun row => row.reorgedAt.isSome) = false :=
        hreorged
      have hanswered := waiting_answer (s.goOn session ⟨key, eventId, now, .conflict⟩) session key
        false
      rw [step_check_of_held hwait hreorged, (step_of_idle hanswered).2.1,
        (step_of_idle hanswered).2.2, hrow, if_neg Bool.false_ne_true, ite_self]
      exact ⟨rfl, rfl, waiting_answer ..⟩

/-! ### What a statement does at one key -/

/-- What a statement changes at the key: the row is there before and after, it is now marked or not,
`granted` calls returned `TRUE`, `answered` calls returned at all, and the sessions that stand
between their look and their commit are those of `between`. -/
structure Moves (key : NonceKey) (s s' : Reclaims τ ε σ) (reorged : Bool) (granted answered : ℕ)
    (between : τ → Prop) : Prop where
  row : s'.store.nonces.get? key ≠ none
  isReorged : s'.isReorged key = reorged
  grants : s'.grants key = s.grants key + granted
  answers : s'.answers key = s.answers key + answered
  between : ∀ t, s'.Between key t ↔ between t

omit [DecidableEq τ] in
/-- Nothing happens at the key. -/
theorem Moves.refl (hrow : s.store.nonces.get? key ≠ none) :
    Moves key s s (s.isReorged key) 0 0 (s.Between key) :=
  ⟨hrow, rfl, rfl, rfl, fun _ => Iff.rfl⟩

omit [DecidableEq τ] in
theorem grants_append (l : List (NonceKey × Bool)) (k : NonceKey) (answer : Bool) (key : NonceKey) :
    (l ++ [(k, answer)]).count (key, true) =
      l.count (key, true) + if k = key ∧ answer = true then 1 else 0 := by
  rw [List.count_append, List.count_singleton]
  simp [Prod.ext_iff]

theorem answers_append (l : List (NonceKey × Bool)) (k : NonceKey) (answer : Bool)
    (key : NonceKey) :
    ((l ++ [(k, answer)]).countP fun r => r.1 = key) =
      (l.countP fun r => r.1 = key) + if k = key then 1 else 0 := by
  rw [List.countP_append, List.countP_singleton]
  simp

theorem between_goOn (s : Reclaims τ ε σ) (session : τ) (call : ReclaimCall ε) (key : NonceKey)
    (t : τ) :
    (s.goOn session call).Between key t ↔
      if t = session then call.IsReclaimOf key else s.Between key t := by
  unfold Between goOn
  by_cases ht : t = session
  · rw [if_pos ht, ht]
    simp only [Function.update_self, Option.some.injEq, exists_eq_left']
  · rw [if_neg ht]
    simp only [Function.update_of_ne ht]

theorem between_answer (s : Reclaims τ ε σ) (session : τ) (k key : NonceKey) (isNew : Bool)
    (t : τ) :
    (s.answer session k isNew).Between key t ↔ t ≠ session ∧ s.Between key t := by
  unfold Between answer
  by_cases ht : t = session
  · simp [ht]
  · simp [ht]

/-- A call returns that is no reclaim of the key. -/
theorem between_answer_of_not (hsession : ¬s.Between key session) (k : NonceKey) (isNew : Bool)
    (t : τ) : (s.answer session k isNew).Between key t ↔ s.Between key t := by
  rw [between_answer]
  constructor
  · exact And.right
  · intro h
    refine ⟨?_, h⟩
    rintro rfl
    exact hsession h

omit [DecidableEq τ] in
/-- Whether a session reclaims the key is said by its call. -/
theorem between_iff {call : ReclaimCall ε} (hwait : s.waiting session = some call) :
    s.Between key session ↔ call.IsReclaimOf key := by
  unfold Between
  rw [hwait]
  simp only [Option.some.injEq, exists_eq_left']

/-- A call comes to a point at which it reclaims the key exactly if it did before. -/
theorem Moves.goOn (hrow : s.store.nonces.get? key ≠ none) {call : ReclaimCall ε}
    (hsame : call.IsReclaimOf key ↔ s.Between key session) :
    Moves key s (s.goOn session call) (s.isReorged key) 0 0 (s.Between key) := by
  refine ⟨hrow, rfl, rfl, rfl, fun t => ?_⟩
  rw [between_goOn]
  split_ifs with ht
  · rw [ht, hsame]
  · exact Iff.rfl

/-- So it is when the session now holds a row. -/
theorem Moves.goOn_hold (hrow : s.store.nonces.get? key ≠ none) (k : NonceKey)
    {call : ReclaimCall ε} (hsame : call.IsReclaimOf key ↔ s.Between key session) :
    Moves key s ((s.hold session k).goOn session call) (s.isReorged key) 0 0 (s.Between key) := by
  have hmoves := Moves.goOn (s := s.hold session k) hrow hsame
  exact ⟨hmoves.row, hmoves.isReorged, hmoves.grants, hmoves.answers, hmoves.between⟩

/-- A call for another key returns. -/
theorem Moves.answer_of_ne (hrow : s.store.nonces.get? key ≠ none) {k : NonceKey} (hne : k ≠ key)
    (hsession : ¬s.Between key session) (isNew : Bool) :
    Moves key s (s.answer session k isNew) (s.isReorged key) 0 0 (s.Between key) := by
  refine ⟨hrow, rfl, ?_, ?_, between_answer_of_not hsession k isNew⟩
  · exact (grants_append ..).trans (by rw [if_neg fun h => hne h.1]; rfl)
  · exact (answers_append ..).trans (by rw [if_neg hne]; rfl)

/-- An insert says nothing about a row that is there. -/
theorem moves_insert (default : σ) (hrow : s.store.nonces.get? key ≠ none) (session : τ)
    (k : NonceKey) (eventId : Option ε) (now : ℤ) :
    Moves key s (s.step default (.insert session k eventId now)) (s.isReorged key) 0 0
      (s.Between key) := by
  cases hwait : s.waiting session with
  | some call =>
    rw [show s.step default (.insert session k eventId now) = s by simp only [step, hwait]]
    exact .refl hrow
  | none =>
    have hsession : ¬s.Between key session := by
      rintro ⟨call, hcall, -⟩
      rw [hwait] at hcall
      cases hcall
    have hno {point : ReclaimPoint} (hpoint : point = .inserted ∨ point = .conflict) :
        (⟨k, eventId, now, point⟩ : ReclaimCall ε).IsReclaimOf key ↔ s.Between key session := by
      refine iff_of_false ?_ hsession
      rcases hpoint with rfl | rfl
      · simp [ReclaimCall.IsReclaimOf]
      · simp [ReclaimCall.IsReclaimOf]
    cases hfree : s.writer k with
    | some other =>
      rw [show s.step default (.insert session k eventId now) = s by
        simp only [step, hwait, hfree]]
      exact .refl hrow
    | none =>
      cases hins : s.store.insertNonce now k eventId default with
      | none =>
        rw [step_insert_of_none hwait hfree hins]
        exact .goOn hrow (hno (.inr rfl))
      | some store =>
        rw [step_insert_of_some hwait hfree hins]
        exact .goOn_hold hrow k (hno (.inl rfl))

/-- An update is still seen by nobody. -/
theorem moves_update (default : σ) (hrow : s.store.nonces.get? key ≠ none) (session : τ) :
    Moves key s (s.step default (.update session)) (s.isReorged key) 0 0 (s.Between key) := by
  cases hwait : s.waiting session with
  | none =>
    rw [(step_of_idle hwait).2.1]
    exact .refl hrow
  | some call =>
    obtain ⟨k, eventId, now, point⟩ := call
    cases point with
    | reorged =>
      cases hfree : s.writer k with
      | some other =>
        rw [show s.step default (.update session) = s by simp only [step, hwait, hfree]]
        exact .refl hrow
      | none =>
        rw [step_update_of_free hwait hfree]
        refine .goOn_hold hrow k (Iff.trans ?_ (between_iff hwait).symm)
        simp [ReclaimCall.IsReclaimOf]
    | inserted | conflict | updated =>
      rw [show s.step default (.update session) = s by simp only [step, hwait]]
      exact .refl hrow

/-- A look finds the row reorged, or it does not and the call returns. -/
theorem moves_check (default : σ) (hrow : s.store.nonces.get? key ≠ none) (session : τ) :
    Moves key s (s.step default (.check session)) (s.isReorged key) 0 0 (s.Between key) ∨
    (s.Conflicted key session ∧ s.isReorged key = true ∧
      Moves key s (s.step default (.check session)) true 0 0
        fun t => t = session ∨ s.Between key t) ∨
    (s.isReorged key = false ∧
      Moves key s (s.step default (.check session)) false 0 1 (s.Between key)) := by
  cases hwait : s.waiting session with
  | none =>
    rw [(step_of_idle hwait).1]
    exact .inl (.refl hrow)
  | some call =>
    obtain ⟨k, eventId, now, point⟩ := call
    cases point with
    | inserted | reorged | updated =>
      rw [show s.step default (.check session) = s by simp only [step, hwait]]
      exact .inl (.refl hrow)
    | conflict =>
      have hsession : ¬s.Between key session := by
        rw [between_iff hwait]
        simp [ReclaimCall.IsReclaimOf]
      by_cases hk : k = key
      · subst hk
        cases hreorged : s.isReorged k with
        | true =>
          rw [step_check_of_reorged hwait hreorged]
          refine .inr (.inl ⟨⟨_, hwait, rfl, rfl⟩, rfl, hrow, hreorged, rfl, rfl, fun t => ?_⟩)
          rw [between_goOn]
          split_ifs with ht
          · exact iff_of_true ⟨rfl, .inl rfl⟩ (.inl ht)
          · exact ⟨.inr, fun h => h.resolve_left ht⟩
        | false =>
          rw [step_check_of_held hwait hreorged]
          refine .inr (.inr ⟨rfl, hrow, hreorged, ?_, ?_, between_answer_of_not hsession k false⟩)
          · exact (grants_append ..).trans (by rw [if_neg fun h => Bool.false_ne_true h.2]; rfl)
          · exact (answers_append ..).trans (by rw [if_pos rfl]; rfl)
      · left
        cases hreorged : s.isReorged k with
        | true =>
          rw [step_check_of_reorged hwait hreorged]
          exact .goOn hrow (iff_of_false (fun h => hk h.1) hsession)
        | false =>
          rw [step_check_of_held hwait hreorged]
          exact .answer_of_ne hrow hk hsession false

/-- The commit of a reclaim is its grant, and from then on the row is not reorged; no other commit
is about the key. -/
theorem moves_commit (default : σ) (hrow : s.store.nonces.get? key ≠ none) (session : τ) :
    Moves key s (s.step default (.commit session)) (s.isReorged key) 0 0 (s.Between key) ∨
    (s.Between key session ∧
      Moves key s (s.step default (.commit session)) false 1 1
        fun t => t ≠ session ∧ s.Between key t) := by
  cases hwait : s.waiting session with
  | none =>
    rw [(step_of_idle hwait).2.2]
    exact .inl (.refl hrow)
  | some call =>
    obtain ⟨k, eventId, now, point⟩ := call
    -- where the row of the key stays, it is as before for everybody
    have hother {store : Store ε σ} (hne : k ≠ key)
        (hkept : store.nonces.get? key = s.store.nonces.get? key) :
        Moves key s (s.publish session k store) (s.isReorged key) 0 0 (s.Between key) := by
      have hsession : ¬s.Between key session := by
        rw [between_iff hwait]
        exact fun h => hne h.1
      have hmoves := Moves.answer_of_ne (s := { s with
        store, writer := Function.update s.writer k none }) (by rwa [hkept]) hne hsession true
      refine ⟨hmoves.row, ?_, hmoves.grants, hmoves.answers, hmoves.between⟩
      show (store.nonces.get? key).any _ = _
      rw [hkept]
      rfl
    cases point with
    | conflict | reorged =>
      rw [show s.step default (.commit session) = s by simp only [step, hwait]]
      exact .inl (.refl hrow)
    | inserted =>
      left
      cases hins : s.store.insertNonce now k eventId default with
      | none =>
        rw [show s.step default (.commit session) = s by simp only [step, hwait, hins]]
        exact .refl hrow
      | some store =>
        -- an insert that succeeds is about another key
        obtain ⟨hfree, -, hget⟩ := Store.insertNonce_eq_some hins
        have hne : k ≠ key := by
          rintro rfl
          exact hrow hfree
        rw [step_commit_of_inserted hwait hins]
        exact hother hne (by rw [hget, if_neg hne])
    | updated =>
      rw [step_commit_of_updated hwait]
      have hget := s.store.get?_reclaimNonce now k eventId none key
      by_cases hk : k = key
      · subst hk
        rw [if_pos rfl] at hget
        right
        refine ⟨(between_iff hwait).mpr ⟨rfl, .inr rfl⟩, ?_, ?_, ?_, ?_, ?_⟩
        · show (s.store.reclaimNonce now k eventId none).nonces.get? k ≠ none
          rw [hget]
          simpa using hrow
        · show ((s.store.reclaimNonce now k eventId none).nonces.get? k).any _ = false
          rw [hget]
          cases s.store.nonces.get? k with
          | none => rfl
          | some row => rfl
        · exact (grants_append ..).trans (by rw [if_pos ⟨rfl, rfl⟩]; rfl)
        · exact (answers_append ..).trans (by rw [if_pos rfl]; rfl)
        · exact between_answer _ session k k true
      · rw [if_neg hk] at hget
        exact .inl (hother hk hget)

/-- **What a statement does at a key** that has a row: nothing; a look that finds the row reorged; a
look that does not; or the commit of a session that stands between its look and its commit. -/
theorem step_key (default : σ) (hrow : s.store.nonces.get? key ≠ none) (x : ReclaimStatement τ ε) :
    Moves key s (s.step default x) (s.isReorged key) 0 0 (s.Between key) ∨
    (∃ session, x = .check session ∧ s.Conflicted key session ∧ s.isReorged key = true ∧
      Moves key s (s.step default x) true 0 0 fun t => t = session ∨ s.Between key t) ∨
    (s.isReorged key = false ∧ Moves key s (s.step default x) false 0 1 (s.Between key)) ∨
    ∃ session, s.Between key session ∧
      Moves key s (s.step default x) false 1 1 fun t => t ≠ session ∧ s.Between key t := by
  cases x with
  | insert session k eventId now => exact .inl (moves_insert default hrow session k eventId now)
  | update session => exact .inl (moves_update default hrow session)
  | check session =>
    rcases moves_check default hrow session with hm | ⟨hconflicted, hreorged, hm⟩ | hm
    · exact .inl hm
    · exact .inr (.inl ⟨session, rfl, hconflicted, hreorged, hm⟩)
    · exact .inr (.inr (.inl hm))
  | commit session =>
    rcases moves_commit default hrow session with hm | ⟨hbetween, hm⟩
    · exact .inl hm
    · exact .inr (.inr (.inr ⟨session, hbetween, hm⟩))

/-! ### Runs -/

/-- **The invariant of an undisturbed run.** Either the nonce still waits to be reclaimed, nobody
was answered, and at most one session is about to take it; or it has been granted once and nobody
is. -/
structure Exclusive (key : NonceKey) (s : Reclaims τ ε σ) : Prop where
  row : s.store.nonces.get? key ≠ none
  phase : (s.isReorged key = true ∧ s.grants key = 0 ∧ s.answers key = 0 ∧
      ∀ t t', s.Between key t → s.Between key t' → t = t') ∨
    (s.isReorged key = false ∧ s.grants key = 1 ∧ ∀ t, ¬s.Between key t)

/-- Two calls have been granted the nonce or will be. -/
structure Contended (key : NonceKey) (s : Reclaims τ ε σ) : Prop where
  row : s.store.nonces.get? key ≠ none
  two : (∃ t t', t ≠ t' ∧ s.Between key t ∧ s.Between key t') ∨
    (1 ≤ s.grants key ∧ ∃ t, s.Between key t) ∨ 2 ≤ s.grants key

theorem Exclusive.step (default : σ) (h : s.Exclusive key) (x : ReclaimStatement τ ε)
    (hx : s.Undisturbed key x) : (s.step default x).Exclusive key := by
  rcases step_key default h.row x with
    hm | ⟨session, rfl, hconflicted, hreorged, hm⟩ | ⟨hheld, hm⟩ | ⟨session, hsession, hm⟩
  · refine ⟨hm.row, ?_⟩
    rw [hm.isReorged, hm.grants, hm.answers]
    simp only [hm.between]
    exact h.phase
  · -- nobody stood between their statements, so the session is the only one
    have halone := hx hconflicted
    rcases h.phase with ⟨-, hgrants, hanswers, -⟩ | ⟨hheld, -⟩
    · refine ⟨hm.row, .inl ⟨hm.isReorged, ?_, ?_, ?_⟩⟩
      · rw [hm.grants, hgrants]
      · rw [hm.answers, hanswers]
      · intro t t' ht ht'
        have ht := ((hm.between t).mp ht).resolve_right (halone t)
        have ht' := ((hm.between t').mp ht').resolve_right (halone t')
        rw [ht, ht']
    · rw [hreorged] at hheld
      cases hheld
  · rcases h.phase with ⟨hreorged, -⟩ | ⟨-, hgrants, hnone⟩
    · rw [hreorged] at hheld
      cases hheld
    · refine ⟨hm.row, .inr ⟨hm.isReorged, ?_, ?_⟩⟩
      · rw [hm.grants, hgrants]
      · intro t ht
        exact hnone t ((hm.between t).mp ht)
  · rcases h.phase with ⟨-, hgrants, -, hone⟩ | ⟨-, -, hnone⟩
    · refine ⟨hm.row, .inr ⟨hm.isReorged, ?_, ?_⟩⟩
      · rw [hm.grants, hgrants]
      · intro t ht
        obtain ⟨hne, ht⟩ := (hm.between t).mp ht
        exact hne (hone t session ht hsession)
    · exact absurd hsession (hnone session)

theorem Contended.step (h : s.Contended key) (x : ReclaimStatement τ ε) :
    (s.step default x).Contended key := by
  rcases step_key default h.row x with
    hm | ⟨session, -, -, -, hm⟩ | ⟨-, hm⟩ | ⟨session, hsession, hm⟩
  · refine ⟨hm.row, ?_⟩
    rw [hm.grants]
    simp only [hm.between]
    exact h.two
  · -- more sessions than before
    refine ⟨hm.row, ?_⟩
    rw [hm.grants]
    simp only [hm.between]
    rcases h.two with ⟨t, t', hne, ht, ht'⟩ | ⟨hgrants, t, ht⟩ | hgrants
    · exact .inl ⟨t, t', hne, .inr ht, .inr ht'⟩
    · exact .inr (.inl ⟨hgrants, t, .inr ht⟩)
    · exact .inr (.inr hgrants)
  · refine ⟨hm.row, ?_⟩
    rw [hm.grants]
    simp only [hm.between]
    exact h.two
  · -- the session becomes a grant
    refine ⟨hm.row, ?_⟩
    rw [hm.grants]
    simp only [hm.between]
    rcases h.two with ⟨t, t', hne, ht, ht'⟩ | ⟨hgrants, -⟩ | hgrants
    · right; left
      by_cases hts : t = session
      · exact ⟨Nat.le_add_left .., t', fun h => hne (hts.trans h.symm), ht'⟩
      · exact ⟨Nat.le_add_left .., t, hts, ht⟩
    · right; right
      omega
    · right; right
      omega

/-- The first disturbed look makes two sessions that will be granted the nonce. -/
theorem Exclusive.disturbed (h : s.Exclusive key) {x : ReclaimStatement τ ε}
    (hx : ¬s.Undisturbed key x) : (s.step default x).Contended key := by
  cases x with
  | insert session k eventId now => exact absurd trivial hx
  | update session => exact absurd trivial hx
  | commit session => exact absurd trivial hx
  | check session =>
    obtain ⟨⟨⟨key, eventId, now, _⟩, hwait, rfl, rfl⟩, other, hother⟩ :
        s.Conflicted key session ∧ ∃ other, s.Between key other := by
      unfold Undisturbed at hx
      push Not at hx
      exact hx
    have hreorged : s.isReorged key = true := by
      rcases h.phase with ⟨hreorged, -⟩ | ⟨-, -, hnone⟩
      · exact hreorged
      · exact absurd hother (hnone other)
    have hne : other ≠ session := by
      rintro rfl
      rw [between_iff hwait] at hother
      simp [ReclaimCall.IsReclaimOf] at hother
    rw [step_check_of_reorged hwait hreorged]
    refine ⟨h.row, .inl ⟨other, session, hne, ?_, ?_⟩⟩
    · rw [between_goOn, if_neg hne]
      exact hother
    · rw [between_goOn, if_pos rfl]
      exact ⟨rfl, .inl rfl⟩

/-- Every run is undisturbed and exclusive, or neither. -/
theorem exclusive_or_contended (default : σ) (h : s.Exclusive key)
    (xs : List (ReclaimStatement τ ε)) :
    (Meets (step default) (Undisturbed key) s xs ∧ (run (step default) s xs).Exclusive key) ∨
      (¬Meets (step default) (Undisturbed key) s xs ∧
        (run (step default) s xs).Contended key) := by
  induction xs generalizing s with
  | nil => exact .inl ⟨trivial, h⟩
  | cons x xs ih =>
    by_cases hx : s.Undisturbed key x
    · rcases ih (h.step default x hx) with ⟨hmeets, hrun⟩ | ⟨hmeets, hrun⟩
      · exact .inl ⟨⟨hx, hmeets⟩, hrun⟩
      · exact .inr ⟨fun hall => hmeets hall.2, hrun⟩
    · right
      refine ⟨fun hall => hx hall.1, ?_⟩
      exact run_invariant (I := Contended key) (fun s x h => h.step x) xs (h.disturbed hx)

omit [DecidableEq τ] in
theorem exclusive_init {store : Store ε σ}
    (hreorged : (store.nonces.get? key).any (fun row => row.reorgedAt.isSome) = true) :
    Exclusive key ({ store } : Reclaims τ ε σ) where
  row := by
    intro hnone
    rw [show store.nonces.get? key = none from hnone] at hreorged
    cases hreorged
  phase := by
    refine .inl ⟨hreorged, rfl, rfl, ?_⟩
    rintro t t' ⟨call, hcall, -⟩
    cases hcall

/-- **When a reorged nonce is handed out once.** In every run of calls from a table in which the row
of the key is marked as reorged: as long as no call looks at the row while another one stands
between its look and its commit, at most one call has returned `TRUE`, and exactly one once a call
has returned; and a run after which no call for the key is on its way has exactly one `TRUE` only if
it was so at every step. -/
theorem reclaim_exclusive_iff (default : σ) {store : Store ε σ} {key : NonceKey}
    (hreorged : (store.nonces.get? key).any (fun row => row.reorgedAt.isSome) = true)
    (xs : List (ReclaimStatement τ ε)) :
    let s := run (step default) { store } xs
    (Meets (step default) (Undisturbed key) { store } xs →
      s.grants key ≤ 1 ∧ (0 < s.answers key → s.grants key = 1)) ∧
    (s.Quiet key → 0 < s.answers key →
      (s.grants key = 1 ↔ Meets (step default) (Undisturbed key) { store } xs)) := by
  intro s
  rcases exclusive_or_contended default (exclusive_init (τ := τ) hreorged) xs with
    ⟨hmeets, hrun⟩ | ⟨hmeets, hrun⟩
  · have hone : s.grants key ≤ 1 ∧ (0 < s.answers key → s.grants key = 1) := by
      rcases hrun.phase with ⟨-, hgrants, hanswers, -⟩ | ⟨-, hgrants, -⟩
      · have hgrants : s.grants key = 0 := hgrants
        have hanswers : s.answers key = 0 := hanswers
        omega
      · have hgrants : s.grants key = 1 := hgrants
        omega
    exact ⟨fun _ => hone, fun _ hanswered => iff_of_true (hone.2 hanswered) hmeets⟩
  · refine ⟨fun h => absurd h hmeets, ?_⟩
    intro hquiet _
    have hnone (t : τ) : ¬s.Between key t := by
      rintro ⟨call, hcall, hkey, -⟩
      exact hquiet t call hcall hkey
    have htwo : 2 ≤ s.grants key := by
      rcases hrun.two with ⟨t, -, -, ht, -⟩ | ⟨-, t, ht⟩ | htwo
      · exact absurd ht (hnone t)
      · exact absurd ht (hnone t)
      · exact htwo
    exact iff_of_false (by omega) hmeets

namespace Sample

/-- The key of a nonce that a reorg has released. -/
def released : NonceKey := (8453, "0x01", "0xaa")

/-- The tables with its row, which was recorded for event 7. -/
def store : Store ℕ Unit where
  nonces := ⟨[⟨8453, "0x01", "0xaa", some 7, (), some 1000, 0⟩], List.nodup_singleton _⟩

/-- A call of session 0 for event 1, and after it one of session 1 for event 2. -/
def inTurn : List (ReclaimStatement ℕ ℕ) :=
  [.insert 0 released (some 1) 2000, .check 0, .update 0, .commit 0,
    .insert 1 released (some 2) 2000, .check 1, .update 1, .commit 1]

/-- The same calls; session 1 looks at the row when session 0 has updated it and not committed, and
waits with its own update for the commit. -/
def interleaved : List (ReclaimStatement ℕ ℕ) :=
  [.insert 0 released (some 1) 2000, .insert 1 released (some 2) 2000, .check 0, .update 0,
    .check 1, .update 1, .commit 0, .update 1, .commit 1]

end Sample

/-- Of two calls in turn the first is granted the nonce. -/
theorem reclaim_exclusive_in_turn :
    (run (step ()) { store := Sample.store } Sample.inTurn).grants Sample.released = 1 := by
  have hreorged : (Sample.store.nonces.get? Sample.released).any
      (fun row => row.reorgedAt.isSome) = true := rfl
  refine ((reclaim_exclusive_iff () hreorged Sample.inTurn).1 ?_).2
    (by decide +kernel)
  refine ⟨trivial, fun _ t => ?_, trivial, trivial, trivial, fun _ t => ?_, trivial, trivial,
    trivial⟩
  · rintro ⟨call, hcall, hreclaim⟩
    match t, hcall with
    | 0, hcall =>
      cases hcall
      simp [ReclaimCall.IsReclaimOf] at hreclaim
    | t + 1, hcall => cases hcall
  · rintro ⟨call, hcall, hreclaim⟩
    match t, hcall with
    | 0, hcall => cases hcall
    | 1, hcall =>
      cases hcall
      simp [ReclaimCall.IsReclaimOf] at hreclaim
    | t + 2, hcall => cases hcall

/-- Two calls are granted the nonce when both look before either commits. -/
theorem reclaimed_twice :
    (Sample.store.nonces.get? Sample.released).any (fun row => row.reorgedAt.isSome) = true ∧
      (run (step ()) { store := Sample.store } Sample.interleaved).grants Sample.released = 2 ∧
      (run (step ()) { store := Sample.store } Sample.interleaved).answers Sample.released = 2 := by
  decide +kernel

end Reclaims

end NonceStore

end TripWire
