import Mathlib.Logic.Function.Basic
import Mathlib.Tactic.Common

/-!
# Sections under an advisory lock

A lock that a database server keeps for a session: `tryLock` succeeds when nobody holds the lock, or
the same session does, which then holds it once more; a session that ends gives the lock up.

Clients take the lock on a session of their own, work in a section, and leave it.  The answer to any
command may be lost, a client may leave without giving the lock up, and a session may end while its
client is in the section.  `Exclusive` is what remains: only one of the clients in their sections
has a session that is open (`eq_of_open`).
-/

/-- A lock and its clients.  The session `s` belongs to the client `owner s`. -/
structure AdvisoryLock (ι σ : Type*) where
  /-- The session that holds the lock, and how often it has taken it. -/
  holder : Option (σ × ℕ) := none
  /-- The session with which a client is in its section. -/
  inside : ι → Option σ := fun _ => none
  closed : σ → Bool := fun _ => false

namespace AdvisoryLock

variable {ι σ : Type*} [DecidableEq ι] [DecidableEq σ]

/-! ### The operations -/

/-- The answer to `pg_try_advisory_lock` on the session `s`. -/
def admits (l : AdvisoryLock ι σ) (s : σ) : Bool :=
  match l.holder with
  | none => true
  | some (s', _) => s' = s

/-- The server after `pg_try_advisory_lock` on the session `s`. -/
def tryLock (l : AdvisoryLock ι σ) (s : σ) : AdvisoryLock ι σ :=
  if l.admits s then { l with holder := some (s, (l.holder.elim 0 Prod.snd) + 1) } else l

/-- The client `i` asks for the lock on the session `s`, and enters its section if it is told that
it has the lock. -/
def enter (owner : σ → ι) (l : AdvisoryLock ι σ) (i : ι) (s : σ) (answered : Bool) :
    AdvisoryLock ι σ :=
  if owner s = i ∧ l.inside i = none ∧ l.closed s = false then
    let l' := l.tryLock s
    if l.admits s && answered then { l' with inside := Function.update l.inside i (some s) } else l'
  else l

/-- The server after `pg_advisory_unlock` on the session `s`. -/
def unlock (l : AdvisoryLock ι σ) (s : σ) : AdvisoryLock ι σ :=
  match l.holder with
  | some (s', n + 2) => if s' = s then { l with holder := some (s', n + 1) } else l
  | some (s', _) => if s' = s then { l with holder := none } else l
  | none => l

/-- The client `i` leaves its section; its `pg_advisory_unlock` is executed or not. -/
def leave (l : AdvisoryLock ι σ) (i : ι) (executed : Bool) : AdvisoryLock ι σ :=
  match l.inside i with
  | none => l
  | some s =>
    let l' := if executed && !l.closed s then l.unlock s else l
    { l' with inside := Function.update l.inside i none }

/-- The session `s` ends, wherever its client is. -/
def close (l : AdvisoryLock ι σ) (s : σ) : AdvisoryLock ι σ :=
  { l with
    holder := l.holder.filter fun h => h.1 ≠ s
    closed := Function.update l.closed s true }

/-- The client is in its section and its session is open. -/
def Open (l : AdvisoryLock ι σ) (i : ι) : Prop := ∃ s, l.inside i = some s ∧ l.closed s = false

/-! ### Exclusion -/

/-- Every client in its section is there with a session of its own, which holds the lock unless it
has ended. -/
structure Exclusive (owner : σ → ι) (l : AdvisoryLock ι σ) : Prop where
  own : ∀ {i s}, l.inside i = some s → owner s = i
  held : ∀ {i s}, l.inside i = some s → l.closed s = false → ∃ n, l.holder = some (s, n)

variable {owner : σ → ι} {l : AdvisoryLock ι σ}

omit [DecidableEq ι] [DecidableEq σ] in
/-- **Mutual exclusion.** -/
theorem Exclusive.eq_of_open (h : l.Exclusive owner) {i j : ι} (hi : l.Open i) (hj : l.Open j) :
    i = j := by
  obtain ⟨s, hs, hopen⟩ := hi
  obtain ⟨s', hs', hopen'⟩ := hj
  obtain ⟨n, hn⟩ := h.held hs hopen
  obtain ⟨n', hn'⟩ := h.held hs' hopen'
  rw [hn] at hn'
  obtain ⟨rfl, -⟩ := Prod.mk.inj (Option.some.inj hn')
  rw [← h.own hs, ← h.own hs']

omit [DecidableEq ι] in
/-- Asking for the lock takes it from nobody. -/
theorem holder_tryLock {s s' : σ} {n : ℕ} (h : l.holder = some (s', n)) :
    ∃ n', (l.tryLock s).holder = some (s', n') := by
  unfold tryLock admits
  rw [h]
  dsimp only
  split_ifs with hs
  · rw [of_decide_eq_true hs]
    exact ⟨_, rfl⟩
  · exact ⟨n, h⟩

omit [DecidableEq ι] in
/-- A client that is told that it has the lock has it. -/
theorem holder_of_admits {s : σ} (h : l.admits s = true) :
    ∃ n, (l.tryLock s).holder = some (s, n) := by
  unfold tryLock
  rw [if_pos h]
  exact ⟨_, rfl⟩

omit [DecidableEq ι] in
theorem inside_tryLock (s : σ) : (l.tryLock s).inside = l.inside := by
  unfold tryLock
  split <;> rfl

omit [DecidableEq ι] in
theorem closed_tryLock (s : σ) : (l.tryLock s).closed = l.closed := by
  unfold tryLock
  split <;> rfl

theorem Exclusive.enter (h : l.Exclusive owner) (i : ι) (s : σ) (answered : Bool) :
    (l.enter owner i s answered).Exclusive owner := by
  have htry : (l.tryLock s).Exclusive owner := by
    refine ⟨fun hj => h.own (by rwa [inside_tryLock] at hj), fun hj hopen => ?_⟩
    rw [inside_tryLock] at hj
    rw [closed_tryLock] at hopen
    obtain ⟨n, hn⟩ := h.held hj hopen
    exact holder_tryLock hn
  unfold AdvisoryLock.enter
  split
  case isFalse => exact h
  case isTrue hmay =>
    dsimp only
    split
    case isFalse => exact htry
    case isTrue htold =>
      rw [Bool.and_eq_true] at htold
      constructor
      · intro j s' hj
        by_cases hji : j = i
        · subst hji
          have hj : Function.update l.inside j (some s) j = some s' := hj
          rw [Function.update_self] at hj
          rw [← Option.some.inj hj]
          exact hmay.1
        · have hj : Function.update l.inside i (some s) j = some s' := hj
          rw [Function.update_of_ne hji] at hj
          exact h.own hj
      · intro j s' hj hopen
        by_cases hji : j = i
        · subst hji
          have hj : Function.update l.inside j (some s) j = some s' := hj
          rw [Function.update_self] at hj
          rw [← Option.some.inj hj]
          exact holder_of_admits htold.1
        · have hj : Function.update l.inside i (some s) j = some s' := hj
          rw [Function.update_of_ne hji] at hj
          exact htry.held (by rw [inside_tryLock]; exact hj) hopen

omit [DecidableEq ι] in
/-- Giving the lock up on a session concerns no other session. -/
theorem holder_unlock_of_ne {s s' : σ} {n : ℕ} (h : l.holder = some (s', n)) (hne : s' ≠ s) :
    (l.unlock s).holder = some (s', n) := by
  unfold unlock
  rw [h]
  cases n with
  | zero => exact (congrArg holder (if_neg hne)).trans h
  | succ n => cases n <;> exact (congrArg holder (if_neg hne)).trans h

omit [DecidableEq ι] in
theorem closed_unlock (s : σ) : (l.unlock s).closed = l.closed := by
  unfold unlock
  split
  · split <;> rfl
  · split <;> rfl
  · rfl

theorem Exclusive.leave (h : l.Exclusive owner) (i : ι) (executed : Bool) :
    (l.leave i executed).Exclusive owner := by
  unfold AdvisoryLock.leave
  cases hi : l.inside i with
  | none => exact h
  | some s =>
    dsimp only
    -- the others are in their sections as before
    have hothers {j : ι} {s' : σ} (hj : Function.update l.inside i none j = some s') :
        j ≠ i ∧ l.inside j = some s' := by
      by_cases hji : j = i
      · subst hji
        rw [Function.update_self] at hj
        cases hj
      · rw [Function.update_of_ne hji] at hj
        exact ⟨hji, hj⟩
    refine ⟨fun hj => h.own (hothers hj).2, fun {j s'} hj hopen => ?_⟩
    obtain ⟨hji, hinside⟩ := hothers hj
    have hne : s' ≠ s := by
      rintro rfl
      exact hji ((h.own hinside).symm.trans (h.own hi))
    have hclosed : (if (executed && !l.closed s) = true then l.unlock s else l).closed =
        l.closed := by
      split
      · exact closed_unlock s
      · rfl
    have hopen : l.closed s' = false := by
      rw [← hclosed]
      exact hopen
    obtain ⟨n, hn⟩ := h.held hinside hopen
    refine ⟨n, ?_⟩
    show (if (executed && !l.closed s) = true then l.unlock s else l).holder = some (s', n)
    split
    · exact holder_unlock_of_ne hn hne
    · exact hn

omit [DecidableEq ι] in
theorem Exclusive.close (h : l.Exclusive owner) (s : σ) : (l.close s).Exclusive owner := by
  refine ⟨h.own, fun {i s'} hi hopen => ?_⟩
  have hopen' : Function.update l.closed s true s' = false := hopen
  have hne : s' ≠ s := by
    rintro rfl
    rw [Function.update_self] at hopen'
    cases hopen'
  rw [Function.update_of_ne hne] at hopen'
  obtain ⟨n, hn⟩ := h.held hi hopen'
  refine ⟨n, ?_⟩
  show l.holder.filter (fun h => h.1 ≠ s) = some (s', n)
  rw [hn, Option.filter_some, if_pos (decide_eq_true hne)]

end AdvisoryLock
