import Mathlib.Data.Int.Order.Basic
import Mathlib.Data.Rat.Defs
import Mathlib.Algebra.Order.Ring.Unbundled.Rat
import Mathlib.Tactic.Common
import Mathlib.Tactic.Linarith

/-!
# The session manager

A session (`tripwire/session/manager.py`) is a Redis hash under `session:{session_id}`.  A tool call
is charged by a Lua script (`decrementLua`), which Redis runs as one step, and refunded by a plain
`HINCRBY` (`refundSession`).

`HINCRBY` makes the hash when the key is absent, so the fields of a `SessionHash` are optional: a
hash made by a refund holds `budget_remaining` and nothing else.

The script computes in Lua numbers, which are doubles (`luaNumber`).  A budget is clamped to
`session_max_budget_usdc`; a setting below `2 ^ 53` (`SessionSettings.exact`) keeps every number the
script stores among the integers that a double holds exactly.
-/

namespace TripWire

/-! ### Lua numbers -/

/-- The double nearest to an integer, ties to even. -/
def luaNumber (n : ℤ) : ℤ :=
  if n.natAbs < 2 ^ 53 then n
  else
    let unit := 2 ^ (n.natAbs.log2 - 52)
    let q := n.natAbs / unit
    let r := n.natAbs % unit
    n.sign * ((unit * if unit < 2 * r ∨ (2 * r = unit ∧ q % 2 = 1) then q + 1 else q : ℕ) : ℤ)

theorem luaNumber_of_lt {n : ℤ} (h : n.natAbs < 2 ^ 53) : luaNumber n = n := if_pos h

/-- Rounding does not bring a large integer below `2 ^ 53`. -/
theorem le_luaNumber {n : ℤ} (h : 2 ^ 53 ≤ n) : 2 ^ 53 ≤ luaNumber n := by
  have habs : (n.natAbs : ℤ) = n := Int.natAbs_of_nonneg (le_trans (by norm_num) h)
  have hlarge : 2 ^ 53 ≤ n.natAbs := by exact_mod_cast habs ▸ h
  have hlog : 53 ≤ n.natAbs.log2 := (Nat.le_log2 (by omega)).mpr hlarge
  have hsign : n.sign = 1 := Int.sign_eq_one_of_pos (lt_of_lt_of_le (by norm_num) h)
  have hpow : 2 ^ n.natAbs.log2 ≤ n.natAbs := Nat.log2_self_le (by omega)
  -- the quotient has at least 53 digits, and the unit is at least two
  have hunit : 2 ^ n.natAbs.log2 = 2 ^ 52 * 2 ^ (n.natAbs.log2 - 52) := by
    rw [← pow_add]
    congr 1
    omega
  have hq : 2 ^ 52 ≤ n.natAbs / 2 ^ (n.natAbs.log2 - 52) := by
    rw [Nat.le_div_iff_mul_le (Nat.two_pow_pos _), ← hunit]
    exact hpow
  have htwo : 2 ^ 1 ≤ 2 ^ (n.natAbs.log2 - 52) := Nat.pow_le_pow_right (by norm_num) (by omega)
  have hprod : 2 ^ 1 * 2 ^ 52 ≤ 2 ^ (n.natAbs.log2 - 52) *
      (n.natAbs / 2 ^ (n.natAbs.log2 - 52)) := Nat.mul_le_mul htwo hq
  rw [luaNumber, if_neg (by omega), hsign, one_mul]
  refine le_trans (by norm_num : (2 : ℤ) ^ 53 ≤ ((2 ^ 1 * 2 ^ 52 : ℕ) : ℤ)) ?_
  refine Int.ofNat_le.mpr (hprod.trans (Nat.mul_le_mul_left _ ?_))
  split_ifs
  · exact Nat.le_succ _
  · exact le_refl _

theorem luaNumber_nonneg {n : ℤ} (h : 0 ≤ n) : 0 ≤ luaNumber n := by
  by_cases hn : n < 2 ^ 53
  · rw [luaNumber_of_lt (by omega)]
    exact h
  · exact le_trans (by norm_num) (le_luaNumber (not_lt.mp hn))

/-- Comparing a cost with a budget below `2 ^ 53` is exact, whatever the cost. -/
theorem luaNumber_le_iff {cost : ℕ} {remaining : ℤ} (h₀ : 0 ≤ remaining)
    (h : remaining < 2 ^ 53) : luaNumber cost ≤ luaNumber remaining ↔ (cost : ℤ) ≤ remaining := by
  rw [luaNumber_of_lt (n := remaining) (by omega)]
  by_cases hcost : (cost : ℤ) < 2 ^ 53
  · rw [luaNumber_of_lt (by omega)]
  · have hlarge := le_luaNumber (not_lt.mp hcost)
    constructor
    · intro hle
      omega
    · intro hle
      omega

/-! ### The hash of a session -/

/-- The session settings of `config/settings.py`. -/
structure SessionSettings where
  defaultTtlSeconds : ℤ := 900
  maxTtlSeconds : ℤ := 1800
  defaultBudgetUsdc : ℤ := 10000000
  maxBudgetUsdc : ℤ := 100000000
  siweChainId : ℤ := 8453
  /-- Budgets stay among the integers that a Lua number holds exactly. -/
  exact : maxBudgetUsdc < 2 ^ 53 := by norm_num

/-- The fields of a session's hash that the program reads. -/
structure SessionHash where
  walletAddress : Option String := none
  budgetTotal : Option ℤ := none
  budgetRemaining : Option ℤ := none
  expiresAt : Option ℚ := none
  ttlSeconds : Option ℤ := none
  chainId : Option ℤ := none
  reputationScore : Option ℚ := none
  agentClass : Option String := none
  deriving DecidableEq

/-- `SessionData`: a snapshot of a session. -/
structure SessionData where
  walletAddress : String
  budgetTotal : ℤ
  budgetRemaining : ℤ
  expiresAt : ℚ
  ttlSeconds : ℤ
  chainId : ℤ
  reputationScore : ℚ
  agentClass : String
  deriving DecidableEq

/-- The exceptions that leave the session manager. -/
inductive SessionError where
  | sessionNotFound
  | sessionExpired
  | insufficientBudget
  /-- A `KeyError`, raised by a hash without a field that `get` reads. -/
  | keyError
  /-- An exception of the Redis client, a failing script included. -/
  | redis
  deriving DecidableEq, Repr

/-- The arguments of `create`. -/
structure SessionRequest where
  walletAddress : String
  budget : Option ℤ := none
  ttlSeconds : Option ℤ := none
  chainId : Option ℤ := none
  reputationScore : ℚ := 0
  agentClass : String := "unknown"

/-- The budget of a new session, clamped between 1 and the maximum. -/
def effectiveBudget (settings : SessionSettings) (request : SessionRequest) : ℤ :=
  max 1 (min (request.budget.getD settings.defaultBudgetUsdc) settings.maxBudgetUsdc)

/-- The lifetime of a new session, clamped between a minute and the maximum. -/
def effectiveTtl (settings : SessionSettings) (request : SessionRequest) : ℤ :=
  max 60 (min (request.ttlSeconds.getD settings.defaultTtlSeconds) settings.maxTtlSeconds)

/-- `create`: the hash of a new session.  The id is a fresh token, so the key was absent. -/
def createSession (settings : SessionSettings) (request : SessionRequest) (now : ℚ) :
    SessionHash where
  walletAddress := some request.walletAddress
  budgetTotal := some (effectiveBudget settings request)
  budgetRemaining := some (effectiveBudget settings request)
  expiresAt := some (now + effectiveTtl settings request)
  ttlSeconds := some (effectiveTtl settings request)
  chainId := some (request.chainId.getD settings.siweChainId)
  reputationScore := some request.reputationScore
  agentClass := some request.agentClass

theorem effectiveBudget_pos (settings : SessionSettings) (request : SessionRequest) :
    0 < effectiveBudget settings request :=
  lt_of_lt_of_le one_pos (le_max_left _ _)

theorem effectiveBudget_lt (settings : SessionSettings) (request : SessionRequest) :
    effectiveBudget settings request < 2 ^ 53 := by
  have hmax := settings.exact
  exact max_lt (by norm_num) (lt_of_le_of_lt (min_le_right _ _) hmax)

/-! ### The operations -/

/-- `get` on an existing hash: a field without a default raises when it is missing. -/
def SessionHash.read (h : SessionHash) : Except SessionError SessionData :=
  match h.walletAddress, h.budgetTotal, h.budgetRemaining, h.expiresAt, h.ttlSeconds, h.chainId with
  | some walletAddress, some budgetTotal, some budgetRemaining, some expiresAt, some ttlSeconds,
    some chainId =>
    .ok
      { walletAddress, budgetTotal, budgetRemaining, expiresAt, ttlSeconds, chainId
        reputationScore := h.reputationScore.getD 0
        agentClass := h.agentClass.getD "unknown" }
  | _, _, _, _, _, _ => .error .keyError

/-- `get`. -/
def getSession (key : Option SessionHash) : Except SessionError (Option SessionData) :=
  match key with
  | none => .ok none
  | some h => h.read.map some

/-- `_DECREMENT_LUA`: what the key holds afterwards and what the script returns. -/
def decrementLua (key : Option SessionHash) (cost : ℕ) (now : ℚ) :
    Option SessionHash × Except SessionError ℤ :=
  match key with
  | none => (none, .ok (-1))
  | some h =>
    -- `tonumber` of a missing field is `nil`, which passes for a session that does not expire
    if h.expiresAt.any (· < now) then (some h, .ok (-2))
    else
      match h.budgetRemaining with
      -- comparing `nil` with a number fails the script
      | none => (some h, .error .redis)
      | some remaining =>
        if luaNumber remaining < luaNumber cost then (some h, .ok (-3))
        else
          let newRemaining := luaNumber (luaNumber remaining - luaNumber cost)
          (some { h with budgetRemaining := some newRemaining }, .ok newRemaining)

/-- The exception that `validate_and_decrement` makes of the script's answer. -/
def decrementError (result : ℤ) : Option SessionError :=
  if result = -1 then some .sessionNotFound
  else if result = -2 then some .sessionExpired
  else if result = -3 then some .insufficientBudget
  else none

/-- The first half of `validate_and_decrement`, up to the check of the script's answer; the
`HGETALL` that follows is a call of its own. -/
def chargeSession (key : Option SessionHash) (cost : ℕ) (now : ℚ) :
    Option SessionHash × Except SessionError Unit :=
  match decrementLua key cost now with
  | (key', .error e) => (key', .error e)
  | (key', .ok result) =>
    match decrementError result with
    | some e => (key', .error e)
    | none => (key', .ok ())

/-- `refund`: `HINCRBY key "budget_remaining" amount`, which makes what is missing. -/
def refundSession (key : Option SessionHash) (amount : ℕ) : Option SessionHash :=
  let h := key.getD {}
  some { h with budgetRemaining := some (h.budgetRemaining.getD 0 + amount) }

/-- **What a charge does.** It passes on an existing, unexpired session whose budget covers the
cost, which it then takes off the budget; else it raises and leaves the key alone. -/
theorem chargeSession_cases (key : Option SessionHash) (cost : ℕ) (now : ℚ) :
    (∃ h remaining, key = some h ∧ h.budgetRemaining = some remaining ∧
      (∀ e, h.expiresAt = some e → now ≤ e) ∧ luaNumber cost ≤ luaNumber remaining ∧
      chargeSession key cost now =
        (some { h with
          budgetRemaining := some (luaNumber (luaNumber remaining - luaNumber cost)) }, .ok ())) ∨
      ∃ e, chargeSession key cost now = (key, .error e) := by
  unfold chargeSession decrementLua
  cases key with
  | none => exact .inr ⟨.sessionNotFound, rfl⟩
  | some h =>
    by_cases hexpired : h.expiresAt.any (· < now) = true
    · right
      simp only [if_pos hexpired]
      exact ⟨.sessionExpired, rfl⟩
    · simp only [if_neg hexpired]
      cases hbudget : h.budgetRemaining with
      | none => exact .inr ⟨.redis, rfl⟩
      | some remaining =>
        by_cases hshort : luaNumber remaining < luaNumber cost
        · right
          simp only [if_pos hshort]
          exact ⟨.insufficientBudget, rfl⟩
        · left
          -- the new budget is not negative, so it is not one of the script's error codes
          have hnonneg : 0 ≤ luaNumber (luaNumber remaining - luaNumber cost) :=
            luaNumber_nonneg (sub_nonneg.mpr (not_lt.mp hshort))
          have hcode : decrementError (luaNumber (luaNumber remaining - luaNumber cost)) =
            none := by
            unfold decrementError
            rw [if_neg (by omega), if_neg (by omega), if_neg (by omega)]
          refine ⟨h, remaining, rfl, hbudget, ?_, not_lt.mp hshort, ?_⟩
          · intro e he
            rw [he] at hexpired
            simpa using hexpired
          · simp only [if_neg hshort, hcode]

/-- A charge on an absent key raises. -/
theorem chargeSession_none (cost : ℕ) (now : ℚ) :
    chargeSession none cost now = (none, .error .sessionNotFound) := rfl

end TripWire
