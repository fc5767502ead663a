import Mathlib
import TripWire.Lib.Machine
import TripWire.Session.Manager

/-!
# Concurrent calls of one session

Any number of tool calls (`_handle_session_tool_call` with `_verify_session`) work on one session
while it may be closed or expire.  Each call is a small state machine (`callStep`) whose steps are
its Redis operations: the script that charges it, the `HGETALL` that reads the session back, and the
`HINCRBY` that refunds it.  A run is a list of `SessionAction`s, so every interleaving is a run, and
a call whose client went away is one that takes no further step.

The two questions about a session are:

* its budget: while the key is live, what is missing from the budget is what the calls have been
  charged and not refunded (`session_accounting`);
* its end: a refund that comes after `close` makes the key again, without an expiry and without an
  owner, and its amount can be spent (`staysClosed_iff`).
-/

namespace TripWire

open Machine

/-! ### One call -/

/-- The parts of a `ToolDef` that a session call reads; `cost` is `_price_to_smallest_units(price)`,
the same for the charge and for the refund. -/
structure ToolDef where
  cost : ℕ
  minReputation : ℚ := 0
  deriving DecidableEq

/-- Where a tool call stands. -/
inductive CallState where
  | ready
  /-- The script has charged the call; the session is still to be read. -/
  | charged
  /-- `_verify_session` has returned. -/
  | verified (session : SessionData)
  /-- A gate or the handler failed; the `HINCRBY` is still to come. -/
  | refunding
  /-- The call has answered, and `kept` says whether a charge of it stands. -/
  | ended (kept : Bool)
  deriving DecidableEq

/-- What a call does next, with the answers it gets. -/
inductive CallAction where
  | charge (now : ℚ) (fails : Bool)
  | fetch (fails : Bool)
  /-- The gates and the handler; `rate` is the counter of the address, `none` without Redis. -/
  | work (rate : Option ℤ) (handlerRaises : Bool)
  | refund (fails : Bool)
  deriving DecidableEq

/-- Steps 2 to 4 of `_handle_session_tool_call`: the reputation gate, the rate limit and the
handler.  A free tool has nothing to refund. -/
def settleCall (tool : ToolDef) (session : SessionData) (rate : Option ℤ) (handlerRaises : Bool) :
    CallState :=
  let distrusted := 0 < tool.minReputation ∧ session.reputationScore < tool.minReputation
  let limited := session.walletAddress ≠ "" ∧ rate.any (60 < ·) = true
  if (distrusted ∨ limited ∨ handlerRaises = true) ∧ 0 < tool.cost then .refunding else .ended true

/-- One step of a call: what the key holds afterwards and where the call stands. -/
def callStep (key : Option SessionHash) (tool : ToolDef) :
    CallState → CallAction → Option SessionHash × CallState
  | .ready, .charge now fails =>
    if fails then (key, .ended false)
    else
      match chargeSession key tool.cost now with
      | (key', .ok _) => (key', .charged)
      | (key', .error _) => (key', .ended false)
  | .charged, .fetch fails =>
    -- The charge is not undone when the session cannot be read back.
    if fails then (key, .ended true)
    else
      match getSession key with
      | .ok (some session) => (key, .verified session)
      | _ => (key, .ended true)
  | .verified session, .work rate handlerRaises =>
    (key, settleCall tool session rate handlerRaises)
  | .refunding, .refund fails =>
    -- The refund does not ask whether the session is still there.
    if fails then (key, .ended true) else (refundSession key tool.cost, .ended false)
  | state, _ => (key, state)

/-- What a call in a state has been charged and not refunded. -/
def owedIn (tool : ToolDef) : CallState → ℤ
  | .ready | .ended false => 0
  | .charged | .verified _ | .refunding | .ended true => tool.cost

/-- **What a step of a call can do**: leave the key and its own debt alone, be charged, or be
refunded. -/
theorem callStep_cases (key : Option SessionHash) (tool : ToolDef) (state : CallState)
    (a : CallAction) :
    ((callStep key tool state a).1 = key ∧
      owedIn tool (callStep key tool state a).2 = owedIn tool state) ∨
    (∃ now, state = .ready ∧ a = .charge now false ∧ (chargeSession key tool.cost now).2 = .ok () ∧
      callStep key tool state a = ((chargeSession key tool.cost now).1, .charged)) ∨
    (state = .refunding ∧ a = .refund false ∧
      callStep key tool state a = (refundSession key tool.cost, .ended false)) := by
  cases state with
  | ready =>
    cases a with
    | charge now fails =>
      cases fails with
      | true => exact .inl ⟨rfl, rfl⟩
      | false =>
        rcases chargeSession_cases key tool.cost now with
          ⟨h, remaining, -, -, -, -, hpass⟩ | ⟨e, hfail⟩
        · refine .inr (.inl ⟨now, rfl, rfl, by rw [hpass], ?_⟩)
          simp only [callStep, hpass, Bool.false_eq_true, if_false]
        · left
          simp only [callStep, hfail, Bool.false_eq_true, if_false]
          exact ⟨trivial, rfl⟩
    | fetch | work | refund => exact .inl ⟨rfl, rfl⟩
  | charged =>
    cases a with
    | fetch fails =>
      left
      cases fails with
      | true => exact ⟨rfl, rfl⟩
      | false =>
        simp only [callStep, Bool.false_eq_true, if_false]
        split
        · exact ⟨rfl, rfl⟩
        · exact ⟨rfl, rfl⟩
    | charge | work | refund => exact .inl ⟨rfl, rfl⟩
  | verified session =>
    cases a with
    | work rate handlerRaises =>
      left
      refine ⟨rfl, ?_⟩
      simp only [callStep, settleCall]
      split_ifs
      · rfl
      · rfl
    | charge | fetch | refund => exact .inl ⟨rfl, rfl⟩
  | refunding =>
    cases a with
    | refund fails =>
      cases fails with
      | true => exact .inl ⟨rfl, rfl⟩
      | false => exact .inr (.inr ⟨rfl, rfl, rfl⟩)
    | charge | fetch | work => exact .inl ⟨rfl, rfl⟩
  | ended kept => exact .inl ⟨rfl, rfl⟩

/-! ### The calls of a session -/

/-- A tool call on the session. -/
structure SessionCall where
  tool : ToolDef
  state : CallState := .ready
  deriving DecidableEq

/-- The key of one session, the calls that name it, and the `close` requests that have read it and
are about to delete it. -/
structure SessionSystem where
  key : Option SessionHash
  calls : List SessionCall := []
  closers : ℕ := 0
  deriving DecidableEq

/-- One step of a run. -/
inductive SessionAction where
  /-- A request arrives. -/
  | arrive (tool : ToolDef)
  | call (i : ℕ) (a : CallAction)
  /-- The `get` of `close`. -/
  | closeRead
  /-- The `DEL` of `close`. -/
  | closeDelete
  /-- Redis drops the key at the end of its lifetime. -/
  | expire

/-- The system after a step. -/
def sessionStep (s : SessionSystem) : SessionAction → SessionSystem
  | .arrive tool => { s with calls := s.calls ++ [{ tool }] }
  | .call i a =>
    match s.calls[i]? with
    | none => s
    | some c =>
      { s with
        key := (callStep s.key c.tool c.state a).1
        calls := s.calls.set i { c with state := (callStep s.key c.tool c.state a).2 } }
  | .closeRead =>
    match getSession s.key with
    | .ok (some _) => { s with closers := s.closers + 1 }
    -- `None` is answered, and a hash without the fields of a session raises.
    | _ => s
  | .closeDelete =>
    if s.closers = 0 then s else { s with key := none, closers := s.closers - 1 }
  | .expire => { s with key := none }

/-- A session that `create` has just stored. -/
def openedSession (settings : SessionSettings) (request : SessionRequest) (now : ℚ) :
    SessionSystem where
  key := some (createSession settings request now)

/-- The charges of all calls that are not refunded. -/
def SessionSystem.owed (s : SessionSystem) : ℤ :=
  (s.calls.map fun c => owedIn c.tool c.state).sum

theorem owedIn_nonneg (tool : ToolDef) (state : CallState) : 0 ≤ owedIn tool state := by
  cases state with
  | ended kept =>
    cases kept with
    | true => exact Int.natCast_nonneg _
    | false => exact le_refl 0
  | ready => exact le_refl 0
  | charged | verified | refunding => exact Int.natCast_nonneg _

/-- Moving one call changes the sum by what its own debt changes. -/
theorem owed_set {s : SessionSystem} {i : ℕ} {c : SessionCall} (hc : s.calls[i]? = some c)
    (key : Option SessionHash) (state : CallState) :
    ({ s with key, calls := s.calls.set i { c with state } } : SessionSystem).owed =
      s.owed - owedIn c.tool c.state + owedIn c.tool state := by
  obtain ⟨hi, hget⟩ := List.getElem?_eq_some_iff.mp hc
  simp only [SessionSystem.owed, List.map_set]
  rw [List.sum_set', dif_pos (by rw [List.length_map]; exact hi), List.getElem_map, hget]
  omega

/-! ### The budget -/

/-- The session is the created one but for its budget, and what is missing from the budget is what
the calls owe. -/
def Accounted (created : SessionHash) (total : ℤ) (s : SessionSystem) : Prop :=
  ∃ remaining, s.key = some { created with budgetRemaining := some remaining } ∧
    0 ≤ remaining ∧ remaining ≤ total ∧ total - remaining = s.owed

/-- The step charges a call: its script passes the existence, expiry and budget checks. -/
def Charges (s : SessionSystem) (a : SessionAction) : Prop :=
  ∃ i now c, a = .call i (.charge now false) ∧ s.calls[i]? = some c ∧ c.state = .ready ∧
    (chargeSession s.key c.tool.cost now).2 = .ok ()

/-- What a charge must respect: it succeeds only on a session that covers the cost and has not
expired, and a charge that does not succeed leaves the session alone. -/
def ChargeSound (s : SessionSystem) (a : SessionAction) : Prop :=
  ∀ i now fails c, a = .call i (.charge now fails) → s.calls[i]? = some c → c.state = .ready →
    (Charges s a → ∃ h remaining expiresAt, s.key = some h ∧ h.budgetRemaining = some remaining ∧
      h.expiresAt = some expiresAt ∧ (c.tool.cost : ℤ) ≤ remaining ∧ now ≤ expiresAt) ∧
    (¬Charges s a → (sessionStep s a).key = s.key)

section Budget

variable {created : SessionHash} {total : ℤ} {s : SessionSystem}

/-- A charge of an accounted session is exact. -/
theorem chargeSession_of_accounted {remaining : ℤ} {tool : ToolDef} {now : ℚ}
    (htotal : total < 2 ^ 53) (hnonneg : 0 ≤ remaining) (hle : remaining ≤ total)
    (hpass : (chargeSession (some { created with budgetRemaining := some remaining }) tool.cost
      now).2 = .ok ()) :
    (tool.cost : ℤ) ≤ remaining ∧ (∀ e, created.expiresAt = some e → now ≤ e) ∧
      (chargeSession (some { created with budgetRemaining := some remaining }) tool.cost now).1 =
        some { created with budgetRemaining := some (remaining - tool.cost) } := by
  rcases chargeSession_cases (some { created with budgetRemaining := some remaining }) tool.cost now
    with ⟨h, r, hkey, hr, hexpiry, hcost, hres⟩ | ⟨e, hres⟩
  · obtain rfl := Option.some.inj hkey
    obtain rfl := Option.some.inj hr
    have hcovers : (tool.cost : ℤ) ≤ remaining :=
      (luaNumber_le_iff hnonneg (lt_of_le_of_lt hle htotal)).mp hcost
    refine ⟨hcovers, hexpiry, ?_⟩
    -- all three numbers are below `2 ^ 53`
    have hdiff : luaNumber (luaNumber remaining - luaNumber tool.cost) = remaining - tool.cost := by
      rw [luaNumber_of_lt (n := remaining) (by omega), luaNumber_of_lt (n := (tool.cost : ℤ))
        (by omega), luaNumber_of_lt (by omega)]
    rw [hres, hdiff]
  · rw [hres] at hpass
    cases hpass

/-- **A step keeps the account**, unless it removes the key. -/
theorem accounted_step (htotal : total < 2 ^ 53) {a : SessionAction}
    (h : Accounted created total s) (hlive : (sessionStep s a).key.isSome = true) :
    Accounted created total (sessionStep s a) := by
  obtain ⟨remaining, hkey, hnonneg, hle, howed⟩ := h
  cases a with
  | arrive tool =>
    refine ⟨remaining, hkey, hnonneg, hle, ?_⟩
    rw [howed]
    simp [sessionStep, SessionSystem.owed, owedIn]
  | closeRead =>
    have hsame : (sessionStep s .closeRead).key = s.key ∧
        (sessionStep s .closeRead).calls = s.calls := by
      simp only [sessionStep]
      split
      · exact ⟨rfl, rfl⟩
      · exact ⟨rfl, rfl⟩
    refine ⟨remaining, hsame.1.trans hkey, hnonneg, hle, ?_⟩
    rw [howed, SessionSystem.owed, SessionSystem.owed, hsame.2]
  | closeDelete =>
    simp only [sessionStep] at hlive ⊢
    split_ifs at hlive ⊢ with hnone
    · exact ⟨remaining, hkey, hnonneg, hle, howed⟩
    · cases hlive
  | expire => cases hlive
  | call i a =>
    cases hc : s.calls[i]? with
    | none =>
      simp only [sessionStep, hc]
      exact ⟨remaining, hkey, hnonneg, hle, howed⟩
    | some c =>
      simp only [sessionStep, hc]
      have hset := owed_set hc (callStep s.key c.tool c.state a).1
        (callStep s.key c.tool c.state a).2
      -- The call itself, which is one of the summands, owes at most what all calls owe.
      have hself : owedIn c.tool c.state ≤ s.owed := by
        refine List.single_le_sum ?_ _ (List.mem_map.mpr ⟨c, List.mem_of_getElem? hc, rfl⟩)
        intro x hx
        obtain ⟨c', -, rfl⟩ := List.mem_map.mp hx
        exact owedIn_nonneg c'.tool c'.state
      rcases callStep_cases s.key c.tool c.state a with
        ⟨hsame, hdebt⟩ | ⟨now, hstate, rfl, hpass, hstep⟩ | ⟨hstate, rfl, hstep⟩
      · refine ⟨remaining, hsame.trans hkey, hnonneg, hle, ?_⟩
        rw [hset, hdebt]
        omega
      · rw [hkey] at hpass hstep
        obtain ⟨hcovers, -, hnew⟩ := chargeSession_of_accounted htotal hnonneg hle hpass
        rw [hnew] at hstep
        rw [hkey, hstep] at hset ⊢
        rw [hstate] at hset
        simp only [owedIn] at hset
        exact ⟨remaining - c.tool.cost, rfl, by omega, by omega, by rw [hset]; omega⟩
      · rw [hkey] at hstep
        rw [hkey, hstep] at hset ⊢
        rw [hstate] at hset hself
        simp only [owedIn] at hset hself
        exact ⟨remaining + c.tool.cost, rfl, by omega, by omega, by rw [hset]; omega⟩

/-- The charges of an accounted session are sound. -/
theorem chargeSound_of_accounted (htotal : total < 2 ^ 53) {expiresAt : ℚ}
    (hexpires : created.expiresAt = some expiresAt) (h : Accounted created total s)
    (a : SessionAction) : ChargeSound s a := by
  obtain ⟨remaining, hkey, hnonneg, hle, -⟩ := h
  rintro i now fails c rfl hc hready
  constructor
  · rintro ⟨i', now', c', heq, hc', -, hpass⟩
    obtain ⟨rfl, hact⟩ := SessionAction.call.inj heq
    obtain ⟨rfl, -⟩ := CallAction.charge.inj hact
    obtain rfl := Option.some.inj (hc.symm.trans hc')
    rw [hkey] at hpass
    obtain ⟨hcovers, hexpiry, -⟩ := chargeSession_of_accounted htotal hnonneg hle hpass
    exact ⟨_, remaining, expiresAt, hkey, rfl, hexpires, hcovers, hexpiry expiresAt hexpires⟩
  · intro hno
    simp only [sessionStep, hc, hready]
    rcases callStep_cases s.key c.tool .ready (.charge now fails) with
      ⟨hsame, -⟩ | ⟨now', -, hact, hpass, -⟩ | ⟨hstate, -, -⟩
    · exact hsame
    · obtain ⟨rfl, rfl⟩ := CallAction.charge.inj hact
      exact absurd ⟨i, now, c, rfl, hc, hready, hpass⟩ hno
    · cases hstate

end Budget

/-- **Session budget accounting.** Along every interleaving of calls on a created session, as long
as its key is not removed, the budget lies between zero and its total, what is missing from it is
the sum of the charges not yet refunded, and every charge is sound. -/
theorem session_accounting (settings : SessionSettings) (request : SessionRequest) (now : ℚ)
    (actions : List SessionAction)
    (hlive : Meets sessionStep (fun s a => (sessionStep s a).key.isSome = true)
      (openedSession settings request now) actions) :
    Accounted (createSession settings request now) (effectiveBudget settings request)
        (run sessionStep (openedSession settings request now) actions) ∧
      Meets sessionStep ChargeSound (openedSession settings request now) actions := by
  have htotal := effectiveBudget_lt settings request
  have hopened : Accounted (createSession settings request now) (effectiveBudget settings request)
      (openedSession settings request now) :=
    ⟨effectiveBudget settings request, rfl, (effectiveBudget_pos settings request).le, le_refl _,
      sub_self _⟩
  constructor
  · exact run_induction (fun s a h hstep => accounted_step htotal h hstep) hopened hlive
  · refine meets_of_meets (fun s a h hstep => ?_) hopened hlive
    exact ⟨chargeSound_of_accounted htotal rfl h a, accounted_step htotal h hstep⟩

namespace Sample

/-- A session with the default settings, opened at time zero. -/
def session : SessionSystem := openedSession {} { walletAddress := "0xab" } 0

/-- A tool that costs a tenth of a cent. -/
def tool : ToolDef where
  cost := 1000

/-- A call of `tool` whose handler fails, up to the point where it is about to be refunded. -/
def failingCall : List SessionAction :=
  [.arrive tool, .call 0 (.charge 1 false), .call 0 (.fetch false), .call 0 (.work (some 1) true)]

end Sample

/-- Two concurrent calls, one charged and one refunded. -/
theorem session_accounting_two_calls :
    Accounted (createSession {} { walletAddress := "0xab" } 0)
        (effectiveBudget {} { walletAddress := "0xab" })
        (run sessionStep Sample.session (Sample.failingCall ++
          [.arrive Sample.tool, .call 1 (.charge 2 false), .call 0 (.refund false)])) ∧
      Meets sessionStep ChargeSound Sample.session (Sample.failingCall ++
        [.arrive Sample.tool, .call 1 (.charge 2 false), .call 0 (.refund false)]) :=
  session_accounting {} { walletAddress := "0xab" } 0 _ (by decide +kernel)

/-! ### The end of a session -/

/-- The step is a refund that reaches Redis. -/
def Refunds (s : SessionSystem) (a : SessionAction) : Prop :=
  ∃ i c, a = .call i (.refund false) ∧ s.calls[i]? = some c ∧ c.state = .refunding

/-- The key is absent now and after every step of the run, and no step charges a call. -/
def StaysClosed (s : SessionSystem) (actions : List SessionAction) : Prop :=
  s.key = none ∧
    Meets sessionStep (fun s a => (sessionStep s a).key = none ∧ ¬Charges s a) s actions

/-- Nothing can be charged to an absent key. -/
theorem not_charges_of_none {s : SessionSystem} (h : s.key = none) (a : SessionAction) :
    ¬Charges s a := by
  rintro ⟨i, now, c, -, -, -, hpass⟩
  rw [h, chargeSession_none] at hpass
  cases hpass

/-- **A step leaves an absent key absent** exactly when it is no refund. -/
theorem key_step_eq_none_iff {s : SessionSystem} (h : s.key = none) (a : SessionAction) :
    (sessionStep s a).key = none ↔ ¬Refunds s a := by
  cases a with
  | call i a =>
    cases hc : s.calls[i]? with
    | none =>
      simp only [sessionStep, hc, h, true_iff]
      rintro ⟨i', c', heq, hc', -⟩
      obtain ⟨rfl, -⟩ := SessionAction.call.inj heq
      rw [hc] at hc'
      cases hc'
    | some c =>
      simp only [sessionStep, hc]
      rcases callStep_cases s.key c.tool c.state a with
        ⟨hsame, hdebt⟩ | ⟨now, -, -, hpass, -⟩ | ⟨hstate, rfl, hstep⟩
      · rw [hsame, h, eq_self_iff_true, true_iff]
        rintro ⟨i', c', heq, hc', hstate⟩
        obtain ⟨rfl, rfl⟩ := SessionAction.call.inj heq
        obtain rfl := Option.some.inj (hc.symm.trans hc')
        -- a refund that reaches Redis makes the key
        rw [hstate] at hsame
        rw [h] at hsame
        cases hsame
      · rw [h, chargeSession_none] at hpass
        cases hpass
      · rw [hstep]
        constructor
        · intro hnone
          cases hnone
        · intro hno
          exact absurd ⟨i, c, rfl, hc, hstate⟩ hno
  | closeRead =>
    have hsame : (sessionStep s .closeRead).key = none := by
      simp only [sessionStep]
      split
      · exact h
      · exact h
    rw [hsame, eq_self_iff_true, true_iff]
    rintro ⟨i, c, heq, -⟩
    cases heq
  | closeDelete =>
    have hsame : (sessionStep s .closeDelete).key = none := by
      simp only [sessionStep]
      split_ifs
      · exact h
      · rfl
    rw [hsame, eq_self_iff_true, true_iff]
    rintro ⟨i, c, heq, -⟩
    cases heq
  | arrive tool =>
    simp only [sessionStep, h, true_iff]
    rintro ⟨i, c, heq, -⟩
    cases heq
  | expire =>
    simp only [sessionStep, true_iff]
    rintro ⟨i, c, heq, -⟩
    cases heq

/-- From a state without the key, it stays absent exactly when no refund follows. -/
theorem staysClosed_iff_of_none {s : SessionSystem} {actions : List SessionAction}
    (h : s.key = none) :
    StaysClosed s actions ↔ Meets sessionStep (fun s a => ¬Refunds s a) s actions := by
  induction actions generalizing s with
  | nil => exact ⟨fun _ => trivial, fun _ => ⟨h, trivial⟩⟩
  | cons a actions ih =>
    constructor
    · rintro ⟨-, ⟨hnone, -⟩, hrest⟩
      exact ⟨(key_step_eq_none_iff h a).mp hnone, (ih hnone).mp ⟨hnone, hrest⟩⟩
    · rintro ⟨hno, hrest⟩
      have hnone := (key_step_eq_none_iff h a).mpr hno
      exact ⟨h, ⟨hnone, not_charges_of_none h a⟩, ((ih hnone).mpr hrest).2⟩

/-- **When a closed session stays closed.** After the `DEL` of a `close`, in any run of a created
session, the key stays absent and no call is charged if and only if no refund of a call reaches
Redis afterwards. -/
theorem staysClosed_iff (settings : SessionSettings) (request : SessionRequest) (now : ℚ)
    (before later : List SessionAction)
    (hclose : 0 < (run sessionStep (openedSession settings request now) before).closers) :
    StaysClosed
        (sessionStep (run sessionStep (openedSession settings request now) before) .closeDelete)
        later ↔
      Meets sessionStep (fun s a => ¬Refunds s a)
        (sessionStep (run sessionStep (openedSession settings request now) before) .closeDelete)
        later := by
  refine staysClosed_iff_of_none ?_
  rw [sessionStep, if_neg hclose.ne']

/-- A call that is over before the session is closed. -/
theorem staysClosed_iff_settled :
    0 < (run sessionStep Sample.session
        (Sample.failingCall ++ [.call 0 (.refund false), .closeRead])).closers ∧
      (StaysClosed (sessionStep (run sessionStep Sample.session
          (Sample.failingCall ++ [.call 0 (.refund false), .closeRead])) .closeDelete)
          [.arrive Sample.tool, .call 1 (.charge 3 false)] ↔
        Meets sessionStep (fun s a => ¬Refunds s a) (sessionStep (run sessionStep Sample.session
          (Sample.failingCall ++ [.call 0 (.refund false), .closeRead])) .closeDelete)
          [.arrive Sample.tool, .call 1 (.charge 3 false)]) :=
  ⟨by decide +kernel, staysClosed_iff {} { walletAddress := "0xab" } 0 _ _ (by decide +kernel)⟩

/-- A refund after the close: the key is back, and the next call is charged. -/
theorem not_staysClosed_refund :
    let closed := sessionStep
      (run sessionStep Sample.session (Sample.failingCall ++ [.closeRead])) .closeDelete
    let reopened := run sessionStep closed [.call 0 (.refund false), .arrive Sample.tool]
    closed.key = none ∧ reopened.key ≠ none ∧ Charges reopened (.call 1 (.charge 3 false)) ∧
      ¬StaysClosed closed [.call 0 (.refund false), .arrive Sample.tool,
        .call 1 (.charge 3 false)] := by
  intro closed reopened
  have hnone : closed.key = none := by decide +kernel
  refine ⟨hnone, by decide +kernel,
    ⟨1, 3, { tool := Sample.tool }, rfl, by decide +kernel, rfl, ?_⟩, ?_⟩
  · decide +kernel
  · rw [staysClosed_iff_of_none hnone]
    rintro ⟨hno, -⟩
    exact hno ⟨0, { tool := Sample.tool, state := .refunding }, rfl, by decide +kernel, rfl⟩

end TripWire
