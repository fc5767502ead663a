import Mathlib
import TripWire.Mcp.Auth
import TripWire.Session.Calls

/-!
# Tool calls that are paid by a session

`_handle_session_tool_call` (`tripwire/mcp/server.py`) charges the session first and gives the money
back when the call fails: at the reputation gate, at the rate limit and when the handler raises.

Other calls of the session, `close` and the expiry of the key may change the session between the
Redis operations of a call, so what the key holds then is given by two arbitrary functions of it.
`SessionCallEnd.effect` adds up what the operations of the call itself do to `budget_remaining`; for
a call that runs alone it is the difference of the budgets (`effect_alone`).

A handler may also fail by returning a dictionary with `"error"`.  The x402 tier does not settle
then; the session tier keeps the charge (`chargedForSuccess_iff`).
-/

namespace TripWire

open Py Machine

/-! ### The handler -/

/-- The budget in a session's key; nothing counts as zero, as for `HINCRBY`. -/
def budgetOf (key : Option SessionHash) : ℤ := (key.bind SessionHash.budgetRemaining).getD 0

/-- What a session call is given: the time of its charge, the counter of its address after the
`INCR`, and what its handler does. -/
structure SessionToolCall where
  tool : ToolDef
  now : ℚ
  rate : ℤ
  outcome : HandlerOutcome

/-- The end of a session call. -/
structure SessionCallEnd where
  response : RpcResponse
  /-- What the key holds after the last operation of the call. -/
  key : Option SessionHash
  /-- What the operations of the call have added to `budget_remaining`. -/
  effect : ℤ

/-- The answer to an exception of `_verify_session`. -/
def sessionErrorResponse : SessionError → RpcResponse
  | .sessionNotFound => .error rpcAuthRequired "Session not found"
  | .sessionExpired => .error rpcAuthRequired "Session expired"
  | .insufficientBudget => .error rpcPaymentRequired "Insufficient session budget"
  | .keyError | .redis => .error rpcInternalError "Session validation failed"

/-- The second half of `validate_and_decrement`: the session is read back. -/
def readBack (key : Option SessionHash) : Except SessionError SessionData :=
  match getSession key with
  | .error e => .error e
  | .ok none => .error .sessionNotFound
  | .ok (some session) => .ok session

/-- Steps 2 to 4 of `_handle_session_tool_call`: the answer, and whether the charge is refunded. -/
def serveSession (call : SessionToolCall) (session : SessionData) : RpcResponse × Bool :=
  if distrusts call.tool.minReputation session.reputationScore then
    (.error rpcReputationTooLow (reputationTooLow session.reputationScore call.tool.minReputation)
      (some [("reputation", .float session.reputationScore),
        ("required", .float call.tool.minReputation)]), true)
  else if session.walletAddress ≠ "" ∧ 60 < call.rate then
    (.error rpcRateLimited "Rate limit exceeded: max 60 tool calls per minute", true)
  else
    match call.outcome with
    | .raises => (.error rpcInternalError "Tool execution failed", true)
    | .returns result => (.success result (hasError result) (some session.budgetRemaining), false)

/-- `_handle_session_tool_call`.  `meanwhile` is what happens to the key between the charge and the
`HGETALL`, and `later` what happens to it before the refund. -/
def handleSessionToolCall (meanwhile later : Option SessionHash → Option SessionHash)
    (call : SessionToolCall) (key : Option SessionHash) : SessionCallEnd :=
  match chargeSession key call.tool.cost call.now with
  | (key', .error e) => ⟨sessionErrorResponse e, key', budgetOf key' - budgetOf key⟩
  | (key', .ok _) =>
    let charged := budgetOf key' - budgetOf key
    match readBack (meanwhile key') with
    | .error e => ⟨sessionErrorResponse e, meanwhile key', charged⟩
    | .ok session =>
      let (response, refunds) := serveSession call session
      let before := later (meanwhile key')
      -- a free tool has nothing to refund
      if refunds ∧ 0 < call.tool.cost then
        let after := refundSession before call.tool.cost
        ⟨response, after, charged + (budgetOf after - budgetOf before)⟩
      else ⟨response, before, charged⟩

/-- For a call that runs alone the effect is the difference of the budgets. -/
theorem effect_alone (call : SessionToolCall) (key : Option SessionHash) :
    (handleSessionToolCall id id call key).effect =
      budgetOf (handleSessionToolCall id id call key).key - budgetOf key := by
  unfold handleSessionToolCall
  split
  · rfl
  · simp only [id_eq]
    split
    · rfl
    · split_ifs
      · ring
      · rfl

/-! ### The budget of a reachable session -/

/-- The budget and what the calls owe never exceed the total, whether or not the session is still
there. -/
def WithinTotal (total : ℤ) (s : SessionSystem) : Prop :=
  0 ≤ budgetOf s.key ∧ budgetOf s.key + s.owed ≤ total

/-- A refund adds its amount to the budget, whatever the key holds. -/
theorem budgetOf_refundSession (key : Option SessionHash) (amount : ℕ) :
    budgetOf (refundSession key amount) = budgetOf key + amount := by
  cases key with
  | none => rfl
  | some h => rfl

/-- A charge that passes takes the cost off a budget that a Lua number holds exactly. -/
theorem chargeSession_exact {key key' : Option SessionHash} {cost : ℕ} {now : ℚ}
    (h₀ : 0 ≤ budgetOf key) (hlt : budgetOf key < 2 ^ 53)
    (h : chargeSession key cost now = (key', .ok ())) :
    budgetOf key' = budgetOf key - cost ∧ (cost : ℤ) ≤ budgetOf key := by
  rcases chargeSession_cases key cost now with ⟨hash, r, rfl, hr, -, hcost, hres⟩ | ⟨e, hres⟩
  · have hbudget : budgetOf (some hash) = r := by simp [budgetOf, hr]
    rw [hbudget] at h₀ hlt ⊢
    have hcovers : (cost : ℤ) ≤ r := (luaNumber_le_iff h₀ hlt).mp hcost
    have hdiff : luaNumber (luaNumber r - luaNumber cost) = r - cost := by
      rw [luaNumber_of_lt (n := r) (by omega), luaNumber_of_lt (n := (cost : ℤ)) (by omega),
        luaNumber_of_lt (by omega)]
    rw [hres, hdiff] at h
    obtain ⟨rfl, -⟩ := Prod.mk.inj h
    exact ⟨rfl, hcovers⟩
  · rw [hres] at h
    cases (Prod.mk.inj h).2

/-- A charge that raises leaves the key alone. -/
theorem chargeSession_error {key key' : Option SessionHash} {cost : ℕ} {now : ℚ} {e : SessionError}
    (h : chargeSession key cost now = (key', .error e)) : key' = key := by
  rcases chargeSession_cases key cost now with ⟨hash, r, -, -, -, -, hres⟩ | ⟨e', hres⟩
  · rw [hres] at h
    cases (Prod.mk.inj h).2
  · rw [hres] at h
    exact (Prod.mk.inj h).1.symm

theorem owed_nonneg (s : SessionSystem) : 0 ≤ s.owed := by
  refine List.sum_nonneg ?_
  intro x hx
  obtain ⟨c, -, rfl⟩ := List.mem_map.mp hx
  exact owedIn_nonneg c.tool c.state

/-- **A step keeps the bound.** -/
theorem withinTotal_step {total : ℤ} (htotal : total < 2 ^ 53) {s : SessionSystem}
    (h : WithinTotal total s) (a : SessionAction) : WithinTotal total (sessionStep s a) := by
  obtain ⟨hnonneg, hsum⟩ := h
  have howed := owed_nonneg s
  -- removing the key takes the budget away
  have hgone : budgetOf none = 0 := rfl
  cases a with
  | arrive tool =>
    have hsame : (sessionStep s (.arrive tool)).owed = s.owed := by
      simp [sessionStep, SessionSystem.owed, owedIn]
    exact ⟨hnonneg, by rw [hsame]; exact hsum⟩
  | closeRead =>
    simp only [sessionStep]
    split
    · exact ⟨hnonneg, hsum⟩
    · exact ⟨hnonneg, hsum⟩
  | closeDelete =>
    simp only [sessionStep]
    split_ifs
    · exact ⟨hnonneg, hsum⟩
    · refine ⟨le_refl 0, ?_⟩
      show budgetOf none + s.owed ≤ total
      omega
  | expire =>
    refine ⟨le_refl 0, ?_⟩
    show budgetOf none + s.owed ≤ total
    omega
  | call i a =>
    cases hc : s.calls[i]? with
    | none =>
      simp only [sessionStep, hc]
      exact ⟨hnonneg, hsum⟩
    | some c =>
      simp only [sessionStep, hc]
      have hset := owed_set hc (callStep s.key c.tool c.state a).1
        (callStep s.key c.tool c.state a).2
      show 0 ≤ budgetOf (callStep s.key c.tool c.state a).1 ∧
        budgetOf (callStep s.key c.tool c.state a).1 + _ ≤ total
      rw [hset]
      rcases callStep_cases s.key c.tool c.state a with
        ⟨hsame, hdebt⟩ | ⟨now, hstate, -, hpass, hstep⟩ | ⟨hstate, -, hstep⟩
      · rw [hsame, hdebt]
        exact ⟨hnonneg, by omega⟩
      · have hcharge : chargeSession s.key c.tool.cost now =
            ((chargeSession s.key c.tool.cost now).1, .ok ()) := Prod.ext rfl hpass
        obtain ⟨hexact, hcovers⟩ := chargeSession_exact hnonneg (by omega) hcharge
        rw [hstep, hstate, hexact]
        simp only [owedIn]
        exact ⟨by omega, by omega⟩
      · rw [hstep, hstate, budgetOf_refundSession]
        simp only [owedIn]
        exact ⟨by omega, by omega⟩

/-- In every run of a created session the budget is one that a Lua number holds exactly. -/
theorem budgetOf_run (settings : SessionSettings) (request : SessionRequest) (created : ℚ)
    (actions : List SessionAction) :
    0 ≤ budgetOf (run sessionStep (openedSession settings request created) actions).key ∧
      budgetOf (run sessionStep (openedSession settings request created) actions).key < 2 ^ 53 := by
  have htotal := effectiveBudget_lt settings request
  have hopened : WithinTotal (effectiveBudget settings request)
      (openedSession settings request created) :=
    ⟨(effectiveBudget_pos settings request).le, le_of_eq (add_zero _)⟩
  obtain ⟨hnonneg, hsum⟩ :=
    run_invariant (I := WithinTotal (effectiveBudget settings request))
      (fun s a h => withinTotal_step htotal h a) actions hopened
  have howed := owed_nonneg (run sessionStep (openedSession settings request created) actions)
  exact ⟨hnonneg, by omega⟩

/-! ### Charged for success -/

/-- The gates let the call through to the handler. -/
def SessionToolCall.admitted (call : SessionToolCall) (session : SessionData) : Bool :=
  !distrusts call.tool.minReputation session.reputationScore &&
    !decide (session.walletAddress ≠ "" ∧ 60 < call.rate)

/-- The net effect of the call on the budget is its cost if it delivers, and nothing otherwise. -/
def ChargedForSuccess (e : SessionCallEnd) (cost : ℕ) : Prop :=
  e.effect = if e.response.delivers then -(cost : ℤ) else 0

/-- The call is charged and fails where nothing refunds it: the session is gone when it is read
back, or the handler returns a result with `"error"`. -/
def FailsUnrefunded (meanwhile : Option SessionHash → Option SessionHash) (call : SessionToolCall)
    (key : Option SessionHash) : Prop :=
  ∃ key', chargeSession key call.tool.cost call.now = (key', .ok ()) ∧
    ∀ session, readBack (meanwhile key') = .ok session →
      call.admitted session = true ∧
        ∃ result, call.outcome = .returns result ∧ hasError result = true

theorem delivers_sessionErrorResponse (e : SessionError) :
    (sessionErrorResponse e).delivers = false := by
  cases e with
  | sessionNotFound | sessionExpired | insufficientBudget | keyError | redis => rfl

/-- A call that the gates turn away is refunded. -/
theorem serveSession_of_not_admitted {call : SessionToolCall} {session : SessionData}
    (h : call.admitted session = false) :
    (serveSession call session).1.delivers = false ∧ (serveSession call session).2 = true := by
  unfold serveSession
  unfold SessionToolCall.admitted at h
  split_ifs with hdistrusts hlimited
  · exact ⟨rfl, rfl⟩
  · exact ⟨rfl, rfl⟩
  · simp [hdistrusts, hlimited] at h

/-- A call that the gates let through is answered by the handler. -/
theorem serveSession_of_admitted {call : SessionToolCall} {session : SessionData}
    (h : call.admitted session = true) :
    serveSession call session =
      match call.outcome with
      | .raises => (.error rpcInternalError "Tool execution failed", true)
      | .returns result =>
        (.success result (hasError result) (some session.budgetRemaining), false) := by
  unfold SessionToolCall.admitted at h
  rw [Bool.and_eq_true, Bool.not_eq_true', Bool.not_eq_true', decide_eq_false_iff_not] at h
  unfold serveSession
  rw [if_neg (by rw [h.1]; exact Bool.false_ne_true), if_neg h.2]

/-- **Where the two tiers agree**: a session call delivers a result just if it passes the gates and
the x402 tier would go on from its handler's outcome to the settlement. -/
theorem serveSession_delivers_iff (call : SessionToolCall) (session : SessionData) :
    (serveSession call session).1.delivers = true ↔
      call.admitted session = true ∧ ∃ result, afterHandler call.outcome = .executed result := by
  cases hadmitted : call.admitted session with
  | false => simp [(serveSession_of_not_admitted hadmitted).1]
  | true =>
    rw [serveSession_of_admitted hadmitted]
    cases call.outcome with
    | raises => simp [RpcResponse.delivers, afterHandler]
    | returns result =>
      cases herror : hasError result with
      | true => simp [RpcResponse.delivers, afterHandler, herror]
      | false => simp [RpcResponse.delivers, afterHandler, herror]

/-- What a call does once it is charged and its session read back. -/
theorem chargedForSuccess_served {meanwhile later : Option SessionHash → Option SessionHash}
    {call : SessionToolCall} {key key' : Option SessionHash} {session : SessionData}
    (hcharge : chargeSession key call.tool.cost call.now = (key', .ok ()))
    (hexact : budgetOf key' = budgetOf key - call.tool.cost)
    (hread : readBack (meanwhile key') = .ok session) :
    ChargedForSuccess (handleSessionToolCall meanwhile later call key) call.tool.cost ↔
      call.tool.cost = 0 ∨ ¬(call.admitted session = true ∧
        ∃ result, call.outcome = .returns result ∧ hasError result = true) := by
  have hcharged : budgetOf key' - budgetOf key = -(call.tool.cost : ℤ) := by omega
  unfold ChargedForSuccess handleSessionToolCall
  simp only [hcharge, hread, hcharged, budgetOf_refundSession]
  cases hadmitted : call.admitted session with
  | false =>
    obtain ⟨hdelivers, hrefunds⟩ := serveSession_of_not_admitted hadmitted
    -- the refund takes the charge back, and a free call has no charge
    by_cases hfree : 0 < call.tool.cost
    · simp [hdelivers, hrefunds, hfree]
    · simp [hdelivers, hrefunds, hfree]
      omega
  | true =>
    rw [serveSession_of_admitted hadmitted]
    cases call.outcome with
    | raises =>
      by_cases hfree : 0 < call.tool.cost
      · simp [RpcResponse.delivers, hfree]
      · simp [RpcResponse.delivers, hfree]
        omega
    | returns result =>
      -- nothing refunds a result, with or without an error
      cases herror : hasError result with
      | true => simp [RpcResponse.delivers, herror]
      | false => simp [RpcResponse.delivers, herror]

/-- **Charged for success.** In every run of a created session, for every call on it and whatever
happens to the session during the call: the net effect on the budget is minus the cost when the call
delivers a result and zero otherwise, if and only if the tool is free or the call does not fail
where nothing refunds it.  Of the calls that are served, those deliver for which the x402 tier would
go on to settle. -/
theorem chargedForSuccess_iff (settings : SessionSettings) (request : SessionRequest) (created : ℚ)
    (actions : List SessionAction) (meanwhile later : Option SessionHash → Option SessionHash)
    (call : SessionToolCall) :
    let key := (run sessionStep (openedSession settings request created) actions).key
    let e := handleSessionToolCall meanwhile later call key
    (ChargedForSuccess e call.tool.cost ↔
        call.tool.cost = 0 ∨ ¬FailsUnrefunded meanwhile call key) ∧
      ∀ key' session, chargeSession key call.tool.cost call.now = (key', .ok ()) →
        readBack (meanwhile key') = .ok session →
        (e.response.delivers = true ↔
          call.admitted session = true ∧
            ∃ result, afterHandler call.outcome = .executed result) := by
  intro key e
  obtain ⟨hnonneg, hlt⟩ := budgetOf_run settings request created actions
  constructor
  · cases hcharge : chargeSession key call.tool.cost call.now with
    | mk key' answer =>
      cases answer with
      | error err =>
        -- nothing was charged
        obtain rfl := chargeSession_error hcharge
        have hno : ¬FailsUnrefunded meanwhile call key := by
          rintro ⟨key'', hcharge', -⟩
          rw [hcharge] at hcharge'
          cases (Prod.mk.inj hcharge').2
        simp [e, ChargedForSuccess, handleSessionToolCall, hcharge, delivers_sessionErrorResponse,
          hno]
      | ok u =>
        obtain ⟨hexact, -⟩ := chargeSession_exact hnonneg hlt hcharge
        cases hread : readBack (meanwhile key') with
        | error err =>
          -- the session is gone, and the charge with it
          have hfails : FailsUnrefunded meanwhile call key := by
            refine ⟨key', hcharge, fun session hsession => ?_⟩
            rw [hread] at hsession
            cases hsession
          have heffect : budgetOf key' - budgetOf key = -(call.tool.cost : ℤ) := by
            show budgetOf key' - budgetOf (run sessionStep _ actions).key = _
            omega
          simp [e, ChargedForSuccess, handleSessionToolCall, hcharge, hread,
            delivers_sessionErrorResponse, hfails, heffect]
        | ok session =>
          rw [chargedForSuccess_served hcharge hexact hread]
          have hfails : FailsUnrefunded meanwhile call key ↔ call.admitted session = true ∧
              ∃ result, call.outcome = .returns result ∧ hasError result = true := by
            constructor
            · rintro ⟨key'', hcharge', hfail⟩
              obtain ⟨rfl, -⟩ := Prod.mk.inj (hcharge.symm.trans hcharge')
              exact hfail session hread
            · intro hfail
              refine ⟨key', hcharge, fun session' hsession => ?_⟩
              obtain rfl := Except.ok.inj (hread.symm.trans hsession)
              exact hfail
          rw [hfails]
  · intro key' session hcharge hread
    have hresponse : e.response = (serveSession call session).1 := by
      simp only [e, handleSessionToolCall, hcharge, hread]
      split_ifs
      · rfl
      · rfl
    rw [hresponse]
    exact serveSession_delivers_iff call session

/-- A handler that answers `NOT_FOUND`: the call has failed, and its cost is gone. -/
theorem charged_for_error_result :
    let call : SessionToolCall :=
      { tool := Sample.tool, now := 1, rate := 1
        outcome := .returns [("error", .str "Trigger not found"), ("code", .str "NOT_FOUND")] }
    let e := handleSessionToolCall id id call Sample.session.key
    e.response.delivers = false ∧ e.effect = -1000 ∧ ¬ChargedForSuccess e call.tool.cost := by
  intro call e
  have hdelivers : e.response.delivers = false := by decide +kernel
  have heffect : e.effect = -1000 := by decide +kernel
  refine ⟨hdelivers, heffect, ?_⟩
  rw [ChargedForSuccess, hdelivers, heffect]
  decide

end TripWire
