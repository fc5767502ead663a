import Mathlib
import TripWire.Api.Endpoints
import TripWire.Lib.Machine
import TripWire.Session.Calls

/-!
# Tool calls that are paid by x402

`x402_tool_executor` (`tripwire/mcp/auth.py`) verifies a payment, claims it under a replay key
(`SET NX`), checks the payer, runs the handler and settles.  Calls run concurrently, so the executor
is a state machine (`x402Step`): each of its steps is one Redis operation or one call of a service,
and what the services answer to a call is fixed when it arrives.  A run is any interleaving of the
steps of any number of calls.

The handler works on a world `σ` of its own, such as the tables of the database.

`x402Step_cases` says what a step can do to the replay keys: nothing, claim the key of the call when
it is free, or give it back.
-/

namespace TripWire

open Py Machine

/-! ### JSON-RPC answers -/

/-- What the handler of a tool does: it raises, or it returns a dictionary. -/
inductive HandlerOutcome where
  | raises
  | returns (result : Dict)
  deriving DecidableEq

/-- `"error" in result`. -/
def hasError (result : Dict) : Bool := result.any fun item => item.1 == "error"

/-- The answer to a `tools/call`.  A session call also reports its budget. -/
inductive RpcResponse where
  | error (code : ℤ) (message : String) (data : Option Dict := none)
  | success (result : Dict) (isError : Bool) (budgetRemaining : Option ℤ := none)
  deriving DecidableEq

/-- The answer is a tool result without `"error"`. -/
def RpcResponse.delivers : RpcResponse → Bool
  | .error .. => false
  | .success result _ _ => !hasError result

/-- `_INTERNAL_ERROR`. -/
def rpcInternalError : ℤ := -32603

/-- `_AUTH_REQUIRED`. -/
def rpcAuthRequired : ℤ := -32000

/-- `_REPUTATION_TOO_LOW`. -/
def rpcReputationTooLow : ℤ := -32001

/-- `_PAYMENT_REQUIRED`. -/
def rpcPaymentRequired : ℤ := -32002

/-- `_RATE_LIMITED`. -/
def rpcRateLimited : ℤ := -32003

/-- The format `:.1f` of a number that is not negative. -/
def fixedOne (q : ℚ) : String :=
  let scaled := q * 10
  let whole := scaled.floor.toNat
  let rest := scaled - whole
  let tenths := if 1 / 2 < rest ∨ (rest = 1 / 2 ∧ whole % 2 = 1) then whole + 1 else whole
  s!"{tenths / 10}.{tenths % 10}"

/-- The message of the reputation gate. -/
def reputationTooLow (score required : ℚ) : String :=
  s!"Reputation too low: {fixedOne score} < {fixedOne required}"

/-- The reputation gate of both tiers. -/
def distrusts (minReputation score : ℚ) : Bool :=
  decide (0 < minReputation) && decide (score < minReputation)

/-! ### What a call is given -/

/-- The parts of a `ToolDef` that only the x402 path reads. -/
structure X402Tool extends ToolDef where
  name : String
  network : String := "eip155:8453"

/-- What `server.verify` returns. -/
structure VerifyResult where
  valid : Bool := true
  payer : Option String := none
  fromAddress : Option String := none

/-- `verify_result.payer or verify_result.from_address`, as a text. -/
def VerifyResult.payerAddress (r : VerifyResult) : String :=
  ((r.payer.filter (· ≠ "")).or (r.fromAddress.filter (· ≠ ""))).getD ""

/-- `MCPAuthContext`, the parts that the x402 path sets for the handler. -/
structure MCPAuthContext where
  agentAddress : Option String := none
  identity : Option AgentIdentity := none
  reputationScore : ℚ := 0
  deriving DecidableEq

/-- What the services answer to one call. -/
structure X402Services where
  verify : Except PyError VerifyResult
  identityResolver : Option (String → ℤ → Except PyError (Option AgentIdentity)) := none
  /-- The `SET NX` of the replay key raises. -/
  setRaises : Bool := false
  /-- The counter of the address after its `INCR`; `none` when Redis raises. -/
  rate : Option ℤ := some 1
  /-- The `DEL` of the replay key raises. -/
  deleteRaises : Bool := false
  settleRaises : Bool := false

/-- There is a payment, it is valid, and it comes from the address. -/
def X402Services.PaidBy (services : X402Services) (paymentHeader address : String) : Prop :=
  paymentHeader ≠ "" ∧
    ∃ r, services.verify = .ok r ∧ r.valid = true ∧ r.payerAddress = address

/-- What leaves `x402_tool_executor`. -/
inductive X402Answer where
  | raised (exception : HttpException)
  /-- An exception that is no `HTTPException`. -/
  | crashed
  | error (message code : String)
  | result (result : Dict)
  deriving DecidableEq

/-- Where an x402 call stands. -/
inductive X402State where
  | received
  | verified (payer : String)
  /-- The replay key is set. -/
  | claimed (payer : String)
  /-- The reputation gate is passed. -/
  | trusted (ctx : MCPAuthContext)
  /-- All gates are passed, and the handler is next. -/
  | admitted (ctx : MCPAuthContext)
  /-- The handler has returned a result without an error, and the settlement is next. -/
  | executed (result : Dict)
  /-- The `DEL` of the replay key is next; `onFailure` is the answer when it raises. -/
  | releasing (answer onFailure : X402Answer)
  /-- `settled` says whether `server.settle` has returned. -/
  | ended (answer : X402Answer) (settled : Bool)
  deriving DecidableEq

/-- One call of `x402_tool_executor`. -/
structure X402Call (σ : Type) where
  /-- The `PAYMENT-SIGNATURE` header, empty when it is absent. -/
  paymentHeader : String
  tool : X402Tool
  services : X402Services
  handler : MCPAuthContext → σ → σ × HandlerOutcome
  state : X402State := .received

/-! ### The steps -/

/-- `caip2_to_chain_id`. -/
def caip2ToChainId (network : String) : Except PyError ℤ :=
  match network.toList.splitOn ':' with
  | [_, reference] => Py.int (String.ofList reference)
  | _ => .error .valueError

/-- Steps 1 and 2 of the executor: the header and `server.verify`. -/
def verifyPayment (paymentHeader : String) (services : X402Services) : X402State :=
  if paymentHeader = "" then
    .ended (.raised ⟨402, "Payment required. Include a PAYMENT-SIGNATURE header."⟩) false
  else
    match services.verify with
    | .error _ => .ended (.raised ⟨402, "Payment verification failed"⟩) false
    | .ok r =>
      if r.valid then .verified r.payerAddress
      else .ended (.raised ⟨402, "Payment verification failed"⟩) false

/-- The identity of the payer, in `before_execution`. -/
def resolvePayer (tool : X402Tool) (services : X402Services) (payer : String) :
    Except PyError (Option AgentIdentity) :=
  match services.identityResolver with
  | none => .ok none
  | some resolve =>
    if payer = "" then .ok none
    else do
      let chainId ← caip2ToChainId tool.network
      resolve payer chainId

/-- The context that `before_execution` builds. -/
def payerContext (payer : String) (identity : Option AgentIdentity) : MCPAuthContext where
  agentAddress := if payer = "" then none else some payer
  identity := identity
  reputationScore := identity.elim 0 fun i => i.reputationScore

/-- Identity and reputation.  The resolver is called with the key claimed, and nothing catches its
exception. -/
def checkPayer (tool : X402Tool) (services : X402Services) (payer : String) : X402State :=
  match resolvePayer tool services payer with
  | .error _ => .ended .crashed false
  | .ok identity =>
    let ctx := payerContext payer identity
    if distrusts tool.minReputation ctx.reputationScore then
      .releasing (.raised ⟨403, reputationTooLow ctx.reputationScore tool.minReputation⟩) .crashed
    else .trusted ctx

/-- The rate limit, and the check of the executor that there is an address. -/
def checkRate (services : X402Services) (ctx : MCPAuthContext) : X402State :=
  let exceeded : X402Answer := .raised ⟨429, "Rate limit exceeded: max 60 tool calls per minute"⟩
  match ctx.agentAddress with
  | none => .ended (.raised ⟨401, "Could not determine agent address from payment"⟩) false
  | some _ =>
    -- without Redis the limit is open
    if services.rate.any (60 < ·) then .releasing exceeded exceeded else .admitted ctx

/-- Steps 4 to 6: the handler's outcome. -/
def afterHandler : HandlerOutcome → X402State
  | .raises =>
    let failed : X402Answer := .error "Tool execution failed" "INTERNAL_ERROR"
    .releasing failed failed
  | .returns result =>
    if hasError result then .releasing (.result result) (.result result) else .executed result

/-- Steps 6 to 8: the settlement. -/
def settlePayment (services : X402Services) (result : Dict) : X402State :=
  if services.settleRaises then
    let failed : X402Answer :=
      .error "Payment settlement failed -- tool result withheld" "SETTLEMENT_FAILED"
    .releasing failed failed
  else .ended (.result result) true

section Step

variable {σ : Type} (sha256 : String → String)

/-- `x402:payment:{payment_hash}:{tool}`. -/
def X402Call.dedupKey (call : X402Call σ) : String :=
  "x402:payment:" ++ sha256 call.paymentHeader ++ ":" ++ call.tool.name

/-- One step of a call: the replay keys, the world and where the call stands afterwards. -/
def x402Step (keys : List String) (world : σ) (call : X402Call σ) : List String × σ × X402State :=
  match call.state with
  | .received => (keys, world, verifyPayment call.paymentHeader call.services)
  | .verified payer =>
    if call.services.setRaises then (keys, world, .ended .crashed false)
    else if call.dedupKey sha256 ∈ keys then
      (keys, world, .ended (.raised ⟨402, "Payment already used"⟩) false)
    else (call.dedupKey sha256 :: keys, world, .claimed payer)
  | .claimed payer => (keys, world, checkPayer call.tool call.services payer)
  | .trusted ctx => (keys, world, checkRate call.services ctx)
  | .admitted ctx =>
    let (world', outcome) := call.handler ctx world
    (keys, world', afterHandler outcome)
  | .executed result => (keys, world, settlePayment call.services result)
  | .releasing answer onFailure =>
    if call.services.deleteRaises then (keys, world, .ended onFailure false)
    else (keys.filter (· ≠ call.dedupKey sha256), world, .ended answer false)
  | .ended answer settled => (keys, world, .ended answer settled)

end Step

/-- `_handle_x402_tool_call`: the JSON-RPC answer to what leaves the executor. -/
def handleX402ToolCall : X402Answer → RpcResponse
  | .raised ⟨402, detail⟩ => .error rpcPaymentRequired detail
  | .raised ⟨403, detail⟩ =>
    .error rpcReputationTooLow detail
      (if "Reputation too low".toList <:+: detail.toList then some [("detail", .str detail)]
        else none)
  | .raised ⟨429, detail⟩ => .error rpcRateLimited detail
  | .raised ⟨_, detail⟩ => .error rpcAuthRequired detail
  | .crashed => .error rpcInternalError "Payment service unavailable"
  | .error message code =>
    .error (if code = "SETTLEMENT_FAILED" then rpcPaymentRequired else rpcInternalError) message
  | .result result => .success result (hasError result)

/-! ### What a step does -/

/-- The call holds its replay key: it has set it and has not given it back. -/
def X402State.holds : X402State → Bool
  | .claimed _ | .trusted _ | .admitted _ | .executed _ | .releasing .. | .ended _ true => true
  | .received | .verified _ | .ended _ false => false

/-- The call has answered. -/
def X402State.isEnded : X402State → Bool
  | .ended .. => true
  | _ => false

theorem holds_verifyPayment (paymentHeader : String) (services : X402Services) :
    (verifyPayment paymentHeader services).holds = false := by
  unfold verifyPayment
  split_ifs
  · rfl
  · split
    · rfl
    · split_ifs
      · rfl
      · rfl

/-- **What a step of a call can do** to the replay keys: leave them alone, claim the key of the call
when it is free, or give the key of the call back. -/
theorem x402Step_cases {σ : Type} (sha256 : String → String) (keys : List String) (world : σ)
    (call : X402Call σ) :
    ((x402Step sha256 keys world call).1 = keys ∧
      ((x402Step sha256 keys world call).2.2.holds = true → call.state.holds = true)) ∨
    (call.dedupKey sha256 ∉ keys ∧
      (x402Step sha256 keys world call).1 = call.dedupKey sha256 :: keys) ∨
    (call.state.holds = true ∧ (x402Step sha256 keys world call).2.2.holds = false ∧
      (x402Step sha256 keys world call).1 = keys.filter (· ≠ call.dedupKey sha256)) := by
  unfold x402Step
  cases call.state with
  | received =>
    refine .inl ⟨rfl, fun h => ?_⟩
    rw [holds_verifyPayment] at h
    cases h
  | verified payer =>
    by_cases hraises : call.services.setRaises = true
    · simp [hraises, X402State.holds]
    · by_cases hkey : call.dedupKey sha256 ∈ keys
      · simp [hraises, hkey, X402State.holds]
      · exact .inr (.inl ⟨hkey, by simp [hraises, hkey]⟩)
  | claimed payer | trusted ctx | admitted ctx | executed result =>
    exact .inl ⟨rfl, fun _ => rfl⟩
  | releasing answer onFailure =>
    by_cases hraises : call.services.deleteRaises = true
    · simp [hraises, X402State.holds]
    · exact .inr (.inr ⟨rfl, by simp [hraises, X402State.holds], by simp [hraises]⟩)
  | ended answer settled => exact .inl ⟨rfl, id⟩

/-! ### One call alone -/

section Alone

variable {σ : Type} (sha256 : String → String) (call : X402Call σ)

/-- One step of a call that runs alone. -/
def x402Advance (s : List String × σ × X402State) : List String × σ × X402State :=
  x402Step sha256 s.1 s.2.1 { call with state := s.2.2 }

/-- `x402_tool_executor` for a call that runs alone, which takes at most seven steps. -/
def x402ToolExecutor (keys : List String) (world : σ) : List String × σ × X402State :=
  (x402Advance sha256 call)^[7] (keys, world, .received)

/-- What leaves the executor once the handler has run. -/
def servedAnswer (services : X402Services) : HandlerOutcome → X402Answer
  | .raises => .error "Tool execution failed" "INTERNAL_ERROR"
  | .returns result =>
    if hasError result then .result result
    else if services.settleRaises then
      .error "Payment settlement failed -- tool result withheld" "SETTLEMENT_FAILED"
    else .result result

/-- An exception leaves the executor. -/
def X402Answer.isException : X402Answer → Bool
  | .raised _ | .crashed => true
  | .error .. | .result _ => false

/-- The call has ended before its handler, by an exception. -/
def Refused (world : σ) (s : List String × σ × X402State) : Prop :=
  s.2.1 = world ∧ ∃ answer, s.2.2 = .ended answer false ∧ answer.isException = true

theorem advance_ended (n : ℕ) (keys : List String) (world : σ) (answer : X402Answer)
    (settled : Bool) :
    (x402Advance sha256 call)^[n] (keys, world, .ended answer settled) =
      (keys, world, .ended answer settled) := by
  induction n with
  | zero => rfl
  | succ n ih =>
    rw [Function.iterate_succ_apply]
    exact ih

/-- A call that gives its key back ends with one of its two answers. -/
theorem advance_releasing (n : ℕ) (keys : List String) (world : σ) (answer onFailure : X402Answer) :
    ∃ keys' answer', (answer' = answer ∨ answer' = onFailure) ∧
      (x402Advance sha256 call)^[n + 1] (keys, world, .releasing answer onFailure) =
        (keys', world, .ended answer' false) := by
  rw [Function.iterate_succ_apply]
  simp only [x402Advance, x402Step]
  split_ifs
  · exact ⟨keys, onFailure, .inr rfl, advance_ended sha256 call n keys world onFailure false⟩
  · exact ⟨_, answer, .inl rfl, advance_ended sha256 call n _ world answer false⟩

theorem advance_releasing_self (n : ℕ) (keys : List String) (world : σ) (answer : X402Answer) :
    ∃ keys', (x402Advance sha256 call)^[n + 1] (keys, world, .releasing answer answer) =
      (keys', world, .ended answer false) := by
  obtain ⟨keys', answer', hanswer, hrun⟩ :=
    advance_releasing sha256 call n keys world answer answer
  rw [or_self] at hanswer
  exact ⟨keys', hanswer ▸ hrun⟩

/-- Behind the gates the handler runs once, and the settlement decides about its result. -/
theorem advance_admitted (keys : List String) (world : σ) (ctx : MCPAuthContext) :
    ∃ keys' settled, (x402Advance sha256 call)^[3] (keys, world, .admitted ctx) =
      (keys', (call.handler ctx world).1,
        .ended (servedAnswer call.services (call.handler ctx world).2) settled) := by
  rw [Function.iterate_succ_apply]
  simp only [x402Advance, x402Step]
  cases (call.handler ctx world).2 with
  | raises =>
    obtain ⟨keys', hrun⟩ := advance_releasing_self sha256 call 1 keys
      (call.handler ctx world).1 (.error "Tool execution failed" "INTERNAL_ERROR")
    exact ⟨keys', false, hrun⟩
  | returns result =>
    simp only [afterHandler, servedAnswer]
    split_ifs with herror hraises
    · obtain ⟨keys', hrun⟩ := advance_releasing_self sha256 call 1 keys
        (call.handler ctx world).1 (.result result)
      exact ⟨keys', false, hrun⟩
    · rw [Function.iterate_succ_apply]
      simp only [x402Advance, x402Step, settlePayment, hraises, if_true]
      obtain ⟨keys', hrun⟩ := advance_releasing_self sha256 call 0 keys
        (call.handler ctx world).1
        (.error "Payment settlement failed -- tool result withheld" "SETTLEMENT_FAILED")
      exact ⟨keys', false, hrun⟩
    · rw [Function.iterate_succ_apply]
      simp only [x402Advance, x402Step, settlePayment, hraises]
      exact ⟨keys, true, advance_ended sha256 call 1 keys _ _ true⟩

theorem refused_ended {n : ℕ} {keys : List String} {world : σ} {answer : X402Answer}
    (h : answer.isException = true) :
    Refused world ((x402Advance sha256 call)^[n] (keys, world, .ended answer false)) := by
  rw [advance_ended]
  exact ⟨rfl, answer, rfl, h⟩

theorem refused_releasing {n : ℕ} {keys : List String} {world : σ} {answer onFailure : X402Answer}
    (h : answer.isException = true) (h' : onFailure.isException = true) :
    Refused world
      ((x402Advance sha256 call)^[n + 1] (keys, world, .releasing answer onFailure)) := by
  obtain ⟨keys', answer', rfl | rfl, hrun⟩ :=
    advance_releasing sha256 call n keys world answer onFailure
  · rw [hrun]
    exact ⟨rfl, _, rfl, h⟩
  · rw [hrun]
    exact ⟨rfl, _, rfl, h'⟩

/-- **What a call that runs alone does**: it is refused by an exception and leaves the world alone,
or its handler runs once, for an address that has paid. -/
theorem x402ToolExecutor_cases (keys : List String) (world : σ) :
    Refused world (x402ToolExecutor sha256 call keys world) ∨
      ∃ address ctx keys' settled, call.services.PaidBy call.paymentHeader address ∧
        ctx.agentAddress = some address ∧
        x402ToolExecutor sha256 call keys world = (keys', (call.handler ctx world).1,
          .ended (servedAnswer call.services (call.handler ctx world).2) settled) := by
  unfold x402ToolExecutor
  rw [Function.iterate_succ_apply]
  simp only [x402Advance, x402Step, verifyPayment]
  split_ifs with hheader
  · exact .inl (refused_ended sha256 call rfl)
  split
  · exact .inl (refused_ended sha256 call rfl)
  rename_i r hverify
  split_ifs with hvalid
  swap
  · exact .inl (refused_ended sha256 call rfl)
  rw [Function.iterate_succ_apply]
  simp only [x402Advance, x402Step]
  split_ifs
  · exact .inl (refused_ended sha256 call rfl)
  · exact .inl (refused_ended sha256 call rfl)
  rw [Function.iterate_succ_apply]
  simp only [x402Advance, x402Step, checkPayer]
  split
  · exact .inl (refused_ended sha256 call rfl)
  rename_i identity hresolve
  split_ifs
  · exact .inl (refused_releasing sha256 call rfl rfl)
  rw [Function.iterate_succ_apply]
  simp only [x402Advance, x402Step, checkRate]
  split
  · exact .inl (refused_ended sha256 call rfl)
  rename_i address haddress
  split_ifs
  · exact .inl (refused_releasing sha256 call rfl rfl)
  · right
    obtain ⟨keys', settled, hrun⟩ := advance_admitted sha256 call _ world
      (payerContext r.payerAddress identity)
    refine ⟨r.payerAddress, _, keys', settled, ⟨hheader, r, hverify, hvalid, rfl⟩, ?_, hrun⟩
    -- the context has an address, so the payer is not empty
    rw [payerContext] at haddress ⊢
    split_ifs at haddress with hempty
    rw [if_neg hempty]

end Alone

namespace Sample

/-- A reputable agent. -/
def reputable (_ : String) (_ : ℤ) : Except PyError (Option AgentIdentity) :=
  .ok (some ⟨payer, "agent", ⟨50, by norm_num⟩⟩)

end Sample

end TripWire
