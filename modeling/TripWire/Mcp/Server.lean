import TripWire.Auth.Siwe
import TripWire.Ingestion.FilterEngine
import TripWire.Mcp.SessionTier

/-!
# The MCP server

`mcp_endpoint` (`tripwire/mcp/server.py`) answers JSON-RPC requests.  A `tools/call` takes one of
three paths to the handler of its tool: with a session header it is charged to the session, whatever
the tier of the tool; else a tool of the tier `X402` is paid by its own payment, and the others ask
for a signed message (`build_auth_context`).  Behind the authentication stand the reputation gate
and the rate limit.

The three paths share the Redis keys of nonces, sessions and payments with each other and with the
REST routes (`ServerState`), and the handlers work on a world `σ`.  `mcpEndpoint_effect` says what a
request can do to that world: nothing, or run the handler of one tool once, for an address that the
request has proved its right to (`Grants`).
-/

namespace TripWire

open Py

/-! ### Tools -/

/-- `AuthTier`. -/
inductive AuthTier where
  /-- `PUBLIC`. -/
  | pub
  | siwx
  | session
  | x402
  deriving DecidableEq, Repr

/-- `AuthTier.value`. -/
def AuthTier.value : AuthTier → String
  | .pub => "public"
  | .siwx => "siwx"
  | .session => "session"
  | .x402 => "x402"

/-- `ProductMode`. -/
inductive ProductMode where
  | pulse
  | keeper
  | both
  deriving DecidableEq, Repr

/-- A tool in the registry `TOOLS`. -/
structure RegisteredTool extends X402Tool where
  authTier : AuthTier := .siwx
  product : ProductMode := .both

/-- `TOOLS`; `cost` is the price in the smallest unit. -/
def registeredTools : List RegisteredTool :=
  [{ name := "register_endpoint", cost := 3000, minReputation := 10, authTier := .x402 },
    { name := "register_middleware", cost := 3000, minReputation := 10, authTier := .x402,
      product := .keeper },
    { name := "create_trigger", cost := 3000, minReputation := 10, authTier := .x402,
      product := .pulse },
    { name := "list_triggers", cost := 0, product := .pulse },
    { name := "delete_trigger", cost := 0, product := .pulse },
    { name := "list_templates", cost := 0, product := .pulse },
    { name := "activate_template", cost := 1000, minReputation := 10, authTier := .x402,
      product := .pulse },
    { name := "get_trigger_status", cost := 0, product := .pulse },
    { name := "search_events", cost := 0 },
    { name := "fetch_abi", cost := 0, product := .pulse },
    { name := "list_pools", cost := 0, product := .pulse },
    { name := "validate_trigger", cost := 0, product := .pulse }]

/-- `tools/list` shows the tool. -/
def RegisteredTool.visible (mode : ProductMode) (tool : RegisteredTool) : Bool :=
  tool.product = .both ||
    tool.product = .pulse && (mode = .pulse || mode = .both) ||
    tool.product = .keeper && (mode = .keeper || mode = .both)

/-! ### Requests -/

/-- The value can be a key of a dictionary. -/
def Py.Value.isHashable : Value → Bool
  | .list _ | .dict _ => false
  | _ => true

/-- A request to the endpoint. -/
structure McpRequest where
  /-- `request.json()`, which raises on a body that is no JSON. -/
  json : Option Value
  /-- What the verifier of signed messages reads. -/
  signed : AuthRequest
  /-- `X-TripWire-Session`, empty when it is absent. -/
  sessionId : String := ""
  /-- `PAYMENT-SIGNATURE`, empty when it is absent. -/
  paymentHeader : String := ""

/-- What the outside world answers to a request. -/
structure McpServices where
  now : ℚ
  /-- The `DEL` of the nonce raises, and the key stays. -/
  deleteRaises : Bool := false
  identityResolver : Option (String → ℤ → Except PyError (Option AgentIdentity)) := none
  /-- The counter of the address after its `INCR`; `none` when Redis raises. -/
  rate : Option ℤ := some 1
  /-- The script that charges the session, the `HGETALL` and the `HINCRBY` raise. -/
  chargeRaises : Bool := false
  readRaises : Bool := false
  refundRaises : Bool := false
  x402 : X402Services

/-- The settings of the server and the library calls it makes. -/
structure ServerConfig where
  lib : Library
  siwe : SiweEnv
  /-- `hashlib.sha256(header).hexdigest()`. -/
  sha256 : String → String
  /-- `session_enabled`, and there is a session manager. -/
  sessionsEnabled : Bool := true
  productMode : ProductMode := .both

/-- What requests read and write: the keys in Redis, and the world of the handlers. -/
structure ServerState (σ : Type) where
  world : σ
  /-- The keys `siwe:nonce:...`. -/
  nonces : List String := []
  /-- The hashes `session:...`, by session id. -/
  sessions : String → Option SessionHash := fun _ => none
  /-- The keys `x402:payment:...`. -/
  payments : List String := []

/-- What an MCP request is answered with. -/
inductive McpReply where
  | initialized
  | tools (tools : List RegisteredTool)
  | response (response : RpcResponse)

/-- The HTTP answer: a JSON-RPC object with the id of the request, or `500`. -/
inductive McpAnswer where
  | rpc (id : Value) (reply : McpReply)
  | serverError

/-- An error of the protocol itself. -/
def rpcFailure (id : Value) (code : ℤ) (message : String) : McpAnswer :=
  .rpc id (.response (.error code message))

/-! ### Signed messages -/

/-- An exception of `build_auth_context`. -/
inductive AuthFailure where
  | http (exception : HttpException)
  | other
  deriving DecidableEq

/-- `_verify_siwe` and `require_wallet_auth` without interruption: what is left of the nonces, and
the recovered address. -/
def verifySiwe (env : SiweEnv) (now : ℚ) (deleteRaises : Bool) (r : AuthRequest)
    (nonces : List String) : List String × Except AuthFailure String :=
  match checkHeaders env now r with
  | .rejected e => (nonces, .error (.http e))
  | _ =>
    match checkSignature env r with
    | .consuming recovered =>
      if deleteRaises then (nonces, .error .other)
      else
        (nonces.filter (· ≠ siweNonceKey r.headers.nonce),
          match checkConsumed recovered (decide (siweNonceKey r.headers.nonce ∈ nonces)) with
          | .authenticated wallet => .ok wallet
          | .rejected e => .error (.http e)
          | _ => .error .other)
    | .rejected e => (nonces, .error (.http e))
    | _ => (nonces, .error .other)

/-- The identity of a wallet, in `build_auth_context`. -/
def resolveWallet (tool : X402Tool) (services : McpServices) (wallet : String) :
    Except PyError (Option AgentIdentity) :=
  match services.identityResolver with
  | none => .ok none
  | some resolve => do resolve wallet (← caip2ToChainId tool.network)

/-- `build_auth_context`. -/
def buildAuthContext (config : ServerConfig) (services : McpServices) (tool : RegisteredTool)
    (r : AuthRequest) (nonces : List String) : List String × Except AuthFailure MCPAuthContext :=
  match tool.authTier with
  | .pub => (nonces, .ok {})
  | .siwx =>
    match
      verifySiwe config.siwe services.now services.deleteRaises { r with surface := .mcp } nonces
    with
    | (nonces', .error e) => (nonces', .error e)
    | (nonces', .ok wallet) =>
      match resolveWallet tool.toX402Tool services wallet with
      | .error _ => (nonces', .error .other)
      | .ok identity =>
        (nonces', .ok
          { agentAddress := some wallet
            identity := identity
            reputationScore := identity.elim 0 fun i => i.reputationScore })
  | tier => (nonces, .error (.http ⟨500, s!"Unknown auth tier: AuthTier.{tier.value.toUpper}"⟩))

/-- The JSON-RPC error for an exception of the authentication. -/
def authErrorResponse : AuthFailure → RpcResponse
  | .http ⟨402, detail⟩ => .error rpcPaymentRequired detail
  | .http ⟨403, detail⟩ => .error rpcReputationTooLow detail
  | .http ⟨_, detail⟩ => .error rpcAuthRequired detail
  | .other => .error rpcInternalError "Authentication service unavailable"

/-! ### Gates -/

/-- The address of a context, where an empty one counts as none. -/
def MCPAuthContext.address (ctx : MCPAuthContext) : Option String :=
  ctx.agentAddress.filter (· ≠ "")

/-- The reputation gate and the rate limit: the error they answer with. -/
def gateError (tool : ToolDef) (rate : Option ℤ) (ctx : MCPAuthContext) : Option RpcResponse :=
  if distrusts tool.minReputation ctx.reputationScore then
    some (.error rpcReputationTooLow (reputationTooLow ctx.reputationScore tool.minReputation)
      (some [("reputation", .float ctx.reputationScore), ("required", .float tool.minReputation)]))
  -- without Redis the limit is open
  else if ctx.address.isSome && rate.any (60 < ·) then
    some (.error rpcRateLimited "Rate limit exceeded: max 60 tool calls per minute")
  else none

/-- The answer to what a handler does, with the budget of a session. -/
def toolResponse (budget : Option ℤ) : HandlerOutcome → RpcResponse
  | .raises => .error rpcInternalError "Tool execution failed"
  | .returns result => .success result (hasError result) budget

/-! ### The three paths -/

section Paths

variable {σ : Type} (config : ServerConfig) (handler : MCPAuthContext → σ → σ × HandlerOutcome)
  (tool : RegisteredTool) (request : McpRequest) (services : McpServices)

/-- `_handle_siwx_public_tool_call`. -/
def handleSiwxPublicToolCall (state : ServerState σ) : ServerState σ × RpcResponse :=
  match buildAuthContext config services tool request.signed state.nonces with
  | (nonces, .error e) => ({ state with nonces }, authErrorResponse e)
  | (nonces, .ok ctx) =>
    if tool.authTier ≠ .pub ∧ ctx.address = none then
      ({ state with nonces },
        .error rpcAuthRequired "Could not determine agent address from authentication")
    else
      match gateError tool.toToolDef services.rate ctx with
      | some e => ({ state with nonces }, e)
      | none =>
        let (world, outcome) := handler ctx state.world
        ({ state with nonces, world }, toolResponse none outcome)

/-- The call that a payment is for. -/
def x402Call : X402Call σ where
  paymentHeader := request.paymentHeader
  tool := tool.toX402Tool
  services := services.x402
  handler := handler

/-- `_handle_x402_tool_call`. -/
def handleX402Path (state : ServerState σ) : ServerState σ × RpcResponse :=
  match x402ToolExecutor config.sha256 (x402Call handler tool request services) state.payments
    state.world
  with
  | (payments, world, .ended answer _) =>
    ({ state with payments, world }, handleX402ToolCall answer)
  | (payments, world, _) => ({ state with payments, world }, handleX402ToolCall .crashed)

/-- `validate_and_decrement`. -/
def verifySession (key : Option SessionHash) :
    Option SessionHash × Except SessionError SessionData :=
  if services.chargeRaises then (key, .error .redis)
  else
    match chargeSession key tool.cost services.now with
    | (key', .error e) => (key', .error e)
    | (key', .ok _) => (key', if services.readRaises then .error .redis else readBack key')

/-- The refund of a call that failed; a free tool has nothing to refund. -/
def refundCall (key : Option SessionHash) : Option SessionHash :=
  if 0 < tool.cost ∧ services.refundRaises = false then refundSession key tool.cost else key

/-- The context of a session call. -/
def SessionData.context (session : SessionData) : MCPAuthContext where
  agentAddress := some session.walletAddress
  reputationScore := session.reputationScore

/-- The state with another hash under the session id of the request. -/
def ServerState.withSession (state : ServerState σ) (key : Option SessionHash) : ServerState σ :=
  { state with sessions := Function.update state.sessions request.sessionId key }

/-- `_handle_session_tool_call`, where nothing else touches the session in between. -/
def handleSessionPath (state : ServerState σ) : ServerState σ × RpcResponse :=
  match verifySession tool services (state.sessions request.sessionId) with
  | (key, .error e) => (state.withSession request key, sessionErrorResponse e)
  | (key, .ok session) =>
    match gateError tool.toToolDef services.rate session.context with
    | some e => (state.withSession request (refundCall tool services key), e)
    | none =>
      match handler session.context state.world with
      | (world, .raises) =>
        ({ state with world }.withSession request (refundCall tool services key),
          toolResponse none .raises)
      | (world, .returns result) =>
        ({ state with world }.withSession request key,
          toolResponse (some session.budgetRemaining) (.returns result))

/-- The path of a tool call. -/
def handleToolCall (state : ServerState σ) : ServerState σ × RpcResponse :=
  if request.sessionId ≠ "" ∧ config.sessionsEnabled = true then
    handleSessionPath handler tool request services state
  else if tool.authTier = .x402 then handleX402Path config handler tool request services state
  else handleSiwxPublicToolCall config handler tool request services state

end Paths

/-! ### The endpoint -/

section Endpoint

variable {σ : Type} (config : ServerConfig)
  (handlers : RegisteredTool → Value → MCPAuthContext → σ → σ × HandlerOutcome)
  (request : McpRequest) (services : McpServices)

/-- `tools/call`.  `params.get` raises where `params` is no dictionary, and so does the lookup of a
name that cannot be a key. -/
def callTool (id params : Value) (state : ServerState σ) : ServerState σ × McpAnswer :=
  match params with
  | .dict params =>
    let name := Dict.getD params "name" .none
    let arguments := Dict.getD params "arguments" (.dict [])
    if name.truth && !name.isHashable then (state, .serverError)
    else
      match registeredTools.find? fun tool => name.truth && decide (name = .str tool.name) with
      | none => (state, rpcFailure id (-32601) s!"Unknown tool: {config.lib.str name}")
      | some tool =>
        let (state', response) :=
          handleToolCall config (handlers tool arguments) tool request services state
        (state', .rpc id (.response response))
  | _ => (state, .serverError)

/-- `mcp_endpoint`. -/
def mcpEndpoint (state : ServerState σ) : ServerState σ × McpAnswer :=
  match request.json with
  | none => (state, rpcFailure .none (-32700) "Parse error")
  | some (.dict body) =>
    let id := Dict.getD body "id" .none
    let method := Dict.getD body "method" .none
    if Dict.getD body "jsonrpc" .none ≠ .str "2.0" ∨ method.truth = false then
      (state, rpcFailure id (-32600) "Invalid Request")
    else if method = .str "initialize" then (state, .rpc id .initialized)
    else if method = .str "tools/list" then
      (state, .rpc id (.tools (registeredTools.filter (RegisteredTool.visible config.productMode))))
    else if method = .str "tools/call" then
      callTool config handlers request services id (Dict.getD body "params" (.dict [])) state
    else (state, rpcFailure id (-32601) s!"Method not found: {config.lib.str method}")
  | some _ => (state, .serverError)

end Endpoint

/-! ### What a request can do -/

/-- The wallet of a session. -/
def sessionOwner (key : Option SessionHash) : Option String := key.bind SessionHash.walletAddress

/-- The address that the handler of a request may run for: the signer of the request, the payer of
its valid payment, or the wallet of its session. -/
inductive Grants {σ : Type} (config : ServerConfig) (request : McpRequest) (services : McpServices)
    (state : ServerState σ) (address : String) : Prop
  | signature
      (signed : { request.signed with surface := .mcp }.SignedBy config.siwe address)
  | payment (paid : services.x402.PaidBy request.paymentHeader address)
  | session (owned : sessionOwner (state.sessions request.sessionId) = some address)

/-- What a request does: the sessions stay with their wallets, and the world is left alone unless a
handler has run, once, for an address that the request grants. -/
structure RequestEffect {σ : Type} (config : ServerConfig) (request : McpRequest)
    (services : McpServices) (runs : (MCPAuthContext → σ → σ × HandlerOutcome) → Prop)
    (state state' : ServerState σ) : Prop where
  owners : ∀ id, sessionOwner (state'.sessions id) = sessionOwner (state.sessions id)
  world : state'.world = state.world ∨
    ∃ handler ctx, runs handler ∧ state'.world = (handler ctx state.world).1 ∧
      ∀ address, ctx.agentAddress = some address → Grants config request services state address

section Signed

variable {config : ServerConfig}

/-- An address that a signed message is accepted for has signed the request. -/
theorem signedBy_of_verifySiwe {now : ℚ} {deleteRaises : Bool} {r : AuthRequest}
    {nonces nonces' : List String} {wallet : String}
    (h : verifySiwe config.siwe now deleteRaises r nonces = (nonces', .ok wallet)) :
    r.SignedBy config.siwe wallet := by
  unfold verifySiwe at h
  split at h
  · cases h
  split at h
  · rename_i recovered hsignature
    cases deleteRaises with
    | true => simp at h
    | false =>
      simp only [Bool.false_eq_true, if_false, checkConsumed] at h
      split_ifs at h
      · obtain rfl := Except.ok.inj (Prod.mk.inj h).2
        exact signedBy_of_checkSignature hsignature
      · cases (Prod.mk.inj h).2
  · cases h
  · cases h

/-- The context of a signed call carries the signer. -/
theorem signedBy_of_buildAuthContext {services : McpServices} {tool : RegisteredTool}
    {r : AuthRequest} {nonces nonces' : List String} {ctx : MCPAuthContext} {address : String}
    (h : buildAuthContext config services tool r nonces = (nonces', .ok ctx))
    (haddress : ctx.agentAddress = some address) :
    { r with surface := .mcp }.SignedBy config.siwe address := by
  unfold buildAuthContext at h
  split at h
  · obtain rfl := Except.ok.inj (Prod.mk.inj h).2
    cases haddress
  · split at h
    · cases h
    · rename_i wallet hverify
      split at h
      · cases h
      · obtain rfl := Except.ok.inj (Prod.mk.inj h).2
        obtain rfl := Option.some.inj haddress
        exact signedBy_of_verifySiwe hverify
  · cases h

end Signed

section Sessions

variable {tool : RegisteredTool} {services : McpServices} {key : Option SessionHash}

theorem sessionOwner_refundCall :
    sessionOwner (refundCall tool services key) = sessionOwner key := by
  unfold refundCall
  split_ifs
  · cases key <;> rfl
  · rfl

theorem sessionOwner_chargeSession (key : Option SessionHash) (cost : ℕ) (now : ℚ) :
    sessionOwner (chargeSession key cost now).1 = sessionOwner key := by
  rcases chargeSession_cases key cost now with ⟨hash, r, rfl, -, -, -, h⟩ | ⟨e, h⟩
  · rw [h]
    rfl
  · rw [h]

theorem walletAddress_of_read {hash : SessionHash} {session : SessionData}
    (h : hash.read = .ok session) : hash.walletAddress = some session.walletAddress := by
  unfold SessionHash.read at h
  split at h
  · rename_i hwallet _ _ _ _ _
    obtain rfl := Except.ok.inj h
    exact hwallet
  · cases h

/-- A session that is read back names its wallet. -/
theorem sessionOwner_of_readBack {session : SessionData} (h : readBack key = .ok session) :
    sessionOwner key = some session.walletAddress := by
  cases key with
  | none => cases h
  | some hash =>
    cases hread : hash.read with
    | error e => simp [readBack, getSession, hread, Except.map] at h
    | ok read =>
      have hsame : read = session := by simpa [readBack, getSession, hread, Except.map] using h
      exact hsame ▸ walletAddress_of_read hread

/-- The check of a session leaves it with its wallet, which is the one that it answers with. -/
theorem verifySession_spec (tool : RegisteredTool) (services : McpServices)
    (key : Option SessionHash) :
    sessionOwner (verifySession tool services key).1 = sessionOwner key ∧
      ∀ session, (verifySession tool services key).2 = .ok session →
        sessionOwner key = some session.walletAddress := by
  have howner := sessionOwner_chargeSession key tool.cost services.now
  unfold verifySession
  cases services.chargeRaises with
  | true => exact ⟨rfl, fun session h => by cases h⟩
  | false =>
    cases hcharge : chargeSession key tool.cost services.now with
    | mk key' result =>
      rw [hcharge] at howner
      cases result with
      | error e => exact ⟨howner, fun session h => by cases h⟩
      | ok _ =>
        refine ⟨howner, fun session h => ?_⟩
        cases hread : services.readRaises with
        | true => simp [hread] at h
        | false =>
          simp only [hread, Bool.false_eq_true, if_false] at h
          exact howner.symm.trans (sessionOwner_of_readBack h)

end Sessions

section Effects

variable {σ : Type} (config : ServerConfig) (handler : MCPAuthContext → σ → σ × HandlerOutcome)
  (tool : RegisteredTool) (request : McpRequest) (services : McpServices)

/-- A request that leaves the sessions and the world alone. -/
theorem RequestEffect.silent {runs : (MCPAuthContext → σ → σ × HandlerOutcome) → Prop}
    {state state' : ServerState σ} (hsessions : state'.sessions = state.sessions)
    (hworld : state'.world = state.world) :
    RequestEffect config request services runs state state' :=
  ⟨fun id => by rw [hsessions], .inl hworld⟩

/-- A call with a signed message, or with none for a public tool. -/
theorem handleSiwxPublicToolCall_effect (state : ServerState σ) :
    RequestEffect config request services (· = handler) state
      (handleSiwxPublicToolCall config handler tool request services state).1 := by
  unfold handleSiwxPublicToolCall
  cases hauth : buildAuthContext config services tool request.signed state.nonces with
  | mk nonces result =>
    cases result with
    | error e => exact .silent config request services rfl rfl
    | ok ctx =>
      dsimp only
      split_ifs
      · exact .silent config request services rfl rfl
      · cases gateError tool.toToolDef services.rate ctx with
        | some e => exact .silent config request services rfl rfl
        | none =>
          refine ⟨fun id => rfl, .inr ⟨handler, ctx, rfl, rfl, fun address haddress => ?_⟩⟩
          exact .signature (signedBy_of_buildAuthContext hauth haddress)

/-- A call with a payment. -/
theorem handleX402Path_effect (state : ServerState σ) :
    RequestEffect config request services (· = handler) state
      (handleX402Path config handler tool request services state).1 := by
  unfold handleX402Path
  rcases x402ToolExecutor_cases config.sha256 (x402Call handler tool request services)
      state.payments state.world
    with ⟨hworld, answer, hended, -⟩ | ⟨payer, ctx, keys, settled, hpaid, haddress, hrun⟩
  · cases hexec : x402ToolExecutor config.sha256 (x402Call handler tool request services)
      state.payments state.world
    with
    | mk payments rest =>
      obtain ⟨world, reached⟩ := rest
      rw [hexec] at hworld hended
      obtain rfl : reached = .ended answer false := hended
      exact .silent config request services rfl hworld
  · rw [hrun]
    refine ⟨fun id => rfl, .inr ⟨handler, ctx, rfl, rfl, fun address hctx => ?_⟩⟩
    obtain rfl : payer = address := Option.some.inj (haddress.symm.trans hctx)
    exact .payment hpaid

/-- A call that is charged to a session. -/
theorem handleSessionPath_effect (state : ServerState σ) :
    RequestEffect config request services (· = handler) state
      (handleSessionPath handler tool request services state).1 := by
  obtain ⟨howner, hread⟩ := verifySession_spec tool services (state.sessions request.sessionId)
  have howners {world : σ} {key : Option SessionHash}
      (hkey : sessionOwner key = sessionOwner (state.sessions request.sessionId)) (id : String) :
      sessionOwner ((({ state with world } : ServerState σ).withSession request key).sessions id) =
        sessionOwner (state.sessions id) := by
    show sessionOwner (Function.update state.sessions request.sessionId key id) = _
    by_cases hid : id = request.sessionId
    · rw [hid, Function.update_self, hkey]
    · rw [Function.update_of_ne hid]
  unfold handleSessionPath
  cases hverify : verifySession tool services (state.sessions request.sessionId) with
  | mk key result =>
    rw [hverify] at howner hread
    have hrefund : sessionOwner (refundCall tool services key) =
        sessionOwner (state.sessions request.sessionId) := sessionOwner_refundCall.trans howner
    cases result with
    | error e => exact ⟨howners howner, .inl rfl⟩
    | ok session =>
      have hgrants (address : String) (h : session.context.agentAddress = some address) :
          Grants config request services state address := by
        rw [← Option.some.inj h]
        exact .session (hread session rfl)
      dsimp only
      cases gateError tool.toToolDef services.rate session.context with
      | some e => exact ⟨howners hrefund, .inl rfl⟩
      | none =>
        dsimp only
        cases hhandler : handler session.context state.world with
        | mk world outcome =>
          have hworld : world = (handler session.context state.world).1 := by rw [hhandler]
          cases outcome with
          | raises =>
            exact ⟨howners hrefund, .inr ⟨handler, session.context, rfl, hworld, hgrants⟩⟩
          | returns result =>
            exact ⟨howners howner, .inr ⟨handler, session.context, rfl, hworld, hgrants⟩⟩

/-- **What a tool call does**, on any of its three paths. -/
theorem handleToolCall_effect (state : ServerState σ) :
    RequestEffect config request services (· = handler) state
      (handleToolCall config handler tool request services state).1 := by
  unfold handleToolCall
  split_ifs
  · exact handleSessionPath_effect config handler tool request services state
  · exact handleX402Path_effect config handler tool request services state
  · exact handleSiwxPublicToolCall_effect config handler tool request services state

end Effects

section Endpoint

variable {σ : Type} (config : ServerConfig)
  (handlers : RegisteredTool → Value → MCPAuthContext → σ → σ × HandlerOutcome)
  (request : McpRequest) (services : McpServices)

/-- A handler of a registered tool, with arguments. -/
def IsHandler (handler : MCPAuthContext → σ → σ × HandlerOutcome) : Prop :=
  ∃ tool ∈ registeredTools, ∃ arguments, handler = handlers tool arguments

theorem callTool_effect (id params : Value) (state : ServerState σ) :
    RequestEffect config request services (IsHandler handlers) state
      (callTool config handlers request services id params state).1 := by
  have hsilent : RequestEffect config request services (IsHandler handlers) state state :=
    .silent config request services rfl rfl
  unfold callTool
  split
  · dsimp only
    split_ifs
    · exact hsilent
    · split
      · exact hsilent
      · rename_i tool hfind
        have htool : tool ∈ registeredTools := List.mem_of_find?_eq_some hfind
        obtain ⟨howners, hworld⟩ := handleToolCall_effect config
          (handlers tool (Dict.getD _ "arguments" (.dict []))) tool request services state
        refine ⟨howners, hworld.imp_right ?_⟩
        rintro ⟨handler, ctx, rfl, hctx⟩
        exact ⟨_, ctx, ⟨tool, htool, _, rfl⟩, hctx⟩
  · exact hsilent

/-- **What a request does**: it leaves the world alone, or the handler of one tool runs once, for an
address that the request has proved its right to. -/
theorem mcpEndpoint_effect (state : ServerState σ) :
    RequestEffect config request services (IsHandler handlers) state
      (mcpEndpoint config handlers request services state).1 := by
  have hsilent : RequestEffect config request services (IsHandler handlers) state state :=
    .silent config request services rfl rfl
  unfold mcpEndpoint
  split
  · exact hsilent
  · dsimp only
    split_ifs
    · exact hsilent
    · exact hsilent
    · exact hsilent
    · exact callTool_effect config handlers request services _ _ state
    · exact hsilent
  · exact hsilent

end Endpoint

end TripWire
