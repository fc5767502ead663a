import TripWire.Mcp.Server
import TripWire.Mcp.Tenancy

/-!
# Who may change what a wallet owns

The endpoints, triggers and subscriptions change through the MCP server, whose tools run for the
address of a signed message, of a payment or of a session, and through the REST routes, which ask
for a signed message every time.  Sessions are bearer tokens that a REST route hands out.

A run here is a list of requests, in which nonces, sessions and payments may also expire at any
point.  `sessionsOpened_run` says that a session belongs to the wallet that has signed its opening,
and `changes_authorized` that whatever a wallet owns changes by requests only that the wallet has
signed, has paid, or has given one of its sessions to.
-/

namespace TripWire

open Py

/-! ### The tools -/

/-- What the outside world answers to the handlers of the tools. -/
structure ToolServices where
  middleware : MiddlewareEnv
  trigger : TriggerToolEnv
  /-- There is a webhook provider. -/
  provider : Bool := false
  /-- What a tool that only reads answers. -/
  reply : HandlerOutcome := .returns []

/-- What the handlers read from the arguments of a call. -/
structure ToolArguments where
  /-- `none` where `params["url"]` raises. -/
  registerEndpoint : Value → Option CreateEndpointParams
  registerMiddleware : Value → MiddlewareParams
  createTrigger : Value → CreateTriggerParams
  activateTemplate : Value → ActivateTemplateParams
  deleteTrigger : Value → Option String

/-- A handler that works on the endpoints and triggers. -/
def onRegistry (run : RegistryTables → RegistryTables × HandlerOutcome) (tables : TenantTables) :
    TenantTables × HandlerOutcome :=
  (tables.withRegistry (run tables.toRegistryTables).1, (run tables.toRegistryTables).2)

section Tools

variable (keccak256 : List UInt8 → List UInt8) (limits : RegistryLimits)

/-- `register_endpoint` (MCP). -/
def registerEndpointTool (env : MiddlewareEnv) (provider : Bool) (agent : EthAddress)
    (core : CreateEndpointParams) (tables : RegistryTables) : RegistryTables × HandlerOutcome :=
  (RegistryTables.afterCore limits env provider agent core tables,
    match (createEndpointCore limits.endpoints env.core agent provider core tables.endpoints).2 with
    | .raised _ => .raises
    | .error code =>
      .returns [("error", .str (endpointErrorText env.urlError code)), ("code", .str code)]
    | .created endpointId =>
      .returns
        [("endpoint_id", .str endpointId), ("webhook_secret", .str env.webhookSecret),
          ("mode", .str core.mode.value), ("url", .str core.url)])

/-- The handler of a tool for an agent. -/
def toolFor (reads : ToolArguments) (env : ToolServices) (tool : RegisteredTool)
    (arguments : Value) (agent : EthAddress) (tables : TenantTables) :
    TenantTables × HandlerOutcome :=
  match tool.name with
  | "register_endpoint" =>
    match reads.registerEndpoint arguments with
    | none => (tables, .raises)
    | some core =>
      onRegistry (registerEndpointTool limits env.middleware env.provider agent core) tables
  | "register_middleware" =>
    onRegistry (registerMiddleware keccak256 limits env.middleware env.provider agent
      (reads.registerMiddleware arguments)) tables
  | "create_trigger" =>
    onRegistry (createTriggerTool keccak256 limits.triggers env.trigger agent
      (reads.createTrigger arguments)) tables
  | "activate_template" =>
    onRegistry (activateTemplate keccak256 limits.triggers env.trigger agent
      (reads.activateTemplate arguments)) tables
  | "delete_trigger" =>
    onRegistry (deleteTrigger env.trigger agent (reads.deleteTrigger arguments)) tables
  -- the other tools read
  | _ => (tables, env.reply)

/-- The handler of a tool.  The libraries for signatures and payments give addresses, and none is
missing, since no tool is public. -/
def toolHandler (reads : ToolArguments) (env : ToolServices) (tool : RegisteredTool)
    (arguments : Value) (ctx : MCPAuthContext) (tables : TenantTables) :
    TenantTables × HandlerOutcome :=
  match ctx.agentAddress.bind EthAddress.validate with
  | none => (tables, .raises)
  | some agent => toolFor keccak256 limits reads env tool arguments agent tables

end Tools

/-! ### The REST routes -/

/-- A route behind `require_wallet_auth`. -/
inductive RestCall where
  | registerEndpoint (env : RegistrationEnv) (paid : Bool) (body : RegisterEndpointRequest)
  | updateEndpoint (raises : Bool) (id : EndpointId) (body : UpdateEndpointRequest)
  | deactivateEndpoint (raises : Bool) (id : EndpointId)
  | createSubscription (env : SubscriptionEnv) (endpointId : EndpointId)
      (filters : SubscriptionFilter)
  | removeSubscription (raises : Bool) (id : String)
  /-- `POST /auth/session`; the wallet of the request is the authenticated one. -/
  | openSession (raises : Bool) (sessionId : String) (request : SessionRequest) (now : ℚ)
  /-- `DELETE /auth/session/{session_id}`. -/
  | closeSession (raises : Bool) (sessionId : String)
  /-- The routes that only read. -/
  | read

/-- The write of a route to the tables. -/
def RestCall.op (agent : EthAddress) : RestCall → Option TenantOp
  | .registerEndpoint env paid body => some (.endpoint (.register env agent paid body))
  | .updateEndpoint raises id body => some (.endpoint (.update raises agent id body))
  | .deactivateEndpoint raises id => some (.endpoint (.deactivate raises agent id))
  | .createSubscription env endpointId filters => some (.subscribe env agent endpointId filters)
  | .removeSubscription raises id => some (.unsubscribe raises agent id)
  | .openSession .. | .closeSession .. | .read => none

/-- The session is the wallet's, as `close_session` sees it. -/
def ownsSession (wallet : String) (key : Option SessionHash) : Bool :=
  match getSession key with
  | .ok (some session) => decide (lower session.walletAddress = lower wallet)
  | _ => false

section Rest

variable (keccak256 : List UInt8 → List UInt8) (limits : RegistryLimits)
  (settings : SessionSettings) (config : ServerConfig)

/-- The sessions after a route. -/
def RestCall.sessions (wallet : String) (sessions : String → Option SessionHash) :
    RestCall → String → Option SessionHash
  | .openSession raises sessionId request now =>
    if raises || !config.sessionsEnabled then sessions
    else
      Function.update sessions sessionId
        (some (createSession settings { request with walletAddress := wallet } now))
  | .closeSession raises sessionId =>
    if !raises && config.sessionsEnabled && ownsSession wallet (sessions sessionId) then
      Function.update sessions sessionId none
    else sessions
  | _ => sessions

/-- A route for an authenticated wallet. -/
def RestCall.serve (call : RestCall) (wallet : String) (state : ServerState TenantTables) :
    ServerState TenantTables :=
  { state with
    world :=
      match (EthAddress.validate wallet).bind call.op with
      | some op => tenantStep keccak256 limits state.world op
      | none => state.world
    sessions := call.sessions settings config wallet state.sessions }

/-- A REST request. -/
def restRequest (now : ℚ) (deleteRaises : Bool) (request : AuthRequest) (call : RestCall)
    (state : ServerState TenantTables) : ServerState TenantTables :=
  match verifySiwe config.siwe now deleteRaises { request with surface := .rest } state.nonces with
  | (nonces, .error _) => { state with nonces }
  | (nonces, .ok wallet) => call.serve keccak256 limits settings config wallet { state with nonces }

end Rest

/-! ### Runs -/

/-- What happens to the server. -/
inductive ServerAction where
  | mcp (request : McpRequest) (services : McpServices) (env : ToolServices)
  | rest (request : AuthRequest) (now : ℚ) (deleteRaises : Bool) (call : RestCall)
  /-- `GET /auth/nonce`. -/
  | getNonce (nonce : String)
  | expireNonce (key : String)
  | expireSession (sessionId : String)
  | expirePayment (key : String)

section Step

variable (keccak256 : List UInt8 → List UInt8) (limits : RegistryLimits)
  (settings : SessionSettings) (config : ServerConfig) (reads : ToolArguments)

/-- The server after a request. -/
def serverStep (state : ServerState TenantTables) : ServerAction → ServerState TenantTables
  | .mcp request services env =>
    (mcpEndpoint config (toolHandler keccak256 limits reads env) request services state).1
  | .rest request now deleteRaises call =>
    restRequest keccak256 limits settings config now deleteRaises request call state
  | .getNonce nonce => { state with nonces := siweNonceKey nonce :: state.nonces }
  | .expireNonce key => { state with nonces := state.nonces.filter (· ≠ key) }
  | .expireSession sessionId =>
    { state with sessions := Function.update state.sessions sessionId none }
  | .expirePayment key => { state with payments := state.payments.filter (· ≠ key) }

end Step

/-- The request carries a message that recovers to the address. -/
def ServerAction.SignedBy (config : ServerConfig) (address : String) : ServerAction → Prop
  | .mcp request _ _ => { request.signed with surface := .mcp }.SignedBy config.siwe address
  | .rest request _ _ _ => { request with surface := .rest }.SignedBy config.siwe address
  | _ => False

/-- The request carries a valid payment of the address. -/
def ServerAction.PaidBy (address : String) : ServerAction → Prop
  | .mcp request services _ => services.x402.PaidBy request.paymentHeader address
  | _ => False

/-- The session that the request opens. -/
def ServerAction.opens : ServerAction → Option String
  | .rest _ _ _ (.openSession _ sessionId _ _) => some sessionId
  | _ => none

/-- The session that the request names in its header. -/
def ServerAction.session : ServerAction → Option String
  | .mcp request _ _ => some request.sessionId
  | _ => none

/-- The address has a part in the request: it has signed or paid it, or it has signed an earlier
request that opened the session that the request names. -/
inductive Authorized (config : ServerConfig) (before : List ServerAction) (address : String)
    (a : ServerAction) : Prop
  | signature (signed : a.SignedBy config address)
  | payment (paid : a.PaidBy address)
  | session (opened : ∃ b ∈ before, b.SignedBy config address ∧ b.opens.isSome = true ∧
      b.opens = a.session)

/-! ### What a step does -/

section Step

variable (keccak256 : List UInt8 → List UInt8) (limits : RegistryLimits)
  (settings : SessionSettings) (config : ServerConfig) (reads : ToolArguments)

/-- A handler that works on the registry is a call that writes to the tables. -/
theorem onRegistry_eq {run : RegistryTables → RegistryTables × HandlerOutcome} {op : TenantOp}
    {tables : TenantTables}
    (h : tenantStep keccak256 limits tables op =
      tables.withRegistry (registryStep keccak256 limits tables.toRegistryTables op))
    (hrun : (run tables.toRegistryTables).1 =
      registryStep keccak256 limits tables.toRegistryTables op) :
    (onRegistry run tables).1 = tenantStep keccak256 limits tables op := by
  rw [h, onRegistry, hrun]

/-- What the handler of a tool writes, it writes for the agent. -/
theorem toolFor_cases (env : ToolServices) (tool : RegisteredTool) (arguments : Value)
    (agent : EthAddress) (tables : TenantTables) :
    (toolFor keccak256 limits reads env tool arguments agent tables).1 = tables ∨
      ∃ op : TenantOp, op.wallet = agent ∧
        (toolFor keccak256 limits reads env tool arguments agent tables).1 =
          tenantStep keccak256 limits tables op := by
  unfold toolFor
  split
  · split
    · exact .inl rfl
    · rename_i core _
      exact .inr ⟨.endpoint (.create env.middleware.core agent env.provider core), rfl,
        onRegistry_eq keccak256 limits rfl rfl⟩
  · exact .inr ⟨.registerMiddleware env.middleware env.provider agent
      (reads.registerMiddleware arguments), rfl, onRegistry_eq keccak256 limits rfl rfl⟩
  · exact .inr ⟨.createTrigger env.trigger agent (reads.createTrigger arguments), rfl,
      onRegistry_eq keccak256 limits rfl rfl⟩
  · exact .inr ⟨.activateTemplate env.trigger agent (reads.activateTemplate arguments), rfl,
      onRegistry_eq keccak256 limits rfl rfl⟩
  · exact .inr ⟨.deleteTrigger env.trigger agent (reads.deleteTrigger arguments), rfl,
      onRegistry_eq keccak256 limits rfl rfl⟩
  · exact .inl rfl

/-- The write of a route is for the authenticated wallet. -/
theorem wallet_of_restOp {agent : EthAddress} {call : RestCall} {op : TenantOp}
    (h : call.op agent = some op) : op.wallet = agent := by
  cases call with
  | openSession raises sessionId request now => cases h
  | closeSession raises sessionId => cases h
  | read => cases h
  | registerEndpoint env paid body =>
    obtain rfl := Option.some.inj h
    rfl
  | updateEndpoint raises id body =>
    obtain rfl := Option.some.inj h
    rfl
  | deactivateEndpoint raises id =>
    obtain rfl := Option.some.inj h
    rfl
  | createSubscription env endpointId filters =>
    obtain rfl := Option.some.inj h
    rfl
  | removeSubscription raises id =>
    obtain rfl := Option.some.inj h
    rfl

/-- A text that passes validation is the address. -/
theorem isAddressOf_of_validate {text : String} {agent wallet : EthAddress}
    (h : EthAddress.validate text = some agent) (hwallet : lower agent.val = lower wallet.val) :
    isAddressOf wallet text = true := by
  unfold EthAddress.validate at h
  split_ifs at h
  obtain rfl := Option.some.inj h
  exact decide_eq_true hwallet

/-- Who a request acts for, in the state that it finds. -/
def ServerAction.ActsFor (config : ServerConfig) (state : ServerState TenantTables)
    (address : String) (a : ServerAction) : Prop :=
  a.SignedBy config address ∨ a.PaidBy address ∨
    ∃ id, a.session = some id ∧ sessionOwner (state.sessions id) = some address

/-- What the handler of a tool writes, it writes for the agent of its context. -/
theorem toolHandler_cases (env : ToolServices) (tool : RegisteredTool) (arguments : Value)
    (ctx : MCPAuthContext) (tables : TenantTables) :
    (toolHandler keccak256 limits reads env tool arguments ctx tables).1 = tables ∨
      ∃ (op : TenantOp) (address : String), ctx.agentAddress = some address ∧
        EthAddress.validate address = some op.wallet ∧
        (toolHandler keccak256 limits reads env tool arguments ctx tables).1 =
          tenantStep keccak256 limits tables op := by
  unfold toolHandler
  cases hagent : ctx.agentAddress.bind EthAddress.validate with
  | none => exact .inl rfl
  | some agent =>
    obtain ⟨address, haddress, hvalidate⟩ := Option.bind_eq_some_iff.mp hagent
    rcases toolFor_cases keccak256 limits reads env tool arguments agent tables with
      hsame | ⟨op, hop, hwrite⟩
    · exact .inl hsame
    · exact .inr ⟨op, address, haddress, hop.symm ▸ hvalidate, hwrite⟩

/-- What a REST request writes, it writes for its signer. -/
theorem restRequest_cases (now : ℚ) (deleteRaises : Bool) (request : AuthRequest) (call : RestCall)
    (state : ServerState TenantTables) :
    (restRequest keccak256 limits settings config now deleteRaises request call state).world =
        state.world ∨
      ∃ (op : TenantOp) (address : String), EthAddress.validate address = some op.wallet ∧
        { request with surface := .rest }.SignedBy config.siwe address ∧
        (restRequest keccak256 limits settings config now deleteRaises request call state).world =
          tenantStep keccak256 limits state.world op := by
  unfold restRequest
  cases hverify : verifySiwe config.siwe now deleteRaises { request with surface := .rest }
    state.nonces
  with
  | mk nonces result =>
    cases result with
    | error e => exact .inl rfl
    | ok wallet =>
      dsimp only [RestCall.serve]
      cases hop : (EthAddress.validate wallet).bind call.op with
      | none => exact .inl rfl
      | some op =>
        obtain ⟨agent, hagent, hcall⟩ := Option.bind_eq_some_iff.mp hop
        refine .inr ⟨op, wallet, ?_, signedBy_of_verifySiwe hverify, rfl⟩
        rw [wallet_of_restOp hcall]
        exact hagent

/-- **What a step writes**, it writes for an agent whose address the request acts for. -/
theorem serverStep_writes (state : ServerState TenantTables) (a : ServerAction) :
    (serverStep keccak256 limits settings config reads state a).world = state.world ∨
      ∃ (op : TenantOp) (address : String), EthAddress.validate address = some op.wallet ∧
        (serverStep keccak256 limits settings config reads state a).world =
          tenantStep keccak256 limits state.world op ∧ a.ActsFor config state address := by
  cases a with
  | mcp request services env =>
    obtain ⟨-, hworld⟩ := mcpEndpoint_effect config (toolHandler keccak256 limits reads env)
      request services state
    rcases hworld with hsame | ⟨handler, ctx, ⟨tool, -, arguments, rfl⟩, hworld, hgrants⟩
    · exact .inl hsame
    · rcases toolHandler_cases keccak256 limits reads env tool arguments ctx state.world with
        hsame | ⟨op, address, haddress, hvalidate, hwrite⟩
      · exact .inl (hworld.trans hsame)
      · refine .inr ⟨op, address, hvalidate, hworld.trans hwrite, ?_⟩
        cases hgrants address haddress with
        | signature signed => exact .inl signed
        | payment paid => exact .inr (.inl paid)
        | session owned => exact .inr (.inr ⟨request.sessionId, rfl, owned⟩)
  | rest request now deleteRaises call =>
    rcases restRequest_cases keccak256 limits settings config now deleteRaises request call state
      with hsame | ⟨op, address, hvalidate, hsigned, hwrite⟩
    · exact .inl hsame
    · exact .inr ⟨op, address, hvalidate, hwrite, .inl hsigned⟩
  | getNonce nonce => exact .inl rfl
  | expireNonce key => exact .inl rfl
  | expireSession sessionId => exact .inl rfl
  | expirePayment key => exact .inl rfl

/-! ### Sessions -/

/-- The wallet of a session has signed a request that opened it. -/
def SessionsOpened (config : ServerConfig) (before : List ServerAction)
    (sessions : String → Option SessionHash) : Prop :=
  ∀ id address, sessionOwner (sessions id) = some address →
    ∃ b ∈ before, b.SignedBy config address ∧ b.opens = some id

theorem SessionsOpened.mono {before : List ServerAction}
    {sessions sessions' : String → Option SessionHash} (h : SessionsOpened config before sessions)
    (hkept : ∀ id address, sessionOwner (sessions' id) = some address →
      sessionOwner (sessions id) = some address) (a : ServerAction) :
    SessionsOpened config (before ++ [a]) sessions' := by
  intro id address howner
  obtain ⟨b, hb, hsigned⟩ := h id address (hkept id address howner)
  exact ⟨b, List.mem_append_left [a] hb, hsigned⟩

/-- A key that is deleted has no wallet. -/
theorem sessionOwner_update_none {sessions : String → Option SessionHash} {key id address : String}
    (h : sessionOwner (Function.update sessions key none id) = some address) :
    sessionOwner (sessions id) = some address := by
  by_cases hid : id = key
  · rw [hid, Function.update_self] at h
    cases h
  · rwa [Function.update_of_ne hid] at h

/-- A session after a route for a wallet is from before, or the route has opened it. -/
theorem sessionOwner_of_restCall {call : RestCall} {wallet id address : String}
    {sessions : String → Option SessionHash}
    (h : sessionOwner (call.sessions settings config wallet sessions id) = some address) :
    sessionOwner (sessions id) = some address ∨
      address = wallet ∧ ∃ raises request now, call = .openSession raises id request now := by
  cases call with
  | openSession raises sessionId request now =>
    simp only [RestCall.sessions] at h
    split_ifs at h
    · exact .inl h
    · by_cases hid : id = sessionId
      · rw [hid, Function.update_self] at h
        exact .inr ⟨(Option.some.inj h).symm, raises, request, now, hid ▸ rfl⟩
      · rw [Function.update_of_ne hid] at h
        exact .inl h
  | closeSession raises sessionId =>
    simp only [RestCall.sessions] at h
    split_ifs at h
    · exact .inl (sessionOwner_update_none h)
    · exact .inl h
  | registerEndpoint env paid body => exact .inl h
  | updateEndpoint raises endpointId body => exact .inl h
  | deactivateEndpoint raises endpointId => exact .inl h
  | createSubscription env endpointId filters => exact .inl h
  | removeSubscription raises subscriptionId => exact .inl h
  | read => exact .inl h

/-- **A step keeps the sessions with those who opened them.** -/
theorem SessionsOpened.step {before : List ServerAction} {state : ServerState TenantTables}
    (h : SessionsOpened config before state.sessions) (a : ServerAction) :
    SessionsOpened config (before ++ [a])
      (serverStep keccak256 limits settings config reads state a).sessions := by
  cases a with
  | mcp request services env =>
    obtain ⟨howners, -⟩ := mcpEndpoint_effect config (toolHandler keccak256 limits reads env)
      request services state
    exact h.mono config (fun id address howner => (howners id) ▸ howner) _
  | rest request now deleteRaises call =>
    simp only [serverStep, restRequest]
    cases hverify : verifySiwe config.siwe now deleteRaises { request with surface := .rest }
      state.nonces
    with
    | mk nonces result =>
      cases result with
      | error e => exact h.mono config (fun id address howner => howner) _
      | ok wallet =>
        intro id address howner
        rcases sessionOwner_of_restCall settings config howner with hold | ⟨rfl, _, _, _, rfl⟩
        · exact h.mono config (fun _ _ hid => hid) _ id address hold
        · exact ⟨_, List.mem_append_right before List.mem_cons_self,
            signedBy_of_verifySiwe hverify, rfl⟩
  | getNonce nonce => exact h.mono config (fun id address howner => howner) _
  | expireNonce key => exact h.mono config (fun id address howner => howner) _
  | expireSession sessionId =>
    exact h.mono config (fun id address howner => sessionOwner_update_none howner) _
  | expirePayment key => exact h.mono config (fun id address howner => howner) _

theorem sessionsOpened_run {state : ServerState TenantTables}
    (hstate : ∀ id, state.sessions id = none) (actions : List ServerAction) :
    SessionsOpened config actions
      (Machine.run (serverStep keccak256 limits settings config reads) state actions).sessions := by
  have hinit : SessionsOpened config [] state.sessions := by
    intro id address howner
    rw [hstate id] at howner
    cases howner
  exact Machine.run_history
    (I := fun before (s : ServerState TenantTables) => SessionsOpened config before s.sessions)
    (fun before s a h => h.step keccak256 limits settings config reads a) actions hinit

end Step

/-! ### Changes -/

/-- **Whatever a wallet owns changes with its authority only.** In a run that starts without
sessions, a request that changes the endpoints, the triggers or the subscriptions of a wallet is
signed by the wallet, or paid by it, or it names a session that an earlier request, signed by the
wallet, has opened. -/
theorem changes_authorized (keccak256 : List UInt8 → List UInt8) (limits : RegistryLimits)
    (settings : SessionSettings) (config : ServerConfig) (reads : ToolArguments)
    (wallet : EthAddress) (state : ServerState TenantTables)
    (hstate : ∀ id, state.sessions id = none) (before : List ServerAction) (a : ServerAction)
    (hchange :
      (Machine.run (serverStep keccak256 limits settings config reads) state
        (before ++ [a])).world.view wallet ≠
      (Machine.run (serverStep keccak256 limits settings config reads) state
        before).world.view wallet) :
    ∃ address, isAddressOf wallet address = true ∧ Authorized config before address a := by
  have hopened := sessionsOpened_run keccak256 limits settings config reads hstate before
  have hlast : Machine.run (serverStep keccak256 limits settings config reads) state
      (before ++ [a]) = serverStep keccak256 limits settings config reads
        (Machine.run (serverStep keccak256 limits settings config reads) state before) a := by
    rw [Machine.run_append]
    rfl
  rw [hlast] at hchange
  rcases serverStep_writes keccak256 limits settings config reads _ a with
    hsame | ⟨op, address, hvalidate, hwrite, hacts⟩
  · rw [hsame] at hchange
    exact absurd rfl hchange
  cases hby : op.isBy wallet with
  | false =>
    rw [hwrite] at hchange
    exact absurd (tenantStep_others keccak256 limits hby).view.symm hchange
  | true =>
    refine ⟨address, isAddressOf_of_validate hvalidate (of_decide_eq_true hby), ?_⟩
    rcases hacts with hsigned | hpaid | ⟨id, hid, howner⟩
    · exact .signature hsigned
    · exact .payment hpaid
    · obtain ⟨b, hb, hsigned, hopens⟩ := hopened id address howner
      exact .session ⟨b, hb, hsigned, by rw [hopens]; rfl, hopens.trans hid.symm⟩

namespace Sample

/-- A server whose signatures recover to their own text. -/
def serverConfig : ServerConfig where
  lib := {}
  siwe := siweEnv
  sha256 := id

/-- The arguments of every call are those of one endpoint. -/
def toolArguments : ToolArguments where
  registerEndpoint := fun _ => some { url := "https://example.com/hook", mode := .notify }
  registerMiddleware := fun _ => middlewareParams
  createTrigger := fun _ => { eventSignature := none, endpointId := none }
  activateTemplate := fun _ => { slug := none, endpointId := none }
  deleteTrigger := fun _ => none

/-- Nothing is stored. -/
def noState : ServerState TenantTables where
  world := noTenantTables

/-- The payer gets a nonce and opens a session. -/
def opening : List ServerAction :=
  [.getNonce "nonce",
    .rest (signedRequest .rest "nonce") 900 false
      (.openSession false "session" { walletAddress := "", reputationScore := 50 } 900)]

/-- A call of `register_endpoint` that names the session. -/
def sessionCall : ServerAction :=
  .mcp
    { json := some (.dict
        [("jsonrpc", .str "2.0"), ("id", .int 1), ("method", .str "tools/call"),
          ("params", .dict [("name", .str "register_endpoint")])])
      signed := signedRequest .mcp ""
      sessionId := "session" }
    { now := 900, x402 := payment true }
    { middleware := middlewareEnv, trigger := { triggerId := "" } }

end Sample

/-- The payer's session registers an endpoint of the payer. -/
theorem changes_authorized_session :
    ∃ address, isAddressOf Sample.payer address = true ∧
      Authorized Sample.serverConfig Sample.opening address Sample.sessionCall := by
  apply changes_authorized id {} {} Sample.serverConfig Sample.toolArguments Sample.payer
    Sample.noState (fun _ => rfl) Sample.opening Sample.sessionCall
  decide +kernel

end TripWire
