import TripWire.Mcp.Registering

/-!
# The tools that create triggers, a statement at a time

`check_trigger_quota` (`tripwire/db/repositories/quotas.py`) counts in one statement, and the row is
inserted in a later one.  `ToolProcess` says at which statement a process is, and `advanceProcess`
executes it.  A process whose statements nothing comes in between does what its tool does:
`create_trigger` (`advance_create`), `activate_template` (`advance_activate`) and the loops of
`register_middleware` (`advance_turns`).
-/

namespace TripWire

open Py

/-! ### Turns -/

/-- What inserts at most one trigger, behind a count of its own. -/
inductive TriggerTurn where
  | create (env : TriggerToolEnv) (agent : EthAddress) (params : CreateTriggerParams)
  | activate (env : TriggerToolEnv) (agent : EthAddress) (params : ActivateTemplateParams)
  /-- A turn of the loops of `register_middleware`. -/
  | middleware (env : MiddlewareEnv) (agent : EthAddress) (chains : Value)
      (triggerEnv : TriggerEnv) (source : TriggerSource)

namespace TriggerTurn

/-- The wallet whose triggers are counted. -/
def agent : TriggerTurn → EthAddress
  | .create _ agent _ | .activate _ agent _ | .middleware _ agent _ _ _ => agent

/-- What the outside world answers. -/
def env : TriggerTurn → TriggerEnv
  | .create env _ _ | .activate env _ _ => env.toTriggerEnv
  | .middleware _ _ _ triggerEnv _ => triggerEnv

/-- What is read between the count and the insert: the row, or none for a template that
`register_middleware` does not find. -/
def read (keccak256 : List UInt8 → List UInt8) (tables : RegistryTables) :
    TriggerTurn → Except LoopError (Option RegisteredTrigger)
  | .create env agent params =>
    match params.endpointId with
    | none => .error .other
    | some endpointId =>
      match fetchAgentEndpoint env agent endpointId tables.endpoints, params.eventSignature with
      | .ok endpoint, some eventSignature =>
        .ok (some (params.row keccak256 env agent endpointId eventSignature endpoint))
      | _, _ => .error .other
  | .activate env agent params =>
    match params.slug, params.endpointId with
    | some slug, some endpointId =>
      if env.templateRaises then .error .other
      else
        match env.templates.find? fun t => t.slug = slug,
          fetchAgentEndpoint env agent endpointId tables.endpoints with
        | some template, .ok _ => .ok (some (params.row keccak256 env agent endpointId template))
        | _, _ => .error .other
    | _, _ => .error .other
  | .middleware env agent chains triggerEnv source =>
    source.row keccak256 env agent chains triggerEnv

/-- The row is the agent's. -/
theorem ownedBy_of_read {keccak256 : List UInt8 → List UInt8} {tables : RegistryTables}
    {turn : TriggerTurn} {row : RegisteredTrigger}
    (h : turn.read keccak256 tables = .ok (some row)) :
    row.OwnedBy turn.agent := by
  cases turn with
  | create env agent params =>
    simp only [read] at h
    split at h
    · cases h
    · split at h
      · obtain rfl := Option.some.inj (Except.ok.inj h)
        rfl
      · cases h
  | activate env agent params =>
    simp only [read] at h
    split at h
    · split at h
      · cases h
      · split at h
        · obtain rfl := Option.some.inj (Except.ok.inj h)
          rfl
        · cases h
    · cases h
  | middleware env agent chains triggerEnv source =>
    cases source with
    | template slug =>
      simp only [read, TriggerSource.row] at h
      split at h
      · cases h
      · split at h
        · cases h
        · obtain rfl := Option.some.inj (Except.ok.inj h)
          rfl
    | custom ct =>
      simp only [read, TriggerSource.row] at h
      split at h
      · cases h
      · obtain rfl := Option.some.inj (Except.ok.inj h)
        rfl

end TriggerTurn

/-! ### Processes -/

/-- Where the process is.  `rest` are the turns behind this one, and `orphan` the endpoint that
`register_middleware` deletes when the quota is reached. -/
inductive ToolProcess where
  | idle
  | counting (turn : TriggerTurn) (rest : List TriggerTurn) (orphan : Option EndpointId)
  | reading (turn : TriggerTurn) (rest : List TriggerTurn) (orphan : Option EndpointId)
  | inserting (turn : TriggerTurn) (row : RegisteredTrigger) (rest : List TriggerTurn)
      (orphan : Option EndpointId)
  | cleaning (orphan : EndpointId)

/-- The next turn. -/
def ToolProcess.next (orphan : Option EndpointId) : List TriggerTurn → ToolProcess
  | [] => .idle
  | turn :: rest => .counting turn rest orphan

section Advance

variable (keccak256 : List UInt8 → List UInt8) (limit : ℕ)

/-- The process executes its next statement. -/
def advanceProcess (tables : RegistryTables) : ToolProcess → RegistryTables × ToolProcess
  | .idle => (tables, .idle)
  | .counting turn rest orphan =>
    if turn.env.countRaises then (tables, .idle)
    else
      match checkTriggerQuota limit tables turn.agent with
      | .ok _ => (tables, .reading turn rest orphan)
      | .error _ => (tables, orphan.elim .idle .cleaning)
  | .reading turn rest orphan =>
    match turn.read keccak256 tables with
    | .error _ => (tables, .idle)
    | .ok none => (tables, .next orphan rest)
    | .ok (some row) => (tables, .inserting turn row rest orphan)
  | .inserting turn row rest orphan =>
    if turn.env.insertRaises then (tables, .idle)
    else
      match tables.insertTrigger? row with
      | none => (tables, .idle)
      | some tables' => (tables', if turn.env.resultRaises then .idle else .next orphan rest)
  | .cleaning id => (tables.deleteEndpoint id, .idle)

/-- A process that nothing interleaves with, after `n` statements. -/
def advanceAlone (n : ℕ) (tables : RegistryTables) (state : ToolProcess) :
    RegistryTables × ToolProcess :=
  (fun s => advanceProcess keccak256 limit s.1 s.2)^[n] (tables, state)

/-! ### A process alone -/

@[simp]
theorem advanceAlone_zero (tables : RegistryTables) (state : ToolProcess) :
    advanceAlone keccak256 limit 0 tables state = (tables, state) := rfl

theorem advanceAlone_succ (n : ℕ) (tables : RegistryTables) (state : ToolProcess) :
    advanceAlone keccak256 limit (n + 1) tables state =
      advanceAlone keccak256 limit n (advanceProcess keccak256 limit tables state).1
        (advanceProcess keccak256 limit tables state).2 := rfl

@[simp]
theorem advanceAlone_idle (n : ℕ) (tables : RegistryTables) :
    advanceAlone keccak256 limit n tables .idle = (tables, .idle) := by
  induction n with
  | zero => rfl
  | succ n ih => exact ih

/-- The insert, and what comes after it. -/
theorem advance_inserting (env : TriggerToolEnv) (turn : TriggerTurn)
    (henv : turn.env = env.toTriggerEnv)
    (row : RegisteredTrigger) (result : Dict) (tables : RegistryTables) :
    advanceProcess keccak256 limit tables (.inserting turn row [] none) =
      ((insertTrigger env row result tables).1, .idle) := by
  simp only [advanceProcess, insertTrigger, henv]
  cases env.insertRaises with
  | true => rfl
  | false =>
    cases tables.insertTrigger? row with
    | none => rfl
    | some tables' => cases env.resultRaises <;> rfl

/-- The count of a turn that is alone in its call. -/
theorem advance_counting (env : TriggerToolEnv) (turn : TriggerTurn)
    (henv : turn.env = env.toTriggerEnv)
    (tables : RegistryTables) :
    advanceProcess keccak256 limit tables (.counting turn [] none) =
      (tables, if passesTriggerQuota limit env turn.agent tables then .reading turn [] none
        else .idle) := by
  simp only [advanceProcess, passesTriggerQuota, henv]
  by_cases hraises : env.countRaises = true
  · simp [hraises]
  · simp only [hraises]
    cases checkTriggerQuota limit tables turn.agent <;> rfl

/-- `create_trigger` in three statements. -/
theorem advance_create (env : TriggerToolEnv) (agent : EthAddress) (params : CreateTriggerParams)
    (tables : RegistryTables) :
    advanceAlone keccak256 limit 3 tables (.counting (.create env agent params) [] none) =
      ((createTriggerTool keccak256 limit env agent params tables).1, .idle) := by
  unfold createTriggerTool
  rw [advanceAlone_succ, advance_counting keccak256 limit env _ rfl]
  show advanceAlone keccak256 limit 2 tables (if passesTriggerQuota limit env agent tables then _
    else _) = _
  cases passesTriggerQuota limit env agent tables with
  | false => rfl
  | true =>
    simp only [if_true, Bool.not_true, Bool.false_eq_true, if_false]
    rw [advanceAlone_succ]
    simp only [advanceProcess, TriggerTurn.read]
    cases params.endpointId with
    | none => rfl
    | some endpointId =>
      dsimp only
      cases fetchAgentEndpoint env agent endpointId tables.endpoints with
      | error outcome => rfl
      | ok endpoint =>
        cases params.eventSignature with
        | none => rfl
        | some eventSignature =>
          exact advance_inserting keccak256 limit env _ rfl _ _ tables

/-- `activate_template`. -/
theorem advance_activate (env : TriggerToolEnv) (agent : EthAddress)
    (params : ActivateTemplateParams) (tables : RegistryTables) :
    advanceAlone keccak256 limit 3 tables (.counting (.activate env agent params) [] none) =
      ((activateTemplate keccak256 limit env agent params tables).1, .idle) := by
  unfold activateTemplate
  rw [advanceAlone_succ, advance_counting keccak256 limit env _ rfl]
  show advanceAlone keccak256 limit 2 tables (if passesTriggerQuota limit env agent tables then _
    else _) = _
  cases passesTriggerQuota limit env agent tables with
  | false => rfl
  | true =>
    simp only [if_true, Bool.not_true, Bool.false_eq_true, if_false]
    rw [advanceAlone_succ]
    simp only [advanceProcess, TriggerTurn.read]
    cases params.slug with
    | none => rfl
    | some slug =>
      cases params.endpointId with
      | none => rfl
      | some endpointId =>
        dsimp only
        cases env.templateRaises with
        | true => rfl
        | false =>
          simp only [Bool.false_eq_true, if_false]
          cases env.templates.find? fun t => t.slug = slug with
          | none => rfl
          | some template =>
            dsimp only
            cases fetchAgentEndpoint env agent endpointId tables.endpoints with
            | error outcome => rfl
            | ok endpoint => exact advance_inserting keccak256 limit env _ rfl _ _ tables

/-- The turns of the loops of `register_middleware`, from the `n`-th trigger on. -/
def middlewareTurns (env : MiddlewareEnv) (agent : EthAddress) (chains : Value) :
    List TriggerSource → ℕ → List TriggerTurn
  | [], _ => []
  | source :: sources, n =>
    .middleware env agent chains (env.trigger n) source ::
      middlewareTurns env agent chains sources (n + 1)

/-- The tables after the loops, with the orphan endpoint deleted where the quota was reached. -/
def afterTurns (orphan : Option EndpointId) :
    RegistryTables × Except LoopError (List String) → RegistryTables
  | (tables, .error (.http _)) => orphan.elim tables tables.deleteEndpoint
  | (tables, _) => tables

theorem advanceAlone_add (m n : ℕ) (tables : RegistryTables) (state : ToolProcess) :
    advanceAlone keccak256 limit (m + n) tables state =
      advanceAlone keccak256 limit n (advanceAlone keccak256 limit m tables state).1
        (advanceAlone keccak256 limit m tables state).2 := by
  rw [advanceAlone, Nat.add_comm, Function.iterate_add_apply]
  rfl

/-- A row that cannot be built is no matter of the quota. -/
theorem error_of_row {env : MiddlewareEnv} {agent : EthAddress} {chains : Value}
    {triggerEnv : TriggerEnv} {source : TriggerSource} {e : LoopError}
    (h : source.row keccak256 env agent chains triggerEnv = .error e) : e = .other := by
  cases source with
  | template slug =>
    simp only [TriggerSource.row] at h
    split at h
    · exact (Except.error.inj h).symm
    · split at h
      · cases h
      · cases h
  | custom ct =>
    simp only [TriggerSource.row] at h
    split at h
    · exact (Except.error.inj h).symm
    · cases h

/-- One turn of the loops. -/
theorem advance_turn (limits : RegistryLimits) (env : MiddlewareEnv) (agent : EthAddress)
    (chains : Value) (triggerEnv : TriggerEnv) (source : TriggerSource) (rest : List TriggerTurn)
    (orphan : Option EndpointId) (tables : RegistryTables) :
    ∃ k, advanceAlone keccak256 limits.triggers k tables
        (.counting (.middleware env agent chains triggerEnv source) rest orphan) =
      match createTrigger keccak256 limits env agent chains triggerEnv source tables with
      | (tables', .ok _) => (tables', .next orphan rest)
      | (tables', .error e) => (afterTurns orphan (tables', .error e), .idle) := by
  unfold createTrigger
  by_cases hcount : triggerEnv.countRaises = true
  · refine ⟨1, ?_⟩
    simp [advanceAlone, advanceProcess, TriggerTurn.env, hcount, afterTurns]
  simp only [hcount, Bool.false_eq_true, if_false]
  cases hquota : checkTriggerQuota limits.triggers tables agent with
  | error e =>
    cases orphan with
    | none =>
      refine ⟨1, ?_⟩
      simp [advanceAlone, advanceProcess, TriggerTurn.env, TriggerTurn.agent, hcount, hquota,
        afterTurns]
    | some id =>
      refine ⟨2, ?_⟩
      simp [advanceAlone, advanceProcess, TriggerTurn.env, TriggerTurn.agent, hcount, hquota,
        afterTurns]
  | ok _ =>
    have hcounted : advanceProcess keccak256 limits.triggers tables
        (.counting (.middleware env agent chains triggerEnv source) rest orphan) =
          (tables, .reading (.middleware env agent chains triggerEnv source) rest orphan) := by
      simp [advanceProcess, TriggerTurn.env, TriggerTurn.agent, hcount, hquota]
    cases hrow : source.row keccak256 env agent chains triggerEnv with
    | error e =>
      refine ⟨2, ?_⟩
      rw [advanceAlone_succ, hcounted]
      simp [advanceAlone, advanceProcess, TriggerTurn.read, hrow, error_of_row keccak256 hrow,
        afterTurns]
    | ok row? =>
      cases row? with
      | none =>
        refine ⟨2, ?_⟩
        rw [advanceAlone_succ, hcounted]
        simp [advanceAlone, advanceProcess, TriggerTurn.read, hrow]
      | some row =>
        refine ⟨3, ?_⟩
        rw [advanceAlone_succ, hcounted, advanceAlone_succ]
        simp only [advanceAlone, advanceProcess, TriggerTurn.read, hrow, TriggerTurn.env,
          Function.iterate_one]
        by_cases hinsert : triggerEnv.insertRaises = true
        · simp [hinsert, afterTurns]
        · simp only [hinsert, Bool.false_eq_true, if_false]
          cases tables.insertTrigger? row with
          | none => rfl
          | some tables' =>
            by_cases hresult : triggerEnv.resultRaises = true
            · simp [hresult, afterTurns]
            · simp [hresult]

/-- **The loops of `register_middleware`**, a statement at a time. -/
theorem advance_turns (limits : RegistryLimits) (env : MiddlewareEnv) (agent : EthAddress)
    (chains : Value) (orphan : Option EndpointId) (sources : List TriggerSource) (n : ℕ)
    (tables : RegistryTables) :
    ∃ k, advanceAlone keccak256 limits.triggers k tables
        (.next orphan (middlewareTurns env agent chains sources n)) =
      (afterTurns orphan (createTriggers keccak256 limits env agent chains sources n tables),
        .idle) := by
  induction sources generalizing n tables with
  | nil => exact ⟨0, rfl⟩
  | cons source sources ih =>
    obtain ⟨k, hturn⟩ := advance_turn keccak256 limits env agent chains (env.trigger n) source
      (middlewareTurns env agent chains sources (n + 1)) orphan tables
    unfold createTriggers
    cases hcreate : createTrigger keccak256 limits env agent chains (env.trigger n) source tables
    with
    | mk tables' answer =>
      rw [hcreate] at hturn
      cases answer with
      | error e => exact ⟨k, hturn⟩
      | ok id? =>
        obtain ⟨k', hrest⟩ := ih (n + 1) tables'
        refine ⟨k + k', ?_⟩
        have hfirst : advanceAlone keccak256 limits.triggers k tables
            (.next orphan (middlewareTurns env agent chains (source :: sources) n)) =
          (tables', .next orphan (middlewareTurns env agent chains sources (n + 1))) := hturn
        rw [advanceAlone_add, hfirst, hrest]
        dsimp only
        cases createTriggers keccak256 limits env agent chains sources (n + 1) tables' with
        | mk tables'' answers =>
          cases answers with
          | error e => rfl
          | ok ids => rfl

end Advance

end TripWire
