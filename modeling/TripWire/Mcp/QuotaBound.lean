import TripWire.Lib.CheckThenAct
import TripWire.Mcp.Tenancy
import TripWire.Mcp.TriggerTurns

/-!
# The trigger quota among several server processes

Nothing between the count of the quota and the insert suspends a tool, so one process has one call
there at a time; the statements of different processes interleave.

Among `n` processes, a wallet has fewer than `limit + n` active triggers at any time
(`triggers_lt_of_run`): the count and the insert of a turn are a check and an act of the general
argument (`quotaStep_effect`).  All `n` can pass the check before the first insert, and then nothing
but the database stands between them and the bound (`quota_checks_admit`).
-/

namespace TripWire

open Py KeyedTable

/-! ### The system -/

/-- A call that creates triggers. -/
inductive TriggerCall where
  | create (env : TriggerToolEnv) (agent : EthAddress) (params : CreateTriggerParams)
  | activate (env : TriggerToolEnv) (agent : EthAddress) (params : ActivateTemplateParams)
  | middleware (env : MiddlewareEnv) (provider : Bool) (agent : EthAddress)
      (params : MiddlewareParams)

/-- A call up to its first count.  The endpoint of `register_middleware` is created before. -/
def TriggerCall.start (limits : RegistryLimits) (tables : RegistryTables) :
    TriggerCall → RegistryTables × ToolProcess
  | .create env agent params => (tables, .counting (.create env agent params) [] none)
  | .activate env agent params => (tables, .counting (.activate env agent params) [] none)
  | .middleware env provider agent params =>
    match params.core with
    | none => (tables, .idle)
    | some core =>
      (RegistryTables.afterCore limits env provider agent core tables,
        match (createEndpointCore limits.endpoints env.core agent provider core tables.endpoints).2
        with
        | .created _ =>
          .next (if env.cleanupRaises then none else some env.core.endpointId)
            (middlewareTurns env agent core.chains params.sources 0)
        | _ => .idle)

/-- The tables, and `n` processes that work on them. -/
structure QuotaSystem (n : ℕ) where
  tables : RegistryTables
  processes : Fin n → ToolProcess := fun _ => .idle

/-- One step of a run. -/
inductive QuotaAction (n : ℕ) where
  /-- The process `i`, which is idle, takes a call. -/
  | start (i : Fin n) (call : TriggerCall)
  /-- The process `i` executes a statement. -/
  | statement (i : Fin n)
  /-- The process `i` dies, and another one takes its place. -/
  | restart (i : Fin n)
  | endpoint (op : EndpointOp)
  | deleteTrigger (env : TriggerToolEnv) (agent : EthAddress) (triggerId : Option String)

section System

variable {n : ℕ} (keccak256 : List UInt8 → List UInt8) (limits : RegistryLimits)

/-- The process `i` and the tables after a statement. -/
def QuotaSystem.move (s : QuotaSystem n) (i : Fin n) (moved : RegistryTables × ToolProcess) :
    QuotaSystem n where
  tables := moved.1
  processes := Function.update s.processes i moved.2

/-- The system after a step. -/
def quotaStep (s : QuotaSystem n) : QuotaAction n → QuotaSystem n
  | .start i call =>
    match s.processes i with
    | .idle => s.move i (call.start limits s.tables)
    | _ => s
  | .statement i => s.move i (advanceProcess keccak256 limits.triggers s.tables (s.processes i))
  | .restart i => s.move i (s.tables, .idle)
  | .endpoint op => { s with tables := registryStep keccak256 limits s.tables (.endpoint op) }
  | .deleteTrigger env agent triggerId =>
    { s with tables := (deleteTrigger env agent triggerId s.tables).1 }

/-! ### Windows -/

/-- The process is between a count for the wallet and the insert. -/
def ToolProcess.inWindow (wallet : EthAddress) : ToolProcess → Bool
  | .reading turn _ _ => decide (lower turn.agent.val = lower wallet.val)
  | .inserting _ row _ _ => decide (row.ownerAddress = lower wallet.val)
  | _ => false

/-- The processes in a window. -/
def QuotaSystem.windows (wallet : EthAddress) (s : QuotaSystem n) : Finset (Fin n) :=
  {i | (s.processes i).inWindow wallet = true}

variable {wallet : EthAddress} {s : QuotaSystem n} {i : Fin n}

theorem QuotaSystem.mem_windows :
    i ∈ s.windows wallet ↔ (s.processes i).inWindow wallet = true := by
  simp [windows]

theorem mem_windows_move {moved : RegistryTables × ToolProcess} {j : Fin n}
    (h : j ∈ (s.move i moved).windows wallet) :
    (j = i ∧ moved.2.inWindow wallet = true) ∨ (j ≠ i ∧ j ∈ s.windows wallet) := by
  have hprocess : (Function.update s.processes i moved.2 j).inWindow wallet = true :=
    QuotaSystem.mem_windows.mp h
  by_cases hij : j = i
  · rw [hij, Function.update_self] at hprocess
    exact .inl ⟨hij, hprocess⟩
  · rw [Function.update_of_ne hij] at hprocess
    exact .inr ⟨hij, QuotaSystem.mem_windows.mpr hprocess⟩

/-- A process moves into the window, if at all. -/
theorem windows_move_subset_insert (moved : RegistryTables × ToolProcess) :
    (s.move i moved).windows wallet ⊆ insert i (s.windows wallet) := by
  intro j hj
  rcases mem_windows_move hj with ⟨rfl, -⟩ | ⟨-, hmem⟩
  · exact Finset.mem_insert_self j _
  · exact Finset.mem_insert_of_mem hmem

/-- A process leaves the window. -/
theorem windows_move_subset_erase {moved : RegistryTables × ToolProcess}
    (h : moved.2.inWindow wallet = false) :
    (s.move i moved).windows wallet ⊆ (s.windows wallet).erase i := by
  intro j hj
  rcases mem_windows_move hj with ⟨-, hin⟩ | ⟨hij, hmem⟩
  · rw [h] at hin
    cases hin
  · exact Finset.mem_erase.mpr ⟨hij, hmem⟩

theorem windows_move_subset {moved : RegistryTables × ToolProcess}
    (h : moved.2.inWindow wallet = true → (s.processes i).inWindow wallet = true) :
    (s.move i moved).windows wallet ⊆ s.windows wallet := by
  cases hmoved : moved.2.inWindow wallet with
  | false => exact (windows_move_subset_erase hmoved).trans (Finset.erase_subset i _)
  | true =>
    have hi : i ∈ s.windows wallet := QuotaSystem.mem_windows.mpr (h hmoved)
    exact (windows_move_subset_insert moved).trans (Finset.insert_subset hi subset_rfl)

/-! ### Counts -/

/-- The trigger counts for the wallet. -/
def RegisteredTrigger.countsFor (wallet : String) (t : RegisteredTrigger) : Bool :=
  decide (t.ownerAddress = lower wallet) && t.active

theorem countTriggers_eq (tables : RegistryTables) (wallet : String) :
    tables.countTriggers wallet =
      tables.triggers.rows.countP (RegisteredTrigger.countsFor wallet) :=
  List.countP_eq_length_filter.symm

theorem countTriggers_insertTrigger? {tables tables' : RegistryTables} {row : RegisteredTrigger}
    (h : tables.insertTrigger? row = some tables') (wallet : String) :
    tables'.countTriggers wallet =
      tables.countTriggers wallet + if row.countsFor wallet = true then 1 else 0 := by
  unfold RegistryTables.insertTrigger? at h
  split_ifs at h
  split at h
  · cases h
  · rename_i triggers hins
    obtain rfl := Option.some.inj h
    rw [countTriggers_eq, countTriggers_eq, rows_of_insert? hins, List.countP_append,
      List.countP_singleton]

theorem countTriggers_deleteEndpoint_le (tables : RegistryTables) (id : EndpointId)
    (wallet : String) :
    (tables.deleteEndpoint id).countTriggers wallet ≤ tables.countTriggers wallet := by
  rw [countTriggers_eq, countTriggers_eq]
  exact List.filter_sublist.countP_le

theorem countTriggers_deactivateTrigger_le (tables : RegistryTables) (id : String)
    (wallet : String) :
    (tables.deactivateTrigger id).countTriggers wallet ≤ tables.countTriggers wallet := by
  rw [countTriggers_eq, countTriggers_eq, RegistryTables.deactivateTrigger, rows_updateWhere,
    List.countP_map]
  apply List.countP_mono_left
  intro t _ hcounts
  dsimp only [Function.comp_apply] at hcounts
  split_ifs at hcounts
  · -- a trigger that is deactivated does not count
    rw [RegisteredTrigger.countsFor, RegisteredTrigger.deactivated, Bool.and_false] at hcounts
    cases hcounts
  · exact hcounts

theorem countTriggers_deleteTrigger_le (env : TriggerToolEnv) (agent : EthAddress)
    (triggerId : Option String) (tables : RegistryTables) (wallet : String) :
    (deleteTrigger env agent triggerId tables).1.countTriggers wallet ≤
      tables.countTriggers wallet := by
  cases triggerId with
  | none => exact le_rfl
  | some id =>
    rw [deleteTrigger_eq]
    split_ifs
    · exact countTriggers_deactivateTrigger_le tables id wallet
    · exact le_rfl

/-! ### The bound -/

theorem lt_of_checkTriggerQuota {limit : ℕ} {tables : RegistryTables} {wallet : String} {u : Unit}
    (h : checkTriggerQuota limit tables wallet = .ok u) :
    tables.countTriggers wallet < limit := by
  unfold checkTriggerQuota at h
  by_contra hge
  simp [not_lt.mp hge] at h

theorem inWindow_next (orphan : Option EndpointId) (rest : List TriggerTurn) :
    (ToolProcess.next orphan rest).inWindow wallet = false := by
  cases rest <;> rfl

/-- A call is outside the window up to its first count, and has created no trigger. -/
theorem start_spec (wallet : EthAddress) (call : TriggerCall) (tables : RegistryTables) :
    (call.start limits tables).1.countTriggers wallet = tables.countTriggers wallet ∧
      (call.start limits tables).2.inWindow wallet = false := by
  cases call with
  | create env agent params => exact ⟨rfl, rfl⟩
  | activate env agent params => exact ⟨rfl, rfl⟩
  | middleware env provider agent params =>
    cases hcore : params.core with
    | none => simp only [TriggerCall.start, hcore, ToolProcess.inWindow, and_self]
    | some core =>
      simp only [TriggerCall.start, hcore]
      refine ⟨rfl, ?_⟩
      split
      · exact inWindow_next _ _
      · rfl

/-- A statement that leaves a process outside the window. -/
theorem effect_outside {moved : RegistryTables × ToolProcess}
    (hcount : moved.1.countTriggers wallet ≤ s.tables.countTriggers wallet)
    (h : moved.2.inWindow wallet = false) :
    CheckThenAct.Effect limits.triggers (s.tables.countTriggers wallet) (s.windows wallet)
      ((s.move i moved).tables.countTriggers wallet) ((s.move i moved).windows wallet) :=
  .quiet hcount ((windows_move_subset_erase h).trans (Finset.erase_subset i _))

/-- **A statement** opens a window below the limit, or inserts in a window, or does neither. -/
theorem advanceProcess_effect :
    CheckThenAct.Effect limits.triggers (s.tables.countTriggers wallet) (s.windows wallet)
      ((quotaStep keccak256 limits s (.statement i)).tables.countTriggers wallet)
      ((quotaStep keccak256 limits s (.statement i)).windows wallet) := by
  simp only [quotaStep]
  cases hprocess : s.processes i with
  | idle => exact effect_outside limits le_rfl rfl
  | cleaning id =>
    exact effect_outside limits (countTriggers_deleteEndpoint_le s.tables id wallet) rfl
  | counting turn rest orphan =>
    simp only [advanceProcess]
    by_cases hraises : turn.env.countRaises = true
    · simp only [hraises, if_true]
      exact effect_outside limits le_rfl rfl
    · simp only [hraises, Bool.false_eq_true, if_false]
      cases hquota : checkTriggerQuota limits.triggers s.tables turn.agent with
      | error e => cases orphan <;> exact effect_outside limits le_rfl rfl
      | ok _ =>
        by_cases hmine : lower turn.agent.val = lower wallet.val
        · refine .check i ?_ le_rfl (windows_move_subset_insert _)
          rw [RegistryTables.countTriggers, ← hmine]
          exact lt_of_checkTriggerQuota hquota
        · exact effect_outside limits le_rfl (decide_eq_false hmine)
  | reading turn rest orphan =>
    simp only [advanceProcess]
    cases hread : turn.read keccak256 s.tables with
    | error e => exact effect_outside limits le_rfl rfl
    | ok row? =>
      cases row? with
      | none => exact effect_outside limits le_rfl (inWindow_next orphan rest)
      | some row =>
        refine .quiet le_rfl (windows_move_subset fun hin => ?_)
        have howner : row.ownerAddress = lower turn.agent.val :=
          TriggerTurn.ownedBy_of_read hread
        rw [hprocess]
        exact decide_eq_true (howner.symm.trans (of_decide_eq_true hin))
  | inserting turn row rest orphan =>
    simp only [advanceProcess]
    by_cases hraises : turn.env.insertRaises = true
    · simp only [hraises, if_true]
      exact effect_outside limits le_rfl rfl
    · simp only [hraises, Bool.false_eq_true, if_false]
      cases hins : s.tables.insertTrigger? row with
      | none => exact effect_outside limits le_rfl rfl
      | some tables' =>
        have hcount := countTriggers_insertTrigger? hins wallet
        have houtside : (if turn.env.resultRaises then ToolProcess.idle
            else .next orphan rest).inWindow wallet = false := by
          split_ifs
          · rfl
          · exact inWindow_next orphan rest
        by_cases hmine : row.ownerAddress = lower wallet.val
        · have hinside : i ∈ s.windows wallet := by
            rw [QuotaSystem.mem_windows, hprocess]
            exact decide_eq_true hmine
          refine .act i hinside ?_ (windows_move_subset_erase houtside)
          show tables'.countTriggers wallet ≤ _
          split_ifs at hcount <;> omega
        · refine effect_outside limits ?_ houtside
          rw [RegisteredTrigger.countsFor, decide_eq_false hmine, Bool.false_and] at hcount
          exact hcount.le

theorem quotaStep_effect (wallet : EthAddress) (s : QuotaSystem n) (a : QuotaAction n) :
    CheckThenAct.Effect limits.triggers (s.tables.countTriggers wallet) (s.windows wallet)
      ((quotaStep keccak256 limits s a).tables.countTriggers wallet)
      ((quotaStep keccak256 limits s a).windows wallet) := by
  cases a with
  | start i call =>
    obtain ⟨hcount, houtside⟩ := start_spec limits wallet call s.tables
    cases hprocess : s.processes i with
    | idle =>
      simp only [quotaStep, hprocess]
      exact effect_outside limits hcount.le houtside
    | counting turn rest orphan =>
      simp only [quotaStep, hprocess]
      exact .quiet le_rfl subset_rfl
    | reading turn rest orphan =>
      simp only [quotaStep, hprocess]
      exact .quiet le_rfl subset_rfl
    | inserting turn row rest orphan =>
      simp only [quotaStep, hprocess]
      exact .quiet le_rfl subset_rfl
    | cleaning id =>
      simp only [quotaStep, hprocess]
      exact .quiet le_rfl subset_rfl
  | statement i => exact advanceProcess_effect keccak256 limits
  | restart i => exact effect_outside limits le_rfl rfl
  | endpoint op => exact .quiet le_rfl subset_rfl
  | deleteTrigger env agent triggerId =>
    exact .quiet (countTriggers_deleteTrigger_le env agent triggerId s.tables wallet) subset_rfl

end System

/-- **The quota is exceeded by less than the number of processes.** In every run of `n` processes
that starts with idle processes and within the limit, a wallet has fewer than `limit + n` active
triggers at any time. -/
theorem triggers_lt_of_run {n : ℕ} (keccak256 : List UInt8 → List UInt8) (limits : RegistryLimits)
    (wallet : EthAddress) {s : QuotaSystem n} (hn : 0 < n) (hidle : ∀ i, s.processes i = .idle)
    (hcount : s.tables.countTriggers wallet ≤ limits.triggers) (actions : List (QuotaAction n)) :
    (Machine.run (quotaStep keccak256 limits) s actions).tables.countTriggers wallet <
      limits.triggers + n := by
  have hwindows : s.windows wallet = ∅ := by
    ext i
    rw [QuotaSystem.mem_windows, hidle i]
    exact ⟨fun h => (Bool.false_ne_true h).elim, fun h => absurd h (Finset.notMem_empty i)⟩
  have hrun := CheckThenAct.count_lt_of_run (fun s => s.tables.countTriggers wallet)
    (QuotaSystem.windows wallet) (quotaStep_effect keccak256 limits wallet) hcount hwindows
    (by rwa [Fintype.card_fin]) actions
  rwa [Fintype.card_fin] at hrun

/-! ### The check admits as many -/

section Admitted

variable {n : ℕ} (keccak256 : List UInt8 → List UInt8) (limits : RegistryLimits)
  (agent : EthAddress) (endpointId : EndpointId) (eventSignature : String)

/-- The arguments of a trigger for the endpoint. -/
def triggerOn : CreateTriggerParams where
  eventSignature := some eventSignature
  endpointId := some endpointId

/-- A call of `create_trigger` for the endpoint. -/
def callOn (env : TriggerToolEnv) : TriggerCall :=
  .create env agent (triggerOn endpointId eventSignature)

/-- The process has passed the check, and the next statement is the insert of its row. -/
def aboutToInsert (endpoint : Endpoint) (env : TriggerToolEnv) : ToolProcess :=
  .inserting (.create env agent (triggerOn endpointId eventSignature))
    ((triggerOn endpointId eventSignature).row keccak256 env agent endpointId eventSignature
      endpoint) [] none

/-- A process counts, and reads its endpoint. -/
theorem run_aboutToInsert {s : QuotaSystem n} {i : Fin n} {env : TriggerToolEnv}
    {endpoint : Endpoint} (hidle : s.processes i = .idle)
    (hcount : s.tables.countTriggers agent < limits.triggers) (hcounts : env.countRaises = false)
    (hfetch : fetchAgentEndpoint env agent endpointId s.tables.endpoints = .ok endpoint) :
    Machine.run (quotaStep keccak256 limits) s
        [.start i (callOn agent endpointId eventSignature env), .statement i, .statement i] =
      s.move i
        (s.tables, aboutToInsert keccak256 agent endpointId eventSignature endpoint env) := by
  have hquota : checkTriggerQuota limits.triggers s.tables agent = .ok () := by
    rw [checkTriggerQuota, if_neg (not_le.mpr hcount)]
  simp [Machine.run, quotaStep, hidle, callOn, TriggerCall.start, QuotaSystem.move,
    advanceProcess, TriggerTurn.env, TriggerTurn.agent, hcounts, hquota, TriggerTurn.read,
    triggerOn, hfetch, aboutToInsert]

variable {agent endpointId eventSignature} {env : Fin n → TriggerToolEnv}
  {endpoint : Fin n → Endpoint}

/-- Some processes count, one after the other, and none of them inserts. -/
theorem run_counts {l : List (Fin n)} (hnodup : l.Nodup) {s : QuotaSystem n}
    (hidle : ∀ i ∈ l, s.processes i = .idle)
    (hcount : s.tables.countTriggers agent < limits.triggers)
    (hcounts : ∀ i, (env i).countRaises = false)
    (hfetch : ∀ i, fetchAgentEndpoint (env i) agent endpointId s.tables.endpoints =
      .ok (endpoint i)) :
    ∃ checks, (Machine.run (quotaStep keccak256 limits) s checks).tables = s.tables ∧
      ∀ i, (Machine.run (quotaStep keccak256 limits) s checks).processes i =
        if i ∈ l then aboutToInsert keccak256 agent endpointId eventSignature (endpoint i) (env i)
        else s.processes i := by
  induction l generalizing s with
  | nil => exact ⟨[], rfl, fun i => rfl⟩
  | cons i l ih =>
    obtain ⟨hnotMem, hnodup⟩ := List.nodup_cons.mp hnodup
    have hstep := run_aboutToInsert keccak256 limits agent endpointId eventSignature
      (hidle i List.mem_cons_self) hcount (hcounts i) (hfetch i)
    have hidle' (j : Fin n) (hj : j ∈ l) :
        (s.move i (s.tables, aboutToInsert keccak256 agent endpointId eventSignature (endpoint i)
          (env i))).processes j = .idle := by
      have hji : j ≠ i := fun h => hnotMem (h ▸ hj)
      show Function.update s.processes i _ j = _
      rw [Function.update_of_ne hji]
      exact hidle j (List.mem_cons_of_mem i hj)
    obtain ⟨checks, htables, hprocesses⟩ := ih hnodup hidle' hcount hfetch
    refine ⟨[.start i (callOn agent endpointId eventSignature (env i)), .statement i,
      .statement i] ++ checks, ?_⟩
    rw [Machine.run_append, hstep]
    refine ⟨htables, fun j => ?_⟩
    rw [hprocesses j]
    by_cases hj : j ∈ l
    · rw [if_pos hj, if_pos (List.mem_cons_of_mem i hj)]
    · rw [if_neg hj]
      by_cases hji : j = i
      · rw [hji, if_pos List.mem_cons_self]
        exact Function.update_self i _ s.processes
      · rw [if_neg (by simp [hji, hj])]
        exact Function.update_of_ne hji _ s.processes

/-- A process inserts, and the database accepts the row or not. -/
theorem step_inserts {s : QuotaSystem n} {i : Fin n}
    (habout : s.processes i =
      aboutToInsert keccak256 agent endpointId eventSignature (endpoint i) (env i))
    (hfree : s.tables.triggers.get? (env i).triggerId = none)
    (hendpoint : s.tables.endpoints.get? endpointId ≠ none) :
    ∃ tables', quotaStep keccak256 limits s (.statement i) = s.move i (tables', .idle) ∧
      tables'.countTriggers agent =
        s.tables.countTriggers agent + (!(env i).insertRaises).toNat ∧
      tables'.endpoints = s.tables.endpoints ∧
      ∀ other, other ≠ (env i).triggerId →
        tables'.triggers.get? other = s.tables.triggers.get? other := by
  have hrow : ∃ row : RegisteredTrigger, row.rowId = (env i).triggerId ∧
      row.endpointId = endpointId ∧ row.countsFor agent = true ∧ s.processes i = .inserting
        (.create (env i) agent (triggerOn endpointId eventSignature)) row [] none :=
    ⟨_, rfl, rfl, by simp [RegisteredTrigger.countsFor, CreateTriggerParams.row], habout⟩
  obtain ⟨row, hid, rfl, hcounts, hprocess⟩ := hrow
  have hstep : quotaStep keccak256 limits s (.statement i) =
      s.move i ((insertTrigger (env i) row [] s.tables).1, .idle) := by
    rw [quotaStep, hprocess, advance_inserting keccak256 limits.triggers (env i) _ rfl row []]
  refine ⟨_, hstep, ?_⟩
  cases hraises : (env i).insertRaises with
  | true =>
    have hsame : (insertTrigger (env i) row [] s.tables).1 = s.tables := by
      rw [insertTrigger, if_pos hraises]
    rw [hsame]
    exact ⟨rfl, rfl, fun other _ => rfl⟩
  | false =>
    rw [← hid] at hfree ⊢
    obtain ⟨triggers, hins⟩ : ∃ triggers, s.tables.triggers.insert? row = some triggers := by
      apply Option.ne_none_iff_exists'.mp
      rw [Ne, insert?_eq_none_iff, not_not]
      exact hfree
    obtain ⟨tables', hins', hendpoints, rfl⟩ := insertTrigger?_of_insert? hendpoint hins
    have hinserted : (insertTrigger (env i) row [] s.tables).1 = tables' := by
      simp [insertTrigger, hraises, hins']
    rw [hinserted]
    refine ⟨?_, hendpoints, fun other hother => ?_⟩
    · rw [countTriggers_insertTrigger? hins', if_pos hcounts]
      rfl
    · rw [get?_insert?_some hins, if_neg (Ne.symm hother)]

/-- The processes insert, one after the other. -/
theorem run_inserts {l : List (Fin n)} (hnodup : l.Nodup)
    (hids : Function.Injective fun i => (env i).triggerId) {s : QuotaSystem n}
    (habout : ∀ i ∈ l, s.processes i =
      aboutToInsert keccak256 agent endpointId eventSignature (endpoint i) (env i))
    (hfree : ∀ i ∈ l, s.tables.triggers.get? (env i).triggerId = none)
    (hendpoint : l ≠ [] → s.tables.endpoints.get? endpointId ≠ none) :
    (Machine.run (quotaStep keccak256 limits) s (l.map .statement)).tables.countTriggers agent =
      s.tables.countTriggers agent + l.countP fun i => !(env i).insertRaises := by
  induction l generalizing s with
  | nil => rfl
  | cons i l ih =>
    obtain ⟨hnotMem, hnodup⟩ := List.nodup_cons.mp hnodup
    obtain ⟨tables', hstep, hcount, hendpoints, hothers⟩ := step_inserts keccak256 limits
      (habout i List.mem_cons_self) (hfree i List.mem_cons_self)
      (hendpoint (List.cons_ne_nil i l))
    have hne (j : Fin n) (hj : j ∈ l) : j ≠ i := fun h => hnotMem (h ▸ hj)
    have hrest := ih hnodup (s := s.move i (tables', .idle))
      (fun j hj => (Function.update_of_ne (hne j hj) _ _).trans
        (habout j (List.mem_cons_of_mem i hj)))
      (fun j hj => (hothers (env j).triggerId (hids.ne (hne j hj))).trans
        (hfree j (List.mem_cons_of_mem i hj)))
      (fun _ => hendpoints.symm ▸ hendpoint (List.cons_ne_nil i l))
    rw [List.map_cons, Machine.run_cons, hstep, hrest, List.countP_cons]
    show tables'.countTriggers agent + _ = _
    rw [hcount]
    cases (env i).insertRaises with
    | true => rfl
    | false => exact Nat.add_right_comm ..

end Admitted

/-- **The check admits every process.** Where an agent below its quota owns an endpoint and `n` ids
are free, `n` processes can all pass the check before any of them inserts, and whatever the limit
is, the agent then gets as many more triggers as the database accepts of the `n` inserts. -/
theorem quota_checks_admit {n : ℕ} (keccak256 : List UInt8 → List UInt8) (limits : RegistryLimits)
    (agent : EthAddress) (endpointId : EndpointId) (eventSignature : String)
    (env : Fin n → TriggerToolEnv) {s : QuotaSystem n} (hidle : ∀ i, s.processes i = .idle)
    (hcount : s.tables.countTriggers agent < limits.triggers)
    (hcounts : ∀ i, (env i).countRaises = false)
    (howned : ∀ i, (fetchAgentEndpoint (env i) agent endpointId s.tables.endpoints).isOk)
    (hids : Function.Injective fun i => (env i).triggerId)
    (hfree : ∀ i, s.tables.triggers.get? (env i).triggerId = none) :
    ∃ checks inserts,
      let s' := Machine.run (quotaStep keccak256 limits) s checks
      s'.tables = s.tables ∧
      (∀ i, ∃ turn row, s'.processes i = .inserting turn row [] none ∧
        row.rowId = (env i).triggerId ∧ row.countsFor agent = true) ∧
      (Machine.run (quotaStep keccak256 limits) s' inserts).tables.countTriggers agent =
        s.tables.countTriggers agent +
          (Finset.univ.filter fun i => (env i).insertRaises = false).card := by
  have hread (i : Fin n) : ∃ endpoint,
      fetchAgentEndpoint (env i) agent endpointId s.tables.endpoints = .ok endpoint := by
    have hok := howned i
    cases hfetch : fetchAgentEndpoint (env i) agent endpointId s.tables.endpoints with
    | ok endpoint => exact ⟨endpoint, rfl⟩
    | error outcome =>
      rw [hfetch] at hok
      cases hok
  choose endpoint hfetch using hread
  obtain ⟨checks, htables, hprocesses⟩ := run_counts keccak256 limits
    (List.nodup_finRange n) (fun i _ => hidle i) hcount hcounts hfetch
  have habout (i : Fin n) : (Machine.run (quotaStep keccak256 limits) s checks).processes i =
      aboutToInsert keccak256 agent endpointId eventSignature (endpoint i) (env i) :=
    (hprocesses i).trans (if_pos (List.mem_finRange i))
  have hendpoint (hne : List.finRange n ≠ []) : s.tables.endpoints.get? endpointId ≠ none := by
    obtain ⟨i, -⟩ := List.exists_mem_of_ne_nil _ hne
    obtain ⟨row, hrow, -⟩ := fetchAgentEndpoint_eq_ok _ (hfetch i)
    rw [hrow]
    exact Option.some_ne_none row
  refine ⟨checks, (List.finRange n).map .statement, htables, fun i => ⟨_, _, habout i, rfl, ?_⟩, ?_⟩
  · simp [RegisteredTrigger.countsFor, CreateTriggerParams.row]
  · have hinserts := run_inserts keccak256 limits (List.nodup_finRange n) hids
      (fun i _ => habout i) (fun i _ => htables.symm ▸ hfree i) (htables.symm ▸ hendpoint)
    have hcard : (Finset.univ.filter fun i => (env i).insertRaises = false).card =
        (List.finRange n).countP fun i => !(env i).insertRaises := by
      rw [List.countP_eq_length_filter, Fin.univ_def]
      simp [Finset.filter]
    rw [hinserts, htables, hcard]

namespace Sample

/-- The endpoint of a wallet, and two idle processes. -/
def twoProcesses : QuotaSystem 2 where
  tables := (Machine.run (tenantStep id {}) noTenantTables
    [.endpoint (restRegister "first")]).toRegistryTables

/-- Three idle processes. -/
def threeProcesses : QuotaSystem 3 where
  tables := twoProcesses.tables

/-- The calls generate ids of their own, and the insert of the second is refused. -/
def raceEnv (i : Fin 3) : TriggerToolEnv where
  triggerId := toString i.val
  insertRaises := i = 1

/-- Both processes count before either of them inserts. -/
def quotaRace : List (QuotaAction 2) :=
  [.start 0 (callOn wallet "first" "" { triggerId := "a" }),
    .start 1 (callOn wallet "first" "" { triggerId := "b" }),
    .statement 0, .statement 1, .statement 0, .statement 1, .statement 0, .statement 1]

end Sample

/-- Two processes create two triggers for a wallet that may have one, and never a third. -/
theorem triggers_lt_of_run_two :
    let s := Machine.run (quotaStep id { triggers := 1 }) Sample.twoProcesses Sample.quotaRace
    s.tables.countTriggers Sample.wallet = 2 ∧ s.tables.countTriggers Sample.wallet < 1 + 2 :=
  ⟨by decide +kernel, triggers_lt_of_run id { triggers := 1 } Sample.wallet (by decide)
    (fun _ => rfl) (by decide +kernel) Sample.quotaRace⟩

/-- Of three processes that pass the check for one trigger, the second has its insert refused. -/
theorem quota_checks_admit_three :
    ∃ checks inserts : List (QuotaAction 3),
      let s := Machine.run (quotaStep id { triggers := 1 }) Sample.threeProcesses checks
      s.tables = Sample.threeProcesses.tables ∧
      (∀ i, ∃ turn row, s.processes i = .inserting turn row [] none ∧
        row.rowId = (Sample.raceEnv i).triggerId ∧
        row.countsFor Sample.wallet = true) ∧
      (Machine.run (quotaStep id { triggers := 1 }) s inserts).tables.countTriggers
        Sample.wallet = 2 := by
  apply quota_checks_admit id { triggers := 1 } Sample.wallet "first" "" Sample.raceEnv
    (s := Sample.threeProcesses)
  · exact fun _ => rfl
  · decide +kernel
  · exact fun _ => rfl
  · decide +kernel
  · decide
  · decide +kernel

end TripWire
