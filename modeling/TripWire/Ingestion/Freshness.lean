import Mathlib
import TripWire.Ingestion.Detection
import TripWire.Lib.Machine

/-!
# The trigger index of the worker process

Three components hold a `TriggerIndex` object.  The application start-up (`tripwire/main.py`) builds
one, refreshes it and hands it to the processor.  `WorkerPool.start` builds a second one, which its
workers refresh from then on (`maybe_refresh`).  Detection reads the processor's.

Refreshes read `TriggerRepository.list_active`, which caches its result for ten seconds, unless a
trigger is created or deactivated in the same process.  `poolIndex_fresh` says that the index of the
pool is as fresh as that cache allows.  The processor's index holds what the start-up loaded for
ever (`Sound.matchesAgainst_iff`), so detection is fresh when that happens to be what is active
(`detection_fresh_iff`).
-/

namespace TripWire

open Py Machine

/-- `_ACTIVE_CACHE_TTL`, in seconds. -/
def activeCacheTtl : ℚ := 10

/-- `_refresh_interval`, in seconds. -/
def refreshInterval : ℚ := 10

/-- A `TriggerIndex` object: `_index` and `_last_refresh`. -/
structure IndexObject where
  index : TriggerIndex := []
  lastRefresh : ℚ := 0

/-- The worker process and the `triggers` table, with what happened to them. -/
structure WorkerProcess where
  table : TriggerTable := .empty
  /-- `time.monotonic()`. -/
  now : ℚ := 0
  /-- `_active_triggers_cache` and when it expires. -/
  activeCache : Option (List TriggerRow × ℚ) := none
  /-- `EventProcessor._trigger_index`. -/
  processorIndex : Option IndexObject := none
  /-- `WorkerPool._trigger_index`, which every worker of the pool holds. -/
  poolIndex : Option IndexObject := none
  /-- The triggers that the start-up loaded. -/
  loaded : List TriggerRow := []
  /-- The times at which a `maybe_refresh` of a worker performed a refresh. -/
  refreshes : List ℚ := []
  /-- The table at every time the run has passed through. -/
  moments : List (ℚ × TriggerTable) := [(now, table)]

/-- One step of a run.  `fails` says whether a query of the table raises, `here` whether a write is
made by this process. -/
inductive ProcessAction where
  | wait (seconds : ℚ)
  | createTrigger (row : StoredTrigger) (here : Bool)
  | deactivateTrigger (id : String) (here : Bool)
  /-- The start-up builds its index and injects it into the processor. -/
  | injectIndex (fails : Bool)
  /-- `WorkerPool.start`. -/
  | startPool (fails : Bool)
  /-- `maybe_refresh` of a worker. -/
  | maybeRefresh (fails : Bool)

namespace WorkerProcess

/-- `list_active`; `none` when the query raises, or `Trigger` at one of the rows. -/
def listActiveCached (model : TriggerModel) (s : WorkerProcess) (fails : Bool) :
    WorkerProcess × Option (List TriggerRow) :=
  match s.activeCache.filter fun entry => s.now < entry.2 with
  | some entry => (s, some entry.1)
  | none =>
    if fails then (s, none)
    else
      match s.table.listActive model with
      | .error _ => (s, none)
      | .ok triggers =>
        ({ s with activeCache := some (triggers, s.now + activeCacheTtl) }, some triggers)

/-- `TriggerIndex.refresh`, with the triggers it loaded.  It writes the triggers to Redis as well,
which `match` does not read. -/
def refresh (model : TriggerModel) (keccak256 : List UInt8 → List UInt8) (s : WorkerProcess)
    (ix : IndexObject) (fails : Bool) : WorkerProcess × IndexObject × Option (List TriggerRow) :=
  match s.listActiveCached model fails with
  -- A failed load leaves the old index, and the next call tries again.
  | (s', none) => (s', ix, none)
  | (s', some triggers) =>
    (s', { index := TriggerIndex.refresh keccak256 triggers, lastRefresh := s.now }, some triggers)

/-- The process after a step, without the record of the moment. -/
def act (model : TriggerModel) (keccak256 : List UInt8 → List UInt8) (s : WorkerProcess) :
    ProcessAction → WorkerProcess
  | .wait seconds => { s with now := s.now + max 0 seconds }
  | .createTrigger row here =>
    match s.table.insert? row with
    | none => s
    | some table =>
      { s with table, activeCache := if here then none else s.activeCache }
  | .deactivateTrigger id here =>
    if (s.table.get? id).isNone then s
    else
      { s with
        table := s.table.updateWhere (fun row => row.id = id) StoredTrigger.deactivated
          StoredTrigger.rowKey_deactivated
        activeCache := if here then none else s.activeCache }
  | .injectIndex fails =>
    if s.processorIndex.isSome then s
    else
      let (s', ix, triggers) := s.refresh model keccak256 {} fails
      { s' with processorIndex := some ix, loaded := triggers.getD [] }
  | .startPool fails =>
    if s.processorIndex.isNone || s.poolIndex.isSome then s
    else
      -- A second object: the one that was injected is not passed on.
      let (s', ix, _) := s.refresh model keccak256 {} fails
      { s' with poolIndex := some ix }
  | .maybeRefresh fails =>
    match s.poolIndex with
    | none => s
    | some ix =>
      if refreshInterval < s.now - ix.lastRefresh then
        match s.refresh model keccak256 ix fails with
        | (s', _, none) => s'
        | (s', ix', some _) =>
          { s' with poolIndex := some ix', refreshes := s'.refreshes ++ [s.now] }
      else s

/-- The process after a step. -/
def step (model : TriggerModel) (keccak256 : List UInt8 → List UInt8) (s : WorkerProcess)
    (a : ProcessAction) : WorkerProcess :=
  let s' := s.act model keccak256 a
  { s' with moments := s'.moments ++ [(s'.now, s'.table)] }

/-- Where the processor looks for triggers. -/
def sources (model : TriggerModel) (s : WorkerProcess) : TriggerSources where
  triggerIndex := s.processorIndex.map (·.index)
  triggerRepo := some ⟨model, s.table⟩

/-- `_detect_event_type` of the processor. -/
def detect (model : TriggerModel) (s : WorkerProcess) (raw : Dict) : Except PyError Detection :=
  detectEventType (s.sources model) raw

/-! ### Freshness -/

section Freshness

variable (model : TriggerModel) (keccak256 : List UInt8 → List UInt8)

/-- The index files the triggers, each under its own topic, and no others. -/
def Files (index : TriggerIndex) (triggers : List TriggerRow) : Prop :=
  ∀ topic0 t, t ∈ index.matchTopic topic0 ↔
    t ∈ triggers ∧ TriggerIndex.keyOf keccak256 t = lower topic0

/-- Detection matches against the triggers: whatever log it is given, the triggers it looks through
are those among them that have the topic of the log. -/
def MatchesAgainst (s : WorkerProcess) (triggers : List TriggerRow) : Prop :=
  ∃ index, (s.sources model).triggerIndex = some index ∧ Files keccak256 index triggers

/-- At some time not before `since`, the active triggers had the property. -/
def ActiveSince (s : WorkerProcess) (since : ℚ) (P : List TriggerRow → Prop) : Prop :=
  ∃ m ∈ s.moments, since ≤ m.1 ∧ ∃ active, m.2.listActive model = .ok active ∧ P active

/-- After each refresh of a worker, detection matches against triggers that were active not before
the refresh less the lifetime of the cache. -/
def DetectionFresh (s : WorkerProcess) : Prop :=
  ∀ T ∈ s.refreshes,
    s.ActiveSince model (T - activeCacheTtl) (s.MatchesAgainst model keccak256)

/-- The triggers that the start-up loaded are those that were active at some such time. -/
def StartupCurrent (s : WorkerProcess) : Prop :=
  ∀ T ∈ s.refreshes,
    s.ActiveSince model (T - activeCacheTtl) fun active => ∀ t, t ∈ s.loaded ↔ t ∈ active

variable {model} {keccak256}

theorem keyOf_lower (t : TriggerRow) :
    lower (TriggerIndex.keyOf keccak256 t) = TriggerIndex.keyOf keccak256 t := by
  rw [TriggerIndex.keyOf, lower_lower]

/-- A refreshed index files the triggers it was refreshed from, and so it files another list exactly
when that has the same triggers. -/
theorem files_refresh_iff (keccak256 : List UInt8 → List UInt8)
    {loaded triggers : List TriggerRow} :
    Files keccak256 (TriggerIndex.refresh keccak256 loaded) triggers ↔
      ∀ t, t ∈ loaded ↔ t ∈ triggers := by
  have hrefresh : ∀ topic0 t, t ∈ (TriggerIndex.refresh keccak256 loaded).matchTopic topic0 ↔
      t ∈ loaded ∧ TriggerIndex.keyOf keccak256 t = lower topic0 := by
    intro topic0 t
    rw [TriggerIndex.matchTopic, TriggerIndex.get_refresh, List.mem_filter, decide_eq_true_eq]
  constructor
  · intro h t
    have hown := (hrefresh (TriggerIndex.keyOf keccak256 t) t).symm.trans (h _ t)
    rw [keyOf_lower] at hown
    simpa using hown
  · intro h topic0 t
    rw [hrefresh, h]

/-- What detection returns when it matches against the triggers: those of the topic of the log that
pass its filters. -/
theorem mem_detect_iff {s : WorkerProcess} {triggers ts : List TriggerRow} {raw : Dict}
    (h : s.MatchesAgainst model keccak256 triggers)
    (hdetect : s.detect model raw = .ok (.dynamic ts)) :
    ∃ topic contract, ∀ t, t ∈ ts ↔
      (t ∈ triggers ∧ TriggerIndex.keyOf keccak256 t = lower topic) ∧
        keepsChain (raw.getD "chain_id" .none) t = true ∧ keepsContract contract t = true := by
  obtain ⟨index, hindex, hfiles⟩ := h
  obtain ⟨topic, rest, -, -, hdynamic⟩ := detectEventType_eq_dynamic_iff.mp hdetect
  obtain ⟨found, contract, hfind, -, rfl, -⟩ := detectDynamic_eq_dynamic_iff.mp hdynamic
  rw [TriggerSources.find, hindex] at hfind
  obtain rfl := Except.ok.inj (Option.some.inj hfind)
  refine ⟨topic, contract, fun t => ?_⟩
  rw [matchedTriggers, List.mem_filter, hfiles, lower_lower, Bool.and_eq_true]

/-! ### The invariant -/

/-- What is known of the process: the cache and the pool's index come from the table as it was, the
processor's index from the start-up. -/
structure Sound (model : TriggerModel) (keccak256 : List UInt8 → List UInt8) (s : WorkerProcess) :
    Prop where
  current : (s.now, s.table) ∈ s.moments
  past : ∀ T ∈ s.refreshes, T ≤ s.now
  cached : ∀ entry, s.activeCache = some entry →
    s.ActiveSince model (entry.2 - activeCacheTtl) fun active => entry.1 = active
  pool : ∀ T ∈ s.refreshes, ∃ ix, s.poolIndex = some ix ∧
    s.ActiveSince model (T - activeCacheTtl) fun active =>
      ix.index = TriggerIndex.refresh keccak256 active
  wired : s.poolIndex.isSome = true → s.processorIndex.isSome = true
  processor : ∀ ix, s.processorIndex = some ix →
    ix.index = TriggerIndex.refresh keccak256 s.loaded

/-- What was active before is still on record. -/
theorem ActiveSince.mono {s s' : WorkerProcess} {since since' : ℚ} {P : List TriggerRow → Prop}
    (h : s.ActiveSince model since P) (hmoments : ∀ m ∈ s.moments, m ∈ s'.moments)
    (hsince : since' ≤ since) : s'.ActiveSince model since' P := by
  obtain ⟨m, hm, hle, hP⟩ := h
  exact ⟨m, hmoments m hm, hsince.trans hle, hP⟩

/-- `list_active` changes the cache only, and returns triggers that were active not before now less
the lifetime of the cache. -/
theorem listActiveCached_spec {s : WorkerProcess} (h : s.Sound model keccak256) (fails : Bool) :
    ∃ cache, (s.listActiveCached model fails).1 = { s with activeCache := cache } ∧
      (∀ entry, cache = some entry →
        s.ActiveSince model (entry.2 - activeCacheTtl) fun active => entry.1 = active) ∧
      ∀ triggers, (s.listActiveCached model fails).2 = some triggers →
        s.ActiveSince model (s.now - activeCacheTtl) fun active => triggers = active := by
  unfold listActiveCached
  split
  · rename_i entry hentry
    obtain ⟨hcache, hunexpired⟩ := Option.filter_eq_some_iff.mp hentry
    refine ⟨s.activeCache, rfl, h.cached, ?_⟩
    intro triggers htriggers
    obtain rfl := Option.some.inj htriggers
    have hlt : s.now < entry.2 := by simpa using hunexpired
    exact (h.cached entry hcache).mono (fun _ hm => hm) (by linarith)
  · split_ifs
    · exact ⟨s.activeCache, rfl, h.cached, nofun⟩
    · cases hload : s.table.listActive model with
      | error e => exact ⟨s.activeCache, rfl, h.cached, nofun⟩
      | ok active =>
        refine ⟨_, rfl, ?_, ?_⟩
        · intro entry hentry
          obtain rfl := Option.some.inj hentry
          exact ⟨_, h.current, by simp [activeCacheTtl], active, hload, rfl⟩
        · intro triggers htriggers
          obtain rfl := Option.some.inj htriggers
          exact ⟨_, h.current, by norm_num [activeCacheTtl], active, hload, rfl⟩

/-- A step that leaves the pool's index and the refreshes alone. -/
theorem Sound.extend {s s' : WorkerProcess} (h : s.Sound model keccak256)
    (hmoments : s'.moments = s.moments ++ [(s'.now, s'.table)]) (hnow : s.now ≤ s'.now)
    (hrefreshes : s'.refreshes = s.refreshes)
    (hcached : ∀ entry, s'.activeCache = some entry →
      s.ActiveSince model (entry.2 - activeCacheTtl) fun active => entry.1 = active)
    (hpool : s'.poolIndex = s.poolIndex ∨ s.poolIndex = none)
    (hwired : s'.poolIndex.isSome = true → s'.processorIndex.isSome = true)
    (hprocessor : ∀ ix, s'.processorIndex = some ix →
      ix.index = TriggerIndex.refresh keccak256 s'.loaded) : s'.Sound model keccak256 := by
  have hmem : ∀ m ∈ s.moments, m ∈ s'.moments := by
    intro m hm
    rw [hmoments]
    exact List.mem_append_left _ hm
  refine ⟨?_, ?_, ?_, ?_, hwired, hprocessor⟩
  · rw [hmoments]
    exact List.mem_append_right _ (List.mem_singleton_self _)
  · intro T hT
    rw [hrefreshes] at hT
    exact (h.past T hT).trans hnow
  · intro entry hentry
    exact (hcached entry hentry).mono hmem le_rfl
  · intro T hT
    rw [hrefreshes] at hT
    obtain ⟨ix, hix, hactive⟩ := h.pool T hT
    rcases hpool with hsame | hnone
    · exact ⟨ix, by rw [hsame, hix], hactive.mono hmem le_rfl⟩
    · -- without a pool there has been no refresh
      rw [hnone] at hix
      cases hix

/-- What a refresh of an index does to the process, and what it loads. -/
theorem refresh_spec {s : WorkerProcess} (h : s.Sound model keccak256) (ix : IndexObject)
    (fails : Bool) :
    ∃ cache, (s.refresh model keccak256 ix fails).1 = { s with activeCache := cache } ∧
      (∀ entry, cache = some entry →
        s.ActiveSince model (entry.2 - activeCacheTtl) fun active => entry.1 = active) ∧
      (((s.refresh model keccak256 ix fails).2.2 = none ∧
          (s.refresh model keccak256 ix fails).2.1 = ix) ∨
        ∃ triggers, (s.refresh model keccak256 ix fails).2.2 = some triggers ∧
          (s.refresh model keccak256 ix fails).2.1.index = TriggerIndex.refresh keccak256 triggers ∧
          s.ActiveSince model (s.now - activeCacheTtl) fun active => triggers = active) := by
  obtain ⟨cache, hcache, hcached, hloaded⟩ := listActiveCached_spec h fails
  unfold refresh
  split
  · rename_i s' hlist
    rw [hlist] at hcache
    exact ⟨cache, hcache, hcached, Or.inl ⟨rfl, rfl⟩⟩
  · rename_i s' triggers hlist
    rw [hlist] at hcache hloaded
    exact ⟨cache, hcache, hcached, Or.inr ⟨triggers, rfl, rfl, hloaded triggers rfl⟩⟩

/-- A worker refreshes the pool's index: its triggers were active not before the refresh less the
lifetime of the cache, and so not before an earlier refresh less that either. -/
theorem Sound.refreshed {s : WorkerProcess} (h : s.Sound model keccak256) {ix ix' : IndexObject}
    (hix : s.poolIndex = some ix) {cache : Option (List TriggerRow × ℚ)}
    (hcached : ∀ entry, cache = some entry →
      s.ActiveSince model (entry.2 - activeCacheTtl) fun active => entry.1 = active)
    {triggers : List TriggerRow} (hindex : ix'.index = TriggerIndex.refresh keccak256 triggers)
    (hactive : s.ActiveSince model (s.now - activeCacheTtl) fun active => triggers = active) :
    ({ s with
        activeCache := cache
        poolIndex := some ix'
        refreshes := s.refreshes ++ [s.now]
        moments := s.moments ++ [(s.now, s.table)] } : WorkerProcess).Sound model keccak256 := by
  have hmem : ∀ m ∈ s.moments, m ∈ s.moments ++ [(s.now, s.table)] :=
    fun m hm => List.mem_append_left _ hm
  have hpast : ∀ T ∈ s.refreshes ++ [s.now], T ≤ s.now := by
    intro T hT
    rcases List.mem_append.mp hT with hT | hT
    · exact h.past T hT
    · exact (List.mem_singleton.mp hT).le
  refine ⟨List.mem_append_right _ (List.mem_singleton_self _), hpast, ?_, ?_, ?_, h.processor⟩
  · intro entry hentry
    exact (hcached entry hentry).mono hmem le_rfl
  · intro T hT
    obtain ⟨m, hm, hle, active, hload, htriggers⟩ := hactive
    refine ⟨ix', rfl, m, hmem m hm, ?_, active, hload, ?_⟩
    · exact (sub_le_sub_right (hpast T hT) activeCacheTtl).trans hle
    · show ix'.index = _
      rw [hindex, htriggers]
  · intro _
    exact h.wired (by rw [hix]; rfl)

/-- **A step keeps what is known of the process.** -/
theorem Sound.step {s : WorkerProcess} (h : s.Sound model keccak256) (a : ProcessAction) :
    (s.step model keccak256 a).Sound model keccak256 := by
  have hstay : ({ s with moments := s.moments ++ [(s.now, s.table)] } : WorkerProcess).Sound
      model keccak256 :=
    h.extend rfl le_rfl rfl h.cached (Or.inl rfl) h.wired h.processor
  -- after a write of this process the cache is empty, after another's it is as it was
  have hwritten : ∀ (here : Bool) entry,
      (if here then none else s.activeCache) = some entry →
        s.ActiveSince model (entry.2 - activeCacheTtl) fun active => entry.1 = active := by
    intro here entry hentry
    cases here with
    | true => cases hentry
    | false => exact h.cached entry hentry
  cases a with
  | wait seconds =>
    refine h.extend rfl ?_ rfl h.cached (Or.inl rfl) h.wired h.processor
    exact le_add_of_nonneg_right (le_max_left 0 seconds)
  | createTrigger row here =>
    simp only [WorkerProcess.step, act]
    split
    · exact hstay
    · exact h.extend rfl le_rfl rfl (hwritten here) (Or.inl rfl) h.wired h.processor
  | deactivateTrigger id here =>
    simp only [WorkerProcess.step, act]
    by_cases hunknown : (s.table.get? id).isNone = true
    · rw [if_pos hunknown]
      exact hstay
    · rw [if_neg hunknown]
      exact h.extend rfl le_rfl rfl (hwritten here) (Or.inl rfl) h.wired h.processor
  | injectIndex fails =>
    simp only [WorkerProcess.step, act]
    split_ifs with hinjected
    · exact hstay
    · obtain ⟨cache, hcache, hcached, hload⟩ := refresh_spec h {} fails
      rw [hcache]
      refine h.extend rfl le_rfl rfl hcached (Or.inl rfl) (fun _ => rfl) ?_
      intro ix hix
      obtain rfl := Option.some.inj hix
      rcases hload with ⟨hnone, hold⟩ | ⟨triggers, hsome, hindex, -⟩
      · rw [hnone, hold]
        rfl
      · rw [hsome, hindex]
        rfl
  | startPool fails =>
    simp only [WorkerProcess.step, act]
    split_ifs with hstarted
    · exact hstay
    · rw [Bool.or_eq_true, not_or] at hstarted
      have hinjected : s.processorIndex.isSome = true := by
        simpa [Option.isSome_iff_ne_none] using hstarted.1
      have hnone : s.poolIndex = none := by simpa using hstarted.2
      obtain ⟨cache, hcache, hcached, -⟩ := refresh_spec h {} fails
      rw [hcache]
      exact h.extend rfl le_rfl rfl hcached (Or.inr hnone) (fun _ => hinjected) h.processor
  | maybeRefresh fails =>
    simp only [WorkerProcess.step, act]
    split
    · exact hstay
    · rename_i ix hix
      split_ifs with hstale
      · obtain ⟨cache, hcache, hcached, hload⟩ := refresh_spec h ix fails
        split
        · rename_i s' _ hrefresh
          rw [hrefresh] at hcache
          obtain rfl : s' = { s with activeCache := cache } := hcache
          exact h.extend rfl le_rfl rfl hcached (Or.inl rfl) h.wired h.processor
        · rename_i s' ix' triggers hrefresh
          rw [hrefresh] at hcache hload
          obtain rfl : s' = { s with activeCache := cache } := hcache
          rcases hload with ⟨hnone, -⟩ | ⟨triggers', -, hindex, hactive⟩
          · cases hnone
          · exact h.refreshed hix hcached hindex hactive
      · exact hstay

/-- In every run, what is known of the process holds. -/
theorem sound_run (model : TriggerModel) (keccak256 : List UInt8 → List UInt8)
    (table : TriggerTable) (now : ℚ) (actions : List ProcessAction) :
    (run (WorkerProcess.step model keccak256) { table, now } actions).Sound model keccak256 := by
  refine run_invariant (I := Sound model keccak256) (fun s a h => h.step a) actions ?_
  exact ⟨List.mem_singleton_self _, nofun, nofun, nofun, nofun, nofun⟩

/-- **The pool's index is fresh**: after each refresh of a worker it is that of triggers that were
active not before the refresh less the lifetime of the cache. -/
theorem poolIndex_fresh (model : TriggerModel) (keccak256 : List UInt8 → List UInt8)
    (table : TriggerTable) (now : ℚ) (actions : List ProcessAction) :
    ∀ T ∈ (run (WorkerProcess.step model keccak256) { table, now } actions).refreshes,
      ∃ ix, (run (WorkerProcess.step model keccak256) { table, now } actions).poolIndex = some ix ∧
        (run (WorkerProcess.step model keccak256) { table, now } actions).ActiveSince model
          (T - activeCacheTtl) (Files keccak256 ix.index) := by
  intro T hT
  obtain ⟨ix, hix, m, hm, hle, active, hload, hindex⟩ :=
    (sound_run model keccak256 table now actions).pool T hT
  refine ⟨ix, hix, m, hm, hle, active, hload, ?_⟩
  rw [hindex, files_refresh_iff]
  exact fun _ => Iff.rfl

/-- Once there has been a refresh, detection matches against what the start-up loaded. -/
theorem Sound.matchesAgainst_iff {s : WorkerProcess} (h : s.Sound model keccak256) {T : ℚ}
    (hT : T ∈ s.refreshes) (triggers : List TriggerRow) :
    s.MatchesAgainst model keccak256 triggers ↔ ∀ t, t ∈ s.loaded ↔ t ∈ triggers := by
  obtain ⟨ix, hix, -⟩ := h.pool T hT
  have hwired : s.processorIndex.isSome = true := h.wired (by rw [hix]; rfl)
  obtain ⟨ix', hix'⟩ := Option.isSome_iff_exists.mp hwired
  rw [← files_refresh_iff keccak256, ← h.processor ix' hix', MatchesAgainst, sources,
    hix', Option.map_some]
  constructor
  · rintro ⟨index, hindex, hfiles⟩
    obtain rfl := Option.some.inj hindex
    exact hfiles
  · intro hfiles
    exact ⟨ix'.index, rfl, hfiles⟩

/-- **Detection is fresh** in a state of a run exactly when, for each refresh of a worker so far,
the triggers that the start-up loaded are those active at some time not before the refresh less the
lifetime of the cache: no refresh of a worker reaches the processor. -/
theorem detection_fresh_iff (model : TriggerModel) (keccak256 : List UInt8 → List UInt8)
    (table : TriggerTable) (now : ℚ) (actions : List ProcessAction) :
    (run (WorkerProcess.step model keccak256) { table, now } actions).DetectionFresh model
        keccak256 ↔
      (run (WorkerProcess.step model keccak256) { table, now } actions).StartupCurrent model := by
  have hsound := sound_run model keccak256 table now actions
  refine forall₂_congr fun T hT => ?_
  simp only [ActiveSince, hsound.matchesAgainst_iff hT]

end Freshness

end WorkerProcess

namespace Sample

/-- A process without triggers starts, a trigger is created, and eleven seconds later a worker
refreshes. -/
def lateTrigger : List ProcessAction :=
  [.injectIndex false, .startPool false, .createTrigger (storedTrigger swapTopic) true, .wait 11,
    .maybeRefresh false]

/-- The process after it. -/
def lateProcess : WorkerProcess :=
  run (WorkerProcess.step triggerModel fun _ => []) {} lateTrigger

end Sample

/-- The worker's refresh finds the new trigger, and detection does not. -/
theorem detection_stale_late_trigger :
    ¬ (run (WorkerProcess.step Sample.triggerModel fun _ => []) {}
      Sample.lateTrigger).DetectionFresh Sample.triggerModel fun _ => [] := by
  intro h
  have hrefreshed : (11 : ℚ) ∈ Sample.lateProcess.refreshes := by
    decide +kernel
  have hactive : ∀ m ∈ Sample.lateProcess.moments, (1 : ℚ) ≤ m.1 →
      m.2.listActive Sample.triggerModel = .ok [Sample.triggerRow Sample.swapTopic] := by
    decide +kernel
  have hempty : (Sample.lateProcess.sources Sample.triggerModel).triggerIndex = some [] := by
    decide +kernel
  obtain ⟨m, hm, hle, active, hload, index, hindex, hfiles⟩ := h 11 hrefreshed
  have hrow := hactive m hm (by norm_num [activeCacheTtl] at hle; exact hle)
  obtain rfl := Except.ok.inj (hload.symm.trans hrow)
  obtain rfl := Option.some.inj (hempty.symm.trans hindex)
  -- a trigger that is active is filed under its topic, but the index is empty
  have hfiled := (hfiles _ (Sample.triggerRow Sample.swapTopic)).mpr
    ⟨List.mem_singleton_self _,
      (WorkerProcess.keyOf_lower (Sample.triggerRow Sample.swapTopic)).symm⟩
  cases hfiled

end TripWire
