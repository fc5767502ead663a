import Mathlib
import TripWire.Ingestion.BusSystem

/-!
# At-least-once processing

Every entry that is still in its stream is open, or some worker has dealt with it: it was
undecodable, it was processed, or it is in the dead-letter stream (`Accounted`).  The commands of an
iteration close only what they acknowledge (`closes_iterate`), and what a worker acknowledges is
justified by its log (`worked_workerStep`, `worked_interrupted`).

`nothing_lost` concludes for every run of publishers and workers, whatever commands fail, wherever
workers die and whatever groups Redis loses.  The condition is that of a single worker: no call of
`process_event` returns a result with status `error`.  Entries are removed from a stream only when
100,000 newer ones are in it (`Limited`).
-/

namespace TripWire

open Py Machine

/-! ### One worker -/

/-- The state of a worker after `consume_events`. -/
def Worker.afterConsume (s : Worker) (it : Iteration) : Worker :=
  { s with bus := (consumeEvents it.consume s.bus).1 }

/-- The worker `s'` has come from `s` by an iteration: all that it acknowledged is justified, and
its log extends the one after `consume_events`. -/
structure Worked (s : Worker) (it : Iteration) (s' : Worker) : Prop where
  nothingLost : NothingLost s'
  extends_ : Extends (s.afterConsume it) s'

theorem NothingLost.afterConsume {s : Worker} (h : NothingLost s) (it : Iteration) :
    NothingLost (s.afterConsume it) ∧ Extends s (s.afterConsume it) :=
  @NothingLost.read s (s.afterConsume it) h (consumeEvents_readOnly it.consume s.bus) rfl

theorem intake_readOnly_consume (it : Iteration) (iteration : ℕ) (bus : Bus) :
    ReadOnly (consumeEvents it.consume bus).1 (intake it iteration bus).1 := by
  unfold intake
  cases hconsume : consumeEvents it.consume bus with
  | mk bus₁ answer =>
    cases answer with
    | error error => exact .refl bus₁
    | ok batch =>
      have hclaim := claimStale_readOnly it.claims [] bus₁
      dsimp only
      split
      · cases hstale : claimStale it.claims [] bus₁ with
        | mk bus₂ stale =>
          rw [hstale] at hclaim
          cases stale with
          | error error => exact hclaim
          | ok stale => exact hclaim
      · exact .refl bus₁

/-- What a worker that has read knows of its acknowledgements. -/
theorem NothingLost.intake {s t : Worker} {it : Iteration} (h : NothingLost s)
    (hbus : t.bus = (TripWire.intake it (s.iteration + 1) s.bus).1)
    (hresults : t.results = s.results) :
    NothingLost t ∧ Extends (s.afterConsume it) t := by
  have hread := intake_readOnly it (s.iteration + 1) s.bus
  have hconsumed := intake_readOnly_consume it (s.iteration + 1) s.bus
  rw [← hbus] at hread hconsumed
  refine ⟨(h.read hread hresults).1, hconsumed.undecodable, fun r hr => hresults ▸ hr, ?_⟩
  intro e he
  rw [hconsumed.dlq]
  exact he

/-- **An iteration.** -/
theorem worked_workerStep {s : Worker} {it : Iteration} (h : NothingLost s)
    (hit : NoErrorResult s it) : Worked s it (workerStep s it) := by
  refine ⟨h.step hit, ?_⟩
  unfold NoErrorResult at hit
  unfold workerStep
  dsimp only
  cases hintake : intake it (s.iteration + 1) s.bus with
  | mk bus messages? =>
    rw [hintake] at hit
    cases messages? with
    | none =>
      have hext := (h.intake (t := { s with bus }) (by rw [hintake]) rfl).2
      exact ⟨hext.undecodable, hext.results, hext.dlq⟩
    | some messages =>
      dsimp only
      generalize hs₂ :
        (if (s.iteration + 1) % failureCountsCleanupInterval = 0 then _ else _) = s₂
      have hbus : s₂.bus = bus ∧ s₂.results = s.results := by
        rw [← hs₂]
        split_ifs <;> exact ⟨rfl, rfl⟩
      have hread := (h.intake (by rw [hintake, hbus.1]) hbus.2).2
      have hattempt : ∀ j < messages.length, (it.attempt (0 + j)).ends ≠ .returned .error := by
        intro j hj
        rw [Nat.zero_add]
        exact hit messages rfl j hj
      have hgrows := (processMessages_handled messages 0 s₂ [] hattempt).grows
      exact ⟨fun m hm => hgrows.undecodable m (hread.undecodable m hm),
        fun r hr => hgrows.results r (hread.results r hr),
        fun e he => hgrows.dlq e (hread.dlq e he)⟩

/-- **An iteration that is cut off**, and the restart. -/
theorem worked_interrupted {s : Worker} {it : Iteration} (h : NothingLost s)
    (hit : NoErrorResult s it) (k : ℕ) : Worked s it (interrupted s it k).restarted := by
  unfold NoErrorResult at hit
  unfold interrupted
  dsimp only
  cases hintake : intake it (s.iteration + 1) s.bus with
  | mk bus messages? =>
    rw [hintake] at hit
    cases messages? with
    | none =>
      obtain ⟨hlost, hext⟩ := h.intake (t := { s with bus }) (by rw [hintake]) rfl
      exact ⟨hlost, hext.undecodable, hext.results, hext.dlq⟩
    | some messages =>
      dsimp only
      have hattempt : ∀ j < (messages.take k).length,
          (it.attempt (0 + j)).ends ≠ .returned .error := by
        intro j hj
        rw [Nat.zero_add]
        exact hit messages rfl j (hj.trans_le (List.length_take_le' _ _))
      obtain ⟨hlost, hext⟩ :=
        h.intake (t := { s with iteration := s.iteration + 1, bus }) (by rw [hintake]) rfl
      have hhandled := processMessages_handled (messages.take k) 0
        { s with iteration := s.iteration + 1, bus } [] hattempt
      have hgrows := hext.trans hhandled.grows
      refine ⟨fun m hm => ?_, hgrows.undecodable, hgrows.results, hgrows.dlq⟩
      -- processing acknowledges nothing by itself
      have hm : m ∈ bus.acked := by
        have hacked := hhandled.acked
        rw [← hacked]
        exact hm
      have hjustified := (hlost m hm).extends hhandled.grows
      exact hjustified

/-- What is acknowledged on the way from `bus` to `bus'` is justified by the log `bus'`. -/
theorem justified_of_ackedBetween {s : Worker} (h : NothingLost s)
    {xack : MessageKey → CommandFate} {bus : Bus} {m : MessageKey}
    (hm : ackedBetween xack bus s.bus m = true) : Justified s m := by
  unfold ackedBetween at hm
  rw [Bool.or_eq_true, Bool.and_eq_true, List.contains_iff_mem, List.contains_iff_mem] at hm
  rcases hm with hm | ⟨hm, -⟩
  · exact h m (List.mem_of_mem_drop hm)
  · exact .inl (List.mem_of_mem_drop hm)

/-! ### The system -/

namespace BusSystem

variable {s : BusSystem}

/-- Some worker has dealt with the message. -/
def Settled (s : BusSystem) (m : MessageKey) : Prop := ∃ w, Justified (s.workers w).worker m

/-- Every acknowledgement is justified, and every entry in a stream is open or settled. -/
structure Accounted (s : BusSystem) : Prop where
  nothingLost : ∀ w, NothingLost (s.workers w).worker
  settled : ∀ key id, (s.streams key).Kept id → (s.streams key).Open id ∨ s.Settled (key, id)

/-- Only entries that have become too old are removed. -/
def Limited (s : BusSystem) : Prop :=
  ∀ key, (s.streams key).trimmed ≤ (s.streams key).added.length - maxStreamLen

/-- No call of `process_event` in the step returns a result with status `error`. -/
def NoErrorStep (s : BusSystem) : BusAction → Prop
  | .iterate w env | .interrupt w env _ =>
    NoErrorResult (s.workers w).worker (s.iteration w env)
  | _ => True

instance (a : BusAction) : Decidable (s.NoErrorStep a) :=
  match a with
  | .iterate w env | .interrupt w env _ =>
    inferInstanceAs (Decidable (NoErrorResult (s.workers w).worker (s.iteration w env)))
  | .publish .. | .write .. | .assign .. | .loseGroup .. => isTrue trivial

/-! ### An iteration -/

/-- The commands of an iteration keep the logs of the streams. -/
theorem sameLogs_withWorker (s : BusSystem) (w : ℕ) (env : Surroundings) (worker : Worker) :
    SameLogs s.streams (s.withWorker w env worker).streams := by
  have hread : SameLogs s.streams (env.consumeStreams (s.workers w) s.streams) := by
    unfold Surroundings.consumeStreams
    split
    · exact sameLogs_readStreams _ _ _ _
    · exact fun _ => ⟨rfl, rfl⟩
  have hclaimed : SameLogs (s.consumedStreams w env) (s.claimed w env).1 := by
    unfold claimed
    split
    · exact (closes_claimStreams _ _ _ _).1
    · exact fun _ => ⟨rfl, rfl⟩
  exact ((hread.trans (sameLogs_ackStreams _ _)).trans hclaimed).trans (sameLogs_ackStreams _ _)

/-- **An iteration closes what it acknowledges only**: in `consume_events`, or later. -/
theorem closes_withWorker (s : BusSystem) (w : ℕ) (env : Surroundings) (worker : Worker) :
    Closes
      (fun m =>
        ackedBetween env.xack (s.workers w).worker.bus (s.consumeBus w env) m = true ∨
          ackedBetween env.xack (s.consumeBus w env) worker.bus m = true)
      s.streams (s.withWorker w env worker).streams := by
  have hread : Closes (fun _ => False) s.streams
      (env.consumeStreams (s.workers w) s.streams) := by
    unfold Surroundings.consumeStreams
    split
    · exact closes_readStreams _ _ _ _
    · exact .refl _
  have hclaimed : Closes (fun _ => False) (s.consumedStreams w env) (s.claimed w env).1 := by
    unfold claimed
    split
    · exact (closes_claimStreams _ _ _ _).2
    · exact .refl _
  refine (((hread.trans (closes_ackStreams _ _)).trans hclaimed).trans
    (closes_ackStreams _ _)).mono ?_
  rintro m (((hm | hm) | hm) | hm)
  · exact hm.elim
  · exact .inl hm
  · exact hm.elim
  · exact .inr hm

/-- The state after a worker has worked. -/
theorem Accounted.withWorker (h : s.Accounted) {w : ℕ} {env : Surroundings} {worker : Worker}
    (hworked : Worked (s.workers w).worker (s.iteration w env) worker) :
    (s.withWorker w env worker).Accounted := by
  have hself : ((s.withWorker w env worker).workers w).worker = worker := by
    show (Function.update s.workers w _ w).worker = worker
    rw [Function.update_self]
  have hother {v : ℕ} (hv : v ≠ w) : (s.withWorker w env worker).workers v = s.workers v := by
    show Function.update s.workers w _ v = s.workers v
    exact Function.update_of_ne hv _ _
  -- what a worker had dealt with it still has
  have hold : ∀ m, s.Settled m → (s.withWorker w env worker).Settled m := by
    rintro m ⟨v, hv⟩
    by_cases hvw : v = w
    · subst hvw
      have hread := (h.nothingLost v).afterConsume (s.iteration v env)
      exact ⟨v, hself.symm ▸ (hv.extends hread.2).extends hworked.extends_⟩
    · exact ⟨v, (hother hvw).symm ▸ hv⟩
  refine ⟨fun v => ?_, fun key id hkept => ?_⟩
  · by_cases hvw : v = w
    · subst hvw
      rw [hself]
      exact hworked.nothingLost
    · rw [hother hvw]
      exact h.nothingLost v
  · rcases closes_withWorker s w env worker key id hkept with hopen | hacked | ⟨hkept, hopen⟩
    · exact .inl hopen
    · right
      refine ⟨w, hself.symm ▸ ?_⟩
      rcases hacked with hacked | hacked
      · have hread := (h.nothingLost w).afterConsume (s.iteration w env)
        exact (justified_of_ackedBetween hread.1 hacked).extends hworked.extends_
      · exact justified_of_ackedBetween hworked.nothingLost hacked
    · rcases h.settled key id hkept with hopen' | hsettled
      · exact absurd hopen' hopen
      · exact .inr (hold _ hsettled)

/-! ### The other steps -/

/-- A step in which no worker works. -/
theorem Accounted.of_closes {s' : BusSystem} (h : s.Accounted)
    (hworkers : ∀ w, (s'.workers w).worker = (s.workers w).worker)
    (hcloses : Closes (fun _ => False) s.streams s'.streams) : s'.Accounted := by
  have hsettled : ∀ m, s.Settled m → s'.Settled m := by
    rintro m ⟨w, hw⟩
    exact ⟨w, (hworkers w).symm ▸ hw⟩
  refine ⟨fun w => (hworkers w).symm ▸ h.nothingLost w, fun key id hkept => ?_⟩
  rcases hcloses key id hkept with hopen | hfalse | ⟨hkept, hopen⟩
  · exact .inl hopen
  · exact hfalse.elim
  · rcases h.settled key id hkept with hopen' | hm
    · exact absurd hopen' hopen
    · exact .inr (hsettled _ hm)

theorem worker_give (b : PoolWorker) (key : String) : (b.give key).worker = b.worker := by
  unfold PoolWorker.give
  split <;> rfl

/-- A group that is lost opens every entry again. -/
theorem closes_dropGroup (streams : String → EventStream) (key : String) :
    Closes (fun _ => False) streams (Function.update streams key (streams key).dropGroup) := by
  have hsame : SameLogs streams (Function.update streams key (streams key).dropGroup) :=
    .update rfl rfl
  refine .of_open (fun _ _ h => hsame.kept h) ?_
  intro key' id hkept hopen
  by_cases hkey : key' = key
  · subst hkey
    rw [Function.update_self]
    exact GroupedStream.open_dropGroup hkept.mem_added
  · rw [Function.update_of_ne hkey]
    exact hopen

/-- **The step lemma.** -/
theorem Accounted.step (h : s.Accounted) {a : BusAction} (ha : s.NoErrorStep a) :
    (s.step a).Accounted := by
  cases a with
  | publish call trim => exact h.of_closes (fun _ => rfl) (closes_addEntries _ _ _)
  | write key id payload trim => exact h.of_closes (fun _ => rfl) (closes_add _ _ _ _ _ _)
  | iterate w env => exact h.withWorker (worked_workerStep (h.nothingLost w) ha)
  | interrupt w env k => exact h.withWorker (worked_interrupted (h.nothingLost w) ha k)
  | assign w key =>
    refine h.of_closes (fun v => ?_) (.refl _)
    by_cases hv : v = w
    · subst hv
      show (Function.update s.workers v _ v).worker = _
      rw [Function.update_self, worker_give]
    · show (Function.update s.workers w _ v).worker = _
      rw [Function.update_of_ne hv]
  | loseGroup key => exact h.of_closes (fun _ => rfl) (closes_dropGroup _ _)

/-! ### The length of a stream -/

theorem Limited.of_sameLogs {s' : BusSystem} (h : s.Limited)
    (hsame : SameLogs s.streams s'.streams) : s'.Limited := by
  intro key
  rw [(hsame key).1, (hsame key).2]
  exact h key

theorem limited_update {streams : String → EventStream}
    (h : ∀ key, (streams key).trimmed ≤ (streams key).added.length - maxStreamLen)
    (key id : String) (payload : Option Value) (trim : ℕ) (key' : String) :
    (Function.update streams key ((streams key).add id payload maxStreamLen trim) key').trimmed ≤
      (Function.update streams key ((streams key).add id payload maxStreamLen trim)
        key').added.length - maxStreamLen := by
  by_cases hkey : key' = key
  · subst hkey
    rw [Function.update_self]
    exact GroupedStream.trimmed_add_le (h key') _ _ _
  · rw [Function.update_of_ne hkey]
    exact h key'

theorem limited_addEntries (trim : ℕ) (entries : List StreamEntry)
    {streams : String → EventStream}
    (h : ∀ key, (streams key).trimmed ≤ (streams key).added.length - maxStreamLen) (key : String) :
    (addEntries trim streams entries key).trimmed ≤
      (addEntries trim streams entries key).added.length - maxStreamLen := by
  induction entries generalizing streams with
  | nil => exact h key
  | cons e entries ih => exact ih (limited_update h e.streamKey e.messageId _ trim)

/-- **A step removes only what has become too old.** -/
theorem Limited.step (h : s.Limited) (a : BusAction) : (s.step a).Limited := by
  cases a with
  | publish call trim => exact limited_addEntries trim _ h
  | write key id payload trim => exact limited_update h key id payload trim
  | iterate w env => exact h.of_sameLogs (sameLogs_withWorker _ _ _ _)
  | interrupt w env k => exact h.of_sameLogs (sameLogs_withWorker _ _ _ _)
  | assign w key => exact h
  | loseGroup key => exact h.of_sameLogs (.update rfl rfl)

/-! ### Runs -/

/-- At the start the streams are empty and the workers have done nothing. -/
theorem accounted_start (publisher : Publisher) (workers : ℕ → PoolWorker)
    (hfresh : ∀ w, (workers w).worker = {}) :
    Accounted { publisher, streams := fun _ => {}, workers } where
  nothingLost w := by
    rw [hfresh w]
    exact fun m hm => absurd hm List.not_mem_nil
  settled key id hkept := absurd hkept List.not_mem_nil

theorem limited_start (publisher : Publisher) (workers : ℕ → PoolWorker) :
    Limited { publisher, streams := fun _ => {}, workers } := fun _ => Nat.zero_le _

end BusSystem

open BusSystem

/-- **Nothing is lost between the publishers and the workers.**  In every run of publishing calls,
foreign writes, iterations of any workers, crashes, new assignments and lost groups, in which no
`process_event` returns a result with status `error`: of the 100,000 newest entries of a stream each
one is unread, or waits for its acknowledgement, or some worker found it undecodable, processed it,
or wrote it to the dead-letter stream. -/
theorem nothing_lost (publisher : Publisher) (workers : ℕ → PoolWorker)
    (hfresh : ∀ w, (workers w).worker = {}) {actions : List BusAction}
    (hactions : Meets BusSystem.step NoErrorStep { publisher, streams := fun _ => {}, workers }
      actions) (key id : String) :
    let s := run BusSystem.step { publisher, streams := fun _ => {}, workers } actions
    id ∈ ((s.streams key).added.drop ((s.streams key).added.length - maxStreamLen)).map Prod.fst →
      (s.streams key).Unread id ∨ (s.streams key).Waiting id ∨
        ∃ w, Justified (s.workers w).worker (key, id) := by
  intro s hid
  have haccounted : s.Accounted :=
    run_induction (fun _ _ h ha => h.step ha) (accounted_start publisher workers hfresh) hactions
  have hlimited : s.Limited :=
    run_invariant (fun _ a h => h.step a) actions (limited_start publisher workers)
  have hkept := GroupedStream.kept_of_newest (hlimited key) le_rfl hid
  exact or_assoc.mp (haccounted.settled key id hkept)

namespace Sample

/-- An iteration in which every `process_event` ends in the given way. -/
def allEnd (ends : ProcessEnd) : Surroundings where
  attempt := fun _ => { ends }

/-- A worker fails on an entry, dies, and has its group taken away before it processes the entry. -/
def troubledRun : List BusAction :=
  [.write "tripwire:events:0x00" "1-0" (some (.dict [])) 0, .assign 0 "tripwire:events:0x00",
    .iterate 0 (allEnd .raised), .interrupt 0 (allEnd (.returned .processed)) 1,
    .loseGroup "tripwire:events:0x00", .iterate 0 (allEnd (.returned .processed))]

end Sample

theorem nothing_lost_troubled :
    let s := run BusSystem.step {} Sample.troubledRun
    (s.streams "tripwire:events:0x00").Unread "1-0" ∨
      (s.streams "tripwire:events:0x00").Waiting "1-0" ∨
        ∃ w, Justified (s.workers w).worker ("tripwire:events:0x00", "1-0") :=
  @nothing_lost { known := [] } (fun _ => {}) (fun _ => rfl) Sample.troubledRun
    (by decide +kernel) "tripwire:events:0x00" "1-0" (by decide +kernel)

end TripWire
