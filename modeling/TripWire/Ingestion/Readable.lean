import Mathlib
import TripWire.Ingestion.AtLeastOnce

/-!
# What a worker puts aside as undecodable

A worker acknowledges an entry that it cannot decode, so such an entry has to be one that nobody can
decode.  `Truthful` is the invariant: what the workers have noted as undecodable is in the streams,
and has no readable payload there.  An iteration hands the worker entries of the streams only
(`mem_added_readResponse`, `mem_added_claimStreams`), and the log of a stream keeps what was added
(`mem_added_step`).
-/

namespace TripWire

open Py Machine

/-! ### What reading notes -/

/-- The entries have an unreadable one for the message. -/
def NotesFrom (entries : List Entry) (m : MessageKey) : Prop :=
  ∃ e ∈ entries, e.message = m ∧ e.payload = none

theorem undecodable_readEntries (xack : MessageKey → Option RedisError) (entries : List Entry)
    (bus : Bus) {m : MessageKey} (hm : m ∈ (readEntries xack entries bus).1.undecodable) :
    m ∈ bus.undecodable ∨ NotesFrom entries m := by
  induction entries generalizing bus with
  | nil => exact .inl hm
  | cons e es ih =>
    have hlater : NotesFrom es m → NotesFrom (e :: es) m := by
      rintro ⟨e', he', h⟩
      exact ⟨e', List.mem_cons_of_mem _ he', h⟩
    rw [readEntries] at hm
    cases hpayload : e.payload with
    | some raw =>
      rw [hpayload] at hm
      exact (ih bus hm).imp_right hlater
    | none =>
      have hnoted : m ∈ bus.undecodable ++ [e.message] → m ∈ bus.undecodable ∨
          NotesFrom (e :: es) m := by
        intro h
        rcases List.mem_append.mp h with h | h
        · exact .inl h
        · rw [List.mem_singleton] at h
          exact .inr ⟨e, List.mem_cons_self, h.symm, hpayload⟩
      rw [hpayload] at hm
      dsimp only at hm
      split at hm
      · exact hnoted hm
      · rcases ih _ hm with h | h
        · exact hnoted h
        · exact .inr (hlater h)

theorem undecodable_consumeEvents (a : ConsumeAnswer) (bus : Bus) {m : MessageKey}
    (hm : m ∈ (consumeEvents a bus).1.undecodable) :
    m ∈ bus.undecodable ∨ ∃ entries, a.response = .ok entries ∧ NotesFrom entries m := by
  unfold consumeEvents at hm
  cases hresponse : a.response with
  | error error =>
    rw [hresponse] at hm
    exact .inl hm
  | ok entries =>
    have hread := undecodable_readEntries a.xack entries bus (m := m)
    rw [hresponse] at hm
    dsimp only at hm
    have hm' : m ∈ (readEntries a.xack entries bus).1.undecodable := by
      cases hentries : readEntries a.xack entries bus with
      | mk bus' rest =>
        obtain ⟨messages, error⟩ := rest
        rw [hentries] at hm
        cases error with
        | some error => exact hm
        | none => exact hm
    exact (hread hm').imp_right fun h => ⟨entries, rfl, h⟩

theorem undecodable_claimStale (answers : List ClaimAnswer) (results : List (MessageKey × Value))
    (bus : Bus) {m : MessageKey} (hm : m ∈ (claimStale answers results bus).1.undecodable) :
    m ∈ bus.undecodable ∨
      ∃ a ∈ answers, ∃ entries, a.claimed = .ok entries ∧ NotesFrom entries m := by
  induction answers generalizing results bus with
  | nil => exact .inl hm
  | cons a as ih =>
    have hlater : (∃ b ∈ as, ∃ entries, b.claimed = .ok entries ∧ NotesFrom entries m) →
        ∃ b ∈ a :: as, ∃ entries, b.claimed = .ok entries ∧ NotesFrom entries m := by
      rintro ⟨b, hb, h⟩
      exact ⟨b, List.mem_cons_of_mem _ hb, h⟩
    have hfirst : m ∈ (claimStream a bus).1.undecodable → m ∈ bus.undecodable ∨
        ∃ b ∈ a :: as, ∃ entries, b.claimed = .ok entries ∧ NotesFrom entries m := by
      intro h
      unfold claimStream at h
      cases hclaimed : a.claimed with
      | error error =>
        rw [hclaimed] at h
        exact .inl h
      | ok entries =>
        rw [hclaimed] at h
        exact (undecodable_readEntries a.xack entries bus h).imp_right fun h =>
          ⟨a, List.mem_cons_self, entries, hclaimed, h⟩
    rw [claimStale] at hm
    split at hm
    · exact .inl hm
    · cases hclaim : claimStream a bus with
      | mk bus' rest =>
        obtain ⟨messages, error⟩ := rest
        rw [hclaim] at hm hfirst
        dsimp only at hm hfirst
        have hrest {results : List (MessageKey × Value)}
            (h : m ∈ (claimStale as results bus').1.undecodable) :
            m ∈ bus.undecodable ∨
              ∃ b ∈ a :: as, ∃ entries, b.claimed = .ok entries ∧ NotesFrom entries m := by
          rcases ih _ _ h with h | h
          · exact hfirst h
          · exact .inr (hlater h)
        cases error with
        | none => exact hrest hm
        | some error =>
          cases error with
          | noGroup => exact hrest hm
          | other => exact hfirst hm

theorem undecodable_intake (it : Iteration) (iteration : ℕ) (bus : Bus) {m : MessageKey}
    (hm : m ∈ (intake it iteration bus).1.undecodable) :
    m ∈ bus.undecodable ∨ (∃ entries, it.consume.response = .ok entries ∧ NotesFrom entries m) ∨
      ∃ a ∈ it.claims, ∃ entries, a.claimed = .ok entries ∧ NotesFrom entries m := by
  have hconsume : m ∈ (consumeEvents it.consume bus).1.undecodable → m ∈ bus.undecodable ∨
      (∃ entries, it.consume.response = .ok entries ∧ NotesFrom entries m) ∨
        ∃ a ∈ it.claims, ∃ entries, a.claimed = .ok entries ∧ NotesFrom entries m :=
    fun h => (undecodable_consumeEvents it.consume bus h).imp_right .inl
  unfold intake at hm
  cases hread : consumeEvents it.consume bus with
  | mk bus₁ answer =>
    rw [hread] at hm hconsume
    cases answer with
    | error error => exact hconsume hm
    | ok batch =>
      dsimp only at hm hconsume
      split at hm
      · have hclaim := undecodable_claimStale it.claims [] bus₁ (m := m)
        have hm' : m ∈ (claimStale it.claims [] bus₁).1.undecodable := by
          cases hstale : claimStale it.claims [] bus₁ with
          | mk bus₂ stale =>
            rw [hstale] at hm
            cases stale with
            | error error => exact hm
            | ok stale => exact hm
        rcases hclaim hm' with h | h
        · exact hconsume h
        · exact .inr (.inr h)
      · exact hconsume hm

/-- Processing notes nothing. -/
theorem undecodable_processMessages (attempt : ℕ → Attempt) (messages : List (MessageKey × Value))
    (i : ℕ) (s : Worker) (acks : AckMap) :
    (processMessages attempt i messages s acks).1.bus.undecodable = s.bus.undecodable := by
  induction messages generalizing i s acks with
  | nil => rfl
  | cons head rest ih =>
    have hfailure : (handleFailure (attempt i) head.1 head.2 s acks).1.bus.undecodable =
        s.bus.undecodable := by
      unfold handleFailure
      dsimp only
      split <;> rfl
    rw [processMessages]
    dsimp only
    rw [ih, processMessage]
    split
    · rfl
    · exact hfailure
    · exact hfailure

theorem undecodable_workerStep (s : Worker) (it : Iteration) :
    (workerStep s it).bus.undecodable = (intake it (s.iteration + 1) s.bus).1.undecodable := by
  unfold workerStep
  dsimp only
  cases intake it (s.iteration + 1) s.bus with
  | mk bus messages? =>
    cases messages? with
    | none => rfl
    | some messages =>
      dsimp only
      show (processMessages it.attempt 0 messages _ []).1.bus.undecodable = _
      rw [undecodable_processMessages]
      split <;> rfl

theorem undecodable_interrupted (s : Worker) (it : Iteration) (k : ℕ) :
    (interrupted s it k).restarted.bus.undecodable =
      (intake it (s.iteration + 1) s.bus).1.undecodable := by
  show (interrupted s it k).bus.undecodable = _
  unfold interrupted
  dsimp only
  cases intake it (s.iteration + 1) s.bus with
  | mk bus messages? =>
    cases messages? with
    | none => rfl
    | some messages => exact undecodable_processMessages _ _ _ _ _

/-! ### What the streams answer -/

/-- The entries are those of the streams. -/
def FromStreams (streams : String → EventStream) (entries : List Entry) : Prop :=
  ∀ e ∈ entries, (e.message.2, e.payload) ∈ (streams e.message.1).added

theorem fromStreams_entriesOf {streams : String → EventStream} {key : String}
    {es : List (String × Option Value)} (h : ∀ e ∈ es, e ∈ (streams key).added) :
    FromStreams streams (entriesOf key es) := by
  intro e he
  obtain ⟨e', he', rfl⟩ := List.mem_map.mp he
  exact h e' he'

theorem fromStreams_readResponse (keys : List String) (streams : String → EventStream) :
    FromStreams streams (readResponse keys streams) := by
  intro e he
  obtain ⟨key, -, he⟩ := List.mem_flatMap.mp he
  refine fromStreams_entriesOf (fun e' he' => ?_) e he
  have hmem := List.mem_of_mem_take he'
  rw [GroupedStream.added_createGroup] at hmem
  exact List.mem_of_mem_drop hmem

theorem fromStreams_claimStreams (env : Surroundings) (consumer : String) (keys : List String)
    (streams : String → EventStream) :
    ∀ a ∈ (claimStreams env consumer keys streams).2, ∀ entries, a.claimed = .ok entries →
      FromStreams streams entries := by
  induction keys generalizing streams with
  | nil => exact fun _ ha => absurd ha List.not_mem_nil
  | cons key keys ih =>
    obtain ⟨hsame, -⟩ := closes_claim streams key consumer env.claimAt
    have hrest : ∀ a ∈ (claimStreams env consumer keys (Function.update streams key
        ((streams key).createGroup.autoClaim consumer env.claimAt claimIdleMs claimCount).1)).2,
        ∀ entries, a.claimed = .ok entries → FromStreams streams entries := by
      intro a ha entries hentries e he
      rw [← (hsame e.message.1).1]
      exact ih _ a ha entries hentries e he
    have hfirst : FromStreams streams (entriesOf key
        ((streams key).createGroup.autoClaim consumer env.claimAt claimIdleMs claimCount).2) := by
      refine fromStreams_entriesOf fun e he => ?_
      have hmem := GroupedStream.mem_added_of_mem_autoClaim he
      rwa [GroupedStream.added_createGroup] at hmem
    intro a ha entries hentries
    rw [claimStreams] at ha
    dsimp only at ha
    split at ha
    · rw [List.mem_singleton] at ha
      subst ha
      cases hentries
    split at ha
    · rcases List.mem_cons.mp ha with rfl | ha
      · cases hentries
      · exact ih _ a ha entries hentries
    split at ha
    · rw [List.mem_singleton] at ha
      subst ha
      cases hentries
    · rw [List.mem_singleton] at ha
      subst ha
      cases hentries
    split at ha
    · rw [List.mem_singleton] at ha
      subst ha
      cases hentries
      exact hfirst
    · rcases List.mem_cons.mp ha with rfl | ha
      · cases hentries
        exact hfirst
      · exact hrest a ha entries hentries

/-! ### The invariant -/

namespace BusSystem

variable {s : BusSystem} {w : ℕ} {env : Surroundings}

/-- What a worker has noted as undecodable is an entry without a readable payload. -/
def Truthful (s : BusSystem) : Prop :=
  ∀ w, ∀ m ∈ (s.workers w).worker.bus.undecodable, (m.2, none) ∈ (s.streams m.1).added

/-- The entries of an iteration are those of the streams. -/
theorem fromStreams_iteration (s : BusSystem) (w : ℕ) (env : Surroundings) :
    (∀ entries, (s.iteration w env).consume.response = .ok entries →
      FromStreams s.streams entries) ∧
    ∀ a ∈ (s.iteration w env).claims, ∀ entries, a.claimed = .ok entries →
      FromStreams s.streams entries := by
  constructor
  · intro entries hresponse
    have hanswer : entries = readResponse (s.workers w).streamKeys s.streams := by
      have hresponse : (s.consumeAnswer w env).response = .ok entries := hresponse
      unfold consumeAnswer Surroundings.consumeAnswer ConsumeAnswer.response at hresponse
      dsimp only at hresponse
      cases hensure : env.ensure with
      | some error =>
        rw [hensure] at hresponse
        cases hresponse
      | none =>
        rw [hensure] at hresponse
        cases hread : env.read.error with
        | some error =>
          have hother : error = .other := by
            cases hfate : env.read with
            | answered =>
              rw [hfate] at hread
              cases hread
            | lost =>
              rw [hfate] at hread
              exact (Option.some.inj hread).symm
            | failed =>
              rw [hfate] at hread
              exact (Option.some.inj hread).symm
          subst hother
          rw [hread] at hresponse
          cases hgroup : env.noGroup with
          | true =>
            rw [hgroup] at hresponse
            cases hresponse
          | false =>
            rw [hgroup] at hresponse
            cases hresponse
        | none =>
          rw [hread] at hresponse
          cases hgroup : env.noGroup with
          | true =>
            rw [hgroup] at hresponse
            cases hresponse
            rfl
          | false =>
            rw [hgroup] at hresponse
            cases hresponse
            rfl
    rw [hanswer]
    exact fromStreams_readResponse _ _
  · intro a ha entries hentries e he
    have ha : a ∈ (s.claimed w env).2 := ha
    unfold claimed at ha
    split at ha
    · have hfrom := fromStreams_claimStreams env _ _ _ a ha entries hentries e he
      have hsame : SameLogs s.streams (s.consumedStreams w env) := by
        have hread : SameLogs s.streams (env.consumeStreams (s.workers w) s.streams) := by
          unfold Surroundings.consumeStreams
          split
          · exact sameLogs_readStreams _ _ _ _
          · exact fun _ => ⟨rfl, rfl⟩
        exact hread.trans (sameLogs_ackStreams _ _)
      rwa [(hsame e.message.1).1] at hfrom
    · exact absurd ha List.not_mem_nil

/-- The state after a worker has worked, where it notes what it takes in. -/
theorem Truthful.withWorker (h : s.Truthful) {worker : Worker}
    (hworker : worker.bus.undecodable = (intake (s.iteration w env)
      ((s.workers w).worker.iteration + 1) (s.workers w).worker.bus).1.undecodable) :
    (s.withWorker w env worker).Truthful := by
  have hsame := sameLogs_withWorker s w env worker
  have hnoted {entries : List Entry} (hfrom : FromStreams s.streams entries) {m : MessageKey}
      (hm : NotesFrom entries m) : (m.2, none) ∈ (s.streams m.1).added := by
    obtain ⟨e, he, rfl, hpayload⟩ := hm
    rw [← hpayload]
    exact hfrom e he
  intro v m hm
  rw [(hsame m.1).1]
  have hm :
      m ∈ (Function.update s.workers w { s.workers w with worker } v).worker.bus.undecodable :=
    hm
  by_cases hv : v = w
  · subst hv
    rw [Function.update_self, hworker] at hm
    rcases undecodable_intake _ _ _ hm with hm | ⟨entries, hread, hm⟩ | ⟨a, ha, entries, hread, hm⟩
    · exact h v m hm
    · exact hnoted ((fromStreams_iteration s v env).1 entries hread) hm
    · exact hnoted ((fromStreams_iteration s v env).2 a ha entries hread) hm
  · rw [Function.update_of_ne hv] at hm
    exact h v m hm

/-! ### Steps -/

theorem mem_added_update {streams : String → EventStream} {key : String}
    {x : String × Option Value} (hx : x ∈ (streams key).added) (key' id : String)
    (payload : Option Value) (trim : ℕ) :
    x ∈ (Function.update streams key' ((streams key').add id payload maxStreamLen trim)
      key).added := by
  by_cases hkey : key = key'
  · subst hkey
    rw [Function.update_self]
    unfold GroupedStream.add
    split
    · exact hx
    · exact List.mem_append_left _ hx
  · rw [Function.update_of_ne hkey]
    exact hx

theorem mem_added_addEntries {streams : String → EventStream} {key : String}
    {x : String × Option Value} (hx : x ∈ (streams key).added) (trim : ℕ)
    (entries : List StreamEntry) : x ∈ (addEntries trim streams entries key).added := by
  induction entries generalizing streams with
  | nil => exact hx
  | cons e entries ih => exact ih (mem_added_update hx _ _ _ _)

/-- **What was added stays in the history of its stream.** -/
theorem mem_added_step {key : String} {x : String × Option Value} (hx : x ∈ (s.streams key).added)
    (a : BusAction) : x ∈ ((s.step a).streams key).added := by
  cases a with
  | publish call trim => exact mem_added_addEntries hx trim _
  | write key' id payload trim => exact mem_added_update hx _ _ _ _
  | iterate w env =>
    show x ∈ ((s.withWorker w env _).streams key).added
    rw [(sameLogs_withWorker s w env _ key).1]
    exact hx
  | interrupt w env k =>
    show x ∈ ((s.withWorker w env _).streams key).added
    rw [(sameLogs_withWorker s w env _ key).1]
    exact hx
  | assign w key' => exact hx
  | loseGroup key' =>
    have hsame : SameLogs s.streams (Function.update s.streams key' (s.streams key').dropGroup) :=
      .update rfl rfl
    show x ∈ (Function.update s.streams key' (s.streams key').dropGroup key).added
    rw [(hsame key).1]
    exact hx

/-- **The step lemma.** -/
theorem Truthful.step (h : s.Truthful) (a : BusAction) : (s.step a).Truthful := by
  have hquiet {s' : BusSystem}
      (hworkers : ∀ v, (s'.workers v).worker = (s.workers v).worker)
      (hadded : ∀ key, ∀ x ∈ (s.streams key).added, x ∈ (s'.streams key).added) : s'.Truthful := by
    intro v m hm
    rw [hworkers v] at hm
    exact hadded m.1 _ (h v m hm)
  cases a with
  | publish call trim =>
    exact hquiet (fun _ => rfl) fun _ _ hx => mem_added_step hx (.publish call trim)
  | write key id payload trim =>
    exact hquiet (fun _ => rfl) fun _ _ hx => mem_added_step hx (.write key id payload trim)
  | loseGroup key => exact hquiet (fun _ => rfl) fun _ _ hx => mem_added_step hx (.loseGroup key)
  | iterate w env => exact h.withWorker (undecodable_workerStep _ _)
  | interrupt w env k => exact h.withWorker (undecodable_interrupted _ _ _)
  | assign w key =>
    refine hquiet (fun v => ?_) fun _ _ hx => hx
    show (Function.update s.workers w _ v).worker = _
    by_cases hv : v = w
    · subst hv
      rw [Function.update_self, worker_give]
    · rw [Function.update_of_ne hv]

/-- An entry with a readable payload was noted by no worker. -/
theorem Truthful.readable (h : s.Truthful) {key id : String} {payload : Value}
    (hadded : (id, some payload) ∈ (s.streams key).added) (w : ℕ) :
    (key, id) ∉ (s.workers w).worker.bus.undecodable := by
  intro hm
  have hnone := h w _ hm
  have hsame := List.inj_on_of_nodup_map (s.streams key).ids_nodup hadded hnone rfl
  cases hsame

end BusSystem

end TripWire
