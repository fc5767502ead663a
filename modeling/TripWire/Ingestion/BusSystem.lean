import Mathlib
import TripWire.Ingestion.StreamRouting
import TripWire.Ingestion.TriggerWorker
import TripWire.Lib.ConsumerGroup

/-!
# Publishers, streams and workers

Any number of workers on the streams of one Redis: the iterations of `TriggerWorker.start` with what
Redis answers to them.  In `Ingestion/TriggerWorker` the answers are arbitrary; here they come from
the streams, whose consumer group is `trigger-workers` (`Lib/ConsumerGroup`), and what an iteration
acknowledges is acknowledged there.

Any command may fail, before it is executed or after, a worker may die in the middle of an
iteration, and Redis may lose a group.  `Closes` is what all of these keep: an entry that is still
in its stream stays open unless it is acknowledged (`closes_readStreams`, `closes_claimStreams`,
`closes_addEntries`, and `closes_ackStreams` for the acknowledgements themselves).
-/

namespace TripWire

open Py Machine

/-! ### The state -/

/-- `MAX_STREAM_LEN`. -/
def maxStreamLen : ℕ := 100000

/-- `CLAIM_IDLE_MS`. -/
def claimIdleMs : ℤ := 30000

/-- The `batch_size` of `consume_events`. -/
def consumeBatchSize : ℕ := 50

/-- The `count` of `claim_stale`. -/
def claimCount : ℕ := 10

/-- An event stream: the ids and the payloads as `Entry` has them, and consumers by their name. -/
abbrev EventStream := GroupedStream String (Option Value) String

/-- A worker with the streams it was given. -/
structure PoolWorker where
  /-- `worker_id`, which is the consumer name. -/
  workerId : String := "worker-0"
  streamKeys : List String := []
  streamKeys_nodup : streamKeys.Nodup := by simp
  worker : Worker := {}

/-- The publishing process, the streams and the workers. -/
structure BusSystem where
  publisher : Publisher := { known := [] }
  streams : String → EventStream := fun _ => {}
  workers : ℕ → PoolWorker := fun _ => {}

/-! ### What the outside does during an iteration -/

/-- What becomes of a Redis command: it is answered, it is executed while the answer is lost, or it
is not executed. -/
inductive CommandFate where
  | answered
  | lost
  | failed
  deriving DecidableEq

/-- The command takes effect. -/
def CommandFate.executed : CommandFate → Bool
  | .answered | .lost => true
  | .failed => false

/-- What the client is told. -/
def CommandFate.error : CommandFate → Option RedisError
  | .answered => none
  | .lost | .failed => some .other

/-- The commands of `claim_stale` for one stream. -/
structure ClaimFate where
  ensure : Option RedisError := none
  /-- The group is gone, which skips the stream. -/
  noGroup : Bool := false
  claim : CommandFate := .answered

/-- The surroundings of an iteration. -/
structure Surroundings where
  ensure : Option RedisError := none
  /-- The first `XREADGROUP` finds no group; the groups are created anew. -/
  noGroup : Bool := false
  read : CommandFate := .answered
  /-- The clock of Redis, in milliseconds, when the new entries are read. -/
  readAt : ℤ := 0
  claim : String → ClaimFate := fun _ => {}
  /-- The clock of Redis when stale entries are claimed. -/
  claimAt : ℤ := 0
  /-- The acknowledgement of an undecodable message. -/
  xack : MessageKey → CommandFate := fun _ => .answered
  attempt : ℕ → Attempt
  /-- The clock of the worker at the cleanup of the failure counts. -/
  now : ℤ := 0
  took : String → Bool := fun _ => true

/-! ### Redis during an iteration -/

/-- The entries of a stream as a response has them. -/
def entriesOf (key : String) (es : List (String × Option Value)) : List Entry :=
  es.map fun e => ⟨(key, e.1), e.2⟩

/-- The response to `XREADGROUP` over `keys`. -/
def readResponse (keys : List String) (streams : String → EventStream) : List Entry :=
  keys.flatMap fun key => entriesOf key ((streams key).createGroup.newEntries consumeBatchSize)

/-- The streams after `XREADGROUP` over `keys`. -/
def readStreams (keys : List String) (consumer : String) (now : ℤ)
    (streams : String → EventStream) : String → EventStream := fun key =>
  if key ∈ keys then (streams key).createGroup.readNew consumer now consumeBatchSize
  else streams key

/-- What `consume_events` is told. -/
def Surroundings.consumeAnswer (env : Surroundings) (entries : List Entry) : ConsumeAnswer :=
  let answer : Except RedisError (List Entry) :=
    match env.read.error with
    | none => .ok entries
    | some error => .error error
  { ensure := env.ensure
    read := if env.noGroup then .error .noGroup else answer
    reread := answer
    xack := fun m => (env.xack m).error }

/-- The streams after the reading command of `consume_events`. -/
def Surroundings.consumeStreams (env : Surroundings) (b : PoolWorker)
    (streams : String → EventStream) : String → EventStream :=
  if env.ensure.isNone && env.read.executed then
    readStreams b.streamKeys b.workerId env.readAt streams
  else streams

/-- An undecodable entry cannot be acknowledged, which ends the loop over the entries. -/
def ackFails (xack : MessageKey → CommandFate) (entries : List Entry) : Bool :=
  entries.any fun e => e.payload.isNone && (xack e.message).error.isSome

/-- The claiming commands of `claim_stale`, stream by stream: the streams after them and the
answers.  An exception ends the loop. -/
def claimStreams (env : Surroundings) (consumer : String) :
    List String → (String → EventStream) → (String → EventStream) × List ClaimAnswer
  | [], streams => (streams, [])
  | key :: keys, streams =>
    let fate := env.claim key
    let claimed := (streams key).createGroup.autoClaim consumer env.claimAt claimIdleMs claimCount
    let entries := entriesOf key claimed.2
    let xack : MessageKey → Option RedisError := fun m => (env.xack m).error
    if fate.ensure.isSome then (streams, [⟨fate.ensure, .error .other, xack⟩])
    else if fate.noGroup then
      let rest := claimStreams env consumer keys streams
      (rest.1, ⟨none, .error .noGroup, xack⟩ :: rest.2)
    else
      match fate.claim with
      | .failed => (streams, [⟨none, .error .other, xack⟩])
      | .lost => (Function.update streams key claimed.1, [⟨none, .error .other, xack⟩])
      | .answered =>
        let streams' := Function.update streams key claimed.1
        if ackFails env.xack entries then (streams', [⟨none, .ok entries, xack⟩])
        else
          let rest := claimStreams env consumer keys streams'
          (rest.1, ⟨none, .ok entries, xack⟩ :: rest.2)

/-- The messages that were acknowledged between two states of a worker's log: those it knows of, and
undecodable ones whose acknowledgement was executed while the answer was lost. -/
def ackedBetween (xack : MessageKey → CommandFate) (bus bus' : Bus) (m : MessageKey) : Bool :=
  (bus'.acked.drop bus.acked.length).contains m ||
    ((bus'.undecodable.drop bus.undecodable.length).contains m && decide (xack m = .lost))

/-- The acknowledgements in the streams. -/
def ackStreams (acked : MessageKey → Bool) (streams : String → EventStream) :
    String → EventStream :=
  fun key => (streams key).ack fun id => acked (key, id)

namespace BusSystem

variable (s : BusSystem) (w : ℕ) (env : Surroundings)

/-- What `consume_events` of worker `w` is told. -/
def consumeAnswer : ConsumeAnswer :=
  env.consumeAnswer (readResponse (s.workers w).streamKeys s.streams)

/-- The log of the worker after `consume_events`. -/
def consumeBus : Bus := (consumeEvents (s.consumeAnswer w env) (s.workers w).worker.bus).1

/-- The streams after `consume_events`. -/
def consumedStreams : String → EventStream :=
  ackStreams (ackedBetween env.xack (s.workers w).worker.bus (s.consumeBus w env))
    (env.consumeStreams (s.workers w) s.streams)

/-- The iteration comes to `claim_stale`. -/
def claims : Bool :=
  (consumeEvents (s.consumeAnswer w env) (s.workers w).worker.bus).2.toOption.isSome &&
    decide (((s.workers w).worker.iteration + 1) % 10 = 0)

/-- The streams after the claiming commands, and the answers to them. -/
def claimed : (String → EventStream) × List ClaimAnswer :=
  if s.claims w env then
    claimStreams env (s.workers w).workerId (s.workers w).streamKeys (s.consumedStreams w env)
  else (s.consumedStreams w env, [])

/-- The iteration as the worker sees it. -/
def iteration : Iteration where
  consume := s.consumeAnswer w env
  claims := (s.claimed w env).2
  attempt := env.attempt
  now := env.now
  took := env.took

/-- The state in which the worker is afterwards `worker`. -/
def withWorker (worker : Worker) : BusSystem :=
  { s with
    streams := ackStreams (ackedBetween env.xack (s.consumeBus w env) worker.bus)
      (s.claimed w env).1
    workers := Function.update s.workers w { s.workers w with worker } }

/-- One iteration of worker `w`. -/
def iterate : BusSystem :=
  s.withWorker w env (workerStep (s.workers w).worker (s.iteration w env))

end BusSystem

/-- An iteration that ends after `k` messages, with nothing acknowledged for them. -/
def interrupted (s : Worker) (it : Iteration) (k : ℕ) : Worker :=
  let iteration := s.iteration + 1
  match intake it iteration s.bus with
  | (bus, none) => { s with iteration, bus }
  | (bus, some messages) =>
    (processMessages it.attempt 0 (messages.take k) { s with iteration, bus } []).1

/-- A worker after its process has come up again: what it held in memory is gone.  The log of what
it did stays. -/
def Worker.restarted (s : Worker) : Worker := { bus := s.bus, results := s.results }

/-- A worker with one more stream, if it has not got it. -/
def PoolWorker.give (b : PoolWorker) (key : String) : PoolWorker :=
  if h : key ∈ b.streamKeys then b
  else
    { b with
      streamKeys := b.streamKeys ++ [key]
      streamKeys_nodup := by
        rw [List.nodup_append]
        refine ⟨b.streamKeys_nodup, List.nodup_singleton _, ?_⟩
        intro a ha c hc
        rw [List.mem_singleton] at hc
        rintro rfl
        exact h (hc ▸ ha) }

/-- A step of the system. -/
inductive BusAction where
  /-- A call of the publishing process; how much is trimmed at each `XADD`. -/
  | publish (call : PublishCall) (trim : ℕ)
  /-- An entry that somebody else writes, readable or not. -/
  | write (key : String) (id : String) (payload : Option Value) (trim : ℕ)
  | iterate (w : ℕ) (env : Surroundings)
  /-- The worker dies during an iteration and is restarted. -/
  | interrupt (w : ℕ) (env : Surroundings) (k : ℕ)
  /-- `WorkerPool` gives a stream to a worker. -/
  | assign (w : ℕ) (key : String)
  /-- Redis loses the group of a stream. -/
  | loseGroup (key : String)

namespace BusSystem

/-- The streams with the entries that a publishing process has added. -/
def addEntries (trim : ℕ) (streams : String → EventStream) (entries : List StreamEntry) :
    String → EventStream :=
  entries.foldl (fun streams e => Function.update streams e.streamKey
    ((streams e.streamKey).add e.messageId (some (.dict e.payload)) maxStreamLen trim)) streams

/-- The state after a step. -/
def step (s : BusSystem) : BusAction → BusSystem
  | .publish call trim =>
    let publisher := s.publisher.step call
    { s with
      publisher
      streams := addEntries trim s.streams
        (publisher.entries.drop s.publisher.entries.length) }
  | .write key id payload trim =>
    { s with
      streams := Function.update s.streams key
        ((s.streams key).add id payload maxStreamLen trim) }
  | .iterate w env => s.iterate w env
  | .interrupt w env k =>
    s.withWorker w env (interrupted (s.workers w).worker (s.iteration w env) k).restarted
  | .assign w key => { s with workers := Function.update s.workers w ((s.workers w).give key) }
  | .loseGroup key =>
    { s with streams := Function.update s.streams key (s.streams key).dropGroup }

end BusSystem

/-! ### What a step closes -/

/-- An entry of the log after some commands is open, or `closed` names it, or it was in the log
before and not open. -/
def Closes (closed : MessageKey → Prop) (before after : String → EventStream) : Prop :=
  ∀ key id, (after key).Kept id →
    (after key).Open id ∨ closed (key, id) ∨ ((before key).Kept id ∧ ¬ (before key).Open id)

namespace Closes

variable {closed closed' : MessageKey → Prop} {before between after : String → EventStream}

theorem trans (h : Closes closed before between) (h' : Closes closed' between after) :
    Closes (fun m => closed m ∨ closed' m) before after := by
  intro key id hkept
  rcases h' key id hkept with hopen | hclosed | ⟨hkept', hopen'⟩
  · exact .inl hopen
  · exact .inr (.inl (.inr hclosed))
  · rcases h key id hkept' with hopen | hclosed | hbefore
    · exact absurd hopen hopen'
    · exact .inr (.inl (.inl hclosed))
    · exact .inr (.inr hbefore)

theorem mono (h : Closes closed before after) (himp : ∀ m, closed m → closed' m) :
    Closes closed' before after := by
  intro key id hkept
  rcases h key id hkept with hopen | hclosed | hbefore
  · exact .inl hopen
  · exact .inr (.inl (himp _ hclosed))
  · exact .inr (.inr hbefore)

/-- Commands that keep the log of each stream and leave open what was. -/
theorem of_open (hkept : ∀ key id, (after key).Kept id → (before key).Kept id)
    (hopen : ∀ key id, (before key).Kept id → (before key).Open id → (after key).Open id) :
    Closes (fun _ => False) before after := by
  intro key id hid
  by_cases h : (before key).Open id
  · exact .inl (hopen key id (hkept key id hid) h)
  · exact .inr (.inr ⟨hkept key id hid, h⟩)

theorem refl (streams : String → EventStream) : Closes (fun _ => False) streams streams :=
  of_open (fun _ _ h => h) fun _ _ _ h => h

end Closes

/-- Two states of the streams have the same entries. -/
def SameLogs (before after : String → EventStream) : Prop :=
  ∀ key, (after key).added = (before key).added ∧ (after key).trimmed = (before key).trimmed

theorem SameLogs.kept {before after : String → EventStream} (h : SameLogs before after)
    {key id : String} (hid : (after key).Kept id) : (before key).Kept id := by
  unfold GroupedStream.Kept at hid ⊢
  rw [(h key).1, (h key).2] at hid
  exact hid

theorem SameLogs.trans {before between after : String → EventStream}
    (h : SameLogs before between) (h' : SameLogs between after) : SameLogs before after :=
  fun key => ⟨(h' key).1.trans (h key).1, (h' key).2.trans (h key).2⟩

theorem SameLogs.update {before : String → EventStream} {key : String} {stream : EventStream}
    (hadded : stream.added = (before key).added)
    (htrimmed : stream.trimmed = (before key).trimmed) :
    SameLogs before (Function.update before key stream) := by
  intro key'
  by_cases hkey : key' = key
  · subst hkey
    rw [Function.update_self]
    exact ⟨hadded, htrimmed⟩
  · rw [Function.update_of_ne hkey]
    exact ⟨rfl, rfl⟩

/-! ### The commands -/

theorem sameLogs_ackStreams (acked : MessageKey → Bool) (streams : String → EventStream) :
    SameLogs streams (ackStreams acked streams) := fun _ => ⟨rfl, rfl⟩

/-- Acknowledgements close what they name. -/
theorem closes_ackStreams (acked : MessageKey → Bool) (streams : String → EventStream) :
    Closes (fun m => acked m = true) streams (ackStreams acked streams) := by
  intro key id hkept
  by_cases hopen : (streams key).Open id
  · cases hacked : acked (key, id) with
    | true => exact .inr (.inl hacked)
    | false => exact .inl (GroupedStream.open_ack hopen hacked)
  · exact .inr (.inr ⟨hkept, hopen⟩)

theorem sameLogs_readStreams (keys : List String) (consumer : String) (now : ℤ)
    (streams : String → EventStream) :
    SameLogs streams (readStreams keys consumer now streams) := by
  intro key
  unfold readStreams
  split
  · exact ⟨GroupedStream.added_createGroup, GroupedStream.trimmed_createGroup⟩
  · exact ⟨rfl, rfl⟩

/-- A stream whose group is created in case it is not there. -/
theorem open_create {stream : EventStream} {id : String} (hkept : stream.Kept id)
    (hopen : stream.Open id) : stream.createGroup.Kept id ∧ stream.createGroup.Open id := by
  refine ⟨?_, GroupedStream.open_createGroup hopen hkept.mem_added⟩
  unfold GroupedStream.Kept at hkept ⊢
  rw [GroupedStream.added_createGroup, GroupedStream.trimmed_createGroup]
  exact hkept

/-- Reading closes nothing. -/
theorem closes_readStreams (keys : List String) (consumer : String) (now : ℤ)
    (streams : String → EventStream) :
    Closes (fun _ => False) streams (readStreams keys consumer now streams) := by
  refine .of_open (fun key id h => (sameLogs_readStreams keys consumer now streams).kept h) ?_
  intro key id hkept hopen
  unfold readStreams
  split
  · obtain ⟨hkept', hopen'⟩ := open_create hkept hopen
    exact GroupedStream.open_readNew hkept' hopen' _ _ _
  · exact hopen

/-- A claim on one stream keeps the logs and closes nothing. -/
theorem closes_claim (streams : String → EventStream) (key consumer : String) (now : ℤ) :
    SameLogs streams (Function.update streams key
        ((streams key).createGroup.autoClaim consumer now claimIdleMs claimCount).1) ∧
      Closes (fun _ => False) streams (Function.update streams key
        ((streams key).createGroup.autoClaim consumer now claimIdleMs claimCount).1) := by
  have hsame : SameLogs streams (Function.update streams key
      ((streams key).createGroup.autoClaim consumer now claimIdleMs claimCount).1) :=
    .update GroupedStream.added_createGroup GroupedStream.trimmed_createGroup
  refine ⟨hsame, .of_open (fun _ _ h => hsame.kept h) ?_⟩
  intro key' id hkept hopen
  by_cases hkey : key' = key
  · subst hkey
    rw [Function.update_self]
    obtain ⟨hkept', hopen'⟩ := open_create hkept hopen
    exact GroupedStream.open_autoClaim hkept' hopen' _ _ _ _
  · rw [Function.update_of_ne hkey]
    exact hopen

/-- **Claiming closes nothing**, wherever it ends. -/
theorem closes_claimStreams (env : Surroundings) (consumer : String) (keys : List String)
    (streams : String → EventStream) :
    SameLogs streams (claimStreams env consumer keys streams).1 ∧
      Closes (fun _ => False) streams (claimStreams env consumer keys streams).1 := by
  induction keys generalizing streams with
  | nil => exact ⟨fun _ => ⟨rfl, rfl⟩, .refl streams⟩
  | cons key keys ih =>
    obtain ⟨hsame, hclaim⟩ := closes_claim streams key consumer env.claimAt
    rw [claimStreams]
    dsimp only
    split
    · exact ⟨fun _ => ⟨rfl, rfl⟩, .refl streams⟩
    split
    · exact ih streams
    split
    · exact ⟨fun _ => ⟨rfl, rfl⟩, .refl streams⟩
    · exact ⟨hsame, hclaim⟩
    split
    · exact ⟨hsame, hclaim⟩
    · obtain ⟨hsame', hclaim'⟩ := ih (Function.update streams key
        ((streams key).createGroup.autoClaim consumer env.claimAt claimIdleMs claimCount).1)
      exact ⟨hsame.trans hsame', (hclaim.trans hclaim').mono fun _ h => h.elim id id⟩

/-- The entry that an `XADD` adds is open, and the others stay open. -/
theorem closes_add (streams : String → EventStream) (key id : String) (payload : Option Value)
    (maxLen trim : ℕ) :
    Closes (fun _ => False) streams
      (Function.update streams key ((streams key).add id payload maxLen trim)) := by
  intro key' id' hkept
  by_cases hkey : key' = key
  · subst hkey
    rw [Function.update_self] at hkept ⊢
    by_cases hopen : (streams key').Open id'
    · exact .inl (GroupedStream.open_add hopen _ _ _ _)
    · rcases hkept.of_add with hold | rfl
      · exact .inr (.inr ⟨hold, hopen⟩)
      · by_cases hnew : id' ∈ (streams key').added.map Prod.fst
        · -- an id that was given before adds nothing
          have hsame : (streams key').add id' payload maxLen trim = streams key' := by
            rw [GroupedStream.add, dif_pos hnew]
          rw [hsame] at hkept
          exact .inr (.inr ⟨hkept, hopen⟩)
        · exact .inl (GroupedStream.open_add_self hnew _ _ _)
  · rw [Function.update_of_ne hkey] at hkept ⊢
    by_cases hopen : (streams key').Open id'
    · exact .inl hopen
    · exact .inr (.inr ⟨hkept, hopen⟩)

theorem closes_addEntries (trim : ℕ) (entries : List StreamEntry) (streams : String → EventStream) :
    Closes (fun _ => False) streams (BusSystem.addEntries trim streams entries) := by
  induction entries generalizing streams with
  | nil => exact .refl streams
  | cons e entries ih =>
    have hfirst := closes_add streams e.streamKey e.messageId (some (.dict e.payload)) maxStreamLen
      trim
    exact (hfirst.trans (ih _)).mono fun _ h => h.elim id id

end TripWire
