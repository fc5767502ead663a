import Mathlib
import TripWire.Ingestion.Detection
import TripWire.Lib.Bins
import TripWire.Lib.Machine

/-!
# Streams and their consumers

Publishing derives the key of a stream from the first topic of a log
(`tripwire/ingestion/event_bus.py`); the worker pool looks for stream keys in Redis and gives each
to one of its workers (`tripwire/ingestion/trigger_worker.py`).  Three caps apply: `MAX_STREAMS` to
the keys that a process publishes to, `MAX_STREAMS` to the keys that the pool knows, and
`_MAX_STREAMS_PER_WORKER` to what `add_stream` gives to a worker.

The pool comes to know streams in an order: those of its start, sorted, and then, pass by pass, the
new ones that a scan finds.  `Filled` is the invariant of the pool: its workers hold the first
`capacity` streams of that order, each once, and are balanced.  `stream_consumers_iff` reads off it
which streams have a worker.
-/

namespace TripWire

open Py Machine Bins

/-- `STREAM_PREFIX`. -/
def streamPrefix : String := "tripwire:events:"

/-- `MAX_STREAMS`. -/
def maxStreams : ℕ := 500

/-- `_MAX_STREAMS_PER_WORKER`. -/
def maxStreamsPerWorker : ℕ := 100

/-- `s.add(x)` on a set, whose members are listed in the order in which they came. -/
def setAdd {α : Type*} [DecidableEq α] (s : List α) (x : α) : List α :=
  if x ∈ s then s else s ++ [x]

theorem setAdd_of_notMem {α : Type*} [DecidableEq α] {xs : List α} {x : α} (h : x ∉ xs) :
    setAdd xs x = xs ++ [x] := if_neg h

/-- `sorted(set(keys))`.  Texts are compared by code points, in Python as here. -/
def sortedSet (keys : List String) : List String := keys.dedup.insertionSort (· ≤ ·)

/-! ### Publishing -/

/-- `[0-9a-f]`. -/
def isLowerHexDigit (c : Char) : Bool := ('0' ≤ c && c ≤ '9') || ('a' ≤ c && c ≤ 'f')

/-- `_HEX_TOPIC_RE.match`: the pattern `^0x[0-9a-f]{64}$`, whose `$` also matches before a newline
that ends the text. -/
def matchesHexTopic (s : String) : Bool :=
  match s.toList with
  | '0' :: 'x' :: cs =>
    let hs := if cs.getLast? = some '\n' then cs.dropLast else cs
    hs.length == 64 && hs.all isLowerHexDigit
  | _ => false

/-- `_stream_key_for`. -/
def streamKeyFor (raw : Dict) : Except PyError String :=
  match parseTopicsValue (raw.getD "topics" (.list [])) with
  | [] => .ok (streamPrefix ++ "unknown")
  | topic :: _ => do
    let topic0 ← lowerValue topic
    return streamPrefix ++ if matchesHexTopic topic0 then topic0 else "unknown"

/-- `_check_stream_cap`: `_known_stream_keys` after it, and the key to publish to. -/
def checkStreamCap (known : List String) (streamKey : String) : List String × String :=
  if streamKey ∈ known then (known, streamKey)
  -- the overflow stream is not added to the known keys
  else if maxStreams ≤ known.length then (known, streamPrefix ++ "unknown")
  else (setAdd known streamKey, streamKey)

/-- The loop of `publish_batch` over its logs: `_known_stream_keys` after it, and the keys of the
commands in the pipeline, unless a log raises. -/
def batchStreamKeys : List String → List Dict → List String × Except PyError (List String)
  | known, [] => (known, .ok [])
  | known, raw :: raws =>
    match streamKeyFor raw with
    | .error error => (known, .error error)
    | .ok attempted =>
      let (known, streamKey) := checkStreamCap known attempted
      let (known, rest) := batchStreamKeys known raws
      (known, rest.map (streamKey :: ·))

/-- The streams, the processes that publish to them and the pool that consumes them. -/
structure StreamSystem where
  /-- The keys in Redis that match `tripwire:events:*`. -/
  streams : List String
  /-- `_known_stream_keys` of each process that publishes. -/
  knownStreamKeys : ℕ → List String
  /-- `_known_streams` of the pool. -/
  knownStreams : List String
  /-- `stream_keys` of each worker of the pool. -/
  workers : List (List String)

namespace StreamSystem

/-- `XADD`, which creates its stream; `took` says whether it took effect. -/
def xadd (s : StreamSystem) (streamKey : String) (took : Bool) : StreamSystem :=
  if took then { s with streams := setAdd s.streams streamKey } else s

/-- `publish_event` in the process `p`. -/
def publishEvent (s : StreamSystem) (p : ℕ) (raw : Dict) (took : Bool) : StreamSystem :=
  match streamKeyFor raw with
  | .error _ => s
  | .ok attempted =>
    let (known, streamKey) := checkStreamCap (s.knownStreamKeys p) attempted
    { s with knownStreamKeys := Function.update s.knownStreamKeys p known }.xadd streamKey took

/-- `publish_batch` in the process `p`.  Its pipeline is not a transaction: each command may take
effect or not. -/
def publishBatch (s : StreamSystem) (p : ℕ) (raws : List Dict) (took : ℕ → Bool) : StreamSystem :=
  let (known, keys) := batchStreamKeys (s.knownStreamKeys p) raws
  let s := { s with knownStreamKeys := Function.update s.knownStreamKeys p known }
  match keys with
  | .error _ => s
  | .ok keys => keys.zipIdx.foldl (fun s key => s.xadd key.1 (took key.2)) s

/-- `init_stream_keys` in the process `p`. -/
def initStreamKeys (s : StreamSystem) (p : ℕ) : StreamSystem :=
  { s with knownStreamKeys :=
      Function.update s.knownStreamKeys p (s.streams.foldl setAdd (s.knownStreamKeys p)) }

/-! ### The pool -/

/-- The streams that `start` partitions: those of the scan, unless it raises, and those of the
topics of the trigger index. -/
def startStreams (streams : List String) (scanFails : Bool) (topics : List String) : List String :=
  let discovered := if scanFails then [] else streams
  let keys := sortedSet (discovered ++ topics.map (streamPrefix ++ ·))
  (if keys = [] then [streamPrefix ++ "default"] else keys).take maxStreams

/-- The partition of `start`: `partitions[i % num_workers].append(key)`. -/
def partition (numWorkers : ℕ) (keys : List String) : List (List String) :=
  deal numWorkers 0 keys (List.replicate numWorkers [])

/-- `start`, of a pool of `numWorkers` workers. -/
def start (numWorkers : ℕ) (streams : List String) (knownStreamKeys : ℕ → List String)
    (scanFails : Bool) (topics : List String) : StreamSystem where
  streams
  knownStreamKeys
  knownStreams := startStreams streams scanFails topics
  workers := partition numWorkers (startStreams streams scanFails topics)

/-- `add_stream`.  The consumer group it makes sure of is that of a stream that Redis holds. -/
def addStream (s : StreamSystem) (streamKey : String) : StreamSystem :=
  match s.workers[leastLoaded s.workers]? with
  | none => s
  | some worker =>
    if maxStreamsPerWorker ≤ worker.length then s
    else { s with workers := place (leastLoaded s.workers) streamKey s.workers }

/-- The body of the loop of a discovery pass: the stream is known from here on, also where
`add_stream` has found no room for it. -/
def learn (s : StreamSystem) (streamKey : String) : StreamSystem :=
  { s.addStream streamKey with knownStreams := setAdd s.knownStreams streamKey }

/-- The loop of a discovery pass over the sorted new streams. -/
def discoverLoop : List String → StreamSystem → StreamSystem
  | [], s => s
  | streamKey :: keys, s =>
    if maxStreams ≤ s.knownStreams.length then s else discoverLoop keys (s.learn streamKey)

/-- `sorted(set(current) - self._known_streams)`, of a scan that found the streams in Redis. -/
def newStreams (s : StreamSystem) : List String :=
  sortedSet (s.streams.filter (· ∉ s.knownStreams))

/-- A pass of `_discover_streams_loop`. -/
def discover (s : StreamSystem) (scanFails : Bool) : StreamSystem :=
  if scanFails then s else s.discoverLoop s.newStreams

end StreamSystem

/-- What can happen next. -/
inductive StreamAction where
  | publishEvent (p : ℕ) (raw : Dict) (took : Bool)
  | publishBatch (p : ℕ) (raws : List Dict) (took : ℕ → Bool)
  /-- `init_stream_keys` in a process. -/
  | initStreamKeys (p : ℕ)
  /-- A worker of any pool creates a consumer group, and with it the stream (`mkstream`). -/
  | createGroup (topic : String)
  /-- A discovery pass, whose scan may raise. -/
  | discover (scanFails : Bool)

namespace StreamSystem

/-- One step. -/
def step (s : StreamSystem) : StreamAction → StreamSystem
  | .publishEvent p raw took => s.publishEvent p raw took
  | .publishBatch p raws took => s.publishBatch p raws took
  | .initStreamKeys p => s.initStreamKeys p
  | .createGroup topic => { s with streams := setAdd s.streams (streamPrefix ++ topic) }
  | .discover scanFails => s.discover scanFails

/-- The number of workers that have a stream among their `stream_keys`. -/
def consumers (s : StreamSystem) (streamKey : String) : ℕ :=
  s.workers.countP (streamKey ∈ ·)

/-- The streams in the order in which the pool comes to know them, with those that the next pass
finds. -/
def arrivals (s : StreamSystem) : List String := s.knownStreams ++ s.newStreams

/-- How many streams `numWorkers` workers take, of a pool that started with `started` streams. -/
def capacity (numWorkers started : ℕ) : ℕ :=
  max started (min maxStreams (maxStreamsPerWorker * numWorkers))

/-! ### The invariant -/

/-- The workers of the pool, `numWorkers` many, hold the first streams that the pool came to know,
as many as it has the capacity for. -/
structure Filled (numWorkers : ℕ) (initial : List String) (s : StreamSystem) : Prop where
  length_workers : s.workers.length = numWorkers
  balanced : Balanced s.workers
  started : initial <+: s.knownStreams
  nodup : s.knownStreams.Nodup
  bounded : s.knownStreams.length ≤ maxStreams
  assigned : s.workers.flatten.Perm
    (s.knownStreams.take (capacity numWorkers initial.length))

theorem nodup_sortedSet (keys : List String) : (sortedSet keys).Nodup :=
  (List.perm_insertionSort _ _).nodup_iff.mpr (List.nodup_dedup keys)

theorem mem_sortedSet {keys : List String} {key : String} :
    key ∈ sortedSet keys ↔ key ∈ keys :=
  (List.perm_insertionSort _ _).mem_iff.trans List.mem_dedup

theorem nodup_startStreams (streams : List String) (scanFails : Bool) (topics : List String) :
    (startStreams streams scanFails topics).Nodup := by
  refine List.Nodup.sublist (List.take_sublist _ _) ?_
  generalize (if scanFails then [] else streams) = discovered
  split
  · exact List.nodup_singleton _
  · exact nodup_sortedSet _

theorem length_startStreams (streams : List String) (scanFails : Bool) (topics : List String) :
    (startStreams streams scanFails topics).length ≤ maxStreams := List.length_take_le _ _

/-- Without topics in the index a pool starts with the streams in Redis, up to the cap. -/
theorem perm_startStreams {streams : List String} (hne : streams ≠ []) (hnodup : streams.Nodup)
    (hlen : streams.length ≤ maxStreams) : (startStreams streams false []).Perm streams := by
  have hperm : (sortedSet streams).Perm streams := by
    rw [sortedSet, hnodup.dedup]
    exact List.perm_insertionSort _ streams
  have hkeys : sortedSet streams ≠ [] := by
    intro hnil
    rw [hnil] at hperm
    exact hne hperm.nil_eq.symm
  simp only [startStreams, Bool.false_eq_true, if_false, List.map_nil, List.append_nil,
    if_neg hkeys]
  rw [List.take_of_length_le (hperm.length_eq.trans_le hlen)]
  exact hperm

/-- A pool that starts is filled. -/
theorem filled_start {numWorkers : ℕ} (hn : 0 < numWorkers) (streams : List String)
    (knownStreamKeys : ℕ → List String) (scanFails : Bool) (topics : List String) :
    (start numWorkers streams knownStreamKeys scanFails topics).Filled numWorkers
      (startStreams streams scanFails topics) where
  length_workers := (length_deal _ _ _ _).trans List.length_replicate
  balanced := balanced_deal hn _
  started := List.prefix_rfl
  nodup := nodup_startStreams _ _ _
  bounded := length_startStreams _ _ _
  assigned := by
    have hdealt := perm_flatten_deal hn (startStreams streams scanFails topics) 0
      (List.replicate numWorkers []) List.length_replicate
    have htake : (startStreams streams scanFails topics).take
        (capacity numWorkers (startStreams streams scanFails topics).length) =
          startStreams streams scanFails topics := by
      apply List.take_of_length_le
      exact le_max_left _ _
    rw [List.flatten_replicate_nil, List.nil_append] at hdealt
    show (partition numWorkers _).flatten.Perm
      ((startStreams streams scanFails topics).take _)
    rw [htake]
    exact hdealt

/-- The invariant is about the pool: publishing and creating groups leave it alone. -/
theorem Filled.congr {numWorkers : ℕ} {initial : List String} {s s' : StreamSystem}
    (h : s.Filled numWorkers initial) (hknown : s'.knownStreams = s.knownStreams)
    (hworkers : s'.workers = s.workers) : s'.Filled numWorkers initial where
  length_workers := hworkers ▸ h.length_workers
  balanced := hworkers ▸ h.balanced
  started := hknown ▸ h.started
  nodup := hknown ▸ h.nodup
  bounded := hknown ▸ h.bounded
  assigned := hworkers ▸ hknown ▸ h.assigned

section Pool

variable {numWorkers : ℕ} {initial : List String} {s : StreamSystem}

theorem Filled.workers_ne_nil (h : s.Filled numWorkers initial) (hn : 0 < numWorkers) :
    s.workers ≠ [] := by
  intro hnil
  have hlen := h.length_workers
  rw [hnil] at hlen
  exact absurd hlen.symm hn.ne'

/-- The least loaded worker is full exactly when the pool is filled to its capacity. -/
theorem Filled.full_iff (h : s.Filled numWorkers initial) (hn : 0 < numWorkers)
    (hbound : s.knownStreams.length < maxStreams) :
    maxStreamsPerWorker ≤ (s.workers.getD (leastLoaded s.workers) []).length ↔
      capacity numWorkers initial.length ≤ s.knownStreams.length := by
  have hstarted : initial.length ≤ s.knownStreams.length := h.started.length_le
  have hitems : s.workers.flatten.length =
      min (capacity numWorkers initial.length) s.knownStreams.length :=
    h.assigned.length_eq.trans List.length_take
  rw [h.balanced.le_leastLoaded_iff (h.workers_ne_nil hn), hitems, h.length_workers, capacity]
  omega

/-- `add_stream` gives its stream to a worker exactly when the pool has capacity left. -/
theorem Filled.workers_addStream (h : s.Filled numWorkers initial) (hn : 0 < numWorkers)
    (hbound : s.knownStreams.length < maxStreams) (streamKey : String) :
    (s.addStream streamKey).workers =
      if capacity numWorkers initial.length ≤ s.knownStreams.length then s.workers
      else place (leastLoaded s.workers) streamKey s.workers := by
  have hlt := leastLoaded_lt (h.workers_ne_nil hn)
  have hfull := h.full_iff hn hbound
  rw [List.getD_eq_getElem _ _ hlt] at hfull
  rw [addStream, List.getElem?_eq_getElem hlt]
  dsimp only
  by_cases hcap : capacity numWorkers initial.length ≤ s.knownStreams.length
  · rw [if_pos hcap, if_pos (hfull.mpr hcap)]
  · rw [if_neg hcap, if_neg fun hle => hcap (hfull.mp hle)]

/-- Learning a new stream keeps the pool filled. -/
theorem Filled.learn (h : s.Filled numWorkers initial) (hn : 0 < numWorkers)
    (hbound : s.knownStreams.length < maxStreams) {streamKey : String}
    (hnew : streamKey ∉ s.knownStreams) : (s.learn streamKey).Filled numWorkers initial := by
  have hknown : (s.learn streamKey).knownStreams = s.knownStreams ++ [streamKey] :=
    setAdd_of_notMem hnew
  have hworkers : (s.learn streamKey).workers = _ := h.workers_addStream hn hbound streamKey
  have hne := h.workers_ne_nil hn
  constructor
  case length_workers =>
    rw [hworkers]
    split
    · exact h.length_workers
    · exact (length_place _ _ _).trans h.length_workers
  case balanced =>
    rw [hworkers]
    split
    · exact h.balanced
    · exact h.balanced.place_leastLoaded hne streamKey
  case started =>
    rw [hknown]
    exact h.started.trans (List.prefix_append _ _)
  case nodup =>
    rw [hknown]
    exact h.nodup.append (List.nodup_singleton streamKey) (List.disjoint_singleton.mpr hnew)
  case bounded =>
    rw [hknown, List.length_append, List.length_singleton]
    exact hbound
  case assigned =>
    rw [hknown, hworkers]
    split
    case isTrue hcap =>
      -- the new stream comes after those that the workers hold
      rw [List.take_append_of_le_length hcap]
      exact h.assigned
    case isFalse hcap =>
      have hroom : s.knownStreams.length < capacity numWorkers initial.length :=
        Nat.lt_of_not_le hcap
      have hassigned := h.assigned
      rw [List.take_of_length_le hroom.le] at hassigned
      rw [List.take_of_length_le (by rw [List.length_append, List.length_singleton]; exact hroom)]
      exact (perm_flatten_place streamKey (leastLoaded_lt hne)).trans (hassigned.append_right _)

/-- A pass of the discovery loop keeps the pool filled, and learns its streams up to the cap of the
pool. -/
theorem Filled.discoverLoop {keys : List String} (hn : 0 < numWorkers) :
    ∀ {s : StreamSystem}, s.Filled numWorkers initial → (s.knownStreams ++ keys).Nodup →
      (s.discoverLoop keys).Filled numWorkers initial ∧
        (s.discoverLoop keys).knownStreams = (s.knownStreams ++ keys).take maxStreams := by
  induction keys with
  | nil =>
    intro s h _
    refine ⟨h, ?_⟩
    rw [List.append_nil, List.take_of_length_le h.bounded]
    rfl
  | cons key keys ih =>
    intro s h hnodup
    rw [StreamSystem.discoverLoop]
    by_cases hcap : maxStreams ≤ s.knownStreams.length
    · have hlen : s.knownStreams.length = maxStreams := h.bounded.antisymm hcap
      rw [if_pos hcap, ← hlen, List.take_left]
      exact ⟨h, rfl⟩
    · have hnew : key ∉ s.knownStreams := by
        intro hmem
        exact (List.disjoint_of_nodup_append hnodup) hmem List.mem_cons_self
      have hknown : (s.learn key).knownStreams = s.knownStreams ++ [key] :=
        setAdd_of_notMem hnew
      have hsplit : s.knownStreams ++ key :: keys = (s.learn key).knownStreams ++ keys := by
        rw [hknown, List.append_assoc, List.singleton_append]
      rw [if_neg hcap, hsplit]
      rw [hsplit] at hnodup
      exact ih (h.learn hn (Nat.lt_of_not_le hcap) hnew) hnodup

theorem mem_newStreams {key : String} :
    key ∈ s.newStreams ↔ key ∈ s.streams ∧ key ∉ s.knownStreams := by
  rw [newStreams, mem_sortedSet, List.mem_filter, decide_eq_true_eq]

theorem Filled.nodup_arrivals (h : s.Filled numWorkers initial) : s.arrivals.Nodup := by
  refine h.nodup.append (nodup_sortedSet _) ?_
  intro key hknown hnew
  exact (mem_newStreams.mp hnew).2 hknown

/-- Every stream in Redis has its place among the arrivals. -/
theorem mem_arrivals_of_mem_streams {key : String} (h : key ∈ s.streams) : key ∈ s.arrivals := by
  by_cases hknown : key ∈ s.knownStreams
  · exact List.mem_append_left _ hknown
  · exact List.mem_append_right _ (mem_newStreams.mpr ⟨h, hknown⟩)

theorem Filled.discover (h : s.Filled numWorkers initial) (hn : 0 < numWorkers)
    (scanFails : Bool) : (s.discover scanFails).Filled numWorkers initial := by
  cases scanFails with
  | true => exact h
  | false => exact (h.discoverLoop hn h.nodup_arrivals).1

theorem xadd_pool (s : StreamSystem) (streamKey : String) (took : Bool) :
    (s.xadd streamKey took).knownStreams = s.knownStreams ∧
      (s.xadd streamKey took).workers = s.workers := by
  cases took <;> exact ⟨rfl, rfl⟩

theorem streams_publishEvent {raw : Dict} {attempted : String}
    (h : streamKeyFor raw = .ok attempted) {p : ℕ} :
    (s.publishEvent p raw true).streams =
      setAdd s.streams (checkStreamCap (s.knownStreamKeys p) attempted).2 := by
  rw [publishEvent, h]
  rfl

theorem publishEvent_pool (s : StreamSystem) (p : ℕ) (raw : Dict) (took : Bool) :
    (s.publishEvent p raw took).knownStreams = s.knownStreams ∧
      (s.publishEvent p raw took).workers = s.workers := by
  unfold publishEvent
  split
  · exact ⟨rfl, rfl⟩
  · exact xadd_pool _ _ _

theorem Filled.xadd (h : s.Filled numWorkers initial) (streamKey : String) (took : Bool) :
    (s.xadd streamKey took).Filled numWorkers initial :=
  h.congr (xadd_pool s streamKey took).1 (xadd_pool s streamKey took).2

/-- Every step keeps the pool filled. -/
theorem Filled.step (h : s.Filled numWorkers initial) (hn : 0 < numWorkers) (a : StreamAction) :
    (s.step a).Filled numWorkers initial := by
  cases a with
  | publishEvent p raw took =>
    have hpool := publishEvent_pool s p raw took
    exact h.congr hpool.1 hpool.2
  | publishBatch p raws took =>
    show (s.publishBatch p raws took).Filled numWorkers initial
    unfold publishBatch
    generalize batchStreamKeys (s.knownStreamKeys p) raws = batch
    obtain ⟨known, keys⟩ := batch
    cases keys with
    | error _ => exact h.congr rfl rfl
    | ok keys =>
      -- the commands of the pipeline, one after the other
      show Filled numWorkers initial (List.foldl _ _ _)
      refine List.foldlRecOn _ _ (h.congr rfl rfl) ?_
      exact fun s hs key _ => hs.xadd key.1 (took key.2)
  | initStreamKeys p => exact h.congr rfl rfl
  | createGroup topic => exact h.congr rfl rfl
  | discover scanFails => exact h.discover hn scanFails

/-- After a pass that has scanned Redis, the workers hold the first streams of the arrivals. -/
theorem Filled.mem_workers_discover_iff (h : s.Filled numWorkers initial) (hn : 0 < numWorkers)
    (key : String) : key ∈ (s.discover false).workers.flatten ↔
      key ∈ s.arrivals.take (capacity numWorkers initial.length) := by
  obtain ⟨hfilled, hknown⟩ := h.discoverLoop hn h.nodup_arrivals
  have hinitial : initial.length ≤ maxStreams := h.started.length_le.trans h.bounded
  have hcap : capacity numWorkers initial.length ≤ maxStreams := by
    rw [capacity]
    omega
  have hmem := hfilled.assigned.mem_iff (a := key)
  rwa [hknown, List.take_take, min_eq_left hcap] at hmem

/-- A stream has one worker at most, and it has one exactly when a worker holds it. -/
theorem Filled.consumers_eq (h : s.Filled numWorkers initial) (key : String) :
    s.consumers key = if key ∈ s.workers.flatten then 1 else 0 := by
  have hnodup : s.workers.flatten.Nodup :=
    h.assigned.nodup_iff.mpr (h.nodup.sublist (List.take_sublist _ _))
  exact countP_mem_of_nodup hnodup key

end Pool

/-- **Which streams have a worker.** Of a pool of `numWorkers` workers no stream ever has two.
After a pass that has scanned Redis, a stream has one exactly when it is among the first streams to
arrive, as many as the pool has the capacity for; every stream in Redis is among the arrivals. -/
theorem stream_consumers_iff {numWorkers : ℕ} (hn : 0 < numWorkers) (streams : List String)
    (knownStreamKeys : ℕ → List String) (scanFails : Bool) (topics : List String)
    (actions : List StreamAction) :
    let s := run step (start numWorkers streams knownStreamKeys scanFails topics) actions
    (∀ key, (s.discover false).consumers key ≤ 1 ∧
      ((s.discover false).consumers key = 1 ↔ key ∈ s.arrivals.take
        (capacity numWorkers (startStreams streams scanFails topics).length))) ∧
    ∀ key ∈ s.streams, key ∈ s.arrivals := by
  intro s
  have hfilled : s.Filled numWorkers (startStreams streams scanFails topics) :=
    run_invariant (fun _ a h => h.step hn a) actions (filled_start hn _ _ _ _)
  refine ⟨fun key => ?_, fun key hkey => mem_arrivals_of_mem_streams hkey⟩
  rw [(hfilled.discover hn false).consumers_eq, ← hfilled.mem_workers_discover_iff hn key]
  split
  case isTrue hmem => exact ⟨Nat.le_refl 1, fun _ => hmem, fun _ => rfl⟩
  case isFalse hmem => exact ⟨Nat.zero_le 1, nofun, fun h => absurd h hmem⟩

theorem stream_consumers_two_workers :
    ((run step (start 2 [] (fun _ => []) false [])
      [.publishEvent 0 (Sample.watchedLog Sample.swapTopic) true]).discover false).consumers
        (streamPrefix ++ Sample.swapTopic) = 1 :=
  ((stream_consumers_iff Nat.two_pos [] (fun _ => []) false []
    [.publishEvent 0 (Sample.watchedLog Sample.swapTopic) true]).1 _).2.mpr (by decide +kernel)

end StreamSystem

namespace Sample

/-- The topics `0x00…000` to `0x00…499`. -/
def digitTopic (i : ℕ) : List Char :=
  '0' :: 'x' :: (List.replicate 61 '0' ++
    [Nat.digitChar (i / 100), Nat.digitChar (i / 10 % 10), Nat.digitChar (i % 10)])

/-- The streams of five hundred topics. -/
def cappedStreams : List String :=
  (List.range 500).map fun i => streamPrefix ++ String.ofList (digitTopic i)

theorem length_cappedStreams : cappedStreams.length = maxStreams :=
  (List.length_map _).trans List.length_range

theorem nodup_cappedStreams : cappedStreams.Nodup := by
  refine List.Nodup.map_on ?_ List.nodup_range
  intro i hi j hj heq
  have hdigits : digitTopic i = digitTopic j :=
    String.ofList_injective ((String.append_right_inj _).mp heq)
  have hdigitChar : ∀ a < 10, ∀ b < 10, Nat.digitChar a = Nat.digitChar b → a = b := by decide
  simp only [digitTopic, List.cons.injEq, List.append_cancel_left_eq, true_and, and_true] at hdigits
  rw [List.mem_range] at hi hj
  have hhundreds := hdigitChar (i / 100) (by omega) (j / 100) (by omega) hdigits.1
  have htens := hdigitChar (i / 10 % 10) (by omega) (j / 10 % 10) (by omega) hdigits.2.1
  have hunits := hdigitChar (i % 10) (by omega) (j % 10) (by omega) hdigits.2.2
  omega

/-- The streams are those of topics whose first digit is zero. -/
theorem third_of_mem_cappedStreams {topic : String} (h : streamPrefix ++ topic ∈ cappedStreams) :
    topic.toList[2]? = some '0' := by
  obtain ⟨i, -, heq⟩ := List.mem_map.mp h
  rw [← (String.append_right_inj _).mp heq, String.toList_ofList]
  rfl

theorem swapTopic_notMem_cappedStreams : streamPrefix ++ swapTopic ∉ cappedStreams := by
  intro hmem
  have hthird := third_of_mem_cappedStreams hmem
  revert hthird
  decide +kernel

theorem unknown_notMem_cappedStreams : streamPrefix ++ "unknown" ∉ cappedStreams := by
  intro hmem
  have hthird := third_of_mem_cappedStreams hmem
  revert hthird
  decide

/-- A pool of three workers starts with five hundred streams, and a log with another topic is
published. -/
def capped : StreamSystem :=
  StreamSystem.step (StreamSystem.start 3 cappedStreams (fun _ => cappedStreams) false [])
    (.publishEvent 0 (watchedLog swapTopic) true)

end Sample

/-- The log goes to the stream of the unknown topics, and no worker has it. -/
theorem unknown_stream_without_consumer :
    streamPrefix ++ "unknown" ∈ Sample.capped.streams ∧
      (Sample.capped.discover false).consumers (streamPrefix ++ "unknown") ≠ 1 := by
  have hlength := Sample.length_cappedStreams
  have hkey : streamKeyFor (Sample.watchedLog Sample.swapTopic) =
      .ok (streamPrefix ++ Sample.swapTopic) := by
    decide +kernel
  have hpublish : Sample.capped.streams =
      Sample.cappedStreams ++ [streamPrefix ++ "unknown"] := by
    have hcap : checkStreamCap Sample.cappedStreams (streamPrefix ++ Sample.swapTopic) =
        (Sample.cappedStreams, streamPrefix ++ "unknown") := by
      rw [checkStreamCap, if_neg Sample.swapTopic_notMem_cappedStreams, hlength, if_pos le_rfl]
    rw [Sample.capped, StreamSystem.step, StreamSystem.streams_publishEvent hkey]
    dsimp only [StreamSystem.start]
    rw [hcap]
    exact setAdd_of_notMem Sample.unknown_notMem_cappedStreams
  have hperm : (StreamSystem.startStreams Sample.cappedStreams false []).Perm
      Sample.cappedStreams := by
    apply StreamSystem.perm_startStreams _ Sample.nodup_cappedStreams
    · rw [hlength]
    · exact List.ne_nil_of_length_pos (by rw [hlength]; decide)
  have hfilled : Sample.capped.Filled 3
      (StreamSystem.startStreams Sample.cappedStreams false []) :=
    (StreamSystem.filled_start (by decide) _ _ _ _).step (by decide) _
  have hknown : Sample.capped.knownStreams =
      StreamSystem.startStreams Sample.cappedStreams false [] := by
    rw [Sample.capped, StreamSystem.step, (StreamSystem.publishEvent_pool _ _ _ _).1,
      StreamSystem.start]
  have hnone : streamPrefix ++ "unknown" ∉ (Sample.capped.discover false).workers.flatten := by
    rw [hfilled.mem_workers_discover_iff (by decide)]
    -- the pool is full with the streams that it started with
    have hcap : StreamSystem.capacity 3 (StreamSystem.startStreams Sample.cappedStreams false
        []).length = Sample.capped.knownStreams.length := by
      rw [hknown, hperm.length_eq, hlength]
      norm_num [StreamSystem.capacity, maxStreams, maxStreamsPerWorker]
    rw [hcap, StreamSystem.arrivals, List.take_left, hknown, hperm.mem_iff]
    exact Sample.unknown_notMem_cappedStreams
  refine ⟨?_, ?_⟩
  · rw [hpublish]
    exact List.mem_append_right _ (List.mem_singleton_self _)
  · rw [(hfilled.discover (by decide) false).consumers_eq, if_neg hnone]
    exact Nat.zero_ne_one

end TripWire
