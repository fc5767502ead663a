import Mathlib
import TripWire.Ingestion.Streams

/-!
# Where a process publishes

A process publishes to the stream of a log's first topic, up to `MAX_STREAMS` streams, and to the
overflow stream from then on (`tripwire/ingestion/event_bus.py`).  The set of known streams only
grows, and at the cap it does not grow any more (`Grows`).  So a log's stream is decided by the
known set at any later time (`Routed`): it is the log's own stream just if that is known.

`stream_routing` reads off it that the logs of a topic share a stream, how many streams are written,
and that the message ids of a batch are those of its logs, in their order.
-/

namespace TripWire

open Py Machine

/-! ### A process that publishes -/

/-- The overflow stream. -/
def unknownStream : String := streamPrefix ++ "unknown"

/-- What becomes of an `XADD`: Redis answers with a message id, executes it while the answer is
lost, or does not execute it. -/
inductive XaddFate where
  | answered (messageId : String)
  | lost (messageId : String)
  | failed
  deriving DecidableEq

/-- The entry that is added, if the command is executed. -/
def XaddFate.added : XaddFate → Option String
  | .answered messageId | .lost messageId => some messageId
  | .failed => none

/-- What the client is told. -/
def XaddFate.result : XaddFate → Except PyError String
  | .answered messageId => .ok messageId
  | .lost _ | .failed => .error .infrastructure

/-- An entry of a stream. -/
structure StreamEntry where
  streamKey : String
  messageId : String
  payload : Dict
  deriving DecidableEq

/-- A process: `_known_stream_keys`, the entries it has added, and for each `XADD` that it has sent
the log and the stream. -/
structure Publisher where
  known : List String
  entries : List StreamEntry := []
  routed : List (Dict × String) := []

/-- A call. -/
inductive PublishCall where
  | event (raw : Dict) (fate : XaddFate)
  /-- A batch, with the fate of each command of its pipeline. -/
  | batch (raws : List Dict) (fates : ℕ → XaddFate)

namespace Publisher

/-- The process after `init_stream_keys`, whose scan has found `discovered`. -/
def initStreamKeys (discovered : List String) : Publisher where
  known := discovered.foldl setAdd []

/-- The entries that the commands add. -/
def addedEntries (commands : List ((Dict × String) × XaddFate)) : List StreamEntry :=
  commands.filterMap fun command =>
    command.2.added.map fun messageId => ⟨command.1.2, messageId, command.1.1⟩

/-- `XADD`s that are sent in one go, and the known keys they leave. -/
def send (s : Publisher) (known : List String) (commands : List ((Dict × String) × XaddFate)) :
    Publisher where
  known
  entries := s.entries ++ addedEntries commands
  routed := s.routed ++ commands.map Prod.fst

/-- `publish_event`. -/
def publishEvent (s : Publisher) (raw : Dict) (fate : XaddFate) :
    Publisher × Except PyError String :=
  match streamKeyFor raw with
  | .error error => (s, .error error)
  | .ok attempted =>
    let (known, streamKey) := checkStreamCap s.known attempted
    (s.send known [((raw, streamKey), fate)], fate.result)

/-- `publish_batch`.  An exception among the results is raised. -/
def publishBatch (s : Publisher) (raws : List Dict) (fates : ℕ → XaddFate) :
    Publisher × Except PyError (List String) :=
  match batchStreamKeys s.known raws with
  | (known, .error error) => ({ s with known }, .error error)
  | (known, .ok streamKeys) =>
    let commands := (raws.zip streamKeys).zipIdx.map fun command => (command.1, fates command.2)
    (s.send known commands, commands.mapM fun command => command.2.result)

/-- The process after a call. -/
def step (s : Publisher) : PublishCall → Publisher
  | .event raw fate => (s.publishEvent raw fate).1
  | .batch raws fates => (s.publishBatch raws fates).1

end Publisher

/-- The first topic of a log in lower case, if the log has topics. -/
def normalizedTopic0 (raw : Dict) : Except PyError (Option String) :=
  match parseTopicsValue (raw.getD "topics" (.list [])) with
  | [] => .ok none
  | topic :: _ => (lowerValue topic).map some

/-- The stream of a topic. -/
def streamKeyOf (topic0 : Option String) : String :=
  streamPrefix ++ (topic0.filter (matchesHexTopic ·)).getD "unknown"

/-- The stream of a log depends on its normalized topic alone. -/
theorem streamKeyFor_eq (raw : Dict) :
    streamKeyFor raw = (normalizedTopic0 raw).map streamKeyOf := by
  rw [streamKeyFor, normalizedTopic0]
  cases parseTopicsValue (raw.getD "topics" (.list [])) with
  | nil => rfl
  | cons topic topics =>
    dsimp only
    cases lowerValue topic with
    | error error => rfl
    | ok topic0 =>
      refine congrArg (fun key => Except.ok (streamPrefix ++ key)) ?_
      by_cases hmatch : matchesHexTopic topic0 = true
      · rw [if_pos hmatch, Option.filter_some, if_pos hmatch]
        rfl
      · rw [if_neg hmatch, Option.filter_some, if_neg hmatch]
        rfl

/-! ### The known streams -/

/-- The known streams grow at their end, and at the cap they stay as they are. -/
structure Grows (known known' : List String) : Prop where
  kept : known <+: known'
  capped : maxStreams ≤ known.length → known' = known
  bounded : known'.length ≤ max maxStreams known.length

theorem Grows.refl (known : List String) : Grows known known :=
  ⟨List.prefix_rfl, fun _ => rfl, le_max_right _ _⟩

theorem Grows.trans {known known' known'' : List String} (h : Grows known known')
    (h' : Grows known' known'') : Grows known known'' where
  kept := h.kept.trans h'.kept
  capped hcap := by
    have hsame := h.capped hcap
    rw [← hsame] at hcap
    exact (h'.capped hcap).trans hsame
  bounded := by
    have hfirst := h.bounded
    have hsecond := h'.bounded
    omega

/-- A log is routed to its own stream, which is known, or to the overflow stream when there is no
room for its own. -/
def Routed (known : List String) (raw : Dict) (streamKey : String) : Prop :=
  ∃ attempted, streamKeyFor raw = .ok attempted ∧
    (streamKey = attempted ∧ attempted ∈ known ∨
      streamKey = unknownStream ∧ attempted ∉ known ∧ maxStreams ≤ known.length)

/-- It stays so. -/
theorem Routed.mono {known known' : List String} {raw : Dict} {streamKey : String}
    (h : Routed known raw streamKey) (hgrows : Grows known known') :
    Routed known' raw streamKey := by
  obtain ⟨attempted, hattempted, ⟨hown, hmem⟩ | ⟨hunknown, hnotMem, hcap⟩⟩ := h
  · exact ⟨attempted, hattempted, .inl ⟨hown, hgrows.kept.subset hmem⟩⟩
  · rw [hgrows.capped hcap]
    exact ⟨attempted, hattempted, .inr ⟨hunknown, hnotMem, hcap⟩⟩

/-- **Stability**: logs of one stream key are routed to one stream. -/
theorem Routed.unique {known : List String} {raw raw' : Dict} {streamKey streamKey' : String}
    (h : Routed known raw streamKey) (h' : Routed known raw' streamKey')
    (hsame : streamKeyFor raw = streamKeyFor raw') : streamKey = streamKey' := by
  obtain ⟨attempted, hattempted, hrouted⟩ := h
  obtain ⟨attempted', hattempted', hrouted'⟩ := h'
  obtain rfl : attempted = attempted' :=
    Except.ok.inj (hattempted.symm.trans (hsame.trans hattempted'))
  obtain ⟨rfl, hmem⟩ | ⟨rfl, hnotMem, -⟩ := hrouted
  · obtain ⟨rfl, -⟩ | ⟨-, hnotMem, -⟩ := hrouted'
    · rfl
    · exact absurd hmem hnotMem
  · obtain ⟨-, hmem⟩ | ⟨rfl, -⟩ := hrouted'
    · exact absurd hmem hnotMem
    · rfl

/-- `_check_stream_cap` routes, and the known streams grow. -/
theorem checkStreamCap_spec (known : List String) {raw : Dict} {attempted : String}
    (hattempted : streamKeyFor raw = .ok attempted) :
    Grows known (checkStreamCap known attempted).1 ∧
      Routed (checkStreamCap known attempted).1 raw (checkStreamCap known attempted).2 := by
  unfold checkStreamCap
  split_ifs with hmem hcap
  · exact ⟨.refl known, attempted, hattempted, .inl ⟨rfl, hmem⟩⟩
  · exact ⟨.refl known, attempted, hattempted, .inr ⟨rfl, hmem, hcap⟩⟩
  · rw [setAdd_of_notMem hmem]
    have hlength : (known ++ [attempted]).length ≤ max maxStreams known.length := by
      rw [List.length_append, List.length_singleton]
      omega
    exact ⟨⟨List.prefix_append _ _, fun h => absurd h hcap, hlength⟩, attempted, hattempted,
      .inl ⟨rfl, by simp⟩⟩

/-- **The loop of `publish_batch`.** -/
theorem batchStreamKeys_spec (known : List String) (raws : List Dict) :
    Grows known (batchStreamKeys known raws).1 ∧
      ∀ streamKeys, (batchStreamKeys known raws).2 = .ok streamKeys →
        List.Forall₂ (Routed (batchStreamKeys known raws).1) raws streamKeys := by
  induction raws generalizing known with
  | nil =>
    refine ⟨.refl known, fun streamKeys h => ?_⟩
    obtain rfl := Except.ok.inj h
    exact .nil
  | cons raw raws ih =>
    rw [batchStreamKeys]
    cases hattempted : streamKeyFor raw with
    | error error => exact ⟨.refl known, fun streamKeys h => nomatch h⟩
    | ok attempted =>
      obtain ⟨hgrows, hrouted⟩ := checkStreamCap_spec known hattempted
      obtain ⟨hrest, hkeys⟩ := ih (checkStreamCap known attempted).1
      refine ⟨hgrows.trans hrest, fun streamKeys h => ?_⟩
      dsimp only at h ⊢
      cases hresult : (batchStreamKeys (checkStreamCap known attempted).1 raws).2 with
      | error error =>
        rw [hresult] at h
        exact nomatch h
      | ok rest =>
        rw [hresult] at h
        obtain rfl := Except.ok.inj h
        exact .cons (hrouted.mono hrest) (hkeys rest hresult)

/-! ### The run -/

namespace Publisher

/-- The known streams have grown from `initial`, and every log that was sent is routed by them. -/
structure Stable (initial : List String) (s : Publisher) : Prop where
  grown : Grows initial s.known
  routed : ∀ sent ∈ s.routed, Routed s.known sent.1 sent.2

variable {initial : List String} {s : Publisher}

/-- Sending keeps it, where the known streams grow and the new logs are routed by them. -/
theorem Stable.send (h : s.Stable initial) {known : List String} (hgrows : Grows s.known known)
    {commands : List ((Dict × String) × XaddFate)}
    (hcommands : ∀ sent ∈ commands.map Prod.fst, Routed known sent.1 sent.2) :
    (s.send known commands).Stable initial where
  grown := h.grown.trans hgrows
  routed := by
    intro sent hsent
    obtain hbefore | hnew := List.mem_append.mp hsent
    · exact (h.routed sent hbefore).mono hgrows
    · exact hcommands sent hnew

/-- **The step lemma.** -/
theorem Stable.step (h : s.Stable initial) (call : PublishCall) : (s.step call).Stable initial := by
  cases call with
  | event raw fate =>
    rw [Publisher.step, publishEvent]
    cases hattempted : streamKeyFor raw with
    | error error => exact h
    | ok attempted =>
      obtain ⟨hgrows, hrouted⟩ := checkStreamCap_spec s.known hattempted
      refine h.send hgrows fun sent hsent => ?_
      rw [List.map_singleton, List.mem_singleton] at hsent
      subst hsent
      exact hrouted
  | batch raws fates =>
    obtain ⟨hgrows, hkeys⟩ := batchStreamKeys_spec s.known raws
    rw [Publisher.step, publishBatch]
    generalize batchStreamKeys s.known raws = read at hgrows hkeys
    obtain ⟨known, result⟩ := read
    cases result with
    | error error =>
      refine ⟨h.grown.trans hgrows, fun sent hsent => ?_⟩
      exact (h.routed sent hsent).mono hgrows
    | ok streamKeys =>
      refine h.send hgrows fun sent hsent => ?_
      have hsent : sent ∈ raws.zip streamKeys := by
        rw [List.map_map] at hsent
        obtain ⟨command, hcommand, rfl⟩ := List.mem_map.mp hsent
        exact List.fst_mem_of_mem_zipIdx hcommand
      exact (List.forall₂_iff_zip.mp (hkeys streamKeys rfl)).2 hsent

/-- **The run lemma.** -/
theorem stable_run (discovered : List String) (calls : List PublishCall) :
    (run Publisher.step (initStreamKeys discovered) calls).Stable
      (initStreamKeys discovered).known := by
  refine run_invariant (fun _ call h => h.step call) calls ⟨.refl _, ?_⟩
  exact fun sent hsent => absurd hsent List.not_mem_nil

/-- The streams that the process has sent an `XADD` to. -/
def writtenStreams (s : Publisher) : Finset String := (s.routed.map Prod.snd).toFinset

theorem Stable.card_writtenStreams (h : s.Stable initial) :
    s.writtenStreams.card ≤ max maxStreams initial.length + 1 := by
  have hsubset : s.writtenStreams ⊆ insert unknownStream s.known.toFinset := by
    intro streamKey hkey
    obtain ⟨sent, hsent, rfl⟩ := List.mem_map.mp (List.mem_toFinset.mp hkey)
    obtain ⟨attempted, -, ⟨hown, hmem⟩ | ⟨hunknown, -⟩⟩ := h.routed sent hsent
    · exact Finset.mem_insert_of_mem (List.mem_toFinset.mpr (hown ▸ hmem))
    · exact hunknown ▸ Finset.mem_insert_self _ _
  calc s.writtenStreams.card
      ≤ (insert unknownStream s.known.toFinset).card := Finset.card_le_card hsubset
    _ ≤ s.known.toFinset.card + 1 := Finset.card_insert_le _ _
    _ ≤ s.known.length + 1 := Nat.add_le_add_right (List.toFinset_card_le _) 1
    _ ≤ max maxStreams initial.length + 1 := Nat.add_le_add_right h.grown.bounded 1

/-- Commands that are all answered have added their payloads, under the ids of the answers. -/
theorem addedEntries_of_answered {commands : List ((Dict × String) × XaddFate)}
    {messageIds : List String}
    (h : commands.mapM (fun command => command.2.result) = .ok messageIds) :
    (addedEntries commands).map StreamEntry.payload = commands.map (·.1.1) ∧
      (addedEntries commands).map StreamEntry.messageId = messageIds := by
  induction commands generalizing messageIds with
  | nil =>
    obtain rfl := Except.ok.inj h
    exact ⟨rfl, rfl⟩
  | cons command commands ih =>
    rw [List.mapM_cons] at h
    obtain ⟨messageId, hfirst, h⟩ := bind_eq_ok_iff.mp h
    obtain ⟨rest, hrest, h⟩ := bind_eq_ok_iff.mp h
    obtain rfl := Except.ok.inj h
    obtain ⟨hpayloads, hids⟩ := ih hrest
    obtain ⟨sent, fate⟩ := command
    cases fate with
    | answered answer =>
      obtain rfl := Except.ok.inj hfirst
      exact ⟨congrArg (sent.1 :: ·) hpayloads, congrArg (answer :: ·) hids⟩
    | lost answer => exact nomatch hfirst
    | failed => exact nomatch hfirst

/-- **The ids of a batch** are those of its logs, in their order. -/
theorem publishBatch_ids {raws : List Dict} {fates : ℕ → XaddFate} {messageIds : List String}
    (h : (s.publishBatch raws fates).2 = .ok messageIds) :
    ∃ added, (s.publishBatch raws fates).1.entries = s.entries ++ added ∧
      added.map StreamEntry.payload = raws ∧ added.map StreamEntry.messageId = messageIds := by
  have hkeys := (batchStreamKeys_spec s.known raws).2
  rw [publishBatch] at h ⊢
  generalize batchStreamKeys s.known raws = read at h hkeys ⊢
  obtain ⟨known, result⟩ := read
  cases result with
  | error error => exact nomatch h
  | ok streamKeys =>
    obtain ⟨hpayloads, hids⟩ := addedEntries_of_answered h
    refine ⟨_, rfl, hpayloads.trans ?_, hids⟩
    have hlength : raws.length ≤ streamKeys.length := (hkeys streamKeys rfl).length_eq.le
    have hpairs : ((raws.zip streamKeys).zipIdx.map fun command =>
        (command.1, fates command.2)).map (fun command => command.1.1) =
          ((raws.zip streamKeys).zipIdx.map Prod.fst).map Prod.fst := by
      rw [List.map_map, List.map_map]
      rfl
    rw [hpairs, List.zipIdx_map_fst, List.map_fst_zip hlength]

end Publisher

open Publisher

/-- **Routing is stable and bounded.**  In every run of publishing calls of a process after
`init_stream_keys`, all logs of a normalized topic go to one stream, their own or the overflow
stream; at most `max(MAX_STREAMS, initial count) + 1` streams are written; and the ids that a batch
returns are those of its logs, in their order. -/
theorem stream_routing (discovered : List String) (calls : List PublishCall) :
    let initial := initStreamKeys discovered
    let s := run Publisher.step initial calls
    (∀ sent ∈ s.routed, ∀ sent' ∈ s.routed,
        normalizedTopic0 sent.1 = normalizedTopic0 sent'.1 → sent.2 = sent'.2) ∧
      (∀ sent ∈ s.routed, streamKeyFor sent.1 = .ok sent.2 ∨ sent.2 = unknownStream) ∧
      s.writtenStreams.card ≤ max maxStreams initial.known.length + 1 ∧
      ∀ (raws : List Dict) (fates : ℕ → XaddFate) (messageIds : List String),
        (s.publishBatch raws fates).2 = .ok messageIds →
          ∃ added, (s.publishBatch raws fates).1.entries = s.entries ++ added ∧
            added.map StreamEntry.payload = raws ∧
            added.map StreamEntry.messageId = messageIds := by
  have hstable := stable_run discovered calls
  refine ⟨?_, ?_, hstable.card_writtenStreams, fun raws fates messageIds h => publishBatch_ids h⟩
  · intro sent hsent sent' hsent' htopic
    refine (hstable.routed sent hsent).unique (hstable.routed sent' hsent') ?_
    rw [streamKeyFor_eq, streamKeyFor_eq, htopic]
  · intro sent hsent
    obtain ⟨attempted, hattempted, ⟨hown, -⟩ | ⟨hunknown, -⟩⟩ := hstable.routed sent hsent
    · exact .inl (hown ▸ hattempted)
    · exact .inr hunknown

end TripWire
