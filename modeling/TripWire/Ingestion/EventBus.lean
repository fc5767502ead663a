import TripWire.Py.Value

/-!
# The event bus

Reading and acknowledging messages of the Redis streams (`tripwire/ingestion/event_bus.py`).  A
message is named by its stream and the id Redis gave it.  What Redis answers is input: the entries
of an `XREADGROUP` or `XAUTOCLAIM` are arbitrary, and every command may raise.

`Bus` is the log of what the program did to the streams.  `consumeEvents` and `claimStale` read
entries through the same loop, `readEntries`, which acknowledges entries that hold no readable
payload; `readEntries_readOnly` says that these are the only ones it acknowledges.
-/

namespace TripWire

open Py

/-- A message: its stream key and its id in the stream. -/
abbrev MessageKey := String × String

/-- An entry of a stream as Redis returns it.  `payload` is `json.loads(fields["payload"])`, and
`none` stands for the `KeyError` or `JSONDecodeError` it raises. -/
structure Entry where
  message : MessageKey
  payload : Option Value

/-- An exception of the Redis client: one whose text has `NOGROUP` in it, or another. -/
inductive RedisError where
  | noGroup
  | other
  deriving DecidableEq, Repr

/-- An entry of the dead-letter stream. -/
structure DlqEntry where
  source : MessageKey
  rawLog : Value
  errorCount : ℕ

/-- What the program did to the streams. -/
structure Bus where
  /-- The messages that an `XACK` took effect on. -/
  acked : List MessageKey := []
  /-- The messages that were read without a readable payload. -/
  undecodable : List MessageKey := []
  /-- The entries written to `tripwire:dlq`. -/
  dlq : List DlqEntry := []

/-- The loop over the entries of a response.  It returns the messages it collected and the exception
of an `XACK` that ended it, if any. -/
def readEntries (xack : MessageKey → Option RedisError) :
    List Entry → Bus → Bus × List (MessageKey × Value) × Option RedisError
  | [], bus => (bus, [], none)
  | e :: es, bus =>
    match e.payload with
    | some raw =>
      let (bus', messages, error) := readEntries xack es bus
      (bus', (e.message, raw) :: messages, error)
    | none =>
      let bus₁ := { bus with undecodable := bus.undecodable ++ [e.message] }
      match xack e.message with
      -- The entry stays pending, and so do the entries after it.
      | some error => (bus₁, [], some error)
      | none => readEntries xack es { bus₁ with acked := bus₁.acked ++ [e.message] }

/-! ### Reading new messages -/

/-- What Redis answers during a `consume_events`. -/
structure ConsumeAnswer where
  /-- The exception of `ensure_consumer_group`, if it raises. -/
  ensure : Option RedisError := none
  read : Except RedisError (List Entry)
  /-- The second `XREADGROUP`, after the groups were created anew. -/
  reread : Except RedisError (List Entry) := .error .other
  xack : MessageKey → Option RedisError := fun _ => none

/-- The response `consume_events` works on: a `NOGROUP` error is retried once. -/
def ConsumeAnswer.response (a : ConsumeAnswer) : Except RedisError (List Entry) :=
  match a.ensure with
  | some error => .error error
  | none =>
    match a.read with
    | .error .noGroup => a.reread
    | response => response

/-- `consume_events`. -/
def consumeEvents (a : ConsumeAnswer) (bus : Bus) :
    Bus × Except RedisError (List (MessageKey × Value)) :=
  match a.response with
  | .error error => (bus, .error error)
  | .ok entries =>
    match readEntries a.xack entries bus with
    | (bus', _, some error) => (bus', .error error)
    | (bus', messages, none) => (bus', .ok messages)

/-! ### Claiming stale messages -/

/-- What Redis answers during a `claim_stale`, for one stream. -/
structure ClaimAnswer where
  ensure : Option RedisError := none
  claimed : Except RedisError (List Entry)
  xack : MessageKey → Option RedisError := fun _ => none

/-- The `try` block of `claim_stale`. -/
def claimStream (a : ClaimAnswer) (bus : Bus) :
    Bus × List (MessageKey × Value) × Option RedisError :=
  match a.claimed with
  | .error error => (bus, [], some error)
  | .ok entries => readEntries a.xack entries bus

/-- `claim_stale`, with the messages of the streams before.  A `NOGROUP` error skips the rest of its
stream and keeps what was collected from it. -/
def claimStale : List ClaimAnswer → List (MessageKey × Value) → Bus →
    Bus × Except RedisError (List (MessageKey × Value))
  | [], results, bus => (bus, .ok results)
  | a :: as, results, bus =>
    match a.ensure with
    | some error => (bus, .error error)
    | none =>
      match claimStream a bus with
      | (bus', _, some .other) => (bus', .error .other)
      -- `results` is filled inside the `try`, so a `NOGROUP` keeps the messages before it.
      | (bus', messages, _) => claimStale as (results ++ messages) bus'

/-! ### Acknowledging -/

/-- `ack_map`: for each stream the ids to acknowledge, in insertion order. -/
abbrev AckMap := List (String × List String)

/-- `ack_map.setdefault(stream_key, []).append(message_id)`. -/
def AckMap.add (m : AckMap) (message : MessageKey) : AckMap :=
  if m.any fun kv => kv.1 == message.1 then
    m.map fun kv => if kv.1 == message.1 then (kv.1, kv.2 ++ [message.2]) else kv
  else m ++ [(message.1, [message.2])]

/-- The messages of an `ack_map`. -/
def AckMap.messages (m : AckMap) : List MessageKey :=
  m.flatMap fun kv => kv.2.map fun id => (kv.1, id)

/-- `ack_batch`.  The pipeline is not a transaction: `took` says which of its commands took effect
before it raised, if it did. -/
def ackBatch (took : String → Bool) (m : AckMap) (bus : Bus) : Bus :=
  { bus with acked := bus.acked ++ AckMap.messages (m.filter fun kv => took kv.1) }

/-! ### What is acknowledged -/

/-- How reading changes the bus: unreadable messages are noted, and only those acknowledged. -/
structure ReadOnly (bus bus' : Bus) : Prop where
  acked : ∀ m ∈ bus'.acked, m ∈ bus.acked ∨ m ∈ bus'.undecodable
  undecodable : ∀ m ∈ bus.undecodable, m ∈ bus'.undecodable
  dlq : bus'.dlq = bus.dlq

theorem ReadOnly.refl (bus : Bus) : ReadOnly bus bus := ⟨fun _ h => Or.inl h, fun _ h => h, rfl⟩

theorem ReadOnly.trans {b₁ b₂ b₃ : Bus} (h : ReadOnly b₁ b₂) (h' : ReadOnly b₂ b₃) :
    ReadOnly b₁ b₃ where
  acked := by
    intro m hm
    rcases h'.acked m hm with hm | hm
    · exact (h.acked m hm).imp_right (h'.undecodable m)
    · exact Or.inr hm
  undecodable := fun m hm => h'.undecodable m (h.undecodable m hm)
  dlq := h'.dlq.trans h.dlq

/-- **Reading acknowledges unreadable messages only.** -/
theorem readEntries_readOnly (xack : MessageKey → Option RedisError) (entries : List Entry) :
    ∀ bus, ReadOnly bus (readEntries xack entries bus).1 := by
  induction entries with
  | nil => exact ReadOnly.refl
  | cons e es ih =>
    intro bus
    unfold readEntries
    -- A readable entry is collected; an unreadable one is noted before it is acknowledged.
    split
    · exact ih bus
    · have hnoted : ReadOnly bus { bus with undecodable := bus.undecodable ++ [e.message] } :=
        ⟨fun _ h => Or.inl h, fun _ h => List.mem_append_left _ h, rfl⟩
      simp only
      split
      · exact hnoted
      · refine (ReadOnly.trans ?_ (ih _))
        refine ⟨fun m hm => ?_, hnoted.undecodable, rfl⟩
        rcases List.mem_append.mp hm with hm | hm
        · exact Or.inl hm
        · exact Or.inr (List.mem_append_right _ hm)

theorem consumeEvents_readOnly (a : ConsumeAnswer) (bus : Bus) :
    ReadOnly bus (consumeEvents a bus).1 := by
  unfold consumeEvents
  split
  · exact ReadOnly.refl bus
  · rename_i entries _
    have h := readEntries_readOnly a.xack entries bus
    split
    · rename_i hread
      rw [hread] at h
      exact h
    · rename_i hread
      rw [hread] at h
      exact h

theorem claimStream_readOnly (a : ClaimAnswer) (bus : Bus) :
    ReadOnly bus (claimStream a bus).1 := by
  unfold claimStream
  split
  · exact ReadOnly.refl bus
  · exact readEntries_readOnly _ _ bus

theorem claimStale_readOnly (answers : List ClaimAnswer) :
    ∀ results bus, ReadOnly bus (claimStale answers results bus).1 := by
  induction answers with
  | nil => exact fun _ => ReadOnly.refl
  | cons a as ih =>
    intro results bus
    unfold claimStale
    split
    · exact ReadOnly.refl bus
    · have h := claimStream_readOnly a bus
      split
      · rename_i hclaim
        rw [hclaim] at h
        exact h
      · rename_i hclaim
        rw [hclaim] at h
        exact h.trans (ih _ _)

/-- The messages of an `ack_map` after one was added. -/
theorem AckMap.mem_messages_add {m : AckMap} {message x : MessageKey}
    (h : x ∈ AckMap.messages (m.add message)) : x ∈ AckMap.messages m ∨ x = message := by
  unfold AckMap.messages at h ⊢
  obtain ⟨kv, hkv, hx⟩ := List.mem_flatMap.mp h
  unfold AckMap.add at hkv
  split_ifs at hkv
  · obtain ⟨old, hold, rfl⟩ := List.mem_map.mp hkv
    split_ifs at hx with heq
    · obtain ⟨id, hid, rfl⟩ := List.mem_map.mp hx
      rcases List.mem_append.mp hid with hid | hid
      · exact Or.inl (List.mem_flatMap.mpr ⟨old, hold, List.mem_map_of_mem hid⟩)
      · right
        rw [List.mem_singleton.mp hid, eq_of_beq heq]
    · exact Or.inl (List.mem_flatMap.mpr ⟨old, hold, hx⟩)
  · rcases List.mem_append.mp hkv with hkv | hkv
    · exact Or.inl (List.mem_flatMap.mpr ⟨kv, hkv, hx⟩)
    · right
      rw [List.mem_singleton.mp hkv] at hx
      simpa using hx

/-- A batch acknowledges messages of its map only. -/
theorem mem_acked_ackBatch {took : String → Bool} {m : AckMap} {bus : Bus} {x : MessageKey}
    (h : x ∈ (ackBatch took m bus).acked) : x ∈ bus.acked ∨ x ∈ AckMap.messages m := by
  rcases List.mem_append.mp h with h | h
  · exact Or.inl h
  · obtain ⟨kv, hkv, hx⟩ := List.mem_flatMap.mp h
    exact Or.inr (List.mem_flatMap.mpr ⟨kv, (List.mem_filter.mp hkv).1, hx⟩)

end TripWire
