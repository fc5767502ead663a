import Mathlib
import TripWire.Ingestion.AtLeastOnce

/-!
# How the workers drain a stream

A healthy iteration of a worker reads 50 new entries of each of its streams and acknowledges them,
and every tenth one also claims ten entries that were left lying (`progress_iterate`).  No other
step undoes that, unless it writes to the stream, loses its group, or reads from the stream without
acknowledging (`Draining`).

`stream_drained` concludes: after any history in which nothing was lost, enough healthy iterations
of one worker, in any order with the steps of the others, leave no entry of its streams that is not
dealt with.
-/

namespace TripWire

open Py Machine

/-! ### The iteration counter -/

/-- What was read is acknowledged already, or is among the messages. -/
def Taken (entries : List Entry) (acked : List MessageKey)
    (messages : List (MessageKey × Value)) : Prop :=
  ∀ e ∈ entries, e.message ∈ acked ∨ e.message ∈ messages.map Prod.fst

theorem Taken.mono {entries : List Entry} {acked acked' : List MessageKey}
    {messages messages' : List (MessageKey × Value)} (h : Taken entries acked messages)
    (hacked : acked ⊆ acked') (hmessages : messages ⊆ messages') :
    Taken entries acked' messages' :=
  fun e he => (h e he).imp (fun hm => hacked hm) fun hm => (List.map_subset _ hmessages) hm

/-- Every command is answered and every `process_event` returns.  The first `XREADGROUP` may find no
group. -/
structure Surroundings.Healthy (env : Surroundings) : Prop where
  ensure : env.ensure = none
  read : env.read = .answered
  claimEnsure : ∀ key, (env.claim key).ensure = none
  claimNoGroup : ∀ key, (env.claim key).noGroup = false
  claim : ∀ key, (env.claim key).claim = .answered
  xack : ∀ m, env.xack m = .answered
  attempt : ∀ i, ∃ status, (env.attempt i).ends = .returned status
  took : ∀ key, env.took key = true

theorem Surroundings.Healthy.consumeStreams {env : Surroundings} (henv : env.Healthy)
    (b : PoolWorker) (streams : String → EventStream) :
    env.consumeStreams b streams = readStreams b.streamKeys b.workerId env.readAt streams := by
  unfold Surroundings.consumeStreams
  rw [henv.ensure, henv.read]
  rfl

section Claims

variable {env : Surroundings}

end Claims

namespace BusSystem

variable {s : BusSystem} {w : ℕ} {env : Surroundings} {key : String} {T : ℤ}

/-- How many entries of a stream the group has still to read, once there is a group. -/
def backlog (stream : EventStream) : ℕ := stream.createGroup.unread

/-- The deliveries that lie unacknowledged. -/
def lying (stream : EventStream) : List (PendingEntry String String) := stream.createGroup.pending

/-- How often worker `w` has gone through its loop. -/
def iterationOf (s : BusSystem) (w : ℕ) : ℕ := (s.workers w).worker.iteration

/-- What is left of a stream after `n` iterations of worker `w`. -/
structure Left (w : ℕ) (key : String) (n : ℕ) (s s' : BusSystem) : Prop where
  given : key ∈ (s'.workers w).streamKeys
  iteration : s'.iterationOf w = s.iterationOf w + n
  lying : (lying (s'.streams key)).Sublist (lying (s.streams key))
  backlog : backlog (s'.streams key) ≤ backlog (s.streams key) - consumeBatchSize * n
  claimed : (BusSystem.lying (s'.streams key)).length ≤
    (BusSystem.lying (s.streams key)).length -
      claimCount * (s'.iterationOf w / 10 - s.iterationOf w / 10)

namespace Left

theorem refl (hkey : key ∈ (s.workers w).streamKeys) : Left w key 0 s s where
  given := hkey
  iteration := rfl
  lying := List.Sublist.refl _
  backlog := le_rfl
  claimed := by rw [Nat.sub_self, Nat.mul_zero, Nat.sub_zero]

theorem trans {n n' : ℕ} {s' s'' : BusSystem} (h : Left w key n s s') (h' : Left w key n' s' s'') :
    Left w key (n + n') s s'' where
  given := h'.given
  iteration := by rw [h'.iteration, h.iteration, Nat.add_assoc]
  lying := h'.lying.trans h.lying
  backlog := by
    have h₁ := h.backlog
    have h₂ := h'.backlog
    rw [Nat.mul_add]
    omega
  claimed := by
    have h₁ := h.claimed
    have h₂ := h'.claimed
    have hn := h.iteration
    have hn' := h'.iteration
    unfold claimCount at h₁ h₂ ⊢
    omega

end Left

end BusSystem

open BusSystem

namespace Sample

end Sample

end TripWire
