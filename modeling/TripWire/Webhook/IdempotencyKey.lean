import Mathlib
import TripWire.Lib.Separator
import TripWire.Py.Lower
import TripWire.Webhook.Dispatcher

/-!
# Idempotency keys

`generate_idempotency_key` hashes five fields with colons between them.  The decimal texts of the
chain and of the index have no colon, and lowering a hash brings none in; so the first four fields
are read back from the text, and what is left is the event type, whatever it contains
(`IdempotencyTuple.text_eq_iff`).  A key then stands for one delivery as far as the digests of the
texts differ, and the case in which a hash is written does not change it.

The hash may be any text here, lowered by `CaseTable.lower`; `generateIdempotencyKey` is the case of
ASCII hashes (`IdempotencyTuple.key_eq`).
-/

namespace TripWire

open Py Separator

/-- The arguments of `generate_idempotency_key`. -/
structure IdempotencyTuple where
  chainId : ℤ
  txHash : String
  logIndex : ℤ
  endpointId : EndpointId
  eventType : String

namespace IdempotencyTuple

variable (table : CaseTable)

/-- `raw`: the text that is hashed. -/
def text (t : IdempotencyTuple) : String :=
  s!"{t.chainId}:{table.lower t.txHash}:{t.logIndex}:{t.endpointId}:{t.eventType}"

/-- `generate_idempotency_key`, for any hash. -/
def key (env : Env) (t : IdempotencyTuple) : String := "idem_" ++ env.sha256 (t.text table)

/-- Neither the hash nor the endpoint has a colon. -/
structure Delimited (t : IdempotencyTuple) : Prop where
  txHash : ':' ∉ t.txHash.toList
  endpointId : ':' ∉ t.endpointId.toList

/-- Two tuples that agree in all fields, the case of the hashes apart. -/
structure SameDelivery (t t' : IdempotencyTuple) : Prop where
  chainId : t.chainId = t'.chainId
  txHash : table.lower t.txHash = table.lower t'.txHash
  logIndex : t.logIndex = t'.logIndex
  endpointId : t.endpointId = t'.endpointId
  eventType : t.eventType = t'.eventType

variable {table}

/-- The fields that a colon ends. -/
def fields (table : CaseTable) (t : IdempotencyTuple) : List (List Char) :=
  [(toString t.chainId).toList, (table.lower t.txHash).toList, (toString t.logIndex).toList,
    t.endpointId.toList]

theorem toList_text (t : IdempotencyTuple) :
    (t.text table).toList = terminated ':' (t.fields table) t.eventType.toList := by
  have htext (s : String) : toString s = s := rfl
  simp [text, fields, terminated, htext]

theorem colon_not_mem_toString (n : ℤ) : ':' ∉ (toString n).toList := by
  intro h
  rcases toString_range h with h | h
  · exact absurd h (by decide)
  · exact absurd h.2 (by decide)

theorem Delimited.colon_not_mem_fields {t : IdempotencyTuple} (ht : t.Delimited) :
    ∀ field ∈ t.fields table, ':' ∉ field := by
  have hhash : ':' ∉ (table.lower t.txHash).toList := fun h =>
    ht.txHash (CaseTable.mem_of_mem_lower (by decide) h)
  simp only [fields, List.forall_mem_cons]
  exact ⟨colon_not_mem_toString _, hhash, colon_not_mem_toString _, ht.endpointId, by simp⟩

/-- **The hashed text is read in one way.** -/
theorem text_eq_iff {t t' : IdempotencyTuple} (ht : t.Delimited) (ht' : t'.Delimited) :
    t.text table = t'.text table ↔ SameDelivery table t t' := by
  constructor
  · intro h
    have hlength : (t.fields table).length = (t'.fields table).length := by simp [fields]
    rw [← String.toList_inj, toList_text, toList_text] at h
    obtain ⟨hfields, htype⟩ :=
      terminated_inj hlength ht.colon_not_mem_fields ht'.colon_not_mem_fields h
    simp only [fields, List.cons.injEq, and_true, String.toList_inj, Int.toString_eq_repr]
      at hfields
    obtain ⟨hchain, hhash, hindex, hendpoint⟩ := hfields
    exact ⟨Int.repr_injective hchain, hhash, Int.repr_injective hindex, hendpoint,
      String.toList_inj.mp htype⟩
  · rintro ⟨hchain, hhash, hindex, hendpoint, htype⟩
    rw [text, text, hchain, hhash, hindex, hendpoint, htype]

/-- The keys of two tuples whose texts the digest tells apart. -/
theorem key_eq_iff {env : Env} {t t' : IdempotencyTuple} (ht : t.Delimited) (ht' : t'.Delimited)
    (hsha : env.sha256 (t.text table) = env.sha256 (t'.text table) →
      t.text table = t'.text table) :
    t.key table env = t'.key table env ↔ SameDelivery table t t' := by
  rw [key, key, String.append_right_inj, ← text_eq_iff ht ht']
  exact ⟨hsha, congrArg env.sha256⟩

/-- The key of an ASCII hash. -/
theorem key_eq {env : Env} {t : IdempotencyTuple} (h : ∀ c ∈ t.txHash.toList, c.toNat < 128) :
    t.key table env =
      generateIdempotencyKey env t.chainId t.txHash t.logIndex t.endpointId t.eventType := by
  rw [key, text, CaseTable.lower_of_ascii h]
  rfl

end IdempotencyTuple

/-! ### Payloads -/

open IdempotencyTuple

/-- The tuple of a payload. -/
def Dispatch.tuple (d : Dispatch) (endpointId : EndpointId) : IdempotencyTuple where
  chainId := d.transfer.chainId.value
  txHash := d.transfer.txHash
  logIndex := d.transfer.logIndex
  endpointId
  eventType := d.type.value

theorem idempotencyKey_buildPayload (table : CaseTable) {env : Env} {d : Dispatch}
    (h : ∀ c ∈ d.transfer.txHash.toList, c.toNat < 128) (mode : EndpointMode)
    (endpointId : EndpointId) (requiredDepth : Option ℤ) :
    (buildPayload env d mode endpointId requiredDepth).idempotencyKey =
      (d.tuple endpointId).key table env := by
  have htuple : ∀ c ∈ (d.tuple endpointId).txHash.toList, c.toNat < 128 := h
  rw [key_eq htuple, buildPayload]
  rfl

/-- The chain and the event type of a payload are those of its tuple. -/
theorem sameDelivery_tuple_iff {table : CaseTable} {d d' : Dispatch}
    {endpointId endpointId' : EndpointId} :
    SameDelivery table (d.tuple endpointId) (d'.tuple endpointId') ↔
      d.transfer.chainId = d'.transfer.chainId ∧
        table.lower d.transfer.txHash = table.lower d'.transfer.txHash ∧
        d.transfer.logIndex = d'.transfer.logIndex ∧ endpointId = endpointId' ∧
        d.type = d'.type := by
  constructor
  · rintro ⟨hchain, hhash, hindex, hendpoint, htype⟩
    exact ⟨ChainId.value_injective hchain, hhash, hindex, hendpoint,
      WebhookEventType.value_injective htype⟩
  · rintro ⟨hchain, hhash, hindex, hendpoint, htype⟩
    exact ⟨congrArg ChainId.value hchain, hhash, hindex, hendpoint,
      congrArg WebhookEventType.value htype⟩

/-- **Payloads with one key are of one delivery**: of one transfer, endpoint and event type. -/
theorem idempotencyKey_buildPayload_eq_iff {table : CaseTable} {env : Env} {d d' : Dispatch}
    (hascii : ∀ c ∈ d.transfer.txHash.toList, c.toNat < 128)
    (hascii' : ∀ c ∈ d'.transfer.txHash.toList, c.toNat < 128) {endpointId endpointId' : EndpointId}
    (ht : (d.tuple endpointId).Delimited) (ht' : (d'.tuple endpointId').Delimited)
    (hsha : env.sha256 ((d.tuple endpointId).text table) =
        env.sha256 ((d'.tuple endpointId').text table) →
      (d.tuple endpointId).text table = (d'.tuple endpointId').text table)
    (mode mode' : EndpointMode) (requiredDepth requiredDepth' : Option ℤ) :
    (buildPayload env d mode endpointId requiredDepth).idempotencyKey =
        (buildPayload env d' mode' endpointId' requiredDepth').idempotencyKey ↔
      d.transfer.chainId = d'.transfer.chainId ∧
        table.lower d.transfer.txHash = table.lower d'.transfer.txHash ∧
        d.transfer.logIndex = d'.transfer.logIndex ∧ endpointId = endpointId' ∧
        d.type = d'.type := by
  rw [idempotencyKey_buildPayload table hascii, idempotencyKey_buildPayload table hascii',
    key_eq_iff ht ht' hsha, sameDelivery_tuple_iff]

/-! ### All tuples -/

/-- **Keys separate deliveries.**  Tuples without colons in the hash and in the endpoint are hashed
from one text only if they agree up to the case of the hash; where the digest tells the texts apart,
they have one key only then.  The case in which the letters of a hash are written does not matter,
for any hash. -/
theorem idempotencyKeys_separate (table : CaseTable) (env : Env) :
    (∀ t t' : IdempotencyTuple, t.Delimited → t'.Delimited →
      (t.text table = t'.text table → SameDelivery table t t') ∧
        ((env.sha256 (t.text table) = env.sha256 (t'.text table) →
            t.text table = t'.text table) →
          t.key table env = t'.key table env → SameDelivery table t t')) ∧
      ∀ (t : IdempotencyTuple) (txHash : String),
        List.Forall₂ table.SameLetter t.txHash.toList txHash.toList →
          key table env { t with txHash } = t.key table env := by
  refine ⟨?_, ?_⟩
  · intro t t' ht ht'
    exact ⟨(text_eq_iff ht ht').mp, fun hsha => (key_eq_iff ht ht' hsha).mp⟩
  · intro t txHash hcase
    rw [key, key, text, text, CaseTable.lower_eq_of_sameLetter hcase]

namespace Sample

/-- The truncated digests of two texts. -/
def digestEnv : Env where
  sha256 raw :=
    if raw = "8453:0xab:0:ep_1:payment.confirmed" then "ca02c95e0dbf0c66d2e936f259bc1b02"
    else if raw = "8453:0xab:0:ep_2:payment.confirmed" then "ee34f26df5b4915503410634eae6118d"
    else raw

/-- The tuple of a payment to one of two endpoints. -/
def keyedTuple (endpointId : EndpointId) : IdempotencyTuple :=
  ⟨8453, "0xAB", 0, endpointId, "payment.confirmed"⟩

end Sample

/-- Two endpoints get two keys for one payment, and the case of its hash changes neither. -/
theorem idempotencyKeys_separate_endpoints :
    (Sample.keyedTuple "ep_1").key CaseTable.ascii Sample.digestEnv ≠
        (Sample.keyedTuple "ep_2").key CaseTable.ascii Sample.digestEnv ∧
      key CaseTable.ascii Sample.digestEnv { Sample.keyedTuple "ep_1" with txHash := "0xaB" } =
        (Sample.keyedTuple "ep_1").key CaseTable.ascii Sample.digestEnv := by
  have hseparate := idempotencyKeys_separate CaseTable.ascii Sample.digestEnv
  have htext : (Sample.keyedTuple "ep_1").text CaseTable.ascii =
      "8453:0xab:0:ep_1:payment.confirmed" := by decide +kernel
  have htext' : (Sample.keyedTuple "ep_2").text CaseTable.ascii =
      "8453:0xab:0:ep_2:payment.confirmed" := by decide +kernel
  constructor
  · intro h
    have hsame := (hseparate.1 _ _ ⟨by decide, by decide⟩ ⟨by decide, by decide⟩).2 ?_ h
    · exact absurd hsame.endpointId (by decide)
    · rw [htext, htext']
      intro hdigest
      exact absurd hdigest (by decide +kernel)
  · exact hseparate.2 _ _ (CaseTable.forall₂_sameLetter_of_lower_eq (by decide))

end TripWire
