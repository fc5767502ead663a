import TripWire.Ingestion.Decoders.Erc3009
import TripWire.Keeper.Tables
import Mathlib.Tactic.IntervalCases

/-!
# The facilitator route and the correlation key

`POST /ingest/facilitator` (`tripwire/api/routes/facilitator.py`) makes a transfer of the
facilitator's payload and takes it through the fast path.  Goldsky's log of the same authorization
is meant to find the claim that the fast path left, under the key of chain, nonce and authorizer.

The key is built from texts.  The repository and the plpgsql function lower the authorizer, and
nothing lowers the nonce, so two spellings of one nonce are two keys: `correlates_iff` says that a
payload and a log of the same authorization meet exactly when they spell the nonce the same way, and
`ingestFacilitator_meets_iff` says it of the route.
-/

namespace TripWire

open Py

/-! ### The route -/

/-- `_KNOWN_USDC`. -/
def knownUsdc : List String :=
  [ChainId.base, .ethereum, .arbitrum].map fun chain => lower (usdcContracts chain)

/-- `FacilitatorPayload`, with what its validators check; `nonce` and `amount` are any text. -/
structure FacilitatorPayload where
  fromAddress : EthAddress
  toAddress : EthAddress
  amount : String
  nonce : String
  chainId : ChainId
  token : EthAddress
  signatureVerified : Bool
  token_known : lower token.val ∈ knownUsdc

/-- The placeholder `"0x" + "0" * 64`. -/
def zeroHash : String := "0x" ++ String.ofList (List.replicate 64 '0')

/-- The synthetic transfer of a payload; `hex` is `uuid.uuid4().hex[:40]`.  The model strips the
texts it is given. -/
def FacilitatorPayload.transfer (p : FacilitatorPayload) (hex : String) : ERC3009Transfer where
  chainId := p.chainId
  txHash := strip ("0x" ++ String.ofList (List.replicate 24 '0') ++ hex)
  blockNumber := 0
  blockHash := zeroHash
  logIndex := 0
  fromAddress := p.fromAddress
  toAddress := p.toAddress
  value := strip p.amount
  authorizer := p.fromAddress
  nonce := strip p.nonce
  token := p.token.val

/-- `ingest_facilitator`; `none` is the answer 422 to a payload whose signature is not verified. -/
def ingestFacilitator (env : Env) (w : World) (hex : String) (p : FacilitatorPayload) :
    Option Outcome :=
  if p.signatureVerified then some (processPreConfirmedEvent env w (p.transfer hex)) else none

/-- **What the route claims**: the key of its payload for the event that it has drawn an id for, and
no other key, whatever comes of the dispatch. -/
theorem activeClaim_ingestFacilitator {env : Env} {w : World} {hex : String}
    {p : FacilitatorPayload} {outcome : Outcome}
    (h : ingestFacilitator env w hex p = some outcome) (hnonce : env.raises .recordNonce = false)
    (hfree : w.activeClaim (p.transfer hex).nonceKey = none) (key : NonceKey) :
    outcome.1.activeClaim key =
      if (p.transfer hex).nonceKey = key then
        some ⟨key.1, key.2.1, key.2.2, some w.uuids, .facilitator, none, env.now⟩
      else w.activeClaim key := by
  unfold ingestFacilitator at h
  split_ifs at h
  obtain rfl := Option.some.inj h
  have hfree' : w.uuid4.1.activeClaim (p.transfer hex).nonceKey = none := hfree
  rw [processPreConfirmedEvent_of_free hnonce hfree,
    World.activeClaim_congr (dispatchForTransfer_nonces ..)]
  by_cases hkey : (p.transfer hex).nonceKey = key
  · rw [if_pos hkey, ← hkey]
    exact World.activeClaim_of_free hfree'
  · rw [if_neg hkey, World.activeClaim, (World.recordNonceOrCorrelate_of_free hfree').2 key,
      if_neg hkey]
    rfl

/-! ### What texts denote -/

/-- The pattern `^0x[a-fA-F0-9]{64}$` of a `bytes32`. -/
def isBytes32 (s : String) : Bool :=
  match s.toList with
  | '0' :: 'x' :: hs => hs.length == 64 && hs.all isHexDigit
  | _ => false

/-- The bytes that a hexadecimal text with its mark denotes. -/
def hexBytes (s : String) : Except PyError (List UInt8) := fromHexChars (dropHexMark s.toList)

/-- Two texts of a `bytes32` that denote the same bytes. -/
def SameBytes32 (s s' : String) : Prop :=
  isBytes32 s = true ∧ isBytes32 s' = true ∧ hexBytes s = hexBytes s'

/-- Two texts of an address that denote the same address. -/
def SameAddress (s s' : String) : Prop :=
  isEthAddress s = true ∧ isEthAddress s' = true ∧ hexBytes s = hexBytes s'

theorem isBytes32_iff {s : String} :
    isBytes32 s = true ↔
      ∃ hs : List Char, s.toList = '0' :: 'x' :: hs ∧ hs.length = 64 ∧
        ∀ c ∈ hs, isHexDigit c = true := hexPattern_iff

/-- The characters of hexadecimal text. -/
def hexAlphabet : List Char := "0123456789abcdefABCDEF".toList

theorem mem_hexAlphabet {c : Char} (h : isHexDigit c = true) : c ∈ hexAlphabet := by
  unfold isHexDigit at h
  simp only [Bool.or_eq_true, Bool.and_eq_true, decide_eq_true_eq, Char.le_def,
    UInt32.le_iff_toNat_le, Char.toNat_val] at h
  have hc : c = Char.ofNat c.toNat := (Char.ofNat_toNat c).symm
  have hrange : (48 ≤ c.toNat ∧ c.toNat ≤ 57) ∨ (97 ≤ c.toNat ∧ c.toNat ≤ 102) ∨
      (65 ≤ c.toNat ∧ c.toNat ≤ 70) := by
    simp at h
    omega
  clear h
  generalize c.toNat = n at hc hrange
  subst hc
  rcases hrange with ⟨hlo, hhi⟩ | ⟨hlo, hhi⟩ | ⟨hlo, hhi⟩
  · interval_cases n <;> decide
  · interval_cases n <;> decide
  · interval_cases n <;> decide

/-- A digit has a value below sixteen, and the value determines the digit up to case. -/
theorem asciiHexValue_of_mem :
    ∀ c ∈ hexAlphabet, ∃ v ∈ asciiHexValue c, v < 16 ∧ isAsciiSpace c = false ∧
      ∀ d ∈ hexAlphabet, asciiHexValue d = some v → c.toLower = d.toLower := by
  -- checked as a loop over the alphabet: `∀ c ∈ _` may be decided over all characters
  have hall : hexAlphabet.all (fun c => (asciiHexValue c).any fun v =>
      v < 16 && isAsciiSpace c = false && hexAlphabet.all fun d =>
        asciiHexValue d ≠ some v || c.toLower = d.toLower) = true := by
    decide +kernel
  intro c hc
  obtain ⟨v, hv, hcheck⟩ := (Option.any_eq_true ..).mp (List.all_eq_true.mp hall c hc)
  simp only [Bool.and_eq_true, decide_eq_true_eq, List.all_eq_true, Bool.or_eq_true] at hcheck
  refine ⟨v, hv, hcheck.1.1, hcheck.1.2, ?_⟩
  intro d hd hsame
  exact (hcheck.2 d hd).resolve_left (not_not_intro hsame)

/-- Two digits are one byte. -/
theorem fromHexChars_cons_cons {c c' : Char} (hc : isHexDigit c = true) (hc' : isHexDigit c' = true)
    (rest : List Char) :
    ∃ hi lo, asciiHexValue c = some hi ∧ asciiHexValue c' = some lo ∧ hi < 16 ∧ lo < 16 ∧
      fromHexChars (c :: c' :: rest) =
        (fromHexChars rest).map fun bs => UInt8.ofNat (16 * hi + lo) :: bs := by
  obtain ⟨hi, hhi, hlt, hspace, -⟩ := asciiHexValue_of_mem c (mem_hexAlphabet hc)
  obtain ⟨lo, hlo, hlt', -, -⟩ := asciiHexValue_of_mem c' (mem_hexAlphabet hc')
  refine ⟨hi, lo, hhi, hlo, hlt, hlt', ?_⟩
  rw [Option.mem_def] at hhi hlo
  rw [fromHexChars, hspace, hhi, hlo]
  rfl

theorem toLower_of_asciiHexValue {c d : Char} (hc : isHexDigit c = true) (hd : isHexDigit d = true)
    (h : asciiHexValue c = asciiHexValue d) : c.toLower = d.toLower := by
  obtain ⟨v, hv, -, -, hinj⟩ := asciiHexValue_of_mem c (mem_hexAlphabet hc)
  rw [Option.mem_def] at hv
  exact hinj d (mem_hexAlphabet hd) (h ▸ hv)

/-- **Equal bytes are equal text up to case.** -/
theorem map_toLower_of_fromHexChars {n : ℕ} : ∀ {cs ds : List Char}, cs.length = 2 * n →
    ds.length = 2 * n → (∀ c ∈ cs, isHexDigit c = true) → (∀ d ∈ ds, isHexDigit d = true) →
    (∃ bs, fromHexChars cs = .ok bs) ∧
      (fromHexChars cs = fromHexChars ds → cs.map Char.toLower = ds.map Char.toLower) := by
  induction n with
  | zero =>
    intro cs ds hcs hds _ _
    rw [List.length_eq_zero_iff.mp hcs, List.length_eq_zero_iff.mp hds]
    exact ⟨⟨[], rfl⟩, fun _ => rfl⟩
  | succ n ih =>
    intro cs ds hcs hds hhex hhex'
    obtain ⟨c, c', cs, rfl⟩ : ∃ c c' rest, cs = c :: c' :: rest := by
      match cs, hcs with
      | c :: c' :: rest, _ => exact ⟨c, c', rest, rfl⟩
    obtain ⟨d, d', ds, rfl⟩ : ∃ d d' rest, ds = d :: d' :: rest := by
      match ds, hds with
      | d :: d' :: rest, _ => exact ⟨d, d', rest, rfl⟩
    simp only [List.length_cons] at hcs hds
    simp only [List.forall_mem_cons] at hhex hhex'
    have hlength : cs.length = 2 * n := by omega
    have hlength' : ds.length = 2 * n := by omega
    obtain ⟨⟨bs, hbs⟩, hrest⟩ := ih hlength hlength' hhex.2.2 hhex'.2.2
    obtain ⟨⟨bs', hbs'⟩, -⟩ := ih hlength' hlength hhex'.2.2 hhex.2.2
    obtain ⟨hi, lo, hhi, hlo, hlt, hlt', hread⟩ := fromHexChars_cons_cons hhex.1 hhex.2.1 cs
    obtain ⟨hi', lo', hhi', hlo', hlt₁, hlt₁', hread'⟩ :=
      fromHexChars_cons_cons hhex'.1 hhex'.2.1 ds
    rw [hread, hread', hbs, hbs']
    refine ⟨⟨_, rfl⟩, ?_⟩
    intro heq
    have hcons : UInt8.ofNat (16 * hi + lo) :: bs = UInt8.ofNat (16 * hi' + lo') :: bs' :=
      Except.ok.inj heq
    obtain ⟨hbyte, hbytes⟩ := List.cons.inj hcons
    -- both digits can be read off the byte
    have hnat : 16 * hi + lo = 16 * hi' + lo' := by
      have hmod := congrArg UInt8.toNat hbyte
      rw [UInt8.toNat_ofNat', UInt8.toNat_ofNat', Nat.mod_eq_of_lt (by omega),
        Nat.mod_eq_of_lt (by omega)] at hmod
      exact hmod
    have hhigh : hi = hi' := by omega
    have hlow : lo = lo' := by omega
    have hc : c.toLower = d.toLower :=
      toLower_of_asciiHexValue hhex.1 hhex'.1 (by rw [hhi, hhi', hhigh])
    have hc' : c'.toLower = d'.toLower :=
      toLower_of_asciiHexValue hhex.2.1 hhex'.2.1 (by rw [hlo, hlo', hlow])
    have htail : cs.map Char.toLower = ds.map Char.toLower := by
      apply hrest
      rw [hbs, hbs', hbytes]
    simp only [List.map_cons, hc, hc', htail]

/-- Two texts of one address are equal in lower case. -/
theorem SameAddress.lower_eq {s s' : String} (h : SameAddress s s') : lower s = lower s' := by
  obtain ⟨hs, hs', hbytes⟩ := h
  obtain ⟨cs, htext, hlen, hhex⟩ := isEthAddress_iff.mp hs
  obtain ⟨ds, htext', hlen', hhex'⟩ := isEthAddress_iff.mp hs'
  unfold hexBytes at hbytes
  rw [htext, htext'] at hbytes
  have hlower := (map_toLower_of_fromHexChars (n := 20) hlen hlen' hhex hhex').2 hbytes
  rw [lower, lower, htext, htext']
  simp only [List.map_cons, hlower]

/-- A `bytes32` has no space around it. -/
theorem strip_of_isBytes32 {s : String} (h : isBytes32 s = true) : strip s = s := by
  obtain ⟨hs, htext, -, hdigits⟩ := isBytes32_iff.mp h
  exact strip_of_hexText htext hdigits

/-! ### The authorization of a log -/

/-- The address in a topic, as text. -/
def topicAddress (topic : String) : String :=
  let body := dropHexMark topic.toList
  "0x" ++ String.ofList (body.drop (body.length - 40))

/-- The texts of the authorizer and of the nonce in a row that Goldsky delivers: the columns of the
`decoded` dictionary, or the second and the third topic of a raw `AuthorizationUsed` log. -/
inductive SaysAuthorization (raw : Dict) : String → String → Prop
  | preDecoded {decoded : Dict} {authorizer nonce : String}
      (column : raw.getD "decoded" (.dict []) = .dict decoded) (filled : decoded ≠ [])
      (names : decoded.getD "authorizer" (.str "") = .str authorizer)
      (numbers : decoded.getD "nonce" (.str zeroNonce) = .str nonce) :
      SaysAuthorization raw authorizer nonce
  | rawTopics {topic0 topic1 nonce : String} {rest : List Value}
      (absent : (raw.getD "decoded" (.dict [])).truth = false)
      (topics : parseTopicsValue (raw.getD "topics" (.list [])) =
        .str topic0 :: .str topic1 :: .str nonce :: rest)
      (used : lower topic0 ≠ lower transferTopic) :
      SaysAuthorization raw (topicAddress topic1) nonce

theorem decodeAuthorization_of_says {raw : Dict} {authorizer nonce topic0 : String}
    (h : SaysAuthorization raw authorizer nonce)
    (htopic0 : firstTopic (parseTopicsValue (raw.getD "topics" (.list []))) = .ok topic0) :
    decodeAuthorization (raw.getD "decoded" (.dict []))
        (parseTopicsValue (raw.getD "topics" (.list []))) (decide (topic0 = lower transferTopic)) =
      .ok (.str authorizer, .str nonce) := by
  unfold decodeAuthorization
  cases h with
  | preDecoded column filled names numbers =>
    rename_i decoded
    have htruth : (Value.dict decoded).truth = true := by
      cases decoded with
      | nil => exact absurd rfl filled
      | cons item items => rfl
    rw [column, if_pos htruth, ← names, ← numbers]
    rfl
  | rawTopics absent topics used =>
    rename_i topic0' topic1 rest
    rw [topics] at htopic0 ⊢
    obtain rfl : lower topic0' = topic0 := Except.ok.inj htopic0
    rw [absent, decide_eq_false used]
    rfl

/-- **The decoder takes the authorization of a log as it is spelled.** -/
theorem authorization_of_decodeTransferEvent {lib : Library} {raw : Dict} {t : ERC3009Transfer}
    {authorizer nonce : String} (h : decodeTransferEvent lib raw = .ok t)
    (hsaid : SaysAuthorization raw authorizer nonce) (haddress : isEthAddress authorizer = true) :
    t.authorizer.val = authorizer ∧ t.nonce = strip nonce := by
  unfold decodeTransferEvent decodeRow at h
  simp only [bind_eq_ok_iff] at h
  obtain ⟨contract, -, chainId, -, -, -, blockNumber, -, logIndex, -, timestamp, -, topic0, htopic0,
    ⟨authorizerValue, nonceValue⟩, hauth, ⟨sender, recipient, value⟩, -, txHash, -, blockHash, -,
    from', -, to', -, authorizer', hvalid, nonce', hnonce, h⟩ := h
  rw [decodeTransferEvent_getD (by decide) (by decide)] at htopic0 hauth
  rw [decodeTransferEvent_getD (by decide) (by decide),
    decodeAuthorization_of_says hsaid htopic0] at hauth
  obtain ⟨rfl, rfl⟩ := Prod.mk.inj (Except.ok.inj hauth)
  rw [addressField_of_address ⟨authorizer, haddress⟩] at hvalid
  obtain rfl := Except.ok.inj hvalid
  obtain rfl := Except.ok.inj hnonce
  cases h
  exact ⟨rfl, rfl⟩

/-! ### The two calls of the nonce store -/

/-- Whoever claims `k` first for an event, the call for `k'` that follows is answered with that
claim. -/
def Correlates (k k' : NonceKey) : Prop :=
  ∀ (w : World) (now now' : ℤ) (eventId eventId' : Option EventId) (source source' : NonceSource),
    w.activeClaim k = none →
      ((w.recordNonceOrCorrelate now k eventId source).1.recordNonceOrCorrelate now' k' eventId'
        source').2 =
        { isNew := false, existingEventId := eventId, existingSource := some source }

theorem correlates_iff_eq {k k' : NonceKey} : Correlates k k' ↔ k = k' := by
  constructor
  · intro h
    by_contra hne
    -- in an empty table the second call finds its own key free
    have hfree : (({} : World).recordNonceOrCorrelate 0 k none .facilitator).1.activeClaim k' =
        none := by
      have hget := (@World.recordNonceOrCorrelate_of_free {} 0 k none .facilitator rfl).2 k'
      rw [if_neg hne] at hget
      rw [World.activeClaim, hget]
      rfl
    have hanswer := h {} 0 0 none none .facilitator .goldsky rfl
    rw [(World.recordNonceOrCorrelate_of_free hfree).1] at hanswer
    cases hanswer
  · rintro rfl w now now' eventId eventId' source source' hfree
    rw [World.recordNonceOrCorrelate_of_claimed (World.activeClaim_of_free hfree)]

/-- The payload and the log have one key exactly if the nonce is spelled the same way. -/
theorem nonceKey_eq_iff (p : FacilitatorPayload) (hex : String) {lib : Library} {raw : Dict}
    {t : ERC3009Transfer} {authorizer nonce : String}
    (hdecode : decodeTransferEvent lib raw = .ok t)
    (hsaid : SaysAuthorization raw authorizer nonce) (hchain : p.chainId = t.chainId)
    (hauthorizer : SameAddress p.fromAddress.val authorizer) (hnonce : SameBytes32 p.nonce nonce) :
    (p.transfer hex).nonceKey = t.nonceKey ↔ p.nonce = nonce := by
  obtain ⟨hspelled, htnonce⟩ :=
    authorization_of_decodeTransferEvent hdecode hsaid hauthorizer.2.1
  rw [strip_of_isBytes32 hnonce.2.1] at htnonce
  have hpnonce : (p.transfer hex).nonce = p.nonce := strip_of_isBytes32 hnonce.1
  have hlower : lower p.fromAddress.val = lower t.authorizer.val := by
    rw [hspelled, hauthorizer.lower_eq]
  have hsame : (p.transfer hex).chainId.value = t.chainId.value := congrArg ChainId.value hchain
  unfold ERC3009Transfer.nonceKey World.nonceKey
  rw [hsame, hpnonce, htnonce]
  constructor
  · intro heq
    exact (Prod.mk.inj (Prod.mk.inj heq).2).1
  · rintro rfl
    exact congrArg (fun a => (t.chainId.value, p.nonce, a)) hlower

/-- **When the log finds the route's claim.** Behind the route, in a world in which neither key was
held, Goldsky's call is answered with the event of the payload exactly if the nonce is spelled the
same way. -/
theorem ingestFacilitator_meets_iff {p : FacilitatorPayload} {hex : String} {env : Env} {w : World}
    {outcome : Outcome} {lib : Library} {raw : Dict} {t : ERC3009Transfer}
    {authorizer nonce : String} (h : ingestFacilitator env w hex p = some outcome)
    (hclaims : env.raises .recordNonce = false)
    (hfree : w.activeClaim (p.transfer hex).nonceKey = none)
    (hlog : w.activeClaim t.nonceKey = none) (hdecode : decodeTransferEvent lib raw = .ok t)
    (hsaid : SaysAuthorization raw authorizer nonce) (hchain : p.chainId = t.chainId)
    (hauthorizer : SameAddress p.fromAddress.val authorizer) (hnonce : SameBytes32 p.nonce nonce)
    (now : ℤ) :
    (outcome.1.recordNonceOrCorrelate now t.nonceKey none .goldsky).2 =
        { isNew := false, existingEventId := some w.uuids, existingSource := some .facilitator } ↔
      p.nonce = nonce := by
  have hclaim := activeClaim_ingestFacilitator h hclaims hfree t.nonceKey
  rw [← nonceKey_eq_iff p hex hdecode hsaid hchain hauthorizer hnonce]
  by_cases hkey : (p.transfer hex).nonceKey = t.nonceKey
  · rw [if_pos hkey] at hclaim
    rw [World.recordNonceOrCorrelate_of_claimed hclaim]
    exact iff_of_true rfl hkey
  · rw [if_neg hkey, hlog] at hclaim
    refine iff_of_false ?_ hkey
    rw [(World.recordNonceOrCorrelate_of_free hclaim).1]
    intro heq
    cases heq

/-- **When a payload and a log correlate.** For a payload and a log that denote the same chain,
authorizer and nonce, the two calls of the nonce store use one key, and the second is answered with
the claim of the first, if and only if the nonce is spelled the same way in both. -/
theorem correlates_iff (p : FacilitatorPayload) (hex : String) {lib : Library} {raw : Dict}
    {t : ERC3009Transfer} {authorizer nonce : String}
    (hdecode : decodeTransferEvent lib raw = .ok t)
    (hsaid : SaysAuthorization raw authorizer nonce) (hchain : p.chainId = t.chainId)
    (hauthorizer : SameAddress p.fromAddress.val authorizer) (hnonce : SameBytes32 p.nonce nonce) :
    ((p.transfer hex).nonceKey = t.nonceKey ∧
        Correlates (p.transfer hex).nonceKey t.nonceKey ∧
        Correlates t.nonceKey (p.transfer hex).nonceKey) ↔
      p.nonce = nonce := by
  rw [correlates_iff_eq, correlates_iff_eq,
    ← nonceKey_eq_iff p hex hdecode hsaid hchain hauthorizer hnonce]
  constructor
  · exact fun h => h.1
  · exact fun h => ⟨h, h, h.symm⟩

namespace Sample

/-- The nonce with `digit` in its last place. -/
def nonceText (digit : Char) : String := "0x" ++ String.ofList (List.replicate 63 '0' ++ [digit])

theorem isEthAddress_token :
    isEthAddress "0x833589fCD6eDb6E08f4c7C32D4f71b54bdA02913" = true := by
  decide

/-- The facilitator's payload of the sample payment. -/
def payload (nonce : String) : FacilitatorPayload where
  fromAddress := payer
  toAddress := payee
  amount := "1000"
  nonce
  chainId := .base
  token := ⟨"0x833589fCD6eDb6E08f4c7C32D4f71b54bdA02913", isEthAddress_token⟩
  signatureVerified := true
  token_known := by decide

/-- The row that Goldsky delivers for the sample payment, pre-decoded. -/
def payloadRow (nonce : String) : Dict :=
  [("address", .str (lower (usdcContracts .base))), ("chain_id", .int 8453),
   ("block_number", .int 100), ("log_index", .int 7), ("block_timestamp", .int 1700000000),
   ("transaction_hash", .str "0xaa"), ("block_hash", .str "0xb1"),
   ("decoded", .dict [("authorizer", .str payer.val), ("nonce", .str nonce)]),
   ("transfer", .dict [("from_address", .str payer.val), ("to_address", .str payee.val),
     ("value", .int 1000)])]

theorem payloadRow_plain (nonce : String) : PlainColumns (payloadRow nonce) .base where
  address := rfl
  chainId := rfl
  blockNumber := ⟨100, rfl⟩
  logIndex := ⟨7, rfl⟩
  blockTimestamp := ⟨1700000000, rfl⟩
  transactionHash := ⟨"0xaa", rfl⟩
  blockHash := ⟨"0xb1", rfl⟩
  topics := rfl

theorem payloadRow_says (nonce : String) : SaysAuthorization (payloadRow nonce) payer.val nonce :=
  .preDecoded rfl (List.cons_ne_nil _ _) rfl rfl

theorem payloadRow_decodes (nonce : String) :
    ∃ t, decodeTransferEvent {} (payloadRow nonce) = .ok t ∧ t.chainId = .base := by
  obtain ⟨t, ht, hchain, -⟩ := @decodeTransferEvent_preDecoded {} _ _ payer payer payee nonce
    (.int 1000) (payloadRow_plain nonce) rfl rfl
  exact ⟨t, ht, hchain⟩

theorem sameAddress_payer : SameAddress payer.val payer.val := ⟨payer.property, payer.property, rfl⟩

end Sample

/-- A payload and a log with the nonce in lower case. -/
theorem correlates_iff_lower :
    ∃ t, decodeTransferEvent {} (Sample.payloadRow (Sample.nonceText 'a')) = .ok t ∧
      (((Sample.payload (Sample.nonceText 'a')).transfer "00").nonceKey = t.nonceKey ∧
          Correlates ((Sample.payload (Sample.nonceText 'a')).transfer "00").nonceKey t.nonceKey ∧
          Correlates t.nonceKey ((Sample.payload (Sample.nonceText 'a')).transfer "00").nonceKey ↔
        Sample.nonceText 'a' = Sample.nonceText 'a') := by
  obtain ⟨t, ht, hchain⟩ := Sample.payloadRow_decodes (Sample.nonceText 'a')
  refine ⟨t, ht, ?_⟩
  exact correlates_iff (Sample.payload (Sample.nonceText 'a')) "00" ht (Sample.payloadRow_says _)
    hchain.symm Sample.sameAddress_payer ⟨by decide +kernel, by decide +kernel, rfl⟩

/-- The facilitator spells the nonce with a capital letter: the two denote the same authorization,
and Goldsky's call finds the nonce free. -/
theorem not_correlates_capital :
    ∃ t, decodeTransferEvent {} (Sample.payloadRow (Sample.nonceText 'a')) = .ok t ∧
      SaysAuthorization (Sample.payloadRow (Sample.nonceText 'a')) Sample.payer.val
        (Sample.nonceText 'a') ∧
      (Sample.payload (Sample.nonceText 'A')).chainId = t.chainId ∧
      SameAddress (Sample.payload (Sample.nonceText 'A')).fromAddress.val Sample.payer.val ∧
      SameBytes32 (Sample.payload (Sample.nonceText 'A')).nonce (Sample.nonceText 'a') ∧
      ((Sample.payload (Sample.nonceText 'A')).transfer "00").nonceKey ≠ t.nonceKey ∧
      ¬Correlates ((Sample.payload (Sample.nonceText 'A')).transfer "00").nonceKey t.nonceKey := by
  obtain ⟨t, ht, hchain⟩ := Sample.payloadRow_decodes (Sample.nonceText 'a')
  have hnonce : SameBytes32 (Sample.nonceText 'A') (Sample.nonceText 'a') :=
    ⟨by decide +kernel, by decide +kernel, by decide +kernel⟩
  have hne : ((Sample.payload (Sample.nonceText 'A')).transfer "00").nonceKey ≠ t.nonceKey := by
    obtain ⟨-, htnonce⟩ := authorization_of_decodeTransferEvent ht (Sample.payloadRow_says _)
      Sample.payer.property
    intro heq
    have htexts : strip (Sample.nonceText 'A') = t.nonce := (Prod.mk.inj (Prod.mk.inj heq).2).1
    rw [htnonce, strip_of_isBytes32 hnonce.1, strip_of_isBytes32 hnonce.2.1] at htexts
    exact absurd htexts (by decide +kernel)
  refine ⟨t, ht, Sample.payloadRow_says _, hchain.symm, Sample.sameAddress_payer, hnonce, hne, ?_⟩
  rw [correlates_iff_eq]
  exact hne

end TripWire
