import TripWire.Pulse.Gating

/-!
# What a log consumes

The unified loop decodes a log for each trigger, filters it, and puts it through the payment gate
before it takes any nonce.  `ClaimsExactly claimed w w'` says which rows of the `nonces` table
change on the way from `w` to `w'`: the keys that satisfy `claimed` and nobody holds are held
afterwards, and every other row is as it was.  It composes (`ClaimsExactly.trans`), so the
deduplication loop follows from one call of `record_nonce`, whatever the list, repeated triggers
included: `gated_out_consume_nothing`.
-/

namespace TripWire

open Py

/-! ### Exact claims -/

/-- The keys that satisfy `claimed` and are free are claimed, for no event yet, and the rows of all
other keys are unchanged.  A row that is marked as reorged does not hold its key: `record_nonce`
hands it out again. -/
def ClaimsExactly (claimed : NonceKey → Prop) (w w' : World) : Prop :=
  ∀ k, (claimed k ∧ w.activeClaim k = none →
      ∃ row, w'.nonces.get? k = some row ∧ row.reorgedAt = none ∧ row.eventId = none) ∧
    (¬(claimed k ∧ w.activeClaim k = none) → w'.nonces.get? k = w.nonces.get? k)

theorem ClaimsExactly.congr {claimed claimed' : NonceKey → Prop} {w w' : World}
    (h : ClaimsExactly claimed w w') (hiff : ∀ k, claimed' k ↔ claimed k) :
    ClaimsExactly claimed' w w' := by
  intro k
  rw [hiff]
  exact h k

/-- Nothing is claimed where the table stays the same. -/
theorem claimsExactly_of_eq {w w' : World} (h : w'.nonces = w.nonces) :
    ClaimsExactly (fun _ => False) w w' := by
  intro k
  rw [h]
  exact ⟨fun hclaimed => hclaimed.1.elim, fun _ => rfl⟩

theorem ClaimsExactly.trans {claimed claimed' : NonceKey → Prop} {w₁ w₂ w₃ : World}
    (h : ClaimsExactly claimed w₁ w₂) (h' : ClaimsExactly claimed' w₂ w₃) :
    ClaimsExactly (fun k => claimed k ∨ claimed' k) w₁ w₃ := by
  intro k
  by_cases hfirst : claimed k ∧ w₁.activeClaim k = none
  · -- claimed by the first part, hence held in the second
    obtain ⟨row, hrow, hactive, hevent⟩ := (h k).1 hfirst
    have hheld : w₂.activeClaim k = some row := World.activeClaim_eq_some_iff.mpr ⟨hrow, hactive⟩
    have hkept : w₃.nonces.get? k = w₂.nonces.get? k := by
      apply (h' k).2
      rintro ⟨-, hfree⟩
      rw [hheld] at hfree
      cases hfree
    refine ⟨fun _ => ⟨row, hkept.trans hrow, hactive, hevent⟩, ?_⟩
    intro hnot
    exact absurd ⟨Or.inl hfirst.1, hfirst.2⟩ hnot
  · have hsame : w₂.nonces.get? k = w₁.nonces.get? k := (h k).2 hfirst
    have hfree : w₂.activeClaim k = w₁.activeClaim k := by
      unfold World.activeClaim
      rw [hsame]
    rw [← hfree, ← hsame]
    rw [← hfree] at hfirst
    constructor
    · rintro ⟨hclaimed, hnone⟩
      rcases hclaimed with hclaimed | hclaimed
      · exact absurd ⟨hclaimed, hnone⟩ hfirst
      · exact (h' k).1 ⟨hclaimed, hnone⟩
    · intro hnot
      apply (h' k).2
      rintro ⟨hclaimed, hnone⟩
      exact hnot ⟨Or.inr hclaimed, hnone⟩

/-- One call of `record_nonce`. -/
theorem claimsExactly_recordNonce (w : World) (now : ℤ) (key : NonceKey) :
    ClaimsExactly (· = key) w (w.recordNonce now key none).1 := by
  intro k
  rcases w.recordNonce_cases now key none with
    ⟨hsame, hheld⟩ | ⟨claim, table, hfree, hclaim, hcall, hget⟩
  · rw [hsame]
    refine ⟨?_, fun _ => rfl⟩
    rintro ⟨rfl, hfree⟩
    rw [hfree] at hheld
    cases hheld
  · rw [hcall]
    constructor
    · rintro ⟨rfl, -⟩
      exact ⟨claim, (hget k).trans (if_pos rfl), hclaim.1, hclaim.2⟩
    · intro hnot
      have hne : key ≠ k := by
        rintro rfl
        exact hnot ⟨rfl, hfree⟩
      exact (hget k).trans (if_neg hne)

/-- **The deduplication loop** claims the keys of its pairs. -/
theorem claimsExactly_dedupPairs {env : Env} (chainId : Option ℤ)
    {pairs : List (DecodedEvent × Trigger)}
    (hstore : ∀ p ∈ pairs, env.raises (.recordTriggerNonce p.2.id) = false) (w : World) :
    ClaimsExactly (fun k => ∃ p ∈ pairs, triggerNonceKey chainId p.1 p.2 = k) w
      (dedupPairs env chainId pairs w).1 := by
  induction pairs generalizing w with
  | nil =>
    apply (claimsExactly_of_eq rfl).congr
    simp
  | cons p ps ih =>
    obtain ⟨d, t⟩ := p
    have hcall := hstore (d, t) List.mem_cons_self
    have hrest := ih fun q hq => hstore q (List.mem_cons_of_mem _ hq)
    rw [dedupPairs_cons, if_neg (by rw [hcall]; exact Bool.false_ne_true)]
    apply ((claimsExactly_recordNonce w env.now (triggerNonceKey chainId d t)).trans
      (hrest (w.recordNonce env.now (triggerNonceKey chainId d t) none).1)).congr
    intro k
    simp only [List.mem_cons, exists_eq_or_imp]
    rw [eq_comm]

/-! ### A run of the loop -/

/-- The trigger decodes the log to `d`, its filters let `d` through, and so does its payment gate.
-/
structure Passes (lib : Library) (raw : RawLog) (t : Trigger) (d : DecodedEvent) : Prop where
  decodes : AbiGenericDecoder.decode lib t.abi raw = .ok d
  filters : evaluateFilters lib d.fields t.filterRules = .ok none
  payment : checkPaymentGate d t = none

theorem survivingEvent_eq_some_iff {lib : Library} {raw : RawLog} {t : Trigger} {d : DecodedEvent} :
    survivingEvent lib raw t = some d ↔ Passes lib raw t d := by
  unfold survivingEvent survivor
  cases hdecode : AbiGenericDecoder.decode lib t.abi raw with
  | error e =>
    constructor
    · intro h
      cases h
    · intro h
      cases hdecode.symm.trans h.decodes
  | ok d' =>
    constructor
    · intro h
      dsimp only at h
      cases hfilters : evaluateFilters lib d'.fields t.filterRules with
      | error e =>
        rw [hfilters] at h
        cases h
      | ok rejection =>
        simp only [hfilters, Except.map, Except.toOption, Option.join_some] at h
        split_ifs at h with hreject
        obtain rfl := Option.some.inj h
        rw [Bool.or_eq_true, not_or, Option.not_isSome_iff_eq_none,
          Option.not_isSome_iff_eq_none] at hreject
        exact ⟨hdecode, by rw [hfilters, hreject.1], hreject.2⟩
    · intro h
      obtain rfl : d' = d := Except.ok.inj (hdecode.symm.trans h.decodes)
      simp [h.filters, h.payment, Except.map, Except.toOption]

/-- The key that the log consumes for the trigger: the chain of the log, its transaction and index
with the trigger, and the identity it names. -/
def consumedKey (raw : RawLog) (t : Trigger) (d : DecodedEvent) : NonceKey :=
  (raw.chainId.getD 0, s!"{raw.transactionHash}:{d.logIndex}:{t.id}",
    lower ((d.identityAddress.filter (· ≠ "")).getD "dynamic_trigger"))

theorem triggerNonceKey_eq {lib : Library} {raw : RawLog} {t : Trigger} {d : DecodedEvent}
    (h : Passes lib raw t d) : triggerNonceKey raw.chainId d t = consumedKey raw t d := by
  have htx : d.txHash = raw.transactionHash := (AbiGenericDecoder.decode_shared h.decodes).txHash
  rw [triggerNonceKey, htx]
  rfl

/-- **Gated-out triggers consume nothing.** For every log and every list of triggers, repeated ones
included, whose filters do not raise on the log and whose nonce calls succeed: a run claims exactly
the free keys of the triggers that decode the log and let it through, and leaves the row of every
other key unchanged. -/
theorem gated_out_consume_nothing (env : Env) (lib : Library) (w : World) (raw : RawLog)
    (triggers : List Trigger)
    (hfilters : ∀ t ∈ triggers, ∀ d, AbiGenericDecoder.decode lib t.abi raw = .ok d →
      ∀ e, evaluateFilters lib d.fields t.filterRules ≠ .error e)
    (hstore : ∀ t ∈ triggers, env.raises (.recordTriggerNonce t.id) = false) :
    ClaimsExactly (fun k => ∃ t ∈ triggers, ∃ d, Passes lib raw t d ∧ consumedKey raw t d = k) w
      (processUnified env lib w raw triggers).1 := by
  have hok : ∀ t ∈ triggers, filtersRaise lib raw t = false := by
    intro t ht
    unfold filtersRaise survivor
    cases hdecode : AbiGenericDecoder.decode lib t.abi raw with
    | error e => rfl
    | ok d =>
      cases hresult : evaluateFilters lib d.fields t.filterRules with
      | error e => exact absurd hresult (hfilters t ht d hdecode e)
      | ok rejection => simp [hresult, Except.map, Except.toBool]
  show ClaimsExactly _ w (processUnifiedTraced env lib w raw triggers).1
  rw [processUnifiedTraced, decodedPairs_of_ok hok]
  have hkeys : ∀ k, (∃ t ∈ triggers, ∃ d, Passes lib raw t d ∧ consumedKey raw t d = k) ↔
      ∃ p ∈ survivors lib raw triggers, triggerNonceKey raw.chainId p.1 p.2 = k := by
    intro k
    constructor
    · rintro ⟨t, ht, d, hpasses, rfl⟩
      exact ⟨(d, t), mem_survivors.mpr ⟨ht, survivingEvent_eq_some_iff.mpr hpasses⟩,
        triggerNonceKey_eq hpasses⟩
    · rintro ⟨⟨d, t⟩, hp, rfl⟩
      obtain ⟨ht, hd⟩ := mem_survivors.mp hp
      have hpasses := survivingEvent_eq_some_iff.mp hd
      exact ⟨t, ht, d, hpasses, (triggerNonceKey_eq hpasses).symm⟩
  cases hpairs : survivors lib raw triggers with
  | nil =>
    rw [hpairs] at hkeys
    apply (claimsExactly_of_eq rfl).congr
    intro k
    rw [hkeys]
    simp
  | cons primary pairs =>
    rw [hpairs] at hkeys
    have hchain : primary.1.chainId = raw.chainId := by
      have hmem : primary ∈ survivors lib raw triggers := by
        rw [hpairs]
        exact List.mem_cons_self
      exact (decodedFrom_of_survivingEvent (mem_survivors.mp hmem).2).chainId
    have hcalls : ∀ p ∈ primary :: pairs, env.raises (.recordTriggerNonce p.2.id) = false := by
      intro p hp
      rw [← hpairs] at hp
      exact hstore p.2 (mem_survivors.mp hp).1
    have hdedup := (claimsExactly_dedupPairs raw.chainId hcalls w).congr hkeys
    dsimp only
    rw [hchain]
    split_ifs
    · exact hdedup
    · exact hdedup
    · -- the dispatch loop leaves the table alone
      have hkept := (dispatchTriggers_spec env lib (triggerContext env primary.1)
        ((dedupPairs env raw.chainId (primary :: pairs) w).2.filter fun p =>
          reputationGate (triggerContext env primary.1).identity p.2)
        (dedupPairs env raw.chainId (primary :: pairs) w).1).1.nonces
      intro k
      rw [hkept]
      exact hdedup k

/-- Of two triggers on the log, one asks for a payment, which the event does not have: the key of
the other is claimed, its own key stays free. -/
theorem gated_out_consume_nothing_payment :
    let gated : Trigger := { Sample.trigger "u" [] with requirePayment := true }
    let w' := (processUnified { blockNumber := 200 } Sample.emptyExpression Sample.pulse
      Sample.rawLog [gated, Sample.trigger "t" []]).1
    (∃ row, w'.nonces.get? (8453, "0xaa:7:t", "dynamic_trigger") = some row ∧
      row.reorgedAt = none ∧ row.eventId = none) ∧
      w'.nonces.get? (8453, "0xaa:7:u", "dynamic_trigger") = none := by
  intro gated w'
  have hclaims : ClaimsExactly _ Sample.pulse w' :=
    gated_out_consume_nothing { blockNumber := 200 } Sample.emptyExpression Sample.pulse
      Sample.rawLog [gated, Sample.trigger "t" []]
      (by
        intro t ht d _ e
        have hrules : t.filterRules = [] := by
          rcases List.mem_pair.mp ht with rfl | rfl
          · rfl
          · rfl
        rw [hrules]
        rintro ⟨⟩)
      (fun _ _ => rfl)
  have hfields : ∀ (id : String) (d : DecodedEvent),
      AbiGenericDecoder.decode Sample.emptyExpression (Sample.trigger id []).abi Sample.rawLog =
        .ok d → d.logIndex = 7 ∧ d.identityAddress = none ∧ d.paymentAmount = none := by
    intro id d hd
    obtain ⟨d', hd', hamount, hidentity⟩ := Sample.decoded_rawLog id
    obtain rfl := Except.ok.inj (hd'.symm.trans hd)
    exact ⟨(Except.ok.inj (AbiGenericDecoder.decode_shared hd).logIndex).symm, hidentity, hamount⟩
  constructor
  · apply (hclaims _).1
    obtain ⟨d, hd, hamount, hidentity⟩ := Sample.decoded_rawLog "t"
    refine ⟨⟨Sample.trigger "t" [], by simp, d, ⟨hd, rfl, rfl⟩, ?_⟩, rfl⟩
    rw [consumedKey, (hfields "t" d hd).1, hidentity]
    decide +kernel
  · refine (hclaims _).2 ?_
    rintro ⟨⟨t, ht, d, hpasses, hkey⟩, -⟩
    rcases List.mem_pair.mp ht with rfl | rfl
    · -- the event has no payment, so the gate turns the trigger away
      have hpayment := hpasses.payment
      rw [checkPaymentGate, if_pos rfl, (hfields "u" d hpasses.decodes).2.2] at hpayment
      cases hpayment
    · obtain ⟨hindex, hidentity, -⟩ := hfields "t" d hpasses.decodes
      rw [consumedKey, hindex, hidentity] at hkey
      exact absurd hkey (by decide +kernel)

end TripWire
