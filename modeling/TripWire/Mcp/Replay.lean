import Mathlib
import TripWire.Mcp.Auth

/-!
# The replay key of an x402 payment

Any number of x402 calls run side by side (`x402SystemStep`).  The argument about their replay keys
is one of ownership: a call holds its key from the `SET NX` that succeeds until its own `DEL`, only
a call that holds a key deletes it, and no two calls hold the same key (`Exclusive`).

* A call that delivers a result has settled, and a settled call holds its key for good.  So a
  payment buys one result (`x402_one_result`).
* Not every call that fails gives its key back: nothing deletes the key when the identity resolver
  raises, or when the payment names no payer and the tool asks for no reputation.  These are the
  only two ways in which the key and the settlement disagree (`key_mirrors_settlement_iff`).
-/

namespace TripWire

open Py Machine

variable {σ : Type}

/-! ### Concurrent calls -/

/-- The replay keys in Redis, the world of the handlers and the calls. -/
structure X402System (σ : Type) where
  keys : List String := []
  world : σ
  calls : List (X402Call σ) := []

/-- One step of a run. -/
inductive X402Action (σ : Type) where
  /-- A request arrives. -/
  | arrive (call : X402Call σ)
  /-- The call `i` takes its next step. -/
  | step (i : ℕ)

section System

variable (sha256 : String → String)

/-- The system after a step. -/
def x402SystemStep (s : X402System σ) : X402Action σ → X402System σ
  | .arrive call => { s with calls := s.calls ++ [{ call with state := .received }] }
  | .step i =>
    match s.calls[i]? with
    | none => s
    | some call =>
      let (keys, world, state) := x402Step sha256 s.keys s.world call
      { keys, world, calls := s.calls.set i { call with state } }

/-- A property of calls that the steps of a call keep, in any environment, holds of every call of
every run. -/
theorem forall_calls_run {P : X402Call σ → Prop}
    (harrive : ∀ call : X402Call σ, P { call with state := .received })
    (hstep : ∀ keys world (call : X402Call σ), P call →
      P { call with state := (x402Step sha256 keys world call).2.2 })
    {s : X402System σ} (hs : ∀ c ∈ s.calls, P c) (actions : List (X402Action σ)) :
    ∀ c ∈ (run (x402SystemStep sha256) s actions).calls, P c := by
  refine run_invariant (I := fun s : X402System σ => ∀ c ∈ s.calls, P c) ?_ actions hs
  intro s a h
  cases a with
  | arrive call =>
    intro c hc
    rcases List.mem_append.mp hc with hc | hc
    · exact h c hc
    · rw [List.mem_singleton] at hc
      rw [hc]
      exact harrive call
  | step i =>
    cases hi : s.calls[i]? with
    | none =>
      simp only [x402SystemStep, hi]
      exact h
    | some call =>
      simp only [x402SystemStep, hi]
      intro c hc
      rcases List.mem_or_eq_of_mem_set hc with hc | rfl
      · exact h c hc
      · exact hstep s.keys s.world call (h call (List.mem_of_getElem? hi))

/-! ### Ownership -/

/-- A call that holds its key finds it in Redis, and no two calls hold the same key. -/
structure Exclusive (s : X402System σ) : Prop where
  present : ∀ {i : ℕ} {c : X402Call σ}, s.calls[i]? = some c → c.state.holds = true →
    c.dedupKey sha256 ∈ s.keys
  unique : ∀ {i j : ℕ} {c d : X402Call σ}, s.calls[i]? = some c → s.calls[j]? = some d →
    c.state.holds = true → d.state.holds = true →
    c.dedupKey sha256 = d.dedupKey sha256 → i = j

variable {sha256}

/-- A call that arrives holds nothing. -/
theorem Exclusive.arrive {s : X402System σ} (h : Exclusive sha256 s) (call : X402Call σ) :
    Exclusive sha256 (x402SystemStep sha256 s (.arrive call)) := by
  -- a call that holds a key was there before
  have hold : ∀ {i : ℕ} {c : X402Call σ},
      (s.calls ++ [{ call with state := .received }])[i]? = some c → c.state.holds = true →
        s.calls[i]? = some c := by
    intro i c hi hc
    rcases Nat.lt_or_ge i s.calls.length with hlt | hge
    · rwa [List.getElem?_append_left hlt] at hi
    · rw [List.getElem?_append_right hge] at hi
      obtain ⟨_, hget⟩ := List.getElem?_eq_some_iff.mp hi
      rw [List.getElem_singleton] at hget
      rw [← hget] at hc
      cases hc
  constructor
  · intro i c hi hc
    exact h.present (hold hi hc) hc
  · intro i j c d hi hj hc hd hkey
    exact h.unique (hold hi hc) (hold hj hd) hc hd hkey

/-- One call moves: the others still find their keys, and if the mover holds its key afterwards, it
finds it and nobody else holds it. -/
theorem Exclusive.move {s : X402System σ} (h : Exclusive sha256 s) {i : ℕ} {call : X402Call σ}
    (hi : s.calls[i]? = some call) (keys : List String) (world : σ) (state : X402State)
    (hothers : ∀ j d, j ≠ i → s.calls[j]? = some d → d.state.holds = true →
      d.dedupKey sha256 ∈ keys)
    (hself : state.holds = true → call.dedupKey sha256 ∈ keys ∧
      ∀ j d, j ≠ i → s.calls[j]? = some d → d.state.holds = true →
        d.dedupKey sha256 ≠ call.dedupKey sha256) :
    Exclusive sha256 { keys, world, calls := s.calls.set i { call with state } } := by
  obtain ⟨hlt, -⟩ := List.getElem?_eq_some_iff.mp hi
  -- a call after the step is the one that moved, or one that was there before
  have hold : ∀ {j d}, (s.calls.set i { call with state })[j]? = some d →
      (j = i ∧ d = { call with state }) ∨ (j ≠ i ∧ s.calls[j]? = some d) := by
    intro j d hj
    by_cases hji : j = i
    · subst hji
      rw [List.getElem?_set_self hlt] at hj
      exact .inl ⟨rfl, (Option.some.inj hj).symm⟩
    · rw [List.getElem?_set_ne (Ne.symm hji)] at hj
      exact .inr ⟨hji, hj⟩
  constructor
  · intro j d hj hd
    rcases hold hj with ⟨rfl, rfl⟩ | ⟨hne, hj⟩
    · exact (hself hd).1
    · exact hothers j d hne hj hd
  · intro j k c d hj hk hc hd hkey
    rcases hold hj with ⟨rfl, rfl⟩ | ⟨hji, hj'⟩
    · rcases hold hk with ⟨rfl, rfl⟩ | ⟨hki, hk'⟩
      · rfl
      · exact absurd hkey.symm ((hself hc).2 k d hki hk' hd)
    · rcases hold hk with ⟨rfl, rfl⟩ | ⟨hki, hk'⟩
      · exact absurd hkey ((hself hd).2 j c hji hj' hc)
      · exact h.unique hj' hk' hc hd hkey

/-- **A step keeps the ownership of keys.** -/
theorem Exclusive.step {s : X402System σ} (h : Exclusive sha256 s) (i : ℕ) :
    Exclusive sha256 (x402SystemStep sha256 s (.step i)) := by
  cases hi : s.calls[i]? with
  | none =>
    simp only [x402SystemStep, hi]
    exact h
  | some call =>
    simp only [x402SystemStep, hi]
    rcases x402Step_cases sha256 s.keys s.world call with
      ⟨hkeys, hholds⟩ | ⟨hfree, hkeys⟩ | ⟨hheld, hlost, hkeys⟩
    · rw [hkeys]
      refine h.move hi _ _ _ (fun j d _ hj hd => h.present hj hd) ?_
      intro hself
      refine ⟨h.present hi (hholds hself), ?_⟩
      intro j d hne hj hd hkey
      exact hne (h.unique hj hi hd (hholds hself) hkey)
    · rw [hkeys]
      refine h.move hi _ _ _ (fun j d _ hj hd => List.mem_cons_of_mem _ (h.present hj hd)) ?_
      intro _
      refine ⟨List.mem_cons_self, ?_⟩
      -- the key was free, so nobody held it
      intro j d _ hj hd hkey
      have hpresent := h.present hj hd
      rw [hkey] at hpresent
      exact hfree hpresent
    · rw [hkeys]
      refine h.move hi _ _ _ ?_ ?_
      · -- only the call itself held the key it gives back
        intro j d hne hj hd
        refine List.mem_filter.mpr ⟨h.present hj hd, ?_⟩
        rw [decide_eq_true_eq]
        intro hkey
        exact hne (h.unique hj hi hd hheld hkey)
      · intro hself
        rw [hlost] at hself
        cases hself

/-- In every run the ownership of keys is exclusive. -/
theorem exclusive_run (keys : List String) (world : σ) (actions : List (X402Action σ)) :
    Exclusive sha256 (run (x402SystemStep sha256) { keys, world } actions) := by
  refine run_invariant (I := Exclusive sha256) ?_ actions ⟨?_, ?_⟩
  · intro s a h
    cases a with
    | arrive call => exact h.arrive call
    | step i => exact h.step i
  · intro i c hi
    cases hi
  · intro i j c d hi
    cases hi

end System

/-! ### One result for one payment -/

/-- The call has returned a tool result without `"error"`. -/
def X402Call.Delivered (call : X402Call σ) : Prop :=
  ∃ answer settled, call.state = .ended answer settled ∧
    (handleX402ToolCall answer).delivers = true

/-- `server.settle` has returned to the call, without an exception. -/
def X402Call.Settled (call : X402Call σ) : Prop :=
  call.services.settleRaises = false ∧ ∃ answer, call.state = .ended answer true

/-- A call that gives its key back has nothing to deliver, and one that has ended with something to
deliver has settled. -/
def X402Call.PaidFor (call : X402Call σ) : Prop :=
  match call.state with
  | .releasing answer onFailure =>
    (handleX402ToolCall answer).delivers = false ∧ (handleX402ToolCall onFailure).delivers = false
  | .ended answer settled =>
    ((handleX402ToolCall answer).delivers = true → settled = true) ∧
      (settled = true → call.services.settleRaises = false)
  | _ => True

/-- An exception delivers nothing. -/
theorem delivers_raised (e : HttpException) :
    (handleX402ToolCall (.raised e)).delivers = false := by
  unfold handleX402ToolCall
  split
  all_goals first
    | rfl
    | contradiction

/-- A result with an error delivers nothing. -/
theorem delivers_result {result : Dict} (h : hasError result = true) :
    (handleX402ToolCall (.result result)).delivers = false := by
  rw [handleX402ToolCall, RpcResponse.delivers, h]
  rfl

/-- A step keeps it. -/
theorem X402Call.PaidFor.step {sha256 : String → String} {call : X402Call σ} (h : call.PaidFor)
    (keys : List String) (world : σ) :
    X402Call.PaidFor { call with state := (x402Step sha256 keys world call).2.2 } := by
  -- an answer that delivers nothing may end a call that has not settled
  have hended : ∀ {answer : X402Answer}, (handleX402ToolCall answer).delivers = false →
      X402Call.PaidFor { call with state := .ended answer false } := by
    intro answer hno
    refine ⟨fun hdelivers => ?_, fun hfalse => by cases hfalse⟩
    rw [hno] at hdelivers
    cases hdelivers
  unfold x402Step
  unfold X402Call.PaidFor at h
  cases hstate : call.state with
  | received =>
    simp only [verifyPayment]
    split_ifs
    · exact hended (delivers_raised _)
    · split
      · exact hended (delivers_raised _)
      · split_ifs
        · trivial
        · exact hended (delivers_raised _)
  | verified payer =>
    simp only
    split_ifs
    · exact hended rfl
    · exact hended (delivers_raised _)
    · trivial
  | claimed payer =>
    simp only [checkPayer]
    split
    · exact hended rfl
    · split_ifs
      · exact ⟨delivers_raised _, rfl⟩
      · trivial
  | trusted ctx =>
    simp only [checkRate]
    split
    · exact hended (delivers_raised _)
    · split_ifs
      · exact ⟨delivers_raised _, delivers_raised _⟩
      · trivial
  | admitted ctx =>
    simp only [afterHandler]
    split
    · exact ⟨rfl, rfl⟩
    · split_ifs with herror
      · exact ⟨delivers_result herror, delivers_result herror⟩
      · trivial
  | executed result =>
    simp only [settlePayment]
    split_ifs with hraises
    · exact ⟨rfl, rfl⟩
    · exact ⟨fun _ => rfl, fun _ => by simpa using hraises⟩
  | releasing answer onFailure =>
    rw [hstate] at h
    simp only
    split_ifs
    · exact hended h.2
    · exact hended h.1
  | ended answer settled =>
    rw [hstate] at h
    exact h

/-- **One result for one payment.** In every interleaving of any number of calls, from any replay
keys: of the calls that carry the same payment for the same tool at most one returns a tool result
without `"error"`, and every call that does has settled before. -/
theorem x402_one_result (sha256 : String → String) (keys : List String) (world : σ)
    (actions : List (X402Action σ)) :
    let s := run (x402SystemStep sha256) { keys, world } actions
    (∀ (i j : ℕ) (c d : X402Call σ), s.calls[i]? = some c → s.calls[j]? = some d →
      c.paymentHeader = d.paymentHeader → c.tool.name = d.tool.name →
      c.Delivered → d.Delivered → i = j) ∧
    ∀ c ∈ s.calls, c.Delivered → c.Settled := by
  intro s
  have hexclusive : Exclusive sha256 s := exclusive_run keys world actions
  have hpaid : ∀ c ∈ s.calls, c.PaidFor :=
    forall_calls_run sha256 (fun _ => trivial) (fun keys world _ h => h.step keys world)
      (fun _ hc => by cases hc) actions
  have hsettled : ∀ c ∈ s.calls, c.Delivered → c.Settled := by
    rintro c hc ⟨answer, settled, hstate, hdelivers⟩
    have hpaidc := hpaid c hc
    rw [X402Call.PaidFor, hstate] at hpaidc
    have htrue := hpaidc.1 hdelivers
    exact ⟨hpaidc.2 htrue, answer, htrue ▸ hstate⟩
  refine ⟨?_, hsettled⟩
  intro i j c d hi hj hheader hname hc hd
  -- both calls have settled, so both still hold the key, which is the same
  have hholds : ∀ c ∈ s.calls, c.Delivered → c.state.holds = true := by
    intro c hc hdelivered
    obtain ⟨-, answer, hstate⟩ := hsettled c hc hdelivered
    rw [hstate]
    rfl
  refine hexclusive.unique hi hj (hholds c (List.mem_of_getElem? hi) hc)
    (hholds d (List.mem_of_getElem? hj) hd) ?_
  unfold X402Call.dedupKey
  rw [hheader, hname]

namespace Sample

/-- A tool that is paid by x402. -/
def paidTool : X402Tool where
  cost := 3000
  minReputation := 10
  name := "create_trigger"

/-- A verified payment of an agent that the resolver answers for. -/
def paidCall (resolve : String → ℤ → Except PyError (Option AgentIdentity))
    (outcome : HandlerOutcome) : X402Call Unit where
  paymentHeader := "payment"
  tool := paidTool
  services := { verify := .ok { payer := some payer.val }, identityResolver := some resolve }
  handler := fun _ world => (world, outcome)

/-- A resolver that fails, as on an address that it cannot encode. -/
def unresolvable (_ : String) (_ : ℤ) : Except PyError (Option AgentIdentity) :=
  .error .valueError

/-- A call arrives and takes its first steps. -/
def firstSteps (call : X402Call Unit) (n : ℕ) : List (X402Action Unit) :=
  .arrive call :: List.replicate n (.step 0)

end Sample

/-- Two calls with the same payment: the first delivers, the second finds the payment used. -/
example : ((run (x402SystemStep id) { world := () }
      [.arrive (Sample.paidCall Sample.reputable (.returns [])),
        .arrive (Sample.paidCall Sample.reputable (.returns [])), .step 0, .step 1, .step 0,
        .step 1, .step 0, .step 0, .step 0, .step 0]).calls.map X402Call.state) =
    [.ended (.result []) true, .ended (.raised ⟨402, "Payment already used"⟩) false] := by
  decide +kernel

/-! ### The key after a call -/

/-- What has to hold for a call to give its key back: its payer's identity can be resolved, and the
payment names a payer or the tool asks for a reputation. -/
def X402Call.Accountable (call : X402Call σ) : Prop :=
  ∀ r, call.services.verify = .ok r →
    (∃ identity, resolvePayer call.tool call.services r.payerAddress = .ok identity) ∧
      (r.payerAddress = "" → 0 < call.tool.minReputation)

/-- What the state of a call says about the answers it got. -/
def X402Call.Consistent (call : X402Call σ) : Prop :=
  match call.state with
  | .verified payer | .claimed payer => ∃ r, call.services.verify = .ok r ∧ r.payerAddress = payer
  | .trusted ctx => ∃ r identity, call.services.verify = .ok r ∧
      resolvePayer call.tool call.services r.payerAddress = .ok identity ∧
      ctx = payerContext r.payerAddress identity ∧
      distrusts call.tool.minReputation ctx.reputationScore = false
  | .admitted _ | .executed _ | .releasing .. | .ended _ true => call.Accountable
  | .received | .ended _ false => True

/-- Without a payer there is no identity. -/
theorem resolvePayer_empty (tool : X402Tool) (services : X402Services) :
    resolvePayer tool services "" = .ok none := by
  unfold resolvePayer
  cases services.identityResolver with
  | none => rfl
  | some resolve => rfl

/-- A payment without a payer passes the reputation gate exactly if the tool has none. -/
theorem distrusts_empty {tool : X402Tool} {services : X402Services}
    {identity : Option AgentIdentity}
    (h : resolvePayer tool services "" = .ok identity) :
    distrusts tool.minReputation (payerContext "" identity).reputationScore = true ↔
      0 < tool.minReputation := by
  rw [resolvePayer_empty] at h
  obtain rfl := Except.ok.inj h
  simp [distrusts, payerContext]

/-- A call that has resolved its payer and been turned away by the reputation gate, or has an
address, is accountable. -/
theorem accountable_of_resolved (call : X402Call σ) {r : VerifyResult}
    {identity : Option AgentIdentity} (hverify : call.services.verify = .ok r)
    (hresolve : resolvePayer call.tool call.services r.payerAddress = .ok identity)
    (hpayer : r.payerAddress = "" → 0 < call.tool.minReputation) : call.Accountable := by
  intro r' hr'
  obtain rfl := Except.ok.inj (hverify.symm.trans hr')
  exact ⟨⟨identity, hresolve⟩, hpayer⟩

/-- A step keeps the consistency of a call. -/
theorem X402Call.Consistent.step {sha256 : String → String} {call : X402Call σ}
    (h : call.Consistent) (keys : List String) (world : σ) :
    X402Call.Consistent { call with state := (x402Step sha256 keys world call).2.2 } := by
  unfold x402Step
  unfold X402Call.Consistent at h
  cases hstate : call.state with
  | received =>
    simp only [verifyPayment]
    split_ifs
    · trivial
    · split
      · trivial
      · rename_i r hverify
        split_ifs
        · exact ⟨r, hverify, rfl⟩
        · trivial
  | verified payer =>
    rw [hstate] at h
    simp only
    split_ifs
    · trivial
    · trivial
    · exact h
  | claimed payer =>
    rw [hstate] at h
    obtain ⟨r, hverify, rfl⟩ := h
    simp only [checkPayer]
    split
    · trivial
    · rename_i identity hresolve
      split_ifs with hdistrusts
      · refine accountable_of_resolved { call with state := _ } hverify hresolve ?_
        intro hempty
        rw [hempty] at hresolve hdistrusts
        exact (distrusts_empty hresolve).mp hdistrusts
      · exact ⟨r, identity, hverify, hresolve, rfl, by simpa using hdistrusts⟩
  | trusted ctx =>
    rw [hstate] at h
    obtain ⟨r, identity, hverify, hresolve, rfl, -⟩ := h
    simp only [checkRate]
    split
    · trivial
    · rename_i address haddress
      have hpayer : r.payerAddress = "" → 0 < call.tool.minReputation := by
        intro hempty
        simp [payerContext, hempty] at haddress
      split_ifs
      · exact accountable_of_resolved { call with state := _ } hverify hresolve hpayer
      · exact accountable_of_resolved { call with state := _ } hverify hresolve hpayer
  | admitted ctx =>
    rw [hstate] at h
    simp only [afterHandler]
    split
    · exact h
    · split_ifs
      · exact h
      · exact h
  | executed result =>
    rw [hstate] at h
    simp only [settlePayment]
    split_ifs
    · exact h
    · exact h
  | releasing answer onFailure =>
    simp only
    split_ifs
    · trivial
    · trivial
  | ended answer settled =>
    rw [hstate] at h
    exact h

/-- The last step of a call that holds its replay key. -/
theorem mirrors_settlement_of_step {sha256 : String → String} {keys : List String} {world : σ}
    {call : X402Call σ} {answer : X402Answer} {settled : Bool} (hconsistent : call.Consistent)
    (hpresent : call.dedupKey sha256 ∈ keys) (hheld : call.state.holds = true)
    (hrunning : call.state.isEnded = false)
    (hend : (x402Step sha256 keys world call).2.2 = .ended answer settled)
    (hredis : call.services.deleteRaises = false) :
    (call.dedupKey sha256 ∈ (x402Step sha256 keys world call).1 ↔ settled = true) ↔
      call.Accountable := by
  unfold X402Call.Consistent at hconsistent
  unfold x402Step at hend ⊢
  cases hstate : call.state with
  | received | verified payer =>
    rw [hstate] at hheld
    cases hheld
  | ended answer settled =>
    rw [hstate] at hrunning
    cases hrunning
  | claimed payer =>
    rw [hstate] at hconsistent hend
    obtain ⟨r, hverify, rfl⟩ := hconsistent
    simp only [checkPayer] at hend ⊢
    split at hend
    · -- the resolver raised: the key stays behind
      rename_i e hresolve
      obtain ⟨-, rfl⟩ := X402State.ended.inj hend
      simp only [hpresent, Bool.false_eq_true, iff_false, not_true_eq_false, false_iff]
      intro haccountable
      obtain ⟨⟨identity, hok⟩, -⟩ := haccountable r hverify
      rw [hresolve] at hok
      cases hok
    · split_ifs at hend
  | trusted ctx =>
    rw [hstate] at hconsistent hend
    obtain ⟨r, identity, hverify, hresolve, rfl, htrusts⟩ := hconsistent
    simp only [checkRate] at hend ⊢
    split at hend
    · -- there is no payer: the key stays behind
      rename_i haddress
      have hempty : r.payerAddress = "" := by
        by_contra hne
        simp [payerContext, hne] at haddress
      obtain ⟨-, rfl⟩ := X402State.ended.inj hend
      simp only [hpresent, Bool.false_eq_true, iff_false, not_true_eq_false, false_iff]
      intro haccountable
      have hpos := (haccountable r hverify).2 hempty
      rw [hempty] at hresolve htrusts
      rw [(distrusts_empty hresolve).mpr hpos] at htrusts
      cases htrusts
    · split_ifs at hend
  | admitted ctx =>
    rw [hstate] at hend
    simp only [afterHandler] at hend
    split at hend
    · cases hend
    · split_ifs at hend
  | executed result =>
    rw [hstate] at hconsistent hend
    simp only [settlePayment] at hend ⊢
    split_ifs at hend
    obtain ⟨-, rfl⟩ := X402State.ended.inj hend
    simp only [hpresent, true_iff]
    exact hconsistent
  | releasing released onFailure =>
    rw [hstate] at hconsistent hend
    simp only [hredis, Bool.false_eq_true, if_false] at hend ⊢
    obtain ⟨-, rfl⟩ := X402State.ended.inj hend
    have hgone : call.dedupKey sha256 ∉ keys.filter (· ≠ call.dedupKey sha256) := by
      simp
    simp only [hgone, Bool.false_eq_true, true_iff]
    exact hconsistent

/-- The next step of the call `i` ends it, and it holds its replay key until then. -/
def Ends (sha256 : String → String) (s : X402System σ) (i : ℕ) (call : X402Call σ)
    (answer : X402Answer) (settled : Bool) : Prop :=
  s.calls[i]? = some call ∧ call.state.holds = true ∧ call.state.isEnded = false ∧
    (x402Step sha256 s.keys s.world call).2.2 = .ended answer settled

/-- **When the replay key mirrors the settlement.** In every interleaving of calls, whenever a call
that set its replay key ends and Redis deletes what it is asked to: the key is present afterwards
just if the payment was settled, if and only if the payer's identity could be resolved and the
payment names a payer or the tool asks for a reputation. -/
theorem key_mirrors_settlement_iff (sha256 : String → String) (keys : List String) (world : σ)
    (actions : List (X402Action σ)) (i : ℕ) (call : X402Call σ) (answer : X402Answer)
    (settled : Bool)
    (hends : Ends sha256 (run (x402SystemStep sha256) { keys, world } actions)
      i call answer settled)
    (hredis : call.services.deleteRaises = false) :
    (call.dedupKey sha256 ∈
        (x402SystemStep sha256 (run (x402SystemStep sha256) { keys, world } actions)
          (.step i)).keys ↔
      settled = true) ↔ call.Accountable := by
  obtain ⟨hi, hheld, hrunning, hend⟩ := hends
  have hexclusive : Exclusive sha256 (run (x402SystemStep sha256) { keys, world } actions) :=
    exclusive_run keys world actions
  have hconsistent : call.Consistent :=
    forall_calls_run sha256 (fun _ => trivial) (fun keys world _ h => h.step keys world)
      (fun _ hc => by cases hc) actions call (List.mem_of_getElem? hi)
  have hlast := mirrors_settlement_of_step hconsistent (hexclusive.present hi hheld) hheld hrunning
    hend hredis
  simp only [x402SystemStep, hi]
  exact hlast

/-- The handler answers with an error: the key is gone afterwards, and the payment can be used
again. -/
theorem key_mirrors_settlement_error_result :
    let call := { Sample.paidCall Sample.reputable (.returns [("error", .str "not found")]) with
      state := .releasing (.result [("error", .str "not found")])
        (.result [("error", .str "not found")]) }
    let actions := Sample.firstSteps (Sample.paidCall Sample.reputable
      (.returns [("error", .str "not found")])) 5
    call.dedupKey id ∈ (x402SystemStep id (run (x402SystemStep id) { world := () } actions)
        (.step 0)).keys ↔ false = true := by
  intro call actions
  refine (key_mirrors_settlement_iff id [] () actions 0 call
    (.result [("error", .str "not found")]) false ⟨rfl, rfl, rfl, rfl⟩ rfl).mpr ?_
  intro r hr
  obtain rfl := Except.ok.inj hr
  exact ⟨⟨some ⟨Sample.payer, "agent", ⟨50, by norm_num⟩⟩, by decide +kernel⟩, by decide +kernel⟩

/-- The resolver raises: the call ends without a settlement, and its key stays. -/
theorem key_left_resolver_raises :
    let call := { Sample.paidCall Sample.unresolvable .raises with
      state := .claimed Sample.payer.val }
    let s := run (x402SystemStep id) { world := () }
      (Sample.firstSteps (Sample.paidCall Sample.unresolvable .raises) 2)
    Ends id s 0 call .crashed false ∧ call.services.deleteRaises = false ∧
      ¬(call.dedupKey id ∈ (x402SystemStep id s (.step 0)).keys ↔ false = true) := by
  intro call s
  exact ⟨⟨rfl, rfl, rfl, by decide +kernel⟩, rfl, by decide +kernel⟩

end TripWire
