import TripWire.Pulse.Effects

/-!
# Trigger isolation

The unified loop serves the triggers of different tenants with one log.  What it sends out for a
trigger `t` should be what it sends out when `t` is the only trigger.  Three things couple the
triggers: filters that raise end the loop for everybody, policies that raise end it for every later
trigger, and the identity is resolved once, for the first surviving event.

`dispatchesFor_eq` computes what the loop sends out for `t`; `isolated_iff_shielded` says exactly
when the others make no difference.
-/

namespace TripWire

open Py

section Trace

variable (env : Env) (lib : Library) (w : World) (raw : RawLog)

/-- `primary_decoded`: the first surviving event. -/
def primaryDecoded (triggers : List Trigger) : Option DecodedEvent :=
  triggers.findSome? (survivingEvent lib raw)

/-- The event of the trigger survives, its nonce is free and `ctx` passes its threshold, but the
evaluation of its endpoint's policies raises. -/
def policiesRaise (ctx : TriggerContext) (t : Trigger) : Bool :=
  (survivingEvent lib raw t).any fun d =>
    isActive env w raw.chainId (d, t) && reputationGate ctx.identity t &&
      !(triggerVerdict env lib w.endpoints ctx d t).toBool

/-- The endpoint to which an event is dispatched under `ctx`, if the gates let it through. -/
def admitted (ctx : TriggerContext) (d : DecodedEvent) (t : Trigger) : Option Endpoint :=
  if reputationGate ctx.identity t then
    match triggerVerdict env lib w.endpoints ctx d t with
    | .ok (.inr ep) => some ep
    | _ => none
  else none

/-- What is sent out for a trigger under `ctx`, if the loop gets to it. -/
def ownDispatches (ctx : TriggerContext) (t : Trigger) : List TriggerDispatch :=
  match survivingEvent lib raw t with
  | none => []
  | some d =>
    if isActive env w raw.chainId (d, t) then
      ((admitted env lib w ctx d t).map (triggerDispatch ctx d t)).toList
    else []

/-- What the dispatch loop sends out under `ctx`. -/
def triggerTrace (ctx : TriggerContext) (triggers : List Trigger) : List TriggerDispatch :=
  dispatchTrace env lib ctx w.endpoints
    (((survivors lib raw triggers).filter (isActive env w raw.chainId)).filter fun p =>
      reputationGate ctx.identity p.2)

/-- What `_process_unified` sends out for one trigger of the list. -/
def dispatchesFor (triggers : List Trigger) (t : Trigger) : List TriggerDispatch :=
  (processUnifiedTraced env lib w raw triggers).2.1.filter fun out => out.trigger = t.id

end Trace

variable {env : Env} {lib : Library} {w : World} {raw : RawLog}

/-! ### The trace, trigger by trigger -/

theorem survivors_cons (t : Trigger) (ts : List Trigger) :
    survivors lib raw (t :: ts) =
      ((survivingEvent lib raw t).map fun d => (d, t)).toList ++ survivors lib raw ts := by
  unfold survivors
  cases hd : survivingEvent lib raw t with
  | none => simp [hd]
  | some d => simp [hd]

/-- **One trigger of the dispatch loop.** -/
theorem triggerTrace_cons (ctx : TriggerContext) (t : Trigger) (ts : List Trigger) :
    triggerTrace env lib w raw ctx (t :: ts) =
      if policiesRaise env lib w raw ctx t then []
      else ownDispatches env lib w raw ctx t ++ triggerTrace env lib w raw ctx ts := by
  unfold triggerTrace policiesRaise ownDispatches
  rw [survivors_cons]
  cases hd : survivingEvent lib raw t with
  | none => simp
  | some d =>
    by_cases hactive : isActive env w raw.chainId (d, t) = true
    · by_cases hgate : reputationGate ctx.identity t = true
      · simp only [Option.map_some, Option.toList_some, List.cons_append, List.nil_append,
          List.filter_cons_of_pos hactive, List.filter_cons, hgate, if_true, dispatchTrace,
          admitted, Option.any_some, hactive, Bool.true_and]
        cases hverdict : triggerVerdict env lib w.endpoints ctx d t with
        | error e => simp [Except.toBool]
        | ok verdict =>
          cases verdict with
          | inl result => simp [Except.toBool]
          | inr ep => simp [Except.toBool]
      · simp [hactive, hgate, admitted]
    · simp [hactive]

theorem trigger_of_mem_ownDispatches {ctx : TriggerContext} {t : Trigger} {out : TriggerDispatch}
    (h : out ∈ ownDispatches env lib w raw ctx t) : out.trigger = t.id := by
  unfold ownDispatches at h
  split at h
  · cases h
  · split_ifs at h
    · rw [Option.mem_toList] at h
      obtain ⟨ep, -, rfl⟩ := Option.map_eq_some_iff.mp h
      rfl
    · cases h

/-- Nothing is sent out for a trigger whose policies raise. -/
theorem ownDispatches_of_raise {ctx : TriggerContext} {t : Trigger}
    (h : policiesRaise env lib w raw ctx t = true) : ownDispatches env lib w raw ctx t = [] := by
  unfold policiesRaise at h
  unfold ownDispatches admitted
  cases hd : survivingEvent lib raw t with
  | none => rfl
  | some d =>
    cases hverdict : triggerVerdict env lib w.endpoints ctx d t with
    | error e => simp [hverdict]
    | ok verdict => simp [hd, hverdict, Except.toBool] at h

theorem trigger_of_mem_triggerTrace {ctx : TriggerContext} {ts : List Trigger}
    {out : TriggerDispatch} (h : out ∈ triggerTrace env lib w raw ctx ts) :
    out.trigger ∈ ts.map (·.id) := by
  induction ts with
  | nil => cases h
  | cons t ts ih =>
    rw [triggerTrace_cons] at h
    split_ifs at h
    · cases h
    · rw [List.map_cons, List.mem_cons]
      rcases List.mem_append.mp h with h | h
      · exact Or.inl (trigger_of_mem_ownDispatches h)
      · exact Or.inr (ih h)

/-- **The trace of one trigger.** The loop gets to `t` unless the policies of a trigger before it
raise. -/
theorem filter_triggerTrace (ctx : TriggerContext) {t : Trigger} {ts : List Trigger}
    (hnodup : (ts.map (·.id)).Nodup) (ht : t ∈ ts) :
    (triggerTrace env lib w raw ctx ts).filter (fun out => out.trigger = t.id) =
      if ∀ u ∈ ts.takeWhile (fun u : Trigger => u.id ≠ t.id),
        policiesRaise env lib w raw ctx u = false
      then ownDispatches env lib w raw ctx t else [] := by
  induction ts with
  | nil => cases ht
  | cons u us ih =>
    obtain ⟨hnot, hrest⟩ := List.nodup_cons.mp hnodup
    rw [triggerTrace_cons]
    by_cases hid : u.id = t.id
    · -- the trigger itself: nothing of the rest of the list carries its id
      have hut : u = t := List.inj_on_of_nodup_map hnodup List.mem_cons_self ht hid
      subst hut
      have htail : (triggerTrace env lib w raw ctx us).filter (fun out => out.trigger = u.id) =
        [] := by
        rw [List.filter_eq_nil_iff]
        intro out hout hsame
        have hmem := trigger_of_mem_triggerTrace hout
        rw [of_decide_eq_true hsame] at hmem
        exact hnot hmem
      have hhead : (ownDispatches env lib w raw ctx u).filter (fun out => out.trigger = u.id) =
          ownDispatches env lib w raw ctx u := by
        rw [List.filter_eq_self]
        intro out hout
        exact decide_eq_true (trigger_of_mem_ownDispatches hout)
      have hbefore : (u :: us).takeWhile (fun v : Trigger => v.id ≠ u.id) = [] :=
        List.takeWhile_cons_of_neg (by simp)
      rw [hbefore]
      -- its own policies end the loop too, but then it has no dispatch to lose
      by_cases hraise : policiesRaise env lib w raw ctx u = true
      · simp [hraise, ownDispatches_of_raise hraise]
      · simp [hraise, List.filter_append, htail, hhead]
    · have ht' : t ∈ us := by
        rcases List.mem_cons.mp ht with rfl | ht'
        · exact absurd rfl hid
        · exact ht'
      have hhead : (ownDispatches env lib w raw ctx u).filter (fun out => out.trigger = t.id) =
        [] := by
        rw [List.filter_eq_nil_iff]
        intro out hout hsame
        have hout' := trigger_of_mem_ownDispatches hout
        exact hid (hout'.symm.trans (of_decide_eq_true hsame))
      rw [List.takeWhile_cons_of_pos (by simpa using hid)]
      by_cases hraise : policiesRaise env lib w raw ctx u = true
      · rw [if_pos hraise, List.filter_nil, if_neg]
        intro hall
        rw [hall u List.mem_cons_self] at hraise
        cases hraise
      · rw [if_neg hraise, List.filter_append, hhead, List.nil_append, ih hrest ht']
        have hraise' : policiesRaise env lib w raw ctx u = false := by simpa using hraise
        simp [hraise']

/-! ### The unified loop -/

theorem primaryDecoded_eq (lib : Library) (raw : RawLog) (ts : List Trigger) :
    primaryDecoded lib raw ts = (survivors lib raw ts).head?.map Prod.fst := by
  unfold primaryDecoded
  induction ts with
  | nil => rfl
  | cons t ts ih =>
    rw [survivors_cons, List.findSome?_cons]
    cases hd : survivingEvent lib raw t with
    | none => exact ih
    | some d => rfl

theorem decodedFrom_of_mem_survivors {ts : List Trigger} {p : DecodedEvent × Trigger}
    (h : p ∈ survivors lib raw ts) : DecodedFrom raw p.1 :=
  decodedFrom_of_survivingEvent (mem_survivors.mp h).2

/-- Filters that raise end the loop before anything is sent out. -/
theorem trace_of_filtersRaise {ts : List Trigger} (h : ∃ u ∈ ts, filtersRaise lib raw u = true) :
    (processUnifiedTraced env lib w raw ts).2.1 = [] := by
  obtain ⟨e, he⟩ := decodedPairs_of_raise h
  rw [processUnifiedTraced, he]

/-- **What the unified loop sends out.** -/
theorem trace_of_ok {ts : List Trigger} (hnodup : (ts.map (·.id)).Nodup)
    (hok : ∀ u ∈ ts, filtersRaise lib raw u = false) :
    (processUnifiedTraced env lib w raw ts).2.1 =
      ((primaryDecoded lib raw ts).map fun primary =>
        triggerTrace env lib w raw (triggerContext env primary) ts).getD [] := by
  have hfrom : ∀ p ∈ survivors lib raw ts, DecodedFrom raw p.1 := fun p hp =>
    decodedFrom_of_mem_survivors hp
  have hids : ((survivors lib raw ts).map fun p => p.2.id).Nodup := by
    have hsub := (survivors_sublist lib raw ts).map (·.id)
    rw [List.map_map] at hsub
    exact hnodup.sublist hsub
  rw [processUnifiedTraced, decodedPairs_of_ok hok, primaryDecoded_eq]
  unfold triggerTrace
  cases hpairs : survivors lib raw ts with
  | nil => rfl
  | cons primary pairs =>
    rw [hpairs] at hfrom hids
    have hchain : primary.1.chainId = raw.chainId := (hfrom primary List.mem_cons_self).chainId
    have hactive := dedupPairs_spec env raw.chainId (primary :: pairs) w
      (nodup_triggerNonceKey raw.chainId hfrom hids)
    obtain ⟨table, hw⟩ := dedupPairs_frame env raw.chainId (primary :: pairs) w
    simp only [hchain, hactive, List.head?_cons, Option.map_some, Option.getD_some]
    -- the early returns are the cases in which the dispatch loop has nothing to do
    split_ifs with hnone hgated
    · rw [List.isEmpty_iff.mp hnone]
      rfl
    · rw [List.isEmpty_iff.mp hgated]
      rfl
    · simp only [(dispatchTriggers_spec ..).2, hw]

/-! ### When the others make no difference -/

section Shielded

variable (env : Env) (lib : Library) (w : World) (raw : RawLog)

/-- Nothing keeps the loop from getting to `t`: nobody's filters raise, and nobody's policies before
`t`. -/
def Unobstructed (ctx : TriggerContext) (triggers : List Trigger) (t : Trigger) : Prop :=
  (∀ u ∈ triggers, filtersRaise lib raw u = false) ∧
    ∀ u ∈ triggers.takeWhile fun u : Trigger => u.id ≠ t.id,
      policiesRaise env lib w raw ctx u = false

instance (ctx : TriggerContext) (triggers : List Trigger) (t : Trigger) :
    Decidable (Unobstructed env lib w raw ctx triggers t) :=
  inferInstanceAs (Decidable (_ ∧ _))

/-- Where the event of `t` survives and its nonce is free: if its gates accept the identity of its
own event, then nothing keeps the loop from getting to `t` and the first surviving event has the
same identity; and if they do not, then the loop does not get to `t` or they do not accept the
identity of the first surviving event either. -/
def Shielded (triggers : List Trigger) (t : Trigger) : Prop :=
  ∀ d ∈ survivingEvent lib raw t, isActive env w raw.chainId (d, t) = true →
    ∀ primary ∈ primaryDecoded lib raw triggers,
      if (admitted env lib w (triggerContext env d) d t).isSome then
        Unobstructed env lib w raw (triggerContext env primary) triggers t ∧
          triggerIdentity env primary = triggerIdentity env d
      else ¬ (Unobstructed env lib w raw (triggerContext env primary) triggers t ∧
        (admitted env lib w (triggerContext env primary) d t).isSome = true)

instance (triggers : List Trigger) (t : Trigger) :
    Decidable (Shielded env lib w raw triggers t) := by
  unfold Shielded
  infer_instance

end Shielded

variable {triggers : List Trigger} {t : Trigger}

/-- **What the loop sends out for one trigger.** -/
theorem dispatchesFor_eq (hnodup : (triggers.map (·.id)).Nodup) (ht : t ∈ triggers)
    {primary : DecodedEvent} (hprimary : primaryDecoded lib raw triggers = some primary) :
    dispatchesFor env lib w raw triggers t =
      if Unobstructed env lib w raw (triggerContext env primary) triggers t
      then ownDispatches env lib w raw (triggerContext env primary) t else [] := by
  unfold dispatchesFor
  by_cases hok : ∀ u ∈ triggers, filtersRaise lib raw u = false
  · rw [trace_of_ok hnodup hok, hprimary]
    simp only [Option.map_some, Option.getD_some]
    rw [filter_triggerTrace _ hnodup ht]
    refine if_congr ⟨?_, And.right⟩ rfl rfl
    intro hbefore
    exact ⟨hok, hbefore⟩
  · have hraise : ∃ u ∈ triggers, filtersRaise lib raw u = true := by
      push Not at hok
      simpa using hok
    rw [trace_of_filtersRaise hraise, if_neg fun h => hok h.1]
    rfl

/-- Nothing is sent out for a trigger whose event does not survive. -/
theorem dispatchesFor_of_none (hnodup : (triggers.map (·.id)).Nodup) (ht : t ∈ triggers)
    (hd : survivingEvent lib raw t = none) : dispatchesFor env lib w raw triggers t = [] := by
  have hown : ∀ ctx, ownDispatches env lib w raw ctx t = [] := by
    intro ctx
    rw [ownDispatches, hd]
  cases hprimary : primaryDecoded lib raw triggers with
  | some primary =>
    rw [dispatchesFor_eq hnodup ht hprimary, hown, ite_self]
  | none =>
    unfold dispatchesFor
    by_cases hok : ∀ u ∈ triggers, filtersRaise lib raw u = false
    · rw [trace_of_ok hnodup hok, hprimary]
      rfl
    · have hraise : ∃ u ∈ triggers, filtersRaise lib raw u = true := by
        push Not at hok
        simpa using hok
      rw [trace_of_filtersRaise hraise]
      rfl

/-- What the loop sends out for a trigger that is alone. -/
theorem dispatchesFor_alone {d : DecodedEvent} (hd : survivingEvent lib raw t = some d) :
    dispatchesFor env lib w raw [t] t = ownDispatches env lib w raw (triggerContext env d) t := by
  have hprimary : primaryDecoded lib raw [t] = some d := by
    rw [primaryDecoded, List.findSome?_cons, hd]
  have hfilters : filtersRaise lib raw t = false := by
    unfold survivingEvent at hd
    unfold filtersRaise
    cases hs : survivor lib raw t with
    | error e =>
      rw [hs] at hd
      cases hd
    | ok _ => rfl
  have hfree : Unobstructed env lib w raw (triggerContext env d) [t] t := by
    refine ⟨?_, ?_⟩
    · intro u hu
      rw [List.mem_singleton.mp hu]
      exact hfilters
    · simp
  have hnodup : ([t].map (·.id)).Nodup := List.nodup_singleton t.id
  rw [dispatchesFor_eq hnodup List.mem_cons_self hprimary, if_pos hfree]

/-- Events of the same log differ in their context by the identity only. -/
theorem triggerContext_congr {d d' : DecodedEvent} (h : DecodedFrom raw d) (h' : DecodedFrom raw d')
    (hidentity : triggerIdentity env d = triggerIdentity env d') :
    triggerContext env d = triggerContext env d' := by
  have hblock : d.blockNumber = d'.blockNumber := by
    have hboth := h.blockNumber.symm.trans h'.blockNumber
    exact Except.ok.inj hboth
  have hfinality : triggerFinality env d = triggerFinality env d' := by
    unfold triggerFinality
    rw [h.chainId, h'.chainId, hblock]
  unfold triggerContext
  rw [h.txHash, h'.txHash, h.chainId, h'.chainId, hfinality, hidentity]

/-- The payload shows the identity. -/
theorem identity_of_triggerDispatch {ctx ctx' : TriggerContext} {d : DecodedEvent}
    {ep ep' : Endpoint}
    (h : triggerDispatch ctx d t ep = triggerDispatch ctx' d t ep') :
      ctx.identity = ctx'.identity :=
  congrArg (fun out => out.payload.data.identity) h

/-- The dispatches of an active trigger. -/
theorem ownDispatches_of_active {d : DecodedEvent} (ctx : TriggerContext)
    (hd : survivingEvent lib raw t = some d) (hactive : isActive env w raw.chainId (d, t) = true) :
    ownDispatches env lib w raw ctx t =
      ((admitted env lib w ctx d t).map (triggerDispatch ctx d t)).toList := by
  rw [ownDispatches, hd]
  exact if_pos hactive

/-- Under two contexts of the same log a trigger that is admitted under the first has the same
dispatches exactly if the identities agree. -/
theorem ownDispatches_eq_iff {d primary : DecodedEvent} {ep : Endpoint}
    (hd : survivingEvent lib raw t = some d) (hprimary : DecodedFrom raw primary)
    (hactive : isActive env w raw.chainId (d, t) = true)
    (hep : admitted env lib w (triggerContext env d) d t = some ep) :
    ownDispatches env lib w raw (triggerContext env primary) t =
        ownDispatches env lib w raw (triggerContext env d) t ↔
      triggerIdentity env primary = triggerIdentity env d := by
  constructor
  · intro h
    rw [ownDispatches_of_active _ hd hactive, ownDispatches_of_active _ hd hactive, hep] at h
    cases hep' : admitted env lib w (triggerContext env primary) d t with
    | none =>
      rw [hep'] at h
      cases h
    | some ep' =>
      rw [hep'] at h
      exact identity_of_triggerDispatch (List.singleton_inj.mp h)
  · intro h
    have hfrom := decodedFrom_of_survivingEvent hd
    rw [triggerContext_congr hprimary hfrom h]

/-- **Isolation.** What the unified loop sends out for a trigger is what it sends out when the
trigger is alone, exactly if the trigger is shielded from the others. -/
theorem isolated_iff_shielded (hnodup : (triggers.map (·.id)).Nodup) (ht : t ∈ triggers) :
    dispatchesFor env lib w raw triggers t = dispatchesFor env lib w raw [t] t ↔
      Shielded env lib w raw triggers t := by
  unfold Shielded
  cases hd : survivingEvent lib raw t with
  | none =>
    have halone : ([t].map (·.id)).Nodup := List.nodup_singleton t.id
    rw [dispatchesFor_of_none hnodup ht hd, dispatchesFor_of_none halone List.mem_cons_self hd]
    simp
  | some d =>
    obtain ⟨primary, hprimary⟩ : ∃ primary, primaryDecoded lib raw triggers = some primary := by
      rw [← Option.isSome_iff_exists, primaryDecoded, List.isSome_findSome?, List.any_eq_true]
      exact ⟨t, ht, by rw [hd]; rfl⟩
    rw [dispatchesFor_eq hnodup ht hprimary, dispatchesFor_alone hd]
    simp only [hprimary, Option.mem_def, Option.some.injEq, forall_eq']
    by_cases hactive : isActive env w raw.chainId (d, t) = true
    · have hfrom : DecodedFrom raw primary := by
        obtain ⟨u, -, hu⟩ := List.exists_of_findSome?_eq_some hprimary
        exact decodedFrom_of_survivingEvent hu
      simp only [hactive, forall_const]
      cases hep : admitted env lib w (triggerContext env d) d t with
      | some ep =>
        have hown := ownDispatches_of_active (triggerContext env d) hd hactive
        simp only [Option.isSome_some, if_true]
        rw [← ownDispatches_eq_iff hd hfrom hactive hep]
        -- obstructed, the list sends nothing where the trigger alone sends one message
        by_cases hfree : Unobstructed env lib w raw (triggerContext env primary) triggers t
        · simp [hfree]
        · simp [hfree, hown, hep]
      | none =>
        have hown := ownDispatches_of_active (triggerContext env d) hd hactive
        have hshared := ownDispatches_of_active (triggerContext env primary) hd hactive
        simp only [Option.isSome_none, Bool.false_eq_true, if_false]
        -- alone the trigger sends nothing, so the list must not get to it or not admit it
        by_cases hfree : Unobstructed env lib w raw (triggerContext env primary) triggers t
        · simp [hfree, hown, hshared, hep]
        · simp [hfree, hown, hep]
    · -- a nonce that is held answers for both runs
      have hown : ∀ ctx, ownDispatches env lib w raw ctx t = [] := by
        intro ctx
        rw [ownDispatches, hd]
        exact if_neg hactive
      simp [hown, hactive]

namespace Sample

/-- A library in which JMESPath rejects the empty expression and finds no field. -/
def emptyExpression : Library where
  jmespathSearch := fun expression _ => if expression = "" then .error .jmespath else .ok .none

/-- A trigger for an event without parameters. -/
def trigger (id : String) (filterRules : List TriggerFilter) : Trigger where
  id
  endpointId := "endpoint"
  abi := [[("type", .str "event")]]
  filterRules

/-- A log of that event in block 100 of Base. -/
def rawLog : RawLog where
  topics := .list ["0x01"]
  address := "0x833589fcd6edb6e08f4c7c32d4f71b54bda02913"
  chainId := some 8453
  transactionHash := "0xaa"
  blockNumber := .int 100
  blockHash := "0xb1"
  logIndex := .int 7

/-- The database with one endpoint. -/
def pulse : World where
  endpoints := ⟨[endpoint {}], List.nodup_singleton _⟩

/-- What goes out for the trigger `t` of a list, at height 200. -/
def outFor (triggers : List Trigger) : List TriggerDispatch :=
  dispatchesFor { blockNumber := 200 } emptyExpression pulse rawLog triggers (trigger "t" [])

end Sample

/-- A trigger behind one whose filters do not match. -/
theorem isolated_iff_shielded_filtered :
    Sample.outFor [Sample.trigger "u" [{ field := "amount" }], Sample.trigger "t" []] =
      Sample.outFor [Sample.trigger "t" []] :=
  (isolated_iff_shielded (by decide) (List.mem_cons_of_mem _ List.mem_cons_self)).mpr
    (by decide +kernel)

/-- A trigger behind one whose filter names its field by an expression that JMESPath rejects. -/
theorem not_isolated_filters_raise :
    Sample.outFor [Sample.trigger "u" [{ field := "" }], Sample.trigger "t" []] = [] ∧
      Sample.outFor [Sample.trigger "t" []] ≠ [] := by
  decide +kernel

end TripWire
