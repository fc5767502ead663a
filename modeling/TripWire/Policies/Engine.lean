import TripWire.Types.Models

/-!
# Policy evaluation

`evaluatePolicy` decides whether an endpoint's policies accept a transfer.  The checks run in the
source's order and the first that fails gives the reason.  Amounts are compared as integers parsed
by `int`, so a transfer or a policy whose amount is not a number raises instead of being rejected.
-/

namespace TripWire

open Py

/-- The reason of a rejection, with the values its message shows. -/
inductive PolicyDenial where
  | belowMinimum (amount : ℤ) (minimum : String)
  | aboveMaximum (amount : ℤ) (maximum : String)
  | blockedSender (sender : String)
  | notInAllowlist (sender : String)
  | identityRequired
  | agentClassMismatch (actual required : String)
  | identityRequiredForReputation
  | reputationBelowMinimum (actual minimum : ℚ)
  deriving DecidableEq

/-- The message of a rejection; `reprFloat` is Python's rendering of a `float`. -/
def PolicyDenial.reason (reprFloat : ℚ → String) : PolicyDenial → String
  | .belowMinimum amount minimum => s!"Amount {amount} below minimum {minimum}"
  | .aboveMaximum amount maximum => s!"Amount {amount} above maximum {maximum}"
  | .blockedSender sender => s!"Sender {sender} is blocked"
  | .notInAllowlist sender => s!"Sender {sender} not in allowlist"
  | .identityRequired => "Agent identity required but not available"
  | .agentClassMismatch actual required =>
    "Agent class '" ++ actual ++ "' does not match required '" ++ required ++ "'"
  | .identityRequiredForReputation =>
    "Agent identity required for reputation check but not available"
  | .reputationBelowMinimum actual minimum =>
    "Reputation score " ++ reprFloat actual ++ " below minimum " ++ reprFloat minimum

/-- The amount range checks. -/
def checkAmount (amount : ℤ) (policies : EndpointPolicies) :
    Except PyError (Option PolicyDenial) := do
  if let some s := policies.minAmount then
    if amount < (← int s) then
      return some (.belowMinimum amount s)
  -- not reached, and so not parsed, when the minimum already rejects
  if let some s := policies.maxAmount then
    if (← int s) < amount then
      return some (.aboveMaximum amount s)
  return none

/-- The sender blocklist and allowlist.  An empty list is no list. -/
def checkSender (sender : String) (policies : EndpointPolicies) : Option PolicyDenial :=
  let blocked := policies.blockedSenders.getD []
  let allowed := policies.allowedSenders.getD []
  if sender ∈ blocked.map fun a => lower a.val then some (.blockedSender sender)
  else if allowed ≠ [] ∧ sender ∉ allowed.map fun a => lower a.val then
    some (.notInAllowlist sender)
  else none

/-- The agent class check, which needs an identity. -/
def checkAgentClass (identity : Option AgentIdentity) (policies : EndpointPolicies) :
    Option PolicyDenial :=
  match policies.requiredAgentClass, identity with
  | none, _ => none
  | some _, none => some .identityRequired
  | some required, some id =>
    if id.agentClass ≠ required then some (.agentClassMismatch id.agentClass required) else none

/-- The reputation check, which needs an identity. -/
def checkReputation (identity : Option AgentIdentity) (policies : EndpointPolicies) :
    Option PolicyDenial :=
  match policies.minReputationScore, identity with
  | none, _ => none
  | some _, none => some .identityRequiredForReputation
  | some minimum, some id =>
    if id.reputationScore.val < minimum.val then
      some (.reputationBelowMinimum id.reputationScore.val minimum.val)
    else none

/-- `evaluate_policy`: `none` when the transfer is allowed. -/
def evaluatePolicy (transfer : TransferData) (identity : Option AgentIdentity)
    (policies : EndpointPolicies) : Except PyError (Option PolicyDenial) := do
  let sender := lower transfer.fromAddress
  let amount ← int transfer.amount
  match ← checkAmount amount policies with
  | some denial => return some denial
  | none =>
    return checkSender sender policies <|> checkAgentClass identity policies <|>
      checkReputation identity policies

/-! ### Evaluating a list of endpoints -/

/-- The policy loop over matched endpoints: the verdict for each, unless one of them raises. -/
def policyVerdicts (transfer : TransferData) (identity : Option AgentIdentity) :
    List Endpoint → Except PyError (List (Endpoint × Option PolicyDenial))
  | [] => .ok []
  | ep :: eps =>
    match evaluatePolicy transfer identity ep.policies with
    | .error e => .error e
    | .ok verdict =>
      match policyVerdicts transfer identity eps with
      | .error e => .error e
      | .ok verdicts => .ok ((ep, verdict) :: verdicts)

/-- The endpoints of a verdict list that were allowed. -/
def approvedOf (verdicts : List (Endpoint × Option PolicyDenial)) : List Endpoint :=
  (verdicts.filter fun v => v.2.isNone).map Prod.fst

/-- The endpoints of a verdict list that were turned away. -/
def rejectedOf (verdicts : List (Endpoint × Option PolicyDenial)) : List Endpoint :=
  (verdicts.filter fun v => v.2.isSome).map Prod.fst

/-- A verdict list has one verdict for each endpoint, in order, and each is the endpoint's own. -/
theorem policyVerdicts_spec {transfer : TransferData} {identity : Option AgentIdentity} :
    ∀ {eps : List Endpoint} {verdicts : List (Endpoint × Option PolicyDenial)},
      policyVerdicts transfer identity eps = .ok verdicts →
      verdicts.map Prod.fst = eps ∧
        ∀ v ∈ verdicts, evaluatePolicy transfer identity v.1.policies = .ok v.2 := by
  intro eps
  induction eps with
  | nil =>
    intro verdicts h
    obtain rfl : [] = verdicts := by simpa [policyVerdicts] using h
    simp
  | cons ep eps ih =>
    intro verdicts h
    rw [policyVerdicts] at h
    split at h
    · cases h
    · rename_i verdict hep
      split at h
      · cases h
      · rename_i rest hrest
        obtain rfl := Except.ok.inj h
        obtain ⟨hmap, hall⟩ := ih hrest
        refine ⟨by rw [List.map_cons, hmap], ?_⟩
        intro v hv
        rcases List.mem_cons.mp hv with rfl | hv
        · exact hep
        · exact hall v hv

section

variable {transfer : TransferData} {identity : Option AgentIdentity} {eps : List Endpoint}
  {verdicts : List (Endpoint × Option PolicyDenial)}
  (h : policyVerdicts transfer identity eps = .ok verdicts) {ep : Endpoint}

include h

/-- The verdicts are those of the evaluated endpoints. -/
theorem mem_verdicts_iff {verdict : Option PolicyDenial} :
    (ep, verdict) ∈ verdicts ↔
      ep ∈ eps ∧ evaluatePolicy transfer identity ep.policies = .ok verdict := by
  obtain ⟨hmap, hall⟩ := policyVerdicts_spec h
  constructor
  · intro hv
    exact ⟨hmap ▸ List.mem_map_of_mem hv, hall _ hv⟩
  · rintro ⟨hep, hok⟩
    rw [← hmap, List.mem_map] at hep
    obtain ⟨v, hv, rfl⟩ := hep
    have hverdict : v.2 = verdict := by
      rw [hall v hv] at hok
      exact Except.ok.inj hok
    rwa [← hverdict]

/-- An approved endpoint is one of the evaluated ones and its policies accept the transfer. -/
theorem mem_approvedOf :
    ep ∈ approvedOf verdicts ↔
      ep ∈ eps ∧ evaluatePolicy transfer identity ep.policies = .ok none := by
  rw [← mem_verdicts_iff h]
  simp only [approvedOf, List.mem_map, List.mem_filter]
  constructor
  · rintro ⟨⟨ep, verdict⟩, ⟨hv, hnone⟩, rfl⟩
    have hverdict : verdict = none := Option.isNone_iff_eq_none.mp hnone
    rwa [hverdict] at hv
  · intro hv
    exact ⟨_, ⟨hv, rfl⟩, rfl⟩

/-- A rejected endpoint is one of the evaluated ones and its policies turn the transfer away. -/
theorem mem_rejectedOf :
    ep ∈ rejectedOf verdicts ↔
      ep ∈ eps ∧ ∃ denial, evaluatePolicy transfer identity ep.policies = .ok (some denial) := by
  have hverdicts : (ep ∈ eps ∧
      ∃ denial, evaluatePolicy transfer identity ep.policies = .ok (some denial)) ↔
        ∃ denial, (ep, some denial) ∈ verdicts := by
    simp only [mem_verdicts_iff h, exists_and_left]
  rw [hverdicts]
  simp only [rejectedOf, List.mem_map, List.mem_filter]
  constructor
  · rintro ⟨⟨ep, verdict⟩, ⟨hv, hsome⟩, rfl⟩
    obtain ⟨denial, rfl⟩ := Option.isSome_iff_exists.mp hsome
    exact ⟨denial, hv⟩
  · rintro ⟨denial, hv⟩
    exact ⟨_, ⟨hv, rfl⟩, rfl⟩

end

end TripWire
