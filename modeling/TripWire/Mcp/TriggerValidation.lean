import TripWire.Ingestion.FilterRules

/-!
# The tool `validate_trigger`

`validate_trigger` (`tripwire/mcp/tools.py`) checks a trigger configuration before an agent deploys
it: the event signature, the contract address, the chain, and of every filter rule the operator and
the field.  The rules are later evaluated by `evaluate_filters`, which has its own operators and
reads the field as a JMESPath expression.

A rule that is reported as valid is an `AcceptedRule`: its operator is one of `validOps`, or empty,
and its value can be written.  The two tables differ in `not_between`, an empty operator is no
operator, and of the field only the part before the first dot is looked up, if that;
`validated_executes_iff` says which accepted rules run through.
-/

namespace TripWire

open Py

/-! ### The arguments -/

/-- An exception that leaves `validate_trigger`. -/
inductive ValidationError where
  | keyError (key : String)
  | other (e : PyError)
  deriving DecidableEq

/-- `params[key]`. -/
def requireKey (params : Dict) (key : String) : Except ValidationError Value :=
  match params.get? key with
  | some v => .ok v
  | none => .error (.keyError key)

/-- `_SUPPORTED_CHAINS`. -/
def supportedChains : List (ℤ × String) := [(8453, "Base"), (1, "Ethereum"), (42161, "Arbitrum")]

/-- `sorted(_VALID_OPS)`. -/
def validOps : List String :=
  ["between", "contains", "eq", "gt", "gte", "in", "jmespath", "lt", "lte", "neq", "not_between",
    "not_in", "regex"]

/-! ### The signature, the address and the chain -/

/-- `[a-zA-Z0-9_]`. -/
def isNameChar (c : Char) : Bool := c.isAlphanum || c == '_'

/-- The types of a parameter list. -/
def paramTypes (params : List Char) : List String :=
  ((splitCommas (stripChars params)).map fun t => String.ofList (stripChars t)).filter (· ≠ "")

/-- `_parse_sig_fields`: the event name and the parameter types, where `_SIG_TYPES_RE` matches.  Its
`$` also matches before a line break at the end. -/
def parseSigFields (eventSignature : String) : Option (String × List String) :=
  match eventSignature.toList with
  | [] => none
  | c :: cs =>
    if c.isUpper then
      match cs.dropWhile isNameChar with
      | '(' :: rest =>
        if rest.dropWhile (· ≠ ')') ∈ [[')'], [')', '\n']] then
          some (String.ofList (c :: cs.takeWhile isNameChar), paramTypes (rest.takeWhile (· ≠ ')')))
        else none
      | _ => none
    else none

/-- `_ADDRESS_RE.match(s)`. -/
def matchesAddress (s : String) : Bool :=
  isEthAddress s ||
    (s.toList.getLast? == some '\n' && isEthAddress (String.ofList s.toList.dropLast))

/-- A regular expression is matched against a text only. -/
def textOf : Value → Except PyError String
  | .str s => .ok s
  | _ => .error .typeError

/-- Whether a value has a hash. -/
def isHashable : Value → Bool
  | .list _ | .dict _ => false
  | _ => true

/-- The entry of a chain, which is looked up in a dictionary. -/
def lookupChain (chainId : Value) : Except PyError (Option (ℤ × String)) :=
  if isHashable chainId then
    .ok (supportedChains.find? fun chain => decide (chainId.number? = some (chain.1 : ℚ)))
  else .error .typeError

/-- The first check. -/
def signatureErrors (eventSignature : String) : List String :=
  if (parseSigFields eventSignature).isSome then []
  else
    [s!"Invalid event signature format: '{eventSignature}'. Expected format: " ++
      "EventName(type1,type2,...) e.g. Swap(address,address,int256,int256,uint160,uint128,int24)"]

/-- The second check. -/
def addressErrors (contractAddress : String) : List String :=
  if matchesAddress contractAddress then []
  else
    [s!"Invalid contract address: '{contractAddress}'. Expected 0x followed by 40 hex characters."]

/-- The third check. -/
def chainErrors (lib : Library) (chainId : Value) : Except PyError (List String) := do
  match ← lookupChain chainId with
  | some _ => return []
  | none =>
    let shown ← lib.strOf chainId
    let supported := ", ".intercalate (supportedChains.map fun c => s!"{c.1} ({c.2})")
    return [s!"Unsupported chain_id: {shown}. Supported chains: {supported}"]

/-! ### The rules -/

/-- The names of the fields: those of `event_abi` if it is a list that is not empty, else
`param0`, `param1`, ... -/
def fieldNames (types : List String) (eventAbi : Value) : Except PyError (List Value) :=
  match eventAbi with
  | .list (input :: inputs) =>
    (input :: inputs).zipIdx.mapM fun entry =>
      match entry.1 with
      | .dict inp => .ok (Dict.getD inp "name" (.str s!"param{entry.2}"))
      | _ => .error .attributeError
  | _ => .ok (types.zipIdx.map fun entry => .str s!"param{entry.2}")

/-- The operator of the `i`-th rule, which is looked up in a set. -/
def operatorErrors (lib : Library) (i : ℕ) (op : Value) : Except PyError (List String) :=
  if op.truth = false then .ok []
  else if isHashable op = false then .error .typeError
  else if op ∈ validOps.map Value.str then .ok []
  else do
    let shown ← lib.strOf op
    return [s!"Filter rule {i}: Operator '{shown}' not supported. Valid operators: " ++
      ", ".intercalate validOps]

/-- `", ".join(names)`, which takes texts only. -/
def joinNames (names : List Value) : Except PyError String := do
  let texts ← names.mapM textOf
  return ", ".intercalate texts

/-- The field of the `i`-th rule: it is looked up as a whole, and then up to its first dot. -/
def fieldErrors (eventName : Option String) (names : List Value) (i : ℕ) (field : Value) :
    Except PyError (List String) :=
  if field.truth ∧ names ≠ [] ∧ ¬names.any field.eqv then
    match field with
    | .str text =>
      if names.any (Value.str (String.ofList (text.toList.takeWhile (· ≠ '.')))).eqv then .ok []
      else do
        let event := eventName.getD "unknown"
        let available ← joinNames names
        return [s!"Filter rule {i}: Field '{text}' not found in event {event}. " ++
          s!"Available fields: {available}"]
    | _ => .error .attributeError
  else .ok []

/-- The fourth check, from the `i`-th rule on. -/
def ruleErrors (lib : Library) (eventName : Option String) (names : List Value) :
    ℕ → List Value → Except PyError (List String)
  | _, [] => .ok []
  | i, .dict rule :: rules => do
    let opErrors ← operatorErrors lib i (Dict.getD rule "op" (.str ""))
    let fieldErrors ← fieldErrors eventName names i (Dict.getD rule "field" (.str ""))
    let rest ← ruleErrors lib eventName names (i + 1) rules
    return opErrors ++ fieldErrors ++ rest
  -- a rule without `get`
  | _, _ :: _ => .error .attributeError

/-! ### The result -/

/-- `op.upper().replace("_", " ")`, which only a text has. -/
def shownOperator : Value → Except PyError String
  | .str op => .ok (String.ofList (op.toList.map fun c => if c = '_' then ' ' else c.toUpper))
  | _ => .error .attributeError

/-- `str(value).replace(",", " AND ")`. -/
def shownRange (text : String) : String :=
  String.ofList (text.toList.flatMap fun c => if c = ',' then " AND ".toList else [c])

/-- The value of a rule as the summary shows it; for a range, with its ends joined by `AND`. -/
def shownValue (lib : Library) (op : Option Value) (value : Value) : Except PyError String :=
  if op = some (.str "between") ∨ op = some (.str "not_between") then
    (lib.strOf value).map shownRange
  else lib.strOf value

/-- The summary of a rule. -/
def ruleSummary (lib : Library) : Value → Except PyError String
  | .dict rule => do
    let op ← shownOperator (Dict.getD rule "op" (.str "eq"))
    let value ← shownValue lib (Dict.get? rule "op") (Dict.getD rule "value" (.str "?"))
    let field ← lib.strOf (Dict.getD rule "field" (.str "?"))
    return s!"{field} {op} {value}"
  | _ => .error .attributeError

/-- What `validate_trigger` returns. -/
inductive ValidationResult where
  | invalid (errors : List String)
  | valid (eventName : Option String) (eventFields : List Value) (filterSummary chain : String)
  deriving DecidableEq

/-- The checks together, with the types of the signature and the names of the fields. -/
structure Checks where
  eventName : Option String
  types : List String
  names : List Value
  rules : List Value
  errors : List String

/-- The four checks. -/
def runChecks (lib : Library)
    (eventSignature contractAddress chainId eventAbi filterRules : Value) :
    Except PyError Checks := do
  let eventSignature ← textOf eventSignature
  let signature := parseSigFields eventSignature
  let eventName := signature.map Prod.fst
  let types := (signature.map Prod.snd).getD []
  let contractAddress ← textOf contractAddress
  let ofChain ← chainErrors lib chainId
  let names ← fieldNames types eventAbi
  let rules ← iterateValue filterRules
  let ofRules ← ruleErrors lib eventName names 0 rules
  let errors :=
    signatureErrors eventSignature ++ addressErrors contractAddress ++ ofChain ++ ofRules
  return { eventName, types, names, rules, errors }

/-- What a configuration without errors is answered. -/
def validResult (lib : Library) (chainId : Value) (checks : Checks) :
    Except PyError ValidationResult := do
  let summaries ← checks.rules.mapM (ruleSummary lib)
  let chain ← lookupChain chainId
  return .valid checks.eventName
    (if checks.names ≠ [] then checks.names else checks.types.map Value.str)
    (if summaries ≠ [] then "; ".intercalate summaries else "No filters")
    ((chain.map Prod.snd).getD "")

/-- `validate_trigger`. -/
def validateTrigger (lib : Library) (params : Dict) : Except ValidationError ValidationResult := do
  let eventSignature ← requireKey params "event_signature"
  let contractAddress ← requireKey params "contract_address"
  let chainId ← requireKey params "chain_id"
  let filterRules := params.getD "filter_rules" (.list [])
  Except.mapError ValidationError.other
    (runChecks lib eventSignature contractAddress chainId (params.getD "event_abi" .none)
      filterRules >>= fun checks =>
        if checks.errors ≠ [] then .ok (.invalid checks.errors) else validResult lib chainId checks)

/-! ### What is accepted -/

/-- What `validate_trigger` makes sure of a rule: the operator is one of `_VALID_OPS` or empty, and
the value can be written. -/
structure AcceptedRule (f : Dict) : Prop where
  operator : ∃ op, f.getD "op" (.str "eq") = .str op ∧ (op = "" ∨ op ∈ validOps)
  printable : (f.getD "value" .none).printable = true

theorem operatorErrors_eq_nil {lib : Library} {i : ℕ} {op : Value}
    (h : operatorErrors lib i op = .ok []) : op.truth = false ∨ op ∈ validOps.map Value.str := by
  unfold operatorErrors at h
  split_ifs at h with htruth hhash hknown
  · exact .inl htruth
  · exact .inr hknown
  · obtain ⟨shown, -, hshown⟩ := bind_eq_ok_iff.mp h
    cases hshown

/-- Rules without errors are dictionaries with accepted operators. -/
theorem ruleErrors_eq_nil {lib : Library} {eventName : Option String} {names : List Value} {i : ℕ}
    {rules : List Value} (h : ruleErrors lib eventName names i rules = .ok []) :
    ∃ fs : List Dict, rules = fs.map .dict ∧ ∀ f ∈ fs, (f.getD "op" (.str "")).truth = false ∨
      f.getD "op" (.str "") ∈ validOps.map Value.str := by
  induction rules generalizing i with
  | nil => exact ⟨[], rfl, by simp⟩
  | cons rule rules ih =>
    cases rule with
    | dict f =>
      rw [ruleErrors] at h
      obtain ⟨opErrors, hop, h⟩ := bind_eq_ok_iff.mp h
      obtain ⟨fieldErrors, -, h⟩ := bind_eq_ok_iff.mp h
      obtain ⟨rest, hrest, h⟩ := bind_eq_ok_iff.mp h
      have hnil := Except.ok.inj h
      simp only [List.append_eq_nil_iff] at hnil
      obtain ⟨⟨rfl, -⟩, rfl⟩ := hnil
      obtain ⟨fs, rfl, hfs⟩ := ih hrest
      refine ⟨f :: fs, rfl, ?_⟩
      intro g hg
      rcases List.mem_cons.mp hg with rfl | hg
      · exact operatorErrors_eq_nil hop
      · exact hfs g hg
    | _ => cases h

/-- A rule with a summary has a text for an operator and a value that can be written. -/
theorem ruleSummary_eq_ok {lib : Library} {f : Dict} {text : String}
    (h : ruleSummary lib (.dict f) = .ok text) :
    (∃ op, f.getD "op" (.str "eq") = .str op) ∧ (f.getD "value" (.str "?")).printable = true := by
  rw [ruleSummary] at h
  obtain ⟨shownOp, hop, h⟩ := bind_eq_ok_iff.mp h
  obtain ⟨shown, hvalue, -⟩ := bind_eq_ok_iff.mp h
  refine ⟨?_, ?_⟩
  · cases hop' : f.getD "op" (.str "eq") with
    | str op => exact ⟨op, rfl⟩
    | _ =>
      rw [hop'] at hop
      cases hop
  · unfold shownValue at hvalue
    split_ifs at hvalue
    · cases hstr : lib.strOf (f.getD "value" (.str "?")) with
      | ok text => exact (exists_strOf_iff lib).mp ⟨text, hstr⟩
      | error e =>
        rw [hstr] at hvalue
        cases hvalue
    · exact (exists_strOf_iff lib).mp ⟨shown, hvalue⟩

/-- A rule without errors that has a summary is accepted. -/
theorem acceptedRule {lib : Library} {f : Dict} {text : String}
    (hop : (f.getD "op" (.str "")).truth = false ∨ f.getD "op" (.str "") ∈ validOps.map Value.str)
    (h : ruleSummary lib (.dict f) = .ok text) : AcceptedRule f := by
  obtain ⟨⟨op, heq⟩, hvalue⟩ := ruleSummary_eq_ok h
  -- the defaults of the validator and of the engine differ, but only where the key is missing
  refine ⟨⟨op, heq, ?_⟩, ?_⟩
  · rw [Dict.getD] at heq hop
    cases hkey : f.get? "op" with
    | none =>
      rw [hkey, Option.getD_none] at heq
      obtain rfl := Value.str.inj heq
      exact .inr (by decide)
    | some v =>
      rw [hkey, Option.getD_some] at heq hop
      subst heq
      rcases hop with hempty | hknown
      · exact .inl (by simpa [Value.truth] using hempty)
      · obtain ⟨op', hop', heq⟩ := List.mem_map.mp hknown
        rw [← Value.str.inj heq]
        exact .inr hop'
  · rw [Dict.getD] at hvalue ⊢
    cases hkey : f.get? "value" with
    | none => rfl
    | some v =>
      rw [hkey] at hvalue
      exact hvalue

theorem mapError_eq_ok {α : Type} {x : Except PyError α} {r : α}
    (h : Except.mapError ValidationError.other x = .ok r) : x = .ok r := by
  cases x with
  | error e => cases h
  | ok r' => exact congrArg Except.ok (Except.ok.inj h)

/-- A configuration that is reported as valid has passed the checks, and has a summary. -/
theorem checks_of_valid {lib : Library} {params : Dict} {eventName : Option String}
    {eventFields : List Value} {filterSummary chain : String}
    (h : validateTrigger lib params = .ok (.valid eventName eventFields filterSummary chain)) :
    ∃ eventSignature contractAddress chainId checks,
      runChecks lib eventSignature contractAddress chainId (params.getD "event_abi" .none)
        (params.getD "filter_rules" (.list [])) = .ok checks ∧
      checks.errors = [] ∧
      validResult lib chainId checks = .ok (.valid eventName eventFields filterSummary chain) := by
  unfold validateTrigger at h
  cases hsignature : requireKey params "event_signature" with
  | error e =>
    rw [hsignature] at h
    cases h
  | ok eventSignature =>
    cases haddress : requireKey params "contract_address" with
    | error e =>
      rw [hsignature, haddress] at h
      cases h
    | ok contractAddress =>
      cases hchain : requireKey params "chain_id" with
      | error e =>
        rw [hsignature, haddress, hchain] at h
        cases h
      | ok chainId =>
        rw [hsignature, haddress, hchain] at h
        obtain ⟨checks, hchecks, hresult⟩ := bind_eq_ok_iff.mp (mapError_eq_ok h)
        refine ⟨eventSignature, contractAddress, chainId, checks, hchecks, ?_⟩
        by_cases herrors : checks.errors = []
        · rw [if_neg (not_not_intro herrors)] at hresult
          exact ⟨herrors, hresult⟩
        · rw [if_pos herrors] at hresult
          cases hresult

/-- The filter rules of a valid configuration are accepted. -/
theorem acceptedRules_of_valid {lib : Library} {params : Dict} {eventName : Option String}
    {eventFields : List Value} {filterSummary chain : String}
    (h : validateTrigger lib params = .ok (.valid eventName eventFields filterSummary chain)) :
    ∃ fs : List Dict, iterateValue (params.getD "filter_rules" (.list [])) = .ok (fs.map .dict) ∧
      ∀ f ∈ fs, AcceptedRule f := by
  obtain ⟨eventSignature, contractAddress, chainId, checks, hchecks, herrors, hresult⟩ :=
    checks_of_valid h
  unfold runChecks at hchecks
  obtain ⟨signature, -, hchecks⟩ := bind_eq_ok_iff.mp hchecks
  obtain ⟨address, -, hchecks⟩ := bind_eq_ok_iff.mp hchecks
  obtain ⟨ofChain, -, hchecks⟩ := bind_eq_ok_iff.mp hchecks
  obtain ⟨names, -, hchecks⟩ := bind_eq_ok_iff.mp hchecks
  obtain ⟨rules, hrules, hchecks⟩ := bind_eq_ok_iff.mp hchecks
  obtain ⟨ofRules, hofRules, hchecks⟩ := bind_eq_ok_iff.mp hchecks
  obtain rfl := Except.ok.inj hchecks
  simp only [List.append_eq_nil_iff] at herrors
  obtain ⟨-, rfl⟩ := herrors
  obtain ⟨fs, rfl, hops⟩ := ruleErrors_eq_nil hofRules
  refine ⟨fs, hrules, ?_⟩
  intro f hf
  -- every rule has a summary, or the answer would not have been given
  unfold validResult at hresult
  obtain ⟨summaries, hsummaries, -⟩ := bind_eq_ok_iff.mp hresult
  cases hsummary : ruleSummary lib (.dict f) with
  | ok text => exact acceptedRule (hops f hf) hsummary
  | error e =>
    obtain ⟨e', he'⟩ := mapM_eq_error (List.mem_map_of_mem (f := Value.dict) hf) hsummary
    rw [he'] at hsummaries
    cases hsummaries

/-! ### The theorem -/

/-- An accepted rule runs: `jmespath` evaluates its field, and where it finds a value, the operator
is neither empty nor `not_between` and does not raise, and where it does not hold, the value can be
written. -/
def AcceptedRuleRuns (lib : Library) (decoded f : Dict) : Prop :=
  ∃ expression fieldVal, f.getD "field" .none = .str expression ∧
    lib.jmespathSearch expression (.dict decoded) = .ok fieldVal ∧
    (fieldVal ≠ .none →
      ∃ op, f.getD "op" (.str "eq") = .str op ∧ op ≠ "" ∧ op ≠ "not_between" ∧
        ¬RaisesAny lib fieldVal op (f.getD "value" .none) ∧
        (evaluateOp lib fieldVal op (f.getD "value" .none) ≠ .ok true → fieldVal.printable = true))

/-- The operators that both tables know. -/
theorem mem_engineOps_iff {op : String} (h : op = "" ∨ op ∈ validOps) :
    op ∈ engineOps ↔ op ≠ "" ∧ op ≠ "not_between" := by
  rcases h with rfl | h
  · decide
  · have hall : ∀ op ∈ validOps, op ∈ engineOps ↔ op ≠ "" ∧ op ≠ "not_between" := by decide
    exact hall op h

theorem ruleRuns_iff_of_accepted {lib : Library} {decoded f : Dict} (h : AcceptedRule f) :
    RuleRuns lib decoded f ↔ AcceptedRuleRuns lib decoded f := by
  obtain ⟨op, hop, hvalid⟩ := h.operator
  have hoperator (fieldVal : Value) :
      OperatorRuns lib fieldVal (f.getD "op" (.str "eq")) (f.getD "value" .none) ↔
        ∃ op, f.getD "op" (.str "eq") = .str op ∧ op ≠ "" ∧ op ≠ "not_between" ∧
          ¬RaisesAny lib fieldVal op (f.getD "value" .none) ∧
          (evaluateOp lib fieldVal op (f.getD "value" .none) ≠ .ok true →
            fieldVal.printable = true) := by
    refine exists_congr fun name => and_congr_right fun hname => ?_
    obtain rfl : op = name := Value.str.inj (hop.symm.trans hname)
    rw [mem_engineOps_iff hvalid]
    simp [h.printable, and_assoc]
  unfold RuleRuns AcceptedRuleRuns
  simp only [hoperator]

/-- **Which validated triggers are executable.** For every configuration that is reported as valid
and every event, no exception leaves the evaluation of its rules and no operator is unknown if and
only if every rule that is reached runs. -/
theorem validated_executes_iff {lib : Library} {params : Dict} {eventName : Option String}
    {eventFields : List Value} {filterSummary chain : String}
    (h : validateTrigger lib params = .ok (.valid eventName eventFields filterSummary chain))
    (decoded : Dict) :
    (evaluateAnyFilters lib decoded (params.getD "filter_rules" (.list []))).Executes ↔
      ∀ before f after,
        params.getD "filter_rules" (.list []) = .list ((before ++ f :: after).map .dict) →
        (∀ g ∈ before, RuleHolds lib decoded g) → AcceptedRuleRuns lib decoded f := by
  obtain ⟨fs, hiterate, haccepted⟩ := acceptedRules_of_valid h
  have hfilters (before : List Dict) (f : Dict) (after : List Dict) :
      params.getD "filter_rules" (.list []) = .list ((before ++ f :: after).map .dict) ↔
        fs = before ++ f :: after := by
    constructor
    · intro hlist
      rw [hlist] at hiterate
      have hmap := Except.ok.inj hiterate
      exact (List.map_injective_iff.mpr (fun _ _ => Value.dict.inj) hmap).symm
    · rintro rfl
      exact eq_list_of_iterateValue hiterate (by simp)
  rw [evaluateAnyFilters_eq hiterate, executes_iff]
  simp only [hfilters]
  refine forall₃_congr fun before f after => forall_congr' fun hfs => ?_
  have hf : AcceptedRule f := haccepted f (by simp [hfs])
  rw [ruleRuns_iff_of_accepted hf]

namespace Sample

/-- A configuration of one rule for a field `amount`. -/
def triggerParams (op : String) (value : Value) : Dict :=
  [("event_signature", .str "Swap(uint256)"),
    ("contract_address", .str "0x833589fCD6eDb6E08f4c7C32D4f71b54bdA02913"),
    ("chain_id", .int 8453), ("event_abi", .list [.dict [("name", .str "amount")]]),
    ("filter_rules",
      .list [.dict [("field", .str "amount"), ("op", .str op), ("value", value)]])]

/-- `jmespath.search` for the expressions that are one name, and `str` for lists of integers. -/
def nameLibrary : Library where
  jmespathSearch expression data :=
    match data with
    | .dict items => .ok (Dict.getD items expression .none)
    | _ => .ok .none
  reprOf v :=
    match v with
    | .list xs =>
      "[" ++ ", ".intercalate (xs.map fun x => ((x.number?.map toString).getD "")) ++ "]"
    | _ => ""

end Sample

/-- A rule with `gte` is valid, and runs on an event with an amount. -/
theorem validated_executes_gte :
    (evaluateAnyFilters Sample.nameLibrary [("amount", .int 5)]
      (Dict.getD (Sample.triggerParams "gte" (.int 3)) "filter_rules" (.list []))).Executes := by
  refine (@validated_executes_iff Sample.nameLibrary (Sample.triggerParams "gte" (.int 3))
    (some "Swap") [.str "amount"] "amount GTE 3" "Base" (by decide +kernel) _).mpr ?_
  rintro before f after hlist -
  have hmem : Value.dict f ∈ ((before ++ f :: after).map Value.dict) :=
    List.mem_map_of_mem (by simp)
  rw [← Value.list.inj hlist, List.mem_singleton] at hmem
  obtain rfl := Value.dict.inj hmem
  refine ⟨"amount", .int 5, rfl, rfl, fun _ => ⟨"gte", rfl, by decide, by decide, ?_, fun _ => ?_⟩⟩
  · exact (returns_iff _ _ _ _).mp ⟨true, by decide +kernel⟩
  · decide +kernel

/-- A rule with `not_between` is valid, and the engine does not know the operator. -/
theorem validated_not_between :
    validateTrigger Sample.nameLibrary
        (Sample.triggerParams "not_between" (.list [.int 1, .int 3])) =
      .ok (.valid (some "Swap") [.str "amount"] "amount NOT BETWEEN [1 AND  3]" "Base") ∧
      ¬(evaluateAnyFilters Sample.nameLibrary [("amount", .int 5)]
        (Dict.getD (Sample.triggerParams "not_between" (.list [.int 1, .int 3])) "filter_rules"
          (.list []))).Executes := by
  refine ⟨by decide +kernel, ?_⟩
  rintro ⟨-, hops⟩
  have hunknown : (evaluateAnyFilters Sample.nameLibrary [("amount", .int 5)]
      (Dict.getD (Sample.triggerParams "not_between" (.list [.int 1, .int 3])) "filter_rules"
        (.list []))).unknownOps = [.str "not_between"] := by
    decide +kernel
  rw [hunknown] at hops
  cases hops

end TripWire
