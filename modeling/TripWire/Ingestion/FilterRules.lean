import TripWire.Ingestion.FilterOperators

/-!
# Filter rules as dictionaries

`evaluate_filters` also takes its rules as dictionaries, with any values for `field`, `op` and
`value`.  `evaluateRules` is that evaluation with its `unknown_filter_op` warnings; on the rules of
`TriggerFilter` it is `evaluateFilters` (`evaluateRules_toDict`).

An evaluation runs without an exception and without a warning if and only if every rule that it
reaches does (`executes_iff`): a rule is reached if the rules before it hold, and its operator must
be one of the engine's and not raise on the value of its field (`returns_iff`).
-/

namespace TripWire

open Py

/-! ### The evaluation -/

/-- What an evaluation of filters does. -/
structure Evaluation where
  /-- The reason of the first rule that fails, if any. -/
  result : Except PyError (Option String)
  /-- The operators of the `unknown_filter_op` warnings. -/
  unknownOps : List Value := []

/-- No exception leaves the evaluation, and the branch of unknown operators is not reached. -/
def Evaluation.Executes (e : Evaluation) : Prop :=
  (∃ reason, e.result = .ok reason) ∧ e.unknownOps = []

/-- The operators that `_evaluate_op` has a branch for. -/
def engineOps : List String :=
  ["eq", "neq", "gt", "gte", "lt", "lte", "in", "not_in", "between", "contains", "regex",
    "jmespath"]

/-- `_evaluate_op` for an `op` of any type, with its warning. -/
def evaluateAnyOp (lib : Library) (fieldVal op target : Value) : Except PyError Bool × List Value :=
  match op with
  | .str op => (evaluateOp lib fieldVal op target, if op ∈ engineOps then [] else [.str op])
  | op => (.ok false, [op])

/-- `jmespath.search(field, decoded)`; only a text can be parsed. -/
def searchField (lib : Library) (field : Value) (decoded : Dict) : Except PyError Value :=
  match field with
  | .str expression => lib.jmespathSearch expression (.dict decoded)
  | _ => .error .jmespath

/-- `f"{field} {op} {value} failed (got {field_val})"`. -/
def failureText (lib : Library) (field op target fieldVal : Value) : Except PyError String := do
  let field ← lib.strOf field
  let op ← lib.strOf op
  let value ← lib.strOf target
  let got ← lib.strOf fieldVal
  return s!"{field} {op} {value} failed (got {got})"

/-- The end of a turn of the loop, with the value of the field; `none` goes on. -/
def applyOperator (lib : Library) (field op target fieldVal : Value) : Evaluation :=
  match evaluateAnyOp lib fieldVal op target with
  | (.error e, unknown) => { result := .error e, unknownOps := unknown }
  | (.ok true, unknown) => { result := .ok none, unknownOps := unknown }
  | (.ok false, unknown) =>
    { result := (failureText lib field op target fieldVal).map some, unknownOps := unknown }

/-- One turn of the loop of `evaluate_filters`, for a rule that is a dictionary. -/
def evaluateRule (lib : Library) (decoded f : Dict) : Evaluation :=
  let field := f.getD "field" .none
  let op := f.getD "op" (.str "eq")
  let value := f.getD "value" .none
  match searchField lib field decoded with
  | .error e => { result := .error e }
  | .ok fieldVal =>
    if fieldVal = .none then
      { result := .ok (some s!"field '{lib.str field}' not present in event") }
    else applyOperator lib field op value fieldVal

/-- The loop of `evaluate_filters`. -/
def evaluateRules (lib : Library) (decoded : Dict) : List Value → Evaluation
  | [] => { result := .ok none }
  | rule :: rules =>
    let first :=
      match rule with
      | .dict f => evaluateRule lib decoded f
      -- a rule without `get`
      | _ => { result := .error .attributeError }
    match first.result with
    | .ok none =>
      let rest := evaluateRules lib decoded rules
      { rest with unknownOps := first.unknownOps ++ rest.unknownOps }
    | _ => first

/-- `iter(v)`, the values that a `for` loop goes through. -/
def iterateValue : Value → Except PyError (List Value)
  | .list xs => .ok xs
  | .dict items => .ok (items.map fun item => .str item.1)
  | .str s => .ok (s.toList.map fun c => .str (String.ofList [c]))
  | _ => .error .typeError

/-- `evaluate_filters` on filters of any type. -/
def evaluateAnyFilters (lib : Library) (decoded : Dict) (filters : Value) : Evaluation :=
  if filters.truth then
    match iterateValue filters with
    | .error e => { result := .error e }
    | .ok rules => evaluateRules lib decoded rules
  else { result := .ok none }

/-- The dictionary of a `TriggerFilter`. -/
def TriggerFilter.toDict (f : TriggerFilter) : Dict :=
  [("field", .str f.field), ("op", .str f.op), ("value", f.value)]

/-- On the rules of a trigger this is `evaluateFilters`. -/
theorem evaluateRules_toDict (lib : Library) (decoded : Dict) (filters : List TriggerFilter) :
    (evaluateRules lib decoded (filters.map fun f => .dict f.toDict)).result =
      evaluateFilters lib decoded filters := by
  induction filters with
  | nil => rfl
  | cons f fs ih =>
    have hfield : f.toDict.getD "field" .none = .str f.field := rfl
    have hop : f.toDict.getD "op" (.str "eq") = .str f.op := rfl
    have hvalue : f.toDict.getD "value" .none = f.value := rfl
    rw [List.map_cons, evaluateRules, evaluateFilters]
    simp only [evaluateRule, hfield, hop, hvalue, searchField, applyOperator, evaluateAnyOp]
    cases lib.jmespathSearch f.field (.dict decoded) with
    | error e => rfl
    | ok fieldVal =>
      show _ = (if fieldVal = .none then _ else _)
      by_cases habsent : fieldVal = .none
      · simp only [habsent, if_true]
        rfl
      · simp only [habsent, if_false]
        cases evaluateOp lib fieldVal f.op f.value with
        | error e => rfl
        | ok holds =>
          cases holds with
          | true => exact ih
          | false =>
            have htext (s : String) : lib.strOf (.str s) = .ok s := rfl
            simp only [failureText, htext]
            cases lib.strOf f.value with
            | error e => rfl
            | ok value =>
              cases lib.strOf fieldVal with
              | error e => rfl
              | ok got => rfl

/-! ### Which evaluations run through -/

/-- A rule holds of an event: its field has a value, of which the operator holds. -/
def RuleHolds (lib : Library) (decoded f : Dict) : Prop :=
  ∃ fieldVal op, searchField lib (f.getD "field" .none) decoded = .ok fieldVal ∧ fieldVal ≠ .none ∧
    f.getD "op" (.str "eq") = .str op ∧
    evaluateOp lib fieldVal op (f.getD "value" .none) = .ok true

/-- The operator of a rule is a known one that does not raise on the two values, and where it does
not hold, they can be written into the reason. -/
def OperatorRuns (lib : Library) (fieldVal op target : Value) : Prop :=
  ∃ name, op = .str name ∧ name ∈ engineOps ∧ ¬RaisesAny lib fieldVal name target ∧
    (evaluateOp lib fieldVal name target ≠ .ok true →
      target.printable = true ∧ fieldVal.printable = true)

/-- The field of a rule is an expression that `jmespath` evaluates, and where it finds a value, the
operator runs. -/
def RuleRuns (lib : Library) (decoded f : Dict) : Prop :=
  ∃ expression fieldVal, f.getD "field" .none = .str expression ∧
    lib.jmespathSearch expression (.dict decoded) = .ok fieldVal ∧
    (fieldVal ≠ .none →
      OperatorRuns lib fieldVal (f.getD "op" (.str "eq")) (f.getD "value" .none))

theorem searchField_eq_ok_iff {lib : Library} {field : Value} {decoded : Dict} {v : Value} :
    searchField lib field decoded = .ok v ↔
      ∃ expression, field = .str expression ∧
        lib.jmespathSearch expression (.dict decoded) = .ok v := by
  cases field with
  | str expression => simp [searchField]
  | _ => simp [searchField]

theorem exists_strOf_iff (lib : Library) {v : Value} :
    (∃ text, lib.strOf v = .ok text) ↔ v.printable = true := by
  rw [Library.strOf]
  split_ifs with h
  · simp [h]
  · simp [h]

/-- The text of a failure is written if the target and the value are. -/
theorem exists_failureText_iff (lib : Library) (expression op : String) {target fieldVal : Value} :
    (∃ text, failureText lib (.str expression) (.str op) target fieldVal = .ok text) ↔
      target.printable = true ∧ fieldVal.printable = true := by
  have htext (s : String) : lib.strOf (.str s) = .ok s := rfl
  rw [← exists_strOf_iff lib, ← exists_strOf_iff lib, failureText]
  simp only [htext]
  cases lib.strOf target with
  | error e =>
    refine iff_of_false ?_ ?_
    · rintro ⟨text, htext⟩
      cases htext
    · rintro ⟨⟨text, htext⟩, -⟩
      cases htext
  | ok value =>
    cases lib.strOf fieldVal with
    | error e =>
      refine iff_of_false ?_ ?_
      · rintro ⟨text, htext⟩
        cases htext
      · rintro ⟨-, text, htext⟩
        cases htext
    | ok got => exact iff_of_true ⟨_, rfl⟩ ⟨⟨value, rfl⟩, got, rfl⟩

theorem exists_map_some_iff {x : Except PyError String} :
    (∃ reason, x.map some = .ok reason) ↔ ∃ text, x = .ok text := by
  cases x with
  | error e => exact iff_of_false (fun ⟨_, h⟩ => by cases h) (fun ⟨_, h⟩ => by cases h)
  | ok text => exact iff_of_true ⟨some text, rfl⟩ ⟨text, rfl⟩

/-- What a rule does once its field is found. -/
theorem executes_applyOperator_iff {lib : Library} {expression : String}
    {fieldVal op target : Value} :
    (applyOperator lib (.str expression) op target fieldVal).Executes ↔
      OperatorRuns lib fieldVal op target := by
  by_cases hop : ∃ name, op = .str name ∧ name ∈ engineOps
  · obtain ⟨name, rfl, hknown⟩ := hop
    have hrun : evaluateAnyOp lib fieldVal (.str name) target =
        (evaluateOp lib fieldVal name target, []) := by
      rw [evaluateAnyOp, if_pos hknown]
    have hreturns := returns_iff lib fieldVal name target
    rw [applyOperator, hrun]
    cases houtcome : evaluateOp lib fieldVal name target with
    | error e =>
      refine iff_of_false ?_ ?_
      · rintro ⟨⟨reason, hreason⟩, -⟩
        cases hreason
      · rintro ⟨name', hname, -, hreturn, -⟩
        obtain rfl := Value.str.inj hname
        obtain ⟨b, hb⟩ := hreturns.mpr hreturn
        rw [houtcome] at hb
        cases hb
    | ok holds =>
      have hreturn := hreturns.mp ⟨holds, houtcome⟩
      cases holds with
      | true =>
        exact iff_of_true ⟨⟨none, rfl⟩, rfl⟩
          ⟨name, rfl, hknown, hreturn, fun h => absurd houtcome h⟩
      | false =>
        have hprintable := @exists_failureText_iff lib expression name target fieldVal
        constructor
        · rintro ⟨hreason, -⟩
          exact ⟨name, rfl, hknown, hreturn,
            fun _ => hprintable.mp (exists_map_some_iff.mp hreason)⟩
        · rintro ⟨name', hname, -, -, hprint⟩
          obtain rfl := Value.str.inj hname
          have htext := hprintable.mpr (hprint (by rw [houtcome]; simp))
          exact ⟨exists_map_some_iff.mpr htext, rfl⟩
  · -- an operator that is not known is recorded, whatever comes of it
    obtain ⟨unknown, outcome, hrun⟩ : ∃ unknown outcome,
        evaluateAnyOp lib fieldVal op target = (outcome, unknown :: []) := by
      cases op with
      | str name =>
        have hunknown : name ∉ engineOps := fun h => hop ⟨name, rfl, h⟩
        exact ⟨.str name, evaluateOp lib fieldVal name target, by
          rw [evaluateAnyOp, if_neg hunknown]⟩
      | _ => exact ⟨_, _, rfl⟩
    refine iff_of_false ?_ ?_
    · rintro ⟨-, hops⟩
      rw [applyOperator, hrun] at hops
      cases outcome with
      | error e => cases hops
      | ok holds =>
        cases holds with
        | true => cases hops
        | false => cases hops
    · rintro ⟨name, hname, hknown, -⟩
      exact hop ⟨name, hname, hknown⟩

theorem executes_evaluateRule_iff {lib : Library} {decoded f : Dict} :
    (evaluateRule lib decoded f).Executes ↔ RuleRuns lib decoded f := by
  rw [evaluateRule, RuleRuns]
  cases hsearch : searchField lib (f.getD "field" .none) decoded with
  | error e =>
    refine iff_of_false ?_ ?_
    · rintro ⟨⟨reason, hreason⟩, -⟩
      cases hreason
    · rintro ⟨expression, fieldVal, hfield, hval, -⟩
      have hok := searchField_eq_ok_iff.mpr ⟨expression, hfield, hval⟩
      rw [hsearch] at hok
      cases hok
  | ok fieldVal =>
    obtain ⟨expression, hfield, hval⟩ := searchField_eq_ok_iff.mp hsearch
    -- the field determines the expression and the value
    have hunique : (∃ expression fieldVal, f.getD "field" .none = .str expression ∧
        lib.jmespathSearch expression (.dict decoded) = .ok fieldVal ∧
        (fieldVal ≠ .none →
          OperatorRuns lib fieldVal (f.getD "op" (.str "eq")) (f.getD "value" .none))) ↔
        (fieldVal ≠ .none →
          OperatorRuns lib fieldVal (f.getD "op" (.str "eq")) (f.getD "value" .none)) := by
      simp [hfield, hval]
    rw [hunique]
    by_cases habsent : fieldVal = .none
    · simp only [if_pos habsent]
      exact iff_of_true ⟨⟨_, rfl⟩, rfl⟩ fun h => absurd habsent h
    · simp only [if_neg habsent]
      rw [hfield, executes_applyOperator_iff]
      exact ⟨fun h _ => h, fun h => h habsent⟩

theorem map_some_ne_none (x : Except PyError String) : x.map some ≠ .ok none := by
  cases x with
  | error e => exact fun h => by cases h
  | ok text => exact fun h => by cases h

theorem result_applyOperator_iff {lib : Library} {field op target fieldVal : Value} :
    (applyOperator lib field op target fieldVal).result = .ok none ↔
      ∃ name, op = .str name ∧ evaluateOp lib fieldVal name target = .ok true := by
  rw [applyOperator]
  cases op with
  | str name =>
    rw [evaluateAnyOp]
    cases houtcome : evaluateOp lib fieldVal name target with
    | error e => simp [houtcome]
    | ok holds =>
      cases holds with
      | true => simp [houtcome]
      | false =>
        refine iff_of_false (map_some_ne_none _) ?_
        rintro ⟨name', hname, hholds⟩
        rw [← Value.str.inj hname, houtcome] at hholds
        cases hholds
  | _ =>
    refine iff_of_false (map_some_ne_none _) ?_
    rintro ⟨name, hname, -⟩
    cases hname

/-- The loop goes on behind the rules that hold. -/
theorem result_evaluateRule_iff {lib : Library} {decoded f : Dict} :
    (evaluateRule lib decoded f).result = .ok none ↔ RuleHolds lib decoded f := by
  rw [evaluateRule, RuleHolds]
  cases hsearch : searchField lib (f.getD "field" .none) decoded with
  | error e => simp
  | ok fieldVal =>
    by_cases habsent : fieldVal = .none
    · simp [habsent]
    · simp only [if_neg habsent]
      rw [result_applyOperator_iff]
      simp [habsent]

/-- **Which evaluations run through.** No exception leaves `evaluate_filters` and no warning is
given if and only if every rule that is reached runs. -/
theorem executes_iff {lib : Library} {decoded : Dict} (rules : List Dict) :
    (evaluateRules lib decoded (rules.map .dict)).Executes ↔
      ∀ before f after, rules = before ++ f :: after → (∀ g ∈ before, RuleHolds lib decoded g) →
        RuleRuns lib decoded f := by
  induction rules with
  | nil =>
    refine iff_of_true ⟨⟨none, rfl⟩, rfl⟩ ?_
    intro before f after h
    exact absurd h.symm (List.append_ne_nil_of_right_ne_nil before (List.cons_ne_nil f after))
  | cons f fs ih =>
    rw [Search.forall_reached_cons_iff, ← ih, ← executes_evaluateRule_iff, List.map_cons,
      evaluateRules, ← result_evaluateRule_iff]
    cases hfirst : (evaluateRule lib decoded f).result with
    | error e =>
      refine iff_of_false ?_ ?_
      · rintro ⟨⟨reason, hreason⟩, -⟩
        rw [hfirst] at hreason
        cases hreason
      · rintro ⟨⟨⟨reason, hreason⟩, -⟩, -⟩
        rw [hfirst] at hreason
        cases hreason
    | ok reason? =>
      cases reason? with
      | some reason => simp
      | none =>
        simp only [Evaluation.Executes, List.append_eq_nil_iff, forall_const]
        have hreturns : ∃ reason, (evaluateRule lib decoded f).result = .ok reason :=
          ⟨none, hfirst⟩
        tauto

/-- Filters that are gone through one by one are evaluated so. -/
theorem evaluateAnyFilters_eq {lib : Library} {decoded : Dict} {filters : Value}
    {rules : List Value} (h : iterateValue filters = .ok rules) :
    evaluateAnyFilters lib decoded filters = evaluateRules lib decoded rules := by
  unfold evaluateAnyFilters
  by_cases htruth : filters.truth = true
  · rw [if_pos htruth, h]
  · -- a list, a dictionary or a text that counts as false is empty
    have hempty : rules = [] := by
      cases filters with
      | list xs => cases xs with
        | nil => exact (Except.ok.inj h).symm
        | cons x xs => exact absurd rfl htruth
      | dict items => cases items with
        | nil => exact (Except.ok.inj h).symm
        | cons item items => exact absurd rfl htruth
      | str s =>
        have hs : s = "" := by simpa [Value.truth] using htruth
        rw [hs] at h
        exact (Except.ok.inj h).symm
      | _ => cases h
    rw [if_neg htruth, hempty]
    rfl

/-- Only a list has dictionaries among what it is gone through by. -/
theorem eq_list_of_iterateValue {filters : Value} {fs : List Dict}
    (h : iterateValue filters = .ok (fs.map .dict)) (hne : fs ≠ []) :
    filters = .list (fs.map .dict) := by
  obtain ⟨f, rest, rfl⟩ := List.exists_cons_of_ne_nil hne
  cases filters with
  | list xs => exact congrArg Value.list (Except.ok.inj h)
  | dict items =>
    obtain ⟨item, items, rfl, hitem, -⟩ := List.map_eq_cons_iff.mp (Except.ok.inj h)
    cases hitem
  | str s =>
    obtain ⟨c, cs, hcs, hc, -⟩ := List.map_eq_cons_iff.mp (Except.ok.inj h)
    cases hc
  | _ => cases h

end TripWire
