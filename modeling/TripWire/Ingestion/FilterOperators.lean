import TripWire.Ingestion.FilterEngine
import TripWire.Lib.Search
import TripWire.Py.DecimalText

/-!
# The filter operators on any values

What the operators of `_evaluate_op` do, as far as it does not depend on what the values are.
Equality compares normal forms, which `_normalize` always has (`normalOf`); an ordering, and
`between` with it, holds of values that `_to_decimal` takes for numbers (`evaluateOp_ordering_iff`,
`between_iff`); `neq` and `not_in` are complements.

`RaisesAny` collects the calls that raise, whatever the values: `returns_iff`.
-/

namespace TripWire

open Py

/-! ### Numbers -/

/-- The number that a text stands for. -/
def textNumber (s : String) : Option Decimal :=
  let v := strip s
  if v = "" then none
  else if hasHexMark v && !isEthAddress v then (int16 v).toOption.map fun n => .finite n
  else Decimal.ofString v

theorem toDecimal_str (lib : Library) (s : String) :
    toDecimal lib (.str s) = .ok (textNumber s) := by
  simp only [toDecimal, textNumber]
  split_ifs with hempty hmark
  · rfl
  · cases int16 (strip s) with
    | ok n => rfl
    | error e => rfl
  · rfl

theorem textNumber_strip (s : String) : textNumber (strip s) = textNumber s := by
  rw [textNumber, strip_strip, ← textNumber]

/-- A text that starts like a hexadecimal literal is no decimal. -/
theorem ofString_of_mark {v : String} {x : Char} {rest : List Char}
    (hv : v.toList = '0' :: x :: rest) (hx : x = 'x' ∨ x = 'X') (hstrip : strip v = v) :
    Decimal.ofString v = none := by
  have hstripped : stripChars v.toList = v.toList := by
    have hchars := congrArg String.toList hstrip
    rwa [strip, String.toList_ofList] at hchars
  have hxs : x ≠ '_' ∧ digitValue x = none ∧ x ≠ '.' ∧ ¬(x = 'e' ∨ x = 'E') := by
    rcases hx with rfl | rfl
    · decide
    · decide
  have hfilter : v.toList.filter (· ≠ '_') = '0' :: x :: rest.filter (· ≠ '_') := by
    rw [hv, List.filter_cons_of_pos (by decide), List.filter_cons_of_pos (by simpa using hxs.1)]
  have hword (word : List Char) (hword : word.head? ≠ some '0') :
      ('0' :: x :: rest.filter (· ≠ '_')).map Char.toLower ≠ word := by
    rintro rfl
    exact hword rfl
  have hprefix (word : String) (hlength : 0 < word.toList.length)
      (hword : word.toList.head? ≠ some '0') :
      Decimal.isWordThenDigits word ('0' :: x :: rest.filter (· ≠ '_')) = false := by
    obtain ⟨n, hn⟩ := Nat.exists_eq_add_of_lt hlength
    rw [Decimal.isWordThenDigits, Bool.and_eq_false_iff]
    left
    rw [beq_eq_false_iff_ne, hn, Nat.zero_add, List.take_succ_cons, List.map_cons]
    intro h
    rw [← h] at hword
    exact hword rfl
  have hdigits : Decimal.takeDigits ('0' :: x :: rest.filter (· ≠ '_')) =
      ([0], x :: rest.filter (· ≠ '_')) := by
    have hzero : digitValue '0' = some 0 := by decide
    rw [Decimal.takeDigits, hzero, Decimal.takeDigits, hxs.2.1]
  rw [Decimal.ofString_eq, hstripped, hfilter, signed_of_ne _ (by simp) (by simp),
    Decimal.ofUnsigned]
  rw [if_neg (not_or.mpr ⟨hword _ (by decide), hword _ (by decide)⟩),
    hprefix "nan" (by decide) (by decide), hprefix "snan" (by decide) (by decide),
    Decimal.numericValue_of_no_point hdigits (by simpa using hxs.2.2.1), Decimal.numericOf,
    Decimal.exponentOf_cons, if_neg hxs.2.2.2]
  simp

theorem hasHexMark_iff {s : String} :
    hasHexMark s = true ↔ ∃ rest, s.toList = '0' :: 'x' :: rest := by
  rw [hasHexMark, startsWith, List.isPrefixOf_iff_prefix]
  constructor
  · rintro ⟨rest, hrest⟩
    exact ⟨rest, hrest.symm⟩
  · rintro ⟨rest, hrest⟩
    exact ⟨rest, hrest.symm⟩

/-- An address is no number. -/
theorem textNumber_of_isEthAddress {s : String} (h : isEthAddress s = true) :
    textNumber s = none := by
  obtain ⟨hs, htext, -⟩ := isEthAddress_iff.mp h
  have hstrip := strip_of_isEthAddress h
  have hne : s ≠ "" := by
    rintro rfl
    cases htext
  simp only [textNumber, hstrip, if_neg hne, h, Bool.not_true, Bool.and_false, Bool.false_eq_true,
    if_false]
  exact ofString_of_mark htext (.inl rfl) hstrip

/-! ### Comparison of decimals -/

namespace Py.Decimal

/-- A decimal that is no number. -/
def IsNan (d : Decimal) : Prop := d.rank = none

theorem eq_symm (a b : Decimal) : a.eq b = b.eq a := by
  have hcond : (a = .snan ∨ b = .snan) ↔ (b = .snan ∨ a = .snan) := or_comm
  unfold eq
  by_cases h : a = .snan ∨ b = .snan
  · rw [if_pos h, if_pos (hcond.mp h)]
  · rw [if_neg h, if_neg (hcond.not.mp h)]
    cases ha : a.rank with
    | none =>
      cases b.rank with
      | none => rfl
      | some y => simp
    | some x =>
      cases b.rank with
      | none => simp
      | some y => simp [eq_comm]

theorem rank_snan {a b : Decimal} (h : a = .snan ∨ b = .snan) : a.rank = none ∨ b.rank = none := by
  rcases h with rfl | rfl
  · exact .inl rfl
  · exact .inr rfl

/-- Equal decimals have one place in the order. -/
theorem eq_eq_true_iff {a b : Decimal} :
    a.eq b = .ok true ↔ ∃ r, a.rank = some r ∧ b.rank = some r := by
  unfold eq
  split_ifs with h
  · refine iff_of_false (by simp) ?_
    rintro ⟨r, ha, hb⟩
    rcases rank_snan h with hnone | hnone
    · rw [ha] at hnone
      cases hnone
    · rw [hb] at hnone
      cases hnone
  · cases a.rank with
    | none => simp
    | some x => simp [eq_comm]

/-- Only signaling `NaN`s raise. -/
theorem exists_eq_iff {a b : Decimal} : (∃ x, a.eq b = .ok x) ↔ ¬(a = .snan ∨ b = .snan) := by
  unfold eq
  split_ifs with h
  · simp [h]
  · simp [h]

/-- An ordering raises on every `NaN`. -/
theorem exists_le_iff {a b : Decimal} : (∃ x, a.le b = .ok x) ↔ ¬(a.IsNan ∨ b.IsNan) := by
  unfold le IsNan
  cases a.rank with
  | none => simp
  | some x =>
    cases b.rank with
    | none => simp
    | some y => simp

theorem exists_lt_iff {a b : Decimal} : (∃ x, a.lt b = .ok x) ↔ ¬(a.IsNan ∨ b.IsNan) := by
  unfold lt IsNan
  cases a.rank with
  | none => simp
  | some x =>
    cases b.rank with
    | none => simp
    | some y => simp

/-- **Equality is both orderings.** -/
theorem eq_iff_le_le {a b : Decimal} :
    a.eq b = .ok true ↔ b.le a = .ok true ∧ a.le b = .ok true := by
  rw [eq_eq_true_iff]
  unfold le
  cases a.rank with
  | none => simp
  | some x =>
    cases b.rank with
    | none => simp
    | some y =>
      simp only [Option.some.injEq, Except.ok.injEq, decide_eq_true_eq]
      constructor
      · rintro ⟨r, rfl, rfl⟩
        exact ⟨.inr ⟨rfl, le_rfl⟩, .inr ⟨rfl, le_rfl⟩⟩
      · rintro ⟨hyx, hxy⟩
        have hfst : x.1 = y.1 := by
          rcases hyx with hlt | ⟨heq, -⟩
          · rcases hxy with hlt' | ⟨heq, -⟩
            · omega
            · exact heq
          · exact heq.symm
        have hsnd : x.2 = y.2 := by
          apply le_antisymm
          · exact (hxy.resolve_left (by omega)).2
          · exact (hyx.resolve_left (by omega)).2
        exact ⟨x, rfl, (Prod.ext hfst hsnd).symm⟩

end Py.Decimal

/-! ### Equality and membership -/

/-- `_normalize`, which never raises. -/
def normalOf (lib : Library) : Value → Normal
  | .str s =>
    match textNumber (lib.lowerText s) with
    | some d => .decimal d
    | none => .value (.str (strip (lib.lowerText s)))
  | v => .value v

theorem normalize_eq (lib : Library) (v : Value) : normalize lib v = .ok (normalOf lib v) := by
  cases v with
  | str s =>
    rw [normalize, normalOf]
    split_ifs with haddress
    · have hnone : textNumber (lib.lowerText s) = none := by
        rw [← textNumber_strip]
        exact textNumber_of_isEthAddress haddress
      rw [hnone]
    · rw [toDecimal_str, textNumber_strip]
      cases textNumber (lib.lowerText s) with
      | none => rfl
      | some d => rfl
  | _ => rfl

theorem evaluateOp_eq_normalOf (lib : Library) (v t : Value) :
    evaluateOp lib v "eq" t = (normalOf lib v).eqv (normalOf lib t) := by
  show (normalize lib v >>= fun a => normalize lib t >>= fun b => a.eqv b) = _
  rw [normalize_eq, normalize_eq]
  rfl

theorem mapM_normalize (lib : Library) (ts : List Value) :
    ts.mapM (normalize lib) = .ok (ts.map (normalOf lib)) := by
  induction ts with
  | nil => rfl
  | cons t ts ih =>
    rw [List.mapM_cons, normalize_eq, ih]
    rfl

theorem evaluateOp_in (lib : Library) (v : Value) (ts : List Value) :
    evaluateOp lib v "in" (.list ts) = (normalOf lib v).isIn (ts.map (normalOf lib)) := by
  show (normalize lib v >>= fun a => ts.mapM (normalize lib) >>= fun bs => a.isIn bs) = _
  rw [normalize_eq, mapM_normalize]
  rfl

/-- `not_in` is the complement of `in`. -/
theorem evaluateOp_not_in (lib : Library) (v : Value) (ts : List Value) :
    evaluateOp lib v "not_in" (.list ts) = (evaluateOp lib v "in" (.list ts)).map not := by
  show (normalize lib v >>= fun a => ts.mapM (normalize lib) >>= fun bs =>
      a.isIn bs >>= fun b => pure !b) =
    (normalize lib v >>= fun a => ts.mapM (normalize lib) >>= fun bs => a.isIn bs).map not
  cases normalize lib v with
  | error e => rfl
  | ok a =>
    cases ts.mapM (normalize lib) with
    | error e => rfl
    | ok bs => rfl

/-- `neq` is the complement of `eq`. -/
theorem evaluateOp_neq (lib : Library) (v t : Value) :
    evaluateOp lib v "neq" t = (evaluateOp lib v "eq" t).map not := by
  show (normalize lib v >>= fun a => normalize lib t >>= fun b => a.eqv b >>= fun x => pure !x) =
    (normalize lib v >>= fun a => normalize lib t >>= fun b => a.eqv b).map not
  cases normalize lib v with
  | error e => rfl
  | ok a =>
    cases normalize lib t with
    | error e => rfl
    | ok b => rfl

/-! ### Ordering -/

/-- What `_compare_numeric` does with two numbers. -/
def compareDecimals (op : String) (a b : Decimal) : Except PyError Bool :=
  if op = "gt" then b.lt a
  else if op = "gte" then b.le a
  else if op = "lt" then a.lt b
  else if op = "lte" then a.le b
  else .ok false

/-- The names of the ordering operators. -/
def IsOrdering (op : String) : Prop := op = "gt" ∨ op = "gte" ∨ op = "lt" ∨ op = "lte"

instance (op : String) : Decidable (IsOrdering op) :=
  inferInstanceAs (Decidable (op = "gt" ∨ op = "gte" ∨ op = "lt" ∨ op = "lte"))

theorem exists_compareDecimals_iff {op : String} (hop : IsOrdering op) {a b : Decimal} :
    (∃ x, compareDecimals op a b = .ok x) ↔ ¬(a.IsNan ∨ b.IsNan) := by
  rcases hop with rfl | rfl | rfl | rfl
  · rw [or_comm]
    exact Decimal.exists_lt_iff
  · rw [or_comm]
    exact Decimal.exists_le_iff
  · exact Decimal.exists_lt_iff
  · exact Decimal.exists_le_iff

theorem evaluateOp_ordering (lib : Library) (v t : Value) {op : String} (hop : IsOrdering op) :
    evaluateOp lib v op t = compareNumeric lib v op t := by
  have hne : op ≠ "eq" ∧ op ≠ "neq" := by
    rcases hop with rfl | rfl | rfl | rfl
    all_goals decide
  unfold evaluateOp
  rw [if_neg hne.1, if_neg hne.2]
  exact if_pos hop

/-- An ordering operator holds of two numbers that are so ordered. -/
theorem evaluateOp_ordering_iff (lib : Library) {v t : Value} {op : String} (hop : IsOrdering op) :
    evaluateOp lib v op t = .ok true ↔ ∃ a b, toDecimal lib v = .ok (some a) ∧
      toDecimal lib t = .ok (some b) ∧ compareDecimals op a b = .ok true := by
  rw [evaluateOp_ordering lib v t hop, compareNumeric]
  cases toDecimal lib v with
  | error e => exact iff_of_false (fun h => by cases h) (by simp)
  | ok a? =>
    cases toDecimal lib t with
    | error e => exact iff_of_false (fun h => by cases h) (by simp)
    | ok b? =>
      cases a? with
      | none => exact iff_of_false (fun h => by cases h) (by simp)
      | some a =>
        cases b? with
        | none => exact iff_of_false (fun h => by cases h) (by simp)
        | some b =>
          show compareDecimals op a b = .ok true ↔ _
          simp

/-- Of three readable numbers, the second is between the others. -/
def betweenDecimals (a lo hi : Decimal) : Except PyError Bool := do
  if ← lo.le a then a.le hi else return false

theorem evaluateOp_between (lib : Library) (v lo hi : Value) :
    evaluateOp lib v "between" (.list [lo, hi]) = do
      match ← toDecimal lib v, ← toDecimal lib lo, ← toDecimal lib hi with
      | some a, some lo, some hi => betweenDecimals a lo hi
      | _, _, _ => return false := rfl

theorem betweenDecimals_eq_true_iff {a lo hi : Decimal} :
    betweenDecimals a lo hi = .ok true ↔ lo.le a = .ok true ∧ a.le hi = .ok true := by
  unfold betweenDecimals
  cases lo.le a with
  | error e => exact iff_of_false (fun h => by cases h) (fun h => by cases h.1)
  | ok b =>
    cases b with
    | true => exact ⟨fun h => ⟨rfl, h⟩, And.right⟩
    | false => exact iff_of_false (fun h => by cases h) (fun h => by cases h.1)

/-- The chained comparison raises on a `NaN` that it reaches. -/
theorem exists_betweenDecimals_iff {a lo hi : Decimal} :
    (∃ x, betweenDecimals a lo hi = .ok x) ↔
      ¬(a.IsNan ∨ lo.IsNan ∨ hi.IsNan ∧ lo.le a = .ok true) := by
  by_cases h : lo.IsNan ∨ a.IsNan
  · have hraises : ¬∃ x, lo.le a = .ok x := fun hx => Decimal.exists_le_iff.mp hx h
    refine iff_of_false ?_ (not_not_intro ?_)
    · rintro ⟨x, hx⟩
      unfold betweenDecimals at hx
      cases hle : lo.le a with
      | error e =>
        rw [hle] at hx
        cases hx
      | ok b => exact hraises ⟨b, hle⟩
    · rw [or_comm] at h
      exact h.imp_right .inl
  · obtain ⟨b, hb⟩ := Decimal.exists_le_iff.mpr h
    obtain ⟨hlo, ha⟩ := not_or.mp h
    unfold betweenDecimals
    rw [hb]
    cases b with
    | true =>
      show (∃ x, a.le hi = .ok x) ↔ _
      rw [Decimal.exists_le_iff]
      simp [ha, hlo]
    | false =>
      refine iff_of_true ⟨false, rfl⟩ ?_
      simp [ha, hlo]

/-- **`between` is both orderings.** -/
theorem between_iff (lib : Library) {v lo hi : Value} :
    evaluateOp lib v "between" (.list [lo, hi]) = .ok true ↔
      evaluateOp lib v "gte" lo = .ok true ∧ evaluateOp lib v "lte" hi = .ok true := by
  have hgte (a l : Decimal) : compareDecimals "gte" a l = l.le a := rfl
  have hlte (a h : Decimal) : compareDecimals "lte" a h = a.le h := rfl
  rw [evaluateOp_ordering_iff lib (.inr (.inl rfl)),
    evaluateOp_ordering_iff lib (.inr (.inr (.inr rfl))), evaluateOp_between]
  cases toDecimal lib v with
  | error e => exact iff_of_false (fun h => by cases h) (by simp)
  | ok a? =>
    cases toDecimal lib lo with
    | error e => exact iff_of_false (fun h => by cases h) (by simp)
    | ok l? =>
      cases toDecimal lib hi with
      | error e => exact iff_of_false (fun h => by cases h) (by simp)
      | ok h? =>
        cases a? with
        | none => exact iff_of_false (fun h => by cases h) (by simp)
        | some a =>
          cases l? with
          | none => exact iff_of_false (fun h => by cases h) (by simp)
          | some l =>
            cases h? with
            | none => exact iff_of_false (fun h => by cases h) (by simp)
            | some h =>
              show betweenDecimals a l h = .ok true ↔ _
              simp [betweenDecimals_eq_true_iff, hgte, hlte]

/-! ### Texts and other operators -/

/-- The values that `str` does not write. -/
def Unprintable (v : Value) : Prop := v.printable = false

theorem strOf_of_printable (lib : Library) {v : Value} (h : ¬Unprintable v) :
    lib.strOf v = .ok (lib.str v) := by
  rw [Library.strOf, if_pos (Bool.eq_true_of_not_eq_false h)]

theorem strOf_of_unprintable (lib : Library) {v : Value} (h : Unprintable v) :
    lib.strOf v = .error .valueError := by
  rw [Library.strOf, if_neg]
  rw [h]
  exact Bool.false_ne_true

/-- What `contains` and `regex` do with the texts of their two sides. -/
theorem exists_strOf_bind_iff (lib : Library) {v t : Value}
    (f : String → String → Except PyError Bool) :
    (∃ b, (lib.strOf t >>= fun x => lib.strOf v >>= fun y => f x y) = .ok b) ↔
      ¬Unprintable v ∧ ¬Unprintable t ∧ ∃ b, f (lib.str t) (lib.str v) = .ok b := by
  by_cases ht : Unprintable t
  · rw [strOf_of_unprintable lib ht]
    refine iff_of_false ?_ fun h => h.2.1 ht
    rintro ⟨b, hb⟩
    cases hb
  · rw [strOf_of_printable lib ht]
    by_cases hv : Unprintable v
    · rw [strOf_of_unprintable lib hv]
      refine iff_of_false ?_ fun h => h.1 hv
      rintro ⟨b, hb⟩
      cases hb
    · rw [strOf_of_printable lib hv]
      exact ⟨fun h => ⟨hv, ht, h⟩, fun h => h.2.2⟩

theorem exists_map_not_iff {x : Except PyError Bool} :
    (∃ b, x.map not = .ok b) ↔ ∃ b, x = .ok b := by
  cases x with
  | error e => exact iff_of_false (fun ⟨_, h⟩ => by cases h) (fun ⟨_, h⟩ => by cases h)
  | ok b => exact iff_of_true ⟨!b, rfl⟩ ⟨b, rfl⟩

theorem exists_evaluateOp_contains_iff (lib : Library) (v t : Value) :
    (∃ b, evaluateOp lib v "contains" t = .ok b) ↔ ¬(Unprintable v ∨ Unprintable t) := by
  have h := exists_strOf_bind_iff lib (v := v) (t := t) fun needle text =>
    .ok (containsChars (lib.lowerText needle).toList (lib.lowerText text).toList)
  refine h.trans ?_
  simp

theorem exists_evaluateOp_regex_iff (lib : Library) (v t : Value) :
    (∃ b, evaluateOp lib v "regex" t = .ok b) ↔ ¬(Unprintable v ∨ Unprintable t ∨
      ∃ e, lib.reSearch (lib.str t) (lib.str v) = .error (.other e)) := by
  refine (exists_strOf_bind_iff lib _).trans ?_
  cases lib.reSearch (lib.str t) (lib.str v) with
  | ok found => simp [pure, Except.pure]
  | error e =>
    cases e with
    | reError => simp [pure, Except.pure]
    | other e => simp

/-- An operator that is none of the listed ones returns. -/
theorem exists_evaluateOp_other (lib : Library) (v t : Value) {op : String}
    (heq : ¬(op = "eq" ∨ op = "neq")) (hordering : ¬IsOrdering op)
    (hin : ¬(op = "in" ∨ op = "not_in")) (hbetween : op ≠ "between") (hcontains : op ≠ "contains")
    (hregex : op ≠ "regex") : ∃ b, evaluateOp lib v op t = .ok b := by
  obtain ⟨hne, hneq⟩ := not_or.mp heq
  obtain ⟨hnin, hnotin⟩ := not_or.mp hin
  have hnames : ¬(op = "gt" ∨ op = "gte" ∨ op = "lt" ∨ op = "lte") := hordering
  unfold evaluateOp
  rw [if_neg hne, if_neg hneq, if_neg hnames, if_neg hnin, if_neg hnotin, if_neg hbetween,
    if_neg hcontains, if_neg hregex]
  split_ifs
  · -- every exception of `jmespath` is caught
    dsimp only
    split
    · exact ⟨_, rfl⟩
    · exact ⟨false, rfl⟩
  · exact ⟨false, rfl⟩

/-! ### Which operators raise -/

/-- The number that equality sees in a value, which may be of any type. -/
def valueNumber (lib : Library) : Value → Option Decimal
  | .str s => textNumber (lib.lowerText s)
  | v => v.number?.map .finite

/-- An equality of two values meets a signaling `NaN`. -/
def SignalsAny (lib : Library) (v t : Value) : Prop :=
  ∃ a b, valueNumber lib v = some a ∧ valueNumber lib t = some b ∧ (a = .snan ∨ b = .snan)

/-- `_normalize(v) == _normalize(t)`. -/
def SameNormal (lib : Library) (v t : Value) : Prop :=
  (normalOf lib v).eqv (normalOf lib t) = .ok true

/-- `_to_decimal(v)` raises. -/
def ToDecimalRaises (lib : Library) (v : Value) : Prop := ∃ e, toDecimal lib v = .error e

/-- An ordering of two values raises: one is refused, or both are numbers and one a `NaN`. -/
def UnorderedAny (lib : Library) (v t : Value) : Prop :=
  ToDecimalRaises lib v ∨ ToDecimalRaises lib t ∨ ∃ a b, toDecimal lib v = .ok (some a) ∧
    toDecimal lib t = .ok (some b) ∧ (a.IsNan ∨ b.IsNan)

/-- What `between` raises on. -/
def UnorderedBetweenAny (lib : Library) (v lo hi : Value) : Prop :=
  ToDecimalRaises lib v ∨ ToDecimalRaises lib lo ∨ ToDecimalRaises lib hi ∨
    ∃ a l h, toDecimal lib v = .ok (some a) ∧ toDecimal lib lo = .ok (some l) ∧
      toDecimal lib hi = .ok (some h) ∧ (a.IsNan ∨ l.IsNan ∨ h.IsNan ∧ l.le a = .ok true)

/-- The calls of `_evaluate_op` that raise, on any values. -/
def RaisesAny (lib : Library) (v : Value) (op : String) (t : Value) : Prop :=
  if op = "eq" ∨ op = "neq" then SignalsAny lib v t
  else if IsOrdering op then UnorderedAny lib v t
  else if op = "in" ∨ op = "not_in" then
    ∃ ts, t = .list ts ∧ Search.Reaches (SignalsAny lib v) (SameNormal lib v) ts
  else if op = "between" then ∃ lo hi, t = .list [lo, hi] ∧ UnorderedBetweenAny lib v lo hi
  else if op = "contains" then Unprintable v ∨ Unprintable t
  else if op = "regex" then
    Unprintable v ∨ Unprintable t ∨ ∃ e, lib.reSearch (lib.str t) (lib.str v) = .error (.other e)
  else False

/-- The number of a normalized value. -/
def Normal.number? : Normal → Option Decimal
  | .decimal d => some d
  | .value v => v.number?.map .finite

theorem number?_normalOf (lib : Library) (v : Value) :
    (normalOf lib v).number? = valueNumber lib v := by
  cases v with
  | str s =>
    rw [normalOf, valueNumber]
    cases textNumber (lib.lowerText s) with
    | none => rfl
    | some d => rfl
  | _ => rfl

/-- Equality raises where both sides are numbers and one is a signaling `NaN`. -/
theorem exists_eqv_iff {a b : Normal} :
    (∃ x, a.eqv b = .ok x) ↔
      ¬∃ x y, a.number? = some x ∧ b.number? = some y ∧ (x = .snan ∨ y = .snan) := by
  cases a with
  | decimal a =>
    cases b with
    | decimal b =>
      refine Decimal.exists_eq_iff.trans ?_
      simp [Normal.number?]
    | value b =>
      rw [Normal.eqv, Normal.number?, Normal.number?]
      cases b.number? with
      | none => simp
      | some q =>
        refine Decimal.exists_eq_iff.trans ?_
        simp
  | value a =>
    cases b with
    | decimal b =>
      rw [Normal.eqv, Normal.number?, Normal.number?]
      cases a.number? with
      | none => simp
      | some q =>
        refine Decimal.exists_eq_iff.trans ?_
        simp
    | value b =>
      refine iff_of_true ⟨_, rfl⟩ ?_
      rintro ⟨x, y, hx, hy, hsnan⟩
      obtain ⟨p, -, rfl⟩ := Option.map_eq_some_iff.mp hx
      obtain ⟨q, -, rfl⟩ := Option.map_eq_some_iff.mp hy
      simp at hsnan

theorem exists_eqv_normalOf_iff (lib : Library) {v t : Value} :
    (∃ x, (normalOf lib v).eqv (normalOf lib t) = .ok x) ↔ ¬SignalsAny lib v t := by
  rw [exists_eqv_iff, number?_normalOf, number?_normalOf, SignalsAny]

/-- A membership test raises where it meets a signaling `NaN` before an equal element. -/
theorem exists_isIn_any_iff (lib : Library) (v : Value) (ts : List Value) :
    (∃ b, (normalOf lib v).isIn (ts.map (normalOf lib)) = .ok b) ↔
      ¬Search.Reaches (SignalsAny lib v) (SameNormal lib v) ts := by
  induction ts with
  | nil => exact iff_of_true ⟨false, rfl⟩ Search.not_reaches_nil
  | cons t ts ih =>
    have hcons : (normalOf lib v).isIn ((t :: ts).map (normalOf lib)) =
        ((normalOf lib v).eqv (normalOf lib t) >>= fun found =>
          if found then .ok true else (normalOf lib v).isIn (ts.map (normalOf lib))) := rfl
    rw [hcons, Search.reaches_cons_iff]
    by_cases hsignals : SignalsAny lib v t
    · refine iff_of_false ?_ (not_not_intro (.inl hsignals))
      rintro ⟨b, hb⟩
      obtain ⟨found, hfound, -⟩ := bind_eq_ok_iff.mp hb
      exact (exists_eqv_normalOf_iff lib).mp ⟨found, hfound⟩ hsignals
    · obtain ⟨found, hfound⟩ := (exists_eqv_normalOf_iff lib).mpr hsignals
      rw [hfound]
      cases found with
      | true =>
        have hsame : SameNormal lib v t := hfound
        refine iff_of_true ⟨true, rfl⟩ ?_
        simp [hsignals, hsame]
      | false =>
        have hne : ¬SameNormal lib v t := by
          rw [SameNormal, hfound]
          simp
        simp only [hsignals, hne, not_false_iff, true_and, false_or]
        exact ih

theorem toDecimal_cases (lib : Library) (v : Value) :
    ToDecimalRaises lib v ∨ ∃ d, toDecimal lib v = .ok d := by
  cases h : toDecimal lib v with
  | error e => exact .inl ⟨e, h⟩
  | ok d => exact .inr ⟨d, rfl⟩

theorem not_toDecimalRaises_of_ok {lib : Library} {v : Value} {d : Option Decimal}
    (h : toDecimal lib v = .ok d) : ¬ToDecimalRaises lib v := by
  rintro ⟨e, he⟩
  rw [h] at he
  cases he

theorem exists_compareNumeric_any_iff (lib : Library) {v t : Value} {op : String}
    (hop : IsOrdering op) : (∃ x, compareNumeric lib v op t = .ok x) ↔ ¬UnorderedAny lib v t := by
  unfold UnorderedAny
  rcases toDecimal_cases lib v with hv | ⟨a?, ha⟩
  · obtain ⟨e, he⟩ := hv
    rw [compareNumeric, he]
    exact iff_of_false (by rintro ⟨x, hx⟩; cases hx) (not_not_intro (.inl ⟨e, he⟩))
  · rcases toDecimal_cases lib t with ht | ⟨b?, hb⟩
    · obtain ⟨e, he⟩ := ht
      rw [compareNumeric, ha, he]
      exact iff_of_false (by rintro ⟨x, hx⟩; cases hx) (not_not_intro (.inr (.inl ⟨e, he⟩)))
    · have hv := not_toDecimalRaises_of_ok ha
      have ht := not_toDecimalRaises_of_ok hb
      rw [compareNumeric, ha, hb]
      cases a? with
      | none => exact iff_of_true ⟨false, rfl⟩ (by simp [hv, ht])
      | some a =>
        cases b? with
        | none => exact iff_of_true ⟨false, rfl⟩ (by simp [hv, ht])
        | some b =>
          have hcompare := @exists_compareDecimals_iff op hop a b
          refine hcompare.trans ?_
          simp [hv, ht]

theorem exists_between_any_iff (lib : Library) {v lo hi : Value} :
    (∃ x, evaluateOp lib v "between" (.list [lo, hi]) = .ok x) ↔
      ¬UnorderedBetweenAny lib v lo hi := by
  rw [evaluateOp_between]
  unfold UnorderedBetweenAny
  rcases toDecimal_cases lib v with hv | ⟨a?, ha⟩
  · obtain ⟨e, he⟩ := hv
    rw [he]
    exact iff_of_false (by rintro ⟨x, hx⟩; cases hx) (not_not_intro (.inl ⟨e, he⟩))
  · rcases toDecimal_cases lib lo with hlo | ⟨l?, hl⟩
    · obtain ⟨e, he⟩ := hlo
      rw [ha, he]
      exact iff_of_false (by rintro ⟨x, hx⟩; cases hx) (not_not_intro (.inr (.inl ⟨e, he⟩)))
    · rcases toDecimal_cases lib hi with hhi | ⟨h?, hh⟩
      · obtain ⟨e, he⟩ := hhi
        rw [ha, hl, he]
        exact iff_of_false (by rintro ⟨x, hx⟩; cases hx)
          (not_not_intro (.inr (.inr (.inl ⟨e, he⟩))))
      · have hv := not_toDecimalRaises_of_ok ha
        have hlo := not_toDecimalRaises_of_ok hl
        have hhi := not_toDecimalRaises_of_ok hh
        rw [ha, hl, hh]
        cases a? with
        | none => exact iff_of_true ⟨false, rfl⟩ (by simp [hv, hlo, hhi])
        | some a =>
          cases l? with
          | none => exact iff_of_true ⟨false, rfl⟩ (by simp [hv, hlo, hhi])
          | some l =>
            cases h? with
            | none => exact iff_of_true ⟨false, rfl⟩ (by simp [hv, hlo, hhi])
            | some h =>
              have hbetween := @exists_betweenDecimals_iff a l h
              refine hbetween.trans ?_
              simp [hv, hlo, hhi]

theorem exists_evaluateOp_eq_any_iff (lib : Library) (v t : Value) :
    (∃ b, evaluateOp lib v "eq" t = .ok b) ↔ ¬SignalsAny lib v t := by
  rw [evaluateOp_eq_normalOf]
  exact exists_eqv_normalOf_iff lib

theorem exists_evaluateOp_in_any_iff (lib : Library) (v t : Value) :
    (∃ b, evaluateOp lib v "in" t = .ok b) ↔
      ¬∃ ts, t = .list ts ∧ Search.Reaches (SignalsAny lib v) (SameNormal lib v) ts := by
  cases t with
  | list ts =>
    rw [evaluateOp_in, exists_isIn_any_iff]
    simp
  | _ => exact iff_of_true ⟨false, rfl⟩ (by simp)

theorem exists_evaluateOp_not_in_any_iff (lib : Library) (v t : Value) :
    (∃ b, evaluateOp lib v "not_in" t = .ok b) ↔
      ¬∃ ts, t = .list ts ∧ Search.Reaches (SignalsAny lib v) (SameNormal lib v) ts := by
  cases t with
  | list ts =>
    rw [evaluateOp_not_in, exists_map_not_iff]
    exact exists_evaluateOp_in_any_iff lib v (.list ts)
  | _ => exact iff_of_true ⟨true, rfl⟩ (by simp)

theorem exists_evaluateOp_between_any_iff (lib : Library) (v t : Value) :
    (∃ b, evaluateOp lib v "between" t = .ok b) ↔
      ¬∃ lo hi, t = .list [lo, hi] ∧ UnorderedBetweenAny lib v lo hi := by
  cases t with
  | list ts =>
    rcases ts with _ | ⟨lo, _ | ⟨hi, _ | ⟨x, ts⟩⟩⟩
    · exact iff_of_true ⟨false, rfl⟩ (by simp)
    · exact iff_of_true ⟨false, rfl⟩ (by simp)
    · rw [exists_between_any_iff]
      simp
    · exact iff_of_true ⟨false, rfl⟩ (by simp)
  | _ => exact iff_of_true ⟨false, rfl⟩ (by simp)

/-- **The calls that return**, on any values. -/
theorem returns_iff (lib : Library) (v : Value) (op : String) (t : Value) :
    (∃ b, evaluateOp lib v op t = .ok b) ↔ ¬RaisesAny lib v op t := by
  unfold RaisesAny
  split_ifs with heq hordering hin hbetween hcontains hregex
  · rcases heq with rfl | rfl
    · exact exists_evaluateOp_eq_any_iff lib v t
    · rw [evaluateOp_neq, exists_map_not_iff]
      exact exists_evaluateOp_eq_any_iff lib v t
  · rw [evaluateOp_ordering lib v t hordering]
    exact exists_compareNumeric_any_iff lib hordering
  · rcases hin with rfl | rfl
    · exact exists_evaluateOp_in_any_iff lib v t
    · exact exists_evaluateOp_not_in_any_iff lib v t
  · subst hbetween
    exact exists_evaluateOp_between_any_iff lib v t
  · subst hcontains
    exact exists_evaluateOp_contains_iff lib v t
  · subst hregex
    exact exists_evaluateOp_regex_iff lib v t
  · rw [not_false_iff, iff_true]
    exact exists_evaluateOp_other lib v t heq hordering hin hbetween hcontains hregex

end TripWire
