import TripWire.Ingestion.FilterOperators

/-!
# The laws of the filter operators

The operators of `_evaluate_op` on the values that events and rules are made of: booleans, integers
and texts.  Equality sees the number of a value through `_normalize` (`equalityNumber`), the
ordering through `_to_decimal` (`orderNumber`).  Where both see one it is the same, since neither
cares for the case of letters; otherwise they differ: a boolean is a number for equality and an
exception for the ordering.

`evaluateOp_coherent` says which laws the operators keep, and for the two they do not keep, exactly
where: `Raises` collects the calls that raise (`raisesAny_iff`), and a text that `Decimal` reads as
a `NaN` is not equal to itself.
-/

namespace TripWire

open Py

/-- Booleans, integers and texts. -/
def IsScalar : Value → Prop
  | .bool _ | .int _ | .str _ => True
  | _ => False

/-- The number that equality sees in a value. -/
def equalityNumber (lib : Library) : Value → Option Decimal
  | .bool b => some (.finite (if b then 1 else 0))
  | .int n => some (.finite n)
  | .str s => textNumber (lib.lowerText s)
  | _ => none

/-- The number that the ordering sees in a value. -/
def orderNumber : Value → Option Decimal
  | .int n => some (.finite n)
  | .str s => textNumber s
  | _ => none

/-- The text that equality compares where it sees no number. -/
def equalityText (lib : Library) : Value → String
  | .str s => strip (lib.lowerText s)
  | _ => ""

/-- `s.lower()` works character by character on ASCII, spaces and digits. -/
def LowersPlain (lib : Library) : Prop :=
  ∀ s : String, (∀ c ∈ s.toList, IsPlain c) → lib.lowerText s = lower s

/-! ### Numbers -/

theorem isHexDigit_of_toLower {c : Char} (h : isHexDigit c.toLower = true) :
    isHexDigit c = true := by
  rcases toLower_cases c with hsame | ⟨hlo, hhi, hlower⟩
  · rwa [hsame] at h
  · unfold isHexDigit at *
    simp only [Bool.or_eq_true, Bool.and_eq_true, decide_eq_true_eq, Char.le_def,
      UInt32.le_iff_toNat_le, Char.toNat_val, hlower] at h ⊢
    simp at h ⊢
    omega

theorem hasHexMark_lower {v : String} (h : hasHexMark v = true) : hasHexMark (lower v) = true := by
  obtain ⟨rest, hrest⟩ := hasHexMark_iff.mp h
  refine hasHexMark_iff.mpr ⟨rest.map Char.toLower, ?_⟩
  rw [lower, String.toList_ofList, hrest]
  rfl

/-- Of the texts with a mark, those in lower case are addresses that are addresses themselves. -/
theorem isEthAddress_of_mark {v : String} (h : hasHexMark v = true) :
    isEthAddress (lower v) = isEthAddress v := by
  obtain ⟨rest, hrest⟩ := hasHexMark_iff.mp h
  rw [Bool.eq_iff_iff]
  refine ⟨?_, isEthAddress_lower⟩
  intro haddress
  obtain ⟨hs, hchars, hlength, hdigits⟩ := isEthAddress_iff.mp haddress
  rw [lower, String.toList_ofList, hrest] at hchars
  have hhs : rest.map Char.toLower = hs := (List.cons.inj (List.cons.inj hchars).2).2
  refine isEthAddress_iff.mpr ⟨rest, hrest, ?_, ?_⟩
  · rw [← hlength, ← hhs, List.length_map]
  · intro c hc
    apply isHexDigit_of_toLower
    apply hdigits
    rw [← hhs]
    exact List.mem_map_of_mem hc

/-- **Numbers do not depend on case**, except that only a small `x` marks a hexadecimal one. -/
theorem textNumber_lower {s : String} {d : Decimal} (h : textNumber s = some d) :
    textNumber (lower s) = some d := by
  obtain ⟨v, hv⟩ : ∃ v, v = strip s := ⟨_, rfl⟩
  have hstrip : strip v = v := by rw [hv, strip_strip]
  simp only [textNumber, ← hv] at h
  simp only [textNumber, strip_lower, ← hv, lower_eq_empty_iff]
  split_ifs at h ⊢ with hempty hlower hhex hhex
  · -- a hexadecimal literal, also in lower case
    rw [int16_lower]
    exact h
  · -- no decimal starts like a hexadecimal literal
    rw [Bool.and_eq_true] at hlower
    obtain ⟨rest, hrest⟩ := hasHexMark_iff.mp hlower.1
    rw [lower, String.toList_ofList] at hrest
    obtain ⟨c, cs, hchars, hc, hcs⟩ := List.map_eq_cons_iff.mp hrest
    obtain ⟨x, rest', rfl, hx, -⟩ := List.map_eq_cons_iff.mp hcs
    rw [toLower_eq_iff (by decide)] at hc
    subst hc
    have hmark : x = 'x' ∨ x = 'X' := (toLower_eq_letter_iff (by decide)).mp (.inl hx)
    rw [ofString_of_mark hchars hmark hstrip] at h
    cases h
  · rw [Bool.and_eq_true, Bool.not_eq_true'] at hhex
    exact absurd (by rw [hasHexMark_lower hhex.1, isEthAddress_of_mark hhex.1, hhex.2]; rfl) hlower
  · rw [Decimal.ofString_lower]
    exact h

theorem isPlain_of_textNumber {s : String} {d : Decimal} (h : textNumber s = some d) :
    ∀ c ∈ s.toList, IsPlain c := by
  have hplain : ∀ c ∈ (strip s).toList, IsPlain c := by
    simp only [textNumber] at h
    split_ifs at h with hempty hhex
    · cases hnumber : int16 (strip s) with
      | error e =>
        rw [hnumber] at h
        cases h
      | ok n => exact isPlain_of_int16 hnumber
    · exact Decimal.isPlain_of_ofString h
  rw [strip, String.toList_ofList] at hplain
  exact isPlain_of_stripChars hplain

/-! ### Equality -/

/-- Equality of scalars: by number where both have one, by text where neither has. -/
def equalScalars (lib : Library) (v t : Value) : Except PyError Bool :=
  match equalityNumber lib v, equalityNumber lib t with
  | some a, some b => a.eq b
  | none, none => .ok (decide (equalityText lib v = equalityText lib t))
  | _, _ => .ok false

theorem Py.Decimal.eq_finite (p q : ℚ) :
    (Decimal.finite p).eq (.finite q) = .ok (decide (p = q)) := by
  simp [Decimal.eq, Decimal.rank]

/-- A scalar is a number to every kind of equality, or a text. -/
theorem scalar_cases (lib : Library) {v : Value} (h : IsScalar v) :
    (∃ q, equalityNumber lib v = some (.finite q) ∧ normalOf lib v = .value v ∧
      v.number? = some q ∧ (∀ w, v.eqv w = decide (w.number? = some q))) ∨ ∃ s, v = .str s := by
  cases v with
  | bool b => exact .inl ⟨_, rfl, rfl, rfl, fun _ => rfl⟩
  | int n => exact .inl ⟨_, rfl, rfl, rfl, fun _ => rfl⟩
  | str s => exact .inr ⟨s, rfl⟩
  | _ => cases h

theorem eqv_normalOf (lib : Library) {v t : Value} (hv : IsScalar v) (ht : IsScalar t) :
    (normalOf lib v).eqv (normalOf lib t) = equalScalars lib v t := by
  rcases scalar_cases lib hv with ⟨p, hp, hnormal, hnumber, heqv⟩ | ⟨s, rfl⟩
  · rcases scalar_cases lib ht with ⟨q, hq, hnormal', hnumber', -⟩ | ⟨s', rfl⟩
    · rw [hnormal, hnormal', equalScalars, hp, hq, Normal.eqv, heqv, hnumber']
      simp [Decimal.eq_finite, eq_comm]
    · rw [hnormal, equalScalars, hp, normalOf, equalityNumber]
      cases textNumber (lib.lowerText s') with
      | none => simp [Normal.eqv, heqv, Value.number?]
      | some d => simp [Normal.eqv, hnumber]
  · rcases scalar_cases lib ht with ⟨q, hq, hnormal', hnumber', -⟩ | ⟨s', rfl⟩
    · rw [hnormal', equalScalars, hq, normalOf, equalityNumber]
      cases textNumber (lib.lowerText s) with
      | none =>
        have hne : t ≠ .str (strip (lib.lowerText s)) := by
          rintro rfl
          cases hnumber'
        simp [Normal.eqv, Value.eqv, hne]
      | some d => simp [Normal.eqv, hnumber']
    · rw [equalScalars, normalOf, normalOf, equalityNumber, equalityNumber]
      cases textNumber (lib.lowerText s) with
      | none =>
        cases textNumber (lib.lowerText s') with
        | none =>
          refine congrArg Except.ok (decide_eq_decide.mpr ?_)
          rw [Value.str.injEq, eq_comm]
          rfl
        | some d => simp [Normal.eqv, Value.number?]
      | some d =>
        cases textNumber (lib.lowerText s') with
        | none => simp [Normal.eqv, Value.number?]
        | some d' => rfl

theorem evaluateOp_eq (lib : Library) {v t : Value} (hv : IsScalar v) (ht : IsScalar t) :
    evaluateOp lib v "eq" t = equalScalars lib v t := by
  rw [evaluateOp_eq_normalOf, eqv_normalOf lib hv ht]

/-- Two scalars are equal: one number, or one text. -/
def SameScalar (lib : Library) (v t : Value) : Prop :=
  (∃ a b r, equalityNumber lib v = some a ∧ equalityNumber lib t = some b ∧ a.rank = some r ∧
    b.rank = some r) ∨
  (equalityNumber lib v = none ∧ equalityNumber lib t = none ∧
    equalityText lib v = equalityText lib t)

/-- The comparison of two numbers meets a signaling `NaN`. -/
def Signals (lib : Library) (v t : Value) : Prop :=
  ∃ a b, equalityNumber lib v = some a ∧ equalityNumber lib t = some b ∧ (a = .snan ∨ b = .snan)

theorem equalScalars_eq_true_iff {lib : Library} {v t : Value} :
    equalScalars lib v t = .ok true ↔ SameScalar lib v t := by
  unfold equalScalars SameScalar
  cases equalityNumber lib v with
  | none =>
    cases equalityNumber lib t with
    | none => simp
    | some b => simp
  | some a =>
    cases equalityNumber lib t with
    | none => simp
    | some b => simp [Decimal.eq_eq_true_iff]

theorem equalScalars_symm (lib : Library) (v t : Value) :
    equalScalars lib v t = equalScalars lib t v := by
  unfold equalScalars
  cases equalityNumber lib v with
  | none =>
    cases equalityNumber lib t with
    | none => simp only [eq_comm]
    | some b => rfl
  | some a =>
    cases equalityNumber lib t with
    | none => rfl
    | some b => exact a.eq_symm b

theorem SameScalar.trans {lib : Library} {a b c : Value} (hab : SameScalar lib a b)
    (hbc : SameScalar lib b c) : SameScalar lib a c := by
  rcases hab with ⟨x, y, r, ha, hb, hx, hy⟩ | ⟨ha, hb, hab⟩
  · rcases hbc with ⟨y', z, r', hb', hc, hy', hz⟩ | ⟨hb', -, -⟩
    · rw [hb, Option.some.injEq] at hb'
      subst hb'
      rw [hy, Option.some.injEq] at hy'
      subst hy'
      exact .inl ⟨x, z, r, ha, hc, hx, hz⟩
    · rw [hb] at hb'
      cases hb'
  · rcases hbc with ⟨y', z, r', hb', -⟩ | ⟨-, hc, hbc⟩
    · rw [hb] at hb'
      cases hb'
    · exact .inr ⟨ha, hc, hab.trans hbc⟩

/-- A value is equal to itself unless it is a `NaN`. -/
theorem sameScalar_self_iff {lib : Library} {v : Value} :
    SameScalar lib v v ↔ ¬∃ d, equalityNumber lib v = some d ∧ d.IsNan := by
  unfold SameScalar Decimal.IsNan
  cases equalityNumber lib v with
  | none => simp
  | some d =>
    cases hd : d.rank with
    | none => simp [hd]
    | some r =>
      refine iff_of_true (.inl ⟨d, d, r, rfl, rfl, hd, hd⟩) ?_
      rintro ⟨d', hd', hnan⟩
      obtain rfl := Option.some.inj hd'
      rw [hd] at hnan
      cases hnan

/-! ### Ordering -/

/-- The values that `_to_decimal` raises on: `Decimal` reads no boolean, and `str` writes no integer
of more than 4300 digits. -/
def Unreadable : Value → Prop
  | .bool _ => True
  | .int n => 10 ^ maxStrDigits ≤ n.natAbs
  | _ => False

theorem decimalOfStr_eq {lib : Library} {v : Value} {s : String} (hprint : lib.strOf v = .ok s) :
    decimalOfStr lib v =
      match Decimal.ofString s with
      | some d => .ok (some d)
      | none => .error .invalidOperation := by
  rw [decimalOfStr, hprint]
  rfl

theorem toDecimal_of_readable (lib : Library) {v : Value} (hv : IsScalar v) (h : ¬Unreadable v) :
    toDecimal lib v = .ok (orderNumber v) := by
  cases v with
  | bool b => exact absurd trivial h
  | int n =>
    have hprint : lib.strOf (.int n) = .ok (toString n) := by
      rw [Library.strOf, Value.printable_int, if_pos (decide_eq_true (not_le.mp h))]
      rfl
    rw [toDecimal, decimalOfStr_eq hprint, Decimal.ofString_toString (not_le.mp h)]
    rfl
  | str s => exact toDecimal_str lib s
  | _ => cases hv

theorem toDecimal_of_unreadable (lib : Library) {v : Value} (h : Unreadable v) :
    ∃ e, toDecimal lib v = .error e := by
  cases v with
  | bool b =>
    have hword : Decimal.ofString "True" = none ∧ Decimal.ofString "False" = none := by
      decide +kernel
    refine ⟨.invalidOperation, ?_⟩
    cases b with
    | true =>
      have hprint : lib.strOf (.bool true) = .ok "True" := rfl
      rw [toDecimal, decimalOfStr_eq hprint, hword.1]
    | false =>
      have hprint : lib.strOf (.bool false) = .ok "False" := rfl
      rw [toDecimal, decimalOfStr_eq hprint, hword.2]
  | int n =>
    have hprint : lib.strOf (.int n) = .error .valueError := by
      rw [Library.strOf, Value.printable_int, if_neg (decide_eq_true_iff.not.mpr (not_lt.mpr h))]
    refine ⟨.valueError, ?_⟩
    rw [toDecimal, decimalOfStr, hprint]
    rfl
  | _ => cases h

/-- The values that are refused: a boolean, an integer that is not printed, and a float whose text
`Decimal` does not read. -/
theorem toDecimalRaises_iff (lib : Library) {v : Value} :
    ToDecimalRaises lib v ↔ Unreadable v ∨
      ∃ q, v = .float q ∧ Decimal.ofString (lib.reprOf (.float q)) = none := by
  by_cases h : Unreadable v
  · exact iff_of_true (toDecimal_of_unreadable lib h) (.inl h)
  · unfold ToDecimalRaises
    cases v with
    | bool b => exact absurd trivial h
    | int n =>
      rw [toDecimal_of_readable lib (v := .int n) trivial h]
      simp [h]
    | float q =>
      have hprint : lib.strOf (.float q) = .ok (lib.reprOf (.float q)) := rfl
      rw [toDecimal, decimalOfStr_eq hprint]
      cases hd : Decimal.ofString (lib.reprOf (.float q)) with
      | none => simp [hd]
      | some d => simp [h, hd]
    | str s =>
      rw [toDecimal_str]
      simp [h]
    | _ => exact iff_of_false (by rintro ⟨e, he⟩; cases he) (by simp [h])

theorem toDecimalRaises_iff_unreadable (lib : Library) {v : Value} (hv : IsScalar v) :
    ToDecimalRaises lib v ↔ Unreadable v := by
  rw [toDecimalRaises_iff, or_iff_left]
  rintro ⟨q, rfl, -⟩
  exact hv

/-- A number for the ordering is that number for equality. -/
theorem equalityNumber_of_toDecimal {lib : Library} (hlower : LowersPlain lib) {v : Value}
    {d : Decimal} (hv : IsScalar v) (h : toDecimal lib v = .ok (some d)) :
    equalityNumber lib v = some d := by
  have hreadable : ¬Unreadable v := by
    intro hunreadable
    obtain ⟨e, he⟩ := toDecimal_of_unreadable lib hunreadable
    rw [he] at h
    cases h
  rw [toDecimal_of_readable lib hv hreadable, Except.ok.injEq] at h
  cases v with
  | bool b => cases h
  | int n => exact h
  | str s =>
    have htext : textNumber s = some d := h
    rw [equalityNumber, hlower s (isPlain_of_textNumber htext)]
    exact textNumber_lower htext
  | _ => cases hv

/-- The ordering of two values raises: one is unreadable, or both are numbers and one a `NaN`. -/
def Unordered (v t : Value) : Prop :=
  Unreadable v ∨ Unreadable t ∨
    ∃ a b, orderNumber v = some a ∧ orderNumber t = some b ∧ (a.IsNan ∨ b.IsNan)

/-- What `between` raises on. -/
def UnorderedBetween (v lo hi : Value) : Prop :=
  Unreadable v ∨ Unreadable lo ∨ Unreadable hi ∨
    ∃ a l h, orderNumber v = some a ∧ orderNumber lo = some l ∧ orderNumber hi = some h ∧
      (a.IsNan ∨ l.IsNan ∨ h.IsNan ∧ l.le a = .ok true)

/-- **On what the ordering sees as numbers, equality is both orderings.** -/
theorem evaluateOp_eq_iff_gte_lte {lib : Library} (hlower : LowersPlain lib) {v t : Value}
    {a b : Decimal} (hv : IsScalar v) (ht : IsScalar t) (ha : toDecimal lib v = .ok (some a))
    (hb : toDecimal lib t = .ok (some b)) :
    evaluateOp lib v "eq" t = .ok true ↔
      evaluateOp lib v "gte" t = .ok true ∧ evaluateOp lib v "lte" t = .ok true := by
  have hnumbers : equalScalars lib v t = a.eq b := by
    rw [equalScalars, equalityNumber_of_toDecimal hlower hv ha,
      equalityNumber_of_toDecimal hlower ht hb]
  have hgte : evaluateOp lib v "gte" t = b.le a := by
    rw [evaluateOp_ordering lib v t (.inr (.inl rfl)), compareNumeric, ha, hb]
    rfl
  have hlte : evaluateOp lib v "lte" t = a.le b := by
    rw [evaluateOp_ordering lib v t (.inr (.inr (.inr rfl))), compareNumeric, ha, hb]
    rfl
  rw [evaluateOp_eq lib hv ht, hnumbers, hgte, hlte]
  exact Decimal.eq_iff_le_le

/-! ### Membership -/

/-- A search that stops at the first equal element meets a signaling `NaN` before one. -/
def SignalsIn (lib : Library) (v : Value) (ts : List Value) : Prop :=
  ∃ before x after, ts = before ++ x :: after ∧ Signals lib v x ∧
    ∀ y ∈ before, ¬SameScalar lib v y

/-! ### What an operator takes -/

/-- The targets of an operator: a scalar, and a list of scalars where the operator takes lists. -/
def IsTarget (op : String) : Value → Prop
  | .list ts => (op = "in" ∨ op = "not_in" ∨ op = "between") ∧ ∀ t ∈ ts, IsScalar t
  | t => IsScalar t

/-- The calls of `_evaluate_op` that raise. -/
def Raises (lib : Library) (v : Value) (op : String) (t : Value) : Prop :=
  if op = "eq" ∨ op = "neq" then Signals lib v t
  else if IsOrdering op then Unordered v t
  else if op = "in" ∨ op = "not_in" then ∃ ts, t = .list ts ∧ SignalsIn lib v ts
  else if op = "between" then ∃ lo hi, t = .list [lo, hi] ∧ UnorderedBetween v lo hi
  else if op = "contains" then Unprintable v ∨ Unprintable t
  else if op = "regex" then
    Unprintable v ∨ Unprintable t ∨ ∃ e, lib.reSearch (lib.str t) (lib.str v) = .error (.other e)
  else False

theorem isScalar_of_isTarget {op : String} {t : Value} (h : IsTarget op t)
    (hop : ¬(op = "in" ∨ op = "not_in" ∨ op = "between")) : IsScalar t := by
  cases t with
  | list ts => exact absurd h.1 hop
  | _ => exact h

/-! ### Which operators raise -/

theorem valueNumber_of_isScalar (lib : Library) {v : Value} (hv : IsScalar v) :
    valueNumber lib v = equalityNumber lib v := by
  cases v with
  | bool b => rfl
  | int n => rfl
  | str s => rfl
  | _ => cases hv

theorem signalsAny_iff (lib : Library) {v t : Value} (hv : IsScalar v) (ht : IsScalar t) :
    SignalsAny lib v t ↔ Signals lib v t := by
  rw [SignalsAny, valueNumber_of_isScalar lib hv, valueNumber_of_isScalar lib ht, Signals]

theorem sameNormal_iff (lib : Library) {v t : Value} (hv : IsScalar v) (ht : IsScalar t) :
    SameNormal lib v t ↔ SameScalar lib v t := by
  rw [SameNormal, eqv_normalOf lib hv ht, equalScalars_eq_true_iff]

theorem signalsIn_iff (lib : Library) {v : Value} {ts : List Value} (hv : IsScalar v)
    (hts : ∀ t ∈ ts, IsScalar t) :
    Search.Reaches (SignalsAny lib v) (SameNormal lib v) ts ↔ SignalsIn lib v ts :=
  Search.reaches_congr (fun t ht => signalsAny_iff lib hv (hts t ht))
    (fun t ht => sameNormal_iff lib hv (hts t ht))

theorem unorderedAny_iff (lib : Library) {v t : Value} (hv : IsScalar v) (ht : IsScalar t) :
    UnorderedAny lib v t ↔ Unordered v t := by
  rw [UnorderedAny, Unordered, toDecimalRaises_iff_unreadable lib hv,
    toDecimalRaises_iff_unreadable lib ht]
  by_cases h : Unreadable v ∨ Unreadable t
  · exact iff_of_true (h.imp_right .inl) (h.imp_right .inl)
  · obtain ⟨hv', ht'⟩ := not_or.mp h
    rw [toDecimal_of_readable lib hv hv', toDecimal_of_readable lib ht ht']
    simp only [Except.ok.injEq]

theorem unorderedBetweenAny_iff (lib : Library) {v lo hi : Value} (hv : IsScalar v)
    (hlo : IsScalar lo) (hhi : IsScalar hi) :
    UnorderedBetweenAny lib v lo hi ↔ UnorderedBetween v lo hi := by
  rw [UnorderedBetweenAny, UnorderedBetween, toDecimalRaises_iff_unreadable lib hv,
    toDecimalRaises_iff_unreadable lib hlo, toDecimalRaises_iff_unreadable lib hhi]
  by_cases h : Unreadable v ∨ Unreadable lo ∨ Unreadable hi
  · have hraises := h.imp_right (Or.imp_right (Or.inl (b := False)))
    exact iff_of_true (h.imp_right (Or.imp_right .inl)) (h.imp_right (Or.imp_right .inl))
  · obtain ⟨hv', hlo', hhi'⟩ : ¬Unreadable v ∧ ¬Unreadable lo ∧ ¬Unreadable hi := by
      simpa only [not_or] using h
    rw [toDecimal_of_readable lib hv hv', toDecimal_of_readable lib hlo hlo',
      toDecimal_of_readable lib hhi hhi']
    simp only [Except.ok.injEq]

/-- On scalars, the calls that raise are these. -/
theorem raisesAny_iff (lib : Library) {v t : Value} {op : String} (hv : IsScalar v)
    (ht : IsTarget op t) : RaisesAny lib v op t ↔ Raises lib v op t := by
  unfold RaisesAny Raises
  split_ifs with heq hordering hin hbetween
  · refine signalsAny_iff lib hv (isScalar_of_isTarget ht ?_)
    rcases heq with rfl | rfl
    all_goals decide
  · refine unorderedAny_iff lib hv (isScalar_of_isTarget ht ?_)
    rcases hordering with rfl | rfl | rfl | rfl
    all_goals decide
  · refine exists_congr fun ts => and_congr_right ?_
    rintro rfl
    exact signalsIn_iff lib hv ht.2
  · refine exists_congr fun lo => exists_congr fun hi => and_congr_right ?_
    rintro rfl
    exact unorderedBetweenAny_iff lib hv (ht.2 lo (by simp)) (ht.2 hi (by simp))
  · rfl
  · rfl
  · rfl

/-- **The calls that return.** -/
theorem exists_evaluateOp_iff (lib : Library) {v t : Value} {op : String} (hv : IsScalar v)
    (ht : IsTarget op t) : (∃ b, evaluateOp lib v op t = .ok b) ↔ ¬Raises lib v op t := by
  rw [returns_iff, raisesAny_iff lib hv ht]

/-! ### The laws together -/

theorem evaluateOp_eq_self_iff (lib : Library) {v : Value} (hv : IsScalar v) :
    evaluateOp lib v "eq" v = .ok true ↔ ¬∃ d, equalityNumber lib v = some d ∧ d.IsNan := by
  rw [evaluateOp_eq lib hv hv, equalScalars_eq_true_iff]
  exact sameScalar_self_iff

theorem evaluateOp_eq_comm (lib : Library) {v t : Value} (hv : IsScalar v) (ht : IsScalar t) :
    evaluateOp lib v "eq" t = evaluateOp lib t "eq" v := by
  rw [evaluateOp_eq lib hv ht, evaluateOp_eq lib ht hv]
  exact equalScalars_symm lib v t

theorem evaluateOp_eq_trans (lib : Library) {u v w : Value} (hu : IsScalar u) (hv : IsScalar v)
    (hw : IsScalar w) (huv : evaluateOp lib u "eq" v = .ok true)
    (hvw : evaluateOp lib v "eq" w = .ok true) : evaluateOp lib u "eq" w = .ok true := by
  rw [evaluateOp_eq lib hu hv, equalScalars_eq_true_iff] at huv
  rw [evaluateOp_eq lib hv hw, equalScalars_eq_true_iff] at hvw
  rw [evaluateOp_eq lib hu hw, equalScalars_eq_true_iff]
  exact huv.trans hvw

/-- **The laws of the operators.**  Two fail: some calls raise, and a `NaN` differs from itself. -/
theorem evaluateOp_coherent {lib : Library} (hlower : LowersPlain lib) :
    (∀ v op t, IsScalar v → IsTarget op t →
      ((∃ b, evaluateOp lib v op t = .ok b) ↔ ¬Raises lib v op t)) ∧
    (∀ v, IsScalar v →
      (evaluateOp lib v "eq" v = .ok true ↔ ¬∃ d, equalityNumber lib v = some d ∧ d.IsNan)) ∧
    (∀ v t, IsScalar v → IsScalar t → evaluateOp lib v "eq" t = evaluateOp lib t "eq" v) ∧
    (∀ u v w, IsScalar u → IsScalar v → IsScalar w → evaluateOp lib u "eq" v = .ok true →
      evaluateOp lib v "eq" w = .ok true → evaluateOp lib u "eq" w = .ok true) ∧
    (∀ v t, evaluateOp lib v "neq" t = (evaluateOp lib v "eq" t).map not) ∧
    (∀ v ts, evaluateOp lib v "not_in" (.list ts) = (evaluateOp lib v "in" (.list ts)).map not) ∧
    (∀ v lo hi, IsScalar v → IsScalar lo → IsScalar hi →
      (evaluateOp lib v "between" (.list [lo, hi]) = .ok true ↔
        evaluateOp lib v "gte" lo = .ok true ∧ evaluateOp lib v "lte" hi = .ok true)) ∧
    (∀ v t a b, IsScalar v → IsScalar t → toDecimal lib v = .ok (some a) →
      toDecimal lib t = .ok (some b) → (evaluateOp lib v "eq" t = .ok true ↔
        evaluateOp lib v "gte" t = .ok true ∧ evaluateOp lib v "lte" t = .ok true)) := by
  refine ⟨?_, ?_, ?_, ?_, ?_, ?_, ?_, ?_⟩
  · intro v op t hv ht
    exact exists_evaluateOp_iff lib hv ht
  · intro v hv
    exact evaluateOp_eq_self_iff lib hv
  · intro v t hv ht
    exact evaluateOp_eq_comm lib hv ht
  · intro u v w hu hv hw huv hvw
    exact evaluateOp_eq_trans lib hu hv hw huv hvw
  · exact evaluateOp_neq lib
  · exact evaluateOp_not_in lib
  · intro v lo hi _ _ _
    exact between_iff lib
  · intro v t a b hv ht ha hb
    exact evaluateOp_eq_iff_gte_lte hlower hv ht ha hb

/-- `"1"` and `"01.0"` are one number, so each is between the other and itself. -/
theorem evaluateOp_coherent_one :
    evaluateOp {} (.str "1") "eq" (.str "01.0") = .ok true ↔
      evaluateOp {} (.str "1") "gte" (.str "01.0") = .ok true ∧
        evaluateOp {} (.str "1") "lte" (.str "01.0") = .ok true :=
  (@evaluateOp_coherent {} fun _ _ => rfl).2.2.2.2.2.2.2 (.str "1") (.str "01.0")
    (.finite 1) (.finite 1) trivial trivial (by decide +kernel) (by decide +kernel)

/-- A boolean under an ordering raises, and the text `nan` is not equal to itself. -/
theorem boolean_raises_and_nan_differs :
    evaluateOp {} (.bool true) "gt" (.int 0) = .error .invalidOperation ∧
      evaluateOp {} (.str "nan") "eq" (.str "nan") = .ok false := by
  decide +kernel

end TripWire
