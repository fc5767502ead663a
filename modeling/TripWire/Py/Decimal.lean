import Mathlib.Algebra.Field.Rat
import TripWire.Py.Value

/-!
# `decimal.Decimal`

The part of Python's `decimal` module that the filter engine uses: construction from text, equality
and order.  A finite decimal is its value.  The default context traps `InvalidOperation`, so a
comparison that orders a `NaN`, or that involves a signaling one at all, raises.
-/

namespace TripWire.Py

/-- A `Decimal`. -/
inductive Decimal where
  | finite (q : ℚ)
  | infinity (negative : Bool)
  | nan
  | snan
  deriving DecidableEq

namespace Decimal

/-! ### Construction from text -/

/-- The leading decimal digits of a text, and the rest. -/
def takeDigits : List Char → List ℕ × List Char
  | [] => ([], [])
  | c :: cs =>
    match digitValue c with
    | none => ([], c :: cs)
    | some d =>
      let (ds, rest) := takeDigits cs
      (d :: ds, rest)

/-- The number a list of digits denotes. -/
def ofDigits (ds : List ℕ) : ℕ := ds.foldl (fun n d => 10 * n + d) 0

/-- `MAX_PREC`: the most digits a coefficient or a fraction may have. -/
def maxPrec : ℕ := 999999999999999999

/-- `MAX_EMAX`: the largest exponent of a first digit. -/
def maxEmax : ℤ := 999999999999999999

/-- `MIN_ETINY`: the smallest exponent of a last digit. -/
def minEtiny : ℤ := -1999999999999999997

/-- Whether the number of this coefficient, with `fraction` digits of it behind the point, times
`10 ^ e` needs neither rounding nor clamping.  A zero has one digit, and its exponent counts. -/
def isExact (coefficient fraction : ℕ) (e : ℤ) : Bool :=
  let digits := (Nat.toDigits 10 coefficient).length
  let exponent := e - fraction
  decide (fraction ≤ maxPrec ∧ digits ≤ maxPrec ∧ exponent + digits - 1 ≤ maxEmax ∧
    minEtiny ≤ exponent)

example : isExact 1 0 (-1000000000000000000) = true := by decide

example : isExact 5 1 1000000000000000000 = true := by decide

example : isExact 10 0 999999999999999999 = false := by decide

example : isExact 0 0 1000000000000000000 = false := by decide

/-- The exponent at the end of a numeric text. -/
def exponentOf : List Char → Option ℤ
  | [] => some 0
  | e :: rest =>
    if e = 'e' ∨ e = 'E' then
      let (sign, body) : ℤ × List Char :=
        match rest with
        | '+' :: cs => (1, cs)
        | '-' :: cs => (-1, cs)
        | cs => (1, cs)
      match takeDigits body with
      | ([], _) => none
      | (ds, []) => some (sign * ofDigits ds)
      | (_, _ :: _) => none
    else none

/-- The value of an unsigned numeric text. -/
def numericValue (cs : List Char) : Option ℚ :=
  let (whole, rest) := takeDigits cs
  let (fraction, rest) :=
    match rest with
    | '.' :: cs => takeDigits cs
    | _ => ([], rest)
  if whole = [] ∧ fraction = [] then none
  else
    match exponentOf rest with
    | none => none
    | some e =>
      if isExact (ofDigits (whole ++ fraction)) fraction.length e then
        some ((ofDigits (whole ++ fraction) : ℚ) * 10 ^ (e - (fraction.length : ℤ)))
      else none

/-- Whether a text is `word` followed by digits, in any case of letters. -/
def isWordThenDigits (word : String) (cs : List Char) : Bool :=
  let n := word.toList.length
  (cs.take n).map Char.toLower == word.toList && (takeDigits (cs.drop n)).2.isEmpty

/-- `Decimal(s)`; `none` stands for the `InvalidOperation` of a text that is no number. -/
def ofString (s : String) : Option Decimal :=
  -- `Decimal` drops all underscores, wherever `int` would want digits around them
  let cs := (stripChars s.toList).filter (· ≠ '_')
  let (negative, body) :=
    match cs with
    | '+' :: rest => (false, rest)
    | '-' :: rest => (true, rest)
    | rest => (false, rest)
  let word := body.map Char.toLower
  if word = "inf".toList ∨ word = "infinity".toList then some (.infinity negative)
  else if isWordThenDigits "nan" body then some .nan
  else if isWordThenDigits "snan" body then some .snan
  else (numericValue body).map fun q => .finite (if negative then -q else q)

/-! ### Comparison -/

/-- The place of a decimal in the order: below all, its value, above all; `none` for a `NaN`. -/
def rank : Decimal → Option (ℤ × ℚ)
  | .finite q => some (0, q)
  | .infinity true => some (-1, 0)
  | .infinity false => some (1, 0)
  | .nan => none
  | .snan => none

/-- `a == b`. -/
def eq (a b : Decimal) : Except PyError Bool :=
  if a = .snan ∨ b = .snan then .error .invalidOperation
  else .ok (a.rank.isSome && decide (a.rank = b.rank))

/-- `a < b`. -/
def lt (a b : Decimal) : Except PyError Bool :=
  match a.rank, b.rank with
  | some x, some y => .ok (decide (x.1 < y.1 ∨ (x.1 = y.1 ∧ x.2 < y.2)))
  | _, _ => .error .invalidOperation

/-- `a <= b`. -/
def le (a b : Decimal) : Except PyError Bool :=
  match a.rank, b.rank with
  | some x, some y => .ok (decide (x.1 < y.1 ∨ (x.1 = y.1 ∧ x.2 ≤ y.2)))
  | _, _ => .error .invalidOperation

end Decimal

/-! ### Equality of values -/

/-- The number behind a boolean, an integer or a float. -/
def Value.number? : Value → Option ℚ
  | .bool b => some (if b then 1 else 0)
  | .int n => some n
  | .float q => some q
  | _ => Option.none

mutual

/-- `a == b` for values: numbers compare by value across their types. -/
def Value.eqv : Value → Value → Bool
  | .none, b => b = .none
  | .str s, b => b = .str s
  | .list xs, b =>
    match b with
    | .list ys => Value.eqvList xs ys
    | _ => false
  | .dict xs, b =>
    match b with
    | .dict ys => decide (xs.length = ys.length) && Value.eqvItems xs ys
    | _ => false
  | .bool x, b => b.number? = (Value.bool x).number?
  | .int n, b => b.number? = (Value.int n).number?
  | .float q, b => b.number? = (Value.float q).number?

/-- Equality of lists of values. -/
def Value.eqvList : List Value → List Value → Bool
  | [], ys => ys.isEmpty
  | x :: xs, ys =>
    match ys with
    | [] => false
    | y :: ys => Value.eqv x y && Value.eqvList xs ys

/-- Whether every item of the first dictionary is in the second. -/
def Value.eqvItems : List (String × Value) → List (String × Value) → Bool
  | [], _ => true
  | (k, x) :: xs, ys =>
    (match Dict.get? ys k with
      | some y => Value.eqv x y
      | .none => false) && Value.eqvItems xs ys

end

end TripWire.Py
