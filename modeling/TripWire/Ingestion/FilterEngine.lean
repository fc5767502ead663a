import TripWire.Py.Decimal
import TripWire.Types.Models

/-!
# The filter engine

`evaluate_filters` (`tripwire/ingestion/filter_engine.py`) checks the rules of a trigger against the
decoded fields of an event; all rules must pass.  A rule names its field by a JMESPath expression.

An exception leaves the evaluation when JMESPath rejects the expression, when a comparison meets a
`NaN` or a signaling `NaN`, when a boolean is compared as a number (`Decimal("True")` raises outside
the `try` blocks), when an integer is too long for `str`, and when `re.search` raises anything but
`re.error`.

The pattern `_ADDRESS_RE` is `isEthAddress`.  `Library` collects the functions of other packages and
of the runtime that are not embedded here.
-/

namespace TripWire

open Py

/-- A value as `eth_abi.decode` returns it: `bytes` apart from everything else. -/
inductive AbiValue where
  | bytes (bs : List UInt8)
  | value (v : Value)
  deriving DecidableEq

/-- An exception of `re.search`. -/
inductive RegexError where
  /-- `re.error`. -/
  | reError
  /-- An exception of another class. -/
  | other (e : PyError)

/-- Functions the event decoding and filtering calls. -/
structure Library where
  /-- `jmespath.search(expression, data)`. -/
  jmespathSearch : String → Value → Except PyError Value := fun _ _ => .ok .none
  /-- Whether `re.search(pattern, text)` finds a match. -/
  reSearch : String → String → Except RegexError Bool := fun _ _ => .ok false
  /-- `eth_abi.decode(types, data)`. -/
  abiDecode : List String → List UInt8 → Except PyError (List AbiValue) := fun _ _ => .ok []
  /-- `str(x)` for a float, a list or a dictionary. -/
  reprOf : Value → String := fun _ => ""
  /-- `s.lower()` for arbitrary text. -/
  lowerText : String → String := Py.lower

/-- `TriggerFilter`. -/
structure TriggerFilter where
  field : String
  op : String := "eq"
  value : Value := .none
  deriving DecidableEq

/-- `str(v)`. -/
def Library.str (lib : Library) : Value → String
  | .none => "None"
  | .bool true => "True"
  | .bool false => "False"
  | .int n => toString n
  | .str s => s
  | v => lib.reprOf v

mutual

/-- Whether no integer in a value has more digits than `maxStrDigits`. -/
def Py.Value.printable : Value → Bool
  | .int n => n.natAbs < 10 ^ maxStrDigits
  | .list xs => Value.printableList xs
  | .dict items => Value.printableItems items
  | .none | .bool _ | .float _ | .str _ => true

/-- The same for the values of a list. -/
def Py.Value.printableList : List Value → Bool
  | [] => true
  | x :: xs => x.printable && Value.printableList xs

/-- The same for the values of a dictionary. -/
def Py.Value.printableItems : List (String × Value) → Bool
  | [] => true
  | (_, x) :: items => x.printable && Value.printableItems items

end

theorem Py.Value.printable_int (n : ℤ) :
    (Value.int n).printable = decide (n.natAbs < 10 ^ maxStrDigits) := by
  rw [Value.printable]

/-- `str(v)`, which raises on an integer of more digits than `maxStrDigits`. -/
def Library.strOf (lib : Library) (v : Value) : Except PyError String :=
  if v.printable then .ok (lib.str v) else .error .valueError

/-- `Decimal(str(v))`. -/
def decimalOfStr (lib : Library) (v : Value) : Except PyError (Option Decimal) := do
  match Decimal.ofString (← lib.strOf v) with
  | some d => return some d
  | none => .error .invalidOperation

/-- `_to_decimal`.  The number of a boolean, an integer or a float is taken from its text, and
`Decimal` raises when that text is no number. -/
def toDecimal (lib : Library) : Value → Except PyError (Option Decimal)
  | .str s =>
    let v := strip s
    if v = "" then .ok none
    -- An address also starts with `0x`; it is left to `Decimal`, which rejects it.
    else if hasHexMark v && !isEthAddress v then
      match int16 v with
      | .ok n => .ok (some (.finite n))
      | .error _ => .ok none
    else .ok (Decimal.ofString v)
  | .bool b => decimalOfStr lib (.bool b)
  | .int n => decimalOfStr lib (.int n)
  | .float q => decimalOfStr lib (.float q)
  | _ => .ok none

/-- The result of `_normalize`: a decimal, or a value that is none. -/
inductive Normal where
  | decimal (d : Decimal)
  | value (v : Value)
  deriving DecidableEq

/-- `_normalize`. -/
def normalize (lib : Library) : Value → Except PyError Normal
  | .str s =>
    let text := strip (lib.lowerText s)
    if isEthAddress text then .ok (.value (.str text))
    else (toDecimal lib (.str text)).map fun d =>
      match d with
      | some d => .decimal d
      | none => .value (.str text)
  | v => .ok (.value v)

/-- `a == b` for normalized values: a decimal equals a number of the same value. -/
def Normal.eqv : Normal → Normal → Except PyError Bool
  | .decimal a, .decimal b => Decimal.eq a b
  | .decimal a, .value b =>
    match b.number? with
    | some q => Decimal.eq a (.finite q)
    | none => .ok false
  | .value a, .decimal b =>
    match a.number? with
    | some q => Decimal.eq (.finite q) b
    | none => .ok false
  | .value a, .value b => .ok (Value.eqv a b)

/-- `norm in normals`. -/
def Normal.isIn (norm : Normal) : List Normal → Except PyError Bool
  | [] => .ok false
  | n :: ns => do
    if ← norm.eqv n then return true
    norm.isIn ns

/-- `_compare_numeric`. -/
def compareNumeric (lib : Library) (fieldVal : Value) (op : String) (target : Value) :
    Except PyError Bool := do
  match ← toDecimal lib fieldVal, ← toDecimal lib target with
  | some a, some b =>
    if op = "gt" then b.lt a
    else if op = "gte" then b.le a
    else if op = "lt" then a.lt b
    else if op = "lte" then a.le b
    else return false
  | _, _ => return false

/-- `bool(v)`. -/
def Py.Value.truth : Value → Bool
  | .none => false
  | .bool b => b
  | .int n => n ≠ 0
  | .float q => q ≠ 0
  | .str s => s ≠ ""
  | .list xs => !xs.isEmpty
  | .dict items => !items.isEmpty

/-- `needle in text` for strings, on the lists of characters. -/
def containsChars (needle text : List Char) : Bool := text.tails.any fun t => needle.isPrefixOf t

/-- `_evaluate_op`. -/
def evaluateOp (lib : Library) (fieldVal : Value) (op : String) (target : Value) :
    Except PyError Bool :=
  if op = "eq" then do (← normalize lib fieldVal).eqv (← normalize lib target)
  else if op = "neq" then do return !(← (← normalize lib fieldVal).eqv (← normalize lib target))
  else if op = "gt" ∨ op = "gte" ∨ op = "lt" ∨ op = "lte" then compareNumeric lib fieldVal op target
  else if op = "in" then
    match target with
    | .list ts => do (← normalize lib fieldVal).isIn (← ts.mapM (normalize lib))
    | _ => .ok false
  else if op = "not_in" then
    match target with
    | .list ts => do return !(← (← normalize lib fieldVal).isIn (← ts.mapM (normalize lib)))
    | _ => .ok true
  else if op = "between" then
    match target with
    | .list [lo, hi] => do
      match ← toDecimal lib fieldVal, ← toDecimal lib lo, ← toDecimal lib hi with
      | some a, some lo, some hi => if ← lo.le a then a.le hi else return false
      | _, _, _ => return false
    | _ => .ok false
  else if op = "contains" then do
    let needle ← lib.strOf target
    let text ← lib.strOf fieldVal
    return containsChars (lib.lowerText needle).toList (lib.lowerText text).toList
  else if op = "regex" then do
    let pattern ← lib.strOf target
    let text ← lib.strOf fieldVal
    match lib.reSearch pattern text with
    | .ok found => return found
    | .error .reError => return false
    | .error (.other e) => .error e
  else if op = "jmespath" then
    let data := match fieldVal with
      | .dict items => Value.dict items
      | _ => .dict []
    -- every exception counts as no match
    match lib.strOf target >>= fun expression => lib.jmespathSearch expression data with
    | .ok v => .ok v.truth
    | .error _ => .ok false
  else .ok false

/-- `evaluate_filters`: the reason of the first rule that fails, if any. -/
def evaluateFilters (lib : Library) (decoded : Dict) :
    List TriggerFilter → Except PyError (Option String)
  | [] => .ok none
  | f :: fs => do
    -- Outside any `try`: an expression that does not parse ends the whole evaluation.
    let fieldVal ← lib.jmespathSearch f.field (.dict decoded)
    if fieldVal = .none then return some s!"field '{f.field}' not present in event"
    if ← evaluateOp lib fieldVal f.op f.value then evaluateFilters lib decoded fs
    else
      let value ← lib.strOf f.value
      let got ← lib.strOf fieldVal
      return some s!"{f.field} {f.op} {value} failed (got {got})"

end TripWire
