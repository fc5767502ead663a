import Mathlib.Data.List.DropRight
import Mathlib.Data.Rat.Defs
import Mathlib.Tactic.Common

/-!
# The parts of Python's runtime the pipeline relies on

* `PyError`: the exceptions that can leave a modelled function.
* `lower`, `strip`: `str.lower` and `str.strip`.  Every string the pipeline lower-cases is a hex
  string or a fixed ASCII word, where `Char.toLower` is Python's case mapping.
* `int`: `int(s)` for a string, with the surrounding whitespace, the sign, the digit separators,
  the decimal digits of every script and the length limit that the language reference documents.
* `int16`, `fromHexChars`, `toHex`: `int(s, 16)`, `bytes.fromhex(s)` and `bs.hex()`.
* `truthy`: the truth value of an optional string (`None` and `""` are false).

The string functions go through `String.toList`, so they evaluate in the kernel.
-/

namespace TripWire.Py

/-- An exception that leaves a function of the program, by its class. -/
inductive PyError where
  /-- `ValueError`, as raised by `int("abc")`. -/
  | valueError
  /-- `TypeError`. -/
  | typeError
  /-- `AttributeError`, as raised by `None.lower()`. -/
  | attributeError
  /-- `decimal.InvalidOperation`, as raised by ordering a `NaN`. -/
  | invalidOperation
  /-- `OverflowError` or `RecursionError`, as raised by `re.search` for a pattern that is too large.
  -/
  | overflowError
  /-- Any exception of the `jmespath` package. -/
  | jmespath
  /-- An exception of a database, RPC or HTTP client. -/
  | infrastructure
  deriving DecidableEq, Repr

/-- A sequence of two calls returns if the first does and the second does on its result. -/
theorem bind_eq_ok_iff {α β : Type} {x : Except PyError α} {f : α → Except PyError β} {b : β} :
    (x >>= f) = .ok b ↔ ∃ a, x = .ok a ∧ f a = .ok b := by
  cases x with
  | error e => exact ⟨fun h => (by cases h), fun ⟨a, ha, _⟩ => (by cases ha)⟩
  | ok a =>
    refine ⟨fun h => ⟨a, rfl, h⟩, ?_⟩
    rintro ⟨a', ha, h⟩
    obtain rfl := Except.ok.inj ha
    exact h

/-- `[load(a) for a in as]` returns what `f` gives for every element, if it gives something. -/
theorem mapM_eq_ok {α β : Type} {f : α → Option β} {load : α → Except PyError β}
    (hload : ∀ a b, f a = some b → load a = .ok b) {as : List α} (h : ∀ a ∈ as, f a ≠ none) :
    ∃ bs, as.mapM load = .ok bs ∧ ∀ b, b ∈ bs ↔ ∃ a ∈ as, f a = some b := by
  induction as with
  | nil => exact ⟨[], rfl, by simp⟩
  | cons a as ih =>
    obtain ⟨b, hb⟩ := Option.ne_none_iff_exists'.mp (h a List.mem_cons_self)
    obtain ⟨bs, hbs, hmem⟩ := ih fun a' ha' => h a' (List.mem_cons_of_mem a ha')
    refine ⟨b :: bs, ?_, ?_⟩
    · rw [List.mapM_cons, hbs, hload a b hb]
      rfl
    · intro b'
      rw [List.mem_cons, hmem]
      simp only [List.mem_cons, exists_eq_or_imp, hb, Option.some.injEq]
      exact or_congr_left eq_comm

/-- It raises if one of the calls does. -/
theorem mapM_eq_error {α β : Type} {load : α → Except PyError β} {as : List α} {a : α}
    (ha : a ∈ as) {e : PyError} (h : load a = .error e) : ∃ e', as.mapM load = .error e' := by
  induction as with
  | nil => cases ha
  | cons a' as ih =>
    rw [List.mapM_cons]
    cases hload : load a' with
    | error e' => exact ⟨e', rfl⟩
    | ok b =>
      have hmem : a ∈ as := by
        refine List.mem_of_ne_of_mem ?_ ha
        rintro rfl
        rw [h] at hload
        cases hload
      obtain ⟨e', he'⟩ := ih hmem
      exact ⟨e', by rw [he']; rfl⟩

/-- `s.lower()`. -/
def lower (s : String) : String := String.ofList (s.toList.map Char.toLower)

theorem toLower_toLower (c : Char) : c.toLower.toLower = c.toLower := by
  unfold Char.toLower
  split_ifs with hupper hagain
  · -- a letter that was lowered is no capital
    simp only [UInt32.le_iff_toNat_le, ge_iff_le, UInt32.toNat_add] at hupper hagain
    exact absurd hagain (by simp at hupper ⊢; omega)
  · rfl
  · rfl

/-- Lowering twice is lowering once. -/
@[simp]
theorem lower_lower (s : String) : lower (lower s) = lower s := by
  have hcomp : Char.toLower ∘ Char.toLower = Char.toLower := funext toLower_toLower
  simp only [lower, String.toList_ofList, List.map_map, hcomp]

/-- A text whose characters are lowered is lowered. -/
theorem lower_of_chars {s : String} {cs : List Char} (hs : s = String.ofList cs)
    (h : cs.map Char.toLower = cs) : lower s = s := by
  rw [lower, hs, String.toList_ofList, h]

theorem lower_eq_empty_iff {s : String} : lower s = "" ↔ s = "" := by
  rw [← String.toList_inj, ← String.toList_inj]
  simp [lower]

/-- The characters `str.strip` removes: those with `str.isspace()`. -/
def isSpace (c : Char) : Bool :=
  let n := c.toNat
  (0x09 ≤ n && n ≤ 0x0d) || (0x1c ≤ n && n ≤ 0x20) || n == 0x85 || n == 0xa0 || n == 0x1680 ||
    (0x2000 ≤ n && n ≤ 0x200a) || n == 0x2028 || n == 0x2029 || n == 0x202f || n == 0x205f ||
    n == 0x3000

/-- `s.strip()` on the list of characters. -/
def stripChars (cs : List Char) : List Char :=
  ((cs.dropWhile isSpace).reverse.dropWhile isSpace).reverse

/-- `s.strip()`. -/
def strip (s : String) : String := String.ofList (stripChars s.toList)

/-- A text whose characters are stripped is stripped. -/
theorem strip_of_chars {s : String} {cs : List Char} (hs : s = String.ofList cs)
    (h : stripChars cs = cs) : strip s = s := by
  rw [strip, hs, String.toList_ofList, h]

/-- A text without spaces is stripped. -/
theorem stripChars_of_forall {cs : List Char} (h : ∀ c ∈ cs, isSpace c = false) :
    stripChars cs = cs := by
  have hall (cs : List Char) (h : ∀ c ∈ cs, isSpace c = false) : cs.dropWhile isSpace = cs := by
    cases cs with
    | nil => rfl
    | cons c cs => exact List.dropWhile_cons_of_neg (by simp [h c List.mem_cons_self])
  rw [stripChars, hall cs h, hall _ fun c hc => h c (List.mem_reverse.mp hc), List.reverse_reverse]

/-- Spaces around a text are stripped with its own. -/
theorem stripChars_append {before after : List Char} (hbefore : ∀ c ∈ before, isSpace c = true)
    (hafter : ∀ c ∈ after, isSpace c = true) (cs : List Char) :
    stripChars (before ++ cs ++ after) = stripChars cs := by
  have hreverse : ∀ c ∈ after.reverse, isSpace c = true := fun c hc =>
    hafter c (List.mem_reverse.mp hc)
  rw [stripChars, List.append_assoc, List.dropWhile_append_of_pos hbefore, List.dropWhile_append]
  split_ifs with hall
  · -- a text of spaces leaves nothing
    rw [List.isEmpty_iff] at hall
    rw [List.dropWhile_eq_nil_iff.mpr hafter, stripChars, hall]
  · rw [List.reverse_append, List.dropWhile_append_of_pos hreverse, stripChars]

/-- What is left of a text was in it. -/
theorem mem_of_mem_stripChars {c : Char} {cs : List Char} (h : c ∈ stripChars cs) : c ∈ cs := by
  have hdrop {c : Char} {cs : List Char} (h : c ∈ cs.dropWhile isSpace) : c ∈ cs :=
    (List.dropWhile_sublist isSpace).subset h
  exact hdrop (List.mem_reverse.mp (hdrop (List.mem_reverse.mp h)))

/-- A text that does not start with a space keeps its start. -/
theorem stripChars_prefix {c : Char} (hc : isSpace c = false) (cs : List Char) :
    stripChars (c :: cs) <+: c :: cs := by
  rw [stripChars, List.dropWhile_cons_of_neg (by simp [hc])]
  exact List.rdropWhile_prefix isSpace _

theorem stripChars_stripChars (cs : List Char) : stripChars (stripChars cs) = stripChars cs := by
  -- what is left starts with the first character that is not a space, if it starts at all
  have hfirst : (stripChars cs).dropWhile isSpace = stripChars cs := by
    have hstripped : stripChars cs <+: cs.dropWhile isSpace := List.rdropWhile_prefix isSpace _
    have hstart := List.dropWhile_idempotent isSpace cs
    rw [List.dropWhile_eq_self_iff] at hstart ⊢
    intro hl
    rw [hstripped.getElem hl]
    exact hstart (hl.trans_le hstripped.length_le)
  rw [stripChars, hfirst]
  unfold stripChars
  rw [List.reverse_reverse, List.dropWhile_idempotent]

@[simp]
theorem strip_strip (s : String) : strip (strip s) = strip s := by
  simp only [strip, String.toList_ofList, stripChars_stripChars]

/-- The truth value of an optional string. -/
def truthy : Option String → Bool
  | some s => s ≠ ""
  | none => false

/-! ### `int(s)` -/

/-- The code points of the digits zero of the Unicode category `Nd`; each is followed by the digits
one to nine of its script. -/
def digitZeros : List ℕ :=
  [0x30, 0x660, 0x6f0, 0x7c0, 0x966, 0x9e6, 0xa66, 0xae6, 0xb66, 0xbe6, 0xc66, 0xce6, 0xd66, 0xde6,
   0xe50, 0xed0, 0xf20, 0x1040, 0x1090, 0x17e0, 0x1810, 0x1946, 0x19d0, 0x1a80, 0x1a90, 0x1b50,
   0x1bb0, 0x1c40, 0x1c50, 0xa620, 0xa8d0, 0xa900, 0xa9d0, 0xa9f0, 0xaa50, 0xabf0, 0xff10, 0x104a0,
   0x10d30, 0x11066, 0x110f0, 0x11136, 0x111d0, 0x112f0, 0x11450, 0x114d0, 0x11650, 0x116c0,
   0x11730, 0x118e0, 0x11950, 0x11c50, 0x11d50, 0x11da0, 0x11f50, 0x16a60, 0x16ac0, 0x16b50,
   0x1d7ce, 0x1d7d8, 0x1d7e2, 0x1d7ec, 0x1d7f6, 0x1e140, 0x1e2f0, 0x1e4f0, 0x1e950, 0x1fbf0]

/-- The value of a decimal digit. -/
def digitValue (c : Char) : Option ℕ :=
  (digitZeros.find? fun z => z ≤ c.toNat && c.toNat ≤ z + 9).map fun z => c.toNat - z

/-- The values of a non-empty run of digits in which single underscores may separate digits. -/
def digitRun (value : Char → Option ℕ) : List Char → Option (List ℕ)
  | [] => none
  | [c] => (value c).map fun d => [d]
  -- an underscore needs a digit on both sides: a trailing one leaves the empty run, which fails
  | c :: '_' :: rest => do
    let d ← value c
    let ds ← digitRun value rest
    pure (d :: ds)
  | c :: rest => do
    let d ← value c
    let ds ← digitRun value rest
    pure (d :: ds)

/-- A run of decimal digits. -/
def digits : List Char → Option (List ℕ) := digitRun digitValue

/-- `sys.int_info.default_max_str_digits`. -/
def maxStrDigits : ℕ := 4300

/-- The value of an unsigned decimal literal. -/
def natOfChars (cs : List Char) : Except PyError ℕ :=
  match digits cs with
  | none => .error .valueError
  | some ds =>
    if ds.length ≤ maxStrDigits then .ok (ds.foldl (fun n d => 10 * n + d) 0)
    else .error .valueError

/-- `int(s)`. -/
def int (s : String) : Except PyError ℤ :=
  match stripChars s.toList with
  | '+' :: cs => (natOfChars cs).map fun n => (n : ℤ)
  | '-' :: cs => (natOfChars cs).map fun n => -(n : ℤ)
  | cs => (natOfChars cs).map fun n => (n : ℤ)

/-! ### Hexadecimal text -/

/-- The value of a digit in base sixteen. -/
def hexDigitValue (c : Char) : Option ℕ :=
  if 'a' ≤ c ∧ c ≤ 'f' then some (c.toNat - 'a'.toNat + 10)
  else if 'A' ≤ c ∧ c ≤ 'F' then some (c.toNat - 'A'.toNat + 10)
  else digitValue c

/-- The value of an unsigned literal in base sixteen, with an optional `0x`. -/
def natOfHexChars (cs : List Char) : Except PyError ℕ :=
  let body :=
    match cs with
    | '0' :: 'x' :: '_' :: rest => rest
    | '0' :: 'X' :: '_' :: rest => rest
    | '0' :: 'x' :: rest => rest
    | '0' :: 'X' :: rest => rest
    | _ => cs
  match digitRun hexDigitValue body with
  | none => .error .valueError
  | some ds => .ok (ds.foldl (fun n d => 16 * n + d) 0)

/-- `int(s, 16)`.  The limit on the number of digits does not apply to this base. -/
def int16 (s : String) : Except PyError ℤ :=
  match stripChars s.toList with
  | '+' :: cs => (natOfHexChars cs).map fun n => (n : ℤ)
  | '-' :: cs => (natOfHexChars cs).map fun n => -(n : ℤ)
  | cs => (natOfHexChars cs).map fun n => (n : ℤ)

/-- The characters `bytes.fromhex` skips between bytes. -/
def isAsciiSpace (c : Char) : Bool := (0x09 ≤ c.toNat && c.toNat ≤ 0x0d) || c.toNat == 0x20

/-- The value of an ASCII digit in base sixteen. -/
def asciiHexValue (c : Char) : Option ℕ := if c.toNat < 128 then hexDigitValue c else none

/-- `bytes.fromhex(s)` on the list of characters. -/
def fromHexChars : List Char → Except PyError (List UInt8)
  | [] => .ok []
  | [c] => if isAsciiSpace c then .ok [] else .error .valueError
  | c :: d :: rest =>
    -- space is allowed between bytes, not inside one
    if isAsciiSpace c then fromHexChars (d :: rest)
    else
      match asciiHexValue c, asciiHexValue d with
      | some hi, some lo => (fromHexChars rest).map fun bs => UInt8.ofNat (16 * hi + lo) :: bs
      | _, _ => .error .valueError

/-- A digit of `bytes.hex`. -/
def hexDigit (n : ℕ) : Char :=
  if n < 10 then Char.ofNat ('0'.toNat + n) else Char.ofNat ('a'.toNat + (n - 10))

/-- `bs.hex()`. -/
def toHex (bs : List UInt8) : String :=
  String.ofList (bs.flatMap fun b => [hexDigit (b.toNat / 16), hexDigit (b.toNat % 16)])

/-- `s.removeprefix("0x")` on the list of characters. -/
def dropHexMark : List Char → List Char
  | '0' :: 'x' :: rest => rest
  | cs => cs

/-- `s.startswith(word)`. -/
def startsWith (s word : String) : Bool := word.toList.isPrefixOf s.toList

/-- `s.startswith("0x")`. -/
def hasHexMark (s : String) : Bool := startsWith s "0x"

/-- `s.split(",")` on the list of characters. -/
def splitCommas : List Char → List (List Char)
  | [] => [[]]
  | c :: cs =>
    if c = ',' then [] :: splitCommas cs
    else
      match splitCommas cs with
      | [] => [[c]]
      | part :: parts => (c :: part) :: parts

theorem splitCommas_of_not_mem {cs : List Char} (h : ',' ∉ cs) : splitCommas cs = [cs] := by
  induction cs with
  | nil => rfl
  | cons c cs ih =>
    rw [List.mem_cons, not_or] at h
    rw [splitCommas, if_neg (Ne.symm h.1), ih h.2]

/-- The part before the first comma, and the parts of the rest. -/
theorem splitCommas_append {cs : List Char} (h : ',' ∉ cs) (ds : List Char) :
    splitCommas (cs ++ ',' :: ds) = cs :: splitCommas ds := by
  induction cs with
  | nil => rw [List.nil_append, splitCommas, if_pos rfl]
  | cons c cs ih =>
    rw [List.mem_cons, not_or] at h
    rw [List.cons_append, splitCommas, if_neg (Ne.symm h.1), ih h.2]

/-- The parts of a text consist of its characters. -/
theorem mem_of_mem_splitCommas {c : Char} {part cs : List Char} (hpart : part ∈ splitCommas cs)
    (hc : c ∈ part) : c ∈ cs := by
  induction cs generalizing part with
  | nil =>
    rw [splitCommas, List.mem_singleton] at hpart
    exact absurd hc (by simp [hpart])
  | cons d cs ih =>
    rw [splitCommas] at hpart
    split_ifs at hpart with hcomma
    · rw [List.mem_cons] at hpart
      obtain rfl | hpart := hpart
      · exact absurd hc List.not_mem_nil
      · exact List.mem_cons_of_mem d (ih hpart hc)
    · cases hsplit : splitCommas cs with
      | nil =>
        rw [hsplit, List.mem_singleton] at hpart
        subst hpart
        rw [List.mem_singleton] at hc
        exact hc ▸ List.mem_cons_self
      | cons first parts =>
        rw [hsplit] at ih hpart
        dsimp only at hpart
        rw [List.mem_cons] at hpart
        obtain rfl | hpart := hpart
        · rw [List.mem_cons] at hc ⊢
          exact hc.imp_right (ih List.mem_cons_self)
        · exact List.mem_cons_of_mem d (ih (List.mem_cons_of_mem first hpart) hc)

/-- Parts without commas are those of the text that joins them. -/
theorem splitCommas_intercalate {part : List Char} {parts : List (List Char)}
    (h : ∀ p ∈ part :: parts, ',' ∉ p) :
    splitCommas ([','].intercalate (part :: parts)) = part :: parts := by
  induction parts generalizing part with
  | nil =>
    rw [List.intercalate_singleton]
    exact splitCommas_of_not_mem (h part List.mem_cons_self)
  | cons next parts ih =>
    rw [List.forall_mem_cons] at h
    rw [List.intercalate_cons_cons, List.append_assoc, List.singleton_append,
      splitCommas_append h.1, ih h.2]

end TripWire.Py
