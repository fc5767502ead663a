import TripWire.Py.Basic
import TripWire.Lib.AbiWords

/-!
# Reading back the hexadecimal text of bytes

`hexText` is the text of bytes in a log.  `bytes.fromhex` gives the bytes back, `int(s, 16)` the
number they spell, and the text is one part of a comma-separated list.
-/

namespace TripWire.Py

open Abi

/-- `"0x" + bs.hex()`. -/
def hexText (bs : List UInt8) : String := "0x" ++ toHex bs

/-- What the digits of `bytes.hex` are. -/
structure IsHexOutput (c : Char) (d : ℕ) : Prop where
  value : hexDigitValue c = some d
  ascii : asciiHexValue c = some d
  noAsciiSpace : isAsciiSpace c = false
  noSpace : isSpace c = false
  noSeparator : c ≠ '_'
  noComma : c ≠ ','

theorem isHexOutput_hexDigit {d : ℕ} (h : d < 16) : IsHexOutput (hexDigit d) d := by
  have hall : ∀ d : Fin 16, hexDigitValue (hexDigit d) = some d.val ∧
      asciiHexValue (hexDigit d) = some d.val ∧ isAsciiSpace (hexDigit d) = false ∧
      isSpace (hexDigit d) = false ∧ hexDigit d ≠ '_' ∧ hexDigit d ≠ ',' := by
    decide +kernel
  obtain ⟨value, ascii, noAsciiSpace, noSpace, noSeparator, noComma⟩ := hall ⟨d, h⟩
  exact ⟨value, ascii, noAsciiSpace, noSpace, noSeparator, noComma⟩

/-- The two digits of a byte. -/
theorem isHexOutput_byte (b : UInt8) :
    IsHexOutput (hexDigit (b.toNat / 16)) (b.toNat / 16) ∧
      IsHexOutput (hexDigit (b.toNat % 16)) (b.toNat % 16) := by
  have hb := b.toNat_lt
  exact ⟨isHexOutput_hexDigit (by omega), isHexOutput_hexDigit (by omega)⟩

theorem toList_toHex_nil : (toHex []).toList = [] := rfl

theorem toList_toHex_cons (b : UInt8) (bs : List UInt8) :
    (toHex (b :: bs)).toList =
      hexDigit (b.toNat / 16) :: hexDigit (b.toNat % 16) :: (toHex bs).toList := by
  simp only [toHex, String.toList_ofList, List.flatMap_cons]
  rfl

theorem toList_toHex_append (bs bs' : List UInt8) :
    (toHex (bs ++ bs')).toList = (toHex bs).toList ++ (toHex bs').toList := by
  simp only [toHex, String.toList_ofList, List.flatMap_append]

theorem length_toList_toHex (bs : List UInt8) : (toHex bs).toList.length = 2 * bs.length := by
  induction bs with
  | nil => rfl
  | cons b bs ih =>
    rw [toList_toHex_cons, List.length_cons, List.length_cons, ih, List.length_cons]
    omega

theorem toList_hexText (bs : List UInt8) :
    (hexText bs).toList = '0' :: 'x' :: (toHex bs).toList := by
  rw [hexText, String.toList_append]
  rfl

theorem dropHexMark_hexText (bs : List UInt8) :
    dropHexMark (hexText bs).toList = (toHex bs).toList := by
  rw [toList_hexText, dropHexMark]

/-- Texts of different lengths are of different bytes. -/
theorem length_eq_of_hexText {bs bs' : List UInt8} (h : hexText bs = hexText bs') :
    bs.length = bs'.length := by
  have hchars := congrArg (fun s => (dropHexMark s.toList).length) h
  simp only [dropHexMark_hexText, length_toList_toHex] at hchars
  omega

/-- Every character of the text of bytes is a digit. -/
theorem hexDigit_of_mem {bs : List UInt8} {c : Char} (h : c ∈ (toHex bs).toList) :
    ∃ d < 16, hexDigit d = c := by
  simp only [toHex, String.toList_ofList, List.mem_flatMap, List.mem_pair] at h
  obtain ⟨b, -, rfl | rfl⟩ := h
  · have hb := b.toNat_lt
    exact ⟨_, by omega, rfl⟩
  · exact ⟨_, Nat.mod_lt _ (by omega), rfl⟩

/-- `bytes.fromhex(bs.hex())`. -/
theorem fromHexChars_toHex (bs : List UInt8) : fromHexChars (toHex bs).toList = .ok bs := by
  induction bs with
  | nil => rfl
  | cons b bs ih =>
    obtain ⟨hhigh, hlow⟩ := isHexOutput_byte b
    have hbyte : UInt8.ofNat (16 * (b.toNat / 16) + b.toNat % 16) = b := by
      rw [Nat.div_add_mod, UInt8.ofNat_toNat]
    rw [toList_toHex_cons, fromHexChars, hhigh.noAsciiSpace, hhigh.ascii, hlow.ascii, ih]
    simp only [Bool.false_eq_true, if_false, Except.map, hbyte]

/-! ### `int(s, 16)` -/

/-- The digits of bytes as numbers. -/
def nibbles (bs : List UInt8) : List ℕ := bs.flatMap fun b => [b.toNat / 16, b.toNat % 16]

theorem digitRun_cons {value : Char → Option ℕ} {c : Char} {d : ℕ} (hc : value c = some d)
    {cs : List Char} (hne : cs ≠ []) (hhead : cs.head? ≠ some '_') :
    digitRun value (c :: cs) = (digitRun value cs).map (d :: ·) := by
  cases cs with
  | nil => exact absurd rfl hne
  | cons c' cs =>
    have hc' : c' ≠ '_' := fun h => hhead (congrArg some h)
    rw [digitRun.eq_4 value c (c' :: cs) (by simp) (by simpa using hc'), hc]
    cases digitRun value (c' :: cs) with
    | none => rfl
    | some ds => rfl

theorem digitRun_toHex {bs : List UInt8} (hne : bs ≠ []) :
    digitRun hexDigitValue (toHex bs).toList = some (nibbles bs) := by
  induction bs with
  | nil => exact absurd rfl hne
  | cons b bs ih =>
    obtain ⟨hhigh, hlow⟩ := isHexOutput_byte b
    have hlowHead : (hexDigit (b.toNat % 16) :: (toHex bs).toList).head? ≠ some '_' := by
      simpa using hlow.noSeparator
    rw [toList_toHex_cons, digitRun_cons hhigh.value (by simp) hlowHead]
    cases hbs : bs with
    | nil =>
      rw [toList_toHex_nil, digitRun, hlow.value]
      rfl
    | cons b' bs' =>
      have hrest : (toHex (b' :: bs')).toList.head? ≠ some '_' := by
        rw [toList_toHex_cons]
        simpa using (isHexOutput_byte b').1.noSeparator
      have hchars : (toHex (b' :: bs')).toList ≠ [] := by
        rw [toList_toHex_cons]
        simp
      rw [digitRun_cons hlow.value hchars hrest, ← hbs, ih (by simp [hbs])]
      rfl

theorem foldl_nibbles (bs : List UInt8) (n : ℕ) :
    (nibbles bs).foldl (fun n d => 16 * n + d) n = bs.foldl (fun n b => 256 * n + b.toNat) n := by
  induction bs generalizing n with
  | nil => rfl
  | cons b bs ih =>
    have hbyte : 16 * (16 * n + b.toNat / 16) + b.toNat % 16 = 256 * n + b.toNat := by omega
    rw [List.foldl_cons, ← hbyte, ← ih]
    rfl

/-- An underscore after the mark is dropped; here there is none. -/
theorem natOfHexChars_of_digitRun {c : Char} {cs : List Char} {ds : List ℕ} (hc : c ≠ '_')
    (h : digitRun hexDigitValue (c :: cs) = some ds) :
    natOfHexChars ('0' :: 'x' :: c :: cs) = .ok (ds.foldl (fun n d => 16 * n + d) 0) := by
  simp [natOfHexChars, hc, h]

theorem natOfHexChars_hexText {bs : List UInt8} (hne : bs ≠ []) :
    natOfHexChars (hexText bs).toList = .ok (natBE bs) := by
  have hrun := digitRun_toHex hne
  cases bs with
  | nil => exact absurd rfl hne
  | cons b bs =>
    rw [toList_toHex_cons] at hrun
    rw [toList_hexText, toList_toHex_cons,
      natOfHexChars_of_digitRun (isHexOutput_byte b).1.noSeparator hrun, foldl_nibbles]
    rfl

theorem stripChars_hexText (bs : List UInt8) :
    stripChars (hexText bs).toList = (hexText bs).toList := by
  apply stripChars_of_forall
  rw [toList_hexText, List.forall_mem_cons, List.forall_mem_cons]
  refine ⟨by decide, by decide, fun c hc => ?_⟩
  obtain ⟨d, hd, rfl⟩ := hexDigit_of_mem hc
  exact (isHexOutput_hexDigit hd).noSpace

theorem comma_not_mem_hexText (bs : List UInt8) : ',' ∉ (hexText bs).toList := by
  rw [toList_hexText, List.mem_cons, List.mem_cons]
  rintro (h | h | h)
  · exact absurd h (by decide)
  · exact absurd h (by decide)
  · obtain ⟨d, hd, hcomma⟩ := hexDigit_of_mem h
    exact (isHexOutput_hexDigit hd).noComma hcomma

/-- **`int(s, 16)` of the text of bytes** is the number they spell. -/
theorem int16_hexText {bs : List UInt8} (hne : bs ≠ []) : int16 (hexText bs) = .ok (natBE bs) := by
  have hnat := natOfHexChars_hexText hne
  rw [toList_hexText] at hnat
  rw [int16, stripChars_hexText, toList_hexText]
  show Except.map _ (natOfHexChars ('0' :: 'x' :: (toHex bs).toList) >>= fun n => pure (n : ℤ)) = _
  rw [hnat]
  rfl

end TripWire.Py
