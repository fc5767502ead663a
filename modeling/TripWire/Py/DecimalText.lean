import TripWire.Py.Decimal
import TripWire.Py.Hex

/-!
# The texts of numbers

`Decimal` and `int` read the text of an integer as the integer (`ofString_toString`,
`int_toString`).  `Decimal` and `int(s, 16)` do not see the case of letters (`ofString_lower`,
`int16_lower`), and what either reads as a number consists of ASCII characters, spaces and digits
(`isPlain_of_ofString`, `isPlain_of_int16`).
-/

namespace TripWire.Py

/-! ### Lower case, character by character -/

theorem toLower_cases (c : Char) :
    c.toLower = c ∨ 65 ≤ c.toNat ∧ c.toNat ≤ 90 ∧ c.toLower.toNat = c.toNat + 32 := by
  unfold Char.toLower
  split_ifs with hupper
  · right
    simp only [UInt32.le_iff_toNat_le, ge_iff_le] at hupper
    refine ⟨hupper.1, hupper.2, ?_⟩
    show (c.val + _).toNat = _
    rw [UInt32.toNat_add]
    have h := hupper.2
    simp at h ⊢
    omega
  · exact .inl rfl

/-- No letter is a digit in any script. -/
theorem digitValue_eq_none {c : Char} (h : 57 < c.toNat ∧ c.toNat < 0x660) :
    digitValue c = none := by
  have hzeros : ∀ z ∈ digitZeros, z + 9 ≤ 57 ∨ 0x660 ≤ z := by decide
  rw [digitValue, Option.map_eq_none_iff, List.find?_eq_none]
  intro z hz hrange
  simp only [Bool.and_eq_true, decide_eq_true_eq] at hrange
  have := hzeros z hz
  omega

theorem digitValue_toLower (c : Char) : digitValue c.toLower = digitValue c := by
  rcases toLower_cases c with h | ⟨hlo, hhi, hlower⟩
  · rw [h]
  · rw [digitValue_eq_none (by omega), digitValue_eq_none (by omega)]

theorem isSpace_eq_false {c : Char} (h : 0x20 < c.toNat ∧ c.toNat < 0x85) : isSpace c = false := by
  unfold isSpace
  simp only [Bool.or_eq_false_iff, Bool.and_eq_false_iff, decide_eq_false_iff_not,
    beq_eq_false_iff_ne]
  omega

theorem isSpace_toLower (c : Char) : isSpace c.toLower = isSpace c := by
  rcases toLower_cases c with h | ⟨hlo, hhi, hlower⟩
  · rw [h]
  · rw [isSpace_eq_false (by omega), isSpace_eq_false (by omega)]

/-- A character that is no letter is the lower case of itself alone. -/
theorem toLower_eq_iff {c d : Char} (hd : d.toNat < 65 ∨ 90 < d.toNat ∧ d.toNat < 97) :
    c.toLower = d ↔ c = d := by
  rcases toLower_cases c with h | ⟨hlo, hhi, hlower⟩
  · rw [h]
  · refine iff_of_false ?_ ?_
    · rintro rfl
      omega
    · rintro rfl
      omega

/-- The two cases of a letter. -/
theorem toLower_eq_letter_iff {c small big : Char}
    (h : big.toNat + 32 = small.toNat ∧ 65 ≤ big.toNat ∧ big.toNat ≤ 90) :
    (c.toLower = small ∨ c.toLower = big) ↔ (c = small ∨ c = big) := by
  have hchar (c d : Char) : c = d ↔ c.toNat = d.toNat := Char.toNat_inj.symm
  rcases toLower_cases c with hsame | ⟨hlo, hhi, hlower⟩
  · rw [hsame]
  · rw [hchar, hchar, hchar, hchar, hlower]
    omega

theorem hexDigitValue_eq (c : Char) :
    hexDigitValue c =
      if 97 ≤ c.toNat ∧ c.toNat ≤ 102 then some (c.toNat - 97 + 10)
      else if 65 ≤ c.toNat ∧ c.toNat ≤ 70 then some (c.toNat - 65 + 10) else digitValue c := by
  unfold hexDigitValue
  simp only [Char.le_def, UInt32.le_iff_toNat_le]
  rfl

theorem hexDigitValue_toLower (c : Char) : hexDigitValue c.toLower = hexDigitValue c := by
  rcases toLower_cases c with h | ⟨hlo, hhi, hlower⟩
  · rw [h]
  · rw [hexDigitValue_eq, hexDigitValue_eq c, digitValue_toLower]
    by_cases hhex : c.toNat ≤ 70
    · rw [if_pos (by omega), if_neg (by omega), if_pos ⟨hlo, hhex⟩, hlower]
      congr 1
    · rw [if_neg (by omega), if_neg (by omega), if_neg (by omega), if_neg (by omega)]

/-! ### Lower case of whole texts -/

theorem stripChars_map_toLower (cs : List Char) :
    stripChars (cs.map Char.toLower) = (stripChars cs).map Char.toLower := by
  have hcomp : isSpace ∘ Char.toLower = isSpace := funext isSpace_toLower
  have hdrop (cs : List Char) :
      (cs.map Char.toLower).dropWhile isSpace = (cs.dropWhile isSpace).map Char.toLower := by
    rw [List.dropWhile_map, hcomp]
  rw [stripChars, hdrop, ← List.map_reverse, hdrop, ← List.map_reverse, stripChars]

theorem strip_lower (s : String) : strip (lower s) = lower (strip s) := by
  simp only [strip, lower, String.toList_ofList, stripChars_map_toLower]

/-! ### Signs -/

/-- A text with an optional sign: what `read` makes of the rest. -/
def signed {α : Type} (read : Bool → List Char → α) : List Char → α
  | '+' :: cs => read false cs
  | '-' :: cs => read true cs
  | cs => read false cs

theorem signed_of_ne {α : Type} (read : Bool → List Char → α) {cs : List Char}
    (hplus : cs.head? ≠ some '+') (hminus : cs.head? ≠ some '-') :
    signed read cs = read false cs := by
  unfold signed
  split
  · exact absurd rfl hplus
  · exact absurd rfl hminus
  · rfl

theorem signed_of_forall_ne {α : Type} (read : Bool → List Char → α) {cs : List Char}
    (hplus : ∀ rest, cs = '+' :: rest → False) (hminus : ∀ rest, cs = '-' :: rest → False) :
    signed read cs = read false cs := by
  apply signed_of_ne
  · intro h
    obtain ⟨rest, hrest⟩ := List.head?_eq_some_iff.mp h
    exact hplus rest hrest
  · intro h
    obtain ⟨rest, hrest⟩ := List.head?_eq_some_iff.mp h
    exact hminus rest hrest

/-- Signs have no case. -/
theorem signed_map_toLower {α : Type} {read : Bool → List Char → α}
    (hread : ∀ negative cs, read negative (cs.map Char.toLower) = read negative cs)
    (cs : List Char) : signed read (cs.map Char.toLower) = signed read cs := by
  cases cs with
  | nil => rfl
  | cons c cs =>
    by_cases hplus : c = '+'
    · subst hplus
      exact hread false cs
    · by_cases hminus : c = '-'
      · subst hminus
        exact hread true cs
      · rw [signed_of_ne, signed_of_ne, hread]
        · simpa using hplus
        · simpa using hminus
        · simpa using (toLower_eq_iff (d := '+') (by decide)).not.mpr hplus
        · simpa using (toLower_eq_iff (d := '-') (by decide)).not.mpr hminus

/-! ### `Decimal(s)` -/

namespace Decimal

theorem takeDigits_map_toLower (cs : List Char) :
    takeDigits (cs.map Char.toLower) =
      ((takeDigits cs).1, (takeDigits cs).2.map Char.toLower) := by
  induction cs with
  | nil => rfl
  | cons c cs ih =>
    rw [List.map_cons, takeDigits, takeDigits, digitValue_toLower]
    cases digitValue c with
    | none => rfl
    | some d => rw [ih]

theorem isWordThenDigits_map_toLower (word : String) (cs : List Char) :
    isWordThenDigits word (cs.map Char.toLower) = isWordThenDigits word cs := by
  have hcomp : Char.toLower ∘ Char.toLower = Char.toLower := funext toLower_toLower
  simp only [isWordThenDigits, ← List.map_take, ← List.map_drop, takeDigits_map_toLower,
    List.map_map, hcomp, List.isEmpty_map]

/-- The digits of an exponent. -/
def exponentDigits (negative : Bool) (cs : List Char) : Option ℤ :=
  match takeDigits cs with
  | ([], _) => none
  | (ds, []) => some ((if negative then -1 else 1) * ofDigits ds)
  | (_, _ :: _) => none

theorem exponentOf_cons (e : Char) (cs : List Char) :
    exponentOf (e :: cs) = if e = 'e' ∨ e = 'E' then signed exponentDigits cs else none := by
  by_cases he : e = 'e' ∨ e = 'E'
  · rw [if_pos he]
    rcases cs with _ | ⟨c, cs⟩
    · exact if_pos he
    · by_cases hplus : c = '+'
      · subst hplus
        exact if_pos he
      · by_cases hminus : c = '-'
        · subst hminus
          exact if_pos he
        · rw [signed_of_ne _ (by simpa using hplus) (by simpa using hminus), exponentOf, if_pos he]
          · rfl
          · simpa using hplus
          · simpa using hminus
  · rw [if_neg he]
    exact if_neg he

theorem exponentDigits_map_toLower (negative : Bool) (cs : List Char) :
    exponentDigits negative (cs.map Char.toLower) = exponentDigits negative cs := by
  unfold exponentDigits
  rw [takeDigits_map_toLower]
  rcases takeDigits cs with ⟨_ | ⟨d, ds⟩, _ | ⟨c, rest⟩⟩
  · rfl
  · rfl
  · rfl
  · rfl

theorem exponentOf_map_toLower (cs : List Char) :
    exponentOf (cs.map Char.toLower) = exponentOf cs := by
  cases cs with
  | nil => rfl
  | cons e cs =>
    rw [List.map_cons, exponentOf_cons, exponentOf_cons,
      signed_map_toLower exponentDigits_map_toLower]
    exact if_congr (toLower_eq_letter_iff (by decide)) rfl rfl

/-- The value of the digits before and after the point, with what follows them. -/
def numericOf (whole fraction : List ℕ) (rest : List Char) : Option ℚ :=
  if whole = [] ∧ fraction = [] then none
  else
    match exponentOf rest with
    | none => none
    | some e =>
      if isExact (ofDigits (whole ++ fraction)) fraction.length e then
        some ((ofDigits (whole ++ fraction) : ℚ) * 10 ^ (e - (fraction.length : ℤ)))
      else none

theorem numericValue_of_point {cs ds : List Char} {whole : List ℕ}
    (h : takeDigits cs = (whole, '.' :: ds)) :
    numericValue cs = numericOf whole (takeDigits ds).1 (takeDigits ds).2 := by
  rw [numericValue, h]
  rfl

theorem numericValue_of_no_point {cs rest : List Char} {whole : List ℕ}
    (h : takeDigits cs = (whole, rest)) (hrest : rest.head? ≠ some '.') :
    numericValue cs = numericOf whole [] rest := by
  rw [numericValue, h]
  dsimp only
  split
  · exact absurd rfl hrest
  · rfl

theorem numericValue_map_toLower (cs : List Char) :
    numericValue (cs.map Char.toLower) = numericValue cs := by
  obtain ⟨whole, rest, h⟩ : ∃ whole rest, takeDigits cs = (whole, rest) := ⟨_, _, rfl⟩
  have hlower : takeDigits (cs.map Char.toLower) = (whole, rest.map Char.toLower) := by
    rw [takeDigits_map_toLower, h]
  have hnumeric (whole fraction : List ℕ) (rest : List Char) :
      numericOf whole fraction (rest.map Char.toLower) = numericOf whole fraction rest := by
    rw [numericOf, exponentOf_map_toLower, ← numericOf]
  by_cases hpoint : rest.head? = some '.'
  · obtain ⟨ds, rfl⟩ := List.head?_eq_some_iff.mp hpoint
    rw [numericValue_of_point h, numericValue_of_point hlower, takeDigits_map_toLower, hnumeric]
  · rw [numericValue_of_no_point h hpoint, numericValue_of_no_point hlower ?_, hnumeric]
    rw [List.head?_map]
    cases rest with
    | nil => simp
    | cons c rest => simpa [toLower_eq_iff (d := '.') (by decide)] using hpoint

/-- A text without its sign. -/
def ofUnsigned (negative : Bool) (body : List Char) : Option Decimal :=
  let word := body.map Char.toLower
  if word = "inf".toList ∨ word = "infinity".toList then some (.infinity negative)
  else if isWordThenDigits "nan" body then some .nan
  else if isWordThenDigits "snan" body then some .snan
  else (numericValue body).map fun q => .finite (if negative then -q else q)

theorem ofString_eq (s : String) :
    ofString s = signed ofUnsigned ((stripChars s.toList).filter (· ≠ '_')) := by
  unfold ofString
  dsimp only
  split
  · rename_i cs h
    rw [h]
    rfl
  · rename_i cs h
    rw [h]
    rfl
  · rename_i hplus hminus
    rw [signed_of_forall_ne _ hplus hminus]
    rfl

theorem ofUnsigned_map_toLower (negative : Bool) (cs : List Char) :
    ofUnsigned negative (cs.map Char.toLower) = ofUnsigned negative cs := by
  have hcomp : Char.toLower ∘ Char.toLower = Char.toLower := funext toLower_toLower
  simp only [ofUnsigned, List.map_map, hcomp, isWordThenDigits_map_toLower,
    numericValue_map_toLower]

/-- **`Decimal(s.lower())` is `Decimal(s)`.** -/
theorem ofString_lower (s : String) : ofString (lower s) = ofString s := by
  have hfilter (cs : List Char) :
      (cs.map Char.toLower).filter (· ≠ '_') = (cs.filter (· ≠ '_')).map Char.toLower := by
    have hunderscore (c : Char) : decide (c.toLower ≠ '_') = decide (c ≠ '_') := by
      rw [decide_eq_decide]
      exact not_congr (toLower_eq_iff (by decide))
    rw [List.filter_map]
    exact congrArg _ (List.filter_congr fun c _ => hunderscore c)
  rw [ofString_eq, ofString_eq, lower, String.toList_ofList, stripChars_map_toLower, hfilter,
    signed_map_toLower ofUnsigned_map_toLower]

end Decimal

/-! ### `int(s, 16)` -/

theorem digitRun_map_toLower {value : Char → Option ℕ} (hvalue : ∀ c, value c.toLower = value c)
    (cs : List Char) : digitRun value (cs.map Char.toLower) = digitRun value cs := by
  induction cs using digitRun.induct with
  | case1 => rfl
  | case2 c => simp only [List.map_singleton, digitRun, hvalue]
  | case3 c rest ih =>
    have hunderscore : Char.toLower '_' = '_' := by decide
    simp only [List.map_cons, hunderscore, digitRun, hvalue, ih]
  | case4 c rest hne hunderscore ih =>
    have hne' : rest.map Char.toLower ≠ [] := fun h => hne (List.map_eq_nil_iff.mp h)
    have hunderscore' (cs : List Char) : rest.map Char.toLower ≠ '_' :: cs := by
      intro h
      obtain ⟨d, rest', rfl, hd, -⟩ := List.map_eq_cons_iff.mp h
      rw [toLower_eq_iff (by decide)] at hd
      exact hunderscore rest' (by rw [hd])
    rw [List.map_cons, digitRun.eq_4 value _ _ hne' hunderscore', digitRun.eq_4 value c rest hne
      hunderscore, hvalue, ih]

/-- The digits of an unsigned literal, without its mark. -/
def hexBody (cs : List Char) : List Char :=
  match cs with
  | '0' :: 'x' :: '_' :: rest => rest
  | '0' :: 'X' :: '_' :: rest => rest
  | '0' :: 'x' :: rest => rest
  | '0' :: 'X' :: rest => rest
  | _ => cs

theorem natOfHexChars_eq (cs : List Char) :
    natOfHexChars cs =
      match digitRun hexDigitValue (hexBody cs) with
      | none => .error .valueError
      | some ds => .ok (ds.foldl (fun n d => 16 * n + d) 0) := rfl

theorem hexBody_of_mark {x : Char} (hx : x = 'x' ∨ x = 'X') (cs : List Char) :
    hexBody ('0' :: x :: cs) = if cs.head? = some '_' then cs.tail else cs := by
  rcases cs with _ | ⟨c, cs⟩
  · rcases hx with rfl | rfl
    · rfl
    · rfl
  · by_cases hc : c = '_'
    · subst hc
      rcases hx with rfl | rfl
      · rfl
      · rfl
    · rw [if_neg (by simpa using hc)]
      rcases hx with rfl | rfl
      · simp [hexBody, hc]
      · simp [hexBody, hc]

theorem hexBody_of_no_mark {cs : List Char}
    (h : ∀ x rest, cs = '0' :: x :: rest → ¬(x = 'x' ∨ x = 'X')) : hexBody cs = cs := by
  unfold hexBody
  split
  · exact absurd (.inl rfl) (h _ _ rfl)
  · exact absurd (.inr rfl) (h _ _ rfl)
  · exact absurd (.inl rfl) (h _ _ rfl)
  · exact absurd (.inr rfl) (h _ _ rfl)
  · rfl

theorem hexBody_map_toLower (cs : List Char) :
    hexBody (cs.map Char.toLower) = (hexBody cs).map Char.toLower := by
  have hzero (c : Char) : c.toLower = '0' ↔ c = '0' := toLower_eq_iff (by decide)
  have hmark (c : Char) : (c.toLower = 'x' ∨ c.toLower = 'X') ↔ (c = 'x' ∨ c = 'X') :=
    toLower_eq_letter_iff (by decide)
  by_cases h : ∃ x rest, cs = '0' :: x :: rest ∧ (x = 'x' ∨ x = 'X')
  · obtain ⟨x, rest, rfl, hx⟩ := h
    show hexBody ('0' :: x.toLower :: rest.map Char.toLower) = _
    rw [hexBody_of_mark hx, hexBody_of_mark ((hmark x).mpr hx), List.head?_map]
    rcases rest with _ | ⟨c, rest⟩
    · rfl
    · have hunderscore : c.toLower = '_' ↔ c = '_' := toLower_eq_iff (by decide)
      simp only [List.head?_cons, Option.map_some, Option.some.injEq, hunderscore]
      by_cases hc : c = '_'
      · rw [if_pos hc, if_pos hc]
        rfl
      · rw [if_neg hc, if_neg hc]
  · rw [hexBody_of_no_mark, hexBody_of_no_mark]
    · intro x rest hcs hx
      exact h ⟨x, rest, hcs, hx⟩
    · intro x rest hcs hx
      obtain ⟨c, cs', rfl, hc, hcs'⟩ := List.map_eq_cons_iff.mp hcs
      obtain ⟨x', rest', rfl, rfl, -⟩ := List.map_eq_cons_iff.mp hcs'
      rw [hzero] at hc
      exact h ⟨x', rest', by rw [hc], (hmark x').mp hx⟩

/-- The value of a literal with its sign. -/
def hexNumber (negative : Bool) (cs : List Char) : Except PyError ℤ :=
  match natOfHexChars cs with
  | .error e => .error e
  | .ok n => .ok (if negative then -(n : ℤ) else n)

theorem int16_eq (s : String) : int16 s = signed hexNumber (stripChars s.toList) := by
  unfold int16
  split
  · rename_i cs h
    rw [h]
    show _ = hexNumber false cs
    unfold hexNumber
    cases natOfHexChars cs with
    | error e => rfl
    | ok n => rfl
  · rename_i cs h
    rw [h]
    show _ = hexNumber true cs
    unfold hexNumber
    cases natOfHexChars cs with
    | error e => rfl
    | ok n => rfl
  · rename_i hplus hminus
    rw [signed_of_forall_ne _ hplus hminus]
    unfold hexNumber
    cases natOfHexChars (stripChars s.toList) with
    | error e => rfl
    | ok n => rfl

theorem hexNumber_map_toLower (negative : Bool) (cs : List Char) :
    hexNumber negative (cs.map Char.toLower) = hexNumber negative cs := by
  rw [hexNumber, natOfHexChars_eq, hexBody_map_toLower, digitRun_map_toLower hexDigitValue_toLower,
    ← natOfHexChars_eq, ← hexNumber]

/-- **`int(s.lower(), 16)` is `int(s, 16)`.** -/
theorem int16_lower (s : String) : int16 (lower s) = int16 s := by
  rw [int16_eq, int16_eq, lower, String.toList_ofList, stripChars_map_toLower,
    signed_map_toLower hexNumber_map_toLower]

/-! ### The characters of numbers -/

/-- The characters that texts of numbers consist of. -/
def IsPlain (c : Char) : Prop := c.toNat < 128 ∨ isSpace c = true ∨ (digitValue c).isSome = true

theorem isPlain_of_toLower {c : Char} (h : c.toLower.toNat < 128) : IsPlain c := by
  rcases toLower_cases c with hsame | ⟨hlo, hhi, -⟩
  · exact .inl (hsame ▸ h)
  · exact .inl (by omega)

theorem mem_stripChars {c : Char} {cs : List Char} (h : c ∈ cs) :
    isSpace c = true ∨ c ∈ stripChars cs := by
  have hdrop {c : Char} {cs : List Char} (h : c ∈ cs) :
      isSpace c = true ∨ c ∈ cs.dropWhile isSpace := by
    rw [← List.takeWhile_append_dropWhile (p := isSpace) (l := cs), List.mem_append] at h
    exact h.imp_left List.mem_takeWhile_imp
  rcases hdrop h with hspace | h
  · exact .inl hspace
  · rcases hdrop (List.mem_reverse.mpr h) with hspace | h
    · exact .inl hspace
    · exact .inr (List.mem_reverse.mpr h)

/-- A text is plain if what is left without the spaces around it is. -/
theorem isPlain_of_stripChars {cs : List Char} (h : ∀ c ∈ stripChars cs, IsPlain c) :
    ∀ c ∈ cs, IsPlain c := by
  intro c hc
  rcases mem_stripChars hc with hspace | hc
  · exact .inr (.inl hspace)
  · exact h c hc

theorem isPlain_of_signed {α : Type} {read : Bool → List Char → α} {x : α} {cs : List Char}
    (h : signed read cs = x)
    (hread : ∀ negative cs, read negative cs = x → ∀ c ∈ cs, IsPlain c) :
    ∀ c ∈ cs, IsPlain c := by
  unfold signed at h
  split at h
  · rw [List.forall_mem_cons]
    exact ⟨.inl (by decide), hread _ _ h⟩
  · rw [List.forall_mem_cons]
    exact ⟨.inl (by decide), hread _ _ h⟩
  · exact hread _ _ h

namespace Decimal

/-- A text is plain if what follows its first digits is. -/
theorem isPlain_of_takeDigits {cs : List Char} (h : ∀ c ∈ (takeDigits cs).2, IsPlain c) :
    ∀ c ∈ cs, IsPlain c := by
  induction cs with
  | nil => exact h
  | cons c cs ih =>
    cases hc : digitValue c with
    | none =>
      rw [takeDigits, hc] at h
      exact h
    | some d =>
      rw [takeDigits, hc] at h
      rw [List.forall_mem_cons]
      exact ⟨.inr (.inr (by rw [hc]; rfl)), ih h⟩

theorem isPlain_of_exponentDigits {negative : Bool} {cs : List Char} {e : ℤ}
    (h : exponentDigits negative cs = some e) : ∀ c ∈ cs, IsPlain c := by
  apply isPlain_of_takeDigits
  unfold exponentDigits at h
  split at h
  · cases h
  · rename_i hdigits
    rw [hdigits]
    simp
  · cases h

theorem isPlain_of_exponentOf {cs : List Char} {e : ℤ} (h : exponentOf cs = some e) :
    ∀ c ∈ cs, IsPlain c := by
  cases cs with
  | nil => simp
  | cons c cs =>
    rw [exponentOf_cons] at h
    split_ifs at h with he
    rw [List.forall_mem_cons]
    refine ⟨?_, isPlain_of_signed h fun _ _ => isPlain_of_exponentDigits⟩
    rcases he with rfl | rfl
    · exact .inl (by decide)
    · exact .inl (by decide)

theorem isPlain_of_numericOf {whole fraction : List ℕ} {rest : List Char} {q : ℚ}
    (h : numericOf whole fraction rest = some q) : ∀ c ∈ rest, IsPlain c := by
  unfold numericOf at h
  split_ifs at h
  cases he : exponentOf rest with
  | none =>
    rw [he] at h
    cases h
  | some e => exact isPlain_of_exponentOf he

theorem isPlain_of_numericValue {cs : List Char} {q : ℚ} (h : numericValue cs = some q) :
    ∀ c ∈ cs, IsPlain c := by
  obtain ⟨whole, rest, hdigits⟩ : ∃ whole rest, takeDigits cs = (whole, rest) := ⟨_, _, rfl⟩
  apply isPlain_of_takeDigits
  rw [hdigits]
  by_cases hpoint : rest.head? = some '.'
  · obtain ⟨ds, rfl⟩ := List.head?_eq_some_iff.mp hpoint
    rw [numericValue_of_point hdigits] at h
    rw [List.forall_mem_cons]
    exact ⟨.inl (by decide), isPlain_of_takeDigits (isPlain_of_numericOf h)⟩
  · rw [numericValue_of_no_point hdigits hpoint] at h
    exact isPlain_of_numericOf h

/-- Characters that are an ASCII word in lower case. -/
theorem isPlain_of_word {cs word : List Char} (h : cs.map Char.toLower = word)
    (hword : word.all (fun c => c.toNat < 128) = true) : ∀ c ∈ cs, IsPlain c := by
  intro c hc
  apply isPlain_of_toLower
  apply of_decide_eq_true
  apply List.all_eq_true.mp hword
  rw [← h]
  exact List.mem_map_of_mem hc

theorem isPlain_of_isWordThenDigits {word : String} {cs : List Char}
    (h : isWordThenDigits word cs = true)
    (hword : word.toList.all (fun c => c.toNat < 128) = true) :
    ∀ c ∈ cs, IsPlain c := by
  simp only [isWordThenDigits, Bool.and_eq_true, beq_iff_eq, List.isEmpty_iff] at h
  intro c hc
  rw [← List.take_append_drop word.toList.length cs, List.mem_append] at hc
  rcases hc with hc | hc
  · exact isPlain_of_word h.1 hword c hc
  · refine isPlain_of_takeDigits ?_ c hc
    rw [h.2]
    simp

theorem isPlain_of_ofUnsigned {negative : Bool} {cs : List Char} {d : Decimal}
    (h : ofUnsigned negative cs = some d) : ∀ c ∈ cs, IsPlain c := by
  unfold ofUnsigned at h
  dsimp only at h
  split_ifs at h with hinf hnan hsnan
  · rcases hinf with hinf | hinf
    · exact isPlain_of_word hinf (by decide)
    · exact isPlain_of_word hinf (by decide)
  · exact isPlain_of_isWordThenDigits hnan (by decide)
  · exact isPlain_of_isWordThenDigits hsnan (by decide)
  all_goals
    obtain ⟨q, hq, -⟩ := Option.map_eq_some_iff.mp h
    exact isPlain_of_numericValue hq

/-- **What `Decimal` reads is plain.** -/
theorem isPlain_of_ofString {s : String} {d : Decimal} (h : ofString s = some d) :
    ∀ c ∈ s.toList, IsPlain c := by
  rw [ofString_eq] at h
  have hbody := isPlain_of_signed h fun _ _ => isPlain_of_ofUnsigned
  apply isPlain_of_stripChars
  intro c hc
  by_cases hunderscore : c = '_'
  · rw [hunderscore]
    exact .inl (by decide)
  · exact hbody c (List.mem_filter.mpr ⟨hc, by simpa using hunderscore⟩)

end Decimal

theorem isPlain_of_hexDigitValue {c : Char} {d : ℕ} (h : hexDigitValue c = some d) : IsPlain c := by
  rw [hexDigitValue_eq] at h
  split_ifs at h with hsmall hbig
  · exact .inl (by omega)
  · exact .inl (by omega)
  · exact .inr (.inr (by rw [h]; rfl))

theorem isPlain_of_digitRun {cs : List Char} {ds : List ℕ}
    (h : digitRun hexDigitValue cs = some ds) : ∀ c ∈ cs, IsPlain c := by
  induction cs using digitRun.induct generalizing ds with
  | case1 => cases h
  | case2 c =>
    obtain ⟨d, hd, -⟩ := Option.map_eq_some_iff.mp h
    rw [List.forall_mem_singleton]
    exact isPlain_of_hexDigitValue hd
  | case3 c rest ih =>
    obtain ⟨d, hd, h⟩ := Option.bind_eq_some_iff.mp h
    obtain ⟨ds', hds, -⟩ := Option.bind_eq_some_iff.mp h
    rw [List.forall_mem_cons, List.forall_mem_cons]
    exact ⟨isPlain_of_hexDigitValue hd, .inl (by decide), ih hds⟩
  | case4 c rest hne hunderscore ih =>
    rw [digitRun.eq_4 hexDigitValue c rest hne hunderscore] at h
    obtain ⟨d, hd, h⟩ := Option.bind_eq_some_iff.mp h
    obtain ⟨ds', hds, -⟩ := Option.bind_eq_some_iff.mp h
    rw [List.forall_mem_cons]
    exact ⟨isPlain_of_hexDigitValue hd, ih hds⟩

/-- A literal is plain if its digits are. -/
theorem isPlain_of_hexBody {cs : List Char} (h : ∀ c ∈ hexBody cs, IsPlain c) :
    ∀ c ∈ cs, IsPlain c := by
  have hmark : IsPlain '0' ∧ IsPlain 'x' ∧ IsPlain 'X' ∧ IsPlain '_' :=
    ⟨.inl (by decide), .inl (by decide), .inl (by decide), .inl (by decide)⟩
  unfold hexBody at h
  split at h
  · simpa [hmark] using h
  · simpa [hmark] using h
  · simpa [hmark] using h
  · simpa [hmark] using h
  · exact h

/-- **What `int(s, 16)` reads is plain.** -/
theorem isPlain_of_int16 {s : String} {n : ℤ} (h : int16 s = .ok n) :
    ∀ c ∈ s.toList, IsPlain c := by
  rw [int16_eq] at h
  apply isPlain_of_stripChars
  refine isPlain_of_signed h fun negative cs hcs => isPlain_of_hexBody ?_
  rw [hexNumber, natOfHexChars_eq] at hcs
  cases hrun : digitRun hexDigitValue (hexBody cs) with
  | none =>
    rw [hrun] at hcs
    cases hcs
  | some ds => exact isPlain_of_digitRun hrun

/-! ### The text of an integer -/

theorem toNat_of_isDigit {c : Char} (h : c.isDigit = true) : 48 ≤ c.toNat ∧ c.toNat ≤ 57 := by
  simp only [Char.isDigit, Bool.and_eq_true, decide_eq_true_eq, ge_iff_le,
    UInt32.le_iff_toNat_le] at h
  exact h

theorem digitValue_of_isDigit {c : Char} (h : c.isDigit = true) :
    digitValue c = some (c.toNat - '0'.toNat) := by
  have hrange : (decide (0x30 ≤ c.toNat) && decide (c.toNat ≤ 0x30 + 9)) = true := by
    simpa using toNat_of_isDigit h
  have hzeros : digitZeros = 0x30 :: digitZeros.tail := rfl
  rw [digitValue, hzeros]
  simp only [List.find?_cons, hrange]
  rfl

/-- A text of digits is a run of them. -/
theorem digits_of_isDigit {cs : List Char} (h : ∀ c ∈ cs, c.isDigit = true) (hne : cs ≠ []) :
    digits cs = some (cs.map fun c => c.toNat - '0'.toNat) := by
  induction cs with
  | nil => exact absurd rfl hne
  | cons c cs ih =>
    rw [List.forall_mem_cons] at h
    cases hcs : cs with
    | nil =>
      rw [digits, digitRun, digitValue_of_isDigit h.1]
      rfl
    | cons c' cs' =>
      have hhead : cs.head? ≠ some '_' := by
        intro hunderscore
        exact absurd (h.2 _ (List.mem_of_head? hunderscore)) (by decide)
      have hcons : cs ≠ [] := by simp [hcs]
      rw [← hcs, digits, digitRun_cons (digitValue_of_isDigit h.1) hcons hhead]
      exact congrArg (Option.map _) (ih h.2 hcons)

/-- The digits of a number that is not too long are read as the number. -/
theorem natOfChars_toDigits {n : ℕ} (h : n < 10 ^ maxStrDigits) :
    natOfChars (Nat.toDigits 10 n) = .ok n := by
  have hdigit : ∀ c ∈ Nat.toDigits 10 n, c.isDigit = true := fun c hc =>
    Nat.isDigit_of_mem_toDigits (by omega) le_rfl hc
  have hlength : (Nat.toDigits 10 n).length ≤ maxStrDigits :=
    (Nat.length_toDigits_le_iff (by decide) (by decide)).mpr h
  rw [natOfChars, digits_of_isDigit hdigit Nat.toDigits_ne_nil]
  dsimp only
  rw [if_pos (by rwa [List.length_map]), List.foldl_map, ← Nat.ofDigitChars_eq_foldl,
    Nat.ofDigitChars_ten_toDigits]

/-- The characters of the text of an integer. -/
theorem toList_toString (n : ℤ) :
    (toString n).toList =
      if 0 ≤ n then Nat.toDigits 10 n.natAbs else '-' :: Nat.toDigits 10 n.natAbs := by
  rw [Int.toString_eq_repr, Int.repr_eq_if]
  split_ifs with hn
  · have habs : n.toNat = n.natAbs := by omega
    rw [Nat.toList_repr, habs]
  · have habs : (-n).toNat = n.natAbs := by omega
    rw [String.toList_append, Nat.toList_repr, habs]
    rfl

theorem toString_range {n : ℤ} {c : Char} (h : c ∈ (toString n).toList) :
    c = '-' ∨ 48 ≤ c.toNat ∧ c.toNat ≤ 57 := by
  have hdigit (hc : c ∈ Nat.toDigits 10 n.natAbs) : 48 ≤ c.toNat ∧ c.toNat ≤ 57 :=
    toNat_of_isDigit (Nat.isDigit_of_mem_toDigits (by omega) le_rfl hc)
  rw [toList_toString] at h
  split_ifs at h with hn
  · exact .inr (hdigit h)
  · exact (List.mem_cons.mp h).imp id hdigit

/-- An unsigned decimal literal, with the sign before it. -/
def decimalNumber (negative : Bool) (cs : List Char) : Except PyError ℤ :=
  (natOfChars cs).map fun n => if negative then -(n : ℤ) else n

theorem int_eq (s : String) : int s = signed decimalNumber (stripChars s.toList) := by
  unfold int
  split
  · rename_i cs h
    rw [h]
    rfl
  · rename_i cs h
    rw [h]
    rfl
  · rename_i hplus hminus
    rw [signed_of_forall_ne _ hplus hminus]
    rfl

/-- Digits have no sign before them. -/
theorem signed_toDigits {α : Type} (read : Bool → List Char → α) (n : ℕ) :
    signed read (Nat.toDigits 10 n) = read false (Nat.toDigits 10 n) := by
  have hhead {c : Char} (hc : c.isDigit = false) : (Nat.toDigits 10 n).head? ≠ some c := by
    intro hsome
    have hdigit := Nat.isDigit_of_mem_toDigits (by omega) le_rfl (List.mem_of_head? hsome)
    rw [hc] at hdigit
    exact Bool.false_ne_true hdigit
  exact signed_of_ne _ (hhead (by decide)) (hhead (by decide))

/-- **`int(str(n))` is `n`**, if `n` is not too long. -/
theorem int_toString {n : ℤ} (h : n.natAbs < 10 ^ maxStrDigits) : int (toString n) = .ok n := by
  have hspace : ∀ c ∈ (toString n).toList, isSpace c = false := by
    intro c hc
    obtain rfl | hrange := toString_range hc
    · decide
    · exact isSpace_eq_false (by omega)
  rw [int_eq, stripChars_of_forall hspace, toList_toString]
  split_ifs with hn
  · have habs : (n.natAbs : ℤ) = n := by omega
    rw [signed_toDigits, decimalNumber, natOfChars_toDigits h]
    exact congrArg Except.ok habs
  · have habs : -(n.natAbs : ℤ) = n := by omega
    rw [signed, decimalNumber, natOfChars_toDigits h]
    exact congrArg Except.ok habs

namespace Decimal

theorem takeDigits_of_isDigit {cs : List Char} (h : ∀ c ∈ cs, c.isDigit = true) :
    takeDigits cs = (cs.map fun c => c.toNat - '0'.toNat, []) := by
  induction cs with
  | nil => rfl
  | cons c cs ih =>
    rw [List.forall_mem_cons] at h
    rw [takeDigits, digitValue_of_isDigit h.1, ih h.2]
    rfl

/-- A number of at most `MAX_PREC` digits needs no exponent. -/
theorem isExact_of_length_le {n : ℕ} (h : (Nat.toDigits 10 n).length ≤ maxPrec) :
    isExact n 0 0 = true := by
  have hdigits : ((0 : ℤ) - (0 : ℕ)) + (Nat.toDigits 10 n).length - 1 ≤ maxEmax := by
    unfold maxPrec at h
    unfold maxEmax
    omega
  exact decide_eq_true ⟨Nat.zero_le _, h, hdigits, by decide⟩

theorem numericValue_of_isDigit {cs : List Char} (h : ∀ c ∈ cs, c.isDigit = true) (hne : cs ≠ [])
    (hlength : (Nat.toDigits 10 (Nat.ofDigitChars 10 cs 0)).length ≤ maxPrec) :
    numericValue cs = some (Nat.ofDigitChars 10 cs 0 : ℚ) := by
  have hwhole : ¬((cs.map fun c => c.toNat - '0'.toNat) = [] ∧ ([] : List ℕ) = []) := by
    simpa using hne
  have hdigits :
      ofDigits ((cs.map fun c => c.toNat - '0'.toNat) ++ []) = Nat.ofDigitChars 10 cs 0 := by
    rw [List.append_nil, ofDigits, List.foldl_map, Nat.ofDigitChars_eq_foldl]
  rw [numericValue_of_no_point (takeDigits_of_isDigit h) (by simp), numericOf, if_neg hwhole,
    hdigits]
  show (if isExact (Nat.ofDigitChars 10 cs 0) 0 0 then
    some ((Nat.ofDigitChars 10 cs 0 : ℚ) * 10 ^ (0 - (0 : ℤ))) else none) = _
  rw [if_pos (isExact_of_length_le hlength)]
  simp

/-- A text of digits is no word. -/
theorem isWordThenDigits_of_isDigit (word : String) {cs : List Char}
    (h : ∀ c ∈ cs, c.isDigit = true) {w : Char} (hw : w ∈ word.toList) (hletter : 57 < w.toNat) :
    isWordThenDigits word cs = false := by
  rw [isWordThenDigits, Bool.and_eq_false_iff]
  left
  rw [beq_eq_false_iff_ne]
  intro heq
  rw [← heq, List.mem_map] at hw
  obtain ⟨c, hc, rfl⟩ := hw
  have hrange := toNat_of_isDigit (h c (List.mem_of_mem_take hc))
  rcases toLower_cases c with hsame | hupper
  · rw [hsame] at hletter
    omega
  · omega

/-- Digits are read as the number they are the digits of, with the sign before them. -/
theorem ofUnsigned_toDigits (negative : Bool) {n : ℕ}
    (hlength : (Nat.toDigits 10 n).length ≤ maxPrec) :
    ofUnsigned negative (Nat.toDigits 10 n) = some (.finite (if negative then -n else n)) := by
  have hdigit : ∀ c ∈ Nat.toDigits 10 n, c.isDigit = true := fun c hc =>
    Nat.isDigit_of_mem_toDigits (by omega) le_rfl hc
  have hword (word : String) {w : Char} (hw : w ∈ word.toList) (hletter : 57 < w.toNat) :
      (Nat.toDigits 10 n).map Char.toLower ≠ word.toList := by
    intro heq
    rw [← heq, List.mem_map] at hw
    obtain ⟨c, hc, rfl⟩ := hw
    have hrange := toNat_of_isDigit (hdigit c hc)
    rcases toLower_cases c with hsame | hupper
    · rw [hsame] at hletter
      omega
    · omega
  have hinf := hword "inf" (w := 'i') (by decide) (by decide)
  have hinfinity := hword "infinity" (w := 'i') (by decide) (by decide)
  have hnan := isWordThenDigits_of_isDigit "nan" hdigit (w := 'n') (by decide) (by decide)
  have hsnan := isWordThenDigits_of_isDigit "snan" hdigit (w := 'n') (by decide) (by decide)
  have hvalue : numericValue (Nat.toDigits 10 n) = some (n : ℚ) := by
    rw [numericValue_of_isDigit hdigit Nat.toDigits_ne_nil, Nat.ofDigitChars_ten_toDigits]
    rwa [Nat.ofDigitChars_ten_toDigits]
  unfold ofUnsigned
  dsimp only
  rw [if_neg (not_or.mpr ⟨hinf, hinfinity⟩), hnan, hsnan, if_neg Bool.false_ne_true,
    if_neg Bool.false_ne_true, hvalue]
  rfl

/-- A text that neither stripping nor dropping underscores changes. -/
theorem ofString_of_tight {s : String} (hspace : ∀ c ∈ s.toList, isSpace c = false)
    (hunderscore : '_' ∉ s.toList) : ofString s = signed ofUnsigned s.toList := by
  rw [ofString_eq, stripChars_of_forall hspace, List.filter_eq_self.mpr]
  intro c hc
  have hne : c ≠ '_' := fun h => hunderscore (h ▸ hc)
  simpa using hne

/-- **`Decimal(str(n))` is `n`**, if `n` is not too long. -/
theorem ofString_toString {n : ℤ} (h : n.natAbs < 10 ^ maxStrDigits) :
    ofString (toString n) = some (.finite n) := by
  have hlength : (Nat.toDigits 10 n.natAbs).length ≤ maxPrec :=
    ((Nat.length_toDigits_le_iff (by decide) (by decide)).mpr h).trans (by decide)
  have hspace : ∀ c ∈ (toString n).toList, isSpace c = false := by
    intro c hc
    obtain rfl | hrange := toString_range hc
    · decide
    · exact isSpace_eq_false (by omega)
  have hunderscore : '_' ∉ (toString n).toList := by
    intro hc
    obtain h | hrange := toString_range hc
    · exact absurd h (by decide)
    · exact absurd hrange.2 (by decide)
  rw [ofString_of_tight hspace hunderscore, toList_toString]
  split_ifs with hn
  · have habs : ((n.natAbs : ℤ) : ℚ) = n := by rw [Int.natAbs_of_nonneg hn]
    rw [signed_toDigits, ofUnsigned_toDigits _ hlength, if_neg Bool.false_ne_true, ← habs,
      Int.cast_natCast]
  · have habs : ((-(n.natAbs : ℤ) : ℤ) : ℚ) = n := by rw [show -(n.natAbs : ℤ) = n by omega]
    rw [signed, ofUnsigned_toDigits _ hlength, if_pos rfl, ← habs, Int.cast_neg, Int.cast_natCast]

end Decimal

end TripWire.Py
