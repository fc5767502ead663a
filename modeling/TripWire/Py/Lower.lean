import Mathlib.Data.List.Forall2
import TripWire.Py.DecimalText

/-!
# `str.lower` on every text

`lower` maps the ASCII letters, which is all that a hex text needs.  `CaseTable.lower` is the method
itself: each character is replaced by its full lower-case mapping, and a capital sigma at the end of
a word by the final form of the letter.  The mappings and the two classes of characters that decide
where a word ends come from the Unicode character database; `CaseTable` has them with the few facts
about them that hold in every version.

Lowering brings in no character that is neither there nor a letter (`CaseTable.mem_of_mem_lower`).
It does not see the case of letters (`CaseTable.lower_eq_of_sameLetter`), and on ASCII texts it is
`lower` (`CaseTable.lower_of_ascii`).
-/

namespace TripWire.Py

/-- What `str.lower` takes from the Unicode character database. -/
structure CaseTable where
  /-- The full lower-case mapping of a character. -/
  toLower : Char → List Char
  /-- The property `Cased`. -/
  cased : Char → Bool
  /-- The property `Case_Ignorable`. -/
  ignorable : Char → Bool
  toLower_ascii : ∀ {c}, c.toNat < 128 → toLower c = [c.toLower]
  /-- The ASCII characters in other mappings are small letters. -/
  letter_of_mem_toLower :
    ∀ {c d}, 128 ≤ c.toNat → d ∈ toLower c → d.toNat < 128 → 97 ≤ d.toNat ∧ d.toNat ≤ 122
  /-- The forms of one letter are of one class. -/
  cased_congr : ∀ {c d}, toLower c = toLower d → cased c = cased d
  ignorable_congr : ∀ {c d}, toLower c = toLower d → ignorable c = ignorable d

namespace CaseTable

variable (table : CaseTable)

/-- Whether a cased character comes next, after any that are ignorable. -/
def startsCased : List Char → Bool
  | [] => false
  | c :: cs => if table.ignorable c then startsCased cs else table.cased c

/-- `lower_ucs4`: the lower case of `c` between two texts; `before` says whether the one before it
ends cased, up to characters that are ignorable. -/
def lowerChar (before : Bool) (c : Char) (after : List Char) : List Char :=
  if c = 'Σ' then [if before && !table.startsCased after then 'ς' else 'σ'] else table.toLower c

/-- The lower case of a text, after one that ends cased or does not. -/
def lowerFrom : Bool → List Char → List Char
  | _, [] => []
  | before, c :: cs =>
    table.lowerChar before c cs ++
      lowerFrom (if table.ignorable c then before else table.cased c) cs

/-- `s.lower()`. -/
def lower (s : String) : String := String.ofList (table.lowerFrom false s.toList)

variable {table}

/-! ### What is in the lower case of a text -/

/-- Any character but a small letter comes from itself. -/
theorem mem_of_mem_lowerChar {before : Bool} {c d : Char} {after : List Char}
    (hd : d.toNat < 65 ∨ 90 < d.toNat ∧ d.toNat < 97) (h : d ∈ table.lowerChar before c after) :
    d = c := by
  unfold lowerChar at h
  by_cases hsigma : c = 'Σ'
  · -- the two small sigmas are no ASCII characters
    rw [if_pos hsigma, List.mem_singleton] at h
    have hbound : d.toNat < 97 := by omega
    rw [h] at hbound
    split at hbound
    · exact absurd hbound (by decide)
    · exact absurd hbound (by decide)
  · rw [if_neg hsigma] at h
    by_cases hascii : c.toNat < 128
    · rw [table.toLower_ascii hascii, List.mem_singleton] at h
      exact ((toLower_eq_iff hd).mp h.symm).symm
    · have hletter := table.letter_of_mem_toLower (by omega) h (by omega)
      omega

theorem mem_of_mem_lowerFrom {before : Bool} {d : Char} {cs : List Char}
    (hd : d.toNat < 65 ∨ 90 < d.toNat ∧ d.toNat < 97) (h : d ∈ table.lowerFrom before cs) :
    d ∈ cs := by
  induction cs generalizing before with
  | nil => exact h
  | cons c cs ih =>
    rw [lowerFrom, List.mem_append] at h
    rcases h with h | h
    · rw [mem_of_mem_lowerChar hd h]
      exact List.mem_cons_self
    · exact List.mem_cons_of_mem c (ih h)

/-- **Lowering brings in letters only.** -/
theorem mem_of_mem_lower {d : Char} {s : String}
    (hd : d.toNat < 65 ∨ 90 < d.toNat ∧ d.toNat < 97) (h : d ∈ (table.lower s).toList) :
    d ∈ s.toList := by
  rw [lower, String.toList_ofList] at h
  exact mem_of_mem_lowerFrom hd h

/-! ### ASCII texts -/

theorem lowerChar_of_ascii {before : Bool} {c : Char} {after : List Char} (hc : c.toNat < 128) :
    table.lowerChar before c after = [c.toLower] := by
  have hsigma : c ≠ 'Σ' := by
    rintro rfl
    exact absurd hc (by decide)
  rw [lowerChar, if_neg hsigma, table.toLower_ascii hc]

theorem lowerFrom_of_ascii {before : Bool} {cs : List Char} (h : ∀ c ∈ cs, c.toNat < 128) :
    table.lowerFrom before cs = cs.map Char.toLower := by
  induction cs generalizing before with
  | nil => rfl
  | cons c cs ih =>
    rw [List.forall_mem_cons] at h
    rw [lowerFrom, lowerChar_of_ascii h.1, ih h.2]
    rfl

/-- **On ASCII texts** the method maps the letters. -/
theorem lower_of_ascii {s : String} (h : ∀ c ∈ s.toList, c.toNat < 128) :
    table.lower s = Py.lower s := by
  rw [lower, lowerFrom_of_ascii h, Py.lower]

/-! ### The case of letters -/

variable (table) in
/-- Two forms of one letter; the capital sigma, which has two small ones, is left out. -/
def SameLetter (c d : Char) : Prop :=
  c = d ∨ c ≠ 'Σ' ∧ d ≠ 'Σ' ∧ table.toLower c = table.toLower d

theorem SameLetter.toLower_eq {c d : Char} (h : table.SameLetter c d) :
    table.toLower c = table.toLower d := by
  rcases h with rfl | ⟨-, -, h⟩
  · rfl
  · exact h

theorem SameLetter.sigma_iff {c d : Char} (h : table.SameLetter c d) : c = 'Σ' ↔ d = 'Σ' := by
  rcases h with rfl | ⟨hc, hd, -⟩
  · rfl
  · exact iff_of_false hc hd

/-- The ASCII letters, in either case. -/
theorem sameLetter_of_toLower_eq {c d : Char} (h : c.toLower = d.toLower) :
    table.SameLetter c d := by
  have hsame (hc : c.toNat < 128) (hd : d.toNat < 128) : table.SameLetter c d := by
    refine .inr ⟨?_, ?_, ?_⟩
    · rintro rfl
      exact absurd hc (by decide)
    · rintro rfl
      exact absurd hd (by decide)
    · rw [table.toLower_ascii hc, table.toLower_ascii hd, h]
  rcases toLower_cases c with hc | ⟨-, hc, hc'⟩
  · rcases toLower_cases d with hd | ⟨-, hd, hd'⟩
    · exact .inl (by rw [← hc, h, hd])
    · rw [← h, hc] at hd'
      exact hsame (by omega) (by omega)
  · rw [h] at hc'
    rcases toLower_cases d with hd | ⟨-, hd, -⟩
    · rw [hd] at hc'
      exact hsame (by omega) (by omega)
    · exact hsame (by omega) (by omega)

theorem forall₂_sameLetter_of_lower_eq {s t : String} (h : Py.lower s = Py.lower t) :
    List.Forall₂ table.SameLetter s.toList t.toList := by
  rw [← String.toList_inj, Py.lower, Py.lower, String.toList_ofList, String.toList_ofList] at h
  have hmap : List.Forall₂ (· = ·) (s.toList.map Char.toLower) (t.toList.map Char.toLower) := by
    rw [h, List.forall₂_same]
    simp
  rw [List.forall₂_map_left_iff, List.forall₂_map_right_iff] at hmap
  exact hmap.imp fun _ _ => sameLetter_of_toLower_eq

theorem startsCased_congr {cs ds : List Char} (h : List.Forall₂ table.SameLetter cs ds) :
    table.startsCased cs = table.startsCased ds := by
  induction h with
  | nil => rfl
  | cons hcd _ ih =>
    rw [startsCased, startsCased, table.ignorable_congr hcd.toLower_eq,
      table.cased_congr hcd.toLower_eq, ih]

theorem lowerFrom_congr {before : Bool} {cs ds : List Char}
    (h : List.Forall₂ table.SameLetter cs ds) :
    table.lowerFrom before cs = table.lowerFrom before ds := by
  induction h generalizing before with
  | nil => rfl
  | @cons c d cs ds hcd hrest ih =>
    have hchar : table.lowerChar before c cs = table.lowerChar before d ds := by
      unfold lowerChar
      rw [startsCased_congr hrest, hcd.toLower_eq]
      exact if_congr hcd.sigma_iff rfl rfl
    rw [lowerFrom, lowerFrom, hchar, table.ignorable_congr hcd.toLower_eq,
      table.cased_congr hcd.toLower_eq, ih]

/-- **Lowering does not see the case of letters.** -/
theorem lower_eq_of_sameLetter {s t : String}
    (h : List.Forall₂ table.SameLetter s.toList t.toList) : table.lower s = table.lower t := by
  rw [lower, lower, lowerFrom_congr h]

/-! ### The ASCII rows -/

/-- The ignorable ASCII characters. -/
def asciiIgnorable : List Char := [Char.ofNat 0x27, '.', ':', '^', Char.ofNat 0x60]

theorem toLower_mem_asciiIgnorable_iff {c : Char} :
    c.toLower ∈ asciiIgnorable ↔ c ∈ asciiIgnorable := by
  have hmark : ∀ m ∈ asciiIgnorable, c.toLower = m ↔ c = m := by
    simp only [asciiIgnorable, List.forall_mem_cons]
    exact ⟨toLower_eq_iff (by decide), toLower_eq_iff (by decide), toLower_eq_iff (by decide),
      toLower_eq_iff (by decide), toLower_eq_iff (by decide), by simp⟩
  constructor
  · intro h
    rw [(hmark _ h).mp rfl]
    exact h
  · intro h
    rw [(hmark c h).mpr rfl]
    exact h

theorem letter_of_mem_singleton {c d : Char} (hc : 128 ≤ c.toNat) (hd : d ∈ [c.toLower])
    (hascii : d.toNat < 128) : 97 ≤ d.toNat ∧ d.toNat ≤ 122 := by
  rw [List.mem_singleton] at hd
  subst hd
  rcases toLower_cases c with h | ⟨-, hhi, -⟩
  · rw [h] at hascii
    omega
  · omega

theorem isLower_congr {c d : Char} (h : [c.toLower] = [d.toLower]) :
    c.toLower.isLower = d.toLower.isLower := by
  rw [List.head_eq_of_cons_eq h]

theorem asciiIgnorable_congr {c d : Char} (h : [c.toLower] = [d.toLower]) :
    decide (c ∈ asciiIgnorable) = decide (d ∈ asciiIgnorable) := by
  rw [decide_eq_decide, ← toLower_mem_asciiIgnorable_iff, List.head_eq_of_cons_eq h,
    toLower_mem_asciiIgnorable_iff]

/-- The part of the database that is about ASCII characters; it has no mapping for others. -/
def ascii : CaseTable where
  toLower c := [c.toLower]
  cased c := c.toLower.isLower
  ignorable c := decide (c ∈ asciiIgnorable)
  toLower_ascii _ := rfl
  letter_of_mem_toLower := letter_of_mem_singleton
  cased_congr := isLower_congr
  ignorable_congr := asciiIgnorable_congr

end CaseTable

end TripWire.Py
