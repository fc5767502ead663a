import Mathlib.Tactic.NormNum
import Mathlib.Tactic.Zify

/-!
# Words of the contract ABI

The values of the static types of Solidity and the 32-byte words by which the topics and the data of
a log encode them.
-/

namespace Abi

/-- The low `k` bytes of a number, the most significant first. -/
def bytesBE : ℕ → ℕ → List UInt8
  | 0, _ => []
  | k + 1, n => bytesBE k (n / 256) ++ [UInt8.ofNat n]

/-- The number that bytes spell, the most significant first. -/
def natBE (bs : List UInt8) : ℕ := bs.foldl (fun n b => 256 * n + b.toNat) 0

@[simp]
theorem length_bytesBE (k n : ℕ) : (bytesBE k n).length = k := by
  induction k generalizing n with
  | zero => rfl
  | succ k ih => rw [bytesBE, List.length_append, ih, List.length_singleton]

theorem natBE_append_singleton (bs : List UInt8) (b : UInt8) :
    natBE (bs ++ [b]) = 256 * natBE bs + b.toNat := by
  rw [natBE, List.foldl_append]
  rfl

/-- The bytes of a number are read back as the number modulo their range. -/
theorem natBE_bytesBE (k n : ℕ) : natBE (bytesBE k n) = n % 256 ^ k := by
  induction k generalizing n with
  | zero => rw [pow_zero, Nat.mod_one]; rfl
  | succ k ih =>
    have hbyte : (UInt8.ofNat n).toNat = n % 256 := UInt8.toNat_ofNat'
    rw [bytesBE, natBE_append_singleton, ih, hbyte, pow_succ', Nat.mod_mul, Nat.add_comm]

theorem natBE_bytesBE_of_lt {n : ℕ} (h : n < 2 ^ 256) : natBE (bytesBE 32 n) = n := by
  have hrange : n < 256 ^ 32 := by
    calc
      n < 2 ^ 256 := h
      _ = 256 ^ 32 := by norm_num
  rw [natBE_bytesBE, Nat.mod_eq_of_lt hrange]

/-- The widths of the integer types, in bits. -/
abbrev Width : Type := {n : ℕ // 8 ∣ n ∧ 0 < n ∧ n ≤ 256}

theorem width_256 : 8 ∣ 256 ∧ 0 < 256 ∧ 256 ≤ 256 := by decide

/-- A value of a static type. -/
inductive Argument where
  | uint (bits : Width) (v : ℕ) (range : v < 2 ^ bits.val)
  | int (bits : Width) (v : ℤ) (range : -2 ^ (bits.val - 1) ≤ v ∧ v < 2 ^ (bits.val - 1))
  | address (bs : List UInt8) (length : bs.length = 20)
  | bool (b : Bool)
  | bytes (bs : List UInt8) (length : 0 < bs.length ∧ bs.length ≤ 32)

namespace Argument

/-- The name of the type in an ABI. -/
def typeName : Argument → String
  | uint bits _ _ => "uint" ++ toString bits.val
  | int bits _ _ => "int" ++ toString bits.val
  | address _ _ => "address"
  | bool _ => "bool"
  | bytes bs _ => "bytes" ++ toString bs.length

/-- The word that encodes the value: integers and addresses are padded on the left, byte strings on
the right, and a negative integer is its two's complement. -/
def word : Argument → List UInt8
  | uint _ v _ => bytesBE 32 v
  | int _ v _ => bytesBE 32 (v % 2 ^ 256).toNat
  | address bs _ => List.replicate 12 0 ++ bs
  | bool b => bytesBE 32 b.toNat
  | bytes bs _ => bs ++ List.replicate (32 - bs.length) 0

@[simp]
theorem length_word (a : Argument) : a.word.length = 32 := by
  cases a with
  | uint bits v range => exact length_bytesBE ..
  | int bits v range => exact length_bytesBE ..
  | address bs length => simp [word, length]
  | bool b => exact length_bytesBE ..
  | bytes bs length =>
    rw [word, List.length_append, List.length_replicate]
    omega

theorem natBE_word_uint {bits : Width} {v : ℕ} (range : v < 2 ^ bits.val) :
    natBE (uint bits v range).word = v :=
  natBE_bytesBE_of_lt (range.trans_le (Nat.pow_le_pow_right (by norm_num) bits.property.2.2))

theorem natBE_word_bool (b : Bool) : natBE (bool b).word = b.toNat := by
  cases b with
  | false => rfl
  | true => rfl

/-- A signed word is read as a natural number: the value, or the value and `2 ^ 256`. -/
theorem natBE_word_int {bits : Width} {v : ℤ}
    (range : -2 ^ (bits.val - 1) ≤ v ∧ v < 2 ^ (bits.val - 1)) :
    (natBE (int bits v range).word : ℤ) = v % 2 ^ 256 := by
  have hnonneg : 0 ≤ v % 2 ^ 256 := Int.emod_nonneg v (by norm_num)
  have hlt : v % 2 ^ 256 < 2 ^ 256 := Int.emod_lt_of_pos v (by norm_num)
  have hnat : (v % 2 ^ 256).toNat < 2 ^ 256 := by
    zify
    rwa [Int.toNat_of_nonneg hnonneg]
  rw [word, natBE_bytesBE_of_lt hnat, Int.toNat_of_nonneg hnonneg]

/-- Only the word of a non-negative integer is read as the integer. -/
theorem natBE_word_int_eq_iff {bits : Width} {v : ℤ}
    (range : -2 ^ (bits.val - 1) ≤ v ∧ v < 2 ^ (bits.val - 1)) :
    (natBE (int bits v range).word : ℤ) = v ↔ 0 ≤ v := by
  constructor
  · intro h
    rw [← h]
    exact Int.natCast_nonneg _
  · intro hnonneg
    have hwidth : (2 : ℤ) ^ (bits.val - 1) ≤ 2 ^ 256 :=
      pow_le_pow_right₀ (by norm_num) ((Nat.sub_le ..).trans bits.property.2.2)
    rw [natBE_word_int, Int.emod_eq_of_lt hnonneg (range.2.trans_le hwidth)]

end Argument

/-- The encoding of arguments, as in the data of a log. -/
def encode (args : List Argument) : List UInt8 := args.flatMap Argument.word

theorem encode_ne_nil {args : List Argument} (h : args ≠ []) : encode args ≠ [] := by
  cases args with
  | nil => exact absurd rfl h
  | cons a args =>
    intro hnil
    have hword := List.append_eq_nil_iff.mp (show a.word ++ encode args = [] from hnil)
    have hlength := a.length_word
    rw [hword.1] at hlength
    cases hlength

end Abi
