import Mathlib

/-!
# Distributing items over bins

A list of bins is filled item by item: `deal` goes round the bins, `leastLoaded` finds the first bin
with the fewest items.  Both keep the bins `Balanced` (`balanced_deal`,
`Balanced.place_leastLoaded`), and for balanced bins a bound on the fullness of the least loaded one
is a bound on the number of items (`Balanced.le_leastLoaded_iff`).  So the number of items alone
decides when the bins are full.
-/

namespace Bins

variable {α : Type*}

/-- Add `a` to the bin `i`. -/
def place (i : ℕ) (a : α) (bins : List (List α)) : List (List α) := bins.modify i (· ++ [a])

/-- Add the items one after the other to the bins `i`, `i + 1`, ..., counted modulo `n`. -/
def deal (n : ℕ) : ℕ → List α → List (List α) → List (List α)
  | _, [], bins => bins
  | i, a :: as, bins => deal n (i + 1) as (place (i % n) a bins)

/-- The first bin with the fewest items. -/
def leastLoaded : List (List α) → ℕ
  | [] => 0
  | [_] => 0
  | b :: bins => if b.length ≤ (bins.getD (leastLoaded bins) []).length then 0
      else leastLoaded bins + 1

/-- Any two bins differ by one item at most. -/
def Balanced (bins : List (List α)) : Prop := ∀ b ∈ bins, ∀ c ∈ bins, b.length ≤ c.length + 1

/-! ### Placing an item -/

@[simp]
theorem length_place (i : ℕ) (a : α) (bins : List (List α)) :
    (place i a bins).length = bins.length := List.length_modify _ _ _

/-- Placing an item adds it to the items. -/
theorem perm_flatten_place {i : ℕ} (a : α) {bins : List (List α)} (hi : i < bins.length) :
    (place i a bins).flatten.Perm (bins.flatten ++ [a]) := by
  induction bins generalizing i with
  | nil => exact absurd hi (Nat.not_lt_zero i)
  | cons b bins ih =>
    cases i with
    | zero =>
      show ((b ++ [a]) ++ bins.flatten).Perm ((b ++ bins.flatten) ++ [a])
      rw [List.append_assoc, List.append_assoc]
      exact List.perm_append_comm.append_left b
    | succ i =>
      show (b ++ (place i a bins).flatten).Perm ((b ++ bins.flatten) ++ [a])
      rw [List.append_assoc]
      exact (ih (Nat.lt_of_succ_lt_succ hi)).append_left b

/-- The bins after an item was placed. -/
theorem getElem_place {i j : ℕ} {a : α} {bins : List (List α)} (hj : j < bins.length)
    (hplaced : j < (place i a bins).length) :
    (place i a bins)[j].length = bins[j].length + if i = j then 1 else 0 := by
  simp only [place, List.getElem_modify]
  split <;> simp

/-- Dealing adds its items to the items. -/
theorem perm_flatten_deal {n : ℕ} (hn : 0 < n) (as : List α) :
    ∀ (i : ℕ) (bins : List (List α)), bins.length = n →
      (deal n i as bins).flatten.Perm (bins.flatten ++ as) := by
  induction as with
  | nil =>
    intro i bins _
    rw [List.append_nil]
    exact List.Perm.refl _
  | cons a as ih =>
    intro i bins hlen
    have hi : i % n < bins.length := by
      rw [hlen]
      exact Nat.mod_lt i hn
    have hplaced : (place (i % n) a bins).length = n := (length_place _ _ _).trans hlen
    calc (deal n (i + 1) as (place (i % n) a bins)).flatten.Perm
          ((place (i % n) a bins).flatten ++ as) := ih (i + 1) _ hplaced
      _ |>.Perm ((bins.flatten ++ [a]) ++ as) := (perm_flatten_place a hi).append_right as
      _ |>.Perm (bins.flatten ++ a :: as) := by
          rw [List.append_assoc, List.singleton_append]

theorem length_deal (n : ℕ) (as : List α) :
    ∀ (i : ℕ) (bins : List (List α)), (deal n i as bins).length = bins.length := by
  induction as with
  | nil => exact fun _ _ => rfl
  | cons a as ih => exact fun i bins => (ih (i + 1) _).trans (length_place _ _ _)

/-! ### Balance -/

/-- The bins after `q` whole rounds and `r` more items. -/
def Dealt (q r : ℕ) (bins : List (List α)) : Prop :=
  ∀ j (hj : j < bins.length), bins[j].length = if j < r then q + 1 else q

theorem Dealt.balanced {q r : ℕ} {bins : List (List α)} (h : Dealt q r bins) : Balanced bins := by
  intro b hb c hc
  obtain ⟨j, hj, rfl⟩ := List.getElem_of_mem hb
  obtain ⟨k, hk, rfl⟩ := List.getElem_of_mem hc
  rw [h j hj, h k hk]
  split <;> split <;> omega

/-- The next item of a round goes to the bin `r`, and the last one of it completes the round. -/
theorem Dealt.place {q r : ℕ} {bins : List (List α)} (h : Dealt q r bins) (a : α) :
    Dealt (if r + 1 = bins.length then q + 1 else q) (if r + 1 = bins.length then 0 else r + 1)
      (place r a bins) := by
  intro j hj
  have hj' : j < bins.length := by rwa [length_place] at hj
  rw [getElem_place hj' hj, h j hj']
  by_cases hlast : r + 1 = bins.length
  · rw [if_pos hlast, if_pos hlast]
    split <;> split <;> split <;> omega
  · rw [if_neg hlast, if_neg hlast]
    split <;> split <;> split <;> omega

/-- Dealing from balanced rounds leaves balanced rounds. -/
theorem exists_dealt_deal (as : List α) :
    ∀ {q r : ℕ} {bins : List (List α)}, Dealt q r bins → r < bins.length →
      ∃ q' r', Dealt q' r' (deal bins.length (q * bins.length + r) as bins) := by
  induction as with
  | nil => exact fun {q r _} h _ => ⟨q, r, h⟩
  | cons a as ih =>
    intro q r bins h hr
    have hmod : (q * bins.length + r) % bins.length = r := by
      rw [Nat.add_comm, Nat.add_mul_mod_self_right, Nat.mod_eq_of_lt hr]
    have hplace := h.place a
    have hnext : q * bins.length + r + 1 =
        (if r + 1 = bins.length then q + 1 else q) * (place r a bins).length +
          if r + 1 = bins.length then 0 else r + 1 := by
      rw [length_place]
      by_cases hlast : r + 1 = bins.length
      · rw [if_pos hlast, if_pos hlast, Nat.succ_mul]
        omega
      · rw [if_neg hlast, if_neg hlast, Nat.add_assoc]
    have hr' : (if r + 1 = bins.length then 0 else r + 1) < (place r a bins).length := by
      rw [length_place]
      split <;> omega
    obtain ⟨q', r', h'⟩ := ih hplace hr'
    rw [length_place] at h'
    refine ⟨q', r', ?_⟩
    rw [deal, hmod, hnext, length_place]
    exact h'

/-- **Round robin is balanced.** -/
theorem balanced_deal {n : ℕ} (hn : 0 < n) (as : List α) :
    Balanced (deal n 0 as (List.replicate n [])) := by
  have hstart : Dealt 0 0 (List.replicate n ([] : List α)) := by
    intro j hj
    rw [List.getElem_replicate]
    rfl
  have hlen : (List.replicate n ([] : List α)).length = n := List.length_replicate
  obtain ⟨q, r, h⟩ := exists_dealt_deal as hstart (by rwa [hlen])
  rw [hlen, Nat.zero_mul, Nat.add_zero] at h
  exact h.balanced

/-! ### The least loaded bin -/

theorem leastLoaded_lt {bins : List (List α)} (h : bins ≠ []) :
    leastLoaded bins < bins.length := by
  induction bins using leastLoaded.induct with
  | case1 => exact absurd rfl h
  | case2 b => exact Nat.zero_lt_one
  | case3 b bins hne hle ih =>
    rw [leastLoaded, if_pos hle]
    · exact Nat.succ_pos _
    · exact hne
  | case4 b bins hne hle ih =>
    rw [leastLoaded, if_neg hle]
    · exact Nat.succ_lt_succ (ih hne)
    · exact hne

/-- No bin has fewer items than the least loaded one. -/
theorem leastLoaded_le {bins : List (List α)} :
    ∀ b ∈ bins, (bins.getD (leastLoaded bins) []).length ≤ b.length := by
  induction bins using leastLoaded.induct with
  | case1 => exact nofun
  | case2 b =>
    intro c hc
    rw [List.mem_singleton.mp hc]
    exact Nat.le_refl b.length
  | case3 b bins hne hle ih =>
    rw [leastLoaded, if_pos hle]
    · rintro c (_ | ⟨_, hc⟩)
      · exact Nat.le_refl b.length
      · exact hle.trans (ih c hc)
    · exact hne
  | case4 b bins hne hle ih =>
    rw [leastLoaded, if_neg hle]
    · rintro c (_ | ⟨_, hc⟩)
      · exact (Nat.lt_of_not_le hle).le
      · exact ih c hc
    · exact hne

/-- Placing an item in the least loaded bin keeps the bins balanced. -/
theorem Balanced.place_leastLoaded {bins : List (List α)} (h : Balanced bins) (hne : bins ≠ [])
    (a : α) : Balanced (place (leastLoaded bins) a bins) := by
  have hlt := leastLoaded_lt hne
  have hleast : ∀ j (hj : j < bins.length), bins[leastLoaded bins].length ≤ bins[j].length := by
    intro j hj
    have hle := leastLoaded_le bins[j] (List.getElem_mem hj)
    rwa [List.getD_eq_getElem _ _ hlt] at hle
  intro b hb c hc
  obtain ⟨j, hj, rfl⟩ := List.getElem_of_mem hb
  obtain ⟨k, hk, rfl⟩ := List.getElem_of_mem hc
  have hj' : j < bins.length := by rwa [length_place] at hj
  have hk' : k < bins.length := by rwa [length_place] at hk
  rw [getElem_place hj' hj, getElem_place hk' hk]
  have hbc := h bins[j] (List.getElem_mem hj') bins[k] (List.getElem_mem hk')
  by_cases hleastj : leastLoaded bins = j
  · subst hleastj
    have hle := hleast k hk'
    rw [if_pos rfl]
    omega
  · rw [if_neg hleastj]
    omega

theorem mul_length_le {c : ℕ} {bins : List (List α)} (h : ∀ b ∈ bins, c ≤ b.length) :
    c * bins.length ≤ bins.flatten.length := by
  have hsum := List.card_nsmul_le_sum (bins.map List.length) c (List.forall_mem_map.mpr h)
  rwa [List.length_map, smul_eq_mul, Nat.mul_comm, ← List.length_flatten] at hsum

theorem length_le_mul {c : ℕ} {bins : List (List α)} (h : ∀ b ∈ bins, b.length ≤ c) :
    bins.flatten.length ≤ c * bins.length := by
  have hsum := List.sum_le_card_nsmul (bins.map List.length) c (List.forall_mem_map.mpr h)
  rwa [List.length_map, smul_eq_mul, Nat.mul_comm, ← List.length_flatten] at hsum

theorem length_lt_mul {c : ℕ} {bins : List (List α)} (h : ∀ b ∈ bins, b.length ≤ c)
    {b : List α} (hb : b ∈ bins) (hlt : b.length < c) :
    bins.flatten.length < c * bins.length := by
  obtain ⟨front, back, rfl⟩ := List.append_of_mem hb
  have hfront := length_le_mul fun b hb => h b (List.mem_append_left _ hb)
  have hback := length_le_mul fun b' hb' => h b' (List.mem_append_right front (.tail b hb'))
  rw [List.flatten_append, List.flatten_cons, List.length_append, List.length_append,
    List.length_append, List.length_cons, Nat.mul_add, Nat.mul_succ]
  omega

/-- **Capacity.** Of balanced bins the least loaded one holds `c` items exactly when there are `c`
items for each bin. -/
theorem Balanced.le_leastLoaded_iff {bins : List (List α)} (h : Balanced bins) (hne : bins ≠ [])
    (c : ℕ) :
    c ≤ (bins.getD (leastLoaded bins) []).length ↔ c * bins.length ≤ bins.flatten.length := by
  have hlt := leastLoaded_lt hne
  constructor
  · intro hc
    apply mul_length_le
    exact fun b hb => hc.trans (leastLoaded_le b hb)
  · contrapose!
    intro hc
    rw [List.getD_eq_getElem _ _ hlt] at hc
    have hmem : bins[leastLoaded bins] ∈ bins := List.getElem_mem hlt
    refine length_lt_mul (fun b hb => ?_) hmem hc
    have hbal := h b hb _ hmem
    omega

/-- Where no item is in the bins twice, at most one bin holds it. -/
theorem countP_mem_of_nodup [DecidableEq α] {bins : List (List α)} (h : bins.flatten.Nodup)
    (a : α) : bins.countP (fun b => a ∈ b) = if a ∈ bins.flatten then 1 else 0 := by
  induction bins with
  | nil => rfl
  | cons b bins ih =>
    rw [List.flatten_cons, List.nodup_append'] at h
    obtain ⟨-, hbins, hdisjoint⟩ := h
    rw [List.countP_cons, ih hbins, List.flatten_cons]
    by_cases hb : a ∈ b
    · have hrest : a ∉ bins.flatten := fun hrest => hdisjoint hb hrest
      simp [hb, hrest]
    · simp [hb]

end Bins
