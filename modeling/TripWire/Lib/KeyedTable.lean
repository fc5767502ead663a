import Mathlib.Data.List.Nodup
import Mathlib.Data.Option.Basic
import Mathlib.Tactic.Common

/-!
# Tables with a primary key

A `KeyedTable key` is a list of rows no two of which share a `key`: the relational table of a
database with a `PRIMARY KEY` or a `UNIQUE` constraint.  Uniqueness is a field of the structure,
so every operation has to keep it and no later proof has to re-establish it.

The operations are the kinds of statement a program issues against such a table:

* `get?` reads the row of a key (`SELECT ... WHERE key = k`);
* `insert?` adds a row and fails when its key is taken (`INSERT`), `insertOrSkip` then leaves the
  table as it is;
* `put` adds a row in the place of the one that has its key (`UPSERT`);
* `deleteWhere` removes the rows that satisfy a condition (`DELETE ... WHERE p`);
* `updateWhere` rewrites the rows that satisfy a condition (`UPDATE ... WHERE p`), by a function
  that leaves the key alone.

Each comes with its reading under `get?` (`get?_insert?_some`, `get?_updateWhere`), which is all
that invariant proofs about a program over such tables need.
-/

/-- A table whose rows are distinguished by `key`. -/
structure KeyedTable {ρ κ : Type*} (key : ρ → κ) where
  /-- The rows, oldest first. -/
  rows : List ρ
  /-- The uniqueness constraint. -/
  keys_nodup : (rows.map key).Nodup

namespace KeyedTable

variable {ρ κ : Type*} {key : ρ → κ}

@[ext]
theorem ext {t u : KeyedTable key} (h : t.rows = u.rows) : t = u := by
  cases t; cases u; cases h; rfl

/-- The table without rows. -/
def empty : KeyedTable key := ⟨[], List.nodup_nil⟩

/-- Two rows of a table with the same key are the same row. -/
theorem eq_of_key_eq (t : KeyedTable key) {r s : ρ} (hr : r ∈ t.rows) (hs : s ∈ t.rows)
    (h : key r = key s) : r = s :=
  List.inj_on_of_nodup_map t.keys_nodup hr hs h

variable [DecidableEq κ]

/-! ### Reading -/

/-- The row with key `k`, if there is one. -/
def get? (t : KeyedTable key) (k : κ) : Option ρ :=
  t.rows.find? fun r => key r = k

theorem get?_eq_some_iff {t : KeyedTable key} {k : κ} {r : ρ} :
    t.get? k = some r ↔ r ∈ t.rows ∧ key r = k := by
  constructor
  · intro h
    have hk := List.find?_some h
    exact ⟨List.mem_of_find?_eq_some h, by simpa using hk⟩
  · rintro ⟨hr, rfl⟩
    cases hf : t.get? (key r) with
    | none =>
      have := List.find?_eq_none.mp hf r hr
      simp at this
    | some s =>
      have hs : s ∈ t.rows := List.mem_of_find?_eq_some hf
      have hk : key s = key r := by simpa using List.find?_some hf
      rw [t.eq_of_key_eq hs hr hk]

theorem get?_of_mem {t : KeyedTable key} {r : ρ} (h : r ∈ t.rows) : t.get? (key r) = some r :=
  get?_eq_some_iff.mpr ⟨h, rfl⟩

theorem key_of_get? {t : KeyedTable key} {k : κ} {r : ρ} (h : t.get? k = some r) : key r = k :=
  (get?_eq_some_iff.mp h).2

theorem get?_eq_none_iff {t : KeyedTable key} {k : κ} :
    t.get? k = none ↔ ∀ r ∈ t.rows, key r ≠ k := by
  simp [get?, List.find?_eq_none]

/-! ### Inserting -/

/-- Add the row `r` at the end; `none` when its key is already taken. -/
def insert? (t : KeyedTable key) (r : ρ) : Option (KeyedTable key) :=
  if h : ∀ s ∈ t.rows, key s ≠ key r then
    some ⟨t.rows ++ [r], by
      rw [List.map_append, List.nodup_append]
      refine ⟨t.keys_nodup, List.nodup_singleton _, ?_⟩
      intro a ha b hb
      obtain ⟨s, hs, rfl⟩ := List.mem_map.mp ha
      rw [List.map_singleton, List.mem_singleton] at hb
      exact hb ▸ h s hs⟩
  else none

theorem insert?_eq_none_iff {t : KeyedTable key} {r : ρ} :
    t.insert? r = none ↔ t.get? (key r) ≠ none := by
  unfold insert?
  split_ifs with h
  · simp [get?_eq_none_iff.mpr h]
  · simpa [get?_eq_none_iff] using h

theorem rows_of_insert? {t u : KeyedTable key} {r : ρ} (h : t.insert? r = some u) :
    u.rows = t.rows ++ [r] := by
  unfold insert? at h
  split_ifs at h
  obtain rfl := Option.some.inj h
  rfl

theorem get?_key_of_insert? {t u : KeyedTable key} {r : ρ} (h : t.insert? r = some u) :
    t.get? (key r) = none := by
  by_contra hne
  rw [insert?_eq_none_iff.mpr hne] at h
  cases h

/-- After an insertion the new key reads the new row and every other key reads as before. -/
theorem get?_insert?_some {t u : KeyedTable key} {r : ρ} (h : t.insert? r = some u) (k : κ) :
    u.get? k = if key r = k then some r else t.get? k := by
  have hfree := get?_key_of_insert? h
  simp only [get?, rows_of_insert? h, List.find?_append]
  by_cases hk : key r = k
  · subst hk
    simp only [get?] at hfree
    simp [hfree]
  · simp [hk]

/-- Add the row `r` unless its key is taken (`INSERT ... ON CONFLICT DO NOTHING`). -/
def insertOrSkip (t : KeyedTable key) (r : ρ) : KeyedTable key := (t.insert? r).getD t

/-- A key that was taken reads as before, a free one reads the new row. -/
theorem get?_insertOrSkip (t : KeyedTable key) (r : ρ) (k : κ) :
    (t.insertOrSkip r).get? k = (t.get? k).or (if key r = k then some r else none) := by
  unfold insertOrSkip
  cases hins : t.insert? r with
  | some u =>
    rw [Option.getD_some, get?_insert?_some hins]
    by_cases hk : key r = k
    · rw [← hk, if_pos rfl, if_pos rfl, get?_key_of_insert? hins]
      rfl
    · rw [if_neg hk, if_neg hk, Option.or_none]
  | none =>
    rw [Option.getD_none]
    by_cases hk : key r = k
    · obtain ⟨s, hs⟩ := Option.ne_none_iff_exists'.mp (insert?_eq_none_iff.mp hins)
      rw [← hk, hs]
      rfl
    · rw [if_neg hk, Option.or_none]

/-- The rows are the old ones and possibly the new one. -/
theorem mem_or_eq_of_mem_insertOrSkip {t : KeyedTable key} {r s : ρ}
    (h : s ∈ (t.insertOrSkip r).rows) : s ∈ t.rows ∨ s = r := by
  unfold insertOrSkip at h
  cases hins : t.insert? r with
  | some u =>
    rw [hins, Option.getD_some, rows_of_insert? hins] at h
    exact (List.mem_append.mp h).imp_right List.mem_singleton.mp
  | none =>
    rw [hins] at h
    exact .inl h

/-- Add the rows `rs` one after the other, skipping those whose key is taken. -/
def insertAll (t : KeyedTable key) (rs : List ρ) : KeyedTable key := rs.foldl insertOrSkip t

/-- Of several new rows for a free key the first one stays. -/
theorem get?_insertAll (t : KeyedTable key) (rs : List ρ) (k : κ) :
    (t.insertAll rs).get? k = (t.get? k).or (rs.find? fun r => key r = k) := by
  induction rs generalizing t with
  | nil => simp [insertAll]
  | cons r rs ih =>
    have hfold : t.insertAll (r :: rs) = (t.insertOrSkip r).insertAll rs := rfl
    rw [hfold, ih, get?_insertOrSkip, Option.or_assoc, List.find?_cons]
    by_cases hk : key r = k <;> simp [hk]

/-! ### Deleting -/

/-- Remove every row that satisfies `p` (`DELETE ... WHERE p`). -/
def deleteWhere (t : KeyedTable key) (p : ρ → Bool) : KeyedTable key where
  rows := t.rows.filter fun r => !p r
  keys_nodup := t.keys_nodup.sublist (List.filter_sublist.map key)

/-- A deletion is seen through `get?` row by row. -/
theorem get?_deleteWhere (t : KeyedTable key) (p : ρ → Bool) (k : κ) :
    (t.deleteWhere p).get? k = (t.get? k).filter fun r => !p r := by
  ext r
  rw [get?_eq_some_iff, Option.filter_eq_some_iff, get?_eq_some_iff, deleteWhere, List.mem_filter]
  exact and_right_comm

omit [DecidableEq κ] in
theorem mem_deleteWhere {t : KeyedTable key} {p : ρ → Bool} {r : ρ} :
    r ∈ (t.deleteWhere p).rows ↔ r ∈ t.rows ∧ p r = false := by
  rw [deleteWhere, List.mem_filter, Bool.not_eq_true']

/-- Add the row `r`, in the place of the row that has its key. -/
def put (t : KeyedTable key) (r : ρ) : KeyedTable key where
  rows := (t.deleteWhere fun s => key s = key r).rows ++ [r]
  keys_nodup := by
    rw [List.map_append, List.nodup_append]
    refine ⟨(t.deleteWhere _).keys_nodup, List.nodup_singleton _, ?_⟩
    intro k hk k' hk' heq
    obtain ⟨s, hs, rfl⟩ := List.mem_map.mp hk
    rw [List.map_singleton, List.mem_singleton] at hk'
    have hne := (List.mem_filter.mp hs).2
    simp [heq, hk'] at hne

theorem mem_put {t : KeyedTable key} {r s : ρ} :
    s ∈ (t.put r).rows ↔ (s ∈ t.rows ∧ key s ≠ key r) ∨ s = r := by
  rw [put, List.mem_append, mem_deleteWhere, List.mem_singleton, decide_eq_false_iff_not]

/-- The key that was put reads the new row and every other key reads as before. -/
theorem get?_put (t : KeyedTable key) (r : ρ) (k : κ) :
    (t.put r).get? k = if key r = k then some r else t.get? k := by
  by_cases hk : key r = k
  · rw [if_pos hk, get?_eq_some_iff, mem_put]
    exact ⟨.inr rfl, hk⟩
  · rw [if_neg hk]
    ext s
    rw [get?_eq_some_iff, get?_eq_some_iff, mem_put]
    constructor
    · rintro ⟨⟨hs, -⟩ | rfl, hsk⟩
      · exact ⟨hs, hsk⟩
      · exact absurd hsk hk
    · rintro ⟨hs, rfl⟩
      exact ⟨.inl ⟨hs, Ne.symm hk⟩, rfl⟩

/-! ### Updating -/

/-- Rewrite every row that satisfies `p` by `f`, which must not touch the key. -/
def updateWhere (t : KeyedTable key) (p : ρ → Bool) (f : ρ → ρ) (hf : ∀ r, key (f r) = key r) :
    KeyedTable key where
  rows := t.rows.map fun r => if p r then f r else r
  keys_nodup := by
    rw [List.map_map]
    have : (key ∘ fun r => if p r = true then f r else r) = key := by
      funext r
      by_cases hp : p r <;> simp [hp, hf]
    rw [this]
    exact t.keys_nodup

/-- An update is seen through `get?` row by row. -/
theorem get?_updateWhere (t : KeyedTable key) (p : ρ → Bool) (f : ρ → ρ)
    (hf : ∀ r, key (f r) = key r) (k : κ) :
    (t.updateWhere p f hf).get? k = (t.get? k).map fun r => if p r then f r else r := by
  simp only [get?, updateWhere, List.find?_map]
  congr 1
  congr 1
  funext r
  by_cases hp : p r <;> simp [hp, hf]

/-- An update of one key rewrites what that key reads, and every other key reads as before. -/
theorem get?_updateWhere_key (t : KeyedTable key) (k : κ) {f : ρ → ρ} (hf : ∀ r, key (f r) = key r)
    (l : κ) :
    (t.updateWhere (fun s => key s = k) f hf).get? l =
      if k = l then (t.get? l).map f else t.get? l := by
  rw [get?_updateWhere]
  cases hget : t.get? l with
  | none => rw [Option.map_none, Option.map_none, ite_self]
  | some r =>
    rw [Option.map_some, Option.map_some, key_of_get? hget]
    by_cases hk : k = l
    · rw [if_pos hk, if_pos (decide_eq_true hk.symm)]
    · rw [if_neg hk, decide_eq_false (Ne.symm hk), if_neg Bool.false_ne_true]

omit [DecidableEq κ] in
/-- An update whose condition selects no row changes nothing. -/
theorem updateWhere_of_forall_not {t : KeyedTable key} {p : ρ → Bool} {f : ρ → ρ}
    {hf : ∀ r, key (f r) = key r} (h : ∀ r ∈ t.rows, p r = false) : t.updateWhere p f hf = t := by
  ext1
  simp only [updateWhere]
  conv_rhs => rw [← List.map_id t.rows]
  apply List.map_congr_left
  intro r hr
  simp [h r hr]

omit [DecidableEq κ] in
theorem rows_updateWhere (t : KeyedTable key) (p : ρ → Bool) (f : ρ → ρ)
    (hf : ∀ r, key (f r) = key r) :
    (t.updateWhere p f hf).rows = t.rows.map fun r => if p r then f r else r := rfl

/-- Rows of other keys are left alone. -/
theorem map_update_of_forall_ne {k : κ} {f : ρ → ρ} {l : List ρ} (h : ∀ s ∈ l, key s ≠ k) :
    l.map (fun s => if decide (key s = k) = true then f s else s) = l := by
  conv_rhs => rw [← List.map_id l]
  apply List.map_congr_left
  intro s hs
  simp [h s hs]

/-- An update of one key rewrites one row in place. -/
theorem rows_updateWhere_key {t : KeyedTable key} {k : κ} {r : ρ} (h : t.get? k = some r)
    {f : ρ → ρ} (hf : ∀ r, key (f r) = key r) :
    ∃ before rest, t.rows = before ++ r :: rest ∧
      (t.updateWhere (fun s => key s = k) f hf).rows = before ++ f r :: rest := by
  obtain ⟨hmem, hkey⟩ := get?_eq_some_iff.mp h
  obtain ⟨before, rest, hrows⟩ := List.append_of_mem hmem
  have hnodup := t.keys_nodup
  rw [hrows, List.map_append, List.map_cons, List.nodup_append, List.nodup_cons] at hnodup
  obtain ⟨-, ⟨hrest, -⟩, hbefore⟩ := hnodup
  have hbefore' : ∀ s ∈ before, key s ≠ k := by
    intro s hs hsk
    exact hbefore (key s) (List.mem_map_of_mem hs) (key r) List.mem_cons_self (hsk.trans hkey.symm)
  have hrest' : ∀ s ∈ rest, key s ≠ k := by
    intro s hs hsk
    exact hrest (hkey.symm ▸ hsk ▸ List.mem_map_of_mem hs)
  refine ⟨before, rest, hrows, ?_⟩
  rw [rows_updateWhere, hrows, List.map_append, List.map_cons, map_update_of_forall_ne hbefore',
    map_update_of_forall_ne hrest']
  simp [hkey]

/-- Rewriting the row that was just inserted. -/
theorem rows_updateWhere_insert? {t u : KeyedTable key} {r : ρ} (h : t.insert? r = some u)
    {f : ρ → ρ} (hf : ∀ r, key (f r) = key r) :
    (u.updateWhere (fun s => key s = key r) f hf).rows = t.rows ++ [f r] := by
  have hfree := get?_eq_none_iff.mp (get?_key_of_insert? h)
  rw [rows_updateWhere, rows_of_insert? h, List.map_append, map_update_of_forall_ne hfree]
  simp

/-- Deleting the row that was just inserted. -/
theorem deleteWhere_insert? {t u : KeyedTable key} {r : ρ} (h : t.insert? r = some u) :
    u.deleteWhere (fun s => key s = key r) = t := by
  have hfree := get?_eq_none_iff.mp (get?_key_of_insert? h)
  ext1
  show u.rows.filter _ = t.rows
  rw [rows_of_insert? h, List.filter_append]
  have hkeep : t.rows.filter (fun s => !decide (key s = key r)) = t.rows := by
    rw [List.filter_eq_self]
    intro s hs
    simp [hfree s hs]
  rw [hkeep]
  simp

/-! ### Changing the type of the rows -/

section Map

variable {ρ' : Type*} {key' : ρ' → κ} (f : ρ → ρ') (hf : ∀ r, key' (f r) = key r)

omit [DecidableEq κ] in
include hf in
theorem map_key_map (rs : List ρ) : (rs.map f).map key' = rs.map key := by
  rw [List.map_map]
  exact List.map_congr_left fun r _ => hf r

/-- The table with every row rewritten by `f`, which keeps the key. -/
def map (t : KeyedTable key) : KeyedTable key' :=
  ⟨t.rows.map f, by rw [map_key_map f hf]; exact t.keys_nodup⟩

theorem get?_map (t : KeyedTable key) (k : κ) : (t.map f hf).get? k = (t.get? k).map f := by
  rw [get?, get?, map, List.find?_map]
  simp only [Function.comp_def, hf]

theorem insert?_map (t : KeyedTable key) (r : ρ) :
    (t.map f hf).insert? (f r) = (t.insert? r).map (map f hf) := by
  cases hins : t.insert? r with
  | none =>
    have hget := insert?_eq_none_iff.mp hins
    rw [Option.map_none, insert?_eq_none_iff, hf, get?_map]
    simpa using hget
  | some u =>
    cases hins' : (t.map f hf).insert? (f r) with
    | none =>
      have hget := insert?_eq_none_iff.mp hins'
      rw [hf, get?_map, get?_key_of_insert? hins] at hget
      exact absurd rfl hget
    | some u' =>
      have hrows := rows_of_insert? hins
      have hrows' := rows_of_insert? hins'
      rw [Option.map_some, Option.some.injEq]
      ext1
      rw [hrows']
      show t.rows.map f ++ [f r] = u.rows.map f
      rw [hrows, List.map_append, List.map_singleton]

omit [DecidableEq κ] in
/-- An update that `f` commutes with may be done on either side of it. -/
theorem updateWhere_map (t : KeyedTable key) (p : ρ → Bool) (p' : ρ' → Bool) {g : ρ → ρ}
    {g' : ρ' → ρ'} (hg : ∀ r, key (g r) = key r) (hg' : ∀ r, key' (g' r) = key' r)
    (hp : ∀ r, p' (f r) = p r) (hfg : ∀ r, g' (f r) = f (g r)) :
    (t.map f hf).updateWhere p' g' hg' = (t.updateWhere p g hg).map f hf := by
  ext1
  simp only [updateWhere, map, List.map_map]
  apply List.map_congr_left
  intro r _
  simp only [Function.comp_apply, hp, hfg]
  split <;> rfl

end Map

/-! ### Working through rows with distinct keys -/

/-- If each row produces items labelled with its key, the items with the label of one row are those
it produced. -/
theorem filter_flatMap_of_nodup {β : Type*} {rows : List ρ} (hnodup : (rows.map key).Nodup)
    {produce : ρ → List β} {label : β → κ}
    (hlabel : ∀ r ∈ rows, ∀ b ∈ produce r, label b = key r) {row : ρ} (hrow : row ∈ rows) :
    (rows.flatMap produce).filter (fun b => label b = key row) = produce row := by
  induction rows with
  | nil => cases hrow
  | cons r rows ih =>
    rw [List.map_cons, List.nodup_cons] at hnodup
    rw [List.flatMap_cons, List.filter_append]
    rcases List.mem_cons.mp hrow with rfl | hrow'
    · -- its own items are kept, and no later row has its key
      have hown : (produce row).filter (fun b => label b = key row) = produce row := by
        rw [List.filter_eq_self]
        intro b hb
        simp [hlabel row List.mem_cons_self b hb]
      have hrest : (rows.flatMap produce).filter (fun b => label b = key row) = [] := by
        rw [List.filter_eq_nil_iff]
        intro b hb
        obtain ⟨r, hr, hbr⟩ := List.mem_flatMap.mp hb
        have hne : key r ≠ key row := fun he => hnodup.1 (he ▸ List.mem_map_of_mem hr)
        simp [hlabel r (List.mem_cons_of_mem row hr) b hbr, hne]
      rw [hown, hrest, List.append_nil]
    · have hfirst : (produce r).filter (fun b => label b = key row) = [] := by
        rw [List.filter_eq_nil_iff]
        intro b hb
        have hne : key r ≠ key row := fun he => hnodup.1 (he ▸ List.mem_map_of_mem hrow')
        simp [hlabel r List.mem_cons_self b hb, hne]
      rw [hfirst, List.nil_append]
      exact ih hnodup.2 (fun r' hr' => hlabel r' (List.mem_cons_of_mem r hr')) hrow'

end KeyedTable
