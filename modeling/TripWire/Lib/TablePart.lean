import TripWire.Lib.KeyedTable

/-!
# A part of a table

A table that several parties share has a part for each of them: the rows that satisfy a predicate
`p`.  `Within p u t` says that the table `u` has the same part as `t` and takes no key that `t`
leaves free.  It is a preorder, and it relates

* a table to itself after a change to other rows (`Within.append`, `Within.updateWhere`): nothing is
  seen of the change in the part;
* two tables with the same part after the same change to it (`Within.sameNew`,
  `Within.updateWhere_both`).

What `p` selects under a key is read off the part (`Within.get?`).
-/

namespace KeyedTable

variable {ρ κ : Type*} {key : ρ → κ}

/-- The rows that satisfy `p`. -/
def part (t : KeyedTable key) (p : ρ → Bool) : List ρ := t.rows.filter p

variable [DecidableEq κ]

/-- `u` has the rows of `t` that satisfy `p`, and every key that is free in `t`. -/
structure Within (p : ρ → Bool) (u t : KeyedTable key) : Prop where
  part : u.part p = t.part p
  free : ∀ k, t.get? k = none → u.get? k = none

/-- The row under a key, if it is in the part. -/
theorem get?_filter_eq_some_iff {t : KeyedTable key} {p : ρ → Bool} {k : κ} {r : ρ} :
    (t.get? k).filter p = some r ↔ r ∈ t.part p ∧ key r = k := by
  rw [Option.filter_eq_some_iff, get?_eq_some_iff, part, List.mem_filter]
  tauto

/-! ### New rows -/

/-- A key is free after new rows if it was free and they do not take it. -/
theorem get?_eq_none_iff_of_append {t t' : KeyedTable key} {new : List ρ}
    (h : t'.rows = t.rows ++ new) (k : κ) :
    t'.get? k = none ↔ t.get? k = none ∧ ∀ r ∈ new, key r ≠ k := by
  rw [get?_eq_none_iff, get?_eq_none_iff, h]
  simp only [List.mem_append]
  grind

/-- Two tables get the same new rows, all of which satisfy `P`. -/
def SameNew (P : ρ → Prop) (t u t' u' : KeyedTable key) : Prop :=
  ∃ new, t'.rows = t.rows ++ new ∧ u'.rows = u.rows ++ new ∧ ∀ r ∈ new, P r

section SameNew

variable {P : ρ → Prop} {r : ρ} {t u t' u' t'' u'' : KeyedTable key}

omit [DecidableEq κ] in
theorem SameNew.refl (P : ρ → Prop) (t u : KeyedTable key) : SameNew P t u t u :=
  ⟨[], (List.append_nil _).symm, (List.append_nil _).symm, by simp⟩

omit [DecidableEq κ] in
theorem SameNew.trans (h : SameNew P t u t' u') (h' : SameNew P t' u' t'' u'') :
    SameNew P t u t'' u'' := by
  obtain ⟨new, ht, hu, hall⟩ := h
  obtain ⟨new', ht', hu', hall'⟩ := h'
  refine ⟨new ++ new', ?_, ?_, ?_⟩
  · rw [ht', ht, List.append_assoc]
  · rw [hu', hu, List.append_assoc]
  · intro r hr
    rcases List.mem_append.mp hr with hr | hr
    · exact hall r hr
    · exact hall' r hr

omit [DecidableEq κ] in
theorem SameNew.single (hP : P r) (ht : t'.rows = t.rows ++ [r]) (hu : u'.rows = u.rows ++ [r]) :
    SameNew P t u t' u' :=
  ⟨[r], ht, hu, by simpa using hP⟩

/-- Keys that are free in both tables or in neither stay so. -/
theorem SameNew.free_iff (h : SameNew P t u t' u') {k : κ}
    (hk : u.get? k = none ↔ t.get? k = none) : u'.get? k = none ↔ t'.get? k = none := by
  obtain ⟨new, ht, hu, -⟩ := h
  rw [get?_eq_none_iff_of_append ht, get?_eq_none_iff_of_append hu, hk]

/-- An insert succeeds in both tables or in neither. -/
theorem insert?_same (hk : u.get? (key r) = none ↔ t.get? (key r) = none) :
    (t.insert? r = none ∧ u.insert? r = none) ∨
      ∃ t' u', t.insert? r = some t' ∧ u.insert? r = some u' := by
  have hnone (v : KeyedTable key) : v.insert? r = none ↔ ¬ v.get? (key r) = none :=
    insert?_eq_none_iff
  cases ht : t.insert? r with
  | none => exact .inl ⟨rfl, (hnone u).mpr fun hu => (hnone t).mp ht (hk.mp hu)⟩
  | some t' =>
    cases hu : u.insert? r with
    | none =>
      have hfree : t.get? (key r) = none := get?_key_of_insert? ht
      exact absurd (hk.mpr hfree) ((hnone u).mp hu)
    | some u' => exact .inr ⟨t', u', rfl, rfl⟩

/-- A row that is inserted or skipped in both tables. -/
theorem SameNew.insertOrSkip (hP : P r) (hk : u.get? (key r) = none ↔ t.get? (key r) = none) :
    SameNew P t u (t.insertOrSkip r) (u.insertOrSkip r) := by
  unfold KeyedTable.insertOrSkip
  rcases insert?_same hk with ⟨ht, hu⟩ | ⟨t', u', ht, hu⟩
  · rw [ht, hu]
    exact .refl P t u
  · rw [ht, hu]
    exact .single hP (rows_of_insert? ht) (rows_of_insert? hu)

end SameNew

omit [DecidableEq κ] in
/-- An update that moves no row into the part or out of it rewrites the part. -/
theorem part_updateWhere {t : KeyedTable key} {p q : ρ → Bool} {f : ρ → ρ}
    (hf : ∀ r, key (f r) = key r) (hp : ∀ r ∈ t.rows, q r = true → p (f r) = p r) :
    (t.updateWhere q f hf).part p = (t.part p).map fun r => if q r then f r else r := by
  rw [part, part, rows_updateWhere, List.filter_map]
  congr 1
  apply List.filter_congr
  intro r hr
  cases hq : q r with
  | false => simp [hq]
  | true => simp [hq, hp r hr hq]

namespace Within

variable {p : ρ → Bool} {u t t' u' : KeyedTable key}

theorem refl (p : ρ → Bool) (t : KeyedTable key) : Within p t t := ⟨rfl, fun _ h => h⟩

theorem trans (h : Within p u t) (h' : Within p t t') : Within p u t' :=
  ⟨h.part.trans h'.part, fun k hk => h.free k (h'.free k hk)⟩

/-! ### Reading -/

/-- A key reads the same row of the part. -/
theorem get? (h : Within p u t) (k : κ) : (u.get? k).filter p = (t.get? k).filter p := by
  apply Option.ext
  intro r
  rw [get?_filter_eq_some_iff, get?_filter_eq_some_iff, h.part]

theorem get?_eq_some (h : Within p u t) {k : κ} {r : ρ} (hr : p r = true) :
    u.get? k = some r ↔ t.get? k = some r := by
  have hiff (v : KeyedTable key) : v.get? k = some r ↔ (v.get? k).filter p = some r := by
    rw [Option.filter_eq_some_iff]
    tauto
  rw [hiff, hiff, h.get?]

/-- A selection within the part is the same. -/
theorem filter_eq (h : Within p u t) {q : ρ → Bool} (hq : ∀ r, q r = true → p r = true) :
    u.rows.filter q = t.rows.filter q := by
  have hsub (v : KeyedTable key) : v.rows.filter q = (v.part p).filter q := by
    rw [KeyedTable.part, List.filter_filter]
    apply List.filter_congr
    intro r _
    cases hr : q r with
    | false => simp
    | true => simp [hq r hr]
  rw [hsub, hsub, h.part]

/-- Predicates that agree on the rows of both tables have the same parts. -/
theorem congr {p' : ρ → Bool} (h : Within p u t) (hu : ∀ r ∈ u.rows, p' r = p r)
    (ht : ∀ r ∈ t.rows, p' r = p r) : Within p' u t where
  part := by
    have hpart := h.part
    rw [KeyedTable.part, KeyedTable.part] at hpart ⊢
    rw [List.filter_congr hu, List.filter_congr ht, hpart]
  free := h.free

/-! ### Changes outside the part -/

/-- New rows outside the part. -/
theorem append {P : ρ → Prop} (hnew : SameNew P t t t' t') (hP : ∀ r, P r → p r = false) :
    Within p t t' where
  part := by
    obtain ⟨new, hrows, -, hall⟩ := hnew
    have hnone : new.filter p = [] :=
      List.filter_eq_nil_iff.mpr fun r hr => by simp [hP r (hall r hr)]
    rw [KeyedTable.part, KeyedTable.part, hrows, List.filter_append, hnone, List.append_nil]
  free := by
    obtain ⟨new, hrows, -, -⟩ := hnew
    intro k hk
    exact ((get?_eq_none_iff_of_append hrows k).mp hk).1

/-- An update of rows that are outside the part and stay there. -/
theorem updateWhere {q : ρ → Bool} {f : ρ → ρ} (hf : ∀ r, key (f r) = key r)
    (hp : ∀ r ∈ t.rows, q r = true → p r = false ∧ p (f r) = false) :
    Within p t (t.updateWhere q f hf) where
  part := by
    have hkeep : ∀ r ∈ t.rows, q r = true → p (f r) = p r := by
      intro r hr hq
      obtain ⟨hold, hnew⟩ := hp r hr hq
      rw [hold, hnew]
    rw [part_updateWhere hf hkeep]
    symm
    rw [List.map_congr_left, List.map_id]
    intro r hr
    obtain ⟨hmem, hpr⟩ := List.mem_filter.mp hr
    cases hq : q r with
    | false => simp
    | true =>
      rw [(hp r hmem hq).1] at hpr
      cases hpr
  free := fun k hk => by rwa [get?_updateWhere, Option.map_eq_none_iff] at hk

/-- An update of one key whose row is outside the part and stays there. -/
theorem updateKey {k : κ} {r : ρ} {f : ρ → ρ} (hf : ∀ r, key (f r) = key r)
    (hget : t.get? k = some r) (hold : p r = false) (hnew : p (f r) = false) :
    Within p t (t.updateWhere (fun r => key r = k) f hf) := by
  apply updateWhere
  intro s hs hk
  obtain ⟨hmem, hkey⟩ := get?_eq_some_iff.mp hget
  obtain rfl := t.eq_of_key_eq hs hmem ((of_decide_eq_true hk).trans hkey.symm)
  exact ⟨hold, hnew⟩

/-! ### The same change on both sides -/

/-- The same new rows. -/
theorem sameNew (h : Within p u t) {P : ρ → Prop} (hnew : SameNew P t u t' u') :
    Within p u' t' where
  part := by
    obtain ⟨new, ht, hu, -⟩ := hnew
    have hpart := h.part
    rw [KeyedTable.part, KeyedTable.part] at hpart ⊢
    rw [hu, ht, List.filter_append, List.filter_append, hpart]
  free := by
    obtain ⟨new, ht, hu, -⟩ := hnew
    intro k hk
    rw [get?_eq_none_iff_of_append ht] at hk
    rw [get?_eq_none_iff_of_append hu]
    exact ⟨h.free k hk.1, hk.2⟩

/-- An update that moves no row into the part or out of it. -/
theorem updateWhere_both (h : Within p u t) {q : ρ → Bool} {f : ρ → ρ}
    (hf : ∀ r, key (f r) = key r) (hp : ∀ r, q r = true → p (f r) = p r) :
    Within p (u.updateWhere q f hf) (t.updateWhere q f hf) where
  part := by
    rw [part_updateWhere hf fun r _ => hp r, part_updateWhere hf fun r _ => hp r, h.part]
  free := by
    intro k hk
    rw [get?_updateWhere, Option.map_eq_none_iff] at hk ⊢
    exact h.free k hk

end Within

end KeyedTable
