import Mathlib.Data.List.Sort
import Mathlib.Data.List.Perm.Subperm
import Mathlib.Tactic.Linarith
import TripWire.Lib.KeyedTable

/-!
# Keyset pagination

A table is read page by page in the order of a time, newest first.  The cursor of a page is the key
of its last row, and the next page starts strictly before the time of that row.  Times need not be
distinct, and a database answers rows of one time in any order (`DescOrder`).

Whether such a walk shows every row depends on the times and the page size only: it does exactly
when no group of rows of one time lies across the end of a page (`FitsPages`,
`follow_keysetPage`).
-/

/-- An answer to `ORDER BY time DESC`: rows of one time stand in any order. -/
structure DescOrder {α τ : Type*} [LE τ] (time : α → τ) where
  sort : List α → List α
  perm : ∀ rows, (sort rows).Perm rows
  sorted : ∀ rows, (sort rows).Pairwise fun a b => time b ≤ time a

/-- One page: `cursor` is the key of the last row when there are more. -/
structure KeysetPage (β ι : Type*) where
  data : List β
  cursor : Option ι
  hasMore : Bool
  deriving DecidableEq

/-- The page with other rows for the same keys. -/
def KeysetPage.map {α β ι : Type*} (f : α → β) (page : KeysetPage α ι) : KeysetPage β ι :=
  { page with data := page.data.map f }

/-- A client that follows the cursors until `hasMore` is false: the pages, or the error of the
request that failed.  The requests are numbered, and `fuel` bounds how many there are. -/
def follow {ε β ι : Type*} (request : ℕ → Option ι → Except ε (KeysetPage β ι)) :
    ℕ → ℕ → Option ι → Option (Except ε (List (KeysetPage β ι)))
  | 0, _, _ => none
  | fuel + 1, n, cursor =>
    match request n cursor with
    | .error e => some (.error e)
    | .ok page =>
      if page.hasMore then
        (follow request fuel (n + 1) page.cursor).map fun rest => rest.map (page :: ·)
      else some (.ok [page])

section Keyset

variable {α τ ι : Type*} [LinearOrder τ] {time : α → τ}

/-- The stable order. -/
def DescOrder.stable (time : α → τ) : DescOrder time where
  sort := List.insertionSort fun a b => time b ≤ time a
  perm := List.perm_insertionSort _
  sorted := by
    intro rows
    have : Std.Total fun a b : α => time b ≤ time a := ⟨fun a b => le_total (time b) (time a)⟩
    have : IsTrans α fun a b : α => time b ≤ time a := ⟨fun _ _ _ hab hbc => hbc.trans hab⟩
    exact List.pairwise_insertionSort _ rows

/-- No group of rows of one time lies across the end of a page: for no time `t` does a multiple of
the page size stand strictly between the number of the rows after `t` and that with those of `t`. -/
def FitsPages (time : α → τ) (limit : ℕ) (rows : List α) : Prop :=
  ∀ (t : τ) (k : ℕ), k * limit ≤ rows.countP (t < time ·) ∨ rows.countP (t ≤ time ·) ≤ k * limit

theorem fitsPages_of_length_le {limit : ℕ} {rows : List α} (h : rows.length ≤ limit) :
    FitsPages time limit rows := by
  intro t k
  rcases Nat.eq_zero_or_pos k with rfl | hk
  · left
    rw [Nat.zero_mul]
    exact Nat.zero_le _
  · right
    calc rows.countP (t ≤ time ·) ≤ rows.length := List.countP_le_length
      _ ≤ limit := h
      _ ≤ k * limit := Nat.le_mul_of_pos_left limit hk

/-- A condition that all rows from `t₀` on satisfy, counted before `t₀` and from there on. -/
theorem countP_eq_add {t₀ : τ} {p : α → Bool} (rows : List α) (hp : ∀ r, t₀ ≤ time r → p r = true) :
    rows.countP p = rows.countP (t₀ ≤ time ·) + (rows.filter (time · < t₀)).countP p := by
  induction rows with
  | nil => rfl
  | cons r rows ih =>
    by_cases hr : t₀ ≤ time r
    · have hlt : ¬time r < t₀ := not_lt.mpr hr
      simp only [List.countP_cons, List.filter_cons, hr, hlt, hp r hr, decide_true, decide_false,
        if_true, Bool.false_eq_true, if_false, ih]
      omega
    · have hlt : time r < t₀ := not_le.mp hr
      simp only [List.countP_cons, List.filter_cons, hr, hlt, decide_true, decide_false,
        Bool.false_eq_true, if_false, if_true, ih]
      omega

/-- What one full page does: the rest fits the pages, and the group of the last row ends with the
page. -/
theorem fitsPages_iff {limit : ℕ} {rows : List α} {t₀ : τ}
    (hafter : rows.countP (t₀ < time ·) < limit) (hfrom : limit ≤ rows.countP (t₀ ≤ time ·)) :
    FitsPages time limit rows ↔
      rows.countP (t₀ ≤ time ·) = limit ∧ FitsPages time limit (rows.filter (time · < t₀)) := by
  have hlt : ∀ t < t₀, rows.countP (t < time ·) =
      rows.countP (t₀ ≤ time ·) + (rows.filter (time · < t₀)).countP (t < time ·) :=
    fun t ht => countP_eq_add rows fun r hr => decide_eq_true (ht.trans_le hr)
  have hle : ∀ t < t₀, rows.countP (t ≤ time ·) =
      rows.countP (t₀ ≤ time ·) + (rows.filter (time · < t₀)).countP (t ≤ time ·) :=
    fun t ht => countP_eq_add rows fun r hr => decide_eq_true (ht.le.trans hr)
  constructor
  · intro h
    have hgroup : rows.countP (t₀ ≤ time ·) = limit := by
      have := h t₀ 1
      omega
    refine ⟨hgroup, ?_⟩
    intro t k
    rcases lt_or_ge t t₀ with ht | ht
    · -- the page shifts both counts by one page
      have := h t (k + 1)
      rw [hlt t ht, hle t ht, hgroup, Nat.succ_mul] at this
      omega
    · right
      have hnone : (rows.filter (time · < t₀)).countP (t ≤ time ·) = 0 := by
        rw [List.countP_eq_zero]
        intro r hr
        have hr := of_decide_eq_true (List.mem_filter.mp hr).2
        simpa using hr.trans_le ht
      rw [hnone]
      exact Nat.zero_le _
  · rintro ⟨hgroup, h⟩ t k
    cases k with
    | zero =>
      left
      rw [Nat.zero_mul]
      exact Nat.zero_le _
    | succ k =>
      have hk : limit ≤ (k + 1) * limit := Nat.le_mul_of_pos_left limit k.succ_pos
      rcases lt_or_ge t t₀ with ht | ht
      · rw [hlt t ht, hle t ht, hgroup, Nat.succ_mul]
        have := h t k
        omega
      · right
        calc rows.countP (t ≤ time ·) ≤ rows.countP (t₀ ≤ time ·) := by
              apply List.countP_mono_left
              intro r _ hr
              exact decide_eq_true (ht.trans (of_decide_eq_true hr))
          _ ≤ (k + 1) * limit := hgroup.le.trans hk

end Keyset

/-! ### A page of a table -/

namespace KeyedTable

variable {α τ ι : Type*} [DecidableEq ι] [LinearOrder τ] {key : α → ι} {time : α → τ}

/-- The rows of the scope that the cursor has not passed: those before the time of its row.  A
cursor of no row passes nothing. -/
def behind (table : KeyedTable key) (time : α → τ) (scope : α → Bool) (cursor : Option ι) :
    List α :=
  table.rows.filter fun r =>
    scope r && (cursor.bind table.get?).all fun last => decide (time r < time last)

/-- One more row than the page has is asked for. -/
def keysetPage (table : KeyedTable key) (order : DescOrder time) (scope : α → Bool) (limit : ℕ)
    (cursor : Option ι) : KeysetPage α ι :=
  let rows := (order.sort (table.behind time scope cursor)).take (limit + 1)
  let hasMore := decide (limit < rows.length)
  let rows := if hasMore then rows.take limit else rows
  ⟨rows, if hasMore then rows.getLast?.map key else none, hasMore⟩

/-- A cursor of a row of the table. -/
theorem behind_some (table : KeyedTable key) (scope : α → Bool) {cursor : Option ι} {last : α}
    (hlast : last ∈ table.behind time scope cursor) :
    table.behind time scope (some (key last)) =
      (table.behind time scope cursor).filter (time · < time last) := by
  obtain ⟨hmem, hpassed⟩ := List.mem_filter.mp hlast
  rw [Bool.and_eq_true] at hpassed
  rw [behind, behind, List.filter_filter, Option.bind_some, table.get?_of_mem hmem]
  apply List.filter_congr
  intro r _
  rw [Option.all_some]
  by_cases hr : time r < time last
  · -- `last` is before the cursor, and `r` is before `last`
    have : (cursor.bind table.get?).all (fun c => decide (time r < time c)) = true := by
      rw [Option.all_eq_true]
      intro c hc
      have := (Option.all_eq_true _ _).mp hpassed.2 c hc
      exact decide_eq_true (hr.trans (of_decide_eq_true this))
    rw [this]
    simp [hr]
  · simp [hr]

/-- The page of a scope without rows. -/
theorem keysetPage_of_scope_eq_false (table : KeyedTable key) (order : DescOrder time)
    {scope : α → Bool} (h : ∀ r ∈ table.rows, scope r = false) (limit : ℕ) (cursor : Option ι) :
    table.keysetPage order scope limit cursor = ⟨[], none, false⟩ := by
  have hrows : table.behind time scope cursor = [] := by
    rw [behind, List.filter_eq_nil_iff]
    intro r hr
    rw [h r hr, Bool.false_and]
    exact Bool.false_ne_true
  have hsort : order.sort [] = [] := (order.perm []).eq_nil
  rw [keysetPage, hrows, hsort]
  rfl

/-- **What a page is.** Either it has all the rows that are left, or it has `limit` of them, which
begin with all that are newer than its last row. -/
theorem keysetPage_cases (table : KeyedTable key) (order : DescOrder time) (scope : α → Bool)
    {limit : ℕ} (hlimit : 0 < limit) (cursor : Option ι) :
    let rows := table.behind time scope cursor
    let page := table.keysetPage order scope limit cursor
    (page.hasMore = false ∧ page.data.Perm rows ∧ rows.length ≤ limit) ∨
      ∃ last ∈ rows, page.hasMore = true ∧ page.cursor = some (key last) ∧
        page.data.length = limit ∧ page.data.Subperm (rows.filter (time last ≤ time ·)) ∧
        rows.countP (time last < time ·) < limit := by
  intro rows page
  have hperm : (order.sort rows).Perm rows := order.perm rows
  rcases Nat.lt_or_ge limit rows.length with hlt | hge
  · right
    have hlength : limit < ((order.sort rows).take (limit + 1)).length := by
      rw [List.length_take, hperm.length_eq]
      omega
    have hdata : page.data = (order.sort rows).take limit := by
      show (if decide (limit < ((order.sort rows).take (limit + 1)).length) = true
        then _ else _) = _
      rw [if_pos (decide_eq_true hlength), List.take_take, Nat.min_eq_left limit.le_succ]
    have hcount : page.data.length = limit := by
      rw [hdata, List.length_take, hperm.length_eq, Nat.min_eq_left hlt.le]
    -- the page without its last row, the last row, and what comes after the page
    obtain ⟨init, last, hinit⟩ : ∃ init last, page.data = init ++ [last] := by
      rcases List.eq_nil_or_concat page.data with hnil | ⟨init, last, hinit⟩
      · rw [hnil, List.length_nil] at hcount
        omega
      · exact ⟨init, last, by rw [hinit, List.concat_eq_append]⟩
    have hsplit : order.sort rows = init ++ [last] ++ (order.sort rows).drop limit := by
      rw [← hinit, hdata, List.take_append_drop]
    have hsorted := order.sorted rows
    rw [hsplit, List.pairwise_append] at hsorted
    obtain ⟨hpage, -, hafter⟩ := hsorted
    refine ⟨last, ?_, decide_eq_true hlength, ?_, hcount, ?_, ?_⟩
    · apply hperm.subset
      rw [hsplit]
      simp
    · show (if decide (limit < ((order.sort rows).take (limit + 1)).length) = true then
        page.data.getLast?.map key else none) = _
      rw [if_pos (decide_eq_true hlength), hinit, List.getLast?_append, List.getLast?_singleton]
      rfl
    · have hfrom : page.data.filter (time last ≤ time ·) = page.data := by
        rw [List.filter_eq_self, hinit]
        intro r hr
        rcases List.mem_append.mp hr with hr | hr
        · exact decide_eq_true ((List.pairwise_append.mp hpage).2.2 r hr last (by simp))
        · rw [List.mem_singleton.mp hr]
          exact decide_eq_true le_rfl
      rw [← hfrom, hdata]
      exact ((List.take_sublist _ _).subperm.trans hperm.subperm).filter _
    · have hlater : ((order.sort rows).drop limit).countP (time last < time ·) = 0 := by
        rw [List.countP_eq_zero]
        intro r hr
        have := hafter last (by simp) r hr
        simpa using this
      have hinitLength : init.length + 1 = limit := by
        rw [← hcount, hinit, List.length_append, List.length_singleton]
      calc rows.countP (time last < time ·)
          = (order.sort rows).countP (time last < time ·) := (hperm.countP_eq _).symm
        _ = init.countP (time last < time ·) := by
            rw [hsplit, List.countP_append, List.countP_append, hlater]
            simp
        _ ≤ init.length := List.countP_le_length
        _ < limit := by omega
  · left
    have htake : (order.sort rows).take (limit + 1) = order.sort rows := by
      apply List.take_of_length_le
      rw [hperm.length_eq]
      omega
    have hlength : ¬limit < ((order.sort rows).take (limit + 1)).length := by
      rw [htake, hperm.length_eq]
      omega
    have hdata : page.data = order.sort rows := by
      show (if decide (limit < ((order.sort rows).take (limit + 1)).length) = true
        then _ else _) = _
      rw [if_neg (by rwa [decide_eq_true_eq]), htake]
    exact ⟨decide_eq_false hlength, hdata ▸ hperm, hge⟩

/-- **The walk.** With enough fuel it ends; it shows no row twice and no row outside the scope; and
it shows every row exactly when the rows fit the pages.  Each request has an order of its own, and
may show the rows by a `view` that keeps the keys. -/
theorem follow_keysetPage (table : KeyedTable key) (order : ℕ → DescOrder time) (scope : α → Bool)
    {limit : ℕ} (hlimit : 0 < limit) {ε β : Type*}
    {request : ℕ → Option ι → Except ε (KeysetPage β ι)} {view : ℕ → α → β} {key' : β → ι}
    (hview : ∀ n r, key' (view n r) = key r)
    (hrequest : ∀ n cursor, request n cursor =
      .ok ((table.keysetPage (order n) scope limit cursor).map (view n)))
    (n : ℕ) (cursor : Option ι) :
    let rows := table.behind time scope cursor
    ∃ (pages : List (KeysetPage β ι)) (shown : List α),
      (∀ fuel, rows.length < fuel → follow request fuel n cursor = some (.ok pages)) ∧
      (pages.flatMap KeysetPage.data).map key' = shown.map key ∧ shown.Subperm rows ∧
      (shown.length = rows.length ↔ FitsPages time limit rows) := by
  -- the induction is on the number of rows that the cursor has not passed
  induction hm : (table.behind time scope cursor).length using Nat.strong_induction_on
    generalizing n cursor with
  | h m ih =>
    intro rows
    let page := table.keysetPage (order n) scope limit cursor
    have hdata : ((page.map (view n)).data).map key' = page.data.map key := by
      show (page.data.map (view n)).map key' = page.data.map key
      rw [List.map_map]
      exact List.map_congr_left fun r _ => hview n r
    rcases keysetPage_cases table (order n) scope hlimit cursor with
      ⟨hmore, hperm, hfits⟩ | ⟨last, hlast, hmore, hcursor, hlength, hsub, hafter⟩
    · refine ⟨[page.map (view n)], page.data, ?_, ?_, hperm.subperm, ?_⟩
      · intro fuel hfuel
        obtain ⟨fuel, rfl⟩ : ∃ f, fuel = f + 1 := ⟨fuel - 1, by omega⟩
        rw [follow, hrequest]
        show (if page.hasMore = true then _ else some (Except.ok [page.map (view n)])) = _
        rw [if_neg (by rw [hmore]; exact Bool.false_ne_true)]
      · rw [List.flatMap_singleton]
        exact hdata
      · exact iff_of_true hperm.length_eq (fitsPages_of_length_le hfits)
    · -- the rest begins before the last row of the page
      have hrest : table.behind time scope (some (key last)) = rows.filter (time · < time last) :=
        behind_some table scope hlast
      have hfrom : limit ≤ rows.countP (time last ≤ time ·) := by
        rw [List.countP_eq_length_filter, ← hlength]
        exact hsub.length_le
      have hsplit : rows.length = rows.countP (time last ≤ time ·) +
          (rows.filter (time · < time last)).length := by
        have := countP_eq_add (p := fun _ => true) rows fun r (_ : time last ≤ time r) => rfl
        simpa using this
      have hsmaller : (table.behind time scope (some (key last))).length < m := by
        rw [hrest, ← hm]
        show _ < rows.length
        omega
      obtain ⟨pages, shown, hfollow, hkeys, hshown, hiff⟩ :=
        ih _ hsmaller (n + 1) (some (key last)) rfl
      rw [hrest] at hfollow hshown hiff
      refine ⟨page.map (view n) :: pages, page.data ++ shown, ?_, ?_, ?_, ?_⟩
      · intro fuel hfuel
        obtain ⟨fuel, rfl⟩ : ∃ f, fuel = f + 1 := ⟨fuel - 1, by omega⟩
        rw [follow, hrequest]
        show (if page.hasMore = true then
          (follow request fuel (n + 1) page.cursor).map fun rest =>
            rest.map (page.map (view n) :: ·) else _) = _
        rw [if_pos hmore, hcursor, hfollow fuel (by omega)]
        rfl
      · rw [List.flatMap_cons, List.map_append, List.map_append, hdata, hkeys]
      · have hparts : (rows.filter (time last ≤ time ·) ++
            rows.filter (time · < time last)).Perm rows := by
          have := List.filter_append_perm (fun r => decide (time last ≤ time r)) rows
          have hnot : ∀ r, (!decide (time last ≤ time r)) = decide (time r < time last) := by
            intro r
            rw [← decide_not, decide_eq_decide, not_le]
          simpa only [hnot] using this
        exact (hsub.append hshown).trans hparts.subperm
      · have hpage : rows.countP (time last < time ·) < limit := hafter
        rw [fitsPages_iff hpage hfrom, ← hiff, List.length_append, hlength]
        have := hshown.length_le
        omega

end KeyedTable
