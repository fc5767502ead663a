import TripWire.Lib.Machine
import Mathlib.Data.List.TakeWhile
import Mathlib.Order.WithBot
import Mathlib.Tactic.Common

/-!
# A reader of a log

A log whose ids ascend, and one reader that knows the id it has come to.  It reads what is behind
its position, a batch at a time, and handles it in order; an entry that cannot be handled (`ok`)
ends the batch, and the reader does not get past it.  Entries may be added at any time and the
oldest removed, and the reader may start over from the beginning.

`LogReader.Invariant` holds of every state: no entry is handled twice or out of order, and none is
skipped.  An entry that cannot be handled blocks the reader (`Invariant.position_lt`), and else
enough batches bring it to every entry (`Invariant.handled_run`).
-/

/-- A log with ascending ids. -/
structure OrderedLog (κ β : Type*) [LinearOrder κ] where
  /-- What is in the log, oldest first. -/
  entries : List (κ × β) := []
  /-- The last id that was given. -/
  last : WithBot κ := ⊥
  ascending : entries.Pairwise (fun a b => a.1 < b.1) := by simp
  le_last : ∀ e ∈ entries, (e.1 : WithBot κ) ≤ last := by simp

namespace OrderedLog

variable {κ β : Type*} [LinearOrder κ] (log : OrderedLog κ β)

/-- The log with one more entry.  Ids ascend. -/
def add (id : κ) (value : β) : OrderedLog κ β :=
  if hid : log.last < id then
    { entries := log.entries ++ [(id, value)]
      last := id
      ascending := by
        rw [List.pairwise_append]
        refine ⟨log.ascending, List.pairwise_singleton _ _, fun a ha b hb => ?_⟩
        rw [List.mem_singleton.mp hb]
        exact WithBot.coe_lt_coe.mp ((log.le_last a ha).trans_lt hid)
      le_last := by
        intro e he
        rcases List.mem_append.mp he with he | he
        · exact ((log.le_last e he).trans_lt hid).le
        · rw [List.mem_singleton.mp he] }
  else log

/-- The log without its `n` oldest entries. -/
def trim (n : ℕ) : OrderedLog κ β where
  entries := log.entries.drop n
  last := log.last
  ascending := log.ascending.sublist (List.drop_sublist _ _)
  le_last := fun e he => log.le_last e (List.mem_of_mem_drop he)

/-- The log without some of the oldest entries, of which `maxLen` stay. -/
def limit (maxLen trim : ℕ) : OrderedLog κ β := log.trim (min trim (log.entries.length - maxLen))

/-- What is behind a position. -/
def after (position : WithBot κ) : List (κ × β) :=
  log.entries.filter fun e => decide (position < e.1)

variable {log}

theorem mem_after {position : WithBot κ} {e : κ × β} :
    e ∈ log.after position ↔ e ∈ log.entries ∧ position < e.1 := by
  rw [after, List.mem_filter, decide_eq_true_iff]

variable (log) in
theorem ascending_after (position : WithBot κ) :
    (log.after position).Pairwise (fun a b => a.1 < b.1) :=
  log.ascending.sublist List.filter_sublist

/-- What is behind a later position is behind the earlier one. -/
theorem after_after {position position' : WithBot κ} (h : position ≤ position') :
    (log.after position).filter (fun e => decide (position' < e.1)) = log.after position' := by
  rw [after, after, List.filter_filter]
  refine List.filter_congr fun e _ => ?_
  rw [← Bool.decide_and, decide_eq_decide]
  exact ⟨And.left, fun hlt => ⟨hlt, h.trans_lt hlt⟩⟩

theorem le_last_add (id : κ) (value : β) : log.last ≤ (log.add id value).last := by
  unfold add
  split
  case isTrue hid => exact hid.le
  case isFalse => exact le_rfl

/-- A new entry has an id behind all that were given. -/
theorem mem_entries_add {id : κ} {value : β} {e : κ × β} (he : e ∈ (log.add id value).entries) :
    e ∈ log.entries ∨ e = (id, value) ∧ log.last < id := by
  unfold add at he
  split at he
  case isTrue hid =>
    rcases List.mem_append.mp he with he | he
    · exact .inl he
    · exact .inr ⟨List.mem_singleton.mp he, hid⟩
  case isFalse => exact .inl he

theorem countP_after_trim_le (n : ℕ) (position : WithBot κ) (p : κ × β → Bool) :
    ((log.trim n).after position).countP p ≤ (log.after position).countP p :=
  List.Sublist.countP_le (List.Sublist.filter _ (List.drop_sublist _ _))

/-- A new entry is not among those up to an id that was given. -/
theorem countP_after_add_le {id : κ} (hid : (id : WithBot κ) ≤ log.last) {id' : κ} {value : β}
    (position : WithBot κ) :
    ((log.add id' value).after position).countP (fun e => decide (e.1 ≤ id)) ≤
      (log.after position).countP fun e => decide (e.1 ≤ id) := by
  unfold add
  split
  case isFalse => exact le_rfl
  case isTrue hlast =>
    have hnew : ([(id', value)].filter fun e => decide (position < (e.1 : WithBot κ))).countP
        (fun e => decide (e.1 ≤ id)) = 0 := by
      refine List.countP_eq_zero.mpr fun e he => ?_
      rw [List.mem_singleton.mp (List.mem_of_mem_filter he), decide_eq_true_iff, not_le]
      exact WithBot.coe_lt_coe.mp (hid.trans_lt hlast)
    show List.countP _ (List.filter _ (log.entries ++ [(id', value)])) ≤ _
    rw [List.filter_append, List.countP_append, hnew]
    exact le_rfl

end OrderedLog

/-- A reader and what it has handled. -/
structure LogReader (κ β : Type*) [LinearOrder κ] where
  log : OrderedLog κ β := {}
  position : WithBot κ := ⊥
  handled : List (κ × β) := []

namespace LogReader

open Machine

variable {κ β : Type*} [LinearOrder κ]

/-- One step of a run. -/
inductive Action (κ β : Type*) where
  /-- A new entry, for which some of the oldest may go. -/
  | add (id : κ) (value : β) (maxLen trim : ℕ)
  | trim (n : ℕ)
  /-- A batch. -/
  | read
  /-- A new reader starts from the beginning. -/
  | restart
  | idle

/-- The position behind some entries. -/
def advance (position : WithBot κ) : List (κ × β) → WithBot κ
  | [] => position
  | e :: es => advance e.1 es

variable (ok : β → Bool) (size : ℕ)

/-- The entries of a batch that are handled. -/
def taken (r : LogReader κ β) : List (κ × β) :=
  ((r.log.after r.position).take size).takeWhile fun e => ok e.2

/-- The reader after a batch. -/
def readBatch (r : LogReader κ β) : LogReader κ β :=
  { r with
    position := advance r.position (r.taken ok size)
    handled := r.handled ++ r.taken ok size }

/-- The reader after a step. -/
def step (r : LogReader κ β) : Action κ β → LogReader κ β
  | .add id value maxLen trim => { r with log := (r.log.add id value).limit maxLen trim }
  | .trim n => { r with log := r.log.trim n }
  | .read => r.readBatch ok size
  | .restart => { r with position := ⊥, handled := [] }
  | .idle => r

/-! ### A batch -/

variable {ok size}

omit [LinearOrder κ] in
/-- The position behind some entries is that of one of them, unless there are none. -/
theorem advance_eq (position : WithBot κ) (es : List (κ × β)) :
    advance position es = position ∨ ∃ e ∈ es, advance position es = e.1 := by
  induction es generalizing position with
  | nil => exact .inl rfl
  | cons e es ih =>
    right
    rcases ih e.1 with h | ⟨e', he', h⟩
    · exact ⟨e, List.mem_cons_self, h⟩
    · exact ⟨e', List.mem_cons_of_mem _ he', h⟩

/-- Entries behind the position are not behind the new one. -/
theorem le_advance {position : WithBot κ} {es : List (κ × β)}
    (hes : es.Pairwise (fun a b => a.1 < b.1)) (hposition : ∀ e ∈ es, position < e.1) :
    position ≤ advance position es ∧ ∀ e ∈ es, (e.1 : WithBot κ) ≤ advance position es := by
  induction es generalizing position with
  | nil => exact ⟨le_rfl, by simp⟩
  | cons e es ih =>
    rw [List.pairwise_cons] at hes
    obtain ⟨hle, hall⟩ : (e.1 : WithBot κ) ≤ advance e.1 es ∧ _ :=
      ih hes.2 fun e' he' => WithBot.coe_lt_coe.mpr (hes.1 e' he')
    exact ⟨(hposition e List.mem_cons_self).le.trans hle, List.forall_mem_cons.mpr ⟨hle, hall⟩⟩

/-- What is behind the position is what a batch takes, and the rest. -/
theorem taken_append (ok : β → Bool) (size : ℕ) (r : LogReader κ β) :
    ∃ rest, r.taken ok size ++ rest = r.log.after r.position :=
  (List.takeWhile_prefix _).trans (List.take_prefix _ _)

theorem ok_of_mem_taken {r : LogReader κ β} {e : κ × β} (he : e ∈ r.taken ok size) :
    ok e.2 = true :=
  List.mem_takeWhile_imp (p := fun e : κ × β => ok e.2) he

/-- What a batch does to the position. -/
theorem advance_taken (r : LogReader κ β) {rest : List (κ × β)}
    (hrest : r.taken ok size ++ rest = r.log.after r.position) :
    r.position ≤ advance r.position (r.taken ok size) ∧
      (∀ e ∈ r.taken ok size, (e.1 : WithBot κ) ≤ advance r.position (r.taken ok size)) ∧
      ∀ e ∈ rest, advance r.position (r.taken ok size) < e.1 := by
  have hafter := r.log.ascending_after r.position
  have hmem : ∀ e ∈ r.taken ok size ++ rest, r.position < e.1 := fun e he =>
    (OrderedLog.mem_after.mp (hrest ▸ he)).2
  rw [← hrest, List.pairwise_append] at hafter
  obtain ⟨hle, hall⟩ := le_advance hafter.1 fun e he => hmem e (List.mem_append_left _ he)
  refine ⟨hle, hall, fun e he => ?_⟩
  rcases advance_eq r.position (r.taken ok size) with h | ⟨e', he', h⟩
  · rw [h]
    exact hmem e (List.mem_append_right _ he)
  · rw [h]
    exact WithBot.coe_lt_coe.mpr (hafter.2.2 e' he' e he)

/-- **A batch leaves the rest** behind the new position. -/
theorem after_readBatch (r : LogReader κ β) {rest : List (κ × β)}
    (hrest : r.taken ok size ++ rest = r.log.after r.position) :
    r.log.after (r.readBatch ok size).position = rest := by
  obtain ⟨hle, hall, hlt⟩ := r.advance_taken hrest
  show r.log.after (advance r.position (r.taken ok size)) = rest
  rw [← OrderedLog.after_after hle, ← hrest, List.filter_append,
    List.filter_eq_nil_iff.mpr fun e he => by simpa using hall e he,
    List.filter_eq_self.mpr fun e he => by simpa using hlt e he, List.nil_append]

/-! ### The invariant -/

/-- What is handled was handled once and in order, and nothing up to the position is left. -/
structure Invariant (ok : β → Bool) (r : LogReader κ β) : Prop where
  ascending : r.handled.Pairwise (fun a b => a.1 < b.1)
  le_position : ∀ e ∈ r.handled, (e.1 : WithBot κ) ≤ r.position
  position_le : r.position ≤ r.log.last
  handled_of_le : ∀ e ∈ r.log.entries, (e.1 : WithBot κ) ≤ r.position → e ∈ r.handled
  ok_handled : ∀ e ∈ r.handled, ok e.2 = true

theorem Invariant.init (ok : β → Bool) : Invariant ok ({} : LogReader κ β) where
  ascending := List.Pairwise.nil
  le_position := by simp
  position_le := le_rfl
  handled_of_le := by simp
  ok_handled := by simp

theorem Invariant.readBatch {r : LogReader κ β} (h : r.Invariant ok) (size : ℕ) :
    (r.readBatch ok size).Invariant ok := by
  obtain ⟨rest, hrest⟩ := r.taken_append ok size
  obtain ⟨hle, hall, hlt⟩ := r.advance_taken hrest
  have hmem : ∀ e ∈ r.taken ok size, e ∈ r.log.entries ∧ r.position < e.1 := fun e he =>
    OrderedLog.mem_after.mp (hrest ▸ List.mem_append_left _ he)
  refine ⟨?_, ?_, ?_, ?_, ?_⟩
  · have hafter := r.log.ascending_after r.position
    rw [← hrest, List.pairwise_append] at hafter
    refine List.pairwise_append.mpr ⟨h.ascending, hafter.1, fun a ha b hb => ?_⟩
    exact WithBot.coe_lt_coe.mp ((h.le_position a ha).trans_lt (hmem b hb).2)
  · intro e he
    rcases List.mem_append.mp he with he | he
    · exact (h.le_position e he).trans hle
    · exact hall e he
  · show advance r.position (r.taken ok size) ≤ r.log.last
    rcases advance_eq r.position (r.taken ok size) with h' | ⟨e, he, h'⟩
    · rw [h']
      exact h.position_le
    · rw [h']
      exact r.log.le_last e (hmem e he).1
  · intro e he hposition
    by_cases hold : (e.1 : WithBot κ) ≤ r.position
    · exact List.mem_append_left _ (h.handled_of_le e he hold)
    · have hafter : e ∈ r.log.after r.position := OrderedLog.mem_after.mpr ⟨he, not_le.mp hold⟩
      rw [← hrest] at hafter
      rcases List.mem_append.mp hafter with htaken | hleft
      · exact List.mem_append_right _ htaken
      · exact absurd (hlt e hleft) (not_lt.mpr hposition)
  · intro e he
    rcases List.mem_append.mp he with he | he
    · exact h.ok_handled e he
    · exact ok_of_mem_taken he

/-- **A step keeps the invariant.** -/
theorem Invariant.step {r : LogReader κ β} (h : r.Invariant ok) (size : ℕ) (a : Action κ β) :
    (r.step ok size a).Invariant ok := by
  cases a with
  | idle => exact h
  | read => exact h.readBatch size
  | add id value maxLen trim =>
    refine { h with
      position_le := h.position_le.trans (OrderedLog.le_last_add id value)
      handled_of_le := fun e he hposition => ?_ }
    rcases OrderedLog.mem_entries_add (List.mem_of_mem_drop he) with he | ⟨rfl, hlast⟩
    · exact h.handled_of_le e he hposition
    · exact absurd ((hposition.trans h.position_le).trans_lt hlast) (lt_irrefl _)
  | trim n =>
    exact { h with
      handled_of_le := fun e he hposition =>
        h.handled_of_le e (List.mem_of_mem_drop he) hposition }
  | restart =>
    exact
      { ascending := List.Pairwise.nil
        le_position := by simp [LogReader.step]
        position_le := bot_le
        handled_of_le := fun e _ hposition => absurd hposition (WithBot.not_coe_le_bot _)
        ok_handled := by simp [LogReader.step] }

/-- **An entry that cannot be handled** blocks the reader. -/
theorem Invariant.position_lt {r : LogReader κ β} (h : r.Invariant ok) {e : κ × β}
    (he : e ∈ r.log.entries) (hok : ok e.2 = false) : r.position < e.1 := by
  by_contra hposition
  have hhandled := h.ok_handled e (h.handled_of_le e he (not_lt.mp hposition))
  rw [hok] at hhandled
  cases hhandled

/-! ### How far the reader comes -/

/-- How many entries up to an id are behind the position. -/
def unread (r : LogReader κ β) (id : κ) : ℕ :=
  (r.log.after r.position).countP fun e => decide (e.1 ≤ id)

/-- Where the reader has come to an entry of the log, it has handled it. -/
theorem Invariant.handled_of_unread {r : LogReader κ β} (h : r.Invariant ok) {e : κ × β}
    (he : e ∈ r.log.entries) (hunread : r.unread e.1 = 0) : e ∈ r.handled := by
  refine h.handled_of_le e he (not_lt.mp fun hlt => ?_)
  have hnot := List.countP_eq_zero.mp hunread e (OrderedLog.mem_after.mpr ⟨he, hlt⟩)
  simp at hnot

/-- Among ascending entries those up to `id` come first. -/
theorem mem_takeWhile_of_le {id : κ} {es : List (κ × β)}
    (hes : es.Pairwise (fun a b => a.1 < b.1)) (hok : ∀ e ∈ es, e.1 ≤ id → ok e.2 = true)
    {e : κ × β} (he : e ∈ es) (hid : e.1 ≤ id) : e ∈ es.takeWhile fun e => ok e.2 := by
  induction es with
  | nil => cases he
  | cons x es ih =>
    rw [List.pairwise_cons] at hes
    rw [List.forall_mem_cons] at hok
    rcases List.mem_cons.mp he with rfl | he
    · rw [List.takeWhile_cons_of_pos (p := fun e : κ × β => ok e.2) (hok.1 hid)]
      exact List.mem_cons_self
    · have hx : x.1 ≤ id := (hes.1 e he).le.trans hid
      rw [List.takeWhile_cons_of_pos (p := fun e : κ × β => ok e.2) (hok.1 hx)]
      exact List.mem_cons_of_mem _ (ih hes.2 hok.2 he)

/-- A batch that leaves an entry up to `id` is full, if all entries up to `id` can be handled. -/
theorem length_taken {r : LogReader κ β} {id : κ}
    (hok : ∀ e ∈ r.log.entries, e.1 ≤ id → ok e.2 = true) {rest : List (κ × β)}
    (hrest : r.taken ok size ++ rest = r.log.after r.position) {e : κ × β} (he : e ∈ rest)
    (hid : e.1 ≤ id) : (r.taken ok size).length = size := by
  have hafter := r.log.ascending_after r.position
  have hok' : ∀ x ∈ r.log.after r.position, x.1 ≤ id → ok x.2 = true := fun x hx =>
    hok x (OrderedLog.mem_after.mp hx).1
  have hsplit := List.take_append_drop size (r.log.after r.position)
  have hmem : e ∈ r.log.after r.position := hrest ▸ List.mem_append_right _ he
  -- the entry was not read, so what was read is before it
  have hnot : e ∉ (r.log.after r.position).take size := by
    intro hread
    have htaken : e ∈ r.taken ok size :=
      mem_takeWhile_of_le (hafter.sublist (List.take_sublist _ _))
        (fun x hx => hok' x (List.mem_of_mem_take hx)) hread hid
    rw [← hrest, List.pairwise_append] at hafter
    exact lt_irrefl _ (hafter.2.2 e htaken e he)
  have hdropped : e ∈ (r.log.after r.position).drop size := by
    rw [← hsplit, List.mem_append] at hmem
    exact hmem.resolve_left hnot
  have hall : ∀ x ∈ (r.log.after r.position).take size, ok x.2 = true := by
    intro x hx
    rw [← hsplit, List.pairwise_append] at hafter
    exact hok' x (List.mem_of_mem_take hx) ((hafter.2.2 x hx e hdropped).le.trans hid)
  have htaken : r.taken ok size = (r.log.after r.position).take size :=
    List.takeWhile_eq_self_iff.mpr hall
  have hpos := List.length_pos_of_mem hdropped
  rw [List.length_drop] at hpos
  rw [htaken, List.length_take]
  omega

/-- **A batch comes `size` entries further**, if all entries up to `id` can be handled. -/
theorem unread_readBatch {r : LogReader κ β} {id : κ}
    (hok : ∀ e ∈ r.log.entries, e.1 ≤ id → ok e.2 = true) (size : ℕ) :
    (r.readBatch ok size).unread id ≤ r.unread id - size := by
  obtain ⟨rest, hrest⟩ := r.taken_append ok size
  have hbefore : r.unread id = (r.taken ok size).countP (fun e => decide (e.1 ≤ id)) +
      rest.countP fun e => decide (e.1 ≤ id) := by
    rw [unread, ← hrest, List.countP_append]
  have hunread : (r.readBatch ok size).unread id = rest.countP fun e => decide (e.1 ≤ id) :=
    congrArg (List.countP _) (r.after_readBatch hrest)
  rw [hbefore, hunread]
  by_cases hnone : rest.countP (fun e => decide (e.1 ≤ id)) = 0
  · rw [hnone]
    exact Nat.zero_le _
  · obtain ⟨e, he, hid⟩ := List.countP_pos_iff.mp (Nat.pos_of_ne_zero hnone)
    rw [decide_eq_true_iff] at hid
    have hafter := r.log.ascending_after r.position
    rw [← hrest, List.pairwise_append] at hafter
    have hlength := length_taken hok hrest he hid
    have hcount : (r.taken ok size).countP (fun e => decide (e.1 ≤ id)) =
        (r.taken ok size).length :=
      List.countP_eq_length.mpr fun x hx => decide_eq_true ((hafter.2.2 x hx e he).le.trans hid)
    omega

/-- The action is a batch. -/
def Action.isRead : Action κ β → Bool
  | .read => true
  | _ => false

/-- The action is a restart. -/
def Action.isRestart : Action κ β → Bool
  | .restart => true
  | _ => false

/-- The other steps bring no entry up to `id` that was given before. -/
theorem unread_step {r : LogReader κ β} {id : κ} (size : ℕ) (hid : (id : WithBot κ) ≤ r.log.last)
    (hok : ∀ e ∈ r.log.entries, e.1 ≤ id → ok e.2 = true) {a : Action κ β}
    (ha : a.isRestart = false) :
    (id : WithBot κ) ≤ (r.step ok size a).log.last ∧
      (∀ e ∈ (r.step ok size a).log.entries, e.1 ≤ id → ok e.2 = true) ∧
      (r.step ok size a).unread id ≤ r.unread id - if a.isRead then size else 0 := by
  cases a with
  | idle => exact ⟨hid, hok, le_rfl⟩
  | restart => cases ha
  | read => exact ⟨hid, hok, unread_readBatch hok size⟩
  | trim n =>
    exact ⟨hid, fun e he => hok e (List.mem_of_mem_drop he),
      OrderedLog.countP_after_trim_le n _ _⟩
  | add id' value maxLen trim =>
    have hold : ∀ e ∈ (r.log.add id' value).entries, e.1 ≤ id → e ∈ r.log.entries := by
      intro e he hle
      rcases OrderedLog.mem_entries_add he with he | ⟨rfl, hlast⟩
      · exact he
      · exact absurd ((WithBot.coe_le_coe.mpr hle).trans hid) (not_le.mpr hlast)
    refine ⟨hid.trans (OrderedLog.le_last_add id' value),
      fun e he hle => hok e (hold e (List.mem_of_mem_drop he) hle) hle, ?_⟩
    exact (OrderedLog.countP_after_trim_le _ _ _).trans
      (OrderedLog.countP_after_add_le hid r.position)

/-- **How far a run comes.** -/
theorem unread_run {r : LogReader κ β} {id : κ} (size : ℕ) (hid : (id : WithBot κ) ≤ r.log.last)
    (hok : ∀ e ∈ r.log.entries, e.1 ≤ id → ok e.2 = true) {actions : List (Action κ β)}
    (hactions : ∀ a ∈ actions, a.isRestart = false) :
    (run (LogReader.step ok size) r actions).unread id ≤
      r.unread id - size * actions.countP Action.isRead := by
  induction actions generalizing r with
  | nil => exact le_rfl
  | cons a actions ih =>
    rw [List.forall_mem_cons] at hactions
    obtain ⟨hid', hok', hunread⟩ := unread_step size hid hok hactions.1
    have hrest := ih hid' hok' hactions.2
    rw [run_cons, List.countP_cons, Nat.mul_add]
    split_ifs at hunread ⊢ <;> omega

/-- **An entry gets handled**: enough batches bring the reader to an entry that stays in the log, if
all entries up to it can be handled. -/
theorem Invariant.handled_run {r : LogReader κ β} (h : r.Invariant ok) {e : κ × β}
    (hid : (e.1 : WithBot κ) ≤ r.log.last)
    (hok : ∀ x ∈ r.log.entries, x.1 ≤ e.1 → ok x.2 = true) {actions : List (Action κ β)}
    (hactions : ∀ a ∈ actions, a.isRestart = false)
    (hbatches : r.unread e.1 ≤ size * actions.countP Action.isRead)
    (he : e ∈ (run (LogReader.step ok size) r actions).log.entries) :
    e ∈ (run (LogReader.step ok size) r actions).handled := by
  have hinvariant : (run (LogReader.step ok size) r actions).Invariant ok :=
    run_invariant (I := Invariant ok) (fun _ a h => h.step size a) actions h
  refine hinvariant.handled_of_unread he (Nat.eq_zero_of_le_zero ?_)
  have hunread := unread_run size hid hok hactions
  omega

end LogReader
