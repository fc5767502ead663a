import Mathlib
import TripWire.Lib.Machine

/-!
# The install counts of the templates

Migration 015 keeps `trigger_templates.install_count` by a row trigger on `trigger_instances`,
`sync_template_install_count`, and counts once from the data.

A statement changes its rows first; then the trigger is fired for one row after the other.  For a
template these changes gain and lose active instances (`gains`, `losses`).  The rows that are lost
were active before the statement, so no more are lost than were counted: the clamp at zero is never
reached, in whatever order the rows come (`sync_foldl`).  With the balance of each kind of statement
(`Statement.balance`) the counts stay exact: `install_count_exact`.
-/

namespace TripWire

open Machine

/-! ### The tables -/

/-- A row of `trigger_instances`. -/
structure TriggerInstanceRow where
  id : String
  templateId : String
  ownerAddress : String
  active : Bool
  createdAt : ℚ
  deriving DecidableEq

/-- A row of `trigger_templates`. -/
structure TriggerTemplateRow where
  id : String
  installCount : ℤ
  deriving DecidableEq

/-- The primary key and the foreign key of `trigger_instances`. -/
structure InstanceKeys (templates : List TriggerTemplateRow) (instances : List TriggerInstanceRow) :
    Prop where
  primary : (instances.map TriggerInstanceRow.id).Nodup
  foreign : ∀ r ∈ instances, r.templateId ∈ templates.map TriggerTemplateRow.id

theorem instanceKeys_iff {templates : List TriggerTemplateRow}
    {instances : List TriggerInstanceRow} :
    (instances.map TriggerInstanceRow.id).Nodup ∧
        (∀ r ∈ instances, r.templateId ∈ templates.map TriggerTemplateRow.id) ↔
      InstanceKeys templates instances :=
  ⟨fun h => ⟨h.1, h.2⟩, fun h => ⟨h.primary, h.foreign⟩⟩

instance (templates : List TriggerTemplateRow) (instances : List TriggerInstanceRow) :
    Decidable (InstanceKeys templates instances) := decidable_of_iff _ instanceKeys_iff

/-- `(template_id, owner_address)`. -/
def TriggerInstanceRow.agentTemplate (r : TriggerInstanceRow) : String × String :=
  (r.templateId, r.ownerAddress)

/-- `idx_trigger_instances_unique_active`. -/
def UniqueActive (instances : List TriggerInstanceRow) : Prop :=
  ((instances.filter (·.active)).map TriggerInstanceRow.agentTemplate).Nodup

instance (instances : List TriggerInstanceRow) : Decidable (UniqueActive instances) :=
  inferInstanceAs (Decidable (List.Nodup _))

/-- The two tables before the migration. -/
structure UnsyncedTables where
  templates : List TriggerTemplateRow
  instances : List TriggerInstanceRow
  keys : InstanceKeys templates instances

/-- The two tables after it. -/
structure InstallTables extends UnsyncedTables where
  uniqueActive : UniqueActive instances

/-! ### The row trigger -/

/-- A row that a statement has changed: `NEW`, `OLD` and `NEW`, or `OLD`. -/
inductive RowChange where
  | insert (new : TriggerInstanceRow)
  | update (old new : TriggerInstanceRow)
  | delete (old : TriggerInstanceRow)

/-- `UPDATE trigger_templates SET install_count = ... WHERE id = templateId`. -/
def setInstallCount (templateId : String) (count : ℤ → ℤ) (templates : List TriggerTemplateRow) :
    List TriggerTemplateRow :=
  templates.map fun t => if t.id = templateId then { t with installCount := count t.installCount }
    else t

/-- `install_count + 1`. -/
def incremented (count : ℤ) : ℤ := count + 1

/-- `GREATEST(install_count - 1, 0)`. -/
def decremented (count : ℤ) : ℤ := max (count - 1) 0

/-- `sync_template_install_count`. -/
def syncTemplateInstallCount (templates : List TriggerTemplateRow) :
    RowChange → List TriggerTemplateRow
  | .insert new =>
    if new.active then setInstallCount new.templateId incremented templates else templates
  | .update old new =>
    if old.active ∧ ¬new.active then setInstallCount new.templateId decremented templates
    else if ¬old.active ∧ new.active then setInstallCount new.templateId incremented templates
    else templates
  | .delete old =>
    if old.active then setInstallCount old.templateId decremented templates else templates

/-! ### The statements -/

/-- A statement about `trigger_instances`: rows that are inserted, a new value of `active` for the
rows of a condition, or the deletion of the rows of a condition. -/
inductive InstanceStatement where
  | insert (rows : List TriggerInstanceRow)
  | updateActive (condition : TriggerInstanceRow → Bool) (value : TriggerInstanceRow → Bool)
  | delete (condition : TriggerInstanceRow → Bool)

/-- `SET active = value`. -/
def TriggerInstanceRow.setActive (value : TriggerInstanceRow → Bool) (r : TriggerInstanceRow) :
    TriggerInstanceRow := { r with active := value r }

namespace InstanceStatement

/-- The rows after the statement. -/
def rowsAfter (instances : List TriggerInstanceRow) : InstanceStatement → List TriggerInstanceRow
  | .insert rows => instances ++ rows
  | .updateActive condition value =>
    instances.map fun r => if condition r then r.setActive value else r
  | .delete condition => instances.filter fun r => !condition r

/-- The rows that it changes, for which the trigger is fired. -/
def changes (instances : List TriggerInstanceRow) : InstanceStatement → List RowChange
  | .insert rows => rows.map .insert
  | .updateActive condition value =>
    (instances.filter condition).map fun r => .update r (r.setActive value)
  | .delete condition => (instances.filter condition).map .delete

end InstanceStatement

/-- The ids of the templates stay. -/
theorem map_id_setInstallCount (templateId : String) (count : ℤ → ℤ)
    (templates : List TriggerTemplateRow) :
    (setInstallCount templateId count templates).map TriggerTemplateRow.id =
      templates.map TriggerTemplateRow.id := by
  rw [setInstallCount, List.map_map]
  refine List.map_congr_left fun t _ => ?_
  rw [Function.comp_apply]
  split_ifs with h
  · rfl
  · rfl

theorem map_id_sync (templates : List TriggerTemplateRow) (change : RowChange) :
    (syncTemplateInstallCount templates change).map TriggerTemplateRow.id =
      templates.map TriggerTemplateRow.id := by
  cases change with
  | insert new =>
    rw [syncTemplateInstallCount]
    split_ifs with hactive
    · exact map_id_setInstallCount _ _ _
    · rfl
  | update old new =>
    rw [syncTemplateInstallCount]
    split_ifs with hlost hgained
    · exact map_id_setInstallCount _ _ _
    · exact map_id_setInstallCount _ _ _
    · rfl
  | delete old =>
    rw [syncTemplateInstallCount]
    split_ifs with hactive
    · exact map_id_setInstallCount _ _ _
    · rfl

/-- So the foreign keys stay valid. -/
theorem InstanceKeys.sync {templates : List TriggerTemplateRow}
    {instances : List TriggerInstanceRow} (h : InstanceKeys templates instances)
    (changes : List RowChange) :
    InstanceKeys (changes.foldl syncTemplateInstallCount templates) instances := by
  induction changes generalizing templates with
  | nil => exact h
  | cons change changes ih => exact ih ⟨h.primary, by rw [map_id_sync]; exact h.foreign⟩

namespace InstallTables

/-- A statement, which fails if the rows would break a constraint. -/
def execute (s : InstallTables) (statement : InstanceStatement) : InstallTables :=
  if h : InstanceKeys s.templates (statement.rowsAfter s.instances) ∧
      UniqueActive (statement.rowsAfter s.instances) then
    { templates := (statement.changes s.instances).foldl syncTemplateInstallCount s.templates
      instances := statement.rowsAfter s.instances
      keys := h.1.sync (statement.changes s.instances)
      uniqueActive := h.2 }
  else s

/-- What happens: a statement that may be aborted, by an error or a rollback. -/
def step (s : InstallTables) (action : InstanceStatement × Bool) : InstallTables :=
  if action.2 then s else s.execute action.1

end InstallTables

/-! ### The migration -/

/-- `SELECT DISTINCT ON (template_id, owner_address) id ... ORDER BY ..., created_at ASC` of the
active instances: the oldest of each agent and template. -/
def oldestActive (instances : List TriggerInstanceRow) : List TriggerInstanceRow :=
  ((instances.filter (·.active)).insertionSort (·.createdAt ≤ ·.createdAt)).reverse.pwFilter
    (·.agentTemplate ≠ ·.agentTemplate)

/-- The duplicates are made inactive. -/
def dedupe (instances : List TriggerInstanceRow) : List TriggerInstanceRow :=
  instances.map fun r =>
    if r.id ∉ (oldestActive instances).map TriggerInstanceRow.id ∧ r.active then
      { r with active := false }
    else r

/-- The number of active instances of a template. -/
def activeInstances (templateId : String) (instances : List TriggerInstanceRow) : ℕ :=
  instances.countP fun r => r.active && r.templateId = templateId

/-- `UPDATE trigger_templates SET install_count = (SELECT COUNT(*) ...)`. -/
def recount (templates : List TriggerTemplateRow) (instances : List TriggerInstanceRow) :
    List TriggerTemplateRow :=
  templates.map fun t => { t with installCount := activeInstances t.id instances }

theorem mem_oldestActive {instances : List TriggerInstanceRow} {r : TriggerInstanceRow}
    (h : r ∈ oldestActive instances) : r ∈ instances ∧ r.active = true := by
  have hsorted := List.pwFilter_subset _ h
  rw [List.mem_reverse, List.mem_insertionSort, List.mem_filter] at hsorted
  exact hsorted

/-- The active instances that the migration leaves. -/
theorem filter_dedupe (kept : TriggerInstanceRow → Prop) [DecidablePred kept]
    (instances : List TriggerInstanceRow) :
    (instances.map fun r => if ¬kept r ∧ r.active then { r with active := false } else r).filter
        (·.active) = instances.filter fun r => kept r ∧ r.active := by
  induction instances with
  | nil => rfl
  | cons r instances ih =>
    rw [List.map_cons, List.filter_cons, List.filter_cons, ih]
    by_cases hkept : kept r
    · simp [hkept]
    · by_cases hactive : r.active = true
      · simp [hkept, hactive]
      · simp [hkept, hactive]

/-- The index can be created: one active instance is left of each agent and template. -/
theorem uniqueActive_dedupe {instances : List TriggerInstanceRow}
    (hprimary : (instances.map TriggerInstanceRow.id).Nodup) :
    UniqueActive (dedupe instances) := by
  have holdest : ∀ r ∈ instances.filter (fun r =>
      r.id ∈ (oldestActive instances).map TriggerInstanceRow.id ∧ r.active),
      r ∈ oldestActive instances := by
    intro r hr
    obtain ⟨hmem, hkept⟩ := List.mem_filter.mp hr
    obtain ⟨k, hk, hid⟩ := List.mem_map.mp (of_decide_eq_true hkept).1
    rwa [List.inj_on_of_nodup_map hprimary (mem_oldestActive hk).1 hmem hid] at hk
  have hkeys : ((oldestActive instances).map TriggerInstanceRow.agentTemplate).Nodup :=
    List.pairwise_map.mpr (List.pairwise_pwFilter _)
  have hdistinct : (instances.filter fun r =>
      r.id ∈ (oldestActive instances).map TriggerInstanceRow.id ∧ r.active).Pairwise
        (·.id ≠ ·.id) := (List.pairwise_map.mp hprimary).filter _
  rw [UniqueActive, dedupe, filter_dedupe, List.Nodup, List.pairwise_map]
  refine hdistinct.imp_of_mem fun {a b} ha hb hne heq => hne ?_
  rw [List.inj_on_of_nodup_map hkeys (holdest a ha) (holdest b hb) heq]

/-- Making rows inactive leaves their keys. -/
theorem InstanceKeys.dedupe {templates : List TriggerTemplateRow}
    {instances : List TriggerInstanceRow} (h : InstanceKeys templates instances) :
    InstanceKeys templates (dedupe instances) := by
  have hsame : ∀ (p : Prop) [Decidable p] (r : TriggerInstanceRow),
      (if p then { r with active := false } else r).id = r.id ∧
        (if p then { r with active := false } else r).templateId = r.templateId := by
    intro p _ r
    split_ifs with hp
    · exact ⟨rfl, rfl⟩
    · exact ⟨rfl, rfl⟩
  constructor
  · have hids : (TripWire.dedupe instances).map TriggerInstanceRow.id =
        instances.map TriggerInstanceRow.id := by
      rw [TripWire.dedupe, List.map_map]
      exact List.map_congr_left fun r _ => (hsame _ r).1
    rw [hids]
    exact h.primary
  · intro r hr
    obtain ⟨before, hbefore, rfl⟩ := List.mem_map.mp hr
    rw [(hsame _ before).2]
    exact h.foreign before hbefore

theorem InstanceKeys.recount {templates : List TriggerTemplateRow}
    {instances : List TriggerInstanceRow} (h : InstanceKeys templates instances) :
    InstanceKeys (recount templates instances) instances where
  primary := h.primary
  foreign := by
    have hids : (TripWire.recount templates instances).map TriggerTemplateRow.id =
        templates.map TriggerTemplateRow.id := by
      rw [TripWire.recount, List.map_map]
      rfl
    rw [hids]
    exact h.foreign

/-- Migration 015. -/
def migrate015 (old : UnsyncedTables) : InstallTables where
  templates := recount old.templates (dedupe old.instances)
  instances := dedupe old.instances
  keys := old.keys.dedupe.recount
  uniqueActive := uniqueActive_dedupe old.keys.primary

/-! ### Gains and losses -/

/-- The change gives the template an active instance. -/
def gains (templateId : String) : RowChange → Bool
  | .insert new => new.active && new.templateId = templateId
  | .update old new => !old.active && new.active && new.templateId = templateId
  | .delete _ => false

/-- The change takes one from it. -/
def losses (templateId : String) : RowChange → Bool
  | .insert _ => false
  | .update old new => old.active && !new.active && new.templateId = templateId
  | .delete old => old.active && old.templateId = templateId

/-- A count that is changed. -/
def TriggerTemplateRow.add (d : ℤ) (t : TriggerTemplateRow) : TriggerTemplateRow :=
  { t with installCount := t.installCount + d }

/-- What changes add to the count of a template, the clamp aside. -/
def netChange (changes : List RowChange) (templateId : String) : ℤ :=
  changes.countP (gains templateId) - changes.countP (losses templateId)

/-- The clamp does not decide the value: `install_count - 1` is not negative where it is stored. -/
def NotClamped (templates : List TriggerTemplateRow) (change : RowChange) : Prop :=
  ∀ t ∈ templates, losses t.id change = true → 0 ≤ t.installCount - 1

/-- The first change and the rest. -/
theorem countP_changes (p : RowChange → Bool) (change : RowChange) (changes : List RowChange) :
    (change :: changes).countP p = [change].countP p + changes.countP p := by
  rw [← List.countP_append, List.singleton_append]

theorem netChange_cons (change : RowChange) (changes : List RowChange) (templateId : String) :
    netChange (change :: changes) templateId =
      netChange [change] templateId + netChange changes templateId := by
  rw [netChange, netChange, netChange, countP_changes _ change changes,
    countP_changes _ change changes]
  omega

theorem TriggerTemplateRow.add_add (t : TriggerTemplateRow) (d e : ℤ) :
    (t.add d).add e = t.add (d + e) := by
  rw [add, add, add, add_assoc]

/-- An update that adds `d` to the counts of its rows, where `d` is zero elsewhere. -/
theorem setInstallCount_eq {templateId : String} {count : ℤ → ℤ}
    {templates : List TriggerTemplateRow} {d : String → ℤ}
    (hcount : ∀ t ∈ templates, t.id = templateId → count t.installCount = t.installCount + d t.id)
    (helse : ∀ id, id ≠ templateId → d id = 0) :
    setInstallCount templateId count templates = templates.map fun t => t.add (d t.id) := by
  refine List.map_congr_left fun t ht => ?_
  split_ifs with hid
  · rw [hcount t ht hid]
    rfl
  · rw [helse t.id hid, TriggerTemplateRow.add, add_zero]

theorem map_add_zero {templates : List TriggerTemplateRow} {d : String → ℤ}
    (h : ∀ id, d id = 0) : templates = templates.map fun t => t.add (d t.id) := by
  have hid : (fun t : TriggerTemplateRow => t.add (d t.id)) = id := by
    funext t
    rw [h, TriggerTemplateRow.add, add_zero]
    rfl
  rw [hid, List.map_id]

/-- An increment. -/
theorem incremented_eq {templates : List TriggerTemplateRow} {change : RowChange}
    {templateId : String} (hgains : ∀ id, gains id change = decide (templateId = id))
    (hlosses : ∀ id, losses id change = false) :
    setInstallCount templateId incremented templates =
      templates.map fun t => t.add (netChange [change] t.id) := by
  refine setInstallCount_eq (fun t _ hid => ?_) fun id hid => ?_
  · simp [netChange, hgains, hlosses, incremented, hid]
  · simp [netChange, hgains, hlosses, Ne.symm hid]

/-- A decrement that is not clamped. -/
theorem decremented_eq {templates : List TriggerTemplateRow} {change : RowChange}
    {templateId : String} (h : NotClamped templates change) (hgains : ∀ id, gains id change = false)
    (hlosses : ∀ id, losses id change = decide (templateId = id)) :
    setInstallCount templateId decremented templates =
      templates.map fun t => t.add (netChange [change] t.id) := by
  refine setInstallCount_eq (fun t ht hid => ?_) fun id hid => ?_
  · have hpos : 0 ≤ t.installCount - 1 := h t ht (by simp [hlosses, hid])
    rw [decremented, max_eq_left hpos]
    simp [netChange, hgains, hlosses, hid, sub_eq_add_neg]
  · simp [netChange, hgains, hlosses, Ne.symm hid]

/-- A change that leaves the counts alone. -/
theorem unchanged_eq {templates : List TriggerTemplateRow} {change : RowChange}
    (hgains : ∀ id, gains id change = false) (hlosses : ∀ id, losses id change = false) :
    templates = templates.map fun t => t.add (netChange [change] t.id) :=
  map_add_zero (d := netChange [change]) fun id => by simp [netChange, hgains, hlosses]

/-- **The trigger**: without the clamp it adds what the change gains and loses. -/
theorem sync_eq {templates : List TriggerTemplateRow} {change : RowChange}
    (h : NotClamped templates change) :
    syncTemplateInstallCount templates change =
      templates.map fun t => t.add (netChange [change] t.id) := by
  cases change with
  | insert new =>
    rw [syncTemplateInstallCount]
    split_ifs with hactive
    · exact incremented_eq (fun id => by simp [gains, hactive]) fun id => rfl
    · exact unchanged_eq (fun id => by simp [gains, hactive]) fun id => rfl
  | update old new =>
    rw [syncTemplateInstallCount]
    split_ifs with hlost hgained
    · exact decremented_eq h (fun id => by simp [gains, hlost]) fun id => by simp [losses, hlost]
    · exact incremented_eq (fun id => by simp [gains, hgained]) fun id => by simp [losses, hgained]
    · refine unchanged_eq (fun id => ?_) fun id => ?_
      · cases hold : old.active <;> cases hnew : new.active <;> simp_all [gains]
      · cases hold : old.active <;> cases hnew : new.active <;> simp_all [losses]
  | delete old =>
    rw [syncTemplateInstallCount]
    split_ifs with hactive
    · exact decremented_eq h (fun id => rfl) fun id => by simp [losses, hactive]
    · exact unchanged_eq (fun id => rfl) fun id => by simp [losses, hactive]

/-- **The trigger over a statement**: where the template has no fewer instances than the statement
takes from it, the clamp is not reached. -/
theorem sync_foldl {changes : List RowChange} {templates : List TriggerTemplateRow}
    (h : ∀ t ∈ templates, (changes.countP (losses t.id) : ℤ) ≤ t.installCount) :
    Meets syncTemplateInstallCount NotClamped templates changes ∧
      changes.foldl syncTemplateInstallCount templates =
        templates.map fun t => t.add (netChange changes t.id) := by
  induction changes generalizing templates with
  | nil => exact ⟨trivial, map_add_zero fun _ => rfl⟩
  | cons change changes ih =>
    have hfirst : NotClamped templates change := by
      intro t ht hlost
      have hbound := h t ht
      rw [List.countP_cons_of_pos hlost] at hbound
      omega
    have hrest : ∀ t ∈ syncTemplateInstallCount templates change,
        (changes.countP (losses t.id) : ℤ) ≤ t.installCount := by
      rw [sync_eq hfirst]
      intro t ht
      obtain ⟨before, hbefore, rfl⟩ := List.mem_map.mp ht
      have hbound := h before hbefore
      show (changes.countP (losses before.id) : ℤ) ≤
        before.installCount + netChange [change] before.id
      rw [countP_changes] at hbound
      rw [netChange]
      push_cast at hbound
      omega
    obtain ⟨hmeets, hfold⟩ := ih hrest
    refine ⟨⟨hfirst, hmeets⟩, ?_⟩
    rw [List.foldl_cons, hfold, sync_eq hfirst, List.map_map]
    refine List.map_congr_left fun t _ => ?_
    show (t.add (netChange [change] t.id)).add (netChange changes t.id) = _
    rw [TriggerTemplateRow.add_add, ← netChange_cons]

/-! ### The statements -/

theorem countP_cons_toNat {α : Type*} (p : α → Bool) (x : α) (xs : List α) :
    (x :: xs).countP p = (p x).toNat + xs.countP p := by
  rw [List.countP_cons, add_comm]
  cases p x with
  | false => rfl
  | true => rfl

theorem activeInstances_cons (templateId : String) (r : TriggerInstanceRow)
    (instances : List TriggerInstanceRow) :
    activeInstances templateId (r :: instances) =
      (r.active && r.templateId = templateId).toNat + activeInstances templateId instances :=
  countP_cons_toNat _ _ _

namespace InstanceStatement

/-- What inserted rows give. -/
theorem balance_insert (rows instances : List TriggerInstanceRow) (templateId : String) :
    ((insert rows).changes instances).countP (losses templateId) = 0 ∧
      activeInstances templateId ((insert rows).rowsAfter instances) =
        activeInstances templateId instances +
          ((insert rows).changes instances).countP (gains templateId) := by
  rw [changes, rowsAfter, List.countP_map, List.countP_map, activeInstances, List.countP_append]
  exact ⟨List.countP_eq_zero.mpr fun r _ => Bool.false_ne_true, rfl⟩

/-- What an update gives and takes. -/
theorem balance_updateActive (condition value : TriggerInstanceRow → Bool)
    (instances : List TriggerInstanceRow) (templateId : String) :
    ((updateActive condition value).changes instances).countP (losses templateId) ≤
        activeInstances templateId instances ∧
      activeInstances templateId ((updateActive condition value).rowsAfter instances) +
          ((updateActive condition value).changes instances).countP (losses templateId) =
        activeInstances templateId instances +
          ((updateActive condition value).changes instances).countP (gains templateId) := by
  induction instances with
  | nil => exact ⟨le_rfl, rfl⟩
  | cons r instances ih =>
    have hrows : (updateActive condition value).rowsAfter (r :: instances) =
        (if condition r then r.setActive value else r) ::
          (updateActive condition value).rowsAfter instances := rfl
    by_cases hwhere : condition r = true
    · have hchanges : (updateActive condition value).changes (r :: instances) =
          .update r (r.setActive value) :: (updateActive condition value).changes instances := by
        rw [changes, List.filter_cons_of_pos hwhere]
        rfl
      -- the row itself gives, takes or keeps
      have hrow : (losses templateId (.update r (r.setActive value))).toNat ≤
            (r.active && r.templateId = templateId).toNat ∧
          (value r && r.templateId = templateId).toNat +
              (losses templateId (.update r (r.setActive value))).toNat =
            (r.active && r.templateId = templateId).toNat +
              (gains templateId (.update r (r.setActive value))).toNat := by
        dsimp only [losses, gains, TriggerInstanceRow.setActive]
        generalize decide (r.templateId = templateId) = same
        revert same
        generalize r.active = old, value r = new
        revert old new
        decide
      rw [hchanges, hrows, if_pos hwhere, activeInstances_cons, activeInstances_cons,
        countP_cons_toNat, countP_cons_toNat]
      show _ ∧ (value r && r.templateId = templateId).toNat + _ + _ = _
      omega
    · have hchanges : (updateActive condition value).changes (r :: instances) =
          (updateActive condition value).changes instances := by
        rw [changes, List.filter_cons_of_neg hwhere]
        rfl
      rw [hchanges, hrows, if_neg hwhere, activeInstances_cons, activeInstances_cons]
      omega

/-- What a deletion takes. -/
theorem balance_delete (condition : TriggerInstanceRow → Bool) (instances : List TriggerInstanceRow)
    (templateId : String) :
    ((delete condition).changes instances).countP (gains templateId) = 0 ∧
      activeInstances templateId ((delete condition).rowsAfter instances) +
          ((delete condition).changes instances).countP (losses templateId) =
        activeInstances templateId instances := by
  induction instances with
  | nil => exact ⟨rfl, rfl⟩
  | cons r instances ih =>
    by_cases hwhere : condition r = true
    · have hchanges : (delete condition).changes (r :: instances) =
          .delete r :: (delete condition).changes instances := by
        rw [changes, List.filter_cons_of_pos hwhere]
        rfl
      have hrows : (delete condition).rowsAfter (r :: instances) =
          (delete condition).rowsAfter instances :=
        List.filter_cons_of_neg (p := fun r => !condition r) (by simp [hwhere])
      rw [hchanges, hrows, activeInstances_cons, countP_cons_toNat, countP_cons_toNat]
      show false.toNat + _ = 0 ∧ _ + ((r.active && r.templateId = templateId).toNat + _) = _
      rw [Bool.toNat_false]
      omega
    · have hchanges : (delete condition).changes (r :: instances) =
          (delete condition).changes instances := by
        rw [changes, List.filter_cons_of_neg hwhere]
        rfl
      have hrows : (delete condition).rowsAfter (r :: instances) =
          r :: (delete condition).rowsAfter instances :=
        List.filter_cons_of_pos (p := fun r => !condition r) (by simp [hwhere])
      rw [hchanges, hrows, activeInstances_cons, activeInstances_cons]
      omega

/-- **The balance of a statement**: what it takes was active before it, and the active instances
after it are those before it with what it gives and without what it takes. -/
theorem balance (statement : InstanceStatement) (instances : List TriggerInstanceRow)
    (templateId : String) :
    (statement.changes instances).countP (losses templateId) ≤
        activeInstances templateId instances ∧
      (activeInstances templateId (statement.rowsAfter instances) : ℤ) =
        activeInstances templateId instances +
          netChange (statement.changes instances) templateId := by
  rw [netChange]
  cases statement with
  | insert rows =>
    have hbalance := balance_insert rows instances templateId
    omega
  | updateActive condition value =>
    have hbalance := balance_updateActive condition value instances templateId
    omega
  | delete condition =>
    have hbalance := balance_delete condition instances templateId
    omega

end InstanceStatement

/-! ### The run -/

namespace InstallTables

/-- Every count is the number of active instances. -/
def Exact (s : InstallTables) : Prop :=
  ∀ t ∈ s.templates, t.installCount = activeInstances t.id s.instances

theorem exact_migrate015 (old : UnsyncedTables) : (migrate015 old).Exact := by
  intro t ht
  obtain ⟨before, -, rfl⟩ := List.mem_map.mp ht
  rfl

variable {s : InstallTables}

/-- The clamp decides no value. -/
theorem Exact.meets (h : s.Exact) (statement : InstanceStatement) :
    Meets syncTemplateInstallCount NotClamped s.templates (statement.changes s.instances) ∧
      (statement.changes s.instances).foldl syncTemplateInstallCount s.templates =
        s.templates.map fun t => t.add (netChange (statement.changes s.instances) t.id) := by
  refine sync_foldl fun t ht => ?_
  rw [h t ht]
  exact_mod_cast (statement.balance s.instances t.id).1

/-- **The step lemma.** -/
theorem Exact.step (h : s.Exact) (action : InstanceStatement × Bool) : (s.step action).Exact := by
  rw [InstallTables.step, execute]
  split_ifs with haborts hkeys
  · exact h
  · intro t ht
    have ht : t ∈ (action.1.changes s.instances).foldl syncTemplateInstallCount s.templates := ht
    rw [(h.meets action.1).2] at ht
    obtain ⟨before, hbefore, rfl⟩ := List.mem_map.mp ht
    show before.installCount + netChange _ before.id =
      (activeInstances before.id (action.1.rowsAfter s.instances) : ℤ)
    rw [(action.1.balance s.instances before.id).2, h before hbefore]
  · exact h

end InstallTables

open InstallTables

/-- **The install counts are exact.**  In every run of statements after migration 015, the count of
each template is the number of its active instances, and in every firing of the trigger the clamp
at zero leaves the value as it is. -/
theorem install_count_exact (old : UnsyncedTables) (actions : List (InstanceStatement × Bool)) :
    (∀ t ∈ (run step (migrate015 old) actions).templates,
        t.installCount = activeInstances t.id (run step (migrate015 old) actions).instances) ∧
      Meets step (fun s action =>
          Meets syncTemplateInstallCount NotClamped s.templates (action.1.changes s.instances))
        (migrate015 old) actions := by
  have hstart := exact_migrate015 old
  refine ⟨run_invariant (fun _ action h => h.step action) actions hstart, ?_⟩
  exact meets_invariant (fun _ action h => ⟨(h.meets action.1).1, h.step action⟩) actions hstart

namespace Sample

/-- One agent has two active instances of a template that has counted neither. -/
def unsyncedTables : UnsyncedTables where
  templates := [⟨"template", 0⟩]
  instances :=
    [⟨"second", "template", "agent", true, 2⟩, ⟨"first", "template", "agent", true, 1⟩]
  keys := by decide +kernel

/-- Two other agents install the template, and one of them removes it again. -/
def installs : List (InstanceStatement × Bool) :=
  [(.insert [⟨"third", "template", "other", true, 3⟩, ⟨"fourth", "template", "another", true, 4⟩],
    false), (.delete (·.id = "third"), false)]

end Sample

/-- The migration leaves the older duplicate, and the count is two in the end. -/
theorem install_count_exact_duplicates :
    (migrate015 Sample.unsyncedTables).instances.map (·.active) = [false, true] ∧
      ∀ t ∈ (run step (migrate015 Sample.unsyncedTables) Sample.installs).templates,
        t.installCount = 2 := by
  refine ⟨by decide +kernel, fun t ht => ?_⟩
  have hactive : ∀ t ∈ (run step (migrate015 Sample.unsyncedTables) Sample.installs).templates,
      activeInstances t.id
        (run step (migrate015 Sample.unsyncedTables) Sample.installs).instances = 2 := by
    decide +kernel
  rw [(install_count_exact Sample.unsyncedTables Sample.installs).1 t ht, hactive t ht]
  rfl

end TripWire
