import TripWire.Py.Basic

/-!
# Python values

`Value` is the type of the dynamically typed data that flows through the pipeline: raw logs, decoded
event fields and filter targets, as `json.loads` and `eth_abi` produce them.  A dictionary is the
association list of its items in insertion order.

Equality of values is decidable (`Value.decEq`), so runs on concrete logs can be evaluated.
-/

namespace TripWire.Py

/-- A dynamically typed value. -/
inductive Value where
  | none
  | bool (b : Bool)
  | int (n : ℤ)
  | float (q : ℚ)
  | str (s : String)
  | list (xs : List Value)
  | dict (items : List (String × Value))

/-- The items of a dictionary, in insertion order. -/
abbrev Dict := List (String × Value)

mutual

/-- Decidable equality, constructor by constructor. -/
def Value.decEq : (a b : Value) → Decidable (a = b)
  | .none, .none => isTrue rfl
  | .bool a, .bool b => decidable_of_iff (a = b) (by simp)
  | .int a, .int b => decidable_of_iff (a = b) (by simp)
  | .float a, .float b => decidable_of_iff (a = b) (by simp)
  | .str a, .str b => decidable_of_iff (a = b) (by simp)
  | .list a, .list b =>
    match Value.decEqList a b with
    | isTrue h => isTrue (by rw [h])
    | isFalse h => isFalse (by simpa using h)
  | .dict a, .dict b =>
    match Value.decEqItems a b with
    | isTrue h => isTrue (by rw [h])
    | isFalse h => isFalse (by simpa using h)
  | .none, .bool _ | .none, .int _ | .none, .float _ | .none, .str _ | .none, .list _
  | .none, .dict _ | .bool _, .none | .bool _, .int _ | .bool _, .float _ | .bool _, .str _
  | .bool _, .list _ | .bool _, .dict _ | .int _, .none | .int _, .bool _ | .int _, .float _
  | .int _, .str _ | .int _, .list _ | .int _, .dict _ | .float _, .none | .float _, .bool _
  | .float _, .int _ | .float _, .str _ | .float _, .list _ | .float _, .dict _ | .str _, .none
  | .str _, .bool _ | .str _, .int _ | .str _, .float _ | .str _, .list _ | .str _, .dict _
  | .list _, .none | .list _, .bool _ | .list _, .int _ | .list _, .float _ | .list _, .str _
  | .list _, .dict _ | .dict _, .none | .dict _, .bool _ | .dict _, .int _ | .dict _, .float _
  | .dict _, .str _ | .dict _, .list _ => isFalse (by simp)

/-- Equality of lists of values. -/
def Value.decEqList : (a b : List Value) → Decidable (a = b)
  | [], [] => isTrue rfl
  | [], _ :: _ => isFalse (by simp)
  | _ :: _, [] => isFalse (by simp)
  | a :: as, b :: bs =>
    match Value.decEq a b, Value.decEqList as bs with
    | isTrue h, isTrue h' => isTrue (by rw [h, h'])
    | isFalse h, _ => isFalse (by simp [h])
    | _, isFalse h' => isFalse (by simp [h'])

/-- Equality of lists of dictionary items. -/
def Value.decEqItems : (a b : List (String × Value)) → Decidable (a = b)
  | [], [] => isTrue rfl
  | [], _ :: _ => isFalse (by simp)
  | _ :: _, [] => isFalse (by simp)
  | (k, a) :: as, (l, b) :: bs =>
    match instDecidableEqString k l, Value.decEq a b, Value.decEqItems as bs with
    | isTrue hk, isTrue h, isTrue h' => isTrue (by rw [hk, h, h'])
    | isFalse hk, _, _ => isFalse (by simp [hk])
    | _, isFalse h, _ => isFalse (by simp [h])
    | _, _, isFalse h' => isFalse (by simp [h'])

end

instance : DecidableEq Value := Value.decEq

/-! ### Lists of integers -/

/-- A list of integers. -/
def Value.ofInts (ns : List ℤ) : Value := .list (ns.map .int)

/-- The integers of a list that has nothing else. -/
def Value.ints? : Value → Option (List ℤ)
  | .list xs => xs.mapM fun x =>
    match x with
    | .int n => some n
    | _ => Option.none
  | _ => Option.none

@[simp]
theorem Value.ints?_ofInts (ns : List ℤ) : (Value.ofInts ns).ints? = some ns := by
  rw [ofInts, ints?]
  induction ns with
  | nil => rfl
  | cons n ns ih =>
    rw [List.map_cons, List.mapM_cons, ih]
    rfl

theorem Value.ofInts_ne_none (ns : List ℤ) : Value.ofInts ns ≠ .none := nofun

/-! ### Dictionaries -/

/-- `d.get(key)`, with `none` for an absent key. -/
def Dict.get? (d : Dict) (key : String) : Option Value :=
  (d.find? fun kv => kv.1 == key).map Prod.snd

/-- `d.get(key, default)`. -/
def Dict.getD (d : Dict) (key : String) (default : Value) : Value := (d.get? key).getD default

/-- `d[key] = value`: an existing key keeps its place, a new one goes to the end. -/
def Dict.set (d : Dict) (key : String) (value : Value) : Dict :=
  if d.any fun kv => kv.1 == key then d.map fun kv => if kv.1 == key then (key, value) else kv
  else d ++ [(key, value)]

/-- Setting a key leaves the other keys alone. -/
theorem Dict.get?_set_of_ne {d : Dict} {key k : String} (hne : k ≠ key) (value : Value) :
    (d.set key value).get? k = d.get? k := by
  have hkey : (key == k) = false := by simpa using hne.symm
  unfold Dict.set Dict.get?
  split
  · rw [List.find?_map, Option.map_map]
    have hpred : (fun kv : String × Value => kv.1 == k) ∘
        (fun kv => if kv.1 == key then (key, value) else kv) = fun kv => kv.1 == k := by
      funext kv
      by_cases hkv : kv.1 = key <;> simp [hkv]
    rw [hpred]
    cases hfind : d.find? fun kv => kv.1 == k with
    | none => rfl
    | some kv =>
      have hk : kv.1 = k := by simpa using List.find?_some hfind
      simp [hk, hne]
  · simp [List.find?_append, hkey]

theorem Dict.get?_set_self (d : Dict) (key : String) (value : Value) :
    (d.set key value).get? key = some value := by
  unfold Dict.set Dict.get?
  split
  · rename_i hany
    obtain ⟨kv, hkv, hkey⟩ := List.any_eq_true.mp hany
    rw [List.find?_map, Option.map_map]
    have hpred : (fun kv : String × Value => kv.1 == key) ∘
        (fun kv => if kv.1 == key then (key, value) else kv) = fun kv => kv.1 == key := by
      funext kv
      by_cases hkv : kv.1 = key <;> simp [hkv]
    rw [hpred]
    cases hfind : d.find? fun kv => kv.1 == key with
    | none => exact absurd hkey (List.find?_eq_none.mp hfind kv hkv)
    | some kv =>
      have hk : kv.1 = key := by simpa using List.find?_some hfind
      simp [hk]
  · rename_i hany
    have hnone : d.find? (fun kv => kv.1 == key) = none := by
      rw [List.find?_eq_none]
      intro kv hkv hkey
      exact hany (List.any_eq_true.mpr ⟨kv, hkv, hkey⟩)
    rw [List.find?_append, hnone]
    simp

/-- `d.update(items)`. -/
def Dict.update (d items : Dict) : Dict := items.foldl (fun d kv => d.set kv.1 kv.2) d

/-- A key that is not among those of the items keeps its value. -/
theorem Dict.get?_update_of_not_mem {d items : Dict} {key : String}
    (h : key ∉ items.map Prod.fst) : (d.update items).get? key = d.get? key := by
  induction items generalizing d with
  | nil => rfl
  | cons kv items ih =>
    rw [List.map_cons, List.mem_cons, not_or] at h
    rw [Dict.update, List.foldl_cons, ← Dict.update, ih h.2, Dict.get?_set_of_ne h.1]

/-- Each of items with distinct keys is found under its key. -/
theorem Dict.get?_update_of_mem {d items : Dict} (hkeys : (items.map Prod.fst).Nodup)
    {kv : String × Value} (h : kv ∈ items) : (d.update items).get? kv.1 = some kv.2 := by
  induction items generalizing d with
  | nil => cases h
  | cons kv' items ih =>
    rw [List.map_cons, List.nodup_cons] at hkeys
    rw [Dict.update, List.foldl_cons, ← Dict.update]
    rcases List.mem_cons.mp h with rfl | h
    · rw [Dict.get?_update_of_not_mem hkeys.1, Dict.get?_set_self]
    · exact ih hkeys.2 h

/-- A key that is not among those of the items is absent. -/
theorem Dict.get?_eq_none_of_not_mem {d : Dict} {key : String} (h : key ∉ d.map Prod.fst) :
    d.get? key = none := by
  rw [Dict.get?, Option.map_eq_none_iff, List.find?_eq_none]
  intro kv hkv he
  exact h (List.mem_map.mpr ⟨kv, hkv, by simpa using he⟩)

end TripWire.Py
