import Mathlib

/-!
# Maps in insertion order

An `OrderedMap` is a map that lists its entries in the order in which their keys were first
set, as an ECMAScript `Map` does. A program that goes over a list and keeps, under the key of
each item, a value of the items so far, collects the list: `collect`.

## Key results

- `get?_collect`: under a key stands the fold over the items of that key, in their order.
- `filter_values`: a key has at most one value.
-/

/-- Entries, no two of them under one key. -/
structure OrderedMap (κ ν : Type) where
  entries : List (κ × ν)
  nodup : (entries.map (·.1)).Nodup

namespace OrderedMap

variable {κ ν α : Type}

def empty : OrderedMap κ ν := ⟨[], List.nodup_nil⟩

def keys (m : OrderedMap κ ν) : List κ := m.entries.map (·.1)

def values (m : OrderedMap κ ν) : List ν := m.entries.map (·.2)

variable [DecidableEq κ]

def get? (m : OrderedMap κ ν) (k : κ) : Option ν :=
  (m.entries.find? fun e => e.1 = k).map (·.2)

/-- Rewrite the entry of `k`, or append one. -/
def setEntries (k : κ) (v : ν) : List (κ × ν) → List (κ × ν)
  | [] => [(k, v)]
  | e :: rest => if e.1 = k then (k, v) :: rest else e :: setEntries k v rest

/-- Setting a key adds it to the keys. -/
private theorem mem_keys_setEntries (k : κ) (v : ν) (entries : List (κ × ν)) (k' : κ) :
    k' ∈ (setEntries k v entries).map (·.1) ↔ k' ∈ entries.map (·.1) ∨ k' = k := by
  induction entries with
  | nil => simp [setEntries]
  | cons e rest ih =>
    unfold setEntries
    by_cases he : e.1 = k
    · rw [if_pos he]
      simp only [List.map_cons, List.mem_cons, he]
      tauto
    · rw [if_neg he]
      simp only [List.map_cons, List.mem_cons, ih, or_assoc]

/-- Setting a key keeps the keys apart. -/
private theorem nodup_setEntries {k : κ} {v : ν} {entries : List (κ × ν)}
    (h : (entries.map (·.1)).Nodup) : ((setEntries k v entries).map (·.1)).Nodup := by
  induction entries with
  | nil => simp [setEntries]
  | cons e rest ih =>
    rw [List.map_cons, List.nodup_cons] at h
    unfold setEntries
    by_cases he : e.1 = k
    · rw [if_pos he, List.map_cons, List.nodup_cons]
      exact ⟨he ▸ h.1, h.2⟩
    · rw [if_neg he, List.map_cons, List.nodup_cons, mem_keys_setEntries]
      refine ⟨?_, ih h.2⟩
      intro hmem
      cases hmem with
      | inl hmem => exact h.1 hmem
      | inr heq => exact he heq

def set (m : OrderedMap κ ν) (k : κ) (v : ν) : OrderedMap κ ν :=
  ⟨setEntries k v m.entries, nodup_setEntries m.nodup⟩

/-- Setting a key changes what is found under it alone. -/
private theorem find?_setEntries (k : κ) (v : ν) (entries : List (κ × ν)) (k' : κ) :
    ((setEntries k v entries).find? fun e => e.1 = k').map (·.2) =
      if k' = k then some v else (entries.find? fun e => e.1 = k').map (·.2) := by
  induction entries with
  | nil =>
    by_cases hk : k' = k
    · simp [setEntries, hk]
    · simp [setEntries, hk, Ne.symm hk]
  | cons e rest ih =>
    unfold setEntries
    by_cases he : e.1 = k
    · rw [if_pos he]
      by_cases hk : k' = k
      · simp [hk]
      · simp [hk, Ne.symm hk, he]
    · rw [if_neg he, List.find?_cons, List.find?_cons]
      by_cases hk : e.1 = k'
      · simp [hk, hk ▸ he]
      · simpa [hk] using ih

/-- Nothing is found in an empty map. -/
@[simp] theorem get?_empty (k : κ) : (empty : OrderedMap κ ν).get? k = none := rfl

/-- Setting a key changes what is found under it alone. -/
private theorem get?_set (m : OrderedMap κ ν) (k : κ) (v : ν) (k' : κ) :
    (m.set k v).get? k' = if k' = k then some v else m.get? k' :=
  find?_setEntries k v m.entries k'

/-- An entry is what `get?` finds under its key. -/
theorem mem_entries_iff (m : OrderedMap κ ν) (k : κ) (v : ν) :
    (k, v) ∈ m.entries ↔ m.get? k = some v := by
  obtain ⟨entries, hnodup⟩ := m
  show (k, v) ∈ entries ↔ (entries.find? fun e => e.1 = k).map (·.2) = some v
  -- the keys are apart, so the first entry under a key is the only one
  induction entries with
  | nil => simp
  | cons e rest ih =>
    rw [List.map_cons, List.nodup_cons] at hnodup
    rw [List.mem_cons, List.find?_cons]
    by_cases he : e.1 = k
    · simp only [he, decide_true, Option.map_some, Option.some.injEq]
      constructor
      · intro h
        cases h with
        | inl h => rw [← h]
        | inr h => exact absurd (List.mem_map_of_mem (f := fun x : κ × ν => x.1) h) (he ▸ hnodup.1)
      · intro h
        exact .inl (by rw [← h, ← he])
    · simp only [he, decide_false]
      rw [← ih hnodup.2]
      constructor
      · intro h
        cases h with
        | inl h => exact absurd (congrArg Prod.fst h).symm he
        | inr h => exact h
      · exact .inr

/-- A key is one under which something is found. -/
theorem mem_keys_iff (m : OrderedMap κ ν) (k : κ) : k ∈ m.keys ↔ (m.get? k).isSome := by
  constructor
  · intro h
    obtain ⟨e, he, rfl⟩ := List.mem_map.mp h
    rw [(mem_entries_iff m e.1 e.2).mp he]
    rfl
  · intro h
    obtain ⟨v, hv⟩ := Option.isSome_iff_exists.mp h
    exact List.mem_map_of_mem (f := (·.1)) ((mem_entries_iff m k v).mpr hv)

/-! ### Collecting a list -/

/-- Go over `items`, with the value under the key of each replaced by `step` of it. -/
def collectFrom (m : OrderedMap κ ν) (key : α → κ) (step : Option ν → α → ν) (items : List α) :
    OrderedMap κ ν :=
  items.foldl (fun m a => m.set (key a) (step (m.get? (key a)) a)) m

def collect (key : α → κ) (step : Option ν → α → ν) (items : List α) : OrderedMap κ ν :=
  collectFrom empty key step items

/-- The value under one key after the items of that key. -/
def foldStep (step : Option ν → α → ν) (init : Option ν) (items : List α) : Option ν :=
  items.foldl (fun acc a => some (step acc a)) init

/-- What is collected under a key are its own items. -/
private theorem get?_collectFrom (m : OrderedMap κ ν) (key : α → κ) (step : Option ν → α → ν)
    (items : List α) (k : κ) :
    (collectFrom m key step items).get? k =
      foldStep step (m.get? k) (items.filter fun a => key a = k) := by
  -- the map of the items so far changes from step to step
  induction items generalizing m with
  | nil => rfl
  | cons a items ih =>
    show (collectFrom (m.set (key a) (step (m.get? (key a)) a)) key step items).get? k = _
    rw [ih, get?_set]
    by_cases hk : key a = k
    · rw [if_pos hk.symm, List.filter_cons_of_pos (by simpa using hk), hk]
      rfl
    · rw [if_neg (Ne.symm hk), List.filter_cons_of_neg (by simpa using hk)]

/-- What is collected under a key are its own items. -/
theorem get?_collect (key : α → κ) (step : Option ν → α → ν) (items : List α) (k : κ) :
    (collect key step items).get? k = foldStep step none (items.filter fun a => key a = k) :=
  get?_collectFrom empty key step items k

/-- Items leave something behind. -/
private theorem foldStep_eq_none_iff (step : Option ν → α → ν) (items : List α) :
    foldStep step none items = none ↔ items = [] := by
  have hsome : ∀ (l : List α) (v : ν), (foldStep step (some v) l).isSome := by
    intro l
    induction l with
    | nil => exact fun _ => rfl
    | cons a l ih => exact fun v => ih (step (some v) a)
  cases items with
  | nil => simp [foldStep]
  | cons a items =>
    have h : (foldStep step none (a :: items)).isSome := hsome items (step none a)
    constructor
    · intro hnone
      rw [hnone] at h
      cases h
    · intro hnil
      cases hnil

/-- A key has no value if no item has that key. -/
theorem get?_collect_eq_none_iff (key : α → κ) (step : Option ν → α → ν) (items : List α) (k : κ) :
    (collect key step items).get? k = none ↔ ∀ a ∈ items, key a ≠ k := by
  rw [get?_collect, foldStep_eq_none_iff, List.filter_eq_nil_iff]
  simp only [decide_eq_true_eq, ne_eq]

/-- A map has at most one value for a key: those of its values that are meant for `k`, when each
    value names the key it stands under. -/
theorem filter_values (m : OrderedMap κ ν) (name : ν → κ)
    (hname : ∀ k v, m.get? k = some v → name v = k) (k : κ) :
    m.values.filter (fun v => name v = k) = (m.get? k).toList := by
  have hentries : ∀ e ∈ m.entries, name e.2 = e.1 := by
    intro e he
    exact hname e.1 e.2 ((mem_entries_iff m e.1 e.2).mp he)
  clear hname
  obtain ⟨entries, hnodup⟩ := m
  show (entries.map (·.2)).filter (fun v => name v = k) =
    ((entries.find? fun e => e.1 = k).map (·.2)).toList
  replace hentries : ∀ e ∈ entries, name e.2 = e.1 := hentries
  induction entries with
  | nil => rfl
  | cons e rest ih =>
    rw [List.map_cons, List.nodup_cons] at hnodup
    have ih := ih hnodup.2 fun e he => hentries e (List.mem_cons_of_mem _ he)
    have he := hentries e List.mem_cons_self
    rw [List.map_cons, List.find?_cons]
    by_cases hk : e.1 = k
    · -- the entry of `k`; none of the rest is under `k`
      have hrest : (rest.find? fun e => decide (e.1 = k)) = none := by
        rw [List.find?_eq_none]
        intro x hx
        have hmem : x.1 ∈ rest.map (·.1) := List.mem_map_of_mem hx
        have hne : x.1 ≠ k := by
          intro h
          exact hnodup.1 (hk ▸ h ▸ hmem)
        simpa using hne
      rw [List.filter_cons_of_pos (by simp [he, hk]), ih, hrest]
      simp [hk]
    · rw [List.filter_cons_of_neg (by simp [he, hk]), ih]
      simp [hk]

/-- Amounts that are added up under a key. -/
theorem getD_foldStep_add {M : Type} [AddMonoid M] (amount : α → M) (init : Option M)
    (items : List α) :
    (foldStep (fun old a => old.getD 0 + amount a) init items).getD 0 =
      init.getD 0 + (items.map amount).sum := by
  induction items generalizing init with
  | nil => simp [foldStep]
  | cons a items ih =>
    show (foldStep (fun old a => old.getD 0 + amount a)
        (some (init.getD 0 + amount a)) items).getD 0 = _
    rw [ih, Option.getD_some, List.map_cons, List.sum_cons, add_assoc]

/-- Items that are counted under a key. -/
theorem getD_foldStep_count (items : List α) :
    (foldStep (fun (old : Option Nat) _ => old.getD 0 + 1) none items).getD 0 = items.length := by
  rw [getD_foldStep_add fun _ => 1, Option.getD_none, zero_add, List.map_const', List.sum_replicate,
    smul_eq_mul, mul_one]

/-- A value that is not there counts as `d`. -/
theorem getD_foldStep {f : ν → α → ν} (d : ν) (init : Option ν) (items : List α) :
    (foldStep (fun old a => f (old.getD d) a) init items).getD d = items.foldl f (init.getD d) := by
  induction items generalizing init with
  | nil => rfl
  | cons a items ih => exact ih (some (f (init.getD d) a))

/-- The last item of a key decides. -/
theorem foldStep_last (f : α → ν) (init : Option ν) (items : List α) :
    foldStep (fun _ a => f a) init items = (items.getLast?.map f).or init := by
  induction items generalizing init with
  | nil => rfl
  | cons a items ih =>
    show foldStep (fun _ a => f a) (some (f a)) items = _
    rw [ih]
    cases items with
    | nil => rfl
    | cons b items => simp [List.getLast?_cons]

end OrderedMap
