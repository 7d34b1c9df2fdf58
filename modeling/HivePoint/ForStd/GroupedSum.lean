import HivePoint.ForStd.Table

/-!
# Sums by group

A list of `items`, each with a key and an amount, can be summed up in advance in a
list of `groups`, one per key. `Grouped` says that the groups are right: every key
has the same total among the groups and among the items. Then every selection of
keys has the same total in both (`Grouped.sum_filter`), and adding an item to the
list and its amount to a group keeps the groups right (`Grouped.add`).
-/

namespace GroupedSum

variable {α β κ M : Type} [DecidableEq κ] [AddCommMonoid M]

/-- The total of the elements that meet `p`. -/
def sumWhere (val : α → M) (p : α → Bool) (l : List α) : M := ((l.filter p).map val).sum

/-- Nothing sums to zero. -/
@[simp] theorem sumWhere_nil (val : α → M) (p : α → Bool) : sumWhere val p [] = 0 := rfl

/-- The first element is summed if it passes. -/
theorem sumWhere_cons (val : α → M) (p : α → Bool) (a : α) (l : List α) :
    sumWhere val p (a :: l) = (if p a then val a else 0) + sumWhere val p l := by
  by_cases h : p a <;> simp [sumWhere, h]

/-- The sum of two lists. -/
theorem sumWhere_append (val : α → M) (p : α → Bool) (l₁ l₂ : List α) :
    sumWhere val p (l₁ ++ l₂) = sumWhere val p l₁ + sumWhere val p l₂ := by
  simp [sumWhere]

/-- The sum depends on the elements that pass alone. -/
theorem sumWhere_congr {val : α → M} {p q : α → Bool} {l : List α} (h : ∀ a ∈ l, p a = q a) :
    sumWhere val p l = sumWhere val q l := by
  rw [sumWhere, sumWhere, List.filter_congr h]

/-- A selection that nobody meets. -/
theorem sumWhere_eq_zero {val : α → M} {p : α → Bool} {l : List α} (h : ∀ a ∈ l, ¬p a) :
    sumWhere val p l = 0 := by
  rw [sumWhere, List.filter_eq_nil_iff.mpr h]
  rfl

/-- Selections that do not overlap add up. -/
theorem sumWhere_or (val : α → M) {p q : α → Bool} (l : List α) (h : ∀ a ∈ l, ¬(p a ∧ q a)) :
    sumWhere val (fun a => p a || q a) l = sumWhere val p l + sumWhere val q l := by
  induction l with
  | nil => simp
  | cons a l ih =>
    have ih := ih fun b hb => h b (List.mem_cons_of_mem _ hb)
    have ha := h a List.mem_cons_self
    simp only [sumWhere_cons, ih]
    cases hp : p a <;> cases hq : q a
    · simp
    · simp [add_left_comm]
    · simp [add_assoc]
    · simp [hp, hq] at ha

/-- A selection by key is the sum over the selected keys. -/
private theorem sumWhere_key (key : α → κ) (val : α → M) (p : κ → Bool) (l : List α) (K : Finset κ)
    (hK : ∀ a ∈ l, key a ∈ K) :
    sumWhere val (fun a => p (key a)) l =
      ∑ k ∈ K.filter (p · = true), sumWhere val (fun a => decide (key a = k)) l := by
  induction l with
  | nil => simp
  | cons a l ih =>
    have hmem : key a ∈ K := hK a List.mem_cons_self
    simp only [sumWhere_cons, decide_eq_true_eq, Finset.sum_add_distrib,
      ih fun b hb => hK b (List.mem_cons_of_mem _ hb)]
    congr 1
    by_cases hp : p (key a) <;> simp [hp, hmem]

/-- If no two elements share a key, a key has the total of its one element. -/
theorem sumWhere_of_nodup {key : α → κ} (val : α → M) {l : List α} (h : (l.map key).Nodup) (k : κ) :
    sumWhere val (fun a => decide (key a = k)) l =
      ((l.find? fun a => decide (key a = k)).map val).getD 0 := by
  induction l with
  | nil => rfl
  | cons a l ih =>
    rw [List.map_cons, List.nodup_cons] at h
    rw [sumWhere_cons, List.find?_cons]
    by_cases ha : key a = k
    · have hrest : sumWhere val (fun a => decide (key a = k)) l = 0 := by
        refine sumWhere_eq_zero fun b hb hbk => h.1 ?_
        rw [ha, ← of_decide_eq_true hbk]
        exact List.mem_map_of_mem hb
      simp [ha, hrest]
    · simpa [ha] using ih h.2

/-- The groups have the totals of the items. -/
def Grouped (groupKey : β → κ) (groupVal : β → M) (groups : List β) (key : α → κ) (val : α → M)
    (items : List α) : Prop :=
  ∀ k, sumWhere groupVal (fun b => decide (groupKey b = k)) groups =
    sumWhere val (fun a => decide (key a = k)) items

variable {groupKey : β → κ} {groupVal : β → M} {groups : List β} {key : α → κ} {val : α → M}
  {items : List α}

/-- Right groups are right for every selection of keys. -/
theorem Grouped.sum_filter (h : Grouped groupKey groupVal groups key val items) (p : κ → Bool) :
    sumWhere groupVal (fun b => p (groupKey b)) groups =
      sumWhere val (fun a => p (key a)) items := by
  let K := ((groups.map groupKey) ++ (items.map key)).toFinset
  rw [sumWhere_key groupKey groupVal p groups K fun b hb => by simp [K]; exact .inl ⟨b, hb, rfl⟩,
    sumWhere_key key val p items K fun a ha => by simp [K]; exact .inr ⟨a, ha, rfl⟩]
  exact Finset.sum_congr rfl fun k _ => h k

/-- Adding an item to the list and its amount to the group of its key keeps the groups
    right. -/
theorem Grouped.add (h : Grouped groupKey groupVal groups key val items) {groups' : List β} {a : α}
    (hadd : ∀ k, sumWhere groupVal (fun b => decide (groupKey b = k)) groups' =
      sumWhere groupVal (fun b => decide (groupKey b = k)) groups +
        if key a = k then val a else 0) :
    Grouped groupKey groupVal groups' key val (items ++ [a]) := by
  intro k
  rw [hadd k, h k, sumWhere_append, sumWhere_cons, sumWhere_nil, add_zero]
  simp only [decide_eq_true_eq]

/-- Grouping from scratch: one group for each key that occurs, with the total of its items. -/
theorem grouped_of_dedup {group : κ → β} (hkey : ∀ k, groupKey (group k) = k)
    (hval : ∀ k, groupVal (group k) = sumWhere val (fun a => decide (key a = k)) items) :
    Grouped groupKey groupVal ((items.map key).dedup.map group) key val items := by
  intro k
  have hnodup := (items.map key).nodup_dedup
  have hnone : ∀ l : List κ, k ∉ l →
      sumWhere groupVal (fun b => decide (groupKey b = k)) (l.map group) = 0 := by
    intro l hl
    refine sumWhere_eq_zero fun b hb hbk => ?_
    obtain ⟨k', hk', rfl⟩ := List.mem_map.mp hb
    simp only [hkey, decide_eq_true_eq] at hbk
    exact hl (hbk ▸ hk')
  by_cases hk : k ∈ (items.map key).dedup
  · -- its one group, between the groups of other keys
    obtain ⟨before, after, hsplit⟩ := List.append_of_mem hk
    rw [hsplit] at hnodup ⊢
    have hother := (List.nodup_middle.mp hnodup).notMem
    simp only [List.mem_append, not_or] at hother
    rw [List.map_append, List.map_cons, sumWhere_append, sumWhere_cons, hnone before hother.1,
      hnone after hother.2]
    simp [hkey, hval]
  · rw [hnone _ hk]
    refine (sumWhere_eq_zero fun a ha hak => hk (List.mem_dedup.mpr ?_)).symm
    exact of_decide_eq_true hak ▸ List.mem_map_of_mem ha

/-! ### Groups kept in a table -/

section Table

variable {ρ : Type} [Row ρ κ]

/-- In a table a key has the total of its one row. -/
theorem sumWhere_table (t : Table ρ) (val : ρ → M) (k : κ) :
    sumWhere val (fun r => decide (Row.key r = k)) t.rows = ((t.find? k).map val).getD 0 :=
  sumWhere_of_nodup val t.valid.1 k

/-- An upsert that increments adds the new amount to the group of its key. -/
theorem sumWhere_upsert? {t t' : Table ρ} {r : ρ} {f : ρ → ρ} (val : ρ → M)
    (h : t.upsert? r f = some t') (hkey : ∀ x, Row.key (f x) = Row.key x)
    (hval : ∀ x, val (f x) = val x + val r) (k : κ) :
    sumWhere val (fun b => decide (Row.key b = k)) t'.rows =
      sumWhere val (fun b => decide (Row.key b = k)) t.rows +
        if Row.key r = k then val r else 0 := by
  simp only [sumWhere_table]
  rw [Table.upsert?] at h
  split at h
  · rename_i hsome
    obtain ⟨x, hx⟩ := Option.isSome_iff_exists.mp hsome
    rw [Table.find?_update? h hkey]
    -- the row's own key gains its value, every other key keeps its sum
    by_cases hk : k = Row.key r
    · subst hk
      simp [hx, hval]
    · simp [hk, Ne.symm hk]
  · rename_i hnone
    have hnone : t.find? (Row.key r) = none := by simpa using hnone
    rw [Table.find?_insert? h]
    by_cases hk : k = Row.key r
    · subst hk
      simp [hnone]
    · simp [hk, Ne.symm hk]

end Table

end GroupedSum
