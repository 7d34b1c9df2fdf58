import Mathlib

/-!
# Tables with keys and unique columns

A `Table ρ` is a list of rows, in the order they were created, that satisfies its
constraints: no two rows share the primary key, and no two rows share a non-null
value of a unique column. The constraints are a field of the structure, so a table
that violates them cannot be built: `insert?` and `update?` return `none` instead,
as a database refuses the statement.
-/

/-- The constraints of a table with rows of type `ρ` and primary key of type `κ`. -/
class Row (ρ : Type) (κ : outParam Type) where
  key : ρ → κ
  uniques : List (ρ → Option String)

namespace Table

variable {ρ κ : Type} [DecidableEq κ] [Row ρ κ]

/-- The rows satisfy the constraints of their table. -/
def Valid (rows : List ρ) : Prop :=
  (rows.map Row.key).Nodup ∧ ∀ u ∈ Row.uniques (ρ := ρ), (rows.filterMap u).Nodup

instance (rows : List ρ) : Decidable (Valid rows) :=
  inferInstanceAs (Decidable (_ ∧ ∀ _ ∈ _, _))

end Table

/-- Rows that satisfy the constraints of their table. -/
structure Table (ρ : Type) {κ : Type} [DecidableEq κ] [Row ρ κ] where
  rows : List ρ
  valid : Table.Valid rows

namespace Table

variable {ρ κ : Type} [DecidableEq κ] [Row ρ κ]

/-- A table is its rows. -/
theorem eq_of_rows {t t' : Table ρ} (h : t.rows = t'.rows) : t = t' := by
  cases t
  cases t'
  obtain rfl := h
  rfl

/-- The table without rows. -/
def empty : Table ρ := ⟨[], by simp [Valid]⟩

/-- The table with one row. -/
def singleton (r : ρ) : Table ρ :=
  ⟨[r], by simp, fun u _ => by cases h : u r <;> simp [h]⟩

/-- The table with these rows, if they satisfy the constraints. -/
def ofRows? (rows : List ρ) : Option (Table ρ) :=
  if h : Valid rows then some ⟨rows, h⟩ else none

/-- The row with the primary key `k`. -/
def find? (t : Table ρ) (k : κ) : Option ρ := t.rows.find? fun r => Row.key r = k

/-- The first row, in creation order, whose column `u` has the value `v`. -/
def findBy? (t : Table ρ) (u : ρ → Option String) (v : String) : Option ρ :=
  t.rows.find? fun r => u r = some v

/-- Append a row. -/
def insert? (t : Table ρ) (r : ρ) : Option (Table ρ) := ofRows? (t.rows ++ [r])

/-- Rewrite the row with the primary key `k`. -/
def modifyRows (k : κ) (f : ρ → ρ) (rows : List ρ) : List ρ :=
  rows.map fun r => if Row.key r = k then f r else r

/-- Rewrite the row with the primary key `k`, if the constraints still hold afterwards. -/
def update? (t : Table ρ) (k : κ) (f : ρ → ρ) : Option (Table ρ) :=
  ofRows? (modifyRows k f t.rows)

/-- Rewrite the row with the primary key of `r` by `f`, or append `r`. -/
def upsert? (t : Table ρ) (r : ρ) (f : ρ → ρ) : Option (Table ρ) :=
  if (t.find? (Row.key r)).isSome then t.update? (Row.key r) f else t.insert? r

/-- Every row rewritten, which leaves its key and unique columns alone. -/
def mapRows (t : Table ρ) (f : ρ → ρ) (hkey : ∀ r, Row.key (f r) = Row.key r)
    (huniques : ∀ u ∈ Row.uniques (ρ := ρ), ∀ r, u (f r) = u r) : Table ρ where
  rows := t.rows.map f
  valid := by
    obtain ⟨hnodup, huniq⟩ := t.valid
    refine ⟨?_, fun u hu => ?_⟩
    · rw [List.map_map]
      simpa only [Function.comp_def, hkey] using hnodup
    · rw [List.filterMap_map]
      simpa only [Function.comp_def, huniques u hu] using huniq u hu

/-- Without the rows that meet `p`. -/
def deleteWhere (t : Table ρ) (p : ρ → Bool) : Table ρ where
  rows := t.rows.filter (!p ·)
  valid := by
    obtain ⟨hnodup, huniq⟩ := t.valid
    have hsub := List.filter_sublist (p := (!p ·)) (l := t.rows)
    exact ⟨hnodup.sublist (hsub.map _), fun u hu => (huniq u hu).sublist (hsub.filterMap u)⟩

/-! ### What the operations return -/

/-- A table built from rows has those rows. -/
theorem ofRows?_eq_some {rows : List ρ} {t : Table ρ} (h : ofRows? rows = some t) :
    t.rows = rows := by
  simp only [ofRows?] at h
  split at h
  · exact (congrArg Table.rows (Option.some.inj h)).symm
  · exact nomatch h

/-- Valid rows build a table. -/
private theorem ofRows?_of_valid {rows : List ρ} (h : Valid rows) :
    ofRows? rows = some ⟨rows, h⟩ := dif_pos h

/-- The rows left by a deletion. -/
theorem mem_deleteWhere {t : Table ρ} {p : ρ → Bool} {r : ρ} :
    r ∈ (t.deleteWhere p).rows ↔ r ∈ t.rows ∧ ¬p r := by
  simp [deleteWhere]

/-- An insert appends its row. -/
theorem insert?_rows {t t' : Table ρ} {r : ρ} (h : t.insert? r = some t') :
    t'.rows = t.rows ++ [r] := ofRows?_eq_some h

/-- An update changes the rows of its key. -/
theorem update?_rows {t t' : Table ρ} {k : κ} {f : ρ → ρ} (h : t.update? k f = some t') :
    t'.rows = modifyRows k f t.rows := ofRows?_eq_some h

/-- A row found by its key is in the table. -/
theorem mem_of_find? {t : Table ρ} {k : κ} {r : ρ} (h : t.find? k = some r) : r ∈ t.rows :=
  List.mem_of_find?_eq_some h

/-- A row found by a key has that key. -/
theorem key_of_find? {t : Table ρ} {k : κ} {r : ρ} (h : t.find? k = some r) : Row.key r = k := by
  simpa using List.find?_some h

/-- A row found by a unique field is in the table. -/
theorem mem_of_findBy? {t : Table ρ} {u : ρ → Option String} {v : String} {r : ρ}
    (h : t.findBy? u v = some r) : r ∈ t.rows :=
  List.mem_of_find?_eq_some h

/-- A row found by a unique field has that value. -/
theorem col_of_findBy? {t : Table ρ} {u : ρ → Option String} {v : String} {r : ρ}
    (h : t.findBy? u v = some r) : u r = some v := by
  simpa using List.find?_some h

/-- Rows are determined by their primary key. -/
theorem eq_of_key_eq {t : Table ρ} {r₁ r₂ : ρ} (h₁ : r₁ ∈ t.rows) (h₂ : r₂ ∈ t.rows)
    (hkey : Row.key r₁ = Row.key r₂) : r₁ = r₂ :=
  List.inj_on_of_nodup_map t.valid.1 h₁ h₂ hkey

/-- A row of the table is found under its primary key. -/
theorem find?_key {t : Table ρ} {r : ρ} (h : r ∈ t.rows) : t.find? (Row.key r) = some r := by
  cases hf : t.find? (Row.key r) with
  | none =>
    have := List.find?_eq_none.mp hf r h
    simp at this
  | some r' => rw [eq_of_key_eq (mem_of_find? hf) h (key_of_find? hf)]

omit [DecidableEq κ] [Row ρ κ] in
/-- Rows with the same value in a column without repeated values are equal. -/
private theorem eq_of_nodup_filterMap {u : ρ → Option String} {rows : List ρ}
    (h : (rows.filterMap u).Nodup) {r₁ r₂ : ρ} (h₁ : r₁ ∈ rows) (h₂ : r₂ ∈ rows) {v : String}
    (hv₁ : u r₁ = some v) (hv₂ : u r₂ = some v) : r₁ = r₂ := by
  have hmem : ∀ {r : ρ} {rs : List ρ}, r ∈ rs → u r = some v → v ∈ rs.filterMap u :=
    fun hr hv => List.mem_filterMap.mpr ⟨_, hr, hv⟩
  induction rows with
  | nil => exact nomatch h₁
  | cons r rs ih =>
    have htail : (rs.filterMap u).Nodup := h.sublist ((List.sublist_cons_self r rs).filterMap u)
    rcases List.mem_cons.mp h₁ with rfl | hrs₁ <;> rcases List.mem_cons.mp h₂ with rfl | hrs₂
    · rfl
    · rw [List.filterMap_cons_some hv₁] at h
      exact absurd (hmem hrs₂ hv₂) (List.nodup_cons.mp h).1
    · rw [List.filterMap_cons_some hv₂] at h
      exact absurd (hmem hrs₁ hv₁) (List.nodup_cons.mp h).1
    · exact ih htail hrs₁ hrs₂

/-- Rows are determined by a value of a unique column. -/
theorem eq_of_unique {t : Table ρ} {u : ρ → Option String} (hu : u ∈ Row.uniques (ρ := ρ))
    {r₁ r₂ : ρ} (h₁ : r₁ ∈ t.rows) (h₂ : r₂ ∈ t.rows) {v : String} (hv₁ : u r₁ = some v)
    (hv₂ : u r₂ = some v) : r₁ = r₂ :=
  eq_of_nodup_filterMap (t.valid.2 u hu) h₁ h₂ hv₁ hv₂

/-- A row of the table is found under its value of a unique column. -/
theorem findBy?_unique {t : Table ρ} {u : ρ → Option String} (hu : u ∈ Row.uniques (ρ := ρ))
    {r : ρ} (h : r ∈ t.rows) {v : String} (hv : u r = some v) : t.findBy? u v = some r := by
  cases hf : t.findBy? u v with
  | none =>
    have := List.find?_eq_none.mp hf r h
    simp [hv] at this
  | some r' =>
    rw [eq_of_unique hu (mem_of_findBy? hf) h (col_of_findBy? hf) hv]

/-- At most one row has a given value of a unique column. -/
theorem length_filter_unique_le {u : ρ → Option String} (hu : u ∈ Row.uniques (ρ := ρ))
    (t : Table ρ) (v : String) : (t.rows.filter fun r => u r = some v).length ≤ 1 := by
  have hnodup := t.valid.2 u hu
  rw [List.Nodup, List.pairwise_filterMap] at hnodup
  have hpairs := hnodup.filter fun r => decide (u r = some v)
  match hrows : t.rows.filter fun r => u r = some v with
  | [] => exact Nat.zero_le 1
  | [_] => exact Nat.le_refl 1
  | r₁ :: r₂ :: rows =>
    have hv : ∀ r ∈ r₁ :: r₂ :: rows, u r = some v := fun r hr => by
      rw [← hrows] at hr
      exact of_decide_eq_true (List.mem_filter.mp hr).2
    rw [hrows] at hpairs
    have hne := (List.pairwise_cons.mp hpairs).1 r₂ List.mem_cons_self
    exact absurd rfl (hne v (hv r₁ (by simp)) v (hv r₂ (by simp)))

/-- Without a row under the key there is nothing to rewrite. -/
theorem modifyRows_eq_self {k : κ} {f : ρ → ρ} {rows : List ρ} (h : ∀ r ∈ rows, Row.key r ≠ k) :
    modifyRows k f rows = rows :=
  (List.map_congr_left fun r hr => if_neg (h r hr)).trans (List.map_id rows)

/-- Rewriting a row of a list without repeated keys changes that row only. -/
theorem modifyRows_middle {k : κ} {f : ρ → ρ} {rows₁ rows₂ : List ρ} {r : ρ} (hk : Row.key r = k)
    (h : ((rows₁ ++ r :: rows₂).map Row.key).Nodup) :
    modifyRows k f (rows₁ ++ r :: rows₂) = rows₁ ++ f r :: rows₂ := by
  subst hk
  rw [List.map_append, List.map_cons, List.nodup_middle, List.nodup_cons, List.mem_append] at h
  have h₁ : modifyRows (Row.key r) f rows₁ = rows₁ := modifyRows_eq_self fun r' hr' heq =>
    h.1 (.inl (heq ▸ List.mem_map_of_mem hr'))
  have h₂ : modifyRows (Row.key r) f rows₂ = rows₂ := modifyRows_eq_self fun r' hr' heq =>
    h.1 (.inr (heq ▸ List.mem_map_of_mem hr'))
  simp only [modifyRows] at h₁ h₂ ⊢
  rw [List.map_append, List.map_cons, h₁, h₂, if_pos rfl]

/-- A rewrite that keeps what is selected rewrites the selected rows. -/
theorem filter_modifyRows {k : κ} {f : ρ → ρ} {p : ρ → Bool} {rows : List ρ}
    (h : ∀ r ∈ rows, Row.key r = k → p (f r) = p r) :
    (modifyRows k f rows).filter p = modifyRows k f (rows.filter p) := by
  simp only [modifyRows, List.filter_map]
  congr 1
  refine List.filter_congr fun r hr => ?_
  simp only [Function.comp_apply]
  split
  · rename_i hk
    exact h r hr hk
  · rfl

/-- A rewrite of a row that is not selected changes no selected row. -/
theorem filter_modifyRows_of_unselected {k : κ} {f : ρ → ρ} {p : ρ → Bool} {rows : List ρ}
    (h : ∀ r ∈ rows, Row.key r = k → p r = false ∧ p (f r) = false) :
    (modifyRows k f rows).filter p = rows.filter p := by
  rw [filter_modifyRows fun r hr hk => (h r hr hk).2.trans (h r hr hk).1.symm]
  refine modifyRows_eq_self fun r hr hk => ?_
  obtain ⟨hmem, hp⟩ := List.mem_filter.mp hr
  exact Bool.false_ne_true ((h r hmem hk).1.symm.trans hp)

/-! ### Writes that keep the constraints -/

/-- A rewrite that keeps the primary key is executed unless it takes a value of a unique
    column from another row. -/
theorem update?_of_unique {t : Table ρ} {k : κ} {f : ρ → ρ}
    (hf : ∀ r, Row.key (f r) = Row.key r)
    (hu : ∀ u ∈ Row.uniques (ρ := ρ), ∀ r ∈ t.rows, Row.key r = k → ∀ v, u (f r) = some v →
      ∀ r' ∈ t.rows, u r' = some v → r' = r) :
    ∃ t', t.update? k f = some t' := by
  suffices hvalid : Valid (modifyRows k f t.rows) from ⟨_, ofRows?_of_valid hvalid⟩
  have hkey : ∀ r, Row.key (if Row.key r = k then f r else r) = Row.key r := by
    intro r
    split
    · exact hf r
    · rfl
  have hkeys : (t.rows.map Row.key).Nodup := t.valid.1
  -- the keys are unchanged, so only the unique fields need an argument
  refine ⟨by simpa [modifyRows, Function.comp_def, hkey] using hkeys, fun u hmem => ?_⟩
  have hcol : (t.rows.filterMap u).Nodup := t.valid.2 u hmem
  simp only [List.Nodup, List.pairwise_map, List.pairwise_filterMap, modifyRows] at hkeys hcol ⊢
  refine (hkeys.and hcol).imp_of_mem fun {a b} ha hb ⟨hne, hold⟩ v hv v' hv' heq => ?_
  subst heq
  -- neither, one or both of two rows with the same value may be updated
  split at hv <;> split at hv' <;> rename_i hak hbk
  · exact hne (hak.trans hbk.symm)
  · exact hne (congrArg Row.key (hu u hmem a ha hak v hv b hb hv').symm)
  · exact hne (congrArg Row.key (hu u hmem b hb hbk v hv' a ha hv))
  · exact hold v hv v hv' rfl

/-- A rewrite that touches neither the primary key nor a unique column is executed. -/
theorem update?_of_preserves {t : Table ρ} {k : κ} {f : ρ → ρ}
    (hf : ∀ r, Row.key (f r) = Row.key r)
    (hu : ∀ u ∈ Row.uniques (ρ := ρ), ∀ r ∈ t.rows, Row.key r = k → u (f r) = u r) :
    ∃ t', t.update? k f = some t' :=
  update?_of_unique hf fun u hmem r hr hk _ hv _ hr' hv' =>
    eq_of_unique hmem hr' hr hv' (hu u hmem r hr hk ▸ hv)

/-- A row with a new primary key and new values in the unique columns is inserted. -/
theorem insert?_of_fresh {t : Table ρ} {r : ρ} (hkey : t.find? (Row.key r) = none)
    (hu : ∀ u ∈ Row.uniques (ρ := ρ), ∀ v, u r = some v → ∀ r' ∈ t.rows, u r' ≠ some v) :
    ∃ t', t.insert? r = some t' := by
  suffices hvalid : Valid (t.rows ++ [r]) from ⟨_, ofRows?_of_valid hvalid⟩
  have hnew : ∀ r' ∈ t.rows, Row.key r' ≠ Row.key r := by
    simpa [find?] using hkey
  constructor
  · rw [List.map_append, List.nodup_append]
    refine ⟨t.valid.1, by simp, fun k hk k' hk' => ?_⟩
    obtain ⟨r', hr', rfl⟩ := List.mem_map.mp hk
    obtain rfl : k' = Row.key r := by simpa using hk'
    exact hnew r' hr'
  · intro u hmem
    rw [List.filterMap_append, List.nodup_append]
    refine ⟨t.valid.2 u hmem, (by cases h : u r <;> simp [h]), fun v hv v' hv' heq => ?_⟩
    obtain ⟨r', hr', hv⟩ := List.mem_filterMap.mp hv
    obtain ⟨_, hr, hcol⟩ := List.mem_filterMap.mp hv'
    obtain rfl := List.mem_singleton.mp hr
    exact hu u hmem v' hcol r' hr' (heq ▸ hv)

/-- Without unique columns an upsert that keeps the primary key is always executed. -/
theorem upsert?_of_uniques_nil (hu : Row.uniques (ρ := ρ) = []) (t : Table ρ) (r : ρ) {f : ρ → ρ}
    (hf : ∀ r, Row.key (f r) = Row.key r) : ∃ t', t.upsert? r f = some t' := by
  rw [upsert?]
  split
  · exact update?_of_preserves hf fun u hmem => by simp [hu] at hmem
  · rename_i hnone
    exact insert?_of_fresh (by simpa using hnone) fun u hmem => by simp [hu] at hmem

/-! ### Looking rows up after a write -/

section Write

variable {t t' : Table ρ} {k : κ} {f : ρ → ρ}

/-- A rewrite that keeps the primary key changes what is found under that key only. -/
theorem find?_update? (h : t.update? k f = some t') (hf : ∀ r, Row.key (f r) = Row.key r) (k' : κ) :
    t'.find? k' = if k' = k then (t.find? k).map f else t.find? k' := by
  simp only [find?, update?_rows h, modifyRows, List.find?_map]
  have hkey : ∀ r, Row.key (if Row.key r = k then f r else r) = Row.key r := by
    intro r
    split
    · exact hf r
    · rfl
  simp only [Function.comp_def, hkey]
  -- the row found before the update is the one found after it
  cases hfound : t.rows.find? fun r => Row.key r = k' with
  | none =>
    split
    · next heq => rw [← heq, hfound]; rfl
    · rfl
  | some r =>
    have hr : Row.key r = k' := by simpa using List.find?_some hfound
    split
    · next heq =>
      subst heq
      simp [hfound, hr]
    · next hne =>
      have : Row.key r ≠ k := fun h' => hne (hr.symm.trans h')
      simp [this]

/-- Rewriting a row finds the rewritten row. -/
theorem find?_update?_self (h : t.update? k f = some t') (hf : ∀ r, Row.key (f r) = Row.key r) :
    t'.find? k = (t.find? k).map f := by
  rw [find?_update? h hf, if_pos rfl]

/-- Rewriting a row leaves the rows under other keys alone. -/
theorem find?_update?_of_ne (h : t.update? k f = some t') (hf : ∀ r, Row.key (f r) = Row.key r)
    {k' : κ} (hne : k' ≠ k) : t'.find? k' = t.find? k' := by
  rw [find?_update? h hf, if_neg hne]

/-- A rewrite that leaves its row as it is changes nothing. -/
theorem eq_of_update? (h : t.update? k f = some t')
    (hf : ∀ r ∈ t.rows, Row.key r = k → f r = r) : t' = t := by
  refine eq_of_rows ((update?_rows h).trans ?_)
  refine (List.map_congr_left fun r hr => ?_).trans (List.map_id t.rows)
  split
  · rename_i hk
    exact hf r hr hk
  · rfl

/-- Appending a row finds it, and nothing else changes. -/
theorem find?_insert? {r : ρ} (h : t.insert? r = some t') (k' : κ) :
    t'.find? k' = if k' = Row.key r then some r else t.find? k' := by
  have hrows := insert?_rows h
  split
  · next heq =>
    subst heq
    exact find?_key (by rw [hrows]; simp)
  · next hne =>
    simp only [find?, hrows, List.find?_append]
    have : ¬ Row.key r = k' := fun h' => hne h'.symm
    simp [this]

/-- A new row has a new primary key. -/
theorem find?_of_insert? {r : ρ} (h : t.insert? r = some t') : t.find? (Row.key r) = none := by
  refine List.find?_eq_none.mpr fun r' hr' heq => ?_
  have hnodup := t'.valid.1
  rw [insert?_rows h, List.map_append, List.nodup_append] at hnodup
  exact hnodup.2.2 _ (List.mem_map_of_mem hr') (Row.key r) (by simp) (by simpa using heq)

/-- A rewrite that leaves a column alone finds the same row under a value of it. -/
theorem findBy?_update? {u : ρ → Option String} (h : t.update? k f = some t')
    (hu : ∀ r, u (f r) = u r) (v : String) :
    t'.findBy? u v = (t.findBy? u v).map fun r => if Row.key r = k then f r else r := by
  have hcol : ∀ r, u (if Row.key r = k then f r else r) = u r := by
    intro r
    split
    · exact hu r
    · rfl
  simp only [findBy?, update?_rows h, modifyRows, List.find?_map, Function.comp_def, hcol]

/-- A new row is found under its value of a column, if no earlier row is. -/
theorem findBy?_insert? {u : ρ → Option String} {r : ρ} (h : t.insert? r = some t') (v : String) :
    t'.findBy? u v = (t.findBy? u v).or (if u r = some v then some r else none) := by
  simp only [findBy?, insert?_rows h, List.find?_append, List.find?_singleton, decide_eq_true_eq]

/-- The rows after a rewrite. -/
theorem mem_update? (h : t.update? k f = some t') {r : ρ} :
    r ∈ t'.rows ↔ ∃ r₀ ∈ t.rows, r = if Row.key r₀ = k then f r₀ else r₀ := by
  rw [update?_rows h, modifyRows, List.mem_map]
  exact ⟨fun ⟨r₀, h₀, heq⟩ => ⟨r₀, h₀, heq.symm⟩, fun ⟨r₀, h₀, heq⟩ => ⟨r₀, h₀, heq.symm⟩⟩

/-- The rows after a new row. -/
theorem mem_insert? {r₀ : ρ} (h : t.insert? r₀ = some t') {r : ρ} :
    r ∈ t'.rows ↔ r ∈ t.rows ∨ r = r₀ := by
  rw [insert?_rows h, List.mem_append, List.mem_singleton]

/-- An upsert adds no other key than that of its row. -/
theorem key_of_mem_upsert? {r₀ : ρ} (h : t.upsert? r₀ f = some t')
    (hf : ∀ r, Row.key (f r) = Row.key r) {r : ρ} (hr : r ∈ t'.rows) :
    (∃ r₁ ∈ t.rows, Row.key r₁ = Row.key r) ∨ Row.key r = Row.key r₀ := by
  rw [upsert?] at h
  split at h
  · obtain ⟨r₁, h₁, rfl⟩ := (mem_update? h).mp hr
    refine .inl ⟨r₁, h₁, ?_⟩
    split
    · exact (hf r₁).symm
    · rfl
  · rcases (mem_insert? h).mp hr with hr | rfl
    · exact .inl ⟨r, hr, rfl⟩
    · exact .inr rfl

/-- A change of every row that keeps keys and unique fields can be read back. -/
theorem find?_mapRows {g : ρ → ρ} (hkey : ∀ r, Row.key (g r) = Row.key r)
    (huniques : ∀ u ∈ Row.uniques (ρ := ρ), ∀ r, u (g r) = u r) (k' : κ) :
    (t.mapRows g hkey huniques).find? k' = (t.find? k').map g := by
  simp only [find?, mapRows, List.find?_map, Function.comp_def, hkey]

/-- An upsert rewrites the row under the key of its row, or adds its row. -/
theorem find?_upsert? {r : ρ} (h : t.upsert? r f = some t')
    (hf : ∀ r, Row.key (f r) = Row.key r) (k' : κ) :
    t'.find? k' =
      if k' = Row.key r then some (((t.find? (Row.key r)).map f).getD r) else t.find? k' := by
  rw [upsert?] at h
  split at h
  · rename_i hfound
    obtain ⟨r₀, hr₀⟩ := Option.isSome_iff_exists.mp hfound
    rw [find?_update? h hf, hr₀]
    rfl
  · rename_i hfound
    rw [find?_insert? h, Option.not_isSome_iff_eq_none.mp hfound]
    rfl

/-- After an upsert there is a row under the key of its row, and under no other new key. -/
theorem isSome_find?_upsert? {r : ρ} (h : t.upsert? r f = some t')
    (hf : ∀ r, Row.key (f r) = Row.key r) (k' : κ) :
    (t'.find? k').isSome ↔ k' = Row.key r ∨ (t.find? k').isSome := by
  rw [upsert?] at h
  split at h
  · rename_i hfound
    rw [find?_update? h hf]
    split
    · next heq => simpa [heq] using hfound
    · next hne => simp [hne]
  · rw [find?_insert? h]
    split
    · next heq => simp [heq]
    · next hne => simp [hne]

end Write

/-! ### How rows evolve -/

/-- No row is lost from `t` to `t'`, and each row that changed has changed as `R` says. -/
def Evolves (t t' : Table ρ) (R : κ → ρ → ρ → Prop) : Prop :=
  ∀ k r, t.find? k = some r → ∃ r', t'.find? k = some r' ∧ (r' = r ∨ R k r r')

section Evolves

variable {t₁ t₂ t₃ : Table ρ} {R R' : κ → ρ → ρ → Prop}

/-- Every row may stay as it is. -/
theorem Evolves.refl (t : Table ρ) : t.Evolves t R := fun _ r h => ⟨r, h, .inl rfl⟩

/-- A change of rows may be told less precisely. -/
theorem Evolves.mono (h : t₁.Evolves t₂ R)
    (hR : ∀ k r r', t₁.find? k = some r → R k r r' → R' k r r') : t₁.Evolves t₂ R' := by
  intro k r hr
  obtain ⟨r', hr', hchange⟩ := h k r hr
  exact ⟨r', hr', hchange.imp_right (hR k r r' hr)⟩

/-- Changes by a transitive `R` compose. -/
theorem Evolves.trans (h₁ : t₁.Evolves t₂ R) (h₂ : t₂.Evolves t₃ R)
    (hR : ∀ k r₁ r₂ r₃, R k r₁ r₂ → R k r₂ r₃ → R k r₁ r₃) : t₁.Evolves t₃ R := by
  intro k r hr
  obtain ⟨r₂, hr₂, h⟩ := h₁ k r hr
  obtain ⟨r₃, hr₃, h'⟩ := h₂ k r₂ hr₂
  refine ⟨r₃, hr₃, ?_⟩
  rcases h with rfl | h
  · exact h'
  · rcases h' with rfl | h'
    · exact .inr h
    · exact .inr (hR k r r₂ r₃ h h')

/-- New rows do not count. -/
theorem evolves_insert? {r : ρ} (h : t₁.insert? r = some t₂) : t₁.Evolves t₂ R := by
  intro k r' hr'
  refine ⟨r', ?_, .inl rfl⟩
  rw [find?_insert? h, if_neg, hr']
  rintro rfl
  exact nomatch hr'.symm.trans (find?_of_insert? h)

/-- An update changes the row of its key alone. -/
theorem evolves_update? {k : κ} {f : ρ → ρ} (h : t₁.update? k f = some t₂)
    (hf : ∀ r, Row.key (f r) = Row.key r) :
    t₁.Evolves t₂ fun k' r r' => k' = k ∧ r' = f r := by
  intro k' r hr
  rw [find?_update? h hf]
  split
  · next heq => exact ⟨f r, by rw [← heq, hr]; rfl, .inr ⟨heq, rfl⟩⟩
  · exact ⟨r, hr, .inl rfl⟩

end Evolves

end Table
