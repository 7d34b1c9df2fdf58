import Mathlib

/-!
# List lemmas

Facts about lists that no library states.

## Key results

- `List.mapM_eq_some_iff`: a list that is mapped into `Option`, as a relation between its items
  and the results
- `List.exists_forall₂_iff`: items that each have a counterpart
- `List.eq_of_replicate_middle`: a long run of one item stands in one place only
-/

namespace List

variable {α β : Type}

/-- A list is mapped if every item is. -/
theorem mapM_eq_some_iff {f : α → Option β} {l : List α} {l' : List β} :
    l.mapM f = some l' ↔ Forall₂ (fun a b => f a = some b) l l' := by
  induction l generalizing l' with
  | nil =>
    rw [forall₂_nil_left_iff, mapM_nil]
    exact ⟨fun h => (Option.some.inj h).symm, fun h => congrArg some h.symm⟩
  | cons a l ih =>
    rw [mapM_cons, forall₂_cons_left_iff]
    constructor
    · intro h
      obtain ⟨b, hb, h⟩ := Option.bind_eq_some_iff.mp h
      obtain ⟨rest, hrest, h⟩ := Option.bind_eq_some_iff.mp h
      exact ⟨b, rest, hb, ih.mp hrest, (Option.some.inj h).symm⟩
    · rintro ⟨b, rest, hb, hrest, rfl⟩
      exact Option.bind_eq_some_iff.mpr ⟨b, hb,
        Option.bind_eq_some_iff.mpr ⟨rest, ih.mpr hrest, rfl⟩⟩

/-- What holds of every result holds of the results. -/
theorem forall_of_mapM {f : α → Option β} {P : β → Prop} (hf : ∀ a b, f a = some b → P b)
    {l : List α} {l' : List β} (h : l.mapM f = some l') : ∀ b ∈ l', P b := by
  have hall := mapM_eq_some_iff.mp h
  clear h
  induction hall with
  | nil => exact fun b hb => absurd hb not_mem_nil
  | cons hab _ ih => exact forall_mem_cons.mpr ⟨hf _ _ hab, ih⟩

/-- If every item has a counterpart, the list has one. -/
theorem exists_forall₂_iff {R : α → β → Prop} {l : List α} :
    (∃ l', Forall₂ R l l') ↔ ∀ a ∈ l, ∃ b, R a b := by
  induction l with
  | nil => exact ⟨fun _ a ha => absurd ha not_mem_nil, fun _ => ⟨[], .nil⟩⟩
  | cons a l ih =>
    rw [forall_mem_cons, ← ih]
    constructor
    · rintro ⟨l', h⟩
      obtain ⟨b, rest, hab, hrest, rfl⟩ := forall₂_cons_left_iff.mp h
      exact ⟨⟨b, hab⟩, rest, hrest⟩
    · rintro ⟨⟨b, hab⟩, rest, hrest⟩
      exact ⟨b :: rest, .cons hab hrest⟩

/-- Relations that agree on the items of a list agree on the list. -/
theorem forall₂_congr_left {R S : α → β → Prop} {l : List α} {l' : List β}
    (h : ∀ a ∈ l, ∀ b, R a b ↔ S a b) : Forall₂ R l l' ↔ Forall₂ S l l' := by
  induction l generalizing l' with
  | nil => rw [forall₂_nil_left_iff, forall₂_nil_left_iff]
  | cons a l ih =>
    obtain ⟨ha, hl⟩ := forall_mem_cons.mp h
    simp only [forall₂_cons_left_iff, ha, ih hl]

/-! ### Where an item or a run of items stands -/

/-- The last occurrence of an item is in one place. -/
theorem append_cons_inj_of_notMem_right {a : α} {t₁ t₂ s₁ s₂ : List α}
    (h : t₁ ++ a :: s₁ = t₂ ++ a :: s₂) (h₁ : a ∉ s₁) (h₂ : a ∉ s₂) : t₁ = t₂ ∧ s₁ = s₂ := by
  rcases append_eq_append_iff.mp h with ⟨m, hm, hs⟩ | ⟨m, hm, hs⟩
  · cases m with
    | nil => exact ⟨by rw [hm, append_nil], (cons.inj hs).2⟩
    | cons b m => exact absurd ((cons.inj hs).2 ▸ mem_append_right m mem_cons_self) h₁
  · cases m with
    | nil => exact ⟨by rw [hm, append_nil], (cons.inj hs).2.symm⟩
    | cons b m => exact absurd ((cons.inj hs).2 ▸ mem_append_right m mem_cons_self) h₂

/-- A run that is longer than all else is part of the one run there is. -/
theorem eq_of_replicate_middle {a : α} {t₁ t₂ s₁ s₂ : List α} {n m : Nat}
    (h : t₁ ++ (replicate n a ++ s₁) = t₂ ++ (replicate m a ++ s₂)) (ht : t₁.getLast? ≠ some a)
    (hs : s₁.head? ≠ some a) (hlength : t₁.length + s₁.length < m) :
    m ≤ n ∧ (m = n → t₁ = t₂ ∧ s₁ = s₂) := by
  have hlengths : t₁.length + (n + s₁.length) = t₂.length + (m + s₂.length) := by
    simpa using congrArg List.length h
  -- the items of the run on the right
  have hrun : ∀ i, t₂.length ≤ i → i < t₂.length + m →
      (t₁ ++ (replicate n a ++ s₁))[i]? = some a := by
    intro i hle hlt
    rw [h, getElem?_append_right hle, getElem?_append_left (by rw [length_replicate]; omega),
      getElem?_replicate_of_lt (by omega)]
  have hbegin : t₁.length ≤ t₂.length := by
    refine Nat.le_of_not_lt fun hlt => ht ?_
    rw [getLast?_eq_getElem?, ← hrun (t₁.length - 1) (by omega) (by omega),
      getElem?_append_left (by omega)]
  have hend : t₂.length + m ≤ t₁.length + n := by
    refine Nat.le_of_not_lt fun hlt => hs ?_
    rw [head?_eq_getElem?, ← hrun (t₁.length + n) (by omega) (by omega),
      getElem?_append_right (by omega), getElem?_append_right (by rw [length_replicate]; omega),
      length_replicate]
    congr 1
    omega
  refine ⟨by omega, ?_⟩
  rintro rfl
  obtain ⟨ht', hrest⟩ := append_inj h (by omega)
  exact ⟨ht', append_cancel_left hrest⟩

end List
