import HivePoint.ForStd.GroupedSum

/-!
# Sliding windows checked from one side

A limiter admits an item when the total of the window that ends at the item's stamp
stays within the limit. `windowTotal` is the total over any window position.

Such a check sees only what lies before the stamp. `InOrder` says that no item is
admitted whose stamp lies less than a window before an earlier one's; then the check of
the newest item bounds every window that contains it (`windowTotal_snoc_le`).
-/

namespace SlidingWindow

open GroupedSum

variable {α : Type} (stamp : α → Int) (amount : α → Int) (width : Int)

/-- The total of the items with a stamp in `[x, x + width]`. -/
def windowTotal (x : Int) (items : List α) : Int :=
  sumWhere amount (fun a => decide (x ≤ stamp a) && decide (stamp a ≤ x + width)) items

/-- No item is stamped before an earlier one and within a window of it. -/
def InOrder (items : List α) : Prop :=
  items.Pairwise fun earlier later =>
    ¬(stamp later < stamp earlier ∧ stamp earlier ≤ stamp later + width)

instance (items : List α) : Decidable (InOrder stamp width items) :=
  inferInstanceAs (Decidable (List.Pairwise _ _))

variable {stamp amount width} {items : List α} {a : α}

/-- The earlier items are in order. -/
theorem InOrder.init (h : InOrder stamp width (items ++ [a])) : InOrder stamp width items :=
  (List.pairwise_append.mp h).1

/-- A selection of items that are not negative is bounded by any larger selection. -/
theorem sumWhere_le_sumWhere {p q : α → Bool} (hamount : ∀ b ∈ items, 0 ≤ amount b)
    (hpq : ∀ b ∈ items, p b = true → q b = true) :
    sumWhere amount p items ≤ sumWhere amount q items := by
  induction items with
  | nil => simp
  | cons b items ih =>
    have hrest := ih (fun c hc => hamount c (List.mem_cons_of_mem _ hc))
      (fun c hc => hpq c (List.mem_cons_of_mem _ hc))
    have hb := hamount b List.mem_cons_self
    have hbpq := hpq b List.mem_cons_self
    rw [sumWhere_cons, sumWhere_cons]
    by_cases hp : p b = true
    · rw [if_pos hp, if_pos (hbpq hp)]
      omega
    · rw [if_neg hp]
      split <;> omega

/-- If the items admitted before kept the limit in every window and the newest one passed
    the check of the window that ends at its stamp, the limit holds in every window. -/
theorem windowTotal_snoc_le {limit : Int} (hamount : ∀ b ∈ items, 0 ≤ amount b)
    (hlimit : ∀ x, windowTotal stamp amount width x items ≤ limit)
    (horder : InOrder stamp width (items ++ [a]))
    (hcheck : windowTotal stamp amount width (stamp a - width) items + amount a ≤ limit) (x : Int) :
    windowTotal stamp amount width x (items ++ [a]) ≤ limit := by
  rw [windowTotal, sumWhere_append, sumWhere_cons, sumWhere_nil, add_zero]
  by_cases ha : x ≤ stamp a ∧ stamp a ≤ x + width
  · -- every admitted item of a window that contains `a` lies in the window that ends at `a`
    have hsub : ∀ b ∈ items, (decide (x ≤ stamp b) && decide (stamp b ≤ x + width)) = true →
        (decide (stamp a - width ≤ stamp b) && decide (stamp b ≤ stamp a - width + width)) =
          true := by
      intro b hb hin
      have hlate := (List.pairwise_append.mp horder).2.2 b hb a (List.mem_singleton.mpr rfl)
      simp only [Bool.and_eq_true, decide_eq_true_eq] at hin ⊢
      omega
    have hle := sumWhere_le_sumWhere hamount hsub
    rw [windowTotal] at hcheck
    simp only [ha, decide_true, Bool.and_self, if_true]
    omega
  · have hold := hlimit x
    rw [windowTotal] at hold
    have hout : (decide (x ≤ stamp a) && decide (stamp a ≤ x + width)) = false := by
      simpa only [Bool.and_eq_false_iff, decide_eq_false_iff_not, not_and_or] using ha
    rw [hout]
    simpa using hold

end SlidingWindow
