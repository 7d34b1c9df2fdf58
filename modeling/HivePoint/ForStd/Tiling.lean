import Mathlib

/-!
# Lists of intervals that tile

Items `a` stand for the half-open intervals from `lo a` to `hi a`. A list of them tiles
when each interval is non-empty and starts where the one before it ends. Then a later
interval starts after every earlier one, and each item but the last is followed by exactly
one that starts at its end.
-/

variable {ι α : Type} [LinearOrder α] {lo hi : ι → α}

/-- Non-empty intervals, each of which starts where the one before it ends. -/
structure Tiles (lo hi : ι → α) (items : List ι) : Prop where
  chain : items.IsChain fun a b => lo b = hi a
  nonempty : ∀ a ∈ items, lo a < hi a

namespace Tiles

variable {items items₁ items₂ : List ι} {a b : ι}

/-- One item tiles on its own. -/
theorem singleton (h : lo a < hi a) : Tiles lo hi [a] where
  chain := .singleton a
  nonempty _ hb := List.mem_singleton.mp hb ▸ h

/-- The tiling goes on with an interval that starts at its end. -/
theorem append (h : Tiles lo hi (items ++ [a])) (hstart : lo b = hi a) (hb : lo b < hi b) :
    Tiles lo hi (items ++ [a] ++ [b]) := by
  constructor
  · refine h.chain.append (.singleton b) fun x hx y hy => ?_
    obtain rfl : a = x := by simpa using hx
    obtain rfl : b = y := by simpa using hy
    exact hstart
  · intro x hx
    rcases List.mem_append.mp hx with hx | hx
    · exact h.nonempty x hx
    · exact List.mem_singleton.mp hx ▸ hb

/-- Exchanging an item for one with the same interval. -/
theorem set (h : Tiles lo hi (items₁ ++ a :: items₂)) (hlo : lo b = lo a) (hhi : hi b = hi a) :
    Tiles lo hi (items₁ ++ b :: items₂) := by
  obtain ⟨hchain, hnonempty⟩ := h
  refine ⟨?_, fun x hx => ?_⟩
  -- the neighbours meet the new item where they met the old one
  · rw [List.isChain_append] at hchain ⊢
    obtain ⟨h₁, h₂, hjoin⟩ := hchain
    refine ⟨h₁, ?_, fun x hx y hy => ?_⟩
    · cases items₂ with
      | nil => exact .singleton b
      | cons c items₂ =>
        rw [List.isChain_cons_cons] at h₂ ⊢
        exact ⟨h₂.1.trans hhi.symm, h₂.2⟩
    · obtain rfl : b = y := by simpa using hy
      exact hlo.trans (hjoin x hx a (by simp))
  · rcases List.mem_append.mp hx with hx | hx
    · exact hnonempty x (List.mem_append_left _ hx)
    · rcases List.mem_cons.mp hx with rfl | hx
      · rw [hlo, hhi]
        exact hnonempty a (by simp)
      · exact hnonempty x (by simp [hx])

/-- Later intervals start after earlier ones have ended. -/
theorem pairwise (h : Tiles lo hi items) : items.Pairwise fun a b => hi a ≤ lo b := by
  obtain ⟨hchain, hnonempty⟩ := h
  induction items with
  | nil => exact .nil
  | cons a items ih =>
    have htail := ih (List.IsChain.tail hchain) fun x hx => hnonempty x (List.mem_cons_of_mem _ hx)
    refine List.pairwise_cons.mpr ⟨fun x hx => ?_, htail⟩
    cases items with
    | nil => exact nomatch hx
    | cons b items =>
      have hnext : lo b = hi a := (List.isChain_cons_cons.mp hchain).1
      rcases List.mem_cons.mp hx with rfl | hx
      · exact hnext.ge
      · -- through the interval of `b`, which is not empty
        have hb := hnonempty b (by simp)
        exact hnext.ge.trans (hb.le.trans ((List.pairwise_cons.mp htail).1 x hx))

/-- Exactly one interval starts where one that is not the last ends, and none where the last
    one ends. -/
theorem length_filter_next (h : Tiles lo hi (items₁ ++ a :: items₂)) :
    ((items₁ ++ a :: items₂).filter fun b => lo b = hi a).length =
      if items₂ = [] then 0 else 1 := by
  have hpairs := List.pairwise_append.mp h.pairwise
  have ha := h.nonempty a (by simp)
  -- no earlier item starts where this one ends, and no later one but the next
  have hbefore : items₁.filter (fun b => decide (lo b = hi a)) = [] := by
    refine List.filter_eq_nil_iff.mpr fun x hx => ?_
    have hx' := h.nonempty x (by simp [hx])
    have hxa := hpairs.2.2 x hx a (by simp)
    have hlt : lo x < hi a := (hx'.trans_le hxa).trans ha
    simpa using hlt.ne
  rw [List.filter_append, hbefore, List.nil_append, List.filter_cons_of_neg (by simpa using ha.ne)]
  cases items₂ with
  | nil => rfl
  | cons b items₂ =>
    have hnext : lo b = hi a :=
      (List.isChain_cons_cons.mp (List.isChain_append.mp h.chain).2.1).1
    have hafter : items₂.filter (fun c => decide (lo c = hi a)) = [] := by
      refine List.filter_eq_nil_iff.mpr fun x hx => ?_
      have hbx := (List.pairwise_cons.mp (List.pairwise_cons.mp hpairs.2.1).2).1 x hx
      have hlt : hi a < lo x := hnext ▸ (h.nonempty b (by simp)).trans_le hbx
      simpa using hlt.ne'
    rw [List.filter_cons_of_pos (by simpa using hnext), hafter, if_neg (List.cons_ne_nil _ _)]
    rfl

end Tiles
