import Mathlib

/-!
# Calendars

A calendar divides the days into numbered periods that need not have the same length, such as
months. The step from a day to the day with the same offset in the next period carries into
later periods where the next one is too short. Once it has carried, the periods run ahead of
the steps for good.
-/

structure Calendar where
  /-- the first day of a period -/
  start : Int → Int
  /-- the period of a day -/
  index : Int → Int
  start_lt : ∀ i, start i < start (i + 1)
  start_index_le : ∀ d, start (index d) ≤ d
  lt_start_index : ∀ d, d < start (index d + 1)

namespace Calendar

variable (C : Calendar)

/-- The number of days of a period. -/
def length (i : Int) : Int := C.start (i + 1) - C.start i

/-- The days of its period before a day. -/
def offset (d : Int) : Int := d - C.start (C.index d)

/-- The same offset from the start of the next period. -/
def next (d : Int) : Int := C.start (C.index d + 1) + C.offset d

variable {C} {d i : Int}

/-- A later month starts later. -/
private theorem start_strictMono : StrictMono C.start := strictMono_int_of_lt_succ C.start_lt

/-- The periods that have started by a day. -/
private theorem le_index_iff : i ≤ C.index d ↔ C.start i ≤ d := by
  constructor
  · exact fun h => (C.start_strictMono.monotone h).trans (C.start_index_le d)
  · intro h
    have hlt : C.start i < C.start (C.index d + 1) := lt_of_le_of_lt h (C.lt_start_index d)
    exact Int.lt_add_one_iff.mp (C.start_strictMono.lt_iff_lt.mp hlt)

/-- A day between two starts is of the first month. -/
private theorem index_eq (h : C.start i ≤ d) (h' : d < C.start (i + 1)) : C.index d = i := by
  have hle := le_index_iff.mpr h
  have hlt : ¬i + 1 ≤ C.index d := fun hi => absurd (le_index_iff.mp hi) (not_le.mpr h')
  omega

/-- A day is not before its month. -/
private theorem offset_nonneg (d : Int) : 0 ≤ C.offset d := by
  have := C.start_index_le d
  unfold offset
  omega

/-- A next period that is long enough keeps the offset. -/
private theorem index_next_of_lt (h : C.offset d < C.length (C.index d + 1)) :
    C.index (C.next d) = C.index d + 1 ∧ C.offset (C.next d) = C.offset d := by
  have hnonneg := C.offset_nonneg d
  have hindex : C.index (C.next d) = C.index d + 1 := by
    refine index_eq ?_ ?_
    · unfold next
      omega
    · unfold length at h
      unfold next
      omega
  refine ⟨hindex, ?_⟩
  rw [offset, hindex, next]
  omega

/-- One that is too short is skipped. -/
private theorem index_next_of_le (h : C.length (C.index d + 1) ≤ C.offset d) :
    C.index d + 2 ≤ C.index (C.next d) := by
  rw [le_index_iff]
  unfold length at h
  unfold next
  rw [show C.index d + 2 = C.index d + 1 + 1 by omega]
  omega

/-- The next month's day is not of this month. -/
private theorem index_add_one_le (d : Int) : C.index d + 1 ≤ C.index (C.next d) := by
  by_cases h : C.offset d < C.length (C.index d + 1)
  · exact (index_next_of_lt h).1.ge
  · have := index_next_of_le (not_lt.mp h)
    omega

/-- Each step moves on by a period at least. -/
private theorem index_add_le_iterate (n : Nat)
    (d : Int) : C.index d + n ≤ C.index (C.next^[n] d) := by
  induction n generalizing d with
  | zero => simp
  | succ n ih =>
    rw [Function.iterate_succ_apply]
    have hstep := C.index_add_one_le d
    have hrest := ih (C.next d)
    omega

/-- The steps keep pace with the periods if and only if no period on the way is too short. -/
theorem index_iterate_iff (n : Nat) (d : Int) :
    C.index (C.next^[n] d) = C.index d + n ↔
      ∀ k : Nat, 1 ≤ k → k ≤ n → C.offset d < C.length (C.index d + k) := by
  induction n generalizing d with
  | zero => exact iff_of_true (by simp) fun k h₁ h₂ => absurd (h₁.trans h₂) (by decide)
  | succ n ih =>
    rw [Function.iterate_succ_apply]
    by_cases h : C.offset d < C.length (C.index d + 1)
    · obtain ⟨hindex, hoffset⟩ := index_next_of_lt h
      have hrest := ih (C.next d)
      rw [hindex, hoffset] at hrest
      rw [show C.index d + ((n + 1 : Nat) : Int) = C.index d + 1 + n by omega, hrest]
      constructor
      · intro hall k h₁ h₂
        rcases Nat.eq_or_lt_of_le h₁ with rfl | hlt
        · exact h
        · have hk := hall (k - 1) (by omega) (by omega)
          rwa [show C.index d + 1 + ((k - 1 : Nat) : Int) = C.index d + k by omega] at hk
      · intro hall k h₁ h₂
        have hk := hall (k + 1) (by omega) (by omega)
        rwa [show C.index d + ((k + 1 : Nat) : Int) = C.index d + 1 + k by omega] at hk
    · -- the skipped period is never made up for
      refine iff_of_false (fun heq => ?_) fun hall => h (hall 1 (le_refl 1) (by omega))
      have hskip := index_next_of_le (not_lt.mp h)
      have hrest := C.index_add_le_iterate n (C.next d)
      omega

end Calendar
