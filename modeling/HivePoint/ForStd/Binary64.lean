import Mathlib.Data.Int.Log
import Mathlib.Data.Rat.Floor
import Mathlib.Tactic.Linarith
import Mathlib.Tactic.NormNum
import Mathlib.Tactic.Ring

/-!
# Double precision

The result of an operation on doubles is the exact one, rounded to the nearest double. Here a
double is the rational number that it stands for, with a magnitude below `2 ^ 1024`.

## Key results

- `Binary64.round_round`: a double is rounded to itself
- `Binary64.abs_round_sub_le`: below `2 ^ 53` rounding is off by no more than one half
-/

namespace Binary64

/-- The nearest integer; of two, the even one. -/
def roundEven (q : ℚ) : ℤ :=
  if q - ⌊q⌋ < 1 / 2 then ⌊q⌋
  else if 1 / 2 < q - ⌊q⌋ then ⌊q⌋ + 1
  else if ⌊q⌋ % 2 = 0 then ⌊q⌋ else ⌊q⌋ + 1

/-- The place of the last of 53 binary digits of `q`, and not below that of the subnormal
    numbers. -/
def lastPlace (q : ℚ) : ℤ := max (Int.log 2 |q|) (-1022) - 52

/-- The double nearest to `q`, ties to even. -/
def round (q : ℚ) : ℚ := roundEven (q / 2 ^ lastPlace q) * 2 ^ lastPlace q

/-! ### To an integer -/

/-- An integer is not rounded. -/
private theorem roundEven_intCast (n : ℤ) : roundEven n = n := by
  simp [roundEven]

/-- Rounding moves a number by one half at most. -/
private theorem abs_roundEven_sub_le (q : ℚ) : |(roundEven q : ℚ) - q| ≤ 1 / 2 := by
  have hlow := Int.floor_le q
  have hhigh := Int.lt_floor_add_one q
  unfold roundEven
  split
  · rw [abs_le]
    constructor <;> linarith
  · split
    · rw [abs_le]
      push_cast
      constructor <;> linarith
    · split
      · rw [abs_le]
        constructor <;> linarith
      · rw [abs_le]
        push_cast
        constructor <;> linarith

/-! ### To a double -/

/-- A place is positive. -/
private theorem place_pos (e : ℤ) : (0 : ℚ) < 2 ^ e := zpow_pos (by norm_num) e

/-- Rounding is off by no more than half of the last place. -/
private theorem abs_round_sub_le_place (q : ℚ) : |round q - q| ≤ 2 ^ lastPlace q / 2 := by
  have hplace := place_pos (lastPlace q)
  have heq : round q - q =
      (roundEven (q / 2 ^ lastPlace q) - q / 2 ^ lastPlace q) * 2 ^ lastPlace q := by
    rw [round, sub_mul, div_mul_cancel₀ _ hplace.ne']
  rw [heq, abs_mul, abs_of_pos hplace]
  have hhalf := mul_le_mul_of_nonneg_right (abs_roundEven_sub_le (q / 2 ^ lastPlace q)) hplace.le
  linarith

/-- Below `2 ^ 53` the last place is that of the units, or finer. -/
private theorem lastPlace_nonpos {q : ℚ} (h : |q| < 2 ^ (53 : ℤ)) : lastPlace q ≤ 0 := by
  have hlog : Int.log 2 |q| ≤ 52 := by
    rcases (abs_nonneg q).eq_or_lt with hzero | hpos
    · rw [← hzero, Int.log_zero_right]
      norm_num
    · have hbelow : |q| < ((2 : ℕ) : ℚ) ^ (53 : ℤ) := h
      have hlt := (Int.lt_zpow_iff_log_lt (by norm_num) hpos).mp hbelow
      omega
  unfold lastPlace
  omega

/-- A number below `2 ^ 53` is rounded by one half at most. -/
theorem abs_round_sub_le {q : ℚ} (h : |q| < 2 ^ (53 : ℤ)) : |round q - q| ≤ 1 / 2 := by
  have hplace : (2 : ℚ) ^ lastPlace q ≤ 1 := zpow_le_one_of_nonpos₀ (by norm_num)
    (lastPlace_nonpos h)
  have hround := abs_round_sub_le_place q
  linarith

/-- A multiple of a place that is not finer than the last is a double. -/
private theorem round_of_place {m e : ℤ} (he : lastPlace (m * 2 ^ e) ≤ e) :
    round (m * 2 ^ e) = m * 2 ^ e := by
  obtain ⟨k, hk⟩ := Int.eq_ofNat_of_zero_le (sub_nonneg.mpr he)
  have hplace := place_pos (lastPlace (m * 2 ^ e))
  -- in units of the last place it is an integer
  have hint : (m * 2 ^ e : ℚ) / 2 ^ lastPlace (m * 2 ^ e) = ((m * 2 ^ k : ℤ) : ℚ) := by
    rw [mul_div_assoc, ← zpow_sub₀ (by norm_num), hk]
    push_cast
    rw [zpow_natCast]
  rw [round, hint, roundEven_intCast, ← hint, div_mul_cancel₀ _ hplace.ne']

/-- The last place of a double is not above its own. -/
private theorem lastPlace_le {m e : ℤ} (hm : m ≠ 0) (hlt : |m| < 2 ^ 53) (he : -1074 ≤ e) :
    lastPlace (m * 2 ^ e) ≤ e := by
  have hpos : (0 : ℚ) < |(m : ℚ) * 2 ^ e| :=
    abs_pos.mpr (mul_ne_zero (Int.cast_ne_zero.mpr hm) (place_pos e).ne')
  have hbelow : |(m : ℚ) * 2 ^ e| < (2 : ℕ) ^ (53 + e) := by
    have hcast : |(m : ℚ)| < 2 ^ 53 := by
      rw [← Int.cast_abs]
      exact_mod_cast hlt
    rw [abs_mul, abs_of_pos (place_pos e), zpow_add₀ (by norm_num)]
    push_cast
    exact mul_lt_mul_of_pos_right (by exact_mod_cast hcast) (place_pos e)
  have hlog := (Int.lt_zpow_iff_log_lt (b := 2) (by norm_num) hpos).mp hbelow
  unfold lastPlace
  omega

/-- The digits of a rounded number: 53 of them, or the power of two above. -/
private theorem abs_digits_le (q : ℚ) : |roundEven (q / 2 ^ lastPlace q)| ≤ 2 ^ 53 := by
  have hplace := place_pos (lastPlace q)
  -- scaled by its last place, a number is below `2 ^ 53`
  have hscaled : |q / 2 ^ lastPlace q| ≤ 2 ^ 53 := by
    rw [abs_div, abs_of_pos hplace, div_le_iff₀ hplace]
    have hlt : |q| < (2 : ℚ) ^ (Int.log 2 |q| + 1) :=
      Int.lt_zpow_succ_log_self (b := 2) (by norm_num) |q|
    have hexp : Int.log 2 |q| + 1 ≤ 53 + lastPlace q := by
      unfold lastPlace
      omega
    have hle := zpow_le_zpow_right₀ (a := (2 : ℚ)) (by norm_num) hexp
    rw [zpow_add₀ (by norm_num) 53] at hle
    exact hlt.le.trans hle
  have hnear := abs_roundEven_sub_le (q / 2 ^ lastPlace q)
  -- so is its rounding, which moves it by one half at most
  have hsum : |(roundEven (q / 2 ^ lastPlace q) : ℚ)| < 2 ^ 53 + 1 := by
    have htri := abs_sub_abs_le_abs_sub (roundEven (q / 2 ^ lastPlace q) : ℚ) (q / 2 ^ lastPlace q)
    linarith
  have hint : |roundEven (q / 2 ^ lastPlace q)| < 2 ^ 53 + 1 := by
    rw [← Int.cast_abs] at hsum
    exact_mod_cast hsum
  omega

/-- Zero is not rounded. -/
theorem round_zero : round 0 = 0 := by
  simp [round, roundEven]

/-- A double is not rounded. -/
private theorem round_of_digits {m e : ℤ} (hm : |m| ≤ 2 ^ 53) (he : -1074 ≤ e) :
    round (m * 2 ^ e) = m * 2 ^ e := by
  by_cases hzero : m = 0
  · rw [hzero, Int.cast_zero, zero_mul, round_zero]
  by_cases hlt : |m| < 2 ^ 53
  · exact round_of_place (lastPlace_le hzero hlt he)
  · -- the power of two above has one digit in the next place
    have habs : |m| = 2 ^ 53 := by omega
    obtain ⟨n, rfl, hn⟩ : ∃ n : ℤ, m = n * 2 ∧ |n| = 2 ^ 52 := by
      rcases (abs_eq (by norm_num)).mp habs with rfl | rfl
      · exact ⟨2 ^ 52, by norm_num, by norm_num⟩
      · exact ⟨-2 ^ 52, by norm_num, by norm_num⟩
    have hshift : ((n * 2 : ℤ) : ℚ) * 2 ^ e = n * 2 ^ (e + 1) := by
      rw [zpow_add₀ (by norm_num), zpow_one]
      push_cast
      ring
    rw [hshift]
    refine round_of_place (lastPlace_le ?_ ?_ (by omega))
    · rintro rfl
      simp at hn
    · omega

/-- What has been rounded is a double. -/
theorem round_round (q : ℚ) : round (round q) = round q := by
  have hplace : -1074 ≤ lastPlace q := by
    unfold lastPlace
    omega
  exact round_of_digits (abs_digits_le q) hplace

end Binary64
