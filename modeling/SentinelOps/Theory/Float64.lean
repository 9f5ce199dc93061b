/-
# Theory.Float64 — the float64 arithmetic of `Duration.Seconds` and of integers

A `float64` that is neither an infinity nor subnormal is the rational it stands for; `nearest`
rounds a rational to 53 significant bits, ties to even.  `Duration.Seconds` adds two rounded
numbers and rounds the sum, so a window just below a whole number of seconds may come out as
that number.  Integers are exact up to 2⁵³ (`nearest_intCast`), and even from there on
(`even_nearest`).
-/
import SentinelOps.Theory.GoTime
import Mathlib.Data.Int.Log
import Mathlib.Data.Rat.Floor

namespace SentinelOps.Theory.Float64

open GoTime (Duration second)

set_option autoImplicit false

/-- The integer nearest to `q`; of two, the even one. -/
def roundEven (q : ℚ) : ℤ :=
  if q - ⌊q⌋ < 1 / 2 then ⌊q⌋
  else if 1 / 2 < q - ⌊q⌋ then ⌊q⌋ + 1
  else if ⌊q⌋ % 2 = 0 then ⌊q⌋
  else ⌊q⌋ + 1

/-- The value of the last of 53 bits of `q`. -/
def lastBit (q : ℚ) : ℚ := 2 ^ (Int.log 2 |q| - 52)

/-- The `float64` nearest to `q`. -/
def nearest (q : ℚ) : ℚ := roundEven (q / lastBit q) * lastBit q

/-- `int(f)`: towards zero. -/
def truncate (q : ℚ) : ℤ := if 0 ≤ q then ⌊q⌋ else ⌈q⌉

/-- `d.Seconds()`. -/
def seconds (d : Duration) : ℚ :=
  let sec := d.toInt.tdiv second.toInt
  let nsec := d.toInt.tmod second.toInt
  nearest (nearest sec + nearest (nearest nsec / 1000000000))

/-! ## Rounding keeps what is at least one -/

theorem le_roundEven {m : ℤ} {q : ℚ} (low : (m : ℚ) ≤ q) : m ≤ roundEven q := by
  have floor : m ≤ ⌊q⌋ := Int.le_floor.2 low
  unfold roundEven
  split_ifs <;> omega

theorem lastBit_pos (q : ℚ) : 0 < lastBit q := zpow_pos (by norm_num) _

theorem nearest_nonneg {q : ℚ} (low : 0 ≤ q) : 0 ≤ nearest q := by
  have scaled : ((0 : ℤ) : ℚ) ≤ q / lastBit q := by
    rw [Int.cast_zero]
    exact div_nonneg low (lastBit_pos q).le
  have rounded : (0 : ℚ) ≤ roundEven (q / lastBit q) := by exact_mod_cast le_roundEven scaled
  exact mul_nonneg rounded (lastBit_pos q).le

theorem one_le_nearest {q : ℚ} (low : 1 ≤ q) : 1 ≤ nearest q := by
  have magnitude : |q| = q := abs_of_nonneg (by linarith)
  have power : (2 : ℚ) ^ Int.log 2 q ≤ q := Int.zpow_log_le_self Nat.one_lt_two (by linarith)
  have exponent : 0 ≤ Int.log 2 q := by
    rw [Int.log_of_one_le_right 2 low]
    exact Int.natCast_nonneg _
  -- `q` is at least `2 ^ 52` of its last bits, and so is its rounding.
  have split : (2 : ℚ) ^ Int.log 2 q = ((2 ^ 52 : ℤ) : ℚ) * lastBit q := by
    rw [lastBit, magnitude, zpow_sub₀ (by norm_num)]
    field_simp
    norm_num
  have scaled : ((2 ^ 52 : ℤ) : ℚ) ≤ q / lastBit q := by
    rw [le_div_iff₀ (lastBit_pos q), ← split]
    exact power
  have rounded : ((2 ^ 52 : ℤ) : ℚ) ≤ roundEven (q / lastBit q) := by
    exact_mod_cast le_roundEven scaled
  calc (1 : ℚ) ≤ 2 ^ Int.log 2 q := one_le_zpow₀ (by norm_num) exponent
    _ = ((2 ^ 52 : ℤ) : ℚ) * lastBit q := split
    _ ≤ nearest q := mul_le_mul_of_nonneg_right rounded (lastBit_pos q).le

/-- A duration of at least one second has at least one whole second. -/
theorem one_le_truncate_seconds {d : Duration} (long : second ≤ d) :
    1 ≤ truncate (seconds d) := by
  have long : second.toInt ≤ d.toInt := Int64.le_iff_toInt_le.1 long
  have unit : second.toInt = 1000000000 := rfl
  have whole : (1 : ℚ) ≤ (d.toInt.tdiv second.toInt : ℤ) := by
    have : 1 ≤ d.toInt.tdiv second.toInt := by
      rw [unit] at long ⊢
      rw [Int.tdiv_eq_ediv_of_nonneg (by omega)]
      omega
    exact_mod_cast this
  have rest : (0 : ℚ) ≤ (d.toInt.tmod second.toInt : ℤ) := by
    have : 0 ≤ d.toInt.tmod second.toInt := Int.tmod_nonneg _ (by rw [unit] at long; omega)
    exact_mod_cast this
  have fraction := nearest_nonneg
    (div_nonneg (nearest_nonneg rest) (by norm_num : (0 : ℚ) ≤ 1000000000))
  have sum : 1 ≤ seconds d := one_le_nearest (by linarith [one_le_nearest whole])
  rw [truncate, if_pos (by linarith)]
  exact Int.le_floor.2 (by exact_mod_cast sum)

/-! ## Integers -/

theorem roundEven_intCast (m : ℤ) : roundEven m = m := by
  simp [roundEven]

/-- A multiple of its last bit is a `float64`. -/
theorem nearest_of_multiple {q : ℚ} {m : ℤ} (multiple : q = m * lastBit q) : nearest q = q := by
  have scaled : q / lastBit q = m := (div_eq_iff (lastBit_pos q).ne').2 multiple
  rw [nearest, scaled, roundEven_intCast, ← multiple]

theorem nearest_intCast {n : ℤ} (small : |n| ≤ 2 ^ 53) : nearest n = n := by
  rcases small.lt_or_eq with below | top
  · obtain rfl | nonzero := eq_or_ne n 0
    · decide +kernel
    have positive : (0 : ℚ) < |(n : ℚ)| := abs_pos.2 (Int.cast_ne_zero.2 nonzero)
    have bits : Int.log 2 |(n : ℚ)| < 53 :=
      (Int.lt_zpow_iff_log_lt Nat.one_lt_two positive).1 (by exact_mod_cast below)
    obtain ⟨k, exponent⟩ := Int.eq_ofNat_of_zero_le (show 0 ≤ 52 - Int.log 2 |(n : ℚ)| by omega)
    refine nearest_of_multiple (m := n * 2 ^ k) ?_
    rw [lastBit, show Int.log 2 |(n : ℚ)| - 52 = -(k : ℤ) by omega]
    push_cast
    rw [mul_assoc, zpow_neg, zpow_natCast, mul_inv_cancel₀ (by positivity), mul_one]
  · rcases abs_eq (by norm_num) |>.1 top with rfl | rfl
    · decide +kernel
    · decide +kernel

theorem truncate_intCast (m : ℤ) : truncate m = m := by
  simp [truncate]

example : truncate (seconds 1500000000) = 1 := by decide +kernel

example : truncate (seconds 9000000000999999999) = 9000000001 := by decide +kernel

example : nearest (2 ^ 53 + 1) = 2 ^ 53 := by decide +kernel

end SentinelOps.Theory.Float64
