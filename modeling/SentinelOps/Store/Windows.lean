/-
# Store.Windows — the slice that a limit and an offset cut out

The listings of sessions, tunnels and audit entries end with the same few lines: a bound check,
an offset that is not negative, and a slice whose upper bound is `offset + limit`.  `window` is
what they are for.  `applyWindow_eq` says what they do: the same, except where that sum does not
fit in an `int`, becomes negative and makes the slice panic.

Pole: `windows_panic` (the largest limit with an offset of one).
-/
import SentinelOps.Store.Records

namespace SentinelOps.Store

open Theory

set_option autoImplicit false

/-- How many elements an offset skips; a negative one skips none. -/
def skipped (offset : Int64) : Nat := (max offset.toInt 0).toNat

/-- The elements after the first `skipped offset`, and of those the first `limit` if there is a
limit. -/
def window {α : Type} (input : List α) (limit offset : Int64) : List α :=
  let rest := input.drop (skipped offset)
  if 0 < limit then rest.take limit.toInt.toNat else rest

/-- There is no limit, or nothing is left after the offset, or the two add up to an `int`. -/
def WindowFits (length : Nat) (limit offset : Int64) : Prop :=
  limit ≤ 0 ∨ length ≤ skipped offset ∨
    (skipped offset : Int) + limit.toInt ≤ Int64.maxValue.toInt

instance (length : Nat) (limit offset : Int64) : Decidable (WindowFits length limit offset) :=
  inferInstanceAs (Decidable (_ ∨ _))

/-! ## One window -/

section Window

variable {α : Type} {input : List α} {limit offset : Int64}

theorem skipped_of_nonneg (low : 0 ≤ offset.toInt) : skipped offset = offset.toInt.toNat := by
  rw [skipped, max_eq_left low]

/-- The offset after the correction of a negative one. -/
theorem toInt_corrected (offset : Int64) :
    (if offset < 0 then (0 : Int64) else offset).toInt = skipped offset := by
  rw [skipped]
  split
  · next negative =>
      rw [Int64.lt_iff_toInt_lt, Int64.toInt_zero] at negative
      rw [max_eq_right negative.le]
      rfl
  · next low =>
      rw [Int64.lt_iff_toInt_lt, Int64.toInt_zero, not_lt] at low
      rw [max_eq_left low, Int.toNat_of_nonneg low]

/-- The sum of two `int`s that are not negative is exact, or negative. -/
theorem toInt_add_of_nonneg {a b : Int64} (low : 0 ≤ a.toInt) (low' : 0 ≤ b.toInt) :
    (a.toInt + b.toInt ≤ Int64.maxValue.toInt ∧ (a + b).toInt = a.toInt + b.toInt) ∨
      (Int64.maxValue.toInt < a.toInt + b.toInt ∧ (a + b).toInt < 0) := by
  have high := a.toInt_lt
  have high' := b.toInt_lt
  rw [Int64.toInt_maxValue, Int64.toInt_add]
  by_cases fits : a.toInt + b.toInt < 2 ^ 63
  · left
    rw [Int.bmod_eq_of_le (by omega) (by omega)]
    omega
  · right
    have wrapped : (a.toInt + b.toInt).bmod (2 ^ 64) = a.toInt + b.toInt - 2 ^ 64 := by
      rw [← Int.sub_bmod_right]
      exact Int.bmod_eq_of_le (by omega) (by omega)
    rw [wrapped]
    omega

theorem sliced_of_le {low high : Nat} (order : low ≤ high) (within : high ≤ input.length) :
    sliced input low high = some ((input.drop low).take (high - low)) := by
  rw [sliced, if_pos (by omega), Int.toNat_natCast, Int.toNat_natCast, List.drop_take]

/-- The slice to the end of the input. -/
theorem sliced_length {low : Nat} (within : low ≤ input.length) :
    sliced input low input.length = some (input.drop low) := by
  rw [sliced_of_le within le_rfl, List.take_of_length_le]
  rw [List.length_drop]

theorem window_of_length_le (beyond : input.length ≤ skipped offset) :
    window input limit offset = [] := by
  rw [window, List.drop_of_length_le beyond, List.take_nil, ite_self]

/-- The slice of an offset that is inside the input, with a limit. -/
theorem sliced_limited {start : Int64} (low : 0 ≤ start.toInt) (within : start.toInt ≤ input.length)
    (positive : 0 < limit.toInt) :
    sliced input start.toInt
        (if (start + limit).toInt < input.length then (start + limit).toInt else input.length) =
      if start.toInt + limit.toInt ≤ Int64.maxValue.toInt then
        some ((input.drop start.toInt.toNat).take limit.toInt.toNat)
      else none := by
  rcases toInt_add_of_nonneg low positive.le with ⟨fits, sum⟩ | ⟨large, wrapped⟩
  · rw [if_pos fits, sum]
    by_cases shorter : start.toInt + limit.toInt < input.length
    · rw [if_pos shorter, sliced, if_pos ⟨low, by omega, by omega⟩, List.drop_take]
      congr 2
      omega
    · rw [if_neg shorter, sliced, if_pos ⟨low, by omega, by omega⟩, Int.toNat_natCast,
        List.take_length, List.take_of_length_le]
      rw [List.length_drop]
      omega
  · -- The upper bound is negative, so it is below the length and below the lower one.
    have stops : (start + limit).toInt < input.length := by omega
    have overflow : ¬ start.toInt + limit.toInt ≤ Int64.maxValue.toInt := by omega
    rw [if_pos stops, if_neg overflow, sliced, if_neg (by omega)]

/-- **What the windows do.**  They cut out the window, or they panic, and they panic exactly
when `offset + limit` is needed and is not an `int`. -/
theorem applyWindow_eq (input : List α) (limit offset : Int64) :
    applyWindow input limit offset =
      if WindowFits input.length limit offset then some (window input limit offset) else none := by
  have corrected := toInt_corrected offset
  unfold applyWindow
  split
  · next beyond =>
      have none_ : input.length ≤ skipped offset := by
        rw [skipped_of_nonneg (by omega)]
        omega
      rw [if_pos (.inr (.inl none_)), window_of_length_le none_]
  · next inside =>
      have within : skipped offset < input.length ∨ skipped offset = 0 := by
        rw [skipped]
        omega
      dsimp only
      generalize (if offset < 0 then (0 : Int64) else offset) = start at corrected ⊢
      by_cases limited : 0 < limit
      · have positive : 0 < limit.toInt := by
          rwa [Int64.lt_iff_toInt_lt, Int64.toInt_zero] at limited
        -- An offset of zero leaves the limit as it is, and a limit is an `int`.
        have fits_iff : WindowFits input.length limit offset ↔
            start.toInt + limit.toInt ≤ Int64.maxValue.toInt := by
          have top := limit.toInt_le
          rw [WindowFits, Int64.le_iff_toInt_le, Int64.toInt_zero]
          omega
        simp only [limited, true_and, window, if_true, fits_iff]
        rw [sliced_limited (by omega) (by omega) positive, corrected, Int.toNat_natCast]
      · simp only [limited, false_and, if_false, corrected, window]
        rw [if_pos (.inl (Int64.not_lt.1 limited)), sliced_length (by omega)]

theorem window_of_le (beyond : (input.length : Int) ≤ offset.toInt) :
    applyWindow input limit offset = some [] :=
  if_pos beyond

/-- The window of an offset inside the input. -/
theorem window_of_lt (positive : 0 < limit.toInt) (low : 0 ≤ offset.toInt)
    (inside : offset.toInt < input.length) :
    applyWindow input limit offset =
      if offset.toInt + limit.toInt ≤ Int64.maxValue.toInt then
        some ((input.drop offset.toInt.toNat).take limit.toInt.toNat)
      else none := by
  have limited : 0 < limit := by
    rw [Int64.lt_iff_toInt_lt, Int64.toInt_zero]
    exact positive
  have fits_iff : WindowFits input.length limit offset ↔
      offset.toInt + limit.toInt ≤ Int64.maxValue.toInt := by
    rw [WindowFits, Int64.le_iff_toInt_le, Int64.toInt_zero, skipped_of_nonneg low]
    omega
  simp only [applyWindow_eq, window, limited, if_true, fits_iff, skipped_of_nonneg low]

theorem applyWindow_zero (input : List α) : applyWindow input 0 0 = some input := by
  rw [applyWindow_eq, if_pos (.inl (Int64.le_refl 0))]
  rfl

theorem window_eq_nil_iff : window input limit offset = [] ↔ input.length ≤ skipped offset := by
  rw [window]
  split
  · next limited =>
      have positive : limit.toInt.toNat ≠ 0 := by
        rw [Int64.lt_iff_toInt_lt, Int64.toInt_zero] at limited
        omega
      rw [List.take_eq_nil_iff, or_iff_right positive, List.drop_eq_nil_iff]
  · exact List.drop_eq_nil_iff

/-- A window of one element. -/
theorem window_eq_singleton_iff {x : α} :
    window input limit offset = [x] ↔
      input[skipped offset]? = some x ∧ (limit = 1 ∨ input.length = skipped offset + 1) := by
  have one : limit = 1 ↔ limit.toInt = 1 := by
    rw [← Int64.toInt_inj, Int64.toInt_one]
  have first : input[skipped offset]? = (input.drop (skipped offset)).head? := by
    rw [List.head?_drop]
  have length : (input.drop (skipped offset)).length = input.length - skipped offset :=
    List.length_drop
  rw [window, first, one]
  generalize input.drop (skipped offset) = rest at length ⊢
  cases rest with
  | nil => simp
  | cons y rest =>
      have lengths : input.length = skipped offset + 1 ↔ rest = [] := by
        rw [← List.length_eq_zero_iff]
        rw [List.length_cons] at length
        omega
      rw [lengths, List.head?_cons, Option.some.injEq]
      split
      · next limited =>
          rw [Int64.lt_iff_toInt_lt, Int64.toInt_zero] at limited
          obtain ⟨n, more⟩ : ∃ n, limit.toInt.toNat = n + 1 := ⟨limit.toInt.toNat - 1, by omega⟩
          have few : limit.toInt = 1 ↔ n = 0 := by omega
          rw [more, List.take_succ_cons, List.cons.injEq, List.take_eq_nil_iff, few]
      · next unlimited =>
          rw [Int64.lt_iff_toInt_lt, Int64.toInt_zero] at unlimited
          have many : ¬ limit.toInt = 1 := by omega
          rw [List.cons.injEq, or_iff_right many]

end Window

/-! ## The three windows -/

/-- **When a window is what it is for.**  Whatever the records, the window of each kind does not
panic and leaves out the first `max offset 0`, keeping no more than `limit` if that is positive,
exactly when the limit and the offset fit. -/
theorem windows_exact_iff (limit offset : Int64) :
    (∀ input : List Session, applySessionWindow input limit offset =
      some (window input limit offset) ↔ WindowFits input.length limit offset) ∧
    (∀ input : List Tunnel, applyTunnelWindow input limit offset =
      some (window input limit offset) ↔ WindowFits input.length limit offset) ∧
    ∀ input : List AuditEntry, applyAuditWindow input limit offset =
      some (window input limit offset) ↔ WindowFits input.length limit offset := by
  have exact_iff {α : Type} (input : List α) : applyWindow input limit offset =
      some (window input limit offset) ↔ WindowFits input.length limit offset := by
    rw [applyWindow_eq, Option.ite_none_right_eq_some, and_iff_left rfl]
  exact ⟨exact_iff, exact_iff, exact_iff⟩

example : applyWindow [1, 2, 3] 1 1 = some [2] ∧ applyWindow [1, 2, 3] 0 (-7) = some [1, 2, 3] := by
  decide

/-- Two records, the second of them asked for with the largest limit: each window panics. -/
theorem windows_panic :
    (∀ sess : Session, applySessionWindow [sess, sess] Int64.maxValue 1 = none) ∧
      (∀ tunnel : Tunnel, applyTunnelWindow [tunnel, tunnel] Int64.maxValue 1 = none) ∧
      ∀ entry : AuditEntry, applyAuditWindow [entry, entry] Int64.maxValue 1 = none := by
  have overflow : ¬ WindowFits 2 Int64.maxValue 1 := by decide
  have panics {α : Type} (x : α) : applyWindow [x, x] Int64.maxValue 1 = none := by
    rw [applyWindow_eq]
    exact if_neg overflow
  exact ⟨panics, panics, panics⟩

end SentinelOps.Store
