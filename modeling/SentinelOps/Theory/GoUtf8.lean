/-
# Theory.GoUtf8 — coercion to UTF-8

`json.Marshal` writes a string as text, and text is UTF-8: each byte that is part of no
well-formed encoding comes out as U+FFFD.  A string survives exactly when it was UTF-8
(`coerce_eq_self_iff`), what comes out always is (`validString_coerce`), and no ASCII byte is
made up on the way (`mem_of_mem_coerce`).
-/
import SentinelOps.Theory.GoRunes

namespace SentinelOps.Theory.GoText

set_option autoImplicit false

/-- The encoding of `RuneError`. -/
def replacement : GoString := [0xEF, 0xBF, 0xBD]

/-- A string as it reads back from the text `json.Marshal` writes. -/
def coerce (s : GoString) : GoString :=
  (pieces s).flatMap fun p => if p.1 = runeError ∧ p.2.length = 1 then replacement else p.2

theorem encoded_replacement : Encoded replacement runeError := .three (by decide) (by decide)

/-- One byte never encodes `RuneError`. -/
theorem Encoded.not_error {e : GoString} {r : Rune} (encoded : Encoded e r) :
    ¬ (r = runeError ∧ e.length = 1) := by
  rintro ⟨same, single⟩
  cases encoded with
  | @one b0 ascii =>
      have small : b0.toNat < 128 := ascii
      rw [same, runeError] at small
      omega
  | two lead tail => cases single
  | three lead tail => cases single
  | four lead tail => cases single

theorem coerce_of_encoded {e : GoString} {r : Rune} (encoded : Encoded e r) (t : GoString) :
    coerce (e ++ t) = e ++ coerce t := by
  rw [coerce, pieces_of_encoded encoded, List.flatMap_cons, if_neg encoded.not_error]
  rfl

theorem coerce_of_illFormed {b : UInt8} {s : GoString} (ill : IllFormed (b :: s)) :
    coerce (b :: s) = replacement ++ coerce s := by
  rw [coerce, pieces_of_illFormed ill, List.flatMap_cons, if_pos ⟨rfl, rfl⟩]
  rfl

theorem validString_of_encoded {e : GoString} {r : Rune} (encoded : Encoded e r) (t : GoString) :
    validString (e ++ t) = validString t := by
  have fine : (!(r == runeError && e.length == 1)) = true := by
    rw [Bool.not_eq_true', ← Bool.not_eq_true, Bool.and_eq_true, beq_iff_eq, beq_iff_eq]
    exact encoded.not_error
  rw [validString, pieces_of_encoded encoded, List.all_cons, fine, Bool.true_and]
  rfl

theorem validString_of_illFormed {b : UInt8} {s : GoString} (ill : IllFormed (b :: s)) :
    validString (b :: s) = false := by
  simp only [validString, pieces_of_illFormed ill, List.all_cons]
  rfl

theorem length_le_length_coerce (s : GoString) : s.length ≤ (coerce s).length := by
  induction s using reading_induction with
  | nil => exact Nat.zero_le _
  | rune e r t encoded ih =>
      rw [coerce_of_encoded encoded, List.length_append, List.length_append]
      omega
  | error b t ill ih =>
      rw [coerce_of_illFormed ill, List.length_cons, List.length_append, replacement]
      simp only [List.length_cons, List.length_nil]
      omega

/-- **Exactly the UTF-8 strings survive.** -/
theorem coerce_eq_self_iff (s : GoString) : coerce s = s ↔ validString s = true := by
  induction s using reading_induction with
  | nil => decide
  | rune e r t encoded ih =>
      rw [coerce_of_encoded encoded, validString_of_encoded encoded, ← ih]
      exact List.append_right_inj e
  | error b t ill ih =>
      rw [coerce_of_illFormed ill, validString_of_illFormed ill]
      have longer := length_le_length_coerce t
      refine iff_of_false (fun same => ?_) (by decide)
      have total := congrArg List.length same
      simp only [replacement, List.length_append, List.length_cons, List.length_nil] at total
      omega

theorem validString_coerce (s : GoString) : validString (coerce s) = true := by
  induction s using reading_induction with
  | nil => rfl
  | rune e r t encoded ih => rw [coerce_of_encoded encoded, validString_of_encoded encoded, ih]
  | error b t ill ih =>
      rw [coerce_of_illFormed ill, validString_of_encoded encoded_replacement, ih]

@[simp] theorem coerce_coerce (s : GoString) : coerce (coerce s) = coerce s :=
  (coerce_eq_self_iff _).2 (validString_coerce s)

theorem coerce_of_ascii {s : GoString} (ascii : ∀ b ∈ s, b < 0x80) : coerce s = s := by
  induction s with
  | nil => rfl
  | cons b s ih =>
      rw [List.forall_mem_cons] at ascii
      have first := coerce_of_encoded (.one ascii.1) s
      rw [List.singleton_append, List.singleton_append, ih ascii.2] at first
      exact first

theorem mem_of_mem_coerce {s : GoString} {b : UInt8} (member : b ∈ coerce s) (ascii : b < 0x80) :
    b ∈ s := by
  induction s using reading_induction with
  | nil => exact member
  | rune e r t encoded ih =>
      rw [coerce_of_encoded encoded, List.mem_append] at member
      exact List.mem_append.2 (member.imp id ih)
  | error b' t ill ih =>
      rw [coerce_of_illFormed ill, List.mem_append] at member
      rcases member with replaced | kept
      · have high : ∀ c ∈ replacement, ¬ c < 0x80 := by decide +kernel
        exact absurd ascii (high b replaced)
      · exact List.mem_cons_of_mem _ (ih kept)

example : coerce [0x61, 0xFF] = [0x61, 0xEF, 0xBF, 0xBD] := by decide

end SentinelOps.Theory.GoText
