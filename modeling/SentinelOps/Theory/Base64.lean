/-
# Theory.Base64 — `base64.StdEncoding`

Three bytes are four digits of six bits.  A rest of one or two bytes is padded with zero bits to two
or three digits, and the quantum is filled with `=`.

`decode` takes what the Go decoder takes: line breaks anywhere, padding only where it ends the text,
and any value in the bits that the padding cuts off, so a text is read by more spellings than the
one `encode` writes.  `decode_encode` is the direction that holds.
-/
import Mathlib.Data.List.Basic

namespace SentinelOps.Theory.Base64

set_option autoImplicit false

/-! ## Digits -/

/-- The digit of a six-bit value. -/
def digit (n : Nat) : UInt8 :=
  if n < 26 then UInt8.ofNat (0x41 + n)
  else if n < 52 then UInt8.ofNat (0x61 + (n - 26))
  else if n < 62 then UInt8.ofNat (0x30 + (n - 52))
  else if n = 62 then 0x2B
  else 0x2F

/-- The value of a digit. -/
def value (b : UInt8) : Option Nat :=
  if 0x41 ≤ b ∧ b ≤ 0x5A then some (b.toNat - 0x41)
  else if 0x61 ≤ b ∧ b ≤ 0x7A then some (b.toNat - 0x61 + 26)
  else if 0x30 ≤ b ∧ b ≤ 0x39 then some (b.toNat - 0x30 + 52)
  else if b = 0x2B then some 62
  else if b = 0x2F then some 63
  else none

def pad : UInt8 := 0x3D

def lineBreak (b : UInt8) : Bool := b = 0x0A || b = 0x0D

theorem digit_spec : ∀ n < 64,
    value (digit n) = some n ∧ digit n ≠ pad ∧ lineBreak (digit n) = false := by decide

/-! ## Quanta -/

/-- The four digits of three bytes. -/
def sextet (a b c : UInt8) : Fin 4 → Nat
  | 0 => a.toNat / 4
  | 1 => a.toNat % 4 * 16 + b.toNat / 16
  | 2 => b.toNat % 16 * 4 + c.toNat / 64
  | 3 => c.toNat % 64

def encode : List UInt8 → List UInt8
  | [] => []
  | [a] => [digit (sextet a 0 0 0), digit (sextet a 0 0 1), pad, pad]
  | [a, b] => [digit (sextet a b 0 0), digit (sextet a b 0 1), digit (sextet a b 0 2), pad]
  | a :: b :: c :: rest =>
      digit (sextet a b c 0) :: digit (sextet a b c 1) :: digit (sextet a b c 2) ::
        digit (sextet a b c 3) :: encode rest

/-- The first byte of a quantum, from its first two digits. -/
def first (x y : Nat) : UInt8 := UInt8.ofNat (x * 4 + y / 16)

def second (y z : Nat) : UInt8 := UInt8.ofNat (y % 16 * 16 + z / 4)

def third (z w : Nat) : UInt8 := UInt8.ofNat (z % 4 * 64 + w)

/-- The quanta of a text without line breaks. -/
def decodeQuanta : List UInt8 → Option (List UInt8)
  | [] => some []
  | a :: b :: c :: d :: rest =>
      if d = pad then
        if rest ≠ [] then none
        else if c = pad then
          match value a, value b with
          | some x, some y => some [first x y]
          | _, _ => none
        else
          match value a, value b, value c with
          | some x, some y, some z => some [first x y, second y z]
          | _, _, _ => none
      else
        match value a, value b, value c, value d, decodeQuanta rest with
        | some x, some y, some z, some w, some bytes =>
            some (first x y :: second y z :: third z w :: bytes)
        | _, _, _, _, _ => none
  | _ => none

def decode (text : List UInt8) : Option (List UInt8) :=
  decodeQuanta (text.filter fun b => !lineBreak b)

/-! ## Round trip -/

section Quantum

variable (a b c : UInt8)

theorem sextet_lt : ∀ i, sextet a b c i < 64 := by
  have small := a.toNat_lt
  have small' := b.toNat_lt
  have small'' := c.toNat_lt
  intro i
  match i with
  | 0 | 1 | 2 | 3 =>
      simp only [sextet]
      omega

theorem value_sextet (i : Fin 4) : value (digit (sextet a b c i)) = some (sextet a b c i) :=
  (digit_spec _ (sextet_lt a b c i)).1

theorem sextet_ne_pad (i : Fin 4) : digit (sextet a b c i) ≠ pad :=
  (digit_spec _ (sextet_lt a b c i)).2.1

theorem lineBreak_sextet (i : Fin 4) : lineBreak (digit (sextet a b c i)) = false :=
  (digit_spec _ (sextet_lt a b c i)).2.2

theorem first_sextet : first (sextet a b c 0) (sextet a b c 1) = a := by
  have small := b.toNat_lt
  have whole : a.toNat / 4 * 4 + (a.toNat % 4 * 16 + b.toNat / 16) / 16 = a.toNat := by omega
  rw [first, sextet, sextet, whole, UInt8.ofNat_toNat]

theorem second_sextet : second (sextet a b c 1) (sextet a b c 2) = b := by
  have small := b.toNat_lt
  have small' := c.toNat_lt
  have whole : (a.toNat % 4 * 16 + b.toNat / 16) % 16 * 16 + (b.toNat % 16 * 4 + c.toNat / 64) / 4 =
      b.toNat := by omega
  rw [second, sextet, sextet, whole, UInt8.ofNat_toNat]

theorem third_sextet : third (sextet a b c 2) (sextet a b c 3) = c := by
  have small := c.toNat_lt
  have whole : (b.toNat % 16 * 4 + c.toNat / 64) % 4 * 64 + c.toNat % 64 = c.toNat := by omega
  rw [third, sextet, sextet, whole, UInt8.ofNat_toNat]

end Quantum

theorem decodeQuanta_encode (bytes : List UInt8) : decodeQuanta (encode bytes) = some bytes := by
  induction bytes using encode.induct with
  | case1 => rfl
  | case2 a => simp [encode, decodeQuanta, value_sextet, first_sextet]
  | case3 a b =>
      simp [encode, decodeQuanta, value_sextet, sextet_ne_pad, first_sextet, second_sextet]
  | case4 a b c rest ih =>
      simp [encode, decodeQuanta, value_sextet, sextet_ne_pad, first_sextet, second_sextet,
        third_sextet, ih]

theorem lineBreak_encode (bytes : List UInt8) : ∀ b ∈ encode bytes, lineBreak b = false := by
  have fill : lineBreak pad = false := by decide
  induction bytes using encode.induct with
  | case1 => simp [encode]
  | case2 a => simp [encode, lineBreak_sextet, fill]
  | case3 a b => simp [encode, lineBreak_sextet, fill]
  | case4 a b c rest ih => simpa [encode, lineBreak_sextet] using ih

/-- What was encoded is decoded. -/
theorem decode_encode (bytes : List UInt8) : decode (encode bytes) = some bytes := by
  have kept : (encode bytes).filter (fun b => !lineBreak b) = encode bytes := by
    rw [List.filter_eq_self]
    intro b member
    simp [lineBreak_encode bytes b member]
  rw [decode, kept, decodeQuanta_encode]

end SentinelOps.Theory.Base64
