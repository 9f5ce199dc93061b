/-
# Theory.GoText — Go strings as bytes, with the parts of `strings` and `fmt` in use

A Go `string` is a sequence of bytes, valid UTF-8 or not.  Reading it as runes never
fails: a byte that starts no well-formed encoding is one `RuneError` of width one
(`decodeRune`, after the table in `unicode/utf8`).  `strings.TrimSpace` and
`strings.ToLower` go through that reading, so they are total on every byte sequence and
`toLower` replaces each ill-formed byte by the three bytes of U+FFFD.

`%0wd` is `zeroPadded w`.  Padding adds only leading zeros, so the number can be read
back whatever its width (`zeroPadded_injective`).
-/
import Mathlib.Data.Nat.Digits.Lemmas
import SentinelOps.Theory.CaseRanges

namespace SentinelOps.Theory.GoText

set_option autoImplicit false

/-- A Go `string`. -/
abbrev GoString := List UInt8

/-- The bytes of a string literal. -/
def str (literal : String) : GoString :=
  literal.toList.flatMap String.utf8EncodeChar

/-- The bytes that a literal is stored as: `str`, without the way through characters. -/
def bytes (literal : String) : GoString := literal.toByteArray.data.toList

theorem str_eq_bytes (literal : String) : str literal = bytes literal := by
  rw [str, bytes, ← String.utf8Encode_toList, List.utf8Encode]
  simp

/-! ## Runes -/

/-- `utf8.RuneError`, the rune an ill-formed byte reads as. -/
def runeError : Rune := 0xFFFD

/-- A byte between `lo` and `hi`. -/
def inRange (lo hi b : UInt8) : Bool := lo ≤ b && b ≤ hi

def continuation (b : UInt8) : Bool := inRange 0x80 0xBF b

/-- The six payload bits of a continuation byte. -/
def payload (b : UInt8) : Nat := b.toNat - 0x80

/-- `utf8.DecodeRuneInString`: the first rune and its width in bytes.  Overlong forms,
surrogates and values above U+10FFFF are ill formed, and have width one. -/
def decodeRune : GoString → Rune × Nat
  | [] => (runeError, 0)
  | b0 :: rest =>
      if b0 < 0x80 then (b0.toNat, 1)
      else if inRange 0xC2 0xDF b0 then
        match rest with
        | b1 :: _ =>
            if continuation b1 then ((b0.toNat - 0xC0) * 64 + payload b1, 2) else (runeError, 1)
        | _ => (runeError, 1)
      else if inRange 0xE0 0xEF b0 then
        match rest with
        | b1 :: b2 :: _ =>
            if inRange (if b0 = 0xE0 then 0xA0 else 0x80) (if b0 = 0xED then 0x9F else 0xBF) b1 &&
                continuation b2 then
              (((b0.toNat - 0xE0) * 64 + payload b1) * 64 + payload b2, 3)
            else (runeError, 1)
        | _ => (runeError, 1)
      else if inRange 0xF0 0xF4 b0 then
        match rest with
        | b1 :: b2 :: b3 :: _ =>
            if inRange (if b0 = 0xF0 then 0x90 else 0x80) (if b0 = 0xF4 then 0x8F else 0xBF) b1 &&
                continuation b2 && continuation b3 then
              ((((b0.toNat - 0xF0) * 64 + payload b1) * 64 + payload b2) * 64 + payload b3, 4)
            else (runeError, 1)
        | _ => (runeError, 1)
      else (runeError, 1)

/-- The runes of a string, each with the bytes it was read from.  The fuel is the number
of bytes, and every rune takes at least one. -/
def piecesAux : Nat → GoString → List (Rune × GoString)
  | 0, _ => []
  | _ + 1, [] => []
  | n + 1, b :: s =>
      let (r, width) := decodeRune (b :: s)
      (r, (b :: s).take width) :: piecesAux n ((b :: s).drop width)

def pieces (s : GoString) : List (Rune × GoString) := piecesAux s.length s

/-- `utf8.AppendRune`: the encoding of a rune; surrogates and values out of range are
written as `RuneError`. -/
def encodeRune (r : Rune) : GoString :=
  if r < 0x80 then [UInt8.ofNat r]
  else if r < 0x800 then [UInt8.ofNat (0xC0 + r / 64), UInt8.ofNat (0x80 + r % 64)]
  else if (0xD800 ≤ r ∧ r ≤ 0xDFFF) ∨ 0x10FFFF < r then [0xEF, 0xBF, 0xBD]
  else if r < 0x10000 then
    [UInt8.ofNat (0xE0 + r / 4096), UInt8.ofNat (0x80 + r / 64 % 64), UInt8.ofNat (0x80 + r % 64)]
  else
    [UInt8.ofNat (0xF0 + r / 262144), UInt8.ofNat (0x80 + r / 4096 % 64),
      UInt8.ofNat (0x80 + r / 64 % 64), UInt8.ofNat (0x80 + r % 64)]

/-- `unicode.IsSpace`. -/
def isSpace (r : Rune) : Bool :=
  (0x09 ≤ r && r ≤ 0x0D) || r == 0x20 || r == 0x85 || r == 0xA0 || r == 0x1680 ||
    (0x2000 ≤ r && r ≤ 0x200A) || r == 0x2028 || r == 0x2029 || r == 0x202F || r == 0x205F ||
    r == 0x3000

/-- `utf8.ValidString`: no byte reads as an error.  U+FFFD itself takes three bytes. -/
def validString (s : GoString) : Bool :=
  (pieces s).all fun p => !(p.1 == runeError && p.2.length == 1)

/-! ## `strings` -/

/-- `strings.TrimSpace`.  An encoded space is never split by the reading from the left,
so dropping from both ends of the pieces is what Go does with `DecodeLastRune`. -/
def trimSpace (s : GoString) : GoString :=
  let spaced := (pieces s).dropWhile fun p => isSpace p.1
  ((spaced.reverse.dropWhile fun p => isSpace p.1).reverse).flatMap Prod.snd

/-- `strings.ToLower`. -/
def toLower (s : GoString) : GoString :=
  (pieces s).flatMap fun p => encodeRune (lowerRune p.1)

/-- `strings.Fields`: the parts between runs of white space. -/
def fields (s : GoString) : List GoString :=
  (((pieces s).splitOnP fun p => isSpace p.1).filter fun part => part ≠ []).map
    fun part => part.flatMap Prod.snd

/-- `strings.Contains`. -/
def contains (s substr : GoString) : Bool := decide (substr <:+: s)

/-- `strings.TrimRight(s, string(b))` for a cutset of one ASCII byte. -/
def trimRightByte (b : UInt8) (s : GoString) : GoString :=
  (s.reverse.dropWhile (· == b)).reverse

example : toLower (trimSpace (str "  TEACHER\t\n")) = str "teacher" := by decide

-- An ill-formed byte is not a space and comes out of `toLower` as U+FFFD.
example : trimSpace [0x20, 0xC2, 0x20] = [0xC2] ∧ toLower [0xC2] = [0xEF, 0xBF, 0xBD] := by decide

/-! ## Splitting at a byte -/

theorem splitOn_cons_self (b : UInt8) (s : GoString) :
    (b :: s).splitOn b = [] :: s.splitOn b := by
  rw [List.splitOn_eq_splitOnP, List.splitOnP_cons_eq_if_modifyHead, if_pos (by simp),
    ← List.splitOn_eq_splitOnP]

/-- No part of a split has the separator. -/
theorem not_mem_of_mem_splitOn {b : UInt8} {s part : GoString} (member : part ∈ s.splitOn b) :
    b ∉ part := by
  induction s generalizing part with
  | nil =>
      rw [List.splitOn_nil, List.mem_singleton] at member
      rw [member]
      exact List.not_mem_nil
  | cons x xs ih =>
      rw [List.splitOn_eq_splitOnP, List.splitOnP_cons_eq_if_modifyHead,
        ← List.splitOn_eq_splitOnP] at member
      split at member
      · rcases List.mem_cons.1 member with rfl | later
        · exact List.not_mem_nil
        · exact ih later
      · next other =>
          rcases parts : xs.splitOn b with _ | ⟨head, tail⟩
          · exact absurd parts (List.splitOn_ne_nil _ _)
          · rw [parts, List.modifyHead_cons] at member
            rw [parts] at ih
            rcases List.mem_cons.1 member with rfl | later
            · rw [List.mem_cons, not_or]
              exact ⟨fun same => other (by simp [same]), ih List.mem_cons_self⟩
            · exact ih (List.mem_cons_of_mem _ later)

/-- The separators belong to the strings before them, and the last string has none. -/
theorem intercalate_concat (b : UInt8) (es : List GoString) (u : GoString) :
    [b].intercalate (es ++ [u]) = es.flatMap (· ++ [b]) ++ u := by
  induction es with
  | nil => simp
  | cons e es ih =>
      rw [List.cons_append, List.intercalate_cons_of_ne_nil (by simp), ih, List.flatMap_cons,
        List.append_assoc _ _ u]

/-! ## Decimal text -/

/-- `%0wd` of a natural number: its decimal digits, zeros in front up to width `w`. -/
def zeroPadded (w n : Nat) : GoString :=
  let digits := Nat.digits 10 n
  (digits ++ List.replicate (w - digits.length) 0).reverse.map fun d => UInt8.ofNat (0x30 + d)

/-- `%d` of a natural number. -/
def decimal (n : Nat) : GoString := zeroPadded 1 n

/-- `%d` of an integer. -/
def decimalInt (n : Int) : GoString :=
  if n < 0 then str "-" ++ decimal n.natAbs else decimal n.natAbs

theorem digit_byte {d : Nat} (small : d < 10) : (UInt8.ofNat (0x30 + d)).toNat - 0x30 = d := by
  rw [UInt8.toNat_ofNat']
  omega

/-- The digits written can be read back, the padding included. -/
theorem zeroPadded_read (w n : Nat) :
    Nat.ofDigits 10 ((zeroPadded w n).reverse.map fun b => b.toNat - 0x30) = n := by
  have back : ∀ ds : List Nat, (∀ d ∈ ds, d < 10) →
      (ds.map fun d => UInt8.ofNat (0x30 + d)).map (fun b => b.toNat - 0x30) = ds := by
    intro ds small
    rw [List.map_map]
    conv_rhs => rw [← List.map_id ds]
    exact List.map_congr_left fun d member => digit_byte (small d member)
  have small :
      ∀ d ∈ Nat.digits 10 n ++ List.replicate (w - (Nat.digits 10 n).length) 0, d < 10 := by
    intro d member
    rcases List.mem_append.1 member with written | padded
    · exact Nat.digits_lt_base (by decide) written
    · rw [(List.mem_replicate.1 padded).2]; decide
  simp only [zeroPadded, List.map_reverse, List.reverse_reverse, back _ small]
  rw [Nat.ofDigits_append_replicate_zero, Nat.ofDigits_digits]

/-- Two numbers of any size print differently at every width. -/
theorem zeroPadded_injective (w : Nat) : Function.Injective (zeroPadded w) := by
  intro n m same
  rw [← zeroPadded_read w n, ← zeroPadded_read w m, same]

/-- Only digits are written. -/
theorem digit_of_mem_zeroPadded {w n : Nat} {b : UInt8} (member : b ∈ zeroPadded w n) :
    0x30 ≤ b ∧ b ≤ 0x39 := by
  obtain ⟨d, listed, rfl⟩ := List.mem_map.1 member
  have small : d < 10 := by
    rw [List.mem_reverse] at listed
    rcases List.mem_append.1 listed with written | padded
    · exact Nat.digits_lt_base (by decide) written
    · rw [(List.mem_replicate.1 padded).2]
      decide
  have every : ∀ d < 10, 0x30 ≤ UInt8.ofNat (0x30 + d) ∧ UInt8.ofNat (0x30 + d) ≤ 0x39 := by decide
  exact every d small

def isDigit (b : UInt8) : Bool := 0x30 ≤ b && b ≤ 0x39

/-- The number that a text of digits stands for. -/
def digitsValue (s : GoString) : Nat := Nat.ofDigits 10 (s.reverse.map fun b => b.toNat - 0x30)

theorem isDigit_of_mem_zeroPadded {w n : Nat} {b : UInt8} (member : b ∈ zeroPadded w n) :
    isDigit b = true := by
  obtain ⟨low, high⟩ := digit_of_mem_zeroPadded member
  simp [isDigit, low, high]

theorem digitsValue_zeroPadded (w n : Nat) : digitsValue (zeroPadded w n) = n :=
  zeroPadded_read w n

theorem decimal_ne_nil (n : Nat) : decimal n ≠ [] := by
  intro none_
  have length := congrArg List.length none_
  simp only [decimal, zeroPadded, List.length_map, List.length_reverse, List.length_append,
    List.length_replicate, List.length_nil] at length
  omega

example : zeroPadded 6 42 = str "000042" ∧ zeroPadded 6 1234567 = str "1234567" ∧
    decimal 0 = str "0" := by decide

end SentinelOps.Theory.GoText
