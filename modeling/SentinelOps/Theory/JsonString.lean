/-
# Theory.JsonString — string literals of JSON texts

`GoJson.quote` is the literal that `json.Marshal` writes for a string.  `unquote` reads one, as
`json.Unmarshal` does: escapes are undone, two `\u` escapes that make a surrogate pair are one rune,
and what is no UTF-8 becomes U+FFFD.  A string is read as its coercion (`unquote_quote`).
-/
import SentinelOps.Theory.GoJson
import SentinelOps.Theory.GoLower
import SentinelOps.Theory.GoUtf8

namespace SentinelOps.Theory.JsonString

open GoText
open GoJson (hexDigit escaped quote)

set_option autoImplicit false

/-! ## Reading -/

def hexValue (b : UInt8) : Option Nat :=
  if 0x30 ≤ b ∧ b ≤ 0x39 then some (b.toNat - 0x30)
  else if 0x61 ≤ b ∧ b ≤ 0x66 then some (b.toNat - 0x57)
  else if 0x41 ≤ b ∧ b ≤ 0x46 then some (b.toNat - 0x37)
  else none

/-- The four digits of a `\u` escape. -/
def hex4 (h0 h1 h2 h3 : UInt8) : Option Nat := do
  let n0 ← hexValue h0
  let n1 ← hexValue h1
  let n2 ← hexValue h2
  let n3 ← hexValue h3
  return ((n0 * 16 + n1) * 16 + n2) * 16 + n3

/-- The byte that the letter of a short escape stands for. -/
def escapeOf (e : UInt8) : Option UInt8 :=
  if e = 0x22 ∨ e = 0x5C ∨ e = 0x2F then some e
  else if e = 0x62 then some 0x08
  else if e = 0x66 then some 0x0C
  else if e = 0x6E then some 0x0A
  else if e = 0x72 then some 0x0D
  else if e = 0x74 then some 0x09
  else none

/-- A byte, or the code unit of a `\u` escape. -/
inductive CodeUnit where
  | byte (b : UInt8)
  | code (n : Nat)
deriving DecidableEq

/-- A literal up to its closing quote; the opening one has been read. -/
def scan : GoString → Option (List CodeUnit × GoString)
  | [] => none
  | b :: s =>
      if b = 0x22 then some ([], s)
      else if b < 0x20 then none
      else if b = 0x5C then
        match s with
        | [] => none
        | e :: s =>
            if e = 0x75 then
              match s with
              | h0 :: h1 :: h2 :: h3 :: s => do
                  let n ← hex4 h0 h1 h2 h3
                  let (units, rest) ← scan s
                  return (.code n :: units, rest)
              | _ => none
            else do
              let c ← escapeOf e
              let (units, rest) ← scan s
              return (.byte c :: units, rest)
      else do
        let (units, rest) ← scan s
        return (.byte b :: units, rest)

/-- `utf16.IsSurrogate` of a first and of a second half. -/
def isPair (n m : Nat) : Bool := 0xD800 ≤ n && n < 0xDC00 && 0xDC00 ≤ m && m < 0xE000

/-- The bytes of the units; a surrogate that is not part of a pair is written as U+FFFD. -/
def meaning : List CodeUnit → GoString
  | [] => []
  | .byte b :: units => b :: meaning units
  | .code n :: .code m :: units =>
      if isPair n m then
        encodeRune (0x10000 + (n - 0xD800) * 0x400 + (m - 0xDC00)) ++ meaning units
      else encodeRune n ++ meaning (.code m :: units)
  | .code n :: units => encodeRune n ++ meaning units

def unquote (s : GoString) : Option (GoString × GoString) :=
  (scan s).map fun (units, rest) => (coerce (meaning units), rest)

/-! ## What a text spells -/

/-- In front of any other text of a literal, the text means the bytes `w`. -/
def Spells (text w : GoString) : Prop :=
  ∀ t units rest, scan t = some (units, rest) →
    ∃ units', scan (text ++ t) = some (units' ++ units, rest) ∧
      ∀ more, meaning (units' ++ more) = w ++ meaning more

theorem Spells.nil : Spells [] [] := fun _ _ _ scanned => ⟨[], scanned, fun _ => rfl⟩

theorem Spells.append {text text' w w' : GoString} (first : Spells text w)
    (second : Spells text' w') : Spells (text ++ text') (w ++ w') := by
  intro t units rest scanned
  obtain ⟨units₂, scanned₂, means₂⟩ := second t units rest scanned
  obtain ⟨units₁, scanned₁, means₁⟩ := first _ _ rest scanned₂
  refine ⟨units₁ ++ units₂, ?_, fun more => ?_⟩
  · rw [List.append_assoc, scanned₁, List.append_assoc]
  · rw [List.append_assoc, means₁, means₂, List.append_assoc]

theorem meaning_code {n : Nat} (plain : n < 0xD800 ∨ 0xDC00 ≤ n) (units : List CodeUnit) :
    meaning (.code n :: units) = encodeRune n ++ meaning units := by
  have single : ∀ m, isPair n m = false := by
    intro m
    simp only [isPair, Bool.and_eq_false_iff, decide_eq_false_iff_not]
    omega
  cases units with
  | nil => rfl
  | cons u units =>
      cases u with
      | byte b => rfl
      | code m => rw [meaning, single m]; rfl

/-- A byte that needs no escape. -/
theorem spells_byte {b : UInt8} (visible : ¬ b < 0x20) (noQuote : b ≠ 0x22) (noEscape : b ≠ 0x5C) :
    Spells [b] [b] := by
  intro t units rest scanned
  refine ⟨[.byte b], ?_, fun _ => rfl⟩
  rw [List.singleton_append, scan.eq_def]
  dsimp only
  rw [if_neg noQuote, if_neg visible, if_neg noEscape, scanned]
  rfl

theorem spells_bytes {w : GoString}
    (plain : ∀ b ∈ w, ¬ b < 0x20 ∧ b ≠ 0x22 ∧ b ≠ 0x5C) : Spells w w := by
  induction w with
  | nil => exact .nil
  | cons b w ih =>
      rw [List.forall_mem_cons] at plain
      obtain ⟨⟨visible, noQuote, noEscape⟩, others⟩ := plain
      exact (spells_byte visible noQuote noEscape).append (ih others)

theorem spells_short {e b : UInt8} (letter : escapeOf e = some b) (short : e ≠ 0x75) :
    Spells [0x5C, e] [b] := by
  intro t units rest scanned
  refine ⟨[.byte b], ?_, fun _ => rfl⟩
  rw [List.cons_append, List.singleton_append, scan.eq_def]
  simp [short, letter, scanned]

theorem spells_hex {h0 h1 h2 h3 : UInt8} {n : Nat} (digits : hex4 h0 h1 h2 h3 = some n)
    (plain : n < 0xD800 ∨ 0xDC00 ≤ n) :
    Spells [0x5C, 0x75, h0, h1, h2, h3] (encodeRune n) := by
  intro t units rest scanned
  refine ⟨[.code n], ?_, fun more => meaning_code plain more⟩
  simp only [List.cons_append, List.nil_append]
  rw [scan.eq_def]
  simp [digits, scanned]

/-! ## The literal of a string -/

/-- An ASCII character is written as it is, with a short escape, or with its number. -/
theorem escaped_ascii : ∀ n < 0x80,
    let b := UInt8.ofNat n
    escaped n [b] = [b] ∧ ¬ b < 0x20 ∧ b ≠ 0x22 ∧ b ≠ 0x5C ∨
      (∃ e ∈ escaped n [b], escaped n [b] = [0x5C, e] ∧ escapeOf e = some b ∧ e ≠ 0x75) ∨
      escaped n [b] = [0x5C, 0x75, 0x30, 0x30, hexDigit (n / 16), hexDigit (n % 16)] ∧
        hex4 0x30 0x30 (hexDigit (n / 16)) (hexDigit (n % 16)) = some n ∧ encodeRune n = [b] := by
  decide

theorem escaped_large {e : GoString} {r : Nat} (encoded : Encoded e r) (large : ¬ r < 0x80) :
    escaped r e =
      if r = 0x2028 then str "\\u2028" else if r = 0x2029 then str "\\u2029" else e := by
  unfold escaped
  rw [if_neg encoded.not_error, if_neg (by lia), if_neg (by lia), if_neg (by lia), if_neg (by lia),
    if_neg (by lia), if_neg (by lia), if_neg (by lia)]

/-- The two line separators have one encoding each. -/
theorem eq_separator {e : GoString} {r : Nat} (encoded : Encoded e r)
    (separator : r = 0x2028 ∨ r = 0x2029) : e = encodeRune r := by
  have bytes : encodeRune 0x2028 = [0xE2, 0x80, 0xA8] ∧ encodeRune 0x2029 = [0xE2, 0x80, 0xA9] := by
    decide
  cases encoded with
  | one ascii =>
      have below := UInt8.lt_iff_toNat_lt.1 ascii
      simp at below
      omega
  | two lead tail =>
      simp [inRange, continuation, UInt8.le_iff_toNat_le] at lead tail
      unfold payload at separator
      omega
  | @three b0 b1 b2 lead tail =>
      simp only [inRange, continuation, Bool.and_eq_true, decide_eq_true_eq,
        UInt8.le_iff_toNat_le] at lead tail
      have bounds : 0x80 ≤ b1.toNat ∧ b1.toNat ≤ 0xBF := by
        split_ifs at tail <;> simp at tail <;> omega
      have last : 0x80 ≤ b2.toNat ∧ b2.toNat ≤ 0xBF := by simpa using tail.2
      have first : 0xE0 ≤ b0.toNat ∧ b0.toNat ≤ 0xEF := by simpa using lead
      rcases separator with here | here
      · rw [here, bytes.1]
        unfold payload at here
        simp only [List.cons.injEq, ← UInt8.toNat_inj, UInt8.reduceToNat, and_true]
        omega
      · rw [here, bytes.2]
        unfold payload at here
        simp only [List.cons.injEq, ← UInt8.toNat_inj, UInt8.reduceToNat, and_true]
        omega
  | four lead tail =>
      simp only [inRange, continuation, Bool.and_eq_true, decide_eq_true_eq,
        UInt8.le_iff_toNat_le] at lead tail
      unfold payload at separator
      split_ifs at tail with f0 f4 <;> simp [← UInt8.toNat_inj] at * <;> omega

theorem spells_escaped {e : GoString} {r : Nat} (encoded : Encoded e r) :
    Spells (escaped r e) e := by
  by_cases small : r < 0x80
  · obtain ⟨b, rfl, rfl⟩ := encoded.single_of_lt small
    have cases_ := escaped_ascii b.toNat small
    dsimp only at cases_
    rw [UInt8.ofNat_toNat] at cases_
    rcases cases_ with ⟨same, plain⟩ | ⟨e, -, short, letter, notHex⟩ | ⟨hex, digits, encodes⟩
    · rw [same]
      exact spells_byte plain.1 plain.2.1 plain.2.2
    · rw [short]
      exact spells_short letter notHex
    · rw [hex, ← encodes]
      exact spells_hex digits (.inl (by omega))
  · rw [escaped_large encoded small]
    split
    · next separator =>
        rw [eq_separator encoded (.inl separator), separator]
        exact spells_hex (n := 0x2028) (by decide) (by decide)
    · split
      · next separator =>
          rw [eq_separator encoded (.inr separator), separator]
          exact spells_hex (n := 0x2029) (by decide) (by decide)
      · refine spells_bytes fun b member => ?_
        have large : ¬ b < 0x80 := by
          intro ascii
          have same := (encoded.eq_of_mem member ascii).2
          exact small (same ▸ UInt8.lt_iff_toNat_lt.1 ascii)
        refine ⟨fun low => large (UInt8.lt_trans low (by decide)), ?_, ?_⟩
        · rintro rfl
          exact large (by decide)
        · rintro rfl
          exact large (by decide)

theorem spells_error (b : UInt8) : Spells (escaped runeError [b]) replacement :=
  spells_hex (n := 0xFFFD) (by decide) (by decide)

theorem spells_body (s : GoString) :
    Spells ((pieces s).flatMap fun p => escaped p.1 p.2) (coerce s) := by
  induction s using reading_induction with
  | nil => exact .nil
  | rune e r t encoded ih =>
      rw [pieces_of_encoded encoded, List.flatMap_cons, coerce_of_encoded encoded]
      exact (spells_escaped encoded).append ih
  | error b t ill ih =>
      rw [pieces_of_illFormed ill, List.flatMap_cons, coerce_of_illFormed ill]
      exact (spells_error b).append ih

/-- **A string is read as its coercion to UTF-8.** -/
theorem unquote_quote (s rest : GoString) :
    ∃ literal, quote s = 0x22 :: literal ∧ unquote (literal ++ rest) = some (coerce s, rest) := by
  have closed : scan (0x22 :: rest) = some ([], rest) := by rw [scan.eq_def]; rfl
  obtain ⟨units, scanned, means⟩ := spells_body s (0x22 :: rest) [] rest closed
  have meant := means []
  rw [List.append_nil] at scanned meant
  refine ⟨((pieces s).flatMap fun p => escaped p.1 p.2) ++ [0x22], rfl, ?_⟩
  rw [List.append_assoc, List.singleton_append, unquote, scanned, Option.map_some]
  dsimp only
  rw [meant, show meaning [] = [] from rfl, List.append_nil, coerce_coerce]

end SentinelOps.Theory.JsonString
