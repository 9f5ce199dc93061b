/-
# Theory.GoLower — lowering, and how it goes together with trimming

A rune that a string reads as has an encoding (`Scalar`, `encoded_encodeRune`), and its lower
case has one too.  So the pieces of a lowered string are the lowered pieces
(`pieces_toLower`).  No range of the lower-case table touches white space, on either side
(`caseRanges_sound`), so lowering moves no rune into or out of it, and `toLower` commutes with
`trimSpace` (`trimSpace_toLower`).
-/
import SentinelOps.Theory.GoRunes
import Mathlib.Data.List.DropRight

namespace SentinelOps.Theory.GoText

set_option autoImplicit false

/-! ## Encoding -/

/-- The runes that have an encoding of their own: no surrogates, nothing above U+10FFFF. -/
def Scalar (r : Nat) : Prop := (r < 0xD800 ∨ 0xDFFF < r) ∧ r ≤ 0x10FFFF

theorem toNat_byte {n : Nat} (small : n < 256) : (UInt8.ofNat n).toNat = n := by
  rw [UInt8.toNat_ofNat']
  omega

theorem inRange_byte {lo hi : UInt8} {n : Nat} (small : n < 256) (above : lo.toNat ≤ n)
    (below : n ≤ hi.toNat) : inRange lo hi (UInt8.ofNat n) = true := by
  simp only [inRange, Bool.and_eq_true, decide_eq_true_eq, UInt8.le_iff_toNat_le, toNat_byte small]
  exact ⟨above, below⟩

theorem continuation_byte {n : Nat} (small : n < 64) :
    continuation (UInt8.ofNat (0x80 + n)) = true := by
  have low : (0x80 : UInt8).toNat = 0x80 := rfl
  have high : (0xBF : UInt8).toNat = 0xBF := rfl
  exact inRange_byte (by omega) (by omega) (by omega)

theorem payload_byte {n : Nat} (small : n < 64) : payload (UInt8.ofNat (0x80 + n)) = n := by
  unfold payload
  rw [toNat_byte (by omega)]
  exact Nat.add_sub_cancel_left ..

theorem byte_eq_iff {n : Nat} (small : n < 256) (b : UInt8) : UInt8.ofNat n = b ↔ n = b.toNat := by
  rw [← UInt8.toNat_inj, toNat_byte small]

/-- The bounds of a second byte, which keep overlong forms, surrogates and values above
U+10FFFF out: `lo` holds behind the lead byte `first`, `hi` behind `last`. -/
theorem secondByte {lead n : Nat} {first last lo hi : UInt8} (small : lead < 256) (six : n < 64)
    (above : lead = first.toNat → lo.toNat ≤ 0x80 + n)
    (below : lead = last.toNat → 0x80 + n ≤ hi.toNat) :
    inRange (if UInt8.ofNat lead = first then lo else 0x80)
      (if UInt8.ofNat lead = last then hi else 0xBF) (UInt8.ofNat (0x80 + n)) = true := by
  have low : (0x80 : UInt8).toNat = 0x80 := rfl
  have high : (0xBF : UInt8).toNat = 0xBF := rfl
  simp only [byte_eq_iff small]
  apply inRange_byte (by omega)
  · split
    · exact above ‹_›
    · omega
  · split
    · exact below ‹_›
    · omega

theorem encoded_three {r : Nat} (noSurrogate : r < 0xD800 ∨ 0xDFFF < r) (large : 0x800 ≤ r)
    (small : r < 0x10000) :
    Encoded [UInt8.ofNat (0xE0 + r / 4096), UInt8.ofNat (0x80 + r / 64 % 64),
      UInt8.ofNat (0x80 + r % 64)] r := by
  have lead : inRange 0xE0 0xEF (UInt8.ofNat (0xE0 + r / 4096)) = true :=
    inRange_byte (by omega) (by simp) (by simp; omega)
  have second : inRange (if UInt8.ofNat (0xE0 + r / 4096) = 0xE0 then 0xA0 else 0x80)
      (if UInt8.ofNat (0xE0 + r / 4096) = 0xED then 0x9F else 0xBF)
      (UInt8.ofNat (0x80 + r / 64 % 64)) = true :=
    secondByte (by omega) (by omega) (by simp; omega) (by simp; omega)
  have encoded := Encoded.three lead
    (Bool.and_eq_true_iff.2 ⟨second, continuation_byte (n := r % 64) (by omega)⟩)
  rw [toNat_byte (by omega), payload_byte (by omega), payload_byte (by omega)] at encoded
  rwa [show ((0xE0 + r / 4096 - 0xE0) * 64 + r / 64 % 64) * 64 + r % 64 = r by omega] at encoded

theorem encoded_four {r : Nat} (large : 0x10000 ≤ r) (inside : r ≤ 0x10FFFF) :
    Encoded [UInt8.ofNat (0xF0 + r / 262144), UInt8.ofNat (0x80 + r / 4096 % 64),
      UInt8.ofNat (0x80 + r / 64 % 64), UInt8.ofNat (0x80 + r % 64)] r := by
  have lead : inRange 0xF0 0xF4 (UInt8.ofNat (0xF0 + r / 262144)) = true :=
    inRange_byte (by omega) (by simp) (by simp; omega)
  have second : inRange (if UInt8.ofNat (0xF0 + r / 262144) = 0xF0 then 0x90 else 0x80)
      (if UInt8.ofNat (0xF0 + r / 262144) = 0xF4 then 0x8F else 0xBF)
      (UInt8.ofNat (0x80 + r / 4096 % 64)) = true :=
    secondByte (by omega) (by omega) (by simp; omega) (by simp; omega)
  have encoded := Encoded.four lead (Bool.and_eq_true_iff.2 ⟨Bool.and_eq_true_iff.2 ⟨second,
    continuation_byte (n := r / 64 % 64) (by omega)⟩, continuation_byte (n := r % 64) (by omega)⟩)
  rw [toNat_byte (by omega), payload_byte (by omega), payload_byte (by omega),
    payload_byte (by omega)] at encoded
  have digits : (((0xF0 + r / 262144 - 0xF0) * 64 + r / 4096 % 64) * 64 + r / 64 % 64) * 64 +
      r % 64 = r := by omega
  rwa [digits] at encoded

theorem encoded_encodeRune {r : Nat} (scalar : Scalar r) : Encoded (encodeRune r) r := by
  obtain ⟨noSurrogate, inside⟩ := scalar
  unfold encodeRune
  by_cases one : r < 0x80
  · rw [if_pos one]
    have ascii : UInt8.ofNat r < 0x80 := by
      rw [UInt8.lt_iff_toNat_lt, toNat_byte (by omega)]
      exact one
    have encoded := Encoded.one ascii
    rwa [toNat_byte (by omega)] at encoded
  rw [if_neg one]
  by_cases two : r < 0x800
  · rw [if_pos two]
    have lead : inRange 0xC2 0xDF (UInt8.ofNat (0xC0 + r / 64)) = true :=
      inRange_byte (by omega) (by simp; omega) (by simp; omega)
    have encoded := Encoded.two lead (continuation_byte (n := r % 64) (by omega))
    rw [toNat_byte (by omega), payload_byte (by omega)] at encoded
    rwa [show (0xC0 + r / 64 - 0xC0) * 64 + r % 64 = r by omega] at encoded
  have encodable : ¬ ((0xD800 ≤ r ∧ r ≤ 0xDFFF) ∨ 0x10FFFF < r) := by omega
  rw [if_neg two, if_neg encodable]
  by_cases three : r < 0x10000
  · rw [if_pos three]
    exact encoded_three noSurrogate (by omega) three
  · rw [if_neg three]
    exact encoded_four (by omega) inside

theorem Encoded.scalar {e : GoString} {r : Nat} (encoded : Encoded e r) : Scalar r := by
  cases encoded with
  | one ascii =>
      have below := UInt8.lt_iff_toNat_lt.1 ascii
      simp at below
      unfold Scalar
      omega
  | two lead tail =>
      simp [inRange, continuation, UInt8.le_iff_toNat_le] at lead tail
      unfold Scalar payload
      omega
  | three lead tail =>
      simp only [inRange, continuation, Bool.and_eq_true, decide_eq_true_eq,
        UInt8.le_iff_toNat_le] at lead tail
      unfold Scalar payload
      -- The surrogates start with the lead byte 0xED, which bounds the second byte.
      split_ifs at tail with e0 ed <;> simp [← UInt8.toNat_inj] at * <;> omega
  | four lead tail =>
      simp only [inRange, continuation, Bool.and_eq_true, decide_eq_true_eq,
        UInt8.le_iff_toNat_le] at lead tail
      unfold Scalar payload
      split_ifs at tail with f0 f4 <;> simp [← UInt8.toNat_inj] at * <;> omega

/-! ## Lowering -/

/-- The white space above and below ASCII, and the surrogates, as ranges. -/
def barred : List (Nat × Nat) :=
  [(0x09, 0x0D), (0x20, 0x20), (0x85, 0x85), (0xA0, 0xA0), (0x1680, 0x1680), (0x2000, 0x200A),
    (0x2028, 0x2029), (0x202F, 0x202F), (0x205F, 0x205F), (0x3000, 0x3000), (0xD800, 0xDFFF)]

theorem isSpace_iff (r : Nat) : isSpace r = true ↔ ∃ p ∈ barred.dropLast, p.1 ≤ r ∧ r ≤ p.2 := by
  have listed : isSpace r = true ↔ (0x09 ≤ r ∧ r ≤ 0x0D) ∨ r = 0x20 ∨ r = 0x85 ∨ r = 0xA0 ∨
      r = 0x1680 ∨ (0x2000 ≤ r ∧ r ≤ 0x200A) ∨ r = 0x2028 ∨ r = 0x2029 ∨ r = 0x202F ∨
      r = 0x205F ∨ r = 0x3000 := by
    simp only [isSpace, Bool.or_eq_true, Bool.and_eq_true, decide_eq_true_eq, beq_iff_eq, or_assoc]
  rw [listed]
  simp only [barred, List.dropLast, List.mem_cons, List.not_mem_nil, or_false, exists_eq_or_imp,
    exists_eq_left]
  omega

/-- Neither white space nor a surrogate lies between the two bounds. -/
def Solid (lo hi : Nat) : Prop := hi ≤ 0x10FFFF ∧ ∀ p ∈ barred, hi < p.1 ∨ p.2 < lo

instance (lo hi : Nat) : Decidable (Solid lo hi) := inferInstanceAs (Decidable (_ ∧ _))

theorem Solid.rune {lo hi r : Nat} (solid : Solid lo hi) (above : lo ≤ r) (below : r ≤ hi) :
    Scalar r ∧ isSpace r = false := by
  obtain ⟨inside, clear⟩ := solid
  have surrogates := clear (0xD800, 0xDFFF) (by simp [barred])
  refine ⟨⟨by omega, by omega⟩, ?_⟩
  rw [Bool.eq_false_iff, ne_eq, isSpace_iff]
  rintro ⟨p, member, above', below'⟩
  have apart := clear p (List.mem_of_mem_dropLast member)
  omega

/-- What a range of the table covers is solid, and so is what it maps to. -/
def CaseRange.Sound : CaseRange → Prop
  | .shift lo hi delta =>
      Solid lo hi ∧ 0 ≤ (lo : Int) + delta ∧
        Solid ((lo : Int) + delta).toNat ((hi : Int) + delta).toNat
  | .pairs lo hi => Solid lo (hi + 1)

instance (range : CaseRange) : Decidable range.Sound :=
  match range with
  | .shift _ _ _ => inferInstanceAs (Decidable (_ ∧ _))
  | .pairs _ _ => inferInstanceAs (Decidable (Solid _ _))

theorem caseRanges_sound : ∀ range ∈ caseRanges, range.Sound := by decide +kernel

theorem CaseRange.Sound.lower {range : CaseRange} (sound : range.Sound) {r : Nat}
    (covered : range.covers r = true) :
    isSpace r = false ∧ Scalar (range.lower r) ∧ isSpace (range.lower r) = false := by
  cases range with
  | shift lo hi delta =>
      obtain ⟨solid, positive, image⟩ := sound
      have bounds : lo ≤ r ∧ r ≤ hi := by simpa [CaseRange.covers] using covered
      have above : ((lo : Int) + delta).toNat ≤ ((r : Int) + delta).toNat := by lia
      have below : ((r : Int) + delta).toNat ≤ ((hi : Int) + delta).toNat := by lia
      exact ⟨(solid.rune bounds.1 bounds.2).2, image.rune above below⟩
  | pairs lo hi =>
      have bounds : lo ≤ r ∧ r ≤ hi := by simpa [CaseRange.covers] using covered
      refine ⟨(sound.rune bounds.1 (by lia)).2, sound.rune ?_ ?_⟩
      · show lo ≤ if (r - lo) % 2 = 0 then r + 1 else r
        split_ifs <;> lia
      · show (if (r - lo) % 2 = 0 then r + 1 else r) ≤ hi + 1
        split_ifs <;> lia

/-- Lowering keeps runes runes, and moves none into or out of white space. -/
theorem lowerRune_spec {r : Nat} (scalar : Scalar r) :
    Scalar (lowerRune r) ∧ isSpace (lowerRune r) = isSpace r := by
  unfold lowerRune
  by_cases ascii : r < 0x80
  · rw [if_pos ascii]
    by_cases capital : 0x41 ≤ r ∧ r ≤ 0x5A
    · have letters : Solid 0x41 0x7A := by decide
      rw [if_pos capital]
      obtain ⟨encodable, notSpace⟩ :=
        letters.rune (r := r + 0x20) (by omega) (by omega)
      rw [notSpace, (letters.rune (r := r) (by omega) (by omega)).2]
      exact ⟨encodable, rfl⟩
    · rw [if_neg capital]
      exact ⟨scalar, rfl⟩
  · rw [if_neg ascii]
    cases found : caseRanges.find? (·.covers r) with
    | none => exact ⟨scalar, rfl⟩
    | some range =>
        have covered : range.covers r = true := by simpa using List.find?_some found
        obtain ⟨before, encodable, after⟩ :=
          (caseRanges_sound range (List.mem_of_find?_eq_some found)).lower covered
        exact ⟨encodable, after.trans before.symm⟩

/-- The piece a rune is written as when it is lowered. -/
def lowerPiece (p : Rune × GoString) : Rune × GoString :=
  (lowerRune p.1, encodeRune (lowerRune p.1))

theorem scalar_runeError : Scalar runeError := by
  unfold Scalar runeError
  omega

/-- The runes a string reads as have an encoding. -/
theorem scalar_of_mem_pieces {s : GoString} {p : Rune × GoString} (member : p ∈ pieces s) :
    Scalar p.1 := by
  induction s using reading_induction with
  | nil => cases member
  | rune e r t encoded ih =>
      rw [pieces_of_encoded encoded, List.mem_cons] at member
      rcases member with rfl | member
      · exact encoded.scalar
      · exact ih member
  | error b t ill ih =>
      rw [pieces_of_illFormed ill, List.mem_cons] at member
      rcases member with rfl | member
      · exact scalar_runeError
      · exact ih member

theorem toLower_eq (s : GoString) : toLower s = ((pieces s).map lowerPiece).flatMap Prod.snd := by
  rw [List.flatMap_map]
  rfl

theorem pieces_flatMap_lowerPiece {ps : List (Rune × GoString)} (scalar : ∀ p ∈ ps, Scalar p.1) :
    pieces ((ps.map lowerPiece).flatMap Prod.snd) = ps.map lowerPiece := by
  induction ps with
  | nil => rfl
  | cons p ps ih =>
      have encoded : Encoded (lowerPiece p).2 (lowerPiece p).1 :=
        encoded_encodeRune (lowerRune_spec (scalar p List.mem_cons_self)).1
      rw [List.map_cons, List.flatMap_cons, pieces_of_encoded encoded,
        ih fun q member => scalar q (List.mem_cons_of_mem _ member)]

theorem pieces_toLower (s : GoString) : pieces (toLower s) = (pieces s).map lowerPiece := by
  rw [toLower_eq]
  exact pieces_flatMap_lowerPiece fun p member => scalar_of_mem_pieces member

/-! ## Trimming and lowering -/

theorem trimSpace_eq (s : GoString) : trimSpace s = (trimPieces (pieces s)).flatMap Prod.snd := rfl

theorem dropWhile_map_lowerPiece {ps : List (Rune × GoString)} (scalar : ∀ p ∈ ps, Scalar p.1) :
    ((ps.map lowerPiece).dropWhile fun p => isSpace p.1) =
      (ps.dropWhile fun p => isSpace p.1).map lowerPiece := by
  induction ps with
  | nil => rfl
  | cons p ps ih =>
      have same : isSpace (lowerPiece p).1 = isSpace p.1 :=
        (lowerRune_spec (scalar p List.mem_cons_self)).2
      rw [List.map_cons, List.dropWhile_cons, List.dropWhile_cons, same]
      cases isSpace p.1 with
      | true => exact ih fun q member => scalar q (List.mem_cons_of_mem _ member)
      | false => rfl

theorem trimPieces_map_lowerPiece {ps : List (Rune × GoString)} (scalar : ∀ p ∈ ps, Scalar p.1) :
    trimPieces (ps.map lowerPiece) = (trimPieces ps).map lowerPiece := by
  have rest : ∀ p ∈ (ps.dropWhile fun p => isSpace p.1).reverse, Scalar p.1 := fun p member =>
    scalar p ((List.dropWhile_sublist _).subset (List.mem_reverse.1 member))
  unfold trimPieces
  rw [dropWhile_map_lowerPiece scalar, ← List.map_reverse, dropWhile_map_lowerPiece rest,
    ← List.map_reverse]

/-- Trimming and lowering commute. -/
theorem trimSpace_toLower (s : GoString) : trimSpace (toLower s) = toLower (trimSpace s) := by
  rw [trimSpace_eq, pieces_toLower, trimPieces_map_lowerPiece fun p => scalar_of_mem_pieces,
    toLower_eq, pieces_trimSpace]

theorem trimPieces_eq (ps : List (Rune × GoString)) :
    trimPieces ps = (ps.dropWhile fun p => isSpace p.1).rdropWhile fun p => isSpace p.1 := rfl

/-- What trimming leaves does not start with a space. -/
theorem dropWhile_trimPieces (ps : List (Rune × GoString)) :
    ((trimPieces ps).dropWhile fun p => isSpace p.1) = trimPieces ps := by
  rw [List.dropWhile_eq_self_iff]
  intro nonempty
  have short : trimPieces ps <+: ps.dropWhile fun p => isSpace p.1 := List.rdropWhile_prefix _ _
  have head := List.dropWhile_get_zero_not (fun p : Rune × GoString => isSpace p.1) ps
    (nonempty.trans_le short.length_le)
  rw [short.getElem nonempty]
  exact head

theorem trimPieces_trimPieces (ps : List (Rune × GoString)) :
    trimPieces (trimPieces ps) = trimPieces ps := by
  rw [trimPieces_eq (trimPieces ps), dropWhile_trimPieces, trimPieces_eq ps]
  exact List.rdropWhile_idempotent _ _

theorem trimPieces_concat (ps : List (Rune × GoString)) {p : Rune × GoString}
    (space : isSpace p.1 = true) : trimPieces (ps ++ [p]) = trimPieces ps := by
  rw [trimPieces_eq, trimPieces_eq, List.dropWhile_append]
  cases solid : ps.dropWhile fun p => isSpace p.1 with
  | nil => simp [space]
  | cons q qs => exact List.rdropWhile_concat_pos _ _ _ space

/-- A first piece that is not a space stays in front. -/
theorem trimPieces_cons {p : Rune × GoString} (ps : List (Rune × GoString))
    (solid : isSpace p.1 = false) : ∃ rest, trimPieces (p :: ps) = p :: rest := by
  have short : trimPieces (p :: ps) <+: p :: ps := by
    have front : ((p :: ps).dropWhile fun q => isSpace q.1) = p :: ps := by simp [solid]
    rw [trimPieces_eq, front]
    exact List.rdropWhile_prefix _ _
  have kept : p ∈ trimPieces (p :: ps) := mem_trimPieces List.mem_cons_self solid
  obtain ⟨q, rest, same⟩ := List.exists_cons_of_ne_nil (List.ne_nil_of_mem kept)
  rw [same, List.cons_prefix_cons] at short
  exact ⟨rest, by rw [same, short.1]⟩

@[simp] theorem trimSpace_trimSpace (s : GoString) : trimSpace (trimSpace s) = trimSpace s := by
  rw [trimSpace_eq, pieces_trimSpace, trimPieces_trimPieces, trimSpace_eq]

/-- The line terminator is trimmed off. -/
theorem trimSpace_concat_newline (s : GoString) : trimSpace (s ++ [0x0A]) = trimSpace s := by
  have last : pieces [0x0A] = [(0x0A, [0x0A])] := pieces_cons_ascii (by decide) []
  rw [trimSpace_eq, pieces_append s (starts_cons (by decide)), last,
    trimPieces_concat _ (by decide), trimSpace_eq]

/-! ## Words -/

/-- The parts between runs of white space, as pieces. -/
def words (ps : List (Rune × GoString)) : List (List (Rune × GoString)) :=
  (ps.splitOnP fun p => isSpace p.1).filter fun part => part ≠ []

theorem words_append_cons (ps qs : List (Rune × GoString)) {p : Rune × GoString}
    (space : isSpace p.1 = true) : words (ps ++ p :: qs) = words ps ++ words qs := by
  unfold words
  rw [List.splitOnP_append_cons ps qs space, List.filter_append]

theorem words_dropWhile (ps : List (Rune × GoString)) :
    words (ps.dropWhile fun p => isSpace p.1) = words ps := by
  induction ps with
  | nil => rfl
  | cons p ps ih =>
      rw [List.dropWhile_cons]
      split
      · next space => exact ih.trans (words_append_cons [] ps space).symm
      · rfl

theorem words_rdropWhile (ps : List (Rune × GoString)) :
    words (ps.rdropWhile fun p => isSpace p.1) = words ps := by
  induction ps using List.reverseRecOn with
  | nil => rfl
  | append_singleton ps p ih =>
      rw [List.rdropWhile_concat]
      split
      · next space =>
          rw [ih, words_append_cons ps [] space]
          exact (List.append_nil _).symm
      · rfl

/-- White space at the ends is between no two words. -/
theorem fields_trimSpace (s : GoString) : fields (trimSpace s) = fields s := by
  have same : words (pieces (trimSpace s)) = words (pieces s) := by
    rw [pieces_trimSpace, trimPieces_eq, words_rdropWhile, words_dropWhile]
  exact congrArg (List.map fun part => part.flatMap Prod.snd) same

end SentinelOps.Theory.GoText
