/-
# Theory.GoConcat — lowering and trimming a concatenation

Lowering is a map on the pieces of a string.  It leaves the ASCII bytes that are no letters alone,
and no other rune becomes one of them (`mem_toLower_caseless`), so a text with such a byte in it
falls apart in the same places before and after it is lowered.  The ones below the small letters
are the marks.

White space around a string (`Blank`) is trimmed off whatever it surrounds
(`trimSpace_surrounded`).
-/
import SentinelOps.Theory.GoLower
import SentinelOps.Theory.Trim

namespace SentinelOps.Theory.GoText

open Trim

set_option autoImplicit false

/-! ## Marks -/

/-- Below the small letters, and not a capital. -/
def Mark (b : UInt8) : Prop := b < 0x61 ∧ ¬ (0x41 ≤ b ∧ b ≤ 0x5A)

instance (b : UInt8) : Decidable (Mark b) := inferInstanceAs (Decidable (_ ∧ _))

theorem Mark.ascii {b : UInt8} (mark : Mark b) : b < 0x80 := by grind [Mark]

/-- Below 0x80, and not a letter. -/
def Caseless (b : UInt8) : Prop :=
  b < 0x80 ∧ ¬ (0x41 ≤ b ∧ b ≤ 0x5A) ∧ ¬ (0x61 ≤ b ∧ b ≤ 0x7A)

instance (b : UInt8) : Decidable (Caseless b) := inferInstanceAs (Decidable (_ ∧ _ ∧ _))

theorem Mark.caseless {b : UInt8} (mark : Mark b) : Caseless b := by grind [Mark, Caseless]

/-- What a range of the table maps to is above the marks. -/
def CaseRange.AboveMarks : CaseRange → Prop
  | .shift lo _ delta => 0x61 ≤ (lo : Int) + delta
  | .pairs lo _ => 0x61 ≤ lo

instance (range : CaseRange) : Decidable range.AboveMarks :=
  match range with
  | .shift _ _ _ => inferInstanceAs (Decidable (_ ≤ _))
  | .pairs _ _ => inferInstanceAs (Decidable (_ ≤ _))

theorem caseRanges_aboveMarks : ∀ range ∈ caseRanges, range.AboveMarks := by decide +kernel

theorem CaseRange.AboveMarks.lower {range : CaseRange} (above : range.AboveMarks) {r : Nat}
    (covered : range.covers r = true) : 0x61 ≤ range.lower r := by
  cases range with
  | shift lo hi delta =>
      have bounds : lo ≤ r ∧ r ≤ hi := by simpa [CaseRange.covers] using covered
      show 0x61 ≤ ((r : Int) + delta).toNat
      have image : 0x61 ≤ (lo : Int) + delta := above
      lia
  | pairs lo hi =>
      have bounds : lo ≤ r ∧ r ≤ hi := by simpa [CaseRange.covers] using covered
      have image : 0x61 ≤ lo := above
      show 0x61 ≤ if (r - lo) % 2 = 0 then r + 1 else r
      split_ifs <;> lia

/-- What a range of the table maps to is below the braces, or above 0x7F. -/
def CaseRange.OffBraces : CaseRange → Prop
  | .shift lo hi delta => (hi : Int) + delta ≤ 0x7A ∨ 0x80 ≤ (lo : Int) + delta
  | .pairs lo _ => 0x80 ≤ lo

instance (range : CaseRange) : Decidable range.OffBraces :=
  match range with
  | .shift _ _ _ => inferInstanceAs (Decidable (_ ∨ _))
  | .pairs _ _ => inferInstanceAs (Decidable (_ ≤ _))

theorem caseRanges_offBraces : ∀ range ∈ caseRanges, range.OffBraces := by decide +kernel

theorem CaseRange.OffBraces.lower {range : CaseRange} (off : range.OffBraces) {r : Nat}
    (covered : range.covers r = true) : range.lower r ≤ 0x7A ∨ 0x80 ≤ range.lower r := by
  cases range with
  | shift lo hi delta =>
      have bounds : lo ≤ r ∧ r ≤ hi := by simpa [CaseRange.covers] using covered
      have image : (hi : Int) + delta ≤ 0x7A ∨ 0x80 ≤ (lo : Int) + delta := off
      show ((r : Int) + delta).toNat ≤ 0x7A ∨ 0x80 ≤ ((r : Int) + delta).toNat
      lia
  | pairs lo hi =>
      have bounds : lo ≤ r ∧ r ≤ hi := by simpa [CaseRange.covers] using covered
      have image : 0x80 ≤ lo := off
      refine .inr ?_
      show 0x80 ≤ if (r - lo) % 2 = 0 then r + 1 else r
      split_ifs <;> lia

/-- A rune is lowered to an ASCII byte that is no letter only if it is that byte. -/
theorem lowerRune_eq_caseless_iff {b : UInt8} (caseless : Caseless b) (r : Nat) :
    lowerRune r = b.toNat ↔ r = b.toNat := by
  have bounds : b.toNat < 0x80 ∧ ¬ (0x41 ≤ b.toNat ∧ b.toNat ≤ 0x5A) ∧
      ¬ (0x61 ≤ b.toNat ∧ b.toNat ≤ 0x7A) := by
    simpa [Caseless, UInt8.lt_iff_toNat_lt, UInt8.le_iff_toNat_le] using caseless
  unfold lowerRune
  by_cases ascii : r < 0x80
  · rw [if_pos ascii]
    split_ifs <;> lia
  · rw [if_neg ascii]
    cases found : caseRanges.find? (·.covers r) with
    | none => rfl
    | some range =>
        have member := List.mem_of_find?_eq_some found
        have covered : range.covers r = true := by simpa using List.find?_some found
        have above := (caseRanges_aboveMarks range member).lower covered
        have off := (caseRanges_offBraces range member).lower covered
        refine iff_of_false ?_ (by omega)
        show range.lower r ≠ b.toNat
        lia

/-- A rune is lowered to a mark only if it is that mark. -/
theorem lowerRune_eq_mark_iff {b : UInt8} (mark : Mark b) (r : Nat) :
    lowerRune r = b.toNat ↔ r = b.toNat := lowerRune_eq_caseless_iff mark.caseless r

theorem encodeRune_ascii {b : UInt8} (ascii : b < 0x80) : encodeRune b.toNat = [b] := by
  have small : b.toNat < 0x80 := by simpa [UInt8.lt_iff_toNat_lt] using ascii
  rw [encodeRune, if_pos small, UInt8.ofNat_toNat]

theorem lowerPiece_mark {b : UInt8} (mark : Mark b) (bytes : GoString) :
    lowerPiece (b.toNat, bytes) = (b.toNat, [b]) := by
  rw [lowerPiece, (lowerRune_eq_mark_iff mark b.toNat).2 rfl, encodeRune_ascii mark.ascii]

/-! ## Lowering -/

theorem toLower_append (s : GoString) {t : GoString} (starts : Starts t) :
    toLower (s ++ t) = toLower s ++ toLower t := by
  rw [toLower, pieces_append s starts, List.flatMap_append]
  rfl

theorem toLower_cons {b : UInt8} (mark : Mark b) (s : GoString) :
    toLower (b :: s) = b :: toLower s := by
  rw [toLower_eq, pieces_cons_ascii mark.ascii, List.map_cons, lowerPiece_mark mark, toLower_eq,
    List.flatMap_cons, List.singleton_append]

/-- A string of marks is lowered already. -/
theorem toLower_marks {s : GoString} (marks : ∀ b ∈ s, Mark b) : toLower s = s := by
  induction s with
  | nil => rfl
  | cons b s ih =>
      rw [toLower_cons (marks b List.mem_cons_self),
        ih fun b' member => marks b' (List.mem_cons_of_mem _ member)]

theorem pieces_eq_nil_iff (s : GoString) : pieces s = [] ↔ s = [] := by
  constructor
  · intro none_
    rw [← flatMap_pieces s, none_, List.flatMap_nil]
  · rintro rfl
    rfl

/-- A piece is an encoding, or an error. -/
theorem encoded_of_mem_pieces {s : GoString} {p : Rune × GoString} (member : p ∈ pieces s) :
    Encoded p.2 p.1 ∨ p.1 = runeError := by
  induction s using reading_induction with
  | nil => cases member
  | rune e r t encoded ih =>
      rw [pieces_of_encoded encoded, List.mem_cons] at member
      rcases member with rfl | member
      · exact .inl encoded
      · exact ih member
  | error b t ill ih =>
      rw [pieces_of_illFormed ill, List.mem_cons] at member
      rcases member with rfl | member
      · exact .inr rfl
      · exact ih member

/-- A byte below 0x80 is in a string exactly when the string has it as a rune. -/
theorem mem_iff_exists_piece {b : UInt8} (ascii : b < 0x80) (s : GoString) :
    b ∈ s ↔ ∃ p ∈ pieces s, p.1 = b.toNat := by
  have small : b.toNat < 0x80 := by simpa [UInt8.lt_iff_toNat_lt] using ascii
  constructor
  · exact fun member => ⟨_, mem_pieces_of_ascii member ascii, rfl⟩
  · rintro ⟨⟨r, bytes⟩, member, rfl⟩
    rcases encoded_of_mem_pieces member with encoded | error
    · obtain ⟨b', rfl, same⟩ := encoded.single_of_lt small
      have first : b ∈ [b'] := by
        rw [UInt8.toNat_inj.1 same]
        exact List.mem_singleton_self b
      rw [← flatMap_pieces s]
      exact List.mem_flatMap.2 ⟨_, member, first⟩
    · have large : runeError = b.toNat := error.symm
      rw [← large] at small
      exact absurd small (by decide)

/-- Lowering neither adds nor removes ASCII bytes that are no letters. -/
theorem mem_toLower_caseless {b : UInt8} (caseless : Caseless b) (s : GoString) :
    b ∈ toLower s ↔ b ∈ s := by
  rw [mem_iff_exists_piece caseless.1, mem_iff_exists_piece caseless.1, pieces_toLower]
  constructor
  · rintro ⟨p', mapped, lowered⟩
    obtain ⟨p, member, rfl⟩ := List.mem_map.1 mapped
    exact ⟨p, member, (lowerRune_eq_caseless_iff caseless p.1).1 lowered⟩
  · rintro ⟨p, member, same⟩
    exact ⟨lowerPiece p, List.mem_map_of_mem member,
      (lowerRune_eq_caseless_iff caseless p.1).2 same⟩

/-- Lowering neither adds nor removes marks. -/
theorem mem_toLower_iff {b : UInt8} (mark : Mark b) (s : GoString) : b ∈ toLower s ↔ b ∈ s :=
  mem_toLower_caseless mark.caseless s

theorem toLower_eq_nil_iff (s : GoString) : toLower s = [] ↔ s = [] := by
  rw [← pieces_eq_nil_iff, pieces_toLower, List.map_eq_nil_iff, pieces_eq_nil_iff]

/-- A string falls into one part more than it has separators. -/
theorem length_splitOn (b : UInt8) (s : GoString) : (s.splitOn b).length = s.count b + 1 := by
  induction s with
  | nil => rfl
  | cons c s ih =>
      rw [List.splitOn_cons_eq_if_modifyHead, List.count_cons]
      split
      · rw [List.length_cons, ih]
      · rw [List.length_modifyHead, ih]

theorem count_intercalate (b : UInt8) (line : GoString) (lines : List GoString) :
    ([b].intercalate (line :: lines)).count b =
      (line :: lines).flatten.count b + lines.length := by
  induction lines generalizing line with
  | nil => simp
  | cons next lines ih =>
      rw [List.intercalate_cons_cons, List.append_assoc, List.singleton_append, List.count_append,
        List.count_cons_self, ih, List.flatten_cons (l := line), List.count_append,
        List.length_cons]
      omega

/-- **Joined strings fall apart into themselves, or into more.** -/
theorem length_splitOn_intercalate {b : UInt8} {lines : List GoString} (nonempty : lines ≠ []) :
    (([b].intercalate lines).splitOn b).length = lines.length ↔ ∀ line ∈ lines, b ∉ line := by
  cases lines with
  | nil => exact absurd rfl nonempty
  | cons line lines =>
      have none_ : (line :: lines).flatten.count b = 0 ↔ ∀ l ∈ line :: lines, b ∉ l := by
        rw [List.count_eq_zero, List.mem_flatten]
        exact ⟨fun out l member inside => out ⟨l, member, inside⟩,
          fun out ⟨l, member, inside⟩ => out l member inside⟩
      rw [← none_, length_splitOn, count_intercalate, List.length_cons]
      omega

/-! ## Trimming -/

/-- Nothing but white space. -/
def Blank (s : GoString) : Prop := ∀ p ∈ pieces s, isSpace p.1 = true

instance (s : GoString) : Decidable (Blank s) := inferInstanceAs (Decidable (∀ p ∈ pieces s, _))

theorem blank_iff (s : GoString) : Blank s ↔ trimSpace s = [] := by
  rw [← pieces_eq_nil_iff, pieces_trimSpace]
  constructor
  · intro blank
    have none_ : ((pieces s).dropWhile fun p => isSpace p.1) = [] :=
      List.dropWhile_eq_nil_iff.2 blank
    rw [trimPieces_eq, none_]
    rfl
  · intro none_ p member
    by_contra solid
    have kept := mem_trimPieces member (Bool.eq_false_iff.2 solid)
    rw [none_] at kept
    cases kept

/-- White space ends no encoding in the middle. -/
theorem Blank.pieces_append {s : GoString} (blank : Blank s) (t : GoString) :
    pieces (s ++ t) = pieces s ++ pieces t := by
  induction s using reading_induction with
  | nil => rfl
  | rune e r s encoded ih =>
      rw [Blank, pieces_of_encoded encoded] at blank
      rw [List.append_assoc, pieces_of_encoded encoded, pieces_of_encoded encoded,
        ih fun p member => blank p (List.mem_cons_of_mem _ member), List.cons_append]
  | error b s ill ih =>
      rw [Blank, pieces_of_illFormed ill] at blank
      have space : isSpace runeError = true := blank _ List.mem_cons_self
      cases space

/-- White space starts no encoding in the middle. -/
theorem Blank.starts {s : GoString} (blank : Blank s) : Starts s := by
  induction s using reading_induction with
  | nil =>
      intro b first
      cases first
  | rune e r s encoded ih => exact encoded.starts s
  | error b s ill ih =>
      rw [Blank, pieces_of_illFormed ill] at blank
      have space : isSpace runeError = true := blank _ List.mem_cons_self
      cases space

/-- A mark that is not white space is in no white space. -/
theorem Blank.not_mem {s : GoString} (blank : Blank s) {b : UInt8} (ascii : b < 0x80)
    (solid : isSpace b.toNat = false) : b ∉ s := by
  intro member
  have space := blank _ (mem_pieces_of_ascii member ascii)
  rw [solid] at space
  cases space

/-- A white-space byte between two strings keeps them apart. -/
theorem blank_append_cons {b : UInt8} (ascii : b < 0x80) (space : isSpace b.toNat = true)
    (s t : GoString) : Blank (s ++ b :: t) ↔ Blank s ∧ Blank t := by
  rw [Blank, GoText.pieces_append s (starts_cons ascii), pieces_cons_ascii ascii,
    List.forall_mem_append, List.forall_mem_cons]
  exact and_congr_right fun _ => and_iff_right space

theorem blank_intercalate {b : UInt8} (ascii : b < 0x80) (space : isSpace b.toNat = true)
    (lines : List GoString) : Blank ([b].intercalate lines) ↔ ∀ line ∈ lines, Blank line := by
  induction lines with
  | nil =>
      refine iff_of_true (fun p member => ?_) (fun line member => ?_)
      · cases member
      · cases member
  | cons line lines ih =>
      cases lines with
      | nil => simp
      | cons next lines =>
          rw [List.intercalate_cons_cons, List.append_assoc, List.singleton_append,
            blank_append_cons ascii space, ih]
          exact List.forall_mem_cons.symm

theorem trimPieces_sublist (ps : List (Rune × GoString)) : (trimPieces ps).Sublist ps :=
  (List.rdropWhile_prefix _ _).sublist.trans (List.dropWhile_sublist _)

/-- Trimming takes away no byte below 0x80 but white space. -/
theorem trimSpace_sublist (s : GoString) : (trimSpace s).Sublist s := by
  have pieces := (trimPieces_sublist (pieces s)).flatMap Prod.snd
  rwa [flatMap_pieces, ← trimSpace_eq] at pieces

theorem mem_trimSpace_iff {b : UInt8} (ascii : b < 0x80) (solid : isSpace b.toNat = false)
    (s : GoString) : b ∈ trimSpace s ↔ b ∈ s := by
  rw [mem_iff_exists_piece ascii, mem_iff_exists_piece ascii, pieces_trimSpace]
  constructor
  · rintro ⟨p, member, same⟩
    exact ⟨p, (trimPieces_sublist _).subset member, same⟩
  · rintro ⟨p, member, same⟩
    exact ⟨p, mem_trimPieces member (same ▸ solid), same⟩

/-- Lowered or not, a string differs from what trimming leaves of it. -/
theorem toLower_trimSpace_eq_iff (s : GoString) :
    toLower (trimSpace s) = toLower s ↔ trimSpace s = s := by
  constructor
  · intro same
    have lengths := congrArg (fun t => (pieces t).length) same
    simp only [pieces_toLower, List.length_map, pieces_trimSpace] at lengths
    rw [trimSpace_eq, (trimPieces_sublist _).eq_of_length lengths, flatMap_pieces]
  · intro same
    rw [same]

theorem trimPieces_surrounded {before ps after : List (Rune × GoString)}
    (blank : ∀ p ∈ before, isSpace p.1 = true) (blank' : ∀ p ∈ after, isSpace p.1 = true) :
    trimPieces (before ++ ps ++ after) = trimPieces ps := trimEnds_surrounded blank blank' ps

/-- White space around a string is trimmed off. -/
theorem trimSpace_surrounded {before s after : GoString} (blank : Blank before)
    (blank' : Blank after) : trimSpace (before ++ s ++ after) = trimSpace s := by
  have read : pieces (before ++ s ++ after) = pieces before ++ pieces s ++ pieces after := by
    rw [GoText.pieces_append (before ++ s) blank'.starts, blank.pieces_append]
  rw [trimSpace_eq, read, trimPieces_surrounded blank blank', trimSpace_eq]

/-- A string is trimmed when it neither begins nor ends with white space. -/
theorem trimSpace_eq_self_iff (s : GoString) :
    trimSpace s = s ↔ Clean (fun p => isSpace p.1) (pieces s) := by
  rw [← trimEnds_eq_self_iff]
  constructor
  · intro same
    exact (pieces_trimSpace s).symm.trans (congrArg pieces same)
  · intro same
    have kept : trimPieces (pieces s) = pieces s := same
    rw [trimSpace_eq, kept, flatMap_pieces]

/-- Two trimmed strings, the first not empty, with a byte between them that is no space. -/
theorem trimSpace_append_cons {s t : GoString} {b : UInt8} (nonempty : s ≠ [])
    (trimmed : trimSpace s = s) (ascii : b < 0x80) (solid : isSpace b.toNat = false)
    (trimmed' : trimSpace t = t) : trimSpace (s ++ b :: t) = s ++ b :: t := by
  rw [trimSpace_eq_self_iff] at trimmed trimmed' ⊢
  rw [GoText.pieces_append s (starts_cons ascii), pieces_cons_ascii ascii]
  refine ⟨fun p first => ?_, fun p last => ?_⟩
  · cases shape : pieces s with
    | nil => exact absurd ((pieces_eq_nil_iff s).1 shape) nonempty
    | cons q qs =>
        rw [shape] at first trimmed
        exact trimmed.first p first
  · rw [List.getLast?_append, List.getLast?_cons] at last
    cases final : (pieces t).getLast? with
    | none =>
        have same : (b.toNat, [b]) = p := by simpa [final] using last
        rw [← same]
        exact solid
    | some q =>
        have same : q = p := by simpa [final] using last
        exact trimmed'.last p (same ▸ final)

/-- A string that starts with no space and ends in a byte that is none has nothing to trim. -/
theorem trimSpace_concat {s : GoString} {b : UInt8} (ascii : b < 0x80)
    (solid : isSpace b.toNat = false)
    (starts : ((pieces s).dropWhile fun p => isSpace p.1) = pieces s) :
    trimSpace (s ++ [b]) = s ++ [b] := by
  have read : pieces (s ++ [b]) = pieces s ++ [(b.toNat, [b])] := by
    rw [GoText.pieces_append s (starts_cons ascii), pieces_cons_ascii ascii, pieces_nil]
  have front : ((pieces s ++ [(b.toNat, [b])]).dropWhile fun p => isSpace p.1) =
      pieces s ++ [(b.toNat, [b])] := by
    rw [List.dropWhile_append, starts]
    cases pieces s with
    | nil => simp [solid]
    | cons p ps => rfl
  rw [trimSpace_eq, read, trimPieces_eq, front,
    List.rdropWhile_concat_neg _ _ _ (by simp [solid]), ← read, flatMap_pieces]

end SentinelOps.Theory.GoText
