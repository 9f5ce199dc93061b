/-
# Theory.GoRunes — reading a string as runes, and what trimming keeps

`decodeRune` reads the first rune of a string.  Either the string starts with a well-formed
encoding (`Encoded`) and the rune is the encoded one, or it starts with none and the first byte
reads as `RuneError`.  `reading_induction` is induction over that reading.

The reading of a string is stable under cutting: the pieces of any run of consecutive pieces
are those pieces (`pieces_of_append`).  So `trimSpace` trims the list of pieces
(`pieces_trimSpace`).  Two strings put together read one after the other, unless an encoding that
the first one breaks off goes on in the second (`pieces_append`); that takes a continuation byte
at the seam.
-/
import SentinelOps.Theory.GoText
import Mathlib.Data.List.TakeWhile

namespace SentinelOps.Theory.GoText

set_option autoImplicit false

/-! ## One rune -/

/-- A well-formed encoding of a rune, one case for each number of bytes. -/
inductive Encoded : GoString → Rune → Prop where
  | one {b0 : UInt8} (ascii : b0 < 0x80) : Encoded [b0] b0.toNat
  | two {b0 b1 : UInt8} (lead : inRange 0xC2 0xDF b0 = true) (tail : continuation b1 = true) :
      Encoded [b0, b1] ((b0.toNat - 0xC0) * 64 + payload b1)
  | three {b0 b1 b2 : UInt8} (lead : inRange 0xE0 0xEF b0 = true)
      (tail : (inRange (if b0 = 0xE0 then 0xA0 else 0x80) (if b0 = 0xED then 0x9F else 0xBF) b1 &&
        continuation b2) = true) :
      Encoded [b0, b1, b2] (((b0.toNat - 0xE0) * 64 + payload b1) * 64 + payload b2)
  | four {b0 b1 b2 b3 : UInt8} (lead : inRange 0xF0 0xF4 b0 = true)
      (tail : (inRange (if b0 = 0xF0 then 0x90 else 0x80) (if b0 = 0xF4 then 0x8F else 0xBF) b1 &&
        continuation b2 && continuation b3) = true) :
      Encoded [b0, b1, b2, b3]
        ((((b0.toNat - 0xF0) * 64 + payload b1) * 64 + payload b2) * 64 + payload b3)

theorem decodeRune_of_encoded {e : GoString} {r : Rune} (encoded : Encoded e r) (t : GoString) :
    decodeRune (e ++ t) = (r, e.length) := by
  cases encoded with
  | one ascii => simp only [decodeRune, List.singleton_append, if_pos ascii]; rfl
  | @two b0 b1 lead tail =>
      have big : ¬ b0 < 0x80 := by grind [inRange]
      simp only [decodeRune, List.cons_append, if_neg big, if_pos lead, if_pos tail]
      rfl
  | @three b0 b1 b2 lead tail =>
      have big : ¬ b0 < 0x80 := by grind [inRange]
      have two : ¬ inRange 0xC2 0xDF b0 = true := by grind [inRange]
      simp only [decodeRune, List.cons_append, if_neg big, if_neg two, if_pos lead, if_pos tail]
      rfl
  | @four b0 b1 b2 b3 lead tail =>
      have big : ¬ b0 < 0x80 := by grind [inRange]
      have two : ¬ inRange 0xC2 0xDF b0 = true := by grind [inRange]
      have three : ¬ inRange 0xE0 0xEF b0 = true := by grind [inRange]
      simp only [decodeRune, List.cons_append, if_neg big, if_neg two, if_neg three, if_pos lead,
        if_pos tail]
      rfl

theorem decodeRune_cases (b0 : UInt8) (s : GoString) :
    (∃ e r t, Encoded e r ∧ b0 :: s = e ++ t) ∨
      decodeRune (b0 :: s) = (runeError, 1) ∧ ¬ b0 < 0x80 := by
  by_cases ascii : b0 < 0x80
  · exact .inl ⟨_, _, s, .one ascii, rfl⟩
  simp only [decodeRune, if_neg ascii]
  by_cases two : inRange 0xC2 0xDF b0 = true
  · rw [if_pos two]
    rcases s with _ | ⟨b1, s⟩
    · exact .inr ⟨rfl, ascii⟩
    · dsimp only
      by_cases tail : continuation b1 = true
      · exact .inl ⟨_, _, s, .two two tail, rfl⟩
      · exact .inr ⟨if_neg tail, ascii⟩
  rw [if_neg two]
  by_cases three : inRange 0xE0 0xEF b0 = true
  · rw [if_pos three]
    rcases s with _ | ⟨b1, _ | ⟨b2, s⟩⟩
    · exact .inr ⟨rfl, ascii⟩
    · exact .inr ⟨rfl, ascii⟩
    · by_cases tail : (inRange (if b0 = 0xE0 then 0xA0 else 0x80)
          (if b0 = 0xED then 0x9F else 0xBF) b1 && continuation b2) = true
      · exact .inl ⟨_, _, s, .three three tail, rfl⟩
      · exact .inr ⟨if_neg tail, ascii⟩
  rw [if_neg three]
  by_cases four : inRange 0xF0 0xF4 b0 = true
  · rw [if_pos four]
    rcases s with _ | ⟨b1, _ | ⟨b2, _ | ⟨b3, s⟩⟩⟩
    · exact .inr ⟨rfl, ascii⟩
    · exact .inr ⟨rfl, ascii⟩
    · exact .inr ⟨rfl, ascii⟩
    · by_cases tail : (inRange (if b0 = 0xF0 then 0x90 else 0x80)
          (if b0 = 0xF4 then 0x8F else 0xBF) b1 && continuation b2 && continuation b3) = true
      · exact .inl ⟨_, _, s, .four four tail, rfl⟩
      · exact .inr ⟨if_neg tail, ascii⟩
  · exact .inr ⟨if_neg four, ascii⟩

theorem Encoded.ne_nil {e : GoString} {r : Rune} (encoded : Encoded e r) : e ≠ [] := by
  cases encoded <;> simp

/-- No encoding starts here. -/
def IllFormed (s : GoString) : Prop := ∀ e r, Encoded e r → ¬ e <+: s

theorem IllFormed.cut {s t : GoString} (ill : IllFormed s) (short : t <+: s) : IllFormed t :=
  fun e r encoded starts => ill e r encoded (starts.trans short)

theorem illFormed_of_error {b0 : UInt8} {s : GoString}
    (error : decodeRune (b0 :: s) = (runeError, 1)) (big : ¬ b0 < 0x80) : IllFormed (b0 :: s) := by
  rintro e r encoded ⟨t, split⟩
  rw [← split, decodeRune_of_encoded encoded, Prod.mk.injEq] at error
  cases encoded with
  | one ascii =>
      cases split
      exact big ascii
  | two lead tail => simp at error
  | three lead tail => simp at error
  | four lead tail => simp at error

theorem decodeRune_of_illFormed {b0 : UInt8} {s : GoString} (ill : IllFormed (b0 :: s)) :
    decodeRune (b0 :: s) = (runeError, 1) := by
  rcases decodeRune_cases b0 s with ⟨e, r, t, encoded, split⟩ | ⟨error, -⟩
  · exact absurd ⟨t, split.symm⟩ (ill e r encoded)
  · exact error

/-- Induction over the reading of a string. -/
theorem reading_induction {motive : GoString → Prop} (nil : motive [])
    (rune : ∀ e r t, Encoded e r → motive t → motive (e ++ t))
    (error : ∀ b t, IllFormed (b :: t) → motive t → motive (b :: t)) (s : GoString) : motive s := by
  induction h : s.length using Nat.strongRecOn generalizing s with
  | ind n ih =>
      cases s with
      | nil => exact nil
      | cons b s =>
          rcases decodeRune_cases b s with ⟨e, r, t, encoded, split⟩ | ⟨failed, big⟩
          · have shorter : t.length < n := by
              have nonempty := List.length_pos_of_ne_nil encoded.ne_nil
              have total := congrArg List.length split
              rw [List.length_append] at total
              omega
            rw [split]
            exact rune e r t encoded (ih _ shorter t rfl)
          · refine error b s (illFormed_of_error failed big) (ih _ ?_ s rfl)
            rw [← h, List.length_cons]
            omega

theorem decodeRune_width_pos (b : UInt8) (s : GoString) : 1 ≤ (decodeRune (b :: s)).2 := by
  rcases decodeRune_cases b s with ⟨e, r, t, encoded, split⟩ | ⟨error, -⟩
  · rw [split, decodeRune_of_encoded encoded]
    exact List.length_pos_of_ne_nil encoded.ne_nil
  · rw [error]

/-! ## Pieces -/

theorem piecesAux_fuel {n m : Nat} {s : GoString} (enough : s.length ≤ n) (enough' : s.length ≤ m) :
    piecesAux n s = piecesAux m s := by
  induction n generalizing m s with
  | zero =>
      cases s with
      | nil => cases m <;> rfl
      | cons b s => simp at enough
  | succ n ih =>
      cases s with
      | nil => cases m <;> rfl
      | cons b s =>
          cases m with
          | zero => simp at enough'
          | succ m =>
              have width := decodeRune_width_pos b s
              have shorter : ((b :: s).drop (decodeRune (b :: s)).2).length ≤ s.length := by
                rw [List.length_drop, List.length_cons]
                omega
              rw [List.length_cons] at enough enough'
              exact congrArg (List.cons _)
                (ih (shorter.trans (by omega)) (shorter.trans (by omega)))

@[simp] theorem pieces_nil : pieces [] = [] := rfl

theorem pieces_cons (b : UInt8) (s : GoString) :
    pieces (b :: s) = ((decodeRune (b :: s)).1, (b :: s).take (decodeRune (b :: s)).2) ::
      pieces ((b :: s).drop (decodeRune (b :: s)).2) := by
  have width := decodeRune_width_pos b s
  have shorter : ((b :: s).drop (decodeRune (b :: s)).2).length ≤ s.length := by
    rw [List.length_drop, List.length_cons]
    omega
  exact congrArg (List.cons _) (piecesAux_fuel shorter le_rfl)

theorem pieces_of_encoded {e : GoString} {r : Rune} (encoded : Encoded e r) (t : GoString) :
    pieces (e ++ t) = (r, e) :: pieces t := by
  obtain ⟨b, e', rfl⟩ := List.exists_cons_of_ne_nil encoded.ne_nil
  rw [List.cons_append, pieces_cons, ← List.cons_append, decodeRune_of_encoded encoded]
  rw [List.take_left, List.drop_left]

theorem pieces_of_illFormed {b : UInt8} {s : GoString} (ill : IllFormed (b :: s)) :
    pieces (b :: s) = (runeError, [b]) :: pieces s := by
  rw [pieces_cons, decodeRune_of_illFormed ill]
  rfl

/-- The pieces are the string. -/
theorem flatMap_pieces (s : GoString) : (pieces s).flatMap Prod.snd = s := by
  induction s using reading_induction with
  | nil => rfl
  | rune e r t encoded ih => rw [pieces_of_encoded encoded, List.flatMap_cons, ih]
  | error b t ill ih => rw [pieces_of_illFormed ill, List.flatMap_cons, ih]; rfl

/-- Cut between two pieces, both parts read as before. -/
theorem pieces_of_append {s : GoString} {ps qs : List (Rune × GoString)}
    (split : pieces s = ps ++ qs) :
    pieces (ps.flatMap Prod.snd) = ps ∧ pieces (qs.flatMap Prod.snd) = qs := by
  induction s using reading_induction generalizing ps with
  | nil =>
      obtain ⟨rfl, rfl⟩ := List.append_eq_nil_iff.1 split.symm
      exact ⟨rfl, rfl⟩
  | rune e r t encoded ih =>
      cases ps with
      | nil =>
          refine ⟨rfl, ?_⟩
          rw [List.nil_append] at split
          rw [← split, flatMap_pieces]
      | cons p ps =>
          rw [pieces_of_encoded encoded, List.cons_append, List.cons.injEq] at split
          obtain ⟨rfl, split⟩ := split
          obtain ⟨first, second⟩ := ih split
          refine ⟨?_, second⟩
          rw [List.flatMap_cons, pieces_of_encoded encoded, first]
  | error b t ill ih =>
      cases ps with
      | nil =>
          refine ⟨rfl, ?_⟩
          rw [List.nil_append] at split
          rw [← split, flatMap_pieces]
      | cons p ps =>
          rw [pieces_of_illFormed ill, List.cons_append, List.cons.injEq] at split
          obtain ⟨rfl, split⟩ := split
          obtain ⟨first, second⟩ := ih split
          have shorter : b :: ps.flatMap Prod.snd <+: b :: t := by
            refine List.cons_prefix_cons.2 ⟨rfl, qs.flatMap Prod.snd, ?_⟩
            rw [← List.flatMap_append, ← split, flatMap_pieces]
          refine ⟨?_, second⟩
          rw [List.flatMap_cons, List.singleton_append, pieces_of_illFormed (ill.cut shorter),
            first]

/-! ## Trimming -/

/-- The pieces without the spaces at both ends. -/
def trimPieces (ps : List (Rune × GoString)) : List (Rune × GoString) :=
  ((ps.dropWhile fun p => isSpace p.1).reverse.dropWhile fun p => isSpace p.1).reverse

theorem pieces_trimSpace (s : GoString) : pieces (trimSpace s) = trimPieces (pieces s) := by
  have front : pieces s = ((pieces s).takeWhile fun p => isSpace p.1) ++
      (pieces s).dropWhile fun p => isSpace p.1 := List.takeWhile_append_dropWhile.symm
  have spaced := (pieces_of_append front).2
  have back : pieces (((pieces s).dropWhile fun p => isSpace p.1).flatMap Prod.snd) =
      trimPieces (pieces s) ++
        (((pieces s).dropWhile fun p => isSpace p.1).reverse.takeWhile
          fun p => isSpace p.1).reverse := by
    rw [spaced, trimPieces, ← List.reverse_append, List.takeWhile_append_dropWhile,
      List.reverse_reverse]
  exact (pieces_of_append back).1

/-- What is not a space is not trimmed. -/
theorem mem_trimPieces {ps : List (Rune × GoString)} {p : Rune × GoString} (member : p ∈ ps)
    (solid : isSpace p.1 = false) : p ∈ trimPieces ps := by
  have keep : ∀ {l : List (Rune × GoString)}, p ∈ l → p ∈ l.dropWhile fun p => isSpace p.1 := by
    intro l member
    rw [← List.takeWhile_append_dropWhile (p := fun p => isSpace p.1) (l := l),
      List.mem_append] at member
    rcases member with spaces | rest
    · have := List.mem_takeWhile_imp spaces
      rw [solid] at this
      cases this
    · exact rest
  rw [trimPieces, List.mem_reverse]
  exact keep (List.mem_reverse.2 (keep member))

/-- A byte of an encoding below 0x80 is the whole encoding. -/
theorem Encoded.eq_of_mem {e : GoString} {r : Rune} (encoded : Encoded e r) {b : UInt8}
    (member : b ∈ e) (ascii : b < 0x80) : e = [b] ∧ r = b.toNat := by
  cases encoded with
  | one _ =>
      cases List.mem_singleton.1 member
      exact ⟨rfl, rfl⟩
  | two lead tail => grind [inRange, continuation]
  | three lead tail => grind [inRange, continuation]
  | four lead tail => grind [inRange, continuation]

/-- A rune below 0x80 is encoded by one byte. -/
theorem Encoded.single_of_lt {e : GoString} {r : Nat} (encoded : Encoded e r) (small : r < 0x80) :
    ∃ b : UInt8, e = [b] ∧ b.toNat = r := by
  cases encoded with
  | one _ => exact ⟨_, rfl, rfl⟩
  | two lead tail =>
      simp [inRange, continuation, UInt8.le_iff_toNat_le] at lead tail
      unfold payload at small
      omega
  | three lead tail =>
      simp only [inRange, continuation, Bool.and_eq_true, decide_eq_true_eq,
        UInt8.le_iff_toNat_le] at lead tail
      unfold payload at small
      split_ifs at tail with e0 ed <;> simp [← UInt8.toNat_inj] at * <;> omega
  | four lead tail =>
      simp only [inRange, continuation, Bool.and_eq_true, decide_eq_true_eq,
        UInt8.le_iff_toNat_le] at lead tail
      unfold payload at small
      split_ifs at tail with f0 f4 <;> simp [← UInt8.toNat_inj] at * <;> omega

/-- Every byte below 0x80 is a piece of its own. -/
theorem mem_pieces_of_ascii {s : GoString} {b : UInt8} (member : b ∈ s) (ascii : b < 0x80) :
    (b.toNat, [b]) ∈ pieces s := by
  induction s using reading_induction with
  | nil => cases member
  | rune e r t encoded ih =>
      rw [pieces_of_encoded encoded, List.mem_cons]
      rcases List.mem_append.1 member with here | later
      · obtain ⟨rfl, rfl⟩ := encoded.eq_of_mem here ascii
        exact .inl rfl
      · exact .inr (ih later)
  | error b' t ill ih =>
      rw [pieces_of_illFormed ill, List.mem_cons]
      rcases List.mem_cons.1 member with rfl | later
      · exact absurd ⟨t, rfl⟩ (ill [b] b.toNat (.one ascii))
      · exact .inr (ih later)

/-- A string of runes below 0x80 has one byte for each of them. -/
theorem length_of_ascii {s : GoString} (ascii : ∀ p ∈ pieces s, p.1 < 0x80) :
    s.length = (pieces s).length := by
  induction s using reading_induction with
  | nil => rfl
  | rune e r t encoded ih =>
      rw [pieces_of_encoded encoded] at ascii ⊢
      obtain ⟨b, rfl, -⟩ := encoded.single_of_lt (ascii _ List.mem_cons_self)
      have rest := ih fun p member => ascii p (List.mem_cons_of_mem _ member)
      rw [List.singleton_append, List.length_cons, rest, List.length_cons]
  | error b t ill ih =>
      rw [pieces_of_illFormed ill] at ascii
      have small : runeError < 0x80 := ascii _ List.mem_cons_self
      exact absurd small (by decide)

/-! ## The seam -/

/-- The string does not start in the middle of an encoding. -/
def Starts (s : GoString) : Prop := ∀ b ∈ s.head?, continuation b = false

theorem starts_cons {b : UInt8} {s : GoString} (ascii : b < 0x80) : Starts (b :: s) := by
  intro b' first
  cases first
  grind [continuation, inRange]

/-- Behind its first byte an encoding has continuation bytes only. -/
theorem Encoded.continuation_of_mem {b : UInt8} {e : GoString} {r : Rune}
    (encoded : Encoded (b :: e) r) {b' : UInt8} (member : b' ∈ e) : continuation b' = true := by
  cases encoded with
  | one _ => cases member
  | two lead tail => grind [continuation, inRange]
  | three lead tail => grind [continuation, inRange]
  | four lead tail => grind [continuation, inRange]

theorem Encoded.starts {e : GoString} {r : Rune} (encoded : Encoded e r) (t : GoString) :
    Starts (e ++ t) := by
  intro b first
  cases encoded with
  | one _ =>
      cases first
      grind [continuation, inRange]
  | two lead tail =>
      cases first
      grind [continuation, inRange]
  | three lead tail =>
      cases first
      grind [continuation, inRange]
  | four lead tail =>
      cases first
      grind [continuation, inRange]

theorem IllFormed.append {b : UInt8} {s t : GoString} (ill : IllFormed (b :: s))
    (starts : Starts t) : IllFormed (b :: (s ++ t)) := by
  intro e r encoded short
  rw [← List.cons_append] at short
  rcases List.prefix_or_prefix_of_prefix short (List.prefix_append (b :: s) t) with inside | beyond
  · exact ill e r encoded inside
  · -- The encoding would go on with the first byte of `t`.
    obtain ⟨more, rfl⟩ := beyond
    rw [List.prefix_append_right_inj] at short
    cases more with
    | nil => exact ill _ r encoded (by rw [List.append_nil])
    | cons b' more =>
        obtain ⟨rest, rfl⟩ := short
        have goesOn : continuation b' = true := encoded.continuation_of_mem (by simp)
        have stops : continuation b' = false := starts b' rfl
        rw [goesOn] at stops
        cases stops

/-- Put together at a seam, two strings read one after the other. -/
theorem pieces_append (s : GoString) {t : GoString} (starts : Starts t) :
    pieces (s ++ t) = pieces s ++ pieces t := by
  induction s using reading_induction with
  | nil => rfl
  | rune e r s encoded ih =>
      rw [List.append_assoc, pieces_of_encoded encoded, pieces_of_encoded encoded, ih,
        List.cons_append]
  | error b s ill ih =>
      rw [List.cons_append, pieces_of_illFormed (ill.append starts), pieces_of_illFormed ill, ih,
        List.cons_append]

theorem pieces_cons_ascii {b : UInt8} (ascii : b < 0x80) (s : GoString) :
    pieces (b :: s) = (b.toNat, [b]) :: pieces s :=
  pieces_of_encoded (.one ascii) s

end SentinelOps.Theory.GoText
