/-
# Theory.ConnOptions — connection strings as bytes and as runes

A driver reads a connection string character by character, and a character is a byte for one and
a rune for another.  What both need to know of a string is a `Reading`: ASCII bytes are characters
of their own wherever they stand, and what was read can be written and read again.  An option then
arrives exactly when its value is bare and is written as it was read (`parseOpts_iff`).
-/
import SentinelOps.Theory.ConnInfo
import SentinelOps.Theory.GoConcat
import SentinelOps.Theory.GoMap

namespace SentinelOps.Theory.ConnInfo

open GoText

set_option autoImplicit false

/-! ## Readings -/

/-- What an ASCII character is to the grammar. -/
def asciiSign (b : UInt8) : Sign :=
  if (0x09 ≤ b ∧ b ≤ 0x0D) ∨ b = 0x20 then .blank
  else if b = 0x3D then .equals
  else if b = 0x27 then .quote
  else if b = 0x5C then .escape
  else .plain

/-- The characters of strings. -/
structure Reading (C : Type) where
  kind : C → Sign
  ofByte : UInt8 → C
  read : GoString → List C
  write : List C → GoString
  kind_ofByte : ∀ b < 0x80, kind (ofByte b) = asciiSign b
  read_nil : read [] = []
  read_append_cons : ∀ s, ∀ b < 0x80, ∀ t, read (s ++ b :: t) = read s ++ ofByte b :: read t
  read_write : ∀ s w, w ⊆ read s → read (write w) = w
  write_ascii : ∀ s : GoString, (∀ b ∈ s, b < 0x80) → write (s.map ofByte) = s

/-- libpq reads bytes. -/
def bytes : Reading UInt8 where
  kind := asciiSign
  ofByte := id
  read := id
  write := id
  kind_ofByte _ _ := rfl
  read_nil := rfl
  read_append_cons _ _ _ _ := rfl
  read_write _ _ _ := rfl
  write_ascii s _ := List.map_id s

def runeSign (r : Rune) : Sign :=
  if isSpace r then .blank
  else if r = 0x3D then .equals
  else if r = 0x27 then .quote
  else if r = 0x5C then .escape
  else .plain

theorem isSpace_ascii : ∀ n < 0x80, isSpace n = true ↔ (0x09 ≤ n ∧ n ≤ 0x0D) ∨ n = 0x20 := by
  decide

theorem runeSign_ascii (b : UInt8) (ascii : b < 0x80) : runeSign b.toNat = asciiSign b := by
  have same : ∀ b' : UInt8, b.toNat = b'.toNat ↔ b = b' := fun b' => UInt8.toNat_inj
  have space : isSpace b.toNat = true ↔ (0x09 ≤ b ∧ b ≤ 0x0D) ∨ b = 0x20 := by
    rw [isSpace_ascii b.toNat (UInt8.lt_iff_toNat_lt.1 ascii), ← same, UInt8.le_iff_toNat_le,
      UInt8.le_iff_toNat_le]
    rfl
  rw [runeSign, asciiSign, if_congr space rfl rfl]
  exact if_congr Iff.rfl rfl (if_congr (same 0x3D) rfl (if_congr (same 0x27) rfl
    (if_congr (same 0x5C) rfl rfl)))

theorem runes_append_cons (s : GoString) (b : UInt8) (ascii : b < 0x80) (t : GoString) :
    (pieces (s ++ b :: t)).map Prod.fst =
      (pieces s).map Prod.fst ++ b.toNat :: (pieces t).map Prod.fst := by
  rw [pieces_append s (starts_cons ascii), pieces_cons_ascii ascii, List.map_append, List.map_cons]

theorem runes_write (s : GoString) (w : List Rune) (inside : w ⊆ (pieces s).map Prod.fst) :
    (pieces (w.flatMap encodeRune)).map Prod.fst = w := by
  induction w with
  | nil => rfl
  | cons r w ih =>
      obtain ⟨member, others⟩ := List.cons_subset.1 inside
      obtain ⟨p, found, rfl⟩ := List.mem_map.1 member
      rw [List.flatMap_cons, pieces_of_encoded (encoded_encodeRune (scalar_of_mem_pieces found)),
        List.map_cons, ih others]

theorem write_runes_ascii (s : GoString) (ascii : ∀ b ∈ s, b < 0x80) :
    (s.map UInt8.toNat).flatMap encodeRune = s := by
  induction s with
  | nil => rfl
  | cons b s ih =>
      rw [List.forall_mem_cons] at ascii
      rw [List.map_cons, List.flatMap_cons, encodeRune_ascii ascii.1, ih ascii.2,
        List.singleton_append]

/-- `lib/pq` reads runes: `[]rune(s)` and `string(runes)`. -/
def runes : Reading Rune where
  kind := runeSign
  ofByte := UInt8.toNat
  read s := (pieces s).map Prod.fst
  write w := w.flatMap encodeRune
  kind_ofByte := runeSign_ascii
  read_nil := rfl
  read_append_cons := runes_append_cons
  read_write := runes_write
  write_ascii := write_runes_ascii

/-! ## Options -/

/-- The options a text sets: the last one of a key counts. -/
def table (options : List (GoString × GoString)) : GoMap GoString GoString :=
  options.foldl (fun m p => m.set p.1 p.2) ∅

namespace Reading

variable {C : Type} (R : Reading C)

/-- `parseOpts` of `lib/pq`, without the texts of its errors. -/
def parseOpts (text : GoString) : Option (GoMap GoString GoString) :=
  (parse R.kind (R.read text)).map fun options =>
    table (options.map fun p => (R.write p.1, R.write p.2))

def readOption (p : GoString × GoString) : List C × List C := (R.read p.1, R.read p.2)

/-- A value that arrives. -/
structure Carries (v : GoString) : Prop where
  bare : Bare R.kind (R.read v)
  rewritten : R.write (R.read v) = v

end Reading

/-- A key: ASCII without blanks and `=`. -/
def Key (key : GoString) : Prop :=
  ∀ b ∈ key, b < 0x80 ∧ asciiSign b ≠ .blank ∧ asciiSign b ≠ .equals

theorem mem_of_get_foldl {options : List (GoString × GoString)} {m : GoMap GoString GoString}
    {k v : GoString} (found : (options.foldl (fun m p => m.set p.1 p.2) m).get k = some v) :
    (k, v) ∈ options ∨ m.get k = some v := by
  induction options generalizing m with
  | nil => exact .inr found
  | cons p options ih =>
      rcases ih found with later | here
      · exact .inl (List.mem_cons_of_mem _ later)
      · rw [GoMap.get_set] at here
        split at here
        · next same =>
            refine .inl (List.mem_cons.2 (.inl ?_))
            rw [same, ← Option.some.inj here]
        · exact .inr here

theorem mem_of_get_table {options : List (GoString × GoString)} {k v : GoString}
    (found : (table options).get k = some v) : (k, v) ∈ options := by
  rcases mem_of_get_foldl found with member | empty
  · exact member
  · cases empty

theorem get_foldl_of_notMem {options : List (GoString × GoString)} {k : GoString}
    (absent : k ∉ options.map Prod.fst) (m : GoMap GoString GoString) :
    (options.foldl (fun m p => m.set p.1 p.2) m).get k = m.get k := by
  induction options generalizing m with
  | nil => rfl
  | cons p options ih =>
      rw [List.map_cons, List.mem_cons, not_or] at absent
      rw [List.foldl_cons, ih absent.2, GoMap.get_set, if_neg absent.1]

theorem get_foldl_of_mem {options : List (GoString × GoString)}
    (distinct : (options.map Prod.fst).Nodup) {k v : GoString} (member : (k, v) ∈ options)
    (m : GoMap GoString GoString) :
    (options.foldl (fun m p => m.set p.1 p.2) m).get k = some v := by
  induction options generalizing m with
  | nil => cases member
  | cons p options ih =>
      rw [List.map_cons, List.nodup_cons] at distinct
      rw [List.foldl_cons]
      rcases List.mem_cons.1 member with rfl | later
      · rw [get_foldl_of_notMem distinct.1, GoMap.get_set, if_pos rfl]
      · exact ih distinct.2 later _

section Written

variable {C : Type} {R : Reading C}

theorem read_cons {b : UInt8} (ascii : b < 0x80) (s : GoString) :
    R.read (b :: s) = R.ofByte b :: R.read s := by
  have seam := R.read_append_cons [] b ascii s
  rwa [List.nil_append, R.read_nil, List.nil_append] at seam

theorem read_ascii {s : GoString} (ascii : ∀ b ∈ s, b < 0x80) : R.read s = s.map R.ofByte := by
  induction s with
  | nil => exact R.read_nil
  | cons b s ih =>
      rw [List.forall_mem_cons] at ascii
      rw [read_cons ascii.1, ih ascii.2, List.map_cons]

theorem read_written (options : List (GoString × GoString)) :
    R.read (written 0x20 0x3D options) =
      written (R.ofByte 0x20) (R.ofByte 0x3D) (options.map R.readOption) := by
  induction options with
  | nil => exact R.read_nil
  | cons p options ih =>
      have seam : R.read (p.2 ++ written 0x20 0x3D options) =
          R.read p.2 ++ R.read (written 0x20 0x3D options) := by
        cases options with
        | nil =>
            rw [show written (0x20 : UInt8) 0x3D [] = [] from rfl, R.read_nil, List.append_nil,
              List.append_nil]
        | cons q options =>
            rw [written_cons, R.read_append_cons _ _ (by decide), read_cons (by decide)]
      rw [written_cons, read_cons (by decide), R.read_append_cons _ _ (by decide), seam, ih,
        List.map_cons, written_cons]
      rfl

theorem name_read {key : GoString} (ok : Key key) : Name R.kind (R.read key) := by
  rw [read_ascii fun b member => (ok b member).1]
  intro c member
  obtain ⟨b, inside, rfl⟩ := List.mem_map.1 member
  obtain ⟨ascii, signs⟩ := ok b inside
  rw [isKey, R.kind_ofByte b ascii]
  exact decide_eq_true signs

theorem write_read_key {key : GoString} (ok : Key key) : R.write (R.read key) = key := by
  rw [read_ascii fun b member => (ok b member).1]
  exact R.write_ascii key fun b member => (ok b member).1

theorem carries_of_plain {v : GoString} (plain : ∀ b ∈ v, b < 0x80 ∧ asciiSign b = .plain) :
    R.Carries v := by
  have ascii : ∀ b ∈ v, b < 0x80 := fun b member => (plain b member).1
  have signs : ∀ c ∈ R.read v, R.kind c = .plain := by
    rw [read_ascii ascii]
    intro c member
    obtain ⟨b, inside, rfl⟩ := List.mem_map.1 member
    rw [R.kind_ofByte b (plain b inside).1, (plain b inside).2]
  refine ⟨⟨?_, ?_, ?_⟩, ?_⟩
  · intro c member
    rw [signs c member]
    decide
  · intro c member
    rw [signs c member]
    decide
  · intro c first
    rw [signs c (List.mem_of_mem_head? first)]
    decide
  · rw [read_ascii ascii, R.write_ascii v ascii]

theorem read_eq_nil_iff {v : GoString} (rewritten : R.write (R.read v) = v) :
    R.read v = [] ↔ v = [] := by
  constructor
  · intro empty
    rw [← rewritten, empty]
    exact R.write_ascii [] fun b member => absurd member List.not_mem_nil
  · rintro rfl
    exact R.read_nil

variable {options : List (GoString × GoString)} {text : GoString}

theorem kept_readOption_iff :
    (Kept R.kind (options.map R.readOption) ∧ ∀ p ∈ options, R.write (R.read p.2) = p.2) ↔
      (∀ p ∈ options, R.Carries p.2) ∧ ∀ p ∈ options.dropLast, p.2 ≠ [] := by
  constructor
  · rintro ⟨kept, rewritten⟩
    refine ⟨fun p member => ⟨kept.bare _ (List.mem_map_of_mem member), rewritten p member⟩, ?_⟩
    intro p member
    have filled := kept.filled (R.readOption p)
      (by rw [← List.map_dropLast]; exact List.mem_map_of_mem member)
    have read := read_eq_nil_iff (rewritten p (List.mem_of_mem_dropLast member))
    exact fun empty => filled (read.2 empty)
  · rintro ⟨carries, filled⟩
    refine ⟨⟨?_, ?_⟩, fun p member => (carries p member).rewritten⟩
    · intro q member
      obtain ⟨p, inside, rfl⟩ := List.mem_map.1 member
      exact (carries p inside).bare
    · intro q member
      rw [← List.map_dropLast] at member
      obtain ⟨p, inside, rfl⟩ := List.mem_map.1 member
      have rewritten := (carries p (List.mem_of_mem_dropLast inside)).rewritten
      exact fun empty => filled p inside ((read_eq_nil_iff rewritten).1 empty)

theorem nodup_readOption (keys : ∀ p ∈ options, Key p.1)
    (distinct : (options.map Prod.fst).Nodup) :
    ((options.map R.readOption).map Prod.fst).Nodup := by
  have keysRead : (options.map R.readOption).map Prod.fst =
      (options.map Prod.fst).map R.read := by
    rw [List.map_map, List.map_map]
    rfl
  rw [keysRead]
  refine distinct.map_on ?_
  intro k member k' member' same
  obtain ⟨p, inside, rfl⟩ := List.mem_map.1 member
  obtain ⟨p', inside', rfl⟩ := List.mem_map.1 member'
  rw [← write_read_key (R := R) (keys p inside), same, write_read_key (keys p' inside')]

/-- Each option that is in the table was read, for the text holds no characters but those it was
written in. -/
theorem arrived {l : List (List C × List C)} (distinct : (options.map Prod.fst).Nodup)
    (read : parse R.kind (R.read text) = some l)
    (same : table (l.map fun p => (R.write p.1, R.write p.2)) = table options)
    {p : GoString × GoString} (member : p ∈ options) :
    R.readOption p ∈ l ∧ R.write (R.read p.2) = p.2 := by
  have found : (table options).get p.1 = some p.2 := get_foldl_of_mem distinct member ∅
  rw [← same] at found
  obtain ⟨q, inside, shape⟩ := List.mem_map.1 (mem_of_get_table found)
  obtain ⟨inKey, inValue⟩ := subset_of_assignments read q inside
  have key : R.read p.1 = q.1 := by
    rw [← congrArg Prod.fst shape]
    exact R.read_write text q.1 inKey
  have value : R.read p.2 = q.2 := by
    rw [← congrArg Prod.snd shape]
    exact R.read_write text q.2 inValue
  refine ⟨?_, ?_⟩
  · rw [Reading.readOption, key, value]
    exact inside
  · rw [value]
    exact congrArg Prod.snd shape

/-- **Exactly bare values that are written as they were read arrive.** -/
theorem parseOpts_iff (whole : 0x20 :: text = written 0x20 0x3D options)
    (keys : ∀ p ∈ options, Key p.1) (distinct : (options.map Prod.fst).Nodup) :
    R.parseOpts text = some (table options) ↔
      (∀ p ∈ options, R.Carries p.2) ∧ ∀ p ∈ options.dropLast, p.2 ≠ [] := by
  rw [← kept_readOption_iff]
  have blank : R.kind (R.ofByte 0x20) = .blank := R.kind_ofByte 0x20 (by decide)
  have equals : R.kind (R.ofByte 0x3D) = .equals := R.kind_ofByte 0x3D (by decide)
  have wholeRead : R.ofByte 0x20 :: R.read text =
      written (R.ofByte 0x20) (R.ofByte 0x3D) (options.map R.readOption) := by
    rw [← read_written, ← whole, read_cons (by decide)]
  have names : ∀ q ∈ options.map R.readOption, Name R.kind q.1 := by
    intro q member
    obtain ⟨p, inside, rfl⟩ := List.mem_map.1 member
    exact name_read (keys p inside)
  have distinctRead := nodup_readOption (R := R) keys distinct
  constructor
  · intro parsed
    obtain ⟨l, read, same⟩ := Option.map_eq_some_iff.1 parsed
    refine ⟨(kept_iff blank equals wholeRead names distinctRead).1 ⟨l, read, ?_⟩,
      fun p member => (arrived distinct read same member).2⟩
    intro q member
    obtain ⟨p, inside, rfl⟩ := List.mem_map.1 member
    exact (arrived distinct read same inside).1
  · rintro ⟨kept, rewritten⟩
    have back : (options.map R.readOption).map (fun p => (R.write p.1, R.write p.2)) = options := by
      rw [List.map_map]
      refine (List.map_congr_left fun p member => ?_).trans (List.map_id _)
      exact Prod.ext (write_read_key (keys p member)) (rewritten p member)
    rw [Reading.parseOpts, parse_of_kept blank equals wholeRead names kept, Option.map_some, back]

end Written

end SentinelOps.Theory.ConnInfo
