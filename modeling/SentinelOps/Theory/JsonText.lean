/-
# Theory.JsonText — JSON texts, written with indentation and read back

`print` writes a value as `json.MarshalIndent` does, with two blanks for each level, and `parse`
reads a text by the grammar of JSON: white space, literals, numbers, arrays and objects, whose
members stay in the order of the text.  A value that was written is read as it was, except that its
strings and keys are coerced to UTF-8 (`parse_print`).

`Value` is the syntax tree of a text, with numbers by their literals; `Json` of `Theory.GoJson` is
what `any` holds of one.
-/
import SentinelOps.Theory.JsonString

namespace SentinelOps.Theory.JsonText

open GoText
open GoJson (quote)
open JsonString (unquote)

set_option autoImplicit false

/-! ## Numbers -/

/-- Digits, signs, a point and the letter of an exponent. -/
def isNumeric (b : UInt8) : Bool :=
  isDigit b || b = 0x2D || b = 0x2B || b = 0x2E || b = 0x65 || b = 0x45

/-- At least one digit, and what stands behind it. -/
def digits : GoString → Option GoString
  | [] => none
  | b :: s => if isDigit b then some (s.dropWhile isDigit) else none

/-- The literal without its sign. -/
def unsigned (literal : GoString) : GoString :=
  if literal.head? = some 0x2D then literal.tail else literal

/-- A number does not begin with a zero that other digits follow. -/
def integerPart (s : GoString) : Option GoString :=
  if s.head? = some 0x30 then some s.tail else digits s

def fractionPart (s : GoString) : Option GoString :=
  if s.head? = some 0x2E then digits s.tail else some s

def exponentPart (s : GoString) : Option GoString :=
  if s.head? = some 0x65 ∨ s.head? = some 0x45 then
    digits (if s.tail.head? = some 0x2D ∨ s.tail.head? = some 0x2B then s.tail.tail else s.tail)
  else some s

def validNumber (literal : GoString) : Bool :=
  literal.all isNumeric &&
    ((integerPart (unsigned literal)).bind fractionPart).bind exponentPart = some []

/-- A literal of the grammar. -/
def Number := { literal : GoString // validNumber literal = true }

/-- `strconv.ParseInt`, without the bounds of the type. -/
def toInt (literal : GoString) : Option Int :=
  let magnitude := digitsValue (unsigned literal)
  if unsigned literal ≠ [] ∧ (unsigned literal).all isDigit then
    some (if literal.head? = some 0x2D then -magnitude else magnitude)
  else none

/-! ## Values -/

inductive Value where
  | null
  | bool (value : Bool)
  | number (literal : Number)
  | string (text : GoString)
  | array (items : List Value)
  | object (members : List (GoString × Value))

mutual

/-- The value with its texts coerced to UTF-8. -/
def Value.coerced : Value → Value
  | .string text => .string (coerce text)
  | .array items => .array (coercedItems items)
  | .object members => .object (coercedMembers members)
  | v => v

def coercedItems : List Value → List Value
  | [] => []
  | item :: items => item.coerced :: coercedItems items

def coercedMembers : List (GoString × Value) → List (GoString × Value)
  | [] => []
  | (key, value) :: members => (coerce key, value.coerced) :: coercedMembers members

end

/-! ## Writing -/

/-- A new line, and two blanks for each level. -/
def gap (depth : Nat) : GoString := 0x0A :: List.replicate (2 * depth) 0x20

mutual

def Value.print (depth : Nat) : Value → GoString
  | .null => str "null"
  | .bool value => if value then str "true" else str "false"
  | .number literal => literal.1
  | .string text => quote text
  | .array [] => str "[]"
  | .array (item :: items) =>
      0x5B :: (gap (depth + 1) ++ (item.print (depth + 1) ++ printItems depth items))
  | .object [] => str "\x7b\x7d"
  | .object ((key, value) :: members) =>
      0x7B :: (gap (depth + 1) ++ (quote key ++ 0x3A :: 0x20 ::
        (value.print (depth + 1) ++ printMembers depth members)))

/-- The items behind the first one, and the closing bracket. -/
def printItems (depth : Nat) : List Value → GoString
  | [] => gap depth ++ [0x5D]
  | item :: items =>
      0x2C :: (gap (depth + 1) ++ (item.print (depth + 1) ++ printItems depth items))

def printMembers (depth : Nat) : List (GoString × Value) → GoString
  | [] => gap depth ++ [0x7D]
  | (key, value) :: members =>
      0x2C :: (gap (depth + 1) ++ (quote key ++ 0x3A :: 0x20 ::
        (value.print (depth + 1) ++ printMembers depth members)))

end

/-! ## Reading -/

def isBlank (b : UInt8) : Bool := b = 0x20 || b = 0x09 || b = 0x0A || b = 0x0D

def skip (s : GoString) : GoString := s.dropWhile isBlank

/-- A word, or a number. -/
def parseWord (s : GoString) : Option (Value × GoString) :=
  if str "null" <+: s then some (.null, s.drop 4)
  else if str "true" <+: s then some (.bool true, s.drop 4)
  else if str "false" <+: s then some (.bool false, s.drop 5)
  else if valid : validNumber (s.takeWhile isNumeric) = true then
    some (.number ⟨s.takeWhile isNumeric, valid⟩, s.dropWhile isNumeric)
  else none

mutual

def parseValue : Nat → GoString → Option (Value × GoString)
  | 0, _ => none
  | fuel + 1, s =>
      match skip s with
      | [] => none
      | b :: s =>
          if b = 0x22 then (unquote s).map fun (text, rest) => (.string text, rest)
          else if b = 0x5B then
            match skip s with
            | [] => none
            | c :: t =>
                if c = 0x5D then some (.array [], t)
                else (parseItems fuel (c :: t)).map fun (items, rest) => (.array items, rest)
          else if b = 0x7B then
            match skip s with
            | [] => none
            | c :: t =>
                if c = 0x7D then some (.object [], t)
                else (parseMembers fuel (c :: t)).map fun (members, rest) => (.object members, rest)
          else parseWord (b :: s)

/-- The items from the first one to the closing bracket. -/
def parseItems : Nat → GoString → Option (List Value × GoString)
  | 0, _ => none
  | fuel + 1, s => do
      let (item, rest) ← parseValue fuel s
      match skip rest with
      | [] => none
      | b :: rest =>
          if b = 0x2C then (parseItems fuel rest).map fun (items, rest) => (item :: items, rest)
          else if b = 0x5D then some ([item], rest)
          else none

def parseMembers : Nat → GoString → Option (List (GoString × Value) × GoString)
  | 0, _ => none
  | fuel + 1, s =>
      match skip s with
      | [] => none
      | b :: s =>
          if b = 0x22 then do
            let (key, rest) ← unquote s
            match skip rest with
            | [] => none
            | c :: rest =>
                if c = 0x3A then do
                  let (value, rest) ← parseValue fuel rest
                  match skip rest with
                  | [] => none
                  | d :: rest =>
                      if d = 0x2C then
                        (parseMembers fuel rest).map fun (members, rest) =>
                          ((key, value) :: members, rest)
                      else if d = 0x7D then some ([(key, value)], rest)
                      else none
                else none
          else none

end

/-- The whole text is one value.  Every turn of the parser takes a byte, so the length of the text
is fuel enough. -/
def parse (s : GoString) : Option Value := do
  let (value, rest) ← parseValue (s.length + 1) s
  if skip rest = [] then some value else none

/-! ## Numbers that are written -/

theorem numeric_of_valid {literal : GoString} (valid : validNumber literal = true) :
    ∀ b ∈ literal, isNumeric b = true := by
  rw [validNumber, Bool.and_eq_true, List.all_eq_true] at valid
  exact valid.1

theorem head_of_valid {literal : GoString} (valid : validNumber literal = true) :
    ∃ b s, literal = b :: s ∧ (b = 0x2D ∨ isDigit b = true) := by
  rw [validNumber, Bool.and_eq_true, decide_eq_true_eq] at valid
  cases literal with
  | nil => exact absurd valid.2 (by decide)
  | cons b s =>
      refine ⟨b, s, rfl, ?_⟩
      by_cases minus : b = 0x2D
      · exact .inl minus
      · refine .inr ?_
        by_contra noDigit
        have sign : unsigned (b :: s) = b :: s := by simp [unsigned, minus]
        have zero : b ≠ 0x30 := by
          rintro rfl
          exact noDigit (by decide)
        have none_ : integerPart (b :: s) = none := by simp [integerPart, zero, digits, noDigit]
        rw [sign, none_] at valid
        cases valid.2

theorem isDigit_decimal (n : Nat) : ∀ b ∈ decimal n, isDigit b = true :=
  fun _ => isDigit_of_mem_zeroPadded

theorem head_decimal (n : Nat) : (decimal n).head? ≠ some 0x2D := by
  intro minus
  exact absurd (isDigit_decimal n 0x2D (List.mem_of_mem_head? minus)) (by decide)

theorem unsigned_decimalInt (n : Int) : unsigned (decimalInt n) = decimal n.natAbs := by
  rw [decimalInt]
  split
  · rfl
  · exact if_neg (head_decimal n.natAbs)

/-- Only zero begins with a zero. -/
theorem head_decimal_ne_zero {n : Nat} (positive : n ≠ 0) : (decimal n).head? ≠ some 0x30 := by
  have some_ : Nat.digits 10 n ≠ [] := Nat.digits_ne_nil_iff_ne_zero.2 positive
  have padded : 1 - (Nat.digits 10 n).length = 0 := by
    have := List.length_pos_of_ne_nil some_
    omega
  rw [decimal, zeroPadded, padded, List.replicate_zero, List.append_nil, List.head?_map,
    List.head?_reverse, List.getLast?_eq_some_getLast some_]
  have leading := Nat.getLast_digit_ne_zero 10 positive
  have small := Nat.digits_lt_base (by decide) (List.getLast_mem some_)
  have every : ∀ d < 10, d ≠ 0 → UInt8.ofNat (0x30 + d) ≠ 0x30 := by decide
  simpa using every _ small leading

theorem integerPart_decimal (n : Nat) : integerPart (decimal n) = some [] := by
  by_cases zero : n = 0
  · subst zero
    decide
  · rw [integerPart, if_neg (head_decimal_ne_zero zero)]
    have digit := isDigit_decimal n
    cases text : decimal n with
    | nil => exact absurd text (decimal_ne_nil n)
    | cons b s =>
        rw [text, List.forall_mem_cons] at digit
        rw [digits, if_pos digit.1, List.dropWhile_eq_nil_iff.2 digit.2]

theorem valid_decimalInt (n : Int) : validNumber (decimalInt n) = true := by
  have numeric : ∀ b ∈ decimal n.natAbs, isNumeric b = true := by
    intro b member
    simp [isNumeric, isDigit_decimal _ b member]
  have sign : ∀ b ∈ decimalInt n, isNumeric b = true := by
    rw [decimalInt]
    split
    · exact List.forall_mem_cons.2 ⟨by decide, numeric⟩
    · exact numeric
  rw [validNumber, Bool.and_eq_true, List.all_eq_true, decide_eq_true_eq, unsigned_decimalInt,
    integerPart_decimal]
  exact ⟨sign, rfl⟩

theorem toInt_decimalInt (n : Int) : toInt (decimalInt n) = some n := by
  have magnitude : digitsValue (decimal n.natAbs) = n.natAbs := digitsValue_zeroPadded 1 n.natAbs
  have written : decimal n.natAbs ≠ [] ∧ (decimal n.natAbs).all isDigit = true :=
    ⟨decimal_ne_nil _, List.all_eq_true.2 (isDigit_decimal _)⟩
  simp only [toInt, unsigned_decimalInt, if_pos written]
  rw [magnitude, decimalInt]
  split
  · next negative =>
      rw [show (str "-" ++ decimal n.natAbs).head? = some 0x2D from rfl, if_pos rfl]
      congr 1
      omega
  · next positive =>
      rw [if_neg (head_decimal n.natAbs)]
      congr 1
      omega

/-! ## Skipping -/

/-- A text that begins with something else than white space or a closing bracket. -/
def Opens (s : GoString) : Prop := ∃ b t, s = b :: t ∧ isBlank b = false ∧ b ≠ 0x5D

theorem skip_cons {b : UInt8} (solid : isBlank b = false) (s : GoString) :
    skip (b :: s) = b :: s := List.dropWhile_cons_of_neg (by simp [solid])

theorem skip_gap (depth : Nat) (s : GoString) : skip (gap depth ++ s) = skip s := by
  have blank : ∀ b ∈ gap depth, isBlank b = true := by
    rw [gap, List.forall_mem_cons]
    refine ⟨by decide, fun b member => ?_⟩
    rw [List.eq_of_mem_replicate member]
    decide
  exact List.dropWhile_append_of_pos blank

theorem Opens.skip {s : GoString} (opens : Opens s) (t : GoString) : skip (s ++ t) = s ++ t := by
  obtain ⟨b, s, rfl, solid, -⟩ := opens
  exact skip_cons solid _

theorem parseValue_skip {s t : GoString} (same : skip s = skip t) (fuel : Nat) :
    parseValue fuel s = parseValue fuel t := by
  cases fuel with
  | zero => rw [parseValue, parseValue]
  | succ fuel => rw [parseValue, parseValue, same]

theorem parseItems_skip {s t : GoString} (same : skip s = skip t) (fuel : Nat) :
    parseItems fuel s = parseItems fuel t := by
  cases fuel with
  | zero => rw [parseItems, parseItems]
  | succ fuel => rw [parseItems, parseItems, parseValue_skip same]

theorem parseMembers_skip {s t : GoString} (same : skip s = skip t) (fuel : Nat) :
    parseMembers fuel s = parseMembers fuel t := by
  cases fuel with
  | zero => rw [parseMembers, parseMembers]
  | succ fuel => rw [parseMembers, parseMembers, same]

theorem opens_quote (text : GoString) : Opens (quote text) := by
  obtain ⟨literal, shape, -⟩ := JsonString.unquote_quote text []
  exact ⟨0x22, literal, shape, by decide, by decide⟩

theorem opens_number (literal : Number) : Opens literal.1 := by
  obtain ⟨b, s, shape, first⟩ := head_of_valid literal.2
  refine ⟨b, s, shape, ?_⟩
  rcases first with rfl | digit
  · decide
  · grind [isDigit, isBlank]

theorem opens_print (depth : Nat) (v : Value) : Opens (v.print depth) := by
  cases v with
  | null => exact ⟨_, _, rfl, by decide, by decide⟩
  | bool value => cases value <;> exact ⟨_, _, rfl, by decide, by decide⟩
  | number literal => exact opens_number literal
  | string text => exact opens_quote text
  | array items => cases items <;> exact ⟨_, _, rfl, by decide, by decide⟩
  | object members => cases members <;> exact ⟨_, _, rfl, by decide, by decide⟩

/-! ## Reading back -/

mutual

/-- How many turns of the parser a value takes. -/
def Value.size : Value → Nat
  | .array items => 1 + sizeItems items
  | .object members => 1 + sizeMembers members
  | _ => 1

def sizeItems : List Value → Nat
  | [] => 0
  | item :: items => 1 + item.size + sizeItems items

def sizeMembers : List (GoString × Value) → Nat
  | [] => 0
  | (_, value) :: members => 1 + value.size + sizeMembers members

end

/-- No number goes on here. -/
def Ends (s : GoString) : Prop := ∀ b ∈ s.head?, isNumeric b = false

theorem ends_printItems (depth : Nat) (items : List Value) (rest : GoString) :
    Ends (printItems depth items ++ rest) := by
  cases items with
  | nil =>
      intro b first
      cases first
      decide
  | cons item items =>
      intro b first
      cases first
      decide

theorem ends_printMembers (depth : Nat) (members : List (GoString × Value)) (rest : GoString) :
    Ends (printMembers depth members ++ rest) := by
  cases members with
  | nil =>
      intro b first
      cases first
      decide
  | cons item items =>
      intro b first
      cases first
      decide

theorem parseWord_number (literal : Number) {rest : GoString} (ends : Ends rest) :
    parseWord (literal.1 ++ rest) = some (.number literal, rest) := by
  have noWord : ∀ word ∈ [str "null", str "true", str "false"], ¬ word <+: literal.1 ++ rest := by
    obtain ⟨b, s, shape, first⟩ := head_of_valid literal.2
    have letters : ∀ word ∈ [str "null", str "true", str "false"],
        ∃ c ∈ word, word.head? = some c ∧ 0x3A ≤ c := by decide
    intro word member begins
    obtain ⟨c, -, head, high⟩ := letters word member
    rw [shape, List.cons_append] at begins
    have same : b = c := by
      obtain ⟨t, split⟩ := begins
      cases word with
      | nil => cases head
      | cons c' word =>
          cases head
          exact (List.cons.inj split).1.symm
    subst same
    rcases first with rfl | digit
    · exact absurd high (by decide)
    · grind [isDigit]
  have numeric := numeric_of_valid literal.2
  have behind : rest.takeWhile isNumeric = [] ∧ rest.dropWhile isNumeric = rest := by
    cases rest with
    | nil => exact ⟨rfl, rfl⟩
    | cons b rest =>
        have stops : isNumeric b = false := ends b rfl
        simp [stops]
  have taken : (literal.1 ++ rest).takeWhile isNumeric = literal.1 := by
    rw [List.takeWhile_append_of_pos numeric, behind.1, List.append_nil]
  rw [parseWord, if_neg (noWord _ (by simp)), if_neg (noWord _ (by simp)),
    if_neg (noWord _ (by simp)), dif_pos (by rw [taken]; exact literal.2),
    List.dropWhile_append_of_pos numeric, behind.2]
  exact congrArg (fun n => some (Value.number n, rest)) (Subtype.ext taken)

/-- With this fuel, what was written is read back up to its size. -/
structure ReadsBack (fuel : Nat) : Prop where
  value : ∀ (v : Value) (depth : Nat) (rest : GoString), v.size ≤ fuel → Ends rest →
    parseValue fuel (v.print depth ++ rest) = some (v.coerced, rest)
  items : ∀ (item : Value) (items : List Value) (depth : Nat) (rest : GoString),
    sizeItems (item :: items) ≤ fuel →
    parseItems fuel (item.print (depth + 1) ++ (printItems depth items ++ rest)) =
      some (coercedItems (item :: items), rest)
  members : ∀ (key : GoString) (value : Value) (members : List (GoString × Value)) (depth : Nat)
    (rest : GoString), sizeMembers ((key, value) :: members) ≤ fuel →
    parseMembers fuel (quote key ++ (0x3A :: 0x20 :: (value.print (depth + 1) ++
      (printMembers depth members ++ rest)))) =
      some (coercedMembers ((key, value) :: members), rest)

theorem parseValue_word {b : UInt8} (solid : isBlank b = false) (noQuote : b ≠ 0x22)
    (noArray : b ≠ 0x5B) (noObject : b ≠ 0x7B) (fuel : Nat) (s : GoString) :
    parseValue (fuel + 1) (b :: s) = parseWord (b :: s) := by
  rw [parseValue, skip_cons solid]
  dsimp only
  rw [if_neg noQuote, if_neg noArray, if_neg noObject]

theorem parseValue_quote (fuel : Nat) (text rest : GoString) :
    parseValue (fuel + 1) (quote text ++ rest) = some (.string (coerce text), rest) := by
  obtain ⟨literal, shape, read⟩ := JsonString.unquote_quote text rest
  rw [shape, List.cons_append, parseValue, skip_cons (by decide)]
  dsimp only
  rw [if_pos rfl, read]
  rfl

variable {fuel : Nat}

theorem ReadsBack.array (back : ReadsBack fuel) (items : List Value) (depth : Nat)
    (rest : GoString) (enough : sizeItems items ≤ fuel) :
    parseValue (fuel + 1) ((Value.array items).print depth ++ rest) =
      some (.array (coercedItems items), rest) := by
  cases items with
  | nil =>
      have text : (Value.array []).print depth ++ rest = 0x5B :: 0x5D :: rest := rfl
      rw [text, parseValue, skip_cons (by decide)]
      dsimp only
      rw [if_neg (by decide), if_pos rfl, skip_cons (by decide)]
      rfl
  | cons item items =>
      have inner := back.items item items depth rest enough
      obtain ⟨b, t, shape, -, notClosed⟩ := opens_print (depth + 1) item
      have text : (Value.array (item :: items)).print depth ++ rest =
          0x5B :: (gap (depth + 1) ++ (item.print (depth + 1) ++
            (printItems depth items ++ rest))) := by
        simp only [Value.print, List.cons_append, List.append_assoc]
      have skipped : skip (gap (depth + 1) ++ (item.print (depth + 1) ++
          (printItems depth items ++ rest))) = b :: (t ++ (printItems depth items ++ rest)) := by
        rw [skip_gap, (opens_print (depth + 1) item).skip, shape, List.cons_append]
      rw [text, parseValue, skip_cons (by decide)]
      dsimp only
      rw [if_neg (by decide), if_pos rfl, skipped]
      dsimp only
      rw [if_neg notClosed, ← List.cons_append, ← shape, inner]
      rfl

theorem ReadsBack.object (back : ReadsBack fuel) (members : List (GoString × Value)) (depth : Nat)
    (rest : GoString) (enough : sizeMembers members ≤ fuel) :
    parseValue (fuel + 1) ((Value.object members).print depth ++ rest) =
      some (.object (coercedMembers members), rest) := by
  cases members with
  | nil =>
      have text : (Value.object []).print depth ++ rest = 0x7B :: 0x7D :: rest := rfl
      rw [text, parseValue, skip_cons (by decide)]
      dsimp only
      rw [if_neg (by decide), if_neg (by decide), if_pos rfl, skip_cons (by decide)]
      rfl
  | cons member members =>
      obtain ⟨key, value⟩ := member
      have inner := back.members key value members depth rest enough
      obtain ⟨literal, shape, -⟩ := JsonString.unquote_quote key []
      have text : (Value.object ((key, value) :: members)).print depth ++ rest =
          0x7B :: (gap (depth + 1) ++ (quote key ++ (0x3A :: 0x20 :: (value.print (depth + 1) ++
            (printMembers depth members ++ rest))))) := by
        simp only [Value.print, List.cons_append, List.append_assoc]
      have skipped : skip (gap (depth + 1) ++ (quote key ++ (0x3A :: 0x20 ::
          (value.print (depth + 1) ++ (printMembers depth members ++ rest))))) =
          0x22 :: (literal ++ (0x3A :: 0x20 ::
            (value.print (depth + 1) ++ (printMembers depth members ++ rest)))) := by
        rw [skip_gap, (opens_quote key).skip, shape, List.cons_append]
      rw [text, parseValue, skip_cons (by decide)]
      dsimp only
      rw [if_neg (by decide), if_neg (by decide), if_pos rfl, skipped]
      dsimp only
      rw [if_neg (by decide), ← List.cons_append, ← shape, inner]
      rfl

theorem ReadsBack.valueStep (back : ReadsBack fuel) (v : Value) (depth : Nat) (rest : GoString)
    (enough : v.size ≤ fuel + 1) (ends : Ends rest) :
    parseValue (fuel + 1) (v.print depth ++ rest) = some (v.coerced, rest) := by
  cases v with
  | null => exact parseValue_word (by decide) (by decide) (by decide) (by decide) fuel _
  | bool value =>
      cases value with
      | true => exact parseValue_word (by decide) (by decide) (by decide) (by decide) fuel _
      | false => exact parseValue_word (by decide) (by decide) (by decide) (by decide) fuel _
  | number literal =>
      obtain ⟨b, s, shape, first⟩ := head_of_valid literal.2
      have plain : isBlank b = false ∧ b ≠ 0x22 ∧ b ≠ 0x5B ∧ b ≠ 0x7B := by
        rcases first with rfl | digit
        · decide
        · grind [isDigit, isBlank]
      have word := parseWord_number literal ends
      show parseValue (fuel + 1) (literal.1 ++ rest) = some (.number literal, rest)
      rw [← word, shape, List.cons_append]
      exact parseValue_word plain.1 plain.2.1 plain.2.2.1 plain.2.2.2 fuel _
  | string text => exact parseValue_quote fuel text rest
  | array items =>
      rw [Value.size, Nat.add_comm] at enough
      exact back.array items depth rest (Nat.le_of_succ_le_succ enough)
  | object members =>
      rw [Value.size, Nat.add_comm] at enough
      exact back.object members depth rest (Nat.le_of_succ_le_succ enough)

theorem ReadsBack.itemsStep (back : ReadsBack fuel) (item : Value) (items : List Value)
    (depth : Nat) (rest : GoString) (enough : sizeItems (item :: items) ≤ fuel + 1) :
    parseItems (fuel + 1) (item.print (depth + 1) ++ (printItems depth items ++ rest)) =
      some (coercedItems (item :: items), rest) := by
  rw [sizeItems] at enough
  have first := back.value item (depth + 1) (printItems depth items ++ rest) (by omega)
    (ends_printItems depth items rest)
  rw [parseItems, first]
  cases items with
  | nil =>
      have closed : skip (printItems depth [] ++ rest) = 0x5D :: rest := by
        rw [printItems, List.append_assoc, skip_gap]
        exact skip_cons (by decide) rest
      dsimp only [Option.bind_eq_bind, Option.bind_some]
      rw [closed]
      dsimp only
      rw [if_neg (by decide), if_pos rfl]
      rfl
  | cons next items =>
      have text : printItems depth (next :: items) ++ rest =
          0x2C :: (gap (depth + 1) ++ (next.print (depth + 1) ++
            (printItems depth items ++ rest))) := by
        simp only [printItems, List.cons_append, List.append_assoc]
      dsimp only [Option.bind_eq_bind, Option.bind_some]
      rw [text, skip_cons (by decide)]
      dsimp only
      rw [if_pos rfl, parseItems_skip (skip_gap _ _), back.items next items depth rest (by omega)]
      rfl

theorem ReadsBack.membersStep (back : ReadsBack fuel) (key : GoString) (value : Value)
    (members : List (GoString × Value)) (depth : Nat) (rest : GoString)
    (enough : sizeMembers ((key, value) :: members) ≤ fuel + 1) :
    parseMembers (fuel + 1) (quote key ++ (0x3A :: 0x20 :: (value.print (depth + 1) ++
      (printMembers depth members ++ rest)))) =
      some (coercedMembers ((key, value) :: members), rest) := by
  rw [sizeMembers] at enough
  have first := back.value value (depth + 1) (printMembers depth members ++ rest) (by omega)
    (ends_printMembers depth members rest)
  have blank : ∀ s, parseValue fuel (0x20 :: s) = parseValue fuel s := fun s =>
    parseValue_skip (List.dropWhile_cons_of_pos (by decide)) fuel
  obtain ⟨literal, shape, read⟩ := JsonString.unquote_quote key
    (0x3A :: 0x20 :: (value.print (depth + 1) ++ (printMembers depth members ++ rest)))
  rw [shape, List.cons_append, parseMembers, skip_cons (by decide)]
  dsimp only
  rw [if_pos rfl, read]
  dsimp only [Option.bind_eq_bind, Option.bind_some]
  rw [skip_cons (by decide)]
  dsimp only
  rw [if_pos rfl, blank, first]
  dsimp only [Option.bind_some]
  cases members with
  | nil =>
      have closed : skip (printMembers depth [] ++ rest) = 0x7D :: rest := by
        rw [printMembers, List.append_assoc, skip_gap]
        exact skip_cons (by decide) rest
      rw [closed]
      dsimp only
      rw [if_neg (by decide), if_pos rfl]
      rfl
  | cons member members =>
      obtain ⟨key', value'⟩ := member
      have text : printMembers depth ((key', value') :: members) ++ rest =
          0x2C :: (gap (depth + 1) ++ (quote key' ++ (0x3A :: 0x20 :: (value'.print (depth + 1) ++
            (printMembers depth members ++ rest))))) := by
        simp only [printMembers, List.cons_append, List.append_assoc]
      rw [text, skip_cons (by decide)]
      dsimp only
      rw [if_pos rfl, parseMembers_skip (skip_gap _ _),
        back.members key' value' members depth rest (by omega)]
      rfl

/-- Each turn of the parser needs what the turns it starts give back with one less fuel. -/
theorem readsBack (fuel : Nat) : ReadsBack fuel := by
  induction fuel with
  | zero =>
      refine ⟨fun v depth rest enough => ?_, fun item items depth rest enough => ?_,
        fun key value members depth rest enough => ?_⟩
      · cases v <;> simp [Value.size] at enough
      · simp [sizeItems] at enough
      · simp [sizeMembers] at enough
  | succ fuel back => exact ⟨back.valueStep, back.itemsStep, back.membersStep⟩

theorem length_gap (depth : Nat) : (gap depth).length = 2 * depth + 1 := by simp [gap]

theorem Opens.length_pos {s : GoString} (opens : Opens s) : 1 ≤ s.length := by
  obtain ⟨b, t, rfl, -⟩ := opens
  exact Nat.succ_le_succ (Nat.zero_le _)

mutual

theorem Value.size_le (depth : Nat) : ∀ v : Value, v.size ≤ (v.print depth).length
  | .null => (opens_print depth .null).length_pos
  | .bool value => (opens_print depth (.bool value)).length_pos
  | .number literal => (opens_print depth (.number literal)).length_pos
  | .string text => (opens_print depth (.string text)).length_pos
  | .array [] => (opens_print depth (.array [])).length_pos
  | .object [] => (opens_print depth (.object [])).length_pos
  | .array (item :: items) => by
      have first := item.size_le (depth + 1)
      have others := sizeItems_le depth items
      simp only [Value.size, sizeItems, Value.print, List.length_cons, List.length_append,
        length_gap]
      omega
  | .object ((key, value) :: members) => by
      have first := value.size_le (depth + 1)
      have others := sizeMembers_le depth members
      simp only [Value.size, sizeMembers, Value.print, List.length_cons, List.length_append,
        length_gap]
      omega

theorem sizeItems_le (depth : Nat) : ∀ items, sizeItems items ≤ (printItems depth items).length
  | [] => Nat.zero_le _
  | item :: items => by
      have first := item.size_le (depth + 1)
      have others := sizeItems_le depth items
      simp only [sizeItems, printItems, List.length_cons, List.length_append, length_gap]
      omega

theorem sizeMembers_le (depth : Nat) :
    ∀ members, sizeMembers members ≤ (printMembers depth members).length
  | [] => Nat.zero_le _
  | (key, value) :: members => by
      have first := value.size_le (depth + 1)
      have others := sizeMembers_le depth members
      simp only [sizeMembers, printMembers, List.length_cons, List.length_append, length_gap]
      omega

end

/-- **What was written is read**, with its texts coerced to UTF-8. -/
theorem parse_print (v : Value) : parse (v.print 0 ++ [0x0A]) = some v.coerced := by
  have enough : v.size ≤ (v.print 0 ++ [0x0A]).length + 1 := by
    have size := v.size_le 0
    rw [List.length_append]
    omega
  have ends : Ends [0x0A] := by
    intro b first
    cases first
    decide
  rw [parse, (readsBack _).value v 0 [0x0A] enough ends]
  rfl

end SentinelOps.Theory.JsonText
