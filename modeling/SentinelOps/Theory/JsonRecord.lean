/-
# Theory.JsonRecord — structs, slices, texts, integers and times as JSON

A `Codec` is how `encoding/json` writes the values of a type and reads them over a current value:
`null` and absent members leave what was there, a key names a field up to case folding, unknown
keys are skipped, and a slice is read over its old elements.  Each codec says what becomes of a
value that is written and read (`Codec.back`), and carries the proof.

Codecs compose: `Codec.list` and `Schema.codec` are built from those of the parts.  Through the
text and back, a value is what `back` says over the zero value (`Codec.unmarshal_marshalIndent`).
-/
import SentinelOps.Theory.JsonText
import SentinelOps.Theory.TimeText

namespace SentinelOps.Theory.JsonRecord

open GoText GoTime JsonText
open GoJson (foldName)

set_option autoImplicit false

/-- How values of a type are written (`none` is an error) and read over a current value.
`back current v` is what reading the text of `v` over `current` leaves. -/
structure Codec (V : Type) where
  write : V → Option Value
  read : V → Value → Option V
  back : V → V → V
  read_write : ∀ {v : V} {j : Value}, write v = some j →
    ∀ current, read current j.coerced = some (back current v)

theorem isSome_mapM {A B : Type} (f : A → Option B) (l : List A) :
    (l.mapM f).isSome = true ↔ ∀ a ∈ l, (f a).isSome = true := by
  induction l with
  | nil => exact iff_of_true rfl fun a none_ => absurd none_ List.not_mem_nil
  | cons a l ih =>
      rw [List.mapM_cons, List.forall_mem_cons, ← ih]
      cases f a with
      | none => simp
      | some b => cases l.mapM f <;> simp

namespace Codec

variable {V T : Type}

/-! ## Scalars -/

def readText (current : GoString) : Value → Option GoString
  | .string s => some s
  | .null => some current
  | _ => none

/-- `string`: what is not UTF-8 is replaced. -/
def text : Codec GoString where
  write s := some (.string s)
  read := readText
  back _ s := coerce s
  read_write := by
    intro v j written current
    cases written
    rfl

theorem isSome_write_text (s : GoString) : (text.write s).isSome = true := rfl

def readInstant (current : Time) : Value → Option Time
  | .string s => parseRFC3339 s
  | .null => some current
  | _ => none

/-- `time.Time` in UTC; `MarshalJSON` refuses a year outside [0,9999]. -/
def instant : Codec Time where
  write t :=
    if 0 ≤ t.year ∧ t.year ≤ 9999 then some (.string (formatRFC3339Nano t)) else none
  read := readInstant
  back _ t := t
  read_write := by
    intro v j written current
    rw [Option.ite_none_right_eq_some] at written
    obtain ⟨years, shape⟩ := written
    cases shape
    show parseRFC3339 (coerce (formatRFC3339Nano v)) = some v
    rw [coerce_of_ascii (ascii_formatRFC3339Nano v)]
    exact parseRFC3339_formatRFC3339Nano years.1 years.2

theorem isSome_write_instant (t : Time) :
    (instant.write t).isSome = true ↔ 0 ≤ t.year ∧ t.year ≤ 9999 := by
  show Option.isSome (if 0 ≤ t.year ∧ t.year ≤ 9999 then some (Value.string _) else none) = true ↔ _
  split <;> simp_all

/-- The values of `int`. -/
def InInt (n : Int) : Prop := -2 ^ 63 ≤ n ∧ n < 2 ^ 63

instance (n : Int) : Decidable (InInt n) := inferInstanceAs (Decidable (_ ∧ _))

def readInteger (current : Int) : Value → Option Int
  | .number literal => (toInt literal.1).filter fun n => InInt n
  | .null => some current
  | _ => none

/-- `int`: there is no text for a number that the type does not hold. -/
def integer : Codec Int where
  write n := if InInt n then some (.number ⟨decimalInt n, valid_decimalInt n⟩) else none
  read := readInteger
  back _ n := n
  read_write := by
    intro v j written current
    rw [Option.ite_none_right_eq_some] at written
    obtain ⟨inside, shape⟩ := written
    cases shape
    show (toInt (decimalInt v)).filter (fun n => InInt n) = some v
    rw [toInt_decimalInt, Option.filter_some, if_pos (decide_eq_true inside)]

theorem isSome_write_integer (n : Int) : (integer.write n).isSome = true ↔ InInt n := by
  show Option.isSome (if InInt n then some (Value.number _) else none) = true ↔ _
  split <;> simp_all

/-! ## Slices -/

/-- The items of an array, each read over the element that was there. -/
def readItems (c : Codec V) (zero : V) : List V → List Value → Option (List V)
  | _, [] => some []
  | current, j :: js => do
      let item ← c.read (current.head?.getD zero) j
      let items ← readItems c zero current.tail js
      return item :: items

def backItems (c : Codec V) (zero : V) : List V → List V → List V
  | _, [] => []
  | current, v :: vs => c.back (current.head?.getD zero) v :: backItems c zero current.tail vs

def readList (c : Codec V) (zero : V) (current : List V) : Value → Option (List V)
  | .array items => readItems c zero current items
  | .null => some []
  | _ => none

theorem readItems_mapM (c : Codec V) (zero : V) {vs : List V} {js : List Value}
    (written : vs.mapM c.write = some js) (current : List V) :
    readItems c zero current (coercedItems js) = some (backItems c zero current vs) := by
  induction vs generalizing js current with
  | nil =>
      cases written
      rfl
  | cons v vs ih =>
      rw [List.mapM_cons] at written
      obtain ⟨j, first, rest⟩ := Option.bind_eq_some_iff.1 written
      obtain ⟨js', others, shape⟩ := Option.bind_eq_some_iff.1 rest
      cases shape
      rw [coercedItems, readItems, c.read_write first, ih others]
      rfl

def list (c : Codec V) (zero : V) : Codec (List V) where
  write vs := (vs.mapM c.write).map .array
  read := readList c zero
  back := backItems c zero
  read_write := by
    intro vs j written current
    obtain ⟨js, items, shape⟩ := Option.map_eq_some_iff.1 written
    cases shape
    exact readItems_mapM c zero items current

theorem isSome_write_list (c : Codec V) (zero : V) (vs : List V) :
    ((c.list zero).write vs).isSome = true ↔ ∀ v ∈ vs, (c.write v).isSome = true :=
  Option.isSome_map.symm ▸ isSome_mapM c.write vs

theorem back_list_nil (c : Codec V) (zero : V) (vs : List V) :
    (c.list zero).back [] vs = vs.map (c.back zero) := by
  induction vs with
  | nil => rfl
  | cons v vs ih => exact congrArg (c.back zero v :: ·) ih

/-! ## Structs -/

/-- The codec of a field, as a codec of the struct that has it. -/
def on (c : Codec V) (get : T → V) (set : T → V → T) : Codec T where
  write x := c.write (get x)
  read current j := (c.read (get current) j).map (set current)
  back current x := set current (c.back (get current) (get x))
  read_write := by
    intro x j written current
    rw [c.read_write written, Option.map_some]

theorem isSome_write_on (c : Codec V) (get : T → V) (set : T → V → T) (x : T) :
    ((c.on get set).write x).isSome = (c.write (get x)).isSome := rfl

end Codec

/-- A field with its tag. -/
structure Tagged (T : Type) where
  tag : GoString
  codec : Codec T

/-- The fields of a struct.  No two tags are the same, and each is a lower-case name. -/
structure Schema (T : Type) where
  fields : List (Tagged T)
  distinct : (fields.map Tagged.tag).Nodup
  plain : ∀ f ∈ fields, foldName (coerce f.tag) = f.tag

namespace Schema

variable {T : Type}

def field (schema : Schema T) (key : GoString) : Option (Tagged T) :=
  schema.fields.find? fun f => f.tag = foldName key

/-- One member of an object, over what the members before it left. -/
def readMember (schema : Schema T) (current : T) (member : GoString × Value) : Option T :=
  match schema.field member.1 with
  | some f => f.codec.read current member.2
  | none => some current

def read (schema : Schema T) (current : T) : Value → Option T
  | .object members => members.foldlM schema.readMember current
  | .null => some current
  | _ => none

def writeMember (x : T) (f : Tagged T) : Option (GoString × Value) :=
  (f.codec.write x).map fun j => (f.tag, j)

def back (fields : List (Tagged T)) (current x : T) : T :=
  fields.foldl (fun current f => f.codec.back current x) current

theorem field_of_mem (schema : Schema T) {f : Tagged T} (member : f ∈ schema.fields) :
    schema.field (coerce f.tag) = some f := by
  rw [field, schema.plain f member]
  have distinct := schema.distinct
  generalize schema.fields = fields at member distinct
  induction fields with
  | nil => cases member
  | cons g fields ih =>
      rw [List.map_cons, List.nodup_cons] at distinct
      rcases List.mem_cons.1 member with rfl | later
      · exact List.find?_cons_of_pos (decide_eq_true rfl)
      · have other : g.tag ≠ f.tag := by
          intro same
          exact distinct.1 (same ▸ List.mem_map_of_mem later)
        rw [List.find?_cons_of_neg (by simpa using other)]
        exact ih later distinct.2

/-- The members are read one after the other, each into the field that wrote it. -/
theorem foldlM_mapM (schema : Schema T) {x : T} {fields : List (Tagged T)}
    (inside : ∀ f ∈ fields, f ∈ schema.fields) {members : List (GoString × Value)}
    (written : fields.mapM (writeMember x) = some members) (current : T) :
    (coercedMembers members).foldlM schema.readMember current = some (back fields current x) := by
  induction fields generalizing members current with
  | nil =>
      cases written
      rfl
  | cons f fields ih =>
      rw [List.forall_mem_cons] at inside
      rw [List.mapM_cons] at written
      obtain ⟨member, first, rest⟩ := Option.bind_eq_some_iff.1 written
      obtain ⟨members', others, shape⟩ := Option.bind_eq_some_iff.1 rest
      cases shape
      obtain ⟨j, value, shape⟩ := Option.map_eq_some_iff.1 first
      cases shape
      have read : schema.readMember current (coerce f.tag, j.coerced) =
          some (f.codec.back current x) := by
        rw [readMember, schema.field_of_mem inside.1]
        exact f.codec.read_write value current
      rw [coercedMembers, List.foldlM_cons, read]
      exact ih inside.2 others _

def codec (schema : Schema T) : Codec T where
  write x := (schema.fields.mapM (writeMember x)).map .object
  read := schema.read
  back := back schema.fields
  read_write := by
    intro x j written current
    obtain ⟨members, each, shape⟩ := Option.map_eq_some_iff.1 written
    cases shape
    exact schema.foldlM_mapM (fun _ member => member) each current

theorem isSome_write_codec (schema : Schema T) (x : T) :
    (schema.codec.write x).isSome = true ↔
      ∀ f ∈ schema.fields, (f.codec.write x).isSome = true := by
  have each := isSome_mapM (writeMember x) schema.fields
  simp only [writeMember, Option.isSome_map] at each
  rw [← each]
  exact iff_of_eq (congrArg (· = true) Option.isSome_map)

end Schema

namespace Codec

variable {V : Type}

/-! ## Texts -/

/-- `json.MarshalIndent(v, "", "  ")`. -/
def marshalIndent (c : Codec V) (v : V) : Option GoString := (c.write v).map (Value.print 0)

/-- `json.Unmarshal` into a zero value. -/
def unmarshal (c : Codec V) (zero : V) (data : GoString) : Option V := do
  let j ← parse data
  c.read zero j

/-- **A value that was written is read, and `back` says as what.** -/
theorem unmarshal_marshalIndent (c : Codec V) (zero : V) {v : V} {data : GoString}
    (written : c.marshalIndent v = some data) :
    c.unmarshal zero (data ++ [0x0A]) = some (c.back zero v) := by
  obtain ⟨j, value, shape⟩ := Option.map_eq_some_iff.1 written
  cases shape
  rw [unmarshal, parse_print]
  exact c.read_write value zero

end Codec

end SentinelOps.Theory.JsonRecord
