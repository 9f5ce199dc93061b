/-
# Theory.GoJson — JSON texts as `encoding/json` reads them

`Json` is the syntax tree of a JSON text: members of an object stay in the order of the text,
repeated keys included.  Decoding follows `json.Unmarshal` where it is easy to get wrong:

* a key names a field up to case folding, and among the members that name a field each one is
  decoded over what the earlier ones left (`decodeStruct`);
* `null` leaves a struct as it was, empties a slice and clears an interface;
* a slice is filled over its old elements, so its first element keeps what the new text does
  not mention (`decodeSlice`);
* a value of the wrong kind anywhere makes the whole decoding fail, later members or not.

A slice is followed through its first element only: `none` is a slice of length zero.
-/
import SentinelOps.Theory.GoText

namespace SentinelOps.Theory

open GoText (GoString Rune pieces runeError str)

set_option autoImplicit false

/-- A JSON text.  A number is given by what `fmt.Sprint` prints for its `float64`, and by
`none` when no `float64` holds it. -/
inductive Json where
  | null
  | bool (value : Bool)
  | num (printed : Option GoString)
  | str (text : GoString)
  | arr (items : List Json)
  | obj (fields : List (GoString × Json))

namespace GoJson

/-! ## Decoding -/

mutual

/-- The text decodes into an `any`: every number in it fits a `float64`. -/
def representable : Json → Bool
  | .num printed => printed.isSome
  | .arr items => representableItems items
  | .obj fields => representableFields fields
  | _ => true

def representableItems : List Json → Bool
  | [] => true
  | item :: items => representable item && representableItems items

def representableFields : List (GoString × Json) → Bool
  | [] => true
  | (_, value) :: fields => representable value && representableFields fields

end

/-- A rune of a key as it is compared with a lower-case ASCII field name.  Besides the capital
letters, only U+017F and U+212A fold to an ASCII letter. -/
def foldRune (r : Rune) (bytes : GoString) : GoString :=
  if r = 0x17F then [0x73]
  else if r = 0x212A then [0x6B]
  else if 0x41 ≤ r ∧ r ≤ 0x5A then [UInt8.ofNat (r + 0x20)]
  else bytes

def foldName (key : GoString) : GoString := (pieces key).flatMap fun p => foldRune p.1 p.2

/-- Decoding into an `any`, which holds the tree; nil is `null`. -/
def decodeAny (_current : Json) (value : Json) : Option Json :=
  if representable value then some value else none

section Containers

variable {T : Type}

/-- Decoding into a struct with one field. -/
def decodeStruct (name : GoString) (field : T → Json → Option T) (current : T) : Json → Option T
  | .null => some current
  | .obj fields =>
      fields.foldlM
        (fun current p => if foldName p.1 = name then field current p.2 else some current) current
  | _ => none

/-- Decoding into a slice, of which the first element is kept. -/
def decodeSlice (zero : T) (elem : T → Json → Option T) (current : Option T) :
    Json → Option (Option T)
  | .null => some none
  | .arr [] => some none
  | .arr (first :: rest) =>
      if rest.all fun item => (elem zero item).isSome then
        (elem (current.getD zero) first).map some
      else none
  | _ => none

end Containers

/-! ## Encoding -/

def hexDigit (n : Nat) : UInt8 := UInt8.ofNat (if n < 10 then 0x30 + n else 0x57 + n)

/-- The escapes of `json.Marshal`, HTML characters included. -/
def escaped (r : Rune) (bytes : GoString) : GoString :=
  if r = runeError ∧ bytes.length = 1 then str "\\ufffd"
  else if r = 0x22 ∨ r = 0x5C then [0x5C, UInt8.ofNat r]
  else if r = 0x08 then str "\\b"
  else if r = 0x0C then str "\\f"
  else if r = 0x0A then str "\\n"
  else if r = 0x0D then str "\\r"
  else if r = 0x09 then str "\\t"
  else if r < 0x20 ∨ r = 0x3C ∨ r = 0x3E ∨ r = 0x26 then
    str "\\u00" ++ [hexDigit (r / 16), hexDigit (r % 16)]
  else if r = 0x2028 then str "\\u2028"
  else if r = 0x2029 then str "\\u2029"
  else bytes

def quote (s : GoString) : GoString :=
  str "\"" ++ ((pieces s).flatMap fun p => escaped p.1 p.2) ++ str "\""

-- The first list of the text keeps its element under a second one that does not mention it.
example :
    let field := decodeStruct (str "value") decodeAny
    let first := Json.arr [.obj [(str "value", .bool true)]]
    (decodeStruct (str "result") (decodeSlice .null field) none
      (.obj [(str "Result", first), (str "reſult", .arr [.null])]))
      = some (some (.bool true)) := by
  intro field first
  rfl

end GoJson

end SentinelOps.Theory
