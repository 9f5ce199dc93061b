/-
# Theory.SshWire — integers and strings as SSH messages carry them

`ssh.Marshal` and `ssh.Unmarshal` for structs of `uint32` and `string` fields.  An integer is four
bytes, the highest first; a string is its length and its bytes.  A length is cut to 32 bits when it
is written, and bytes that are left over are an error when a message is read.
-/
import SentinelOps.Theory.GoText

namespace SentinelOps.Theory.SshWire

open GoText (GoString)

set_option autoImplicit false

/-- The low 32 bits. -/
def putUint32 (n : Nat) : GoString :=
  [UInt8.ofNat (n / 2 ^ 24), UInt8.ofNat (n / 2 ^ 16), UInt8.ofNat (n / 2 ^ 8), UInt8.ofNat n]

/-- `parseUint32`. -/
def parseUint32 : GoString → Option (Nat × GoString)
  | a :: b :: c :: d :: rest =>
      some (a.toNat * 2 ^ 24 + b.toNat * 2 ^ 16 + c.toNat * 2 ^ 8 + d.toNat, rest)
  | _ => none

/-- `parseString`; the length of what is left is cut to 32 bits before it is compared. -/
def parseString (s : GoString) : Option (GoString × GoString) :=
  (parseUint32 s).bind fun (length, rest) =>
    if rest.length % 2 ^ 32 < length then none
    else some (rest.take length, rest.drop length)

def marshalUint32 (n : UInt32) : GoString := putUint32 n.toNat

def marshalString (value : GoString) : GoString := putUint32 value.length ++ value

/-- A message of one string. -/
def unmarshalString (payload : GoString) : Option GoString :=
  (parseString payload).bind fun (value, rest) => if rest = [] then some value else none

theorem parseUint32_putUint32 (n : Nat) (rest : GoString) :
    parseUint32 (putUint32 n ++ rest) = some (n % 2 ^ 32, rest) := by
  simp only [putUint32, List.cons_append, List.nil_append, parseUint32, UInt8.toNat_ofNat']
  congr 2
  omega

theorem unmarshalString_marshalString {value : GoString} (short : value.length < 2 ^ 32) :
    unmarshalString (marshalString value) = some value := by
  have split : parseString (marshalString value) = some (value, []) := by
    simp only [parseString, marshalString, parseUint32_putUint32, Option.bind_some,
      Nat.mod_eq_of_lt short, lt_irrefl, if_false, List.take_length, List.drop_length]
  simp [unmarshalString, split]

end SentinelOps.Theory.SshWire
