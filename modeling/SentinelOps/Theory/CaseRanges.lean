/-
# Theory.CaseRanges — `unicode.ToLower`, as a table of ranges

Go's `unicode.ToLower` maps one rune to one rune (the simple case mapping of Unicode 15).
ASCII goes through a fast path; everything else is looked up in a table of ranges that is
sorted and disjoint.  Two shapes of range cover the table: a block that moves by one
offset, and a block of upper/lower pairs in which every second rune, starting at the
first, moves up by one.
-/
import Mathlib.Data.Int.Notation

namespace SentinelOps.Theory.GoText

set_option autoImplicit false

/-- A Go `rune`: a Unicode code point. -/
abbrev Rune := Nat

/-- One entry of the lower-case table. -/
inductive CaseRange where
  | shift (lo hi : Rune) (delta : Int)
  | pairs (lo hi : Rune)

namespace CaseRange

def covers (r : Rune) : CaseRange → Bool
  | shift lo hi _ => lo ≤ r && r ≤ hi
  | pairs lo hi => lo ≤ r && r ≤ hi

def lower (r : Rune) : CaseRange → Rune
  | shift _ _ delta => ((r : Int) + delta).toNat
  | pairs lo _ => if (r - lo) % 2 = 0 then r + 1 else r

end CaseRange

/-- The runes above ASCII that have a lower case of their own. -/
def caseRanges : List CaseRange :=
  [.shift 0xC0 0xD6 32, .shift 0xD8 0xDE 32, .pairs 0x100 0x12E, .shift 0x130 0x130 (-199),
   .pairs 0x132 0x136, .pairs 0x139 0x147, .pairs 0x14A 0x176, .shift 0x178 0x178 (-121),
   .pairs 0x179 0x17D, .shift 0x181 0x181 210, .pairs 0x182 0x184, .shift 0x186 0x186 206,
   .shift 0x187 0x187 1, .shift 0x189 0x18A 205, .shift 0x18B 0x18B 1, .shift 0x18E 0x18E 79,
   .shift 0x18F 0x18F 202, .shift 0x190 0x190 203, .shift 0x191 0x191 1, .shift 0x193 0x193 205,
   .shift 0x194 0x194 207, .shift 0x196 0x196 211, .shift 0x197 0x197 209, .shift 0x198 0x198 1,
   .shift 0x19C 0x19C 211, .shift 0x19D 0x19D 213, .shift 0x19F 0x19F 214, .pairs 0x1A0 0x1A4,
   .shift 0x1A6 0x1A6 218, .shift 0x1A7 0x1A7 1, .shift 0x1A9 0x1A9 218, .shift 0x1AC 0x1AC 1,
   .shift 0x1AE 0x1AE 218, .shift 0x1AF 0x1AF 1, .shift 0x1B1 0x1B2 217, .pairs 0x1B3 0x1B5,
   .shift 0x1B7 0x1B7 219, .shift 0x1B8 0x1B8 1, .shift 0x1BC 0x1BC 1, .shift 0x1C4 0x1C4 2,
   .shift 0x1C5 0x1C5 1, .shift 0x1C7 0x1C7 2, .shift 0x1C8 0x1C8 1, .shift 0x1CA 0x1CA 2,
   .pairs 0x1CB 0x1DB, .pairs 0x1DE 0x1EE, .shift 0x1F1 0x1F1 2, .pairs 0x1F2 0x1F4,
   .shift 0x1F6 0x1F6 (-97), .shift 0x1F7 0x1F7 (-56), .pairs 0x1F8 0x21E,
   .shift 0x220 0x220 (-130), .pairs 0x222 0x232, .shift 0x23A 0x23A 10795, .shift 0x23B 0x23B 1,
   .shift 0x23D 0x23D (-163), .shift 0x23E 0x23E 10792, .shift 0x241 0x241 1,
   .shift 0x243 0x243 (-195), .shift 0x244 0x244 69, .shift 0x245 0x245 71, .pairs 0x246 0x24E,
   .pairs 0x370 0x372, .shift 0x376 0x376 1, .shift 0x37F 0x37F 116, .shift 0x386 0x386 38,
   .shift 0x388 0x38A 37, .shift 0x38C 0x38C 64, .shift 0x38E 0x38F 63, .shift 0x391 0x3A1 32,
   .shift 0x3A3 0x3AB 32, .shift 0x3CF 0x3CF 8, .pairs 0x3D8 0x3EE, .shift 0x3F4 0x3F4 (-60),
   .shift 0x3F7 0x3F7 1, .shift 0x3F9 0x3F9 (-7), .shift 0x3FA 0x3FA 1, .shift 0x3FD 0x3FF (-130),
   .shift 0x400 0x40F 80, .shift 0x410 0x42F 32, .pairs 0x460 0x480, .pairs 0x48A 0x4BE,
   .shift 0x4C0 0x4C0 15, .pairs 0x4C1 0x4CD, .pairs 0x4D0 0x52E, .shift 0x531 0x556 48,
   .shift 0x10A0 0x10C5 7264, .shift 0x10C7 0x10C7 7264, .shift 0x10CD 0x10CD 7264,
   .shift 0x13A0 0x13EF 38864, .shift 0x13F0 0x13F5 8, .shift 0x1C90 0x1CBA (-3008),
   .shift 0x1CBD 0x1CBF (-3008), .pairs 0x1E00 0x1E94, .shift 0x1E9E 0x1E9E (-7615),
   .pairs 0x1EA0 0x1EFE, .shift 0x1F08 0x1F0F (-8), .shift 0x1F18 0x1F1D (-8),
   .shift 0x1F28 0x1F2F (-8), .shift 0x1F38 0x1F3F (-8), .shift 0x1F48 0x1F4D (-8),
   .shift 0x1F59 0x1F59 (-8), .shift 0x1F5B 0x1F5B (-8), .shift 0x1F5D 0x1F5D (-8),
   .shift 0x1F5F 0x1F5F (-8), .shift 0x1F68 0x1F6F (-8), .shift 0x1F88 0x1F8F (-8),
   .shift 0x1F98 0x1F9F (-8), .shift 0x1FA8 0x1FAF (-8), .shift 0x1FB8 0x1FB9 (-8),
   .shift 0x1FBA 0x1FBB (-74), .shift 0x1FBC 0x1FBC (-9), .shift 0x1FC8 0x1FCB (-86),
   .shift 0x1FCC 0x1FCC (-9), .shift 0x1FD8 0x1FD9 (-8), .shift 0x1FDA 0x1FDB (-100),
   .shift 0x1FE8 0x1FE9 (-8), .shift 0x1FEA 0x1FEB (-112), .shift 0x1FEC 0x1FEC (-7),
   .shift 0x1FF8 0x1FF9 (-128), .shift 0x1FFA 0x1FFB (-126), .shift 0x1FFC 0x1FFC (-9),
   .shift 0x2126 0x2126 (-7517), .shift 0x212A 0x212A (-8383), .shift 0x212B 0x212B (-8262),
   .shift 0x2132 0x2132 28, .shift 0x2160 0x216F 16, .shift 0x2183 0x2183 1,
   .shift 0x24B6 0x24CF 26, .shift 0x2C00 0x2C2F 48, .shift 0x2C60 0x2C60 1,
   .shift 0x2C62 0x2C62 (-10743), .shift 0x2C63 0x2C63 (-3814), .shift 0x2C64 0x2C64 (-10727),
   .pairs 0x2C67 0x2C6B, .shift 0x2C6D 0x2C6D (-10780), .shift 0x2C6E 0x2C6E (-10749),
   .shift 0x2C6F 0x2C6F (-10783), .shift 0x2C70 0x2C70 (-10782), .shift 0x2C72 0x2C72 1,
   .shift 0x2C75 0x2C75 1, .shift 0x2C7E 0x2C7F (-10815), .pairs 0x2C80 0x2CE2,
   .pairs 0x2CEB 0x2CED, .shift 0x2CF2 0x2CF2 1, .pairs 0xA640 0xA66C, .pairs 0xA680 0xA69A,
   .pairs 0xA722 0xA72E, .pairs 0xA732 0xA76E, .pairs 0xA779 0xA77B, .shift 0xA77D 0xA77D (-35332),
   .pairs 0xA77E 0xA786, .shift 0xA78B 0xA78B 1, .shift 0xA78D 0xA78D (-42280),
   .pairs 0xA790 0xA792, .pairs 0xA796 0xA7A8, .shift 0xA7AA 0xA7AA (-42308),
   .shift 0xA7AB 0xA7AB (-42319), .shift 0xA7AC 0xA7AC (-42315), .shift 0xA7AD 0xA7AD (-42305),
   .shift 0xA7AE 0xA7AE (-42308), .shift 0xA7B0 0xA7B0 (-42258), .shift 0xA7B1 0xA7B1 (-42282),
   .shift 0xA7B2 0xA7B2 (-42261), .shift 0xA7B3 0xA7B3 928, .pairs 0xA7B4 0xA7C2,
   .shift 0xA7C4 0xA7C4 (-48), .shift 0xA7C5 0xA7C5 (-42307), .shift 0xA7C6 0xA7C6 (-35384),
   .pairs 0xA7C7 0xA7C9, .shift 0xA7D0 0xA7D0 1, .pairs 0xA7D6 0xA7D8, .shift 0xA7F5 0xA7F5 1,
   .shift 0xFF21 0xFF3A 32, .shift 0x10400 0x10427 40, .shift 0x104B0 0x104D3 40,
   .shift 0x10570 0x1057A 39, .shift 0x1057C 0x1058A 39, .shift 0x1058C 0x10592 39,
   .shift 0x10594 0x10595 39, .shift 0x10C80 0x10CB2 64, .shift 0x118A0 0x118BF 32,
   .shift 0x16E40 0x16E5F 32, .shift 0x1E900 0x1E921 34]

/-- `unicode.ToLower`. -/
def lowerRune (r : Rune) : Rune :=
  if r < 0x80 then (if 0x41 ≤ r ∧ r ≤ 0x5A then r + 0x20 else r)
  else match caseRanges.find? (·.covers r) with
    | some range => range.lower r
    | none => r

-- The Kelvin sign and the dotted capital I leave the table for ASCII letters.
example : lowerRune 0x212A = 0x6B ∧ lowerRune 0x130 = 0x69 ∧ lowerRune 0xC9 = 0xE9 := by decide

end SentinelOps.Theory.GoText
