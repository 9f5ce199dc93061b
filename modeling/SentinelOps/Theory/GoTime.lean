/-
# Theory.GoTime — instants, durations, and how they print

A `time.Time` is its instant: nanoseconds since Go's zero time, January 1 of year 1, UTC.
`Time.isZero` therefore singles out the instant 0, and instants before it are legal.  A
`time.Duration` is an `int64` of nanoseconds; `Time.sub` saturates, as the Go method does.

The second half is the text of both in UTC: `time.RFC3339` and `Duration.String`.
-/
import SentinelOps.Theory.GoText

namespace SentinelOps.Theory.GoTime

open GoText

set_option autoImplicit false

/-- `time.Time`, as nanoseconds since the zero time. -/
abbrev Time := Int

/-- `time.Duration`. -/
abbrev Duration := Int64

namespace Time

def isZero (t : Time) : Bool := t = 0

def before (t u : Time) : Bool := t < u

def add (t : Time) (d : Duration) : Time := t + d.toInt

/-- `t.Sub(u)`, saturated at the ends of `Duration`. -/
def sub (t u : Time) : Duration := Int64.ofIntClamp (t - u)

theorem sub_toInt_of_le {t u : Time} {d : Duration} (ahead : u ≤ t) (within : t - u ≤ d.toInt) :
    (sub t u).toInt = t - u := by
  have top := d.toInt_le
  have bottom : Int64.minValue.toInt ≤ 0 := by decide
  exact Int64.toInt_ofIntClamp (by lia) (by lia)

/-- The saturated difference compares as the real one, except that nothing is above the
largest `Duration`. -/
theorem lt_sub_iff {t u : Time} {d : Duration}
    (unsaturated : d = Int64.maxValue → t - u ≤ Int64.maxValue.toInt) :
    d < sub t u ↔ d.toInt < t - u := by
  have top := d.toInt_le
  have bottom : Int64.minValue.toInt ≤ d.toInt := Int64.toInt_minValue ▸ d.le_toInt
  rw [Int64.lt_iff_toInt_lt, sub, Int64.ofIntClamp]
  split
  · split
    · rw [Int64.toInt_ofIntLE]
    · rename_i above
      have below : d.toInt ≠ Int64.maxValue.toInt := by
        intro same
        exact above (unsaturated (Int64.toInt_inj.1 same))
      lia
  · lia

theorem add_neg {t : Time} {d : Duration} (negatable : d ≠ Int64.minValue) :
    add t (-d) = t - d.toInt := by
  have bottom := d.le_toInt
  have top := d.toInt_le
  have lowest : d.toInt ≠ -2 ^ 63 := by
    intro same
    exact negatable (Int64.toInt_inj.1 (same.trans Int64.toInt_minValue.symm))
  rw [Int64.toInt_maxValue] at top
  rw [add, Int64.toInt_neg, Int.bmod_eq_of_le (by omega) (by omega)]
  lia

end Time

/-- `time.Second` and `time.Minute`. -/
def second : Duration := 1000000000

def minute : Duration := 60000000000

/-! ## Printing -/

/-- Days before the first of each month in a common year. -/
def monthStarts : List Nat := [0, 31, 59, 90, 120, 151, 181, 212, 243, 273, 304, 334]

def isLeap (year : Int) : Bool := year % 4 = 0 && (year % 100 ≠ 0 || year % 400 = 0)

/-- Days before month `m` (counted from zero) of `year`. -/
def daysBefore (year : Int) (m : Nat) : Nat :=
  monthStarts.getD m 0 + (if isLeap year && 2 ≤ m then 1 else 0)

/-- The year and the day in it, from days since January 1 of year 1. -/
def yearDay (days : Int) : Int × Nat :=
  let d400 := (days % 146097).toNat
  let y100 := min 3 (d400 / 36524)
  let d100 := d400 - y100 * 36524
  let y4 := d100 / 1461
  let d4 := d100 - y4 * 1461
  let y1 := min 3 (d4 / 365)
  (days / 146097 * 400 + y100 * 100 + y4 * 4 + y1 + 1, d4 - y1 * 365)

/-- The month (counted from one) and the day of the month. -/
def monthDay (year : Int) (day : Nat) : Nat × Nat :=
  let m := ((List.range 12).filter fun m => daysBefore year m ≤ day).length
  (m, day - daysBefore year (m - 1) + 1)

def signed (w : Nat) (n : Int) : GoString :=
  if n < 0 then str "-" ++ zeroPadded w n.natAbs else zeroPadded w n.natAbs

/-- `t.Year()` of a UTC time. -/
def Time.year (t : Time) : Int := (yearDay (t / 1000000000 / 86400)).1

/-- Date and time of day in UTC. -/
def dateTime (t : Time) : GoString :=
  let seconds := t / 1000000000
  let (year, day) := yearDay (seconds / 86400)
  let (month, dom) := monthDay year day
  let clock := (seconds % 86400).toNat
  signed 4 year ++ str "-" ++ zeroPadded 2 month ++ str "-" ++ zeroPadded 2 dom ++ str "T" ++
    zeroPadded 2 (clock / 3600) ++ str ":" ++ zeroPadded 2 (clock / 60 % 60) ++ str ":" ++
    zeroPadded 2 (clock % 60)

/-- `t.Format(time.RFC3339)` of a UTC time. -/
def formatRFC3339 (t : Time) : GoString := dateTime t ++ str "Z"

/-- `d.Round(m)`: to the nearest multiple of `m`, halves away from zero, saturated. -/
def round (d m : Duration) : Duration :=
  if m ≤ 0 then d
  else
    let r := d.toInt.natAbs % m.toInt.natAbs
    let down := d.toInt.natAbs - r
    let nearest := if 2 * r < m.toInt.natAbs then down else down + m.toInt.natAbs
    Int64.ofIntClamp (if d < 0 then -nearest else nearest)

/-- The fraction `.ddd` of `n / 10 ^ prec`, without trailing zeros. -/
def fraction (prec n : Nat) : GoString :=
  let digits := trimRightByte 0x30 (zeroPadded prec (n % 10 ^ prec))
  if n % 10 ^ prec = 0 then [] else str "." ++ digits

/-- `d.String()`. -/
def durationString (d : Duration) : GoString :=
  let u := d.toInt.natAbs
  let body :=
    if u = 0 then str "0s"
    else if u < 1000 then decimal u ++ str "ns"
    else if u < 1000000 then decimal (u / 1000) ++ fraction 3 u ++ str "µs"
    else if u < 1000000000 then decimal (u / 1000000) ++ fraction 6 u ++ str "ms"
    else
      let seconds := u / 1000000000
      let tail := decimal (seconds % 60) ++ fraction 9 u ++ str "s"
      let minutes := seconds / 60
      if minutes = 0 then tail
      else if minutes / 60 = 0 then decimal minutes ++ str "m" ++ tail
      else decimal (minutes / 60) ++ str "h" ++ decimal (minutes % 60) ++ str "m" ++ tail
  if d < 0 then str "-" ++ body else body

example : formatRFC3339 0 = str "0001-01-01T00:00:00Z" ∧
    formatRFC3339 63914702400000000000 = str "2026-05-18T12:00:00Z" ∧
    formatRFC3339 (-1) = str "0000-12-31T23:59:59Z" := by decide

example : durationString (round 3723600000000 second) = str "1h2m4s" ∧
    durationString (round 400000000 second) = str "0s" ∧
    durationString 1500 = str "1.5µs" := by decide

/-! ## The bytes of what is printed -/

section Bytes

variable {P : UInt8 → Prop} (digit : ∀ b, isDigit b = true → P b)

include digit

theorem forall_mem_zeroPadded (w n : Nat) : ∀ b ∈ zeroPadded w n, P b :=
  fun b member => digit b (isDigit_of_mem_zeroPadded member)

theorem forall_mem_signed (minus : P 0x2D) (w : Nat) (n : Int) : ∀ b ∈ signed w n, P b := by
  unfold signed
  split
  · exact List.forall_mem_cons.2 ⟨minus, forall_mem_zeroPadded digit w _⟩
  · exact forall_mem_zeroPadded digit w _

theorem forall_mem_fraction (point : P 0x2E) (prec n : Nat) : ∀ b ∈ fraction prec n, P b := by
  unfold fraction
  split
  · exact fun b none_ => absurd none_ List.not_mem_nil
  · refine List.forall_mem_append.2 ⟨List.forall_mem_singleton.2 point, fun b member => ?_⟩
    refine forall_mem_zeroPadded digit prec (n % 10 ^ prec) b ?_
    rw [trimRightByte, List.mem_reverse] at member
    exact List.mem_reverse.1 ((List.dropWhile_sublist _).subset member)

theorem forall_mem_dateTime (dash : P 0x2D) (colon : P 0x3A) (letter : P 0x54) (t : Time) :
    ∀ b ∈ dateTime t, P b := by
  have two := forall_mem_zeroPadded digit 2
  have dashes : ∀ b ∈ str "-", P b := List.forall_mem_singleton.2 dash
  have colons : ∀ b ∈ str ":", P b := List.forall_mem_singleton.2 colon
  have letters : ∀ b ∈ str "T", P b := List.forall_mem_singleton.2 letter
  have year := forall_mem_signed digit dash 4 (yearDay (t / 1000000000 / 86400)).1
  unfold dateTime
  dsimp only
  simp only [List.forall_mem_append]
  exact ⟨⟨⟨⟨⟨⟨⟨⟨⟨⟨year, dashes⟩, two _⟩, dashes⟩, two _⟩, letters⟩, two _⟩, colons⟩, two _⟩,
    colons⟩, two _⟩

end Bytes

/-- Neither white space nor a control character in it. -/
def Visible (s : GoString) : Prop := ∀ b ∈ s, 0x20 < b

instance (s : GoString) : Decidable (Visible s) := inferInstanceAs (Decidable (∀ b ∈ s, _))

theorem Visible.append {s t : GoString} (first : Visible s) (second : Visible t) :
    Visible (s ++ t) := List.forall_mem_append.2 ⟨first, second⟩

theorem visible_digit (b : UInt8) (digit : isDigit b = true) : 0x20 < b := by
  grind [isDigit]

theorem visible_zeroPadded (w n : Nat) : Visible (zeroPadded w n) :=
  forall_mem_zeroPadded visible_digit w n

theorem visible_decimal (n : Nat) : Visible (decimal n) := visible_zeroPadded 1 n

theorem visible_formatRFC3339 (t : Time) : Visible (formatRFC3339 t) := by
  rw [formatRFC3339]
  refine Visible.append ?_ (by decide +kernel)
  exact forall_mem_dateTime visible_digit (by decide) (by decide) (by decide) t

theorem visible_fraction (prec n : Nat) : Visible (fraction prec n) :=
  forall_mem_fraction visible_digit (by decide) prec n

/-- A duration is printed, as visible bytes. -/
theorem visible_durationString (d : Duration) :
    Visible (durationString d) ∧ durationString d ≠ [] := by
  have number := visible_decimal
  have part := visible_fraction
  have units : Visible (str "0s") ∧ Visible (str "ns") ∧ Visible (str "µs") ∧ Visible (str "ms") ∧
      Visible (str "s") ∧ Visible (str "m") ∧ Visible (str "h") ∧ Visible (str "-") := by
    decide +kernel
  obtain ⟨zero, nano, micro, milli, sec, min, hour, minus⟩ := units
  have digits : ∀ n rest, decimal n ++ rest ≠ [] := fun n rest => by
    simp [GoText.decimal_ne_nil n]
  have tail : ∀ u n : Nat, Visible (decimal n ++ fraction 9 u ++ str "s") := fun u n =>
    ((number _).append (part _ _)).append sec
  have body : ∀ text : GoString, Visible text ∧ text ≠ [] →
      Visible (if d < 0 then str "-" ++ text else text) ∧
        (if d < 0 then str "-" ++ text else text) ≠ [] := by
    rintro text ⟨visible, nonempty⟩
    split
    · exact ⟨minus.append visible, by simp [nonempty]⟩
    · exact ⟨visible, nonempty⟩
  unfold durationString
  refine body _ ?_
  dsimp only
  split_ifs
  · exact ⟨zero, by decide⟩
  · exact ⟨(number _).append nano, digits _ _⟩
  · exact ⟨((number _).append (part _ _)).append micro, by simp [GoText.decimal_ne_nil]⟩
  · exact ⟨((number _).append (part _ _)).append milli, by simp [GoText.decimal_ne_nil]⟩
  · exact ⟨tail _ _, by simp [GoText.decimal_ne_nil]⟩
  · exact ⟨((number _).append min).append (tail _ _), by simp [GoText.decimal_ne_nil]⟩
  · exact ⟨((((number _).append hour).append (number _)).append min).append (tail _ _),
      by simp [GoText.decimal_ne_nil]⟩

end SentinelOps.Theory.GoTime
