/-
# Theory.TimeText — RFC 3339 with nanoseconds, written and read

`time.Time.MarshalJSON` writes a UTC time of a year from 0 to 9999 with its nanoseconds and a `Z`;
`UnmarshalJSON` reads any offset.  Every such instant is read as it was written
(`parseRFC3339_formatRFC3339Nano`): the calendar is undone by counting the days of the years and
months that have passed.
-/
import SentinelOps.Theory.GoTime
import Mathlib.Data.List.TakeWhile

namespace SentinelOps.Theory.GoTime

open GoText

set_option autoImplicit false

/-! ## Writing -/

/-- `t.Format(time.RFC3339Nano)` of a UTC time. -/
def formatRFC3339Nano (t : Time) : GoString :=
  dateTime t ++ fraction 9 (t % 1000000000).toNat ++ str "Z"

/-! ## Reading -/

def daysIn (year : Int) (month : Nat) : Nat :=
  if month = 2 then if isLeap year then 29 else 28
  else if month = 4 ∨ month = 6 ∨ month = 9 ∨ month = 11 then 30
  else 31

/-- Days from January 1 of year 1 to a date. -/
def daysOf (year : Int) (month day : Nat) : Int :=
  (year - 1) * 365 + (year - 1) / 4 - (year - 1) / 100 + (year - 1) / 400 +
    daysBefore year (month - 1) + (day - 1)

def parseUint (s : GoString) (lo hi : Nat) : Option Nat :=
  if s.all isDigit ∧ lo ≤ digitsValue s ∧ digitsValue s ≤ hi then some (digitsValue s) else none

/-- The nanoseconds of a fraction, if there is one; digits behind the ninth do not count. -/
def parseFraction (s : GoString) : Nat × GoString :=
  let read := s.tail.takeWhile isDigit
  if s.head? = some 0x2E ∧ read ≠ [] then
    (digitsValue ((read ++ List.replicate (9 - read.length) 0x30).take 9), s.tail.dropWhile isDigit)
  else (0, s)

/-- The seconds by which the zone is ahead. -/
def parseZone (s : GoString) : Option Int :=
  if s = str "Z" then some 0
  else if s.length = 6 ∧ (s[0]? = some 0x2B ∨ s[0]? = some 0x2D) ∧ s[3]? = some 0x3A then do
    let hour ← parseUint ((s.drop 1).take 2) 0 23
    let minute ← parseUint ((s.drop 4).take 2) 0 59
    let offset : Int := (hour * 60 + minute) * 60
    return if s[0]? = some 0x2D then -offset else offset
  else none

def parseRFC3339 (s : GoString) : Option Time :=
  if s.length < 19 then none
  else if s[4]? = some 0x2D ∧ s[7]? = some 0x2D ∧ s[10]? = some 0x54 ∧ s[13]? = some 0x3A ∧
      s[16]? = some 0x3A then do
    let year ← parseUint (s.take 4) 0 9999
    let month ← parseUint ((s.drop 5).take 2) 1 12
    let day ← parseUint ((s.drop 8).take 2) 1 (daysIn year month)
    let hour ← parseUint ((s.drop 11).take 2) 0 23
    let minute ← parseUint ((s.drop 14).take 2) 0 59
    let second ← parseUint ((s.drop 17).take 2) 0 59
    let (nanos, rest) := parseFraction (s.drop 19)
    let ahead ← parseZone rest
    let seconds := daysOf year month day * 86400 + hour * 3600 + minute * 60 + second - ahead
    return seconds * 1000000000 + nanos
  else none

example : parseRFC3339 (str "1969-12-31T16:00:00.25-08:00") =
    parseRFC3339 (str "1970-01-01T00:00:00.25Z") := by decide

/-! ## The calendar -/

/-- A day by its cycle of 400 years, the century and the four years in it, and the year in these.
Only the last year of four has a day 366, and the last of a century only in the last century. -/
theorem yearDay_cases (days : Int) :
    ∃ (q : Int) (c k y d : Nat), yearDay days = (q * 400 + c * 100 + k * 4 + y + 1, d) ∧
      days = q * 146097 + c * 36524 + k * 1461 + y * 365 + d ∧ c ≤ 3 ∧ k ≤ 24 ∧ y ≤ 3 ∧
      d ≤ 365 ∧ (d = 365 → y = 3 ∧ (k = 24 → c = 3)) := by
  let d400 := (days % 146097).toNat
  let c := min 3 (d400 / 36524)
  let d100 := d400 - c * 36524
  let k := d100 / 1461
  let d4 := d100 - k * 1461
  let y := min 3 (d4 / 365)
  have cycle : days = days / 146097 * 146097 + d400 ∧ d400 < 146097 := by omega
  have century : c ≤ 3 ∧ d400 = c * 36524 + d100 ∧ d100 ≤ 36524 ∧ (d100 = 36524 → c = 3) := by omega
  have four : k ≤ 24 ∧ d100 = k * 1461 + d4 ∧ d4 ≤ 1460 := by omega
  have year : y ≤ 3 ∧ d4 = y * 365 + (d4 - y * 365) ∧ d4 - y * 365 ≤ 365 ∧
      (d4 - y * 365 = 365 → y = 3 ∧ d4 = 1460) := by omega
  refine ⟨days / 146097, c, k, y, d4 - y * 365, rfl, ?_, century.1, four.1, year.1, year.2.2.1, ?_⟩
  · omega
  · intro last
    obtain ⟨third, whole⟩ := year.2.2.2 last
    exact ⟨third, fun end_ => century.2.2.2 (by omega)⟩

theorem yearDay_sum (days : Int) :
    ((yearDay days).1 - 1) * 365 + ((yearDay days).1 - 1) / 4 - ((yearDay days).1 - 1) / 100 +
      ((yearDay days).1 - 1) / 400 + (yearDay days).2 = days := by
  obtain ⟨q, c, k, y, d, shape, sum, century, four, year, -, -⟩ := yearDay_cases days
  have fours : (q * 400 + c * 100 + k * 4 + y + 1 - 1 : Int) / 4 = q * 100 + c * 25 + k := by omega
  have centuries : (q * 400 + c * 100 + k * 4 + y + 1 - 1 : Int) / 100 = q * 4 + c := by omega
  have cycles : (q * 400 + c * 100 + k * 4 + y + 1 - 1 : Int) / 400 = q := by omega
  rw [shape]
  dsimp only
  rw [fours, centuries, cycles]
  omega

theorem yearDay_lt (days : Int) :
    (yearDay days).2 < if isLeap (yearDay days).1 then 366 else 365 := by
  obtain ⟨q, c, k, y, d, shape, -, century, four, year, small, last⟩ := yearDay_cases days
  rw [shape]
  dsimp only
  by_cases full : d = 365
  · obtain ⟨third, end_⟩ := last full
    have leap : isLeap (q * 400 + c * 100 + k * 4 + y + 1) = true := by
      simp only [isLeap, Bool.and_eq_true, Bool.or_eq_true, decide_eq_true_eq]
      omega
    rw [leap, full]
    decide
  · split <;> omega

/-- The months before a day of the year, and the day of the month. -/
theorem month_cases : ∀ leap : Bool, ∀ day < if leap then 366 else 365,
    let before := fun m => monthStarts.getD m 0 + (if leap && 2 ≤ m then 1 else 0)
    let m := ((List.range 12).filter fun m => before m ≤ day).length
    (1 ≤ m ∧ m ≤ 12) ∧ before (m - 1) ≤ day ∧ day - before (m - 1) + 1 ≤
      if m = 2 then if leap then 29 else 28
      else if m = 4 ∨ m = 6 ∨ m = 9 ∨ m = 11 then 30
      else 31 := by
  decide +kernel

theorem monthDay_spec {year : Int} {day : Nat} (inside : day < if isLeap year then 366 else 365) :
    (1 ≤ (monthDay year day).1 ∧ (monthDay year day).1 ≤ 12) ∧
      (1 ≤ (monthDay year day).2 ∧ (monthDay year day).2 ≤ daysIn year (monthDay year day).1) ∧
      daysBefore year ((monthDay year day).1 - 1) + ((monthDay year day).2 - 1) = day := by
  obtain ⟨months, before, within⟩ := month_cases (isLeap year) day inside
  refine ⟨months, ⟨Nat.le_add_left 1 _, within⟩, ?_⟩
  show daysBefore year ((monthDay year day).1 - 1) +
    (day - daysBefore year ((monthDay year day).1 - 1) + 1 - 1) = day
  have below : daysBefore year ((monthDay year day).1 - 1) ≤ day := before
  omega

/-! ## Digits -/

theorem length_zeroPadded {w n : Nat} (small : n < 10 ^ w) : (zeroPadded w n).length = w := by
  have few : (Nat.digits 10 n).length ≤ w := (Nat.digits_length_le_iff (by decide) n).2 small
  simp only [zeroPadded, List.length_map, List.length_reverse, List.length_append,
    List.length_replicate]
  omega

theorem parseUint_zeroPadded (w : Nat) {n lo hi : Nat} (above : lo ≤ n) (below : n ≤ hi) :
    parseUint (zeroPadded w n) lo hi = some n := by
  have read := digitsValue_zeroPadded w n
  have all : (zeroPadded w n).all isDigit = true :=
    List.all_eq_true.2 fun _ => isDigit_of_mem_zeroPadded
  rw [parseUint, read, if_pos ⟨all, above, below⟩]

theorem trimRightByte_append (b : UInt8) (s : GoString) :
    trimRightByte b s ++ List.replicate (s.length - (trimRightByte b s).length) b = s := by
  have split : s = trimRightByte b s ++ (s.reverse.takeWhile (· == b)).reverse := by
    rw [trimRightByte, ← List.reverse_append, List.takeWhile_append_dropWhile, List.reverse_reverse]
  have same : ∀ c ∈ (s.reverse.takeWhile (· == b)).reverse, c = b := by
    intro c member
    simpa using List.mem_takeWhile_imp (List.mem_reverse.1 member)
  have zeros := List.eq_replicate_iff.2 ⟨rfl, same⟩
  have count := congrArg List.length split
  rw [List.length_append] at count
  have length : s.length - (trimRightByte b s).length =
      ((s.reverse.takeWhile (· == b)).reverse).length := by omega
  rw [length, ← zeros, ← split]

/-- The nanoseconds are read with the zeros that were left out. -/
theorem parseFraction_fraction {n : Nat} (small : n < 10 ^ 9) :
    parseFraction (fraction 9 n ++ str "Z") = (n, str "Z") := by
  have kept : n % 10 ^ 9 = n := Nat.mod_eq_of_lt small
  rw [fraction, kept]
  split
  · next zero =>
      rw [zero]
      decide
  · next positive =>
      have whole := trimRightByte_append 0x30 (zeroPadded 9 n)
      rw [length_zeroPadded small] at whole
      generalize trimRightByte 0x30 (zeroPadded 9 n) = read at whole
      have digit : ∀ b ∈ read, isDigit b = true := fun b member =>
        isDigit_of_mem_zeroPadded (whole ▸ List.mem_append_left _ member)
      have some_ : read ≠ [] := by
        rintro rfl
        have value := digitsValue_zeroPadded 9 n
        rw [← whole] at value
        exact positive (value.symm.trans (by decide))
      have taken : (read ++ str "Z").takeWhile isDigit = read ∧
          (read ++ str "Z").dropWhile isDigit = str "Z" := by
        rw [List.takeWhile_append_of_pos digit, List.dropWhile_append_of_pos digit]
        exact ⟨List.append_nil read, rfl⟩
      have full : (zeroPadded 9 n).take 9 = zeroPadded 9 n :=
        List.take_of_length_le (length_zeroPadded small).le
      have text : str "." ++ read ++ str "Z" = 0x2E :: (read ++ str "Z") := rfl
      rw [text, parseFraction, List.tail_cons, taken.1, taken.2, if_pos ⟨rfl, some_⟩, whole, full,
        digitsValue_zeroPadded]

theorem parseRFC3339_text {Y M D h m s : GoString} (year : Y.length = 4) (month : M.length = 2)
    (day : D.length = 2) (hour : h.length = 2) (minute : m.length = 2) (second : s.length = 2)
    (rest : GoString) :
    parseRFC3339 (Y ++ str "-" ++ M ++ str "-" ++ D ++ str "T" ++ h ++ str ":" ++ m ++ str ":" ++
        s ++ rest) = do
      let year ← parseUint Y 0 9999
      let month ← parseUint M 1 12
      let day ← parseUint D 1 (daysIn year month)
      let hour ← parseUint h 0 23
      let minute ← parseUint m 0 59
      let second ← parseUint s 0 59
      let (nanos, rest) := parseFraction rest
      let ahead ← parseZone rest
      let seconds := daysOf year month day * 86400 + hour * 3600 + minute * 60 + second - ahead
      return seconds * 1000000000 + nanos := by
  obtain ⟨y0, y1, y2, y3, rfl⟩ := List.length_eq_four.1 year
  obtain ⟨m0, m1, rfl⟩ := List.length_eq_two.1 month
  obtain ⟨d0, d1, rfl⟩ := List.length_eq_two.1 day
  obtain ⟨h0, h1, rfl⟩ := List.length_eq_two.1 hour
  obtain ⟨n0, n1, rfl⟩ := List.length_eq_two.1 minute
  obtain ⟨s0, s1, rfl⟩ := List.length_eq_two.1 second
  have dash : str "-" = [0x2D] := rfl
  have colon : str ":" = [0x3A] := rfl
  have letter : str "T" = [0x54] := rfl
  rw [dash, colon, letter]
  simp only [List.cons_append, List.nil_append]
  have long : ¬ (y0 :: y1 :: y2 :: y3 :: 0x2D :: m0 :: m1 :: 0x2D :: d0 :: d1 :: 0x54 :: h0 :: h1 ::
      0x3A :: n0 :: n1 :: 0x3A :: s0 :: s1 :: rest).length < 19 :=
    Nat.not_lt.2 (Nat.le_add_left 19 rest.length)
  rw [parseRFC3339, if_neg long, if_pos ⟨rfl, rfl, rfl, rfl, rfl⟩]
  rfl

theorem signed_of_nonneg (w : Nat) {n : Int} (positive : 0 ≤ n) :
    signed w n = zeroPadded w n.natAbs := if_neg (by omega)

/-- The seconds of an instant, and the nanoseconds behind them. -/
theorem seconds_cases (t : Time) : ∃ (seconds : Int) (nanos : Nat), nanos < 10 ^ 9 ∧
    t / 1000000000 = seconds ∧ (t % 1000000000).toNat = nanos ∧
    t = seconds * 1000000000 + nanos :=
  ⟨t / 1000000000, (t % 1000000000).toNat, by lia, rfl, rfl, by lia⟩

/-- **Every instant of the years 0 to 9999 is read as it was written.** -/
theorem parseRFC3339_formatRFC3339Nano {t : Time} (low : 0 ≤ t.year) (high : t.year ≤ 9999) :
    parseRFC3339 (formatRFC3339Nano t) = some t := by
  obtain ⟨seconds, nanos, small, seconds_eq, nanos_eq, instant⟩ := seconds_cases t
  rw [Time.year, seconds_eq] at low high
  have sum := yearDay_sum (seconds / 86400)
  have inside := yearDay_lt (seconds / 86400)
  rw [formatRFC3339Nano, dateTime, seconds_eq, nanos_eq, instant]
  generalize yearDay (seconds / 86400) = date at *
  obtain ⟨year, day⟩ := date
  obtain ⟨months, days, passed⟩ := monthDay_spec inside
  dsimp only at *
  generalize monthDay year day = date at *
  obtain ⟨month, dom⟩ := date
  dsimp only at *
  have most : daysIn year month ≤ 31 := by
    unfold daysIn
    split_ifs <;> omega
  have clock : (seconds % 86400).toNat < 86400 := by omega
  have cast : (year.natAbs : Int) = year := by omega
  have two : ∀ n < 100, (zeroPadded 2 n).length = 2 := fun n below => length_zeroPadded below
  rw [signed_of_nonneg 4 low, List.append_assoc,
    parseRFC3339_text (length_zeroPadded (by omega)) (two _ (by omega)) (two _ (by omega))
      (two _ (by omega)) (two _ (by omega)) (two _ (by omega)),
    parseFraction_fraction small, parseUint_zeroPadded 4 (by omega) (by omega),
    parseUint_zeroPadded 2 months.1 months.2, parseUint_zeroPadded 2 (by omega) (by omega),
    parseUint_zeroPadded 2 (by omega) (by omega), parseUint_zeroPadded 2 (by omega) (by omega)]
  dsimp only [Option.bind_eq_bind, Option.bind_some]
  rw [cast, parseUint_zeroPadded 2 days.1 days.2]
  dsimp only [Option.bind_some]
  rw [show parseZone (str "Z") = some 0 from by decide, Option.bind_some, Option.pure_def,
    Option.some.injEq, daysOf]
  omega

theorem ascii_formatRFC3339Nano (t : Time) : ∀ b ∈ formatRFC3339Nano t, b < 0x80 := by
  have digit : ∀ b, isDigit b = true → b < 0x80 := by grind [isDigit]
  refine List.forall_mem_append.2 ⟨List.forall_mem_append.2 ⟨?_, ?_⟩, by decide +kernel⟩
  · exact forall_mem_dateTime digit (by decide) (by decide) (by decide) t
  · exact forall_mem_fraction digit (by decide) 9 _

end SentinelOps.Theory.GoTime
