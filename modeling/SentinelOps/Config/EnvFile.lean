/-
# Config.EnvFile — variables from a file, `loadEnvFileIfExists` of `internal/config/config.go`

The file is read line by line.  A variable that is unset or empty gets the value of the next line
for it, until it has one that is not empty.  Three things come between a value in the file and the
variable: `strings.Trim` takes every quote off both ends and not one pair, a line that does not
fit into the scanner's buffer ends the reading, and the system takes no NUL in a name or a value.
`loaded_iff` says that there is nothing else.

Poles: `loaded_example` and `quote_lost`.
-/
import SentinelOps.Security.PathGuard
import SentinelOps.Theory.GoConcat
import SentinelOps.Theory.GoMap

namespace SentinelOps.Config

open Theory
open GoText (GoString str trimSpace)
open Trim (trimEnds Clean)
open Security (validateFilesystemPath)

set_option autoImplicit false

def newline : UInt8 := 0x0A

def equals : UInt8 := 0x3D

/-! ## Reading the file -/

/-- The variables of the process. -/
abbrev Env := GoMap GoString GoString

/-- `os.Setenv`; what it refuses is left alone. -/
def setenv (env : Env) (key value : GoString) : Env :=
  if key = [] ∨ equals ∈ key ∨ 0 ∈ key ∨ 0 ∈ value then env else env.set key value

def isQuote (b : UInt8) : Bool := b = 0x22 || b = 0x27

/-- `strings.Trim(value, "\"'")`. -/
def trimQuotes (value : GoString) : GoString := trimEnds isQuote value

/-- `strings.Cut(line, "=")`. -/
def cut (line : GoString) : Option (GoString × GoString) :=
  if equals ∈ line then
    some (line.takeWhile (· != equals), (line.dropWhile (· != equals)).drop 1)
  else none

/-- `bufio.ScanLines` takes a carriage return off the end of a line. -/
def dropCR (line : GoString) : GoString :=
  if line.getLast? = some 0x0D then line.dropLast else line

/-- What one line does. -/
def loadLine (env : Env) (text : GoString) : Env :=
  let line := trimSpace (dropCR text)
  if line = [] ∨ str "#" <+: line then env
  else
    match cut line with
    | none => env
    | some (key, value) =>
        let key := trimSpace key
        let value := trimQuotes (trimSpace value)
        if key = [] then env
        else if (env.get key).getD [] = [] then setenv env key value
        else env

/-- The longest line the scanner returns: with its newline it fills the buffer. -/
def maxLine : Nat := 65535

/-- `for scanner.Scan()`: a line that is too long ends it. -/
def scan : List GoString → Env → Env
  | [], env => env
  | line :: rest, env => if maxLine < line.length then env else scan rest (loadLine env line)

/-- `file` is what can be read of a path, if it can be opened. -/
def loadEnvFileIfExists (getwd : Except GoString GoString) (file : GoString → Option GoString)
    (path : GoString) (env : Env) : Env :=
  if trimSpace path = [] then env
  else
    match validateFilesystemPath getwd path (str "archivo de entorno") with
    | .error _ => env
    | .ok safePath =>
        match file safePath with
        | none => env
        | some text => scan (text.splitOn newline) env

/-! ## What a file says -/

inductive EnvLine where
  | blank (text : GoString)
  | comment (text : GoString)
  | assign (key value : GoString)

namespace EnvLine

def text : EnvLine → GoString
  | blank text => text
  | comment text => text
  | assign key value => key ++ equals :: value

/-- A line that means what its constructor says. -/
def Valid : EnvLine → Prop
  | blank text => newline ∉ text ∧ trimSpace text = []
  | comment text => newline ∉ text ∧ str "#" <+: trimSpace text
  | assign key value =>
      (newline ∉ key ∧ equals ∉ key ∧ key ≠ [] ∧ trimSpace key = key ∧ ¬ str "#" <+: key) ∧
        newline ∉ value ∧ trimSpace value = value

theorem newline_notMem_text {line : EnvLine} (valid : line.Valid) : newline ∉ line.text := by
  cases line with
  | assign key value =>
      have apart : newline ≠ equals := by decide
      simp [text, valid.1.1, valid.2.1, apart]
  | _ => exact valid.1

end EnvLine

/-- The value without the pair of quotes that encloses it, if one does. -/
def unquote (value : GoString) : GoString :=
  match value with
  | first :: second :: rest =>
      if isQuote first ∧ (second :: rest).getLast? = some first then (second :: rest).dropLast
      else value
  | _ => value

/-- What a line gives a variable. -/
def given (key : GoString) : EnvLine → Option GoString
  | .assign key' value => if key' = key then some (unquote value) else none
  | _ => none

/-- The first value that is not empty. -/
def firstValue (key : GoString) (lines : List EnvLine) : Option GoString :=
  (lines.filterMap (given key)).find? fun value => value ≠ []

/-- Variables keep a value that is not empty, and otherwise have the first one of the file; what
the file does not name is as before. -/
structure Loaded (lines : List EnvLine) (start final : Env) : Prop where
  kept : ∀ key value, start.get key = some value → value ≠ [] → final.get key = some value
  set : ∀ key value, (start.get key).getD [] = [] → firstValue key lines = some value →
    final.get key = some value
  empty : ∀ key, (start.get key).getD [] = [] → firstValue key lines = none →
    (final.get key).getD [] = []
  unnamed : ∀ key, (∀ line ∈ lines, given key line = none) → final.get key = start.get key

/-- The line gives the variable its first value that is not empty. -/
structure Decides (key : GoString) (lines before : List EnvLine) (line : EnvLine)
    (value : GoString) : Prop where
  split : ∃ after, lines = before ++ line :: after
  earlier : ∀ l ∈ before, given key l = none ∨ given key l = some []
  gives : given key line = some value
  nonempty : value ≠ []

/-- Nothing comes between the value and the variable. -/
structure Reaches (key : GoString) (before : List EnvLine) (line : EnvLine) (value : GoString) :
    Prop where
  short : ∀ l ∈ before ++ [line], l.text.length ≤ maxLine
  unquoted : Clean isQuote value
  textual : 0 ∉ value
  named : 0 ∉ key

/-! ## Quotes -/

theorem trimQuotes_unquote (value : GoString) : trimQuotes (unquote value) = trimQuotes value := by
  unfold unquote
  split
  · next first second rest =>
      split
      · next enclosed =>
          obtain ⟨quote, last⟩ := enclosed
          have whole : first :: second :: rest =
              [first] ++ (second :: rest).dropLast ++ [first] := by
            obtain ⟨init, shape⟩ := List.getLast?_eq_some_iff.1 last
            rw [shape, List.dropLast_concat, List.append_assoc, List.singleton_append]
          rw [trimQuotes, trimQuotes, whole, Trim.trimEnds_surrounded]
          · simpa using quote
          · simpa using quote
      · rfl
  · rfl

theorem trimQuotes_eq_self_iff (value : GoString) :
    trimQuotes value = value ↔ Clean isQuote value := Trim.trimEnds_eq_self_iff value

/-! ## One line -/

theorem trimSpace_dropCR (text : GoString) : trimSpace (dropCR text) = trimSpace text := by
  unfold dropCR
  split
  · next last =>
      obtain ⟨init, rfl⟩ := List.getLast?_eq_some_iff.1 last
      have behind := @GoText.trimSpace_surrounded [] init [0x0D] (by decide) (by decide)
      rw [List.dropLast_concat, ← behind, List.nil_append]
  · rfl

/-- What a line does to one variable. -/
def step (key : GoString) (line : EnvLine) (current : Option GoString) : Option GoString :=
  match line with
  | .assign key' value =>
      if key' = key ∧ current.getD [] = [] ∧ 0 ∉ key ∧ 0 ∉ trimQuotes value then
        some (trimQuotes value)
      else current
  | _ => current

theorem cut_assign {key : GoString} (value : GoString) (noEquals : equals ∉ key) :
    cut (key ++ equals :: value) = some (key, value) := by
  have passed : ∀ b ∈ key, (b != equals) = true := fun b member =>
    bne_iff_ne.2 fun same => noEquals (same ▸ member)
  have inside : equals ∈ key ++ equals :: value := by simp
  rw [cut, if_pos inside, List.takeWhile_append_of_pos passed, List.dropWhile_append_of_pos passed]
  simp

theorem loadLine_assign (env : Env) {key value : GoString}
    (valid : (EnvLine.assign key value).Valid) :
    loadLine env (EnvLine.assign key value).text =
      if (env.get key).getD [] = [] then setenv env key (trimQuotes value) else env := by
  obtain ⟨⟨-, noEquals, nonempty, trimmed, noHash⟩, -, trimmed'⟩ := valid
  have line : trimSpace (dropCR (key ++ equals :: value)) = key ++ equals :: value := by
    rw [trimSpace_dropCR]
    exact GoText.trimSpace_append_cons nonempty trimmed (by decide) (by decide) trimmed'
  have read : ¬ (key ++ equals :: value = [] ∨ str "#" <+: key ++ equals :: value) := by
    cases key with
    | nil => exact absurd rfl nonempty
    | cons b key =>
        have hash : str "#" = [0x23] := by decide
        rw [hash, List.cons_prefix_cons] at noHash
        rw [hash, List.cons_append, List.cons_prefix_cons]
        simpa using noHash
  show loadLine env (key ++ equals :: value) = _
  unfold loadLine
  simp only [line, if_neg read, cut_assign value noEquals, trimmed, trimmed', if_neg nonempty]

theorem get_loadLine (env : Env) {line : EnvLine} (valid : line.Valid) (key : GoString) :
    (loadLine env line.text).get key = step key line (env.get key) := by
  cases line with
  | blank text =>
      have empty : trimSpace (dropCR text) = [] := (trimSpace_dropCR text).trans valid.2
      show (loadLine env text).get key = env.get key
      unfold loadLine
      simp only [empty, true_or, if_true]
  | comment text =>
      have hash : str "#" <+: trimSpace (dropCR text) := by
        rw [trimSpace_dropCR]
        exact valid.2
      show (loadLine env text).get key = env.get key
      unfold loadLine
      simp only [hash, or_true, if_true]
  | assign key' value =>
      have noEquals := valid.1.2.1
      have nonempty := valid.1.2.2.1
      have refused : (key' = [] ∨ equals ∈ key' ∨ 0 ∈ key' ∨ 0 ∈ trimQuotes value) ↔
          0 ∈ key' ∨ 0 ∈ trimQuotes value := by simp [nonempty, noEquals]
      rw [loadLine_assign env valid, step]
      by_cases same : key' = key
      · subst same
        by_cases unset : (env.get key').getD [] = []
        · rw [if_pos unset, setenv, if_congr refused rfl rfl]
          by_cases bad : 0 ∈ key' ∨ 0 ∈ trimQuotes value
          · rw [if_pos bad, if_neg]
            rintro ⟨-, -, named, textual⟩
            exact bad.elim named textual
          · rw [if_neg bad, GoMap.get_set, if_pos rfl, if_pos]
            exact ⟨rfl, unset, not_or.1 bad⟩
        · rw [if_neg unset, if_neg fun all => unset all.2.1]
      · have other : ¬ (key' = key ∧ (env.get key).getD [] = [] ∧ 0 ∉ key ∧
            0 ∉ trimQuotes value) := fun all => same all.1
        rw [if_neg other]
        split
        · unfold setenv
          split
          · rfl
          · rw [GoMap.get_set, if_neg (Ne.symm same)]
        · rfl

/-! ## All lines -/

/-- What the lines do to one variable. -/
def run (key : GoString) : List EnvLine → Option GoString → Option GoString
  | [], current => current
  | line :: rest, current =>
      if maxLine < line.text.length then current else run key rest (step key line current)

theorem get_scan {lines : List EnvLine} (valid : ∀ line ∈ lines, line.Valid) (env : Env)
    (key : GoString) :
    (scan (lines.map EnvLine.text) env).get key = run key lines (env.get key) := by
  induction lines generalizing env with
  | nil => rfl
  | cons line lines ih =>
      rw [List.map_cons, scan, run]
      split
      · rfl
      · rw [ih fun l member => valid l (List.mem_cons_of_mem _ member),
          get_loadLine env (valid line List.mem_cons_self)]

section Run

variable {key : GoString}

theorem step_of_set {line : EnvLine} {value : GoString} (nonempty : value ≠ []) :
    step key line (some value) = some value := by
  cases line with
  | assign key' value' => exact if_neg fun all => nonempty all.2.1
  | _ => rfl

/-- A variable with a value keeps it. -/
theorem run_of_set {value : GoString} (nonempty : value ≠ []) (lines : List EnvLine) :
    run key lines (some value) = some value := by
  induction lines with
  | nil => rfl
  | cons line lines ih =>
      rw [run, step_of_set nonempty, ih]
      split <;> rfl

theorem step_of_unnamed {line : EnvLine} (unnamed : given key line = none)
    (current : Option GoString) : step key line current = current := by
  cases line with
  | assign key' value =>
      have other : key' ≠ key := by
        intro same
        rw [given, if_pos same] at unnamed
        cases unnamed
      exact if_neg fun all => other all.1
  | _ => rfl

theorem run_of_unnamed {lines : List EnvLine} (unnamed : ∀ line ∈ lines, given key line = none)
    (current : Option GoString) : run key lines current = current := by
  induction lines generalizing current with
  | nil => rfl
  | cons line lines ih =>
      rw [run, step_of_unnamed (unnamed line List.mem_cons_self),
        ih fun l member => unnamed l (List.mem_cons_of_mem _ member)]
      split <;> rfl

/-- A line leaves the variable, or gives it a value without quotes around it that the system
takes. -/
theorem step_cases (line : EnvLine) (current : Option GoString) :
    step key line current = current ∨
      ∃ value, step key line current = some value ∧ Clean isQuote value ∧ 0 ∉ value ∧
        0 ∉ key := by
  cases line with
  | assign key' value =>
      by_cases taken : key' = key ∧ current.getD [] = [] ∧ 0 ∉ key ∧ 0 ∉ trimQuotes value
      · exact .inr ⟨trimQuotes value, if_pos taken, Trim.clean_trimEnds value, taken.2.2.2,
          taken.2.2.1⟩
      · exact .inl (if_neg taken)
  | _ => exact .inl rfl

theorem run_cases (lines : List EnvLine) (current : Option GoString) :
    run key lines current = current ∨
      ∃ value, run key lines current = some value ∧ Clean isQuote value ∧ 0 ∉ value ∧
        0 ∉ key := by
  induction lines generalizing current with
  | nil => exact .inl rfl
  | cons line lines ih =>
      rw [run]
      split
      · exact .inl rfl
      · rcases ih (step key line current) with same | found
        · rw [same]
          exact step_cases line current
        · exact .inr found

theorem given_eq_some {line : EnvLine} {value : GoString} (gives : given key line = some value) :
    ∃ raw, line = .assign key raw ∧ unquote raw = value := by
  cases line with
  | assign key' raw =>
      by_cases same : key' = key
      · rw [given, if_pos same] at gives
        exact ⟨raw, same ▸ rfl, Option.some.inj gives⟩
      · rw [given, if_neg same] at gives
        cases gives
  | _ => cases gives

/-- A line that gives nothing, or the empty value, leaves an empty variable empty. -/
theorem step_of_empty {line : EnvLine} (gives : given key line = none ∨ given key line = some [])
    {current : Option GoString} (empty : current.getD [] = []) :
    (step key line current).getD [] = [] := by
  rcases gives with unnamed | nothing
  · rw [step_of_unnamed unnamed]
    exact empty
  · obtain ⟨raw, rfl, bare⟩ := given_eq_some nothing
    have trimmed : trimQuotes raw = [] := by
      rw [← trimQuotes_unquote, bare]
      rfl
    unfold step
    dsimp only
    split
    · rw [trimmed]
      rfl
    · exact empty

theorem run_of_empty {lines : List EnvLine}
    (gives : ∀ line ∈ lines, given key line = none ∨ given key line = some [])
    {current : Option GoString} (empty : current.getD [] = []) :
    (run key lines current).getD [] = [] := by
  induction lines generalizing current with
  | nil => exact empty
  | cons line lines ih =>
      rw [run]
      split
      · exact empty
      · exact ih (fun l member => gives l (List.mem_cons_of_mem _ member))
          (step_of_empty (gives line List.mem_cons_self) empty)

theorem run_append {before : List EnvLine}
    (short : ∀ line ∈ before, line.text.length ≤ maxLine) (rest : List EnvLine)
    (current : Option GoString) :
    run key (before ++ rest) current = run key rest (run key before current) := by
  induction before generalizing current with
  | nil => rfl
  | cons line before ih =>
      have fits := not_lt.2 (short line List.mem_cons_self)
      rw [List.cons_append, run, run, if_neg fits, if_neg fits,
        ih fun l member => short l (List.mem_cons_of_mem _ member)]

/-- What stands behind a line that is too long is not read. -/
theorem run_append_of_long {before : List EnvLine}
    (long : ∃ line ∈ before, maxLine < line.text.length) (rest : List EnvLine)
    (current : Option GoString) :
    run key (before ++ rest) current = run key before current := by
  induction before generalizing current with
  | nil =>
      obtain ⟨line, member, -⟩ := long
      cases member
  | cons line before ih =>
      rw [List.cons_append, run, run]
      split
      · rfl
      · next fits =>
          obtain ⟨l, member, tooLong⟩ := long
          rcases List.mem_cons.1 member with rfl | member
          · exact absurd tooLong fits
          · exact ih ⟨l, member, tooLong⟩ _

variable {lines before : List EnvLine} {line : EnvLine} {value : GoString}
  {current : Option GoString}

/-- The first value that is not empty arrives when nothing comes between. -/
theorem run_of_reaches (decides : Decides key lines before line value)
    (reaches : Reaches key before line value) (empty : current.getD [] = []) :
    run key lines current = some value := by
  obtain ⟨after, rfl⟩ := decides.split
  obtain ⟨raw, rfl, bare⟩ := given_eq_some decides.gives
  have trimmed : trimQuotes raw = value := by
    rw [← trimQuotes_unquote, bare]
    exact (trimQuotes_eq_self_iff value).2 reaches.unquoted
  have fits : ¬ maxLine < (EnvLine.assign key raw).text.length :=
    not_lt.2 (reaches.short _ (by simp))
  have taken : step key (.assign key raw) (run key before current) = some value := by
    rw [step, trimmed, if_pos]
    exact ⟨rfl, run_of_empty decides.earlier empty, reaches.named, reaches.textual⟩
  rw [run_append fun l member => reaches.short l (List.mem_append_left _ member), run,
    if_neg fits, taken, run_of_set decides.nonempty]

/-- Nothing came between when it has arrived. -/
theorem reaches_of_run (decides : Decides key lines before line value)
    (empty : current.getD [] = []) (arrived : run key lines current = some value) :
    Reaches key before line value := by
  have nothing := run_of_empty decides.earlier empty
  have unread : ∀ {early : Option GoString}, early.getD [] = [] → early ≠ some value := by
    rintro early blank rfl
    exact decides.nonempty blank
  have sound : Clean isQuote value ∧ 0 ∉ value ∧ 0 ∉ key := by
    rcases run_cases lines current with same | ⟨value', found, facts⟩
    · exact absurd (same.symm.trans arrived) (unread empty)
    · rw [found] at arrived
      exact Option.some.inj arrived ▸ facts
  refine ⟨?_, sound.1, sound.2.1, sound.2.2⟩
  obtain ⟨after, rfl⟩ := decides.split
  -- a line that is too long ends the reading before the value is there
  by_cases short : ∀ l ∈ before, l.text.length ≤ maxLine
  · rw [run_append short, run] at arrived
    intro l member
    rcases List.mem_append.1 member with inside | last
    · exact short l inside
    · rw [List.mem_singleton.1 last]
      by_contra tooLong
      rw [if_pos (not_le.1 tooLong)] at arrived
      exact unread nothing arrived
  · push Not at short
    rw [run_append_of_long short] at arrived
    exact absurd arrived (unread nothing)

end Run

/-- A variable has a first value in the file just if a line decides on it. -/
theorem firstValue_eq_some_iff (key : GoString) (lines : List EnvLine) (value : GoString) :
    firstValue key lines = some value ↔ ∃ before line, Decides key lines before line value := by
  rw [firstValue, List.find?_eq_some_iff_append]
  constructor
  · rintro ⟨nonempty, early, late, shape, earlier⟩
    obtain ⟨front, back, rfl, frontGives, backGives⟩ := List.filterMap_eq_append_iff.1 shape
    obtain ⟨skipped, line, after, rfl, unnamed, gives, -⟩ := List.filterMap_eq_cons_iff.1 backGives
    refine ⟨front ++ skipped, line, ⟨after, by simp⟩, ?_, gives, by simpa using nonempty⟩
    intro l member
    rcases List.mem_append.1 member with inside | between
    · cases found : given key l with
      | none => exact .inl rfl
      | some v =>
          have blank := earlier v (frontGives ▸ List.mem_filterMap.2 ⟨l, inside, found⟩)
          exact .inr (congrArg some (by simpa using blank))
    · exact .inl (unnamed l between)
  · rintro ⟨before, line, ⟨after, rfl⟩, earlier, gives, nonempty⟩
    refine ⟨by simpa using nonempty, before.filterMap (given key),
      after.filterMap (given key), ?_, ?_⟩
    · rw [List.filterMap_append, List.filterMap_cons_some gives]
    · intro v member
      obtain ⟨l, inside, found⟩ := List.mem_filterMap.1 member
      rcases earlier l inside with unnamed | nothing
      · rw [unnamed] at found
        cases found
      · rw [nothing] at found
        simpa using (Option.some.inj found).symm

/-- Without one the file gives the variable nothing but empty values. -/
theorem given_of_firstValue_eq_none {key : GoString} {lines : List EnvLine}
    (nothing : firstValue key lines = none) :
    ∀ line ∈ lines, given key line = none ∨ given key line = some [] := by
  intro line member
  cases found : given key line with
  | none => exact .inl rfl
  | some value =>
      have blank := List.find?_eq_none.1 nothing value (List.mem_filterMap.2 ⟨line, member, found⟩)
      exact .inr (congrArg some (by simpa using blank))

/-- The lines of the file are the ones that were written. -/
theorem scan_splitOn {lines : List EnvLine} (valid : ∀ line ∈ lines, line.Valid) (env : Env) :
    scan (([newline].intercalate (lines.map EnvLine.text)).splitOn newline) env =
      scan (lines.map EnvLine.text) env := by
  cases lines with
  | nil => rfl
  | cons line lines =>
      have apart : ∀ text ∈ (line :: lines).map EnvLine.text, newline ∉ text := by
        intro text member
        obtain ⟨l, inside, rfl⟩ := List.mem_map.1 member
        exact EnvLine.newline_notMem_text (valid l inside)
      rw [List.splitOn_intercalate newline apart (by simp)]

/-- **The environment after reading.**  Every variable has what the file gives it just if nothing
comes between the values that decide and their variables: no quotes that belong to the value, no
line that is too long and no NUL. -/
theorem loaded_iff {getwd : Except GoString GoString} {file : GoString → Option GoString}
    {path safePath : GoString} {lines : List EnvLine} (start : Env)
    (asked : trimSpace path ≠ [])
    (safe : validateFilesystemPath getwd path (str "archivo de entorno") = .ok safePath)
    (content : file safePath = some ([newline].intercalate (lines.map EnvLine.text)))
    (valid : ∀ line ∈ lines, line.Valid) :
    Loaded lines start (loadEnvFileIfExists getwd file path start) ↔
      ∀ key before line value, (start.get key).getD [] = [] →
        Decides key lines before line value → Reaches key before line value := by
  have final : ∀ key, (loadEnvFileIfExists getwd file path start).get key =
      run key lines (start.get key) := by
    intro key
    rw [loadEnvFileIfExists, if_neg asked, safe]
    dsimp only
    rw [content]
    dsimp only
    rw [scan_splitOn valid, get_scan valid]
  constructor
  · intro loaded key before line value empty decides
    have arrived := loaded.set key value empty
      ((firstValue_eq_some_iff key lines value).2 ⟨before, line, decides⟩)
    exact reaches_of_run decides empty ((final key).symm.trans arrived)
  · intro reaches
    refine ⟨?_, ?_, ?_, ?_⟩
    · intro key value started nonempty
      rw [final, started, run_of_set nonempty]
    · intro key value empty first
      obtain ⟨before, line, decides⟩ := (firstValue_eq_some_iff key lines value).1 first
      rw [final, run_of_reaches decides (reaches key before line value empty decides) empty]
    · intro key empty nothing
      rw [final]
      exact run_of_empty (given_of_firstValue_eq_none nothing) empty
    · intro key unnamed
      rw [final, run_of_unnamed unnamed]

theorem loaded_example :
    let lines : List EnvLine :=
      [.comment (str "# names"), .assign (str "APP_NAME") (str "\"sentinel ops\"")]
    Loaded lines ∅ (loadEnvFileIfExists (.ok (str "/srv"))
      (fun _ => some ([newline].intercalate (lines.map EnvLine.text))) (str ".env") ∅) := by
  intro lines
  have valid : ∀ line ∈ lines, line.Valid := by
    intro line member
    rcases List.mem_pair.1 member with rfl | rfl
    · exact ⟨by decide, by decide⟩
    · exact ⟨by decide, by decide, by decide⟩
  refine (loaded_iff ∅ (by decide)
    (show validateFilesystemPath (.ok (str "/srv")) (str ".env") (str "archivo de entorno") =
      .ok (str "/srv/.env") by decide) rfl valid).2 ?_
  intro key before line value _ decides
  obtain ⟨after, shape⟩ := decides.split
  have inside : ∀ l ∈ before ++ [line], l ∈ lines := by
    intro l member
    rw [shape]
    simp only [List.mem_append, List.mem_cons, List.not_mem_nil, or_false] at member ⊢
    exact member.imp id .inl
  obtain ⟨raw, rfl, rfl⟩ := given_eq_some decides.gives
  rcases List.mem_pair.1 (inside (.assign key raw) (by simp)) with comment | assign
  · cases comment
  · cases assign
    refine ⟨fun l member => ?_, (trimQuotes_eq_self_iff _).1 (by decide),
      by decide, by decide⟩
    rcases List.mem_pair.1 (inside l member) with rfl | rfl <;> decide

/-- A quote at the end of a value is taken for the end of an enclosing pair. -/
theorem quote_lost :
    let lines : List EnvLine := [.assign (str "APP_MOTD") (str "say \"hi\"")]
    let final := loadEnvFileIfExists (.ok (str "/srv"))
      (fun _ => some ([newline].intercalate (lines.map EnvLine.text))) (str ".env") ∅
    (∀ line ∈ lines, line.Valid) ∧ final.get (str "APP_MOTD") = some (str "say \"hi") ∧
      ¬ Loaded lines ∅ final := by
  intro lines final
  have read : final.get (str "APP_MOTD") = some (str "say \"hi") := by decide
  refine ⟨?_, read, fun loaded => ?_⟩
  · intro line member
    rw [List.mem_singleton.1 member]
    exact ⟨by decide, by decide, by decide⟩
  · have whole := loaded.set (str "APP_MOTD") (str "say \"hi\"") rfl (by decide)
    rw [read] at whole
    exact absurd whole (by decide)

end SentinelOps.Config
