/-
# Security.InputGuard — the Rust rules, the process around them, and fail-open

`input-guard` is the external validator: a library function with the rules and a `main` that
turns its result into an exit status.  This module models both, the process that Go starts for
them, and the hybrid validator over that process.

The hybrid accepts exactly the inputs that are UTF-8 and meet the Rust rules, with one
exception (`validate_nil_iff_guard`): an input that passes the static rules but cannot be handed to
the process makes it fail, and then fail-open decides.  So with fail-open an input with a NUL byte,
or one that is not UTF-8, is let through.

A Rust `str` is UTF-8, and `str::trim` drops the code points that `strings.TrimSpace` drops, so
both sides read a string by `Theory.GoText`.
-/
import SentinelOps.Security.Validator

namespace SentinelOps.Security

open Theory GoText

set_option autoImplicit false

/-! ## The rules -/

namespace Guard

/-- `str::chars`. -/
def chars (s : GoString) : List Rune := (pieces s).map Prod.fst

def isAsciiControl (c : Rune) : Bool := c < 0x20 || c == 0x7F

def isAsciiAlphanumeric (c : Rune) : Bool :=
  (0x30 ≤ c && c ≤ 0x39) || (0x41 ≤ c && c ≤ 0x5A) || (0x61 ≤ c && c ≤ 0x7A)

/-- A letter, a digit, or one of the characters `' '`, `'-'`, `'_'`, `'.'`. -/
def isAllowed (c : Rune) : Bool :=
  isAsciiAlphanumeric c || c == 0x20 || c == 0x2D || c == 0x5F || c == 0x2E

def forbidden : List GoString :=
  [str "&&", str "||", str "../", str "$(", str "\x60", str ";", str "|", str ">", str "<"]

def validateInput (input : GoString) : Except GoString Unit :=
  let trimmed := trimSpace input
  if trimmed = [] then .error (str "no se permite una entrada vacía")
  else if trimmed.length > 120 then .error (str "la entrada supera 120 caracteres")
  else if (chars trimmed).any isAsciiControl then
    .error (str "control characters are not allowed")
  else
    match forbidden.find? (contains trimmed) with
    | some token => .error (str "se detectó un token prohibido: " ++ token)
    | none =>
        if (chars trimmed).all isAllowed then .ok ()
        else .error (str "input contains unsupported characters")

/-- The input is one string that meets the rules. -/
def Accepts (input : GoString) : Prop :=
  validString input = true ∧ validateInput input = .ok ()

/-- `main`, as the exit status and standard error.  `panicked` is how the process ends when an
argument is not UTF-8. -/
def main (panicked : Int × GoString) (args : List GoString) : Int × GoString :=
  if args.any fun arg => !validString arg then panicked
  else
    let input := (str " ").intercalate args
    if trimSpace input = [] then (2, str "missing input\n")
    else
      match validateInput input with
      | .ok () => (0, [])
      | .error message => (10, message ++ str "\n")

end Guard

/-! ## The process -/

/-- An installed guard: the configured name resolves, and the process behaves as `main` does.
Which arguments the operating system refuses is open, except that it refuses a NUL byte, and so is
what it and the Rust runtime write. -/
structure Installation where
  binary : GoString
  path : GoString
  env : Environment
  resolves : validateExecutable env binary = .ok path
  panicked : Int × GoString
  panic_status : panicked.1 ≠ 0 ∧ panicked.1 ≠ 10
  exitText : Int → GoString
  /-- What `cmd.Start` fails with. -/
  start : GoString → Option GoString
  start_nul : ∀ input, 0 ∈ input → start input ≠ none

namespace Installation

variable (inst : Installation)

/-- `cmd.Run()`. -/
def execute (input : GoString) : ProcessResult :=
  match inst.start input with
  | some text => { err := some (.other text), stderr := [] }
  | none =>
      let (status, stderr) := Guard.main inst.panicked [input]
      { err := if status = 0 then none else some (.exit status (inst.exitText status)), stderr }

/-- The outside of a validator with this guard and no gRPC service. -/
def world : (q : Question) → Answer q
  | .environment => inst.env
  | .run _ input => inst.execute input
  | .now => (0 : GoTime.Time)
  | .dial _ _ => some []
  | .validateInput _ _ _ => (.error [] : Except GoString ValidateInputResponse)

end Installation

/-! ## The two rule sets -/

/-- The input passes the static rules. -/
def MeetsStaticRules (input : GoString) : Prop :=
  trimSpace input ≠ [] ∧ (trimSpace input).length ≤ 120 ∧
    ∀ token ∈ defaultForbidden, contains (trimSpace input) token = false

theorem staticRuleValidate_eq_none_iff (input : GoString) :
    staticRuleValidate 120 defaultForbidden input = none ↔ MeetsStaticRules input := by
  unfold staticRuleValidate MeetsStaticRules
  dsimp only
  by_cases empty : trimSpace input = []
  · simp [empty]
  rw [if_neg empty]
  by_cases long : (trimSpace input).length > 120
  · rw [if_pos long]
    simp only [reduceCtorEq, false_iff]
    rintro ⟨-, short, -⟩
    omega
  rw [if_neg long]
  cases found : List.find? (contains (trimSpace input)) defaultForbidden with
  | none =>
      simp only [true_iff]
      exact ⟨empty, by omega,
        fun token member => by simpa using List.find?_eq_none.1 found token member⟩
  | some token =>
      simp only [reduceCtorEq, false_iff]
      rintro ⟨-, -, clean⟩
      have bad := List.find?_some found
      rw [clean token (List.mem_of_find?_eq_some found)] at bad
      cases bad

/-- What the Rust rules accept, in the order they check it. -/
theorem validateInput_ok {input : GoString} (ok : Guard.validateInput input = .ok ()) :
    trimSpace input ≠ [] ∧ (trimSpace input).length ≤ 120 ∧
      (Guard.chars (trimSpace input)).any Guard.isAsciiControl = false ∧
      (∀ token ∈ Guard.forbidden, contains (trimSpace input) token = false) ∧
      (Guard.chars (trimSpace input)).all Guard.isAllowed = true := by
  unfold Guard.validateInput at ok
  dsimp only at ok
  by_cases empty : trimSpace input = []
  · rw [if_pos empty] at ok
    cases ok
  rw [if_neg empty] at ok
  by_cases long : (trimSpace input).length > 120
  · rw [if_pos long] at ok
    cases ok
  rw [if_neg long] at ok
  by_cases control : (Guard.chars (trimSpace input)).any Guard.isAsciiControl = true
  · rw [if_pos control] at ok
    cases ok
  rw [if_neg control] at ok
  cases found : Guard.forbidden.find? (contains (trimSpace input)) with
  | some token =>
      rw [found] at ok
      cases ok
  | none =>
      have allowed : (Guard.chars (trimSpace input)).all Guard.isAllowed = true := by
        by_contra other
        rw [found] at ok
        simp only [other] at ok
        cases ok
      exact ⟨empty, by omega, by simpa using control,
        fun token member => by simpa using List.find?_eq_none.1 found token member, allowed⟩

/-- The static rules are among the Rust rules. -/
theorem meetsStaticRules_of_ok {input : GoString} (ok : Guard.validateInput input = .ok ()) :
    MeetsStaticRules input := by
  obtain ⟨nonempty, short, -, clean, -⟩ := validateInput_ok ok
  have more : Guard.forbidden = defaultForbidden ++ [str "|", str ">", str "<"] := rfl
  refine ⟨nonempty, short, fun token member => clean token ?_⟩
  rw [more]
  exact List.mem_append_left _ member

/-- A NUL byte is a control character that no trimming removes. -/
theorem not_ok_of_nul {input : GoString} (nul : 0 ∈ input) :
    Guard.validateInput input ≠ .ok () := by
  intro ok
  obtain ⟨-, -, control, -, -⟩ := validateInput_ok ok
  have piece : (0, [0]) ∈ pieces (trimSpace input) := by
    rw [pieces_trimSpace]
    exact mem_trimPieces (mem_pieces_of_ascii nul (by decide)) (by decide)
  have char : 0 ∈ Guard.chars (trimSpace input) := List.mem_map.2 ⟨_, piece, rfl⟩
  have clean := List.any_eq_false.1 control 0 char
  exact clean (by decide)

theorem not_accepts {input : GoString} (garbled : 0 ∈ input ∨ validString input = false) :
    ¬ Guard.Accepts input := by
  rintro ⟨valid, ok⟩
  rcases garbled with nul | invalid
  · exact not_ok_of_nul nul ok
  · rw [valid] at invalid
    cases invalid

/-! ## The hybrid over the process -/

namespace Installation

variable (inst : Installation) (failOpen : Bool) (input : GoString)

/-- What the hybrid makes of the process, for an input that passes the static rules. -/
theorem eval_hybrid :
    ((Validator.hybrid newDefaultValidator (.externalProcess inst.binary) failOpen).validate
        input).eval inst.world =
      match staticRuleValidate 120 defaultForbidden input with
      | some err => some err
      | none => hybridVerdict failOpen (processVerdict inst.binary (inst.execute input)) := by
  simp only [Validator.validate, newDefaultValidator, Script.eval_bind, Script.eval]
  cases staticRuleValidate 120 defaultForbidden
    input with
  | some err => rfl
  | none =>
      simp only [Script.eval_bind, Script.eval, externalProcessValidate, world]
      rw [inst.resolves]
      rfl

/-- The process is not started with the input, or cannot read it. -/
def Unread : Prop := inst.start input ≠ none ∨ validString input = false

/-- A process that could not read the input ends in a runtime failure. -/
theorem processVerdict_of_unread (unread : inst.Unread input) :
    ∃ message, processVerdict inst.binary (inst.execute input) =
      some (.runtime inst.binary message) := by
  unfold execute
  cases started : inst.start input with
  | some text => exact ⟨_, rfl⟩
  | none =>
      have garbled := unread.resolve_left (not_not_intro started)
      have panics : Guard.main inst.panicked [input] = inst.panicked := by
        simp [Guard.main, garbled]
      obtain ⟨notZero, notTen⟩ := inst.panic_status
      dsimp only
      rw [panics, if_neg notZero]
      unfold processVerdict
      dsimp only
      split
      · rename_i ten
        rw [RunError.exit.injEq] at ten
        exact absurd ten.1 notTen
      · exact ⟨_, rfl⟩

/-- A process that reads the input ends as the rules decide. -/
theorem processVerdict_of_read (read : ¬ inst.Unread input) (nonempty : trimSpace input ≠ []) :
    (processVerdict inst.binary (inst.execute input) = none ∧
      Guard.validateInput input = .ok ()) ∨
    (∃ message, processVerdict inst.binary (inst.execute input) = some (.rejected message) ∧
      Guard.validateInput input ≠ .ok ()) := by
  obtain ⟨started, valid⟩ := not_or.1 read
  have valid : validString input = true := by simpa using valid
  have joined : (str " ").intercalate [input] = input := by simp [List.intercalate]
  unfold execute
  rw [not_not.1 started]
  cases decided : Guard.validateInput input with
  | ok done =>
      have ended : Guard.main inst.panicked [input] = (0, []) := by
        simp [Guard.main, valid, joined, nonempty, decided]
      rw [ended]
      exact .inl ⟨rfl, rfl⟩
  | error message =>
      have ended : Guard.main inst.panicked [input] = (10, message ++ str "\n") := by
        simp [Guard.main, valid, joined, nonempty, decided]
      rw [ended]
      exact .inr ⟨_, rfl, by simp⟩

/-- The verdict is right unless the process could not read the input and fail-open decides the other
way. -/
theorem validate_nil_iff_of_start :
    (((Validator.hybrid newDefaultValidator (.externalProcess inst.binary) failOpen).validate
        input).eval inst.world = none ↔ Guard.Accepts input) ↔
    ¬ (MeetsStaticRules input ∧ inst.Unread input ∧
        (failOpen = true ↔ ¬ Guard.Accepts input)) := by
  rw [inst.eval_hybrid failOpen input]
  cases static : staticRuleValidate 120 defaultForbidden input with
  | some err =>
      have fails : ¬ MeetsStaticRules input := by
        rw [← staticRuleValidate_eq_none_iff, static]
        simp
      have refused : ¬ Guard.Accepts input :=
        fun accepts => fails (meetsStaticRules_of_ok accepts.2)
      simp [fails, refused]
  | none =>
      have meets := (staticRuleValidate_eq_none_iff input).1 static
      by_cases unread : inst.Unread input
      · obtain ⟨message, failed⟩ := inst.processVerdict_of_unread input unread
        rw [and_iff_right meets, and_iff_right unread]
        dsimp only
        rw [failed]
        cases failOpen <;> simp [hybridVerdict]
      · obtain ⟨-, garbled⟩ := not_or.1 unread
        have valid : validString input = true := by simpa using garbled
        rcases inst.processVerdict_of_read input unread meets.1 with
          ⟨accepted, ok⟩ | ⟨message, rejected, refused⟩
        · simp [Guard.Accepts, accepted, ok, valid, unread, hybridVerdict]
        · simp [Guard.Accepts, rejected, refused, unread, hybridVerdict]

/-- **The hybrid accepts what the guard accepts, unless the process cannot be handed the input.**
For every input and every setting of fail-open, the verdict is nil exactly on the UTF-8 inputs that
meet the Rust rules, except when the input passes the static rules and the process is not started
with it or it is not UTF-8, and fail-open is on for an input that the guard would reject or off for
one that it would accept.  Where only a NUL byte keeps the process from starting, that is when
fail-open is on and the input passes the static rules and has a NUL byte or is not UTF-8. -/
theorem validate_nil_iff_guard (inst : Installation) (failOpen : Bool) (input : GoString) :
    let verdict :=
      ((Validator.hybrid newDefaultValidator (.externalProcess inst.binary) failOpen).validate
        input).eval inst.world
    let accepts := validString input = true ∧ Guard.validateInput input = .ok ()
    ((verdict = none ↔ accepts) ↔
      ¬ (MeetsStaticRules input ∧ (inst.start input ≠ none ∨ validString input = false) ∧
        (failOpen = true ↔ ¬ accepts))) ∧
    ((∀ arg, inst.start arg ≠ none → 0 ∈ arg) →
      ((verdict = none ↔ accepts) ↔
        ¬ (failOpen = true ∧ MeetsStaticRules input ∧
          (0 ∈ input ∨ validString input = false)))) := by
  refine ⟨inst.validate_nil_iff_of_start failOpen input, fun only => ?_⟩
  refine (inst.validate_nil_iff_of_start failOpen input).trans (not_congr ?_)
  have unread : inst.Unread input ↔ 0 ∈ input ∨ validString input = false :=
    or_congr_left ⟨only input, inst.start_nul input⟩
  rw [unread]
  constructor
  · rintro ⟨meets, garbled, decided⟩
    exact ⟨decided.2 (not_accepts garbled), meets, garbled⟩
  · rintro ⟨opened, meets, garbled⟩
    exact ⟨meets, garbled, iff_of_true opened (not_accepts garbled)⟩

end Installation

/-- The guard on the search path. -/
def installedGuard : Installation where
  binary := str "input-guard"
  path := str "/usr/bin/input-guard"
  env := { getwd := .ok (str "/"), lookPath := fun _ => .ok (str "/usr/bin/input-guard") }
  resolves := rfl
  panicked := (101, str "thread 'main' panicked")
  panic_status := by decide
  exitText status := str "exit status " ++ decimalInt status
  start input :=
    if 0 ∈ input then some (str "fork/exec /usr/bin/input-guard: invalid argument") else none
  start_nul _ nul := by rw [if_pos nul]; exact Option.some_ne_none _

/-- Without fail-open it accepts a command that meets the rules. -/
theorem validate_nil_readable :
    ((Validator.hybrid newDefaultValidator (.externalProcess installedGuard.binary) false).validate
      (str "ls")).eval installedGuard.world = none := by
  have only : ∀ arg, installedGuard.start arg ≠ none → 0 ∈ arg := by
    intro arg refused
    by_contra clean
    exact refused (if_neg clean)
  have exact_ := (installedGuard.validate_nil_iff_guard false (str "ls")).2 only
  exact (exact_.2 (by simp)).2 ⟨rfl, rfl⟩

/-- With fail-open the hybrid accepts a command followed by a NUL byte, which the rules reject,
and one followed by a byte that is not UTF-8. -/
theorem validate_nil_unreadable :
    let v := Validator.hybrid newDefaultValidator (.externalProcess (str "input-guard")) true
    ((v.validate (str "rm" ++ [0])).eval installedGuard.world = none ∧
      Guard.validateInput (str "rm" ++ [0]) = .error (str "control characters are not allowed")) ∧
    ((v.validate (str "rm" ++ [0xFF])).eval installedGuard.world = none ∧
      validString (str "rm" ++ [0xFF]) = false) := by
  refine ⟨⟨rfl, rfl⟩, ⟨rfl, rfl⟩⟩

end SentinelOps.Security
