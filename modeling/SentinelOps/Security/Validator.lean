/-
# Security.Validator — the input validators and how they are put together

Three validators and their combination.  The static rules decide by themselves; the process
validator runs a binary with the input as its argument; the gRPC validator calls a service.
The last two ask the outside (`Question`), so `validate` is a script of questions, and whether
an external validator was consulted is read off its trace.

`newValidator` is where the configuration is interpreted.  Whether an external validator can
be built also depends on a build tag (`tagged`); where none can be built, the static rules
decide alone (`validate_nil_only_if_consulted`).
-/
import SentinelOps.Security.PathGuard
import SentinelOps.Theory.GoTime
import SentinelOps.Theory.Script

namespace SentinelOps.Security

open Theory
open GoText (GoString str trimSpace toLower contains decimal decimalInt)
open GoTime (Time Duration second)

set_option autoImplicit false

/-- An error of a validator; `runtime` is an `ExternalRuntimeError`. -/
inductive ValidationError where
  | rejected (message : GoString)
  | runtime (binary message : GoString)
deriving DecidableEq, Repr

namespace ValidationError

/-- `Error()`. -/
def text : ValidationError → GoString
  | rejected message => message
  | runtime binary message =>
      str "fallo de ejecución del validador externo (" ++ binary ++ str "): " ++ message

end ValidationError

/-! ## The outside -/

/-- The error of `cmd.Run`: an exit status, or anything else. -/
inductive RunError where
  | exit (code : Int) (text : GoString)
  | other (text : GoString)
deriving DecidableEq, Repr

def RunError.text : RunError → GoString
  | exit _ text => text
  | other text => text

structure ProcessResult where
  err : Option RunError
  stderr : GoString
deriving DecidableEq, Repr

structure ValidateInputRequest where
  correlationId : GoString
  input : GoString
  inputType : GoString
  timestamp : Int

structure ValidateInputResponse where
  valid : Bool
  reason : GoString

inductive Question where
  | environment
  | run (path input : GoString)
  | now
  | dial (addr : GoString) (timeout : Duration)
  | validateInput (addr : GoString) (timeout : Duration) (request : ValidateInputRequest)

def Answer : Question → Type
  | .environment => Environment
  | .run _ _ => ProcessResult
  | .now => Time
  | .dial _ _ => Option GoString
  | .validateInput _ _ _ => Except GoString ValidateInputResponse

/-- A validation: questions to the outside, then nil or an error. -/
abbrev Validation := Script Question Answer (Option ValidationError)

/-! ## The validators -/

/-- `InputValidator`; `absent` is a nil one, which only a hybrid may hold. -/
inductive Validator where
  | absent
  | staticRule (maxLength : Nat) (forbidden : List GoString)
  | externalProcess (binary : GoString)
  | grpc (addr : GoString) (timeout : Duration)
  | hybrid (internal external : Validator) (failOpen : Bool)

def staticRuleValidate (maxLength : Nat) (forbidden : List GoString) (input : GoString) :
    Option ValidationError :=
  let trimmed := trimSpace input
  if trimmed = [] then some (.rejected (str "no se permite una entrada vacía"))
  else if trimmed.length > maxLength then
    some (.rejected (str "la entrada supera " ++ decimal maxLength ++ str " caracteres"))
  else
    match forbidden.find? (contains trimmed) with
    | some token => some (.rejected (str "se detectó un token prohibido: " ++ token))
    | none => none

/-- What the end of the process means: status 10 is a rejection. -/
def processVerdict (binary : GoString) (result : ProcessResult) : Option ValidationError :=
  match result.err with
  | none => none
  | some err =>
      let message := if trimSpace result.stderr = [] then err.text else trimSpace result.stderr
      match err with
      | .exit 10 _ => some (.rejected message)
      | _ => some (.runtime binary message)

def externalProcessValidate (binary input : GoString) : Validation :=
  .ask .environment fun env =>
    match validateExecutable env binary with
    | .error err => .ret (some (.rejected err))
    | .ok path => .ask (.run path input) fun result => .ret (processVerdict binary result)

/-- `Unix()` counts from 1970. -/
def unixEpoch : Time := 62135596800 * second.toInt

def grpcRequest (input : GoString) (sent stamped : Time) : ValidateInputRequest where
  correlationId := str "grpc-" ++ decimalInt (sent - unixEpoch)
  input := input
  inputType := str "shell_command"
  timestamp := (stamped - unixEpoch) / second.toInt

def grpcVerdict : Except GoString ValidateInputResponse → Option ValidationError
  | .error err => some (.runtime (str "input-guard-grpc") err)
  | .ok resp =>
      if resp.valid then none
      else
        let reason := trimSpace resp.reason
        some (.rejected
          (if reason = [] then str "entrada rechazada por validador gRPC" else reason))

def grpcValidate (addr : GoString) (timeout : Duration) (input : GoString) : Validation :=
  .ask (.dial addr timeout) fun err =>
    match err with
    | some err => .ret (some (.runtime (str "input-guard-grpc") err))
    | none =>
        .ask .now fun sent => .ask .now fun stamped =>
          .ask (.validateInput addr timeout (grpcRequest input sent stamped)) fun resp =>
            .ret (grpcVerdict resp)

/-- What a hybrid makes of the error of its external validator. -/
def hybridVerdict (failOpen : Bool) : Option ValidationError → Option ValidationError
  | some (.runtime binary message) => if failOpen then none else some (.runtime binary message)
  | err => err

def Validator.validate : Validator → GoString → Validation
  | .absent, _ => .ret none
  | .staticRule maxLength forbidden, input => .ret (staticRuleValidate maxLength forbidden input)
  | .externalProcess binary, input => externalProcessValidate binary input
  | .grpc addr timeout, input => grpcValidate addr timeout input
  | .hybrid internal external failOpen, input =>
      (internal.validate input).bind fun err =>
        match err with
        | some err => .ret (some err)
        | none => (external.validate input).bind fun err => .ret (hybridVerdict failOpen err)

/-! ## Configuration -/

structure Options where
  mode : GoString
  externalEnabled : Bool
  externalBinary : GoString
  failOpen : Bool
  grpcAddr : GoString
  grpcTimeout : Duration
  grpcFailOpen : Bool

def defaultForbidden : List GoString :=
  [str "&&", str "||", str "../", str "$(", str "\x60", str ";"]

def newDefaultValidator : Validator := .staticRule 120 defaultForbidden

/-- Built without the tag `grpcvalidator` there is no gRPC validator. -/
def buildGRPCValidator (tagged : Bool) (opts : Options) : Option Validator :=
  if !tagged then none
  else if trimSpace opts.grpcAddr = [] then none
  else
    some (.grpc (trimSpace opts.grpcAddr)
      (if opts.grpcTimeout ≤ 0 then 2 * second else opts.grpcTimeout))

/-- The part of `NewValidator` that both modes end in. -/
def newBinaryValidator (opts : Options) : Validator :=
  if !opts.externalEnabled || trimSpace opts.externalBinary = [] then newDefaultValidator
  else .hybrid newDefaultValidator (.externalProcess (trimSpace opts.externalBinary)) opts.failOpen

def newValidator (tagged : Bool) (opts : Options) : Validator :=
  if toLower (trimSpace opts.mode) = str "grpc" then
    match buildGRPCValidator tagged opts with
    | some external => .hybrid newDefaultValidator external opts.grpcFailOpen
    | none => newBinaryValidator opts
  else newBinaryValidator opts

/-! ## Who was consulted -/

/-- The exchange is one with an external validator, about this input, which accepts it. -/
def Accepts (input : GoString) : (Σ q, Answer q) → Prop
  | ⟨.run _ argument, result⟩ => argument = input ∧ ProcessResult.err result = none
  | ⟨.validateInput _ _ request, response⟩ =>
      request.input = input ∧
        ∃ r : ValidateInputResponse, (response : Except GoString ValidateInputResponse) = .ok r ∧
          r.valid = true
  | _ => False

/-- The configuration asks for an external validator. -/
def AsksExternal (opts : Options) : Prop :=
  toLower (trimSpace opts.mode) = str "grpc" ∨ opts.externalEnabled = true

/-- The external validator it asks for can be built. -/
def Buildable (tagged : Bool) (opts : Options) : Prop :=
  (toLower (trimSpace opts.mode) = str "grpc" ∧ tagged = true ∧ trimSpace opts.grpcAddr ≠ []) ∨
    (opts.externalEnabled = true ∧ trimSpace opts.externalBinary ≠ [])

/-- A validator that accepts an input only after an exchange that accepts it. -/
def Consults (v : Validator) : Prop :=
  ∀ input trace, (v.validate input).Runs trace none → ∃ e ∈ trace, Accepts input e

theorem processVerdict_eq_none {binary : GoString} {result : ProcessResult}
    (accepted : processVerdict binary result = none) : result.err = none := by
  unfold processVerdict at accepted
  cases ended : result.err with
  | none => rfl
  | some err =>
      rw [ended] at accepted
      dsimp only at accepted
      split at accepted <;> cases accepted

theorem grpcVerdict_eq_none {response : Except GoString ValidateInputResponse}
    (accepted : grpcVerdict response = none) : ∃ r, response = .ok r ∧ r.valid = true := by
  cases response with
  | error err => cases accepted
  | ok resp =>
      cases valid : resp.valid with
      | true => exact ⟨resp, rfl, valid⟩
      | false => simp [grpcVerdict, valid] at accepted

theorem consults_externalProcess (binary : GoString) : Consults (.externalProcess binary) := by
  intro input trace ran
  obtain ⟨env, rest, rfl, ran'⟩ := Script.runs_ask ran
  cases resolved : validateExecutable env binary with
  | error err =>
      simp only [resolved] at ran'
      cases ran'
  | ok path =>
      simp only [resolved] at ran'
      obtain ⟨result, rest', rfl, ended⟩ := Script.runs_ask ran'
      generalize accepted : processVerdict binary result = verdict at ended
      cases ended
      exact ⟨⟨.run path input, result⟩, by simp, rfl, processVerdict_eq_none accepted⟩

theorem consults_grpc (addr : GoString) (timeout : Duration) : Consults (.grpc addr timeout) := by
  intro input trace ran
  obtain ⟨err, rest, rfl, ran'⟩ := Script.runs_ask ran
  cases err with
  | some err => cases ran'
  | none =>
      obtain ⟨sent, rest₁, rfl, ran₁⟩ := Script.runs_ask ran'
      obtain ⟨stamped, rest₂, rfl, ran₂⟩ := Script.runs_ask ran₁
      obtain ⟨resp, rest₃, rfl, ended⟩ := Script.runs_ask ran₂
      generalize accepted : grpcVerdict resp = verdict at ended
      cases ended
      exact ⟨⟨.validateInput addr timeout (grpcRequest input sent stamped), resp⟩, by simp, rfl,
        grpcVerdict_eq_none accepted⟩

/-- A hybrid that fails closed consults what its external validator consults. -/
theorem consults_hybrid {internal external : Validator} (consults : Consults external) :
    Consults (.hybrid internal external false) := by
  intro input trace ran
  obtain ⟨first, err, rest, -, ran', rfl⟩ := Script.runs_bind ran
  cases err with
  | some err => cases ran'
  | none =>
      obtain ⟨second, err, rest', asked, ended, rfl⟩ := Script.runs_bind ran'
      have accepted : err = none := by
        generalize verdict : hybridVerdict false err = result at ended
        cases ended
        cases err with
        | none => rfl
        | some err => cases err <;> cases verdict
      subst accepted
      obtain ⟨e, member, accepts⟩ := consults input second asked
      exact ⟨e, by simp [member], accepts⟩

theorem newBinaryValidator_of_built {opts : Options} (on : opts.externalEnabled = true)
    (named : trimSpace opts.externalBinary ≠ []) :
    newBinaryValidator opts = .hybrid newDefaultValidator
      (.externalProcess (trimSpace opts.externalBinary)) opts.failOpen := by
  simp [newBinaryValidator, on, named]

theorem newBinaryValidator_of_not_built {opts : Options}
    (off : ¬ (opts.externalEnabled = true ∧ trimSpace opts.externalBinary ≠ [])) :
    newBinaryValidator opts = newDefaultValidator := by
  rw [newBinaryValidator, if_pos]
  simp only [Bool.or_eq_true, Bool.not_eq_true', decide_eq_true_eq]
  by_cases on : opts.externalEnabled = true
  · exact .inr (not_not.1 fun named => off ⟨on, named⟩)
  · exact .inl (by simpa using on)

theorem buildGRPCValidator_eq_none {tagged : Bool} {opts : Options}
    (off : ¬ (tagged = true ∧ trimSpace opts.grpcAddr ≠ [])) :
    buildGRPCValidator tagged opts = none := by
  unfold buildGRPCValidator
  cases tagged with
  | false => rfl
  | true =>
      have blank : trimSpace opts.grpcAddr = [] := not_not.1 fun named => off ⟨rfl, named⟩
      simp [blank]

theorem buildGRPCValidator_eq_some {tagged : Bool} {opts : Options} (on : tagged = true)
    (named : trimSpace opts.grpcAddr ≠ []) :
    ∃ timeout, buildGRPCValidator tagged opts = some (.grpc (trimSpace opts.grpcAddr) timeout) := by
  exact ⟨_, by rw [buildGRPCValidator, if_neg (by simp [on]), if_neg named]⟩

/-- What `NewValidator` builds: the gRPC hybrid if it can, else what the binary asks for. -/
theorem newValidator_cases (tagged : Bool) (opts : Options) :
    (toLower (trimSpace opts.mode) = str "grpc" ∧ tagged = true ∧ trimSpace opts.grpcAddr ≠ [] ∧
      ∃ timeout, newValidator tagged opts = .hybrid newDefaultValidator
        (.grpc (trimSpace opts.grpcAddr) timeout) opts.grpcFailOpen) ∨
    (¬ (toLower (trimSpace opts.mode) = str "grpc" ∧ tagged = true ∧ trimSpace opts.grpcAddr ≠ []) ∧
      newValidator tagged opts = newBinaryValidator opts) := by
  unfold newValidator
  by_cases mode : toLower (trimSpace opts.mode) = str "grpc"
  · rw [if_pos mode]
    by_cases on : tagged = true ∧ trimSpace opts.grpcAddr ≠ []
    · obtain ⟨timeout, built⟩ := buildGRPCValidator_eq_some on.1 on.2
      exact .inl ⟨mode, on.1, on.2, timeout, by rw [built]⟩
    · exact .inr ⟨fun all => on all.2, by rw [buildGRPCValidator_eq_none on]⟩
  · rw [if_neg mode]
    exact .inr ⟨fun all => mode all.1, rfl⟩

/-- **With fail-open off, an input is accepted only after an external validator accepted it**,
whenever the external validator asked for can be built; when it cannot, the static rules
decide alone and ask nobody. -/
theorem validate_nil_only_if_consulted (tagged : Bool) (opts : Options)
    (closed : opts.failOpen = false) (grpcClosed : opts.grpcFailOpen = false) :
    (Buildable tagged opts → Consults (newValidator tagged opts)) ∧
      (¬ Buildable tagged opts → newValidator tagged opts = newDefaultValidator) := by
  rcases newValidator_cases tagged opts with ⟨mode, on, named, timeout, built⟩ | ⟨noGrpc, built⟩
  · refine ⟨fun _ => ?_, fun not => absurd (.inl ⟨mode, on, named⟩) not⟩
    rw [built, grpcClosed]
    exact consults_hybrid (consults_grpc _ _)
  · rw [built]
    constructor
    · rintro (⟨mode, on, named⟩ | ⟨on, named⟩)
      · exact absurd ⟨mode, on, named⟩ noGrpc
      · rw [newBinaryValidator_of_built on named, closed]
        exact consults_hybrid (consults_externalProcess _)
    · intro not
      exact newBinaryValidator_of_not_built fun binary => not (.inr binary)

/-- The gRPC mode in a build with the tag. -/
def grpcOptions : Options where
  mode := str " GRPC "
  externalEnabled := false
  externalBinary := []
  failOpen := false
  grpcAddr := str "localhost:50051"
  grpcTimeout := 0
  grpcFailOpen := false

/-- An accepted input in the gRPC mode, and the exchange it was accepted in. -/
theorem validate_grpc_consulted :
    let request := grpcRequest (str "status") 1 2
    let trace : List (Σ q, Answer q) := [⟨.dial (str "localhost:50051") (2 * second), none⟩,
      ⟨.now, (1 : Time)⟩, ⟨.now, (2 : Time)⟩,
      ⟨.validateInput (str "localhost:50051") (2 * second) request,
        (.ok ⟨true, []⟩ : Except GoString ValidateInputResponse)⟩]
    Buildable true grpcOptions ∧
      ((newValidator true grpcOptions).validate (str "status")).Runs trace none ∧
      ∃ e ∈ trace, Accepts (str "status") e := by
  intro request trace
  have built : Buildable true grpcOptions := .inl ⟨by decide, rfl, by decide⟩
  have ran : ((newValidator true grpcOptions).validate (str "status")).Runs trace none :=
    .ask _ (.ask _ (.ask _ (.ask _ (.ret _))))
  exact ⟨built, ran, (validate_nil_only_if_consulted true grpcOptions rfl rfl).1 built _ _ ran⟩

/-- The same options in a build without the tag, and a blank binary in either build: nobody is
asked and the input is accepted. -/
theorem validate_nil_unconsulted :
    (AsksExternal grpcOptions ∧ grpcOptions.failOpen = false ∧ grpcOptions.grpcFailOpen = false ∧
      ((newValidator false grpcOptions).validate (str "status")).Runs [] none) ∧
    (∀ tagged, let opts := { grpcOptions with mode := str "binary", externalEnabled := true }
      AsksExternal opts ∧ opts.failOpen = false ∧ opts.grpcFailOpen = false ∧
        ((newValidator tagged opts).validate (str "status")).Runs [] none) := by
  refine ⟨⟨.inl (by decide), rfl, rfl, .ret none⟩, fun tagged => ?_⟩
  cases tagged with
  | false => exact ⟨.inr rfl, rfl, rfl, .ret none⟩
  | true => exact ⟨.inr rfl, rfl, rfl, .ret none⟩

end SentinelOps.Security
