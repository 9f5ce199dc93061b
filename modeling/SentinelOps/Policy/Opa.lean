/-
# Policy.Opa — asking OPA which rules a deployment breaks

Two runners send the same two queries, `deny` and then `warn`: one runs the `opa` binary on a
temporary file, the other posts to a sidecar and may keep the decision in a cache.  A check is
a script of questions to the outside and to the cache, so what was sent and how it was
answered is read off its trace.

`readings` are the answers of a trace that decode, each with the value under it; a value that
is absent reads as `null`.  `Ends` lists the ways a check can end (`check_ends`), with what it
did to the cache.
-/
import SentinelOps.Security.PathGuard
import SentinelOps.Theory.GoJson
import SentinelOps.Theory.GoMap
import SentinelOps.Theory.GoTime
import SentinelOps.Theory.Script

namespace SentinelOps.Policy

open Theory GoJson
open GoText (GoString str trimSpace toLower trimRightByte decimal)
open GoTime (Time Duration second)
open Security (Environment validateExecutable validateFilesystemPath)

set_option autoImplicit false

/-- `sort.Strings`. -/
def sortStrings (items : List GoString) : List GoString := items.insertionSort (· ≤ ·)

/-! ## The input -/

/-- The kinds of values a deployment is built from. -/
inductive Input where
  | text (value : GoString)
  | flag (value : Bool)
  | map (fields : List (GoString × Input))
  | list (items : List Input)

namespace Input

mutual

/-- `json.Marshal`; the keys of a map are sorted. -/
def marshal : Input → GoString
  | .text value => quote value
  | .flag value => if value then str "true" else str "false"
  | .map fields =>
      let members := (marshalFields fields).insertionSort fun a b => a.1 ≤ b.1
      str "\x7b" ++ List.intercalate (str ",") (members.map fun p => quote p.1 ++ str ":" ++ p.2) ++
        str "\x7d"
  | .list items => str "[" ++ List.intercalate (str ",") (marshalItems items) ++ str "]"

def marshalFields : List (GoString × Input) → List (GoString × GoString)
  | [] => []
  | (key, value) :: fields => (key, marshal value) :: marshalFields fields

def marshalItems : List Input → List GoString
  | [] => []
  | item :: items => marshal item :: marshalItems items

end

end Input

def buildDeploymentInput (profile : GoString) : Input :=
  let insecure : Bool := profile = str "insecure"
  let image := if insecure then str "sentinelops:latest" else str "sentinelops:1.0.0"
  .map [
    (str "apiVersion", .text (str "apps/v1")),
    (str "kind", .text (str "Deployment")),
    (str "metadata", .map [
      (str "name", .text (str "sentinelops")),
      (str "labels", .map [
        (str "app", .text (str "sentinelops")),
        (str "profile", .text profile)])]),
    (str "spec", .map [
      (str "template", .map [
        (str "spec", .map [
          (str "containers", .list [
            .map [
              (str "name", .text (str "server")),
              (str "image", .text image),
              (str "securityContext", .map [
                (str "privileged", .flag insecure),
                (str "runAsNonRoot", .flag !insecure),
                (str "allowPrivilegeEscalation", .flag insecure),
                (str "readOnlyRootFilesystem", .flag !insecure)])]])])])])]

/-! ## The outside -/

inductive Query where
  | deny
  | warn
deriving DecidableEq, Repr

def Query.path : Query → GoString
  | deny => str "kubernetes/security/deny"
  | warn => str "kubernetes/security/warn"

def Query.rule : Query → GoString
  | deny => str "data.kubernetes.security.deny"
  | warn => str "data.kubernetes.security.warn"

/-- The bytes of an answer, the tree they parse to if they are JSON, and the text of the error
`json.Unmarshal` gives should it fail on them. -/
structure Body where
  bytes : GoString
  parsed : Option Json
  problem : GoString

/-- How a request ends: it cannot be built, sent or read, or it has a status and a body. -/
inductive HttpReply where
  | badRequest (err : GoString)
  | unreachable (err : GoString)
  | unreadable (err : GoString)
  | answered (status : Nat) (body : Body)

structure EvalResult where
  err : Option GoString
  stdout : Body
  stderr : GoString

structure Decision where
  denies : List GoString
  warnings : List GoString
deriving DecidableEq

structure CachedDecision extends Decision where
  expiresAt : Time
deriving DecidableEq

inductive Question where
  | now
  | createTemp (pattern : GoString)
  | encode (file body : GoString)
  | close (file : GoString)
  | remove (file : GoString)
  | environment
  | run (query : Query) (binary : GoString) (args : List GoString)
  | post (query : Query) (timeout : Duration) (url body : GoString)
  | getCached (key : GoString)
  | setCached (key : GoString) (decision : CachedDecision)

/-- Errors are given by their texts. -/
def Answer : Question → Type
  | .now => Time
  | .createTemp _ => Except GoString GoString
  | .encode _ _ => Option GoString
  | .close _ => Option GoString
  | .remove _ => Unit
  | .environment => Environment
  | .run _ _ _ => EvalResult
  | .post _ _ _ _ => HttpReply
  | .getCached _ => Option CachedDecision
  | .setCached _ _ => Unit

abbrev Event := Σ q, Answer q

/-- A piece of a check that ends with an error or a result. -/
abbrev Asking (R : Type) := Script Question Answer (Except GoString R)

/-! ## Reading an answer -/

def asString : Json → Option GoString
  | .str text => some text
  | _ => none

def normalizeOPAValue : Json → List GoString
  | .null => []
  | .str text => [text]
  | .arr items => sortStrings (items.filterMap asString)
  | .obj fields => sortStrings (fields.map Prod.fst).dedup
  | .bool value => [if value then str "true" else str "false"]
  | .num printed => [printed.getD []]

/-- `struct { Result any }`. -/
def httpPayload (tree : Json) : Option Json := decodeStruct (str "result") decodeAny .null tree

/-- `struct { Result []struct { Expressions []struct { Value any } } }`, each slice by its first
element. -/
def evalPayload (tree : Json) : Option (Option (Option Json)) :=
  decodeStruct (str "result")
    (decodeSlice none
      (decodeStruct (str "expressions")
        (decodeSlice .null (decodeStruct (str "value") decodeAny)))) none tree

/-- The value under an HTTP answer, if it decodes. -/
def Body.httpValue (raw : Body) : Option Json := raw.parsed.bind httpPayload

/-- The value of the first expression of the first result, if the answer decodes; `null` when
there is none. -/
def Body.evalValue (raw : Body) : Option Json :=
  (raw.parsed.bind evalPayload).map fun payload => (payload.bind id).getD .null

def extractOPAHTTPStrings (raw : Body) : Except GoString (List GoString) :=
  match raw.httpValue with
  | none => .error raw.problem
  | some value => .ok (normalizeOPAValue value)

def extractOPAStrings (raw : Body) : Except GoString (List GoString) :=
  match raw.evalValue with
  | none => .error raw.problem
  | some value => .ok (normalizeOPAValue value)

/-- `fmt.Errorf` with `%w` at the end. -/
def wrap {R : Type} (context : GoString) : Except GoString R → Except GoString R
  | .error err => .error (context ++ str ": " ++ err)
  | .ok result => .ok result

/-! ## The runners -/

/-- `deny` and, if it was answered, `warn`. -/
def bothQueries (query : Query → Asking (List GoString)) : Asking Decision :=
  (query .deny).bind fun denies =>
    match denies with
    | .error err => .ret (.error err)
    | .ok denies =>
        (query .warn).bind fun warnings =>
          match warnings with
          | .error err => .ret (.error err)
          | .ok warnings => .ret (.ok ⟨denies, warnings⟩)

structure OPARunner where
  binary : GoString
  policyDir : GoString

namespace OPARunner

/-- What the end of `opa eval` means. -/
def evalOutcome (query : Query) (result : EvalResult) : Except GoString (List GoString) :=
  match result.err with
  | some err =>
      let msg := if trimSpace result.stderr = [] then err else trimSpace result.stderr
      .error (str "opa eval falló para " ++ query.rule ++ str ": " ++ msg)
  | none => wrap (str "parsear salida de OPA para " ++ query.rule) (extractOPAStrings result.stdout)

/-- The three paths `eval` validates before it runs anything. -/
def evalPaths (r : OPARunner) (env : Environment) (inputFile : GoString) :
    Except GoString (GoString × GoString × GoString) := do
  let binary ← validateExecutable env r.binary
  let policyDir ← validateFilesystemPath env.getwd r.policyDir (str "directorio de políticas OPA")
  let safeInput ← validateFilesystemPath env.getwd inputFile (str "entrada temporal OPA")
  return (binary, policyDir, safeInput)

def eval (r : OPARunner) (inputFile : GoString) (query : Query) : Asking (List GoString) :=
  .ask .environment fun env =>
    match r.evalPaths env inputFile with
    | .error err => .ret (.error err)
    | .ok (binary, policyDir, safeInput) =>
        let args := [str "eval", str "--format=json", str "--data", policyDir, str "--input",
          safeInput, query.rule]
        .ask (.run query binary args) fun result => .ret (evalOutcome query result)

/-- Everything between the creation of the temporary file and its removal. -/
def checkWith (r : OPARunner) (file : GoString) (input : Input) : Asking Decision :=
  .ask (.encode file (input.marshal ++ str "\n")) fun err =>
    match err with
    | some err =>
        .ask (.close file) fun _ => .ret (.error (str "escribir entrada de política: " ++ err))
    | none =>
        .ask (.close file) fun err =>
          match err with
          | some err => .ret (.error (str "cerrar entrada de política: " ++ err))
          | none => bothQueries (r.eval file)

def check (r : OPARunner) (input : Input) : Asking Decision :=
  .ask (.createTemp (str "sentinelops-policy-*.json")) fun created =>
    match created with
    | .error err => .ret (.error (str "crear entrada temporal de política: " ++ err))
    | .ok file =>
        (r.checkWith file input).bind fun outcome => .ask (.remove file) fun _ => .ret outcome

end OPARunner

structure HTTPRunner where
  baseURL : GoString
  timeout : Duration
  cacheEnabled : Bool
  cacheTTL : Duration

namespace HTTPRunner

def replyOutcome (query : Query) : HttpReply → Except GoString (List GoString)
  | .badRequest err => .error err
  | .unreachable err => .error (str "consultar OPA sidecar: " ++ err)
  | .unreadable err => .error (str "leer respuesta OPA: " ++ err)
  | .answered status body =>
      if status ≠ 200 then
        .error (str "OPA sidecar respondió " ++ decimal status ++ str ": " ++ trimSpace body.bytes)
      else
        wrap (str "parsear respuesta OPA sidecar para " ++ query.path) (extractOPAHTTPStrings body)

def querySet (r : HTTPRunner) (input : Input) (query : Query) : Asking (List GoString) :=
  let body := (Input.map [(str "input", input)]).marshal
  let url := r.baseURL ++ str "/v1/data/" ++ query.path
  .ask (.post query r.timeout url body) fun reply => .ret (replyOutcome query reply)

/-- Keep the decision of an evaluation that went through. -/
def remember (r : HTTPRunner) (key : GoString) (decision : Decision) : Asking Decision :=
  if r.cacheEnabled then
    .ask .now fun now =>
      .ask (.setCached key ⟨decision, now.add r.cacheTTL⟩) fun _ => .ret (.ok decision)
  else .ret (.ok decision)

def evaluate (r : HTTPRunner) (key : GoString) (input : Input) : Asking Decision :=
  (bothQueries (r.querySet input)).bind fun outcome =>
    match outcome with
    | .error err => .ret (.error err)
    | .ok decision => r.remember key decision

/-- `digest` is the hexadecimal SHA-256. -/
def check (digest : GoString → GoString) (r : HTTPRunner) (input : Input) : Asking Decision :=
  if r.baseURL = [] then .ret (.ok ⟨[], []⟩)
  else
    let key := digest input.marshal
    if r.cacheEnabled then
      .ask (.getCached key) fun hit =>
        match hit with
        | some decision => .ret (.ok (CachedDecision.toDecision decision))
        | none => r.evaluate key input
    else r.evaluate key input

end HTTPRunner

/-- `ExternalRunner`; a pointer inside it may be nil. -/
inductive ExternalRunner where
  | opa (runner : Option OPARunner)
  | http (runner : Option HTTPRunner)

def ExternalRunner.check (digest : GoString → GoString) (input : Input) :
    ExternalRunner → Asking Decision
  | .opa none => .ret (.ok ⟨[], []⟩)
  | .http none => .ret (.ok ⟨[], []⟩)
  | .opa (some r) => r.check input
  | .http (some r) => r.check digest input

/-! ## Configuration -/

structure Config where
  policyEnabled : Bool
  policyMode : GoString
  policyBinary : GoString
  policyDir : GoString
  policyURL : GoString
  policyTimeout : Duration
  policyCacheEnabled : Bool
  policyCacheTTL : Duration

def newHTTPRunner (baseURL : GoString) (timeout : Duration) (cacheEnabled : Bool)
    (cacheTTL : Duration) : HTTPRunner where
  baseURL := trimRightByte 0x2F (trimSpace baseURL)
  timeout := if timeout ≤ 0 then 2 * second else timeout
  cacheEnabled := cacheEnabled
  cacheTTL := if cacheTTL ≤ 0 then 30 * second else cacheTTL

def newExternalRunner (cfg : Config) : Option ExternalRunner :=
  let mode := toLower (trimSpace cfg.policyMode)
  if !cfg.policyEnabled then none
  else if mode = str "http" ∨ mode = str "sidecar" then
    if trimSpace cfg.policyURL = [] then none
    else
      some (.http (some (newHTTPRunner cfg.policyURL cfg.policyTimeout cfg.policyCacheEnabled
        cfg.policyCacheTTL)))
  else if mode = str "exec" ∨ mode = str "binary" ∨ mode = [] then
    if trimSpace cfg.policyBinary = [] ∨ trimSpace cfg.policyDir = [] then none
    else some (.opa (some ⟨trimSpace cfg.policyBinary, trimSpace cfg.policyDir⟩))
  else none

/-! ## What a trace shows -/

/-- The value an HTTP reply was answered with. -/
def HttpReply.value : HttpReply → Option Json
  | .answered status body => if status = 200 then body.httpValue else none
  | _ => none

/-- The value a run of `opa` was answered with. -/
def EvalResult.value (result : EvalResult) : Option Json :=
  if result.err = none then result.stdout.evalValue else none

/-- The query an exchange answered, with the value it read. -/
def reading : Event → Option (Query × Json)
  | ⟨.post query _ _ _, reply⟩ => (HttpReply.value reply).map (query, ·)
  | ⟨.run query _ _, result⟩ => (EvalResult.value result).map (query, ·)
  | _ => none

def readings (trace : List Event) : List (Query × Json) := trace.filterMap reading

/-- An operation on the cache, with its answer. -/
inductive CacheOp where
  | get (key : GoString) (hit : Option CachedDecision)
  | set (key : GoString) (decision : CachedDecision)

def cacheOp : Event → Option CacheOp
  | ⟨.getCached key, hit⟩ => some (.get key hit)
  | ⟨.setCached key decision, _⟩ => some (.set key decision)
  | _ => none

def cacheOps (trace : List Event) : List CacheOp := trace.filterMap cacheOp

theorem readings_append (first rest : List Event) :
    readings (first ++ rest) = readings first ++ readings rest := List.filterMap_append

theorem cacheOps_append (first rest : List Event) :
    cacheOps (first ++ rest) = cacheOps first ++ cacheOps rest := List.filterMap_append

/-- A query was asked outside the cache and ended with what the answer reads as. -/
def Answers (query : Query) (trace : List Event) (outcome : Except GoString (List GoString)) :
    Prop :=
  cacheOps trace = [] ∧
    ((∃ value, readings trace = [(query, value)] ∧ outcome = .ok (normalizeOPAValue value)) ∨
      (∃ err, readings trace = [] ∧ outcome = .error err))

/-- Both queries were answered, or the evaluation failed before `warn` was. -/
inductive Evaluates (read : List (Query × Json)) : Except GoString Decision → Prop where
  | answered (deny warn : Json) (both : read = [(.deny, deny), (.warn, warn)]) :
      Evaluates read (.ok ⟨normalizeOPAValue deny, normalizeOPAValue warn⟩)
  | failed (err : GoString) (unread : ∀ warn, (Query.warn, warn) ∉ read) :
      Evaluates read (.error err)

theorem evalOutcome_answers (query : Query) (result : EvalResult) (binary : GoString)
    (args : List GoString) :
    Answers query [⟨.run query binary args, result⟩] (OPARunner.evalOutcome query result) := by
  refine ⟨rfl, ?_⟩
  have read : readings [⟨.run query binary args, result⟩]
      = (result.value.map (query, ·)).toList := by
    cases value : result.value <;> simp [readings, reading, value]
  rw [read]
  unfold OPARunner.evalOutcome EvalResult.value
  cases failed : result.err with
  | some err => exact .inr ⟨_, by simp, rfl⟩
  | none =>
      unfold extractOPAStrings
      cases decoded : result.stdout.evalValue with
      | none => exact .inr ⟨_, by simp, rfl⟩
      | some value => exact .inl ⟨value, by simp, rfl⟩

theorem replyOutcome_answers (query : Query) (reply : HttpReply) (timeout : Duration)
    (url body : GoString) :
    Answers query [⟨.post query timeout url body, reply⟩]
      (HTTPRunner.replyOutcome query reply) := by
  refine ⟨rfl, ?_⟩
  have read : readings [⟨.post query timeout url body, reply⟩]
      = (reply.value.map (query, ·)).toList := by
    cases value : reply.value <;> simp [readings, reading, value]
  rw [read]
  cases reply with
  | badRequest err => exact .inr ⟨_, rfl, rfl⟩
  | unreachable err => exact .inr ⟨_, rfl, rfl⟩
  | unreadable err => exact .inr ⟨_, rfl, rfl⟩
  | answered status body =>
      unfold HTTPRunner.replyOutcome HttpReply.value
      by_cases good : status = 200
      · simp only [good, ne_eq, not_true_eq_false, if_false, if_true]
        unfold extractOPAHTTPStrings
        cases decoded : body.httpValue with
        | none => exact .inr ⟨_, rfl, rfl⟩
        | some value => exact .inl ⟨value, rfl, rfl⟩
      · simp only [good, ne_eq, not_false_eq_true, if_true, if_false]
        exact .inr ⟨_, rfl, rfl⟩

theorem eval_answers (r : OPARunner) (file : GoString) (query : Query) {trace : List Event}
    {outcome : Except GoString (List GoString)} (ran : (r.eval file query).Runs trace outcome) :
    Answers query trace outcome := by
  obtain ⟨env, rest, rfl, ran'⟩ := Script.runs_ask ran
  cases paths : r.evalPaths env file with
  | error err =>
      simp only [paths] at ran'
      cases ran'
      exact ⟨rfl, .inr ⟨err, rfl, rfl⟩⟩
  | ok path =>
      obtain ⟨binary, policyDir, safeInput⟩ := path
      simp only [paths] at ran'
      obtain ⟨result, rest', rfl, ended⟩ := Script.runs_ask ran'
      cases ended
      exact evalOutcome_answers query result binary _

theorem querySet_answers (r : HTTPRunner) (input : Input) (query : Query) {trace : List Event}
    {outcome : Except GoString (List GoString)}
    (ran : (r.querySet input query).Runs trace outcome) : Answers query trace outcome := by
  obtain ⟨reply, rest, rfl, ended⟩ := Script.runs_ask ran
  cases ended
  exact replyOutcome_answers query reply _ _ _

theorem bothQueries_evaluates {query : Query → Asking (List GoString)}
    (answers : ∀ q trace outcome, (query q).Runs trace outcome → Answers q trace outcome)
    {trace : List Event} {outcome : Except GoString Decision}
    (ran : (bothQueries query).Runs trace outcome) :
    cacheOps trace = [] ∧ Evaluates (readings trace) outcome := by
  obtain ⟨first, denies, rest, asked, ran', rfl⟩ := Script.runs_bind ran
  obtain ⟨quiet, answered⟩ := answers _ _ _ asked
  rcases answered with ⟨deny, read, rfl⟩ | ⟨err, read, rfl⟩
  · obtain ⟨second, warnings, rest', asked', ran'', rfl⟩ := Script.runs_bind ran'
    obtain ⟨quiet', answered'⟩ := answers _ _ _ asked'
    rcases answered' with ⟨warn, read', rfl⟩ | ⟨err, read', rfl⟩
    · cases ran''
      refine ⟨by simp [cacheOps_append, quiet, quiet'], .answered deny warn ?_⟩
      simp [readings_append, read, read']
    · cases ran''
      refine ⟨by simp [cacheOps_append, quiet, quiet'], .failed err fun warn => ?_⟩
      simp [readings_append, read, read']
  · cases ran'
    exact ⟨by simpa using quiet, .failed err fun warn => by simp [read]⟩

theorem checkWith_evaluates (r : OPARunner) (file : GoString) (input : Input)
    {trace : List Event} {outcome : Except GoString Decision}
    (ran : (r.checkWith file input).Runs trace outcome) :
    cacheOps trace = [] ∧ Evaluates (readings trace) outcome := by
  obtain ⟨err, rest, rfl, ran'⟩ := Script.runs_ask ran
  cases err with
  | some err =>
      obtain ⟨closed, rest', rfl, ended⟩ := Script.runs_ask ran'
      cases ended
      exact ⟨rfl, .failed _ fun warn => by simp [readings, reading]⟩
  | none =>
      obtain ⟨err, rest', rfl, ran''⟩ := Script.runs_ask ran'
      cases err with
      | some err =>
          cases ran''
          exact ⟨rfl, .failed _ fun warn => by simp [readings, reading]⟩
      | none =>
          obtain ⟨quiet, evaluated⟩ :=
            bothQueries_evaluates (fun q _ _ asked => eval_answers r file q asked) ran''
          -- Neither writing nor closing the file is a reading.
          exact ⟨quiet, evaluated⟩

/-! ## How a check ends -/

/-- A runner that answers without asking anybody. -/
def ExternalRunner.Idle : ExternalRunner → Prop
  | .opa runner => runner = none
  | .http runner => ∀ r, runner = some r → r.baseURL = []

/-- The ways a check ends, by what it did to the cache and what it read.  An idle runner skips
the evaluation; a hit of the cache ends it; an evaluation goes through, and is kept if the
cache is enabled, or it fails. -/
inductive Ends (runner : ExternalRunner) (key : GoString) (ops : List CacheOp)
    (read : List (Query × Json)) : Except GoString Decision → Prop where
  | skipped (idle : runner.Idle) (untouched : ops = []) (unread : read = []) :
      Ends runner key ops read (.ok ⟨[], []⟩)
  | hit (decision : CachedDecision) (touched : ops = [.get key (some decision)])
      (unread : read = []) : Ends runner key ops read (.ok decision.toDecision)
  | evaluated (deny warn : Json) (both : read = [(.deny, deny), (.warn, warn)])
      (touched : ops = [] ∨ ∃ expiresAt, ops = [.get key none,
        .set key ⟨⟨normalizeOPAValue deny, normalizeOPAValue warn⟩, expiresAt⟩]) :
      Ends runner key ops read (.ok ⟨normalizeOPAValue deny, normalizeOPAValue warn⟩)
  | failed (err : GoString) (unread : ∀ warn, (Query.warn, warn) ∉ read)
      (touched : ops = [] ∨ ops = [.get key none]) : Ends runner key ops read (.error err)

theorem opa_check_ends (key : GoString) (r : OPARunner) (input : Input) {trace : List Event}
    {outcome : Except GoString Decision} (ran : (r.check input).Runs trace outcome) :
    Ends (.opa (some r)) key (cacheOps trace) (readings trace) outcome := by
  obtain ⟨created, rest, rfl, ran'⟩ := Script.runs_ask ran
  cases created with
  | error err =>
      cases ran'
      exact .failed _ (fun warn => by simp [readings, reading]) (.inl rfl)
  | ok file =>
      obtain ⟨middle, result, last, ran'', removed, rfl⟩ := Script.runs_bind ran'
      obtain ⟨gone, rest', rfl, ended⟩ := Script.runs_ask removed
      cases ended
      obtain ⟨quiet, evaluated⟩ := checkWith_evaluates r file input ran''
      have untouched : cacheOps (middle ++ [⟨.remove file, gone⟩]) = [] := by
        rw [cacheOps_append, quiet]
        rfl
      have same : readings (middle ++ [⟨.remove file, gone⟩]) = readings middle := by
        rw [readings_append]
        exact List.append_nil _
      cases evaluated with
      | answered deny warn both => exact .evaluated deny warn (same.trans both) (.inl untouched)
      | failed err unread =>
          refine .failed err (fun warn => ?_) (.inl untouched)
          show (Query.warn, warn) ∉ readings (middle ++ [⟨.remove file, gone⟩])
          rw [same]
          exact unread warn

/-- Evaluating keeps a decision only when both queries were answered. -/
theorem evaluate_ends (key : GoString) (r : HTTPRunner) (input : Input) {trace : List Event}
    {outcome : Except GoString Decision} (ran : (r.evaluate key input).Runs trace outcome) :
    (∃ deny warn, readings trace = [(.deny, deny), (.warn, warn)] ∧
      outcome = .ok ⟨normalizeOPAValue deny, normalizeOPAValue warn⟩ ∧
      ((r.cacheEnabled = false ∧ cacheOps trace = []) ∨
        (r.cacheEnabled = true ∧ ∃ expiresAt, cacheOps trace =
          [.set key ⟨⟨normalizeOPAValue deny, normalizeOPAValue warn⟩, expiresAt⟩]))) ∨
    (∃ err, outcome = .error err ∧ (∀ warn, (Query.warn, warn) ∉ readings trace) ∧
      cacheOps trace = []) := by
  obtain ⟨first, result, last, asked, ran', rfl⟩ := Script.runs_bind ran
  obtain ⟨quiet, evaluated⟩ :=
    bothQueries_evaluates (fun q _ _ asked => querySet_answers r input q asked) asked
  cases evaluated with
  | failed err unread =>
      cases ran'
      exact .inr ⟨err, rfl, by simpa using unread, by simpa using quiet⟩
  | answered deny warn both =>
      refine .inl ⟨deny, warn, ?_⟩
      simp only [HTTPRunner.remember] at ran'
      cases enabled : r.cacheEnabled with
      | false =>
          simp only [enabled, Bool.false_eq_true, if_false] at ran'
          cases ran'
          exact ⟨by simpa using both, rfl, .inl ⟨rfl, by simpa using quiet⟩⟩
      | true =>
          simp only [enabled, if_true] at ran'
          obtain ⟨now, rest, rfl, ran''⟩ := Script.runs_ask ran'
          obtain ⟨stored, rest', rfl, ended⟩ := Script.runs_ask ran''
          cases ended
          refine ⟨?_, rfl, .inr ⟨rfl, Time.add now r.cacheTTL, ?_⟩⟩
          · rw [readings_append, both]
            rfl
          · rw [cacheOps_append, quiet]
            rfl

theorem http_check_ends (digest : GoString → GoString) (r : HTTPRunner) (input : Input)
    {trace : List Event} {outcome : Except GoString Decision}
    (ran : (r.check digest input).Runs trace outcome) :
    Ends (.http (some r)) (digest input.marshal) (cacheOps trace) (readings trace) outcome := by
  unfold HTTPRunner.check at ran
  by_cases blank : r.baseURL = []
  · rw [if_pos blank] at ran
    cases ran
    refine .skipped (fun r' same => ?_) rfl rfl
    cases same
    exact blank
  · rw [if_neg blank] at ran
    cases enabled : r.cacheEnabled with
    | false =>
        simp only [enabled, Bool.false_eq_true, if_false] at ran
        rcases evaluate_ends _ r input ran with
          ⟨deny, warn, both, rfl, kept⟩ | ⟨err, rfl, unread, quiet⟩
        · rcases kept with ⟨-, quiet⟩ | ⟨on, -⟩
          · exact .evaluated deny warn both (.inl quiet)
          · rw [enabled] at on
            cases on
        · exact .failed err unread (.inl quiet)
    | true =>
        simp only [enabled, if_true] at ran
        obtain ⟨hit, rest, rfl, ran'⟩ := Script.runs_ask ran
        cases hit with
        | some decision =>
            cases ran'
            exact .hit decision rfl rfl
        | none =>
            rcases evaluate_ends _ r input ran' with
              ⟨deny, warn, both, rfl, kept⟩ | ⟨err, rfl, unread, quiet⟩
            · rcases kept with ⟨off, -⟩ | ⟨-, expiresAt, stored⟩
              · rw [enabled] at off
                cases off
              · exact .evaluated deny warn both (.inr ⟨expiresAt, congrArg (_ :: ·) stored⟩)
            · exact .failed err unread (.inr (congrArg (_ :: ·) quiet))

theorem check_ends (digest : GoString → GoString) (runner : ExternalRunner) (input : Input)
    {trace : List Event} {outcome : Except GoString Decision}
    (ran : (runner.check digest input).Runs trace outcome) :
    Ends runner (digest input.marshal) (cacheOps trace) (readings trace) outcome := by
  cases runner with
  | opa runner =>
      cases runner with
      | none =>
          cases ran
          exact .skipped rfl rfl rfl
      | some r => exact opa_check_ends _ r input ran
  | http runner =>
      cases runner with
      | none =>
          cases ran
          refine .skipped (fun r same => ?_) rfl rfl
          cases same
      | some r => exact http_check_ends digest r input ran

theorem check_of_idle (digest : GoString → GoString) {runner : ExternalRunner} (input : Input)
    (idle : runner.Idle) : runner.check digest input = .ret (.ok ⟨[], []⟩) := by
  cases runner with
  | opa runner =>
      cases idle
      rfl
  | http runner =>
      cases runner with
      | none => rfl
      | some r => exact if_pos (idle r rfl)

/-! ## Values without a finding -/

/-- Nothing the code reports: no value, a list without a string, or no key. -/
def Silent : Json → Prop
  | .null => True
  | .arr items => ∀ item ∈ items, asString item = none
  | .obj fields => fields = []
  | _ => False

/-- An array or an object without elements. -/
def EmptyCollection : Json → Prop
  | .arr items => items = []
  | .obj fields => fields = []
  | _ => False

theorem sortStrings_eq_nil_iff (items : List GoString) : sortStrings items = [] ↔ items = [] := by
  rw [← List.length_eq_zero_iff, sortStrings, List.length_insertionSort, List.length_eq_zero_iff]

/-- Nothing is reported exactly of a silent value. -/
theorem normalizeOPAValue_eq_nil_iff (value : Json) :
    normalizeOPAValue value = [] ↔ Silent value := by
  cases value with
  | null => simp [normalizeOPAValue, Silent]
  | bool value => simp [normalizeOPAValue, Silent]
  | num printed => simp [normalizeOPAValue, Silent]
  | str text => simp [normalizeOPAValue, Silent]
  | arr items =>
      rw [normalizeOPAValue, sortStrings_eq_nil_iff, List.filterMap_eq_nil_iff]
      rfl
  | obj fields =>
      rw [normalizeOPAValue, sortStrings_eq_nil_iff, Silent]
      cases fields with
      | nil => simp
      | cons field fields =>
          have some : field.1 ∈ ((field :: fields).map Prod.fst).dedup := by simp
          constructor
          · intro none
            rw [none] at some
            cases some
          · intro none
            cases none

end SentinelOps.Policy
