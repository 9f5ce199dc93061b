/-
# Client.SshClient — the SSH client, and what it makes of the server's answers

`sshclient.Run` and the exit code of `cmd/client`.  Everything up to the session is an argument of
the run (`Reach`): the host key callback, the private key, the connection.  The session is one
request and the messages that come back over its channel; `CombinedOutput`, `Shell` and `Wait` read
them as the library does.

Client and server meet at `handleSessionChannel` (`exitCode_iff`).  A command exits with 0 exactly
when the server ran it without an error or took it as a `quit`, and what is printed is the output
with its line ends normalised.  A shell exits with 1 however it ends: the server never sends an
`exit-status` for it, and a session that ends without one is an error to the library.
-/
import SentinelOps.Client.KnownHosts
import SentinelOps.Transport.SessionChannel

namespace SentinelOps.Client

open Theory SshWire Transport
open Server (Config CommandRegistry incrementCommands)
open Session (Session)
open GoText (GoString str trimSpace decimal)

set_option autoImplicit false

/-! ## The session -/

/-- Why a session fails. -/
inductive SessionError where
  | closed
  | refused
  | exitStatus (status : UInt32)
  | exitMissing
  deriving DecidableEq

def replyOf : Entry → Option Bool
  | .replied ok => some ok
  | _ => none

/-- `binary.BigEndian.Uint32` of the payload. -/
def statusOf : Entry → Option UInt32
  | .exitStatus payload => (parseUint32 payload).map fun p => UInt32.ofNat p.1
  | _ => none

def textOf : Entry → GoString
  | .sent text => text
  | _ => []

/-- What the client reads of a channel: the replies to requests, the states of exit, and text. -/
structure Signals where
  replies : List Bool
  statuses : List UInt32
  text : GoString

def signals (log : List Entry) : Signals where
  replies := log.filterMap replyOf
  statuses := log.filterMap statusOf
  text := (log.map textOf).flatten

/-- `SendRequest` with a reply. -/
def sendRequest (s : Signals) : Except SessionError Unit :=
  match s.replies.head? with
  | none => .error .closed
  | some false => .error .refused
  | some true => .ok ()

/-- `Session.wait`: the last `exit-status` counts. -/
def wait (s : Signals) : Except SessionError Unit :=
  match s.statuses.getLast? with
  | none => .error .exitMissing
  | some status => if status = 0 then .ok () else .error (.exitStatus status)

/-- What is printed, and the error. -/
def session (s : Signals) : GoString × Except SessionError Unit :=
  match sendRequest s with
  | .error err => ([], .error err)
  | .ok () => (s.text, wait s)

def SessionError.text (refused : GoString) : SessionError → GoString
  | .closed => str "EOF"
  | .refused => refused
  | .exitStatus status => str "Process exited with status " ++ decimal status.toNat
  | .exitMissing => str "wait: remote command exited without exit status or exit signal"

/-! ## The run -/

structure ClientConfig where
  addr : GoString
  user : GoString
  password : GoString
  identityFile : GoString
  knownHostsPath : GoString
  strictHostKey : Bool
  acceptUnknownHost : Bool
  command : GoString

inductive AuthMethod where
  | publicKeys
  | password (value : GoString)
  deriving DecidableEq

/-- What the outside answers before there is a session; an error is its text. -/
structure Reach where
  setup : Setup
  loadSigner : GoString → Option GoString
  dial : Callback → List AuthMethod → Option GoString
  newSession : Option GoString

/-- Everything up to the session. -/
def connect (cfg : ClientConfig) (reach : Reach) : Except GoString Unit :=
  if trimSpace cfg.addr = [] then .error (str "la dirección del cliente SSH está vacía")
  else if trimSpace cfg.user = [] then .error (str "el usuario del cliente SSH está vacío")
  else do
    let callback ← new cfg.knownHostsPath cfg.strictHostKey cfg.acceptUnknownHost reach.setup
    let identity := trimSpace cfg.identityFile ≠ []
    if identity then
      match reach.loadSigner cfg.identityFile with
      | some err => .error err
      | none => .ok ()
    let methods := (if identity then [.publicKeys] else []) ++
      if cfg.password ≠ [] then [.password cfg.password] else []
    if methods = [] then
      .error (str "no hay un método de autenticación configurado; " ++
        str "proporciona contraseña o archivo de identidad")
    match reach.dial callback methods with
    | some err => .error (str "falló la conexión SSH: " ++ err)
    | none => .ok ()
    match reach.newSession with
    | some err => .error (str "crear sesión SSH: " ++ err)
    | none => .ok ()

/-- The request of the session. -/
def request (cfg : ClientConfig) : ChannelRequest :=
  if trimSpace cfg.command ≠ [] then ⟨str "exec", true, marshalString cfg.command⟩
  else ⟨str "shell", true, []⟩

/-- What the error of the session is wrapped in. -/
def sessionError (cfg : ClientConfig) (err : SessionError) : GoString :=
  if trimSpace cfg.command ≠ [] then
    str "falló la ejecución remota: " ++ err.text (str "ssh: command " ++ cfg.command ++
      str " failed")
  else
    match err with
    | .closed | .refused =>
        str "falló el inicio de la shell: " ++ err.text (str "ssh: could not start shell")
    | err => err.text []

/-- `Run`: what is printed, and the error.  `remote` is what the server sends for a request. -/
def run (cfg : ClientConfig) (reach : Reach) (remote : ChannelRequest → Signals) :
    GoString × Option GoString :=
  match connect cfg reach with
  | .error err => ([], some err)
  | .ok () =>
      match session (remote (request cfg)) with
      | (output, .ok ()) => (output, none)
      | (output, .error err) => (output, some (sessionError cfg err))

/-- The exit code of `cmd/client`. -/
def exitCode (outcome : GoString × Option GoString) : ℕ := if outcome.2 = none then 0 else 1

/-! ## Client and server -/

section Together

variable {C : Type} (o : Outside C) (server : Config) (sess : Session) (commands : C)

/-- What the server sends on a channel with this one request, to a client that stays. -/
def remote (stream : GoString) (req : ChannelRequest) : Signals :=
  signals <|
    ((Ssh.handleSessionChannel server stream [req] sess).run o.channel ⟨commands, none, []⟩).2.log

/-- The validator lets the line pass, and it ends the session or its command runs. -/
def Accepted (line : GoString) : Prop :=
  o.validate line = none ∧
    (Ssh.isQuit (Ssh.splitCommand line).1 = true ∨
      ∃ cmd, server.registry.find (Ssh.splitCommand line).1 = some cmd ∧
        ∃ output, (o.execute commands cmd (incrementCommands sess)
          (Ssh.splitCommand line).2).1 = .ok output)

theorem status_eq_zero_iff (line : GoString) :
    (lineOutcome o sess commands server.registry line).result.status = 0 ↔
      Accepted o server sess commands line := by
  unfold lineOutcome Accepted
  dsimp only
  cases o.validate line with
  | some err => simp [LineResult.status]
  | none =>
      cases Ssh.isQuit (Ssh.splitCommand line).1 with
      | true => simp [LineResult.status]
      | false =>
          cases server.registry.find (Ssh.splitCommand line).1 with
          | none => simp [LineResult.status]
          | some cmd =>
              simp only [Bool.false_eq_true, if_false, false_or, true_and, Option.some.injEq]
              rcases ran : o.execute commands cmd (incrementCommands sess)
                (Ssh.splitCommand line).2 with ⟨err | output, commands'⟩
              · simp [ran, LineResult.status]
              · simp [ran, LineResult.status]

theorem signals_append (log more : List Entry) :
    signals (log ++ more) =
      ⟨(signals log).replies ++ (signals more).replies,
        (signals log).statuses ++ (signals more).statuses,
        (signals log).text ++ (signals more).text⟩ := by
  simp [signals]

theorem signals_sent (text : GoString) : signals [.sent text] = ⟨[], [], text⟩ :=
  congrArg (Signals.mk [] []) (List.append_nil text)

/-- A line is not heard of before its output. -/
theorem signals_after (w : Wire C) (line label : GoString) (out : LineOutcome C) :
    signals (w.after line label out).log = signals w.log := by
  have nothing : signals (out.result.entries line out.sess label) = ⟨[], [], []⟩ := by
    cases out.result <;> rfl
  rw [Wire.after, signals_append, nothing]
  simp

/-- Text is all that is sent. -/
def Heard (w w' : Wire C) : Prop :=
  (signals w'.log).replies = (signals w.log).replies ∧
    (signals w'.log).statuses = (signals w.log).statuses

theorem heard_send (w : Wire C) (text : GoString) : Heard w (w.send (.sent text)).2 := by
  unfold Wire.send
  split <;> simp [Heard, signals, Wire.note, replyOf, statusOf]

theorem Heard.trans {w w' w'' : Wire C} (first : Heard w w') (later : Heard w' w'') :
    Heard w w'' := ⟨later.1.trans first.1, later.2.trans first.2⟩

theorem heard_shellLine (w : Wire C) (registry : CommandRegistry) (line : GoString) :
    Heard w ((Ssh.shellLine registry sess line).run o.channel w).2 := by
  rw [run_shellLine, Heard, ← signals_after w line (str "desconocido")]
  dsimp only
  unfold Wire.replied
  split
  · exact ⟨rfl, rfl⟩
  · exact heard_send _ _

/-- A shell sends text only. -/
theorem heard_shellLoop (w : Wire C) (registry : CommandRegistry) (unread : List GoString) :
    Heard w ((Ssh.shellLoop registry unread sess).run o.channel w).2 := by
  induction unread generalizing sess w with
  | nil => exact heard_send w _
  | cons raw unread ih =>
      rw [Ssh.shellLoop, run_prompt]
      have prompt := heard_send w (str "> ")
      generalize w.send (.sent (str "> ")) = sent at prompt
      rcases sent with ⟨_ | err, w'⟩
      · refine prompt.trans ?_
        dsimp only
        split
        · exact ih sess w'
        · rw [Script.run_bind]
          refine (heard_shellLine o sess w' registry (trimSpace raw)).trans ?_
          split
          · exact ⟨rfl, rfl⟩
          · exact ih _ _
      · exact prompt

theorem run_reply (type payload : GoString) (next : Channel (Session × GoString)) :
    (Ssh.reply sess ⟨type, true, payload⟩ true next).run o.channel ⟨commands, none, []⟩ =
      next.run o.channel ⟨commands, none, [.replied true]⟩ := rfl

theorem remote_shell (stream : GoString) :
    let heard := remote o server sess commands stream ⟨str "shell", true, []⟩
    heard.replies = [true] ∧ heard.statuses = [] := by
  have notPty : str "shell" ≠ str "pty-req" := by decide
  rw [remote, Ssh.handleSessionChannel, if_neg notPty, if_pos rfl, run_reply, Script.run_bind,
    Ssh.runShell, Ssh.writeLine, run_prompt, Ssh.writeLine, run_prompt]
  exact ((heard_send _ _).trans (heard_send _ _)).trans
    (heard_shellLoop o sess _ server.registry (Server.lines stream))

theorem statusOf_exitStatus (status : UInt32) :
    statusOf (.exitStatus (marshalUint32 status)) = some status := by
  have read := parseUint32_putUint32 status.toNat []
  rw [List.append_nil, Nat.mod_eq_of_lt status.toNat_lt] at read
  simp [statusOf, marshalUint32, read]

/-- A command is answered with its output and its status. -/
theorem remote_exec {command : GoString} (short : command.length < 2 ^ 32) (stream : GoString) :
    let result := (lineOutcome o sess commands server.registry command).result
    remote o server sess commands stream ⟨str "exec", true, marshalString command⟩ =
      ⟨[true], [result.status],
        if result.output = [] then [] else crlf result.output ++ str "\r\n"⟩ := by
  rw [remote, Ssh.handleSessionChannel_exec _ _ _ _ (unmarshalString_marshalString short),
    run_reply, Script.run_bind, run_runExec]
  dsimp only
  generalize lineOutcome o sess commands server.registry command = out
  have before := signals_after ⟨commands, none, [.replied true]⟩ command (str "desconocido") out
  have last : signals [.exitStatus (marshalUint32 out.result.status)] =
      ⟨[], [out.result.status], []⟩ := by
    rw [signals, List.filterMap_cons_some (statusOf_exitStatus _)]
    rfl
  have first : signals [.replied true] = ⟨[true], [], []⟩ := rfl
  unfold Wire.replied
  split
  · refine (signals_append _ _).trans ?_
    rw [before, last, first]
    rfl
  · refine (signals_append (Wire.log _ ++ [.sent _]) _).trans ?_
    rw [signals_append, before, last, signals_sent, first]
    simp

/-- **What the client exits with.**  Once the client has its session, a command exits with 0 exactly
if the server accepts it, and prints the output with the line ends of SSH; a shell exits with 1,
whatever is typed into it. -/
theorem exitCode_iff (cfg : ClientConfig) (reach : Reach) (connected : connect cfg reach = .ok ())
    (short : cfg.command.length < 2 ^ 32) (stream : GoString) :
    let ended := run cfg reach (remote o server sess commands stream)
    let result := (lineOutcome o sess commands server.registry cfg.command).result
    (trimSpace cfg.command ≠ [] →
      ended.1 = (if result.output = [] then [] else crlf result.output ++ str "\r\n") ∧
      (exitCode ended = 0 ↔ Accepted o server sess commands cfg.command)) ∧
    (trimSpace cfg.command = [] → exitCode ended = 1) := by
  constructor
  · intro solid
    have request_ : request cfg = ⟨str "exec", true, marshalString cfg.command⟩ := if_pos solid
    have answer := remote_exec o server sess commands short stream
    rw [← status_eq_zero_iff o server sess commands]
    dsimp only at answer ⊢
    generalize (lineOutcome o sess commands server.registry cfg.command).result = result at answer
    by_cases zero : result.status = 0
    · simp [run, connected, request_, answer, session, sendRequest, wait, zero, exitCode]
    · simp [run, connected, request_, answer, session, sendRequest, wait, zero, exitCode]
  · intro blank
    have request_ : request cfg = ⟨str "shell", true, []⟩ := if_neg (not_not.2 blank)
    obtain ⟨replies, statuses⟩ := remote_shell o server sess commands stream
    simp [run, connected, request_, session, sendRequest, wait, replies, statuses, exitCode]

end Together

/-! ## Two sessions -/

def studentClient (command : GoString) : ClientConfig where
  addr := str "localhost:2222"
  user := str "student"
  password := str "student123"
  identityFile := []
  knownHostsPath := []
  strictHostKey := false
  acceptUnknownHost := false
  command := command

/-- Nothing goes wrong before the session. -/
def reachable : Reach where
  setup := ⟨.ok [], none, .found, none, none⟩
  loadSigner _ := none
  dial _ _ := none
  newSession := none

/-- Every line passes, and every command answers with two lines. -/
def twoLines : Outside Unit where
  validate _ := none
  execute _ _ _ _ := (.ok (str "a\nb"), ())

theorem exitCode_help_and_shell :
    exitCode (run (studentClient (str "help")) reachable
      (remote twoLines helpOnly guestSession () [])) = 0 ∧
    (run (studentClient (str "help")) reachable
      (remote twoLines helpOnly guestSession () [])).1 = str "a\r\nb\r\n" ∧
    exitCode (run (studentClient []) reachable
      (remote twoLines helpOnly guestSession () (str "quit\n"))) = 1 := by
  have connected : ∀ command, connect (studentClient command) reachable = .ok () := fun _ => rfl
  obtain ⟨printed, code⟩ := (exitCode_iff twoLines helpOnly guestSession ()
    (studentClient (str "help")) reachable (connected _) (by decide) []).1 (by decide)
  have accepted : Accepted twoLines helpOnly guestSession () (str "help") := by
    refine ⟨rfl, .inr ⟨⟨str "help"⟩, by decide, str "a\nb", rfl⟩⟩
  refine ⟨code.2 accepted, printed.trans (by decide), ?_⟩
  exact (exitCode_iff twoLines helpOnly guestSession () (studentClient []) reachable
    (connected _) (by decide) (str "quit\n")).2 (by decide)

end SentinelOps.Client
