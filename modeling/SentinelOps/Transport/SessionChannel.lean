/-
# Transport.SessionChannel — a session channel of the SSH server

`handleSessionChannel` with `runShell`, `runExec`, `sendExitStatus` and `writeLine`.  The requests of
a channel are handled in turn until one of them is a shell or an exec request, which is the last
one.  What the client types into a shell is a byte stream, as on a TCP connection.

`Outside` is the validator and the commands, which may keep a state of their own; `Wire` is that
state, how many more messages reach the client before it is gone, and a log of what happened.  The
loop of the shell and the command loop of the TCP server are two programs for one purpose, and on
every stream they do the same (`shellLoop_eq_commandLoop`), however early the client goes away: they
run the same commands on the same sessions, and send the same text, where SSH ends each line of an
output with a carriage return and has another name for an unknown command.  A command is one
function for both, although the TCP server runs it without the tunnel manager.
-/
import SentinelOps.Theory.SshWire
import SentinelOps.Transport.Dispatch

namespace SentinelOps.Transport

open Theory Server
open GoText (GoString str trimSpace)
open SshWire (marshalUint32 unmarshalString)
open Session (Session)

set_option autoImplicit false

/-! ## The script -/

/-- The questions of a connection, the reply to a request, and the `exit-status` message. -/
inductive ChannelAsk where
  | connection (ask : Ask)
  | reply (ok : Bool)
  | exitStatus (payload : GoString)

/-- The errors of a reply and of an `exit-status` message are dropped. -/
def ChannelAsk.Answer : ChannelAsk → Type
  | .connection ask => ask.Answer
  | .reply _ => Unit
  | .exitStatus _ => Unit

structure ChannelQuestion where
  sess : Session
  ask : ChannelAsk

def ChannelAnswer (q : ChannelQuestion) : Type := q.ask.Answer

abbrev Channel (R : Type) := Script ChannelQuestion ChannelAnswer R

def channelQuestion (q : Question) : ChannelQuestion := ⟨q.sess, .connection q.ask⟩

/-- What is asked in a connection is asked in a channel. -/
def onChannel {R : Type} (script : Connection R) : Channel R :=
  script.translate channelQuestion fun q (a : ChannelAnswer (channelQuestion q)) => a

/-- `strings.ReplaceAll(value, "\n", "\r\n")`. -/
def crlf (value : GoString) : GoString :=
  value.flatMap fun b => if b = 0x0A then [0x0D, 0x0A] else [b]

/-- A request of a channel. -/
structure ChannelRequest where
  type : GoString
  wantReply : Bool
  payload : GoString

namespace Ssh

variable {R : Type}

def write (sess : Session) (text : GoString) (next : Option GoString → Channel R) : Channel R :=
  .ask ⟨sess, .connection (.write text)⟩ next

def writeLine (sess : Session) (value : GoString) (next : Option GoString → Channel R) :
    Channel R :=
  write sess (crlf value ++ str "\r\n") next

def sendExitStatus (sess : Session) (status : UInt32) (next : Channel R) : Channel R :=
  .ask ⟨sess, .exitStatus (marshalUint32 status)⟩ fun _ => next

/-- `req.Reply`. -/
def reply (sess : Session) (req : ChannelRequest) (ok : Bool) (next : Channel R) : Channel R :=
  if req.wantReply then .ask ⟨sess, .reply ok⟩ fun _ => next else next

/-- The output of a line, if there is any. -/
def answered (sess : Session) (output : GoString) (next : Channel R) : Channel R :=
  if output ≠ [] then writeLine sess output fun _ => next else next

/-- What the shell does with a line that is not blank: the session after it, and whether it ends
the session. -/
def shellLine (registry : CommandRegistry) (sess : Session) (input : GoString) :
    Channel (Session × Bool) :=
  (onChannel (executeInput registry sess input)).bind fun (sess, done) =>
    answered sess done.output <|
      if done.status ≠ 0 ∧ done.closeSession = true then
        sendExitStatus sess done.status (.ret (sess, done.closeSession))
      else .ret (sess, done.closeSession)

/-- The loop of `runShell` on the lines that are left. -/
def shellLoop (registry : CommandRegistry) : List GoString → Session → Channel Session
  | [], sess => write sess (str "> ") fun _ => .ret sess
  | raw :: unread, sess =>
      write sess (str "> ") fun err =>
        match err with
        | some _ => .ret sess
        | none =>
            if trimSpace raw = [] then shellLoop registry unread sess
            else
              (shellLine registry sess (trimSpace raw)).bind fun (sess, closeSession) =>
                if closeSession then .ret sess else shellLoop registry unread sess

def runShell (cfg : Config) (stream : GoString) (sess : Session) : Channel Session :=
  writeLine sess cfg.banner fun _ =>
    writeLine sess (str "Transporte SSH habilitado. Escribe 'help' para ver los comandos.") fun _ =>
      shellLoop cfg.registry (lines stream) sess

def runExec (registry : CommandRegistry) (sess : Session) (input : GoString) :
    Channel (Session × UInt32) :=
  (onChannel (executeInput registry sess input)).bind fun (sess, done) =>
    answered sess done.output (.ret (sess, done.status))

/-- The session after the channel, and why it was closed. -/
def handleSessionChannel (cfg : Config) (stream : GoString) :
    List ChannelRequest → Session → Channel (Session × GoString)
  | [], sess => .ret (sess, str "canal_cerrado")
  | req :: requests, sess =>
      if req.type = str "pty-req" then
        reply sess req false (handleSessionChannel cfg stream requests sess)
      else if req.type = str "shell" then
        reply sess req true <|
          (runShell cfg stream sess).bind fun sess => .ret (sess, str "shell_cerrada")
      else if req.type = str "exec" then
        match unmarshalString req.payload with
        | none =>
            reply sess req false <|
              sendExitStatus sess 1 (.ret (sess, str "payload_exec_invalido"))
        | some value =>
            reply sess req true <|
              (runExec cfg.registry sess value).bind fun (sess, status) =>
                sendExitStatus sess status (.ret (sess, str "exec_completado"))
      else reply sess req false (handleSessionChannel cfg stream requests sess)

theorem handleSessionChannel_exec (cfg : Config) (stream : GoString)
    (requests : List ChannelRequest) (sess : Session) {payload value : GoString}
    (read : unmarshalString payload = some value) :
    handleSessionChannel cfg stream (⟨str "exec", true, payload⟩ :: requests) sess =
      reply sess ⟨str "exec", true, payload⟩ true
        ((runExec cfg.registry sess value).bind fun (sess, status) =>
          sendExitStatus sess status (.ret (sess, str "exec_completado"))) := by
  have notPty : str "exec" ≠ str "pty-req" := by decide
  have notShell : str "exec" ≠ str "shell" := by decide
  rw [handleSessionChannel, if_neg notPty, if_neg notShell, if_pos rfl, read]

end Ssh

/-! ## The outside -/

/-- The validator, and the commands with the state they keep. -/
structure Outside (C : Type) where
  validate : GoString → Option GoString
  execute : C → Command → Session → List GoString → Except GoString GoString × C

inductive Entry where
  | verdict (input : GoString) (err : Option GoString)
  | dispatched (sess : Session) (cmd : Command) (args : List GoString)
  | rejectedInput
  | metric (name result : GoString)
  | sent (text : GoString)
  | replied (ok : Bool)
  | exitStatus (payload : GoString)
  deriving DecidableEq

/-- `left` is how many more messages reach the client, or `none` if it stays. -/
structure Wire (C : Type) where
  commands : C
  left : Option ℕ
  log : List Entry

section Outside

variable {C : Type}

def Wire.note (w : Wire C) (entry : Entry) : Wire C := { w with log := w.log ++ [entry] }

/-- A message, which reaches the client or fails. -/
def Wire.send (w : Wire C) (entry : Entry) : Option GoString × Wire C :=
  match w.left with
  | none => (none, w.note entry)
  | some 0 => (some (str "EOF"), w)
  | some (n + 1) => (none, { w with left := some n }.note entry)

def Outside.answer (o : Outside C) (w : Wire C) : (q : Question) → Answer q × Wire C
  | ⟨_, .validate input⟩ => (o.validate input, w.note (.verdict input (o.validate input)))
  | ⟨sess, .execute cmd args⟩ =>
      let (output, commands) := o.execute w.commands cmd sess args
      (output, { w with commands := commands }.note (.dispatched sess cmd args))
  | ⟨_, .write text⟩ => w.send (.sent text)
  | ⟨_, .observeRejectedInput⟩ => ((), w.note .rejectedInput)
  | ⟨_, .observeCommand name result⟩ => ((), w.note (.metric name result))
  | q => (quietWorld q, w)

def Outside.channel (o : Outside C) (w : Wire C) :
    (q : ChannelQuestion) → ChannelAnswer q × Wire C
  | ⟨sess, .connection ask⟩ => o.answer w ⟨sess, ask⟩
  | ⟨_, .reply ok⟩ => ((), (w.send (.replied ok)).2)
  | ⟨_, .exitStatus payload⟩ => ((), (w.send (.exitStatus payload)).2)

variable (o : Outside C) (w : Wire C) (sess : Session)

theorem answer_validate (input : GoString) : o.answer w ⟨sess, .validate input⟩ =
    (o.validate input, w.note (.verdict input (o.validate input))) := rfl

theorem answer_execute (cmd : Command) (args : List GoString) :
    o.answer w ⟨sess, .execute cmd args⟩ = ((o.execute w.commands cmd sess args).1,
      { w with commands := (o.execute w.commands cmd sess args).2 }.note
        (.dispatched sess cmd args)) := rfl

theorem answer_write (text : GoString) : o.answer w ⟨sess, .write text⟩ = w.send (.sent text) := rfl

theorem answer_rejected :
    o.answer w ⟨sess, .observeRejectedInput⟩ = ((), w.note .rejectedInput) := rfl

theorem answer_metric (name result : GoString) :
    o.answer w ⟨sess, .observeCommand name result⟩ = ((), w.note (.metric name result)) := rfl

theorem run_onChannel {R : Type} (script : Connection R) :
    (onChannel script).run o.channel w = script.run o.answer w := by
  refine Script.run_translate channelQuestion _ (fun w q => ?_) script w
  rfl

/-! ## The shell and the command loop -/

/-- A line as SSH sends it. -/
def sshText (text : GoString) : GoString :=
  if str "\r\n" <:+ text then crlf (text.take (text.length - 2)) ++ str "\r\n" else text

/-- What the SSH server has in the log where the TCP server has this. -/
def Entry.asSsh : Entry → Entry
  | .sent text => .sent (sshText text)
  | .metric name result =>
      .metric name (if result = str "unknown" then str "desconocido" else result)
  | entry => entry

def Wire.asSsh (w : Wire C) : Wire C := { w with log := w.log.map Entry.asSsh }

theorem sshText_line (text : GoString) : sshText (text ++ str "\r\n") = crlf text ++ str "\r\n" := by
  have terminator : (str "\r\n").length = 2 := rfl
  rw [sshText, if_pos (List.suffix_append _ _), List.length_append, terminator,
    Nat.add_sub_cancel, List.take_left]

theorem asSsh_note (entry : Entry) : (w.note entry).asSsh = w.asSsh.note entry.asSsh := by
  simp only [Wire.note, Wire.asSsh, List.map_append, List.map_cons, List.map_nil]

theorem send_asSsh (entry : Entry) :
    w.asSsh.send entry.asSsh = ((w.send entry).1, (w.send entry).2.asSsh) := by
  have left : w.asSsh.left = w.left := rfl
  unfold Wire.send
  rw [left]
  split
  · rw [asSsh_note]
  · rfl
  · rw [asSsh_note]
    rfl

theorem send_prompt : w.asSsh.send (.sent (str "> ")) =
    ((w.send (.sent (str "> "))).1, (w.send (.sent (str "> "))).2.asSsh) := by
  have prompt : (Entry.sent (str "> ")).asSsh = .sent (str "> ") := by decide
  rw [← send_asSsh, prompt]

theorem send_line (text : GoString) : w.asSsh.send (.sent (crlf text ++ str "\r\n")) =
    ((w.send (.sent (text ++ str "\r\n"))).1, (w.send (.sent (text ++ str "\r\n"))).2.asSsh) := by
  rw [← send_asSsh, Entry.asSsh, sshText_line]

/-- A failed message is not the last one to fail. -/
theorem left_of_send {entry : Entry} {err : GoString} (failed : (w.send entry).1 = some err) :
    (w.send entry).2.left = some 0 := by
  unfold Wire.send at failed ⊢
  split at failed
  · cases failed
  · assumption
  · cases failed

theorem send_of_left (gone : w.left = some 0) (entry : Entry) :
    w.send entry = (some (str "EOF"), w) := by
  simp only [Wire.send, gone]

/-- What becomes of a line. -/
inductive LineResult where
  | rejected (err : GoString)
  | quit
  | unknown (name : GoString)
  | failed (cmd : Command) (err : GoString)
  | ran (cmd : Command) (output : GoString)

namespace LineResult

def output : LineResult → GoString
  | rejected err => str "Entrada rechazada: " ++ err
  | quit => str "Sesión finalizada."
  | unknown name => str "Comando no reconocido: " ++ name
  | failed _ err => str "Error: " ++ err
  | ran _ output => output

def status : LineResult → UInt32
  | rejected _ | failed _ _ => 1
  | unknown _ => 127
  | quit | ran _ _ => 0

def closes : LineResult → Bool
  | quit => true
  | _ => false

/-- What is in the log before the reply; `label` is what an unknown command is counted as. -/
def entries (input : GoString) (sess : Session) (label : GoString) : LineResult → List Entry
  | rejected err =>
      [.verdict input (some err), .rejectedInput, .metric (str "validation") (str "rejected")]
  | quit => [.verdict input none]
  | unknown name => [.verdict input none, .metric name label]
  | failed cmd _ => [.verdict input none, .dispatched sess cmd (Ssh.splitCommand input).2,
      .metric cmd.name (str "error")]
  | ran cmd _ => [.verdict input none, .dispatched sess cmd (Ssh.splitCommand input).2,
      .metric cmd.name (str "ok")]

/-- Only a command that ran can have nothing to say. -/
theorem output_ne_nil {result : LineResult} (other : ∀ cmd output, result ≠ .ran cmd output) :
    result.output ≠ [] := by
  cases result with
  | rejected err => exact List.append_ne_nil_of_left_ne_nil (by decide) _
  | quit => decide
  | unknown name => exact List.append_ne_nil_of_left_ne_nil (by decide) _
  | failed cmd err => exact List.append_ne_nil_of_left_ne_nil (by decide) _
  | ran cmd output => exact absurd rfl (other cmd output)

theorem entries_asSsh (input : GoString) (sess : Session) (result : LineResult) :
    (result.entries input sess (str "unknown")).map Entry.asSsh =
      result.entries input sess (str "desconocido") := by
  have other : ∀ name result : GoString, result ≠ str "unknown" →
      (Entry.metric name result).asSsh = .metric name result :=
    fun name _ differ => congrArg (Entry.metric name) (if_neg differ)
  cases result with
  | rejected err =>
      simp only [entries, List.map_cons, List.map_nil, other _ (str "rejected") (by decide)]
      rfl
  | quit => rfl
  | unknown name => rfl
  | failed cmd err =>
      simp only [entries, List.map_cons, List.map_nil, other _ (str "error") (by decide)]
      rfl
  | ran cmd output =>
      simp only [entries, List.map_cons, List.map_nil, other _ (str "ok") (by decide)]
      rfl

end LineResult

/-- What both servers make of a line before they reply. -/
structure LineOutcome (C : Type) where
  commands : C
  sess : Session
  result : LineResult

def lineOutcome (commands : C) (registry : CommandRegistry) (input : GoString) : LineOutcome C :=
  let name := (Ssh.splitCommand input).1
  match o.validate input with
  | some err => ⟨commands, sess, .rejected err⟩
  | none =>
      if Ssh.isQuit name then ⟨commands, sess, .quit⟩
      else
        match registry.find name with
        | none => ⟨commands, sess, .unknown name⟩
        | some cmd =>
            let sess := incrementCommands sess
            match o.execute commands cmd sess (Ssh.splitCommand input).2 with
            | (.error err, commands) => ⟨commands, sess, .failed cmd err⟩
            | (.ok output, commands) => ⟨commands, sess, .ran cmd output⟩

def Wire.after (w : Wire C) (input label : GoString) (out : LineOutcome C) : Wire C :=
  { w with
    commands := out.commands, log := w.log ++ out.result.entries input out.sess label }

theorem run_executeInput (registry : CommandRegistry) (input : GoString) :
    (Ssh.executeInput registry sess input).run o.answer w =
      let out := lineOutcome o sess w.commands registry input
      ((out.sess, ⟨out.result.output, out.result.status, out.result.closes⟩),
        w.after input (str "desconocido") out) := by
  unfold Ssh.executeInput lineOutcome
  simp only [perform, Script.run, answer_validate]
  cases o.validate input with
  | some err =>
      simp only [Script.run, answer_rejected, answer_metric, Wire.note, List.append_assoc]
      rfl
  | none =>
      cases Ssh.isQuit (Ssh.splitCommand input).1 with
      | true => rfl
      | false =>
          cases registry.find (Ssh.splitCommand input).1 with
          | none =>
              simp only [Bool.false_eq_true, if_false, Script.run, answer_metric, Wire.note,
                List.append_assoc]
              rfl
          | some cmd =>
              have still : (w.note (.verdict input none)).commands = w.commands := rfl
              simp only [Bool.false_eq_true, if_false, Script.run, answer_execute, still]
              rcases o.execute w.commands cmd (incrementCommands sess) (Ssh.splitCommand input).2
                with ⟨err | output, commands⟩
              all_goals
                simp only [Script.run, answer_metric, Wire.note, List.append_assoc]
                rfl

/-- The TCP server replies with the output, if there is any; only the reply of a command that ran
may end the loop. -/
theorem run_executeLine (cfg : Config) (input : GoString) :
    (executeLine cfg sess input).run o.answer w =
      let out := lineOutcome o sess w.commands cfg.registry input
      let w := w.after input (str "unknown") out
      if out.result.output = [] then ((out.sess, none), w)
      else
        let sent := w.send (.sent (out.result.output ++ str "\r\n"))
        ((out.sess, if out.result.closes then some .quit
          else if out.result.status = 0 then sent.1.map fun _ => .errorEscritura else none),
          sent.2) := by
  have copied : isQuit = Ssh.isQuit := rfl
  have copied' : splitCommand = Ssh.splitCommand := rfl
  unfold executeLine lineOutcome
  rw [copied, copied']
  simp only [perform, Script.run, answer_validate]
  cases o.validate input with
  | some err =>
      dsimp only
      rw [if_neg (LineResult.output_ne_nil (by simp))]
      simp only [Script.run, answer_rejected, answer_metric, answer_write, writeLine, perform,
        Wire.note, List.append_assoc]
      rfl
  | none =>
      cases Ssh.isQuit (Ssh.splitCommand input).1 with
      | true =>
          simp only [if_true, writeLine, perform, Script.run, answer_write]
          rw [if_neg (LineResult.output_ne_nil (by simp))]
          rfl
      | false =>
          cases cfg.registry.find (Ssh.splitCommand input).1 with
          | none =>
              simp only [Bool.false_eq_true, if_false]
              rw [if_neg (LineResult.output_ne_nil (by simp))]
              simp only [Script.run, answer_metric, answer_write, writeLine, perform, Wire.note,
                List.append_assoc]
              rfl
          | some cmd =>
              have still : (w.note (.verdict input none)).commands = w.commands := rfl
              simp only [Bool.false_eq_true, if_false, Script.run, answer_execute, still]
              rcases o.execute w.commands cmd (incrementCommands sess) (Ssh.splitCommand input).2
                with ⟨err | output, commands⟩
              · dsimp only
                rw [if_neg (LineResult.output_ne_nil (by simp))]
                simp only [Script.run, answer_metric, answer_write, writeLine, perform, Wire.note,
                  List.append_assoc]
                rfl
              · simp only [Script.run, answer_metric, Wire.note, List.append_assoc]
                by_cases empty : output = []
                · rw [if_pos empty]
                  exact (if_pos empty).symm
                · rw [if_neg empty]
                  exact (if_neg empty).symm

/-- What the SSH client has seen when the output was sent to it. -/
def Wire.replied (w : Wire C) (output : GoString) : Wire C :=
  if output = [] then w else (w.send (.sent (crlf output ++ str "\r\n"))).2

theorem run_answered {R : Type} (output : GoString) (next : Channel R) :
    (Ssh.answered sess output next).run o.channel w = next.run o.channel (w.replied output) := by
  unfold Ssh.answered Wire.replied
  by_cases empty : output = []
  · rw [if_neg (not_not.2 empty), if_pos empty]
  · rw [if_pos empty, if_neg empty]
    rfl

/-- The status of a line never reaches the client of a shell. -/
theorem run_shellLine (registry : CommandRegistry) (input : GoString) :
    (Ssh.shellLine registry sess input).run o.channel w =
      let out := lineOutcome o sess w.commands registry input
      ((out.sess, out.result.closes),
        (w.after input (str "desconocido") out).replied out.result.output) := by
  rw [Ssh.shellLine, Script.run_bind, run_onChannel, run_executeInput]
  dsimp only
  have never : ∀ result : LineResult, ¬ (result.status ≠ 0 ∧ result.closes = true) := by
    intro result
    cases result <;> simp [LineResult.status, LineResult.closes]
  rw [run_answered, if_neg (never _)]
  rfl

theorem run_runExec (registry : CommandRegistry) (input : GoString) :
    (Ssh.runExec registry sess input).run o.channel w =
      let out := lineOutcome o sess w.commands registry input
      ((out.sess, out.result.status),
        (w.after input (str "desconocido") out).replied out.result.output) := by
  rw [Ssh.runExec, Script.run_bind, run_onChannel, run_executeInput]
  exact run_answered ..

theorem run_prompt {R : Type} (text : GoString) (next : Option GoString → Channel R) :
    (Ssh.write sess text next).run o.channel w =
      (next (w.send (.sent text)).1).run o.channel (w.send (.sent text)).2 := rfl

theorem run_writePrompt {R : Type} (text : GoString) (next : Option GoString → Connection R) :
    (writePrompt sess text next).run o.answer w =
      (next (w.send (.sent text)).1).run o.answer (w.send (.sent text)).2 := rfl

theorem asSsh_after (input : GoString) (out : LineOutcome C) :
    (w.after input (str "unknown") out).asSsh =
      w.asSsh.after input (str "desconocido") out := by
  simp only [Wire.after, Wire.asSsh, List.map_append, LineResult.entries_asSsh]

/-- When the client is gone, the shell ends at its next prompt. -/
theorem shellLoop_gone (gone : w.left = some 0) (registry : CommandRegistry)
    (unread : List GoString) :
    (Ssh.shellLoop registry unread sess).run o.channel w = (sess, w) := by
  cases unread with
  | nil => rw [Ssh.shellLoop, run_prompt, send_of_left w gone, Script.run]
  | cons raw unread => rw [Ssh.shellLoop, run_prompt, send_of_left w gone, Script.run]

/-- **A shell does what the command loop does.**  On every stream that ends without a timeout (the
shell has none), and however many messages reach the client, the shell of the SSH server leaves the
session and the commands as the loop of the TCP server does, and its log is that of the loop as SSH
writes it: the same verdicts, the same commands on the same sessions, the same metrics, and the same
text. -/
theorem shellLoop_eq_commandLoop (cfg : Config) {ending : ReadError} (noTimeout : ending ≠ .timeout)
    (unread : List GoString) :
    (Ssh.shellLoop cfg.registry unread sess).run o.channel w.asSsh =
      (((commandLoop cfg ending unread sess).run o.answer w).1.1,
        ((commandLoop cfg ending unread sess).run o.answer w).2.asSsh) := by
  induction unread generalizing sess w with
  | nil =>
      rw [Ssh.shellLoop, run_prompt, commandLoop, run_writePrompt, send_prompt]
      rcases w.send (.sent (str "> ")) with ⟨_ | err, sent⟩
      · cases ending with
        | timeout => exact absurd rfl noTimeout
        | eof => rfl
        | other => rfl
      · rfl
  | cons raw unread ih =>
      rw [Ssh.shellLoop, run_prompt, commandLoop, run_writePrompt, send_prompt]
      rcases w.send (.sent (str "> ")) with ⟨_ | err, w⟩
      · dsimp only
        have read : readLine raw = trimSpace raw := rfl
        rw [read]
        by_cases blank : trimSpace raw = []
        · rw [if_pos blank, if_pos blank]
          exact ih w sess
        · rw [if_neg blank, if_neg blank, Script.run_bind, Script.run_bind, run_shellLine,
            run_executeLine]
          have still : w.asSsh.commands = w.commands := rfl
          rw [still]
          generalize lineOutcome o sess w.commands cfg.registry (trimSpace raw) = out
          dsimp only
          rw [Wire.replied, ← asSsh_after]
          generalize w.after (trimSpace raw) (str "unknown") out = w
          by_cases empty : out.result.output = []
          · have goesOn : ¬ out.result.closes = true := by
              intro ends
              refine LineResult.output_ne_nil (fun cmd output same => ?_) empty
              rw [same] at ends
              cases ends
            rw [if_pos empty, if_pos empty, if_neg goesOn]
            exact ih w out.sess
          · rw [if_neg empty, if_neg empty, send_line]
            generalize sent : w.send (.sent (out.result.output ++ str "\r\n")) = pair
            rcases pair with ⟨err, w'⟩
            by_cases ends : out.result.closes = true
            · simp only [if_pos ends, Script.run]
            · rw [if_neg ends, if_neg ends]
              by_cases stops : out.result.status = 0 ∧ err ≠ none
              · -- The loop stops here; the shell goes on to a prompt that fails.
                obtain ⟨err, rfl⟩ := Option.ne_none_iff_exists'.1 stops.2
                have gone : w'.left = some 0 := by
                  have failed := left_of_send w (congrArg Prod.fst sent)
                  rwa [sent] at failed
                rw [if_pos stops.1]
                exact shellLoop_gone o w'.asSsh out.sess gone cfg.registry unread
              · have next : (if out.result.status = 0 then
                    err.map fun _ => CloseReason.errorEscritura else none) = none := by
                  rw [not_and, not_not] at stops
                  split
                  · next ran => rw [stops ran, Option.map_none]
                  · rfl
                rw [next]
                exact ih w' out.sess
      · rfl

end Outside

/-! ## A client that goes away -/

/-- Every line passes, and a command answers with how often commands ran before it. -/
def counting : Outside ℕ where
  validate _ := none
  execute n cmd _ _ := (.ok (cmd.name ++ str " " ++ GoText.decimal n), n + 1)

/-- The client sends three lines, and takes three messages: a prompt, an output and a prompt.  The
second line is run, its output is lost, and the third line is not read. -/
theorem shellLoop_gone_client :
    ((Ssh.shellLoop helpOnly.registry [str "help\n", str "help\n", str "help\n"]
      guestSession).run counting.channel (Wire.asSsh ⟨0, some 3, []⟩)).2.commands = 2 := by
  rw [shellLoop_eq_commandLoop counting ⟨0, some 3, []⟩ guestSession helpOnly
    (show ReadError.eof ≠ .timeout by decide)]
  decide

end SentinelOps.Transport
