/-
# Transport.Dispatch — one line over SSH and the same line over TCP

The SSH server has its own copy of the dispatch: validate, split, quit, find, count, execute,
observe.  `executeInput` returns the reply where the command loop of the TCP server writes it.
`Effects` is what one line does on either side, read off its trace.

The copies agree on every line but two kinds: a command that the registry does not have is counted
as `unknown` over TCP and as `desconocido` over SSH; and a validator that minds the blanks around a
line sees them only in `executeInput`, which the shell calls with a trimmed line and an exec request
with the line as it came.
-/
import SentinelOps.Server.TcpConnection

namespace SentinelOps.Transport

open Theory Server
open GoText (GoString str toLower fields trimSpace fields_trimSpace
  trimSpace_concat_newline)
open Session (Session)

set_option autoImplicit false

namespace Ssh

/-! ## The copy -/

def splitCommand (input : GoString) : GoString × List GoString :=
  match fields input with
  | [] => ([], [])
  | name :: args => (toLower name, args)

def isQuit (name : GoString) : Bool :=
  toLower name = str "quit" || toLower name = str "exit" || toLower name = str "q"

/-- What `executeInput` returns. -/
structure Executed where
  output : GoString
  status : UInt32
  closeSession : Bool

/-- `executeInput`, with the session after it. -/
def executeInput (registry : CommandRegistry) (sess : Session) (input : GoString) :
    Connection (Session × Executed) :=
  perform sess (.validate input) fun (err : Option GoString) =>
    match err with
    | some err =>
        perform sess .observeRejectedInput fun _ =>
          perform sess (.observeCommand (str "validation") (str "rejected")) fun _ =>
            .ret (sess, ⟨str "Entrada rechazada: " ++ err, 1, false⟩)
    | none =>
        let (name, args) := splitCommand input
        if isQuit name then .ret (sess, ⟨str "Sesión finalizada.", 0, true⟩)
        else
          match registry.find name with
          | none =>
              perform sess (.observeCommand name (str "desconocido")) fun _ =>
                .ret (sess, ⟨str "Comando no reconocido: " ++ name, 127, false⟩)
          | some cmd =>
              let sess := incrementCommands sess
              perform sess (.execute cmd args) fun (output : Except GoString GoString) =>
                match output with
                | .error err =>
                    perform sess (.observeCommand cmd.name (str "error")) fun _ =>
                      .ret (sess, ⟨str "Error: " ++ err, 1, false⟩)
                | .ok output =>
                    perform sess (.observeCommand cmd.name (str "ok")) fun _ =>
                      .ret (sess, ⟨output, 0, false⟩)

end Ssh

/-! ## What is around it -/

/-- A validator, and commands that are given a tunnel manager or none and do not look at it. -/
structure Pipeline (F : Type) where
  validate : GoString → Option GoString
  execute : Command → Session → Option F → List GoString → Except GoString GoString
  blind : ∀ cmd sess f f' args, execute cmd sess f args = execute cmd sess f' args

/-- The outside of one line; what is written arrives. -/
def Pipeline.world {F : Type} (p : Pipeline F) (forwarding : Option F) : (q : Question) → Answer q
  | ⟨_, .validate input⟩ => p.validate input
  | ⟨sess, .execute cmd args⟩ => p.execute cmd sess forwarding args
  | q => quietWorld q

/-! ## What a line does -/

/-- The verdict of the validator. -/
def accepted : Event → Option Bool
  | ⟨⟨_, .validate _⟩, (err : Option GoString)⟩ => some err.isNone
  | _ => none

/-- The command that is run, with its arguments and the session it sees. -/
def dispatch : Event → Option (Session × Command × List GoString)
  | ⟨⟨sess, .execute cmd args⟩, _⟩ => some (sess, cmd, args)
  | _ => none

def commandMetric : Event → Option (GoString × GoString)
  | ⟨⟨_, .observeCommand name result⟩, _⟩ => some (name, result)
  | _ => none

def isRejectedInput : Event → Bool
  | ⟨⟨_, .observeRejectedInput⟩, _⟩ => true
  | _ => false

/-- A line that is written, without its terminator. -/
def writtenLine : Event → Option GoString
  | ⟨⟨_, .write text⟩, _⟩ => some (text.take (text.length - 2))
  | _ => none

@[ext]
structure Effects where
  verdicts : List Bool
  dispatched : List (Session × Command × List GoString)
  reply : GoString
  session : Session
  closes : Bool
  rejectedInputs : Nat
  commandMetrics : List (GoString × GoString)

/-- What a trace shows, with how the line ended. -/
def effects (trace : List Event) (reply : GoString) (session : Session) (closes : Bool) :
    Effects where
  verdicts := trace.filterMap accepted
  dispatched := trace.filterMap dispatch
  reply := reply
  session := session
  closes := closes
  rejectedInputs := trace.countP isRejectedInput
  commandMetrics := trace.filterMap commandMetric

section Line

variable {F : Type} (p : Pipeline F) (cfg : Config) (sess : Session) (line : GoString)

/-- What follows the read of one iteration of the command loop. -/
def iteration (raw : GoString) : Connection (Session × Option CloseReason) :=
  if readLine raw = [] then .ret (sess, none) else executeLine cfg sess (readLine raw)

def tcpEffects : Effects :=
  let script := iteration cfg sess (line ++ str "\n")
  let trace := script.transcript (p.world none)
  let ended := script.eval (p.world none)
  effects trace (trace.filterMap writtenLine).flatten ended.1 ended.2.isSome

def sshEffects (forwarding : Option F) : Effects :=
  let script := Ssh.executeInput cfg.registry sess line
  let ended := script.eval (p.world forwarding)
  effects (script.transcript (p.world forwarding)) ended.2.output ended.1 ended.2.closeSession

/-- What `Validate`, `isQuit` and `Find` make of the line: it is rejected, or it ends the session,
or its command is registered. -/
def Recognised : Prop :=
  p.validate line ≠ none ∨ Ssh.isQuit (Ssh.splitCommand line).1 = true ∨
    cfg.registry.find (Ssh.splitCommand line).1 ≠ none

instance : Decidable (Recognised p cfg line) := inferInstanceAs (Decidable (_ ∨ _))

theorem splitCommand_trimSpace : splitCommand (trimSpace line) = Ssh.splitCommand line := by
  have parts := fields_trimSpace line
  unfold splitCommand Ssh.splitCommand
  cases read : fields line with
  | nil => simp only [parts, read]
  | cons name args => simp only [parts, read]

/-- Both copies, up to what they call an unknown command and which text they validate. -/
def lineEffects (unknown : GoString) (err : Option GoString) : Effects :=
  let name := (Ssh.splitCommand line).1
  let args := (Ssh.splitCommand line).2
  match err with
  | some err =>
      ⟨[false], [], str "Entrada rechazada: " ++ err, sess, false, 1,
        [(str "validation", str "rejected")]⟩
  | none =>
      if Ssh.isQuit name then ⟨[true], [], str "Sesión finalizada.", sess, true, 0, []⟩
      else
        match cfg.registry.find name with
        | none =>
            ⟨[true], [], str "Comando no reconocido: " ++ name, sess, false, 0, [(name, unknown)]⟩
        | some cmd =>
            let sess := incrementCommands sess
            match p.execute cmd sess none args with
            | .error err =>
                ⟨[true], [(sess, cmd, args)], str "Error: " ++ err, sess, false, 0,
                  [(cmd.name, str "error")]⟩
            | .ok output =>
                ⟨[true], [(sess, cmd, args)], output, sess, false, 0, [(cmd.name, str "ok")]⟩

theorem sshEffects_eq (forwarding : Option F) :
    sshEffects p cfg sess line forwarding =
      lineEffects p cfg sess line (str "desconocido") (p.validate line) := by
  have validated : p.world forwarding ⟨sess, .validate line⟩ = p.validate line := rfl
  unfold sshEffects lineEffects Ssh.executeInput
  simp only [perform, Script.eval, Script.transcript, validated]
  cases p.validate line with
  | some err => rfl
  | none =>
      cases Ssh.isQuit (Ssh.splitCommand line).1 with
      | true => rfl
      | false =>
          cases cfg.registry.find (Ssh.splitCommand line).1 with
          | none => rfl
          | some cmd =>
              have ran : p.world forwarding
                  ⟨incrementCommands sess, .execute cmd (Ssh.splitCommand line).2⟩ =
                  p.execute cmd (incrementCommands sess) none (Ssh.splitCommand line).2 :=
                p.blind cmd _ _ _ _
              simp only [Bool.false_eq_true, if_false, Script.eval, Script.transcript, ran]
              cases p.execute cmd (incrementCommands sess) none (Ssh.splitCommand line).2 with
              | error err => rfl
              | ok output => rfl

theorem reply_write (text : GoString) (err : Option GoString) :
    (([⟨⟨sess, .write (text ++ str "\r\n")⟩, err⟩] : List Event).filterMap
      writtenLine).flatten = text := by
  have terminator : (str "\r\n").length = 2 := rfl
  simp [writtenLine, terminator]

theorem tcpEffects_eq (solid : trimSpace line ≠ []) :
    tcpEffects p cfg sess line =
      lineEffects p cfg sess line (str "unknown") (p.validate (trimSpace line)) := by
  have read : readLine (line ++ str "\n") = trimSpace line := trimSpace_concat_newline line
  have validated :
      p.world none ⟨sess, .validate (trimSpace line)⟩ = p.validate (trimSpace line) := rfl
  have copied : isQuit = Ssh.isQuit := rfl
  unfold tcpEffects iteration lineEffects
  rw [read, if_neg solid]
  unfold executeLine
  rw [splitCommand_trimSpace, copied]
  simp only [perform, Script.eval, Script.transcript, validated]
  cases p.validate (trimSpace line) with
  | some err => exact Effects.ext rfl rfl (reply_write sess _ none) rfl rfl rfl rfl
  | none =>
      cases Ssh.isQuit (Ssh.splitCommand line).1 with
      | true => exact Effects.ext rfl rfl (reply_write sess _ none) rfl rfl rfl rfl
      | false =>
          cases cfg.registry.find (Ssh.splitCommand line).1 with
          | none => exact Effects.ext rfl rfl (reply_write sess _ none) rfl rfl rfl rfl
          | some cmd =>
              have ran : p.world none
                  ⟨incrementCommands sess, .execute cmd (Ssh.splitCommand line).2⟩ =
                  p.execute cmd (incrementCommands sess) none (Ssh.splitCommand line).2 := rfl
              simp only [Bool.false_eq_true, if_false, Script.eval, Script.transcript, ran]
              cases p.execute cmd (incrementCommands sess) none (Ssh.splitCommand line).2 with
              | error err => exact Effects.ext rfl rfl (reply_write sess _ none) rfl rfl rfl rfl
              | ok output =>
                  cases output with
                  | nil => rfl
                  | cons b rest =>
                      exact Effects.ext rfl rfl (reply_write sess _ none) rfl rfl rfl rfl

theorem verdicts_lineEffects (unknown : GoString) (err : Option GoString) :
    (lineEffects p cfg sess line unknown err).verdicts = [err.isNone] := by
  unfold lineEffects
  cases err with
  | some err => rfl
  | none =>
      simp only
      split
      · rfl
      · split
        · rfl
        · split <;> rfl

theorem lineEffects_verdict {unknown unknown' : GoString} {err err' : Option GoString}
    (same : lineEffects p cfg sess line unknown err = lineEffects p cfg sess line unknown' err') :
    err = err' := by
  have verdicts := congrArg Effects.verdicts same
  rw [verdicts_lineEffects, verdicts_lineEffects] at verdicts
  cases err with
  | none =>
      cases err' with
      | none => rfl
      | some err' => cases verdicts
  | some err =>
      cases err' with
      | none => cases verdicts
      | some err' =>
          -- Two rejections differ at most in the error, which is part of the reply.
          have reply := congrArg Effects.reply same
          exact congrArg some (List.append_cancel_left reply)

theorem lineEffects_label_iff {unknown unknown' : GoString} (differ : unknown ≠ unknown') :
    lineEffects p cfg sess line unknown (p.validate line) =
        lineEffects p cfg sess line unknown' (p.validate line) ↔ Recognised p cfg line := by
  unfold lineEffects Recognised
  cases p.validate line with
  | some err => simp
  | none =>
      cases quits : Ssh.isQuit (Ssh.splitCommand line).1 with
      | true => simp [quits]
      | false =>
          cases found : cfg.registry.find (Ssh.splitCommand line).1 with
          | none => simp [quits, found, differ]
          | some cmd => simp [quits, found]

/-- **The two copies of the dispatch.**  A line read by the TCP command loop and the same line given
to `executeInput` have the same effects exactly when the validator makes the same of the line and
of the trimmed line, and the line is not an unknown command. -/
theorem same_effects_iff (solid : trimSpace line ≠ []) (forwarding : Option F) :
    tcpEffects p cfg sess line = sshEffects p cfg sess line forwarding ↔
      p.validate (trimSpace line) = p.validate line ∧ Recognised p cfg line := by
  have differ : str "unknown" ≠ str "desconocido" := by decide
  rw [tcpEffects_eq p cfg sess line solid, sshEffects_eq]
  constructor
  · intro same
    have verdict := lineEffects_verdict p cfg sess line same
    rw [verdict] at same
    exact ⟨verdict, (lineEffects_label_iff p cfg sess line differ).1 same⟩
  · rintro ⟨verdict, recognised⟩
    rw [verdict]
    exact (lineEffects_label_iff p cfg sess line differ).2 recognised

end Line

/-! ## A server with one command -/

/-- Every line passes, and every command answers with its name. -/
def echoing : Pipeline Unit where
  validate _ := none
  execute cmd _ _ _ := .ok cmd.name
  blind _ _ _ _ _ := rfl

def helpOnly : Config where
  banner := str "SentinelOps"
  authEnabled := false
  authMaxAttempts := 3
  registry := ⟨GoMap.set ∅ (str "help") ⟨str "help"⟩⟩

def guestSession : Session := newSession 1 0 (str "127.0.0.1:50000")

/-- A registered command, with blanks around it. -/
theorem same_effects_help :
    trimSpace (str " HELP me ") ≠ [] ∧ Recognised echoing helpOnly (str " HELP me ") ∧
      tcpEffects echoing helpOnly guestSession (str " HELP me ") =
        sshEffects echoing helpOnly guestSession (str " HELP me ") (some ()) := by
  have solid : trimSpace (str " HELP me ") ≠ [] := by decide
  have recognised : Recognised echoing helpOnly (str " HELP me ") := by decide
  exact ⟨solid, recognised,
    (same_effects_iff echoing helpOnly guestSession _ solid (some ())).2 ⟨rfl, recognised⟩⟩

/-- The same unknown command under two labels. -/
theorem unknown_counted_twice :
    trimSpace (str "foo") ≠ [] ∧
      (tcpEffects echoing helpOnly guestSession (str "foo")).commandMetrics =
        [(str "foo", str "unknown")] ∧
      (sshEffects echoing helpOnly guestSession (str "foo") none).commandMetrics =
        [(str "foo", str "desconocido")] ∧
      tcpEffects echoing helpOnly guestSession (str "foo") ≠
        sshEffects echoing helpOnly guestSession (str "foo") none := by
  refine ⟨by decide, by decide, by decide, ?_⟩
  intro same
  have labels := congrArg Effects.commandMetrics same
  revert labels
  decide

end SentinelOps.Transport
