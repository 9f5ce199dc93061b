/-
# Server.TcpConnection — one TCP connection, from the banner to the close

The connection asks for a username and a password until the authenticator accepts or the
attempts run out, and then runs one command for each line.  It is a script: what it asks the
outside (the client's socket, the rate limiter, the authenticator, the validator, the
commands) comes with the session as it is at that moment, so a trace shows who the session
belonged to at every exchange.

What the client sends is a byte stream and the way it ends.  A line that is not complete when
the stream ends, or when its deadline passes, is a read error, and every read error ends the
connection, so the stream counts up to the first one.
-/
import SentinelOps.Auth.RateLimiter
import SentinelOps.Auth.Service
import SentinelOps.Session.Registry
import SentinelOps.Theory.Script

namespace SentinelOps.Server

open Theory
open GoText (GoString str trimSpace toLower fields decimal zeroPadded)
open GoTime (Time Duration second durationString)
open Auth (Identity RateLimitDecision)
open Session (Session)

set_option autoImplicit false

/-! ## Sessions -/

/-- `session.New`; `sequence` is the value the counter moves to. -/
def newSession (sequence : Nat) (now : Time) (remoteAddr : GoString) : Session where
  id := str "sess-" ++ zeroPadded 6 sequence
  remoteAddr := remoteAddr
  connectedAt := now

def setIdentity (sess : Session) (username role : GoString) (now : Time) : Session :=
  { sess with username := username, role := role, authenticatedAt := now }

def setTransport (sess : Session) (transport : GoString) : Session := { sess with transport }

def setAuthn (sess : Session) (method : GoString) : Session := { sess with authn := method }

def incrementCommands (sess : Session) : Session :=
  { sess with commandCount := sess.commandCount + 1 }

/-- Who the session belongs to; both fields are empty before a login. -/
def identityOf (sess : Session) : Identity := ⟨sess.username, sess.role⟩

/-! ## The outside -/

structure Command where
  name : GoString
  deriving DecidableEq

/-- `commands.Registry`, by its lookup table. -/
structure CommandRegistry where
  lookup : GoMap GoString Command

def CommandRegistry.find (r : CommandRegistry) (name : GoString) : Option Command :=
  r.lookup.get (toLower name)

structure Config where
  banner : GoString
  authEnabled : Bool
  authMaxAttempts : Int
  registry : CommandRegistry

inductive CloseReason where
  | desconexionCliente
  | errorEscritura
  | authFailed
  | tiempoInactivo
  | errorLectura
  | quit
  deriving DecidableEq, Repr

/-- What a read ends with that finds no complete line. -/
inductive ReadError where
  | timeout
  | eof
  | other
  deriving DecidableEq, Repr

/-- Everything the client sends in time, and how the first read that fails ends. -/
structure Client where
  stream : GoString
  ending : ReadError

/-- The complete lines of a stream, each with its terminator. -/
def lines (stream : GoString) : List GoString :=
  ((stream.splitOn 0x0A).dropLast).map fun line => line ++ [0x0A]

/-- `opened` and `closed` stand for the session registry and the session metrics. -/
inductive Ask where
  | now
  | opened
  | closed (reason : CloseReason)
  | write (text : GoString)
  | allow (key : GoString)
  | authenticate (username password : GoString)
  | recordSuccess (key : GoString)
  | recordFailure (key : GoString)
  | validate (input : GoString)
  | observeRejectedInput
  | observeCommand (name result : GoString)
  | execute (cmd : Command) (args : List GoString)

/-- Errors are given by their texts; `write` answers with the error, if any. -/
def Ask.Answer : Ask → Type
  | .now => Time
  | .opened => Unit
  | .closed _ => Unit
  | .write _ => Option GoString
  | .allow _ => RateLimitDecision
  | .authenticate _ _ => Except GoString Identity
  | .recordSuccess _ => Unit
  | .recordFailure _ => RateLimitDecision
  | .validate _ => Option GoString
  | .observeRejectedInput => Unit
  | .observeCommand _ _ => Unit
  | .execute _ _ => Except GoString GoString

/-- A question together with the session it is asked in. -/
structure Question where
  sess : Session
  ask : Ask

def Answer (q : Question) : Type := q.ask.Answer

abbrev Event := Σ q, Answer q

abbrev Connection (R : Type) := Script Question Answer R

/-- Ask, with the session as it is now. -/
def perform {R : Type} (sess : Session) (ask : Ask) (next : ask.Answer → Connection R) :
    Connection R :=
  .ask ⟨sess, ask⟩ next

/-- `writeLine`, whose text ends with a line terminator. -/
def writeLine {R : Type} (sess : Session) (text : GoString)
    (next : Option GoString → Connection R) : Connection R :=
  perform sess (.write (text ++ str "\r\n")) next

def writePrompt {R : Type} (sess : Session) (text : GoString)
    (next : Option GoString → Connection R) : Connection R :=
  perform sess (.write text) next

/-- The value of `readLine` on a complete line. -/
def readLine (raw : GoString) : GoString := trimSpace raw

def roundDuration (d : Duration) : Duration := if d ≤ 0 then 0 else GoTime.round d second

/-! ## The login -/

def tooManyAttempts (decision : RateLimitDecision) : GoString :=
  str "Too many failed login attempts. Retry after " ++
    durationString (roundDuration decision.retryAfter) ++ str "."

def invalidCredentials (attempt maxAttempts : Nat) : GoString :=
  str "Invalid credentials (" ++ decimal attempt ++ str "/" ++ decimal maxAttempts ++ str ")."

def temporarilyLocked (attempt maxAttempts : Nat) (decision : RateLimitDecision) : GoString :=
  invalidCredentials attempt maxAttempts ++ str " Login temporarily locked; retry after " ++
    durationString (roundDuration decision.retryAfter) ++ str "."

/-- The error of `authenticate`: that of a write or a read, or one of its own. -/
inductive LoginError where
  | write (err : GoString)
  | read (err : ReadError)
  | refused (text : GoString)
  deriving DecidableEq

/-- What a login ends with: an error, or the session and the lines not read yet. -/
abbrev LoginEnd := Except LoginError (Session × List GoString)

/-- What follows an accepted password. -/
def welcome (sess : Session) (key : GoString) (identity : Identity) (rest : List GoString) :
    Connection LoginEnd :=
  perform sess (.recordSuccess key) fun _ =>
    -- `SetIdentity` assigns the two fields before it reads the clock.
    let named := { sess with username := identity.username, role := identity.role }
    perform named .now fun now =>
      let sess := setAuthn (setIdentity sess identity.username identity.role now) (str "password")
      writeLine sess (str "Authentication successful.") fun _ => .ret (.ok (sess, rest))

/-- The body of the loop once the two lines are there; `again` is the next attempt. -/
def tryLogin (remoteAddr : GoString) (sess : Session) (attempt maxAttempts : Nat)
    (username password : GoString) (rest : List GoString) (again : Connection LoginEnd) :
    Connection LoginEnd :=
  let key := Auth.key remoteAddr username
  perform sess (.allow key) fun (decision : RateLimitDecision) =>
    if !decision.allowed then
      writeLine sess (tooManyAttempts decision) fun _ =>
        .ret (.error (.refused (str "login rate limit exceeded")))
    else
      perform sess (.authenticate username password) fun (outcome : Except GoString Identity) =>
        match outcome with
        | .ok identity => welcome sess key identity rest
        | .error _ =>
            perform sess (.recordFailure key) fun (decision : RateLimitDecision) =>
              if !decision.allowed then
                writeLine sess (temporarilyLocked attempt maxAttempts decision) fun _ =>
                  .ret (.error (.refused (str "login rate limit exceeded")))
              else writeLine sess (invalidCredentials attempt maxAttempts) fun _ => again

/-- The attempts that are left, on the lines that are left. -/
def attempts (remoteAddr : GoString) (ending : ReadError) (sess : Session) (maxAttempts : Nat) :
    Nat → List GoString → Connection LoginEnd
  | 0, _ => .ret (.error (.refused (str "maximum authentication attempts exceeded")))
  | left + 1, unread =>
      writePrompt sess (str "username: ") fun err =>
        match err, unread with
        | some err, _ => .ret (.error (.write err))
        | none, [] => .ret (.error (.read ending))
        | none, username :: unread =>
            writePrompt sess (str "password: ") fun err =>
              match err, unread with
              | some err, _ => .ret (.error (.write err))
              | none, [] => .ret (.error (.read ending))
              | none, password :: rest =>
                  tryLogin remoteAddr sess (maxAttempts - left) maxAttempts (readLine username)
                    (readLine password) rest (attempts remoteAddr ending sess maxAttempts left rest)

/-- `AuthMaxAttempts`, or three. -/
def maxAttempts (cfg : Config) : Nat :=
  if cfg.authMaxAttempts ≤ 0 then 3 else cfg.authMaxAttempts.toNat

def authenticate (cfg : Config) (ending : ReadError) (sess : Session) (unread : List GoString) :
    Connection LoginEnd :=
  writeLine sess (str "Se requiere autenticación.") fun _ =>
    attempts sess.remoteAddr ending sess (maxAttempts cfg) (maxAttempts cfg) unread

/-! ## The commands -/

def splitCommand (input : GoString) : GoString × List GoString :=
  match fields input with
  | [] => ([], [])
  | name :: args => (toLower name, args)

def isQuit (name : GoString) : Bool :=
  toLower name = str "quit" || toLower name = str "exit" || toLower name = str "q"

/-- One line that is not blank: the session after it, and why the connection closes if it
does. -/
def executeLine (cfg : Config) (sess : Session) (input : GoString) :
    Connection (Session × Option CloseReason) :=
  perform sess (.validate input) fun (err : Option GoString) =>
    match err with
    | some err =>
        perform sess .observeRejectedInput fun _ =>
          perform sess (.observeCommand (str "validation") (str "rejected")) fun _ =>
            writeLine sess (str "Entrada rechazada: " ++ err) fun _ => .ret (sess, none)
    | none =>
        let (name, args) := splitCommand input
        if isQuit name then
          writeLine sess (str "Sesión finalizada.") fun _ => .ret (sess, some .quit)
        else
          match cfg.registry.find name with
          | none =>
              perform sess (.observeCommand name (str "unknown")) fun _ =>
                writeLine sess (str "Comando no reconocido: " ++ name) fun _ => .ret (sess, none)
          | some cmd =>
              let sess := incrementCommands sess
              perform sess (.execute cmd args) fun (output : Except GoString GoString) =>
                match output with
                | .error err =>
                    perform sess (.observeCommand cmd.name (str "error")) fun _ =>
                      writeLine sess (str "Error: " ++ err) fun _ => .ret (sess, none)
                | .ok output =>
                    perform sess (.observeCommand cmd.name (str "ok")) fun _ =>
                      if output = [] then .ret (sess, none)
                      else
                        writeLine sess output fun err =>
                          .ret (sess, err.map fun _ => .errorEscritura)

/-- What a read error in the command loop closes the connection with. -/
def readFailed (ending : ReadError) (sess : Session) : Connection (Session × CloseReason) :=
  match ending with
  | .timeout =>
      writeLine sess (str "Sesión cerrada por inactividad.") fun _ => .ret (sess, .tiempoInactivo)
  | .eof => .ret (sess, .desconexionCliente)
  | .other => .ret (sess, .errorLectura)

def commandLoop (cfg : Config) (ending : ReadError) :
    List GoString → Session → Connection (Session × CloseReason)
  | [], sess =>
      writePrompt sess (str "> ") fun err =>
        match err with
        | some _ => .ret (sess, .errorEscritura)
        | none => readFailed ending sess
  | raw :: unread, sess =>
      writePrompt sess (str "> ") fun err =>
        match err with
        | some _ => .ret (sess, .errorEscritura)
        | none =>
            if readLine raw = [] then commandLoop cfg ending unread sess
            else
              (executeLine cfg sess (readLine raw)).bind fun done =>
                match done with
                | (sess, some reason) => .ret (sess, reason)
                | (sess, none) => commandLoop cfg ending unread sess

/-! ## The connection -/

/-- What follows the login. -/
def serve (cfg : Config) (ending : ReadError) (sess : Session) (unread : List GoString) :
    Connection (Session × CloseReason) :=
  writeLine sess (str "Escribe 'help' para ver los comandos.") fun err =>
    match err with
    | some _ => .ret (sess, .errorEscritura)
    | none => commandLoop cfg ending unread sess

/-- The session without a login. -/
def asGuest (sess : Session) (next : Session → Connection (Session × CloseReason)) :
    Connection (Session × CloseReason) :=
  let named := { sess with username := str "anonymous", role := str "guest" }
  perform named .now fun now =>
    let sess := setAuthn (setIdentity sess (str "anonymous") (str "guest") now) (str "none")
    writeLine sess (str "Autenticación deshabilitada. Se asignó una sesión de invitado.")
      fun _ => next sess

/-- Everything between the opening of the session and its close. -/
def conversation (cfg : Config) (client : Client) (sess : Session) :
    Connection (Session × CloseReason) :=
  writeLine sess cfg.banner fun err =>
    match err with
    | some _ => .ret (sess, .errorEscritura)
    | none =>
        if cfg.authEnabled then
          (authenticate cfg client.ending sess (lines client.stream)).bind fun login =>
            match login with
            | .error _ =>
                writeLine sess (str "La autenticación falló. La sesión se cerró.") fun _ =>
                  .ret (sess, .authFailed)
            | .ok (sess, unread) => serve cfg client.ending sess unread
        else asGuest sess fun sess => serve cfg client.ending sess (lines client.stream)

def handleConnection (cfg : Config) (client : Client) (created : Session) : Connection Unit :=
  let sess := setTransport created (str "tcp")
  perform sess .opened fun _ =>
    (conversation cfg client sess).bind fun (sess, reason) =>
      perform sess (.closed reason) fun _ => .ret ()

/-- An outside where everything is written and allowed, and nobody has an account. -/
def quietWorld : (q : Question) → Answer q
  | ⟨_, .now⟩ => (0 : Time)
  | ⟨_, .opened⟩ => ()
  | ⟨_, .closed _⟩ => ()
  | ⟨_, .write _⟩ => (none : Option GoString)
  | ⟨_, .allow _⟩ => ({ allowed := true } : RateLimitDecision)
  | ⟨_, .authenticate _ _⟩ => (.error (str "invalid credentials") : Except GoString Identity)
  | ⟨_, .recordSuccess _⟩ => ()
  | ⟨_, .recordFailure _⟩ => ({ allowed := true } : RateLimitDecision)
  | ⟨_, .validate _⟩ => (none : Option GoString)
  | ⟨_, .observeRejectedInput⟩ => ()
  | ⟨_, .observeCommand _ _⟩ => ()
  | ⟨_, .execute _ _⟩ => (.ok (str "ok") : Except GoString GoString)

end SentinelOps.Server
