/-
# Transport.PasswordLogin — a password over SSH and over TCP

Both servers have the same accounts behind them.  The SSH server gives the name and the
password to the service as they came (`passwordCallback`), and takes the identity of the
session from what the callback put into the permissions (`establish`).  The TCP server reads
a line for each, and a line is read without the white space around it.

For the name that makes no difference: the service cuts it off anyway, and lowering commutes
with it.  For the password it does.  `logins_agree_iff` says for which passwords the two
servers agree.
-/
import SentinelOps.Server.TcpConnection

namespace SentinelOps.Transport

open Theory
open GoText (GoString str trimSpace)
open GoTime (Time durationString)
open Auth (Identity RateLimitDecision Service newDefaultService tableName)
open Session (Session)
open Server (Question Answer Config ReadError Connection LoginEnd identityOf newSession
  setTransport setIdentity setAuthn roundDuration readLine lines quietWorld)

set_option autoImplicit false

/-! ## The SSH server -/

/-- What the callback asks the limiter and the authenticator. -/
inductive LoginAsk where
  | allow (key : GoString)
  | authenticate (username password : GoString)
  | recordFailure (key : GoString)
  | recordSuccess (key : GoString)

def LoginAsk.Answer : LoginAsk → Type
  | .allow _ => RateLimitDecision
  | .authenticate _ _ => Except GoString Identity
  | .recordFailure _ => RateLimitDecision
  | .recordSuccess _ => Unit

/-- `ssh.Permissions`, as far as the server fills it. -/
structure Permissions where
  extensions : GoMap GoString GoString

def rateLimited (decision : RateLimitDecision) : GoString :=
  str "login rate limit exceeded; retry after " ++
    durationString (roundDuration decision.retryAfter)

/-- The `PasswordCallback` of `handleConnection`; an error is given by its text. -/
def passwordCallback (remoteAddr user pass : GoString) :
    Script LoginAsk LoginAsk.Answer (Except GoString Permissions) :=
  let rateKey := Auth.key remoteAddr user
  .ask (.allow rateKey) fun (decision : RateLimitDecision) =>
    if !decision.allowed then .ret (.error (rateLimited decision))
    else
      .ask (.authenticate user pass) fun (outcome : Except GoString Identity) =>
        match outcome with
        | .error err =>
            .ask (.recordFailure rateKey) fun (decision : RateLimitDecision) =>
              .ret (.error (if !decision.allowed then rateLimited decision else err))
        | .ok identity =>
            .ask (.recordSuccess rateKey) fun _ =>
              .ret (.ok ⟨((GoMap.set ∅ (str "username") identity.username).set
                (str "role") identity.role).set (str "authn") (str "password")⟩)

/-- An entry of the permissions, unless there is none or it is empty. -/
def extension (permissions : Option Permissions) (name default : GoString) : GoString :=
  match permissions with
  | none => default
  | some permissions =>
      match permissions.extensions.get name with
      | none => default
      | some value => if value ≠ [] then value else default

/-- The session of a connection whose handshake went through. -/
def establish (created : Session) (user : GoString) (permissions : Option Permissions)
    (now : Time) : Session :=
  let username := extension permissions (str "username") user
  let role := extension permissions (str "role") (str "desconocido")
  let authn := extension permissions (str "authn") (str "desconocido")
  setAuthn (setIdentity (setTransport created (str "ssh")) username role now) authn

/-! ## One attempt on either server -/

/-- What the limiter answers to this attempt. -/
structure Limiter where
  allow : GoString → RateLimitDecision
  recordFailure : GoString → RateLimitDecision

def sshWorld (limiter : Limiter) (service : Service) : (ask : LoginAsk) → ask.Answer
  | .allow key => limiter.allow key
  | .authenticate username password => service.authenticate username password
  | .recordFailure key => limiter.recordFailure key
  | .recordSuccess _ => ()

/-- The client gets the prompts; `others` answers what is no part of the login. -/
def tcpWorld (limiter : Limiter) (service : Service) (others : (q : Question) → Answer q) :
    (q : Question) → Answer q
  | ⟨_, .write _⟩ => (none : Option GoString)
  | ⟨_, .allow key⟩ => limiter.allow key
  | ⟨_, .authenticate username password⟩ => service.authenticate username password
  | ⟨_, .recordFailure key⟩ => limiter.recordFailure key
  | q => others q

/-- Who the session belongs to, if the callback accepts. -/
def sshLogin (limiter : Limiter) (service : Service) (created : Session) (now : Time)
    (user pass : GoString) : Option Identity :=
  match (passwordCallback created.remoteAddr user pass).eval (sshWorld limiter service) with
  | .ok permissions => some (identityOf (establish created user (some permissions) now))
  | .error _ => none

/-- Who the session belongs to, if the login succeeds. -/
def loginIdentity : LoginEnd → Option Identity
  | .ok (sess, _) => some (identityOf sess)
  | .error _ => none

/-- The login of a client that sends these two lines. -/
def tcpLogin (limiter : Limiter) (service : Service) (others : (q : Question) → Answer q)
    (cfg : Config) (ending : ReadError) (created : Session) (user pass : GoString) :
    Option Identity :=
  let unread := lines (user ++ [0x0A] ++ pass ++ [0x0A])
  loginIdentity
    ((Server.authenticate cfg ending created unread).eval (tcpWorld limiter service others))

section Attempt

variable {limiter : Limiter} {service : Service} {others : (q : Question) → Answer q}
  {created : Session} {user pass : GoString}

theorem tcpWorld_allow (sess : Session) (key : GoString) :
    tcpWorld limiter service others ⟨sess, .allow key⟩ = limiter.allow key := rfl

theorem tcpWorld_authenticate (sess : Session) (username password : GoString) :
    tcpWorld limiter service others ⟨sess, .authenticate username password⟩ =
      service.authenticate username password := rfl

theorem lines_two (userLine : 0x0A ∉ user) (passLine : 0x0A ∉ pass) :
    lines (user ++ [0x0A] ++ pass ++ [0x0A]) = [user ++ [0x0A], pass ++ [0x0A]] := by
  have joined : user ++ [0x0A] ++ pass ++ [0x0A] = [0x0A].intercalate [user, pass, []] := by
    simp [List.intercalate]
  have split : (user ++ [0x0A] ++ pass ++ [0x0A]).splitOn 0x0A = [user, pass, []] := by
    rw [joined]
    refine List.splitOn_intercalate 0x0A ?_ (by simp)
    simp [userLine, passLine]
  rw [lines, split]
  rfl

/-- The line of a name counts against the same key as the name. -/
theorem key_readLine (remoteAddr : GoString) (user : GoString) :
    Auth.key remoteAddr (readLine (user ++ [0x0A])) = Auth.key remoteAddr user := by
  simp only [Auth.key, readLine, GoText.trimSpace_concat_newline, GoText.trimSpace_trimSpace]

theorem maxAttempts_pos (cfg : Config) : ∃ left, Server.maxAttempts cfg = left + 1 := by
  refine Nat.exists_eq_succ_of_ne_zero ?_
  unfold Server.maxAttempts
  split <;> omega

/-- Without another line there is no login. -/
theorem eval_attempts_nil (remoteAddr : GoString) (ending : ReadError) (sess : Session)
    (maxAttempts left : Nat) :
    loginIdentity ((Server.attempts remoteAddr ending sess maxAttempts left []).eval
      (tcpWorld limiter service others)) = none := by
  cases left with
  | zero => rfl
  | succ left => rfl

/-- An allowed attempt that is the last one ends as the service says. -/
theorem eval_tryLogin {remoteAddr : GoString} {sess : Session} {attempt maxAttempts : Nat}
    {rest : List GoString} {again : Connection LoginEnd}
    (allowed : (limiter.allow (Auth.key remoteAddr user)).allowed = true)
    (last : loginIdentity (again.eval (tcpWorld limiter service others)) = none) :
    loginIdentity ((Server.tryLogin remoteAddr sess attempt maxAttempts user pass rest again).eval
      (tcpWorld limiter service others)) = (service.authenticate user pass).toOption := by
  simp only [Server.tryLogin, Server.perform, Script.eval, tcpWorld_allow, tcpWorld_authenticate,
    allowed, Bool.not_true, Bool.false_eq_true, if_false]
  cases service.authenticate user pass with
  | ok identity => rfl
  | error err =>
      -- Locked or not, the decision after a failure lets nobody in.
      have rejected : ∀ decision : RateLimitDecision, loginIdentity (Script.eval
          (tcpWorld limiter service others) (if !decision.allowed then
            Server.writeLine sess (Server.temporarilyLocked attempt maxAttempts decision) fun _ =>
              .ret (.error (.refused (str "login rate limit exceeded")))
          else Server.writeLine sess (Server.invalidCredentials attempt maxAttempts) fun _ =>
            again)) = none := by
        intro decision
        cases locked : decision.allowed with
        | false =>
            simp only [Bool.not_false, if_true]
            rfl
        | true =>
            simp only [Bool.not_true, Bool.false_eq_true, if_false]
            exact last
      exact rejected (limiter.recordFailure (Auth.key remoteAddr user))

/-- The TCP server asks the service about both lines as it read them. -/
theorem tcpLogin_eq (others : (q : Question) → Answer q) (cfg : Config) (ending : ReadError)
    (userLine : 0x0A ∉ user) (passLine : 0x0A ∉ pass)
    (allowed : (limiter.allow (Auth.key created.remoteAddr user)).allowed = true) :
    tcpLogin limiter service others cfg ending created user pass =
      (service.authenticate (trimSpace user) (trimSpace pass)).toOption := by
  obtain ⟨left, positive⟩ := maxAttempts_pos cfg
  have read : ∀ line : GoString, readLine (line ++ [0x0A]) = trimSpace line :=
    GoText.trimSpace_concat_newline
  rw [← key_readLine] at allowed
  rw [tcpLogin, lines_two userLine passLine, Server.authenticate, positive, ← read, ← read]
  exact eval_tryLogin allowed (eval_attempts_nil created.remoteAddr ending created _ left)

/-- What the callback wrote into the permissions is what the session gets, unless it is
empty. -/
theorem identityOf_establish {identity : Identity} {now : Time} {authn : GoString}
    (named : identity.username ≠ []) (hasRole : identity.role ≠ []) :
    let extensions := ((GoMap.set ∅ (str "username") identity.username).set
      (str "role") identity.role).set (str "authn") authn
    identityOf (establish created user (some ⟨extensions⟩) now) = identity := by
  have username : str "username" ≠ str "authn" ∧ str "username" ≠ str "role" := by decide
  have role : str "role" ≠ str "authn" := by decide
  simp [identityOf, establish, extension, setAuthn, setIdentity, GoMap.get_set, username, role,
    named, hasRole]

/-- The SSH server asks the service about the name and the password as they came. -/
theorem sshLogin_eq (now : Time)
    (complete : ∀ identity, service.authenticate user pass = .ok identity →
      identity.username ≠ [] ∧ identity.role ≠ [])
    (allowed : (limiter.allow (Auth.key created.remoteAddr user)).allowed = true) :
    sshLogin limiter service created now user pass =
      (service.authenticate user pass).toOption := by
  simp only [sshLogin, passwordCallback, Script.eval, sshWorld, allowed, Bool.not_true,
    Bool.false_eq_true, if_false]
  cases outcome : service.authenticate user pass with
  | ok identity =>
      obtain ⟨named, hasRole⟩ := complete identity outcome
      exact congrArg some (identityOf_establish named hasRole)
  | error err => rfl

end Attempt

/-! ## Where they agree -/

section Agree

variable {lookupEnv : GoString → Option GoString} {random : GoString → Vector UInt8 20}

/-- The service reads a name the same without the white space around it. -/
theorem authenticate_trimSpace (service : Service) (user pass : GoString) :
    service.authenticate (trimSpace user) pass = service.authenticate user pass := by
  have same : tableName (trimSpace user) = tableName user := by
    rw [tableName, tableName, GoText.trimSpace_toLower, GoText.trimSpace_trimSpace,
      GoText.trimSpace_toLower]
  simp only [Service.authenticate, same]

/-- The identities of the default service have a name and a role. -/
theorem identity_complete {user pass : GoString} {identity : Identity}
    (accepted : (newDefaultService lookupEnv random).authenticate user pass = .ok identity) :
    identity.username ≠ [] ∧ identity.role ≠ [] := by
  have some_ := Service.authenticate_toOption (newDefaultService lookupEnv random) user pass
  rw [accepted] at some_
  obtain ⟨record, found, given⟩ := Option.bind_eq_some_iff.1 some_.symm
  obtain ⟨named, hasRole, -⟩ := Auth.newDefaultService_account found
  split_ifs at given
  cases given
  exact ⟨named, hasRole⟩

/-- Two passwords get the same answer if both are right or both are wrong. -/
theorem authenticate_toOption_eq_iff (user pass pass' : GoString) :
    ((newDefaultService lookupEnv random).authenticate user pass).toOption =
        ((newDefaultService lookupEnv random).authenticate user pass').toOption ↔
      ∀ record, (newDefaultService lookupEnv random).users.get (tableName user) =
        some record → (pass = record.password ↔ pass' = record.password) := by
  rw [Service.authenticate_toOption, Service.authenticate_toOption]
  cases found : (newDefaultService lookupEnv random).users.get (tableName user) with
  | none => simp
  | some record =>
      obtain ⟨-, -, nonempty⟩ := Auth.newDefaultService_account found
      simp only [Option.bind_some, Option.some.injEq, forall_eq', nonempty, ne_eq,
        not_false_eq_true, true_and]
      by_cases right : pass = record.password <;> by_cases right' : pass' = record.password <;>
        simp [right, right']

end Agree

/-- **The two servers agree on a login unless the white space around the password decides it**:
for every environment, every name and password a client can send as a line, and every limiter
that allows the attempt. -/
theorem logins_agree_iff (lookupEnv : GoString → Option GoString)
    (random : GoString → Vector UInt8 20) (limiter : Limiter)
    (others : (q : Question) → Answer q) (cfg : Config) (ending : ReadError)
    (tcpSession sshSession : Session) (now : Time) (user pass : GoString)
    (userLine : 0x0A ∉ user) (passLine : 0x0A ∉ pass)
    (tcpAllowed : (limiter.allow (Auth.key tcpSession.remoteAddr user)).allowed = true)
    (sshAllowed : (limiter.allow (Auth.key sshSession.remoteAddr user)).allowed = true) :
    tcpLogin limiter (newDefaultService lookupEnv random) others cfg ending tcpSession user pass =
        sshLogin limiter (newDefaultService lookupEnv random) sshSession now user pass ↔
      ∀ record, (newDefaultService lookupEnv random).users.get (tableName user) =
        some record →
          trimSpace pass = pass ∨ (pass ≠ record.password ∧ trimSpace pass ≠ record.password) := by
  rw [tcpLogin_eq others cfg ending userLine passLine tcpAllowed, authenticate_trimSpace,
    sshLogin_eq now (fun identity => identity_complete) sshAllowed, authenticate_toOption_eq_iff]
  refine forall_congr' fun record => imp_congr_right fun _ => ?_
  constructor
  · intro same
    by_cases right : pass = record.password
    · exact .inl ((same.2 right).trans right.symm)
    · exact .inr ⟨right, fun trimmed => right (same.1 trimmed)⟩
  · rintro (unspaced | ⟨wrong, wrong'⟩)
    · rw [unspaced]
    · exact iff_of_false wrong' wrong

/-! ## A password with blanks around it -/

/-- The environment of a lab whose student password begins and ends with a blank. -/
def spacedEnv (name : GoString) : Option GoString :=
  if name = str "APP_AUTH_STUDENT_PASSWORD" then some (str " student-secret ") else none

def openLimiter : Limiter := ⟨fun _ => { allowed := true }, fun _ => { allowed := true }⟩

def labConfig : Config where
  banner := str "SentinelOps"
  authEnabled := true
  authMaxAttempts := 3
  registry := ⟨∅⟩

/-- The default service of that environment. -/
def labService (lookupEnv : GoString → Option GoString) : Service :=
  newDefaultService lookupEnv fun _ => .replicate 20 0

/-- The exact password opens an SSH session, and the TCP server refuses it. -/
theorem spaced_password_refused :
    sshLogin openLimiter (labService spacedEnv) (newSession 1 0 (str "10.0.0.5:49152")) 0
        (str "student") (str " student-secret ") = some ⟨str "student", str "student"⟩ ∧
      tcpLogin openLimiter (labService spacedEnv) quietWorld labConfig .eof
        (newSession 2 0 (str "10.0.0.5:49153")) (str "student") (str " student-secret ") =
          none := by
  decide

/-- A password without blanks is accepted by both. -/
theorem logins_agree_unspaced :
    trimSpace (str "AAAAAAAAAAAAAAAAAAAA") = str "AAAAAAAAAAAAAAAAAAAA" ∧
      tcpLogin openLimiter (labService fun _ => none) quietWorld labConfig .eof
          (newSession 2 0 (str "10.0.0.5:49153")) (str " Teacher") (str "AAAAAAAAAAAAAAAAAAAA") =
        sshLogin openLimiter (labService fun _ => none) (newSession 1 0 (str "10.0.0.5:49152")) 0
          (str " Teacher") (str "AAAAAAAAAAAAAAAAAAAA") ∧
      sshLogin openLimiter (labService fun _ => none) (newSession 1 0 (str "10.0.0.5:49152")) 0
        (str " Teacher") (str "AAAAAAAAAAAAAAAAAAAA") = some ⟨str "teacher", str "teacher"⟩ := by
  have unspaced : trimSpace (str "AAAAAAAAAAAAAAAAAAAA") = str "AAAAAAAAAAAAAAAAAAAA" := by
    decide
  refine ⟨unspaced, ?_, by decide⟩
  exact (logins_agree_iff (fun _ => none) (fun _ => .replicate 20 0) openLimiter quietWorld
    labConfig .eof (newSession 2 0 (str "10.0.0.5:49153")) (newSession 1 0 (str "10.0.0.5:49152")) 0
    (str " Teacher") (str "AAAAAAAAAAAAAAAAAAAA") (by decide) (by decide) rfl rfl).2
    fun _ _ => .inl unspaced

end SentinelOps.Transport
