/-
# Server.LoginProtocol — nobody runs a command before a login

A monitor reads the trace of a connection one exchange at a time.  Its stage says how far the
login has come and how many attempts are left; between a question to the rate limiter and what
has to follow it there is a stage of its own, in which nothing else is accepted.  A connection
with authentication enabled follows the monitor (`handleConnection_follows`), whatever the
client sends and whatever the authenticator and the limiter answer.

`LoginLaw` is what an accepted trace looks like from outside, and `login_law` is that law for
every run of `handleConnection`.
-/
import SentinelOps.Server.TcpConnection

namespace SentinelOps.Server

open Theory Schedule
open GoText (GoString str)
open GoTime (Time)
open Script (Follows follows_ask)
open Auth (Identity RateLimitDecision)
open Session (Session)

set_option autoImplicit false

/-! ## The monitor -/

/-- `anonymous` has attempts left; `allowed`, `failed` and `accepted` are in the middle of one;
`dismissed` has been told to come back later. -/
inductive Stage where
  | anonymous (left : Nat)
  | allowed (left : Nat) (key : GoString)
  | failed (left : Nat) (key : GoString)
  | accepted (key : GoString) (identity : Identity)
  | named (identity : Identity)
  | dismissed
  deriving DecidableEq

/-- The identity of a session without a login. -/
def nobody : Identity := ⟨[], []⟩

namespace Stage

/-- Who the session belongs to at this stage. -/
def identity : Stage → Identity
  | .named identity => identity
  | _ => nobody

/-- The identity the authenticator has given out. -/
def login : Stage → Option Identity
  | .accepted _ identity => some identity
  | .named identity => some identity
  | _ => none

/-- How many more passwords may be checked. -/
def left : Stage → Nat
  | .anonymous left => left
  | .allowed left _ => left + 1
  | .failed left _ => left
  | _ => 0

/-- The stages a connection may end in. -/
def AtRest : Stage → Prop
  | .anonymous _ => True
  | .named _ => True
  | .dismissed => True
  | _ => False

end Stage

/-- What an exchange is to the login: `talk` is a text to the client or the close, `dispatch` a
line given to the validator or a command, `account` the clock and the metrics. -/
inductive Kind where
  | opened
  | talk
  | allow (key : GoString) (allowed : Bool)
  | authentication (username : GoString) (outcome : Except GoString Identity)
  | failure (key : GoString) (allowed : Bool)
  | success (key : GoString)
  | dispatch
  | account
  deriving DecidableEq

def kind : Event → Kind
  | ⟨⟨_, .opened⟩, _⟩ => .opened
  | ⟨⟨_, .write _⟩, _⟩ => .talk
  | ⟨⟨_, .closed _⟩, _⟩ => .talk
  | ⟨⟨_, .allow key⟩, decision⟩ => .allow key (RateLimitDecision.allowed decision)
  | ⟨⟨_, .authenticate username _⟩, outcome⟩ => .authentication username outcome
  | ⟨⟨_, .recordFailure key⟩, decision⟩ => .failure key (RateLimitDecision.allowed decision)
  | ⟨⟨_, .recordSuccess key⟩, _⟩ => .success key
  | ⟨⟨_, .validate _⟩, _⟩ => .dispatch
  | ⟨⟨_, .execute _ _⟩, _⟩ => .dispatch
  | ⟨⟨_, .now⟩, _⟩ => .account
  | ⟨⟨_, .observeRejectedInput⟩, _⟩ => .account
  | ⟨⟨_, .observeCommand _ _⟩, _⟩ => .account

/-- The next stage, if the exchange has a place at this one. -/
def advance (remoteAddr : GoString) : Stage → Kind → Option Stage
  | .anonymous left, .opened => some (.anonymous left)
  | .anonymous left, .talk => some (.anonymous left)
  | .anonymous (left + 1), .allow key true => some (.allowed left key)
  | .anonymous (_ + 1), .allow _ false => some .dismissed
  | .allowed left key, .authentication username outcome =>
      if key = Auth.key remoteAddr username then
        match outcome with
        | .ok identity => some (.accepted key identity)
        | .error _ => some (.failed left key)
      else none
  | .failed left key, .failure key' allowed =>
      if key' = key then some (if allowed then .anonymous left else .dismissed) else none
  | .accepted key identity, .success key' => if key' = key then some (.named identity) else none
  | .named identity, .talk => some (.named identity)
  | .named identity, .dispatch => some (.named identity)
  | .named identity, .account => some (.named identity)
  | .dismissed, .talk => some .dismissed
  | _, _ => none

/-- The session an exchange comes from belongs to whom the stage says. -/
def monitor (remoteAddr : GoString) (stage : Stage) (e : Event) : Option Stage :=
  if identityOf e.1.sess = stage.identity then advance remoteAddr stage (kind e) else none

theorem advance_talk (remoteAddr : GoString) {stage : Stage} (rests : stage.AtRest) :
    advance remoteAddr stage .talk = some stage := by
  cases stage with
  | anonymous left => rfl
  | named identity => rfl
  | dismissed => rfl
  | allowed left key => cases rests
  | failed left key => cases rests
  | accepted key identity => cases rests

theorem monitor_eq_advance {remoteAddr : GoString} {stage : Stage} {e : Event}
    (who : identityOf e.1.sess = stage.identity) :
    monitor remoteAddr stage e = advance remoteAddr stage (kind e) := if_pos who

/-! ## A connection follows it -/

section Follows

variable {R : Type} {remoteAddr : GoString} {post : R → Stage → Prop} {sess : Session}

/-- A write is accepted between two attempts and after the login. -/
theorem follows_write {stage : Stage} {text : GoString} {next : Option GoString → Connection R}
    (who : identityOf sess = stage.identity) (rests : stage.AtRest)
    (later : ∀ err, Follows (monitor remoteAddr) post (next err) stage) :
    Follows (monitor remoteAddr) post (perform sess (.write text) next) stage := by
  refine follows_ask (fun err => ?_) later
  exact (monitor_eq_advance who).trans (advance_talk remoteAddr rests)

/-- What only a session with a login does. -/
theorem follows_named (sess : Session) {ask : Ask} {next : ask.Answer → Connection R}
    (known : ∀ a : ask.Answer, kind ⟨⟨sess, ask⟩, a⟩ = .dispatch ∨ kind ⟨⟨sess, ask⟩, a⟩ = .account)
    (later : ∀ a, Follows (monitor remoteAddr) post (next a) (.named (identityOf sess))) :
    Follows (monitor remoteAddr) post (perform sess ask next) (.named (identityOf sess)) := by
  refine follows_ask (fun a => ?_) later
  rw [monitor_eq_advance rfl]
  rcases known a with dispatch | account
  · rw [dispatch]
    rfl
  · rw [account]
    rfl

/-- A login ends with the session the stage names, or without one. -/
def LoginPost (result : LoginEnd) (stage : Stage) : Prop :=
  match result with
  | .ok (sess, _) => stage = .named (identityOf sess)
  | .error _ => stage.AtRest ∧ stage.identity = nobody

theorem welcome_follows (who : identityOf sess = nobody) (key : GoString) (identity : Identity)
    (rest : List GoString) :
    Follows (monitor remoteAddr) LoginPost (welcome sess key identity rest)
      (.accepted key identity) := by
  intro _
  refine ⟨.named identity, (monitor_eq_advance who).trans (by simp [kind, advance]), ?_⟩
  refine follows_named { sess with username := identity.username, role := identity.role }
    (fun _ => .inr rfl) fun now => ?_
  exact follows_write rfl trivial fun _ => rfl

theorem tryLogin_follows (who : identityOf sess = nobody) {left attempt maxAttempts : Nat}
    {username password : GoString} {rest : List GoString} {again : Connection LoginEnd}
    (later : Follows (monitor remoteAddr) LoginPost again (.anonymous left)) :
    Follows (monitor remoteAddr) LoginPost
      (tryLogin remoteAddr sess attempt maxAttempts username password rest again)
      (.anonymous (left + 1)) := by
  intro (decision : RateLimitDecision)
  cases allowed : decision.allowed with
  | false =>
      refine ⟨.dismissed, (monitor_eq_advance who).trans (by simp [kind, advance, allowed]), ?_⟩
      simp only [allowed, Bool.not_false, if_true]
      exact follows_write who trivial fun _ => ⟨trivial, rfl⟩
  | true =>
      refine ⟨.allowed left (Auth.key remoteAddr username),
        (monitor_eq_advance who).trans (by simp [kind, advance, allowed]), ?_⟩
      simp only [allowed, Bool.not_true, Bool.false_eq_true, if_false]
      intro (outcome : Except GoString Identity)
      cases outcome with
      | ok identity =>
          exact ⟨.accepted (Auth.key remoteAddr username) identity,
            (monitor_eq_advance who).trans (by simp [kind, advance]),
            welcome_follows who _ identity rest⟩
      | error err =>
          refine ⟨.failed left (Auth.key remoteAddr username),
            (monitor_eq_advance who).trans (by simp [kind, advance]), ?_⟩
          intro (decision : RateLimitDecision)
          cases allowed : decision.allowed with
          | false =>
              refine ⟨.dismissed,
                (monitor_eq_advance who).trans (by simp [kind, advance, allowed]), ?_⟩
              simp only [allowed, Bool.not_false, if_true]
              exact follows_write who trivial fun _ => ⟨trivial, rfl⟩
          | true =>
              refine ⟨.anonymous left,
                (monitor_eq_advance who).trans (by simp [kind, advance, allowed]), ?_⟩
              simp only [allowed, Bool.not_true, Bool.false_eq_true, if_false]
              exact follows_write who trivial fun _ => later

/-- The attempts the loop has left are the attempts the monitor grants. -/
theorem attempts_follows (who : identityOf sess = nobody) (ending : ReadError)
    (maxAttempts left : Nat) (unread : List GoString) :
    Follows (monitor remoteAddr) LoginPost
      (attempts remoteAddr ending sess maxAttempts left unread) (.anonymous left) := by
  induction left generalizing unread with
  | zero => exact ⟨trivial, rfl⟩
  | succ left ih =>
      refine follows_write who trivial fun err => ?_
      cases err with
      | some err => exact ⟨trivial, rfl⟩
      | none =>
          cases unread with
          | nil => exact ⟨trivial, rfl⟩
          | cons username unread =>
              refine follows_write who trivial fun err => ?_
              cases err with
              | some err => exact ⟨trivial, rfl⟩
              | none =>
                  cases unread with
                  | nil => exact ⟨trivial, rfl⟩
                  | cons password rest => exact tryLogin_follows who (ih rest)

/-- The session a piece of the command loop returns is the one the stage names. -/
def Keeps {A : Type} (result : Session × A) (stage : Stage) : Prop :=
  stage = .named (identityOf result.1)

theorem executeLine_follows (cfg : Config) (sess : Session) (input : GoString) :
    Follows (monitor remoteAddr) Keeps (executeLine cfg sess input) (.named (identityOf sess)) := by
  refine follows_named sess (fun _ => .inl rfl) fun (err : Option GoString) => ?_
  cases err with
  | some err =>
      refine follows_named sess (fun _ => .inr rfl) fun _ =>
        follows_named sess (fun _ => .inr rfl) fun _ => ?_
      exact follows_write rfl trivial fun _ => rfl
  | none =>
      dsimp only
      by_cases quits : isQuit (splitCommand input).1 = true
      · rw [if_pos quits]
        exact follows_write rfl trivial fun _ => rfl
      · rw [if_neg quits]
        cases cfg.registry.find (splitCommand input).1 with
        | none =>
            refine follows_named sess (fun _ => .inr rfl) fun _ => ?_
            exact follows_write rfl trivial fun _ => rfl
        | some cmd =>
            -- Counting the command leaves the identity as it was.
            refine follows_named (incrementCommands sess) (fun _ => .inl rfl)
              fun (output : Except GoString GoString) => ?_
            cases output with
            | error err =>
                refine follows_named (incrementCommands sess) (fun _ => .inr rfl) fun _ => ?_
                exact follows_write rfl trivial fun _ => rfl
            | ok output =>
                refine follows_named (incrementCommands sess) (fun _ => .inr rfl) fun _ => ?_
                by_cases empty : output = []
                · rw [if_pos empty]
                  rfl
                · rw [if_neg empty]
                  exact follows_write rfl trivial fun _ => rfl

theorem readFailed_follows (ending : ReadError) (sess : Session) :
    Follows (monitor remoteAddr) Keeps (readFailed ending sess) (.named (identityOf sess)) := by
  cases ending with
  | timeout => exact follows_write rfl trivial fun _ => rfl
  | eof => rfl
  | other => rfl

theorem commandLoop_follows (cfg : Config) (ending : ReadError) (unread : List GoString)
    (sess : Session) :
    Follows (monitor remoteAddr) Keeps (commandLoop cfg ending unread sess)
      (.named (identityOf sess)) := by
  induction unread generalizing sess with
  | nil =>
      refine follows_write rfl trivial fun err => ?_
      cases err with
      | some err => rfl
      | none => exact readFailed_follows ending sess
  | cons raw unread ih =>
      refine follows_write rfl trivial fun err => ?_
      cases err with
      | some err => rfl
      | none =>
          dsimp only
          by_cases blank : readLine raw = []
          · rw [if_pos blank]
            exact ih sess
          · rw [if_neg blank]
            refine (executeLine_follows cfg sess _).bind fun done stage kept => ?_
            obtain ⟨sess', reason⟩ := done
            cases kept
            cases reason with
            | some reason => rfl
            | none => exact ih sess'

theorem serve_follows (cfg : Config) (ending : ReadError) (sess : Session)
    (unread : List GoString) :
    Follows (monitor remoteAddr) Keeps (serve cfg ending sess unread)
      (.named (identityOf sess)) := by
  refine follows_write rfl trivial fun err => ?_
  cases err with
  | some err => rfl
  | none => exact commandLoop_follows cfg ending unread sess

/-- A conversation ends at rest, with a session that belongs to whom the stage says. -/
def Ended {A : Type} (result : Session × A) (stage : Stage) : Prop :=
  stage.AtRest ∧ identityOf result.1 = stage.identity

theorem conversation_follows (cfg : Config) (on : cfg.authEnabled = true) (client : Client)
    (who : identityOf sess = nobody) :
    Follows (monitor sess.remoteAddr) Ended (conversation cfg client sess)
      (.anonymous (maxAttempts cfg)) := by
  refine follows_write who trivial fun err => ?_
  cases err with
  | some err => exact ⟨trivial, who⟩
  | none =>
      dsimp only
      rw [if_pos on]
      have login : Follows (monitor sess.remoteAddr) LoginPost
          (authenticate cfg client.ending sess (lines client.stream))
          (.anonymous (maxAttempts cfg)) :=
        follows_write who trivial fun _ => attempts_follows who client.ending _ _ _
      refine login.bind fun outcome stage ended => ?_
      cases outcome with
      | error err =>
          obtain ⟨rests, anonymous⟩ := ended
          exact follows_write (who.trans anonymous.symm) rests fun _ =>
            ⟨rests, who.trans anonymous.symm⟩
      | ok logged =>
          obtain ⟨sess', unread⟩ := logged
          cases ended
          refine (serve_follows cfg client.ending sess' unread).mono fun result stage kept => ?_
          cases kept
          exact ⟨trivial, rfl⟩

/-- **A connection with authentication enabled follows the monitor**, and ends at rest. -/
theorem handleConnection_follows (cfg : Config) (on : cfg.authEnabled = true) (client : Client)
    {created : Session} (who : identityOf created = nobody) :
    Follows (monitor created.remoteAddr) (fun _ stage => stage.AtRest)
      (handleConnection cfg client created) (.anonymous (maxAttempts cfg)) := by
  have anonymous : identityOf (setTransport created (str "tcp")) = nobody := who
  refine follows_ask (fun _ => (monitor_eq_advance anonymous).trans rfl) fun _ => ?_
  refine (conversation_follows cfg on client anonymous).bind fun done stage ended => ?_
  obtain ⟨sess, reason⟩ := done
  obtain ⟨rests, belongs⟩ := ended
  exact follows_ask (fun _ => (monitor_eq_advance belongs).trans
    (advance_talk created.remoteAddr rests)) fun _ => rests

end Follows

/-! ## What the monitor accepts -/

section Accepted

variable {remoteAddr : GoString} {stage stage' : Stage} {e : Event} {k : Kind}

/-- The steps of the monitor. -/
inductive Advances (remoteAddr : GoString) : Stage → Kind → Stage → Prop
  | opened {left : Nat} : Advances remoteAddr (.anonymous left) .opened (.anonymous left)
  | talk {stage : Stage} (rests : stage.AtRest) : Advances remoteAddr stage .talk stage
  | allow {left : Nat} {key : GoString} :
      Advances remoteAddr (.anonymous (left + 1)) (.allow key true) (.allowed left key)
  | deny {left : Nat} {key : GoString} :
      Advances remoteAddr (.anonymous (left + 1)) (.allow key false) .dismissed
  | accept {left : Nat} {username : GoString} {identity : Identity} :
      Advances remoteAddr (.allowed left (Auth.key remoteAddr username))
        (.authentication username (.ok identity))
        (.accepted (Auth.key remoteAddr username) identity)
  | reject {left : Nat} {username err : GoString} :
      Advances remoteAddr (.allowed left (Auth.key remoteAddr username))
        (.authentication username (.error err)) (.failed left (Auth.key remoteAddr username))
  | retry {left : Nat} {key : GoString} :
      Advances remoteAddr (.failed left key) (.failure key true) (.anonymous left)
  | dismiss {left : Nat} {key : GoString} :
      Advances remoteAddr (.failed left key) (.failure key false) .dismissed
  | welcome {key : GoString} {identity : Identity} :
      Advances remoteAddr (.accepted key identity) (.success key) (.named identity)
  | dispatch {identity : Identity} :
      Advances remoteAddr (.named identity) .dispatch (.named identity)
  | account {identity : Identity} :
      Advances remoteAddr (.named identity) .account (.named identity)

theorem advances_of_advance (moved : advance remoteAddr stage k = some stage') :
    Advances remoteAddr stage k stage' := by
  unfold advance at moved
  split at moved
  · cases moved; exact .opened
  · cases moved; exact .talk trivial
  · cases moved; exact .allow
  · cases moved; exact .deny
  · split_ifs at moved with same
    rw [same] at moved ⊢
    split at moved
    · cases moved; exact .accept
    · cases moved; exact .reject
  · rename_i left key key' allowed
    by_cases same : key' = key
    · subst same
      rw [if_pos rfl] at moved
      cases allowed with
      | true => cases moved; exact .retry
      | false => cases moved; exact .dismiss
    · rw [if_neg same] at moved
      cases moved
  · split_ifs at moved with same
    subst same
    cases moved
    exact .welcome
  · cases moved; exact .talk trivial
  · cases moved; exact .dispatch
  · cases moved; exact .account
  · cases moved; exact .talk trivial
  · cases moved

theorem monitor_cases (moved : monitor remoteAddr stage e = some stage') :
    identityOf e.1.sess = stage.identity ∧
      ∃ k, kind e = k ∧ Advances remoteAddr stage k stage' := by
  unfold monitor at moved
  split_ifs at moved with belongs
  exact ⟨belongs, kind e, rfl, advances_of_advance moved⟩

/-- Once somebody is logged in, it is the same somebody. -/
theorem exec_named {identity : Identity} {trace : List Event}
    (ran : exec (monitor remoteAddr) (.named identity) trace = some stage) :
    stage = .named identity := by
  refine exec_invariant (I := fun stage => stage = .named identity) ?_ rfl ran
  rintro _ e stage' rfl moved
  obtain ⟨-, k, -, advances⟩ := monitor_cases moved
  cases advances <;> rfl

/-- After a dismissal there is only talk. -/
theorem exec_dismissed {trace : List Event}
    (ran : exec (monitor remoteAddr) .dismissed trace = some stage) :
    ∀ e ∈ trace, kind e = .talk := by
  induction trace with
  | nil => simp
  | cons e trace ih =>
      obtain ⟨middle, moved, rest⟩ := exec_cons_eq_some.1 ran
      have talk : kind e = .talk ∧ middle = .dismissed := by
        obtain ⟨-, k, known, advances⟩ := monitor_cases moved
        cases advances
        exact ⟨known, rfl⟩
      rw [talk.2] at rest
      intro e' member
      rcases List.mem_cons.1 member with rfl | member
      · exact talk.1
      · exact ih rest e' member

/-- A password check of the trace. -/
def Kind.isAuthentication : Kind → Bool
  | .authentication _ _ => true
  | _ => false

/-- How many passwords were checked. -/
def checks (trace : List Event) : Nat := trace.countP fun e => (kind e).isAuthentication

/-- The trace has a check that succeeded with this identity. -/
def Succeeded (trace : List Event) (identity : Identity) : Prop :=
  ∃ e ∈ trace, ∃ username, kind e = .authentication username (.ok identity)

/-- What the stage says about the trace that led to it. -/
structure Reached (remoteAddr : GoString) (granted : Nat) (trace : List Event) (stage : Stage) :
    Prop where
  bounded : checks trace + stage.left ≤ granted
  login : ∀ identity, Succeeded trace identity ↔ stage.login = some identity
  lastFailed : ∀ left key, stage = .failed left key → ∃ before e username err,
    trace = before ++ [e] ∧ kind e = .authentication username (.error err) ∧
      key = Auth.key remoteAddr username

theorem checks_concat (trace : List Event) (e : Event) :
    checks (trace ++ [e]) = checks trace + if (kind e).isAuthentication then 1 else 0 := by
  simp [checks, List.countP_append, List.countP_singleton]

theorem succeeded_concat {trace : List Event} {e : Event} {identity : Identity} :
    Succeeded (trace ++ [e]) identity ↔
      Succeeded trace identity ∨ ∃ username, kind e = .authentication username (.ok identity) := by
  simp [Succeeded, or_and_right, exists_or]

theorem reached_of_exec {granted : Nat} {trace : List Event}
    (ran : exec (monitor remoteAddr) (.anonymous granted) trace = some stage) :
    Reached remoteAddr granted trace stage := by
  induction trace using List.reverseRecOn generalizing stage with
  | nil =>
      cases ran
      refine ⟨by simp [checks, Stage.left], fun identity => ?_, fun left key at_ => ?_⟩
      · simp [Succeeded, Stage.login]
      · cases at_
  | append_singleton trace e ih =>
      obtain ⟨before, ran, last⟩ := exec_append_eq_some.1 ran
      obtain ⟨after, moved, done⟩ := exec_cons_eq_some.1 last
      cases done
      obtain ⟨bounded, login, -⟩ := ih ran
      obtain ⟨-, k, known, advances⟩ := monitor_cases moved
      refine ⟨?_, fun identity => ?_, fun left key at_ => ?_⟩
      · rw [checks_concat, known]
        cases advances <;> simp [Kind.isAuthentication, Stage.left] at bounded ⊢ <;> omega
      · rw [succeeded_concat, login, known]
        cases advances <;> simp [Stage.login]
      · subst at_
        cases advances with
        | talk rests => cases rests
        | reject => exact ⟨trace, e, _, _, rfl, known, rfl⟩

end Accepted

/-! ## The law -/

/-- The law of a login, read off the trace of a connection from `remoteAddr` with at most
`granted` attempts.  A position of the trace is given by what comes before it and after it. -/
structure LoginLaw (remoteAddr : GoString) (granted : Nat) (trace : List Event) : Prop where
  /-- The validator and the commands come after a password check that succeeded. -/
  gated : ∀ before e after, trace = before ++ e :: after → kind e = .dispatch →
    ∃ identity, Succeeded before identity
  /-- Until then the session belongs to nobody. -/
  anonymous : ∀ before e after, trace = before ++ e :: after →
    (∀ identity, ¬ Succeeded before identity) → identityOf e.1.sess = nobody
  /-- What follows a success is its `RecordSuccess`, and from then on the session has exactly
  the identity the check returned. -/
  named : ∀ before login after username identity, trace = before ++ login :: after →
    kind login = .authentication username (.ok identity) →
      ∃ recorded rest, after = recorded :: rest ∧
        kind recorded = .success (Auth.key remoteAddr username) ∧
        ∀ e ∈ rest, identityOf e.1.sess = identity
  /-- The number of password checks is bounded. -/
  bounded : checks trace ≤ granted
  /-- What follows a failed check is `RecordFailure` on its key. -/
  recorded : ∀ before e after username err, trace = before ++ e :: after →
    kind e = .authentication username (.error err) →
      ∃ next rest allowed, after = next :: rest ∧
        kind next = .failure (Auth.key remoteAddr username) allowed
  /-- There is no other `RecordFailure`. -/
  onlyFailures : ∀ before e after key allowed, trace = before ++ e :: after →
    kind e = .failure key allowed → ∃ first check username err, before = first ++ [check] ∧
      kind check = .authentication username (.error err) ∧ key = Auth.key remoteAddr username
  /-- After a denial the connection only talks to the client and closes. -/
  denied : ∀ before e after key, trace = before ++ e :: after →
    (kind e = .allow key false ∨ kind e = .failure key false) → ∀ e' ∈ after, kind e' = .talk

section Law

variable {remoteAddr : GoString} {granted : Nat} {trace before after : List Event} {e : Event}
  {final : Stage}

/-- The stages around one position of an accepted trace, and the step between them. -/
theorem step_at {k : Kind} (ran : exec (monitor remoteAddr) (.anonymous granted) trace = some final)
    (split : trace = before ++ e :: after) (is : kind e = k) :
    ∃ stage stage', Reached remoteAddr granted before stage ∧
      identityOf e.1.sess = stage.identity ∧ Advances remoteAddr stage k stage' ∧
      exec (monitor remoteAddr) stage' after = some final := by
  rw [split] at ran
  obtain ⟨stage, first, rest⟩ := exec_append_eq_some.1 ran
  obtain ⟨stage', moved, last⟩ := exec_cons_eq_some.1 rest
  obtain ⟨belongs, k, known, advances⟩ := monitor_cases moved
  rw [is] at known
  subst known
  exact ⟨stage, stage', reached_of_exec first, belongs, advances, last⟩

/-- From a logged-in stage on, every exchange comes from that identity. -/
theorem identity_of_exec_named {identity : Identity}
    (ran : exec (monitor remoteAddr) (.named identity) trace = some final) :
    ∀ e ∈ trace, identityOf e.1.sess = identity := by
  intro e member
  obtain ⟨before, after, split⟩ := List.append_of_mem member
  rw [split] at ran
  obtain ⟨stage, first, rest⟩ := exec_append_eq_some.1 ran
  obtain ⟨stage', moved, -⟩ := exec_cons_eq_some.1 rest
  have belongs := (monitor_cases moved).1
  rw [exec_named first] at belongs
  exact belongs

/-- The stage after a failed check accepts its `RecordFailure` only, and is not at rest. -/
theorem failure_of_exec_failed {left : Nat} {key : GoString} (rests : final.AtRest)
    (ran : exec (monitor remoteAddr) (.failed left key) trace = some final) :
    ∃ next rest allowed, trace = next :: rest ∧ kind next = .failure key allowed := by
  cases trace with
  | nil =>
      cases ran
      cases rests
  | cons next rest =>
      obtain ⟨stage, moved, -⟩ := exec_cons_eq_some.1 ran
      obtain ⟨-, k, known, advances⟩ := monitor_cases moved
      cases advances with
      | talk rests => cases rests
      | retry => exact ⟨next, rest, true, rfl, known⟩
      | dismiss => exact ⟨next, rest, false, rfl, known⟩

/-- The stage after a successful one accepts its `RecordSuccess` only. -/
theorem success_of_exec_accepted {key : GoString} {identity : Identity} (rests : final.AtRest)
    (ran : exec (monitor remoteAddr) (.accepted key identity) trace = some final) :
    ∃ next rest, trace = next :: rest ∧ kind next = .success key ∧
      ∀ e ∈ rest, identityOf e.1.sess = identity := by
  cases trace with
  | nil =>
      cases ran
      cases rests
  | cons next rest =>
      obtain ⟨stage, moved, last⟩ := exec_cons_eq_some.1 ran
      obtain ⟨-, k, known, advances⟩ := monitor_cases moved
      cases advances with
      | talk rests => cases rests
      | welcome => exact ⟨next, rest, rfl, known, identity_of_exec_named last⟩

theorem identity_eq_nobody {stage : Stage} (nobodyYet : stage.login = none) :
    stage.identity = nobody := by
  cases stage with
  | named identity => cases nobodyYet
  | anonymous left => rfl
  | allowed left key => rfl
  | failed left key => rfl
  | accepted key identity => rfl
  | dismissed => rfl

/-- What the monitor accepts, and ends at rest, obeys the law. -/
theorem law_of_exec (ran : exec (monitor remoteAddr) (.anonymous granted) trace = some final)
    (rests : final.AtRest) : LoginLaw remoteAddr granted trace where
  gated before e after split is := by
    obtain ⟨stage, stage', reached, -, advances, -⟩ := step_at ran split is
    cases advances with
    | @dispatch identity => exact ⟨identity, (reached.login identity).2 rfl⟩
  anonymous before e after split never := by
    obtain ⟨stage, stage', reached, belongs, -, -⟩ := step_at ran split rfl
    have nobodyYet : stage.login = none := by
      rw [Option.eq_none_iff_forall_ne_some]
      exact fun identity login => never identity ((reached.login identity).2 login)
    rw [belongs, identity_eq_nobody nobodyYet]
  named before login after username identity split is := by
    obtain ⟨stage, stage', -, -, advances, last⟩ := step_at ran split is
    cases advances
    exact success_of_exec_accepted rests last
  bounded := by
    have total := (reached_of_exec ran).bounded
    omega
  recorded before e after username err split is := by
    obtain ⟨stage, stage', -, -, advances, last⟩ := step_at ran split is
    cases advances
    exact failure_of_exec_failed rests last
  onlyFailures before e after key allowed split is := by
    obtain ⟨stage, stage', reached, -, advances, -⟩ := step_at ran split is
    cases advances with
    | retry => exact reached.lastFailed _ _ rfl
    | dismiss => exact reached.lastFailed _ _ rfl
  denied before e after key split denial := by
    rcases denial with is | is
    · obtain ⟨stage, stage', -, -, advances, last⟩ := step_at ran split is
      cases advances
      exact exec_dismissed last
    · obtain ⟨stage, stage', -, -, advances, last⟩ := step_at ran split is
      cases advances
      exact exec_dismissed last

end Law

/-- **The law of a login holds on every connection with authentication enabled**: any stream,
any way it ends, any answers of the authenticator, the rate limiter, the validator, the
commands and the socket. -/
theorem login_law (cfg : Config) (on : cfg.authEnabled = true) (client : Client) (sequence : Nat)
    (now : Time) (remoteAddr : GoString) (trace : List Event)
    (ran : (handleConnection cfg client (newSession sequence now remoteAddr)).Runs trace ()) :
    LoginLaw remoteAddr (maxAttempts cfg) trace := by
  have who : identityOf (newSession sequence now remoteAddr) = nobody := rfl
  obtain ⟨final, accepted, rests⟩ := (handleConnection_follows cfg on client who).exec ran
  exact law_of_exec accepted rests

/-! ## A connection that logs in at the second attempt -/

def labConfig : Config where
  banner := str "SentinelOps"
  authEnabled := true
  authMaxAttempts := 0
  registry := ⟨GoMap.set ∅ (str "status") ⟨str "status"⟩⟩

/-- One password is accepted. -/
def labWorld : (q : Question) → Answer q
  | ⟨sess, .authenticate username password⟩ =>
      if password = str "secret" then
        (.ok ⟨str "student", str "student"⟩ : Except GoString Identity)
      else quietWorld ⟨sess, .authenticate username password⟩
  | q => quietWorld q

def labConnection : Connection Unit :=
  handleConnection labConfig ⟨str "student\nguess\nstudent\nsecret\nstatus\n", .eof⟩
    (newSession 1 0 (str "10.0.0.5:49152"))

/-- Two checks, a command, and the law. -/
theorem login_law_second_attempt :
    let trace := labConnection.transcript labWorld
    labConnection.Runs trace () ∧ checks trace = 2 ∧
      (∃ e ∈ trace, kind e = .dispatch) ∧
      LoginLaw (str "10.0.0.5:49152") 3 trace := by
  intro trace
  have ran : labConnection.Runs trace () := Script.runs_transcript labWorld labConnection
  exact ⟨ran, by decide, by decide, login_law labConfig rfl _ 1 0 _ trace ran⟩

end SentinelOps.Server
