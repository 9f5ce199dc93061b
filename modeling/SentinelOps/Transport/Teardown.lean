/-
# Transport.Teardown — the tunnels of an SSH connection and the end of `handleConnection`

One SSH connection of `internal/transport/sshserver/server.go` with its forwarded tunnels,
beside the other users of the tunnel table.  A tunnel is one goroutine of
`acceptRemoteForwardLoop` or of `handleDirectTCPIP`.  Both have the same course: a TCP
connection (accepted, or dialled once the policy allows the target), an SSH channel
(`conn.OpenChannel`, `newChannel.Accept`), the entry in the tunnel table, two `io.Copy` loops,
and when both have returned `stopFn` and `Manager.Close`.  The exits before the TCP connection
exists open no tunnel and are left out.

An `io.Copy` reads from its source and writes what it read.  It returns when the source ends
or fails and when the write fails; otherwise the next chunk is moved, or the loop blocks.
A round is one step: a chunk that has been read and waits to be written counts as not read.
`SshChannel.read` goes on after the server has closed the channel, until the client answers:
only the close of the TCP connection ends reads at once.

The loop over `chans` ends when the SSH connection is down, and what `handleConnection` then
closes belongs to the SSH side.  A loop that reads from a silent TCP peer is not woken, and its
tunnel stays in the table (`silent_peer_keeps_tunnel`).  `no_tunnel_left` says exactly when
none is left.
-/
import SentinelOps.Forwarding.Manager

namespace SentinelOps.Transport

open Theory Schedule Forwarding
open GoText (GoString str)
open GoTime (Time)

set_option autoImplicit false

/-! ## The two ends of a tunnel -/

/-- What a read or a write does: move a chunk, end (end of file or an error), or block. -/
inductive Outcome where
  | moves
  | ends
  | blocks
  deriving DecidableEq

/-- One round of `io.Copy`. -/
def copyRound (read write : Outcome) : Outcome :=
  match read with
  | .moves => write
  | .ends => .ends
  | .blocks => .blocks

/-- The TCP end: chunks that have arrived, chunks a write takes before it blocks, whether the
peer has ended its direction, whether the connection is closed by the server or reset. -/
structure TcpConn where
  arrived : ℕ := 0
  room : ℕ := 0
  eof : Bool := false
  closed : Bool := false
  deriving DecidableEq

namespace TcpConn

def read (c : TcpConn) : Outcome :=
  if c.closed then .ends else if 0 < c.arrived then .moves else if c.eof then .ends else .blocks

def write (c : TcpConn) : Outcome :=
  if c.closed then .ends else if 0 < c.room then .moves else .blocks

def close (c : TcpConn) : TcpConn := { c with closed := true }

end TcpConn

/-- The SSH end; `closed` says that either side has closed the channel, `eof` that the client
sends no more. -/
structure SshChannel where
  arrived : ℕ := 0
  room : ℕ := 0
  eof : Bool := false
  closed : Bool := false
  deriving DecidableEq

namespace SshChannel

def read (c : SshChannel) (sshUp : Bool) : Outcome :=
  if 0 < c.arrived then .moves else if c.eof || !sshUp then .ends else .blocks

def write (c : SshChannel) (sshUp : Bool) : Outcome :=
  if c.closed || !sshUp then .ends else if 0 < c.room then .moves else .blocks

def close (c : SshChannel) : SshChannel := { c with closed := true }

end SshChannel

/-- What the TCP peer can do. -/
inductive PeerEvent where
  | sends
  | reads
  | ends
  | resets
  deriving DecidableEq

def TcpConn.after (c : TcpConn) : PeerEvent → TcpConn
  | .sends => if c.eof then c else { c with arrived := c.arrived + 1 }
  | .reads => { c with room := c.room + 1 }
  | .ends => { c with eof := true }
  | .resets => { c with closed := true }

theorem TcpConn.closed_after (c : TcpConn) (event : PeerEvent)
    (closed : c.closed = true) : (c.after event).closed = true := by
  cases event with
  | sends =>
      simp only [TcpConn.after]
      split
      · exact closed
      · exact closed
  | reads => exact closed
  | ends => exact closed
  | resets => rfl

/-- What the SSH client can do on a channel. -/
inductive ClientEvent where
  | sends
  | reads
  | ends
  | closes
  deriving DecidableEq

def SshChannel.after (c : SshChannel) : ClientEvent → SshChannel
  | .sends => if c.eof then c else { c with arrived := c.arrived + 1 }
  | .reads => { c with room := c.room + 1 }
  | .ends => { c with eof := true }
  | .closes => { c with eof := true, closed := true }

/-! ## The goroutines -/

/-- The two kinds of tunnels, with the texts their entries hold. -/
inductive Request where
  | forwarded (bind origin : GoString)
  | direct (target origin : GoString)
  deriving DecidableEq

/-- The entry of goroutine `g`; its `stopFn` has the number `g`. -/
def Request.call (sessionID username : GoString) (g : ℕ) : Request → OpenCall
  | .forwarded bind origin => .openRemote sessionID username bind origin (some g)
  | .direct target origin => .openLocal sessionID username target origin (some g)

theorem Request.call_run (request : Request) (sessionID username : GoString) (g : ℕ)
    (m : Manager) (now : Time) :
    ((request.call sessionID username g).run m now).1.sessionID = sessionID ∧
      ((request.call sessionID username g).run m now).1.stop = some g := by
  cases request with
  | forwarded => exact ⟨rfl, rfl⟩
  | direct => exact ⟨rfl, rfl⟩

/-- `copying` has a flag for each of `io.Copy(channel, conn)` and `io.Copy(conn, channel)`
that has not returned. -/
inductive TunnelPhase where
  | absent
  | connected (request : Request)
  | opened (request : Request)
  | copying (id : GoString) (up down : Bool)
  | stopped (id : GoString)
  | done
  deriving DecidableEq

/-- The `tunnelID` of the goroutine, from its entry to its `Close`. -/
def TunnelPhase.tunnelID : TunnelPhase → Option GoString
  | .copying id _ _ => some id
  | .stopped id => some id
  | .absent | .connected _ | .opened _ | .done => none

/-- `stopping` are the stop functions that some `Close` has taken out of the table and not run
yet; `returned` says that `handleConnection` has. -/
structure ConnState where
  manager : Manager
  phase : ℕ → TunnelPhase
  tcp : ℕ → TcpConn
  channel : ℕ → SshChannel
  stopping : List ℕ
  sshUp : Bool
  returned : Bool

inductive ConnStep where
  | connect (g : ℕ) (request : Request)
  | openChannel (g : ℕ) (accepted : Bool)
  | register (g : ℕ) (now : Time)
  | copyUp (g : ℕ)
  | copyDown (g : ℕ)
  | finish (g : ℕ)
  | close (g : ℕ)
  | peer (g : ℕ) (event : PeerEvent)
  | client (g : ℕ) (event : ClientEvent)
  | otherOpen (call : OpenCall) (now : Time)
  | otherClose (id : GoString)
  | runStop (g : ℕ)
  | disconnect
  | handlerReturn

namespace ConnState

def init : ConnState where
  manager := newManager
  phase _ := .absent
  tcp _ := {}
  channel _ := {}
  stopping := []
  sshUp := true
  returned := false

def goto (s : ConnState) (g : ℕ) (phase : TunnelPhase) : ConnState :=
  { s with phase := Function.update s.phase g phase }

/-- `stopFn` of goroutine `g`. -/
def stopFn (s : ConnState) (g : ℕ) : ConnState :=
  { s with
    channel := Function.update s.channel g (s.channel g).close
    tcp := Function.update s.tcp g (s.tcp g).close }

/-- The critical section of `Close`; what it took out of the table is stopped after it. -/
def takeOut (s : ConnState) (id : GoString) : ConnState :=
  { s with
    manager := (s.manager.remove id).2
    stopping := ((s.manager.remove id).1.bind (·.stop)).toList ++ s.stopping }

def step (sessionID username : GoString) (s : ConnState) : ConnStep → Option ConnState
  | .connect g request =>
      match s.phase g with
      | .absent => some ({ s with tcp := Function.update s.tcp g {} }.goto g (.connected request))
      | _ => none
  | .openChannel g accepted =>
      match s.phase g with
      | .connected request =>
          if accepted then
            if s.sshUp then
              some ({ s with channel := Function.update s.channel g {} }.goto g (.opened request))
            else none
          else
            some ({ s with tcp := Function.update s.tcp g (s.tcp g).close }.goto g .done)
      | _ => none
  | .register g now =>
      match s.phase g with
      | .opened request =>
          let (item, manager) := (request.call sessionID username g).run s.manager now
          some ({ s with manager }.goto g (.copying item.id true true))
      | _ => none
  | .copyUp g =>
      match s.phase g with
      | .copying id true down =>
          match copyRound (s.tcp g).read ((s.channel g).write s.sshUp) with
          | .moves =>
              some { s with
                tcp := Function.update s.tcp g
                  { s.tcp g with arrived := (s.tcp g).arrived - 1 }
                channel := Function.update s.channel g
                  { s.channel g with room := (s.channel g).room - 1 } }
          | .ends => some (s.goto g (.copying id false down))
          | .blocks => none
      | _ => none
  | .copyDown g =>
      match s.phase g with
      | .copying id up true =>
          match copyRound ((s.channel g).read s.sshUp) (s.tcp g).write with
          | .moves =>
              some { s with
                channel := Function.update s.channel g
                  { s.channel g with arrived := (s.channel g).arrived - 1 }
                tcp := Function.update s.tcp g { s.tcp g with room := (s.tcp g).room - 1 } }
          | .ends => some (s.goto g (.copying id up false))
          | .blocks => none
      | _ => none
  | .finish g =>
      match s.phase g with
      | .copying id false false => some ((s.stopFn g).goto g (.stopped id))
      | _ => none
  | .close g =>
      -- `tunnelID != ""` always holds here: an ID of the table starts with `tun-`.
      match s.phase g with
      | .stopped id => some ((s.takeOut id).goto g .done)
      | _ => none
  | .peer g event => some { s with tcp := Function.update s.tcp g ((s.tcp g).after event) }
  | .client g event =>
      if s.sshUp then
        some { s with channel := Function.update s.channel g ((s.channel g).after event) }
      else none
  | .otherOpen call now =>
      -- The other connections have their own session IDs, and stop functions that close
      -- nothing here.
      let (item, manager) := call.run s.manager now
      if item.sessionID ≠ sessionID ∧ item.stop = none then some { s with manager } else none
  | .otherClose id => some (s.takeOut id)
  | .runStop g =>
      if g ∈ s.stopping then some ({ s with stopping := s.stopping.erase g }.stopFn g) else none
  | .disconnect => some { s with sshUp := false }
  | .handlerReturn => if s.sshUp then none else some { s with returned := true }

/-- No goroutine of the connection can move any more, and no stop function is still to run:
every copy loop that can return has returned, and what follows it has run. -/
def Settled (sessionID username : GoString) (s : ConnState) : Prop :=
  ∀ g, s.step sessionID username (.openChannel g false) = none ∧
    (∀ now, s.step sessionID username (.register g now) = none) ∧
    s.step sessionID username (.copyUp g) = none ∧
    s.step sessionID username (.copyDown g) = none ∧
    s.step sessionID username (.finish g) = none ∧
    s.step sessionID username (.close g) = none ∧
    s.step sessionID username (.runStop g) = none

/-- A copy loop of `g` waits for the TCP peer: to send or end, or to take what the client
left behind. -/
def WaitsForPeer (s : ConnState) (g : ℕ) : Prop :=
  match s.phase g with
  | .copying _ up down =>
      up = true ∧ (s.tcp g).read = .blocks ∨
        down = true ∧ 0 < (s.channel g).arrived ∧ (s.tcp g).write = .blocks
  | _ => False

/-- An open finds the counter of the table below its last value. -/
def NoWrap (s : ConnState) : ConnStep → Prop
  | .register _ _ | .otherOpen _ _ => s.manager.seq.toNat + 1 < 2 ^ 64
  | _ => True

variable {sessionID username : GoString} {s s' : ConnState} {l : ConnStep}

/-! ## What a step does to the table -/

/-- The steps by what they do to the table, the pending stop functions and the `tunnelID`s. -/
inductive Effect (sessionID username : GoString) (s : ConnState) : ConnStep → ConnState → Prop
  | quiet {l : ConnStep} {s' : ConnState} (table : s'.manager = s.manager)
      (stopping : s'.stopping = s.stopping)
      (ids : ∀ g, (s'.phase g).tunnelID = (s.phase g).tunnelID)
      (closed : ∀ g id, (s.phase g).tunnelID = some id → (s.tcp g).closed = true →
        (s'.tcp g).closed = true)
      (down : (s.returned = true → s.sshUp = false) → s'.returned = true → s'.sshUp = false) :
      Effect sessionID username s l s'
  | register {g : ℕ} {now : Time} {request : Request} (at_ : s.phase g = .opened request) :
      Effect sessionID username s (.register g now)
        ({ s with manager := ((request.call sessionID username g).run s.manager now).2 }.goto g
          (.copying ((request.call sessionID username g).run s.manager now).1.id true true))
  | close {g : ℕ} {id : GoString} (at_ : s.phase g = .stopped id) :
      Effect sessionID username s (.close g) ((s.takeOut id).goto g .done)
  | otherOpen {call : OpenCall} {now : Time}
      (other : (call.run s.manager now).1.sessionID ≠ sessionID ∧
        (call.run s.manager now).1.stop = none) :
      Effect sessionID username s (.otherOpen call now)
        { s with manager := (call.run s.manager now).2 }
  | otherClose {id : GoString} : Effect sessionID username s (.otherClose id) (s.takeOut id)
  | runStop {g : ℕ} :
      Effect sessionID username s (.runStop g)
        ({ s with stopping := s.stopping.erase g }.stopFn g)

/-- A step that only touches the two ends of tunnels. -/
theorem Effect.ends {tcp : ℕ → TcpConn} {channel : ℕ → SshChannel}
    (closed : ∀ g, (s.tcp g).closed = true → (tcp g).closed = true) :
    Effect sessionID username s l { s with tcp, channel } :=
  .quiet rfl rfl (fun _ => rfl) (fun g _ _ => closed g) (fun down => down)

/-- A goroutine that goes on without a change of its `tunnelID`. -/
theorem Effect.goesOn {tcp : ℕ → TcpConn} {channel : ℕ → SshChannel} {g : ℕ} {phase : TunnelPhase}
    (at_ : (s.phase g).tunnelID = phase.tunnelID)
    (closed : ∀ g' id, (s.phase g').tunnelID = some id → (s.tcp g').closed = true →
      (tcp g').closed = true) :
    Effect sessionID username s l ({ s with tcp, channel }.goto g phase) := by
  refine .quiet rfl rfl (fun g' => ?_) closed (fun down => down)
  simp only [goto, Function.update_apply]
  split
  · rename_i here
    rw [here, at_]
  · rfl

/-- A TCP connection stays closed when its new state is. -/
theorem closed_update {tcp : ℕ → TcpConn} {g : ℕ} {c : TcpConn}
    (keeps : (tcp g).closed = true → c.closed = true) (g' : ℕ)
    (closed : (tcp g').closed = true) : (Function.update tcp g c g').closed = true := by
  rw [Function.update_apply]
  split
  · rename_i here
    exact keeps (here ▸ closed)
  · exact closed

theorem effect_of_step (moved : s.step sessionID username l = some s') :
    Effect sessionID username s l s' := by
  cases l with
  | connect g request =>
      simp only [step] at moved
      split at moved
      · rename_i at_
        cases moved
        refine .goesOn (by rw [at_]; rfl) fun g' id running closed => ?_
        -- The connection is new, and its goroutine has no entry yet.
        have another : g' ≠ g := by
          rintro rfl
          rw [at_] at running
          cases running
        rwa [Function.update_of_ne another]
      · cases moved
  | openChannel g accepted =>
      simp only [step] at moved
      split at moved
      · rename_i at_
        split at moved
        · split at moved
          · cases moved
            exact .goesOn (by rw [at_]; rfl) fun _ _ _ closed => closed
          · cases moved
        · cases moved
          exact .goesOn (by rw [at_]; rfl) fun g' _ _ => closed_update (fun _ => rfl) g'
      · cases moved
  | register g now =>
      simp only [step] at moved
      split at moved
      · cases moved
        exact .register ‹_›
      · cases moved
  | copyUp g =>
      simp only [step] at moved
      split at moved
      · rename_i at_
        split at moved
        · cases moved
          refine .ends (closed_update fun closed => ?_)
          exact closed
        · cases moved
          exact .goesOn (by rw [at_]; rfl) fun _ _ _ closed => closed
        · cases moved
      · cases moved
  | copyDown g =>
      simp only [step] at moved
      split at moved
      · rename_i at_
        split at moved
        · cases moved
          refine .ends (closed_update fun closed => ?_)
          exact closed
        · cases moved
          exact .goesOn (by rw [at_]; rfl) fun _ _ _ closed => closed
        · cases moved
      · cases moved
  | finish g =>
      simp only [step] at moved
      split at moved
      · rename_i at_
        cases moved
        exact .goesOn (by rw [at_]; rfl) fun g' _ _ => closed_update (fun _ => rfl) g'
      · cases moved
  | close g =>
      simp only [step] at moved
      split at moved
      · cases moved
        exact .close ‹_›
      · cases moved
  | peer g event =>
      cases moved
      exact .ends (closed_update (TcpConn.closed_after _ event))
  | client g event =>
      simp only [step] at moved
      split at moved
      · cases moved
        exact .ends fun _ closed => closed
      · cases moved
  | otherOpen call now =>
      simp only [step] at moved
      split at moved
      · cases moved
        exact .otherOpen ‹_›
      · cases moved
  | otherClose id =>
      cases moved
      exact .otherClose
  | runStop g =>
      simp only [step] at moved
      split at moved
      · cases moved
        exact .runStop
      · cases moved
  | disconnect =>
      cases moved
      exact .quiet rfl rfl (fun _ => rfl) (fun _ _ _ closed => closed) (fun _ _ => rfl)
  | handlerReturn =>
      simp only [step] at moved
      split at moved
      · cases moved
      · rename_i notUp
        cases moved
        exact .quiet rfl rfl (fun _ => rfl) (fun _ _ _ closed => closed)
          (fun _ _ => by simpa using notUp)

theorem takeOut_get {id id' : GoString} {item : ManagedTunnel}
    (found : (s.takeOut id).manager.tunnels.get id' = some item) :
    id' ≠ id ∧ s.manager.tunnels.get id' = some item := by
  simp only [takeOut, (s.manager.remove_spec id).2.2] at found
  split at found
  · cases found
  · exact ⟨‹_›, found⟩

/-! ## Every entry has its goroutine -/

/-- An entry of this session belongs to a goroutine that has not closed it yet. -/
structure Owned (sessionID : GoString) (s : ConnState) : Prop where
  owner : ∀ id item, s.manager.tunnels.get id = some item →
    item.sessionID = sessionID ∧ (∃ g, item.stop = some g ∧ (s.phase g).tunnelID = some id) ∨
      item.sessionID ≠ sessionID ∧ item.stop = none
  down : s.returned = true → s.sshUp = false

theorem owned_init (sessionID : GoString) : Owned sessionID init :=
  ⟨fun id item found => by simp [init, newManager] at found, nofun⟩

/-- The `Close` at the end of a goroutine takes its own entry out, so it can go. -/
theorem Owned.close (owned : Owned sessionID s) {g : ℕ} {id : GoString}
    (at_ : s.phase g = .stopped id) : Owned sessionID ((s.takeOut id).goto g .done) := by
  refine ⟨fun id' item found => ?_, owned.down⟩
  obtain ⟨other, found⟩ : id' ≠ id ∧ s.manager.tunnels.get id' = some item := takeOut_get found
  rcases owned.owner id' item found with ⟨mine, g', stop, running⟩ | others
  · have another : g' ≠ g := by
      rintro rfl
      rw [at_] at running
      exact other (Option.some.inj running).symm
    refine .inl ⟨mine, g', stop, ?_⟩
    simpa only [goto, takeOut, Function.update_of_ne another] using running
  · exact .inr others

theorem Owned.register (owned : Owned sessionID s) {g : ℕ} {request : Request} (now : Time)
    (at_ : s.phase g = .opened request) :
    Owned sessionID
      ({ s with manager := ((request.call sessionID username g).run s.manager now).2 }.goto g
        (.copying ((request.call sessionID username g).run s.manager now).1.id true true)) := by
  obtain ⟨idEq, -, table⟩ := (request.call sessionID username g).run_spec s.manager now
  obtain ⟨mine, stop⟩ := request.call_run sessionID username g s.manager now
  refine ⟨fun id item found => ?_, owned.down⟩
  simp only [goto, table] at found
  split at found
  · rename_i here
    cases found
    refine .inl ⟨mine, g, stop, ?_⟩
    simp only [goto, Function.update_self, TunnelPhase.tunnelID, idEq, here]
  · rcases owned.owner id item found with ⟨mine', g', stop', running⟩ | others
    · have another : g' ≠ g := by
        rintro rfl
        rw [at_] at running
        cases running
      refine .inl ⟨mine', g', stop', ?_⟩
      simpa only [goto, Function.update_of_ne another] using running
    · exact .inr others

theorem Owned.step (owned : Owned sessionID s)
    (moved : s.step sessionID username l = some s') : Owned sessionID s' := by
  cases effect_of_step moved with
  | quiet table _ ids _ down =>
      refine ⟨fun id item found => ?_, down owned.down⟩
      rw [table] at found
      simpa only [ids] using owned.owner id item found
  | register at_ => exact owned.register _ at_
  | close at_ => exact owned.close at_
  | @otherOpen call now other =>
      refine ⟨fun id item found => ?_, owned.down⟩
      simp only [(call.run_spec s.manager now).2.2] at found
      split at found
      · cases found
        exact .inr other
      · exact owned.owner id item found
  | otherClose => exact ⟨fun id item found => owned.owner id item (takeOut_get found).2, owned.down⟩
  | runStop => exact ⟨owned.owner, owned.down⟩

/-! ## Every goroutine has its entry, or is being stopped -/

/-- A goroutine that has not closed its entry has it, or somebody else took it out and stops the
goroutine.  An ID that is issued twice would break this: the second entry replaces the first. -/
structure Kept (s : ConnState) : Prop where
  issued : ∀ g id, (s.phase g).tunnelID = some id →
    ∃ k ≤ s.manager.seq.toNat, id = Forwarding.tunnelID k
  entry : ∀ g id, (s.phase g).tunnelID = some id →
    (∃ item, s.manager.tunnels.get id = some item ∧ item.stop = some g) ∨ g ∈ s.stopping ∨
      (s.tcp g).closed = true

theorem kept_init : Kept init := ⟨fun _ _ => nofun, fun _ _ => nofun⟩

theorem Kept.takeOut (kept : Kept s) (id : GoString) : Kept (s.takeOut id) := by
  obtain ⟨taken, seq, table⟩ := s.manager.remove_spec id
  refine ⟨fun g id' running => ?_, fun g id' running => ?_⟩
  · obtain ⟨k, le, same⟩ := kept.issued g id' running
    exact ⟨k, by simpa only [ConnState.takeOut, seq] using le, same⟩
  · rcases kept.entry g id' running with ⟨item, found, stop⟩ | pending | closed
    · by_cases here : id' = id
      · subst here
        refine .inr (.inl (List.mem_append_left _ ?_))
        simp [taken, found, stop]
      · refine .inl ⟨item, ?_, stop⟩
        simpa only [ConnState.takeOut, table, if_neg here] using found
    · exact .inr (.inl (List.mem_append_right _ pending))
    · exact .inr (.inr closed)

/-- The entries so far survive an open with a fresh ID. -/
theorem Kept.open (kept : Kept s) (call : OpenCall) (now : Time)
    (room : s.manager.seq.toNat + 1 < 2 ^ 64) :
    Kept { s with manager := (call.run s.manager now).2 } := by
  have seq := call.run_seq_toNat s.manager now room
  refine ⟨fun g id running => ?_, fun g id running => ?_⟩
  · obtain ⟨k, le, same⟩ := kept.issued g id running
    exact ⟨k, by dsimp only; omega, same⟩
  · rcases kept.entry g id running with ⟨item, found, stop⟩ | stopped
    · obtain ⟨k, le, rfl⟩ := kept.issued g id running
      refine .inl ⟨item, ?_, stop⟩
      rw [← found]
      exact call.run_get_of_le s.manager now room le
    · exact .inr stopped

/-- A goroutine that gets an entry, or has given its own back. -/
theorem Kept.goto (kept : Kept s) (g : ℕ) (phase : TunnelPhase)
    (issued : ∀ id, phase.tunnelID = some id →
      ∃ k ≤ s.manager.seq.toNat, id = Forwarding.tunnelID k)
    (entry : ∀ id, phase.tunnelID = some id →
      ∃ item, s.manager.tunnels.get id = some item ∧ item.stop = some g) :
    Kept (s.goto g phase) := by
  refine ⟨fun g' id running => ?_, fun g' id running => ?_⟩
  · simp only [ConnState.goto, Function.update_apply] at running
    split at running
    · exact issued id running
    · exact kept.issued g' id running
  · simp only [ConnState.goto, Function.update_apply] at running
    split at running
    · rename_i here
      subst here
      exact .inl (entry id running)
    · exact kept.entry g' id running

theorem Kept.step (kept : Kept s) (room : NoWrap s l)
    (moved : s.step sessionID username l = some s') : Kept s' := by
  cases effect_of_step moved with
  | quiet table stopping ids closed _ =>
      refine ⟨fun g id running => ?_, fun g id running => ?_⟩
      · rw [ids] at running
        rw [table]
        exact kept.issued g id running
      · rw [ids] at running
        rw [table, stopping]
        exact (kept.entry g id running).imp_right (Or.imp_right (closed g id running))
  | @register g now request at_ =>
      obtain ⟨idEq, seq, table⟩ := (request.call sessionID username g).run_spec s.manager now
      obtain ⟨-, stop⟩ := request.call_run sessionID username g s.manager now
      refine (kept.open (request.call sessionID username g) now room).goto g _ ?_ ?_
      · rintro id ⟨⟩
        exact ⟨_, le_rfl, by rw [idEq, seq]⟩
      · rintro id ⟨⟩
        exact ⟨_, by rw [table, if_pos idEq], stop⟩
  | @close g id at_ => exact (kept.takeOut id).goto g .done (fun _ => nofun) (fun _ => nofun)
  | @otherOpen call now other => exact kept.open call now room
  | @otherClose id => exact kept.takeOut id
  | @runStop g =>
      refine ⟨kept.issued, fun g' id running => ?_⟩
      rcases kept.entry g' id running with found | pending | closed
      · exact .inl found
      · by_cases here : g' = g
        · subst here
          exact .inr (.inr (by simp [stopFn, TcpConn.close]))
        · exact .inr (.inl ((List.mem_erase_of_ne here).2 pending))
      · exact .inr (.inr (closed_update (fun _ => rfl) g' closed))

/-! ## What can still move once the connection is down -/

/-- A write to the channel of a dead connection fails, so the upward loop blocks only in its
read. -/
theorem copyRound_up {c : TcpConn} {ch : SshChannel}
    (blocks : copyRound c.read (ch.write false) = .blocks) : c.read = .blocks := by
  cases read : c.read with
  | moves => simp [read, copyRound, SshChannel.write] at blocks
  | ends => simp [read, copyRound] at blocks
  | blocks => rfl

/-- A read from the channel of a dead connection ends when the buffer is empty, so the downward
loop blocks only in its write. -/
theorem copyRound_down {c : TcpConn} {ch : SshChannel}
    (blocks : copyRound (ch.read false) c.write = .blocks) :
    0 < ch.arrived ∧ c.write = .blocks := by
  by_cases some_ : 0 < ch.arrived
  · simp only [SshChannel.read, if_pos some_, copyRound] at blocks
    exact ⟨some_, blocks⟩
  · simp [SshChannel.read, some_, copyRound] at blocks

/-- A goroutine that has its entry in a settled state waits for its TCP peer. -/
theorem Settled.waits (settled : Settled sessionID username s) (notUp : s.sshUp = false) {g : ℕ}
    {id : GoString} (running : (s.phase g).tunnelID = some id) : s.WaitsForPeer g := by
  obtain ⟨-, -, noUp, noDown, noFinish, noClose, -⟩ := settled g
  cases at_ : s.phase g with
  | absent | connected | opened | done =>
      rw [at_] at running
      cases running
  | stopped => simp [step, at_] at noClose
  | copying id' up down =>
      simp only [WaitsForPeer, at_]
      cases up with
      | true =>
          simp only [step, at_, notUp] at noUp
          split at noUp
          · cases noUp
          · cases noUp
          · exact .inl ⟨rfl, copyRound_up ‹_›⟩
      | false =>
          cases down with
          | false => simp [step, at_] at noFinish
          | true =>
              simp only [step, at_, notUp] at noDown
              split at noDown
              · cases noDown
              · cases noDown
              · exact .inr ⟨rfl, copyRound_down ‹_›⟩

/-- A closed TCP connection keeps nobody waiting. -/
theorem WaitsForPeer.open_ {g : ℕ} (waits : s.WaitsForPeer g) :
    (∃ id, (s.phase g).tunnelID = some id) ∧ (s.tcp g).closed = false := by
  simp only [WaitsForPeer] at waits
  split at waits
  · rename_i id up down at_
    refine ⟨⟨id, by rw [at_]; rfl⟩, ?_⟩
    cases closed : (s.tcp g).closed with
    | false => rfl
    | true => simp [TcpConn.read, TcpConn.write, closed] at waits
  · exact waits.elim

/-- No tunnel of the session is in the table. -/
def NoTunnel (sessionID : GoString) (s : ConnState) : Prop :=
  ∀ id t, s.manager.get id = some t → t.sessionID ≠ sessionID

theorem Owned.noTunnel (owned : Owned sessionID s) (returned : s.returned = true)
    (settled : Settled sessionID username s) (awake : ∀ g, ¬ s.WaitsForPeer g) :
    s.NoTunnel sessionID := by
  intro id t found mine
  obtain ⟨item, filed, rfl⟩ := Manager.get_eq_some_iff.1 found
  rcases owned.owner id item filed with ⟨-, g, -, running⟩ | ⟨others, -⟩
  · exact awake g (settled.waits (owned.down returned) running)
  · exact others mine

theorem Kept.awake (kept : Kept s) (owned : Owned sessionID s)
    (settled : Settled sessionID username s) (gone : s.NoTunnel sessionID) (g : ℕ) :
    ¬ s.WaitsForPeer g := by
  intro waits
  obtain ⟨⟨id, running⟩, notClosed⟩ := waits.open_
  rcases kept.entry g id running with ⟨item, found, stop⟩ | pending | closed
  · rcases owned.owner id item found with ⟨mine, -⟩ | ⟨-, noStop⟩
    · exact gone id item.toTunnel (Manager.get_eq_some_iff.2 ⟨item, found, rfl⟩) mine
    · rw [noStop] at stop
      cases stop
  · obtain ⟨-, -, -, -, -, -, noStop⟩ := settled g
    simp [ConnState.step, pending] at noStop
  · rw [notClosed] at closed
    cases closed

end ConnState

/-- **When a connection leaves no tunnel behind.**  Once `handleConnection` has returned and
nothing of the connection can move, the table holds no tunnel of the session if no copy loop
waits for its TCP peer; and, as long as the IDs do not wrap, only then. -/
theorem no_tunnel_left (sessionID username : GoString) (steps : List ConnStep) (s : ConnState)
    (ran : exec (ConnState.step sessionID username) .init steps = some s)
    (returned : s.returned = true) (settled : s.Settled sessionID username) :
    ((∀ g, ¬ s.WaitsForPeer g) → s.NoTunnel sessionID) ∧
      (Along (ConnState.step sessionID username) ConnState.NoWrap .init steps →
        s.NoTunnel sessionID → ∀ g, ¬ s.WaitsForPeer g) := by
  have owned : s.Owned sessionID :=
    exec_invariant (fun _ _ _ owned moved => owned.step moved) (ConnState.owned_init sessionID) ran
  refine ⟨owned.noTunnel returned settled, fun room gone => ?_⟩
  have kept : s.Kept :=
    exec_invariant_along (fun _ _ _ kept held moved => kept.step held moved) ConnState.kept_init
      room ran
  exact kept.awake owned settled gone

/-- A tunnel to a database, up to its copy loops. -/
def toDatabase : List ConnStep :=
  [.connect 0 (.direct (str "db:5432") (str "10.0.0.9:4000")), .openChannel 0 true, .register 0 0]

/-- The peer closes, the client goes away, and the goroutine runs to its end. -/
def peerEnds : List ConnStep :=
  toDatabase ++ [.peer 0 .ends, .disconnect, .handlerReturn, .copyUp 0, .copyDown 0, .finish 0,
    .close 0, .runStop 0]

theorem no_tunnel_left_peerEnds :
    ∃ s, exec (ConnState.step (str "s1") (str "ana")) .init peerEnds = some s ∧
      (∀ g, ¬ s.WaitsForPeer g) ∧ s.NoTunnel (str "s1") := by
  have idle : ∀ g : ℕ, g ≠ 0 → ∀ s,
      exec (ConnState.step (str "s1") (str "ana")) .init peerEnds = some s →
      s.phase g = .absent := by
    rintro g other s ⟨⟩
    simp [ConnState.goto, ConnState.takeOut, ConnState.stopFn, ConnState.init, other]
  obtain ⟨s, ran, returned, zero, noStop⟩ :
      ∃ s, exec (ConnState.step (str "s1") (str "ana")) .init peerEnds = some s ∧
        s.returned = true ∧ s.phase 0 = .done ∧ s.stopping = [] := ⟨_, rfl, rfl, rfl, rfl⟩
  have phases : ∀ g, s.phase g = .done ∨ s.phase g = .absent := by
    intro g
    by_cases first : g = 0
    · exact .inl (first ▸ zero)
    · exact .inr (idle g first s ran)
  have awake : ∀ g, ¬ s.WaitsForPeer g := by
    intro g
    rcases phases g with here | here <;> simp [ConnState.WaitsForPeer, here]
  refine ⟨s, ran, awake,
    (no_tunnel_left (str "s1") (str "ana") peerEnds s ran returned fun g => ?_).1 awake⟩
  rcases phases g with here | here <;> simp [ConnState.step, here, noStop]

/-- The client goes away while the peer is silent: the loop that reads the channel returns, and
nothing else can. -/
def silentPeer : List ConnStep :=
  toDatabase ++ [.disconnect, .handlerReturn, .copyDown 0]

theorem silent_peer_keeps_tunnel :
    ∃ s, exec (ConnState.step (str "s1") (str "ana")) .init silentPeer = some s ∧
      s.returned = true ∧ s.Settled (str "s1") (str "ana") ∧ ¬ s.NoTunnel (str "s1") := by
  refine ⟨_, rfl, rfl, fun g => ?_, fun gone => ?_⟩
  · by_cases first : g = 0
    · subst first
      exact ⟨rfl, fun _ => rfl, rfl, rfl, rfl, rfl, rfl⟩
    · simp [ConnState.step, ConnState.goto, ConnState.init, first]
  · exact gone (tunnelID 1) _ rfl rfl

end SentinelOps.Transport
