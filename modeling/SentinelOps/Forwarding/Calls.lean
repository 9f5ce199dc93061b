/-
# Forwarding.Calls — concurrent calls on the tunnel table, with the hooks of `run`

`open` publishes the tunnel under the lock and then, outside it, runs `OnOpen`; `Close`
takes the tunnel out under the lock and then runs its stop function and `OnClose`.  The hooks
are those `cmd/server/main.go` installs: move the gauge of the tunnel's direction, take a
`Snapshot`, hand it to `SaveTunnels`.  Each of these is one step, and any number of
goroutines take their steps in any order.

`Close` is called by three kinds of client: the control API, the `tunnels` command, and the
goroutine of a tunnel whose copy loops have ended.  Each is a `Script` over `Controller`.
The last kind also calls the stop function itself, just before its `Close`; that call is not
the manager's, and the log has only the runs of the stop function that `Close` makes.

The log and the numbers of the snapshots are not in the program.  A save is one step, and
the file at the path holds the items of the last snapshot saved.  The counter of tunnel
events that the hooks also move is left out.
-/
import SentinelOps.Commands.Tunnels
import SentinelOps.Theory.Jobs

namespace SentinelOps.Forwarding

open Theory Schedule
open GoText (GoString str)
open GoTime (Time)
open Commands (Runtime execute)

set_option autoImplicit false

/-! ## The clients -/

/-- The JSON object and the status of an API answer. -/
structure ApiReply where
  status : ℕ
  error : Option GoString := none
  id : Option GoString := none
  cerrado : Option Bool := none
  versionApi : Option GoString := none
  marcaTiempo : Option Time := none
  tunel : Option Tunnel := none

/-- `closeTunnelByID` of the control API; `tuneles` says that the API has a controller. -/
def closeTunnelByID (tuneles : Bool) (now : Time) (id : GoString) :
    Script Controller Controller.Answer ApiReply :=
  if !tuneles then .ret { status := 503, error := some (str "reenvio_no_disponible") }
  else
    .ask (.get id) fun
      | none => .ret { status := 404, error := some (str "tunel_no_encontrado"), id := some id }
      | some tunel =>
          .ask (.close id) fun cerrado =>
            .ret { status := 200, cerrado := some cerrado, id := some id,
                   versionApi := some (str "v1"), marcaTiempo := some now, tunel := some tunel }

inductive Client where
  | command (rt : Runtime) (clock : ℕ → Time) (args : List GoString)
  | api (tuneles : Bool) (now : Time) (id : GoString)
  | copyEnd (id : GoString)

inductive Reply where
  | text (text : GoString)
  | json (reply : ApiReply)
  | none

abbrev ClientScript := Script Controller Controller.Answer Reply

def Client.script : Client → ClientScript
  | .command rt clock args => (execute rt clock args).map .text
  | .api tuneles now id => (closeTunnelByID tuneles now id).map .json
  | .copyEnd id => .ask (.close id) fun _ => .ret .none

/-! ## The system -/

/-- Where an `open` stands: `OnOpen` is still to run, has moved the gauge, or also has its
snapshot. -/
inductive OpenStage where
  | published
  | observed
  | snapped (stamp : ℕ) (items : List Tunnel)

/-- Where a `Close` that found its tunnel stands. -/
inductive CloseStage where
  | removed
  | stopped
  | observed
  | snapped (stamp : ℕ) (items : List Tunnel)

inductive Phase where
  | idle
  | opening (item : ManagedTunnel) (stage : OpenStage)
  | running (client : Client) (script : ClientScript)
  | closing (client : Client) (item : ManagedTunnel) (next : Bool → ClientScript)
      (stage : CloseStage)

inductive Event where
  | opened (i : ℕ) (item : ManagedTunnel)
  | onOpen (i : ℕ) (t : Tunnel)
  | openReturned (i : ℕ) (t : Tunnel)
  | removed (i : ℕ) (item : ManagedTunnel)
  | stop (i : ℕ) (t : Tunnel) (f : ℕ)
  | onClose (i : ℕ) (t : Tunnel)
  | closeReturned (i : ℕ) (id : GoString) (ok : Bool)
  deriving DecidableEq

structure CallState where
  manager : Manager
  phase : ℕ → Phase
  gauge : Direction → Int
  file : List Tunnel
  taken : ℕ
  fileStamp : ℕ
  log : List Event

/-- `move i order` is the next step of goroutine `i`; the order is used if it ranges over the
map. -/
inductive CallStep where
  | openTunnel (i : ℕ) (call : OpenCall) (now : Time)
  | start (i : ℕ) (client : Client)
  | move (i : ℕ) (order : List (GoString × ManagedTunnel))

def CallStep.goroutine : CallStep → ℕ
  | .openTunnel i _ _ => i
  | .start i _ => i
  | .move i _ => i

/-- The calls that range over the map. -/
def Controller.ranges : Controller → Bool
  | .snapshot => true
  | .snapshotByUsername _ => true
  | _ => false

namespace CallState

/-- `run` saves the empty table before any server starts. -/
def init : CallState where
  manager := newManager
  phase _ := .idle
  gauge _ := 0
  file := []
  taken := 0
  fileStamp := 0
  log := []

/-- Goroutine `i` goes on to `phase` and the log gets `es`. -/
def goto (s : CallState) (i : ℕ) (phase : Phase) (es : List Event) : CallState :=
  { s with phase := Function.update s.phase i phase, log := s.log ++ es }

/-- `activeTunnels.WithLabelValues(direction)` by `delta`. -/
def moveGauge (s : CallState) (direction : Direction) (delta : Int) : CallState :=
  { s with gauge := Function.update s.gauge direction (s.gauge direction + delta) }

def setManager (s : CallState) (manager : Manager) : CallState := { s with manager }

/-- Number a snapshot. -/
def take (s : CallState) : CallState := { s with taken := s.taken + 1 }

/-- `SaveTunnels`. -/
def save (s : CallState) (stamp : ℕ) (items : List Tunnel) : CallState :=
  { s with file := items, fileStamp := stamp }

/-- The next step of an `open` after the critical section. -/
def moveOpen (s : CallState) (i : ℕ) (order : List (GoString × ManagedTunnel))
    (item : ManagedTunnel) : OpenStage → Option CallState
  | .published =>
      some ((s.moveGauge item.direction 1).goto i (.opening item .observed)
        [.onOpen i item.toTunnel])
  | .observed =>
      if s.manager.tunnels.Iterates order then
        some (s.take.goto i (.opening item (.snapped (s.taken + 1) (Manager.snapshot order))) [])
      else none
  | .snapped stamp items =>
      some ((s.save stamp items).goto i .idle [.openReturned i item.toTunnel])

/-- A client's next call: the critical section of `Close`, or a method that only reads. -/
def ask (s : CallState) (i : ℕ) (order : List (GoString × ManagedTunnel)) (client : Client) :
    (q : Controller) → (q.Answer → ClientScript) → Option CallState
  | .close id, next =>
      match (s.manager.remove id).1 with
      | none => some (s.goto i (.running client (next false)) [.closeReturned i id false])
      | some item =>
          some ((s.setManager (s.manager.remove id).2).goto i (.closing client item next .removed)
            [.removed i item])
  | q, next =>
      if q.ranges = true → s.manager.tunnels.Iterates order then
        some (s.goto i (.running client (next (s.manager.answer order q).1)) [])
      else none

/-- The next step of a `Close` that found its tunnel; a nil stop function is not run. -/
def moveClose (s : CallState) (i : ℕ) (order : List (GoString × ManagedTunnel)) (client : Client)
    (item : ManagedTunnel) (next : Bool → ClientScript) : CloseStage → Option CallState
  | .removed =>
      some (s.goto i (.closing client item next .stopped)
        (item.stop.toList.map (.stop i item.toTunnel)))
  | .stopped =>
      some ((s.moveGauge item.direction (-1)).goto i (.closing client item next .observed)
        [.onClose i item.toTunnel])
  | .observed =>
      if s.manager.tunnels.Iterates order then
        some (s.take.goto i
          (.closing client item next (.snapped (s.taken + 1) (Manager.snapshot order))) [])
      else none
  | .snapped stamp items =>
      some ((s.save stamp items).goto i (.running client (next true))
        [.closeReturned i item.id true])

def step (s : CallState) : CallStep → Option CallState
  | .openTunnel i call now =>
      match s.phase i with
      | .idle =>
          let (item, manager) := call.run s.manager now
          some ((s.setManager manager).goto i (.opening item .published) [.opened i item])
      | _ => none
  | .start i client =>
      match s.phase i with
      | .idle => some (s.goto i (.running client client.script) [])
      | _ => none
  | .move i order =>
      match s.phase i with
      | .idle => none
      | .opening item stage => s.moveOpen i order item stage
      | .running _ (.ret _) => some (s.goto i .idle [])
      | .running client (.ask q next) => s.ask i order client q next
      | .closing client item next stage => s.moveClose i order client item next stage

theorem goto_phase (s : CallState) (i j : ℕ) (phase : Phase) (es : List Event) :
    (s.goto i phase es).phase j = if j = i then phase else s.phase j := by
  simp only [goto, Function.update_apply]

theorem step_openTunnel {s : CallState} {i : ℕ} (at_ : s.phase i = .idle) (call : OpenCall)
    (now : Time) :
    s.step (.openTunnel i call now) =
      some ((s.setManager (call.run s.manager now).2).goto i
        (.opening (call.run s.manager now).1 .published)
        [.opened i (call.run s.manager now).1]) := by
  simp only [step, at_]

theorem step_close {s : CallState} {i : ℕ} {client : Client} {id : GoString}
    {next : Bool → ClientScript} {item : ManagedTunnel}
    (at_ : s.phase i = .running client (.ask (.close id) next))
    (found : s.manager.tunnels.get id = some item) (order : List (GoString × ManagedTunnel)) :
    s.step (.move i order) =
      some ((s.setManager (s.manager.remove id).2).goto i (.closing client item next .removed)
        [.removed i item]) := by
  simp only [step, at_, ask]
  rw [(s.manager.remove_spec id).1, found]

/-- What a step can do, guards included. -/
inductive Move (s : CallState) : CallStep → CallState → Prop where
  | openTunnel {i : ℕ} {call : OpenCall} {now : Time} (at_ : s.phase i = .idle) :
      Move s (.openTunnel i call now)
        ((s.setManager (call.run s.manager now).2).goto i
          (.opening (call.run s.manager now).1 .published) [.opened i (call.run s.manager now).1])
  | start {i : ℕ} {client : Client} (at_ : s.phase i = .idle) :
      Move s (.start i client) (s.goto i (.running client client.script) [])
  | onOpen {i : ℕ} {order} {item : ManagedTunnel} (at_ : s.phase i = .opening item .published) :
      Move s (.move i order)
        ((s.moveGauge item.direction 1).goto i (.opening item .observed)
          [.onOpen i item.toTunnel])
  | openSnapshot {i : ℕ} {order} {item : ManagedTunnel} (at_ : s.phase i = .opening item .observed)
      (iterates : s.manager.tunnels.Iterates order) :
      Move s (.move i order)
        (s.take.goto i (.opening item (.snapped (s.taken + 1) (Manager.snapshot order))) [])
  | openReturn {i : ℕ} {order} {item : ManagedTunnel} {stamp : ℕ} {items : List Tunnel}
      (at_ : s.phase i = .opening item (.snapped stamp items)) :
      Move s (.move i order)
        ((s.save stamp items).goto i .idle [.openReturned i item.toTunnel])
  | finish {i : ℕ} {order} {client : Client} {reply : Reply}
      (at_ : s.phase i = .running client (.ret reply)) :
      Move s (.move i order) (s.goto i .idle [])
  | read {i : ℕ} {order} {client : Client} {q : Controller} {next : q.Answer → ClientScript}
      (at_ : s.phase i = .running client (.ask q next)) (reads : ∀ id, q ≠ .close id) :
      Move s (.move i order)
        (s.goto i (.running client (next (s.manager.answer order q).1)) [])
  | miss {i : ℕ} {order} {client : Client} {id : GoString} {next : Bool → ClientScript}
      (at_ : s.phase i = .running client (.ask (.close id) next))
      (absent : s.manager.tunnels.get id = none) :
      Move s (.move i order)
        (s.goto i (.running client (next false)) [.closeReturned i id false])
  | remove {i : ℕ} {order} {client : Client} {id : GoString} {next : Bool → ClientScript}
      {item : ManagedTunnel} (at_ : s.phase i = .running client (.ask (.close id) next))
      (found : s.manager.tunnels.get id = some item) :
      Move s (.move i order)
        ((s.setManager (s.manager.remove id).2).goto i (.closing client item next .removed)
          [.removed i item])
  | stop {i : ℕ} {order} {client : Client} {item : ManagedTunnel} {next : Bool → ClientScript}
      (at_ : s.phase i = .closing client item next .removed) :
      Move s (.move i order)
        (s.goto i (.closing client item next .stopped)
          (item.stop.toList.map (.stop i item.toTunnel)))
  | onClose {i : ℕ} {order} {client : Client} {item : ManagedTunnel} {next : Bool → ClientScript}
      (at_ : s.phase i = .closing client item next .stopped) :
      Move s (.move i order)
        ((s.moveGauge item.direction (-1)).goto i (.closing client item next .observed)
          [.onClose i item.toTunnel])
  | closeSnapshot {i : ℕ} {order} {client : Client} {item : ManagedTunnel}
      {next : Bool → ClientScript} (at_ : s.phase i = .closing client item next .observed)
      (iterates : s.manager.tunnels.Iterates order) :
      Move s (.move i order)
        (s.take.goto i
          (.closing client item next (.snapped (s.taken + 1) (Manager.snapshot order))) [])
  | closeReturn {i : ℕ} {order} {client : Client} {item : ManagedTunnel}
      {next : Bool → ClientScript} {stamp : ℕ} {items : List Tunnel}
      (at_ : s.phase i = .closing client item next (.snapped stamp items)) :
      Move s (.move i order)
        ((s.save stamp items).goto i (.running client (next true))
          [.closeReturned i item.id true])

theorem move_of_moveOpen {s s' : CallState} {i : ℕ} {order : List (GoString × ManagedTunnel)}
    {item : ManagedTunnel} {stage : OpenStage} (at_ : s.phase i = .opening item stage)
    (moved : s.moveOpen i order item stage = some s') : Move s (.move i order) s' := by
  cases stage with
  | published =>
      cases moved
      exact .onOpen at_
  | observed =>
      simp only [moveOpen] at moved
      split at moved
      · cases moved
        exact .openSnapshot at_ ‹_›
      · cases moved
  | snapped stamp items =>
      cases moved
      exact .openReturn at_

theorem move_of_moveClose {s s' : CallState} {i : ℕ} {order : List (GoString × ManagedTunnel)}
    {client : Client} {item : ManagedTunnel} {next : Bool → ClientScript} {stage : CloseStage}
    (at_ : s.phase i = .closing client item next stage)
    (moved : s.moveClose i order client item next stage = some s') : Move s (.move i order) s' := by
  cases stage with
  | removed =>
      cases moved
      exact .stop at_
  | stopped =>
      cases moved
      exact .onClose at_
  | observed =>
      simp only [moveClose] at moved
      split at moved
      · cases moved
        exact .closeSnapshot at_ ‹_›
      · cases moved
  | snapped stamp items =>
      cases moved
      exact .closeReturn at_

theorem move_of_ask {s s' : CallState} {i : ℕ} {order : List (GoString × ManagedTunnel)}
    {client : Client} {q : Controller} {next : q.Answer → ClientScript}
    (at_ : s.phase i = .running client (.ask q next))
    (moved : s.ask i order client q next = some s') : Move s (.move i order) s' := by
  by_cases closes : ∃ id, q = .close id
  · obtain ⟨id, rfl⟩ := closes
    simp only [ask] at moved
    split at moved
    · rename_i absent
      cases moved
      rw [(s.manager.remove_spec id).1] at absent
      exact .miss at_ absent
    · rename_i item found
      cases moved
      rw [(s.manager.remove_spec id).1] at found
      exact .remove at_ found
  · have reads : ∀ id, q ≠ .close id := fun id same => closes ⟨id, same⟩
    have answered : s' = s.goto i (.running client (next (s.manager.answer order q).1)) [] := by
      cases q with
      | close id => exact absurd rfl (reads id)
      | snapshot | snapshotByUsername | get | count =>
          simp only [ask] at moved
          split at moved
          · cases moved
            rfl
          · cases moved
    rw [answered]
    exact .read at_ reads

theorem move_of_step {s s' : CallState} {l : CallStep} (moved : s.step l = some s') :
    Move s l s' := by
  cases l with
  | openTunnel i call now =>
      simp only [step] at moved
      split at moved
      · cases moved
        exact .openTunnel ‹_›
      · cases moved
  | start i client =>
      simp only [step] at moved
      split at moved
      · cases moved
        exact .start ‹_›
      · cases moved
  | move i order =>
      simp only [step] at moved
      split at moved
      · cases moved
      · exact move_of_moveOpen ‹_› moved
      · cases moved
        exact .finish ‹_›
      · exact move_of_ask ‹_› moved
      · exact move_of_moveClose ‹_› moved

/-- Only the goroutine of a step moves. -/
theorem phase_of_step {s s' : CallState} {l : CallStep} (moved : s.step l = some s') {j : ℕ}
    (other : l.goroutine ≠ j) : s'.phase j = s.phase j := by
  cases move_of_step moved <;> exact Function.update_of_ne (Ne.symm other) _ _

theorem phase_of_run {s s' : CallState} {steps : List CallStep}
    (ran : exec CallState.step s steps = some s') {j : ℕ}
    (others : ∀ l ∈ steps, l.goroutine ≠ j) : s'.phase j = s.phase j := by
  induction steps generalizing s with
  | nil =>
      cases ran
      rfl
  | cons l ls ih =>
      obtain ⟨s₁, moved, rest⟩ := exec_cons_eq_some.1 ran
      rw [ih rest fun l' member => others l' (List.mem_cons_of_mem _ member),
        phase_of_step moved (others l List.mem_cons_self)]

end CallState

end SentinelOps.Forwarding
