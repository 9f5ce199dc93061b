/-
# Commands.OwnTunnels — a `tunnels close` command removes only the user's own tunnel

The command checks the owner on the tunnel `Get` returned and then calls `Close` with the ID.
In between other goroutines may close that tunnel and open others, so the check protects
the owner only because an ID is never issued again.

The check is a rule about the script alone (`execute_guarded`): it asks to close an ID only if
a tunnel it was shown under that ID may be closed by the session.  What it was shown was
issued (`Careful`), and issued IDs are distinct, so the tunnel removed is the tunnel checked.

The counter that makes the IDs is a `uint64`.  After 2⁶⁴ opens it issues the same IDs again,
and then a command removes the tunnel of another user (`reused_id_closes_others_tunnel`).
-/
import Mathlib.Order.CompletePartialOrder
import SentinelOps.Forwarding.History

namespace SentinelOps.Commands

open Theory GoText Schedule Forwarding
open GoTime (Time)

set_option autoImplicit false

/-! ## The rule the command follows -/

/-- What a client may ask for, in a world of issued tunnels: a command closes an ID only
under a tunnel its session may close. -/
def MayAsk : Client → Set Tunnel → Controller → Prop
  | .command rt _ _, world, .close id =>
      ∃ t ∈ world, t.id = id ∧ canCloseTunnel rt.session.role rt.session.username t.username = true
  | _, _, _ => True

/-- `Get` shows an issued tunnel with the ID it was asked for. -/
def Shown (world : Set Tunnel) : (q : Controller) → q.Answer → Prop
  | .get id, found => ∀ t, found = some t → t ∈ world ∧ t.id = id
  | _, _ => True

theorem mayAsk_stable (client : Client) (world world' : Set Tunnel) (q : Controller)
    (grown : world ≤ world') (may : MayAsk client world q) : MayAsk client world' q := by
  cases client with
  | command rt clock args =>
      cases q with
      | close id =>
          obtain ⟨t, member, named, allowed⟩ := may
          exact ⟨t, grown member, named, allowed⟩
      | snapshot | snapshotByUsername | get | count => trivial
  | api | copyEnd => trivial

theorem execute_guarded (rt : Runtime) (clock : ℕ → Time) (args : List GoString)
    (world : Set Tunnel) :
    (execute rt clock args).Guarded (MayAsk (.command rt clock args)) Shown world := by
  have listing : ∀ q, (∀ id, q ≠ .close id) → ∀ next : q.Answer → GoString,
      (Script.ask q fun a => .ret (next a)).Guarded (MayAsk (.command rt clock args)) Shown
        world := by
    intro q reads next
    refine ⟨?_, fun _ _ _ _ => trivial⟩
    cases q with
    | close id => exact absurd rfl (reads id)
    | snapshot | snapshotByUsername | get | count => trivial
  have all := listing .snapshot (fun _ => nofun) (renderTunnels clock)
  have mine := listing (.snapshotByUsername rt.session.username) (fun _ => nofun)
    (renderTunnels clock)
  unfold execute
  split
  · trivial
  · split
    · split
      · exact all
      · exact mine
    · rename_i arg rest
      split
      · exact mine
      · split
        · split
          · trivial
          · exact all
        · split
          · cases rest with
            | nil => trivial
            | cons arg₁ rest =>
                refine ⟨trivial, fun world' _ found shown => ?_⟩
                cases found with
                | none => trivial
                | some t =>
                    obtain ⟨member, named⟩ := shown t rfl
                    dsimp only
                    split
                    · trivial
                    · rename_i permitted
                      refine ⟨⟨t, member, named, by simpa using permitted⟩, ?_⟩
                      intro _ _ closed _
                      dsimp only
                      split <;> trivial
          · trivial

theorem script_guarded (client : Client) (world : Set Tunnel) :
    client.script.Guarded (MayAsk client) Shown world := by
  cases client with
  | command rt clock args => exact (execute_guarded rt clock args world).map _
  | api tuneles now id => exact Script.guarded_of_forall _ (fun _ _ => trivial) _
  | copyEnd id => exact Script.guarded_of_forall _ (fun _ _ => trivial) _

/-! ## Runs -/

/-- The tunnels issued so far. -/
def issuedWorld (log : List Event) : Set Tunnel := {t | ∃ item ∈ issued log, item.toTunnel = t}

theorem issuedWorld_append (log es : List Event) : issuedWorld log ≤ issuedWorld (log ++ es) := by
  rintro t ⟨item, member, same⟩
  exact ⟨item, issued_append log es ▸ List.mem_append_left _ member, same⟩

/-- What remains of a goroutine's script follows the rule. -/
def Phase.Follows (world : Set Tunnel) : Phase → Prop
  | .running client script => script.Guarded (MayAsk client) Shown world
  | .closing client _ next _ => ∀ ok, (next ok).Guarded (MayAsk client) Shown world
  | _ => True

structure Careful (s : CallState) : Prop where
  consistent : Consistent s.manager s.phase s.log
  follows : ∀ i, Phase.Follows (issuedWorld s.log) (s.phase i)

theorem Phase.Follows.later {world world' : Set Tunnel} {phase : Phase}
    (follows : Phase.Follows world phase) (grown : world ≤ world') :
    Phase.Follows world' phase := by
  cases phase with
  | running client script => exact Script.Guarded.later (mayAsk_stable client) follows grown
  | closing client item next stage =>
      exact fun ok => Script.Guarded.later (mayAsk_stable client) (follows ok) grown
  | idle | opening => trivial

theorem careful_init : Careful CallState.init := ⟨consistent_init, fun _ => trivial⟩

/-- What the manager answers is what `Shown` says. -/
theorem shown_answer {s : CallState} (c : Consistent s.manager s.phase s.log)
    (order : List (GoString × ManagedTunnel)) (q : Controller) :
    Shown (issuedWorld s.log) q (s.manager.answer order q).1 := by
  cases q with
  | get id =>
      intro t found
      obtain ⟨item, filed, rfl⟩ := Manager.get_eq_some_iff.1 found
      obtain ⟨member, named, -⟩ := (c.table id item).1 filed
      exact ⟨⟨item, member, rfl⟩, named⟩
  | snapshot | snapshotByUsername | close | count => trivial

theorem Careful.follows_at {s : CallState} (careful : Careful s) {i : ℕ} {phase : Phase}
    (at_ : s.phase i = phase) : Phase.Follows (issuedWorld s.log) phase := at_ ▸ careful.follows i

theorem Careful.step {s s' : CallState} {l : CallStep} (careful : Careful s)
    (room : CallState.NoWrap s l) (moved : s.step l = some s') : Careful s' := by
  refine ⟨CallState.consistent_step careful.consistent room moved, ?_⟩
  -- One goroutine goes on to `p`; the others keep their rule as the world grows.
  have goesOn : ∀ (i : ℕ) (p : Phase) (es : List Event),
      s'.phase = Function.update s.phase i p → s'.log = s.log ++ es →
      Phase.Follows (issuedWorld s.log) p →
      ∀ j, Phase.Follows (issuedWorld s'.log) (s'.phase j) := by
    intro i p es phase log follows j
    have grown : issuedWorld s.log ≤ issuedWorld s'.log := log ▸ issuedWorld_append s.log es
    rw [phase, Function.update_apply]
    split
    · exact follows.later grown
    · exact (careful.follows j).later grown
  cases CallState.move_of_step moved with
  | openTunnel _ => exact goesOn _ _ _ rfl rfl trivial
  | start _ => exact goesOn _ _ _ rfl rfl (script_guarded _ _)
  | onOpen _ => exact goesOn _ _ _ rfl rfl trivial
  | openSnapshot _ _ => exact goesOn _ _ _ rfl rfl trivial
  | openReturn _ => exact goesOn _ _ _ rfl rfl trivial
  | finish _ => exact goesOn _ _ _ rfl rfl trivial
  | @read i order client q next at_ reads =>
      have follows := careful.follows_at at_
      exact goesOn _ _ _ rfl rfl
        (follows.2 _ le_rfl _ (shown_answer careful.consistent order q))
  | @miss i order client id next at_ absent =>
      have follows := careful.follows_at at_
      exact goesOn _ _ _ rfl rfl (follows.2 _ le_rfl false trivial)
  | @remove i order client id next item at_ found =>
      have follows := careful.follows_at at_
      exact goesOn _ _ _ rfl rfl fun ok => follows.2 _ le_rfl ok trivial
  | @stop i order client item next at_ =>
      have follows := careful.follows_at at_
      exact goesOn _ _ _ rfl rfl follows
  | @onClose i order client item next at_ =>
      have follows := careful.follows_at at_
      exact goesOn _ _ _ rfl rfl follows
  | @closeSnapshot i order client item next at_ iterates =>
      have follows := careful.follows_at at_
      exact goesOn _ _ _ rfl rfl follows
  | @closeReturn i order client item next stamp items at_ =>
      have follows := careful.follows_at at_
      exact goesOn _ _ _ rfl rfl (follows true)

theorem normalize_eq_of_canCloseTunnel {role requester owner : GoString}
    (plain : normalize role ≠ str "admin") (allowed : canCloseTunnel role requester owner = true) :
    normalize requester ≠ [] ∧ normalize requester = normalize owner := by
  simpa [canCloseTunnel, plain] using allowed

/-- **A command of a user who is no administrator removes only tunnels of that user**, in
every interleaving with fewer than 2⁶⁴ opens: whenever the next step of the command is a
`Close` that finds a tunnel (`item`), the tunnel is theirs. -/
theorem command_closes_own (steps : List CallStep) (s s' : CallState)
    (ran : exec CallState.step CallState.init steps = some s)
    (few : steps.countP CallStep.opens < 2 ^ 64) (i : ℕ)
    (order : List (GoString × ManagedTunnel)) (rt : Runtime) (clock : ℕ → Time)
    (args : List GoString) (script : ClientScript) (client : Client) (item : ManagedTunnel)
    (next : Bool → ClientScript) (stage : CloseStage)
    (here : s.phase i = .running (.command rt clock args) script)
    (moved : s.step (.move i order) = some s')
    (closing : s'.phase i = .closing client item next stage)
    (plain : normalize rt.session.role ≠ str "admin") :
    normalize rt.session.username ≠ [] ∧
      normalize rt.session.username = normalize item.username := by
  have start : CallState.init.manager.seq.toNat = 0 := rfl
  have careful : Careful s :=
    exec_invariant_along (fun _ _ _ c room moved => c.step room moved) careful_init
      (CallState.noWrap_of_count (by omega)) ran
  cases CallState.move_of_step moved with
  | @remove _ _ client' id next' item' at_ found =>
      rw [here] at at_
      cases at_
      have follows := careful.follows_at here
      obtain ⟨t, ⟨shown, member, rfl⟩, named, allowed⟩ := follows.1
      obtain ⟨issuedItem, filed, -⟩ := (careful.consistent.table id item').1 found
      -- The tunnel shown and the tunnel removed have one ID, so they are one tunnel.
      have same : shown = item' :=
        careful.consistent.eq_of_id member issuedItem (named.trans filed.symm)
      simp only [CallState.goto, Function.update_self] at closing
      cases closing
      subst same
      exact normalize_eq_of_canCloseTunnel plain allowed
  | finish at_ | read at_ | miss at_ =>
      simp only [CallState.goto, Function.update_self] at closing
      cases closing
  | onOpen at_ | openSnapshot at_ | openReturn at_ | stop at_ | onClose at_ | closeSnapshot at_
  | closeReturn at_ =>
      rw [here] at at_
      cases at_

/-- The student opens a tunnel and closes it by command. -/
def studentCall : OpenCall :=
  .openLocal (str "sess-000001") (str " Student") (str "127.0.0.1:80") (str "10.0.0.5:4000") none

def closeFirst : Client :=
  .command ⟨student, true⟩ (fun _ => 9) [str "close", str "tun-000001"]

def ownClose : List CallStep :=
  [.openTunnel 0 studentCall 5, .start 1 closeFirst, .move 1 []]

theorem command_closes_own_student :
    ∃ s s' client item next stage, exec CallState.step CallState.init ownClose = some s ∧
      s.step (.move 1 []) = some s' ∧ s'.phase 1 = .closing client item next stage ∧
      normalize student.username = normalize item.username := by
  refine ⟨_, _, _, _, _, _, rfl, rfl, rfl, ?_⟩
  exact (command_closes_own ownClose _ _ rfl (by decide) 1 [] ⟨student, true⟩ (fun _ => 9)
    [str "close", str "tun-000001"] _ _ _ _ _ rfl rfl rfl (by decide)).2

/-! ## The counter wraps -/

def teacherCall : OpenCall :=
  .openLocal (str "sess-000002") (str "teacher") (str "127.0.0.1:80") (str "10.0.0.9:4000") none

/-- `n` opens of somebody else's, by the goroutines from `k` on. -/
def opensFrom : ℕ → ℕ → List CallStep
  | _, 0 => []
  | k, n + 1 => .openTunnel k teacherCall 5 :: opensFrom (k + 1) n

/-- The opens can be made, they move the counter by `n`, and they leave the goroutines below
`k` where they are. -/
theorem exec_opensFrom (n : ℕ) {k : ℕ} {s : CallState} (idle : ∀ j, k ≤ j → s.phase j = .idle) :
    ∃ s', exec CallState.step s (opensFrom k n) = some s' ∧
      s'.manager.seq = s.manager.seq + UInt64.ofNat n ∧
      (∀ j, j < k → s'.phase j = s.phase j) ∧ ∀ j, k + n ≤ j → s'.phase j = .idle := by
  induction n generalizing k s with
  | zero => exact ⟨s, rfl, by simp, fun _ _ => rfl, idle⟩
  | succ n ih =>
      obtain ⟨s₁, moved, one⟩ : ∃ s₁, s.step (.openTunnel k teacherCall 5) = some s₁ ∧
          s₁.manager.seq = s.manager.seq + 1 :=
        ⟨_, CallState.step_openTunnel (idle k le_rfl) teacherCall 5,
          (teacherCall.run_spec s.manager 5).2.1⟩
      have phases : ∀ j, k ≠ j → s₁.phase j = s.phase j :=
        fun j other => CallState.phase_of_step moved other
      obtain ⟨s', ran, counted, below, beyond⟩ := ih (k := k + 1) (s := s₁)
        fun j above => (phases j (by omega)).trans (idle j (by omega))
      refine ⟨s', ?_, ?_, fun j short => ?_, fun j above => beyond j (by omega)⟩
      · rw [opensFrom, exec_cons, moved]
        exact ran
      · rw [counted, one, Nat.add_comm n 1, UInt64.ofNat_add, UInt64.add_assoc]
        rfl
      · rw [below j (by omega), phases j (by omega)]

/-- The student's command has checked the student's tunnel, and the API closes it. -/
def checkedThenClosed : List CallStep :=
  [.openTunnel 0 studentCall 5, .start 1 closeFirst, .move 1 [],
    .start 2 (.api true 9 (tunnelID 1)), .move 2 [], .move 2 []]

/-- All IDs are issued, and the first one once more. -/
def wrapAround : List CallStep :=
  checkedThenClosed ++ (opensFrom 3 (2 ^ 64 - 1) ++ [.openTunnel (2 ^ 64 + 2) teacherCall 5])

/-- After 2⁶⁴ + 1 opens the student's command removes the teacher's tunnel. -/
theorem reused_id_closes_others_tunnel :
    ∃ s s' script client item next, exec CallState.step CallState.init wrapAround = some s ∧
      s.phase 1 = .running closeFirst script ∧ s.step (.move 1 []) = some s' ∧
      s'.phase 1 = .closing client item next .removed ∧
      normalize student.role ≠ str "admin" ∧
      normalize student.username ≠ normalize item.username := by
  obtain ⟨s₁, ran₁, counted₁, next, here₁⟩ :
      ∃ s₁, exec CallState.step CallState.init checkedThenClosed = some s₁ ∧
        s₁.manager.seq = 1 ∧
        ∃ next, s₁.phase 1 = .running closeFirst (.ask (.close (tunnelID 1)) next) :=
    ⟨_, rfl, by decide, _, rfl⟩
  have idle₁ : ∀ j, 3 ≤ j → s₁.phase j = .idle := by
    intro j above
    refine CallState.phase_of_run ran₁ fun l member => ?_
    simp only [checkedThenClosed, List.mem_cons, List.not_mem_nil, or_false] at member
    rcases member with rfl | rfl | rfl | rfl | rfl | rfl <;>
      simp only [CallStep.goroutine] <;> omega
  obtain ⟨s₂, ran₂, counted₂, below₂, idle₂⟩ := exec_opensFrom (2 ^ 64 - 1) idle₁
  have zero : s₂.manager.seq = 0 := by
    rw [counted₂, counted₁]
    decide
  have here₂ : s₂.phase 1 = .running closeFirst (.ask (.close (tunnelID 1)) next) := by
    rw [below₂ 1 (by decide), here₁]
  -- The last open issues the first ID again.
  obtain ⟨-, -, filed⟩ := teacherCall.run_spec s₂.manager 5
  have found : (teacherCall.run s₂.manager 5).2.tunnels.get (tunnelID 1) =
      some (teacherCall.run s₂.manager 5).1 := by
    rw [filed, zero]
    exact if_pos (by decide)
  have moved := CallState.step_openTunnel (idle₂ (2 ^ 64 + 2) (by omega)) teacherCall 5
  obtain ⟨s₃, reached, here₃, table₃⟩ : ∃ s₃,
      s₂.step (.openTunnel (2 ^ 64 + 2) teacherCall 5) = some s₃ ∧
        s₃.phase 1 = .running closeFirst (.ask (.close (tunnelID 1)) next) ∧
        s₃.manager = (teacherCall.run s₂.manager 5).2 := by
    refine ⟨_, moved, ?_, rfl⟩
    exact (CallState.phase_of_step moved (by decide)).trans here₂
  rw [← table₃] at found
  refine ⟨s₃, _, _, closeFirst, (teacherCall.run s₂.manager 5).1, next, ?_, here₃,
    CallState.step_close here₃ found [], ?_, by decide, ?_⟩
  · rw [wrapAround, exec_append, ran₁, Option.bind_some, exec_append, ran₂, Option.bind_some,
      exec_cons, reached]
    rfl
  · rw [CallState.goto_phase, if_pos rfl]
  · show normalize student.username ≠ normalize (str "teacher")
    decide

end SentinelOps.Commands
