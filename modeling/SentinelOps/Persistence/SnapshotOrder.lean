/-
# Persistence.SnapshotOrder — what the two snapshot files hold when all calls have returned

The session registry and the tunnel manager save alike: change the map, release the lock,
take a snapshot, write it.  Both are the protocol of `Theory.WriteBack` (`Session.Registry`
has the first view, this module the second).

The lock orders the changes but not the writes.  Two calls that take their snapshots in one
order and write them in the other leave the older snapshot in the file, and nobody
corrects it (`stale_snapshot_survives`).  `settled_snapshots` says that the files are right
whenever no write replaces a snapshot taken later.
-/
import SentinelOps.Forwarding.Calls

namespace SentinelOps.Persistence

open Theory Schedule Forwarding
open GoText (GoString str)
open Session (Session RegistryState RegistryStep)

set_option autoImplicit false

/-- The IDs of the tunnels in the table, and those a snapshot lists. -/
def tunnelIDs (m : Manager) : Set GoString := {id | ∃ item, m.tunnels.get id = some item}

def listedTunnels (items : List Tunnel) : Set GoString := {id | ∃ t ∈ items, t.id = id}

theorem listedTunnels_snapshot {m : Manager} {order : List (GoString × ManagedTunnel)}
    (iterates : m.tunnels.Iterates order) :
    listedTunnels (Manager.snapshot order) = tunnelIDs m := by
  ext id
  simp only [listedTunnels, tunnelIDs, Set.mem_ofPred_eq, Manager.mem_snapshot iterates]
  constructor
  · rintro ⟨t, found, rfl⟩
    obtain ⟨item, filed, -⟩ := Manager.get_eq_some_iff.1 found
    exact ⟨item, filed⟩
  · rintro ⟨item, filed⟩
    have named : item.id = id := m.keyed id item filed
    exact ⟨item.toTunnel, Manager.get_eq_some_iff.2 ⟨item, named.symm ▸ filed, rfl⟩, named⟩

/-- The snapshot a call holds and has yet to save. -/
def heldCopy : Phase → Option (ℕ × List Tunnel)
  | .opening _ (.snapped stamp items) => some (stamp, items)
  | .closing _ _ _ (.snapped stamp items) => some (stamp, items)
  | _ => none

/-- The goroutine is inside an `open` or a `Close` that found its tunnel. -/
def inCall : Phase → Bool
  | .opening _ _ => true
  | .closing _ _ _ _ => true
  | _ => false

/-- A save does not replace a snapshot taken later. -/
def SavesInOrder (s : CallState) : CallStep → Prop
  | .move i _ => ∀ stamp items, heldCopy (s.phase i) = some (stamp, items) → s.fileStamp < stamp
  | _ => True

/-! ## The manager as a write-back protocol -/

def phaseView (phase : Phase) : WriteBack.Phase (Set GoString) :=
  match heldCopy phase with
  | some (stamp, items) => .held stamp (listedTunnels items)
  | none => if inCall phase then .dirty else .idle

def view (s : CallState) : WriteBack.State (Set GoString) where
  value := tunnelIDs s.manager
  file := listedTunnels s.file
  taken := s.taken
  fileStamp := s.fileStamp
  phase := phaseView ∘ s.phase

theorem view_init : view CallState.init = WriteBack.State.init (tunnelIDs newManager) := by
  have empty : tunnelIDs newManager = listedTunnels [] := by
    simp [tunnelIDs, newManager, listedTunnels]
  simp only [view, CallState.init, WriteBack.State.init, empty]
  rfl

/-- The protocol does not see a goroutine move within one of its phases. -/
theorem update_phaseView {s : CallState} {i : ℕ} {p : Phase}
    (same : phaseView p = phaseView (s.phase i)) :
    phaseView ∘ Function.update s.phase i p = phaseView ∘ s.phase := by
  rw [Function.comp_update, same]
  exact Function.update_eq_self i (phaseView ∘ s.phase)

/-! A step shows the protocol one of four things: nothing, a change to the table, a snapshot, or
its save. -/

section Shapes

variable {s s' : CallState} {i : ℕ} {p : Phase}

theorem view_unseen (phase : s'.phase = Function.update s.phase i p)
    (same : phaseView p = phaseView (s.phase i)) (manager : s'.manager = s.manager)
    (file : s'.file = s.file) (taken : s'.taken = s.taken)
    (fileStamp : s'.fileStamp = s.fileStamp) : view s' = view s := by
  simp only [view, phase, update_phaseView same, manager, file, taken, fileStamp]

theorem view_changes (phase : s'.phase = Function.update s.phase i p)
    (idle : phaseView (s.phase i) = .idle) (dirty : phaseView p = .dirty)
    (file : s'.file = s.file) (taken : s'.taken = s.taken)
    (fileStamp : s'.fileStamp = s.fileStamp) :
    ∃ l', (view s).InOrder l' ∧ (view s).step l' = some (view s') := by
  refine ⟨.change i (tunnelIDs s'.manager), trivial, ?_⟩
  rw [WriteBack.State.step_change idle]
  simp only [view, phase, Function.comp_update, dirty, file, taken, fileStamp]

theorem view_takes {order : List (GoString × ManagedTunnel)}
    (phase : s'.phase = Function.update s.phase i p) (dirty : phaseView (s.phase i) = .dirty)
    (held : phaseView p = .held (s.taken + 1) (listedTunnels (Manager.snapshot order)))
    (iterates : s.manager.tunnels.Iterates order) (manager : s'.manager = s.manager)
    (file : s'.file = s.file) (taken : s'.taken = s.taken + 1)
    (fileStamp : s'.fileStamp = s.fileStamp) :
    ∃ l', (view s).InOrder l' ∧ (view s).step l' = some (view s') := by
  refine ⟨.take i, trivial, ?_⟩
  rw [WriteBack.State.step_take dirty]
  simp only [view, phase, Function.comp_update, held, listedTunnels_snapshot iterates, manager,
    file, taken, fileStamp]

theorem view_saves {stamp : ℕ} {items : List Tunnel}
    (phase : s'.phase = Function.update s.phase i p)
    (copy : heldCopy (s.phase i) = some (stamp, items)) (idle : phaseView p = .idle)
    (newer : s.fileStamp < stamp) (manager : s'.manager = s.manager) (file : s'.file = items)
    (taken : s'.taken = s.taken) (fileStamp : s'.fileStamp = stamp) :
    ∃ l', (view s).InOrder l' ∧ (view s).step l' = some (view s') := by
  have held : (view s).phase i = .held stamp (listedTunnels items) := by
    simp only [view, Function.comp_apply, phaseView, copy]
  refine ⟨.write i, ?_, ?_⟩
  · intro stamp' items' same
    cases held.symm.trans same
    exact newer
  · rw [WriteBack.State.step_write held]
    simp only [view, phase, Function.comp_update, idle, manager, file, taken, fileStamp]

end Shapes

theorem view_step (s : CallState) (l : CallStep) (s' : CallState) (ordered : SavesInOrder s l)
    (moved : s.step l = some s') : view s' = view s ∨
      ∃ l', (view s).InOrder l' ∧ (view s).step l' = some (view s') := by
  cases CallState.move_of_step moved with
  | openTunnel at_ => exact .inr (view_changes rfl (by rw [at_]; rfl) rfl rfl rfl rfl)
  | start at_ => exact .inl (view_unseen rfl (by rw [at_]; rfl) rfl rfl rfl rfl)
  | onOpen at_ => exact .inl (view_unseen rfl (by rw [at_]; rfl) rfl rfl rfl rfl)
  | openSnapshot at_ iterates =>
      exact .inr (view_takes rfl (by rw [at_]; rfl) rfl iterates rfl rfl rfl rfl)
  | openReturn at_ =>
      have copy := congrArg heldCopy at_
      exact .inr (view_saves rfl copy rfl (ordered _ _ copy) rfl rfl rfl rfl)
  | finish at_ => exact .inl (view_unseen rfl (by rw [at_]; rfl) rfl rfl rfl rfl)
  | read at_ _ => exact .inl (view_unseen rfl (by rw [at_]; rfl) rfl rfl rfl rfl)
  | miss at_ _ => exact .inl (view_unseen rfl (by rw [at_]; rfl) rfl rfl rfl rfl)
  | remove at_ _ => exact .inr (view_changes rfl (by rw [at_]; rfl) rfl rfl rfl rfl)
  | stop at_ => exact .inl (view_unseen rfl (by rw [at_]; rfl) rfl rfl rfl rfl)
  | onClose at_ => exact .inl (view_unseen rfl (by rw [at_]; rfl) rfl rfl rfl rfl)
  | closeSnapshot at_ iterates =>
      exact .inr (view_takes rfl (by rw [at_]; rfl) rfl iterates rfl rfl rfl rfl)
  | closeReturn at_ =>
      have copy := congrArg heldCopy at_
      exact .inr (view_saves rfl copy rfl (ordered _ _ copy) rfl rfl rfl rfl)

/-- Once every call has returned, the file lists the tunnels of the table. -/
theorem settled_tunnels {steps : List CallStep} {s : CallState}
    (ran : exec CallState.step CallState.init steps = some s)
    (ordered : Along CallState.step SavesInOrder CallState.init steps)
    (returned : ∀ i, inCall (s.phase i) = false) : listedTunnels s.file = tunnelIDs s.manager := by
  refine WriteBack.State.settled_view view view_step view_init ordered ran fun i => ?_
  have outside := returned i
  show phaseView (s.phase i) = .idle
  cases phase : s.phase i with
  | idle | running => rfl
  | opening | closing =>
      rw [phase] at outside
      cases outside

/-! ## Both files -/

/-- **Once every call has returned, each file lists what its map holds**, in every run in
which no save replaces a snapshot taken later. -/
theorem settled_snapshots (sessionSteps : List RegistryStep) (r : RegistryState)
    (tunnelSteps : List CallStep) (c : CallState) :
    (exec RegistryState.step RegistryState.init sessionSteps = some r →
      Along RegistryState.step RegistryState.InOrder RegistryState.init sessionSteps →
      (∀ i, r.phase i = .idle) → Session.listed r.file = r.registry.ids) ∧
    (exec CallState.step CallState.init tunnelSteps = some c →
      Along CallState.step SavesInOrder CallState.init tunnelSteps →
      (∀ i, inCall (c.phase i) = false) → listedTunnels c.file = tunnelIDs c.manager) :=
  ⟨fun ran ordered returned => RegistryState.settled_sessions ran ordered returned,
    fun ran ordered returned => settled_tunnels ran ordered returned⟩

/-- Two sessions and two tunnels. -/
def firstSession : Session := { id := str "sess-000001", connectedAt := 1 }

def secondSession : Session := { id := str "sess-000002", connectedAt := 2 }

def plainCall : OpenCall :=
  .openLocal (str "sess-000001") (str "student") (str "127.0.0.1:80") (str "10.0.0.5:4000") none

def firstTunnel : ManagedTunnel × Manager := plainCall.run newManager 1

def secondTunnel : ManagedTunnel × Manager := plainCall.run firstTunnel.2 2

/-- One call after the other. -/
def savedSessions : List RegistryStep :=
  [.add 0 (some firstSession), .snapshot 0 [(firstSession.id, firstSession)], .save 0]

def savedTunnels : List CallStep :=
  [.openTunnel 0 plainCall 1, .move 0 [], .move 0 [(tunnelID 1, firstTunnel.1)], .move 0 []]

theorem settled_snapshots_saved :
    ∃ r c, exec RegistryState.step RegistryState.init savedSessions = some r ∧
      exec CallState.step CallState.init savedTunnels = some c ∧
      Session.listed r.file = r.registry.ids ∧ listedTunnels c.file = tunnelIDs c.manager := by
  obtain ⟨c, ran, zero⟩ : ∃ c, exec CallState.step CallState.init savedTunnels = some c ∧
      c.phase 0 = .idle := ⟨_, rfl, rfl⟩
  obtain ⟨sessions, tunnels⟩ := settled_snapshots savedSessions _ savedTunnels c
  refine ⟨_, c, rfl, ran, sessions rfl ?_ fun i => ?_, tunnels ran ?_ fun i => ?_⟩
  · refine along_cons_of_eq rfl trivial (along_cons_of_eq rfl trivial
      (along_cons_of_eq rfl ?_ trivial))
    rintro stamp items ⟨⟩
    decide
  · by_cases mine : i = 0
    · subst mine
      rfl
    · simp [mine, RegistryState.init, RegistryState.change]
  · refine along_cons_of_eq rfl trivial (along_cons_of_eq rfl ?_ (along_cons_of_eq rfl ?_
      (along_cons_of_eq rfl ?_ trivial)))
    · rintro stamp items ⟨⟩
    · rintro stamp items ⟨⟩
    · rintro stamp items ⟨⟩
      decide
  · have idle : c.phase i = .idle := by
      by_cases mine : i = 0
      · rw [mine, zero]
      · refine CallState.phase_of_run ran fun l member => ?_
        simp only [savedTunnels, List.mem_cons, List.not_mem_nil, or_false] at member
        rcases member with rfl | rfl | rfl | rfl <;> exact Ne.symm mine
    rw [idle]
    rfl

/-- Two calls each; the one that took its snapshot first saves last. -/
def staleSessions : List RegistryStep :=
  [.add 0 (some firstSession), .snapshot 0 [(firstSession.id, firstSession)],
    .add 1 (some secondSession),
    .snapshot 1 [(secondSession.id, secondSession), (firstSession.id, firstSession)],
    .save 1, .save 0]

def staleTunnels : List CallStep :=
  [.openTunnel 0 plainCall 1, .move 0 [], .move 0 [(tunnelID 1, firstTunnel.1)],
    .openTunnel 1 plainCall 2, .move 1 [],
    .move 1 [(tunnelID 2, secondTunnel.1), (tunnelID 1, firstTunnel.1)], .move 1 [], .move 0 []]

/-- All calls have returned, and each file lacks the entry that came second. -/
theorem stale_snapshot_survives :
    (∃ s, exec RegistryState.step RegistryState.init staleSessions = some s ∧
      (∀ i, s.phase i = .idle) ∧ s.file = [firstSession] ∧
      Session.listed s.file ≠ s.registry.ids) ∧
    (∃ s, exec CallState.step CallState.init staleTunnels = some s ∧
      (∀ i, s.phase i = .idle) ∧ s.file = [firstTunnel.1.toTunnel] ∧
      listedTunnels s.file ≠ tunnelIDs s.manager) := by
  constructor
  · refine ⟨_, rfl, fun i => ?_, rfl, fun same => ?_⟩
    · by_cases first : i = 0
      · subst first
        rfl
      · by_cases second : i = 1
        · subst second
          rfl
        · simp [first, second, RegistryState.init, RegistryState.change]
    · have held : secondSession.id ∈ Session.listed [firstSession] := by
        refine same.symm ▸ ?_
        exact ⟨secondSession, by decide⟩
      obtain ⟨sess, member, named⟩ := held
      cases List.mem_singleton.1 member
      exact absurd named (by decide)
  · obtain ⟨s, ran, zero, one, file, table⟩ :
        ∃ s, exec CallState.step CallState.init staleTunnels = some s ∧ s.phase 0 = .idle ∧
          s.phase 1 = .idle ∧ s.file = [firstTunnel.1.toTunnel] ∧
          s.manager.tunnels.get (tunnelID 2) = some secondTunnel.1 :=
      ⟨_, rfl, rfl, rfl, rfl, by decide⟩
    refine ⟨s, ran, fun i => ?_, file, fun same => ?_⟩
    · by_cases first : i = 0
      · rw [first, zero]
      · by_cases second : i = 1
        · rw [second, one]
        · refine CallState.phase_of_run ran fun l member => ?_
          simp only [staleTunnels, List.mem_cons, List.not_mem_nil, or_false] at member
          rcases member with rfl | rfl | rfl | rfl | rfl | rfl | rfl | rfl <;>
            simp only [CallStep.goroutine] <;> omega
    · have held : tunnelID 2 ∈ listedTunnels [firstTunnel.1.toTunnel] := by
        rw [← file, same]
        exact ⟨secondTunnel.1, table⟩
      obtain ⟨t, member, named⟩ := held
      cases List.mem_singleton.1 member
      exact absurd named (by decide)

end SentinelOps.Persistence
