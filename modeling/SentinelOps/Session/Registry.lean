/-
# Session.Registry — the live sessions and the file that lists them

`internal/session/registry.go` with the `onChange` hook that `run` installs.  `Add` and
`Remove` change the map under the lock, release it, and then `notify`: take a `Snapshot` and
hand it to `SaveSessions`.  A save is one step here: the file at the path holds the last
snapshot written.  `run` writes the empty registry before any server starts.

The map holds pointers, so the goroutine that owns a session changes its fields (never its
ID) without going through the registry; `update` is such a write.

Copies are numbered as they are taken.  The numbers are not in the program: they say in
which order two snapshots saw the registry (`RegistryState.InOrder`).
-/
import SentinelOps.Theory.GoMap
import SentinelOps.Theory.GoTime
import SentinelOps.Theory.WriteBack

namespace SentinelOps.Session

open Theory Schedule
open GoText (GoString)
open GoTime (Time)

set_option autoImplicit false
set_option linter.dupNamespace false

structure Session where
  id : GoString
  remoteAddr : GoString := []
  transport : GoString := []
  authn : GoString := []
  connectedAt : Time
  authenticatedAt : Time := 0
  username : GoString := []
  role : GoString := []
  commandCount : Int := 0
  deriving DecidableEq

/-- `session.Snapshot` copies every field. -/
abbrev Snapshot := Session

/-- The sessions by ID. -/
structure Registry where
  sessions : GoMap GoString Session
  keyed : ∀ id sess, sessions.get id = some sess → sess.id = id

def newRegistry : Registry where
  sessions := ∅
  keyed id sess found := by simp at found

namespace Registry

/-- `r.sessions[sess.ID] = sess`. -/
def put (r : Registry) (sess : Session) : Registry where
  sessions := r.sessions.set sess.id sess
  keyed := by
    intro id sess' found
    rw [GoMap.get_set] at found
    split at found
    · cases found
      exact Eq.symm ‹_›
    · exact r.keyed id sess' found

/-- The critical section of `Remove`. -/
def remove (r : Registry) (id : GoString) : Registry where
  sessions := r.sessions.delete id
  keyed := by
    intro id' sess' found
    rw [GoMap.get_delete] at found
    split at found
    · cases found
    · exact r.keyed id' sess' found

/-- `Snapshot`, when the map is iterated in the given order. -/
def snapshot (order : List (GoString × Session)) : List Snapshot :=
  (order.map Prod.snd).insertionSort fun a b => a.connectedAt ≤ b.connectedAt

/-- The IDs of the live sessions. -/
def ids (r : Registry) : Set GoString := {id | ∃ sess, r.sessions.get id = some sess}

end Registry

/-- The IDs a snapshot lists. -/
def listed (items : List Snapshot) : Set GoString := {id | ∃ sess ∈ items, sess.id = id}

theorem listed_snapshot {r : Registry} {order : List (GoString × Session)}
    (iterates : r.sessions.Iterates order) : listed (Registry.snapshot order) = r.ids := by
  ext id
  simp only [listed, Registry.ids, Registry.snapshot, Set.mem_ofPred_eq, List.mem_insertionSort,
    List.mem_map, Prod.exists, exists_eq_right, iterates.mem_iff]
  constructor
  · rintro ⟨sess, ⟨id', found⟩, rfl⟩
    exact ⟨sess, r.keyed id' sess found ▸ found⟩
  · rintro ⟨sess, found⟩
    exact ⟨sess, ⟨id, found⟩, r.keyed id sess found⟩

theorem ids_put_of_mem {r : Registry} {sess old : Session}
    (live : r.sessions.get sess.id = some old) : (r.put sess).ids = r.ids := by
  ext id
  simp only [Registry.ids, Registry.put, GoMap.get_set, Set.mem_ofPred_eq]
  split
  · rename_i same
    subst same
    simp [live]
  · rfl

/-! ## Concurrent calls -/

/-- A call after its critical section: it changed the map, or it also took its snapshot. -/
inductive NotifyPhase where
  | idle
  | changed
  | snapped (stamp : ℕ) (items : List Snapshot)
  deriving DecidableEq

structure RegistryState where
  registry : Registry
  phase : ℕ → NotifyPhase
  file : List Snapshot
  taken : ℕ
  fileStamp : ℕ

inductive RegistryStep where
  | add (i : ℕ) (sess : Option Session)
  | remove (i : ℕ) (id : GoString)
  | update (sess : Session)
  | snapshot (i : ℕ) (order : List (GoString × Session))
  | save (i : ℕ)

namespace RegistryState

def init : RegistryState where
  registry := newRegistry
  phase _ := .idle
  file := []
  taken := 0
  fileStamp := 0

/-- `i` made its change and is about to `notify`. -/
def change (s : RegistryState) (i : ℕ) (registry : Registry) : RegistryState :=
  { s with registry, phase := Function.update s.phase i .changed }

def step (s : RegistryState) : RegistryStep → Option RegistryState
  | .add i sess =>
      if s.phase i = .idle then
        match sess with
        | none => some s
        | some sess => some (s.change i (s.registry.put sess))
      else none
  | .remove i id =>
      if s.phase i = .idle then some (s.change i (s.registry.remove id)) else none
  | .update sess =>
      match s.registry.sessions.get sess.id with
      | none => none
      | some _ => some { s with registry := s.registry.put sess }
  | .snapshot i order =>
      if s.phase i = .changed ∧ s.registry.sessions.Iterates order then
        some { s with
          taken := s.taken + 1
          phase := Function.update s.phase i (.snapped (s.taken + 1) (Registry.snapshot order)) }
      else none
  | .save i =>
      match s.phase i with
      | .snapped stamp items =>
          some { s with
            file := items, fileStamp := stamp, phase := Function.update s.phase i .idle }
      | _ => none

/-- A save does not replace a snapshot taken later. -/
def InOrder (s : RegistryState) : RegistryStep → Prop
  | .save i => ∀ stamp items, s.phase i = .snapped stamp items → s.fileStamp < stamp
  | _ => True

/-! ## The registry as a write-back protocol -/

/-- The protocol sees the IDs. -/
def phaseView : NotifyPhase → WriteBack.Phase (Set GoString)
  | .idle => .idle
  | .changed => .dirty
  | .snapped stamp items => .held stamp (listed items)

def view (s : RegistryState) : WriteBack.State (Set GoString) where
  value := s.registry.ids
  file := listed s.file
  taken := s.taken
  fileStamp := s.fileStamp
  phase := phaseView ∘ s.phase

theorem view_init : view init = WriteBack.State.init newRegistry.ids := by
  have empty : newRegistry.ids = listed [] := by
    simp [Registry.ids, newRegistry, listed]
  simp only [view, init, WriteBack.State.init, empty]
  rfl

theorem view_change {s : RegistryState} {i : ℕ} (idle : s.phase i = .idle) (registry : Registry) :
    (view s).step (.change i registry.ids) = some (view (s.change i registry)) := by
  have idle' : (view s).phase i = .idle := by simp [view, phaseView, idle]
  rw [WriteBack.State.step_change idle']
  simp only [view, change, Function.comp_update, phaseView]

/-- Every step of the registry is a step of the protocol, or nothing to it. -/
theorem view_step (s : RegistryState) (l : RegistryStep) (s' : RegistryState)
    (ordered : InOrder s l) (moved : s.step l = some s') : view s' = view s ∨
      ∃ l', (view s).InOrder l' ∧ (view s).step l' = some (view s') := by
  cases l with
  | add i sess =>
      simp only [step] at moved
      split at moved
      · rename_i idle
        cases sess with
        | none =>
            cases moved
            exact .inl rfl
        | some sess =>
            cases moved
            exact .inr ⟨.change i (s.registry.put sess).ids, trivial, view_change idle _⟩
      · cases moved
  | remove i id =>
      simp only [step] at moved
      split at moved
      · rename_i idle
        cases moved
        exact .inr ⟨.change i (s.registry.remove id).ids, trivial, view_change idle _⟩
      · cases moved
  | update sess =>
      simp only [step] at moved
      split at moved
      · cases moved
      · rename_i old live
        cases moved
        refine .inl ?_
        simp only [view, ids_put_of_mem live]
  | snapshot i order =>
      simp only [step] at moved
      split at moved
      · rename_i ready
        cases moved
        have dirty : (view s).phase i = .dirty := by simp [view, phaseView, ready.1]
        refine .inr ⟨.take i, trivial, ?_⟩
        rw [WriteBack.State.step_take dirty]
        simp only [view, Function.comp_update, phaseView, listed_snapshot ready.2]
      · cases moved
  | save i =>
      simp only [step] at moved
      split at moved
      · rename_i stamp items at_
        cases moved
        have held : (view s).phase i = .held stamp (listed items) := by
          simp [view, phaseView, at_]
        refine .inr ⟨.write i, ?_, ?_⟩
        · intro stamp' copy same
          cases held.symm.trans same
          exact ordered stamp items at_
        · rw [WriteBack.State.step_write held]
          simp only [view, Function.comp_update, phaseView]
      · cases moved

/-- Once every call has returned, the file lists the live sessions. -/
theorem settled_sessions {steps : List RegistryStep} {s : RegistryState}
    (ran : exec RegistryState.step init steps = some s)
    (ordered : Along RegistryState.step InOrder init steps) (returned : ∀ i, s.phase i = .idle) :
    listed s.file = s.registry.ids := by
  refine WriteBack.State.settled_view view view_step view_init ordered ran fun i => ?_
  simp [view, phaseView, returned i]

end RegistryState

end SentinelOps.Session
