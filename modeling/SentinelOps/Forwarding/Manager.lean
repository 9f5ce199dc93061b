/-
# Forwarding.Manager — the tunnel table of `internal/forwarding/manager.go`

The critical sections of `open` and `Close` (`openTunnel`, `remove`), and the methods that
only read.  The hooks run outside the lock, so they belong to the calls and not to the
table; `Forwarding.Calls` has them.

`seq` is a `uint64` and wraps.  `Snapshot` ranges over a map and sorts with `sort.Slice`,
which is not stable, so its result depends on an iteration order: `order` is that order, and
the results hold for every `order` that iterates the map (`GoMap.Iterates`).  Sorting is
stable here; every result Go can return is that of some order.

A stop function is named by a number.
-/
import SentinelOps.Theory.GoMap
import SentinelOps.Theory.GoTime
import SentinelOps.Theory.Script

namespace SentinelOps.Forwarding

open Theory
open GoText (GoString str zeroPadded zeroPadded_injective toLower trimSpace)
open GoTime (Time)

set_option autoImplicit false

/-- The two values of `Tunnel.Direction`, `"local"` and `"remote"`. -/
inductive Direction where
  | localDir
  | remoteDir
  deriving DecidableEq

def Direction.text : Direction → GoString
  | .localDir => str "local"
  | .remoteDir => str "remote"

structure Tunnel where
  id : GoString
  sessionID : GoString
  username : GoString
  direction : Direction
  target : GoString
  bind : GoString
  origin : GoString
  startedAt : Time
  deriving DecidableEq

structure ManagedTunnel extends Tunnel where
  stop : Option ℕ
  deriving DecidableEq

/-- `fmt.Sprintf("tun-%06d", seq)`. -/
def tunnelID (seq : ℕ) : GoString := str "tun-" ++ zeroPadded 6 seq

theorem tunnelID_injective : Function.Injective tunnelID := by
  intro n k same
  exact zeroPadded_injective 6 (List.append_cancel_left same)

/-- The table; every tunnel is filed under its own ID. -/
structure Manager where
  seq : UInt64
  tunnels : GoMap GoString ManagedTunnel
  keyed : ∀ id item, tunnels.get id = some item → item.id = id

def newManager : Manager where
  seq := 0
  tunnels := ∅
  keyed id item found := by simp at found

namespace Manager

variable (m : Manager)

/-- The critical section of `open`. -/
def openTunnel (direction : Direction) (sessionID username target bind origin : GoString)
    (stop : Option ℕ) (now : Time) : ManagedTunnel × Manager :=
  let seq := m.seq + 1
  let id := tunnelID seq.toNat
  let item : ManagedTunnel :=
    { id, sessionID, username, direction, target, bind, origin, startedAt := now, stop }
  (item,
    { seq, tunnels := m.tunnels.set id item
      keyed := by
        intro id' item' found
        rw [GoMap.get_set] at found
        split at found
        · cases found
          exact Eq.symm ‹_›
        · exact m.keyed id' item' found })

def openLocal (sessionID username target origin : GoString) (stop : Option ℕ) (now : Time) :
    ManagedTunnel × Manager :=
  m.openTunnel .localDir sessionID username target [] origin stop now

def openRemote (sessionID username bind origin : GoString) (stop : Option ℕ) (now : Time) :
    ManagedTunnel × Manager :=
  m.openTunnel .remoteDir sessionID username [] bind origin stop now

/-- The critical section of `Close`: the tunnel it took out of the table. -/
def remove (id : GoString) : Option ManagedTunnel × Manager :=
  match m.tunnels.get id with
  | none => (none, m)
  | some item =>
      (some item,
        { seq := m.seq, tunnels := m.tunnels.delete id
          keyed := by
            intro id' item' found
            rw [GoMap.get_delete] at found
            split at found
            · cases found
            · exact m.keyed id' item' found })

def get (id : GoString) : Option Tunnel := (m.tunnels.get id).map ManagedTunnel.toTunnel

def count : ℕ := m.tunnels.len

/-- `Snapshot`, when the map is iterated in the given order. -/
def snapshot (order : List (GoString × ManagedTunnel)) : List Tunnel :=
  (order.map fun p => p.2.toTunnel).insertionSort fun a b => a.startedAt ≤ b.startedAt

def snapshotByUsername (order : List (GoString × ManagedTunnel)) (username : GoString) :
    List Tunnel :=
  let user := toLower (trimSpace username)
  (snapshot order).filter fun t => toLower (trimSpace t.username) = user

end Manager

/-- The two ways to open a tunnel. -/
inductive OpenCall where
  | openLocal (sessionID username target origin : GoString) (stop : Option ℕ)
  | openRemote (sessionID username bind origin : GoString) (stop : Option ℕ)
  deriving DecidableEq

def OpenCall.run (m : Manager) (now : Time) : OpenCall → ManagedTunnel × Manager
  | .openLocal sessionID username target origin stop =>
      m.openLocal sessionID username target origin stop now
  | .openRemote sessionID username bind origin stop =>
      m.openRemote sessionID username bind origin stop now

/-- The methods of the `Controller` interface. -/
inductive Controller where
  | snapshot
  | snapshotByUsername (username : GoString)
  | get (id : GoString)
  | close (id : GoString)
  | count

@[reducible] def Controller.Answer : Controller → Type
  | .snapshot => List Tunnel
  | .snapshotByUsername _ => List Tunnel
  | .get _ => Option Tunnel
  | .close _ => Bool
  | .count => ℕ

/-- The answers of a manager that nobody else uses meanwhile. -/
def Manager.answer (order : List (GoString × ManagedTunnel)) (m : Manager) :
    (q : Controller) → q.Answer × Manager
  | .snapshot => (Manager.snapshot order, m)
  | .snapshotByUsername username => (Manager.snapshotByUsername order username, m)
  | .get id => (m.get id, m)
  | .close id => ((m.remove id).1.isSome, (m.remove id).2)
  | .count => (m.count, m)

/-! ## Specifications -/

theorem OpenCall.run_spec (m : Manager) (now : Time) (call : OpenCall) :
    (call.run m now).1.id = tunnelID (m.seq + 1).toNat ∧ (call.run m now).2.seq = m.seq + 1 ∧
      ∀ id, (call.run m now).2.tunnels.get id =
        if id = tunnelID (m.seq + 1).toNat then some (call.run m now).1
        else m.tunnels.get id := by
  cases call with
  | openLocal => exact ⟨rfl, rfl, fun id => GoMap.get_set ..⟩
  | openRemote => exact ⟨rfl, rfl, fun id => GoMap.get_set ..⟩

theorem OpenCall.run_seq_toNat (m : Manager) (now : Time) (call : OpenCall)
    (room : m.seq.toNat + 1 < 2 ^ 64) : (call.run m now).2.seq.toNat = m.seq.toNat + 1 := by
  rw [(call.run_spec m now).2.1, UInt64.toNat_add]
  exact Nat.mod_eq_of_lt room

/-- An open leaves the IDs issued before it alone, as long as the counter does not wrap. -/
theorem OpenCall.run_get_of_le (m : Manager) (now : Time) (call : OpenCall)
    (room : m.seq.toNat + 1 < 2 ^ 64) {k : ℕ} (old : k ≤ m.seq.toNat) :
    (call.run m now).2.tunnels.get (tunnelID k) = m.tunnels.get (tunnelID k) := by
  obtain ⟨-, seq, table⟩ := call.run_spec m now
  have next := call.run_seq_toNat m now room
  rw [table, if_neg]
  intro same
  have := tunnelID_injective same
  rw [seq] at next
  omega

namespace Manager

variable {m : Manager}

theorem remove_spec (m : Manager) (id : GoString) :
    (m.remove id).1 = m.tunnels.get id ∧ (m.remove id).2.seq = m.seq ∧
      ∀ id', (m.remove id).2.tunnels.get id' = if id' = id then none else m.tunnels.get id' := by
  simp only [remove]
  split
  · rename_i absent
    refine ⟨absent.symm, rfl, fun id' => ?_⟩
    split
    · rename_i same
      rw [same, absent]
    · rfl
  · rename_i item found
    exact ⟨found.symm, rfl, fun id' => GoMap.get_delete ..⟩

theorem get_eq_some_iff {id : GoString} {t : Tunnel} :
    m.get id = some t ↔ ∃ item, m.tunnels.get id = some item ∧ item.toTunnel = t := by
  simp [get]

theorem id_of_get {id : GoString} {t : Tunnel} (found : m.get id = some t) : t.id = id := by
  obtain ⟨item, filed, rfl⟩ := get_eq_some_iff.1 found
  exact m.keyed id item filed

/-- A snapshot lists the table. -/
theorem mem_snapshot {order : List (GoString × ManagedTunnel)} (iterates : m.tunnels.Iterates order)
    (t : Tunnel) : t ∈ snapshot order ↔ m.get t.id = some t := by
  simp only [snapshot, List.mem_insertionSort, List.mem_map, Prod.exists, get_eq_some_iff,
    iterates.mem_iff]
  constructor
  · rintro ⟨id, item, found, rfl⟩
    have filed : item.id = id := m.keyed id item found
    exact ⟨item, filed ▸ found, rfl⟩
  · rintro ⟨item, found, rfl⟩
    exact ⟨_, item, found, rfl⟩

theorem length_snapshot {order : List (GoString × ManagedTunnel)}
    (iterates : m.tunnels.Iterates order) : (snapshot order).length = m.count := by
  rw [snapshot, List.length_insertionSort, List.length_map, iterates.length_eq]
  rfl

/-- No tunnel is listed twice: the IDs are the keys of the map. -/
theorem nodup_snapshot {order : List (GoString × ManagedTunnel)}
    (iterates : m.tunnels.Iterates order) : ((snapshot order).map Tunnel.id).Nodup := by
  have sorted : ((snapshot order).map Tunnel.id).Perm
      ((order.map fun p => p.2.toTunnel).map Tunnel.id) := (List.perm_insertionSort _ _).map _
  have keys : (order.map fun p => p.2.toTunnel).map Tunnel.id = order.map Prod.fst := by
    rw [List.map_map]
    refine List.map_congr_left fun p member => ?_
    exact m.keyed p.1 p.2 ((iterates.mem_iff p.1 p.2).1 member)
  rw [sorted.nodup_iff, keys]
  exact iterates.nodup_keys

theorem sorted_snapshot (order : List (GoString × ManagedTunnel)) :
    (snapshot order).Pairwise fun a b => a.startedAt ≤ b.startedAt := by
  have total : Std.Total fun a b : Tunnel => a.startedAt ≤ b.startedAt :=
    ⟨fun a b => Int.le_total a.startedAt b.startedAt⟩
  have trans : IsTrans Tunnel fun a b => a.startedAt ≤ b.startedAt :=
    ⟨fun _ _ _ first second => Int.le_trans first second⟩
  exact List.pairwise_insertionSort _ _

end Manager

end SentinelOps.Forwarding
