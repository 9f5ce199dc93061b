/-
# Store.MemoryRecords — the sessions, tunnels and audit log of the in-memory store

Every method of `MemoryStore` holds its mutex from beginning to end, so a run is a list of
calls.  A reading carries what a call takes from outside: the clock, the next UUID, and the
order in which each map is iterated, which has to be an order of that map (`Reading.Fits`).

In Postgres a tunnel references its session, and the reference is a constraint of the schema.
Here only `DeleteSession` looks after it: `CreateTunnel` and `UpdateTunnel` store whatever
session a tunnel names.  `references_kept_iff` says exactly which runs keep every tunnel's
session stored.
-/
import SentinelOps.Store.MemoryAttempts
import SentinelOps.Store.Records
import SentinelOps.Theory.Schedule
import SentinelOps.Theory.Table

namespace SentinelOps.Store

open Theory GoText Schedule
open GoTime (Time Duration)

set_option autoImplicit false

/-- The sessions and tunnels of a `MemoryStore`. -/
structure MemoryRecords where
  sessions : Table Session.id
  tunnels : Table Tunnel.id

def newMemoryRecords : MemoryRecords := ⟨.empty, .empty⟩

namespace Session

def inactive (sess : Session) (cutoff : Time) : Bool :=
  sess.status == str "active" && sess.lastActive.before cutoff

/-- One turn of the loop of `CleanupInactiveSessions`. -/
def cleaned (cutoff now : Time) (sess : Session) : Session :=
  if sess.inactive cutoff then { sess with status := str "expired", closedAt := some now }
  else sess

theorem cleaned_id (cutoff now : Time) (sess : Session) :
    (sess.cleaned cutoff now).id = sess.id := by
  unfold cleaned
  split <;> rfl

end Session

namespace MemoryRecords

variable (m : MemoryRecords)

/-! ## Sessions -/

def createSession (sess : Session) (fresh : Uuid) (now : Time) :
    Except StoreError Unit × MemoryRecords :=
  match m.sessions.get (identified sess.id fresh) with
  | some _ => (.error .errAlreadyExists, m)
  | none => (.ok (), { m with sessions := m.sessions.put (sess.stamped fresh now) })

def getSession (id : GoString) : Except StoreError Session :=
  match m.sessions.get id with
  | none => .error .errNotFound
  | some sess => .ok sess

def updateSession (sess : Session) (now : Time) : Except StoreError Unit × MemoryRecords :=
  match m.sessions.get sess.id with
  | none => (.error .errNotFound, m)
  | some _ => (.ok (), { m with sessions := m.sessions.put (sess.touched now) })

def deleteSession (id : GoString) : Except StoreError Unit × MemoryRecords :=
  match m.sessions.get id with
  | none => (.error .errNotFound, m)
  | some _ =>
      (.ok (), { m with
        sessions := m.sessions.remove id
        tunnels := m.tunnels.keep fun tunnel => tunnel.sessionID != id })

def listSessions (filter : SessionFilter) (order : List Session) : Option (List Session) :=
  applySessionWindow (order.filter filter.accepts) filter.limit filter.offset

def countActiveSessions (username : GoString) (order : List Session) : Nat :=
  (order.filter fun sess => sess.username == username && sess.status == str "active").length

def touchSession (id : GoString) (now : Time) : Except StoreError Unit × MemoryRecords :=
  match m.sessions.get id with
  | none => (.error .errNotFound, m)
  | some sess => (.ok (), { m with sessions := m.sessions.put (sess.touched now) })

/-- `cutoffAt` and `now` are the two readings of the clock. -/
def cleanupInactiveSessions (maxInactive : Duration) (cutoffAt now : Time)
    (order : List Session) : Nat × MemoryRecords :=
  let cutoff := cutoffAt.add (-maxInactive)
  ((order.filter fun sess => sess.inactive cutoff).length,
    { m with sessions := m.sessions.amend (Session.cleaned cutoff now) (Session.cleaned_id _ _) })

/-! ## Tunnels -/

def createTunnel (tunnel : Tunnel) (fresh : Uuid) (now : Time) :
    Except StoreError Unit × MemoryRecords :=
  match m.tunnels.get (identified tunnel.id fresh) with
  | some _ => (.error .errAlreadyExists, m)
  | none => (.ok (), { m with tunnels := m.tunnels.put (tunnel.stamped fresh now) })

def getTunnel (id : GoString) : Except StoreError Tunnel :=
  match m.tunnels.get id with
  | none => .error .errNotFound
  | some tunnel => .ok tunnel

def updateTunnel (tunnel : Tunnel) : Except StoreError Unit × MemoryRecords :=
  match m.tunnels.get tunnel.id with
  | none => (.error .errNotFound, m)
  | some _ => (.ok (), { m with tunnels := m.tunnels.put tunnel })

def deleteTunnel (id : GoString) : Except StoreError Unit × MemoryRecords :=
  match m.tunnels.get id with
  | none => (.error .errNotFound, m)
  | some _ => (.ok (), { m with tunnels := m.tunnels.remove id })

def listTunnels (filter : TunnelFilter) (order : List Tunnel) : Option (List Tunnel) :=
  applyTunnelWindow (order.filter filter.accepts) filter.limit filter.offset

def deleteTunnelsBySession (sessionID : GoString) (order : List Tunnel) :
    List GoString × MemoryRecords :=
  ((order.filter fun tunnel => tunnel.sessionID == sessionID).map Tunnel.id,
    { m with tunnels := m.tunnels.keep fun tunnel => tunnel.sessionID != sessionID })

/-! ## Calls -/

/-- What a call takes from outside. -/
structure Reading where
  fresh : Uuid
  now : Time
  sessionOrder : List Session
  tunnelOrder : List Tunnel

/-- The orders are orders of the maps. -/
def Reading.Fits (reading : Reading) (m : MemoryRecords) : Prop :=
  m.sessions.Lists reading.sessionOrder ∧ m.tunnels.Lists reading.tunnelOrder

instance (reading : Reading) (m : MemoryRecords) : Decidable (reading.Fits m) :=
  inferInstanceAs (Decidable (_ ∧ _))

def apply (reading : Reading) : RecordCall → RecordReply × MemoryRecords
  | .createSession sess =>
      let (result, m) := m.createSession sess reading.fresh reading.now
      (.ofError result, m)
  | .getSession id => (.ofExcept .session (m.getSession id), m)
  | .updateSession sess =>
      let (result, m) := m.updateSession sess reading.now
      (.ofError result, m)
  | .deleteSession id =>
      let (result, m) := m.deleteSession id
      (.ofError result, m)
  | .listSessions filter => (.ofWindow .sessions (listSessions filter reading.sessionOrder), m)
  | .countActiveSessions username =>
      (.count (countActiveSessions username reading.sessionOrder), m)
  | .touchSession id =>
      let (result, m) := m.touchSession id reading.now
      (.ofError result, m)
  | .createTunnel tunnel =>
      let (result, m) := m.createTunnel tunnel reading.fresh reading.now
      (.ofError result, m)
  | .getTunnel id => (.ofExcept .tunnel (m.getTunnel id), m)
  | .updateTunnel tunnel =>
      let (result, m) := m.updateTunnel tunnel
      (.ofError result, m)
  | .deleteTunnel id =>
      let (result, m) := m.deleteTunnel id
      (.ofError result, m)
  | .listTunnels filter => (.ofWindow .tunnels (listTunnels filter reading.tunnelOrder), m)
  | .deleteTunnelsBySession sessionID =>
      let (deleted, m) := m.deleteTunnelsBySession sessionID reading.tunnelOrder
      (.ids deleted, m)

end MemoryRecords

/-! ## The whole store -/

/-- Everything behind the mutex of a `MemoryStore`. -/
structure Memory where
  records : MemoryRecords
  auditLog : List AuditEntry
  limits : MemoryStore

def newMemory : Memory := ⟨newMemoryRecords, [], newMemoryStore⟩

/-- Every call of a `MemoryStore`; `cutoffAt` is the first of two readings of the clock. -/
inductive MemoryCall where
  | record (call : RecordCall)
  | limit (op : Op)
  | appendAuditLog (entry : AuditEntry)
  | queryAuditLog (filter : AuditFilter)
  | cleanupInactiveSessions (maxInactive : Duration) (cutoffAt : Time)
  | cleanupOldAuditLogs (maxAge : Duration)
  | health
  | close

inductive MemoryReply where
  | record (reply : RecordReply)
  | limit (reply : Reply)
  | entries (listed : Option (List AuditEntry))
  | removed (n : Nat)
  | done

namespace Memory

variable (m : Memory)

def appendAuditLog (entry : AuditEntry) (fresh : Uuid) (now : Time) : Memory :=
  { m with auditLog := m.auditLog ++ [entry.stamped fresh now] }

def queryAuditLog (filter : AuditFilter) : Option (List AuditEntry) :=
  applyAuditWindow (m.auditLog.filter filter.accepts) filter.limit filter.offset

def cleanupOldAuditLogs (maxAge : Duration) (now : Time) : Nat × Memory :=
  let cutoff := now.add (-maxAge)
  ((m.auditLog.filter fun entry => entry.timestamp.before cutoff).length,
    { m with auditLog := m.auditLog.filter fun entry => !entry.timestamp.before cutoff })

def apply (reading : MemoryRecords.Reading) : MemoryCall → MemoryReply × Memory
  | .record call =>
      let (reply, records) := m.records.apply reading call
      (.record reply, { m with records })
  | .limit op =>
      let (reply, limits) := m.limits.apply op
      (.limit reply, { m with limits })
  | .appendAuditLog entry => (.done, m.appendAuditLog entry reading.fresh reading.now)
  | .queryAuditLog filter => (.entries (m.queryAuditLog filter), m)
  | .cleanupInactiveSessions maxInactive cutoffAt =>
      let (n, records) :=
        m.records.cleanupInactiveSessions maxInactive cutoffAt reading.now reading.sessionOrder
      (.removed n, { m with records })
  | .cleanupOldAuditLogs maxAge =>
      let (n, m) := m.cleanupOldAuditLogs maxAge reading.now
      (.removed n, m)
  | .health => (.done, m)
  | .close => (.done, m)

/-- One call of a run. -/
def step (m : Memory) (l : MemoryRecords.Reading × MemoryCall) : Option Memory :=
  if l.1.Fits m.records then some (m.apply l.1 l.2).2 else none

end Memory

/-! ## References -/

namespace MemoryRecords

variable {m m' : MemoryRecords}

/-- Every stored tunnel names a stored session. -/
def Referenced (m : MemoryRecords) : Prop :=
  ∀ id tunnel, m.tunnels.get id = some tunnel → (m.sessions.get tunnel.sessionID).isSome

/-- The session of a tunnel that the call stores is stored.  A create that finds its ID taken
and an update that does not find its ID store nothing. -/
def NamesSession (m : MemoryRecords) (reading : Reading) : RecordCall → Prop
  | .createTunnel tunnel => m.tunnels.get (identified tunnel.id reading.fresh) = none →
      (m.sessions.get tunnel.sessionID).isSome
  | .updateTunnel tunnel => (m.tunnels.get tunnel.id).isSome →
      (m.sessions.get tunnel.sessionID).isSome
  | _ => True

/-- References survive when sessions are only added and tunnels only removed. -/
theorem Referenced.mono (held : m.Referenced)
    (sessions : ∀ id, (m.sessions.get id).isSome → (m'.sessions.get id).isSome)
    (tunnels : ∀ id tunnel, m'.tunnels.get id = some tunnel → m.tunnels.get id = some tunnel) :
    m'.Referenced :=
  fun id tunnel found => sessions _ (held id tunnel (tunnels id tunnel found))

theorem Referenced.putSession (held : m.Referenced) (sess : Session) :
    Referenced { m with sessions := m.sessions.put sess } := by
  refine held.mono (fun id present => ?_) fun _ _ => id
  show ((m.sessions.put sess).get id).isSome
  rw [Table.get_put]
  split
  · rfl
  · exact present

/-- A tunnel that is put keeps the references exactly when it has one. -/
theorem referenced_putTunnel_iff (held : m.Referenced) (tunnel : Tunnel) :
    Referenced { m with tunnels := m.tunnels.put tunnel } ↔
      (m.sessions.get tunnel.sessionID).isSome := by
  constructor
  · exact fun after => after tunnel.id tunnel (m.tunnels.get_put_self tunnel)
  · intro present id other found
    change (m.tunnels.put tunnel).get id = some other at found
    rw [Table.get_put] at found
    split at found
    · cases found
      exact present
    · exact held id other found

theorem Referenced.deleteSession (held : m.Referenced) (id : GoString) :
    (m.deleteSession id).2.Referenced := by
  unfold MemoryRecords.deleteSession
  split
  · exact held
  · intro tid tunnel found
    change (m.tunnels.keep fun tunnel => tunnel.sessionID != id).get tid = some tunnel at found
    rw [Table.get_keep, Option.filter_eq_some_iff, bne_iff_ne] at found
    show ((m.sessions.remove id).get tunnel.sessionID).isSome
    rw [Table.get_remove, if_neg found.2]
    exact held tid tunnel found.1

theorem Referenced.keepTunnels (held : m.Referenced) (p : Tunnel → Bool) :
    Referenced { m with tunnels := m.tunnels.keep p } := by
  refine held.mono (fun _ => id) fun id tunnel found => ?_
  change (m.tunnels.keep p).get id = some tunnel at found
  rw [Table.get_keep, Option.filter_eq_some_iff] at found
  exact found.1

theorem Referenced.removeTunnel (held : m.Referenced) (id : GoString) :
    Referenced { m with tunnels := m.tunnels.remove id } := by
  refine held.mono (fun _ => fun present => present) fun tid tunnel found => ?_
  change (m.tunnels.remove id).get tid = some tunnel at found
  rw [Table.get_remove] at found
  split at found
  · cases found
  · exact found

theorem Referenced.cleanup (held : m.Referenced) (maxInactive : Duration) (cutoffAt now : Time)
    (order : List Session) :
    (m.cleanupInactiveSessions maxInactive cutoffAt now order).2.Referenced := by
  refine held.mono (fun id present => ?_) fun _ _ => id
  simpa [cleanupInactiveSessions] using present

/-- One call on records keeps the references exactly when the tunnel it stores has one. -/
theorem referenced_apply_iff (held : m.Referenced) (reading : Reading) (call : RecordCall) :
    (m.apply reading call).2.Referenced ↔ m.NamesSession reading call := by
  cases call with
  | createSession sess =>
      refine iff_of_true ?_ trivial
      simp only [apply, createSession]
      split
      · exact held
      · exact held.putSession _
  | updateSession sess =>
      refine iff_of_true ?_ trivial
      simp only [apply, updateSession]
      split
      · exact held
      · exact held.putSession _
  | touchSession id =>
      refine iff_of_true ?_ trivial
      simp only [apply, touchSession]
      split
      · exact held
      · exact held.putSession _
  | deleteSession id => exact iff_of_true (held.deleteSession id) trivial
  | createTunnel tunnel =>
      simp only [apply, createTunnel, NamesSession]
      cases found : m.tunnels.get (identified tunnel.id reading.fresh) with
      | none => exact (referenced_putTunnel_iff held _).trans ⟨fun names _ => names, fun h => h rfl⟩
      | some other => exact iff_of_true held fun absent => by cases absent
  | updateTunnel tunnel =>
      simp only [apply, updateTunnel, NamesSession]
      cases found : m.tunnels.get tunnel.id with
      | none => exact iff_of_true held fun present => by cases present
      | some other =>
          exact (referenced_putTunnel_iff held _).trans ⟨fun names _ => names, fun h => h rfl⟩
  | deleteTunnel id =>
      refine iff_of_true ?_ trivial
      simp only [apply, deleteTunnel]
      split
      · exact held
      · exact held.removeTunnel id
  | deleteTunnelsBySession sessionID => exact iff_of_true (held.keepTunnels _) trivial
  | getSession id => exact iff_of_true held trivial
  | listSessions filter => exact iff_of_true held trivial
  | countActiveSessions username => exact iff_of_true held trivial
  | getTunnel id => exact iff_of_true held trivial
  | listTunnels filter => exact iff_of_true held trivial

end MemoryRecords

namespace Memory

/-- The call on records, if it is one, names a stored session. -/
def NamesSession (m : Memory) (l : MemoryRecords.Reading × MemoryCall) : Prop :=
  match l.2 with
  | .record call => m.records.NamesSession l.1 call
  | _ => True

theorem referenced_step_iff {m m' : Memory} {l : MemoryRecords.Reading × MemoryCall}
    (held : m.records.Referenced) (moved : m.step l = some m') :
    m'.records.Referenced ↔ m.NamesSession l := by
  obtain ⟨reading, call⟩ := l
  obtain ⟨-, written⟩ := Option.ite_none_right_eq_some.1 moved
  cases written
  cases call with
  | record call => exact MemoryRecords.referenced_apply_iff held reading call
  | cleanupInactiveSessions maxInactive cutoffAt =>
      exact iff_of_true (held.cleanup maxInactive cutoffAt reading.now reading.sessionOrder) trivial
  | limit op => exact iff_of_true held trivial
  | appendAuditLog entry => exact iff_of_true held trivial
  | queryAuditLog filter => exact iff_of_true held trivial
  | cleanupOldAuditLogs maxAge => exact iff_of_true held trivial
  | health => exact iff_of_true held trivial
  | close => exact iff_of_true held trivial

/-- **Every tunnel of the store names a stored session, in every state of a run, exactly when
every call that stores a tunnel names one.**  Nothing but the two calls that store tunnels can
break a reference: deleting a session takes its tunnels along. -/
theorem references_kept_iff (ls : List (MemoryRecords.Reading × MemoryCall)) (m : Memory)
    (ran : exec step newMemory ls = some m) :
    (∀ before after m', ls = before ++ after → exec step newMemory before = some m' →
        m'.records.Referenced) ↔
      Along step NamesSession newMemory ls :=
  reached_iff_along (fun _ => True)
    (fun _ _ _ _ held moved => ⟨trivial, referenced_step_iff held moved⟩) trivial
    (fun id tunnel found => by cases found) ran

theorem step_of_fits {m : Memory} {reading : MemoryRecords.Reading} (call : MemoryCall)
    (fits : reading.Fits m.records) : m.step (reading, call) = some (m.apply reading call).2 :=
  if_pos fits

/-- A session, its tunnel, and the end of the session. -/
theorem references_kept_cascade :
    let sess := sampleSession.stamped default 1
    let ls : List (MemoryRecords.Reading × MemoryCall) :=
      [(⟨default, 1, [], []⟩, .record (.createSession sampleSession)),
        (⟨default, 2, [sess], []⟩, .record (.createTunnel sampleTunnel)),
        (⟨default, 3, [sess], [sampleTunnel.stamped default 2]⟩,
          .record (.deleteSession sampleSession.id))]
    ∃ m, exec step newMemory ls = some m ∧
      ∀ before after m', ls = before ++ after → exec step newMemory before = some m' →
        m'.records.Referenced := by
  intro sess ls
  let one := (newMemory.apply ⟨default, 1, [], []⟩ (.record (.createSession sampleSession))).2
  have first : newMemory.step (⟨default, 1, [], []⟩, .record (.createSession sampleSession)) =
      some one := step_of_fits _ (by decide)
  have next : one.step (⟨default, 2, [sess], []⟩, .record (.createTunnel sampleTunnel)) = some _ :=
    step_of_fits _ (by decide)
  obtain ⟨m, ran⟩ : ∃ m, exec step newMemory ls = some m :=
    Option.isSome_iff_exists.1 (by decide)
  refine ⟨m, ran, (references_kept_iff ls m ran).2 ?_⟩
  refine along_cons_of_eq first trivial (along_cons_of_eq next ?_ ⟨trivial, fun _ _ => trivial⟩)
  exact fun _ => by decide

/-- A tunnel for a session that was never created is stored. -/
theorem references_broken :
    (exec step newMemory
      [(⟨default, 1, [], []⟩, .record (.createTunnel sampleTunnel))]).map (fun m =>
        (m.records.getTunnel sampleTunnel.id, m.records.getSession sampleTunnel.sessionID)) =
      some (.ok (sampleTunnel.stamped default 1), .error .errNotFound) := by
  decide

end Memory

end SentinelOps.Store
