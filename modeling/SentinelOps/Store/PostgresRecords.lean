/-
# Store.PostgresRecords — the tables of sessions and tunnels

Every method of `PostgresStore` on sessions and tunnels is one statement, except for
`DeleteTunnelsBySession`, which is two and therefore a script.  The constraints of the schema are
in the types: a primary key is the key of a `Table`, and the reference of a tunnel to its session
is a field of `PostgresRecords`, so `ON DELETE CASCADE` is what `removeSession` has to do to keep
it.

A row is the record that is read from it.  The server checks every parameter before it looks for
rows: what it makes of a `TEXT`, a `TIMESTAMPTZ` and a `JSONB` is a parameter here
(`RecordServer`).  `INSERT` and `UPDATE` set the columns that they name and leave the others, and a
constraint that is violated comes back as the error of the driver, since `translatePostgresError`
returns what it is given.
-/
import SentinelOps.Store.Documents
import SentinelOps.Store.MemoryRecords
import SentinelOps.Store.PostgresAttempts
import SentinelOps.Theory.Script

namespace SentinelOps.Store

open Theory GoText
open GoTime (Time Duration)
open MemoryRecords (Reading)

set_option autoImplicit false

/-- What the server does with the parameters of the record tables. -/
structure RecordServer extends Server where
  /-- Whether an instant is in the range of a `TIMESTAMPTZ`; a statement with any other fails. -/
  instant : Time → Bool
  /-- The `JSONB` an object is stored as; a statement with an object it refuses fails. -/
  jsonb : JSONObject → Option JSONObject

/-- A server with the resolution of a microsecond that takes every instant and every object. -/
def sampleServer : RecordServer :=
  { microsecondServer with
    instant := fun _ => true
    jsonb := some }

/-- The two tables. -/
structure PostgresRecords where
  sessions : Table Session.id
  tunnels : Table Tunnel.id
  references : ∀ id tunnel, tunnels.get id = some tunnel →
    (sessions.get tunnel.sessionID).isSome = true

def newPostgresRecords : PostgresRecords where
  sessions := .empty
  tunnels := .empty
  references := fun id tunnel found => by cases found

/-- The object whose text `marshalJSONMap` writes; `none` is its error. -/
def marshalJSONMap (value : JSONMap) : Option JSONObject :=
  let object : JSONObject := value.getD ∅
  if object.marshals then some object.readBack else none

/-! ## Rows -/

namespace PostgresRecords

variable (p : PostgresRecords)

/-- Write a row of `sessions`, in the place of the one that has its ID. -/
def putSession (row : Session) : PostgresRecords where
  sessions := p.sessions.put row
  tunnels := p.tunnels
  references := by
    intro id tunnel found
    rw [Table.get_put]
    split
    · rfl
    · exact p.references id tunnel found

/-- Write a row of `tunnels` whose session is there. -/
def putTunnel (row : Tunnel) (referenced : (p.sessions.get row.sessionID).isSome = true) :
    PostgresRecords where
  sessions := p.sessions
  tunnels := p.tunnels.put row
  references := by
    intro id tunnel found
    rw [Table.get_put] at found
    split at found
    · cases found
      exact referenced
    · exact p.references id tunnel found

/-- Delete a row of `sessions`, and with it the tunnels that reference it. -/
def removeSession (id : GoString) : PostgresRecords where
  sessions := p.sessions.remove id
  tunnels := p.tunnels.keep fun tunnel => tunnel.sessionID != id
  references := by
    intro tid tunnel found
    rw [Table.get_keep, Option.filter_eq_some_iff, bne_iff_ne] at found
    rw [Table.get_remove, if_neg found.2]
    exact p.references tid tunnel found.1

/-- Delete the rows of `tunnels` that do not meet `keep`. -/
def keepTunnels (keep : Tunnel → Bool) : PostgresRecords where
  sessions := p.sessions
  tunnels := p.tunnels.keep keep
  references := by
    intro tid tunnel found
    rw [Table.get_keep, Option.filter_eq_some_iff] at found
    exact p.references tid tunnel found.1

/-- Change rows of `sessions` but not their IDs. -/
def amendSessions (f : Session → Session) (same : ∀ sess, (f sess).id = sess.id) :
    PostgresRecords where
  sessions := p.sessions.amend f same
  tunnels := p.tunnels
  references := by
    intro tid tunnel found
    rw [Table.get_amend, Option.isSome_map]
    exact p.references tid tunnel found

end PostgresRecords

/-! ## Parameters -/

namespace RecordServer

variable (server : RecordServer)

/-- The row of an `INSERT INTO sessions`, which does not name `closed_at`. -/
def sessionRow (sess : Session) (metadata : JSONObject) : Option Session :=
  if server.text sess.id && server.text sess.username && server.text sess.role &&
      server.text sess.remoteAddr && server.instant sess.createdAt &&
      server.instant sess.lastActive && server.text sess.status then
    (server.jsonb metadata).map fun object =>
      { sess with
        createdAt := server.timestamp sess.createdAt
        lastActive := server.timestamp sess.lastActive
        closedAt := none
        metadata := some object }
  else none

/-- The `SET` of an `UPDATE sessions`. -/
def sessionSet (sess : Session) (metadata : JSONObject) : Option (Session → Session) :=
  if server.text sess.id && server.text sess.username && server.text sess.role &&
      server.text sess.remoteAddr && server.instant sess.lastActive &&
      sess.closedAt.all server.instant && server.text sess.status then
    (server.jsonb metadata).map fun object row =>
      { row with
        username := sess.username
        role := sess.role
        remoteAddr := sess.remoteAddr
        lastActive := server.timestamp sess.lastActive
        closedAt := sess.closedAt.map server.timestamp
        status := sess.status
        metadata := some object }
  else none

/-- The row of an `INSERT INTO tunnels`, which names neither `closed_at` nor the counts of
bytes. -/
def tunnelRow (tunnel : Tunnel) (metadata : JSONObject) : Option Tunnel :=
  if server.text tunnel.id && server.text tunnel.sessionID && server.text tunnel.type &&
      server.text tunnel.localAddr && server.text tunnel.remoteAddr &&
      server.instant tunnel.createdAt && server.text tunnel.status then
    (server.jsonb metadata).map fun object =>
      { tunnel with
        createdAt := server.timestamp tunnel.createdAt
        closedAt := none
        bytesSent := 0
        bytesRecv := 0
        metadata := some object }
  else none

/-- The `SET` of an `UPDATE tunnels`. -/
def tunnelSet (tunnel : Tunnel) (metadata : JSONObject) : Option (Tunnel → Tunnel) :=
  if server.text tunnel.id && server.text tunnel.status && tunnel.closedAt.all server.instant then
    (server.jsonb metadata).map fun object row =>
      { row with
        bytesSent := tunnel.bytesSent
        bytesRecv := tunnel.bytesRecv
        status := tunnel.status
        closedAt := tunnel.closedAt.map server.timestamp
        metadata := some object }
  else none

/-- An argument of a filter, which is sent only when it is not empty. -/
def takes (wanted : GoString) : Bool := wanted == [] || server.text wanted

variable {server} {sess : Session} {tunnel : Tunnel} {metadata : JSONObject}

theorem sessionRow_id {row : Session} (accepted : server.sessionRow sess metadata = some row) :
    row.id = sess.id := by
  obtain ⟨-, mapped⟩ := Option.ite_none_right_eq_some.1 accepted
  obtain ⟨object, -, rfl⟩ := Option.map_eq_some_iff.1 mapped
  rfl

theorem tunnelRow_id {row : Tunnel} (accepted : server.tunnelRow tunnel metadata = some row) :
    row.id = tunnel.id := by
  obtain ⟨-, mapped⟩ := Option.ite_none_right_eq_some.1 accepted
  obtain ⟨object, -, rfl⟩ := Option.map_eq_some_iff.1 mapped
  rfl

theorem sessionSet_id {set : Session → Session}
    (accepted : server.sessionSet sess metadata = some set) (row : Session) :
    (set row).id = row.id := by
  obtain ⟨-, mapped⟩ := Option.ite_none_right_eq_some.1 accepted
  obtain ⟨object, -, rfl⟩ := Option.map_eq_some_iff.1 mapped
  rfl

theorem sessionRow_text {row : Session} (accepted : server.sessionRow sess metadata = some row) :
    server.text sess.id = true := by
  obtain ⟨taken, -⟩ := Option.ite_none_right_eq_some.1 accepted
  simp only [Bool.and_eq_true] at taken
  exact taken.1.1.1.1.1.1

theorem tunnelRow_text {row : Tunnel} (accepted : server.tunnelRow tunnel metadata = some row) :
    server.text tunnel.id = true := by
  obtain ⟨taken, -⟩ := Option.ite_none_right_eq_some.1 accepted
  simp only [Bool.and_eq_true] at taken
  exact taken.1.1.1.1.1.1

theorem sessionSet_text {set : Session → Session}
    (accepted : server.sessionSet sess metadata = some set) : server.text sess.id = true := by
  obtain ⟨taken, -⟩ := Option.ite_none_right_eq_some.1 accepted
  simp only [Bool.and_eq_true] at taken
  exact taken.1.1.1.1.1.1

theorem tunnelSet_text {set : Tunnel → Tunnel}
    (accepted : server.tunnelSet tunnel metadata = some set) : server.text tunnel.id = true := by
  obtain ⟨taken, -⟩ := Option.ite_none_right_eq_some.1 accepted
  simp only [Bool.and_eq_true] at taken
  exact taken.1.1

theorem tunnelSet_id {set : Tunnel → Tunnel}
    (accepted : server.tunnelSet tunnel metadata = some set) (row : Tunnel) :
    (set row).id = row.id ∧ (set row).sessionID = row.sessionID := by
  obtain ⟨-, mapped⟩ := Option.ite_none_right_eq_some.1 accepted
  obtain ⟨object, -, rfl⟩ := Option.map_eq_some_iff.1 mapped
  exact ⟨rfl, rfl⟩

end RecordServer

/-- `LIMIT` and `OFFSET`, each of which is sent only when it is positive. -/
def page {α : Type} (rows : List α) (limit offset : Int64) : List α :=
  let rows := if 0 < offset then rows.drop offset.toInt.toNat else rows
  if 0 < limit then rows.take limit.toInt.toNat else rows

/-- `ORDER BY created_at DESC`. -/
def NewestFirst {α : Type} (createdAt : α → Time) (rows : List α) : Prop :=
  rows.Pairwise fun first second => createdAt second ≤ createdAt first

instance {α : Type} (createdAt : α → Time) (rows : List α) :
    Decidable (NewestFirst createdAt rows) :=
  inferInstanceAs (Decidable (rows.Pairwise _))

/-! ## Statements -/

/-- The statements of `DeleteTunnelsBySession`. -/
inductive Statement where
  | selectTunnelIDs (sessionID : GoString)
  | deleteTunnels (sessionID : GoString)

abbrev Result : Statement → Type
  | .selectTunnelIDs _ => Except StoreError (List GoString)
  | .deleteTunnels _ => Except StoreError Unit

namespace PostgresRecords

variable (server : RecordServer) (p : PostgresRecords)

/-! ### Sessions -/

def insertSession (row : Session) : Except StoreError Unit × PostgresRecords :=
  match p.sessions.get row.id with
  | some _ => (.error .driver, p)
  | none => (.ok (), p.putSession row)

def createSession (sess : Session) (fresh : Uuid) (now : Time) :
    Except StoreError Unit × PostgresRecords :=
  let sess := sess.stamped fresh now
  match marshalJSONMap sess.metadata with
  | none => (.error .encoding, p)
  | some metadata =>
      match server.sessionRow sess metadata with
      | none => (.error .driver, p)
      | some row => p.insertSession row

def getSession (id : GoString) : Except StoreError Session :=
  if server.text id then
    match p.sessions.get id with
    | none => .error .errNotFound
    | some sess => .ok sess
  else .error .driver

def updateSession (sess : Session) (now : Time) : Except StoreError Unit × PostgresRecords :=
  let sess := sess.touched now
  match marshalJSONMap sess.metadata with
  | none => (.error .encoding, p)
  | some metadata =>
      match server.sessionSet sess metadata with
      | none => (.error .driver, p)
      | some set =>
          match p.sessions.get sess.id with
          | none => (.error .errNotFound, p)
          | some row => (.ok (), p.putSession (set row))

def deleteSession (id : GoString) : Except StoreError Unit × PostgresRecords :=
  if server.text id then
    match p.sessions.get id with
    | none => (.error .errNotFound, p)
    | some _ => (.ok (), p.removeSession id)
  else (.error .driver, p)

/-- `order` is the order in which the server returns the rows. -/
def listSessions (filter : SessionFilter) (order : List Session) :
    Except StoreError (List Session) :=
  if server.takes filter.username && server.takes filter.status &&
      server.takes filter.remoteAddr && filter.since.all server.instant then
    let filter := { filter with since := filter.since.map server.timestamp }
    .ok (page (order.filter filter.accepts) filter.limit filter.offset)
  else .error .driver

def countActiveSessions (username : GoString) (order : List Session) : Except StoreError Nat :=
  if server.text username then
    .ok (order.filter fun sess =>
      sess.username == username && sess.status == str "active").length
  else .error .driver

def touchSession (id : GoString) (now : Time) : Except StoreError Unit × PostgresRecords :=
  if server.text id && server.instant now then
    match p.sessions.get id with
    | none => (.error .errNotFound, p)
    | some row => (.ok (), p.putSession (row.touched (server.timestamp now)))
  else (.error .driver, p)

/-- `cutoffAt` and `now` are the two readings of the clock. -/
def cleanupInactiveSessions (maxInactive : Duration) (cutoffAt now : Time) : PostgresRecords :=
  let cutoff := cutoffAt.add (-maxInactive)
  if server.instant cutoff && server.instant now then
    p.amendSessions (Session.cleaned (server.timestamp cutoff) (server.timestamp now))
      (Session.cleaned_id _ _)
  else p

/-! ### Tunnels -/

def insertTunnel (row : Tunnel) : Except StoreError Unit × PostgresRecords :=
  match p.tunnels.get row.id with
  | some _ => (.error .driver, p)
  | none =>
      if referenced : (p.sessions.get row.sessionID).isSome then
        (.ok (), p.putTunnel row referenced)
      else (.error .driver, p)

def createTunnel (tunnel : Tunnel) (fresh : Uuid) (now : Time) :
    Except StoreError Unit × PostgresRecords :=
  let tunnel := tunnel.stamped fresh now
  match marshalJSONMap tunnel.metadata with
  | none => (.error .encoding, p)
  | some metadata =>
      match server.tunnelRow tunnel metadata with
      | none => (.error .driver, p)
      | some row => p.insertTunnel row

def getTunnel (id : GoString) : Except StoreError Tunnel :=
  if server.text id then
    match p.tunnels.get id with
    | none => .error .errNotFound
    | some tunnel => .ok tunnel
  else .error .driver

/-- The session of the row stays as it is, and is there. -/
def writeTunnel (id : GoString) (set : Tunnel → Tunnel)
    (same : ∀ row, (set row).id = row.id ∧ (set row).sessionID = row.sessionID) :
    Except StoreError Unit × PostgresRecords :=
  match found : p.tunnels.get id with
  | none => (.error .errNotFound, p)
  | some row =>
      (.ok (), p.putTunnel (set row) (by rw [(same row).2]; exact p.references id row found))

def updateTunnel (tunnel : Tunnel) : Except StoreError Unit × PostgresRecords :=
  match marshalJSONMap tunnel.metadata with
  | none => (.error .encoding, p)
  | some metadata =>
      match accepted : server.tunnelSet tunnel metadata with
      | none => (.error .driver, p)
      | some set => p.writeTunnel tunnel.id set (RecordServer.tunnelSet_id accepted)

def deleteTunnel (id : GoString) : Except StoreError Unit × PostgresRecords :=
  if server.text id then
    match p.tunnels.get id with
    | none => (.error .errNotFound, p)
    | some _ => (.ok (), p.keepTunnels fun tunnel => tunnel.id != id)
  else (.error .driver, p)

def listTunnels (filter : TunnelFilter) (order : List Tunnel) : Except StoreError (List Tunnel) :=
  if server.takes filter.sessionID && server.takes filter.type && server.takes filter.status then
    .ok (page (order.filter filter.accepts) filter.limit filter.offset)
  else .error .driver

/-- One of the two statements, answered with the rows in the order `order`. -/
def answer (order : List Tunnel) (p : PostgresRecords) :
    (q : Statement) → Result q × PostgresRecords
  | .selectTunnelIDs sessionID =>
      if server.text sessionID then
        (.ok ((order.filter fun tunnel => tunnel.sessionID == sessionID).map Tunnel.id), p)
      else (.error .driver, p)
  | .deleteTunnels sessionID =>
      if server.text sessionID then
        (.ok (), p.keepTunnels fun tunnel => tunnel.sessionID != sessionID)
      else (.error .driver, p)

def deleteTunnelsBySession (sessionID : GoString) :
    Script Statement Result (Except StoreError (List GoString)) :=
  .ask (.selectTunnelIDs sessionID) fun
    | .error e => .ret (.error e)
    | .ok ids =>
        .ask (.deleteTunnels sessionID) fun
          | .error e => .ret (.error e)
          | .ok () => .ret (.ok ids)

/-! ### Calls -/

def apply (reading : Reading) : RecordCall → RecordReply × PostgresRecords
  | .createSession sess =>
      let (result, p) := p.createSession server sess reading.fresh reading.now
      (.ofError result, p)
  | .getSession id => (.ofExcept .session (p.getSession server id), p)
  | .updateSession sess =>
      let (result, p) := p.updateSession server sess reading.now
      (.ofError result, p)
  | .deleteSession id =>
      let (result, p) := p.deleteSession server id
      (.ofError result, p)
  | .listSessions filter =>
      (.ofExcept .sessions (listSessions server filter reading.sessionOrder), p)
  | .countActiveSessions username =>
      (.ofExcept .count (countActiveSessions server username reading.sessionOrder), p)
  | .touchSession id =>
      let (result, p) := p.touchSession server id reading.now
      (.ofError result, p)
  | .createTunnel tunnel =>
      let (result, p) := p.createTunnel server tunnel reading.fresh reading.now
      (.ofError result, p)
  | .getTunnel id => (.ofExcept .tunnel (p.getTunnel server id), p)
  | .updateTunnel tunnel =>
      let (result, p) := p.updateTunnel server tunnel
      (.ofError result, p)
  | .deleteTunnel id =>
      let (result, p) := p.deleteTunnel server id
      (.ofError result, p)
  | .listTunnels filter =>
      (.ofExcept .tunnels (listTunnels server filter reading.tunnelOrder), p)
  | .deleteTunnelsBySession sessionID =>
      let (result, p) :=
        (deleteTunnelsBySession sessionID).run (answer server reading.tunnelOrder) p
      (.ofExcept .ids result, p)

/-- The orders are orders of the tables, and those of a listing are sorted. -/
def Fits (reading : Reading) (p : PostgresRecords) : RecordCall → Prop
  | .listSessions _ =>
      p.sessions.Lists reading.sessionOrder ∧ NewestFirst Session.createdAt reading.sessionOrder
  | .listTunnels _ =>
      p.tunnels.Lists reading.tunnelOrder ∧ NewestFirst Tunnel.createdAt reading.tunnelOrder
  | _ => p.sessions.Lists reading.sessionOrder ∧ p.tunnels.Lists reading.tunnelOrder

/-! ## What a call does

One lemma for each method that writes a row.  Each says which errors leave the tables as they are,
and what is written otherwise. -/

variable {server p}

theorem createSession_cases (sess : Session) (fresh : Uuid) (now : Time) :
    (∃ e, (e = .encoding ∨ e = .driver) ∧
        p.createSession server sess fresh now = (.error e, p)) ∨
      ∃ metadata row, marshalJSONMap sess.metadata = some metadata ∧
        server.sessionRow (sess.stamped fresh now) metadata = some row ∧
        p.sessions.get row.id = none ∧
        p.createSession server sess fresh now = (.ok (), p.putSession row) := by
  show (∃ e, _ ∧ _) ∨ ∃ metadata row, marshalJSONMap (sess.stamped fresh now).metadata = _ ∧ _
  unfold createSession
  dsimp only
  split
  · exact .inl ⟨.encoding, .inl rfl, rfl⟩
  · next metadata marshalled =>
      split
      · exact .inl ⟨.driver, .inr rfl, rfl⟩
      · next row accepted =>
          unfold insertSession
          split
          · exact .inl ⟨.driver, .inr rfl, rfl⟩
          · next absent => exact .inr ⟨metadata, row, marshalled, accepted, absent, rfl⟩

theorem updateSession_cases (sess : Session) (now : Time) :
    (∃ e, (e = .encoding ∨ e = .driver) ∧
        (∀ metadata, marshalJSONMap sess.metadata = some metadata →
          server.sessionSet (sess.touched now) metadata = none) ∧
        p.updateSession server sess now = (.error e, p)) ∨
      ∃ metadata set, marshalJSONMap sess.metadata = some metadata ∧
        server.sessionSet (sess.touched now) metadata = some set ∧
        ((p.sessions.get sess.id = none ∧
            p.updateSession server sess now = (.error .errNotFound, p)) ∨
          ∃ row, p.sessions.get sess.id = some row ∧
            p.updateSession server sess now = (.ok (), p.putSession (set row))) := by
  show (∃ e, _ ∧ (∀ metadata, marshalJSONMap (sess.touched now).metadata = _ → _) ∧ _) ∨
    ∃ metadata set, marshalJSONMap (sess.touched now).metadata = _ ∧ _ ∧
      ((p.sessions.get (sess.touched now).id = _ ∧ _) ∨
        ∃ row, p.sessions.get (sess.touched now).id = _ ∧ _)
  unfold updateSession
  dsimp only
  split
  · next refused =>
      refine .inl ⟨.encoding, .inl rfl, fun metadata same => ?_, rfl⟩
      rw [refused] at same
      cases same
  · next metadata marshalled =>
      split
      · next refused =>
          refine .inl ⟨.driver, .inr rfl, fun metadata' same => ?_, rfl⟩
          cases marshalled.symm.trans same
          exact refused
      · next set accepted =>
          refine .inr ⟨metadata, set, marshalled, accepted, ?_⟩
          split
          · next absent => exact .inl ⟨absent, rfl⟩
          · next row found => exact .inr ⟨row, found, rfl⟩

theorem createTunnel_cases (tunnel : Tunnel) (fresh : Uuid) (now : Time) :
    (∃ e, (e = .encoding ∨ e = .driver) ∧
        p.createTunnel server tunnel fresh now = (.error e, p)) ∨
      ∃ metadata row, ∃ referenced : (p.sessions.get row.sessionID).isSome = true,
        marshalJSONMap tunnel.metadata = some metadata ∧
        server.tunnelRow (tunnel.stamped fresh now) metadata = some row ∧
        p.tunnels.get row.id = none ∧
        p.createTunnel server tunnel fresh now = (.ok (), p.putTunnel row referenced) := by
  show (∃ e, _ ∧ _) ∨
    ∃ metadata row, ∃ _, marshalJSONMap (tunnel.stamped fresh now).metadata = _ ∧ _
  unfold createTunnel
  dsimp only
  split
  · exact .inl ⟨.encoding, .inl rfl, rfl⟩
  · next metadata marshalled =>
      split
      · exact .inl ⟨.driver, .inr rfl, rfl⟩
      · next row accepted =>
          unfold insertTunnel
          split
          · exact .inl ⟨.driver, .inr rfl, rfl⟩
          · next absent =>
              split
              · next referenced =>
                  exact .inr ⟨metadata, row, referenced, marshalled, accepted, absent, rfl⟩
              · exact .inl ⟨.driver, .inr rfl, rfl⟩

theorem writeTunnel_cases (id : GoString) (set : Tunnel → Tunnel)
    (same : ∀ row, (set row).id = row.id ∧ (set row).sessionID = row.sessionID) :
    (p.tunnels.get id = none ∧ p.writeTunnel id set same = (.error .errNotFound, p)) ∨
      ∃ row, ∃ referenced, p.tunnels.get id = some row ∧
        p.writeTunnel id set same = (.ok (), p.putTunnel (set row) referenced) := by
  unfold writeTunnel
  split
  · next absent => exact .inl ⟨absent, rfl⟩
  · next row found =>
      have referenced : (p.sessions.get (set row).sessionID).isSome = true := by
        rw [(same row).2]
        exact p.references id row found
      exact .inr ⟨row, referenced, found, rfl⟩

theorem updateTunnel_cases (tunnel : Tunnel) :
    (∃ e, (e = .encoding ∨ e = .driver) ∧
        (∀ metadata, marshalJSONMap tunnel.metadata = some metadata →
          server.tunnelSet tunnel metadata = none) ∧
        p.updateTunnel server tunnel = (.error e, p)) ∨
      ∃ metadata set, marshalJSONMap tunnel.metadata = some metadata ∧
        server.tunnelSet tunnel metadata = some set ∧
        ((p.tunnels.get tunnel.id = none ∧
            p.updateTunnel server tunnel = (.error .errNotFound, p)) ∨
          ∃ row, ∃ referenced, p.tunnels.get tunnel.id = some row ∧
            p.updateTunnel server tunnel = (.ok (), p.putTunnel (set row) referenced)) := by
  unfold updateTunnel
  split
  · next refused =>
      refine .inl ⟨.encoding, .inl rfl, fun metadata same => ?_, rfl⟩
      rw [refused] at same
      cases same
  · next metadata marshalled =>
      split
      · next refused =>
          refine .inl ⟨.driver, .inr rfl, fun metadata' same => ?_, rfl⟩
          cases marshalled.symm.trans same
          exact refused
      · next set accepted =>
          exact .inr ⟨metadata, set, marshalled, accepted, writeTunnel_cases ..⟩

theorem run_deleteTunnelsBySession (order : List Tunnel) (sessionID : GoString) :
    (deleteTunnelsBySession sessionID).run (answer server order) p =
      if server.text sessionID then
        (.ok ((order.filter fun tunnel => tunnel.sessionID == sessionID).map Tunnel.id),
          p.keepTunnels fun tunnel => tunnel.sessionID != sessionID)
      else (.error .driver, p) := by
  cases text : server.text sessionID with
  | true => simp [deleteTunnelsBySession, Script.run, answer, text]
  | false => simp [deleteTunnelsBySession, Script.run, answer, text]

end PostgresRecords

end SentinelOps.Store
