/-
# Store.RoundTrip — what a record reads as after it was written

A record that was written with success should be read as it was written (`ReadsAs`), apart from
the fields that the store stamps.  In memory it is.  Redis keeps it for a day, as JSON, which
keeps every field and coerces every string to UTF-8.  Postgres keeps the columns that its
statements name: a create does not name `closed_at` nor the counts of bytes, and an update of a
tunnel leaves its session, type and addresses.  An instant is rounded to the resolution of the
column, and metadata goes through JSON here as well.  `round_trip_iff` has the exact conditions.
-/
import SentinelOps.Store.Backends

namespace SentinelOps.Store

open Theory GoText Script
open GoTime (Time)

set_option autoImplicit false

/-! ## Reading what was written -/

/-- Every value is a string. -/
def JSONObject.Strings (object : JSONObject) : Prop :=
  ∀ k v, object.get k = some v → ∃ s, v = .text s

namespace JSONMap

def Strings (metadata : JSONMap) : Prop :=
  ∀ object, metadata = some object → JSONObject.Strings object

def Utf8 (metadata : JSONMap) : Prop := ∀ object, metadata = some object → JSONObject.Utf8 object

/-- A nil map may be read as an empty one. -/
def ReadsAs (written got : JSONMap) : Prop := got = written ∨ (written = none ∧ got = some ∅)

end JSONMap

namespace Session

/-- Everything is read as it was written, except for the instants that the store stamps. -/
def ReadsAs (written got : Session) : Prop :=
  { got with
    createdAt := written.createdAt
    lastActive := written.lastActive
    metadata := written.metadata } = written ∧
  JSONMap.ReadsAs written.metadata got.metadata

def Utf8 (sess : Session) : Prop :=
  validString sess.id = true ∧ validString sess.username = true ∧ validString sess.role = true ∧
    validString sess.remoteAddr = true ∧ validString sess.status = true ∧
    JSONMap.Utf8 sess.metadata

end Session

namespace Tunnel

def ReadsAs (written got : Tunnel) : Prop :=
  { got with createdAt := written.createdAt, metadata := written.metadata } = written ∧
  JSONMap.ReadsAs written.metadata got.metadata

def Utf8 (tunnel : Tunnel) : Prop :=
  validString tunnel.id = true ∧ validString tunnel.sessionID = true ∧
    validString tunnel.type = true ∧ validString tunnel.localAddr = true ∧
    validString tunnel.remoteAddr = true ∧ validString tunnel.status = true ∧
    JSONMap.Utf8 tunnel.metadata

end Tunnel

/-- A client reads the record that the call has written. -/
def View.Reads (v : View) (stamp : Stamp) : RecordCall → Prop
  | .createSession sess => ∃ got, v.session (sess.stamped stamp.fresh stamp.now).id = .ok got ∧
      (sess.stamped stamp.fresh stamp.now).ReadsAs got
  | .updateSession sess => ∃ got, v.session sess.id = .ok got ∧ sess.ReadsAs got
  | .createTunnel tunnel => ∃ got, v.tunnel (tunnel.stamped stamp.fresh stamp.now).id = .ok got ∧
      (tunnel.stamped stamp.fresh stamp.now).ReadsAs got
  | .updateTunnel tunnel => ∃ got, v.tunnel tunnel.id = .ok got ∧ tunnel.ReadsAs got
  | _ => True

/-- The metadata of the record that a call writes is a map of strings. -/
def RecordCall.Strings : RecordCall → Prop
  | .createSession sess => JSONMap.Strings sess.metadata
  | .updateSession sess => JSONMap.Strings sess.metadata
  | .createTunnel tunnel => JSONMap.Strings tunnel.metadata
  | .updateTunnel tunnel => JSONMap.Strings tunnel.metadata
  | _ => True

/-- What a create names is all there is to the record, and an update names what it changes. -/
def PostgresRecords.KeepsRecord (server : RecordServer) (p : PostgresRecords) : RecordCall → Prop
  | .createSession sess => sess.closedAt = none ∧ JSONMap.Utf8 sess.metadata
  | .updateSession sess =>
      sess.closedAt.map server.timestamp = sess.closedAt ∧ JSONMap.Utf8 sess.metadata
  | .createTunnel tunnel =>
      (tunnel.closedAt = none ∧ tunnel.bytesSent = 0 ∧ tunnel.bytesRecv = 0) ∧
        JSONMap.Utf8 tunnel.metadata
  | .updateTunnel tunnel =>
      (∀ row, p.tunnels.get tunnel.id = some row →
        row.sessionID = tunnel.sessionID ∧ row.type = tunnel.type ∧
          row.localAddr = tunnel.localAddr ∧ row.remoteAddr = tunnel.remoteAddr ∧
          tunnel.closedAt.map server.timestamp = tunnel.closedAt) ∧
        JSONMap.Utf8 tunnel.metadata
  | _ => True

/-- Every string of the record is UTF-8, and it is read within a day. -/
def RedisStore.KeepsRecord (stamp : Stamp) (writtenAt readAt : Time) : RecordCall → Prop
  | .createSession sess =>
      readAt ≤ writtenAt + day.toInt ∧ (sess.stamped stamp.fresh stamp.now).Utf8
  | .updateSession sess => readAt ≤ writtenAt + day.toInt ∧ sess.Utf8
  | .createTunnel tunnel =>
      readAt ≤ writtenAt + day.toInt ∧ (tunnel.stamped stamp.fresh stamp.now).Utf8
  | .updateTunnel tunnel => readAt ≤ writtenAt + day.toInt ∧ tunnel.Utf8
  | _ => True

/-- A call whose commands are all answered at one instant, as every create and update is. -/
def RedisStore.callsAt (r : RedisStore) (writtenAt : Time) (stamp : Stamp) (call : RecordCall)
    (reply : RecordReply) (r' : RedisStore) : Prop :=
  ∃ moments : List Moment, (∀ m ∈ moments, m.now = writtenAt) ∧
    play answer (script call stamp.fresh stamp.now) r moments = some (reply, r')

namespace Engine

/-- A `JSONB` of strings is read as it was stored. -/
def ExactJsonb : Engine → Prop
  | .postgres server => ∀ object stored, JSONObject.Strings object →
      server.jsonb object = some stored → stored = object
  | _ => True

/-- A call that the server answers at the instant `writtenAt`. -/
def callsAt : (e : Engine) → e.backend.State → Time → Stamp → RecordCall → RecordReply →
    e.backend.State → Prop
  | .memory, m, _, stamp, call, reply, m' => Memory.calls m stamp call reply m'
  | .postgres server, p, _, stamp, call, reply, p' =>
      PostgresRecords.calls server p stamp call reply p'
  | .redis, r, writtenAt, stamp, call, reply, r' =>
      RedisStore.callsAt r writtenAt stamp call reply r'

/-- When the record that a call writes is read as it was written. -/
def KeepsRecord : (e : Engine) → e.backend.State → Stamp → Time → Time → RecordCall → Prop
  | .memory, _, _, _, _, _ => True
  | .postgres server, p, _, _, _, call => PostgresRecords.KeepsRecord server p call
  | .redis, _, stamp, writtenAt, readAt, call =>
      RedisStore.KeepsRecord stamp writtenAt readAt call

end Engine

/-! ## Memory -/

theorem Session.readsAs_refl (sess : Session) : sess.ReadsAs sess := ⟨rfl, .inl rfl⟩

theorem Tunnel.readsAs_refl (tunnel : Tunnel) : tunnel.ReadsAs tunnel := ⟨rfl, .inl rfl⟩

theorem memory_reads {m m' : Memory} {stamp : Stamp} {call : RecordCall}
    (called : m.calls stamp call .done m') : m'.view.Reads stamp call := by
  obtain ⟨reading, rfl, -, applied⟩ := called
  cases call with
  | createSession sess =>
      simp only [Memory.apply, MemoryRecords.apply, MemoryRecords.createSession] at applied
      split at applied
      · cases applied
      · cases applied
        refine ⟨sess.stamped reading.fresh reading.now, ?_, Session.readsAs_refl _⟩
        exact (memory_session ..).trans (looked_eq_ok.2 ⟨rfl, Table.get_put_self ..⟩)
  | updateSession sess =>
      simp only [Memory.apply, MemoryRecords.apply, MemoryRecords.updateSession] at applied
      split at applied
      · cases applied
      · cases applied
        refine ⟨sess.touched reading.now, ?_, rfl, .inl rfl⟩
        exact (memory_session ..).trans (looked_eq_ok.2 ⟨rfl, Table.get_put_self ..⟩)
  | createTunnel tunnel =>
      simp only [Memory.apply, MemoryRecords.apply, MemoryRecords.createTunnel] at applied
      split at applied
      · cases applied
      · cases applied
        refine ⟨tunnel.stamped reading.fresh reading.now, ?_, Tunnel.readsAs_refl _⟩
        exact (memory_tunnel ..).trans (looked_eq_ok.2 ⟨rfl, Table.get_put_self ..⟩)
  | updateTunnel tunnel =>
      simp only [Memory.apply, MemoryRecords.apply, MemoryRecords.updateTunnel] at applied
      split at applied
      · cases applied
      · cases applied
        refine ⟨tunnel, ?_, Tunnel.readsAs_refl _⟩
        exact (memory_tunnel ..).trans (looked_eq_ok.2 ⟨rfl, Table.get_put_self ..⟩)
  | _ => trivial

/-! ## Metadata -/

theorem readBack_empty : (∅ : JSONObject).readBack = ∅ := by
  refine (JSONObject.readBack_eq_self_iff ∅).2 fun k v found => ?_
  rw [GoMap.get_empty] at found
  cases found

theorem strings_readBack {object : JSONObject} (strings : object.Strings) :
    object.readBack.Strings := by
  intro k v found
  obtain ⟨k₀, v₀, here, -, rfl⟩ := JSONObject.readFrom_of_readBack found
  obtain ⟨s, rfl⟩ := strings k₀ v₀ here
  exact ⟨coerce s, rfl⟩

/-- Metadata that went through JSON survives exactly when it is UTF-8. -/
theorem readsAs_readBack (metadata : JSONMap) :
    JSONMap.ReadsAs metadata (JSONMap.readBack metadata) ↔ JSONMap.Utf8 metadata := by
  cases metadata with
  | none => exact iff_of_true (.inl rfl) fun object same => by cases same
  | some object =>
      have same : JSONMap.ReadsAs (some object) (JSONMap.readBack (some object)) ↔
          JSONObject.readBack object = object := by
        simp [JSONMap.ReadsAs, JSONMap.readBack]
      rw [same, JSONObject.readBack_eq_self_iff]
      constructor
      · intro utf8 other same
        cases same
        exact utf8
      · exact fun utf8 => utf8 object rfl

/-- The same when it went through a `JSONB` column, where nil became empty. -/
theorem readsAs_stored {server : RecordServer} (exact : (Engine.postgres server).ExactJsonb)
    {value : JSONMap} (strings : JSONMap.Strings value) {metadata object : JSONObject}
    (marshalled : marshalJSONMap value = some metadata)
    (stored : server.jsonb metadata = some object) :
    JSONMap.ReadsAs value (some object) ↔ JSONMap.Utf8 value := by
  obtain ⟨-, same⟩ := Option.ite_none_right_eq_some.1 marshalled
  cases same
  cases value with
  | none =>
      have strings' : JSONObject.Strings (JSONObject.readBack ∅) := by
        rw [readBack_empty]
        intro k v found
        rw [GoMap.get_empty] at found
        cases found
      -- `marshalJSONMap` writes a nil map as an empty object.
      refine iff_of_true (.inr ⟨rfl, ?_⟩) fun object same => by cases same
      rw [exact _ _ strings' stored]
      exact congrArg some readBack_empty
  | some value =>
      obtain rfl := exact _ _ (strings_readBack (strings value rfl)) stored
      exact readsAs_readBack (some value)

/-! ## Postgres -/

section Rows

variable {server : RecordServer} (exact : (Engine.postgres server).ExactJsonb)
  {metadata : JSONObject}

section

variable {sess row : Session} (strings : JSONMap.Strings sess.metadata)
  (marshalled : marshalJSONMap sess.metadata = some metadata)

include exact strings marshalled

theorem sessionRow_readsAs (accepted : server.sessionRow sess metadata = some row) :
    sess.ReadsAs row ↔ sess.closedAt = none ∧ JSONMap.Utf8 sess.metadata := by
  obtain ⟨-, mapped⟩ := Option.ite_none_right_eq_some.1 accepted
  obtain ⟨object, stored, rfl⟩ := Option.map_eq_some_iff.1 mapped
  refine and_congr ?_ (readsAs_stored exact strings marshalled stored)
  obtain ⟨id, username, role, remoteAddr, createdAt, lastActive, closedAt, status, value⟩ := sess
  simp only [Session.mk.injEq, true_and, and_true]
  exact eq_comm

theorem sessionSet_readsAs {now : Time} {set : Session → Session} (same : row.id = sess.id)
    (accepted : server.sessionSet (sess.touched now) metadata = some set) :
    sess.ReadsAs (set row) ↔
      sess.closedAt.map server.timestamp = sess.closedAt ∧ JSONMap.Utf8 sess.metadata := by
  obtain ⟨-, mapped⟩ := Option.ite_none_right_eq_some.1 accepted
  obtain ⟨object, stored, rfl⟩ := Option.map_eq_some_iff.1 mapped
  refine and_congr ?_ (readsAs_stored exact strings marshalled stored)
  obtain ⟨id, username, role, remoteAddr, createdAt, lastActive, closedAt, status, value⟩ := sess
  simp only [Session.mk.injEq, Session.touched, true_and, and_true]
  exact and_iff_right same

end

variable {tunnel row : Tunnel} (strings : JSONMap.Strings tunnel.metadata)
  (marshalled : marshalJSONMap tunnel.metadata = some metadata)

include exact strings marshalled

theorem tunnelRow_readsAs (accepted : server.tunnelRow tunnel metadata = some row) :
    tunnel.ReadsAs row ↔
      (tunnel.closedAt = none ∧ tunnel.bytesSent = 0 ∧ tunnel.bytesRecv = 0) ∧
        JSONMap.Utf8 tunnel.metadata := by
  obtain ⟨-, mapped⟩ := Option.ite_none_right_eq_some.1 accepted
  obtain ⟨object, stored, rfl⟩ := Option.map_eq_some_iff.1 mapped
  refine and_congr ?_ (readsAs_stored exact strings marshalled stored)
  obtain ⟨id, sessionID, type, localAddr, remoteAddr, createdAt, closedAt, bytesSent, bytesRecv,
    status, value⟩ := tunnel
  simp only [Tunnel.mk.injEq, true_and, and_true]
  exact and_congr eq_comm (and_congr eq_comm eq_comm)

theorem tunnelSet_readsAs {set : Tunnel → Tunnel} (same : row.id = tunnel.id)
    (accepted : server.tunnelSet tunnel metadata = some set) :
    tunnel.ReadsAs (set row) ↔
      (row.sessionID = tunnel.sessionID ∧ row.type = tunnel.type ∧
        row.localAddr = tunnel.localAddr ∧ row.remoteAddr = tunnel.remoteAddr ∧
        tunnel.closedAt.map server.timestamp = tunnel.closedAt) ∧
      JSONMap.Utf8 tunnel.metadata := by
  obtain ⟨-, mapped⟩ := Option.ite_none_right_eq_some.1 accepted
  obtain ⟨object, stored, rfl⟩ := Option.map_eq_some_iff.1 mapped
  refine and_congr ?_ (readsAs_stored exact strings marshalled stored)
  obtain ⟨id, sessionID, type, localAddr, remoteAddr, createdAt, closedAt, bytesSent, bytesRecv,
    status, value⟩ := tunnel
  simp only [Tunnel.mk.injEq, true_and, and_true]
  exact and_iff_right same

end Rows

namespace PostgresRecords

variable {server : RecordServer} {p p' : PostgresRecords} {stamp : Stamp}

theorem reads_session {id : GoString} {row : Session} (text : server.text id = true)
    (found : p.sessions.get id = some row) (written : Session) :
    (∃ got, (p.view server).session id = .ok got ∧ written.ReadsAs got) ↔ written.ReadsAs row := by
  have only : ∀ got, (p.view server).session id = .ok got ↔ got = row := by
    intro got
    rw [postgres_session, looked_eq_ok, found, Option.some.injEq]
    exact (and_iff_right text).trans eq_comm
  simp only [only, exists_eq_left]

theorem reads_tunnel {id : GoString} {row : Tunnel} (text : server.text id = true)
    (found : p.tunnels.get id = some row) (written : Tunnel) :
    (∃ got, (p.view server).tunnel id = .ok got ∧ written.ReadsAs got) ↔ written.ReadsAs row := by
  have only : ∀ got, (p.view server).tunnel id = .ok got ↔ got = row := by
    intro got
    rw [postgres_tunnel, looked_eq_ok, found, Option.some.injEq]
    exact (and_iff_right text).trans eq_comm
  simp only [only, exists_eq_left]

theorem reads_iff (exact : (Engine.postgres server).ExactJsonb) {call : RecordCall}
    (strings : call.Strings) (called : p.calls server stamp call .done p') :
    (p'.view server).Reads stamp call ↔ KeepsRecord server p call := by
  obtain ⟨reading, rfl, -, applied⟩ := called
  cases call with
  | createSession sess =>
      simp only [apply] at applied
      rcases @createSession_cases server p sess reading.fresh reading.now with
        ⟨e, -, done⟩ | ⟨metadata, row, marshalled, accepted, -, done⟩
      · rw [done] at applied
        cases applied
      · rw [done] at applied
        cases applied
        have same := RecordServer.sessionRow_id accepted
        refine (reads_session (RecordServer.sessionRow_text accepted) ?_ _).trans
          (sessionRow_readsAs exact strings marshalled accepted)
        rw [← same]
        exact Table.get_put_self ..
  | updateSession sess =>
      simp only [apply] at applied
      rcases @updateSession_cases server p sess reading.now with
        ⟨e, -, -, done⟩ | ⟨metadata, set, marshalled, accepted, ⟨-, done⟩ | ⟨row, found, done⟩⟩
      · rw [done] at applied
        cases applied
      · rw [done] at applied
        cases applied
      · rw [done] at applied
        cases applied
        have same := p.sessions.key_of_get found
        refine (reads_session (RecordServer.sessionSet_text accepted) ?_ _).trans
          (sessionSet_readsAs exact strings marshalled same accepted)
        show (p.sessions.put (set row)).get sess.id = _
        rw [← same, ← RecordServer.sessionSet_id accepted row]
        exact Table.get_put_self ..
  | createTunnel tunnel =>
      simp only [apply] at applied
      rcases @createTunnel_cases server p tunnel reading.fresh reading.now with
        ⟨e, -, done⟩ | ⟨metadata, row, referenced, marshalled, accepted, -, done⟩
      · rw [done] at applied
        cases applied
      · rw [done] at applied
        cases applied
        have same := RecordServer.tunnelRow_id accepted
        refine (reads_tunnel (RecordServer.tunnelRow_text accepted) ?_ _).trans
          (tunnelRow_readsAs exact strings marshalled accepted)
        rw [← same]
        exact Table.get_put_self ..
  | updateTunnel tunnel =>
      simp only [apply] at applied
      rcases @updateTunnel_cases server p tunnel with
        ⟨e, -, -, done⟩ |
          ⟨metadata, set, marshalled, accepted, ⟨-, done⟩ | ⟨row, referenced, found, done⟩⟩
      · rw [done] at applied
        cases applied
      · rw [done] at applied
        cases applied
      · rw [done] at applied
        cases applied
        have same := p.tunnels.key_of_get found
        refine (reads_tunnel (RecordServer.tunnelSet_text accepted) ?_ _).trans
          ((tunnelSet_readsAs exact strings marshalled same accepted).trans ?_)
        · show (p.tunnels.put (set row)).get tunnel.id = _
          rw [← same, ← (RecordServer.tunnelSet_id accepted row).1]
          exact Table.get_put_self ..
        · simp only [KeepsRecord, found, Option.some.injEq, forall_eq']
  | _ => exact iff_of_true trivial trivial

end PostgresRecords

/-! ## Redis -/

theorem Session.readsAs_readBack_iff (sess : Session) : sess.ReadsAs sess.readBack ↔ sess.Utf8 := by
  unfold ReadsAs Utf8
  rw [← readsAs_readBack]
  obtain ⟨id, username, role, remoteAddr, createdAt, lastActive, closedAt, status, value⟩ := sess
  simp only [Session.mk.injEq, Session.readBack, coerce_eq_self_iff, true_and, and_true, and_assoc]

theorem Tunnel.readsAs_readBack_iff (tunnel : Tunnel) :
    tunnel.ReadsAs tunnel.readBack ↔ tunnel.Utf8 := by
  unfold ReadsAs Utf8
  rw [← readsAs_readBack]
  obtain ⟨id, sessionID, type, localAddr, remoteAddr, createdAt, closedAt, bytesSent, bytesRecv,
    status, value⟩ := tunnel
  simp only [Tunnel.mk.injEq, Tunnel.readBack, coerce_eq_self_iff, true_and, and_true, and_assoc]

namespace RedisStore

variable {r r' : RedisStore} {stamp : Stamp} {writtenAt readAt : Time}

/-- A document that is kept for a day is read within that day. -/
theorem readString_eq_document_iff {k : GoString} {doc : Document}
    (here : r.keys.get k = some ⟨.document doc, some (writtenAt + day.toInt)⟩) (doc' : Document) :
    r.readString k readAt = .ok (some (.document doc')) ↔
      readAt ≤ writtenAt + day.toInt ∧ doc' = doc := by
  by_cases within : readAt ≤ writtenAt + day.toInt
  · have unexpired :
        RedisEntry.expired ⟨.document doc, some (writtenAt + day.toInt)⟩ readAt = false :=
      decide_eq_false (not_lt.2 within)
    rw [readString, live_of_unexpired here unexpired]
    simp [within, eq_comm]
  · have expired : RedisEntry.expired ⟨.document doc, some (writtenAt + day.toInt)⟩ readAt = true :=
      decide_eq_true (not_le.1 within)
    rw [readString, live_of_expired here expired]
    simp [within]

theorem reads_session {id : GoString} {sess : Session}
    (here : r.keys.get (sessionKey id) =
      some ⟨.document sess.document, some (writtenAt + day.toInt)⟩) (written : Session) :
    (∃ got, (r.view readAt).session id = .ok got ∧ written.ReadsAs got) ↔
      readAt ≤ writtenAt + day.toInt ∧ written.ReadsAs sess.readBack := by
  have only : ∀ got, (r.view readAt).session id = .ok got ↔
      readAt ≤ writtenAt + day.toInt ∧ got = sess.readBack := by
    intro got
    refine sessionOf_eq_ok.trans ?_
    simp only [readString_eq_document_iff here, and_assoc, exists_and_left, exists_eq_left,
      Session.unmarshal_document, Option.some.injEq]
    exact and_congr_right fun _ => eq_comm
  simp only [only, and_assoc, exists_and_left, exists_eq_left]

theorem reads_tunnel {id : GoString} {tunnel : Tunnel}
    (here : r.keys.get (tunnelKey id) =
      some ⟨.document tunnel.document, some (writtenAt + day.toInt)⟩) (written : Tunnel) :
    (∃ got, (r.view readAt).tunnel id = .ok got ∧ written.ReadsAs got) ↔
      readAt ≤ writtenAt + day.toInt ∧ written.ReadsAs tunnel.readBack := by
  have only : ∀ got, (r.view readAt).tunnel id = .ok got ↔
      readAt ≤ writtenAt + day.toInt ∧ got = tunnel.readBack := by
    intro got
    refine tunnelOf_eq_ok.trans ?_
    simp only [readString_eq_document_iff here, and_assoc, exists_and_left, exists_eq_left,
      Tunnel.unmarshal_document, Option.some.injEq]
    exact and_congr_right fun _ => eq_comm
  simp only [only, and_assoc, exists_and_left, exists_eq_left]

theorem reads_iff {call : RecordCall} (called : r.callsAt writtenAt stamp call .done r') :
    (r'.view readAt).Reads stamp call ↔ KeepsRecord stamp writtenAt readAt call := by
  obtain ⟨moments, instant, played⟩ := called
  cases call with
  | createSession sess =>
      obtain ⟨result, shown, sent⟩ := play_map_eq_some.1 played
      rcases play_createSession sent with ⟨-, -, done⟩ | ⟨doc, l, data, rfl, done⟩
      · cases done
        cases shown
      · obtain rfl : l.now = writtenAt := instant l (by simp)
        obtain ⟨-, rfl⟩ := Session.marshal_eq_some.1 data
        have apart := sessionKey_ne_userSessionsKey (identified sess.id stamp.fresh) sess.username
        rw [show r' = _ from congrArg Prod.snd done]
        refine (reads_session (get_commit_set r l.now _ apart) _).trans ?_
        exact and_congr_right fun _ => Session.readsAs_readBack_iff _
  | updateSession sess =>
      obtain ⟨result, shown, sent⟩ := play_map_eq_some.1 played
      rcases play_updateSession sent with ⟨-, -, done⟩ | ⟨doc, l, data, rfl, done⟩
      · cases done
        cases shown
      · obtain rfl : l.now = writtenAt := instant l (by simp)
        obtain ⟨-, rfl⟩ := Session.marshal_eq_some.1 data
        rw [show r' = _ from congrArg Prod.snd done]
        refine (reads_session (get_setValue_day r _ _ l.now) _).trans ?_
        exact and_congr_right fun _ => Session.readsAs_readBack_iff sess
  | createTunnel tunnel =>
      obtain ⟨result, shown, sent⟩ := play_map_eq_some.1 played
      rcases play_createTunnel sent with ⟨-, -, done⟩ | ⟨doc, l, data, rfl, done⟩
      · cases done
        cases shown
      · obtain rfl : l.now = writtenAt := instant l (by simp)
        obtain ⟨-, rfl⟩ := Tunnel.marshal_eq_some.1 data
        have apart := tunnelKey_ne_sessionTunnelsKey (identified tunnel.id stamp.fresh)
          tunnel.sessionID
        rw [show r' = _ from congrArg Prod.snd done]
        refine (reads_tunnel (get_commit_set r l.now _ apart) _).trans ?_
        exact and_congr_right fun _ => Tunnel.readsAs_readBack_iff _
  | updateTunnel tunnel =>
      obtain ⟨result, shown, sent⟩ := play_map_eq_some.1 played
      rcases play_updateTunnel sent with ⟨-, -, done⟩ | ⟨doc, l, data, rfl, done⟩
      · cases done
        cases shown
      · obtain rfl : l.now = writtenAt := instant l (by simp)
        obtain ⟨-, rfl⟩ := Tunnel.marshal_eq_some.1 data
        rw [show r' = _ from congrArg Prod.snd done]
        refine (reads_tunnel (get_setValue_day r _ _ l.now) _).trans ?_
        exact and_congr_right fun _ => Tunnel.readsAs_readBack_iff tunnel
  | _ => exact iff_of_true trivial trivial

end RedisStore

/-! ## The three stores -/

/-- **A record reads as it was written.**  After a create or an update that succeeds, a lookup of
its ID returns the record exactly when the store keeps all of it: in memory always; in Postgres
when the statement names every field that matters and the columns hold what they are given; in
Redis when every string is UTF-8 and the day of the key is not yet past. -/
theorem round_trip_iff (e : Engine) (s s' : e.backend.State) (stamp : Stamp) (call : RecordCall)
    (writtenAt readAt : Time) (exact : e.ExactJsonb) (strings : call.Strings)
    (called : e.callsAt s writtenAt stamp call .done s') :
    (e.backend.view s' readAt).Reads stamp call ↔ e.KeepsRecord s stamp writtenAt readAt call := by
  cases e with
  | memory => exact iff_of_true (memory_reads called) trivial
  | postgres server => exact PostgresRecords.reads_iff exact strings called
  | redis => exact RedisStore.reads_iff called

/-- Metadata with two strings. -/
def sampleMetadata : JSONObject :=
  (GoMap.set ∅ (str "client") (.text (str "lab-cli"))).set (str "aula") (.text (str "salón 3"))

theorem sampleMetadata_get {k : GoString} {v : AnyValue} (found : sampleMetadata.get k = some v) :
    validString k = true ∧ ∃ s, v = .text s ∧ validString s = true := by
  simp only [sampleMetadata, GoMap.get_set] at found
  split_ifs at found with second first
  · exact second ▸ ⟨by decide, _, (Option.some.inj found).symm, by decide⟩
  · exact first ▸ ⟨by decide, _, (Option.some.inj found).symm, by decide⟩
  · rw [GoMap.get_empty] at found
    cases found

/-- A session with metadata in Redis, read a minute later. -/
theorem round_trip_redis :
    let sess : Session := { sampleSession with metadata := some sampleMetadata }
    ∃ r' : RedisStore,
      newRedisStore.callsAt 2 ⟨default, 1⟩ (.createSession sess) .done r' ∧
      (r'.view 60000000002).Reads ⟨default, 1⟩ (.createSession sess) := by
  intro sess
  let script := RedisStore.script (.createSession sess) default 1
  have replied : (play RedisStore.answer script newRedisStore [⟨2, []⟩]).map Prod.fst =
      some .done := by decide +kernel
  obtain ⟨⟨reply, r'⟩, played, same⟩ := Option.map_eq_some_iff.1 replied
  obtain rfl : reply = .done := same
  have called : newRedisStore.callsAt 2 ⟨default, 1⟩ (.createSession sess) .done r' :=
    ⟨[⟨2, []⟩], by simp, played⟩
  have strings : JSONMap.Strings sess.metadata := by
    rintro object ⟨⟩ k v found
    obtain ⟨-, s, rfl, -⟩ := sampleMetadata_get found
    exact ⟨s, rfl⟩
  have utf8 : JSONMap.Utf8 sess.metadata := by
    rintro object ⟨⟩ k v found
    obtain ⟨key, s, rfl, text⟩ := sampleMetadata_get found
    exact ⟨key, congrArg AnyValue.text ((coerce_eq_self_iff s).2 text)⟩
  refine ⟨r', called, ?_⟩
  exact (round_trip_iff .redis newRedisStore r' ⟨default, 1⟩ (.createSession sess) 2
    60000000002 trivial strings called).2
    ⟨by decide, by decide, by decide, by decide, by decide, by decide, utf8⟩

/-- In Postgres a tunnel that is created with five bytes sent reads as one with none, and an update
with another address leaves the address.  In Redis a role that is no UTF-8 reads as another. -/
theorem round_trip_lost :
    let used : Tunnel := { sampleTunnel with bytesSent := 5 }
    let moved : Tunnel := { sampleTunnel with remoteAddr := str "10.0.0.9:443" }
    let garbled : Session := { sampleSession with role := [0xFF] }
    let p := (newPostgresRecords.createSession sampleServer sampleSession default 1).2
    let created := p.createTunnel sampleServer used default 2
    let updated := created.2.updateTunnel sampleServer moved
    let seen := fun out : RecordReply × RedisStore =>
      (out.1, ((out.2.view 2).session (str "s1")).toOption.map Session.role)
    created.1 = .ok () ∧
    (created.2.getTunnel sampleServer (str "t1")).toOption.map Tunnel.bytesSent = some 0 ∧
    updated.1 = .ok () ∧
    (updated.2.getTunnel sampleServer (str "t1")).toOption.map Tunnel.remoteAddr =
      some sampleTunnel.remoteAddr ∧
    sampleTunnel.remoteAddr ≠ moved.remoteAddr ∧
    (play RedisStore.answer (RedisStore.script (.createSession garbled) default 1) newRedisStore
      [⟨1, []⟩]).map seen = some (.done, some [0xEF, 0xBF, 0xBD]) := by
  decide

end SentinelOps.Store
