/-
# Store.Records — the records of a store, their stamps, filters and windows

What the three stores share: sessions, tunnels and audit entries as `store.go` declares them,
the fields a `Create` fills in by itself (`stamped`), the conditions of a filter (`accepts`) and
the window that cuts a page out of a listing.  A window adds two `int`s before it slices, so it
is partial: `none` is the panic of a slice whose bounds are in the wrong order.
-/
import SentinelOps.Theory.GoMap
import SentinelOps.Theory.GoTime
import SentinelOps.Theory.GoUtf8

namespace SentinelOps.Store

open Theory GoText
open GoTime (Time)

set_option autoImplicit false

/-! ## Records -/

/-- What `json.Unmarshal` makes of a text: a string, or another value, given by the text. -/
inductive Decoded where
  | string (s : GoString)
  | plain (encoded : GoString)
deriving DecidableEq

/-- A value of type `any`: a string, one that `json.Unmarshal` makes, or any other.  Of an `other`
value the decoding is a part: what the text that `json.Marshal` writes for it is read as, `none`
when it refuses, as for a channel.  An integer is read as the nearest `float64`, an instant or a
byte slice as a string. -/
inductive AnyValue where
  | text (s : GoString)
  | plain (encoded : GoString)
  | other (value : GoString) (decoded : Option Decoded)
deriving DecidableEq

/-- `JSONMap`; `none` is the nil map. -/
abbrev JSONMap := Option (GoMap GoString AnyValue)

structure Session where
  id : GoString
  username : GoString
  role : GoString
  remoteAddr : GoString
  createdAt : Time
  lastActive : Time
  closedAt : Option Time := none
  status : GoString
  metadata : JSONMap := none
deriving DecidableEq

structure Tunnel where
  id : GoString
  sessionID : GoString
  type : GoString
  localAddr : GoString
  remoteAddr : GoString
  createdAt : Time
  closedAt : Option Time := none
  bytesSent : Int64 := 0
  bytesRecv : Int64 := 0
  status : GoString
  metadata : JSONMap := none
deriving DecidableEq

structure AuditEntry where
  id : GoString
  timestamp : Time
  correlationID : GoString
  traceID : GoString
  action : GoString
  username : GoString
  role : GoString
  resource : GoString
  result : GoString
  details : JSONMap := none
  sourceIP : GoString
deriving DecidableEq

def sampleSession : Session where
  id := str "s1"
  username := str "ana"
  role := str "operator"
  remoteAddr := str "10.0.0.7:52114"
  createdAt := 0
  lastActive := 0
  status := str "active"

def sampleTunnel : Tunnel where
  id := str "t1"
  sessionID := str "s1"
  type := str "local"
  localAddr := str "127.0.0.1:8080"
  remoteAddr := str "10.0.0.9:80"
  createdAt := 0
  status := str "active"

/-- The errors a caller can tell apart: the two sentinels, a record that `json.Marshal` or
`json.Unmarshal` refuses, and whatever the driver of the database reports. -/
inductive StoreError where
  | errNotFound
  | errAlreadyExists
  | encoding
  | driver
deriving DecidableEq, Repr

/-! ## Stamps -/

/-- What `uuid.New().String()` can return. -/
structure Uuid where
  text : GoString
  length : text.length = 36
  digits : ∀ b ∈ text, b = 0x2D ∨ (0x30 ≤ b ∧ b ≤ 0x39) ∨ (0x61 ≤ b ∧ b ≤ 0x66)

instance : Inhabited Uuid :=
  ⟨⟨str "f47ac10b-58cc-4372-a567-0e02b2c3d479", by decide +kernel, by decide +kernel⟩⟩

namespace Uuid

theorem text_ne_nil (u : Uuid) : u.text ≠ [] := by
  intro empty
  have long := u.length
  rw [empty] at long
  cases long

theorem ascii (u : Uuid) {b : UInt8} (member : b ∈ u.text) : b < 0x80 ∧ b ≠ 0x3A := by
  rcases u.digits b member with rfl | ⟨low, high⟩ | ⟨low, high⟩
  · decide
  · rw [UInt8.le_iff_toNat_le] at low high
    rw [UInt8.lt_iff_toNat_lt, Ne, ← UInt8.toNat_inj]
    exact ⟨lt_of_le_of_lt high (by decide), by simp at high ⊢; omega⟩
  · rw [UInt8.le_iff_toNat_le] at low high
    rw [UInt8.lt_iff_toNat_lt, Ne, ← UInt8.toNat_inj]
    exact ⟨lt_of_le_of_lt high (by decide), by simp at low ⊢; omega⟩

end Uuid

/-- An empty ID is replaced by a fresh one. -/
def identified (id : GoString) (fresh : Uuid) : GoString := if id = [] then fresh.text else id

/-- An empty status is replaced by `active`. -/
def activeByDefault (status : GoString) : GoString := if status = [] then str "active" else status

theorem identified_ne_nil (id : GoString) (fresh : Uuid) : identified id fresh ≠ [] := by
  unfold identified
  split
  · exact fresh.text_ne_nil
  · assumption

namespace Session

/-- What `CreateSession` stores. -/
def stamped (sess : Session) (fresh : Uuid) (now : Time) : Session :=
  { sess with
    id := identified sess.id fresh
    createdAt := now
    lastActive := now
    status := activeByDefault sess.status }

/-- What `UpdateSession` and `TouchSession` stamp. -/
def touched (sess : Session) (now : Time) : Session := { sess with lastActive := now }

end Session

namespace Tunnel

/-- What `CreateTunnel` stores. -/
def stamped (tunnel : Tunnel) (fresh : Uuid) (now : Time) : Tunnel :=
  { tunnel with
    id := identified tunnel.id fresh
    createdAt := now
    status := activeByDefault tunnel.status }

end Tunnel

namespace AuditEntry

/-- What `AppendAuditLog` stores. -/
def stamped (entry : AuditEntry) (fresh : Uuid) (now : Time) : AuditEntry :=
  { entry with id := identified entry.id fresh, timestamp := now }

end AuditEntry

/-! ## Filters -/

/-- A string field of a filter; the empty string does not filter. -/
def matchesField (wanted actual : GoString) : Bool := wanted == [] || actual == wanted

structure SessionFilter where
  username : GoString := []
  status : GoString := []
  since : Option Time := none
  remoteAddr : GoString := []
  limit : Int64 := 0
  offset : Int64 := 0

structure TunnelFilter where
  sessionID : GoString := []
  type : GoString := []
  status : GoString := []
  limit : Int64 := 0
  offset : Int64 := 0

structure AuditFilter where
  username : GoString := []
  action : GoString := []
  result : GoString := []
  since : Option Time := none
  upTo : Option Time := none
  limit : Int64 := 0
  offset : Int64 := 0

def SessionFilter.accepts (filter : SessionFilter) (sess : Session) : Bool :=
  matchesField filter.username sess.username && matchesField filter.status sess.status &&
    matchesField filter.remoteAddr sess.remoteAddr &&
    filter.since.all fun since => !sess.createdAt.before since

def TunnelFilter.accepts (filter : TunnelFilter) (tunnel : Tunnel) : Bool :=
  matchesField filter.sessionID tunnel.sessionID && matchesField filter.type tunnel.type &&
    matchesField filter.status tunnel.status

def AuditFilter.accepts (filter : AuditFilter) (entry : AuditEntry) : Bool :=
  matchesField filter.username entry.username && matchesField filter.action entry.action &&
    matchesField filter.result entry.result &&
    (filter.since.all fun since => !entry.timestamp.before since) &&
    filter.upTo.all fun upTo => !upTo.before entry.timestamp

/-! ## Calls -/

/-- The calls of a `Store` on sessions and tunnels, with their arguments. -/
inductive RecordCall where
  | createSession (sess : Session)
  | getSession (id : GoString)
  | updateSession (sess : Session)
  | deleteSession (id : GoString)
  | listSessions (filter : SessionFilter)
  | countActiveSessions (username : GoString)
  | touchSession (id : GoString)
  | createTunnel (tunnel : Tunnel)
  | getTunnel (id : GoString)
  | updateTunnel (tunnel : Tunnel)
  | deleteTunnel (id : GoString)
  | listTunnels (filter : TunnelFilter)
  | deleteTunnelsBySession (sessionID : GoString)

/-- What such a call returns. -/
inductive RecordReply where
  | done
  | session (sess : Session)
  | sessions (listed : List Session)
  | count (n : Nat)
  | tunnel (tunnel : Tunnel)
  | tunnels (listed : List Tunnel)
  | ids (deleted : List GoString)
  | failed (e : StoreError)
  | panicked
deriving DecidableEq

namespace RecordReply

/-- The reply of a call that returns `(T, error)`. -/
def ofExcept {T : Type} (value : T → RecordReply) : Except StoreError T → RecordReply
  | .ok v => value v
  | .error e => .failed e

/-- The reply of a call that returns an `error`. -/
def ofError : Except StoreError Unit → RecordReply := ofExcept fun _ => .done

/-- The reply of a listing, whose window may panic. -/
def ofWindow {T : Type} (value : T → RecordReply) : Option T → RecordReply
  | some v => value v
  | none => .panicked

end RecordReply

/-! ## Windows -/

/-- `input[low:high]`; `none` is the panic when the bounds are not in order. -/
def sliced {α : Type} (input : List α) (low high : Int) : Option (List α) :=
  if 0 ≤ low ∧ low ≤ high ∧ high ≤ input.length then
    some ((input.take high.toNat).drop low.toNat)
  else none

/-- The body of the three windows.  `offset + limit` is an addition of `int`s and wraps. -/
def applyWindow {α : Type} (input : List α) (limit offset : Int64) : Option (List α) :=
  if (input.length : Int) ≤ offset.toInt then some []
  else
    let offset := if offset < 0 then 0 else offset
    let stop : Int :=
      if 0 < limit ∧ (offset + limit).toInt < input.length then (offset + limit).toInt
      else input.length
    sliced input offset.toInt stop

def applySessionWindow (input : List Session) (limit offset : Int64) : Option (List Session) :=
  applyWindow input limit offset

def applyTunnelWindow (input : List Tunnel) (limit offset : Int64) : Option (List Tunnel) :=
  applyWindow input limit offset

def applyAuditWindow (input : List AuditEntry) (limit offset : Int64) :
    Option (List AuditEntry) :=
  applyWindow input limit offset

end SentinelOps.Store
