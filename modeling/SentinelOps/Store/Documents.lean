/-
# Store.Documents — records as JSON

`RedisStore` keeps a session, a tunnel or an audit entry as the text `json.Marshal` writes for
it.  A `Document` is that text member by member, under the names of the struct tags: an instant
stands for its RFC 3339 text, which keeps every nanosecond, and an integer for its digits.
`marshal` refuses a year outside 0 to 9999 and a metadata value that has no encoding.

What `json.Unmarshal` makes of a document that was marshalled is `readBack`: the same record
with every string coerced to UTF-8 and every other metadata value as its text is read, which the
value says itself, so that it may be anything (`Session.unmarshal_document` and its siblings).
Keys of the metadata are written in the order of their bytes; two that become the same are
two members of the text, and the later one is read.
-/
import SentinelOps.Store.Records
import Mathlib.Data.Finset.Sort

namespace SentinelOps.Store

open Theory GoText
open GoTime (Time)

set_option autoImplicit false

/-! ## Metadata -/

namespace AnyValue

def marshals : AnyValue → Bool
  | .other _ none => false
  | _ => true

/-- What `json.Unmarshal` makes of the text; a string in it is UTF-8. -/
def readBack : AnyValue → AnyValue
  | .other _ (some (.string s)) => .text (coerce s)
  | .other _ (some (.plain encoded)) => .plain encoded
  | .text s => .text (coerce s)
  | v => v

end AnyValue

abbrev JSONObject := GoMap GoString AnyValue

namespace JSONObject

def marshals (object : JSONObject) : Bool := decide (∀ e ∈ object.entries, e.2.marshals = true)

/-- One member is read. -/
def readMember (object read : JSONObject) (k : GoString) : JSONObject :=
  (object.get k).elim read fun v => read.set (coerce k) v.readBack

/-- What is read of the members, in the order in which they are written. -/
def readMembers (object : JSONObject) (keys : List GoString) : JSONObject :=
  keys.foldl object.readMember ∅

def readBack (object : JSONObject) : JSONObject :=
  object.readMembers (object.keys.sort (· ≤ ·))

/-- Every key is UTF-8, and every value is read as it was. -/
def Utf8 (object : JSONObject) : Prop :=
  ∀ k v, object.get k = some v → validString k = true ∧ v.readBack = v

theorem mem_sorted_keys {object : JSONObject} {k : GoString} :
    k ∈ object.keys.sort (· ≤ ·) ↔ ∃ v, object.get k = some v := by
  rw [Finset.mem_sort, Finmap.mem_keys, ← Finmap.lookup_isSome, Option.isSome_iff_exists]
  rfl

/-- What is read comes from a member that was written. -/
def ReadFrom (object : JSONObject) (k : GoString) (v : AnyValue) : Prop :=
  ∃ k₀ v₀, object.get k₀ = some v₀ ∧ k = coerce k₀ ∧ v = v₀.readBack

theorem readFrom_foldl {object read : JSONObject} {keys : List GoString}
    (start : ∀ k v, read.get k = some v → object.ReadFrom k v) {k : GoString} {v : AnyValue}
    (found : (keys.foldl object.readMember read).get k = some v) : object.ReadFrom k v := by
  induction keys generalizing read with
  | nil => exact start k v found
  | cons k' keys ih =>
      refine ih (fun k v found => ?_) found
      rw [readMember] at found
      cases here : object.get k' with
      | none =>
          rw [here] at found
          exact start k v found
      | some v' =>
          rw [here, Option.elim_some, GoMap.get_set] at found
          split at found
          · next same =>
              cases found
              exact ⟨k', v', here, same, rfl⟩
          · exact start k v found

theorem readFrom_of_readBack {object : JSONObject} {k : GoString} {v : AnyValue}
    (found : object.readBack.get k = some v) : object.ReadFrom k v := by
  refine readFrom_foldl (fun k v none_ => ?_) found
  rw [GoMap.get_empty] at none_
  cases none_

/-- Members that are UTF-8 are read as they were written. -/
theorem get_foldl_of_utf8 {object : JSONObject} (utf8 : object.Utf8) {keys : List GoString}
    (written : ∀ k ∈ keys, ∃ v, object.get k = some v) (read : JSONObject) (k : GoString) :
    (keys.foldl object.readMember read).get k = if k ∈ keys then object.get k else read.get k := by
  induction keys generalizing read with
  | nil => rfl
  | cons k' keys ih =>
      obtain ⟨v', here⟩ := written k' List.mem_cons_self
      obtain ⟨valid, same⟩ := utf8 k' v' here
      have next : object.readMember read k' = read.set k' v' := by
        rw [readMember, here, Option.elim_some, same, (coerce_eq_self_iff k').2 valid]
      rw [List.foldl_cons, next, ih fun k member => written k (List.mem_cons_of_mem _ member),
        GoMap.get_set]
      by_cases later : k ∈ keys
      · rw [if_pos later, if_pos (List.mem_cons_of_mem _ later)]
      · rw [if_neg later]
        by_cases mine : k = k'
        · rw [if_pos mine, if_pos (mine ▸ List.mem_cons_self), mine, here]
        · rw [if_neg mine, if_neg (by simp [mine, later])]

theorem readBack_readBack (v : AnyValue) : v.readBack.readBack = v.readBack := by
  cases v with
  | text s => exact congrArg AnyValue.text (coerce_coerce s)
  | plain encoded => rfl
  | other value decoded =>
      rcases decoded with _ | s | encoded
      · rfl
      · exact congrArg AnyValue.text (coerce_coerce s)
      · rfl

theorem utf8_readBack (object : JSONObject) : object.readBack.Utf8 := by
  intro k v here
  obtain ⟨k₀, v₀, -, rfl, rfl⟩ := readFrom_of_readBack here
  exact ⟨validString_coerce k₀, readBack_readBack v₀⟩

/-- **Exactly the objects of UTF-8 keys and values that are read as they were survive.** -/
theorem readBack_eq_self_iff (object : JSONObject) : object.readBack = object ↔ object.Utf8 := by
  constructor
  · intro same
    rw [← same]
    exact utf8_readBack object
  · intro utf8
    refine Finmap.ext_lookup fun k => ?_
    refine (get_foldl_of_utf8 utf8 (fun k => mem_sorted_keys.1) ∅ k).trans ?_
    split
    · rfl
    · next unwritten =>
        rw [GoMap.get_empty, eq_comm, Option.eq_none_iff_forall_ne_some]
        exact fun v here => unwritten (mem_sorted_keys.2 ⟨v, here⟩)

end JSONObject

/-! ## Documents -/

/-- The value of a member of a document. -/
inductive Member where
  | string (s : GoString)
  | instant (t : Time)
  | integer (n : Int64)
  | object (members : JSONObject)
  | null
deriving DecidableEq

abbrev Document := List (GoString × Member)

/-- `time.Time.MarshalJSON` takes the years of RFC 3339. -/
def marshalsTime (t : Time) : Bool := 0 ≤ t.year && t.year ≤ 9999

namespace JSONMap

def marshals (metadata : JSONMap) : Bool := metadata.all JSONObject.marshals

def member (metadata : JSONMap) : Member :=
  metadata.elim .null fun object : JSONObject => .object object.readBack

def readBack (metadata : JSONMap) : JSONMap := metadata.map JSONObject.readBack

end JSONMap

/-- A member with `omitempty`. -/
def omitEmpty (tag : GoString) (t : Option Time) : Document :=
  t.elim [] fun t => [(tag, .instant t)]

namespace Session

/-- The text of a session when no field of it is refused. -/
def document (sess : Session) : Document :=
  [(str "id", .string (coerce sess.id)), (str "username", .string (coerce sess.username)),
    (str "role", .string (coerce sess.role)),
    (str "remote_addr", .string (coerce sess.remoteAddr)),
    (str "created_at", .instant sess.createdAt), (str "last_active", .instant sess.lastActive)] ++
  omitEmpty (str "closed_at") sess.closedAt ++
  [(str "status", .string (coerce sess.status)),
    (str "metadata", JSONMap.member sess.metadata)]

def marshals (sess : Session) : Bool :=
  marshalsTime sess.createdAt && marshalsTime sess.lastActive &&
    sess.closedAt.all marshalsTime && JSONMap.marshals sess.metadata

/-- `json.Marshal`; `none` is its error. -/
def marshal (sess : Session) : Option Document := if sess.marshals then some sess.document else none

def readBack (sess : Session) : Session :=
  { sess with
    id := coerce sess.id
    username := coerce sess.username
    role := coerce sess.role
    remoteAddr := coerce sess.remoteAddr
    status := coerce sess.status
    metadata := JSONMap.readBack sess.metadata }

end Session

namespace Tunnel

def document (tunnel : Tunnel) : Document :=
  [(str "id", .string (coerce tunnel.id)),
    (str "session_id", .string (coerce tunnel.sessionID)),
    (str "type", .string (coerce tunnel.type)),
    (str "local_addr", .string (coerce tunnel.localAddr)),
    (str "remote_addr", .string (coerce tunnel.remoteAddr)),
    (str "created_at", .instant tunnel.createdAt)] ++
  omitEmpty (str "closed_at") tunnel.closedAt ++
  [(str "bytes_sent", .integer tunnel.bytesSent), (str "bytes_recv", .integer tunnel.bytesRecv),
    (str "status", .string (coerce tunnel.status)),
    (str "metadata", JSONMap.member tunnel.metadata)]

def marshals (tunnel : Tunnel) : Bool :=
  marshalsTime tunnel.createdAt && tunnel.closedAt.all marshalsTime &&
    JSONMap.marshals tunnel.metadata

def marshal (tunnel : Tunnel) : Option Document :=
  if tunnel.marshals then some tunnel.document else none

def readBack (tunnel : Tunnel) : Tunnel :=
  { tunnel with
    id := coerce tunnel.id
    sessionID := coerce tunnel.sessionID
    type := coerce tunnel.type
    localAddr := coerce tunnel.localAddr
    remoteAddr := coerce tunnel.remoteAddr
    status := coerce tunnel.status
    metadata := JSONMap.readBack tunnel.metadata }

end Tunnel

namespace AuditEntry

def document (entry : AuditEntry) : Document :=
  [(str "id", .string (coerce entry.id)), (str "timestamp", .instant entry.timestamp),
    (str "correlation_id", .string (coerce entry.correlationID)),
    (str "trace_id", .string (coerce entry.traceID)),
    (str "action", .string (coerce entry.action)),
    (str "username", .string (coerce entry.username)), (str "role", .string (coerce entry.role)),
    (str "resource", .string (coerce entry.resource)),
    (str "result", .string (coerce entry.result)),
    (str "details", JSONMap.member entry.details),
    (str "source_ip", .string (coerce entry.sourceIP))]

def marshals (entry : AuditEntry) : Bool :=
  marshalsTime entry.timestamp && JSONMap.marshals entry.details

def marshal (entry : AuditEntry) : Option Document :=
  if entry.marshals then some entry.document else none

def readBack (entry : AuditEntry) : AuditEntry :=
  { entry with
    id := coerce entry.id
    correlationID := coerce entry.correlationID
    traceID := coerce entry.traceID
    action := coerce entry.action
    username := coerce entry.username
    role := coerce entry.role
    resource := coerce entry.resource
    result := coerce entry.result
    details := JSONMap.readBack entry.details
    sourceIP := coerce entry.sourceIP }

end AuditEntry

/-! ## Reading -/

namespace Document

/-- A field of the struct; a member that is missing or `null` leaves the zero value. -/
def field {T : Type} (doc : Document) (tag : GoString) (zero : T) (read : Member → Option T) :
    Option T :=
  match doc.lookup tag with
  | none => some zero
  | some .null => some zero
  | some value => read value

def text (doc : Document) (tag : GoString) : Option GoString :=
  doc.field tag [] fun
    | .string s => some s
    | _ => none

def time (doc : Document) (tag : GoString) : Option Time :=
  doc.field tag 0 fun
    | .instant t => some t
    | _ => none

def timePointer (doc : Document) (tag : GoString) : Option (Option Time) :=
  doc.field tag none fun
    | .instant t => some (some t)
    | _ => none

def int (doc : Document) (tag : GoString) : Option Int64 :=
  doc.field tag 0 fun
    | .integer n => some n
    | _ => none

def jsonMap (doc : Document) (tag : GoString) : Option JSONMap :=
  doc.field tag none fun
    | .object members => some (some members)
    | _ => none

/-- `json.Unmarshal` into a `Session`; `none` is its error. -/
def unmarshalSession (doc : Document) : Option Session := do
  let id ← doc.text (str "id")
  let username ← doc.text (str "username")
  let role ← doc.text (str "role")
  let remoteAddr ← doc.text (str "remote_addr")
  let createdAt ← doc.time (str "created_at")
  let lastActive ← doc.time (str "last_active")
  let closedAt ← doc.timePointer (str "closed_at")
  let status ← doc.text (str "status")
  let metadata ← doc.jsonMap (str "metadata")
  some { id, username, role, remoteAddr, createdAt, lastActive, closedAt, status, metadata }

/-- `json.Unmarshal` into a `Tunnel`; `none` is its error. -/
def unmarshalTunnel (doc : Document) : Option Tunnel := do
  let id ← doc.text (str "id")
  let sessionID ← doc.text (str "session_id")
  let type ← doc.text (str "type")
  let localAddr ← doc.text (str "local_addr")
  let remoteAddr ← doc.text (str "remote_addr")
  let createdAt ← doc.time (str "created_at")
  let closedAt ← doc.timePointer (str "closed_at")
  let bytesSent ← doc.int (str "bytes_sent")
  let bytesRecv ← doc.int (str "bytes_recv")
  let status ← doc.text (str "status")
  let metadata ← doc.jsonMap (str "metadata")
  some { id, sessionID, type, localAddr, remoteAddr, createdAt, closedAt, bytesSent, bytesRecv,
         status, metadata }

/-- `json.Unmarshal` into an `AuditEntry`; `none` is its error. -/
def unmarshalAuditEntry (doc : Document) : Option AuditEntry := do
  let id ← doc.text (str "id")
  let timestamp ← doc.time (str "timestamp")
  let correlationID ← doc.text (str "correlation_id")
  let traceID ← doc.text (str "trace_id")
  let action ← doc.text (str "action")
  let username ← doc.text (str "username")
  let role ← doc.text (str "role")
  let resource ← doc.text (str "resource")
  let result ← doc.text (str "result")
  let details ← doc.jsonMap (str "details")
  let sourceIP ← doc.text (str "source_ip")
  some { id, timestamp, correlationID, traceID, action, username, role, resource, result, details,
         sourceIP }

end Document

theorem Session.marshal_eq_some {sess : Session} {doc : Document} :
    sess.marshal = some doc ↔ sess.marshals = true ∧ sess.document = doc := by
  rw [Session.marshal, Option.ite_none_right_eq_some, Option.some.injEq]

theorem Session.marshal_eq_none {sess : Session} :
    sess.marshal = none ↔ ¬ sess.marshals = true := by
  simp [Session.marshal]

theorem Tunnel.marshal_eq_some {tunnel : Tunnel} {doc : Document} :
    tunnel.marshal = some doc ↔ tunnel.marshals = true ∧ tunnel.document = doc := by
  rw [Tunnel.marshal, Option.ite_none_right_eq_some, Option.some.injEq]

theorem Tunnel.marshal_eq_none {tunnel : Tunnel} :
    tunnel.marshal = none ↔ ¬ tunnel.marshals = true := by
  simp [Tunnel.marshal]

theorem Session.unmarshal_document (sess : Session) :
    sess.document.unmarshalSession = some sess.readBack := by
  obtain ⟨id, username, role, remoteAddr, createdAt, lastActive, closedAt, status, metadata⟩ := sess
  cases closedAt <;> cases metadata <;> rfl

theorem Tunnel.unmarshal_document (tunnel : Tunnel) :
    tunnel.document.unmarshalTunnel = some tunnel.readBack := by
  obtain ⟨id, sessionID, type, localAddr, remoteAddr, createdAt, closedAt, bytesSent, bytesRecv,
    status, metadata⟩ := tunnel
  cases closedAt <;> cases metadata <;> rfl

theorem AuditEntry.unmarshal_document (entry : AuditEntry) :
    entry.document.unmarshalAuditEntry = some entry.readBack := by
  obtain ⟨id, timestamp, correlationID, traceID, action, username, role, resource, result, details,
    sourceIP⟩ := entry
  cases details <;> rfl

end SentinelOps.Store
