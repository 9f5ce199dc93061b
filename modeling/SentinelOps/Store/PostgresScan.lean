/-
# Store.PostgresScan — from the rows of an answer to records

The loops of the three listings scan one row after the other, column by column in the order of the
`SELECT`, and stop with an error at the first `NULL` that has to become a string.  `scanSession` and
its two siblings are the bodies of the loops, and a row without such a `NULL` is scanned into its
record (`scanSession_cells` and siblings).

`Store.PostgresRecords` and `Store.PostgresAudit` have each listing as one operation on the records.
Here the two levels meet: on a server that takes the arguments as they are, what those operations
return is what scanning an answer of the query returns (`listSessions_iff`, `listTunnels_iff`,
`queryAuditLog_iff`).
-/
import SentinelOps.Store.PostgresQueries

namespace SentinelOps.Store

open Theory GoText Sql
open GoTime (Time)

set_option autoImplicit false

/-! ## Columns -/

/-- Into a `string`, which takes no `NULL`. -/
def scanText : Arg → Option GoString
  | .text s => some s
  | _ => none

def scanTime : Arg → Option Time
  | .timestamp t => some t
  | _ => none

/-- Into a `*time.Time`. -/
def scanTimePointer : Arg → Option (Option Time)
  | .null => some none
  | .timestamp t => some (some t)
  | _ => none

def scanInt64 : Arg → Option Int64
  | .bigint n => some (Int64.ofInt n)
  | _ => none

/-- Into a `[]byte`, and from there by `unmarshalJSONMap`. -/
def scanJSONMap : Arg → Option JSONMap
  | .jsonb object => some (some object)
  | _ => none

/-! ## Rows -/

def scanSession : List Arg → Option Session
  | [id, username, role, remoteAddr, createdAt, lastActive, closedAt, status, metadata] => do
      return {
        id := ← scanText id
        username := ← scanText username
        role := ← scanText role
        remoteAddr := ← scanText remoteAddr
        createdAt := ← scanTime createdAt
        lastActive := ← scanTime lastActive
        closedAt := ← scanTimePointer closedAt
        status := ← scanText status
        metadata := ← scanJSONMap metadata }
  | _ => none

def scanTunnel : List Arg → Option Tunnel
  | [id, sessionID, type, localAddr, remoteAddr, createdAt, closedAt, bytesSent, bytesRecv, status,
      metadata] => do
      return {
        id := ← scanText id
        sessionID := ← scanText sessionID
        type := ← scanText type
        localAddr := ← scanText localAddr
        remoteAddr := ← scanText remoteAddr
        createdAt := ← scanTime createdAt
        closedAt := ← scanTimePointer closedAt
        bytesSent := ← scanInt64 bytesSent
        bytesRecv := ← scanInt64 bytesRecv
        status := ← scanText status
        metadata := ← scanJSONMap metadata }
  | _ => none

def scanAuditEntry : List Arg → Option AuditEntry
  | [id, timestamp, correlationID, traceID, action, username, role, resource, result, details,
      sourceIP] => do
      return {
        id := ← scanText id
        timestamp := ← scanTime timestamp
        correlationID := ← scanText correlationID
        traceID := ← scanText traceID
        action := ← scanText action
        username := ← scanText username
        role := ← scanText role
        resource := ← scanText resource
        result := ← scanText result
        details := ← scanJSONMap details
        sourceIP := ← scanText sourceIP }
  | _ => none

@[simp] theorem scanText_nullableText (column : Option GoString) :
    scanText (nullableText column) = column := by cases column <;> rfl

@[simp] theorem scanTimePointer_nullableTime (column : Option Time) :
    scanTimePointer (nullableTime column) = some column := by cases column <;> rfl

@[simp] theorem scanInt64_bigint (n : Int64) : scanInt64 (.bigint n.toInt) = some n :=
  congrArg some (Int64.ofInt_toInt n)

/-- The columns that have to be strings are. -/
def SessionRow.complete (row : SessionRow) : Bool := row.remoteAddr.isSome

def TunnelRow.complete (row : TunnelRow) : Bool := row.localAddr.isSome && row.remoteAddr.isSome

def AuditRow.complete (row : AuditRow) : Bool :=
  [row.correlationID, row.traceID, row.username, row.role, row.resource, row.result,
    row.sourceIP].all Option.isSome

/-- A row is scanned into its record, unless a `NULL` stands where a string is wanted. -/
theorem scanSession_cells (row : SessionRow) :
    scanSession (row.cells.map Prod.snd) = if row.complete then some row.session else none := by
  obtain ⟨id, username, role, remoteAddr, createdAt, lastActive, closedAt, status, metadata⟩ := row
  simp only [SessionRow.cells, List.map_cons, List.map_nil, scanSession, scanText_nullableText,
    scanTimePointer_nullableTime]
  cases remoteAddr <;> rfl

theorem scanTunnel_cells (row : TunnelRow) :
    scanTunnel (row.cells.map Prod.snd) = if row.complete then some row.tunnel else none := by
  obtain ⟨id, sessionID, type, localAddr, remoteAddr, createdAt, closedAt, bytesSent, bytesRecv,
    status, metadata⟩ := row
  simp only [TunnelRow.cells, List.map_cons, List.map_nil, scanTunnel, scanText_nullableText,
    scanTimePointer_nullableTime, scanInt64_bigint]
  cases localAddr with
  | none => rfl
  | some localAddr => cases remoteAddr <;> rfl

theorem scanAuditEntry_cells (row : AuditRow) :
    scanAuditEntry (row.cells.map Prod.snd) = if row.complete then some row.entry else none := by
  obtain ⟨id, timestamp, correlationID, traceID, action, username, role, resource, result, details,
    sourceIP⟩ := row
  simp only [AuditRow.cells, List.map_cons, List.map_nil, scanAuditEntry, scanText_nullableText]
  -- the first `NULL` ends the scan
  cases correlationID with
  | none => rfl
  | some correlationID =>
  cases traceID with
  | none => rfl
  | some traceID =>
  cases username with
  | none => rfl
  | some username =>
  cases role with
  | none => rfl
  | some role =>
  cases resource with
  | none => rfl
  | some resource =>
  cases result with
  | none => rfl
  | some result => cases sourceIP <;> rfl

/-! ## Listings -/

/-- What the loop over the rows returns. -/
def scanned {T : Type} (scan : List Arg → Option T) (answer : List (List Arg)) :
    Except StoreError (List T) :=
  match answer.mapM scan with
  | some records => .ok records
  | none => .error .driver

theorem page_map {α β : Type} (f : α → β) (rows : List α) (limit offset : Int64) :
    page (rows.map f) limit offset = (page rows limit offset).map f := by
  unfold page
  split <;> split <;> simp only [List.map_drop, List.map_take]

theorem newestFirst_map {α β : Type} {key : β → Time} {f : α → β} (rows : List α) :
    NewestFirst key (rows.map f) ↔ NewestFirst (fun row => key (f row)) rows :=
  List.pairwise_map

/-- **Scanning what a query answers** is listing the records of the rows, in any sorted order of
them. -/
theorem Lists.scanned_iff {R T : Type} {q : Query} {table : List R → Relation R JSONObject}
    {accepts : T → Bool} {key : T → Time} {record : R → T} {values : R → List Arg}
    {limit offset : Int64} {scan : List Arg → Option T} {rows : List R}
    (lists : Lists q table (fun row => accepts (record row)) (fun row => key (record row)) values
      limit offset)
    (complete : ∀ row ∈ rows, scan (values row) = some (record row))
    (result : Except StoreError (List T)) :
    (∃ answer, Answers (table rows) q.text q.args answer ∧ scanned scan answer = result) ↔
      ∃ order : List R, order.Perm rows ∧ NewestFirst key (order.map record) ∧
        .ok (page ((order.map record).filter accepts) limit offset) = result := by
  have read : ∀ part : List R, (∀ row ∈ part, row ∈ rows) →
      scanned scan (part.map values) = .ok (part.map record) := by
    intro part inside
    have each : (part.map values).mapM scan = some (part.map record) := by
      rw [List.mapM_map]
      exact mapM_eq_some_map fun row member => complete row (inside row member)
    rw [scanned, each]
  have listed : ∀ order : List R, order.Perm rows →
      scanned scan
          ((window (order.filter fun row => accepts (record row)) limit offset).map values) =
        .ok (page ((order.map record).filter accepts) limit offset) := by
    intro order perm
    rw [read _ fun row member => perm.mem_iff.1
        (List.mem_of_mem_filter ((window_sublist _ _ _).mem member)),
      List.filter_map, page_map, page_eq_window]
    rfl
  constructor
  · rintro ⟨answer, answers, rfl⟩
    obtain ⟨part, perm, falls, rfl⟩ := (lists.answers rows answer).1 answers
    obtain ⟨order, whole, sorted, rfl⟩ := exists_newestFirst perm falls
    exact ⟨order, whole, (newestFirst_map order).2 sorted, (listed order whole).symm⟩
  · rintro ⟨order, perm, sorted, rfl⟩
    refine ⟨_, (lists.answers rows _).2 ⟨_, perm.filter _, ?_, rfl⟩, listed order perm⟩
    exact List.Pairwise.filter _ ((newestFirst_map order).1 sorted)

theorem listSessions_iff (server : RecordServer) (filter : SessionFilter)
    (takes : server.takes filter.username && server.takes filter.status &&
      server.takes filter.remoteAddr && filter.since.all server.instant)
    (exact : filter.since.map server.timestamp = filter.since) (rows : List SessionRow)
    (complete : ∀ row ∈ rows, row.complete) (result : Except StoreError (List Session)) :
    (∃ answer, Answers (sessionsTable rows) (sessionsQuery filter).text
        (sessionsQuery filter).args answer ∧ scanned scanSession answer = result) ↔
      ∃ order : List SessionRow, order.Perm rows ∧
        NewestFirst Session.createdAt (order.map SessionRow.session) ∧
        PostgresRecords.listSessions server filter (order.map SessionRow.session) = result := by
  have listed : ∀ order, PostgresRecords.listSessions server filter order =
      .ok (page (order.filter filter.accepts) filter.limit filter.offset) := by
    intro order
    unfold PostgresRecords.listSessions
    rw [if_pos takes]
    dsimp only
    rw [exact]
  simp only [listed]
  refine (sessionsQuery_lists filter).scanned_iff (fun row member => ?_) result
  rw [scanSession_cells, if_pos (complete row member)]

theorem listTunnels_iff (server : RecordServer) (filter : TunnelFilter)
    (takes : server.takes filter.sessionID && server.takes filter.type &&
      server.takes filter.status) (rows : List TunnelRow)
    (complete : ∀ row ∈ rows, row.complete) (result : Except StoreError (List Tunnel)) :
    (∃ answer, Answers (tunnelsTable rows) (tunnelsQuery filter).text
        (tunnelsQuery filter).args answer ∧ scanned scanTunnel answer = result) ↔
      ∃ order : List TunnelRow, order.Perm rows ∧
        NewestFirst Tunnel.createdAt (order.map TunnelRow.tunnel) ∧
        PostgresRecords.listTunnels server filter (order.map TunnelRow.tunnel) = result := by
  have listed : ∀ order, PostgresRecords.listTunnels server filter order =
      .ok (page (order.filter filter.accepts) filter.limit filter.offset) := fun _ => if_pos takes
  simp only [listed]
  refine (tunnelsQuery_lists filter).scanned_iff (fun row member => ?_) result
  rw [scanTunnel_cells, if_pos (complete row member)]

theorem queryAuditLog_iff (server : RecordServer) (filter : AuditFilter)
    (takes : server.takesAudit filter) (exact : server.rounded filter = filter)
    (rows : List AuditRow) (complete : ∀ row ∈ rows, row.complete)
    (result : Except StoreError (List AuditEntry)) :
    (∃ answer, Answers (auditLogTable rows) (auditQuery filter).text
        (auditQuery filter).args answer ∧ scanned scanAuditEntry answer = result) ↔
      ∃ order : List AuditRow, order.Perm rows ∧
        NewestFirst AuditEntry.timestamp (order.map AuditRow.entry) ∧
        AuditTable.queryAuditLog server filter (order.map AuditRow.entry) = result := by
  have listed : ∀ order, AuditTable.queryAuditLog server filter order =
      .ok (page (order.filter filter.accepts) filter.limit filter.offset) := by
    intro order
    rw [AuditTable.queryAuditLog, if_pos takes, exact]
  simp only [listed]
  refine (auditQuery_lists filter).scanned_iff (fun row member => ?_) result
  rw [scanAuditEntry_cells, if_pos (complete row member)]

/-- Of four rows one has another action and two have one timestamp: behind the newest row, either of
the two may come. -/
theorem queryAuditLog_ties :
    let row (id action : GoString) (timestamp : Time) : AuditRow :=
      ⟨id, timestamp, some [], some [], action, some (str "ana"), some [], some [], some [], ∅,
        some []⟩
    let a := row (str "1") (str "login") 5
    let b := row (str "2") (str "login") 5
    let c := row (str "3") (str "logout") 7
    let d := row (str "4") (str "login") 9
    let query := auditQuery { action := str "login", limit := 1, offset := 1 }
    ∀ entry ∈ [a.entry, b.entry], ∃ answer,
      Answers (auditLogTable [a, b, c, d]) query.text query.args answer ∧
        scanned scanAuditEntry answer = .ok [entry] := by
  intro row a b c d query
  have orders := fun order => (queryAuditLog_iff sampleServer
    { action := str "login", limit := 1, offset := 1 } rfl rfl [a, b, c, d] (by decide) order).2
  have backwards : [d, c, b, a].Perm [a, b, c, d] := List.reverse_perm [a, b, c, d]
  have swapped : [d, c, a, b].Perm [d, c, b, a] := ((List.Perm.swap b a []).cons c).cons d
  simp only [List.forall_mem_cons]
  exact ⟨orders _ ⟨[d, c, a, b], swapped.trans backwards, by decide, rfl⟩,
    orders _ ⟨[d, c, b, a], backwards, by decide, rfl⟩, nofun⟩

end SentinelOps.Store
