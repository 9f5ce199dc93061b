/-
# Store.PostgresQueries — the queries that `PostgresStore` puts together

`ListSessions`, `ListTunnels` and `QueryAuditLog` append to a `SELECT` a condition for every field
of the filter that is set, the order, a limit and an offset, and count their placeholders while
they go.  Here are the texts as they are built, and what they answer by the meaning that
`Theory.SqlSelect` gives to SQL.

The invariant of the building is `Builds`: the text so far reads as a `SELECT`, its placeholders are
`$1` to `$n` for the `n` arguments, and whatever arguments follow, its conditions keep the rows that
the part of the filter seen so far accepts.  One lemma is enough for all clauses (`Builds.clause`),
and one for the end of the three queries (`Builds.answers_iff`).

Rows are as the schema allows them.  Some columns may be `NULL`, which the program never writes;
such a row meets no condition on the column, like a row with an empty text there.
-/
import SentinelOps.Store.PostgresAudit
import SentinelOps.Theory.SqlSelect

namespace SentinelOps.Store

open Theory GoText Sql
open GoTime (Time)

set_option autoImplicit false

/-! ## Building a query -/

/-- A parameter of a query. -/
abbrev Arg := Value JSONObject

/-- A query with its arguments; `index` is the number of the next placeholder. -/
structure Query where
  text : GoString
  args : List Arg
  index : Nat

namespace Query

/-- Append a clause, the next placeholder and its argument, if there is one. -/
def clause (q : Query) (condition : GoString) : Option Arg → Query
  | none => q
  | some arg => ⟨q.text ++ condition ++ decimal q.index, q.args ++ [arg], q.index + 1⟩

def append (q : Query) (text : GoString) : Query := { q with text := q.text ++ text }

end Query

/-- The argument of a string field, which is set when it is not empty. -/
def given (wanted : GoString) : Option Arg := if wanted = [] then none else some (.text wanted)

/-- The argument of a limit or an offset, which is set when it is positive. -/
def sent (n : Int64) : Option Arg := if 0 < n then some (.bigint n.toInt) else none

/-- The end of the three queries.  Nothing counts on after the offset. -/
def Query.windowed (q : Query) (orderBy : GoString) (limit offset : Int64) : Query :=
  let q := q.append orderBy
  let q := q.clause (str " LIMIT $") (sent limit)
  match sent offset with
  | none => q
  | some arg => { q with
      text := q.text ++ str " OFFSET $" ++ decimal q.index
      args := q.args ++ [arg] }

def sessionsText : GoString :=
  str "SELECT id, username, role, remote_addr, created_at, last_active, closed_at, status, " ++
    str "metadata FROM sessions WHERE 1=1"

def sessionsQuery (filter : SessionFilter) : Query :=
  let q : Query := ⟨sessionsText, [], 1⟩
  let q := q.clause (str " AND username = $") (given filter.username)
  let q := q.clause (str " AND status = $") (given filter.status)
  let q := q.clause (str " AND remote_addr = $") (given filter.remoteAddr)
  let q := q.clause (str " AND created_at >= $") (filter.since.map .timestamp)
  q.windowed (str " ORDER BY created_at DESC") filter.limit filter.offset

def tunnelsText : GoString :=
  str "SELECT id, session_id, type, local_addr, remote_addr, created_at, closed_at, bytes_sent, " ++
    str "bytes_recv, status, metadata FROM tunnels WHERE 1=1"

def tunnelsQuery (filter : TunnelFilter) : Query :=
  let q : Query := ⟨tunnelsText, [], 1⟩
  let q := q.clause (str " AND session_id = $") (given filter.sessionID)
  let q := q.clause (str " AND type = $") (given filter.type)
  let q := q.clause (str " AND status = $") (given filter.status)
  q.windowed (str " ORDER BY created_at DESC") filter.limit filter.offset

def auditText : GoString :=
  str "SELECT id, timestamp, correlation_id, trace_id, action, username, role, resource, " ++
    str "result, details, source_ip FROM audit_log WHERE 1=1"

def auditQuery (filter : AuditFilter) : Query :=
  let q : Query := ⟨auditText, [], 1⟩
  let q := q.clause (str " AND username = $") (given filter.username)
  let q := q.clause (str " AND action = $") (given filter.action)
  let q := q.clause (str " AND result = $") (given filter.result)
  let q := q.clause (str " AND timestamp >= $") (filter.since.map .timestamp)
  let q := q.clause (str " AND timestamp <= $") (filter.upTo.map .timestamp)
  q.windowed (str " ORDER BY timestamp DESC") filter.limit filter.offset

/-! ## Rows -/

def nullableText (column : Option GoString) : Arg := column.elim .null .text

def nullableTime (column : Option Time) : Arg := column.elim .null .timestamp

/-- A row of `sessions`. -/
structure SessionRow where
  id : GoString
  username : GoString
  role : GoString
  remoteAddr : Option GoString
  createdAt : Time
  lastActive : Time
  closedAt : Option Time
  status : GoString
  metadata : JSONObject

/-- A row of `tunnels`. -/
structure TunnelRow where
  id : GoString
  sessionID : GoString
  type : GoString
  localAddr : Option GoString
  remoteAddr : Option GoString
  createdAt : Time
  closedAt : Option Time
  bytesSent : Int64
  bytesRecv : Int64
  status : GoString
  metadata : JSONObject

/-- A row of `audit_log`. -/
structure AuditRow where
  id : GoString
  timestamp : Time
  correlationID : Option GoString
  traceID : Option GoString
  action : GoString
  username : Option GoString
  role : Option GoString
  resource : Option GoString
  result : Option GoString
  details : JSONObject
  sourceIP : Option GoString

namespace SessionRow

def cells (row : SessionRow) : List (GoString × Arg) :=
  [(str "id", .text row.id), (str "username", .text row.username), (str "role", .text row.role),
    (str "remote_addr", nullableText row.remoteAddr),
    (str "created_at", .timestamp row.createdAt), (str "last_active", .timestamp row.lastActive),
    (str "closed_at", nullableTime row.closedAt), (str "status", .text row.status),
    (str "metadata", .jsonb row.metadata)]

/-- The record of a row; a `NULL` counts as an empty string. -/
def session (row : SessionRow) : Session where
  id := row.id
  username := row.username
  role := row.role
  remoteAddr := row.remoteAddr.getD []
  createdAt := row.createdAt
  lastActive := row.lastActive
  closedAt := row.closedAt
  status := row.status
  metadata := some row.metadata

end SessionRow

namespace TunnelRow

def cells (row : TunnelRow) : List (GoString × Arg) :=
  [(str "id", .text row.id), (str "session_id", .text row.sessionID), (str "type", .text row.type),
    (str "local_addr", nullableText row.localAddr),
    (str "remote_addr", nullableText row.remoteAddr),
    (str "created_at", .timestamp row.createdAt), (str "closed_at", nullableTime row.closedAt),
    (str "bytes_sent", .bigint row.bytesSent.toInt),
    (str "bytes_recv", .bigint row.bytesRecv.toInt), (str "status", .text row.status),
    (str "metadata", .jsonb row.metadata)]

/-- The record of a row; a `NULL` counts as an empty string. -/
def tunnel (row : TunnelRow) : Tunnel where
  id := row.id
  sessionID := row.sessionID
  type := row.type
  localAddr := row.localAddr.getD []
  remoteAddr := row.remoteAddr.getD []
  createdAt := row.createdAt
  closedAt := row.closedAt
  bytesSent := row.bytesSent
  bytesRecv := row.bytesRecv
  status := row.status
  metadata := some row.metadata

end TunnelRow

namespace AuditRow

def cells (row : AuditRow) : List (GoString × Arg) :=
  [(str "id", .text row.id), (str "timestamp", .timestamp row.timestamp),
    (str "correlation_id", nullableText row.correlationID),
    (str "trace_id", nullableText row.traceID), (str "action", .text row.action),
    (str "username", nullableText row.username), (str "role", nullableText row.role),
    (str "resource", nullableText row.resource), (str "result", nullableText row.result),
    (str "details", .jsonb row.details), (str "source_ip", nullableText row.sourceIP)]

/-- The record of a row; a `NULL` counts as an empty string. -/
def entry (row : AuditRow) : AuditEntry where
  id := row.id
  timestamp := row.timestamp
  correlationID := row.correlationID.getD []
  traceID := row.traceID.getD []
  action := row.action
  username := row.username.getD []
  role := row.role.getD []
  resource := row.resource.getD []
  result := row.result.getD []
  details := some row.details
  sourceIP := row.sourceIP.getD []

end AuditRow

/-- A table of the schema.  Every column is listed once, so the first that has a name is it. -/
def relation {R : Type} (name : GoString) (cells : R → List (GoString × Arg)) (rows : List R) :
    Relation R JSONObject :=
  ⟨name, rows, fun row column => (cells row).lookup column⟩

def sessionsTable : List SessionRow → Relation SessionRow JSONObject :=
  relation (str "sessions") SessionRow.cells

def tunnelsTable : List TunnelRow → Relation TunnelRow JSONObject :=
  relation (str "tunnels") TunnelRow.cells

def auditLogTable : List AuditRow → Relation AuditRow JSONObject :=
  relation (str "audit_log") AuditRow.cells

/-! ## The invariant -/

section Build

variable {R : Type} {base : Select} {cell : R → GoString → Option Arg} {q : Query}
  {conditions : List Condition} {accepts : R → Bool}

/-- The text so far has these tokens, and an argument for every placeholder. -/
structure Reads (q : Query) (ts : List Token) : Prop where
  read : tokens q.text = some ts
  index : q.index = q.args.length + 1
  numbered : placeholders ts = List.range' 1 q.args.length

theorem Reads.append {ts t : List Token} (reads : Reads q ts) {text : GoString}
    (read : continuation text = some t) (none_ : placeholders t = []) :
    Reads (q.append text) (ts ++ t) where
  read := tokens_append reads.read read
  index := reads.index
  numbered := by
    rw [placeholders_append, none_, List.append_nil]
    exact reads.numbered

/-- A clause with an argument, in step with the counter. -/
theorem Reads.clause {ts t : List Token} (reads : Reads q ts) {condition : GoString}
    (read : clauseTokens condition = some t) (none_ : placeholders t = []) (arg : Arg) :
    Reads (q.clause condition (some arg)) (ts ++ (t ++ [.placeholder (q.args.length + 1)])) where
  read := by
    rw [Query.clause, ← reads.index]
    exact tokens_clause reads.read read q.index
  index := by rw [Query.clause, reads.index, List.length_append, List.length_singleton]
  numbered := by
    rw [placeholders_append, placeholders_append, none_, reads.numbered, Query.clause,
      List.length_append, List.length_singleton, List.range'_concat, Nat.one_mul, Nat.add_comm 1]
    rfl

/-- The query so far is `base` with these conditions, and it keeps the rows that `accepts` does,
whatever arguments are added. -/
structure Builds (base : Select) (cell : R → GoString → Option Arg) (q : Query)
    (conditions : List Condition) (accepts : R → Bool) : Prop where
  reads : Reads q (Select.head { base with conditions })
  keeps : ∀ more row,
    Select.accepts { base with conditions } (q.args ++ more) (cell row) = some (accepts row)

/-- What a clause is for: with an argument the comparison is true when `test` is, and without one
there is nothing to test. -/
def Meets (op : Operator) (found : Option Arg) (arg : Option Arg) (test : Bool) : Prop :=
  match arg with
  | none => test = true
  | some value => ∃ actual verdict, found = some actual ∧
      actual.compare op value = some verdict ∧ (verdict == some true) = test

/-- **One clause.**  It adds its condition to the statement and its test to the rows. -/
theorem Builds.clause (built : Builds base cell q conditions accepts) (condition column : String)
    (op : Operator) {arg : Option Arg} {test : R → Bool}
    (meets : ∀ row, Meets op (cell row (str column)) arg (test row))
    (read : clauseTokens (bytes condition) =
      some [.keyword .and, .identifier (bytes column), .operator op]) :
    ∃ conditions', Builds base cell (q.clause (str condition) arg) conditions'
      fun row => accepts row && test row := by
  rw [← str_eq_bytes, ← str_eq_bytes] at read
  cases arg with
  | none =>
      refine ⟨conditions, built.reads, fun more row => ?_⟩
      rw [show test row = true from meets row, Bool.and_true]
      exact built.keeps more row
  | some arg =>
      let c : Condition := ⟨.column (str column), op, .placeholder (q.args.length + 1)⟩
      have longer : Select.head { base with conditions := conditions ++ [c] } =
          Select.head { base with conditions } ++
            ([.keyword .and, .identifier (str column), .operator op] ++
              [.placeholder (q.args.length + 1)]) := by
        simp [Select.head, conditionTokens, Condition.tokens, Operand.token, c]
      refine ⟨conditions ++ [c], ?_, fun more row => ?_⟩
      · rw [longer]
        exact built.reads.clause read rfl arg
      · obtain ⟨actual, verdict, found, compared, tested⟩ := meets row
        have before := built.keeps ([arg] ++ more) row
        rw [← List.append_assoc] at before
        have now : c.eval (q.args ++ [arg] ++ more) (cell row) = some verdict := by
          simp [Condition.eval, Operand.eval, c, found, compared]
        rw [← tested]
        exact accepts_concat before now

theorem meets_text (wanted actual : GoString) :
    Meets .eq (some (.text actual)) (given wanted) (matchesField wanted actual) := by
  unfold given
  split
  · rename_i unset
    rw [unset]
    rfl
  · rename_i set
    refine ⟨_, _, rfl, rfl, ?_⟩
    simp [matchesField, set]

/-- A `NULL` meets no condition, and neither does an empty text. -/
theorem meets_nullableText (wanted : GoString) (actual : Option GoString) :
    Meets .eq (some (nullableText actual)) (given wanted)
      (matchesField wanted (actual.getD [])) := by
  cases actual with
  | some actual => exact meets_text wanted actual
  | none =>
      unfold given
      split
      · rename_i unset
        rw [unset]
        rfl
      · rename_i set
        refine ⟨_, _, rfl, rfl, ?_⟩
        simp [matchesField, set]

theorem decide_le_eq_not_lt (a b : Time) : decide (a ≤ b) = !decide (b < a) := by
  rw [← decide_not, decide_eq_decide, not_lt]

theorem meets_since (since : Option Time) (actual : Time) :
    Meets .ge (some (.timestamp actual)) (since.map .timestamp)
      (since.all fun since => !actual.before since) := by
  cases since with
  | none => rfl
  | some since =>
      refine ⟨_, _, rfl, rfl, ?_⟩
      simp [Operator.holds, Theory.GoTime.Time.before, decide_le_eq_not_lt]

theorem meets_upTo (upTo : Option Time) (actual : Time) :
    Meets .le (some (.timestamp actual)) (upTo.map .timestamp)
      (upTo.all fun upTo => !upTo.before actual) := by
  cases upTo with
  | none => rfl
  | some upTo =>
      refine ⟨_, _, rfl, rfl, ?_⟩
      simp [Operator.holds, Theory.GoTime.Time.before, decide_le_eq_not_lt]

/-! ## The end of a query -/

/-- The number of a limit or an offset, which counts when it is positive. -/
def positive (n : Int64) : Option Nat := if 0 < n then some n.toInt.toNat else none

theorem cut_positive {α : Type} (limit offset : Int64) (rows : List α) :
    cut (positive limit) (positive offset) rows = window rows limit offset := by
  rw [← page_eq_window]
  unfold cut positive page
  split <;> split <;> rfl

/-- The placeholder of a limit or an offset behind `count` arguments. -/
def place (count : Nat) (n : Int64) : Option Operand :=
  if 0 < n then some (.placeholder (count + 1)) else none

theorem Query.clause_args (q : Query) (condition : GoString) (arg : Option Arg) :
    (q.clause condition arg).args = q.args ++ arg.toList := by
  cases arg with
  | none => exact (List.append_nil _).symm
  | some arg => rfl

theorem bound_place (args more : List Arg) (n : Int64) :
    bound (args ++ (sent n).toList ++ more) (place args.length n) = some (positive n) := by
  unfold sent place positive
  split
  · rename_i set
    have low : 0 ≤ n.toInt := by
      rw [Int64.lt_iff_toInt_lt, Int64.toInt_zero] at set
      exact set.le
    simp [bound, Operand.eval, low]
  · rfl

theorem Reads.bound {ts : List Token} (reads : Reads q ts) {condition : GoString} {k : Keyword}
    (read : clauseTokens condition = some [.keyword k]) (n : Int64) :
    Reads (q.clause condition (sent n)) (ts ++ boundTokens k (place q.args.length n)) := by
  unfold sent place
  split
  · exact reads.clause read rfl _
  · rw [boundTokens, List.append_nil]
    exact reads

theorem window_clauses : clauseTokens (str " LIMIT $") = some [.keyword .limit] ∧
    clauseTokens (str " OFFSET $") = some [.keyword .offset] := by
  rw [str_eq_bytes, str_eq_bytes]
  decide

/-- The query without the counter at its end. -/
theorem Query.windowed_eq (q : Query) (orderBy : GoString) (limit offset : Int64) :
    let q' := ((q.append orderBy).clause (str " LIMIT $") (sent limit)).clause (str " OFFSET $")
      (sent offset)
    (q.windowed orderBy limit offset).text = q'.text ∧
      (q.windowed orderBy limit offset).args = q'.args := by
  unfold windowed
  dsimp only
  cases sent offset with
  | none => exact ⟨rfl, rfl⟩
  | some arg => exact ⟨rfl, rfl⟩

/-- **A whole query.**  Its placeholders are numbered in step with its arguments, and it answers
with the accepted rows, newest first, cut by the offset and the limit. -/
theorem Builds.answers_iff (built : Builds base cell q conditions accepts)
    {orderBy column : GoString}
    (read : continuation orderBy = some (orderTokens (some (column, .desc))))
    {key : R → Time} {values : R → List Arg}
    (stamped : ∀ row, cell row column = some (.timestamp (key row)))
    (projected : ∀ row, base.project (cell row) = some (values row)) (limit offset : Int64) :
    let q' := q.windowed orderBy limit offset
    (tokens q'.text).map placeholders = some (List.range' 1 q'.args.length) ∧
      ∀ rows answer, Answers ⟨base.table, rows, cell⟩ q'.text q'.args answer ↔
        ∃ order, order.Perm (rows.filter accepts) ∧ NewestFirst key order ∧
          answer = (window order limit offset).map values := by
  intro q'
  obtain ⟨text, args⟩ := q.windowed_eq orderBy limit offset
  have ordered := built.reads.append read rfl
  have limited := ordered.bound window_clauses.1 limit
  have whole := limited.bound window_clauses.2 offset
  let s : Select := { base with
    conditions
    orderBy := some (column, .desc)
    limit := place q.args.length limit
    offset := place (q.args ++ (sent limit).toList).length offset }
  have named : ((q.append orderBy).clause (str " LIMIT $") (sent limit)).args =
      q.args ++ (sent limit).toList := Query.clause_args ..
  have sum : q'.args = q.args ++ (sent limit).toList ++ (sent offset).toList := by
    rw [args, Query.clause_args, named]
  have spelled : tokens q'.text = some s.tokens := by
    rw [text, whole.read, named, List.append_assoc, List.append_assoc]
    rfl
  refine ⟨?_, fun rows answer => ?_⟩
  · rw [text, whole.read, Option.map_some, whole.numbered, args]
  · have accepted : ∀ row, s.accepts q'.args (cell row) = some (accepts row) := by
      intro row
      rw [sum, List.append_assoc]
      exact built.keeps _ row
    have low : Sql.bound q'.args s.limit = some (positive limit) := by
      rw [sum]
      exact bound_place q.args _ limit
    have high : Sql.bound q'.args s.offset = some (positive offset) := by
      have last := bound_place (q.args ++ (sent limit).toList) [] offset
      rwa [List.append_nil, ← sum] at last
    have rule := Sql.answers_iff (t := ⟨base.table, rows, cell⟩) (parse_of_tokens spelled) rfl
      accepted rfl stamped low high projected answer
    simp only [cut_positive] at rule
    exact rule

/-- A sorted part of the rows is what some sorted order of all of them has of that part: sorting
the part and then the rest keeps the part in its order. -/
theorem exists_newestFirst {R : Type} {key : R → Time} {accepts : R → Bool} {rows part : List R}
    (perm : part.Perm (rows.filter accepts)) (falls : NewestFirst key part) :
    ∃ order, order.Perm rows ∧ NewestFirst key order ∧ order.filter accepts = part := by
  let all := part ++ rows.filter fun row => !accepts row
  have whole : all.Perm rows :=
    (perm.append_right _).trans (List.filter_append_perm accepts rows)
  have kept : part.filter accepts = part :=
    List.filter_eq_self.2 fun row member =>
      (List.mem_filter.1 ((perm.mem_iff).1 member)).2
  have few : all.filter accepts = part := by
    rw [List.filter_append, kept, List.filter_filter]
    simp
  have trans : ∀ a b c : R, decide (key b ≤ key a) = true → decide (key c ≤ key b) = true →
      decide (key c ≤ key a) = true := by
    intro a b c first second
    exact decide_eq_true ((of_decide_eq_true second).trans (of_decide_eq_true first))
  have total : ∀ a b : R, (decide (key b ≤ key a) || decide (key a ≤ key b)) = true := by
    intro a b
    rcases le_total (key b) (key a) with below | above
    · rw [decide_eq_true below, Bool.true_or]
    · rw [decide_eq_true above, Bool.or_true]
  let order := all.mergeSort fun first second => key second ≤ key first
  have sorted : all.mergeSort _ |>.Perm all := List.mergeSort_perm all fun first second =>
    decide (key second ≤ key first)
  refine ⟨order, sorted.trans whole, ?_, ?_⟩
  · exact (List.pairwise_mergeSort trans total all).imp of_decide_eq_true
  · have inside : part.Sublist order :=
      List.sublist_mergeSort trans total (falls.imp decide_eq_true) (List.sublist_append_left ..)
    have longer : (part.filter accepts).Sublist (order.filter accepts) := inside.filter accepts
    rw [kept] at longer
    refine (longer.eq_of_length ?_).symm
    rw [(sorted.filter accepts).length_eq, few]

end Build

/-! ## The three queries -/

/-- The query has the placeholders `$1` to `$n` in this order and `n` arguments, and what it answers
is the rows that `accepts` does, newest first, those of one time in any order, without the first
`offset` and of the others the first `limit`. -/
structure Lists {R : Type} (q : Query) (table : List R → Relation R JSONObject)
    (accepts : R → Bool) (key : R → Time) (values : R → List Arg) (limit offset : Int64) :
    Prop where
  placeholders : (tokens q.text).map placeholders = some (List.range' 1 q.args.length)
  answers : ∀ rows answer, Answers (table rows) q.text q.args answer ↔
    ∃ order, order.Perm (rows.filter accepts) ∧ NewestFirst key order ∧
      answer = (window order limit offset).map values
  answered : ∀ rows, ∃ answer, Answers (table rows) q.text q.args answer

theorem Builds.lists {R : Type} {base : Select} {cells : R → List (GoString × Arg)} {q : Query}
    {conditions : List Condition} {accepts accepts' : R → Bool} {orderBy : GoString}
    {key : R → Time} {values : R → List Arg}
    (built : Builds base (fun row name => (cells row).lookup name) q conditions accepts)
    {column : GoString} (same : ∀ row, accepts row = accepts' row)
    (read : continuation orderBy = some (orderTokens (some (column, .desc))))
    (stamped : ∀ row, (cells row).lookup column = some (.timestamp (key row)))
    (projected : ∀ row, base.project (fun name => (cells row).lookup name) = some (values row))
    (limit offset : Int64) :
    Lists (q.windowed orderBy limit offset) (relation base.table cells) accepts' key values limit
      offset := by
  obtain rfl : accepts = accepts' := funext same
  obtain ⟨numbered, answers⟩ := built.answers_iff read stamped projected limit offset
  refine ⟨numbered, answers, fun rows => ?_⟩
  -- any sorted order will do, so no part of it is given in advance
  have nothing : List.Perm [] ((rows.filter accepts).filter fun _ => false) := by simp
  have sorted : NewestFirst key [] := List.Pairwise.nil
  obtain ⟨order, perm, falls, -⟩ := exists_newestFirst nothing sorted
  exact ⟨_, (answers rows _).2 ⟨order, perm, falls, rfl⟩⟩

/-- The columns of a table, in the order of the queries and of `Scan`. -/
def listing (table : GoString) (columns : List GoString) : Select :=
  ⟨str "id", columns, table, ⟨.number 1, .eq, .number 1⟩, [], none, none, none⟩

theorem placeholders_columnTokens (columns : List GoString) (rest : List Token) :
    placeholders (columnTokens columns ++ rest) = placeholders rest := by
  induction columns with
  | nil => rfl
  | cons name columns ih => exact ih

/-- A query with nothing but `1=1`. -/
theorem Builds.start {R : Type} {cell : R → GoString → Option Arg} {text table : GoString}
    {columns : List GoString} (read : tokens text = some (listing table columns).head) :
    Builds (listing table columns) cell ⟨text, [], 1⟩ [] fun _ => true where
  reads := ⟨read, rfl, placeholders_columnTokens columns _⟩
  keeps _ _ := rfl

def sessionsSelect : Select :=
  listing (str "sessions") [str "username", str "role", str "remote_addr", str "created_at",
    str "last_active", str "closed_at", str "status", str "metadata"]

def tunnelsSelect : Select :=
  listing (str "tunnels") [str "session_id", str "type", str "local_addr", str "remote_addr",
    str "created_at", str "closed_at", str "bytes_sent", str "bytes_recv", str "status",
    str "metadata"]

def auditSelect : Select :=
  listing (str "audit_log") [str "timestamp", str "correlation_id", str "trace_id", str "action",
    str "username", str "role", str "resource", str "result", str "details", str "source_ip"]

theorem texts_tokens : tokens sessionsText = some sessionsSelect.head ∧
    tokens tunnelsText = some tunnelsSelect.head ∧ tokens auditText = some auditSelect.head := by
  rw [sessionsText, tunnelsText, auditText]
  simp only [str_eq_bytes]
  decide +kernel

theorem orders_tokens :
    continuation (str " ORDER BY created_at DESC") =
        some (orderTokens (some (str "created_at", .desc))) ∧
      continuation (str " ORDER BY timestamp DESC") =
        some (orderTokens (some (str "timestamp", .desc))) := by
  simp only [str_eq_bytes]
  decide

/-- The conditions of the three filters, each with the column and the operator it is read as. -/
def filterClauses : List (String × String × Operator) :=
  [(" AND username = $", "username", .eq), (" AND status = $", "status", .eq),
    (" AND remote_addr = $", "remote_addr", .eq), (" AND session_id = $", "session_id", .eq),
    (" AND type = $", "type", .eq), (" AND action = $", "action", .eq),
    (" AND result = $", "result", .eq), (" AND created_at >= $", "created_at", .ge),
    (" AND timestamp >= $", "timestamp", .ge), (" AND timestamp <= $", "timestamp", .le)]

theorem filterClauses_tokens {condition column : String} {op : Operator}
    (listed : (condition, column, op) ∈ filterClauses) :
    clauseTokens (bytes condition) =
      some [.keyword .and, .identifier (bytes column), .operator op] := by
  have all : ∀ c ∈ filterClauses, clauseTokens (bytes c.1) =
      some [.keyword .and, .identifier (bytes c.2.1), .operator c.2.2] := by
    decide
  exact all _ listed

theorem sessionsQuery_lists (filter : SessionFilter) :
    Lists (sessionsQuery filter) sessionsTable (fun row => filter.accepts row.session)
      SessionRow.createdAt (fun row => row.cells.map Prod.snd) filter.limit filter.offset := by
  have start : Builds sessionsSelect (fun (row : SessionRow) name => row.cells.lookup name)
      ⟨sessionsText, [], 1⟩ [] fun _ => true :=
    .start texts_tokens.1
  obtain ⟨_, username⟩ := start.clause " AND username = $" "username" .eq
    (fun row => meets_text filter.username row.username) (filterClauses_tokens (by decide))
  obtain ⟨_, status⟩ := username.clause " AND status = $" "status" .eq
    (fun row => meets_text filter.status row.status) (filterClauses_tokens (by decide))
  obtain ⟨_, remoteAddr⟩ := status.clause " AND remote_addr = $" "remote_addr" .eq
    (fun row => meets_nullableText filter.remoteAddr row.remoteAddr)
    (filterClauses_tokens (by decide))
  obtain ⟨_, since⟩ := remoteAddr.clause " AND created_at >= $" "created_at" .ge
    (fun row => meets_since filter.since row.createdAt) (filterClauses_tokens (by decide))
  exact since.lists (fun row => rfl) orders_tokens.1 (fun row => rfl) (fun row => rfl) filter.limit
    filter.offset

theorem tunnelsQuery_lists (filter : TunnelFilter) :
    Lists (tunnelsQuery filter) tunnelsTable (fun row => filter.accepts row.tunnel)
      TunnelRow.createdAt (fun row => row.cells.map Prod.snd) filter.limit filter.offset := by
  have start : Builds tunnelsSelect (fun (row : TunnelRow) name => row.cells.lookup name)
      ⟨tunnelsText, [], 1⟩ [] fun _ => true :=
    .start texts_tokens.2.1
  obtain ⟨_, sessionID⟩ := start.clause " AND session_id = $" "session_id" .eq
    (fun row => meets_text filter.sessionID row.sessionID) (filterClauses_tokens (by decide))
  obtain ⟨_, type⟩ := sessionID.clause " AND type = $" "type" .eq
    (fun row => meets_text filter.type row.type) (filterClauses_tokens (by decide))
  obtain ⟨_, status⟩ := type.clause " AND status = $" "status" .eq
    (fun row => meets_text filter.status row.status) (filterClauses_tokens (by decide))
  exact status.lists (fun row => rfl) orders_tokens.1 (fun row => rfl) (fun row => rfl)
    filter.limit filter.offset

theorem auditQuery_lists (filter : AuditFilter) :
    Lists (auditQuery filter) auditLogTable (fun row => filter.accepts row.entry)
      AuditRow.timestamp (fun row => row.cells.map Prod.snd) filter.limit filter.offset := by
  have start : Builds auditSelect (fun (row : AuditRow) name => row.cells.lookup name)
      ⟨auditText, [], 1⟩ [] fun _ => true :=
    .start texts_tokens.2.2
  obtain ⟨_, username⟩ := start.clause " AND username = $" "username" .eq
    (fun row => meets_nullableText filter.username row.username) (filterClauses_tokens (by decide))
  obtain ⟨_, action⟩ := username.clause " AND action = $" "action" .eq
    (fun row => meets_text filter.action row.action) (filterClauses_tokens (by decide))
  obtain ⟨_, result⟩ := action.clause " AND result = $" "result" .eq
    (fun row => meets_nullableText filter.result row.result) (filterClauses_tokens (by decide))
  obtain ⟨_, since⟩ := result.clause " AND timestamp >= $" "timestamp" .ge
    (fun row => meets_since filter.since row.timestamp) (filterClauses_tokens (by decide))
  obtain ⟨_, upTo⟩ := since.clause " AND timestamp <= $" "timestamp" .le
    (fun row => meets_upTo filter.upTo row.timestamp) (filterClauses_tokens (by decide))
  exact upTo.lists (fun row => rfl) orders_tokens.2 (fun row => rfl) (fun row => rfl) filter.limit
    filter.offset

/-- **The three queries list what the in-memory store accepts.**  For every filter the placeholders
and the arguments are in step, and for every content of the table the answers are the accepted
rows, newest first, in the window of the filter. -/
theorem queries_list :
    (∀ filter : SessionFilter,
      Lists (sessionsQuery filter) sessionsTable (fun row => filter.accepts row.session)
        SessionRow.createdAt (fun row => row.cells.map Prod.snd) filter.limit filter.offset) ∧
    (∀ filter : TunnelFilter,
      Lists (tunnelsQuery filter) tunnelsTable (fun row => filter.accepts row.tunnel)
        TunnelRow.createdAt (fun row => row.cells.map Prod.snd) filter.limit filter.offset) ∧
    ∀ filter : AuditFilter,
      Lists (auditQuery filter) auditLogTable (fun row => filter.accepts row.entry)
        AuditRow.timestamp (fun row => row.cells.map Prod.snd) filter.limit filter.offset :=
  ⟨sessionsQuery_lists, tunnelsQuery_lists, auditQuery_lists⟩

end SentinelOps.Store
