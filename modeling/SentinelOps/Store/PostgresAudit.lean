/-
# Store.PostgresAudit — the audit log as a table, next to the one in memory

`AppendAuditLog` is an `INSERT` of all columns and `QueryAuditLog` a `SELECT` with the conditions
of the filter, `ORDER BY timestamp DESC`, `LIMIT` and `OFFSET`.  The rows are kept in the order in
which they were inserted; in which order the server reads them, and how it sorts rows of one
timestamp, is its own choice.

The in-memory log lists the oldest entry first.  So a list of two entries is never the same in both,
and the two agree when at most one entry is left of each, and that is the same one: `AuditAgree`.
-/
import SentinelOps.Store.PostgresRecords
import SentinelOps.Store.Windows

namespace SentinelOps.Store

open Theory GoText
open GoTime (Time)

set_option autoImplicit false

/-! ## The table -/

/-- The rows of `audit_log`, whose primary key is the ID. -/
structure AuditTable where
  rows : List AuditEntry
  primaryKey : (rows.map AuditEntry.id).Nodup

namespace RecordServer

variable (server : RecordServer)

/-- The row of an `INSERT INTO audit_log`. -/
def auditRow (entry : AuditEntry) (details : JSONObject) : Option AuditEntry :=
  if server.text entry.id && server.instant entry.timestamp && server.text entry.correlationID &&
      server.text entry.traceID && server.text entry.action && server.text entry.username &&
      server.text entry.role && server.text entry.resource && server.text entry.result &&
      server.text entry.sourceIP then
    (server.jsonb details).map fun object =>
      { entry with timestamp := server.timestamp entry.timestamp, details := some object }
  else none

/-- Whether the server takes the arguments of a filter. -/
def takesAudit (filter : AuditFilter) : Bool :=
  server.takes filter.username && server.takes filter.action && server.takes filter.result &&
    filter.since.all server.instant && filter.upTo.all server.instant

/-- The filter with its instants as the server compares them. -/
def rounded (filter : AuditFilter) : AuditFilter :=
  { filter with
    since := filter.since.map server.timestamp
    upTo := filter.upTo.map server.timestamp }

end RecordServer

namespace AuditTable

variable (server : RecordServer) (t : AuditTable)

def empty : AuditTable := ⟨[], List.nodup_nil⟩

omit server in
theorem nodup_insert {row : AuditEntry} (free : ¬ ∃ old ∈ t.rows, old.id = row.id) :
    ((t.rows ++ [row]).map AuditEntry.id).Nodup := by
  rw [List.map_append, List.map_singleton]
  refine t.primaryKey.append (List.nodup_singleton _) ?_
  rw [List.disjoint_singleton, List.mem_map]
  exact free

def insert (row : AuditEntry) : Except StoreError Unit × AuditTable :=
  if taken : ∃ old ∈ t.rows, old.id = row.id then (.error .driver, t)
  else (.ok (), ⟨t.rows ++ [row], t.nodup_insert taken⟩)

def appendAuditLog (entry : AuditEntry) (fresh : Uuid) (now : Time) :
    Except StoreError Unit × AuditTable :=
  let entry := entry.stamped fresh now
  match marshalJSONMap entry.details with
  | none => (.error .encoding, t)
  | some details =>
      match server.auditRow entry details with
      | none => (.error .driver, t)
      | some row => t.insert row

/-- `order` is the order in which the server returns the rows. -/
def queryAuditLog (filter : AuditFilter) (order : List AuditEntry) :
    Except StoreError (List AuditEntry) :=
  if server.takesAudit filter then
    .ok (page (order.filter (server.rounded filter).accepts) filter.limit filter.offset)
  else .error .driver

/-- The orders of the rows that are sorted by `timestamp DESC`. -/
def Sorts (order : List AuditEntry) : Prop :=
  order.Perm t.rows ∧ NewestFirst AuditEntry.timestamp order

end AuditTable

/-! ## The same calls on both -/

/-- A call of `AppendAuditLog` with the UUID it draws and the instant it reads. -/
structure AuditCall where
  entry : AuditEntry
  fresh : Uuid
  now : Time

def AuditCall.stamped (call : AuditCall) : AuditEntry := call.entry.stamped call.fresh call.now

def memoryAfter (calls : List AuditCall) : Memory :=
  calls.foldl (fun m call => m.appendAuditLog call.entry call.fresh call.now) newMemory

def postgresAfter (server : RecordServer) (calls : List AuditCall) : AuditTable :=
  calls.foldl (fun t call => (t.appendAuditLog server call.entry call.fresh call.now).2) .empty

theorem auditLog_memoryAfter (calls : List AuditCall) :
    (memoryAfter calls).auditLog = calls.map AuditCall.stamped := by
  induction calls using List.reverseRecOn with
  | nil => rfl
  | append_singleton calls call ih =>
      unfold memoryAfter at ih ⊢
      rw [List.foldl_append, List.map_append, ← ih]
      rfl

/-! ## Positions -/

section Positions

variable {α : Type}

/-- The element at a position, when a predicate holds of the elements before it and of no
other. -/
theorem getElem?_eq_some_iff_countP {p : α → Bool} {l : List α} {x : α} {n : Nat}
    (splits : ∀ before after, l = before ++ x :: after →
      (∀ y ∈ before, p y = true) ∧ p x = false ∧ ∀ y ∈ after, p y = false) :
    l[n]? = some x ↔ x ∈ l ∧ l.countP p = n := by
  have counted : ∀ before after, l = before ++ x :: after → l.countP p = before.length := by
    intro before after split
    obtain ⟨first, self, rest⟩ := splits before after split
    have tail : after.countP p = 0 := List.countP_eq_zero.2 fun y member => by
      rw [rest y member]
      decide
    rw [split, List.countP_append, List.countP_cons, self, tail, List.countP_eq_length.2 first]
    rfl
  constructor
  · intro found
    obtain ⟨inside, same⟩ := List.getElem?_eq_some_iff.1 found
    have split : l = l.take n ++ x :: l.drop (n + 1) := by
      rw [← same, ← List.drop_eq_getElem_cons inside, List.take_append_drop]
    refine ⟨List.mem_of_getElem? found, ?_⟩
    rw [counted _ _ split, List.length_take, min_eq_left inside.le]
  · rintro ⟨member, rfl⟩
    obtain ⟨before, after, split⟩ := List.append_of_mem member
    rw [counted before after split, split]
    simp

variable {key : α → Time}

/-- A list that rises and falls has at most one element. -/
theorem length_le_one_of_pairwise {l : List α} (rises : l.Pairwise fun x y => key x < key y)
    (falls : NewestFirst key l) : l.length ≤ 1 := by
  match l with
  | [] => exact Nat.zero_le 1
  | [x] => exact le_rfl
  | x :: y :: rest =>
      have up := (List.pairwise_cons.1 rises).1 y List.mem_cons_self
      have down := (List.pairwise_cons.1 falls).1 y List.mem_cons_self
      exact absurd up (not_lt.2 down)

/-- In a rising list, the element with `n` below it is at position `n`. -/
theorem rising_position {l : List α} (rises : l.Pairwise fun x y => key x < key y) {x : α}
    {n : Nat} :
    l[n]? = some x ↔ x ∈ l ∧ l.countP (fun y => decide (key y < key x)) = n := by
  refine getElem?_eq_some_iff_countP fun before after split => ?_
  rw [split, List.pairwise_append, List.pairwise_cons] at rises
  obtain ⟨-, ⟨above, -⟩, below⟩ := rises
  refine ⟨fun y member => decide_eq_true (below y member x List.mem_cons_self), by simp,
    fun y member => decide_eq_false (not_lt.2 (above y member).le)⟩

/-- In a falling list, an element that is alone with its key and has `n` above it is at position
`n`. -/
theorem falling_position {l : List α} (falls : NewestFirst key l) (distinct : l.Nodup) {x : α}
    {n : Nat} (alone : ∀ y ∈ l, key y = key x → y = x) :
    l[n]? = some x ↔ x ∈ l ∧ l.countP (fun y => decide (key x < key y)) = n := by
  refine getElem?_eq_some_iff_countP fun before after split => ?_
  have falls' := falls
  rw [NewestFirst, split, List.pairwise_append, List.pairwise_cons] at falls'
  obtain ⟨-, ⟨below, -⟩, above⟩ := falls'
  rw [split, List.nodup_append] at distinct
  refine ⟨fun y member => decide_eq_true ?_, by simp,
    fun y member => decide_eq_false (not_lt.2 (below y member))⟩
  refine lt_of_le_of_ne (above y member x List.mem_cons_self) fun same => ?_
  have self : y = x := alone y (by rw [split]; exact List.mem_append_left _ member) same.symm
  exact distinct.2.2 y member x List.mem_cons_self self

end Positions

/-! ## Windows of the two -/

theorem window_sublist {α : Type} (input : List α) (limit offset : Int64) :
    (window input limit offset).Sublist input := by
  unfold window
  dsimp only
  split
  · exact (List.take_sublist _ _).trans (List.drop_sublist _ _)
  · exact List.drop_sublist _ _

theorem page_eq_window {α : Type} (rows : List α) (limit offset : Int64) :
    page rows limit offset = window rows limit offset := by
  have skips : (if 0 < offset then rows.drop offset.toInt.toNat else rows) =
      rows.drop (skipped offset) := by
    split
    · next positive =>
        rw [Int64.lt_iff_toInt_lt, Int64.toInt_zero] at positive
        rw [skipped_of_nonneg positive.le]
    · next low =>
        rw [Int64.lt_iff_toInt_lt, Int64.toInt_zero] at low
        rw [show skipped offset = 0 by rw [skipped]; omega, List.drop_zero]
  unfold page window
  rw [skips]

/-- One element is left, and it is at the offset of both. -/
def OneLeft {α : Type} (entries rows : List α) (limit offset : Int64) : Prop :=
  (limit = 1 ∨ entries.length = skipped offset + 1) ∧ (limit = 1 ∨ rows.length = skipped offset + 1)

/-- A rising list and a falling one have the same window only if it has at most one element. -/
theorem window_eq_window_iff {α : Type} {key : α → Time} {entries rows : List α}
    {limit offset : Int64} (rises : entries.Pairwise fun x y => key x < key y)
    (falls : NewestFirst key rows) :
    window entries limit offset = window rows limit offset ↔
      (entries.length ≤ skipped offset ∧ rows.length ≤ skipped offset) ∨
        (OneLeft entries rows limit offset ∧
          ∃ x, entries[skipped offset]? = some x ∧ rows[skipped offset]? = some x) := by
  constructor
  · intro same
    have few : (window entries limit offset).length ≤ 1 := by
      refine length_le_one_of_pairwise (rises.sublist (window_sublist _ _ _)) ?_
      rw [same]
      exact falls.sublist (window_sublist _ _ _)
    match shown : window entries limit offset with
    | [] =>
        exact .inl ⟨window_eq_nil_iff.1 shown, window_eq_nil_iff.1 (same.symm.trans shown)⟩
    | [x] =>
        obtain ⟨found, left⟩ := window_eq_singleton_iff.1 shown
        obtain ⟨found', left'⟩ := window_eq_singleton_iff.1 (same.symm.trans shown)
        exact .inr ⟨⟨left, left'⟩, x, found, found'⟩
    | x :: y :: rest =>
        rw [shown] at few
        exact absurd few (by simp)
  · rintro (⟨none_, none_'⟩ | ⟨⟨left, left'⟩, x, found, found'⟩)
    · rw [window_eq_nil_iff.2 none_, window_eq_nil_iff.2 none_']
    · rw [window_eq_singleton_iff.2 ⟨found, left⟩, window_eq_singleton_iff.2 ⟨found', left'⟩]

/-! ## When the two logs agree -/

/-- The entry has as many matching entries before it as rows after it, and no row is stored at the
instant of its own. -/
structure InTheMiddle (entries rows : List AuditEntry) (n : Nat) (entry : AuditEntry) : Prop where
  logged : entry ∈ entries
  stored : entry ∈ rows
  older : entries.countP (fun other => decide (other.timestamp < entry.timestamp)) = n
  newer : rows.countP (fun row => decide (entry.timestamp < row.timestamp)) = n
  alone : ∀ row ∈ rows, row.timestamp = entry.timestamp → row = entry

/-- The server takes the filter, the window does not overflow, and of the entries and rows that
match, nothing is left after the offset, or one and the same. -/
def AuditAgree (server : RecordServer) (filter : AuditFilter) (log rows : List AuditEntry) : Prop :=
  let entries := log.filter filter.accepts
  let rows := rows.filter (server.rounded filter).accepts
  server.takesAudit filter = true ∧ WindowFits entries.length filter.limit filter.offset ∧
    ((entries.length ≤ skipped filter.offset ∧ rows.length ≤ skipped filter.offset) ∨
      (OneLeft entries rows filter.limit filter.offset ∧
        ∃ entry, InTheMiddle entries rows (skipped filter.offset) entry))

section Agreement

variable {server : RecordServer} {filter : AuditFilter} {m : Memory} {t : AuditTable}
  {order : List AuditEntry}

/-- For one order of the rows: the windows are the same. -/
theorem queries_eq_iff :
    (∃ entries, m.queryAuditLog filter = some entries ∧
        AuditTable.queryAuditLog server filter order = .ok entries) ↔
      server.takesAudit filter = true ∧
        WindowFits (m.auditLog.filter filter.accepts).length filter.limit filter.offset ∧
        window (m.auditLog.filter filter.accepts) filter.limit filter.offset =
          window (order.filter (server.rounded filter).accepts) filter.limit filter.offset := by
  unfold Memory.queryAuditLog AuditTable.queryAuditLog applyAuditWindow
  rw [applyWindow_eq, page_eq_window]
  by_cases takes : server.takesAudit filter = true
  · by_cases fits : WindowFits (m.auditLog.filter filter.accepts).length filter.limit filter.offset
    · simp [takes, fits, eq_comm]
    · simp [fits]
  · simp [takes]

/-- The server can sort the rows. -/
theorem exists_sorts (t : AuditTable) : ∃ order, t.Sorts order := by
  have transitive : ∀ a b c : AuditEntry, decide (b.timestamp ≤ a.timestamp) = true →
      decide (c.timestamp ≤ b.timestamp) = true → decide (c.timestamp ≤ a.timestamp) = true :=
    fun a b c first second =>
      decide_eq_true ((of_decide_eq_true second).trans (of_decide_eq_true first))
  have total : ∀ a b : AuditEntry,
      (decide (b.timestamp ≤ a.timestamp) || decide (a.timestamp ≤ b.timestamp)) = true := by
    intro a b
    rw [Bool.or_eq_true, decide_eq_true_eq, decide_eq_true_eq]
    exact le_total _ _
  exact ⟨t.rows.mergeSort fun a b => decide (b.timestamp ≤ a.timestamp), List.mergeSort_perm _ _,
    (List.pairwise_mergeSort transitive total t.rows).imp of_decide_eq_true⟩

theorem AuditTable.Sorts.nodup (sorts : t.Sorts order) : order.Nodup :=
  sorts.1.nodup_iff.2 (List.Nodup.of_map _ t.primaryKey)

/-- Two rows of one timestamp may come in the other order. -/
theorem AuditTable.Sorts.swap (sorts : t.Sorts order) {x y : AuditEntry} (first : x ∈ order)
    (second : y ∈ order) (tie : y.timestamp = x.timestamp) :
    t.Sorts (order.map (Equiv.swap x y)) := by
  have same : ∀ z, (Equiv.swap x y z).timestamp = z.timestamp := by
    intro z
    rw [Equiv.swap_apply_def]
    split
    · next here => rw [here, tie]
    · split
      · next there => rw [there, tie]
      · rfl
  have inside : ∀ z, Equiv.swap x y z ∈ order ↔ z ∈ order := by
    intro z
    rw [Equiv.swap_apply_def]
    split
    · next here => rw [here, iff_true_right first]; exact second
    · split
      · next there => rw [there, iff_true_right second]; exact first
      · rfl
  have distinct : (order.map (Equiv.swap x y)).Nodup :=
    sorts.nodup.map (Equiv.swap x y).injective
  refine ⟨List.Perm.trans ((List.perm_ext_iff_of_nodup distinct sorts.nodup).2 fun z => ?_) sorts.1,
    ?_⟩
  · rw [List.mem_map]
    constructor
    · rintro ⟨w, member, rfl⟩
      exact (inside w).2 member
    · exact fun member => ⟨Equiv.swap x y z, (inside z).2 member, Equiv.swap_apply_self x y z⟩
  · rw [NewestFirst, List.pairwise_map]
    exact sorts.2.imp fun sorted => by rwa [same, same]

/-- The rows that match, in the order with two matching rows of one timestamp exchanged. -/
theorem filter_map_swap {accepts : AuditEntry → Bool} {x y : AuditEntry}
    (first : accepts x = true) (second : accepts y = true) (order : List AuditEntry) :
    (order.map (Equiv.swap x y)).filter accepts =
      (order.filter accepts).map (Equiv.swap x y) := by
  have same : accepts ∘ Equiv.swap x y = accepts := by
    funext z
    rw [Function.comp_apply, Equiv.swap_apply_def]
    split
    · next here => rw [here, first, second]
    · split
      · next there => rw [there, first, second]
      · rfl
  rw [List.filter_map, same]

variable {log : List AuditEntry}

/-- In every order the windows are the same exactly when nothing is left, or the entry in the
middle. -/
theorem windows_agree_iff (rises : log.Pairwise fun x y => x.timestamp < y.timestamp) :
    let entries := log.filter filter.accepts
    let rows := t.rows.filter (server.rounded filter).accepts
    (∀ order, t.Sorts order → window entries filter.limit filter.offset =
        window (order.filter (server.rounded filter).accepts) filter.limit filter.offset) ↔
      (entries.length ≤ skipped filter.offset ∧ rows.length ≤ skipped filter.offset) ∨
        (OneLeft entries rows filter.limit filter.offset ∧
          ∃ entry, InTheMiddle entries rows (skipped filter.offset) entry) := by
  intro entries rows
  have rises' : entries.Pairwise fun x y => x.timestamp < y.timestamp :=
    rises.sublist List.filter_sublist
  have falls : ∀ {order}, t.Sorts order →
      NewestFirst AuditEntry.timestamp (order.filter (server.rounded filter).accepts) :=
    fun sorts => sorts.2.sublist List.filter_sublist
  have shuffled : ∀ {order}, t.Sorts order →
      (order.filter (server.rounded filter).accepts).Perm rows := fun sorts => sorts.1.filter _
  constructor
  · intro agree
    obtain ⟨order, sorts⟩ := exists_sorts t
    have lengths := (shuffled sorts).length_eq
    rcases (window_eq_window_iff rises' (falls sorts)).1 (agree order sorts) with
      ⟨none_, none_'⟩ | ⟨⟨left, left'⟩, x, found, found'⟩
    · exact .inl ⟨none_, lengths ▸ none_'⟩
    · refine .inr ⟨⟨left, lengths ▸ left'⟩, x, ?_⟩
      have logged := (rising_position rises').1 found
      have stored : x ∈ order.filter (server.rounded filter).accepts := List.mem_of_getElem? found'
      have alone : ∀ row ∈ order.filter (server.rounded filter).accepts,
          row.timestamp = x.timestamp → row = x := by
        intro row member tie
        obtain ⟨inside, accepted⟩ := List.mem_filter.1 stored
        obtain ⟨inside', accepted'⟩ := List.mem_filter.1 member
        -- With the tied row in its place, the entry would have to be that row.
        have sorts' := sorts.swap inside inside' tie
        have again := agree _ sorts'
        rw [(window_eq_singleton_iff.2 ⟨found, left⟩ : window entries _ _ = [x]),
          filter_map_swap accepted accepted'] at again
        have other := (window_eq_singleton_iff.1 again.symm).1
        rw [List.getElem?_map, found', Option.map_some, Equiv.swap_apply_left] at other
        exact Option.some.inj other
      have placed := (falling_position (falls sorts) (sorts.nodup.filter _) alone).1 found'
      refine ⟨logged.1, (shuffled sorts).mem_iff.1 stored, logged.2, ?_, fun row member =>
        alone row ((shuffled sorts).mem_iff.2 member)⟩
      rw [← (shuffled sorts).countP_eq]
      exact placed.2
  · rintro (⟨none_, none_'⟩ | ⟨⟨left, left'⟩, x, middle⟩) order sorts
    · have lengths := (shuffled sorts).length_eq
      exact (window_eq_window_iff rises' (falls sorts)).2 (.inl ⟨none_, lengths ▸ none_'⟩)
    · have lengths := (shuffled sorts).length_eq
      refine (window_eq_window_iff rises' (falls sorts)).2
        (.inr ⟨⟨left, lengths ▸ left'⟩, x, ?_, ?_⟩)
      · exact (rising_position rises').2 ⟨middle.logged, middle.older⟩
      · refine (falling_position (falls sorts) (sorts.nodup.filter _) fun row member =>
          middle.alone row ((shuffled sorts).mem_iff.1 member)).2
            ⟨(shuffled sorts).mem_iff.2 middle.stored, ?_⟩
        rw [(shuffled sorts).countP_eq]
        exact middle.newer

/-- Of a rising list, the element with `n` on both sides. -/
theorem exists_middle_iff {entries : List AuditEntry} {n : Nat}
    (rises : entries.Pairwise fun x y => x.timestamp < y.timestamp) :
    (∃ entry, InTheMiddle entries entries n entry) ↔ entries.length = 2 * n + 1 := by
  have falls : NewestFirst AuditEntry.timestamp entries.reverse :=
    List.pairwise_reverse.2 (rises.imp le_of_lt)
  have distinct : entries.reverse.Nodup :=
    List.nodup_reverse.2 (rises.imp fun less same => absurd (same ▸ less) (lt_irrefl _))
  have alone : ∀ {x}, x ∈ entries → ∀ y ∈ entries, y.timestamp = x.timestamp → y = x := by
    intro x member y member' tie
    obtain ⟨before, after, split⟩ := List.append_of_mem member
    rw [split, List.pairwise_append, List.pairwise_cons] at rises
    obtain ⟨-, ⟨above, -⟩, below⟩ := rises
    rw [split, List.mem_append, List.mem_cons] at member'
    rcases member' with first | here | last
    · exact absurd tie (below y first x List.mem_cons_self).ne
    · exact here
    · exact absurd tie (above y last).ne'
  -- Read from the other end, the position is the number of newer entries.
  have mirrored : ∀ {x}, x ∈ entries →
      (entries.reverse[n]? = some x ↔
        entries.countP (fun row => decide (x.timestamp < row.timestamp)) = n) := by
    intro x member
    rw [falling_position falls distinct fun y inside => alone member y (List.mem_reverse.1 inside),
      List.mem_reverse, and_iff_right member, List.countP_reverse]
  constructor
  · rintro ⟨x, middle⟩
    have found := (rising_position rises).2 ⟨middle.logged, middle.older⟩
    obtain ⟨inside, -⟩ := List.getElem?_eq_some_iff.1 found
    have found' := (mirrored middle.logged).2 middle.newer
    rw [List.getElem?_reverse inside] at found'
    have older := ((rising_position rises).1 found').2
    rw [middle.older] at older
    omega
  · intro length
    obtain ⟨x, found⟩ : ∃ x, entries[n]? = some x :=
      ⟨entries[n], List.getElem?_eq_getElem (by omega)⟩
    obtain ⟨member, older⟩ := (rising_position rises).1 found
    have found' : entries.reverse[n]? = some x := by
      rw [List.getElem?_reverse (by omega), ← found]
      congr 1
      omega
    exact ⟨x, member, member, older, (mirrored member).1 found', alone member⟩

/-- In the plain case: every entry is stored as it is, and so are the instants of the filter. -/
theorem auditAgree_of_plain (rises : log.Pairwise fun x y => x.timestamp < y.timestamp)
    (same : server.rounded filter = filter) :
    AuditAgree server filter log log ↔
      let n := (log.filter filter.accepts).length
      let o := skipped filter.offset
      server.takesAudit filter = true ∧ WindowFits n filter.limit filter.offset ∧
        (n ≤ o ∨ (n = 2 * o + 1 ∧ (filter.limit = 1 ∨ o = 0))) := by
  have rises' : (log.filter filter.accepts).Pairwise fun x y => x.timestamp < y.timestamp :=
    rises.sublist List.filter_sublist
  have middle := exists_middle_iff (n := skipped filter.offset) rises'
  unfold AuditAgree OneLeft
  rw [same]
  dsimp only
  rw [middle, and_self, and_self]
  refine and_congr_right fun _ => and_congr_right fun _ => or_congr_right ?_
  constructor
  · rintro ⟨one | last, length⟩
    · exact ⟨length, .inl one⟩
    · exact ⟨length, .inr (by omega)⟩
  · rintro ⟨length, one | none_⟩
    · exact ⟨.inl one, length⟩
    · exact ⟨.inr (by omega), length⟩

end Agreement

/-- **When the two audit logs agree.**  After any appends at increasing instants, and for every
filter, the query of the in-memory store and that of the Postgres store return the same list,
however the server orders the rows, exactly under `AuditAgree`.  If Postgres stores every entry as
it is, that means: at most as many entries match as the offset skips, or one more than twice as
many, with a limit of one or no offset. -/
theorem audit_agree_iff (server : RecordServer) (calls : List AuditCall)
    (increasing : calls.Pairwise fun first second => first.now < second.now)
    (filter : AuditFilter) :
    ((∀ order, (postgresAfter server calls).Sorts order →
        ∃ entries, (memoryAfter calls).queryAuditLog filter = some entries ∧
          AuditTable.queryAuditLog server filter order = .ok entries) ↔
      AuditAgree server filter (calls.map AuditCall.stamped) (postgresAfter server calls).rows) ∧
    ((postgresAfter server calls).rows = calls.map AuditCall.stamped →
      server.rounded filter = filter →
      (AuditAgree server filter (calls.map AuditCall.stamped) (postgresAfter server calls).rows ↔
        let n := ((calls.map AuditCall.stamped).filter filter.accepts).length
        let o := skipped filter.offset
        server.takesAudit filter = true ∧ WindowFits n filter.limit filter.offset ∧
          (n ≤ o ∨ (n = 2 * o + 1 ∧ (filter.limit = 1 ∨ o = 0))))) := by
  have rises : (calls.map AuditCall.stamped).Pairwise fun x y => x.timestamp < y.timestamp :=
    List.pairwise_map.2 increasing
  constructor
  · obtain ⟨some_, sorted⟩ := exists_sorts (postgresAfter server calls)
    simp only [queries_eq_iff, auditLog_memoryAfter]
    constructor
    · intro agree
      refine ⟨(agree some_ sorted).1, (agree some_ sorted).2.1, (windows_agree_iff rises).1 ?_⟩
      exact fun order sorts => (agree order sorts).2.2
    · rintro ⟨takes, fits, left⟩ order sorts
      exact ⟨takes, fits, (windows_agree_iff rises).2 left order sorts⟩
  · intro plain same
    rw [plain]
    exact auditAgree_of_plain rises same

/-- A login, to be logged under this ID. -/
def sampleEntry (id : GoString) : AuditEntry where
  id := id
  timestamp := 0
  correlationID := str "c1"
  traceID := []
  action := str "login"
  username := str "ana"
  role := str "operator"
  resource := str "ssh"
  result := str "success"
  details := some ∅
  sourceIP := str "10.0.0.7"

/-- A login that is appended at a whole microsecond. -/
def loginAt (id : GoString) (microsecond : Int) : AuditCall :=
  ⟨sampleEntry id, default, microsecond * 1000⟩

/-- Three logins, of which both stores return the one in the middle. -/
theorem audit_agree_middle :
    let calls := [loginAt (str "a1") 1, loginAt (str "a2") 2, loginAt (str "a3") 3]
    let filter : AuditFilter := { limit := 1, offset := 1 }
    ∀ order, (postgresAfter sampleServer calls).Sorts order →
      ∃ entries, (memoryAfter calls).queryAuditLog filter = some entries ∧
        AuditTable.queryAuditLog sampleServer filter order = .ok entries := by
  intro calls filter
  have increasing : calls.Pairwise fun first second => first.now < second.now := by decide
  obtain ⟨agree, plain⟩ := audit_agree_iff sampleServer calls increasing filter
  refine agree.2 ((plain (by decide +kernel) rfl).2 ?_)
  exact ⟨by decide, by decide, .inr ⟨by decide, .inl rfl⟩⟩

/-- Two logins and no filter: the one store lists them in the order of the calls, the other in the
opposite one. -/
theorem audit_disagree :
    let first := loginAt (str "a1") 1
    let second := loginAt (str "a2") 2
    let order := [second.stamped, first.stamped]
    (postgresAfter sampleServer [first, second]).Sorts order ∧
      (memoryAfter [first, second]).queryAuditLog {} = some [first.stamped, second.stamped] ∧
      AuditTable.queryAuditLog sampleServer {} order = .ok [second.stamped, first.stamped] ∧
      first.stamped ≠ second.stamped := by
  intro first second order
  have sorts : (postgresAfter sampleServer [first, second]).Sorts order :=
    ⟨by decide +kernel, by decide +kernel⟩
  exact ⟨sorts, by decide, rfl, by decide⟩

end SentinelOps.Store
