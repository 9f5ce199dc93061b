/-
# Store.RedisAudit — the audit log as a stream

`AppendAuditLog` adds an entry, as JSON, to the stream `audit:log`, which is cut to its newest ten
thousand.  `QueryAuditLog` reads the newest entries, as many as the limit or a thousand, keeps those
that match the three string fields of the filter, and cuts the window out of them.

What it should return is the window of all appended entries that match the whole filter, newest
first.  It does not look at `Since` and `Until`, an entry that does not match takes the place of one
that does, and what it matches and returns is an entry as JSON keeps it, which is another one if it
is not UTF-8.  `StreamExact` says when that makes no difference, and `StreamAccepted` what that is
in a log whose entries JSON keeps apart.
-/
import SentinelOps.Store.PostgresAudit
import SentinelOps.Store.RoundTrip

namespace SentinelOps.Store

open Theory GoText
open GoTime (Time)

set_option autoImplicit false

/-! ## The stream -/

/-- The stream, oldest entry first, with the bound that `XADD` is sent. -/
structure AuditStream where
  entries : List Document
  bounded : entries.length ≤ 10000

/-- The three conditions that the query checks. -/
def AuditFilter.matchesFields (filter : AuditFilter) (entry : AuditEntry) : Bool :=
  matchesField filter.username entry.username && matchesField filter.action entry.action &&
    matchesField filter.result entry.result

def limitOrDefault (limit fallback : Int64) : Int64 := if 0 < limit then limit else fallback

namespace AuditStream

def empty : AuditStream := ⟨[], Nat.zero_le _⟩

/-- `XADD` with `MAXLEN 10000`. -/
def xAdd (s : AuditStream) (data : Document) : AuditStream where
  entries := (s.entries ++ [data]).drop ((s.entries ++ [data]).length - 10000)
  bounded := by
    rw [List.length_drop]
    omega

/-- `XREVRANGE` from the newest on, with a `COUNT`. -/
def xRevRangeN (s : AuditStream) (count : Int64) : List Document :=
  s.entries.reverse.take count.toInt.toNat

def appendAuditLog (s : AuditStream) (entry : AuditEntry) (fresh : Uuid) (now : Time) :
    Except StoreError Unit × AuditStream :=
  match (entry.stamped fresh now).marshal with
  | none => (.error .encoding, s)
  | some data => (.ok (), s.xAdd data)

/-- `none` is the panic of the window. -/
def queryAuditLog (s : AuditStream) (filter : AuditFilter) : Option (List AuditEntry) :=
  let fetched := s.xRevRangeN (limitOrDefault filter.limit 1000)
  let result := (fetched.filterMap Document.unmarshalAuditEntry).filter filter.matchesFields
  applyAuditWindow result filter.limit filter.offset

end AuditStream

/-- Those that the query finds in the log, newest first: of the ones that it reads, the ones that
match its three conditions in the form that JSON keeps. -/
def AuditFilter.fetched (filter : AuditFilter) (recent : List AuditEntry) : List AuditEntry :=
  (recent.take (limitOrDefault filter.limit 1000).toInt.toNat).filter
    fun entry => filter.matchesFields entry.readBack

section Window

variable {α : Type} {limit offset : Int64}

/-- How many of `n` elements are in the window. -/
def shown (limit : Int64) (offset n : Nat) : Nat :=
  if 0 < limit then min limit.toInt.toNat (n - offset) else n - offset

/-- Entries that are all kept stay at their places. -/
theorem getElem?_filter_of_all {p : α → Bool} {input : List α} {n i : Nat}
    (all : ∀ x ∈ input.take n, p x = true) (inside : i < n) (place : i < input.length) :
    (input.filter p)[i]? = input[i]? := by
  conv_lhs => rw [← List.take_append_drop n input]
  rw [List.filter_append, List.filter_eq_self.2 all,
    List.getElem?_append_left (by rw [List.length_take]; omega), List.getElem?_take_of_lt inside]

/-- Of a list without repetitions, an entry is kept at its own place only after entries that are all
kept. -/
theorem all_of_getElem?_filter {p : α → Bool} {input : List α} (distinct : input.Nodup) {n : Nat}
    {a : α} (kept : (input.filter p)[n]? = some a) (here : input[n]? = some a) :
    ∀ x ∈ input.take (n + 1), p x = true := by
  have itself : p a = true := (List.mem_filter.1 (List.mem_of_getElem? kept)).2
  have split : input.filter p = (input.take n).filter p ++ (input.drop n).filter p := by
    rw [← List.filter_append, List.take_append_drop]
  obtain ⟨inside, place⟩ := List.getElem?_eq_some_iff.1 here
  -- In what is kept it comes right after what is kept of the entries before it.
  have after : (input.filter p)[((input.take n).filter p).length]? = some a := by
    rw [split, List.getElem?_append_right le_rfl, Nat.sub_self, List.drop_eq_getElem_cons inside,
      place, List.filter_cons_of_pos itself, List.getElem?_cons_zero]
  have all : ((input.take n).filter p).length = (input.take n).length := by
    rw [List.length_take_of_le inside.le]
    exact (List.getElem?_inj (List.getElem?_eq_some_iff.1 after).1 (distinct.filter p)).1
      (after.trans kept.symm)
  intro x member
  rw [List.take_add_one, here, Option.toList_some, List.mem_append, List.mem_singleton] at member
  rcases member with before | rfl
  · exact List.length_filter_eq_length_iff.1 all x before
  · exact itself

theorem shown_pos_iff (limit : Int64) {o n : Nat} : 0 < shown limit o n ↔ o < n := by
  unfold shown
  split
  · next limited =>
      rw [Int64.lt_iff_toInt_lt, Int64.toInt_zero] at limited
      omega
  · omega

theorem shown_le (limit : Int64) (o n : Nat) : shown limit o n ≤ n - o := by
  unfold shown
  split <;> omega

end Window

/-! ## When the query is exact -/

/-- Every string of the entry is UTF-8, and its details are read as they were. -/
def AuditEntry.Utf8 (entry : AuditEntry) : Prop :=
  (∀ s ∈ [entry.id, entry.correlationID, entry.traceID, entry.action, entry.username, entry.role,
    entry.resource, entry.result, entry.sourceIP], validString s = true) ∧
    JSONMap.Utf8 entry.details

/-- JSON keeps exactly the entries that are UTF-8. -/
theorem AuditEntry.readBack_eq_self_iff {entry : AuditEntry} :
    entry.readBack = entry ↔ entry.Utf8 := by
  obtain ⟨id, timestamp, correlationID, traceID, action, username, role, resource, result, details,
    sourceIP⟩ := entry
  have kept : JSONMap.readBack details = details ↔ JSONMap.Utf8 details := by
    cases details with
    | none => exact iff_of_true rfl fun _ same => by cases same
    | some object =>
        rw [JSONMap.readBack, Option.map_some, Option.some.injEq, JSONObject.readBack_eq_self_iff]
        exact ⟨fun utf8 _ same => Option.some.inj same ▸ utf8, fun utf8 => utf8 object rfl⟩
  simp only [AuditEntry.readBack, AuditEntry.mk.injEq, AuditEntry.Utf8, kept, List.forall_mem_cons,
    coerce_eq_self_iff, true_and, List.not_mem_nil, false_imp_iff, implies_true, and_true]
  tauto

theorem AuditEntry.readBack_readBack (entry : AuditEntry) :
    entry.readBack.readBack = entry.readBack := by
  have kept : entry.details.readBack.readBack = entry.details.readBack := by
    cases entry.details with
    | none => rfl
    | some object =>
        exact congrArg some
          ((JSONObject.readBack_eq_self_iff _).2 (JSONObject.utf8_readBack object))
  simp only [AuditEntry.readBack, coerce_coerce, kept]

instance (entry : AuditEntry) : Decidable entry.Utf8 :=
  decidable_of_iff (entry.readBack = entry) AuditEntry.readBack_eq_self_iff

/-- Nothing is left after the offset of what is found and of what matches; or as much is left of
both, and place by place what is found is returned as what matches. -/
def StreamExact (filter : AuditFilter) (recent : List AuditEntry) : Prop :=
  let fetched := filter.fetched recent
  let wanted := recent.filter filter.accepts
  let o := skipped filter.offset
  let w := shown filter.limit o fetched.length
  WindowFits fetched.length filter.limit filter.offset ∧
    ((fetched.length ≤ o ∧ wanted.length ≤ o) ∨
      (o < fetched.length ∧ w = shown filter.limit o wanted.length ∧
        ∀ i < w, fetched[o + i]?.map AuditEntry.readBack = wanted[o + i]?))

/-- The same of a log whose entries JSON keeps apart: everything that is found up to the end of the
window matches, and what is in the window is UTF-8. -/
def StreamAccepted (filter : AuditFilter) (recent : List AuditEntry) : Prop :=
  let fetched := filter.fetched recent
  let wanted := recent.filter filter.accepts
  let o := skipped filter.offset
  let w := shown filter.limit o fetched.length
  WindowFits fetched.length filter.limit filter.offset ∧
    ((fetched.length ≤ o ∧ wanted.length ≤ o) ∨
      (o < fetched.length ∧ w = shown filter.limit o wanted.length ∧
        (∀ entry ∈ fetched.take (o + w), filter.accepts entry = true) ∧
        ∀ entry ∈ (fetched.drop o).take w, entry.Utf8))

section Exact

variable {filter : AuditFilter} {recent : List AuditEntry}

/-- A condition that some entry meets in the form that JSON keeps is UTF-8, so an entry that meets
it does so in that form too. -/
theorem matchesField_coerce {wanted s t : GoString} (met : matchesField wanted (coerce s) = true)
    (here : matchesField wanted t = true) : matchesField wanted (coerce t) = true := by
  simp only [matchesField, Bool.or_eq_true, beq_iff_eq] at met here ⊢
  rcases met with empty | same
  · exact .inl empty
  · refine here.imp_right ?_
    rintro rfl
    rw [← same, coerce_coerce]

theorem matchesFields_readBack {entry found : AuditEntry}
    (met : filter.matchesFields found.readBack = true)
    (here : filter.matchesFields entry = true) :
    filter.matchesFields entry.readBack = true := by
  simp only [AuditFilter.matchesFields, Bool.and_eq_true] at met here ⊢
  exact ⟨⟨matchesField_coerce met.1.1 here.1.1, matchesField_coerce met.1.2 here.1.2⟩,
    matchesField_coerce met.2 here.2⟩

/-- Once the query finds an entry, the entries that match are among those it would find in the
whole log. -/
theorem wanted_eq (found : filter.fetched recent ≠ []) :
    ∃ rest, (filter.fetched recent ++ rest).Sublist recent ∧
      recent.filter filter.accepts = (filter.fetched recent ++ rest).filter filter.accepts := by
  obtain ⟨entry, member⟩ := List.exists_mem_of_ne_nil _ found
  have met := (List.mem_filter.1 member).2
  refine ⟨(recent.drop (limitOrDefault filter.limit 1000).toInt.toNat).filter
    fun entry => filter.matchesFields entry.readBack, ?_⟩
  rw [AuditFilter.fetched, ← List.filter_append, List.take_append_drop, List.filter_filter]
  refine ⟨List.filter_sublist, List.filter_congr fun entry _ => ?_⟩
  cases accepted : filter.accepts entry with
  | false => rfl
  | true =>
      have fields : filter.matchesFields entry = true := by
        simp only [AuditFilter.accepts, Bool.and_eq_true] at accepted
        simp [AuditFilter.matchesFields, accepted]
      rw [matchesFields_readBack met fields]
      rfl

theorem StreamAccepted.exact (accepted : StreamAccepted filter recent) :
    StreamExact filter recent := by
  refine accepted.imp_right (Or.imp_right fun ⟨long, lengths, all, utf8⟩ => ⟨long, lengths, ?_⟩)
  intro i inside
  obtain ⟨rest, -, same⟩ := wanted_eq (List.ne_nil_of_length_pos (Nat.zero_lt_of_lt long))
  have few := shown_le filter.limit (skipped filter.offset) (filter.fetched recent).length
  have place : skipped filter.offset + i < (filter.fetched recent).length := by omega
  have start : (filter.fetched recent ++ rest).take _ = (filter.fetched recent).take _ :=
    List.take_append_of_le_length (Nat.add_le_of_le_sub' long.le few)
  rw [← start] at all
  have kept := getElem?_filter_of_all all (Nat.add_lt_add_left inside _)
    (by rw [List.length_append]; omega)
  rw [same, kept, List.getElem?_append_left place, List.getElem?_eq_getElem place, Option.map_some]
  refine congrArg some (AuditEntry.readBack_eq_self_iff.2 (utf8 _ ?_))
  rw [List.mem_iff_getElem?]
  exact ⟨i, by rw [List.getElem?_take_of_lt inside, List.getElem?_drop,
    List.getElem?_eq_getElem place]⟩

/-- In a log whose entries JSON keeps apart, an entry is returned for itself only. -/
theorem readBack_of_place (apart : (recent.map AuditEntry.readBack).Nodup) {n : Nat}
    {entry : AuditEntry} (here : (filter.fetched recent)[n]? = some entry)
    (place : (filter.fetched recent)[n]?.map AuditEntry.readBack =
      (recent.filter filter.accepts)[n]?) :
    entry.readBack = entry ∧ (recent.filter filter.accepts)[n]? = some entry := by
  rw [here, Option.map_some, eq_comm] at place
  have mine : entry ∈ recent :=
    List.mem_of_mem_take (List.mem_of_mem_filter (List.mem_of_getElem? here))
  have other : entry.readBack ∈ recent := List.mem_of_mem_filter (List.mem_of_getElem? place)
  have same := List.inj_on_of_nodup_map apart other mine entry.readBack_readBack
  exact ⟨same, place.trans (congrArg some same)⟩

theorem StreamExact.accepted (apart : (recent.map AuditEntry.readBack).Nodup)
    (exact : StreamExact filter recent) : StreamAccepted filter recent := by
  refine exact.imp_right (Or.imp_right fun ⟨long, lengths, places⟩ => ⟨long, lengths, ?_, ?_⟩)
  · obtain ⟨rest, sublist, same⟩ := wanted_eq (List.ne_nil_of_length_pos (Nat.zero_lt_of_lt long))
    have few := shown_le filter.limit (skipped filter.offset) (filter.fetched recent).length
    -- The last entry of the window decides.
    obtain ⟨w, last⟩ := Nat.exists_eq_add_one.2 ((shown_pos_iff filter.limit).2 long)
    have inside : skipped filter.offset + w < (filter.fetched recent).length := by omega
    have here := List.getElem?_eq_getElem inside
    have kept := (readBack_of_place apart here (places w (by omega))).2
    rw [same] at kept
    have all := all_of_getElem?_filter (apart.of_map.sublist sublist) kept
      ((List.getElem?_append_left inside).trans here)
    rw [List.take_append_of_le_length inside] at all
    rw [last]
    exact all
  · intro entry member
    obtain ⟨i, here⟩ := List.mem_iff_getElem?.1 member
    rw [List.getElem?_take, List.getElem?_drop, Option.ite_none_right_eq_some] at here
    exact AuditEntry.readBack_eq_self_iff.1 (readBack_of_place apart here.2 (places i here.1)).1

end Exact

instance (filter : AuditFilter) (recent : List AuditEntry) :
    Decidable (StreamAccepted filter recent) :=
  inferInstanceAs (Decidable (_ ∧ (_ ∨ (_ ∧ _ ∧ _ ∧ _))))

end SentinelOps.Store
