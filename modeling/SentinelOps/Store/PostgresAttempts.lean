/-
# Store.PostgresAttempts — the same counters in a table, and the law both follow

`PostgresStore` keeps the counters in the table `rate_limits`: an upsert decides by a `CASE`
over `first_at` whether the window of the key restarts.  What the server does with a
parameter is not in this repository and is a parameter here (`Server`): the resolution to
which it rounds a `TIMESTAMPTZ`, and the strings it takes as `TEXT`.

`Counters` is what both stores are for: a count a key and the instant its window opened, over
exact arithmetic.  Both stores follow it (`replies_eq_counters`) on every run of calls for
which the difference of two instants, the negated window and the `INTEGER` column are exact and
the rounding does not carry the opening of a window across the cutoff (`Exact`); `replies_differ`
has one run for each of these that is not.
-/
import SentinelOps.Store.MemoryAttempts

namespace SentinelOps.Store

open Theory Transducer
open GoText (GoString str)
open GoTime (Time Duration second minute)

set_option autoImplicit false

/-! ## The table -/

/-- What the server does with a parameter of a column's type. -/
structure Server where
  /-- The `TIMESTAMPTZ` an instant is rounded to. -/
  timestamp : Time → Time
  /-- Whether a string is a `TEXT`; a statement with any other fails. -/
  text : GoString → Bool

/-- A row of `rate_limits`, without its primary key `name`. -/
structure RateLimit where
  count : Int
  firstAt : Time
  lockedUntil : Option Time := none
deriving DecidableEq, Repr

structure PostgresStore where
  rateLimits : GoMap GoString RateLimit

def newPostgresStore : PostgresStore := ⟨∅⟩

/-- The largest `INTEGER`. -/
def maxInteger : Int := 2147483647

namespace PostgresStore

variable (server : Server) (p : PostgresStore)

def setRow (key : GoString) (row : RateLimit) : PostgresStore :=
  { p with rateLimits := p.rateLimits.set key row }

/-- `INSERT … ON CONFLICT (name) DO UPDATE`; `none` when the statement fails. -/
def upsertAttempt (key : GoString) (now cutoff : Time) : Option PostgresStore :=
  if server.text key then
    match p.rateLimits.get key with
    | none => some (p.setRow key { count := 1, firstAt := server.timestamp now })
    | some row =>
        let count := if row.firstAt < server.timestamp cutoff then 1 else row.count + 1
        let firstAt :=
          if row.firstAt < server.timestamp cutoff then server.timestamp now else row.firstAt
        -- `rate_limits.count + 1` is out of range before the row is written.
        if count ≤ maxInteger then some (p.setRow key { row with count, firstAt }) else none
  else none

/-- `SELECT count`; `none` when the statement fails. -/
def getAttempts (key : GoString) : Option Int :=
  if server.text key then
    match p.rateLimits.get key with
    | none => some 0
    | some row => some row.count
  else none

/-- The cutoff and the instant to store are two readings, in this order. -/
def incrementAttempts (key : GoString) (window : Duration) (cutoffAt now : Time) :
    Option Int × PostgresStore :=
  match p.upsertAttempt server key now (cutoffAt.add (-window)) with
  | none => (none, p)
  | some p => (p.getAttempts server key, p)

def resetAttempts (key : GoString) : Option PostgresStore :=
  if server.text key then some { p with rateLimits := p.rateLimits.delete key } else none

/-- A failed query leaves `lockedUntil` nil, and nil is answered before the error. -/
def isLocked (key : GoString) (_ : Duration) (now : Time) : Bool :=
  if server.text key then
    match p.rateLimits.get key with
    | none => false
    | some row =>
        match row.lockedUntil with
        | none => false
        | some lockedUntil => now.before lockedUntil
  else false

def lock (key : GoString) (duration : Duration) (now : Time) : Option PostgresStore :=
  if server.text key then
    let row := (p.rateLimits.get key).getD { count := 0, firstAt := server.timestamp now }
    some (p.setRow key { row with lockedUntil := some (server.timestamp (now.add duration)) })
  else none

/-- A statement with no result: a failed one changes nothing. -/
def executed : Option PostgresStore → Reply × PostgresStore
  | none => (.failed, p)
  | some p => (.done, p)

/-- One call of a run; the readings of one increment are the same instant. -/
def apply : Op → Reply × PostgresStore
  | .incrementAttempts key window now =>
      let (count, p) := p.incrementAttempts server key window now now
      (count.elim .failed .attempts, p)
  | .getAttempts key => ((p.getAttempts server key).elim .failed .attempts, p)
  | .resetAttempts key => p.executed (p.resetAttempts server key)
  | .isLocked key lockout now => (.locked (p.isLocked server key lockout now), p)
  | .lock key duration _ now => p.executed (p.lock server key duration now)

@[simp] theorem get_setRow (key key' : GoString) (row : RateLimit) :
    (p.setRow key row).rateLimits.get key' =
      if key' = key then some row else p.rateLimits.get key' :=
  GoMap.get_set ..

end PostgresStore

/-! ## The lock of a row

The upsert names the columns it sets, and `locked_until` is not one of them: a lock in the
table lasts until a call ends it, whatever happens to the window. -/

namespace PostgresStore

variable {server : Server} {p p' : PostgresStore} {key : GoString}

def lockOf (p : PostgresStore) (key : GoString) : Option Time :=
  (p.rateLimits.get key).bind (·.lockedUntil)

theorem isLocked_iff (text : server.text key = true) (lockout : Duration) (now : Time) :
    p.isLocked server key lockout now = true ↔ ∃ u, p.lockOf key = some u ∧ now < u := by
  unfold isLocked lockOf
  rw [if_pos text]
  cases p.rateLimits.get key with
  | none => simp
  | some row =>
      cases until_ : row.lockedUntil with
      | none => simp [until_]
      | some u => simp [until_, Time.before]

/-- An upsert that succeeds writes one row, with the lock it finds and an `INTEGER` count. -/
theorem upsertAttempt_eq_some {now cutoff : Time}
    (stored : p.upsertAttempt server key now cutoff = some p') :
    ∃ row, p' = p.setRow key row ∧ row.lockedUntil = p.lockOf key ∧ row.count ≤ maxInteger := by
  unfold upsertAttempt at stored
  by_cases text : server.text key = true
  · rw [if_pos text] at stored
    cases here : p.rateLimits.get key with
    | none =>
        rw [here] at stored
        cases stored
        exact ⟨_, rfl, by simp [lockOf, here], show (1 : Int) ≤ maxInteger by decide⟩
    | some row =>
        rw [here] at stored
        obtain ⟨inRange, written⟩ := Option.ite_none_right_eq_some.1 stored
        cases written
        exact ⟨_, rfl, by simp [lockOf, here], inRange⟩
  · rw [if_neg text] at stored
    cases stored

theorem lockOf_setRow (p : PostgresStore) (k : GoString) (row : RateLimit) :
    (p.setRow k row).lockOf key = if key = k then row.lockedUntil else p.lockOf key := by
  by_cases same : key = k
  · simp [lockOf, same]
  · simp [lockOf, same]

theorem lockOf_upsertAttempt {k : GoString} {now cutoff : Time}
    (stored : p.upsertAttempt server k now cutoff = some p') : p'.lockOf key = p.lockOf key := by
  obtain ⟨row, rfl, kept, -⟩ := upsertAttempt_eq_some stored
  rw [lockOf_setRow]
  split
  · rename_i same
    rw [kept, same]
  · rfl

theorem lockOf_apply {op : Op} (keeps : op.endsLock key = false) :
    (p.apply server op).2.lockOf key = p.lockOf key := by
  cases op with
  | incrementAttempts k window now =>
      simp only [apply, incrementAttempts]
      cases stored : p.upsertAttempt server k now (now.add (-window)) with
      | none => rfl
      | some p' => exact lockOf_upsertAttempt stored
  | getAttempts k => rfl
  | isLocked k lockout now => rfl
  | resetAttempts k =>
      have apart : key ≠ k := by simpa [Op.endsLock, eq_comm] using keeps
      simp only [apply, resetAttempts]
      split
      · simp [executed, lockOf, GoMap.get_delete, apart]
      · rfl
  | lock k duration opened now =>
      have apart : key ≠ k := by simpa [Op.endsLock, eq_comm] using keeps
      simp only [apply, lock]
      split
      · rw [executed, lockOf_setRow, if_neg apart]
      · rfl

/-- **A lock in the table is in force until its end**, as long as no call resets or locks the
key: increments do not touch it. -/
theorem locked_until_end (text : server.text key = true) {d : Duration} {t t' : Time}
    (set : p.lock server key d t = some p') {after : List Op}
    (keeps : ∀ op ∈ after, op.endsLock key = false) (lockout : Duration)
    (inside : t' < server.timestamp (t.add d)) :
    (final (apply server) p' after).isLocked server key lockout t' = true := by
  have held : p'.lockOf key = some (server.timestamp (t.add d)) := by
    rw [lock, if_pos text] at set
    cases set
    rw [lockOf_setRow, if_pos rfl]
  have kept : (final (apply server) p' after).lockOf key = some (server.timestamp (t.add d)) :=
    final_invariant (I := fun p : PostgresStore => p.lockOf key = some (server.timestamp (t.add d)))
      (fun _ op member before => (lockOf_apply (keeps op member)).trans before) held
  exact (isLocked_iff text lockout t').2 ⟨_, kept, inside⟩

/-- Two attempts do not end a lock. -/
theorem locked_until_end_attempts :
    let server : Server := ⟨id, fun _ => true⟩
    let k := str "host|user"
    ∃ p, newPostgresStore.lock server k 60 0 = some p ∧
      (final (apply server) p [.incrementAttempts k 5 10, .incrementAttempts k 5 20]).isLocked
        server k 60 59 = true :=
  ⟨_, rfl, locked_until_end rfl rfl (by decide) 60 (by decide)⟩

end PostgresStore

/-! ## The law -/

/-- The count of a key and the instant its window opened. -/
structure Window where
  count : Int
  openedAt : Time
deriving DecidableEq, Repr

/-- What the stores keep about the attempts of every key. -/
abbrev Counters := GoString → Option Window

/-- The calls that the law speaks of, with one instant a call. -/
inductive Call where
  | increment (key : GoString) (window : Duration) (now : Time)
  | get (key : GoString)
  | reset (key : GoString)
  | lock (key : GoString) (duration : Duration) (now : Time)

namespace Call

/-- The call as the stores see it, with the same instant for all its readings. -/
def op : Call → Op
  | increment key window now => .incrementAttempts key window now
  | get key => .getAttempts key
  | reset key => .resetAttempts key
  | lock key duration now => .lock key duration now now

def key : Call → GoString
  | increment key _ _ => key
  | get key => key
  | reset key => key
  | lock key _ _ => key

end Call

namespace Counters

/-- The window that an increment of `key` leaves: a fresh one when there is none or when it
opened more than `window` ago, and one attempt more otherwise. -/
def bumped (c : Counters) (key : GoString) (window : Duration) (now : Time) : Window :=
  match c key with
  | none => ⟨1, now⟩
  | some w => if window.toInt < now - w.openedAt then ⟨1, now⟩ else ⟨w.count + 1, w.openedAt⟩

theorem bumped_of_none {c : Counters} {key : GoString} (fresh : c key = none) (window : Duration)
    (now : Time) : c.bumped key window now = ⟨1, now⟩ := by
  rw [bumped, fresh]

theorem bumped_of_open {c : Counters} {key : GoString} {w : Window} (here : c key = some w)
    {window : Duration} {now : Time} (inside : now - w.openedAt ≤ window.toInt) :
    c.bumped key window now = ⟨w.count + 1, w.openedAt⟩ := by
  rw [bumped, here]
  exact if_neg (not_lt.2 inside)

def count (c : Counters) (key : GoString) : Int := (c key).elim 0 Window.count

/-- The windows as a table keeps them. -/
def rounded (server : Server) (c : Counters) : Counters :=
  fun key => (c key).map fun w => ⟨w.count, server.timestamp w.openedAt⟩

theorem rounded_update (server : Server) (c : Counters) (key : GoString) (w : Option Window) :
    rounded server (Function.update c key w) = Function.update (c.rounded server) key
      (w.map fun w => ⟨w.count, server.timestamp w.openedAt⟩) := by
  funext k
  by_cases same : k = key
  · simp [rounded, same]
  · simp [rounded, same]

theorem count_rounded (server : Server) (c : Counters) (key : GoString) :
    (c.rounded server).count key = c.count key := by
  rw [count, count, rounded]
  cases c key <;> rfl

def apply (c : Counters) : Call → Reply × Counters
  | .increment key window now =>
      (.attempts (c.bumped key window now).count,
        Function.update c key (some (c.bumped key window now)))
  | .get key => (.attempts (c.count key), c)
  | .reset key => (.done, Function.update c key none)
  | .lock key _ now => (.done, Function.update c key (some ((c key).getD ⟨0, now⟩)))

end Counters

def newCounters : Counters := fun _ => none

/-- The arithmetic of both stores is exact at this increment.  Where the server rounds
monotonically, `rounded` asks only that a window that is over does not open at the rounded
cutoff. -/
structure ExactIncrement (server : Server) (c : Counters) (key : GoString) (window : Duration)
    (now : Time) : Prop where
  negatable : window ≠ Int64.minValue
  rounded : ∀ w, c key = some w → (server.timestamp w.openedAt <
    server.timestamp (now - window.toInt) ↔ w.openedAt < now - window.toInt)
  unsaturated : ∀ w, c key = some w → window = Int64.maxValue →
    now - w.openedAt ≤ Int64.maxValue.toInt
  count : (c.bumped key window now).count ≤ maxInteger

/-- The database takes the key, and the arithmetic of both stores is exact at this call. -/
def Exact (server : Server) (c : Counters) (call : Call) : Prop :=
  server.text call.key = true ∧
    match call with
    | .increment key window now => ExactIncrement server c key window now
    | _ => True

/-! ## The memory store follows the law -/

namespace MemoryStore

variable {server : Server} {m : MemoryStore} {key : GoString} {window : Duration} {now : Time}

/-- One call at one instant. -/
def serve (m : MemoryStore) (call : Call) : Reply × MemoryStore := m.apply call.op

def counters (m : MemoryStore) : Counters :=
  fun key => (m.attempts.get key).map fun entry => ⟨entry.count.toInt, entry.firstAt⟩

theorem counters_setEntry (m : MemoryStore) (key : GoString) (entry : AttemptEntry) :
    (m.setEntry key entry).counters =
      Function.update m.counters key (some ⟨entry.count.toInt, entry.firstAt⟩) := by
  funext k
  by_cases same : k = key
  · simp [counters, same]
  · simp [counters, same]

theorem counters_resetAttempts (m : MemoryStore) (key : GoString) :
    (m.resetAttempts key).counters = Function.update m.counters key none := by
  funext k
  by_cases same : k = key
  · simp [counters, resetAttempts, GoMap.get_delete, same]
  · simp [counters, resetAttempts, GoMap.get_delete, same]

theorem count_add_one {count : Int64} (below : count.toInt + 1 ≤ Int64.maxValue.toInt) :
    (count + 1).toInt = count.toInt + 1 := by
  have bottom := count.le_toInt
  rw [Int64.toInt_maxValue] at below
  rw [Int64.toInt_add, Int64.toInt_one, Int.bmod_eq_of_le (by omega) (by omega)]

theorem incrementAttempts_eq_bumped (m : MemoryStore)
    (unsaturated : ∀ w, m.counters key = some w → window = Int64.maxValue →
      now - w.openedAt ≤ Int64.maxValue.toInt)
    (inRange : (m.counters.bumped key window now).count ≤ Int64.maxValue.toInt) :
    (m.incrementAttempts key window now).1.toInt = (m.counters.bumped key window now).count ∧
      (m.incrementAttempts key window now).2.counters =
        Function.update m.counters key (some (m.counters.bumped key window now)) := by
  unfold incrementAttempts
  unfold Counters.bumped at inRange ⊢
  cases here : m.attempts.get key with
  | none =>
      have shown : m.counters key = none := by simp [counters, here]
      rw [shown]
      exact ⟨rfl, counters_setEntry m key _⟩
  | some entry =>
      have shown : m.counters key = some ⟨entry.count.toInt, entry.firstAt⟩ := by
        simp [counters, here]
      have compared := GoTime.Time.lt_sub_iff (unsaturated _ shown)
      rw [shown] at inRange ⊢
      by_cases ended : window.toInt < now - entry.firstAt
      · simp only [gt_iff_lt, compared.2 ended, ended, if_true]
        exact ⟨rfl, counters_setEntry m key _⟩
      · simp only [ended, if_false] at inRange
        simp only [gt_iff_lt, mt compared.1 ended, ended, if_false]
        rw [counters_setEntry, count_add_one inRange]
        exact ⟨rfl, rfl⟩

/-- One call shows what the law shows. -/
theorem serve_eq_counters {c : Counters} (related : m.counters = c) (call : Call)
    (faithful : Exact server c call) :
    (m.serve call).1 = (c.apply call).1 ∧ (m.serve call).2.counters = (c.apply call).2 := by
  subst related
  obtain ⟨-, faithful⟩ := faithful
  cases call with
  | increment key window now =>
      have inRange := faithful.count.trans (show maxInteger ≤ Int64.maxValue.toInt by decide)
      obtain ⟨reply, next⟩ := m.incrementAttempts_eq_bumped faithful.unsaturated inRange
      exact ⟨congrArg Reply.attempts reply, next⟩
  | get key =>
      refine ⟨?_, rfl⟩
      simp only [serve, Call.op, apply, getAttempts, Counters.apply, Counters.count, counters]
      cases m.attempts.get key with
      | none => rfl
      | some entry => rfl
  | reset key => exact ⟨rfl, m.counters_resetAttempts key⟩
  | lock key duration now =>
      refine ⟨rfl, ?_⟩
      simp only [serve, Call.op, apply, lock, Counters.apply, counters_setEntry]
      cases here : m.attempts.get key with
      | none => simp [counters, here]
      | some entry => simp [counters, here]

end MemoryStore

/-! ## The table follows the law -/

namespace PostgresStore

variable {server : Server} {p : PostgresStore} {key : GoString} {window : Duration} {now : Time}

/-- One call at one instant. -/
def serve (server : Server) (p : PostgresStore) (call : Call) : Reply × PostgresStore :=
  p.apply server call.op

def counters (p : PostgresStore) : Counters :=
  fun key => (p.rateLimits.get key).map fun row => ⟨row.count, row.firstAt⟩

theorem counters_setRow (p : PostgresStore) (key : GoString) (row : RateLimit) :
    (p.setRow key row).counters =
      Function.update p.counters key (some ⟨row.count, row.firstAt⟩) := by
  funext k
  by_cases same : k = key
  · simp [counters, same]
  · simp [counters, same]

theorem getAttempts_eq_count (p : PostgresStore) (text : server.text key = true) :
    p.getAttempts server key = some (p.counters.count key) := by
  rw [getAttempts, if_pos text, Counters.count, counters]
  cases p.rateLimits.get key with
  | none => rfl
  | some row => rfl

/-- The row of a window. -/
theorem get_of_counters {c : Counters} {w : Window} (related : p.counters = c.rounded server)
    (here : c key = some w) :
    ∃ row, p.rateLimits.get key = some row ∧ row.count = w.count ∧
      row.firstAt = server.timestamp w.openedAt := by
  have kept := congrFun related key
  rw [Counters.rounded, here, Option.map_some, counters, Option.map_eq_some_iff] at kept
  obtain ⟨row, found, same⟩ := kept
  rw [Window.mk.injEq] at same
  exact ⟨row, found, same⟩

theorem get_eq_none_of_counters {c : Counters} (related : p.counters = c.rounded server)
    (fresh : c key = none) : p.rateLimits.get key = none := by
  have kept := congrFun related key
  rwa [Counters.rounded, fresh, Option.map_none, counters, Option.map_eq_none_iff] at kept

theorem upsertAttempt_eq_bumped {c : Counters} (related : p.counters = c.rounded server)
    (text : server.text key = true) (faithful : ExactIncrement server c key window now) :
    ∃ p', p.upsertAttempt server key now (now.add (-window)) = some p' ∧
      p'.counters = Counters.rounded server
        (Function.update c key (some (c.bumped key window now))) := by
  have inRange := faithful.count
  rw [upsertAttempt, if_pos text, GoTime.Time.add_neg faithful.negatable]
  unfold Counters.bumped at inRange ⊢
  simp only [Counters.rounded_update, ← related]
  cases here : c key with
  | none =>
      rw [get_eq_none_of_counters related here]
      exact ⟨_, rfl, counters_setRow p key _⟩
  | some w =>
      obtain ⟨row, found, count, opened⟩ := get_of_counters related here
      rw [here] at inRange
      have compared : row.firstAt < server.timestamp (now - window.toInt) ↔
          window.toInt < now - w.openedAt := by
        rw [opened, faithful.rounded w here]
        constructor <;> intro h <;> lia
      rw [found]
      by_cases ended : window.toInt < now - w.openedAt
      · simp only [ended, if_true] at inRange ⊢
        simp only [compared.2 ended, if_true, if_pos inRange]
        exact ⟨_, rfl, counters_setRow p key _⟩
      · simp only [ended, if_false] at inRange ⊢
        simp only [mt compared.1 ended, if_false, count, if_pos inRange]
        refine ⟨_, rfl, (counters_setRow p key _).trans ?_⟩
        rw [opened]
        rfl

/-- At the end of `INTEGER` the upsert fails. -/
theorem upsertAttempt_eq_none {w : Window} {cutoff : Time} (here : p.counters key = some w)
    (inside : server.timestamp cutoff ≤ w.openedAt) (full : maxInteger ≤ w.count) :
    p.upsertAttempt server key now cutoff = none := by
  rw [counters, Option.map_eq_some_iff] at here
  obtain ⟨row, found, rfl⟩ := here
  rw [upsertAttempt, found]
  dsimp only at inside full ⊢
  rw [if_neg (not_lt.2 inside), if_neg (show ¬ row.count + 1 ≤ maxInteger by omega), ite_self]

theorem counters_count_update (c : Counters) (key : GoString) (w : Window) :
    Counters.count (Function.update c key (some w)) key = w.count := by
  simp [Counters.count]

theorem counters_resetAttempts (p : PostgresStore) (key : GoString) :
    ({ p with rateLimits := p.rateLimits.delete key } : PostgresStore).counters =
      Function.update p.counters key none := by
  funext k
  by_cases same : k = key
  · simp [counters, GoMap.get_delete, same]
  · simp [counters, GoMap.get_delete, same]

/-- One call shows what the law shows. -/
theorem serve_eq_counters {c : Counters} (related : p.counters = c.rounded server) (call : Call)
    (faithful : Exact server c call) :
    (p.serve server call).1 = (c.apply call).1 ∧
      (p.serve server call).2.counters = (c.apply call).2.rounded server := by
  cases call with
  | increment key window now =>
      have text : server.text key = true := faithful.1
      obtain ⟨p', stored, next⟩ := upsertAttempt_eq_bumped related text faithful.2
      have counted := p'.getAttempts_eq_count text
      rw [next, Counters.count_rounded, counters_count_update] at counted
      have answered : p.incrementAttempts server key window now now =
          (some (c.bumped key window now).count, p') := by
        rw [incrementAttempts, stored, ← counted]
      simp only [serve, Call.op, apply, answered]
      exact ⟨rfl, next⟩
  | get key =>
      have text : server.text key = true := faithful.1
      simp only [serve, Call.op, apply, p.getAttempts_eq_count text, related,
        Counters.count_rounded]
      exact ⟨rfl, rfl⟩
  | reset key =>
      have text : server.text key = true := faithful.1
      simp only [serve, Call.op, apply, resetAttempts, text, if_true]
      refine ⟨rfl, (p.counters_resetAttempts key).trans ?_⟩
      rw [Counters.apply, Counters.rounded_update, related]
      rfl
  | lock key duration now =>
      have text : server.text key = true := faithful.1
      simp only [serve, Call.op, apply, lock, text, if_true, executed, Counters.apply,
        counters_setRow, Counters.rounded_update, related]
      refine ⟨trivial, ?_⟩
      cases here : c key with
      | none =>
          rw [get_eq_none_of_counters related here]
          rfl
      | some w =>
          obtain ⟨row, found, count, opened⟩ := get_of_counters related here
          simp only [found, Option.getD_some, count, opened, Option.map_some]

end PostgresStore

/-! ## Runs -/

/-- **Both stores return the counts of the law**, and so the same ones, over every run of
calls at which their arithmetic is exact. -/
theorem replies_eq_counters (server : Server) (calls : List Call)
    (faithful : Throughout Counters.apply (Exact server) newCounters calls) :
    replies MemoryStore.serve newMemoryStore calls = replies Counters.apply newCounters calls ∧
      replies (PostgresStore.serve server) newPostgresStore calls =
        replies Counters.apply newCounters calls :=
  ⟨replies_eq_of_simulation (I := fun m c => m.counters = c)
      (fun _ _ call related => MemoryStore.serve_eq_counters related call) rfl faithful,
    replies_eq_of_simulation (I := fun p c => p.counters = c.rounded server)
      (fun _ _ call related => PostgresStore.serve_eq_counters related call) rfl faithful⟩

/-- A server with the resolution of a microsecond, whose `TEXT` is any bytes but NUL. -/
def microsecondServer : Server where
  timestamp t := (t + 500) / 1000 * 1000
  text key := !key.contains 0

/-- Two windows of one key, a lock and a reset, at instants between the microseconds. -/
theorem replies_eq_counters_two_windows :
    let k := str "host|user"
    let calls : List Call := [.increment k second 1, .increment k second 1000000001,
      .lock k minute 1000000300, .increment k second 1000000700, .get k, .reset k, .get k]
    replies MemoryStore.serve newMemoryStore calls =
        [.attempts 1, .attempts 2, .done, .attempts 1, .attempts 1, .done, .attempts 0] ∧
      replies (PostgresStore.serve microsecondServer) newPostgresStore calls =
        [.attempts 1, .attempts 2, .done, .attempts 1, .attempts 1, .done, .attempts 0] := by
  intro k calls
  refine replies_eq_counters microsecondServer calls ⟨⟨rfl, by decide, nofun, nofun, by decide⟩,
    ⟨rfl, ?_⟩, ⟨rfl, trivial⟩, ⟨rfl, ?_⟩, ⟨rfl, trivial⟩, ⟨rfl, trivial⟩, ⟨rfl, trivial⟩, trivial⟩
  all_goals
    refine ⟨by decide, fun w here => ?_, fun _ _ largest => absurd largest (by decide), by decide⟩
    obtain rfl := Option.some.inj here
    decide

/-! ## Where the stores differ -/

/-- A server whose parameters are exact. -/
def exactServer : Server where
  timestamp t := t
  text _ := true

theorem exact_minute_at_zero {c : Counters} {key : GoString}
    (inRange : (c.bumped key minute 0).count ≤ maxInteger) :
    Exact exactServer c (.increment key minute 0) :=
  ⟨rfl, by decide, fun _ _ => Iff.rfl, fun _ _ largest => absurd largest (by decide), inRange⟩

theorem rounded_exactServer (c : Counters) : c.rounded exactServer = c := by
  funext key
  rw [Counters.rounded]
  cases c key <;> rfl

/-- The count after `n` increments of a fresh key at one instant, in any object that follows
the law. -/
theorem view_final_replicate {S : Type*} {serve : S → Call → Reply × S} (view : S → Counters)
    (follows : ∀ s call, Exact exactServer (view s) call →
      view (serve s call).2 = ((view s).apply call).2)
    {s : S} {key : GoString} (fresh : view s key = none) {n : Nat} (some_ : 0 < n)
    (small : (n : Int) ≤ maxInteger) :
    view (final serve s (List.replicate n (.increment key minute 0))) key = some ⟨n, 0⟩ := by
  induction n, some_ using Nat.le_induction with
  | base =>
      have bumped := Counters.bumped_of_none fresh minute 0
      rw [List.replicate_one, final_cons, final_nil,
        follows _ _ (exact_minute_at_zero (by rw [bumped]; decide)), Counters.apply, bumped]
      simp
  | succ n _ ih =>
      push_cast at small
      have before := ih (by lia)
      have bumped := Counters.bumped_of_open before (show (0 : Time) - 0 ≤ minute.toInt by decide)
      rw [List.replicate_succ', final_append, final_cons, final_nil,
        follows _ _ (exact_minute_at_zero (by rw [bumped]; exact small)), Counters.apply, bumped]
      simp

/-- When the counter of a key has reached the end of `INTEGER`, the next increment fails in
the table and counts on in memory. -/
theorem serve_after_maxInteger (key : GoString) {n : Nat} (full : (n : Int) = maxInteger) :
    let attempt : Call := .increment key minute 0
    let many := List.replicate n attempt
    ((final MemoryStore.serve newMemoryStore many).serve attempt).1 = .attempts (n + 1) ∧
      ((final (PostgresStore.serve exactServer) newPostgresStore many).serve exactServer
        attempt).1 = .failed := by
  intro attempt many
  have some_ : 0 < n := by
    unfold maxInteger at full
    omega
  constructor
  · have counted := view_final_replicate MemoryStore.counters
      (fun _ call faithful => (MemoryStore.serve_eq_counters rfl call faithful).2)
      (show newMemoryStore.counters key = none from rfl) some_ full.le
    have bumped := Counters.bumped_of_open counted (show (0 : Time) - 0 ≤ minute.toInt by decide)
    have notLargest : minute ≠ Int64.maxValue := by decide
    obtain ⟨reply, -⟩ := MemoryStore.incrementAttempts_eq_bumped _
      (fun _ _ largest => absurd largest notLargest) (by rw [bumped, full]; decide)
    rw [bumped] at reply
    exact congrArg Reply.attempts reply
  · have counted := view_final_replicate PostgresStore.counters
      (fun p call faithful => (PostgresStore.serve_eq_counters
        (rounded_exactServer p.counters).symm call faithful).2.trans (rounded_exactServer _))
      (show newPostgresStore.counters key = none from rfl) some_ full.le
    have refused : PostgresStore.upsertAttempt exactServer
        (final (PostgresStore.serve exactServer) newPostgresStore many) key 0
          (Time.add 0 (-minute)) = none :=
      PostgresStore.upsertAttempt_eq_none counted
        (show exactServer.timestamp (Time.add 0 (-minute)) ≤ 0 by decide) full.ge
    simp only [PostgresStore.serve, attempt, Call.op, PostgresStore.apply]
    rw [PostgresStore.incrementAttempts, refused]
    rfl

/-- Each of the six ways in which the stores return different counts: instants and windows
below the resolution of the table, the window that has no negative, the window that no
difference of instants exceeds, a key that is no `TEXT`, and the end of `INTEGER`. -/
theorem replies_differ :
    let k := str "host|user"
    let memory := replies MemoryStore.serve newMemoryStore
    let table := fun server => replies (PostgresStore.serve server) newPostgresStore
    let instants : List Call := [.increment k 1000 400, .increment k 1000 1450]
    let windows : List Call := [.increment k 600 0, .increment k 600 1000]
    let lowest : List Call := [.increment k Int64.minValue 0, .increment k Int64.minValue 0]
    let highest : List Call :=
      [.increment k Int64.maxValue 0, .increment k Int64.maxValue 9223372036854775808]
    let nul : List Call := [.increment [0] minute 0]
    let attempt : Call := .increment k minute 0
    let many := List.replicate 2147483647 attempt
    (memory instants = [.attempts 1, .attempts 1] ∧
      table microsecondServer instants = [.attempts 1, .attempts 2]) ∧
    (memory windows = [.attempts 1, .attempts 1] ∧
      table microsecondServer windows = [.attempts 1, .attempts 2]) ∧
    (memory lowest = [.attempts 1, .attempts 1] ∧
      table exactServer lowest = [.attempts 1, .attempts 2]) ∧
    (memory highest = [.attempts 1, .attempts 2] ∧
      table exactServer highest = [.attempts 1, .attempts 1]) ∧
    (memory nul = [.attempts 1] ∧ table microsecondServer nul = [.failed]) ∧
    (((final MemoryStore.serve newMemoryStore many).serve attempt).1 = .attempts 2147483648 ∧
      ((final (PostgresStore.serve exactServer) newPostgresStore many).serve exactServer
        attempt).1 = .failed) := by
  intro k memory table instants windows lowest highest nul attempt many
  refine ⟨⟨by decide, by decide⟩, ⟨by decide, by decide⟩, ⟨by decide, by decide⟩,
    ⟨by decide, by decide⟩, ⟨by decide, by decide⟩, ?_⟩
  exact serve_after_maxInteger k (show ((2147483647 : Nat) : Int) = maxInteger from rfl)

end SentinelOps.Store
