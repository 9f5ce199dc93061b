/-
# Store.MemoryAttempts — the in-memory attempt counters and their locks

The rate-limit half of `MemoryStore`: one entry a key, with a count, the instant its window
opened and the end of its lock.  Every method takes the mutex and reads the clock while it
holds it, so a run is the list of calls in the order in which they enter it, each with the
readings it takes.

`Lock` is supposed to hold until its time is over.  It does hold until a `ResetAttempts` or
another `Lock` of the key, except that `IncrementAttempts` replaces the whole entry when the
window of the key is over: the new entry has no lock.  `lockOf_apply_iff` is the one step of
that, and `lock_in_force_iff` reads it over whole runs.
-/
import SentinelOps.Theory.GoMap
import SentinelOps.Theory.GoTime
import SentinelOps.Theory.Transducer

namespace SentinelOps.Store

open Theory Transducer
open GoText (GoString str)
open GoTime (Time Duration second minute)

set_option autoImplicit false

/-- The rate-limit calls of a `Store`, each with the clock readings it takes.  The readings
of `lock` are those of `firstAt` and of `until`. -/
inductive Op where
  | incrementAttempts (key : GoString) (window : Duration) (now : Time)
  | getAttempts (key : GoString)
  | resetAttempts (key : GoString)
  | isLocked (key : GoString) (lockout : Duration) (now : Time)
  | lock (key : GoString) (duration : Duration) (opened now : Time)

/-- What a call returns. -/
inductive Reply where
  | attempts (count : Int)
  | locked (held : Bool)
  | done
  | failed
deriving DecidableEq, Repr

structure AttemptEntry where
  count : Int64 := 0
  firstAt : Time
  lockedUntil : Option Time := none
deriving DecidableEq, Repr

/-- The attempts of a `MemoryStore`. -/
structure MemoryStore where
  attempts : GoMap GoString AttemptEntry

def newMemoryStore : MemoryStore := ⟨∅⟩

namespace MemoryStore

variable (m : MemoryStore)

def setEntry (key : GoString) (entry : AttemptEntry) : MemoryStore :=
  { m with attempts := m.attempts.set key entry }

def incrementAttempts (key : GoString) (window : Duration) (now : Time) :
    Int64 × MemoryStore :=
  match m.attempts.get key with
  | none => (1, m.setEntry key { count := 1, firstAt := now })
  | some entry =>
      if now.sub entry.firstAt > window then
        (1, m.setEntry key { count := 1, firstAt := now })
      else
        (entry.count + 1, m.setEntry key { entry with count := entry.count + 1 })

def getAttempts (key : GoString) : Int64 :=
  match m.attempts.get key with
  | none => 0
  | some entry => entry.count

def resetAttempts (key : GoString) : MemoryStore :=
  { m with attempts := m.attempts.delete key }

/-- The lockout argument is not read. -/
def isLocked (key : GoString) (_ : Duration) (now : Time) : Bool :=
  match m.attempts.get key with
  | none => false
  | some entry =>
      match entry.lockedUntil with
      | none => false
      | some lockedUntil => now.before lockedUntil

def lock (key : GoString) (duration : Duration) (opened now : Time) : MemoryStore :=
  let entry := (m.attempts.get key).getD { firstAt := opened }
  m.setEntry key { entry with lockedUntil := some (now.add duration) }

/-- One call of a run. -/
def apply : Op → Reply × MemoryStore
  | .incrementAttempts key window now =>
      let (count, m) := m.incrementAttempts key window now
      (.attempts count.toInt, m)
  | .getAttempts key => (.attempts (m.getAttempts key).toInt, m)
  | .resetAttempts key => (.done, m.resetAttempts key)
  | .isLocked key lockout now => (.locked (m.isLocked key lockout now), m)
  | .lock key duration opened now => (.done, m.lock key duration opened now)

@[simp] theorem get_setEntry (key key' : GoString) (entry : AttemptEntry) :
    (m.setEntry key entry).attempts.get key' =
      if key' = key then some entry else m.attempts.get key' :=
  GoMap.get_set ..

/-! ## The lock of a key -/

/-- The end of the lock stored for `key`, over or not. -/
def lockOf (key : GoString) : Option Time := (m.attempts.get key).bind (·.lockedUntil)

theorem isLocked_iff (key : GoString) (lockout : Duration) (now : Time) :
    m.isLocked key lockout now = true ↔ ∃ u, m.lockOf key = some u ∧ now < u := by
  unfold isLocked lockOf
  cases m.attempts.get key with
  | none => simp
  | some entry =>
      cases until_ : entry.lockedUntil with
      | none => simp [until_]
      | some u => simp [until_, Time.before]

theorem lockOf_lock (key : GoString) (duration : Duration) (opened now : Time) :
    (m.lock key duration opened now).lockOf key = some (now.add duration) := by
  simp [lock, lockOf]

end MemoryStore

namespace Op

/-- The calls that set or delete the lock of `key`. -/
def endsLock (key : GoString) : Op → Bool
  | resetAttempts k => k = key
  | lock k _ _ _ => k = key
  | _ => false

def locks (key : GoString) : Op → Bool
  | lock k _ _ _ => k = key
  | _ => false

/-- An increment of `key` finds the window of its entry still open. -/
def FindsWindowOpen (key : GoString) (m : MemoryStore) : Op → Prop
  | incrementAttempts k window now =>
      k = key → ∀ entry, m.attempts.get k = some entry → now.sub entry.firstAt ≤ window
  | _ => True

end Op

namespace MemoryStore

variable {m : MemoryStore} {key : GoString} {op : Op}

theorem lockOf_increment_iff (k : GoString) (window : Duration) (now : Time) (u : Time) :
    (m.incrementAttempts k window now).2.lockOf key = some u ↔
      m.lockOf key = some u ∧ Op.FindsWindowOpen key m (.incrementAttempts k window now) := by
  unfold incrementAttempts lockOf Op.FindsWindowOpen
  by_cases same : k = key
  · subst same
    cases here : m.attempts.get k with
    | none => simp
    | some entry =>
        by_cases ended : now.sub entry.firstAt > window
        · have shut : ¬ now.sub entry.firstAt ≤ window := Int64.not_le.2 ended
          simp [here, ended, shut]
        · have stillOpen : now.sub entry.firstAt ≤ window := Int64.not_lt.1 ended
          simp [here, ended, stillOpen]
  · have apart : key ≠ k := Ne.symm same
    cases m.attempts.get k with
    | none => simp [same, apart]
    | some entry =>
        dsimp only
        split <;> simp [same, apart]

/-- A call that neither locks nor resets a key leaves its lock, unless it is an increment
that finds the window over. -/
theorem lockOf_apply_iff (keeps : op.endsLock key = false) (u : Time) :
    (m.apply op).2.lockOf key = some u ↔ m.lockOf key = some u ∧ op.FindsWindowOpen key m := by
  cases op with
  | incrementAttempts k window now => exact lockOf_increment_iff k window now u
  | getAttempts k => simp [apply, Op.FindsWindowOpen]
  | isLocked k lockout now => simp [apply, Op.FindsWindowOpen]
  | resetAttempts k =>
      have apart : key ≠ k := by simpa [Op.endsLock, eq_comm] using keeps
      simp [apply, resetAttempts, lockOf, GoMap.get_delete, apart, Op.FindsWindowOpen]
  | lock k duration opened now =>
      have apart : key ≠ k := by simpa [Op.endsLock, eq_comm] using keeps
      simp [apply, lock, lockOf, apart, Op.FindsWindowOpen]

theorem lockOf_resetAttempts (key : GoString) : (m.resetAttempts key).lockOf key = none := by
  simp [resetAttempts, lockOf, GoMap.get_delete]

/-- No call but `Lock` makes a lock. -/
theorem lockOf_of_lockOf_apply (keeps : op.locks key = false) {u : Time}
    (held : (m.apply op).2.lockOf key = some u) : m.lockOf key = some u := by
  cases ends : op.endsLock key with
  | false => exact ((lockOf_apply_iff ends u).1 held).1
  | true =>
      cases op with
      | resetAttempts k =>
          have same : k = key := by simpa [Op.endsLock] using ends
          subst same
          rw [apply, lockOf_resetAttempts] at held
          cases held
      | lock k duration opened now => simp_all [Op.locks, Op.endsLock]
      | _ => cases ends

/-! ## Runs -/

theorem lockOf_final_iff {after : List Op} (keeps : ∀ op ∈ after, op.endsLock key = false)
    (m : MemoryStore) (u : Time) :
    (final apply m after).lockOf key = some u ↔
      m.lockOf key = some u ∧ Throughout apply (Op.FindsWindowOpen key) m after := by
  induction after generalizing m with
  | nil => simp [Throughout]
  | cons op after ih =>
      rw [final_cons, ih fun op member => keeps op (List.mem_cons_of_mem _ member),
        lockOf_apply_iff (keeps op List.mem_cons_self) u, Throughout, and_assoc]

theorem lockOf_of_lockOf_final {after : List Op} (keeps : ∀ op ∈ after, op.locks key = false)
    {m : MemoryStore} {u : Time} (held : (final apply m after).lockOf key = some u) :
    m.lockOf key = some u := by
  induction after generalizing m with
  | nil => exact held
  | cons op after ih =>
      rw [final_cons] at held
      exact lockOf_of_lockOf_apply (keeps op List.mem_cons_self)
        (ih (fun op member => keeps op (List.mem_cons_of_mem _ member)) held)

/-- **A lock lasts exactly as long as every increment of its key finds the window open.**
Until its end it is in force iff none of them replaced the entry; from its end on it is not,
whatever was called. -/
theorem lock_in_force_iff (before after : List Op) (key : GoString) (d lockout : Duration)
    (opened t t' : Time) :
    let locked := final apply newMemoryStore (before ++ [.lock key d opened t])
    ((∀ op ∈ after, op.endsLock key = false) → t' < t.add d →
      ((final apply locked after).isLocked key lockout t' = true ↔
        Throughout apply (Op.FindsWindowOpen key) locked after)) ∧
    ((∀ op ∈ after, op.locks key = false) → t.add d ≤ t' →
      (final apply locked after).isLocked key lockout t' = false) := by
  have set : (final apply newMemoryStore (before ++ [.lock key d opened t])).lockOf key =
      some (t.add d) := by
    rw [final_append]
    exact lockOf_lock _ key d opened t
  intro locked
  constructor
  · intro keeps inside
    rw [isLocked_iff]
    constructor
    · rintro ⟨u, held, -⟩
      exact ((lockOf_final_iff keeps locked u).1 held).2
    · intro windows
      exact ⟨t.add d, (lockOf_final_iff keeps locked _).2 ⟨set, windows⟩, inside⟩
  · intro keeps ended
    rw [Bool.eq_false_iff]
    intro held
    obtain ⟨u, stored, live⟩ := (isLocked_iff _ key lockout t').1 held
    cases (lockOf_of_lockOf_final keeps stored).symm.trans set
    exact absurd live (not_lt.2 ended)

/-- A lock of ten minutes, with increments before, during and after it. -/
theorem lock_in_force_ten_minutes :
    let k := str "host|user"
    let locked := final apply newMemoryStore
      ([.incrementAttempts k minute 0] ++ [.lock k 600000000000 1 1])
    let after : List Op := [.getAttempts k, .incrementAttempts k minute 60000000000]
    (final apply locked after).isLocked k minute 599000000000 = true ∧
      (final apply locked after).isLocked k minute 600000000001 = false := by
  intro k locked after
  have law := lock_in_force_iff [.incrementAttempts k minute 0] after k 600000000000 minute 1 1
  refine ⟨((law 599000000000).1 (by decide) (by decide)).2 ⟨trivial, ?_, trivial⟩,
    (law 600000000001).2 (by decide) (by decide)⟩
  intro _ entry found
  cases found
  decide

/-- One failed attempt, a lock of ten minutes, and another attempt once the window of one
second is over: the lock is gone after five seconds. -/
theorem lock_lost_by_increment :
    let k := str "host|user"
    replies apply newMemoryStore
      [.incrementAttempts k second 0, .lock k 600000000000 1000000000 1000000000,
        .isLocked k minute 4000000000, .incrementAttempts k second 5000000000,
        .isLocked k minute 6000000000] =
      [.attempts 1, .done, .locked true, .attempts 1, .locked false] := by
  decide

end MemoryStore

end SentinelOps.Store
