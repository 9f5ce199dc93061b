/-
# Store.RedisAttempts — the counters of Redis against those in memory

Memory keeps the instant at which a window opened and compares it with the window of each call.
Redis fixes the life of the counter when the window opens, in whole seconds cut off from the
duration, and later calls do not look at their window; what it returns passes through Lua, which
has every integer only up to 2⁵³.  Resetting a key in Redis also deletes the counter of the key
with `lock:` in front, since that is where the lock of the key is.

`counts_agree_iff` is exact: the two stores return the same counts in a run when at every
increment the window is open for both with a count below 2⁵³, or over for both, and one that is to
open lasts a second.
-/
import SentinelOps.Store.AttemptRace

namespace SentinelOps.Store

open Theory GoText Transducer
open GoTime (Time Duration second minute)

set_option autoImplicit false

/-- Increments and resets, an increment with the instant at which it is made. -/
inductive AttemptCall where
  | increment (key : GoString) (window : Duration) (now : Time)
  | reset (key : GoString)

def MemoryStore.attempt (m : MemoryStore) : AttemptCall → Reply × MemoryStore
  | .increment key window now => m.apply (.incrementAttempts key window now)
  | .reset key => m.apply (.resetAttempts key)

def RedisStore.attempt (r : RedisStore) : AttemptCall → Reply × RedisStore
  | .increment key window now => r.limit now (.incrementAttempts key window)
  | .reset key => (.done, r.resetAttempts key)

/-! ## One increment -/

/-- In memory the window of the key is open: the entry of the key opened it no more than
`window` ago. -/
def MemoryStore.WindowOpen (m : MemoryStore) (key : GoString) (window : Duration) (now : Time) :
    Prop :=
  ∃ entry, m.attempts.get key = some entry ∧ now.sub entry.firstAt ≤ window

/-- An increment finds the same window in both stores: open, with a count whose next one Lua has,
or over, and then long enough for Redis to open another. -/
def SameWindow (s : MemoryStore × RedisStore) : AttemptCall → Prop
  | .increment key window now =>
      (s.1.WindowOpen key window now ∧ (s.1.getAttempts key).toInt < 2 ^ 53 ∧
        (s.2.live (rateLimitKey key) now).isSome) ∨
      (¬ s.1.WindowOpen key window now ∧ 0 < ttlSeconds window ∧
        s.2.live (rateLimitKey key) now = none)
  | .reset _ => True

/-- Every counter of Redis is the count that memory has for its key, and that is at least 1 and
no more than Lua counts to. -/
structure Linked (m : MemoryStore) (r : RedisStore) : Prop where
  counter : ∀ key e, r.keys.get (rateLimitKey key) = some e →
    ∃ entry, m.attempts.get key = some entry ∧ e.value = .number entry.count
  range : ∀ key entry, m.attempts.get key = some entry →
    1 ≤ entry.count.toInt ∧ entry.count.toInt ≤ 2 ^ 53

theorem rateLimitKey_inj {k k' : GoString} : rateLimitKey k = rateLimitKey k' ↔ k = k' :=
  List.append_right_inj _

section Increment

variable {m : MemoryStore} {r : RedisStore} {key : GoString} {window : Duration} {now : Time}

theorem MemoryStore.incrementAttempts_of_open {entry : AttemptEntry}
    (here : m.attempts.get key = some entry) (inside : now.sub entry.firstAt ≤ window) :
    m.incrementAttempts key window now =
      (entry.count + 1, m.setEntry key { entry with count := entry.count + 1 }) := by
  have notOver : ¬ now.sub entry.firstAt > window := Int64.not_lt.2 inside
  simp only [incrementAttempts, here, if_neg notOver]

theorem MemoryStore.incrementAttempts_of_closed (closed : ¬ m.WindowOpen key window now) :
    m.incrementAttempts key window now = (1, m.setEntry key { count := 1, firstAt := now }) := by
  unfold incrementAttempts
  cases here : m.attempts.get key with
  | none => rfl
  | some entry =>
      have over' : now.sub entry.firstAt > window := by
        by_contra inside
        exact closed ⟨entry, here, Int64.not_lt.1 inside⟩
      exact if_pos over'

theorem RedisStore.incrementAttempts_of_gone (gone : r.live (rateLimitKey key) now = none)
    (long : 0 < ttlSeconds window) :
    r.incrementAttempts key window now =
      (some 1, r.setKey (rateLimitKey key)
        { value := .number 1, expireAt := some (now + ttlSeconds window * second.toInt) }) := by
  simp only [incrementAttempts, gone, if_pos long]

theorem RedisStore.incrementAttempts_of_short (gone : r.live (rateLimitKey key) now = none)
    (short : ¬ 0 < ttlSeconds window) : r.incrementAttempts key window now = (none, r) := by
  simp only [incrementAttempts, gone, if_neg short]

/-- Of the counts that the stores may share, only the last is followed by one that Lua does not
have; and none is followed by 1. -/
theorem luaInteger_next {count : Int64} (range : 1 ≤ count.toInt ∧ count.toInt ≤ 2 ^ 53) :
    (count + 1).toInt = count.toInt + 1 ∧ luaInteger (count + 1) ≠ 1 ∧
      ((count + 1).toInt = luaInteger (count + 1) ↔ count.toInt < 2 ^ 53) := by
  have top : Int64.maxValue.toInt = 2 ^ 63 - 1 := rfl
  have counted : (count + 1).toInt = count.toInt + 1 := MemoryStore.count_add_one (by omega)
  rcases range.2.lt_or_eq with below | last
  · have small : |(count + 1).toInt| ≤ 2 ^ 53 := by
      rw [counted, abs_of_nonneg (by omega)]
      omega
    rw [luaInteger_of_small small, counted]
    omega
  · obtain rfl : count = 9007199254740992 := Int64.toInt_inj.1 last
    decide +kernel

/-- What memory and Redis keep after the same increment are linked again. -/
theorem Linked.set (linked : Linked m r) {count : Int64}
    (range : 1 ≤ count.toInt ∧ count.toInt ≤ 2 ^ 53) (firstAt : Time)
    (lockedUntil expireAt : Option Time) :
    Linked (m.setEntry key { count, firstAt, lockedUntil })
      (r.setKey (rateLimitKey key) { value := .number count, expireAt }) where
  counter key' e found := by
    rw [RedisStore.get_setKey] at found
    rw [MemoryStore.get_setEntry]
    by_cases same : key' = key
    · rw [if_pos (rateLimitKey_inj.2 same)] at found
      cases found
      exact ⟨_, if_pos same, rfl⟩
    · rw [if_neg (mt rateLimitKey_inj.1 same)] at found
      rw [if_neg same]
      exact linked.counter key' e found
  range key' entry found := by
    rw [MemoryStore.get_setEntry] at found
    split at found
    · cases found
      exact range
    · exact linked.range key' entry found

theorem Linked.reset (linked : Linked m r) (key : GoString) :
    Linked (m.resetAttempts key) (r.resetAttempts key) where
  counter key' e found := by
    rw [RedisStore.resetAttempts, RedisStore.get_delKey, RedisStore.get_delKey] at found
    split at found
    · cases found
    · split at found
      · cases found
      · rename_i apart
        rw [rateLimitKey_inj] at apart
        obtain ⟨entry, here, number⟩ := linked.counter key' e found
        exact ⟨entry, (GoMap.get_delete ..).trans ((if_neg apart).trans here), number⟩
  range key' entry found := by
    change (m.attempts.delete key).get key' = some entry at found
    rw [GoMap.get_delete] at found
    split at found
    · cases found
    · exact linked.range key' entry found

theorem ne_maxValue {count : Int64} (range : 1 ≤ count.toInt ∧ count.toInt ≤ 2 ^ 53) :
    count ≠ Int64.maxValue := by
  rintro rfl
  exact absurd range (by decide)

theorem MemoryStore.getAttempts_of_get {entry : AttemptEntry}
    (here : m.attempts.get key = some entry) : m.getAttempts key = entry.count := by
  rw [getAttempts, here]

/-- One increment: the stores answer alike exactly when they find the same window, and then
they are linked again. -/
theorem attempt_increment (linked : Linked m r) :
    ((m.attempt (.increment key window now)).1 = (r.attempt (.increment key window now)).1 ↔
      SameWindow (m, r) (.increment key window now)) ∧
    ((m.attempt (.increment key window now)).1 = (r.attempt (.increment key window now)).1 →
      Linked (m.attempt (.increment key window now)).2
        (r.attempt (.increment key window now)).2) := by
  have unlike : ∀ {a b : Reply} {P Q : Prop}, a ≠ b → ¬ P → (a = b ↔ P) ∧ (a = b → Q) :=
    fun differ fails => ⟨iff_of_false differ fails, fun alike => absurd alike differ⟩
  simp only [MemoryStore.attempt, MemoryStore.apply, RedisStore.attempt, RedisStore.limit,
    SameWindow]
  by_cases opened : m.WindowOpen key window now
  · obtain ⟨entry, here, inside⟩ := id opened
    have range := linked.range key entry here
    obtain ⟨counted, -, alike⟩ := luaInteger_next range
    have next : Reply.attempts (entry.count + 1).toInt ≠ .attempts (1 : Int64).toInt := by
      rw [counted, ne_eq, Reply.attempts.injEq, Int64.toInt_one]
      omega
    rw [MemoryStore.incrementAttempts_of_open here inside, MemoryStore.getAttempts_of_get here]
    cases found : r.live (rateLimitKey key) now with
    | none =>
        -- Memory counts on where Redis starts over or fails.
        by_cases long : 0 < ttlSeconds window
        · rw [RedisStore.incrementAttempts_of_gone found long]
          exact unlike next (by simp [opened])
        · rw [RedisStore.incrementAttempts_of_short found long]
          exact unlike (by simp) (by simp [opened])
    | some e =>
        obtain ⟨entry', here', number⟩ := linked.counter key e (Option.filter_eq_some_iff.1 found).1
        obtain rfl : entry' = entry := Option.some.inj (here'.symm.trans here)
        rw [RedisStore.incrementAttempts_of_live found number (ne_maxValue range)]
        by_cases below : entry'.count.toInt < 2 ^ 53
        · refine ⟨iff_of_true (congrArg Reply.attempts (alike.2 below)) (.inl ⟨opened, below, rfl⟩),
            fun _ => ?_⟩
          exact linked.set (by omega) entry'.firstAt entry'.lockedUntil e.expireAt
        · refine unlike (fun same => below (alike.1 (Reply.attempts.inj same))) ?_
          rintro (⟨-, low, -⟩ | ⟨ended, -⟩)
          · exact below low
          · exact ended opened
  · rw [MemoryStore.incrementAttempts_of_closed opened]
    cases found : r.live (rateLimitKey key) now with
    | none =>
        by_cases long : 0 < ttlSeconds window
        · rw [RedisStore.incrementAttempts_of_gone found long]
          exact ⟨iff_of_true rfl (.inr ⟨opened, long, rfl⟩),
            fun _ => linked.set (by decide) now none _⟩
        · rw [RedisStore.incrementAttempts_of_short found long]
          exact unlike (by simp) (by simp [opened, long])
    | some e =>
        -- Redis counts on where memory starts over.
        obtain ⟨entry, here, number⟩ := linked.counter key e (Option.filter_eq_some_iff.1 found).1
        have range := linked.range key entry here
        rw [RedisStore.incrementAttempts_of_live found number (ne_maxValue range)]
        have next := (luaInteger_next range).2.1
        exact unlike (fun same => next (Reply.attempts.inj same).symm) (by simp [opened])

end Increment

/-! ## Runs -/

/-- **When Redis returns the counts of memory.**  In a run of increments and resets over any
keys the two stores give the same replies, none of them an error, exactly when every increment
finds the window of its key open in both stores, with a count below 2⁵³, or over in both, and a
window that opens is at least a second long for Redis. -/
theorem counts_agree_iff (calls : List AttemptCall) :
    replies MemoryStore.attempt newMemoryStore calls =
        replies RedisStore.attempt newRedisStore calls ↔
      Throughout (both MemoryStore.attempt RedisStore.attempt) SameWindow
        (newMemoryStore, newRedisStore) calls := by
  refine replies_eq_iff (I := Linked) ?_ ?_ ?_ calls
  · intro m r call linked
    cases call with
    | increment key window now => exact (attempt_increment linked).1
    | reset key => exact iff_of_true rfl trivial
  · intro m r call linked alike
    cases call with
    | increment key window now => exact (attempt_increment linked).2 alike
    | reset key => exact linked.reset key
  · constructor
    · intro key e found
      cases found
    · intro key entry found
      cases found

/-- A window below a second is an error in Redis; one of a second and a half is over after a
second; a later call with a shorter window restarts the count in memory only; and a reset of
a key ends the count of the key with `lock:` in front in Redis only. -/
theorem counts_disagree :
    let k := str "host|user"
    let runs := fun calls =>
      (replies MemoryStore.attempt newMemoryStore calls,
        replies RedisStore.attempt newRedisStore calls)
    runs [.increment k 500000000 0] = ([.attempts 1], [.failed]) ∧
    runs [.increment k 1500000000 0, .increment k 1500000000 1200000000] =
      ([.attempts 1, .attempts 2], [.attempts 1, .attempts 1]) ∧
    runs [.increment k minute 0, .increment k 2000000000 5000000000] =
      ([.attempts 1, .attempts 1], [.attempts 1, .attempts 2]) ∧
    runs [.increment (str "lock:" ++ k) minute 0, .reset k,
        .increment (str "lock:" ++ k) minute 1] =
      ([.attempts 1, .done, .attempts 2], [.attempts 1, .done, .attempts 1]) := by
  decide +kernel

end SentinelOps.Store
