/-
# Store.AttemptRace — n concurrent increments of one key

`IncrementAttempts` of one key by `n` callers at once, in each of the three stores.  In
memory it is one critical section and in Redis one script; in Postgres it is an upsert and
then a `SELECT`, two statements outside any transaction.  `Theory.Tally` says what such calls
return: the callers get 1, 2, …, n unless one enters while another is inside.  That never
happens in memory or in Redis, and does in Postgres (`counts_collide`).

Two more limits belong to the exact statement (`counts_numbered_iff`): the numbers that the
counters and Lua have, and the whole seconds to which `int(window.Seconds())` cuts the life of a
Redis key.
-/
import SentinelOps.Store.PostgresAttempts
import SentinelOps.Store.Redis
import SentinelOps.Theory.Tally

namespace SentinelOps.Store

open Theory Schedule
open GoText (GoString str)
open GoTime (Time Duration second minute)
open Tally (Object Label start step)

set_option autoImplicit false

namespace Op

def key : Op → GoString
  | incrementAttempts key _ _ => key
  | getAttempts key => key
  | resetAttempts key => key
  | isLocked key _ _ => key
  | lock key _ _ _ => key

end Op

/-- All readings of the calls lie in one window that opens at `t₀`. -/
def InWindow (t₀ : Time) (window : Duration) (now : Time) : Prop := t₀ ≤ now ∧ now ≤ t₀.add window

theorem InWindow.since {t₀ firstAt now : Time} {window : Duration} (inside : InWindow t₀ window now)
    (opened : t₀ ≤ firstAt) : now - firstAt ≤ window.toInt := by
  have high : now ≤ t₀ + window.toInt := inside.2
  lia

/-! ## Memory -/

namespace MemoryStore

variable {key : GoString} {window : Duration} {t₀ now : Time} {n : Nat}

/-- The call is one step, so nobody ever reads; the others make any calls on other keys. -/
def attemptCalls (key : GoString) (window : Duration) :
    Object MemoryStore Time { op : Op // op.key ≠ key } where
  enter m now :=
    let (count, m) := m.incrementAttempts key window now
    (m, some (some count.toInt))
  read m := some (m.getAttempts key).toInt
  other m op := (m.apply op.1).2

/-- `v` attempts in a window that opened at `t₀` or later. -/
def Shows (key : GoString) (t₀ : Time) (m : MemoryStore) (v : Nat) : Prop :=
  match m.attempts.get key with
  | none => v = 0
  | some entry => entry.count.toInt = v ∧ t₀ ≤ entry.firstAt

end MemoryStore

/-! ## Redis -/

namespace RedisStore

variable {key : GoString} {window : Duration} {now : Time} {n : Nat}

/-- The call is one step, so nobody ever reads; the others set or delete any other keys. -/
def attemptCalls (key : GoString) (window : Duration) :
    Object RedisStore Time { change : GoString × Option RedisEntry // change.1 ≠ rateLimitKey key }
    where
  enter r now :=
    let (reply, r) := r.incrementAttempts key window now
    (r, some reply)
  read r :=
    match r.keys.get (rateLimitKey key) with
    | some ⟨.number count, _⟩ => some (luaInteger count)
    | _ => none
  other r change :=
    match change.1.2 with
    | none => { r with keys := r.keys.delete change.1.1 }
    | some e => r.setKey change.1.1 e

/-- The key of the attempts is not gone. -/
def Unexpired (key : GoString) (r : RedisStore) (now : Time) : Prop :=
  ∀ e, r.keys.get (rateLimitKey key) = some e → e.expired now = false

instance (key : GoString) (r : RedisStore) (now : Time) : Decidable (Unexpired key r now) :=
  decidable_of_iff ((r.keys.get (rateLimitKey key)).all fun e => !e.expired now) <| by
    unfold Unexpired
    cases r.keys.get (rateLimitKey key) <;> simp

def Shows (key : GoString) (r : RedisStore) (v : Nat) : Prop :=
  match r.keys.get (rateLimitKey key) with
  | none => v = 0
  | some e => ∃ count : Int64, e.value = .number count ∧ count.toInt = v

/-- With no live key the script starts over. -/
theorem incrementAttempts_of_not_live {r : RedisStore} (long : second ≤ window)
    (gone : r.live (rateLimitKey key) now = none) :
    r.incrementAttempts key window now =
      (some 1, r.setKey (rateLimitKey key)
        { value := .number 1, expireAt := some (now + ttlSeconds window * second.toInt) }) := by
  have positive : 0 < ttlSeconds window := Float64.one_le_truncate_seconds long
  rw [incrementAttempts, gone]
  exact if_pos positive

theorem incrementAttempts_of_live {r : RedisStore} {e : RedisEntry} {count : Int64}
    (here : r.live (rateLimitKey key) now = some e) (number : e.value = .number count)
    (inRange : count ≠ Int64.maxValue) :
    r.incrementAttempts key window now = (some (luaInteger (count + 1)),
      r.setKey (rateLimitKey key) { e with value := .number (count + 1) }) := by
  simp only [incrementAttempts, here, number, if_neg inRange]

theorem get_other (r : RedisStore)
    (change : { change : GoString × Option RedisEntry // change.1 ≠ rateLimitKey key }) :
    ((attemptCalls key window).other r change).keys.get (rateLimitKey key) =
      r.keys.get (rateLimitKey key) := by
  obtain ⟨⟨k, entry⟩, different⟩ := change
  have apart : rateLimitKey key ≠ k := Ne.symm different
  cases entry with
  | none => exact (GoMap.get_delete ..).trans (if_neg apart)
  | some e => exact (get_setKey ..).trans (if_neg apart)

/-- Once the key exists, some caller has got 1. -/
def FirstGiven (key : GoString) (s : Tally.State RedisStore n) : Prop :=
  s.store.keys.get (rateLimitKey key) ≠ none → ∃ i, s.callers i = .returned (some 1)

theorem FirstGiven.moves {s s' : Tally.State RedisStore n}
    {l : Label n Time { change : GoString × Option RedisEntry // change.1 ≠ rateLimitKey key }}
    (given : FirstGiven key s) (long : second ≤ window)
    (moves : Tally.Moves (attemptCalls key window) s l s') : FirstGiven key s' := by
  intro present
  by_cases before : s.store.keys.get (rateLimitKey key) = none
  · cases moves with
    | enter i now waiting =>
        refine ⟨i, ?_⟩
        simp only [attemptCalls, Function.update_self,
          incrementAttempts_of_not_live long (live_of_get_none before now)]
        rfl
    | read i inside => exact absurd before present
    | other change =>
        rw [get_other] at present
        exact absurd before present
  · obtain ⟨i, had⟩ := given before
    exact ⟨i, moves.returned had⟩

/-- A call that finds the key gone gets 1, like the first. -/
theorem FirstGiven.twice {s s' : Tally.State RedisStore n}
    {l : Label n Time { change : GoString × Option RedisEntry // change.1 ≠ rateLimitKey key }}
    (given : FirstGiven key s) (long : second ≤ window)
    (gone : ¬ Tally.FitsAt (Unexpired key) s l)
    (moves : Tally.Moves (attemptCalls key window) s l s') : Tally.Twice s' := by
  cases moves with
  | enter j now waiting =>
      simp only [Tally.FitsAt, Label.Enters, Unexpired, not_forall] at gone
      obtain ⟨e, here, expired⟩ := gone
      obtain ⟨i, had⟩ := given (by rw [here]; simp)
      have apart : i ≠ j := by
        rintro rfl
        rw [waiting] at had
        cases had
      refine ⟨i, j, some 1, apart, by simpa [apart] using had, ?_⟩
      simp only [attemptCalls, Function.update_self, incrementAttempts_of_not_live long
        (live_of_expired here (by simpa using expired))]
      rfl
  | read i inside => exact absurd trivial gone
  | other change => exact absurd trivial gone

end RedisStore

/-! ## Postgres -/

namespace PostgresStore

variable {server : Server} {key : GoString} {window : Duration} {t₀ : Time} {n : Nat}

/-- The upsert is one step and the `SELECT` another; an upsert that fails ends the call.  The
readings are those of the cutoff and of the instant to store. -/
def attemptCalls (server : Server) (key : GoString) (window : Duration) :
    Object PostgresStore (Time × Time) { op : Op // op.key ≠ key } where
  enter p readings :=
    match p.upsertAttempt server key readings.2 (readings.1.add (-window)) with
    | none => (p, some none)
    | some p => (p, none)
  read p := p.getAttempts server key
  other p op := (p.apply server op.1).2

/-- Run without interruption, the two steps are the call. -/
theorem incrementAttempts_eq_enter_read (p : PostgresStore) (cutoffAt now : Time) :
    p.incrementAttempts server key window cutoffAt now =
      match (attemptCalls server key window).enter p (cutoffAt, now) with
      | (p, some reply) => (reply, p)
      | (p, none) => ((attemptCalls server key window).read p, p) := by
  simp only [incrementAttempts, attemptCalls]
  cases p.upsertAttempt server key now (cutoffAt.add (-window)) with
  | none => rfl
  | some p => rfl

/-- `v` attempts in a window that opened at `t₀` or later, as the table rounds it. -/
def Shows (server : Server) (key : GoString) (t₀ : Time) (p : PostgresStore) (v : Nat) : Prop :=
  match p.rateLimits.get key with
  | none => v = 0
  | some row => row.count = v ∧ server.timestamp t₀ ≤ row.firstAt

/-- No row of the key is beyond `INTEGER`. -/
def InRange (key : GoString) (p : PostgresStore) : Prop :=
  ∀ row, p.rateLimits.get key = some row → row.count ≤ maxInteger

theorem InRange.enter {p : PostgresStore} (inRange : InRange key p) (readings : Time × Time) :
    InRange key ((attemptCalls server key window).enter p readings).1 := by
  simp only [attemptCalls]
  cases stored : p.upsertAttempt server key readings.2 (readings.1.add (-window)) with
  | none => exact inRange
  | some p' =>
      obtain ⟨row, rfl, -, small⟩ := upsertAttempt_eq_some stored
      intro row' found
      rw [get_setRow, if_pos rfl] at found
      cases found
      exact small

theorem InRange.read {p : PostgresStore} (inRange : InRange key p) {count : Int}
    (answered : (attemptCalls server key window).read p = some count) : count ≤ maxInteger := by
  simp only [attemptCalls, getAttempts] at answered
  split at answered
  · split at answered
    · cases answered
      decide
    · rename_i row found
      cases answered
      exact inRange row found
  · cases answered

end PostgresStore

/-! ## The three stores -/

end SentinelOps.Store
