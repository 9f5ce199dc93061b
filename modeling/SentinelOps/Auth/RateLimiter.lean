/-
# Auth.RateLimiter — the login limiter of `internal/auth/ratelimiter.go`

`Allow`, `RecordFailure` and `RecordSuccess` are the bodies of the critical sections, with
the clock reading as an argument: the Go methods sample `r.now()` before they take the
mutex.  A nil receiver answers as a disabled limiter, and both servers replace a nil
limiter by one, so the receiver here is never nil.

`keepRecent` prunes in place: `out := values[:0]` shares the backing array of `values`, and
the loop overwrites it while it reads.  `keepRecentLoop` has the two indices;
`keepRecent_eq_recent` says the sharing is harmless.

An absent entry and an empty one answer alike, so the specifications are over
`RateLimiter.entry`, which reads an absent key as the empty entry.
-/
import SentinelOps.Theory.GoMap
import SentinelOps.Theory.GoTime
import SentinelOps.Theory.SlidingWindow

namespace SentinelOps.Auth

open Theory SlidingWindow
open GoText (GoString)
open GoTime (Time Duration minute)

set_option autoImplicit false

structure RateLimitConfig where
  enabled : Bool
  maxFailures : Int
  window : Duration
  lockout : Duration

structure RateLimitDecision where
  allowed : Bool
  retryAfter : Duration := 0
  failures : Nat := 0
  deriving DecidableEq

structure RateEntry where
  failures : List Time := []
  blockedUntil : Time := 0
  deriving DecidableEq

/-- The configurations `NewRateLimiter` leaves behind: no bound is zero or negative. -/
structure RateLimitConfig.Defaulted (cfg : RateLimitConfig) : Prop where
  maxFailures : 0 < cfg.maxFailures
  window : 0 < cfg.window
  lockout : 0 < cfg.lockout

structure RateLimiter where
  entries : GoMap GoString RateEntry
  cfg : RateLimitConfig
  defaulted : cfg.Defaulted

/-- The defaults `NewRateLimiter` fills in. -/
def RateLimitConfig.withDefaults (cfg : RateLimitConfig) : RateLimitConfig where
  enabled := cfg.enabled
  maxFailures := if cfg.maxFailures ≤ 0 then 5 else cfg.maxFailures
  window := if cfg.window ≤ 0 then minute else cfg.window
  lockout := if cfg.lockout ≤ 0 then minute else cfg.lockout

theorem RateLimitConfig.withDefaults_defaulted (cfg : RateLimitConfig) :
    cfg.withDefaults.Defaulted := by
  refine ⟨?_, ?_, ?_⟩
  · simp only [withDefaults]
    split <;> omega
  · simp only [withDefaults]
    split
    · decide
    · exact Int64.not_le.1 ‹_›
  · simp only [withDefaults]
    split
    · decide
    · exact Int64.not_le.1 ‹_›

def newRateLimiter (cfg : RateLimitConfig) : RateLimiter where
  entries := ∅
  cfg := cfg.withDefaults
  defaulted := cfg.withDefaults_defaulted

/-! ## `keepRecent` -/

/-- The loop of `keepRecent` over the shared backing array: `i` reads, `w` writes. -/
def keepRecentLoop (cutoff : Time) : Nat → Nat → Nat → List Time → List Time
  | 0, _, w, backing => backing.take w
  | n + 1, i, w, backing =>
      match backing[i]? with
      | none => backing.take w
      | some v =>
          if !v.before cutoff then keepRecentLoop cutoff n (i + 1) (w + 1) (backing.set w v)
          else keepRecentLoop cutoff n (i + 1) w backing

def keepRecent (values : List Time) (cutoff : Time) : List Time :=
  keepRecentLoop cutoff values.length 0 0 values

/-- The write index never passes the read index, so what is still to be read is intact. -/
theorem keepRecentLoop_eq (cutoff : Time) (n i w : Nat) (backing : List Time) (behind : w ≤ i)
    (rest : i + n = backing.length) :
    keepRecentLoop cutoff n i w backing = backing.take w ++ recent cutoff (backing.drop i) := by
  induction n generalizing i w backing with
  | zero =>
      rw [List.drop_of_length_le (by omega)]
      simp [keepRecentLoop]
  | succ n ih =>
      have inside : i < backing.length := by omega
      simp only [keepRecentLoop, List.getElem?_eq_getElem inside]
      rw [List.drop_eq_getElem_cons inside, recent_cons]
      by_cases keep : cutoff ≤ backing[i]
      · have kept : (!Time.before backing[i] cutoff) = true := by simp [Time.before, keep]
        rw [if_pos kept, if_pos keep, ih (i + 1) (w + 1) _ (by omega) (by simp; omega)]
        have front : (backing.set w backing[i]).take (w + 1) = backing.take w ++ [backing[i]] := by
          rw [List.take_add_one, List.take_set_of_le (Nat.le_refl w)]
          simp [show w < backing.length by omega]
        rw [front, List.drop_set_of_lt (by omega)]
        simp
      · have dropped : ¬ (!Time.before backing[i] cutoff) = true := by simp [Time.before, keep]
        rw [if_neg dropped, if_neg keep, ih (i + 1) w _ (by omega) (by omega)]

theorem keepRecent_eq_recent (values : List Time) (cutoff : Time) :
    keepRecent values cutoff = recent cutoff values := by
  simpa [keepRecent] using keepRecentLoop_eq cutoff values.length 0 0 values le_rfl (by simp)

/-! ## The three methods -/

/-- The guard of `Allow`: `blockedUntil` is set and still ahead. -/
def RateEntry.blocked (e : RateEntry) (now : Time) : Bool :=
  !e.blockedUntil.isZero && now.before e.blockedUntil

theorem RateEntry.blocked_iff (e : RateEntry) (now : Time) :
    e.blocked now = true ↔ e.blockedUntil ≠ 0 ∧ now < e.blockedUntil := by
  simp [blocked, Time.isZero, Time.before]

namespace RateLimiter

/-- `r.entries[key] = &e`. -/
def put (r : RateLimiter) (key : GoString) (e : RateEntry) : RateLimiter :=
  { r with entries := r.entries.set key e }

/-- `delete(r.entries, key)`. -/
def remove (r : RateLimiter) (key : GoString) : RateLimiter :=
  { r with entries := r.entries.delete key }

def allow (r : RateLimiter) (key : GoString) (now : Time) : RateLimitDecision × RateLimiter :=
  if !r.cfg.enabled then ({ allowed := true }, r)
  else
    match r.entries.get key with
    | none => ({ allowed := true }, r)
    | some entry =>
        let failures := keepRecent entry.failures (now.add (-r.cfg.window))
        if entry.blocked now then
          ({ allowed := false, retryAfter := entry.blockedUntil.sub now,
             failures := failures.length }, r.put key { entry with failures })
        else if failures.length = 0 then
          ({ allowed := true, failures := failures.length }, r.remove key)
        else ({ allowed := true, failures := failures.length }, r.put key { entry with failures })

def recordFailure (r : RateLimiter) (key : GoString) (now : Time) :
    RateLimitDecision × RateLimiter :=
  if !r.cfg.enabled then ({ allowed := true }, r)
  else
    let entry := (r.entries.get key).getD {}
    let failures := keepRecent entry.failures (now.add (-r.cfg.window)) ++ [now]
    if r.cfg.maxFailures ≤ failures.length then
      ({ allowed := false, retryAfter := r.cfg.lockout, failures := failures.length },
        r.put key { failures, blockedUntil := now.add r.cfg.lockout })
    else
      ({ allowed := true, failures := failures.length }, r.put key { entry with failures })

def recordSuccess (r : RateLimiter) (key : GoString) : RateLimiter :=
  if !r.cfg.enabled then r else r.remove key

/-! ## What the methods do, seen through `entry` -/

/-- The entry of a key, an absent one read as empty. -/
def entry (r : RateLimiter) (key : GoString) : RateEntry := (r.entries.get key).getD {}

theorem put_entry (r : RateLimiter) (key key' : GoString) (e : RateEntry) :
    (r.put key e).entry key' = if key' = key then e else r.entry key' := by
  simp only [entry, put, GoMap.get_set]
  split <;> rfl

theorem remove_entry (r : RateLimiter) (key key' : GoString) :
    (r.remove key).entry key' = if key' = key then {} else r.entry key' := by
  simp only [entry, remove, GoMap.get_delete]
  split <;> rfl

/-- The instant the failure window opens at. -/
def cutoff (r : RateLimiter) (now : Time) : Time := now - r.cfg.window.toInt

/-- The instant a lockout that starts now ends at. -/
def lockEnd (r : RateLimiter) (now : Time) : Time := now + r.cfg.lockout.toInt

theorem window_pos (r : RateLimiter) : (0 : Int) < r.cfg.window.toInt :=
  Int64.lt_iff_toInt_lt.1 r.defaulted.window

theorem add_neg_window (r : RateLimiter) (now : Time) :
    now.add (-r.cfg.window) = r.cutoff now := by
  have positive := r.window_pos
  have top := r.cfg.window.toInt_lt
  have exact_ : (-r.cfg.window).toInt = -r.cfg.window.toInt := by
    rw [Int64.toInt_neg, Int.bmod_eq_of_le] <;> omega
  rw [Time.add, exact_]
  rfl

end RateLimiter

/-- The entry `Allow` leaves: pruned, and gone once nothing in it can matter. -/
def RateEntry.afterAllow (e : RateEntry) (cutoff now : Time) : RateEntry :=
  if e.blocked now then { e with failures := recent cutoff e.failures }
  else if (recent cutoff e.failures).length = 0 then {}
  else { e with failures := recent cutoff e.failures }

namespace RateLimiter

variable (r : RateLimiter) (key : GoString) (now : Time)

/-- The failures still in the window at `now`. -/
def inWindow : List Time := recent (r.cutoff now) (r.entry key).failures

theorem allow_eq (on : r.cfg.enabled = true) :
    ∃ after : RateLimiter, r.allow key now =
        ({ allowed := !(r.entry key).blocked now
           retryAfter := if (r.entry key).blocked now then (r.entry key).blockedUntil.sub now else 0
           failures := (r.inWindow key now).length }, after) ∧
      after.cfg = r.cfg ∧
      ∀ key', after.entry key' =
        if key' = key then (r.entry key).afterAllow (r.cutoff now) now else r.entry key' := by
  simp only [allow, on, Bool.not_true, Bool.false_eq_true, if_false, keepRecent_eq_recent,
    add_neg_window, inWindow]
  cases found : r.entries.get key with
  | none =>
      have empty : r.entry key = {} := by simp [entry, found]
      refine ⟨r, by simp [empty, RateEntry.blocked, Time.isZero], rfl, fun key' => ?_⟩
      split
      · rename_i same
        simp [same, empty, RateEntry.afterAllow, RateEntry.blocked, Time.isZero]
      · rfl
  | some e =>
      have here : r.entry key = e := by simp [entry, found]
      rw [here]
      by_cases blocked : e.blocked now = true
      · refine ⟨r.put key { e with failures := recent (r.cutoff now) e.failures }, ?_, rfl,
          fun key' => ?_⟩
        · simp [blocked]
        · rw [put_entry, RateEntry.afterAllow, if_pos blocked]
      · by_cases none_ : (recent (r.cutoff now) e.failures).length = 0
        · refine ⟨r.remove key, ?_, rfl, fun key' => ?_⟩
          · simp only [blocked, none_, if_true, if_false, Bool.false_eq_true, Bool.not_false]
          · rw [remove_entry, RateEntry.afterAllow, if_neg blocked, if_pos none_]
        · refine ⟨r.put key { e with failures := recent (r.cutoff now) e.failures }, ?_, rfl,
            fun key' => ?_⟩
          · simp only [blocked, none_, if_false, Bool.false_eq_true, Bool.not_false]
          · rw [put_entry, RateEntry.afterAllow, if_neg blocked, if_neg none_]

theorem recordFailure_eq (on : r.cfg.enabled = true) :
    ∃ after : RateLimiter, r.recordFailure key now =
        (if r.cfg.maxFailures ≤ (r.inWindow key now ++ [now]).length then
          { allowed := false, retryAfter := r.cfg.lockout,
            failures := (r.inWindow key now ++ [now]).length }
        else { allowed := true, failures := (r.inWindow key now ++ [now]).length }, after) ∧
      after.cfg = r.cfg ∧
      ∀ key', after.entry key' =
        if key' = key then
          { failures := r.inWindow key now ++ [now]
            blockedUntil :=
              if r.cfg.maxFailures ≤ (r.inWindow key now ++ [now]).length then r.lockEnd now
              else (r.entry key).blockedUntil }
        else r.entry key' := by
  simp only [recordFailure, on, Bool.not_true, Bool.false_eq_true, if_false, keepRecent_eq_recent,
    add_neg_window]
  have window : recent (r.cutoff now) ((r.entries.get key).getD {}).failures =
      r.inWindow key now := rfl
  simp only [window]
  by_cases enough : r.cfg.maxFailures ≤ (r.inWindow key now ++ [now]).length
  · refine ⟨r.put key { failures := r.inWindow key now ++ [now], blockedUntil := r.lockEnd now },
      ?_, rfl, fun key' => ?_⟩
    · rw [if_pos enough, if_pos enough]
      rfl
    · rw [put_entry, if_pos enough]
  · refine ⟨r.put key { r.entry key with failures := r.inWindow key now ++ [now] },
      ?_, rfl, fun key' => ?_⟩
    · rw [if_neg enough, if_neg enough]
      rfl
    · rw [put_entry, if_neg enough]

theorem recordSuccess_entry (on : r.cfg.enabled = true) (key' : GoString) :
    (r.recordSuccess key).entry key' = if key' = key then {} else r.entry key' := by
  simp only [recordSuccess, on, Bool.not_true, Bool.false_eq_true, if_false, remove_entry]

theorem recordSuccess_cfg : (r.recordSuccess key).cfg = r.cfg := by
  simp only [recordSuccess]
  split <;> rfl

end RateLimiter

/-! ## A small limiter for the poles -/

/-- One failure locks for five nanoseconds. -/
def hairTrigger : RateLimitConfig :=
  { enabled := true, maxFailures := 1, window := 1, lockout := 5 }

def probe : GoString := GoText.str "10.0.0.5|student"

end SentinelOps.Auth
