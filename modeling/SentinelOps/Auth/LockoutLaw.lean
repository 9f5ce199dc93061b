/-
# Auth.LockoutLaw — the limiter refines the law over its failure history

A run is a list of calls in the order in which they enter the mutex.  The history of a key
is the list of its failures since its last success (`history`); the law of
`Theory.SlidingWindow` reads every decision off that list and the clock.

`Tracks` is the invariant.  From the last reading on, the entry and the history show the
same window and the same live lockout; nothing is said about the past, which is why
pruning, the overwriting of `blockedUntil` and the deletion of an expired entry keep it.

The zero `time.Time` is the one instant the law has to name: `blockedUntil.IsZero()` means
"no lockout", so a lockout that ends exactly there is none.
-/
import SentinelOps.Auth.RateLimiter

namespace SentinelOps.Auth

open Theory SlidingWindow
open GoText (GoString)
open GoTime (Time)

set_option autoImplicit false

/-- One call, with the clock reading it works with. -/
inductive Op where
  | allow (key : GoString) (now : Time)
  | recordFailure (key : GoString) (now : Time)
  | recordSuccess (key : GoString)

namespace Op

def reading : Op → Option Time
  | allow _ now => some now
  | recordFailure _ now => some now
  | recordSuccess _ => none

/-- The calls that record something for `key`. -/
def records (key : GoString) : Op → Bool
  | allow _ _ => false
  | recordFailure k _ => k = key
  | recordSuccess k => k = key

end Op

def readings (ops : List Op) : List Time := ops.filterMap Op.reading

namespace RateLimiter

def apply (r : RateLimiter) : Op → RateLimiter
  | .allow key now => (r.allow key now).2
  | .recordFailure key now => (r.recordFailure key now).2
  | .recordSuccess key => r.recordSuccess key

def run (r : RateLimiter) (ops : List Op) : RateLimiter := ops.foldl apply r

end RateLimiter

def record (key : GoString) (H : List Time) : Op → List Time
  | .allow _ _ => H
  | .recordFailure k now => if k = key then H ++ [now] else H
  | .recordSuccess k => if k = key then [] else H

/-- The failures of `key` since its last success, oldest first. -/
def history (key : GoString) (ops : List Op) : List Time := ops.foldl (record key) []

theorem history_append (key : GoString) (ops : List Op) (op : Op) :
    history key (ops ++ [op]) = record key (history key ops) op := by
  simp [history]

theorem record_of_not_records {key : GoString} {op : Op} (silent : op.records key = false)
    (H : List Time) : record key H op = H := by
  cases op <;> simp_all [Op.records, record]

/-- Calls that record nothing for a key leave its history. -/
theorem history_filter_records (key : GoString) (ops : List Op) :
    history key (ops.filter (Op.records key)) = history key ops := by
  induction ops using List.reverseRecOn with
  | nil => rfl
  | append_singleton ops op ih =>
      rw [List.filter_append, history_append]
      cases told : op.records key with
      | true => simp [told, history_append, ih]
      | false => simp [told, ih, record_of_not_records told]

/-! ## The invariant -/

/-- The lockout of `H` that is live at `t` ends at `u`. -/
def LiveUntil (cfg : RateLimitConfig) (H : List Time) (t u : Time) : Prop :=
  ∃ t₀, IsGreatest (lockInstants cfg.maxFailures cfg.window.toInt H) t₀ ∧
    t₀ + cfg.lockout.toInt = u ∧ u ≠ 0 ∧ t < u

/-- From `now` on, the entry of `key` shows what `H` shows. -/
structure Tracks (r : RateLimiter) (key : GoString) (H : List Time) (now : Time) : Prop where
  past : ∀ h ∈ H, h ≤ now
  window : ∀ t, now ≤ t →
    recent (r.cutoff t) (r.entry key).failures = recent (r.cutoff t) H
  lock : ∀ t u, now ≤ t →
    ((r.entry key).blockedUntil = u ∧ u ≠ 0 ∧ t < u ↔ LiveUntil r.cfg H t u)

variable {r r' : RateLimiter} {key : GoString} {H : List Time} {now : Time}

theorem Tracks.later (tracks : Tracks r key H now) {now' : Time} (le : now ≤ now') :
    Tracks r key H now' where
  past h member := (tracks.past h member).trans le
  window t ahead := tracks.window t (le.trans ahead)
  lock t u ahead := tracks.lock t u (le.trans ahead)

/-- `Tracks` sees a limiter only through its configuration and the entry of the key. -/
theorem Tracks.congr (tracks : Tracks r key H now) (cfg : r'.cfg = r.cfg)
    (same : r'.entry key = r.entry key) : Tracks r' key H now where
  past := tracks.past
  window t ahead := by
    rw [same, RateLimiter.cutoff, cfg]
    exact tracks.window t ahead
  lock t u ahead := by
    rw [same, cfg]
    exact tracks.lock t u ahead

theorem cutoff_mono (r : RateLimiter) {t u : Time} (le : t ≤ u) : r.cutoff t ≤ r.cutoff u :=
  sub_le_sub_right le _

theorem tracks_new (cfg : RateLimitConfig) (key : GoString) (now : Time) :
    Tracks (newRateLimiter cfg) key [] now where
  past h member := absurd member List.not_mem_nil
  window t _ := rfl
  lock t u _ := by
    constructor
    · rintro ⟨zero, nonzero, -⟩
      exact absurd zero.symm nonzero
    · rintro ⟨t₀, greatest, -⟩
      rw [lockInstants_nil] at greatest
      exact absurd greatest.1 (Set.notMem_empty t₀)

theorem Tracks.allow (tracks : Tracks r key H now) (on : r.cfg.enabled = true) (k : GoString) :
    Tracks (r.allow k now).2 key H now := by
  obtain ⟨after, answered, cfg, entry⟩ := r.allow_eq k now on
  rw [answered]
  by_cases same : key = k
  · subst same
    have entryHere := entry key
    rw [if_pos rfl] at entryHere
    -- The pruned failures show every later window, because the cutoff only moves forward.
    have pruned : ∀ t, now ≤ t →
        recent (r.cutoff t) (recent (r.cutoff now) (r.entry key).failures) =
          recent (r.cutoff t) H := by
      intro t ahead
      rw [recent_recent (cutoff_mono r ahead)]
      exact tracks.window t ahead
    have cutoffs : ∀ t, after.cutoff t = r.cutoff t := by
      intro t
      rw [RateLimiter.cutoff, RateLimiter.cutoff, cfg]
    by_cases gone : (r.entry key).blocked now = false ∧
        (recent (r.cutoff now) (r.entry key).failures).length = 0
    · obtain ⟨free, empty⟩ := gone
      have deleted : after.entry key = {} := by
        rw [entryHere, RateEntry.afterAllow]
        simp [free, empty]
      refine ⟨tracks.past, fun t ahead => ?_, fun t u ahead => ?_⟩
      · rw [deleted, cutoffs, ← pruned t ahead, List.length_eq_zero_iff.1 empty]
      · rw [deleted, cfg, ← tracks.lock t u ahead]
        refine ⟨fun h => absurd h.1.symm h.2.1, ?_⟩
        rintro ⟨rfl, nonzero, live⟩
        have blocked := (RateEntry.blocked_iff _ now).2 ⟨nonzero, lt_of_le_of_lt ahead live⟩
        rw [free] at blocked
        cases blocked
    · have kept : after.entry key =
          { r.entry key with failures := recent (r.cutoff now) (r.entry key).failures } := by
        rw [entryHere, RateEntry.afterAllow]
        split
        · rfl
        · rename_i free
          rw [if_neg fun empty => gone ⟨by simpa using free, empty⟩]
      refine ⟨tracks.past, fun t ahead => ?_, fun t u ahead => ?_⟩
      · rw [kept, cutoffs]
        exact pruned t ahead
      · rw [kept, cfg]
        exact tracks.lock t u ahead
  · refine tracks.congr cfg ?_
    rw [entry key, if_neg same]

theorem Tracks.recordFailure (tracks : Tracks r key H now) (on : r.cfg.enabled = true)
    (k : GoString) :
    Tracks (r.recordFailure k now).2 key (record key H (.recordFailure k now)) now := by
  obtain ⟨after, answered, cfg, entry⟩ := r.recordFailure_eq k now on
  rw [answered]
  by_cases same : key = k
  · subst same
    have entryHere := entry key
    rw [if_pos rfl] at entryHere
    have cutoffs : ∀ t, after.cutoff t = r.cutoff t := by
      intro t
      rw [RateLimiter.cutoff, RateLimiter.cutoff, cfg]
    have counted : r.inWindow key now ++ [now] = recent (r.cutoff now) (H ++ [now]) := by
      have inside : r.cutoff now ≤ now := by
        have := r.window_pos
        rw [RateLimiter.cutoff]
        lia
      rw [RateLimiter.inWindow, tracks.window now le_rfl, recent_append, recent_cons, if_pos inside,
        recent_nil]
    simp only [record, if_true]
    refine ⟨?_, fun t ahead => ?_, fun t u ahead => ?_⟩
    · intro h member
      rcases List.mem_append.1 member with old | new
      · exact tracks.past h old
      · rw [List.mem_singleton.1 new]
    · rw [entryHere, cutoffs]
      simp only [RateLimiter.inWindow]
      rw [recent_append, recent_append, recent_recent (cutoff_mono r ahead),
        tracks.window t ahead]
    · rw [entryHere, counted, cfg]
      by_cases enough : r.cfg.maxFailures ≤ (recent (r.cutoff now) (H ++ [now])).length
      · -- The new failure locks and, being the latest, is the one the law reads.
        have greatest := isGreatest_append_of_locks tracks.past enough
        rw [if_pos enough]
        constructor
        · rintro ⟨rfl, nonzero, live⟩
          exact ⟨now, greatest, rfl, nonzero, live⟩
        · rintro ⟨t₀, greatest', rfl, nonzero, live⟩
          rw [greatest'.unique greatest] at nonzero live ⊢
          exact ⟨rfl, nonzero, live⟩
      · rw [if_neg enough, tracks.lock t u ahead]
        have unchanged := lockInstants_append_of_lt enough
        rw [LiveUntil, LiveUntil, unchanged]
  · have other : record key H (.recordFailure k now) = H :=
      record_of_not_records (by simpa [Op.records] using Ne.symm same) H
    rw [other]
    refine tracks.congr cfg ?_
    rw [entry key, if_neg same]

theorem Tracks.recordSuccess (tracks : Tracks r key H now) (on : r.cfg.enabled = true)
    (k : GoString) :
    Tracks (r.recordSuccess k) key (record key H (.recordSuccess k)) now := by
  have entry := r.recordSuccess_entry k on key
  have cfg := r.recordSuccess_cfg k
  by_cases same : key = k
  · subst same
    rw [if_pos rfl] at entry
    simp only [record, if_true]
    refine ⟨fun h member => absurd member List.not_mem_nil, fun t _ => ?_, fun t u _ => ?_⟩
    · rw [entry]
    · rw [entry]
      constructor
      · rintro ⟨zero, nonzero, -⟩
        exact absurd zero.symm nonzero
      · rintro ⟨t₀, greatest, -⟩
        rw [lockInstants_nil] at greatest
        exact absurd greatest.1 (Set.notMem_empty t₀)
  · have other : record key H (.recordSuccess k) = H :=
      record_of_not_records (by simpa [Op.records] using Ne.symm same) H
    rw [other]
    refine tracks.congr cfg ?_
    rw [entry, if_neg same]

/-! ## Runs -/

theorem run_append (r : RateLimiter) (ops : List Op) (op : Op) :
    r.run (ops ++ [op]) = (r.run ops).apply op := by
  simp [RateLimiter.run]

theorem run_cfg (r : RateLimiter) (ops : List Op) (on : r.cfg.enabled = true) :
    (r.run ops).cfg = r.cfg := by
  induction ops using List.reverseRecOn with
  | nil => rfl
  | append_singleton ops op ih =>
      rw [run_append]
      have stillOn : (r.run ops).cfg.enabled = true := by rw [ih, on]
      cases op with
      | allow k now =>
          obtain ⟨after, answered, cfg, -⟩ := (r.run ops).allow_eq k now stillOn
          rw [RateLimiter.apply, answered, cfg, ih]
      | recordFailure k now =>
          obtain ⟨after, answered, cfg, -⟩ := (r.run ops).recordFailure_eq k now stillOn
          rw [RateLimiter.apply, answered, cfg, ih]
      | recordSuccess k => rw [RateLimiter.apply, RateLimiter.recordSuccess_cfg, ih]

theorem readings_append (ops ops' : List Op) :
    readings (ops ++ ops') = readings ops ++ readings ops' := List.filterMap_append ..

/-- After every run on a clock that does not go back, every key is tracked by its history. -/
theorem tracks_run (cfg : RateLimitConfig) (on : cfg.enabled = true) (key : GoString)
    (ops : List Op) (now : Time) (ordered : (readings ops ++ [now]).Pairwise (· ≤ ·)) :
    Tracks ((newRateLimiter cfg).run ops) key (history key ops) now := by
  induction ops using List.reverseRecOn generalizing now with
  | nil => exact tracks_new cfg key now
  | append_singleton ops op ih =>
      have stillOn : ((newRateLimiter cfg).run ops).cfg.enabled = true := by
        rw [run_cfg _ ops on]; exact on
      rw [run_append, history_append]
      rw [readings_append] at ordered
      -- A call with a reading `t` is tracked up to `t` before it, and `t ≤ now`.
      have upTo : ∀ t, readings [op] = [t] →
          Tracks ((newRateLimiter cfg).run ops) key (history key ops) t ∧ t ≤ now := by
        intro t single
        rw [single, List.append_assoc] at ordered
        have cut := List.pairwise_append.1 ordered
        refine ⟨ih t (List.pairwise_append.2 ⟨cut.1, List.pairwise_singleton .., ?_⟩), ?_⟩
        · intro a member b isT
          exact cut.2.2 a member b (by rw [List.mem_singleton.1 isT]; simp)
        · exact (List.pairwise_append.1 cut.2.1).2.2 t (by simp) now (by simp)
      cases op with
      | allow k t =>
          obtain ⟨before, le⟩ := upTo t rfl
          exact (before.allow stillOn k).later le
      | recordFailure k t =>
          obtain ⟨before, le⟩ := upTo t rfl
          exact (before.recordFailure stillOn k).later le
      | recordSuccess k =>
          have silent : readings [Op.recordSuccess k] = [] := rfl
          rw [silent, List.append_nil] at ordered
          exact (ih now ordered).recordSuccess stillOn k

/-! ## Decisions -/

theorem Tracks.inWindow (tracks : Tracks r key H now) :
    r.inWindow key now = recent (r.cutoff now) H :=
  tracks.window now le_rfl

theorem Tracks.blocked_iff (tracks : Tracks r key H now) :
    (r.entry key).blocked now = true ↔ ∃ u, LiveUntil r.cfg H now u := by
  rw [RateEntry.blocked_iff]
  constructor
  · rintro ⟨nonzero, live⟩
    exact ⟨_, (tracks.lock now _ le_rfl).1 ⟨rfl, nonzero, live⟩⟩
  · rintro ⟨u, until_⟩
    obtain ⟨rfl, nonzero, live⟩ := (tracks.lock now u le_rfl).2 until_
    exact ⟨nonzero, live⟩

/-- A live lockout is what is left of it: between zero and the configured lockout. -/
theorem Tracks.retryAfter (tracks : Tracks r key H now) {t₀ : Time}
    (greatest : IsGreatest (lockInstants r.cfg.maxFailures r.cfg.window.toInt H) t₀)
    (blocked : (r.entry key).blocked now = true) :
    ((r.entry key).blockedUntil.sub now).toInt = t₀ + r.cfg.lockout.toInt - now := by
  obtain ⟨nonzero, ahead⟩ := (RateEntry.blocked_iff _ _).1 blocked
  obtain ⟨t₁, greatest₁, ends, -, -⟩ := (tracks.lock now _ le_rfl).1 ⟨rfl, nonzero, ahead⟩
  have same := greatest₁.unique greatest
  subst same
  rw [← ends] at ahead ⊢
  refine Time.sub_toInt_of_le ahead.le (d := r.cfg.lockout) ?_
  have notLater := tracks.past t₁ (Locks.mem greatest.1)
  lia

/-- Two limiters that track one history answer alike. -/
theorem Tracks.same_decisions (tracks : Tracks r key H now) (tracks' : Tracks r' key H now)
    (cfg : r'.cfg = r.cfg) (on : r.cfg.enabled = true) :
    (r'.allow key now).1 = (r.allow key now).1 ∧
      (r'.recordFailure key now).1 = (r.recordFailure key now).1 := by
  have windows : r'.inWindow key now = r.inWindow key now := by
    rw [tracks.inWindow, tracks'.inWindow, RateLimiter.cutoff, RateLimiter.cutoff, cfg]
  have blocks : (r'.entry key).blocked now = (r.entry key).blocked now := by
    rw [Bool.eq_iff_iff, tracks.blocked_iff, tracks'.blocked_iff, cfg]
  have on' : r'.cfg.enabled = true := by rw [cfg, on]
  constructor
  · obtain ⟨_, answered, -⟩ := r.allow_eq key now on
    obtain ⟨_, answered', -⟩ := r'.allow_eq key now on'
    rw [answered, answered', windows, blocks]
    by_cases blocked : (r.entry key).blocked now = true
    · have until_ := (RateEntry.blocked_iff _ _).1 blocked
      have live := (tracks.lock now _ le_rfl).1 ⟨rfl, until_⟩
      rw [← cfg] at live
      rw [((tracks'.lock now _ le_rfl).2 live).1]
    · simp only [blocked]
      rfl
  · obtain ⟨_, answered, -⟩ := r.recordFailure_eq key now on
    obtain ⟨_, answered', -⟩ := r'.recordFailure_eq key now on'
    rw [answered, answered', windows, cfg]

/-- **The limiter follows the failure history.**  After any run on a clock that does not
go back, with `H` the failures of the key since its last success: `Allow` denies exactly
while the latest locking failure of `H` holds the key, a lockout ending at the zero time
excepted; `RetryAfter` is what is left of it; `Failures` counts the failures of `H` in the
window; `RecordFailure` denies exactly when that count, its own failure included, reaches
the bound.  Leaving out every `Allow` and every call on another key changes no decision. -/
theorem limiter_follows_history (cfg : RateLimitConfig) (on : cfg.enabled = true)
    (ops : List Op) (key : GoString) (t : Time)
    (ordered : (readings ops ++ [t]).Pairwise (· ≤ ·)) :
    let M := cfg.withDefaults.maxFailures
    let W := cfg.withDefaults.window.toInt
    let L := cfg.withDefaults.lockout.toInt
    let H := history key ops
    let r := (newRateLimiter cfg).run ops
    let recorded := (newRateLimiter cfg).run (ops.filter (Op.records key))
    ((r.allow key t).1.allowed = false ↔
        ∃ t₀, IsGreatest (lockInstants M W H) t₀ ∧ t₀ + L ≠ 0 ∧ t < t₀ + L) ∧
      ((r.allow key t).1.allowed = false → ∀ t₀, IsGreatest (lockInstants M W H) t₀ →
        (r.allow key t).1.retryAfter.toInt = t₀ + L - t) ∧
      (r.allow key t).1.failures = (recent (t - W) H).length ∧
      ((r.recordFailure key t).1.allowed = false ↔ M ≤ (recent (t - W) (H ++ [t])).length) ∧
      (r.recordFailure key t).1.failures = (recent (t - W) (H ++ [t])).length ∧
      (recorded.allow key t).1 = (r.allow key t).1 ∧
      (recorded.recordFailure key t).1 = (r.recordFailure key t).1 := by
  intro M W L H r recorded
  have cfgR : r.cfg = cfg.withDefaults := run_cfg _ ops on
  have onR : r.cfg.enabled = true := by rw [cfgR]; exact on
  have tracks : Tracks r key H t := tracks_run cfg on key ops t ordered
  have counted : r.inWindow key t ++ [t] = recent (t - W) (H ++ [t]) := by
    have inside : r.cutoff t ≤ t := by
      have := r.window_pos
      rw [RateLimiter.cutoff]
      lia
    rw [tracks.inWindow, RateLimiter.cutoff, cfgR, recent_append, recent_cons, if_pos, recent_nil]
    rwa [RateLimiter.cutoff, cfgR] at inside
  obtain ⟨_, answered, -⟩ := r.allow_eq key t onR
  obtain ⟨_, recorded_, -⟩ := r.recordFailure_eq key t onR
  have orderedRecorded : (readings (ops.filter (Op.records key)) ++ [t]).Pairwise (· ≤ ·) :=
    ordered.sublist (List.Sublist.append (List.filter_sublist.filterMap _) (List.Sublist.refl _))
  have tracks' : Tracks recorded key H t := by
    have := tracks_run cfg on key (ops.filter (Op.records key)) t orderedRecorded
    rwa [history_filter_records] at this
  have cfgs : recorded.cfg = r.cfg := by rw [cfgR]; exact run_cfg _ _ on
  obtain ⟨sameAllow, sameFailure⟩ := tracks.same_decisions tracks' cfgs onR
  refine ⟨?_, ?_, ?_, ?_, ?_, sameAllow, sameFailure⟩
  · rw [answered]
    simp only [Bool.not_eq_false']
    rw [tracks.blocked_iff, cfgR]
    constructor
    · rintro ⟨u, t₀, greatest, rfl, nonzero, live⟩
      exact ⟨t₀, greatest, nonzero, live⟩
    · rintro ⟨t₀, greatest, nonzero, live⟩
      exact ⟨_, t₀, greatest, rfl, nonzero, live⟩
  · rw [answered]
    simp only [Bool.not_eq_false']
    intro blocked t₀ greatest
    rw [if_pos blocked, tracks.retryAfter (by rw [cfgR]; exact greatest) blocked, cfgR]
  · rw [answered]
    simp only [tracks.inWindow, RateLimiter.cutoff, cfgR]
    rfl
  · rw [recorded_, counted, cfgR]
    split <;> simp_all [M]
  · rw [recorded_, counted]
    split <;> rfl

theorem limiter_follows_history_hairTrigger :
    (((newRateLimiter hairTrigger).run [.recordFailure probe 7]).allow probe 9).1.allowed = false ↔
      ∃ t₀, IsGreatest (lockInstants 1 1 (history probe [.recordFailure probe 7])) t₀ ∧
        t₀ + 5 ≠ 0 ∧ 9 < t₀ + 5 :=
  (limiter_follows_history hairTrigger rfl [.recordFailure probe 7] probe 9 (by decide)).1

/-- A lockout that ends at the zero `time.Time` is not enforced: the failure five
nanoseconds before it locks, and one nanosecond later the key is allowed. -/
theorem zero_time_lockout_not_enforced :
    (readings [.recordFailure probe (-5), .allow probe (-4)]).Pairwise (· ≤ ·) ∧
      ¬ ((((newRateLimiter hairTrigger).run [.recordFailure probe (-5)]).allow probe
          (-4)).1.allowed = false ↔
        ∃ t₀, Locks hairTrigger.withDefaults.maxFailures hairTrigger.withDefaults.window.toInt
            (history probe [.recordFailure probe (-5)]) t₀ ∧
          -4 < t₀ + hairTrigger.withDefaults.lockout.toInt) := by
  have allowed :
      (((newRateLimiter hairTrigger).run [.recordFailure probe (-5)]).allow probe (-4)).1.allowed =
        true := by decide
  refine ⟨by decide, fun law => ?_⟩
  have locks : Locks hairTrigger.withDefaults.maxFailures hairTrigger.withDefaults.window.toInt
      (history probe [.recordFailure probe (-5)]) (-5) := ⟨[], [], by decide, by decide⟩
  have denied := law.2 ⟨-5, locks, by decide⟩
  rw [allowed] at denied
  cases denied

end SentinelOps.Auth
