/-
# Auth.DelayedReading — calls that read the clock before they take the mutex

`Allow` and `RecordFailure` sample `r.now()` and only then wait for `r.mu`, so calls can
enter in another order than their readings.  A call that has read the clock is `Waiting`;
`enter` is its critical section with the reading it holds.

Two schedules shorten a lockout that was announced.  A failure with an older reading
enters later and writes an earlier `blockedUntil` (`olderFailure`); and an `Allow` with a
reading past the end drops the entry while another `Allow`, with a reading inside the
lockout, still waits (`earlyDrop`).  `lockout_kept` says that a run free of both, and of a
lockout that ends at the zero time, keeps every announced lockout.
-/
import SentinelOps.Auth.RateLimiter
import SentinelOps.Theory.Schedule

namespace SentinelOps.Auth

open Theory Schedule
open GoText (GoString)
open GoTime (Time)

set_option autoImplicit false

/-- The methods that read the clock. -/
inductive Method where
  | allow
  | recordFailure
  deriving DecidableEq

/-- A call that holds a reading and waits for the mutex. -/
structure Waiting where
  method : Method
  key : GoString
  reading : Time
  deriving DecidableEq

/-- The critical section of a waiting call. -/
def Waiting.run (w : Waiting) (r : RateLimiter) : RateLimitDecision × RateLimiter :=
  match w.method with
  | .allow => r.allow w.key w.reading
  | .recordFailure => r.recordFailure w.key w.reading

structure MutexState where
  limiter : RateLimiter
  waiting : ℕ → Option Waiting
  clock : Time

/-- `RecordSuccess` reads no clock, so it is one step. -/
inductive MutexStep where
  | read (i : ℕ) (w : Waiting)
  | enter (i : ℕ)
  | recordSuccess (key : GoString)
  deriving DecidableEq

namespace MutexState

def init (cfg : RateLimitConfig) (clock : Time) : MutexState where
  limiter := newRateLimiter cfg
  waiting _ := none
  clock := clock

def step (s : MutexState) : MutexStep → Option MutexState
  | .read i w =>
      if s.waiting i = none ∧ s.clock ≤ w.reading then
        some { s with waiting := Function.update s.waiting i (some w), clock := w.reading }
      else none
  | .enter i =>
      match s.waiting i with
      | none => none
      | some w =>
          some { s with
            limiter := (w.run s.limiter).2, waiting := Function.update s.waiting i none }
  | .recordSuccess key => some { s with limiter := s.limiter.recordSuccess key }

theorem step_cases {s s' : MutexState} {l : MutexStep} (moved : s.step l = some s') :
    (∃ i w, l = .read i w ∧ s.clock ≤ w.reading ∧
        s' = { s with waiting := Function.update s.waiting i (some w), clock := w.reading }) ∨
      (∃ i w, l = .enter i ∧ s.waiting i = some w ∧
        s' = { s with
          limiter := (w.run s.limiter).2, waiting := Function.update s.waiting i none }) ∨
      (∃ key, l = .recordSuccess key ∧
        s' = { s with limiter := s.limiter.recordSuccess key }) := by
  cases l with
  | read i w =>
      simp only [step] at moved
      split at moved
      · rename_i ready
        cases moved
        exact .inl ⟨i, w, rfl, ready.2, rfl⟩
      · cases moved
  | enter i =>
      simp only [step] at moved
      split at moved
      · cases moved
      · rename_i w at_
        cases moved
        exact .inr (.inl ⟨i, w, rfl, at_, rfl⟩)
  | recordSuccess key =>
      cases moved
      exact .inr (.inr ⟨key, rfl, rfl⟩)

/-! ## The condition on a run -/

/-- A failure that locks `key` does not bring the end of the lockout forward, and an `Allow`
that drops the entry leaves no `Allow` behind that the entry still denies. -/
def InOrder (key : GoString) (s : MutexState) : MutexStep → Prop
  | .enter i => ∀ t,
      (s.waiting i = some ⟨.recordFailure, key, t⟩ →
        (s.limiter.recordFailure key t).1.allowed = false →
          s.limiter.lockEnd t ≠ 0 ∧
            ((s.limiter.entry key).blockedUntil ≠ 0 →
              (s.limiter.entry key).blockedUntil ≤ s.limiter.lockEnd t)) ∧
      (s.waiting i = some ⟨.allow, key, t⟩ →
        (s.limiter.entry key).blocked t = false → s.limiter.inWindow key t = [] →
          ∀ j u, s.waiting j = some ⟨.allow, key, u⟩ → (s.limiter.entry key).blocked u = false)
  | _ => True

/-- The limiter is the configured one, and no waiting call read ahead of the clock. -/
structure Clocked (cfg : RateLimitConfig) (s : MutexState) : Prop where
  configured : s.limiter.cfg = cfg.withDefaults
  read : ∀ i w, s.waiting i = some w → w.reading ≤ s.clock

/-- A lockout of `key` up to `e`: the entry still blocks that long, or the clock has passed
`e` and so has every waiting `Allow`. -/
def LockedTo (key : GoString) (e : Time) (s : MutexState) : Prop :=
  ((s.limiter.entry key).blockedUntil ≠ 0 ∧ e ≤ (s.limiter.entry key).blockedUntil) ∨
    (e ≤ s.clock ∧ ∀ j u, s.waiting j = some ⟨.allow, key, u⟩ → e ≤ u)

variable {cfg : RateLimitConfig} {key : GoString} {s s' : MutexState} {l : MutexStep} {e : Time}

theorem clocked_init (cfg : RateLimitConfig) (clock : Time) : Clocked cfg (init cfg clock) :=
  ⟨rfl, fun _ _ => nofun⟩

theorem run_cfg (w : Waiting) (r : RateLimiter) (on : r.cfg.enabled = true) :
    (w.run r).2.cfg = r.cfg := by
  obtain ⟨method, k, t⟩ := w
  cases method with
  | allow =>
      obtain ⟨after, answered, kept, -⟩ := r.allow_eq k t on
      simp only [Waiting.run, answered, kept]
  | recordFailure =>
      obtain ⟨after, answered, kept, -⟩ := r.recordFailure_eq k t on
      simp only [Waiting.run, answered, kept]

/-- A call that leaves the queue leaves the other readings in it. -/
theorem waiting_of_left {i j : ℕ} {w : Waiting}
    (stays : Function.update s.waiting i none j = some w) : s.waiting j = some w := by
  rw [Function.update_apply] at stays
  split at stays
  · cases stays
  · exact stays

theorem Clocked.step (on : cfg.enabled = true) (clocked : Clocked cfg s)
    (moved : s.step l = some s') : Clocked cfg s' := by
  have onS : s.limiter.cfg.enabled = true := by rw [clocked.configured]; exact on
  obtain ⟨i, w, rfl, ahead, rfl⟩ | ⟨i, w, rfl, at_, rfl⟩ | ⟨k, rfl, rfl⟩ := step_cases moved
  · refine ⟨clocked.configured, fun j w' waits => ?_⟩
    simp only [Function.update_apply] at waits
    split at waits
    · cases waits
      exact le_rfl
    · exact (clocked.read j w' waits).trans ahead
  · refine ⟨?_, fun j w' stays => clocked.read j w' (waiting_of_left stays)⟩
    rw [run_cfg w _ onS, clocked.configured]
  · refine ⟨?_, clocked.read⟩
    rw [RateLimiter.recordSuccess_cfg, clocked.configured]

/-! ## One step keeps an announced lockout -/

/-- The critical section of `Allow` keeps the lockout: either it finds the entry still
blocking or holding failures, or it drops an entry that no waiting call can miss. -/
theorem LockedTo.enter_allow (on : s.limiter.cfg.enabled = true) (locked : LockedTo key e s)
    {i : ℕ} {k : GoString} {t : Time} (at_ : s.waiting i = some ⟨.allow, k, t⟩)
    (readS : t ≤ s.clock) (ordered : InOrder key s (.enter i)) :
    LockedTo key e { s with
      limiter := (s.limiter.allow k t).2, waiting := Function.update s.waiting i none } := by
  obtain ⟨after, answered, -, entry⟩ := s.limiter.allow_eq k t on
  obtain ⟨nonzero, until_⟩ | ⟨passed, others⟩ := locked
  · by_cases same : key = k
    · subst same
      by_cases blocked : (s.limiter.entry key).blocked t = true
      · refine .inl ?_
        rw [answered, entry key, if_pos rfl, RateEntry.afterAllow, if_pos blocked]
        exact ⟨nonzero, until_⟩
      · by_cases none_ : (s.limiter.inWindow key t).length = 0
        · have free := (ordered t).2 at_ (Bool.not_eq_true _ ▸ blocked)
            (List.length_eq_zero_iff.1 none_)
          -- An entry that blocks nobody at `u` has ended by `u`.
          have ended : ∀ u, (s.limiter.entry key).blocked u = false →
              (s.limiter.entry key).blockedUntil ≤ u := by
            intro u open_
            by_contra early
            have blocks := ((s.limiter.entry key).blocked_iff u).2 ⟨nonzero, not_le.1 early⟩
            rw [open_] at blocks
            cases blocks
          have endedT := ended t (Bool.not_eq_true _ ▸ blocked)
          refine .inr ⟨until_.trans (endedT.trans readS), fun j u stays => ?_⟩
          exact until_.trans (ended u (free j u (waiting_of_left stays)))
        · refine .inl ?_
          rw [RateLimiter.inWindow] at none_
          rw [answered, entry key, if_pos rfl, RateEntry.afterAllow, if_neg blocked, if_neg none_]
          exact ⟨nonzero, until_⟩
    · refine .inl ?_
      rw [answered, entry key, if_neg same]
      exact ⟨nonzero, until_⟩
  · exact .inr ⟨passed, fun j u stays => others j u (waiting_of_left stays)⟩

/-- The critical section of `RecordFailure` keeps it: a new lockout ends no earlier. -/
theorem LockedTo.enter_recordFailure (on : s.limiter.cfg.enabled = true)
    (locked : LockedTo key e s) {i : ℕ} {k : GoString} {t : Time}
    (at_ : s.waiting i = some ⟨.recordFailure, k, t⟩) (ordered : InOrder key s (.enter i)) :
    LockedTo key e { s with
      limiter := (s.limiter.recordFailure k t).2
      waiting := Function.update s.waiting i none } := by
  obtain ⟨after, answered, -, entry⟩ := s.limiter.recordFailure_eq k t on
  obtain ⟨nonzero, until_⟩ | ⟨passed, others⟩ := locked
  · refine .inl ?_
    rw [answered, entry key]
    split
    · rename_i same
      subst same
      dsimp only
      split
      · rename_i enough
        have locks : (s.limiter.recordFailure key t).1.allowed = false := by
          rw [answered, if_pos enough]
        obtain ⟨nonzero', forward⟩ := (ordered t).1 at_ locks
        exact ⟨nonzero', until_.trans (forward nonzero)⟩
      · exact ⟨nonzero, until_⟩
    · exact ⟨nonzero, until_⟩
  · exact .inr ⟨passed, fun j u stays => others j u (waiting_of_left stays)⟩

theorem LockedTo.step (on : cfg.enabled = true) (clocked : Clocked cfg s)
    (locked : LockedTo key e s) (ordered : InOrder key s l) (uncleared : l ≠ .recordSuccess key)
    (moved : s.step l = some s') : LockedTo key e s' := by
  have onS : s.limiter.cfg.enabled = true := by rw [clocked.configured]; exact on
  obtain ⟨i, w, rfl, ahead, rfl⟩ | ⟨i, ⟨method, k, t⟩, rfl, at_, rfl⟩ | ⟨k, rfl, rfl⟩ :=
    step_cases moved
  · obtain blocks | ⟨passed, others⟩ := locked
    · exact .inl blocks
    · refine .inr ⟨passed.trans ahead, fun j u waits => ?_⟩
      simp only [Function.update_apply] at waits
      split at waits
      · cases waits
        exact passed.trans ahead
      · exact others j u waits
  · cases method with
    | allow => exact locked.enter_allow onS at_ (clocked.read i _ at_) ordered
    | recordFailure => exact locked.enter_recordFailure onS at_ ordered
  · have other : key ≠ k := fun same => uncleared (same ▸ rfl)
    obtain blocks | passed := locked
    · refine .inl ?_
      rw [RateLimiter.recordSuccess_entry _ _ onS, if_neg other]
      exact blocks
    · exact .inr passed

/-- A failure that locks announces a lockout up to `lockEnd`. -/
theorem lockedTo_of_locks (on : s.limiter.cfg.enabled = true) {i : ℕ} {t : Time}
    (at_ : s.waiting i = some ⟨.recordFailure, key, t⟩)
    (locks : (s.limiter.recordFailure key t).1.allowed = false)
    (ordered : InOrder key s (.enter i)) (moved : s.step (.enter i) = some s') :
    LockedTo key (s.limiter.lockEnd t) s' := by
  obtain ⟨_, _, ⟨⟩, -⟩ | ⟨_, w, ⟨⟩, at', rfl⟩ | ⟨_, ⟨⟩, -⟩ := step_cases moved
  cases at_.symm.trans at'
  obtain ⟨after, answered, -, entry⟩ := s.limiter.recordFailure_eq key t on
  have enough : s.limiter.cfg.maxFailures ≤ (s.limiter.inWindow key t ++ [t]).length := by
    rw [answered] at locks
    by_contra few
    rw [if_neg few] at locks
    cases locks
  have ends : (after.entry key).blockedUntil = s.limiter.lockEnd t := by
    rw [entry key, if_pos rfl, if_pos enough]
  refine .inl ?_
  simp only [Waiting.run, answered, ends]
  exact ⟨((ordered t).1 at_ locks).1, le_rfl⟩

/-- Under a lockout up to `e`, a waiting `Allow` that read before `e` is denied. -/
theorem LockedTo.denies (on : s.limiter.cfg.enabled = true) (locked : LockedTo key e s) {j : ℕ}
    {u : Time} (waits : s.waiting j = some ⟨.allow, key, u⟩) (inside : u < e) :
    (s.limiter.allow key u).1.allowed = false := by
  obtain ⟨nonzero, until_⟩ | ⟨-, others⟩ := locked
  · obtain ⟨after, answered, -⟩ := s.limiter.allow_eq key u on
    have blocked := ((s.limiter.entry key).blocked_iff u).2 ⟨nonzero, lt_of_lt_of_le inside until_⟩
    rw [answered, blocked]
    rfl
  · exact absurd (others j u waits) (not_le.2 inside)

/-! ## The law and its failures -/

/-- Once a failure with reading `t` is answered with a lockout of `key`, every `Allow` that
enters later with a reading before its end is denied, unless a success cleared the key. -/
def LockoutKept (cfg : RateLimitConfig) (clock : Time) (key : GoString)
    (steps : List MutexStep) : Prop :=
  ∀ before i between j after s s' t u,
    steps = before ++ .enter i :: (between ++ .enter j :: after) →
    exec MutexState.step (init cfg clock) before = some s →
    s.waiting i = some ⟨.recordFailure, key, t⟩ →
    (s.limiter.recordFailure key t).1.allowed = false →
    (s.limiter.recordFailure key t).1.retryAfter = cfg.withDefaults.lockout →
    .recordSuccess key ∉ between →
    exec MutexState.step (init cfg clock) (before ++ .enter i :: between) = some s' →
    s'.waiting j = some ⟨.allow, key, u⟩ → u < t + cfg.withDefaults.lockout.toInt →
      (s'.limiter.allow key u).1.allowed = false

/-- **An announced lockout is never shortened**, in every run whose calls enter in order. -/
theorem lockout_kept (cfg : RateLimitConfig) (on : cfg.enabled = true) (clock : Time)
    (key : GoString) (steps : List MutexStep)
    (ordered : Along MutexState.step (InOrder key) (init cfg clock) steps) :
    LockoutKept cfg clock key steps := by
  rintro before i between j after s s' t u rfl toS at_ locks - uncleared toS' waits inside
  obtain ⟨s₁, ran₁, ran₂⟩ := exec_append_eq_some.1 toS'
  cases toS.symm.trans ran₁
  obtain ⟨s₂, entered, ran₃⟩ := exec_cons_eq_some.1 ran₂
  have clocked : Clocked cfg s :=
    exec_invariant (fun _ _ _ c m => c.step on m) (clocked_init cfg clock) toS
  have orderedS := (along_append.1 ordered).2 s toS
  have onS : s.limiter.cfg.enabled = true := by rw [clocked.configured]; exact on
  have locked : LockedTo key (s.limiter.lockEnd t) s₂ :=
    lockedTo_of_locks onS at_ locks orderedS.1 entered
  have orderedB := (along_append.1 (orderedS.2 s₂ entered)).1
  have unclearedB : Along MutexState.step (fun _ l => l ≠ MutexStep.recordSuccess key) s₂
      between := by
    refine along_of_forall (fun l member _ same => ?_) s₂
    subst same
    exact uncleared member
  -- The lockout survives every step in between; the clock facts travel along.
  have both : Clocked cfg s' ∧ LockedTo key (s.limiter.lockEnd t) s' :=
    exec_invariant_along
      (I := fun s' => Clocked cfg s' ∧ LockedTo key (s.limiter.lockEnd t) s')
      (P := fun s l => InOrder key s l ∧ l ≠ MutexStep.recordSuccess key)
      (fun _ _ _ h c m => ⟨h.1.step on m, h.2.step on h.1 c.1 c.2 m⟩)
      ⟨clocked.step on entered, locked⟩ (orderedB.and unclearedB) ran₃
  have onS' : s'.limiter.cfg.enabled = true := by rw [both.1.configured]; exact on
  refine both.2.denies onS' waits ?_
  rw [RateLimiter.lockEnd, clocked.configured]
  exact inside

/-- A failure at 1 locks until 6; an `Allow` that read 3 is denied. -/
def onTime : List MutexStep :=
  [.read 0 ⟨.recordFailure, probe, 1⟩, .enter 0, .read 1 ⟨.allow, probe, 3⟩, .enter 1]

theorem lockout_kept_onTime : LockoutKept hairTrigger 1 probe onTime := by
  refine lockout_kept hairTrigger rfl 1 probe onTime ?_
  refine along_cons_of_eq rfl trivial (along_cons_of_eq rfl (fun t => ⟨?_, nofun⟩)
    (along_cons_of_eq rfl trivial (along_cons_of_eq rfl (fun t => ⟨nofun, ?_⟩) trivial)))
  · rintro ⟨⟩ -
    exact ⟨by decide, fun locked => absurd rfl locked⟩
  · rintro ⟨⟩ open_
    exact absurd open_ (by decide)

/-- The failure that read 3 enters first and locks until 8; the one that read 1 then sets
the end back to 6. -/
def olderFailure : List MutexStep :=
  [.read 0 ⟨.recordFailure, probe, 1⟩, .read 1 ⟨.recordFailure, probe, 3⟩, .enter 1, .enter 0,
    .read 2 ⟨.allow, probe, 7⟩, .enter 2]

/-- The `Allow` that read 9 drops the entry that would deny the one that read 7. -/
def earlyDrop : List MutexStep :=
  [.read 0 ⟨.recordFailure, probe, 3⟩, .enter 0, .read 1 ⟨.allow, probe, 7⟩,
    .read 2 ⟨.allow, probe, 9⟩, .enter 2, .enter 1]

/-- Both schedules run, and in both an `Allow` that read 7 passes a lockout until 8. -/
theorem lockout_shortened :
    ((exec MutexState.step (init hairTrigger 1) olderFailure).isSome ∧
      ¬ LockoutKept hairTrigger 1 probe olderFailure) ∧
    ((exec MutexState.step (init hairTrigger 1) earlyDrop).isSome ∧
      ¬ LockoutKept hairTrigger 1 probe earlyDrop) := by
  refine ⟨⟨rfl, fun kept => ?_⟩, rfl, fun kept => ?_⟩
  · have denied := kept (olderFailure.take 2) 1 [.enter 0, .read 2 ⟨.allow, probe, 7⟩] 2 [] _ _ 3 7
      rfl rfl rfl (by decide) rfl (by decide) rfl rfl (by decide)
    exact absurd denied (by decide)
  · have denied := kept (earlyDrop.take 1) 0
      [.read 1 ⟨.allow, probe, 7⟩, .read 2 ⟨.allow, probe, 9⟩, .enter 2] 1 [] _ _ 3 7
      rfl rfl rfl (by decide) rfl (by decide) rfl rfl (by decide)
    exact absurd denied (by decide)

end MutexState

end SentinelOps.Auth
