/-
# Auth.LoginRace — concurrent login attempts on one limiter

`TCPServer.authenticate` and the SSH `PasswordCallback` make one attempt alike: `Allow`,
then `Authenticate`, then `RecordFailure` or `RecordSuccess`.  Each is one atomic step, and
between two steps of one attempt any number of other attempts may move.

The check and the recording are separate critical sections.  An attempt that passed
`Allow` before the failure that locks the key still has its password checked afterwards
(`checked_while_locked`).  `lock_respected` says that this is the only way: when no attempt
on the key stands between its `Allow` and its `Authenticate` at a failure that locks, no
password is checked until the lockout ends.
-/
import SentinelOps.Auth.RateLimiter
import SentinelOps.Theory.Schedule

namespace SentinelOps.Auth

open Theory Schedule
open GoText (GoString)
open GoTime (Time)

set_option autoImplicit false

/-- Where one attempt stands. -/
inductive LoginPhase where
  | idle
  | allowed (key : GoString)
  | rejected (key : GoString)
  | accepted (key : GoString)
  | over
  deriving DecidableEq

/-- The shared limiter, the attempts, and the last clock reading. -/
structure LoginState where
  limiter : RateLimiter
  phase : ℕ → LoginPhase
  clock : Time

/-- One step of attempt `i`; `ok` is the answer of the authenticator. -/
inductive LoginStep where
  | allow (i : ℕ) (key : GoString) (t : Time)
  | authenticate (i : ℕ) (t : Time) (ok : Bool)
  | recordFailure (i : ℕ) (t : Time)
  | recordSuccess (i : ℕ)

namespace LoginState

def init (cfg : RateLimitConfig) (clock : Time) : LoginState where
  limiter := newRateLimiter cfg
  phase _ := .idle
  clock := clock

def goto (s : LoginState) (i : ℕ) (phase : LoginPhase) : LoginState :=
  { s with phase := Function.update s.phase i phase }

def step (s : LoginState) : LoginStep → Option LoginState
  | .allow i key t =>
      if s.phase i = .idle ∧ s.clock ≤ t then
        let (decision, limiter) := s.limiter.allow key t
        -- A denied attempt returns without calling the authenticator.
        some ({ s with limiter, clock := t }.goto i
          (if decision.allowed then .allowed key else .over))
      else none
  | .authenticate i t ok =>
      match s.phase i with
      | .allowed key =>
          if s.clock ≤ t then
            some ({ s with clock := t }.goto i (if ok then .accepted key else .rejected key))
          else none
      | _ => none
  | .recordFailure i t =>
      match s.phase i with
      | .rejected key =>
          if s.clock ≤ t then
            some ({ s with limiter := (s.limiter.recordFailure key t).2, clock := t }.goto i .over)
          else none
      | _ => none
  | .recordSuccess i =>
      match s.phase i with
      | .accepted key =>
          some ({ s with limiter := s.limiter.recordSuccess key }.goto i .over)
      | _ => none

/-- The failure attempt `i` is about to record at `t` brings `key` to the bound. -/
def Locks (s : LoginState) (i : ℕ) (key : GoString) (t : Time) : Prop :=
  s.phase i = .rejected key ∧ (s.limiter.recordFailure key t).1.allowed = false

/-- What a step can do, guards included. -/
theorem step_cases {s s' : LoginState} {l : LoginStep} (moved : s.step l = some s') :
    (∃ i key t, l = .allow i key t ∧ s.phase i = .idle ∧ s.clock ≤ t ∧
        s' = { s with limiter := (s.limiter.allow key t).2, clock := t }.goto i
          (if (s.limiter.allow key t).1.allowed then .allowed key else .over)) ∨
      (∃ i key t ok, l = .authenticate i t ok ∧ s.phase i = .allowed key ∧ s.clock ≤ t ∧
        s' = { s with clock := t }.goto i (if ok then .accepted key else .rejected key)) ∨
      (∃ i key t, l = .recordFailure i t ∧ s.phase i = .rejected key ∧ s.clock ≤ t ∧
        s' = { s with limiter := (s.limiter.recordFailure key t).2, clock := t }.goto i .over) ∨
      (∃ i key, l = .recordSuccess i ∧ s.phase i = .accepted key ∧
        s' = { s with limiter := s.limiter.recordSuccess key }.goto i .over) := by
  cases l with
  | allow i key t =>
      simp only [step] at moved
      split at moved
      · rename_i ready
        cases moved
        exact .inl ⟨i, key, t, rfl, ready.1, ready.2, rfl⟩
      · cases moved
  | authenticate i t ok =>
      simp only [step] at moved
      split at moved
      · rename_i key at_
        split at moved
        · cases moved
          exact .inr (.inl ⟨i, key, t, ok, rfl, at_, ‹_›, rfl⟩)
        · cases moved
      · cases moved
  | recordFailure i t =>
      simp only [step] at moved
      split at moved
      · rename_i key at_
        split at moved
        · cases moved
          exact .inr (.inr (.inl ⟨i, key, t, rfl, at_, ‹_›, rfl⟩))
        · cases moved
      · cases moved
  | recordSuccess i =>
      simp only [step] at moved
      split at moved
      · rename_i key at_
        cases moved
        exact .inr (.inr (.inr ⟨i, key, rfl, at_, rfl⟩))
      · cases moved

theorem goto_phase (s : LoginState) (i j : ℕ) (phase : LoginPhase) :
    (s.goto i phase).phase j = if j = i then phase else s.phase j := by
  simp only [goto, Function.update_apply]

/-- Nobody is at `p` after a move to another phase. -/
theorem goto_phase_ne {s : LoginState} {i : ℕ} {phase p : LoginPhase}
    (nobody : ∀ j, s.phase j ≠ p) (elsewhere : phase ≠ p) (j : ℕ) :
    (s.goto i phase).phase j ≠ p := by
  rw [goto_phase]
  split
  · exact elsewhere
  · exact nobody j

@[simp] theorem goto_limiter (s : LoginState) (i : ℕ) (phase : LoginPhase) :
    (s.goto i phase).limiter = s.limiter := rfl

/-! ## The conditions on a run -/

/-- No password of `key` is accepted. -/
def NoSuccess (key : GoString) (s : LoginState) : LoginStep → Prop
  | .authenticate i _ ok => s.phase i = .allowed key → ok = false
  | _ => True

/-- At a failure that locks `key`, no attempt on it stands between `Allow` and
`Authenticate`, and the lockout does not end at the zero time. -/
def Settled (key : GoString) (s : LoginState) : LoginStep → Prop
  | .recordFailure i t =>
      s.Locks i key t → (∀ j, s.phase j ≠ .allowed key) ∧ s.limiter.lockEnd t ≠ 0
  | _ => True

/-- The limiter is the configured one and no attempt of `key` is about to clear it. -/
structure Armed (cfg : RateLimitConfig) (key : GoString) (s : LoginState) : Prop where
  configured : s.limiter.cfg = cfg.withDefaults
  failing : ∀ i, s.phase i ≠ .accepted key

/-- A lockout of `key` announced at `t`: until it ends the entry blocks, and no attempt on
the key has passed `Allow`. -/
structure Held (cfg : RateLimitConfig) (key : GoString) (t : Time) (s : LoginState) : Prop
    extends Armed cfg key s where
  since : t ≤ s.clock
  blocks : s.clock < t + cfg.withDefaults.lockout.toInt →
    (s.limiter.entry key).blockedUntil ≠ 0 ∧
      t + cfg.withDefaults.lockout.toInt ≤ (s.limiter.entry key).blockedUntil
  nobody : s.clock < t + cfg.withDefaults.lockout.toInt → ∀ i, s.phase i ≠ .allowed key

variable {cfg : RateLimitConfig} {key : GoString} {s s' : LoginState} {l : LoginStep} {t : Time}

theorem armed_init (cfg : RateLimitConfig) (key : GoString) (clock : Time) :
    Armed cfg key (init cfg clock) := ⟨rfl, fun _ => nofun⟩

theorem Armed.step (on : cfg.enabled = true) (armed : Armed cfg key s) (fails : NoSuccess key s l)
    (moved : s.step l = some s') : Armed cfg key s' := by
  have onS : s.limiter.cfg.enabled = true := by rw [armed.configured]; exact on
  obtain ⟨i, k, u, rfl, -, -, rfl⟩ | ⟨i, k, u, ok, rfl, at_, -, rfl⟩ |
    ⟨i, k, u, rfl, -, -, rfl⟩ | ⟨i, k, rfl, -, rfl⟩ := step_cases moved
  · obtain ⟨after, answered, kept, -⟩ := s.limiter.allow_eq k u onS
    refine ⟨?_, goto_phase_ne armed.failing ?_⟩
    · rw [goto_limiter, answered, kept, armed.configured]
    · split <;> nofun
  · refine ⟨armed.configured, goto_phase_ne armed.failing ?_⟩
    split
    · rename_i accepted
      intro same
      cases same
      rw [fails at_] at accepted
      cases accepted
    · nofun
  · obtain ⟨after, answered, kept, -⟩ := s.limiter.recordFailure_eq k u onS
    refine ⟨?_, goto_phase_ne armed.failing nofun⟩
    rw [goto_limiter, answered, kept, armed.configured]
  · refine ⟨?_, goto_phase_ne armed.failing nofun⟩
    rw [goto_limiter, RateLimiter.recordSuccess_cfg, armed.configured]

/-- A locking failure announces the lockout. -/
theorem Armed.lock (on : cfg.enabled = true) (armed : Armed cfg key s) {i : ℕ}
    (locks : s.Locks i key t) (settled : Settled key s (.recordFailure i t))
    (moved : s.step (.recordFailure i t) = some s') : Held cfg key t s' := by
  have onS : s.limiter.cfg.enabled = true := by rw [armed.configured]; exact on
  have noSuccess : NoSuccess key s (.recordFailure i t) := trivial
  have armed' : Armed cfg key s' := armed.step on noSuccess moved
  obtain ⟨quiet, nonzero⟩ := settled locks
  obtain ⟨_, _, _, ⟨⟩, -⟩ | ⟨_, _, _, _, ⟨⟩, -⟩ | ⟨i', k, u, ⟨⟩, at_, -, rfl⟩ | ⟨_, _, ⟨⟩, -⟩ :=
    step_cases moved
  cases locks.1.symm.trans at_
  obtain ⟨after, answered, -, entry⟩ := s.limiter.recordFailure_eq key t onS
  have enough : s.limiter.cfg.maxFailures ≤ (s.limiter.inWindow key t ++ [t]).length := by
    have denied := locks.2
    rw [answered] at denied
    by_contra few
    rw [if_neg few] at denied
    cases denied
  have ends : (after.entry key).blockedUntil = s.limiter.lockEnd t := by
    rw [entry key, if_pos rfl, if_pos enough]
  refine ⟨armed', le_rfl, fun _ => ?_, fun _ => goto_phase_ne quiet nofun⟩
  rw [goto_limiter, answered, ends]
  refine ⟨nonzero, ?_⟩
  rw [RateLimiter.lockEnd, armed.configured]

/-- Inside the lockout the entry blocks at every later reading. -/
theorem Held.blocked (held : Held cfg key t s) {u : Time} (ahead : s.clock ≤ u)
    (inside : u < t + cfg.withDefaults.lockout.toInt) :
    (s.limiter.entry key).blocked u = true := by
  obtain ⟨nonzero, until_⟩ := held.blocks (lt_of_le_of_lt ahead inside)
  exact (RateEntry.blocked_iff _ _).2 ⟨nonzero, lt_of_lt_of_le inside until_⟩

/-- `Allow` inside the lockout denies the key and keeps its entry. -/
theorem Held.allow (on : s.limiter.cfg.enabled = true) (held : Held cfg key t s) {i : ℕ}
    {k : GoString} {u : Time} (ahead : s.clock ≤ u)
    (armed' : Armed cfg key ({ s with limiter := (s.limiter.allow k u).2, clock := u }.goto i
      (if (s.limiter.allow k u).1.allowed then .allowed k else .over))) :
    Held cfg key t ({ s with limiter := (s.limiter.allow k u).2, clock := u }.goto i
      (if (s.limiter.allow k u).1.allowed then .allowed k else .over)) := by
  obtain ⟨after, answered, -, entry⟩ := s.limiter.allow_eq k u on
  refine ⟨armed', held.since.trans ahead, fun inside => ?_, fun inside => ?_⟩
  · have kept : (after.entry key).blockedUntil = (s.limiter.entry key).blockedUntil := by
      rw [entry key]
      split
      · rename_i same
        subst same
        rw [RateEntry.afterAllow, if_pos (held.blocked ahead inside)]
      · rfl
    rw [goto_limiter, answered, kept]
    exact held.blocks (lt_of_le_of_lt ahead inside)
  · refine goto_phase_ne (held.nobody (lt_of_le_of_lt ahead inside)) ?_
    rw [answered]
    dsimp only
    split
    · rename_i passed
      intro same
      cases same
      rw [held.blocked ahead inside] at passed
      cases passed
    · intro same
      cases same

/-- A failure leaves the lockout in force, or moves its end forward. -/
theorem Held.recordFailure (on : s.limiter.cfg.enabled = true) (held : Held cfg key t s) {i : ℕ}
    {k : GoString} {u : Time} (ahead : s.clock ≤ u) (at_ : s.phase i = .rejected k)
    (settled : Settled key s (.recordFailure i u))
    (armed' : Armed cfg key
      ({ s with limiter := (s.limiter.recordFailure k u).2, clock := u }.goto i .over)) :
    Held cfg key t
      ({ s with limiter := (s.limiter.recordFailure k u).2, clock := u }.goto i .over) := by
  obtain ⟨after, answered, -, entry⟩ := s.limiter.recordFailure_eq k u on
  have since : t ≤ u := held.since.trans ahead
  refine ⟨armed', since, fun inside => ?_,
    fun inside => goto_phase_ne (held.nobody (lt_of_le_of_lt ahead inside)) nofun⟩
  have before := held.blocks (lt_of_le_of_lt ahead inside)
  rw [goto_limiter, answered, entry key]
  split
  · rename_i same
    subst same
    split
    · rename_i enough
      have locks : s.Locks i key u := by
        refine ⟨at_, ?_⟩
        rw [answered, if_pos enough]
      refine ⟨(settled locks).2, ?_⟩
      show t + cfg.withDefaults.lockout.toInt ≤ s.limiter.lockEnd u
      rw [RateLimiter.lockEnd, held.configured]
      lia
    · exact before
  · exact before

theorem Held.step (on : cfg.enabled = true) (held : Held cfg key t s) (fails : NoSuccess key s l)
    (settled : Settled key s l) (moved : s.step l = some s') : Held cfg key t s' := by
  have onS : s.limiter.cfg.enabled = true := by rw [held.configured]; exact on
  have armed' : Armed cfg key s' := held.toArmed.step on fails moved
  obtain ⟨i, k, u, rfl, -, ahead, rfl⟩ | ⟨i, k, u, ok, rfl, at_, ahead, rfl⟩ |
    ⟨i, k, u, rfl, at_, ahead, rfl⟩ | ⟨i, k, rfl, at_, rfl⟩ := step_cases moved
  · exact held.allow onS ahead armed'
  · refine ⟨armed', held.since.trans ahead,
      fun inside => held.blocks (lt_of_le_of_lt ahead inside),
      fun inside => goto_phase_ne (held.nobody (lt_of_le_of_lt ahead inside)) ?_⟩
    split <;> nofun
  · exact held.recordFailure onS ahead at_ settled armed'
  · have other : key ≠ k := fun same => held.failing i (same ▸ at_)
    refine ⟨armed', held.since, fun inside => ?_,
      fun inside => goto_phase_ne (held.nobody inside) nofun⟩
    rw [goto_limiter, RateLimiter.recordSuccess_entry _ _ onS, if_neg other]
    exact held.blocks inside

/-! ## The law and its failure -/

/-- No password of `key` is checked before a lockout of it has ended. -/
def LockRespected (cfg : RateLimitConfig) (clock : Time) (key : GoString)
    (steps : List LoginStep) : Prop :=
  ∀ before i t between j t' ok after s s',
    steps = before ++ .recordFailure i t :: (between ++ .authenticate j t' ok :: after) →
    exec LoginState.step (init cfg clock) before = some s → s.Locks i key t →
    exec LoginState.step (init cfg clock) (before ++ .recordFailure i t :: between) = some s' →
    s'.phase j = .allowed key →
      t + cfg.withDefaults.lockout.toInt ≤ t'

/-- **A locked key gets no password checked**, in every run in which nobody on the key is
between `Allow` and `Authenticate` at a failure that locks. -/
theorem lock_respected (cfg : RateLimitConfig) (on : cfg.enabled = true) (clock : Time)
    (key : GoString) (steps : List LoginStep) (final : LoginState)
    (ran : exec LoginState.step (init cfg clock) steps = some final)
    (fails : Along LoginState.step (NoSuccess key) (init cfg clock) steps)
    (settled : Along LoginState.step (Settled key) (init cfg clock) steps) :
    LockRespected cfg clock key steps := by
  rintro before i t between j t' ok after s s' rfl toS locks toS' waiting
  obtain ⟨s₁, ran₁, ran₂⟩ := exec_append_eq_some.1 toS'
  cases toS.symm.trans ran₁
  obtain ⟨s₂, recorded, ran₃⟩ := exec_cons_eq_some.1 ran₂
  have failsS := (along_append.1 fails).2 s toS
  have settledS := (along_append.1 settled).2 s toS
  have armed : Armed cfg key s :=
    exec_invariant_along (fun _ _ _ a f m => a.step on f m) (armed_init cfg key clock)
      (along_append.1 fails).1 toS
  have held : Held cfg key t s₂ := armed.lock on locks settledS.1 recorded
  have failsB := (along_append.1 (failsS.2 s₂ recorded)).1
  have settledB := (along_append.1 (settledS.2 s₂ recorded)).1
  have heldS' : Held cfg key t s' :=
    exec_invariant_along
      (P := fun s l => NoSuccess key s l ∧ Settled key s l)
      (fun _ _ _ h c m => h.step on c.1 c.2 m) held (failsB.and settledB) ran₃
  -- The attempt at `Authenticate` bounds the clock by `t'`.
  have clocked : s'.clock ≤ t' := by
    rw [show before ++ .recordFailure i t :: (between ++ .authenticate j t' ok :: after) =
      (before ++ .recordFailure i t :: between) ++ .authenticate j t' ok :: after by simp] at ran
    obtain ⟨s₃, ran₄, ran₅⟩ := exec_append_eq_some.1 ran
    cases toS'.symm.trans ran₄
    obtain ⟨s₄, checked, -⟩ := exec_cons_eq_some.1 ran₅
    obtain ⟨_, _, _, ⟨⟩, -⟩ | ⟨_, _, _, _, ⟨⟩, -, ahead, -⟩ | ⟨_, _, _, ⟨⟩, -⟩ | ⟨_, _, ⟨⟩, -⟩ :=
      step_cases checked
    exact ahead
  by_contra early
  exact heldS'.nobody (lt_of_le_of_lt clocked (not_le.1 early)) j waiting

/-- Attempt 0 fails and locks; attempt 1 comes when the lockout has ended. -/
def oneByOne : List LoginStep :=
  [.allow 0 probe 1, .authenticate 0 2 false, .recordFailure 0 3,
    .allow 1 probe 8, .authenticate 1 9 false]

theorem lock_respected_oneByOne : LockRespected hairTrigger 1 probe oneByOne := by
  refine lock_respected hairTrigger rfl 1 probe oneByOne _ rfl
    (along_of_forall (fun l member s => ?_) _) ?_
  · simp only [oneByOne, List.mem_cons, List.not_mem_nil, or_false] at member
    obtain rfl | rfl | rfl | rfl | rfl := member <;> simp [NoSuccess]
  · refine along_cons_of_eq rfl trivial (along_cons_of_eq rfl trivial
      (along_cons_of_eq rfl (fun _ => ⟨fun j => ?_, by decide⟩)
        (along_cons_of_eq rfl trivial (along_cons_of_eq rfl trivial trivial))))
    simp only [goto_phase]
    split
    · nofun
    · nofun

/-- Attempt 1 passes `Allow` before attempt 0 records the failure that locks. -/
def race : List LoginStep :=
  [.allow 0 probe 1, .allow 1 probe 1, .authenticate 0 2 false, .recordFailure 0 3,
    .authenticate 1 4 false]

/-- The password of attempt 1 is checked one nanosecond into a lockout of five. -/
theorem checked_while_locked :
    (exec LoginState.step (init hairTrigger 1) race).isSome ∧
      Along LoginState.step (NoSuccess probe) (init hairTrigger 1) race ∧
      ¬ LockRespected hairTrigger 1 probe race := by
  refine ⟨rfl, along_of_forall (fun l member s => ?_) _, fun respected => ?_⟩
  · simp only [race, List.mem_cons, List.not_mem_nil, or_false] at member
    obtain rfl | rfl | rfl | rfl | rfl := member <;> simp [NoSuccess]
  · have late := respected [.allow 0 probe 1, .allow 1 probe 1, .authenticate 0 2 false] 0 3 [] 1 4
      false [] _ _ rfl rfl ⟨rfl, by decide⟩ rfl rfl
    exact absurd late (by decide)

end LoginState

end SentinelOps.Auth
