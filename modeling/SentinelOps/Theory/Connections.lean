/-
# Theory.Connections — requests that are served at the same time

A server has connections.  On each of them requests are handled one after the other, and the
handlers of different connections run at the same time: each is a `Script` against a component
that they share with the rest of the program, and a step is one question of one of them, the
arrival of a request, or a change that the rest of the program makes.

A question is blind if its answer does not depend on the component and asking it changes nothing.
Connections whose requests ask blind questions only are separated from everything else.  Taken out
of a run they are not missed (`exec_without`), and run alone, on any other component, they get
the same replies (`exec_alone`).  Both are about the server with some of its connections only
(`only`), along a schedule with the other steps left out (`exec_filter`).
-/
import SentinelOps.Theory.Script

namespace SentinelOps.Theory.Connections

open Schedule

set_option autoImplicit false

/-- `S` is the component and `Q` are its questions. -/
@[ext] structure Server (S Q : Type) (A : Q → Type) (R : Type) where
  shared : S
  job : ℕ → Option (Script Q A R)
  replies : List (ℕ × R)

/-- `X` is a request, `L` what an answer takes from outside. -/
inductive Step (S X L : Type) where
  | request (i : ℕ) (x : X)
  | move (i : ℕ) (l : L)
  | other (shared : S)

section

variable {S Q X L R : Type} {A : Q → Type}

/-- No request yet. -/
def start (shared : S) : Server S Q A R where
  shared := shared
  job _ := none
  replies := []

/-- Connection `i` goes on to `job`, and `new` is written to it. -/
def goto (s : Server S Q A R) (i : ℕ) (job : Option (Script Q A R)) (new : List R)
    (shared : S) : Server S Q A R where
  shared := shared
  job := Function.update s.job i job
  replies := s.replies ++ new.map (i, ·)

/-- A handler that has returned writes its reply, and the connection is free again. -/
def step (handler : X → Script Q A R) (answer : L → S → (q : Q) → A q × S)
    (s : Server S Q A R) : Step S X L → Option (Server S Q A R)
  | .request i x =>
      match s.job i with
      | none => some (goto s i (some (handler x)) [] s.shared)
      | some _ => none
  | .move i l =>
      match s.job i with
      | none => none
      | some (.ret reply) => some (goto s i none [reply] s.shared)
      | some (.ask q next) =>
          let p := answer l s.shared q
          some (goto s i (some (next p.1)) [] p.2)
  | .other shared => some { s with shared := shared }

/-- The step is one of a connection in `u`. -/
def Step.on (u : ℕ → Bool) : Step S X L → Bool
  | .request i _ => u i
  | .move i _ => u i
  | .other _ => false

/-- The connections in `v` and what they were answered, on another component. -/
def only (v : ℕ → Bool) (shared : S) (s : Server S Q A R) : Server S Q A R where
  shared := shared
  job i := if v i then s.job i else none
  replies := s.replies.filter fun p => v p.1

/-- The answer does not depend on the component, and asking changes nothing. -/
def Blind (answer : L → S → (q : Q) → A q × S) (q : Q) : Prop :=
  ∃ a : L → A q, ∀ l s, answer l s q = (a l, s)

variable {handler : X → Script Q A R} {answer : L → S → (q : Q) → A q × S} {u v : ℕ → Bool}
  {s s' : Server S Q A R} {l : Step S X L}

/-- What a step does: it starts a handler, ends one, asks one question, or is none of theirs. -/
theorem step_cases (moved : step handler answer s l = some s') :
    (∃ i x, l = .request i x ∧ s.job i = none ∧
      s' = goto s i (some (handler x)) [] s.shared) ∨
    (∃ i reading reply, l = .move i reading ∧ s.job i = some (.ret reply) ∧
      s' = goto s i none [reply] s.shared) ∨
    (∃ i reading q next, l = .move i reading ∧ s.job i = some (.ask q next) ∧
      s' = goto s i (some (next (answer reading s.shared q).1)) []
        (answer reading s.shared q).2) ∨
    ∃ shared, l = .other shared ∧ s' = { s with shared := shared } := by
  cases l with
  | request i x =>
      simp only [step] at moved
      split at moved
      · next free =>
          cases moved
          exact .inl ⟨i, x, rfl, free, rfl⟩
      · cases moved
  | move i reading =>
      simp only [step] at moved
      split at moved
      · cases moved
      · next reply at_ =>
          cases moved
          exact .inr (.inl ⟨i, reading, reply, rfl, at_, rfl⟩)
      · next q next at_ =>
          cases moved
          exact .inr (.inr (.inl ⟨i, reading, q, next, rfl, at_, rfl⟩))
  | other shared =>
      cases moved
      exact .inr (.inr (.inr ⟨shared, rfl, rfl⟩))

/-! ## Some of the connections -/

theorem only_start (v : ℕ → Bool) (shared shared' : S) :
    only v shared' (start shared : Server S Q A R) = start shared' := by
  simp [only, start]

theorem only_job {i : ℕ} (on : v i = true) (shared : S) (s : Server S Q A R) :
    (only v shared s).job i = s.job i := if_pos on

theorem only_goto {i : ℕ} (on : v i = true) (s : Server S Q A R) (job : Option (Script Q A R))
    (new : List R) (shared shared' shared'' : S) :
    only v shared' (goto s i job new shared) = goto (only v shared'' s) i job new shared' := by
  ext1
  · rfl
  · funext j
    by_cases same : j = i
    · subst same
      simp [only, goto, on]
    · simp [only, goto, same]
  · simp [only, goto, on]

theorem only_goto_off {i : ℕ} (off : v i = false) (s : Server S Q A R)
    (job : Option (Script Q A R)) (new : List R) (shared shared' : S) :
    only v shared' (goto s i job new shared) = only v shared' s := by
  ext1
  · rfl
  · funext j
    by_cases same : j = i
    · subst same
      simp [only, off]
    · simp [only, goto, same]
  · simp [only, goto, off]

theorem only_step (off : l.on v = false) (moved : step handler answer s l = some s') (shared : S) :
    only v shared s' = only v shared s := by
  rcases step_cases moved with ⟨i, x, rfl, -, rfl⟩ | ⟨i, reading, reply, rfl, -, rfl⟩ |
      ⟨i, reading, q, next, rfl, -, rfl⟩ | ⟨shared, rfl, rfl⟩
  · exact only_goto_off off ..
  · exact only_goto_off off ..
  · exact only_goto_off off ..
  · rfl

/-- The step of another connection is possible without those in `u`. -/
theorem step_without (rest : ∀ i, v i = !u i) (off : l.on u = false)
    (moved : step handler answer s l = some s') :
    step handler answer (only v s.shared s) l = some (only v s'.shared s') := by
  rcases step_cases moved with ⟨i, x, rfl, at_, rfl⟩ | ⟨i, reading, reply, rfl, at_, rfl⟩ |
      ⟨i, reading, q, next, rfl, at_, rfl⟩ | ⟨shared, rfl, rfl⟩
  on_goal 4 => rfl
  all_goals
    have here : v i = true := (rest i).trans (congrArg not off)
    simp only [step, only_job here, at_, only_goto here _ _ _ _ _ s.shared]
    rfl

/-! ## Separation -/

/-- The handlers in `u` ask blind questions only. -/
def Quiet (answer : L → S → (q : Q) → A q × S) (u : ℕ → Bool) (s : Server S Q A R) : Prop :=
  ∀ i script, u i = true → s.job i = some script → script.Asks (Blind answer)

/-- A request on a connection in `u` is handled with blind questions. -/
def Asking (handler : X → Script Q A R) (answer : L → S → (q : Q) → A q × S) (u : ℕ → Bool)
    (l : Step S X L) : Prop :=
  ∀ i x, l = .request i x → u i = true → (handler x).Asks (Blind answer)

theorem Quiet.goto {i : ℕ} {job : Option (Script Q A R)} (quiet : Quiet answer u s)
    (new : List R) (shared : S)
    (next : ∀ script, u i = true → job = some script → script.Asks (Blind answer)) :
    Quiet answer u (goto s i job new shared) := by
  intro j script on at_
  by_cases same : j = i
  · subst same
    exact next script on (by simpa [Connections.goto] using at_)
  · exact quiet j script on (by simpa [Connections.goto, same] using at_)

theorem quiet_step (quiet : Quiet answer u s) (asking : Asking handler answer u l)
    (moved : step handler answer s l = some s') : Quiet answer u s' := by
  rcases step_cases moved with ⟨i, x, rfl, -, rfl⟩ | ⟨i, reading, reply, rfl, at_, rfl⟩ |
      ⟨i, reading, q, next, rfl, at_, rfl⟩ | ⟨shared, rfl, rfl⟩
  · refine quiet.goto [] _ fun script on same => ?_
    cases same
    exact asking i x rfl on
  · exact quiet.goto [reply] _ fun script on none_ => by cases none_
  · refine quiet.goto [] _ fun script on same => ?_
    cases same
    exact (quiet i _ on at_).2 _
  · exact quiet

/-- A step of a quiet connection is possible on any component, and does not change it. -/
theorem step_alone (quiet : Quiet answer u s) (on : l.on u = true)
    (moved : step handler answer s l = some s') (shared : S) :
    s'.shared = s.shared ∧ step handler answer (only u shared s) l = some (only u shared s') := by
  rcases step_cases moved with ⟨i, x, rfl, at_, rfl⟩ | ⟨i, reading, reply, rfl, at_, rfl⟩ |
      ⟨i, reading, q, next, rfl, at_, rfl⟩ | ⟨shared, rfl, rfl⟩
  · have here : u i = true := on
    simp only [step, only_job here, at_, only_goto here _ _ _ _ _ shared]
    exact ⟨rfl, rfl⟩
  · have here : u i = true := on
    simp only [step, only_job here, at_, only_goto here _ _ _ _ _ shared]
    exact ⟨rfl, rfl⟩
  · have here : u i = true := on
    obtain ⟨a, blind⟩ := (quiet i _ here at_).1
    simp only [step, only_job here, at_, only_goto here _ _ _ _ _ shared, blind]
    exact ⟨rfl, rfl⟩
  · cases on

theorem quiet_start (shared : S) : Quiet answer u (start shared : Server S Q A R) := by
  intro i script _ none_
  cases none_

variable {shared : S} {steps : List (Step S X L)}

/-- Without the connections in `u` the run is the same for everybody else. -/
theorem exec_without (asking : ∀ l ∈ steps, Asking handler answer u l)
    (ran : exec (step handler answer) (start shared) steps = some s) :
    exec (step handler answer) (start shared) (steps.filter fun l => !l.on u) =
      some (only (fun i => !u i) s.shared s) := by
  rw [← only_start (fun i => !u i) shared shared]
  refine exec_filter (f := fun s => only (fun i => !u i) s.shared s) (I := Quiet answer u)
    (fun s l s' => quiet_step) (fun s l s' _ kept moved => ?_)
    (fun s l s' quiet dropped moved => ?_) (quiet_start shared) asking ran
  · exact step_without (fun _ => rfl) (by simpa using kept) moved
  · have on : l.on u = true := by simpa using dropped
    have off : l.on (fun i => !u i) = false := by
      cases l with
      | request i x => simpa [Step.on] using on
      | move i reading => simpa [Step.on] using on
      | other shared => rfl
    rw [(step_alone quiet on moved shared).1]
    exact only_step off moved _

/-- Alone, and whatever the component is, the connections in `u` get the same replies. -/
theorem exec_alone (asking : ∀ l ∈ steps, Asking handler answer u l)
    (ran : exec (step handler answer) (start shared) steps = some s) (shared' : S) :
    exec (step handler answer) (start shared') (steps.filter (Step.on u)) =
      some (only u shared' s) := by
  rw [← only_start u shared shared']
  exact exec_filter (f := only u shared') (I := Quiet answer u) (fun s l s' => quiet_step)
    (fun s l s' quiet kept moved => (step_alone quiet kept moved shared').2)
    (fun s l s' _ dropped moved => only_step dropped moved shared') (quiet_start shared) asking ran

end

end SentinelOps.Theory.Connections
