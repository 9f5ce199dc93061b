/-
# Theory.Script — a client of a shared interface

A client asks a component one question after the other, and what it asks next depends on
the answers so far.  `Script` is such a client with the component left out: run against a
component that nobody else touches it is a function (`Script.run`), and in a concurrent
system it is resumed one answer at a time.

`Runs` is the trace of a script: the questions it asked with the answers it got, whatever the
component was.  A trace can be checked against a monitor, a partial step function on stages
that reads one exchange at a time; `Follows` says that the monitor accepts every trace of the
script, and its rules go by the shape of the script.

`Guarded` is a rule of pre- and postconditions for the second reading.  `W` is what has
been established about the component, and it only grows; a guarded script asks only
questions that meet `P` in the world it asks them in, as long as every answer meets `G`
in the world it comes from.
-/
import SentinelOps.Theory.Schedule
import Mathlib.Order.Basic

namespace SentinelOps.Theory

set_option autoImplicit false

/-- A client with questions `Q`, answers `A q` and result `R`. -/
inductive Script (Q : Type) (A : Q → Type) (R : Type) where
  | ret (result : R)
  | ask (q : Q) (next : A q → Script Q A R)

namespace Script

variable {Q : Type} {A : Q → Type} {R R' S W : Type}

def map (f : R → R') : Script Q A R → Script Q A R'
  | .ret result => .ret (f result)
  | .ask q next => .ask q fun a => map f (next a)

/-- The client alone with a component of state `S`. -/
def run (answer : S → (q : Q) → A q × S) : Script Q A R → S → R × S
  | .ret result, s => (result, s)
  | .ask q next, s => run answer (next (answer s q).1) (answer s q).2

/-- The client of a component that answers every question by itself. -/
def eval (world : (q : Q) → A q) : Script Q A R → R
  | .ret result => result
  | .ask q next => eval world (next (world q))

def bind : Script Q A R → (R → Script Q A R') → Script Q A R'
  | .ret result, f => f result
  | .ask q next, f => .ask q fun a => bind (next a) f

@[simp] theorem eval_bind (world : (q : Q) → A q) (script : Script Q A R)
    (f : R → Script Q A R') : (script.bind f).eval world = (f (script.eval world)).eval world := by
  induction script with
  | ret result => rfl
  | ask q next ih => exact ih (world q)

@[simp] theorem eval_map (world : (q : Q) → A q) (script : Script Q A R) (f : R → R') :
    (script.map f).eval world = f (script.eval world) := by
  induction script with
  | ret result => rfl
  | ask q next ih => exact ih (world q)

theorem run_bind (answer : S → (q : Q) → A q × S) (script : Script Q A R)
    (f : R → Script Q A R') (s : S) :
    (script.bind f).run answer s =
      (f (script.run answer s).1).run answer (script.run answer s).2 := by
  induction script generalizing s with
  | ret result => rfl
  | ask q next ih => exact ih (answer s q).1 (answer s q).2

/-- The script as a client of a larger interface. -/
def translate {Q' : Type} {A' : Q' → Type} (f : Q → Q') (back : (q : Q) → A' (f q) → A q) :
    Script Q A R → Script Q' A' R
  | .ret result => .ret result
  | .ask q next => .ask (f q) fun a => translate f back (next (back q a))

theorem run_translate {Q' : Type} {A' : Q' → Type} (f : Q → Q') (back : (q : Q) → A' (f q) → A q)
    {answer : S → (q : Q) → A q × S} {answer' : S → (q : Q') → A' q × S}
    (same : ∀ s q, (back q (answer' s (f q)).1, (answer' s (f q)).2) = answer s q)
    (script : Script Q A R) (s : S) :
    (script.translate f back).run answer' s = script.run answer s := by
  induction script generalizing s with
  | ret result => rfl
  | ask q next ih =>
      rw [translate, run, run, ih, ← same]

/-- The script asks these questions, gets these answers, and ends with this result. -/
inductive Runs : Script Q A R → List (Σ q, A q) → R → Prop where
  | ret (result : R) : Runs (.ret result) [] result
  | ask {q : Q} {next : A q → Script Q A R} (a : A q) {trace : List (Σ q, A q)} {result : R}
      (rest : Runs (next a) trace result) : Runs (.ask q next) (⟨q, a⟩ :: trace) result

/-- The trace against a component that answers every question by itself. -/
def transcript (world : (q : Q) → A q) : Script Q A R → List (Σ q, A q)
  | .ret _ => []
  | .ask q next => ⟨q, world q⟩ :: transcript world (next (world q))

theorem runs_transcript (world : (q : Q) → A q) (script : Script Q A R) :
    Runs script (script.transcript world) (script.eval world) := by
  induction script with
  | ret result => exact .ret result
  | ask q next ih => exact .ask (world q) (ih (world q))

theorem runs_ask {q : Q} {next : A q → Script Q A R} {trace : List (Σ q, A q)} {result : R}
    (ran : Runs (.ask q next) trace result) :
    ∃ a rest, trace = ⟨q, a⟩ :: rest ∧ Runs (next a) rest result := by
  cases ran with
  | ask a rest => exact ⟨a, _, rfl, rest⟩

theorem runs_bind {script : Script Q A R} {f : R → Script Q A R'} {trace : List (Σ q, A q)}
    {result : R'} (ran : Runs (script.bind f) trace result) :
    ∃ first middle rest, Runs script first middle ∧ Runs (f middle) rest result ∧
      trace = first ++ rest := by
  induction script generalizing trace with
  | ret middle => exact ⟨[], middle, trace, .ret middle, ran, rfl⟩
  | ask q next ih =>
      obtain ⟨a, tail, rfl, later⟩ := runs_ask ran
      obtain ⟨first, middle, rest, ran₁, ran₂, rfl⟩ := ih a later
      exact ⟨⟨q, a⟩ :: first, middle, rest, .ask a ran₁, ran₂, rfl⟩

theorem Runs.bind {script : Script Q A R} {f : R → Script Q A R'} {first rest : List (Σ q, A q)}
    {middle : R} {result : R'} (ran : Runs script first middle)
    (later : Runs (f middle) rest result) :
    Runs (script.bind f) (first ++ rest) result := by
  induction ran with
  | ret middle => exact later
  | ask a ran ih => exact .ask a (ih later)

/-- Whatever it is answered, the script asks only questions that meet `P`. -/
def Asks (P : Q → Prop) : Script Q A R → Prop
  | .ret _ => True
  | .ask q next => P q ∧ ∀ a, Asks P (next a)

theorem Asks.mono {P P' : Q → Prop} {script : Script Q A R} (asks : Asks P script)
    (weaker : ∀ q, P q → P' q) : Asks P' script := by
  induction script with
  | ret result => trivial
  | ask q next ih => exact ⟨weaker q asks.1, fun a => ih a (asks.2 a)⟩

theorem Asks.of_runs {P : Q → Prop} {script : Script Q A R} {trace : List (Σ q, A q)} {result : R}
    (asks : Asks P script) (ran : Runs script trace result) : ∀ e ∈ trace, P e.1 := by
  induction ran with
  | ret result => exact fun e none_ => by cases none_
  | ask a ran ih =>
      intro e member
      rcases List.mem_cons.1 member with rfl | later
      · exact asks.1
      · exact ih (asks.2 a) e later

/-! ## Monitors -/

section Monitor

variable {St : Type} {step : St → (Σ q, A q) → Option St} {post : R → St → Prop}

/-- Whatever it is answered, the script takes the monitor from stage to stage, and ends with a
result and a stage that meet `post`. -/
def Follows (step : St → (Σ q, A q) → Option St) (post : R → St → Prop) :
    Script Q A R → St → Prop
  | .ret result, stage => post result stage
  | .ask q next, stage => ∀ a, ∃ stage', step stage ⟨q, a⟩ = some stage' ∧
      Follows step post (next a) stage'

/-- A question the monitor does not mind. -/
theorem follows_ask {q : Q} {next : A q → Script Q A R} {stage : St}
    (stays : ∀ a, step stage ⟨q, a⟩ = some stage) (later : ∀ a, Follows step post (next a) stage) :
    Follows step post (.ask q next) stage :=
  fun a => ⟨stage, stays a, later a⟩

theorem Follows.bind {script : Script Q A R} {f : R → Script Q A R'} {post' : R' → St → Prop}
    {stage : St} (first : Follows step post script stage)
    (later : ∀ result stage', post result stage' → Follows step post' (f result) stage') :
    Follows step post' (script.bind f) stage := by
  induction script generalizing stage with
  | ret result => exact later result stage first
  | ask q next ih =>
      intro a
      obtain ⟨stage', moved, rest⟩ := first a
      exact ⟨stage', moved, ih a rest⟩

theorem Follows.mono {script : Script Q A R} {post' : R → St → Prop} {stage : St}
    (follows : Follows step post script stage)
    (weaker : ∀ result stage', post result stage' → post' result stage') :
    Follows step post' script stage := by
  induction script generalizing stage with
  | ret result => exact weaker result stage follows
  | ask q next ih =>
      intro a
      obtain ⟨stage', moved, rest⟩ := follows a
      exact ⟨stage', moved, ih a rest⟩

/-- The monitor accepts the trace. -/
theorem Follows.exec {script : Script Q A R} {stage : St} {trace : List (Σ q, A q)} {result : R}
    (follows : Follows step post script stage) (ran : Runs script trace result) :
    ∃ stage', Schedule.exec step stage trace = some stage' ∧ post result stage' := by
  induction ran generalizing stage with
  | ret result => exact ⟨stage, rfl, follows⟩
  | ask a ran ih =>
      obtain ⟨stage', moved, rest⟩ := follows a
      obtain ⟨last, accepted, met⟩ := ih rest
      exact ⟨last, Schedule.exec_cons_eq_some.2 ⟨stage', moved, accepted⟩, met⟩

end Monitor

/-! ## Guarded scripts -/

variable [Preorder W] {P : W → Q → Prop} {G : W → (q : Q) → A q → Prop}

/-- Every question meets `P`, if the answers meet `G`. -/
def Guarded (P : W → Q → Prop) (G : W → (q : Q) → A q → Prop) : Script Q A R → W → Prop
  | .ret _, _ => True
  | .ask q next, w => P w q ∧ ∀ w', w ≤ w' → ∀ a, G w' q a → Guarded P G (next a) w'

theorem Guarded.later {script : Script Q A R} {w w' : W}
    (stable : ∀ w w' q, w ≤ w' → P w q → P w' q) (guarded : Guarded P G script w)
    (grown : w ≤ w') : Guarded P G script w' := by
  cases script with
  | ret result => trivial
  | ask q next =>
      exact ⟨stable w w' q grown guarded.1, fun w'' further a meets =>
        guarded.2 w'' (grown.trans further) a meets⟩

theorem guarded_of_forall (script : Script Q A R) (free : ∀ w q, P w q) (w : W) :
    Guarded P G script w := by
  induction script generalizing w with
  | ret result => trivial
  | ask q next ih => exact ⟨free w q, fun w' _ a _ => ih a w'⟩

theorem Guarded.map {script : Script Q A R} {w : W} (guarded : Guarded P G script w)
    (f : R → R') : Guarded P G (script.map f) w := by
  induction script generalizing w with
  | ret result => trivial
  | ask q next ih =>
      exact ⟨guarded.1, fun w' grown a meets => ih a (guarded.2 w' grown a meets)⟩

end Script

end SentinelOps.Theory
