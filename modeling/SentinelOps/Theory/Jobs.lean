/-
# Theory.Jobs — work done once, by one goroutine, recorded in a shared log

A job has a key.  The goroutine that takes it records its events one after the other in a
log that all goroutines share, so the events of one job stand between those of others.
`current i` is the job goroutine `i` is at, with the events it has recorded for it.

`Tracked` says that the log, read at one key, is what the goroutine at that job recorded so
far, and once the job is over a complete trace of it (`Whole`): nobody takes a job twice and
nobody records for another.  A step keeps it if it records nothing (`Tracked.quiet`) or
if a goroutine records at its own job or at one that nobody took (`Tracked.emit`).
-/
import Mathlib.Data.List.Basic

namespace SentinelOps.Theory.Jobs

set_option autoImplicit false

variable {E K : Type*} [DecidableEq K] {key : E → Option K}

/-- The events of one job. -/
def events (key : E → Option K) (log : List E) (k : K) : List E :=
  log.filter fun e => key e = some k

theorem events_append (log es : List E) (k : K) :
    events key (log ++ es) k = events key log k ++ events key es k := List.filter_append ..

theorem events_eq_nil {es : List E} {k : K} (foreign : ∀ e ∈ es, key e ≠ some k) :
    events key es k = [] := by
  simpa [events, List.filter_eq_nil_iff] using foreign

/-- Events of other jobs do not show. -/
theorem events_append_foreign {es : List E} {k : K} (log : List E)
    (foreign : ∀ e ∈ es, key e ≠ some k) : events key (log ++ es) k = events key log k := by
  rw [events_append, events_eq_nil foreign, List.append_nil]

theorem events_eq_self {es : List E} {k : K} (own : ∀ e ∈ es, key e = some k) :
    events key es k = es := by
  simpa [events, List.filter_eq_self] using own

theorem mem_events {log : List E} {k : K} {e : E} :
    e ∈ events key log k ↔ e ∈ log ∧ key e = some k := by
  simp [events]

/-- A question about events of one job is a question to that job. -/
theorem filter_eq_filter_events {p : E → Bool} {k : K} (log : List E)
    (within : ∀ e, p e = true → key e = some k) :
    log.filter p = (events key log k).filter p := by
  rw [events, List.filter_filter]
  refine List.filter_congr fun e _ => ?_
  cases holds : p e with
  | false => rfl
  | true => simp [within e holds]

structure Tracked (key : E → Option K) (Whole : K → List E → Prop)
    (current : ℕ → Option (K × List E)) (log : List E) : Prop where
  running : ∀ i k trace, current i = some (k, trace) → trace ≠ [] ∧ events key log k = trace
  owner : ∀ i j k trace trace',
    current i = some (k, trace) → current j = some (k, trace') → i = j
  every : ∀ k, events key log k = [] ∨ (∃ i trace, current i = some (k, trace)) ∨
    Whole k (events key log k)

variable {Whole : K → List E → Prop} {current current' : ℕ → Option (K × List E)} {log es : List E}

theorem tracked_nil : Tracked key Whole (fun _ => none) [] :=
  ⟨fun _ _ _ => nofun, fun _ _ _ _ _ => nofun, fun _ => .inl rfl⟩

/-- Events of no job change nothing. -/
theorem Tracked.quiet (tracked : Tracked key Whole current log)
    (jobless : ∀ e ∈ es, key e = none) (same : ∀ j, current' j = current j) :
    Tracked key Whole current' (log ++ es) := by
  have still : ∀ k, events key (log ++ es) k = events key log k := by
    intro k
    refine events_append_foreign log fun e member => ?_
    rw [jobless e member]
    nofun
  obtain rfl : current' = current := funext same
  refine ⟨fun i k trace at_ => ?_, tracked.owner, fun k => ?_⟩
  · rw [still]
    exact tracked.running i k trace at_
  · rw [still]
    exact tracked.every k

/-- A job that `i` is at, or that nobody took, is nobody else's: two goroutines are never at one
job, and an untaken one has no events. -/
theorem Tracked.alone (tracked : Tracked key Whole current log) {i j : ℕ} {k k' : K}
    {trace : List E}
    (mine : (∃ trace, current i = some (k, trace)) ∨ (current i = none ∧ events key log k = []))
    (other : j ≠ i) (at_ : current j = some (k', trace)) : k' ≠ k := by
  rintro rfl
  rcases mine with ⟨trace', mine⟩ | ⟨-, empty⟩
  · exact other (tracked.owner j i k' trace trace' at_ mine)
  · obtain ⟨nonempty, same⟩ := tracked.running j k' trace at_
    exact nonempty (same.symm.trans empty)

/-- A goroutine at job `k`, or at none while nobody took `k`, records events of `k`; then
it is still at `k`, or the trace is complete. -/
theorem Tracked.emit (tracked : Tracked key Whole current log) {i : ℕ} {k : K}
    (mine : (∃ trace, current i = some (k, trace)) ∨ (current i = none ∧ events key log k = []))
    (own : ∀ e ∈ es, key e = some k) (others : ∀ j, j ≠ i → current' j = current j)
    (next : (current' i = some (k, events key log k ++ es) ∧ events key log k ++ es ≠ []) ∨
      (current' i = none ∧ Whole k (events key log k ++ es))) :
    Tracked key Whole current' (log ++ es) := by
  have here : events key (log ++ es) k = events key log k ++ es := by
    rw [events_append, events_eq_self own]
  have elsewhere : ∀ k', k' ≠ k → events key (log ++ es) k' = events key log k' := by
    intro k' different
    refine events_append_foreign log fun e member same => ?_
    rw [own e member] at same
    exact different (Option.some.inj same).symm
  have atI : ∀ k' trace, current' i = some (k', trace) →
      k' = k ∧ trace = events key log k ++ es ∧ trace ≠ [] := by
    intro k' trace at_
    rcases next with ⟨still, nonempty⟩ | ⟨ended, -⟩
    · rw [still] at at_
      cases at_
      exact ⟨rfl, rfl, nonempty⟩
    · rw [ended] at at_
      cases at_
  refine ⟨fun j k' trace at_ => ?_, fun j j' k' trace trace' at_ at' => ?_, fun k' => ?_⟩
  · by_cases same : j = i
    · subst same
      obtain ⟨rfl, rfl, nonempty⟩ := atI k' trace at_
      exact ⟨nonempty, here⟩
    · rw [others j same] at at_
      rw [elsewhere k' (tracked.alone mine same at_)]
      exact tracked.running j k' trace at_
  · by_cases same : j = i
    · by_cases same' : j' = i
      · rw [same, same']
      · rw [others j' same'] at at'
        rw [same] at at_
        exact absurd (atI k' trace at_).1 (tracked.alone mine same' at')
    · rw [others j same] at at_
      by_cases same' : j' = i
      · rw [same'] at at'
        exact absurd (atI k' trace' at').1 (tracked.alone mine same at_)
      · rw [others j' same'] at at'
        exact tracked.owner j j' k' trace trace' at_ at'
  · by_cases same : k' = k
    · subst same
      rw [here]
      rcases next with ⟨still, -⟩ | ⟨-, whole⟩
      · exact .inr (.inl ⟨i, _, still⟩)
      · exact .inr (.inr whole)
    · rw [elsewhere k' same]
      rcases tracked.every k' with empty | ⟨j, trace, at_⟩ | whole
      · exact .inl empty
      · have other : j ≠ i := by
          rintro rfl
          rcases mine with ⟨trace', mine⟩ | ⟨none_, -⟩
          · rw [mine] at at_
            cases at_
            exact same rfl
          · rw [none_] at at_
            cases at_
        exact .inr (.inl ⟨j, trace, (others j other).trans at_⟩)
      · exact .inr (.inr whole)

end SentinelOps.Theory.Jobs
