/-
# Theory.SlidingWindow — failures in a window, and the instants that lock

The law of a failure limiter, over any ordered additive group of instants.  A history is
the list of recorded failures, oldest first.  `recent c H` is what a window that opens at
`c` still sees.  A failure at `t₀` locks when the window of width `W` that ends at it
holds at least `M` failures recorded up to and including it (`Locks`).

Recording one more failure adds at most that failure to the locking instants
(`locks_append_singleton`), and on a history that is not later than `t` the new failure,
when it locks, is the latest locking one (`isGreatest_append_of_locks`).
-/
import Mathlib.Algebra.Order.Group.Defs
import Mathlib.Order.Bounds.Basic

namespace SentinelOps.Theory.SlidingWindow

set_option autoImplicit false

variable {T : Type*} [LinearOrder T]

/-- The failures a window that opens at `cutoff` still sees. -/
def recent (cutoff : T) (H : List T) : List T := H.filter fun h => cutoff ≤ h

@[simp] theorem recent_nil (c : T) : recent c [] = [] := rfl

theorem recent_append (c : T) (H H' : List T) : recent c (H ++ H') = recent c H ++ recent c H' :=
  List.filter_append ..

theorem recent_cons (c h : T) (H : List T) :
    recent c (h :: H) = if c ≤ h then h :: recent c H else recent c H := by
  simp [recent, List.filter_cons]

/-- A later window sees the same through an earlier pruning. -/
theorem recent_recent {c c' : T} (le : c ≤ c') (H : List T) :
    recent c' (recent c H) = recent c' H := by
  simp only [recent, List.filter_filter]
  refine List.filter_congr fun h _ => ?_
  by_cases seen : c' ≤ h
  · simp [seen, le.trans seen]
  · simp [seen]

variable [AddCommGroup T] (M : ℤ) (W : T)

/-- A failure at `t₀` in `H` with at least `M` failures, recorded up to and including it,
not older than `t₀ - W`. -/
def Locks (H : List T) (t₀ : T) : Prop :=
  ∃ before after, H = before ++ t₀ :: after ∧ M ≤ (recent (t₀ - W) (before ++ [t₀])).length

/-- The locking instants of a history. -/
def lockInstants (H : List T) : Set T := {t₀ | Locks M W H t₀}

variable {M W}

theorem Locks.mem {H : List T} {t₀ : T} (locks : Locks M W H t₀) : t₀ ∈ H := by
  obtain ⟨before, after, rfl, -⟩ := locks
  simp

theorem lockInstants_nil : lockInstants M W ([] : List T) = ∅ := by
  ext t₀
  simp only [lockInstants, Set.mem_ofPred_eq, Set.mem_empty_iff_false, iff_false]
  intro locks
  exact List.not_mem_nil locks.mem

/-- Recording a failure adds at most that failure to the locking instants. -/
theorem locks_append_singleton {H : List T} {t t₀ : T} :
    Locks M W (H ++ [t]) t₀ ↔
      Locks M W H t₀ ∨ (t₀ = t ∧ M ≤ (recent (t - W) (H ++ [t])).length) := by
  constructor
  · rintro ⟨before, after, split, enough⟩
    rcases List.eq_nil_or_concat after with rfl | ⟨init, last, rfl⟩
    · obtain ⟨rfl, same⟩ := List.append_inj' split rfl
      cases same
      exact .inr ⟨rfl, enough⟩
    · have split' : H ++ [t] = (before ++ t₀ :: init) ++ [last] := by simpa using split
      obtain ⟨rfl, -⟩ := List.append_inj' split' rfl
      exact .inl ⟨before, init, rfl, enough⟩
  · rintro (⟨before, after, rfl, enough⟩ | ⟨rfl, enough⟩)
    · exact ⟨before, after ++ [t], by simp, enough⟩
    · exact ⟨H, [], rfl, enough⟩

theorem lockInstants_append_of_lt {H : List T} {t : T}
    (few : ¬ M ≤ (recent (t - W) (H ++ [t])).length) :
    lockInstants M W (H ++ [t]) = lockInstants M W H := by
  ext t₀
  simp only [lockInstants, Set.mem_ofPred_eq, locks_append_singleton, few, and_false, or_false]

/-- On a history that is not later than `t`, a locking failure at `t` is the latest. -/
theorem isGreatest_append_of_locks {H : List T} {t : T} (past : ∀ h ∈ H, h ≤ t)
    (enough : M ≤ (recent (t - W) (H ++ [t])).length) :
    IsGreatest (lockInstants M W (H ++ [t])) t := by
  refine ⟨locks_append_singleton.2 (.inr ⟨rfl, enough⟩), fun t₀ locks => ?_⟩
  rcases locks_append_singleton.1 locks with earlier | ⟨rfl, -⟩
  · exact past t₀ earlier.mem
  · exact le_rfl

end SentinelOps.Theory.SlidingWindow
