/-
# Theory.Transducer — objects that answer every call

An object is a total function `apply : S → L → R × S`: a call in a state gives a reply and
the next state.  A sequential run is a list of calls; `final` is the state it ends in and
`replies` is what the callers saw, in order.

* `final_invariant`: what one call preserves, a run preserves;
* `Throughout`: a condition on every state of the run and the call made there
  (`throughout_iff` reads it off the prefixes of the run);
* `replies_eq_of_simulation`: an object that is related to another one call by call, under a
  condition, answers as it does over every run that meets the condition;
* `replies_eq_iff`: when the condition is exact for one call, it is for runs.
-/
import Mathlib.Data.List.Basic

namespace SentinelOps.Theory.Transducer

set_option autoImplicit false

variable {S L R : Type*} {apply : S → L → R × S}

/-- The state after a run. -/
def final (apply : S → L → R × S) (s : S) (calls : List L) : S :=
  calls.foldl (fun s call => (apply s call).2) s

/-- The replies of a run, in order. -/
def replies (apply : S → L → R × S) : S → List L → List R
  | _, [] => []
  | s, call :: calls => (apply s call).1 :: replies apply (apply s call).2 calls

@[simp] theorem final_nil (s : S) : final apply s [] = s := rfl

@[simp] theorem final_cons (s : S) (call : L) (calls : List L) :
    final apply s (call :: calls) = final apply (apply s call).2 calls := rfl

theorem final_append (s : S) (first rest : List L) :
    final apply s (first ++ rest) = final apply (final apply s first) rest :=
  List.foldl_append

/-- What one call preserves, a run preserves. -/
theorem final_invariant {I : S → Prop} {calls : List L}
    (keep : ∀ s, ∀ call ∈ calls, I s → I (apply s call).2) {s : S} (start : I s) :
    I (final apply s calls) := by
  induction calls generalizing s with
  | nil => exact start
  | cons call calls ih =>
      exact ih (fun s call member => keep s call (List.mem_cons_of_mem _ member))
        (keep s call List.mem_cons_self start)

/-- `P` holds of every state the run passes through and the call made there. -/
def Throughout (apply : S → L → R × S) (P : S → L → Prop) : S → List L → Prop
  | _, [] => True
  | s, call :: calls => P s call ∧ Throughout apply P (apply s call).2 calls

theorem throughout_iff {P : S → L → Prop} {s : S} {calls : List L} :
    Throughout apply P s calls ↔
      ∀ before call rest, calls = before ++ call :: rest → P (final apply s before) call := by
  induction calls generalizing s with
  | nil => simp [Throughout]
  | cons first calls ih =>
      rw [Throughout, ih]
      constructor
      · rintro ⟨now, later⟩ before call rest split
        cases before with
        | nil =>
            cases split
            exact now
        | cons head before =>
            cases split
            exact later before call rest rfl
      · intro every
        refine ⟨every [] first calls rfl, fun before call rest split => ?_⟩
        exact every (first :: before) call rest (by rw [split, List.cons_append])

/-- An object that answers every call as a related one does, and stays related to it, as long as
`P` holds of the other, answers as that object over every run that meets `P`. -/
theorem replies_eq_of_simulation {S' : Type*} {apply' : S' → L → R × S'} {I : S' → S → Prop}
    {P : S → L → Prop}
    (follows : ∀ s' s call, I s' s → P s call → (apply' s' call).1 = (apply s call).1 ∧
      I (apply' s' call).2 (apply s call).2)
    {s' : S'} {s : S} (related : I s' s) {calls : List L} (held : Throughout apply P s calls) :
    replies apply' s' calls = replies apply s calls := by
  induction calls generalizing s' s with
  | nil => rfl
  | cons call calls ih =>
      obtain ⟨seen, next⟩ := follows s' s call related held.1
      rw [replies, replies, seen, ih next held.2]

/-! ## Two objects side by side -/

section Pair

variable {S' : Type*} {apply' : S' → L → R × S'}

/-- Both objects get every call. -/
def both (apply : S → L → R × S) (apply' : S' → L → R × S') (s : S × S') (call : L) :
    (R × R) × (S × S') :=
  (((apply s.1 call).1, (apply' s.2 call).1), ((apply s.1 call).2, (apply' s.2 call).2))

/-- If two related objects answer a call alike exactly when it meets `P`, and stay related when
they do, they answer a run alike exactly when all its calls meet `P`. -/
theorem replies_eq_iff {I : S → S' → Prop} {P : S × S' → L → Prop}
    (exact : ∀ s s' call, I s s' → ((apply s call).1 = (apply' s' call).1 ↔ P (s, s') call))
    (keep : ∀ s s' call, I s s' → (apply s call).1 = (apply' s' call).1 →
      I (apply s call).2 (apply' s' call).2)
    {s : S} {s' : S'} (related : I s s') (calls : List L) :
    replies apply s calls = replies apply' s' calls ↔
      Throughout (both apply apply') P (s, s') calls := by
  induction calls generalizing s s' with
  | nil => simp [replies, Throughout]
  | cons call calls ih =>
      rw [replies, replies, List.cons.injEq, Throughout, ← exact s s' call related]
      refine and_congr_right fun alike => ?_
      exact ih (keep s s' call related alike)

end Pair

end SentinelOps.Theory.Transducer
