/-
# Theory.WriteBack — a shared value copied to a file by whoever changes it

Every writer changes the shared value under a lock, releases the lock, and only then
takes a copy of the value and writes the copy to the file.  Copies are stamped in the
order they are taken.  Nothing orders the writes.

`settled_file` is the law such a protocol obeys when no write replaces a newer copy by an
older one (`InOrder`): whenever no writer is under way, the file holds the shared value.
The last copy taken is the one that counts, and the reason it reaches the file is
`Coherent.fresh`: as long as the file is behind, someone still has to copy or to write.
`settled_view` carries the law over to a component that behaves like the protocol.
-/
import SentinelOps.Theory.Schedule

namespace SentinelOps.Theory.WriteBack

open Schedule

set_option autoImplicit false

variable {V : Type*}

/-- A writer that changed the value is `dirty` until it holds a copy. -/
inductive Phase (V : Type*) where
  | idle
  | dirty
  | held (stamp : ℕ) (copy : V)

structure State (V : Type*) where
  value : V
  file : V
  taken : ℕ
  fileStamp : ℕ
  phase : ℕ → Phase V

inductive Step (V : Type*) where
  | change (i : ℕ) (value : V)
  | take (i : ℕ)
  | write (i : ℕ)

namespace State

/-- Nothing under way, and the file is up to date. -/
def init (value : V) : State V where
  value := value
  file := value
  taken := 0
  fileStamp := 0
  phase _ := .idle

def step (s : State V) : Step V → Option (State V)
  | .change i value =>
      match s.phase i with
      | .idle => some { s with value, phase := Function.update s.phase i .dirty }
      | _ => none
  | .take i =>
      match s.phase i with
      | .dirty =>
          some { s with
            taken := s.taken + 1
            phase := Function.update s.phase i (.held (s.taken + 1) s.value) }
      | _ => none
  | .write i =>
      match s.phase i with
      | .held stamp copy =>
          some { s with
            file := copy, fileStamp := stamp, phase := Function.update s.phase i .idle }
      | _ => none

theorem step_cases {s s' : State V} {l : Step V} (moved : s.step l = some s') :
    (∃ i value, l = .change i value ∧ s.phase i = .idle ∧
        s' = { s with value, phase := Function.update s.phase i .dirty }) ∨
      (∃ i, l = .take i ∧ s.phase i = .dirty ∧
        s' = { s with
          taken := s.taken + 1
          phase := Function.update s.phase i (.held (s.taken + 1) s.value) }) ∨
      (∃ i stamp copy, l = .write i ∧ s.phase i = .held stamp copy ∧
        s' = { s with
          file := copy, fileStamp := stamp, phase := Function.update s.phase i .idle }) := by
  cases l with
  | change i value =>
      simp only [step] at moved
      split at moved
      · cases moved
        exact .inl ⟨i, value, rfl, ‹_›, rfl⟩
      · cases moved
  | take i =>
      simp only [step] at moved
      split at moved
      · cases moved
        exact .inr (.inl ⟨i, rfl, ‹_›, rfl⟩)
      · cases moved
  | write i =>
      simp only [step] at moved
      split at moved
      · cases moved
        exact .inr (.inr ⟨i, _, _, rfl, ‹_›, rfl⟩)
      · cases moved

theorem step_change {s : State V} {i : ℕ} (at_ : s.phase i = .idle) (value : V) :
    s.step (.change i value) =
      some { s with value, phase := Function.update s.phase i .dirty } := by
  simp only [step, at_]

theorem step_take {s : State V} {i : ℕ} (at_ : s.phase i = .dirty) :
    s.step (.take i) = some { s with
      taken := s.taken + 1
      phase := Function.update s.phase i (.held (s.taken + 1) s.value) } := by
  simp only [step, at_]

theorem step_write {s : State V} {i stamp : ℕ} {copy : V} (at_ : s.phase i = .held stamp copy) :
    s.step (.write i) = some { s with
      file := copy, fileStamp := stamp, phase := Function.update s.phase i .idle } := by
  simp only [step, at_]

/-- A write does not replace a newer copy. -/
def InOrder (s : State V) : Step V → Prop
  | .write i => ∀ stamp copy, s.phase i = .held stamp copy → s.fileStamp < stamp
  | _ => True

structure Coherent (s : State V) : Prop where
  stamped : ∀ i stamp copy, s.phase i = .held stamp copy → stamp ≤ s.taken
  fresh : (∃ i, s.phase i = .dirty) ∨ (∃ i, s.phase i = .held s.taken s.value) ∨
    (s.fileStamp = s.taken ∧ s.file = s.value)

theorem coherent_init (value : V) : Coherent (init value) :=
  ⟨fun _ _ _ => nofun, .inr (.inr ⟨rfl, rfl⟩)⟩

theorem Coherent.step {s s' : State V} {l : Step V} (coherent : Coherent s) (ordered : InOrder s l)
    (moved : s.step l = some s') : Coherent s' := by
  rcases step_cases moved with ⟨i, value, rfl, at_, rfl⟩ | ⟨i, rfl, at_, rfl⟩ |
    ⟨i, stamp, copy, rfl, at_, rfl⟩
  · refine ⟨fun j n v holds => ?_, .inl ⟨i, ?_⟩⟩
    · simp only [Function.update_apply] at holds
      split at holds
      · cases holds
      · exact coherent.stamped j n v holds
    · simp only [Function.update_self]
  · refine ⟨fun j n v holds => ?_, .inr (.inl ⟨i, ?_⟩)⟩
    · simp only [Function.update_apply] at holds
      split at holds
      · cases holds
        exact Nat.le_refl _
      · exact Nat.le_succ_of_le (coherent.stamped j n v holds)
    · simp only [Function.update_self]
  · have newer : s.fileStamp < stamp := ordered stamp copy at_
    have bounded : stamp ≤ s.taken := coherent.stamped i stamp copy at_
    refine ⟨fun j n v holds => ?_, ?_⟩
    · simp only [Function.update_apply] at holds
      split at holds
      · cases holds
      · exact coherent.stamped j n v holds
    · -- Whoever keeps the promise of `fresh` is another writer, or it is `i` itself.
      rcases coherent.fresh with ⟨j, dirty⟩ | ⟨j, last⟩ | ⟨current, -⟩
      · refine .inl ⟨j, ?_⟩
        have other : j ≠ i := by
          rintro rfl
          rw [at_] at dirty
          cases dirty
        simp only [Function.update_of_ne other, dirty]
      · by_cases same : j = i
        · subst same
          rw [at_] at last
          cases last
          exact .inr (.inr ⟨rfl, rfl⟩)
        · refine .inr (.inl ⟨j, ?_⟩)
          simp only [Function.update_of_ne same, last]
      · omega

/-- **A settled file is the shared value.** -/
theorem settled_file {value : V} {s : State V} {steps : List (Step V)}
    (ran : exec State.step (init value) steps = some s)
    (ordered : Along State.step InOrder (init value) steps)
    (settled : ∀ i, s.phase i = .idle) : s.file = s.value := by
  have coherent : Coherent s :=
    exec_invariant_along (fun _ _ _ c o m => c.step o m) (coherent_init value) ordered ran
  rcases coherent.fresh with ⟨i, dirty⟩ | ⟨i, last⟩ | ⟨-, same⟩
  · rw [settled i] at dirty
    cases dirty
  · rw [settled i] at last
    cases last
  · exact same

/-- The rule for a component seen as such a protocol through `view`: each of its steps is
invisible or one step of the protocol. -/
theorem settled_view {S L : Type*} {step : S → L → Option S} {P : S → L → Prop}
    (view : S → State V)
    (answer : ∀ s l s', P s l → step s l = some s' → view s' = view s ∨
      ∃ l', InOrder (view s) l' ∧ (view s).step l' = some (view s'))
    {s s' : S} {ls : List L} {value : V} (start : view s = init value)
    (held : Along step P s ls) (ran : exec step s ls = some s')
    (settled : ∀ i, (view s').phase i = .idle) : (view s').file = (view s').value := by
  have answered : ∀ s l s' a, a = view s → P s l → step s l = some s' →
      ∃ ls' a', exec State.step a ls' = some a' ∧ Along State.step InOrder a ls' ∧
        a' = view s' := by
    rintro s l s' _ rfl meets moved
    rcases answer s l s' meets moved with same | ⟨l', ordered, moved'⟩
    · exact ⟨[], view s, rfl, trivial, same.symm⟩
    · refine ⟨[l'], view s', ?_, along_cons_of_eq moved' ordered trivial, rfl⟩
      rw [exec_cons, moved']
      rfl
  obtain ⟨steps, a, ran', ordered, rfl⟩ :=
    exec_simulation (R := fun s a => a = view s) answered start.symm held ran
  exact settled_file ran' ordered settled

end State

end SentinelOps.Theory.WriteBack
