/-
# Theory.Filing — an index kept by hand

Records name their owner, and a second structure lists for each owner the records it has.
Nothing but the code that writes both keeps them in step.  `Filing` is the two together and
`Exact` says that they agree.  For each way of writing there is one rule that says what it takes
to stay exact: `exact_file_iff` for a record that is written and listed, `exact_refile_iff` for
one that is only written, `Exact.remove` and `Exact.sweep` for those that are taken out of both.

The owner that a stored record names and the owner under whom it was listed are two values:
what is stored may not be what was written.
-/
import Mathlib.Data.Set.Insert

namespace SentinelOps.Theory

set_option autoImplicit false

/-- The owner each stored record names, and the records listed for each owner. -/
@[ext] structure Filing (Id Owner : Type*) where
  owner : Id → Option Owner
  members : Owner → Set Id

namespace Filing

variable {Id Owner : Type*} [DecidableEq Id] [DecidableEq Owner]

omit [DecidableEq Id] [DecidableEq Owner] in
/-- A record is listed for an owner exactly when it is stored and names it. -/
def Exact (x : Filing Id Owner) : Prop := ∀ o id, id ∈ x.members o ↔ x.owner id = some o

/-- Store a record that names `said`, and list it for `listed`. -/
def file (x : Filing Id Owner) (id : Id) (said listed : Owner) : Filing Id Owner where
  owner := Function.update x.owner id (some said)
  members := Function.update x.members listed (insert id (x.members listed))

omit [DecidableEq Owner] in
/-- Store a record that names `said`, and leave the lists. -/
def refile (x : Filing Id Owner) (id : Id) (said : Owner) : Filing Id Owner where
  owner := Function.update x.owner id (some said)
  members := x.members

/-- Delete a record, and take it from the list of `listed`. -/
def remove (x : Filing Id Owner) (id : Id) (listed : Owner) : Filing Id Owner where
  owner := Function.update x.owner id none
  members := Function.update x.members listed (x.members listed \ {id})

omit [DecidableEq Id] in
/-- Delete every record listed for `listed`, and the list. -/
noncomputable def sweep (x : Filing Id Owner) (listed : Owner) : Filing Id Owner where
  owner := fun id => open Classical in if id ∈ x.members listed then none else x.owner id
  members := Function.update x.members listed ∅

variable {x : Filing Id Owner} {id : Id} {said listed : Owner}

theorem mem_members_file (o : Owner) (id' : Id) :
    id' ∈ (x.file id said listed).members o ↔ id' ∈ x.members o ∨ (o = listed ∧ id' = id) := by
  by_cases same : o = listed
  · subst same
    simp [file, or_comm]
  · simp [file, same]

/-- Filing keeps the lists exact when the record names the owner it is listed for, and a record
that it replaces named the same. -/
theorem exact_file_iff (exact : x.Exact) :
    (x.file id said listed).Exact ↔
      said = listed ∧ ∀ old, x.owner id = some old → old = listed := by
  constructor
  · intro after
    have here : ∀ o, id ∈ (x.file id said listed).members o ↔ said = o := by
      intro o
      rw [after o id]
      simp [file]
    have said_eq : said = listed := (here listed).1 ((mem_members_file ..).2 (.inr ⟨rfl, rfl⟩))
    refine ⟨said_eq, fun old before => ?_⟩
    have listed_old := (here old).1 ((mem_members_file ..).2 (.inl ((exact old id).2 before)))
    exact listed_old.symm.trans said_eq
  · rintro ⟨rfl, replaced⟩ o id'
    rw [mem_members_file, exact o id']
    by_cases same : id' = id
    · subst same
      simp only [file, Function.update_self, Option.some.injEq, and_true]
      constructor
      · rintro (before | rfl)
        · exact (replaced o before).symm
        · rfl
      · exact fun same => .inr same.symm
    · simp [file, same]

omit [DecidableEq Owner] in
/-- A record that is only written again has to name the owner it named before. -/
theorem exact_refile_iff (exact : x.Exact) :
    (x.refile id said).Exact ↔ x.owner id = some said := by
  constructor
  · intro after
    have listed := (after said id).2 (by simp [refile])
    exact (exact said id).1 listed
  · intro before o id'
    simp only [refile, exact o id']
    by_cases same : id' = id
    · subst same
      rw [Function.update_self, before]
    · rw [Function.update_of_ne same]

theorem Exact.remove (exact : x.Exact) (stored : x.owner id = some listed) :
    (x.remove id listed).Exact := by
  intro o id'
  by_cases same : id' = id
  · subst same
    by_cases mine : o = listed
    · subst mine
      simp [Filing.remove]
    · have apart : ¬ listed = o := Ne.symm mine
      simp [Filing.remove, mine, exact o id', stored, apart]
  · by_cases mine : o = listed
    · subst mine
      simp [Filing.remove, same, exact o id']
    · simp [Filing.remove, same, mine, exact o id']

omit [DecidableEq Id] in
theorem Exact.sweep (exact : x.Exact) (listed : Owner) : (x.sweep listed).Exact := by
  intro o id'
  by_cases mine : o = listed
  · subst mine
    simp only [Filing.sweep, Function.update_self, Set.mem_empty_iff_false, false_iff]
    split
    · simp
    · rename_i absent
      exact fun stored => absent ((exact o id').2 stored)
  · simp only [Filing.sweep, Function.update_of_ne mine, exact o id']
    split
    · rename_i member
      rw [(exact listed id').1 member]
      simp [Ne.symm mine]
    · rfl

end Filing

end SentinelOps.Theory
