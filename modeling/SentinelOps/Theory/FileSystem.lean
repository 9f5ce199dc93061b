/-
# Theory.FileSystem — names, inodes and open descriptors

A directory maps names to inodes, and an inode holds bytes.  A descriptor is an inode and an
offset, kept by whoever opened it: it goes on writing to its inode whatever becomes of the
name.  `rename` moves the inode to the new name in one step.

No inode has two names (`Disk.unshared`): nothing here makes hard links.
-/
import Mathlib.Data.List.Basic

namespace SentinelOps.Theory.FileSystem

set_option autoImplicit false

/-- Writing `chunk` at `offset`: a gap is filled with zeros, and what lies beyond stays. -/
def overwrite (old : List UInt8) (offset : ℕ) (chunk : List UInt8) : List UInt8 :=
  (old ++ List.replicate (offset - old.length) 0).take offset ++ chunk ++
    old.drop (offset + chunk.length)

/-- At the end of the bytes written so far, a write appends. -/
theorem overwrite_take (bytes : List UInt8) {n : ℕ} (short : n ≤ bytes.length) (k : ℕ) :
    overwrite (bytes.take n) n ((bytes.drop n).take k) = bytes.take (n + k) := by
  have length : (bytes.take n).length = n := by simp [short]
  have rest : (bytes.take n).drop (n + ((bytes.drop n).take k).length) = [] :=
    List.drop_eq_nil_of_le (by omega)
  rw [overwrite, rest, length, Nat.sub_self, List.append_nil, List.replicate_zero, List.append_nil,
    List.take_take, Nat.min_self, List.take_add]

/-- A piece written at the end of a part of `bytes` makes a longer part. -/
theorem overwrite_piece {bytes : List UInt8} {offset : ℕ} (n : ℕ) (short : offset ≤ bytes.length) :
    overwrite (bytes.take offset) offset ((bytes.drop offset).take n) =
        bytes.take (offset + ((bytes.drop offset).take n).length) ∧
      offset + ((bytes.drop offset).take n).length ≤ bytes.length := by
  rw [overwrite_take _ short, List.length_take, List.length_drop]
  refine ⟨?_, by omega⟩
  rcases Nat.le_total n (bytes.length - offset) with fits | beyond
  · rw [Nat.min_eq_left fits]
  · rw [Nat.min_eq_right beyond, List.take_of_length_le (by omega),
      List.take_of_length_le (by omega)]

structure Disk (N : Type) where
  dir : N → Option ℕ
  data : ℕ → List UInt8
  fresh : ℕ
  bounded : ∀ name k, dir name = some k → k < fresh
  unshared : ∀ a b k, dir a = some k → dir b = some k → a = b

namespace Disk

variable {N : Type}

/-- Set the bytes of an inode. -/
def setData (d : Disk N) (k : ℕ) (bytes : List UInt8) : Disk N :=
  { d with data := Function.update d.data k bytes }

/-- `write` through a descriptor on inode `k` at `offset`. -/
def write (d : Disk N) (k offset : ℕ) (chunk : List UInt8) : Disk N :=
  d.setData k (overwrite (d.data k) offset chunk)

theorem write_data (d : Disk N) (k offset : ℕ) (chunk : List UInt8) :
    (d.write k offset chunk).data k = overwrite (d.data k) offset chunk :=
  Function.update_self ..

/-- Writing to the inode of one name leaves the file of another. -/
theorem write_data_other (d : Disk N) {a b : N} {k k' : ℕ} (different : a ≠ b)
    (at_ : d.dir a = some k) (at' : d.dir b = some k') (offset : ℕ) (chunk : List UInt8) :
    (d.write k offset chunk).data k' = d.data k' := by
  refine Function.update_of_ne ?_ _ _
  rintro rfl
  exact different (d.unshared a b k' at_ at')

variable [DecidableEq N]

/-- A new empty file. -/
def link (d : Disk N) (name : N) : Disk N where
  dir := Function.update d.dir name (some d.fresh)
  data := Function.update d.data d.fresh []
  fresh := d.fresh + 1
  bounded := by
    intro name' k at_
    rw [Function.update_apply] at at_
    split at at_
    · cases at_
      exact Nat.lt_succ_self _
    · exact Nat.lt_succ_of_lt (d.bounded name' k at_)
  unshared := by
    intro a b k at_ at'
    rw [Function.update_apply] at at_ at'
    split at at_ <;> split at at'
    · rename_i first second
      rw [first, second]
    · cases at_
      exact absurd (d.bounded b _ at') (Nat.lt_irrefl _)
    · cases at'
      exact absurd (d.bounded a _ at_) (Nat.lt_irrefl _)
    · exact d.unshared a b k at_ at'

/-- `open` with `O_CREATE|O_TRUNC`: the inode the descriptor writes to. -/
def create (d : Disk N) (name : N) : ℕ × Disk N :=
  match d.dir name with
  | some k => (k, d.setData k [])
  | none => (d.fresh, d.link name)

/-- `os.WriteFile`, in one step. -/
def writeFile (d : Disk N) (name : N) (bytes : List UInt8) : Disk N :=
  (d.create name).2.write (d.create name).1 0 bytes

/-- `os.ReadFile`; `none` is `ENOENT`. -/
def readFile (d : Disk N) (name : N) : Option (List UInt8) := (d.dir name).map d.data

/-- The directory after the inode `k` of `a` moved to `b`. -/
def move (d : Disk N) (a b : N) (k : ℕ) (at_ : d.dir a = some k) : Disk N where
  dir name := if name = b then some k else if name = a then none else d.dir name
  data := d.data
  fresh := d.fresh
  bounded := by
    intro name k' here
    split at here
    · cases here
      exact d.bounded a k at_
    · split at here
      · cases here
      · exact d.bounded name k' here
  unshared := by
    intro c c' k' here here'
    -- The inode of `a` is now that of `b` alone.
    have moved : ∀ name, name ≠ a → d.dir name ≠ some k :=
      fun name other same => other (d.unshared name a k same at_)
    split at here <;> split at here'
    · rename_i first second
      rw [first, second]
    · split at here'
      · cases here'
      · cases here
        exact absurd here' (moved c' ‹_›)
    · split at here
      · cases here
      · cases here'
        exact absurd here (moved c ‹_›)
    · split at here
      · cases here
      · split at here'
        · cases here'
        · exact d.unshared c c' k' here here'

/-- `rename(a, b)`; `none` is `ENOENT`. -/
def rename (d : Disk N) (a b : N) : Option (Disk N) :=
  match h : d.dir a with
  | none => none
  | some k => if a = b then some d else some (d.move a b k h)

/-! ## Specifications -/

theorem create_spec (d : Disk N) (name : N) :
    (d.create name).2.dir name = some (d.create name).1 ∧
      (d.create name).2.data (d.create name).1 = [] ∧
      ∀ other k, other ≠ name → d.dir other = some k →
        (d.create name).2.dir other = some k ∧ (d.create name).2.data k = d.data k := by
  unfold create
  split
  · rename_i k at_
    refine ⟨at_, Function.update_self .., fun other k' different here => ⟨here, ?_⟩⟩
    refine Function.update_of_ne ?_ _ _
    rintro rfl
    exact different (d.unshared other name k' here at_)
  · refine ⟨Function.update_self .., Function.update_self .., fun other k' different here => ?_⟩
    refine ⟨(Function.update_of_ne different _ _).trans here, Function.update_of_ne ?_ _ _⟩
    rintro rfl
    exact absurd (d.bounded other _ here) (Nat.lt_irrefl _)

theorem rename_spec {d d' : Disk N} {a b : N} (different : a ≠ b) (moved : d.rename a b = some d') :
    d'.dir b = d.dir a ∧ d'.data = d.data := by
  unfold rename at moved
  split at moved
  · cases moved
  · rename_i k at_
    rw [if_neg different] at moved
    cases moved
    exact ⟨(if_pos rfl).trans at_.symm, rfl⟩

theorem readFile_writeFile (d : Disk N) (name : N) (bytes : List UInt8) :
    (d.writeFile name bytes).readFile name = some bytes := by
  obtain ⟨at_, empty, -⟩ := d.create_spec name
  have here : (d.writeFile name bytes).dir name = some (d.create name).1 := at_
  have fresh : overwrite [] 0 bytes = bytes := by simp [overwrite]
  rw [readFile, here, Option.map_some, writeFile, write_data, empty, fresh]

/-- The file under the new name is the one that was under the old name. -/
theorem readFile_rename {d d' : Disk N} {a b : N} (different : a ≠ b)
    (moved : d.rename a b = some d') : d'.readFile b = d.readFile a := by
  obtain ⟨name, data⟩ := rename_spec different moved
  rw [readFile, readFile, name, data]

/-- A file that exists can be renamed. -/
theorem exists_rename {d : Disk N} {a : N} {bytes : List UInt8}
    (present : d.readFile a = some bytes) (b : N) : ∃ d', d.rename a b = some d' := by
  obtain ⟨k, at_, -⟩ := Option.map_eq_some_iff.1 present
  unfold rename
  split
  · rename_i absent
    rw [absent] at at_
    cases at_
  · split
    · exact ⟨_, rfl⟩
    · exact ⟨_, rfl⟩

end Disk

end SentinelOps.Theory.FileSystem
