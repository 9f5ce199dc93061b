/-
# Persistence.WriteSnapshot — concurrent `writeSnapshot` calls on one path

`writeSnapshot` writes the encoding of its snapshot to `path.tmp` and renames it to `path`.
The checks before that (an empty path, `ValidateFilesystemPath`, `MkdirAll`, the encoder)
only return an error and touch neither file.  What follows is `os.WriteFile`, that is create
or truncate and then one or more writes, and `os.Rename`; an error of either ends the call
(`fail`) and leaves `path.tmp` behind.  The encoder is a parameter.

The temporary name is the same for all calls.  A call can truncate the inode that another one
has just written and is about to rename, and then `path` holds an empty file although the
rename succeeded (`truncated_file_renamed`).  `path_intact` is the law of calls that do not
overlap.
-/
import SentinelOps.Theory.FileSystem
import SentinelOps.Theory.GoText
import SentinelOps.Theory.Schedule

namespace SentinelOps.Persistence

open Theory.FileSystem Theory.Schedule
open Theory.GoText (GoString str decimal)

set_option autoImplicit false

/-- `safePath + ".tmp"`. -/
def tmpPath (path : GoString) : GoString := path ++ str ".tmp"

theorem tmpPath_ne (path : GoString) : tmpPath path ≠ path := by
  intro same
  have lengths := congrArg List.length same
  rw [tmpPath, List.length_append] at lengths
  have suffix : (str ".tmp").length = 4 := by decide
  omega

variable {α : Type}

/-- A call between its create and its return: its descriptor is on `inode`, at `offset`. -/
inductive WritePhase (α : Type) where
  | idle
  | writing (snapshot : α) (inode offset : ℕ)

/-- `passed` are the snapshots of the calls so far; `returned` says that a call has returned
without error. -/
structure WriteState (α : Type) where
  disk : Disk GoString
  phase : ℕ → WritePhase α
  passed : List α
  returned : Bool

inductive WriteStep (α : Type) where
  | create (i : ℕ) (snapshot : α)
  | write (i n : ℕ)
  | rename (i : ℕ)
  | fail (i : ℕ)

namespace WriteState

def init (disk : Disk GoString) : WriteState α where
  disk := disk
  phase _ := .idle
  passed := []
  returned := false

def step (encode : α → List UInt8) (path : GoString) (s : WriteState α) :
    WriteStep α → Option (WriteState α)
  | .create i snapshot =>
      match s.phase i with
      | .idle =>
          let (inode, disk) := s.disk.create (tmpPath path)
          some { s with
            disk, phase := Function.update s.phase i (.writing snapshot inode 0)
            passed := snapshot :: s.passed }
      | .writing _ _ _ => none
  | .write i n =>
      match s.phase i with
      | .idle => none
      | .writing snapshot inode offset =>
          let chunk := ((encode snapshot).drop offset).take n
          some { s with
            disk := s.disk.write inode offset chunk
            phase := Function.update s.phase i (.writing snapshot inode (offset + chunk.length)) }
  | .rename i =>
      match s.phase i with
      | .idle => none
      | .writing snapshot _ offset =>
          if offset = (encode snapshot).length then
            match s.disk.rename (tmpPath path) path with
            | none => some { s with phase := Function.update s.phase i .idle }
            | some disk =>
                some { s with
                  disk, phase := Function.update s.phase i .idle, returned := true }
          else none
  | .fail i =>
      match s.phase i with
      | .idle => none
      | .writing _ _ _ => some { s with phase := Function.update s.phase i .idle }

variable {encode : α → List UInt8} {path : GoString} {s s' : WriteState α} {l : WriteStep α}

theorem step_cases (moved : s.step encode path l = some s') :
    (∃ i snapshot, l = .create i snapshot ∧ s.phase i = .idle ∧
        s' = { s with
          disk := (s.disk.create (tmpPath path)).2
          phase := Function.update s.phase i
            (.writing snapshot (s.disk.create (tmpPath path)).1 0)
          passed := snapshot :: s.passed }) ∨
      (∃ i n snapshot inode offset, l = .write i n ∧
        s.phase i = .writing snapshot inode offset ∧
        s' = { s with
          disk := s.disk.write inode offset (((encode snapshot).drop offset).take n)
          phase := Function.update s.phase i (.writing snapshot inode
            (offset + (((encode snapshot).drop offset).take n).length)) }) ∨
      (∃ i snapshot inode disk, l = .rename i ∧
        s.phase i = .writing snapshot inode (encode snapshot).length ∧
        s.disk.rename (tmpPath path) path = some disk ∧
        s' = { s with disk, phase := Function.update s.phase i .idle, returned := true }) ∨
      -- An error, the `ENOENT` of a rename among them, only ends the call.
      (∃ i, s' = { s with phase := Function.update s.phase i .idle }) := by
  cases l with
  | create i snapshot =>
      simp only [step] at moved
      split at moved
      · cases moved
        exact .inl ⟨i, snapshot, rfl, ‹_›, rfl⟩
      · cases moved
  | write i n =>
      simp only [step] at moved
      split at moved
      · cases moved
      · cases moved
        exact .inr (.inl ⟨i, n, _, _, _, rfl, ‹_›, rfl⟩)
  | rename i =>
      simp only [step] at moved
      split at moved
      · cases moved
      · rename_i snapshot inode offset at_
        split at moved
        · rename_i whole
          subst whole
          split at moved
          · cases moved
            exact .inr (.inr (.inr ⟨i, rfl⟩))
          · rename_i disk renamed
            cases moved
            exact .inr (.inr (.inl ⟨i, snapshot, inode, disk, rfl, at_, renamed, rfl⟩))
        · cases moved
  | fail i =>
      simp only [step] at moved
      split at moved
      · cases moved
      · cases moved
        exact .inr (.inr (.inr ⟨i, rfl⟩))

/-- The file at `path` is the whole encoding of a snapshot passed to one of the calls. -/
def Intact (encode : α → List UInt8) (path : GoString) (s : WriteState α) : Prop :=
  ∃ inode snapshot, s.disk.dir path = some inode ∧ snapshot ∈ s.passed ∧
    s.disk.data inode = encode snapshot

/-- A call creates the temporary file only when no other call is under way. -/
def Exclusive (s : WriteState α) : WriteStep α → Prop
  | .create _ _ => ∀ j, s.phase j = .idle
  | _ => True

/-- The one call under way has written to the file at `path.tmp` and to nothing else. -/
structure Sound (encode : α → List UInt8) (path : GoString) (s : WriteState α) : Prop where
  alone : ∀ i j, s.phase i ≠ .idle → s.phase j ≠ .idle → i = j
  writer : ∀ i snapshot inode offset, s.phase i = .writing snapshot inode offset →
    s.disk.dir (tmpPath path) = some inode ∧ s.disk.data inode = (encode snapshot).take offset ∧
      offset ≤ (encode snapshot).length ∧ snapshot ∈ s.passed
  intact : s.returned = true → Intact encode path s

theorem sound_init (encode : α → List UInt8) (path : GoString) (disk : Disk GoString) :
    Sound encode path (init disk) := ⟨fun _ _ => nofun, fun _ _ _ _ => nofun, nofun⟩

/-- Nothing but the writer is under way once it is over. -/
theorem Sound.idle_of_over (sound : Sound encode path s) {i : ℕ} (writing : s.phase i ≠ .idle)
    (j : ℕ) : Function.update s.phase i .idle j = .idle := by
  rw [Function.update_apply]
  split
  · rfl
  · rename_i other
    by_contra busy
    exact other (sound.alone j i busy writing)

theorem Sound.create (sound : Sound encode path s) (idle : ∀ j, s.phase j = .idle) (i : ℕ)
    (snapshot : α) :
    Sound encode path { s with
      disk := (s.disk.create (tmpPath path)).2
      phase := Function.update s.phase i (.writing snapshot (s.disk.create (tmpPath path)).1 0)
      passed := snapshot :: s.passed } := by
  obtain ⟨here, empty, others⟩ := s.disk.create_spec (tmpPath path)
  have onlyI : ∀ j, Function.update s.phase i
      (.writing snapshot (s.disk.create (tmpPath path)).1 0) j ≠ .idle → j = i := by
    intro j busy
    by_contra other
    rw [Function.update_of_ne other] at busy
    exact busy (idle j)
  refine ⟨fun j j' busy busy' => (onlyI j busy).trans (onlyI j' busy').symm, ?_, ?_⟩
  · intro j snapshot' inode' offset' writes
    dsimp only at writes
    obtain rfl := onlyI j (by rw [writes]; nofun)
    simp only [Function.update_self] at writes
    cases writes
    exact ⟨here, by simpa using empty, Nat.zero_le _, List.mem_cons_self⟩
  · intro returned
    obtain ⟨k, old, file, member, bytes⟩ := sound.intact returned
    obtain ⟨file', bytes'⟩ := others path k (tmpPath_ne path).symm file
    exact ⟨k, old, file', List.mem_cons_of_mem _ member, bytes'.trans bytes⟩

theorem Sound.write (sound : Sound encode path s) {i inode offset : ℕ} {snapshot : α}
    (at_ : s.phase i = .writing snapshot inode offset) (n : ℕ) :
    Sound encode path { s with
      disk := s.disk.write inode offset (((encode snapshot).drop offset).take n)
      phase := Function.update s.phase i (.writing snapshot inode
        (offset + (((encode snapshot).drop offset).take n).length)) } := by
  obtain ⟨here, written, short, member⟩ := sound.writer i snapshot inode offset at_
  obtain ⟨longer, short'⟩ := overwrite_piece n short
  have busyI : s.phase i ≠ .idle := by rw [at_]; nofun
  have same : ∀ j, Function.update s.phase i (.writing snapshot inode
      (offset + (((encode snapshot).drop offset).take n).length)) j ≠ .idle →
      s.phase j ≠ .idle := by
    intro j busy
    by_cases mine : j = i
    · rw [mine]
      exact busyI
    · rwa [Function.update_of_ne mine] at busy
  refine ⟨fun j j' busy busy' => sound.alone j j' (same j busy) (same j' busy'), ?_, ?_⟩
  · intro j snapshot' inode' offset' writes
    dsimp only at writes
    have mine : j = i := sound.alone j i (same j (by rw [writes]; nofun)) busyI
    subst mine
    simp only [Function.update_self] at writes
    cases writes
    refine ⟨here, ?_, short', member⟩
    rw [Disk.write_data, written, longer]
  · intro returned
    obtain ⟨k, old, file, member', bytes⟩ := sound.intact returned
    refine ⟨k, old, file, member', ?_⟩
    rw [s.disk.write_data_other (tmpPath_ne path) here file, bytes]

theorem Sound.rename (sound : Sound encode path s) {i inode : ℕ} {snapshot : α}
    (at_ : s.phase i = .writing snapshot inode (encode snapshot).length) {disk : Disk GoString}
    (renamed : s.disk.rename (tmpPath path) path = some disk) :
    Sound encode path { s with
      disk, phase := Function.update s.phase i .idle, returned := true } := by
  obtain ⟨here, written, -, member⟩ := sound.writer i snapshot inode _ at_
  obtain ⟨file, data⟩ := Disk.rename_spec (tmpPath_ne path) renamed
  have ended := sound.idle_of_over (i := i) (by rw [at_]; nofun)
  refine ⟨fun j _ busy => absurd (ended j) busy, fun j _ _ _ writes => ?_, fun _ => ?_⟩
  · dsimp only at writes
    rw [ended j] at writes
    cases writes
  · refine ⟨inode, snapshot, file.trans here, member, ?_⟩
    rw [data, written, List.take_length]

/-- A call that ends without a rename. -/
theorem Sound.fail (sound : Sound encode path s) (i : ℕ) :
    Sound encode path { s with phase := Function.update s.phase i .idle } := by
  refine ⟨fun j j' busy busy' => ?_, fun j snapshot inode offset writes => ?_, sound.intact⟩
  · refine sound.alone j j' (fun idle => busy ?_) (fun idle => busy' ?_)
    · simp only [Function.update_apply, idle, ite_self]
    · simp only [Function.update_apply, idle, ite_self]
  · simp only [Function.update_apply] at writes
    split at writes
    · cases writes
    · exact sound.writer j snapshot inode offset writes

theorem Sound.step (sound : Sound encode path s) (exclusive : Exclusive s l)
    (moved : s.step encode path l = some s') : Sound encode path s' := by
  rcases step_cases moved with ⟨i, snapshot, rfl, -, rfl⟩ |
    ⟨i, n, snapshot, inode, offset, rfl, at_, rfl⟩ |
    ⟨i, snapshot, inode, disk, rfl, at_, renamed, rfl⟩ | ⟨i, rfl⟩
  · exact sound.create exclusive i snapshot
  · exact sound.write at_ n
  · exact sound.rename at_ renamed
  · exact sound.fail i

end WriteState

/-- **The file at `path` is always a whole snapshot** once a call has returned without error,
in every run of calls that do not overlap. -/
theorem path_intact (encode : α → List UInt8) (path : GoString) (disk : Disk GoString)
    (steps : List (WriteStep α)) (s : WriteState α)
    (ran : exec (WriteState.step encode path) (WriteState.init disk) steps = some s)
    (exclusive : Along (WriteState.step encode path) WriteState.Exclusive (WriteState.init disk)
      steps)
    (returned : s.returned = true) : s.Intact encode path := by
  have sound : s.Sound encode path :=
    exec_invariant_along (fun _ _ _ sound held moved => sound.step held moved)
      (WriteState.sound_init encode path disk) exclusive ran
  exact sound.intact returned

/-- A stand-in for the JSON encoder, a path, and a disk without files. -/
def encodeNumber (n : ℕ) : List UInt8 := str "[" ++ decimal n ++ str "]\n"

def sessionsPath : GoString := str "/var/lib/sessions.json"

def emptyDisk : Disk GoString where
  dir _ := none
  data _ := []
  fresh := 0
  bounded _ _ := nofun
  unshared _ _ _ := nofun

/-- Two calls, one after the other; the first writes in two pieces. -/
def oneAfterOther : List (WriteStep ℕ) :=
  [.create 0 1, .write 0 2, .write 0 9, .rename 0, .create 1 2, .write 1 9]

theorem path_intact_oneAfterOther :
    ∃ s, exec (WriteState.step encodeNumber sessionsPath) (WriteState.init emptyDisk)
      oneAfterOther = some s ∧ s.Intact encodeNumber sessionsPath := by
  refine ⟨_, rfl, path_intact encodeNumber sessionsPath emptyDisk oneAfterOther _ rfl ?_ rfl⟩
  refine along_cons_of_eq rfl (fun _ => rfl) (along_cons_of_eq rfl trivial
    (along_cons_of_eq rfl trivial (along_cons_of_eq rfl trivial (along_cons_of_eq rfl ?_
      (along_cons_of_eq rfl trivial trivial)))))
  intro j
  by_cases first : j = 0
  · subst first
    rfl
  · simp [first, WriteState.init]

/-- The second call truncates what the first has written and is about to rename. -/
def truncatedFirst : List (WriteStep ℕ) :=
  [.create 0 1, .write 0 9, .create 1 2, .rename 0]

/-- The first call has returned without error, and the file at the path is empty. -/
theorem truncated_file_renamed :
    ∃ s, exec (WriteState.step encodeNumber sessionsPath) (WriteState.init emptyDisk)
        truncatedFirst = some s ∧ s.returned = true ∧ s.passed = [2, 1] ∧
      (s.disk.dir sessionsPath).map s.disk.data = some [] ∧
      ¬ s.Intact encodeNumber sessionsPath := by
  refine ⟨_, rfl, rfl, rfl, by decide, ?_⟩
  rintro ⟨inode, snapshot, file, -, bytes⟩
  have zero : some 0 = some inode := file
  cases zero
  have empty : [] = encodeNumber snapshot := bytes
  simp [encodeNumber, str] at empty

end SentinelOps.Persistence
