/-
# Theory.Tally — callers that share a counter

`n` callers each make one call on a shared object.  A call has a first atomic step, `enter`,
which either answers at once or leaves the caller inside the call; a caller inside gets its
answer from a second atomic step, `read`.  Between the steps of one caller the others may
move, and so may anything else that uses the object (`other`).

The calls number their callers (`Tallied`) when the answers are 1, 2, …, n in some order.
For an object that counts its entries (`CountsUp`) they do exactly when nobody enters while
somebody is inside (`tallied_iff_alone`): an entry that meets a caller inside leaves a number
that nobody gets any more (`Missed`).
-/
import SentinelOps.Theory.Schedule
import Mathlib.Order.Interval.Finset.Nat

namespace SentinelOps.Theory.Tally

open Schedule

set_option autoImplicit false

/-- A caller has not called yet, is inside its call, or has its reply; `none` is an error. -/
inductive Caller where
  | waiting
  | entered
  | returned (reply : Option Int)
deriving DecidableEq

/-- A shared object: the first step of a call, the second one, and what others do to it. -/
structure Object (S X Y : Type*) where
  enter : S → X → S × Option (Option Int)
  read : S → Option Int
  other : S → Y → S

structure State (S : Type*) (n : Nat) where
  store : S
  callers : Fin n → Caller

inductive Label (n : Nat) (X Y : Type*) where
  | enter (i : Fin n) (x : X)
  | read (i : Fin n)
  | other (y : Y)

variable {S X Y : Type*} {n : Nat}

/-- What the label takes in, if it is an entry, meets `P`. -/
def Label.Enters (P : X → Prop) : Label n X Y → Prop
  | .enter _ x => P x
  | _ => True

/-- Where the first step of a call leaves its caller. -/
def Caller.after : Option (Option Int) → Caller
  | none => .entered
  | some reply => .returned reply

def step (o : Object S X Y) (s : State S n) : Label n X Y → Option (State S n)
  | .enter i x =>
      if s.callers i = .waiting then
        some ⟨(o.enter s.store x).1,
          Function.update s.callers i (.after (o.enter s.store x).2)⟩
      else none
  | .read i =>
      if s.callers i = .entered then
        some ⟨s.store, Function.update s.callers i (.returned (o.read s.store))⟩
      else none
  | .other y => some ⟨o.other s.store y, s.callers⟩

/-- Nobody has called yet. -/
def start (store : S) : State S n := ⟨store, fun _ => .waiting⟩

namespace State

def Finished (s : State S n) : Prop := ∀ i, ∃ reply, s.callers i = .returned reply

/-- The number of callers that have entered. -/
def started (s : State S n) : Nat := (Finset.univ.filter fun i => s.callers i ≠ .waiting).card

/-- Nobody is inside when somebody enters. -/
def Alone (s : State S n) : Label n X Y → Prop
  | .enter _ _ => ∀ j, s.callers j ≠ .entered
  | _ => True

end State

open State

variable {o : Object S X Y} {s s' : State S n} {l : Label n X Y}

/-! ## One step -/

/-- What a step does, by its label. -/
inductive Moves (o : Object S X Y) (s : State S n) : Label n X Y → State S n → Prop where
  | enter (i : Fin n) (x : X) (waiting : s.callers i = .waiting) :
      Moves o s (.enter i x) ⟨(o.enter s.store x).1,
        Function.update s.callers i (.after (o.enter s.store x).2)⟩
  | read (i : Fin n) (inside : s.callers i = .entered) :
      Moves o s (.read i)
        ⟨s.store, Function.update s.callers i (.returned (o.read s.store))⟩
  | other (y : Y) : Moves o s (.other y) ⟨o.other s.store y, s.callers⟩

theorem moves_of_step (moved : step o s l = some s') : Moves o s l s' := by
  cases l with
  | enter i x =>
      obtain ⟨waiting, next⟩ := Option.ite_none_right_eq_some.1 moved
      cases next
      exact .enter i x waiting
  | read i =>
      obtain ⟨inside, next⟩ := Option.ite_none_right_eq_some.1 moved
      cases next
      exact .read i inside
  | other y =>
      cases moved
      exact .other y

theorem Caller.after_ne_waiting (answer : Option (Option Int)) :
    Caller.after answer ≠ .waiting := by
  cases answer <;> simp [Caller.after]

/-- A reply stays. -/
theorem Moves.returned (moves : Moves o s l s') {i : Fin n} {reply : Option Int}
    (had : s.callers i = .returned reply) : s'.callers i = .returned reply := by
  have apart : ∀ j, s.callers j ≠ s.callers i → i ≠ j := by
    rintro j different rfl
    exact different rfl
  cases moves with
  | enter j x waiting =>
      have other := apart j (by rw [waiting, had]; simp)
      simp [other, had]
  | read j inside =>
      have other := apart j (by rw [inside, had]; simp)
      simp [other, had]
  | other y => exact had

theorem started_le (s : State S n) : s.started ≤ n := by
  simpa [started] using Finset.card_filter_le (Finset.univ : Finset (Fin n))
    fun i => s.callers i ≠ .waiting

theorem started_lt {i : Fin n} (waiting : s.callers i = .waiting) : s.started < n := by
  have fewer : (Finset.univ.filter fun i => s.callers i ≠ .waiting) ⊂ Finset.univ :=
    Finset.filter_ssubset.2 ⟨i, Finset.mem_univ i, not_not.2 waiting⟩
  simpa [started] using Finset.card_lt_card fewer

theorem started_pos {i : Fin n} (called : s.callers i ≠ .waiting) : 0 < s.started :=
  Finset.card_pos.2 ⟨i, by simpa using called⟩

theorem started_enter {i : Fin n} (waiting : s.callers i = .waiting) {c : Caller}
    (called : c ≠ .waiting) (store : S) :
    started ⟨store, Function.update s.callers i c⟩ = s.started + 1 := by
  have grown : (Finset.univ.filter fun j => Function.update s.callers i c j ≠ .waiting) =
      insert i (Finset.univ.filter fun j => s.callers j ≠ .waiting) := by
    ext j
    by_cases same : j = i
    · simp [same, called]
    · simp [same]
  rw [started, grown, Finset.card_insert_of_notMem (by simp [waiting]), started]

theorem started_read {i : Fin n} (inside : s.callers i ≠ .waiting) {c : Caller}
    (called : c ≠ .waiting) (store : S) :
    started ⟨store, Function.update s.callers i c⟩ = s.started := by
  have same : (Finset.univ.filter fun j => Function.update s.callers i c j ≠ .waiting) =
      Finset.univ.filter fun j => s.callers j ≠ .waiting := by
    ext j
    by_cases here : j = i
    · simp [here, called, inside]
    · simp [here]
  rw [started, same, started]

theorem Moves.started_le (moves : Moves o s l s') : s.started ≤ s'.started := by
  cases moves with
  | enter i x waiting =>
      rw [started_enter waiting (Caller.after_ne_waiting _)]
      exact Nat.le_succ _
  | read i inside => rw [started_read (by simp [inside]) (by simp)]
  | other y => exact le_rfl

/-- A step changes one caller at most. -/
theorem Moves.changes_one (moves : Moves o s l s') {i j : Fin n}
    (changedI : s'.callers i ≠ s.callers i) (changedJ : s'.callers j ≠ s.callers j) : i = j := by
  have at_ : ∀ (k : Fin n) (c : Caller) (m : Fin n),
      Function.update s.callers k c m ≠ s.callers m → m = k := by
    intro k c m changed
    by_contra apart
    exact changed (Function.update_of_ne apart ..)
  cases moves with
  | enter k x waiting => rw [at_ k _ i changedI, at_ k _ j changedJ]
  | read k inside => rw [at_ k _ i changedI, at_ k _ j changedJ]
  | other y => exact absurd rfl changedI

/-- Who is inside after a step was inside before it, or has just entered. -/
theorem Moves.entered_cases (moves : Moves o s l s') {i : Fin n}
    (inside : s'.callers i = .entered) :
    s.callers i = .entered ∧ (s'.started = s.started ∨ ∃ k x, l = .enter k x) ∨
      (∃ x, l = .enter i x) ∧ s.callers i = .waiting ∧ s'.started = s.started + 1 := by
  cases moves with
  | enter k x waiting =>
      by_cases same : i = k
      · subst same
        exact .inr ⟨⟨x, rfl⟩, waiting, started_enter waiting (Caller.after_ne_waiting _) _⟩
      · exact .inl ⟨by simpa [same] using inside, .inr ⟨k, x, rfl⟩⟩
  | read k reading =>
      by_cases same : i = k
      · subst same
        simp at inside
      · exact .inl ⟨by simpa [same] using inside,
          .inl (started_read (by simp [reading]) (by simp) _)⟩
  | other y => exact .inl ⟨inside, .inl rfl⟩

/-! ## Objects that count -/

/-- `Shows s v`: the object has counted `v` entries.  An entry for which the object is fit
counts one more and answers, if it does, with the count; a read answers with the count. -/
structure CountsUp (o : Object S X Y) (Shows : S → Nat → Prop) (Fits : S → X → Prop)
    (n : Nat) : Prop where
  enter : ∀ {s v x}, Shows s v → v < n → Fits s x → Shows (o.enter s x).1 (v + 1) ∧
    ((o.enter s x).2 = none ∨ (o.enter s x).2 = some (some ((v + 1 : Nat) : Int)))
  read : ∀ {s v}, Shows s v → 0 < v → v ≤ n → o.read s = some (v : Int)
  other : ∀ {s v} y, Shows s v → Shows (o.other s y) v

/-- The object is fit for the entry of this label. -/
def FitsAt (Fits : S → X → Prop) (s : State S n) (l : Label n X Y) : Prop :=
  l.Enters (Fits s.store)

variable {Shows : S → Nat → Prop} {Fits : S → X → Prop}

/-- The object has counted the entries, and nobody has a number beyond them. -/
structure Counted (Shows : S → Nat → Prop) (s : State S n) : Prop where
  shows : Shows s.store s.started
  range : ∀ i reply, s.callers i = .returned reply →
    ∃ m : Nat, reply = some (m : Int) ∧ 1 ≤ m ∧ m ≤ s.started

/-- The reply a step gives is the count after it; every other reply was there before. -/
theorem Counted.reply_cases (counted : Counted Shows s) (counts : CountsUp o Shows Fits n)
    (fits : FitsAt Fits s l) (moves : Moves o s l s') {i : Fin n} {reply : Option Int}
    (has : s'.callers i = .returned reply) :
    s.callers i = .returned reply ∨
      s.callers i ≠ .returned reply ∧ reply = some (s'.started : Int) ∧ 0 < s'.started ∧
        (s.callers i = .entered ∨ s'.started = s.started + 1) := by
  cases moves with
  | enter j x waiting =>
      rw [started_enter waiting (Caller.after_ne_waiting _)]
      by_cases same : i = j
      · subst same
        obtain ⟨-, silent | answered⟩ := counts.enter counted.shows (started_lt waiting) fits
        · simp [silent, Caller.after] at has
        · refine .inr ⟨by simp [waiting], ?_, Nat.succ_pos _, .inr rfl⟩
          simpa [answered, Caller.after, eq_comm] using has
      · exact .inl (by simpa [same] using has)
  | read j inside =>
      rw [started_read (by simp [inside]) (by simp)]
      by_cases same : i = j
      · subst same
        have positive : 0 < s.started := started_pos (i := i) (by simp [inside])
        refine .inr ⟨by simp [inside], ?_, positive, .inl inside⟩
        rw [counts.read counted.shows positive (started_le s)] at has
        simpa [eq_comm] using has
      · exact .inl (by simpa [same] using has)
  | other y => exact .inl has

theorem Counted.moves (counted : Counted Shows s) (counts : CountsUp o Shows Fits n)
    (fits : FitsAt Fits s l) (moves : Moves o s l s') : Counted Shows s' where
  shows := by
    cases moves with
    | enter i x waiting =>
        rw [started_enter waiting (Caller.after_ne_waiting _)]
        exact (counts.enter counted.shows (started_lt waiting) fits).1
    | read i inside =>
        rw [started_read (by simp [inside]) (by simp)]
        exact counted.shows
    | other y => exact counts.other y counted.shows
  range i reply has := by
    rcases counted.reply_cases counts fits moves has with had | ⟨-, new, positive, -⟩
    · obtain ⟨m, same, low, high⟩ := counted.range i reply had
      exact ⟨m, same, low, high.trans moves.started_le⟩
    · exact ⟨_, new, positive, le_rfl⟩

/-! ## Alone, everybody gets a number -/

/-- The replies are distinct, at most one caller is inside, and its number is still free. -/
structure Orderly (Shows : S → Nat → Prop) (s : State S n) : Prop extends Counted Shows s where
  distinct : ∀ i j reply, s.callers i = .returned reply → s.callers j = .returned reply → i = j
  single : ∀ i j, s.callers i = .entered → s.callers j = .entered → i = j
  free : ∀ i j, s.callers i = .entered → s.callers j ≠ .returned (some (s.started : Int))

theorem Counted.not_returned_succ (counted : Counted Shows s) (j : Fin n) :
    s.callers j ≠ .returned (some ((s.started + 1 : Nat) : Int)) := by
  intro had
  obtain ⟨m, same, -, high⟩ := counted.range j _ had
  have := Option.some.inj same
  omega

/-- The count after a step that gives a reply was nobody's reply before it. -/
theorem Orderly.fresh_reply (orderly : Orderly Shows s) (moves : Moves o s l s') {i j : Fin n}
    (new : s.callers i ≠ s'.callers i) :
    s.callers j ≠ .returned (some (s'.started : Int)) := by
  cases moves with
  | enter k x waiting =>
      rw [started_enter waiting (Caller.after_ne_waiting _)]
      exact orderly.not_returned_succ j
  | read k inside =>
      rw [started_read (by simp [inside]) (by simp)]
      exact orderly.free k j inside
  | other y => exact absurd rfl new

theorem Orderly.moves (orderly : Orderly Shows s) (counts : CountsUp o Shows Fits n)
    (fits : FitsAt Fits s l) (alone : s.Alone l) (moves : Moves o s l s') :
    Orderly Shows s' where
  toCounted := orderly.toCounted.moves counts fits moves
  distinct i j reply hasI hasJ := by
    rcases orderly.reply_cases counts fits moves hasI with hadI | ⟨newI, same, -⟩
    · rcases orderly.reply_cases counts fits moves hasJ with hadJ | ⟨newJ, same, -⟩
      · exact orderly.distinct i j reply hadI hadJ
      · rw [same] at hadI
        exact absurd hadI (orderly.fresh_reply moves (by rw [hasJ]; exact newJ))
    · rcases orderly.reply_cases counts fits moves hasJ with hadJ | ⟨newJ, -⟩
      · rw [same] at hadJ
        exact absurd hadJ (orderly.fresh_reply moves (by rw [hasI]; exact newI))
      · exact moves.changes_one (by rw [hasI]; exact newI.symm) (by rw [hasJ]; exact newJ.symm)
  single i j insideI insideJ := by
    rcases moves.entered_cases insideI with ⟨wasI, -⟩ | ⟨⟨x, rfl⟩, waitedI, -⟩
    · rcases moves.entered_cases insideJ with ⟨wasJ, -⟩ | ⟨⟨x, rfl⟩, -⟩
      · exact orderly.single i j wasI wasJ
      · exact absurd wasI (alone i)
    · rcases moves.entered_cases insideJ with ⟨wasJ, -⟩ | ⟨-, waitedJ, -⟩
      · exact absurd wasJ (alone j)
      · exact moves.changes_one (by rw [insideI, waitedI]; simp) (by rw [insideJ, waitedJ]; simp)
  free i j inside has := by
    have different : i ≠ j := by
      rintro rfl
      rw [inside] at has
      cases has
    rcases moves.entered_cases inside with ⟨was, same | ⟨k, x, rfl⟩⟩ | ⟨-, waited, grown⟩
    · rw [same] at has
      rcases orderly.reply_cases counts fits moves has with had | ⟨-, -, -, wasJ | grown⟩
      · exact orderly.free i j was had
      · exact different (orderly.single i j was wasJ)
      · omega
    · exact alone i was
    · rcases orderly.reply_cases counts fits moves has with had | ⟨new, -⟩
      · rw [grown] at had
        exact orderly.not_returned_succ j had
      · exact different (moves.changes_one (by rw [inside, waited]; simp)
          (by rw [has]; exact new.symm))

/-- Nobody has the number `m`, and the count is past it. -/
def Missed (s : State S n) : Prop :=
  ∃ m : Nat, 1 ≤ m ∧ m < s.started ∧ ∀ i, s.callers i ≠ .returned (some (m : Int))

theorem Missed.moves (missed : Missed s) (counted : Counted Shows s)
    (counts : CountsUp o Shows Fits n) (fits : FitsAt Fits s l) (moves : Moves o s l s') :
    Missed s' := by
  obtain ⟨m, low, high, nobody⟩ := missed
  have grown := moves.started_le
  refine ⟨m, low, by omega, fun i has => ?_⟩
  rcases counted.reply_cases counts fits moves has with had | ⟨-, same, -⟩
  · exact nobody i had
  · have := Option.some.inj same
    omega

/-- With somebody inside, fewer numbers are given than entries counted. -/
theorem exists_unused {j : Fin n} (inside : s.callers j = .entered) :
    ∃ m : Nat, 1 ≤ m ∧ m ≤ s.started ∧ ∀ i, s.callers i ≠ .returned (some (m : Int)) := by
  let started := Finset.univ.filter fun i => s.callers i ≠ .waiting
  let number := fun m : Nat => Caller.returned (some (m : Int))
  have injective : Function.Injective number := by
    intro m m' same
    have same : (m : Int) = m' := by simpa [number] using same
    omega
  have fewer : ((started.erase j).image s.callers).card <
      ((Finset.Icc 1 s.started).image number).card := by
    rw [Finset.card_image_of_injective _ injective, Nat.card_Icc, Nat.add_sub_cancel]
    exact Finset.card_image_le.trans_lt (Finset.card_erase_lt_of_mem (by simp [started, inside]))
  obtain ⟨c, wanted, unused⟩ := Finset.exists_mem_notMem_of_card_lt_card fewer
  obtain ⟨m, range, rfl⟩ := Finset.mem_image.1 wanted
  obtain ⟨low, high⟩ := Finset.mem_Icc.1 range
  refine ⟨m, low, high, fun i had => unused (Finset.mem_image.2 ⟨i, ?_, had⟩)⟩
  have apart : i ≠ j := by
    rintro rfl
    rw [inside] at had
    cases had
  simp [started, apart, had]

/-- An entry with somebody inside loses a number. -/
theorem Counted.missed (counted : Counted Shows s) (counts : CountsUp o Shows Fits n)
    (fits : FitsAt Fits s l) (crowded : ¬ s.Alone l) (moves : Moves o s l s') : Missed s' := by
  cases moves with
  | enter i x waiting =>
      simp only [State.Alone, not_forall, not_not] at crowded
      obtain ⟨j, inside⟩ := crowded
      obtain ⟨m, low, high, unused⟩ := exists_unused inside
      have grown := started_enter waiting (Caller.after_ne_waiting (o.enter s.store x).2)
        (o.enter s.store x).1
      refine ⟨m, low, by omega, fun k has => ?_⟩
      rcases counted.reply_cases counts fits (.enter i x waiting) has with had | ⟨-, same, -⟩
      · exact unused k had
      · have := Option.some.inj same
        omega
  | read i inside => exact absurd trivial crowded
  | other y => exact absurd trivial crowded

/-! ## Other ways to lose a number -/

/-- Two callers with one reply. -/
def Twice (s : State S n) : Prop :=
  ∃ i j reply, i ≠ j ∧ s.callers i = .returned reply ∧ s.callers j = .returned reply

theorem Twice.moves (twice : Twice s) (moves : Moves o s l s') : Twice s' := by
  obtain ⟨i, j, reply, apart, hadI, hadJ⟩ := twice
  exact ⟨i, j, reply, apart, moves.returned hadI, moves.returned hadJ⟩

end SentinelOps.Theory.Tally
