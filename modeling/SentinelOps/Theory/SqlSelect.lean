/-
# Theory.SqlSelect — what a `SELECT` answers

The meaning of a statement of `Theory.SqlText` on one table with arguments for its placeholders.
A comparison with `NULL` is unknown, and `WHERE` keeps the rows for which every condition is true.
`ORDER BY` leaves open how rows of one key follow one another, so an answer is a relation: any
order of the kept rows that is sorted, cut by the offset and then by the limit, and of each row the
columns that are asked for.

A statement that names another table or an unknown column, has a placeholder without an argument,
compares values of different types, or asks for a negative limit has no answer.  Neither has one
whose result depends on a collation.

`answers_iff` is the rule for the statements that list the newest rows first.
-/
import SentinelOps.Theory.SqlText

namespace SentinelOps.Theory.Sql

open GoText

set_option autoImplicit false

/-- The values of columns and arguments; a `timestamp` is its instant. -/
inductive Value (J : Type) where
  | null
  | text (s : GoString)
  | timestamp (t : Int)
  | bigint (n : Int)
  | jsonb (j : J)
deriving DecidableEq

variable {J R : Type}

/-! ## Conditions -/

def Operator.holds : Operator → Int → Int → Bool
  | .eq, a, b => a = b
  | .lt, a, b => a < b
  | .le, a, b => a ≤ b
  | .gt, a, b => b < a
  | .ge, a, b => b ≤ a

namespace Value

/-- A comparison, which may be refused, and whose result may be unknown. -/
def compare (op : Operator) : Value J → Value J → Option (Option Bool)
  | .null, _ => some none
  | _, .null => some none
  | .text a, .text b => if op = .eq then some (some (a == b)) else none
  | .timestamp a, .timestamp b => some (some (op.holds a b))
  | .bigint a, .bigint b => some (some (op.holds a b))
  | _, _ => none

/-- The order of `ORDER BY ... ASC`, in which `NULL` comes last. -/
def le : Value J → Value J → Bool
  | _, .null => true
  | .timestamp a, .timestamp b => a ≤ b
  | .bigint a, .bigint b => a ≤ b
  | _, _ => false

end Value

/-- The first argument is number 1. -/
def Operand.eval (args : List (Value J)) (cell : GoString → Option (Value J)) :
    Operand → Option (Value J)
  | .column name => cell name
  | .number n => some (.bigint n)
  | .placeholder 0 => none
  | .placeholder (n + 1) => args[n]?

def Condition.eval (args : List (Value J)) (cell : GoString → Option (Value J)) (c : Condition) :
    Option (Option Bool) := do
  (← c.left.eval args cell).compare c.op (← c.right.eval args cell)

/-- Whether `WHERE` keeps a row. -/
def Select.accepts (s : Select) (args : List (Value J)) (cell : GoString → Option (Value J)) :
    Option Bool :=
  ((s.condition :: s.conditions).mapM (Condition.eval args cell)).map fun verdicts =>
    verdicts.all (· == some true)

theorem accepts_concat {s : Select} {args : List (Value J)} {cell : GoString → Option (Value J)}
    {c : Condition} {kept : Bool} {verdict : Option Bool}
    (before : s.accepts args cell = some kept) (now : c.eval args cell = some verdict) :
    Select.accepts { s with conditions := s.conditions ++ [c] } args cell =
      some (kept && verdict == some true) := by
  unfold Select.accepts at before ⊢
  obtain ⟨verdicts, evaluated, rfl⟩ := Option.map_eq_some_iff.1 before
  rw [← List.cons_append, List.mapM_append, evaluated]
  simp [now]

/-! ## Answers -/

/-- A table with its rows; `cell` is `none` for a column that it does not have. -/
structure Relation (R J : Type) where
  name : GoString
  rows : List R
  cell : R → GoString → Option (Value J)

/-- One row may come before another in ascending order. -/
def Below (cell : R → GoString → Option (Value J)) (name : GoString) (first second : R) : Prop :=
  ∃ a b, cell first name = some a ∧ cell second name = some b ∧ a.le b = true

def Sorted (cell : R → GoString → Option (Value J)) :
    Option (GoString × Direction) → List R → Prop
  | none, _ => True
  | some (name, .asc), rows => rows.Pairwise fun first second => Below cell name first second
  | some (name, .desc), rows => rows.Pairwise fun first second => Below cell name second first

/-- The number of a `LIMIT` or an `OFFSET`; a `NULL` is as good as none. -/
def bound (args : List (Value J)) : Option Operand → Option (Option Nat)
  | none => some none
  | some a =>
      match a.eval args fun _ => none with
      | some .null => some none
      | some (.bigint n) => if 0 ≤ n then some (some n.toNat) else none
      | _ => none

def cut (limit offset : Option Nat) (rows : List R) : List R :=
  let rest := rows.drop (offset.getD 0)
  limit.elim rest rest.take

def Select.project (s : Select) (cell : GoString → Option (Value J)) : Option (List (Value J)) :=
  (s.column :: s.columns).mapM cell

/-- `answer` is a result of the statement. -/
def Select.Answers (s : Select) (t : Relation R J) (args : List (Value J))
    (answer : List (List (Value J))) : Prop :=
  s.table = t.name ∧ ∃ (kept : R → Bool) (order : List R) (limit offset : Option Nat),
    (∀ row ∈ t.rows, s.accepts args (t.cell row) = some (kept row)) ∧
    order.Perm (t.rows.filter kept) ∧ Sorted t.cell s.orderBy order ∧
    bound args s.limit = some limit ∧ bound args s.offset = some offset ∧
    (cut limit offset order).mapM (fun row => s.project (t.cell row)) = some answer

/-- `answer` is a result of the query with this text. -/
def Answers (t : Relation R J) (text : GoString) (args : List (Value J))
    (answer : List (List (Value J))) : Prop :=
  ∃ s, parse text = some s ∧ s.Answers t args answer

theorem mapM_eq_some_map {α β : Type} {f : α → Option β} {g : α → β} {l : List α}
    (known : ∀ a ∈ l, f a = some (g a)) : l.mapM f = some (l.map g) := by
  induction l with
  | nil => rfl
  | cons a l ih =>
      rw [List.mapM_cons, known a List.mem_cons_self,
        ih fun b member => known b (List.mem_cons_of_mem a member)]
      rfl

/-- **The newest first.**  A statement whose conditions, bounds and columns have known values, and
that sorts by a timestamp, descending. -/
theorem answers_iff {t : Relation R J} {text name : GoString} {s : Select} {args : List (Value J)}
    {kept : R → Bool} {key : R → Int} {values : R → List (Value J)} {limit offset : Option Nat}
    (read : parse text = some s) (table : s.table = t.name)
    (accepts : ∀ row, s.accepts args (t.cell row) = some (kept row))
    (sort : s.orderBy = some (name, .desc))
    (stamped : ∀ row, t.cell row name = some (.timestamp (key row)))
    (limited : bound args s.limit = some limit) (skipped : bound args s.offset = some offset)
    (projected : ∀ row, s.project (t.cell row) = some (values row))
    (answer : List (List (Value J))) :
    Answers t text args answer ↔
      ∃ order : List R, order.Perm (t.rows.filter kept) ∧
        (order.Pairwise fun first second => key second ≤ key first) ∧
        answer = (cut limit offset order).map values := by
  have sorted : ∀ order, Sorted t.cell s.orderBy order ↔
      order.Pairwise fun first second => key second ≤ key first := by
    intro order
    rw [sort]
    refine List.Pairwise.iff fun first second => ?_
    simp [Below, stamped, Value.le]
  have rows : ∀ order, (cut limit offset order).mapM (fun row => s.project (t.cell row)) =
      some ((cut limit offset order).map values) :=
    fun order => mapM_eq_some_map fun row _ => projected row
  constructor
  · rintro ⟨s', read', -, kept', order, limit', offset', accepts', perm, falls, limited', skipped',
      answered⟩
    cases read.symm.trans read'
    cases limited.symm.trans limited'
    cases skipped.symm.trans skipped'
    rw [rows] at answered
    refine ⟨order, ?_, (sorted order).1 falls, (Option.some.inj answered).symm⟩
    have same : ∀ row ∈ t.rows, kept' row = kept row := by
      intro row member
      exact Option.some.inj ((accepts' row member).symm.trans (accepts row))
    rwa [List.filter_congr same] at perm
  · rintro ⟨order, perm, falls, rfl⟩
    exact ⟨s, read, table, kept, order, limit, offset, fun row _ => accepts row, perm,
      (sorted order).2 falls, limited, skipped, rows order⟩

end SentinelOps.Theory.Sql
