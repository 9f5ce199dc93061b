/-
# Theory.GoPathJoin — a name joined to a directory

`Clean` settles a path: what is left of it is a row of `..`, which a path under the root does not
have, and then names.  Settling is final (`foldl_push_elements`), and it may be done before or
after the path is put behind a working directory (`elements_absolute_clean`).

So a name joined to a directory is a child of it: `Dir` gives back the directory, `Base` the name,
and from every working directory the path has the elements of the directory and the name behind
them.  Nothing else joined to a directory has (`elements_absolute_join_iff`).
-/
import SentinelOps.Theory.GoPath

namespace SentinelOps.Theory.GoPath

open GoText (GoString str trimRightByte not_mem_of_mem_splitOn
  intercalate_concat)

set_option autoImplicit false

/-- The path up to its last separator, with it. -/
def upToSlash (path : GoString) : GoString := (path.reverse.dropWhile (· != slash)).reverse

/-- `filepath.Dir`. -/
def dir (path : GoString) : GoString := clean (upToSlash path)

/-- `filepath.Base`. -/
def base (path : GoString) : GoString :=
  if path = [] then str "."
  else
    let name := ((trimRightByte slash path).reverse.takeWhile (· != slash)).reverse
    if name = [] then str "/" else name

/-- `filepath.Abs` in a working directory that is known. -/
def absolute (wd path : GoString) : GoString := if isAbs path then clean path else join wd path

example : dir (str "/a/b") = str "/a" ∧ dir (str "b") = str "." ∧ dir (str "/b") = str "/" ∧
    base (str "/a/b//") = str "b" ∧ base (str "//") = str "/" := by decide

theorem abs_ok (wd path : GoString) : abs (.ok wd) path = .ok (absolute wd path) := by
  unfold abs absolute
  split <;> rfl

/-! ## Settled paths -/

/-- A stack that cleaning leaves alone: names on a row of `..`. -/
def Settled (stack : List GoString) : Prop :=
  ∃ names n, stack = names ++ List.replicate n (str "..") ∧ ∀ e ∈ names, Name e

theorem Settled.noSlash {stack : List GoString} (settled : Settled stack) :
    ∀ e ∈ stack, slash ∉ e := by
  obtain ⟨names, n, rfl, all⟩ := settled
  intro e member
  rcases List.mem_append.1 member with name | up
  · exact (all e name).noSlash
  · rw [List.eq_of_mem_replicate up]
    decide

theorem Settled.nonempty {stack : List GoString} (settled : Settled stack) :
    ∀ e ∈ stack, e ≠ [] := by
  obtain ⟨names, n, rfl, all⟩ := settled
  intro e member
  rcases List.mem_append.1 member with name | up
  · exact (all e name).nonempty
  · rw [List.eq_of_mem_replicate up]
    decide

theorem settled_push {stack : List GoString} {element : GoString} (settled : Settled stack)
    (noSlash : slash ∉ element) : Settled (push false stack element) := by
  obtain ⟨names, n, rfl, all⟩ := settled
  unfold push
  split
  · exact ⟨names, n, rfl, all⟩
  · next counts =>
      split
      · next up =>
          subst up
          cases names with
          | nil =>
              refine ⟨[], n + 1, ?_, all⟩
              cases n with
              | zero => rfl
              | succ n => simp [List.replicate_succ]
          | cons top names =>
              have name := all top List.mem_cons_self
              simp only [List.cons_append, name.notUp, if_false]
              exact ⟨names, n, rfl, fun e member => all e (List.mem_cons_of_mem _ member)⟩
      · next notUp =>
          obtain ⟨nonempty, notDot⟩ := not_or.1 counts
          refine ⟨element :: names, n, rfl, fun e member => ?_⟩
          rcases List.mem_cons.1 member with rfl | below
          · exact ⟨nonempty, notDot, notUp, noSlash⟩
          · exact all e below

theorem settled_foldl {parts stack : List GoString} (settled : Settled stack)
    (noSlash : ∀ part ∈ parts, slash ∉ part) : Settled (parts.foldl (push false) stack) := by
  induction parts generalizing stack with
  | nil => exact settled
  | cons part parts ih =>
      exact ih (settled_push settled (noSlash part List.mem_cons_self)) fun part' member =>
        noSlash part' (List.mem_cons_of_mem _ member)

theorem settled_elements (path : GoString) : Settled (elements path).reverse := by
  cases absolute : isAbs path with
  | true =>
      refine ⟨(elements path).reverse, 0, (List.append_nil _).symm, fun e member => ?_⟩
      exact names_elements absolute e (List.mem_reverse.1 member)
  | false =>
      rw [elements, List.reverse_reverse, absolute]
      exact settled_foldl ⟨[], 0, rfl, by simp⟩ fun part => not_mem_of_mem_splitOn

theorem elements_noSlash (path : GoString) : ∀ e ∈ elements path, slash ∉ e :=
  fun e member => (settled_elements path).noSlash e (List.mem_reverse.2 member)

theorem foldl_push_ups (k n : Nat) :
    (List.replicate n (str "..")).foldl (push false) (List.replicate k (str "..")) =
      List.replicate (k + n) (str "..") := by
  induction n generalizing k with
  | zero => rfl
  | succ n ih =>
      have up : push false (List.replicate k (str "..")) (str "..") =
          List.replicate (k + 1) (str "..") := by
        cases k with
        | zero => rfl
        | succ k => simp [push, List.replicate_succ, str]
      rw [List.replicate_succ, List.foldl_cons, up, ih, Nat.add_assoc, Nat.add_comm 1 n]

/-- **What is settled stays.** -/
theorem foldl_push_elements (path : GoString) :
    (elements path).foldl (push (isAbs path)) [] = (elements path).reverse := by
  cases absolute : isAbs path with
  | true => rw [foldl_push_names (names_elements absolute), List.append_nil]
  | false =>
      obtain ⟨names, n, stack, all⟩ := settled_elements path
      have shape : elements path = List.replicate n (str "..") ++ names.reverse := by
        rw [← List.reverse_reverse (elements path), stack, List.reverse_append,
          List.reverse_replicate]
      have ups : (List.replicate n (str "..")).foldl (push false) [] =
          List.replicate n (str "..") := by
        simpa using foldl_push_ups 0 n
      rw [shape, List.foldl_append, ups,
        foldl_push_names fun e member => all e (List.mem_reverse.1 member), ← shape,
        List.reverse_reverse, stack]

theorem push_of_idle {rooted : Bool} {stack : List GoString} {e : GoString}
    (idle : e = [] ∨ e = str ".") : push rooted stack e = stack := by
  unfold push
  rw [if_pos idle]

/-- One element, settled before or after the stack is put on another. -/
theorem foldl_push_reverse {T : List GoString} (settled : Settled T) (S : List GoString)
    (e : GoString) :
    (push false T e).reverse.foldl (push true) S =
      push true (T.reverse.foldl (push true) S) e := by
  by_cases counts : e = [] ∨ e = str "."
  · rw [push_of_idle counts, push_of_idle counts]
  · by_cases up : e = str ".."
    · subst up
      obtain ⟨names, n, rfl, all⟩ := settled
      cases names with
      | nil =>
          have grown : push false ([] ++ List.replicate n (str "..")) (str "..") =
              str ".." :: List.replicate n (str "..") := by
            cases n with
            | zero => rfl
            | succ n => simp [push, List.replicate_succ, str]
          rw [grown, List.reverse_cons, List.foldl_append]
          rfl
      | cons top names =>
          have name := all top List.mem_cons_self
          have taken : push false (top :: names ++ List.replicate n (str "..")) (str "..") =
              names ++ List.replicate n (str "..") := by
            simp only [push, counts, if_false, if_true, List.cons_append, name.notUp]
          have back : ∀ stack, push true (top :: stack) (str "..") = stack := by
            intro stack
            simp only [push, counts, if_false, if_true, name.notUp]
          rw [taken, List.cons_append, List.reverse_cons, List.foldl_append, List.foldl_cons,
            push_name name, List.foldl_nil, back]
    · have kept : ∀ rooted stack, push rooted stack e = e :: stack := by
        intro rooted stack
        unfold push
        rw [if_neg counts, if_neg up]
      rw [kept, kept, List.reverse_cons, List.foldl_append, List.foldl_cons, kept, List.foldl_nil]

/-- A path that is put behind another may be settled before. -/
theorem foldl_push_settled {T parts : List GoString} (settled : Settled T) (S : List GoString)
    (noSlash : ∀ part ∈ parts, slash ∉ part) :
    (parts.foldl (push false) T).reverse.foldl (push true) S =
      parts.foldl (push true) (T.reverse.foldl (push true) S) := by
  induction parts generalizing T with
  | nil => rfl
  | cons part parts ih =>
      rw [List.foldl_cons, ih (settled_push settled (noSlash part List.mem_cons_self))
        fun part' member => noSlash part' (List.mem_cons_of_mem _ member),
        foldl_push_reverse settled, List.foldl_cons]

/-! ## The parent and the last element -/

theorem clean_congr {p q : GoString} (absolute : isAbs p = isAbs q)
    (same : elements p = elements q) : clean p = clean q := by
  rw [clean, clean, absolute, same]

/-- What stands before the last element of a path, of which these are the ones before. -/
def leading (absolute : Bool) (es : List GoString) : GoString :=
  (if absolute then [slash] else []) ++ es.flatMap (· ++ [slash])

/-- What stands before the last element is empty or ends with a separator. -/
theorem leading_ends (absolute : Bool) (es : List GoString) :
    leading absolute es = [] ∨ ∃ front, leading absolute es = front ++ [slash] := by
  induction es using List.reverseRecOn with
  | nil =>
      cases absolute with
      | true => exact .inr ⟨[], rfl⟩
      | false => exact .inl rfl
  | append_singleton es e _ =>
      refine .inr ⟨leading absolute es ++ e, ?_⟩
      simp [leading]

theorem isAbs_leading (path : GoString) :
    isAbs (leading (isAbs path) (elements path)) = isAbs path := by
  cases isAbs path with
  | true => rfl
  | false =>
      cases shape : elements path with
      | nil => rfl
      | cons e es =>
          have member : e ∈ elements path := by simp [shape]
          have nonempty := (settled_elements path).nonempty e (List.mem_reverse.2 member)
          have noSlash := elements_noSlash path e member
          cases e with
          | nil => exact absurd rfl nonempty
          | cons b e =>
              have other : b ≠ slash := fun same => noSlash (same ▸ List.mem_cons_self)
              simpa [isAbs, leading] using other

/-- Up to its last separator a path has all its elements but the last. -/
theorem elements_leading (path : GoString) :
    elements (leading (isAbs path) (elements path)) = elements path := by
  have noSlash : ∀ e ∈ elements path ++ [[]], slash ∉ e := by
    intro e member
    rcases List.mem_append.1 member with inside | last
    · exact elements_noSlash path e inside
    · rw [List.mem_singleton.1 last]
      exact List.not_mem_nil
  have split : ((elements path).flatMap (· ++ [slash])).splitOn slash = elements path ++ [[]] := by
    rw [← List.append_nil ((elements path).flatMap _), ← intercalate_concat]
    exact List.splitOn_intercalate slash noSlash (by simp)
  have folded : ((leading (isAbs path) (elements path)).splitOn slash).foldl
      (push (isAbs path)) [] = (elements path).reverse := by
    rw [← foldl_push_elements path]
    cases isAbs path with
    | true =>
        rw [leading, if_pos rfl, List.singleton_append, GoText.splitOn_cons_self, split,
          List.foldl_cons, List.foldl_append]
        rfl
    | false =>
        rw [leading, if_neg Bool.false_ne_true, List.nil_append, split, List.foldl_append]
        rfl
  rw [elements, isAbs_leading, folded, List.reverse_reverse]

section Join

variable {d u : GoString} (nonempty : d ≠ []) (noSlash : slash ∉ u)
include nonempty

theorem isAbs_append (rest : GoString) : isAbs (d ++ rest) = isAbs d := by
  cases d with
  | nil => exact absurd rfl nonempty
  | cons b d => rfl

include noSlash

theorem elements_append :
    elements (d ++ slash :: u) = (push (isAbs d) (elements d).reverse u).reverse := by
  rw [elements, isAbs_append nonempty, List.splitOn_append_cons_self,
    List.splitOn_eq_singleton noSlash, List.foldl_append, elements, List.reverse_reverse]
  rfl

omit noSlash

theorem elements_append_name (name : Name u) : elements (d ++ slash :: u) = elements d ++ [u] := by
  rw [elements_append nonempty name.noSlash, push_name name, List.reverse_cons,
    List.reverse_reverse]

theorem join_eq (u : GoString) : join d u = clean (d ++ slash :: u) := by
  rw [join, if_neg nonempty]

theorem join_name (name : Name u) : join d u = leading (isAbs d) (elements d) ++ u := by
  rw [join_eq nonempty, clean, elements_append_name nonempty name, isAbs_append nonempty,
    intercalate_concat, leading]
  cases isAbs d with
  | true => rfl
  | false =>
      have some_ : (elements d).flatMap (· ++ [slash]) ++ u ≠ [] := by
        simp [name.nonempty]
      rw [if_neg Bool.false_ne_true, if_neg some_, if_neg Bool.false_ne_true, List.nil_append]

end Join

theorem upToSlash_leading (absolute : Bool) (es : List GoString) {u : GoString}
    (noSlash : slash ∉ u) : upToSlash (leading absolute es ++ u) = leading absolute es := by
  have passed : ∀ b ∈ u.reverse, (b != slash) = true := fun b member =>
    bne_iff_ne.2 fun same => noSlash (same ▸ List.mem_reverse.1 member)
  rw [upToSlash, List.reverse_append, List.dropWhile_append_of_pos passed]
  rcases leading_ends absolute es with none_ | ⟨front, ends⟩
  · rw [none_]
    rfl
  · rw [ends, List.reverse_append]
    simp

theorem dir_leading (path : GoString) {u : GoString} (noSlash : slash ∉ u) :
    dir (leading (isAbs path) (elements path) ++ u) = clean path := by
  rw [dir, upToSlash_leading _ _ noSlash]
  exact clean_congr (isAbs_leading path) (elements_leading path)

theorem base_leading (absolute : Bool) (es : List GoString) {u : GoString} (nonempty : u ≠ [])
    (noSlash : slash ∉ u) : base (leading absolute es ++ u) = u := by
  have passed : ∀ b ∈ u.reverse, (b != slash) = true := fun b member =>
    bne_iff_ne.2 fun same => noSlash (same ▸ List.mem_reverse.1 member)
  have whole : trimRightByte slash (leading absolute es ++ u) = leading absolute es ++ u := by
    rcases List.eq_nil_or_concat u with empty | ⟨init, b, rfl⟩
    · exact absurd empty nonempty
    · have other : b ≠ slash := fun same => noSlash (by simp [same])
      simp [trimRightByte, other]
  have last : ((leading absolute es ++ u).reverse.takeWhile (· != slash)).reverse = u := by
    rw [List.reverse_append, List.takeWhile_append_of_pos passed]
    rcases leading_ends absolute es with none_ | ⟨front, ends⟩
    · rw [none_]
      simp
    · rw [ends, List.reverse_append]
      simp
  unfold base
  rw [if_neg (by simp [nonempty]), whole, last, if_neg nonempty]

/-! ## From a working directory -/

theorem elements_clean {path : GoString} (abs : isAbs path = true) :
    elements (clean path) = elements path := by
  rw [clean_of_isAbs abs, elements_rooted (names_elements abs)]

/-- A clean relative path is made of its elements, or it is `.`. -/
theorem clean_relative {path : GoString} (relative : isAbs path = false) :
    isAbs (clean path) = false ∧
      (clean path = str "." ∧ elements path = [] ∨
        (clean path).splitOn slash = elements path) := by
  have unrooted : clean path = if [slash].intercalate (elements path) = [] then str "."
      else [slash].intercalate (elements path) := by
    rw [clean, relative, if_neg Bool.false_ne_true]
  cases shape : elements path with
  | nil =>
      rw [shape] at unrooted
      rw [unrooted]
      exact ⟨by decide, .inl ⟨rfl, rfl⟩⟩
  | cons e es =>
      have member : e ∈ elements path := by simp [shape]
      have nonempty := (settled_elements path).nonempty e (List.mem_reverse.2 member)
      rw [shape, if_neg (intercalate_ne_nil nonempty)] at unrooted
      constructor
      · have noSlash := elements_noSlash path e member
        cases e with
        | nil => exact absurd rfl nonempty
        | cons b e =>
            have other : b ≠ slash := fun same => noSlash (same ▸ List.mem_cons_self)
            rw [unrooted, List.intercalate_cons_cons_left]
            simpa [isAbs] using other
      · refine .inr ?_
        rw [unrooted]
        exact List.splitOn_intercalate slash (shape ▸ elements_noSlash path) (by simp)

/-! ## Lengths -/

/-- The bytes of some elements with a separator for each. -/
def extent (es : List GoString) : Nat := (es.map (·.length + 1)).sum

theorem extent_cons (e : GoString) (es : List GoString) :
    extent (e :: es) = e.length + 1 + extent es := by
  rw [extent, List.map_cons, List.sum_cons, extent]

theorem length_intercalate {es : List GoString} (nonempty : es ≠ []) :
    ([slash].intercalate es).length + 1 = extent es := by
  induction es with
  | nil => exact absurd rfl nonempty
  | cons e es ih =>
      rw [extent_cons]
      cases es with
      | nil => rw [List.intercalate_singleton, extent, List.map_nil, List.sum_nil, Nat.add_zero]
      | cons f es =>
          have rest := ih (List.cons_ne_nil _ _)
          rw [List.intercalate_cons_cons, List.length_append, List.length_append,
            List.length_singleton]
          omega

theorem extent_push_le (rooted : Bool) (stack : List GoString) (e : GoString) :
    extent (push rooted stack e) ≤ extent stack + (e.length + 1) := by
  unfold push
  split
  · exact Nat.le_add_right _ _
  · split
    · cases stack with
      | nil =>
          cases rooted with
          | true => exact Nat.zero_le _
          | false => exact (extent_cons e []).trans_le (by omega)
      | cons top below =>
          dsimp only
          split
          · rw [extent_cons e]
            omega
          · rw [extent_cons]
            omega
    · rw [extent_cons]
      omega

theorem extent_foldl_push_le (rooted : Bool) (es stack : List GoString) :
    extent (es.foldl (push rooted) stack) ≤ extent stack + extent es := by
  induction es generalizing stack with
  | nil => exact Nat.le_add_right _ _
  | cons e es ih =>
      have rest := ih (push rooted stack e)
      have first := extent_push_le rooted stack e
      rw [List.foldl_cons, extent_cons]
      omega

/-- **Cleaning makes no absolute path longer.** -/
theorem length_clean_le {path : GoString} (absolute : isAbs path = true) :
    (clean path).length ≤ path.length := by
  obtain ⟨rest, rfl⟩ : ∃ rest, path = slash :: rest := by
    cases path with
    | nil => cases absolute
    | cons b rest => exact ⟨rest, by simpa [isAbs] using absolute⟩
  have bound : extent (elements (slash :: rest)) ≤ rest.length + 1 := by
    have parts := extent_foldl_push_le true (rest.splitOn slash) []
    rw [← length_intercalate (List.splitOn_ne_nil _ _), List.intercalate_splitOn] at parts
    have same : extent (elements (slash :: rest)) =
        extent ((rest.splitOn slash).foldl (push true) []) := by
      rw [elements, absolute, GoText.splitOn_cons_self, List.foldl_cons, extent, List.map_reverse,
        List.sum_reverse]
      rfl
    rw [same]
    exact parts.trans (by rw [extent, List.map_nil, List.sum_nil, Nat.zero_add])
  rw [clean_of_isAbs absolute, rooted, List.length_cons, List.length_cons]
  cases shape : elements (slash :: rest) with
  | nil => exact Nat.succ_le_succ (Nat.zero_le _)
  | cons e es =>
      rw [shape, ← length_intercalate (List.cons_ne_nil _ _)] at bound
      omega

section Absolute

variable {wd : GoString} (rooted : isAbs wd = true)
include rooted

theorem ne_nil_of_isAbs : wd ≠ [] := by
  rintro rfl
  cases rooted

theorem isAbs_absolute (path : GoString) : isAbs (absolute wd path) = true := by
  unfold absolute
  split
  · next abs => exact isAbs_clean abs
  · rw [join_eq (ne_nil_of_isAbs rooted)]
    refine isAbs_clean ?_
    rw [isAbs_append (ne_nil_of_isAbs rooted), rooted]

/-- The elements of a relative path are put on those of the working directory. -/
theorem elements_absolute {path : GoString} (relative : isAbs path = false) :
    elements (absolute wd path) =
      ((path.splitOn slash).foldl (push true) (elements wd).reverse).reverse := by
  have nonempty := ne_nil_of_isAbs rooted
  have abs : isAbs (wd ++ slash :: path) = true := by rw [isAbs_append nonempty, rooted]
  rw [absolute, relative, if_neg Bool.false_ne_true, join_eq nonempty, elements_clean abs, elements,
    abs, List.splitOn_append_cons_self, List.foldl_append, elements, rooted,
    List.reverse_reverse]

/-- **A path may be cleaned before it is put behind the working directory.** -/
theorem elements_absolute_clean (path : GoString) :
    elements (absolute wd (clean path)) = elements (absolute wd path) := by
  cases abs : isAbs path with
  | true =>
      rw [absolute, absolute, if_pos (isAbs_clean abs), if_pos abs, clean_clean abs]
  | false =>
      obtain ⟨relative, shape⟩ := clean_relative abs
      have parts : ((clean path).splitOn slash).foldl (push true) (elements wd).reverse =
          (elements path).foldl (push true) (elements wd).reverse := by
        rcases shape with ⟨dot, none_⟩ | split
        · rw [dot, none_]
          rfl
        · rw [split]
      have settled : (elements path).foldl (push true) (elements wd).reverse =
          (path.splitOn slash).foldl (push true) (elements wd).reverse := by
        have later := foldl_push_settled (T := []) ⟨[], 0, rfl, by simp⟩ (elements wd).reverse
          fun part (member : part ∈ path.splitOn slash) => not_mem_of_mem_splitOn member
        rwa [← abs] at later
      rw [elements_absolute rooted relative, elements_absolute rooted abs, parts, settled]

section Child

variable {d u : GoString} (nonempty : d ≠ []) (noSlash : slash ∉ u)
include nonempty noSlash

/-- What is joined to a directory goes on the elements of the directory. -/
theorem elements_absolute_join :
    elements (absolute wd (join d u)) =
      (push true (elements (absolute wd d)).reverse u).reverse := by
  rw [join_eq nonempty, elements_absolute_clean rooted]
  cases abs : isAbs d with
  | true =>
      have abs' : isAbs (d ++ slash :: u) = true := by rw [isAbs_append nonempty, abs]
      rw [absolute, if_pos abs', elements_clean abs', elements_append nonempty noSlash, absolute,
        if_pos abs, elements_clean abs, abs]
  | false =>
      have relative : isAbs (d ++ slash :: u) = false := by rw [isAbs_append nonempty, abs]
      rw [elements_absolute rooted relative, elements_absolute rooted abs,
        List.splitOn_append_cons_self, List.splitOn_eq_singleton noSlash, List.foldl_append,
        List.reverse_reverse]
      rfl

/-- **A name joined to a directory is a child of it, and nothing else is**: from every working
directory. -/
theorem elements_absolute_join_iff :
    elements (absolute wd (join d u)) = elements (absolute wd d) ++ [u] ↔ Name u := by
  constructor
  · intro child
    refine names_elements (isAbs_absolute rooted (join d u)) u ?_
    rw [child]
    simp
  · intro name
    rw [elements_absolute_join rooted nonempty noSlash, push_name name, List.reverse_cons,
      List.reverse_reverse]

end Child

end Absolute

theorem dots_of_not_name {u : GoString} (nonempty : u ≠ []) (noSlash : slash ∉ u)
    (unnamed : ¬ Name u) : u = str "." ∨ u = str ".." := by
  by_contra neither
  obtain ⟨notDot, notUp⟩ := not_or.1 neither
  exact unnamed ⟨nonempty, notDot, notUp, noSlash⟩

/-- Nothing but the name itself leads to the path of a name. -/
theorem eq_of_join_eq {d u v : GoString} (nonempty : d ≠ []) (noSlash : slash ∉ u) (name : Name v)
    (same : join d u = join d v) : u = v := by
  have rooted : isAbs (str "/") = true := rfl
  have pushed := congrArg (fun path => (elements (absolute (str "/") path)).reverse) same
  simp only [elements_absolute_join rooted nonempty noSlash,
    elements_absolute_join rooted nonempty name.noSlash, List.reverse_reverse,
    push_name name] at pushed
  generalize (elements (absolute (str "/") d)).reverse = stack at pushed
  have longer : ∀ below : List GoString, below.length ≤ stack.length → below ≠ v :: stack := by
    intro below short equal
    rw [equal, List.length_cons] at short
    omega
  unfold push at pushed
  split at pushed
  · exact absurd pushed (longer stack le_rfl)
  · split at pushed
    · next up =>
        cases stack with
        | nil => cases pushed
        | cons top below =>
            dsimp only at pushed
            split at pushed
            · exact (List.cons.inj pushed).1
            · exact absurd pushed (longer below (Nat.le_succ _))
    · exact (List.cons.inj pushed).1

end SentinelOps.Theory.GoPath
