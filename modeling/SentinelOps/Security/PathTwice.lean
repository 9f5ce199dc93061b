/-
# Security.PathTwice — a path that is normalised again

`ValidateFilesystemPath` trims first and cleans afterwards, so what cleaning leaves can end in white
space: `/srv/a /.` becomes `/srv/a `, and that becomes `/srv/a` (`blank_end_exposed`).  Layers that
each validate the path they are given then use two different files.

A normalised path is a fixed point exactly when the last name of the given path that no `..` behind
it takes back does not end in white space (`fixed_iff`).  For a relative path, the names of the
working directory come first; should one of them have a NUL, the second call refuses what the first
one returned.
-/
import SentinelOps.Security.PathGuard
import SentinelOps.Theory.GoConcat
import SentinelOps.Theory.GoPathJoin

namespace SentinelOps.Security

open Theory GoText GoPath

set_option autoImplicit false

/-! ## Names that stay -/

/-- The last part of a path that stays, behind which `up` more stay.  The parts are given from the
last one; a `..` takes back a part before it. -/
def lastName : Nat → List GoString → Option GoString
  | _, [] => none
  | up, part :: before =>
      if part = [] ∨ part = str "." then lastName up before
      else if part = str ".." then lastName (up + 1) before
      else
        match up with
        | 0 => some part
        | up + 1 => lastName up before

/-- The parts of a path, behind those of the working directory if it is relative. -/
def parts (wd path : GoString) : List GoString :=
  if isAbs path then path.splitOn slash else wd.splitOn slash ++ path.splitOn slash

/-- The last rune is white space. -/
def EndsBlank (s : GoString) : Prop := ∃ p ∈ (pieces s).getLast?, isSpace p.1 = true

/-- The last name that stays does not end in white space, and no name that stays has a NUL. -/
structure Solid (wd path : GoString) : Prop where
  last : ∀ name, lastName 0 (parts wd (trimSpace path)).reverse = some name → ¬ EndsBlank name
  noNul : ∀ up name, lastName up (parts wd (trimSpace path)).reverse = some name → 0 ∉ name

/-- Under the root, `..` takes the top off the stack. -/
theorem push_up {stack : List GoString} (names : ∀ e ∈ stack, Name e) :
    push true stack (str "..") = stack.tail := by
  have counts : ¬ (str ".." = [] ∨ str ".." = str ".") := by decide
  unfold push
  rw [if_neg counts, if_pos rfl]
  cases stack with
  | nil => rfl
  | cons top below => exact if_neg (names top List.mem_cons_self).notUp

/-- Reading the parts from the last one finds the names of the stack from its top. -/
theorem lastName_reverse {parts : List GoString} (noSlash : ∀ part ∈ parts, slash ∉ part)
    (up : Nat) : lastName up parts.reverse = (parts.foldl (push true) [])[up]? := by
  induction parts using List.reverseRecOn generalizing up with
  | nil => rfl
  | append_singleton parts part ih =>
      have before : ∀ part ∈ parts, slash ∉ part := fun part member =>
        noSlash part (List.mem_append_left _ member)
      have names : ∀ e ∈ parts.foldl (push true) [], Name e :=
        names_foldl (fun e none_ => absurd none_ List.not_mem_nil) before
      rw [List.reverse_concat, lastName.eq_def, List.foldl_concat]
      dsimp only
      by_cases counts : part = [] ∨ part = str "."
      · rw [if_pos counts, ih before, push.eq_def, if_pos counts]
      · rw [if_neg counts]
        by_cases takes : part = str ".."
        · rw [if_pos takes, ih before, takes, push_up names, List.getElem?_tail]
        · rw [if_neg takes, push.eq_def, if_neg counts, if_neg takes]
          cases up with
          | zero => rfl
          | succ up => exact ih before up

theorem slash_not_mem_parts (wd path : GoString) : ∀ part ∈ parts wd path, slash ∉ part := by
  unfold parts
  split
  · exact fun part => not_mem_of_mem_splitOn
  · intro part member
    rcases List.mem_append.1 member with first | second
    · exact not_mem_of_mem_splitOn first
    · exact not_mem_of_mem_splitOn second

section Twice

variable {wd path field q : GoString} (absolute : isAbs wd = true)

include absolute

/-- The elements of a path from a working directory are its names that stay. -/
theorem lastName_parts (path : GoString) (up : Nat) :
    lastName up (parts wd path).reverse = (elements (GoPath.absolute wd path)).reverse[up]? := by
  rw [lastName_reverse (slash_not_mem_parts wd path)]
  cases rooted : isAbs path with
  | true =>
      rw [parts, if_pos rooted, GoPath.absolute, if_pos rooted, elements_clean rooted, elements,
        rooted, List.reverse_reverse]
  | false =>
      rw [parts, rooted, if_neg Bool.false_ne_true, elements_absolute absolute rooted,
        List.reverse_reverse, List.foldl_append, elements, absolute, List.reverse_reverse]

/-- What is returned is the absolute path with the names that stay. -/
theorem eq_rooted_of_ok (ok : validateFilesystemPath (.ok wd) path field = .ok q) :
    q = rooted (elements (GoPath.absolute wd (trimSpace path))) := by
  have result : q = GoPath.absolute wd (clean (trimSpace path)) := by
    unfold validateFilesystemPath at ok
    dsimp only at ok
    rw [abs_ok] at ok
    dsimp only at ok
    split_ifs at ok
    cases ok
    rfl
  obtain ⟨above, cleaned⟩ := validateFilesystemPath_ok absolute ok
  rw [← cleaned, clean_of_isAbs above, result, elements_absolute_clean absolute]

end Twice

/-! ## White space at the end -/

/-- A path ends in white space when its last element does. -/
theorem trimSpace_rooted_iff {es : List GoString} (names : ∀ e ∈ es, Name e) :
    trimSpace (rooted es) = rooted es ↔ ∀ e, es.reverse[0]? = some e → ¬ EndsBlank e := by
  have first : ∀ p ∈ (pieces (rooted es)).head?, isSpace p.1 = false := by
    rw [rooted, pieces_cons_ascii (by decide)]
    intro p head
    cases head
    decide
  rw [trimSpace_eq_self_iff]
  have last_iff : Trim.Clean (fun p => isSpace p.1) (pieces (rooted es)) ↔
      ∀ p ∈ (pieces (rooted es)).getLast?, isSpace p.1 = false :=
    ⟨fun clean => clean.last, fun last => ⟨first, last⟩⟩
  rw [last_iff]
  rcases List.eq_nil_or_concat es with rfl | ⟨front, e, rfl⟩
  · refine iff_of_true ?_ (fun e none_ => by cases none_)
    decide
  · have nonempty : pieces e ≠ [] := fun none_ =>
      (names e (by simp)).nonempty ((pieces_eq_nil_iff e).1 none_)
    obtain ⟨x, ends⟩ : ∃ x, leading true front = x ++ [slash] := by
      rcases leading_ends true front with none_ | ends
      · exact absurd none_ (by simp [leading])
      · exact ends
    have shape : rooted (front ++ [e]) = x ++ slash :: e := by
      have joined : rooted (front ++ [e]) = leading true front ++ e := by
        rw [rooted, intercalate_concat]
        rfl
      rw [joined, ends, List.append_assoc, List.singleton_append]
    have last : (pieces (rooted (front ++ [e]))).getLast? = (pieces e).getLast? := by
      rw [shape, GoText.pieces_append x (starts_cons (by decide)), pieces_cons_ascii (by decide),
        List.getLast?_append, List.getLast?_cons, List.getLast?_eq_some_getLast nonempty]
      rfl
    rw [List.concat_eq_append, last]
    simp [EndsBlank]

theorem mem_rooted_iff {b : UInt8} (other : b ≠ slash) (es : List GoString) :
    b ∈ rooted es ↔ ∃ e ∈ es, b ∈ e := by
  rw [rooted, List.mem_cons, or_iff_right other]
  induction es with
  | nil => simp
  | cons e es ih =>
      cases es with
      | nil => simp
      | cons f es =>
          rw [List.intercalate_cons_cons]
          simp [other, ih]

/-! ## The second call -/

/-- The whole check on an absolute path. -/
theorem validate_isAbs_iff {wd q field r : GoString} (rooted : isAbs q = true) :
    validateFilesystemPath (.ok wd) q field = .ok r ↔
      0 ∉ clean (trimSpace q) ∧ clean (trimSpace q) = r := by
  have trimmed := isAbs_trimSpace rooted
  have above := isAbs_clean trimmed
  have present : ¬ (clean (trimSpace q) = str "." ∨ clean (trimSpace q) = []) := by
    rintro (dot | empty)
    · rw [dot] at above
      exact absurd above (by decide)
    · rw [empty] at above
      exact absurd above (by decide)
  unfold validateFilesystemPath
  dsimp only
  rw [if_neg present, GoPath.abs, if_pos above, clean_clean trimmed]
  by_cases nul : 0 ∈ clean (trimSpace q)
  · rw [if_pos nul]
    exact iff_of_false (fun refused => by cases refused) fun both => both.1 nul
  · rw [if_neg nul, and_iff_right nul]
    exact iff_of_eq (Except.ok.injEq _ _)

/-- Trimming makes a clean path shorter, and cleaning makes no path longer. -/
theorem clean_trimSpace_iff {q : GoString} (rooted : isAbs q = true) (cleaned : clean q = q) :
    clean (trimSpace q) = q ↔ trimSpace q = q := by
  constructor
  · intro same
    have short := length_clean_le (isAbs_trimSpace rooted)
    rw [same] at short
    exact (trimSpace_sublist q).eq_of_length_le short
  · intro same
    rw [same, cleaned]

/-- **When a normalised path is a fixed point.**  The path that is returned is returned again
exactly when the last name that stays of what was given does not end in white space and no name
that stays has a NUL. -/
theorem fixed_iff (wd : GoString) (absolute : isAbs wd = true) (path field field' q : GoString)
    (ok : validateFilesystemPath (.ok wd) path field = .ok q) :
    validateFilesystemPath (.ok wd) q field' = .ok q ↔ Solid wd path := by
  obtain ⟨above, cleaned⟩ := validateFilesystemPath_ok absolute ok
  have shape := eq_rooted_of_ok absolute ok
  have names := names_elements (isAbs_absolute absolute (trimSpace path))
  have stay := lastName_parts absolute (trimSpace path)
  generalize elements (GoPath.absolute wd (trimSpace path)) = es at shape names stay
  have blank : clean (trimSpace q) = q ↔ ∀ e, es.reverse[0]? = some e → ¬ EndsBlank e := by
    rw [clean_trimSpace_iff above cleaned, shape, trimSpace_rooted_iff names]
  have nul : 0 ∉ q ↔ ∀ (up : Nat) e, es.reverse[up]? = some e → 0 ∉ e := by
    rw [shape, mem_rooted_iff (by decide), not_exists]
    constructor
    · intro clear up e at_ member
      exact clear e ⟨List.mem_reverse.1 (List.mem_of_getElem? at_), member⟩
    · rintro clear e ⟨inside, member⟩
      obtain ⟨up, at_⟩ := List.mem_iff_getElem?.1 (List.mem_reverse.2 inside)
      exact clear up e at_ member
  rw [validate_isAbs_iff above]
  constructor
  · rintro ⟨clear, same⟩
    rw [same] at clear
    exact ⟨fun name last => blank.1 same name (stay 0 ▸ last),
      fun up name at_ => nul.1 clear up name (stay up ▸ at_)⟩
  · intro solid
    have same := blank.2 fun e at_ => solid.last e ((stay 0).trans at_)
    rw [same]
    exact ⟨nul.2 fun up e at_ => solid.noNul up e ((stay up).trans at_), rfl⟩

/-- Blanks around the path, and at the end of a name that `..` takes back. -/
theorem fixed_spaced :
    validateFilesystemPath (.ok (str "/srv")) (str " data/x /../y ") (str "ruta") =
        .ok (str "/srv/data/y") ∧
      validateFilesystemPath (.ok (str "/srv")) (str "/srv/data/y") (str "ruta") =
        .ok (str "/srv/data/y") := by
  have ok : validateFilesystemPath (.ok (str "/srv")) (str " data/x /../y ") (str "ruta") =
      .ok (str "/srv/data/y") := by decide
  refine ⟨ok, (fixed_iff _ (by decide) _ _ _ _ ok).2 ⟨fun name last => ?_, fun up name at_ => ?_⟩⟩
  · have found : lastName 0 (parts (str "/srv") (trimSpace (str " data/x /../y "))).reverse =
        some (str "y") := by decide
    cases found.symm.trans last
    rintro ⟨p, final, space⟩
    cases final
    exact absurd space (by decide)
  · rw [lastName_parts (by decide)] at at_
    have clear : ∀ e ∈ elements (GoPath.absolute (str "/srv") (trimSpace (str " data/x /../y "))),
        0 ∉ e := by decide
    exact clear name (List.mem_reverse.1 (List.mem_of_getElem? at_))

/-- The last part is `.`, and before it stands a name that ends in a blank: the second call trims
what the first one returned. -/
theorem blank_end_exposed :
    validateFilesystemPath (.ok (str "/")) (str "/srv/a /.") (str "ruta") = .ok (str "/srv/a ") ∧
      validateFilesystemPath (.ok (str "/")) (str "/srv/a ") (str "ruta") = .ok (str "/srv/a") := by
  decide

end SentinelOps.Security
