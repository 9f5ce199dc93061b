/-
# Theory.GoPath — the lexical part of `path/filepath` on Unix

`Clean` reads a path as its elements between slashes, keeps a stack of those that count, and
writes them back: an empty element and `.` count for nothing, and `..` takes back the element
before it, unless there is none to take back.  A clean absolute path is the rendering of its
elements (`rooted`), which are names: not empty, without a slash, neither `.` nor `..`.

`Rel` walks two clean paths as long as their elements agree.  Between absolute paths the answer
leads upwards exactly when the base has an element that the target does not have in its place
(`leadsUp_rel_iff`), and a target whose name only starts with two dots does not.
-/
import SentinelOps.Theory.GoText
import Mathlib.Data.List.TakeWhile

namespace SentinelOps.Theory.GoPath

open GoText (GoString str splitOn_cons_self not_mem_of_mem_splitOn)

set_option autoImplicit false

/-- The separator. -/
def slash : UInt8 := 0x2F

def isAbs (path : GoString) : Bool := path.head? = some slash

/-- One element onto the stack, which has the last element on top. -/
def push (rooted : Bool) (stack : List GoString) (element : GoString) : List GoString :=
  if element = [] ∨ element = str "." then stack
  else if element = str ".." then
    match stack with
    | [] => if rooted then [] else [element]
    | top :: below => if top = str ".." then element :: stack else below
  else element :: stack

/-- The elements of the cleaned path, in order. -/
def elements (path : GoString) : List GoString :=
  ((path.splitOn slash).foldl (push (isAbs path)) []).reverse

/-- `filepath.Clean`. -/
def clean (path : GoString) : GoString :=
  let joined := [slash].intercalate (elements path)
  if isAbs path then slash :: joined
  else if joined = [] then str "."
  else joined

/-- `filepath.Join` of two elements; empty ones are left out. -/
def join (first second : GoString) : GoString :=
  if first = [] then (if second = [] then [] else clean second)
  else clean (first ++ slash :: second)

/-- `filepath.Abs`, given what `os.Getwd` answers. -/
def abs (getwd : Except GoString GoString) (path : GoString) : Except GoString GoString :=
  if isAbs path then .ok (clean path)
  else getwd.map fun wd => join wd path

example : clean (str "/a//./b/../c/") = str "/a/c" ∧ clean (str "../../x") = str "../../x" ∧
    clean (str "/..") = str "/" ∧ clean (str "a/..") = str "." := by decide

/-! ## Names -/

/-- An element that `Clean` keeps below the root. -/
structure Name (element : GoString) : Prop where
  nonempty : element ≠ []
  notDot : element ≠ str "."
  notUp : element ≠ str ".."
  noSlash : slash ∉ element

theorem push_name {rooted : Bool} {stack : List GoString} {element : GoString}
    (name : Name element) : push rooted stack element = element :: stack := by
  unfold push
  rw [if_neg (not_or.2 ⟨name.nonempty, name.notDot⟩), if_neg name.notUp]

/-- Under the root the stack holds names only. -/
theorem names_push {stack : List GoString} {element : GoString} (names : ∀ e ∈ stack, Name e)
    (noSlash : slash ∉ element) : ∀ e ∈ push true stack element, Name e := by
  unfold push
  split
  · exact names
  · next counts =>
      split
      · cases stack with
        | nil => exact names
        | cons top below =>
            have notUp := (names top List.mem_cons_self).notUp
            simp only [notUp, if_false]
            exact fun e member => names e (List.mem_cons_of_mem _ member)
      · next notUp =>
          obtain ⟨nonempty, notDot⟩ := not_or.1 counts
          intro e member
          rcases List.mem_cons.1 member with rfl | below
          · exact ⟨nonempty, notDot, notUp, noSlash⟩
          · exact names e below

theorem names_foldl {parts stack : List GoString} (names : ∀ e ∈ stack, Name e)
    (noSlash : ∀ part ∈ parts, slash ∉ part) : ∀ e ∈ parts.foldl (push true) stack, Name e := by
  induction parts generalizing stack with
  | nil => exact names
  | cons part parts ih =>
      exact ih (names_push names (noSlash part List.mem_cons_self)) fun part' member =>
        noSlash part' (List.mem_cons_of_mem _ member)

/-- The elements of an absolute path are names. -/
theorem names_elements {path : GoString} (absolute : isAbs path = true) :
    ∀ e ∈ elements path, Name e := by
  rw [elements, absolute]
  intro e member
  rw [List.mem_reverse] at member
  exact names_foldl (fun e none_ => by cases none_) (fun part => not_mem_of_mem_splitOn) e member

/-! ## Clean absolute paths -/

/-- The absolute path with these elements. -/
def rooted (es : List GoString) : GoString := slash :: [slash].intercalate es

@[simp] theorem isAbs_rooted (es : List GoString) : isAbs (rooted es) = true := rfl

theorem clean_of_isAbs {path : GoString} (absolute : isAbs path = true) :
    clean path = rooted (elements path) := by
  rw [clean, if_pos absolute]
  rfl

theorem foldl_push_names {rooted : Bool} {parts stack : List GoString}
    (names : ∀ e ∈ parts, Name e) :
    parts.foldl (push rooted) stack = parts.reverse ++ stack := by
  induction parts generalizing stack with
  | nil => rfl
  | cons part parts ih =>
      rw [List.foldl_cons, push_name (names part List.mem_cons_self),
        ih fun e member => names e (List.mem_cons_of_mem _ member), List.reverse_cons,
        List.append_assoc, List.singleton_append]

/-- The elements of a rendering are what was rendered. -/
theorem elements_rooted {es : List GoString} (names : ∀ e ∈ es, Name e) :
    elements (rooted es) = es := by
  have parts : ((rooted es).splitOn slash).foldl (push true) [] = es.reverse := by
    rw [rooted, splitOn_cons_self]
    cases es with
    | nil => rfl
    | cons e es =>
        have noSlash : ∀ e' ∈ e :: es, slash ∉ e' := fun e' member => (names e' member).noSlash
        rw [List.splitOn_intercalate slash noSlash (List.cons_ne_nil _ _), List.foldl_cons]
        show (e :: es).foldl (push true) [] = _
        rw [foldl_push_names names, List.append_nil]
  rw [elements, isAbs_rooted, parts, List.reverse_reverse]

/-- **Cleaning an absolute path twice is cleaning it once.** -/
theorem clean_clean {path : GoString} (absolute : isAbs path = true) :
    clean (clean path) = clean path := by
  rw [clean_of_isAbs absolute, clean_of_isAbs (isAbs_rooted _),
    elements_rooted (names_elements absolute)]

theorem isAbs_clean {path : GoString} (absolute : isAbs path = true) :
    isAbs (clean path) = true := by
  rw [clean_of_isAbs absolute, isAbs_rooted]

/-! ## Relative paths -/

/-- The rest of a path up to its first separator. -/
def word (s : GoString) : GoString := s.takeWhile (· != slash)

/-- The rest of a path behind its first separator. -/
def afterWord (s : GoString) : GoString := (s.dropWhile (· != slash)).drop 1

/-- The loop of `Rel`: what is left of the base and of the target at the first elements that
differ, and the element of the base it looked at last.  The fuel is the length of the base, of
which every round takes at least one byte. -/
def relLoop : Nat → GoString → GoString → GoString × GoString × GoString
  | 0, base, targ => (base, targ, [])
  | n + 1, base, targ =>
      if base = [] ∨ targ = [] then (base, targ, [])
      else if word targ ≠ word base then (base, targ, word base)
      else relLoop n (afterWord base) (afterWord targ)

/-- One `..` for each element of the rest of the base. -/
def ups (base : GoString) : GoString :=
  str ".." ++ (List.replicate (base.count slash) (str "/..")).flatten

/-- `filepath.Rel`. -/
def rel (basepath targpath : GoString) : Except GoString GoString :=
  let base := clean basepath
  let targ := clean targpath
  let problem := str "Rel: can't make " ++ targpath ++ str " relative to " ++ basepath
  if targ = base then .ok (str ".")
  else
    let base := if base = str "." then [] else base
    if isAbs base ≠ isAbs targ then .error problem
    else
      let (base, targ, last) := relLoop base.length base targ
      if last = str ".." then .error problem
      else if base ≠ [] then
        .ok (if targ ≠ [] then ups base ++ slash :: targ else ups base)
      else .ok targ

example : rel (str "/a/b") (str "/a/c/d") = .ok (str "../c/d") ∧
    rel (str "/") (str "/..x") = .ok (str "..x") ∧ rel (str "a/b") (str "a") = .ok (str "..") := by
  decide

/-- The relative path starts by leaving the base. -/
def LeadsUp (path : GoString) : Prop := path = str ".." ∨ str "../" <+: path

instance (path : GoString) : Decidable (LeadsUp path) := inferInstanceAs (Decidable (_ ∨ _))

section Words

variable {e : GoString} {es : List GoString}

theorem word_intercalate (noSlash : slash ∉ e) : word ([slash].intercalate (e :: es)) = e := by
  have all : ∀ b ∈ e, (b != slash) = true := fun b member =>
    bne_iff_ne.2 fun same => noSlash (same ▸ member)
  cases es with
  | nil =>
      rw [List.intercalate_singleton, word]
      exact List.takeWhile_eq_self_iff.2 all
  | cons f es =>
      rw [List.intercalate_cons_cons, word, List.append_assoc, List.takeWhile_append_of_pos all]
      simp

theorem afterWord_intercalate (noSlash : slash ∉ e) :
    afterWord ([slash].intercalate (e :: es)) = [slash].intercalate es := by
  have all : ∀ b ∈ e, (b != slash) = true := fun b member =>
    bne_iff_ne.2 fun same => noSlash (same ▸ member)
  cases es with
  | nil =>
      rw [List.intercalate_singleton, afterWord, List.dropWhile_eq_nil_iff.2 all]
      rfl
  | cons f es =>
      rw [List.intercalate_cons_cons, afterWord, List.append_assoc,
        List.dropWhile_append_of_pos all]
      simp

theorem intercalate_ne_nil (nonempty : e ≠ []) : [slash].intercalate (e :: es) ≠ [] := by
  cases es with
  | nil => rwa [List.intercalate_singleton]
  | cons f es =>
      rw [List.intercalate_cons_cons]
      simp

end Words

/-- The loop on two lists of names: it stops behind their common part, and something of the base
is left exactly when the base is not the beginning of the target. -/
theorem relLoop_names {n : Nat} {es fs : List GoString} (names : ∀ e ∈ es, Name e)
    (names' : ∀ f ∈ fs, Name f) (fuel : es.length ≤ n) :
    ∃ es' fs' last, relLoop n ([slash].intercalate es) ([slash].intercalate fs) =
        ([slash].intercalate es', [slash].intercalate fs', last) ∧
      es' <:+ es ∧ fs' <:+ fs ∧ (es' = [] ↔ es <+: fs) ∧ (last = [] ∨ last ∈ es') := by
  induction es generalizing n fs with
  | nil =>
      refine ⟨[], fs, [], ?_, List.suffix_rfl, List.suffix_rfl, by simp, .inl rfl⟩
      cases n with
      | zero => rfl
      | succ n =>
          rw [relLoop, if_pos (.inl rfl)]
  | cons e es ih =>
      obtain ⟨n, rfl⟩ : ∃ m, n = m + 1 := ⟨n - 1, by rw [List.length_cons] at fuel; omega⟩
      have name := names e List.mem_cons_self
      cases fs with
      | nil =>
          refine ⟨e :: es, [], [], ?_, List.suffix_rfl, List.suffix_rfl, by simp, .inl rfl⟩
          rw [relLoop, if_pos (.inr rfl)]
      | cons f fs =>
          have name' := names' f List.mem_cons_self
          have both : ¬ ([slash].intercalate (e :: es) = [] ∨ [slash].intercalate (f :: fs) = []) :=
            not_or.2 ⟨intercalate_ne_nil name.nonempty, intercalate_ne_nil name'.nonempty⟩
          rw [relLoop, if_neg both, word_intercalate name.noSlash, word_intercalate name'.noSlash]
          by_cases same : f = e
          · subst same
            rw [if_neg (not_not.2 rfl), afterWord_intercalate name.noSlash,
              afterWord_intercalate name.noSlash]
            obtain ⟨es', fs', last, looped, left, right, done, seen⟩ :=
              ih (fun e member => names e (List.mem_cons_of_mem _ member))
                (fun f member => names' f (List.mem_cons_of_mem _ member))
                (Nat.le_of_succ_le_succ fuel)
            refine ⟨es', fs', last, looped, left.trans (List.suffix_cons _ _),
              right.trans (List.suffix_cons _ _), ?_, seen⟩
            rw [done, List.cons_prefix_cons, and_iff_right rfl]
          · rw [if_pos same]
            refine ⟨e :: es, f :: fs, e, rfl, List.suffix_rfl, List.suffix_rfl, ?_,
              .inr List.mem_cons_self⟩
            rw [List.cons_prefix_cons]
            exact iff_of_false (List.cons_ne_nil _ _) fun both => same both.1.symm

/-- A path of names does not lead up, even if a name starts with two dots. -/
theorem not_leadsUp_names {es : List GoString} (names : ∀ e ∈ es, Name e) :
    ¬ LeadsUp ([slash].intercalate es) := by
  cases es with
  | nil =>
      rw [LeadsUp]
      decide
  | cons e es =>
      have name := names e List.mem_cons_self
      have first : word ([slash].intercalate (e :: es)) = e := word_intercalate name.noSlash
      rintro (up | ⟨rest, up⟩)
      · rw [up] at first
        exact name.notUp first.symm
      · rw [← up] at first
        exact name.notUp first.symm

theorem leadsUp_ups (base rest : GoString) :
    LeadsUp (ups base) ∧ LeadsUp (ups base ++ slash :: rest) := by
  unfold ups
  cases base.count slash with
  | zero => exact ⟨.inl rfl, .inr ⟨rest, rfl⟩⟩
  | succ n =>
      rw [List.replicate_succ, List.flatten_cons]
      exact ⟨.inr ⟨_, rfl⟩, .inr ⟨_, rfl⟩⟩

/-- The first round passes the separators that both paths start with. -/
theorem relLoop_rooted (es fs : List GoString) :
    relLoop (rooted es).length (rooted es) (rooted fs) =
      relLoop ([slash].intercalate es).length ([slash].intercalate es) ([slash].intercalate fs) :=
  rfl

theorem length_le_length_intercalate {es : List GoString} (names : ∀ e ∈ es, Name e) :
    es.length ≤ ([slash].intercalate es).length := by
  induction es with
  | nil => exact Nat.zero_le _
  | cons e es ih =>
      have some_ := List.length_pos_of_ne_nil (names e List.mem_cons_self).nonempty
      have rest := ih fun e member => names e (List.mem_cons_of_mem _ member)
      cases es with
      | nil =>
          rw [List.intercalate_singleton]
          exact some_
      | cons f es =>
          rw [List.intercalate_cons_cons, List.length_append, List.length_append, List.length_cons]
          omega

/-- **When a relative path leads up.**  Between clean absolute paths there is a relative path,
and it leads up exactly when the elements of the base are not the first ones of the target. -/
theorem leadsUp_rel_iff {es fs : List GoString} (names : ∀ e ∈ es, Name e)
    (names' : ∀ f ∈ fs, Name f) :
    ∃ answer, rel (rooted es) (rooted fs) = .ok answer ∧ (LeadsUp answer ↔ ¬ es <+: fs) := by
  have cleanBase : clean (rooted es) = rooted es := by
    rw [clean_of_isAbs (isAbs_rooted es), elements_rooted names]
  have cleanTarg : clean (rooted fs) = rooted fs := by
    rw [clean_of_isAbs (isAbs_rooted fs), elements_rooted names']
  have notDot : rooted es ≠ str "." := by
    intro same
    have slashed : isAbs (str ".") = true := same ▸ isAbs_rooted es
    exact absurd slashed (by decide)
  unfold rel
  simp only [cleanBase, cleanTarg, notDot, if_false, isAbs_rooted, ne_eq, not_true_eq_false]
  by_cases same : rooted fs = rooted es
  · have equal : fs = es := by
      rw [← elements_rooted names, ← elements_rooted names', same]
    rw [if_pos same, equal]
    exact ⟨_, rfl, by simp only [List.prefix_rfl, not_true_eq_false, iff_false]; decide⟩
  · obtain ⟨es', fs', last, looped, left, right, done, seen⟩ :=
      relLoop_names names names' (length_le_length_intercalate names)
    have notUp : last ≠ str ".." := by
      rcases seen with rfl | member
      · decide
      · exact (names last (left.subset member)).notUp
    rw [if_neg same, relLoop_rooted, looped]
    simp only [notUp, if_false]
    cases es' with
    | nil =>
        -- Nothing of the base is left: the answer is the rest of the target.
        have below := not_leadsUp_names fun f member => names' f (right.subset member)
        have inside : es <+: fs := done.1 rfl
        exact ⟨_, rfl, iff_of_false below (not_not.2 inside)⟩
    | cons e es' =>
        have some_ : [slash].intercalate (e :: es') ≠ [] :=
          intercalate_ne_nil (names e (left.subset List.mem_cons_self)).nonempty
        have outside : ¬ es <+: fs := fun inside => List.cons_ne_nil _ _ (done.2 inside)
        rw [if_pos some_]
        refine ⟨_, rfl, iff_of_true ?_ outside⟩
        split
        · exact (leadsUp_ups _ _).2
        · exact (leadsUp_ups _ []).1

end SentinelOps.Theory.GoPath
