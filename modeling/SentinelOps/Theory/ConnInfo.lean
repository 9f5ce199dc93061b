/-
# Theory.ConnInfo — connection strings of options `key=value`

The grammar of libpq, over any alphabet whose characters are sorted into signs: options are
separated by blanks, blanks around `=` are skipped, and a value stands bare or in single quotes,
with a backslash before a character that is taken as it is.

Written without quoting, a list of options is read back exactly when every value is bare text
(`kept_iff`).  What is read never outweighs the text it is read from (`within_of_assignments`), so
that no value can make up elsewhere for what is lost here.
-/
import SentinelOps.Theory.GoText

namespace SentinelOps.Theory.ConnInfo

set_option autoImplicit false

/-- What a character is to the grammar. -/
inductive Sign where
  | blank
  | equals
  | quote
  | escape
  | plain
deriving DecidableEq

section Grammar

variable {C : Type} (kind : C → Sign)

/-! ## Parsing -/

def isBlank (c : C) : Bool := kind c = .blank

def isKey (c : C) : Bool := kind c ≠ .blank ∧ kind c ≠ .equals

/-- A bare value ends before a blank. -/
def unquoted : List C → Option (List C × List C)
  | [] => some ([], [])
  | c :: s =>
      match kind c with
      | .blank => some ([], c :: s)
      | .escape =>
          match s with
          | [] => none
          | d :: s => (unquoted s).map fun (v, rest) => (d :: v, rest)
      | _ => (unquoted s).map fun (v, rest) => (c :: v, rest)

/-- A quoted value ends with a quote; the one it begins with has been read. -/
def quoted : List C → Option (List C × List C)
  | [] => none
  | c :: s =>
      match kind c with
      | .quote => some ([], s)
      | .escape =>
          match s with
          | [] => none
          | d :: s => (quoted s).map fun (v, rest) => (d :: v, rest)
      | _ => (quoted s).map fun (v, rest) => (c :: v, rest)

def value : List C → Option (List C × List C)
  | [] => some ([], [])
  | c :: s => if kind c = .quote then quoted kind s else unquoted kind (c :: s)

/-- One option, from its first character. -/
def assignment (s : List C) : Option ((List C × List C) × List C) :=
  match (s.dropWhile (isKey kind)).dropWhile (isBlank kind) with
  | [] => none
  | c :: rest =>
      if kind c = .equals then
        (value kind (rest.dropWhile (isBlank kind))).map fun (v, rest) =>
          ((s.takeWhile (isKey kind), v), rest)
      else none

/-- The options in the order of the text.  Each takes a character, its `=`, so that the length of
the text is fuel enough. -/
def assignments : Nat → List C → Option (List (List C × List C))
  | fuel, s =>
      match s.dropWhile (isBlank kind) with
      | [] => some []
      | c :: s =>
          match fuel with
          | 0 => none
          | fuel + 1 => do
              let (option, rest) ← assignment kind (c :: s)
              let options ← assignments fuel rest
              return option :: options

def parse (s : List C) : Option (List (List C × List C)) := assignments kind s.length s

/-! ## Writing -/

/-- Every option behind a separator, as it is. -/
def written (sep eq : C) (options : List (List C × List C)) : List C :=
  options.flatMap fun p => sep :: (p.1 ++ eq :: p.2)

def Name (key : List C) : Prop := ∀ c ∈ key, isKey kind c = true

/-- A value that means itself. -/
structure Bare (v : List C) : Prop where
  solid : ∀ c ∈ v, kind c ≠ .blank
  literal : ∀ c ∈ v, kind c ≠ .escape
  first : ∀ c ∈ v.head?, kind c ≠ .quote

/-- Every value is bare, and only the last one may be empty. -/
structure Kept (options : List (List C × List C)) : Prop where
  bare : ∀ p ∈ options, Bare kind p.2
  filled : ∀ p ∈ options.dropLast, p.2 ≠ []

/-! ## What a value takes from the text -/

/-- The text is at its end or at a blank. -/
def Stops (s : List C) : Prop := ∀ c ∈ s.head?, kind c = .blank

variable {kind}

theorem stops_nil : Stops kind [] := by
  intro c first
  cases first

theorem stops_cons {c : C} (blank : kind c = .blank) (s : List C) : Stops kind (c :: s) := by
  intro c' first
  cases first
  exact blank

/-- A bare value is part of its token, and the whole of it only if nothing was escaped. -/
theorem unquoted_spec {s v rest : List C} (read : unquoted kind s = some (v, rest)) :
    Stops kind rest ∧ ∃ token, s = token ++ rest ∧ v.Sublist token ∧
      (v = token → ∀ c ∈ v, kind c ≠ .blank ∧ kind c ≠ .escape) := by
  fun_induction unquoted kind s generalizing v with
  | case1 =>
      cases read
      exact ⟨stops_nil, [], rfl, .slnil, fun _ c member => absurd member List.not_mem_nil⟩
  | case2 c s blank =>
      cases read
      exact ⟨stops_cons blank s, [], rfl, .slnil, fun _ c member => absurd member List.not_mem_nil⟩
  | case3 c escape => cases read
  | case4 c escape d s ih =>
      obtain ⟨⟨u, rest'⟩, inner, shape⟩ := Option.map_eq_some_iff.1 read
      cases shape
      obtain ⟨stops, token, split, sub, -⟩ := ih inner
      refine ⟨stops, c :: d :: token, by rw [split]; rfl, (sub.cons_cons d).cons c, fun same => ?_⟩
      have shorter := sub.length_le
      have longer := congrArg List.length same
      simp only [List.length_cons] at longer
      omega
  | case5 c s noBlank noEscape ih =>
      obtain ⟨⟨u, rest'⟩, inner, shape⟩ := Option.map_eq_some_iff.1 read
      cases shape
      obtain ⟨stops, token, split, sub, plain⟩ := ih inner
      refine ⟨stops, c :: token, by rw [split]; rfl, sub.cons_cons c, fun same => ?_⟩
      intro c' member
      rcases List.mem_cons.1 member with rfl | member
      · exact ⟨noBlank, noEscape⟩
      · exact plain ((List.cons_inj_right c).1 same) c' member

/-- A quoted value is shorter than its token, which has the closing quote. -/
theorem quoted_spec {s v rest : List C} (read : quoted kind s = some (v, rest)) :
    ∃ token, s = token ++ rest ∧ v.Sublist token ∧ v.length < token.length := by
  fun_induction quoted kind s generalizing v with
  | case1 => cases read
  | case2 c s quote =>
      cases read
      exact ⟨[c], rfl, List.nil_sublist _, Nat.zero_lt_one⟩
  | case3 c escape => cases read
  | case4 c escape d s ih =>
      obtain ⟨⟨u, rest'⟩, inner, shape⟩ := Option.map_eq_some_iff.1 read
      cases shape
      obtain ⟨token, split, sub, shorter⟩ := ih inner
      refine ⟨c :: d :: token, by rw [split]; rfl, (sub.cons_cons d).cons c, ?_⟩
      simp only [List.length_cons]
      omega
  | case5 c s noQuote noEscape ih =>
      obtain ⟨⟨u, rest'⟩, inner, shape⟩ := Option.map_eq_some_iff.1 read
      cases shape
      obtain ⟨token, split, sub, shorter⟩ := ih inner
      exact ⟨c :: token, by rw [split]; rfl, sub.cons_cons c, Nat.succ_lt_succ shorter⟩

/-- A value and its token: a bare one is followed by a blank, a quoted one has two quotes more. -/
theorem value_spec {s v rest : List C} (read : value kind s = some (v, rest)) :
    ∃ token, s = token ++ rest ∧ v.Sublist token ∧
      (Stops kind rest ∨ v.length + 2 ≤ token.length) ∧ (v = token → Bare kind v) := by
  cases s with
  | nil =>
      cases read
      refine ⟨[], rfl, .slnil, .inl stops_nil, fun _ => ⟨?_, ?_, ?_⟩⟩ <;>
        exact fun c member => by cases member
  | cons c s =>
      rw [value] at read
      split at read
      · next quote =>
          obtain ⟨token, rfl, sub, shorter⟩ := quoted_spec read
          refine ⟨c :: token, rfl, sub.cons c, .inr (Nat.succ_le_succ shorter), fun same => ?_⟩
          have longer := congrArg List.length same
          rw [List.length_cons] at longer
          omega
      · next noQuote =>
          obtain ⟨stops, token, split, sub, plain⟩ := unquoted_spec read
          refine ⟨token, split, sub, .inl stops, fun same => ?_⟩
          refine ⟨fun d member => (plain same d member).1,
            fun d member => (plain same d member).2, ?_⟩
          subst same
          intro d first
          cases v with
          | nil => cases first
          | cons e v =>
              cases first
              cases split
              exact noQuote

/-! ## The weight of the options -/

/-- The characters of an option with its separator and its `=`. -/
def weight (p : List C × List C) : Nat := p.1.length + p.2.length + 2

def total (options : List (List C × List C)) : Nat := (options.map weight).sum

theorem total_cons (p : List C × List C) (options : List (List C × List C)) :
    total (p :: options) = weight p + total options := by
  rw [total, List.map_cons, List.sum_cons, total]

/-- The text has room for the options and, but for the first, their separators. -/
structure Within (options : List (List C × List C)) (kind : C → Sign) (s : List C) : Prop where
  bound : total options ≤ s.length + 1
  stopped : Stops kind s → total options ≤ s.length

theorem assignments_cases {n : Nat} {s : List C} {l : List (List C × List C)}
    (read : assignments kind n s = some l) :
    s.dropWhile (isBlank kind) = [] ∧ l = [] ∨
      ∃ m option rest options, assignment kind (s.dropWhile (isBlank kind)) = some (option, rest) ∧
        assignments kind m rest = some options ∧ l = option :: options ∧ n = m + 1 := by
  rw [assignments] at read
  split at read
  · next skipped =>
      cases read
      exact .inl ⟨skipped, rfl⟩
  · next c t skipped =>
      cases n with
      | zero => cases read
      | succ m =>
          obtain ⟨⟨option, rest⟩, first, more⟩ := Option.bind_eq_some_iff.1 read
          obtain ⟨options, others, shape⟩ := Option.bind_eq_some_iff.1 more
          cases shape
          exact .inr ⟨m, option, rest, options, by rw [skipped]; exact first, others, rfl, rfl⟩

theorem assignment_cases {s rest : List C} {p : List C × List C}
    (read : assignment kind s = some (p, rest)) :
    ∃ c body, (s.dropWhile (isKey kind)).dropWhile (isBlank kind) = c :: body ∧
      p.1 = s.takeWhile (isKey kind) ∧
      value kind (body.dropWhile (isBlank kind)) = some (p.2, rest) := by
  rw [assignment] at read
  split at read
  · cases read
  · next c body found =>
      split at read
      · obtain ⟨⟨v, rest'⟩, inner, shape⟩ := Option.map_eq_some_iff.1 read
        cases shape
        exact ⟨c, body, found, rfl, inner⟩
      · cases read

/-- A value and the options behind it fit into the text, and fill it only if the value is bare. -/
theorem value_bound {s v rest : List C} {options : List (List C × List C)}
    (read : value kind s = some (v, rest)) (within : Within options kind rest) :
    v.length + total options ≤ s.length ∧
      (v.length + total options = s.length → s = v ++ rest ∧ Bare kind v) := by
  obtain ⟨token, rfl, sub, behind, bare⟩ := value_spec read
  have shorter := sub.length_le
  rw [List.length_append]
  rcases behind with stops | quotes
  · have fits := within.stopped stops
    refine ⟨by omega, fun filled => ?_⟩
    have same := sub.eq_of_length_le (by omega)
    exact ⟨by rw [same], bare same⟩
  · have fits := within.bound
    exact ⟨by omega, fun filled => by omega⟩

theorem length_dropWhile_le (p : C → Bool) (s : List C) : (s.dropWhile p).length ≤ s.length :=
  (List.dropWhile_suffix p).length_le

theorem dropWhile_blank_cons {c : C} (blank : kind c = .blank) (s : List C) :
    (c :: s).dropWhile (isBlank kind) = s.dropWhile (isBlank kind) :=
  List.dropWhile_cons_of_pos (decide_eq_true blank)

theorem within_of_assignments {n : Nat} {s : List C} {l : List (List C × List C)}
    (read : assignments kind n s = some l) : Within l kind s := by
  induction n generalizing s l with
  | zero =>
      rcases assignments_cases read with ⟨-, rfl⟩ | ⟨m, _, _, _, _, _, _, more⟩
      · exact ⟨Nat.zero_le _, fun _ => Nat.zero_le _⟩
      · cases more
  | succ n ih =>
      rcases assignments_cases read with ⟨-, rfl⟩ | ⟨m, p, rest, options, first, others, rfl, more⟩
      · exact ⟨Nat.zero_le _, fun _ => Nat.zero_le _⟩
      · cases more
        obtain ⟨c, body, found, key, inner⟩ := assignment_cases first
        have fits := (value_bound inner (ih others)).1
        have filled : total (p :: options) ≤ (s.dropWhile (isBlank kind)).length + 1 := by
          have whole := congrArg List.length
            (List.takeWhile_append_dropWhile (p := isKey kind) (l := s.dropWhile (isBlank kind)))
          have behind := length_dropWhile_le (isBlank kind)
            ((s.dropWhile (isBlank kind)).dropWhile (isKey kind))
          have skipped := length_dropWhile_le (isBlank kind) body
          rw [found, List.length_cons] at behind
          rw [List.length_append, ← key] at whole
          rw [total_cons, weight]
          omega
        refine ⟨filled.trans (Nat.succ_le_succ (length_dropWhile_le _ s)), fun stops => ?_⟩
        cases s with
        | nil => cases found
        | cons b s =>
            rw [dropWhile_blank_cons (stops b rfl)] at filled
            exact filled.trans (Nat.succ_le_succ (length_dropWhile_le _ s))

/-! ## Reading back what was written -/

theorem kept_cons (p : List C × List C) (options : List (List C × List C)) :
    Kept kind (p :: options) ↔
      Bare kind p.2 ∧ (options ≠ [] → p.2 ≠ []) ∧ Kept kind options := by
  cases options with
  | nil =>
      refine ⟨fun kept => ⟨kept.bare p List.mem_cons_self, absurd rfl, ⟨?_, ?_⟩⟩, ?_⟩
      · exact fun q member => absurd member List.not_mem_nil
      · exact fun q member => absurd member List.not_mem_nil
      · rintro ⟨bare, -, -⟩
        exact ⟨List.forall_mem_singleton.2 bare, fun q member => absurd member List.not_mem_nil⟩
  | cons q options =>
      constructor
      · rintro ⟨bare, filled⟩
        rw [List.dropLast_cons_cons, List.forall_mem_cons] at filled
        rw [List.forall_mem_cons] at bare
        exact ⟨bare.1, fun _ => filled.1, bare.2, filled.2⟩
      · rintro ⟨bare, nonempty, kept⟩
        refine ⟨List.forall_mem_cons.2 ⟨bare, kept.bare⟩, ?_⟩
        rw [List.dropLast_cons_cons, List.forall_mem_cons]
        exact ⟨nonempty (List.cons_ne_nil _ _), kept.filled⟩

section Written

variable {sep eq : C}

theorem written_cons (p : List C × List C) (options : List (List C × List C)) :
    written sep eq (p :: options) = sep :: (p.1 ++ eq :: (p.2 ++ written sep eq options)) := by
  simp [written]

theorem length_written (options : List (List C × List C)) :
    (written sep eq options).length = total options := by
  induction options with
  | nil => rfl
  | cons p options ih =>
      rw [written_cons, total_cons, weight, ← ih]
      simp only [List.length_cons, List.length_append]
      omega

variable (blank : kind sep = .blank) (equals : kind eq = .equals)

include blank in
theorem stops_written (options : List (List C × List C)) : Stops kind (written sep eq options) := by
  cases options with
  | nil => exact stops_nil
  | cons p options =>
      rw [written_cons]
      exact stops_cons blank _

include blank in
theorem assignments_sep (n : Nat) (s : List C) :
    assignments kind n (sep :: s) = assignments kind n s := by
  rw [assignments, assignments, dropWhile_blank_cons blank]

include equals in
/-- Up to the `=` an option is read as it was written. -/
theorem assignment_written {key : List C} (name : Name kind key) (s : List C) :
    assignment kind (key ++ eq :: s) =
      (value kind (s.dropWhile (isBlank kind))).map fun (v, rest) => ((key, v), rest) := by
  have ends : isKey kind eq = false := by simp [isKey, equals]
  have solid : isBlank kind eq = false := by simp [isBlank, equals]
  rw [assignment, List.takeWhile_append_of_pos name, List.dropWhile_append_of_pos name,
    List.takeWhile_cons_of_neg (by simp [ends]), List.dropWhile_cons_of_neg (by simp [ends]),
    List.dropWhile_cons_of_neg (by simp [solid]), List.append_nil]
  dsimp only
  rw [if_pos equals]

include equals in
theorem dropWhile_blank_written {key : List C} (name : Name kind key) (s : List C) :
    (key ++ eq :: s).dropWhile (isBlank kind) = key ++ eq :: s := by
  cases key with
  | nil => exact List.dropWhile_cons_of_neg (by simp [isBlank, equals])
  | cons c key =>
      have solid : isKey kind c = true := name c List.mem_cons_self
      refine List.dropWhile_cons_of_neg ?_
      simp only [isKey, decide_eq_true_eq] at solid
      simp [isBlank, solid.1]

theorem unquoted_append {v : List C} (solid : ∀ c ∈ v, kind c ≠ .blank)
    (literal : ∀ c ∈ v, kind c ≠ .escape) {s : List C} (stops : Stops kind s) :
    unquoted kind (v ++ s) = some (v, s) := by
  induction v with
  | nil =>
      cases s with
      | nil => rfl
      | cons c s =>
          have blank : kind c = .blank := stops c rfl
          rw [List.nil_append, unquoted.eq_def]
          simp only [blank]
  | cons c v ih =>
      rw [List.forall_mem_cons] at solid literal
      rw [List.cons_append, unquoted.eq_def]
      dsimp only
      split
      · next blank => exact absurd blank solid.1
      · next escape => exact absurd escape literal.1
      · rw [ih solid.2 literal.2]
        rfl

theorem value_append {v : List C} (bare : Bare kind v) {s : List C} (stops : Stops kind s)
    (nonempty : s ≠ [] → v ≠ []) :
    value kind ((v ++ s).dropWhile (isBlank kind)) = some (v, s) := by
  cases v with
  | nil =>
      have empty : s = [] := by
        by_contra more
        exact nonempty more rfl
      subst empty
      rfl
  | cons c v =>
      have solid : kind c ≠ .blank := bare.solid c List.mem_cons_self
      rw [List.cons_append, List.dropWhile_cons_of_neg (by simp [isBlank, solid]), value,
        if_neg (bare.first c rfl), ← List.cons_append]
      exact unquoted_append bare.solid bare.literal stops

theorem assignments_of_solid {s : List C} (solid : s.dropWhile (isBlank kind) = s)
    (nonempty : s ≠ []) (n : Nat) :
    assignments kind (n + 1) s = (assignment kind s).bind fun (option, rest) =>
      (assignments kind n rest).map (option :: ·) := by
  cases s with
  | nil => exact absurd rfl nonempty
  | cons c s =>
      rw [assignments, solid]
      dsimp only [Option.bind_eq_bind, Option.pure_def]
      congr 1
      funext option
      rw [Option.map_eq_bind]
      rfl

include blank equals in
/-- Options with bare values are read back. -/
theorem assignments_written {options : List (List C × List C)}
    (names : ∀ p ∈ options, Name kind p.1) (kept : Kept kind options) {n : Nat}
    (enough : options.length ≤ n) :
    assignments kind n (written sep eq options) = some options := by
  induction options generalizing n with
  | nil =>
      rw [assignments]
      rfl
  | cons p options ih =>
      obtain ⟨key, v⟩ := p
      obtain ⟨bare, nonempty, kept⟩ := (kept_cons _ _).1 kept
      rw [List.forall_mem_cons] at names
      obtain ⟨m, rfl⟩ := Nat.exists_eq_add_of_lt (Nat.lt_of_lt_of_le (Nat.succ_pos _) enough)
      have more : written sep eq options ≠ [] → v ≠ [] := by
        intro some_
        refine nonempty fun none_ => some_ ?_
        rw [none_]
        rfl
      rw [Nat.zero_add, written_cons, assignments_sep blank,
        assignments_of_solid (dropWhile_blank_written equals names.1 _) (by simp),
        assignment_written equals names.1, value_append bare (stops_written blank options) more]
      dsimp only [Option.map_some, Option.bind_some]
      rw [ih names.2 kept (by simpa using enough)]
      rfl

include blank in
/-- Where options follow, a value that skipping blanks leaves alone is not empty. -/
theorem ne_nil_of_solid {v : List C} {options : List (List C × List C)} (more : options ≠ [])
    (solid : (v ++ written sep eq options).dropWhile (isBlank kind) =
      v ++ written sep eq options) : v ≠ [] := by
  rintro rfl
  obtain ⟨q, options, rfl⟩ := List.exists_cons_of_ne_nil more
  rw [List.nil_append, written_cons, dropWhile_blank_cons blank] at solid
  have cut := congrArg List.length solid
  have short := length_dropWhile_le (isBlank kind) (q.1 ++ eq :: (q.2 ++ written sep eq options))
  rw [List.length_cons] at cut
  omega

include blank equals in
/-- If the options that are read are the ones that were written, the values are bare. -/
theorem kept_of_perm {options l : List (List C × List C)}
    (names : ∀ p ∈ options, Name kind p.1) (distinct : (options.map Prod.fst).Nodup) {n : Nat}
    (read : assignments kind n (written sep eq options) = some l) (same : l.Perm options) :
    Kept kind options := by
  induction options generalizing n l with
  | nil =>
      exact ⟨fun p member => absurd member List.not_mem_nil,
        fun p member => absurd member List.not_mem_nil⟩
  | cons p options ih =>
      obtain ⟨key, v⟩ := p
      rw [List.forall_mem_cons] at names
      rw [List.map_cons, List.nodup_cons] at distinct
      rw [written_cons, assignments_sep blank] at read
      rcases assignments_cases read with ⟨empty, -⟩ | ⟨m, option, rest, l, first, others, rfl, -⟩
      · rw [dropWhile_blank_written equals names.1] at empty
        simp at empty
      · rw [dropWhile_blank_written equals names.1, assignment_written equals names.1] at first
        obtain ⟨⟨v', rest'⟩, inner, shape⟩ := Option.map_eq_some_iff.1 first
        cases shape
        dsimp only at inner
        -- there is only one option of this key
        have value : v' = v := by
          rcases List.mem_cons.1 (same.subset List.mem_cons_self) with found | later
          · exact congrArg Prod.snd found
          · exact absurd (List.mem_map_of_mem later) distinct.1
        subst value
        have same := same.cons_inv
        have behind : total l = (written sep eq options).length := by
          rw [length_written]
          exact (same.map weight).sum_eq
        have skipped := List.dropWhile_suffix (l := v' ++ written sep eq options) (isBlank kind)
        have shorter := skipped.length_le
        obtain ⟨fits, filled⟩ := value_bound inner (within_of_assignments others)
        rw [List.length_append] at shorter
        obtain ⟨split, bare⟩ := filled (by omega)
        have whole := skipped.eq_of_length_le (by rw [List.length_append]; omega)
        have rest : rest = written sep eq options := by
          rw [whole] at split
          exact (List.append_cancel_left split).symm
        exact (kept_cons _ _).2 ⟨bare, fun more => ne_nil_of_solid blank more whole,
          ih names.2 distinct.2 (rest ▸ others) same⟩

/-- Options that weigh no more than some of them are those. -/
theorem perm_of_subset {options l : List (List C × List C)} (distinct : options.Nodup)
    (inside : options ⊆ l) (light : total l ≤ total options) : l.Perm options := by
  obtain ⟨found, same, sub⟩ := List.subperm_of_subset distinct inside
  obtain ⟨others, split⟩ := sub.exists_perm_append
  have split := split.trans (same.append_right others)
  have sum : total l = total options + total others := by
    rw [total, (split.map weight).sum_eq, List.map_append, List.sum_append, total, total]
  cases others with
  | nil => simpa using split
  | cons p others =>
      rw [total_cons, weight] at sum
      omega

theorem two_mul_length_le (options : List (List C × List C)) :
    2 * options.length ≤ total options := by
  induction options with
  | nil => exact Nat.zero_le _
  | cons p options ih =>
      rw [total_cons, weight, List.length_cons]
      omega

variable {options : List (List C × List C)} {s : List C} (whole : sep :: s = written sep eq options)

include blank equals whole in
/-- A text of options with bare values is read as these. -/
theorem parse_of_kept (names : ∀ p ∈ options, Name kind p.1) (kept : Kept kind options) :
    parse kind s = some options := by
  have enough : options.length ≤ s.length := by
    have length := congrArg List.length whole
    have least := two_mul_length_le options
    rw [length_written, List.length_cons] at length
    cases options with
    | nil => exact Nat.zero_le _
    | cons p options =>
        rw [List.length_cons] at least ⊢
        omega
  rw [parse, ← assignments_sep blank, whole]
  exact assignments_written blank equals names kept enough

include blank equals whole in
/-- **Exactly bare values are read back.** -/
theorem kept_iff (names : ∀ p ∈ options, Name kind p.1)
    (distinct : (options.map Prod.fst).Nodup) :
    (∃ l, parse kind s = some l ∧ options ⊆ l) ↔ Kept kind options := by
  constructor
  · rintro ⟨l, read, inside⟩
    rw [parse, ← assignments_sep blank, whole] at read
    have fits := (within_of_assignments read).stopped (stops_written blank options)
    rw [length_written] at fits
    exact kept_of_perm blank equals names distinct read
      (perm_of_subset distinct.of_map inside fits)
  · intro kept
    exact ⟨options, parse_of_kept blank equals whole names kept, List.Subset.refl _⟩

end Written

/-- What is read consists of characters of the text. -/
theorem subset_of_assignments {n : Nat} {s : List C} {l : List (List C × List C)}
    (read : assignments kind n s = some l) : ∀ p ∈ l, p.1 ⊆ s ∧ p.2 ⊆ s := by
  induction n generalizing s l with
  | zero =>
      rcases assignments_cases read with ⟨-, rfl⟩ | ⟨m, _, _, _, _, _, _, more⟩
      · exact fun p member => absurd member List.not_mem_nil
      · cases more
  | succ n ih =>
      rcases assignments_cases read with ⟨-, rfl⟩ | ⟨m, q, rest, options, first, others, rfl, more⟩
      · exact fun p member => absurd member List.not_mem_nil
      · cases more
        obtain ⟨c, body, found, key, inner⟩ := assignment_cases first
        obtain ⟨token, split, sub, -⟩ := value_spec inner
        have start : s.dropWhile (isBlank kind) ⊆ s := (List.dropWhile_suffix _).subset
        have behind : body.dropWhile (isBlank kind) ⊆ s := by
          refine List.Subset.trans (List.dropWhile_suffix _).subset (List.Subset.trans ?_ start)
          have inside := ((List.dropWhile_suffix (isBlank kind)).trans
            (List.dropWhile_suffix (l := s.dropWhile (isBlank kind)) (isKey kind))).subset
          rw [found] at inside
          exact (List.cons_subset.1 inside).2
        rw [split] at behind
        obtain ⟨inToken, inRest⟩ := List.append_subset.1 behind
        intro p member
        rcases List.mem_cons.1 member with rfl | member
        · rw [key]
          exact ⟨List.Subset.trans (List.takeWhile_prefix _).subset start,
            List.Subset.trans sub.subset inToken⟩
        · obtain ⟨inKey, inValue⟩ := ih others p member
          exact ⟨List.Subset.trans inKey inRest, List.Subset.trans inValue inRest⟩

end Grammar

end SentinelOps.Theory.ConnInfo
