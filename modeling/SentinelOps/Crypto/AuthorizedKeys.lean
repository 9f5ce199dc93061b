/-
# Crypto.AuthorizedKeys — the key files of `internal/crypto/authorizedkeys/store.go`

A user has one file of keys, named after them, in the store's directory.  `pathForUser` takes
every trimmed name that is not empty and has no separator, which lets `.` and `..` through;
`confined_iff` says that those two are the only ones to lead out of the directory.

`IsAuthorized` reads the file and goes through its keys.  The parser of the keys is somebody
else's: it is assumed to go by lines and to skip those without a key (`KeyParser`).  The loop
asks it for another key as long as something other than white space is left, so a comment behind
the last key makes it fail (`isAuthorized_iff`).

Poles: `parent_read`, `key_found`, `comment_last`.
-/
import SentinelOps.Theory.GoConcat
import SentinelOps.Theory.GoPathJoin
import SentinelOps.Theory.Script

namespace SentinelOps.Crypto

open Theory
open GoText (GoString str trimSpace Blank)
open GoPath (slash Name isAbs clean join dir base elements absolute)

set_option autoImplicit false

/-! ## The store -/

structure Store where
  dir : GoString

def newStore (dir : GoString) : Store := ⟨trimSpace dir⟩

def Store.pathForUser (s : Store) (username : GoString) : Except GoString GoString :=
  if s.dir = [] then .error (str "authorized keys directory is empty")
  else
    let user := trimSpace username
    if user = [] then .error (str "username is empty")
    else if user ≠ base user ∨ slash ∈ user then
      .error (str "invalid username for authorized keys path")
    else .ok (join s.dir user)

/-- The error of `os.ReadFile`. -/
structure ReadError where
  notExist : Bool
  text : GoString

inductive KeyAsk where
  | readFile (path : GoString)

def KeyAsk.Answer : KeyAsk → Type
  | .readFile _ => Except ReadError GoString

section Search

variable {K : Type} (parse : GoString → Except GoString (K × GoString)) (marshal : K → GoString)

/-- The loop over the keys of a file; nothing when the rounds it is given are used up. -/
def search (username : GoString) (key : K) : Nat → GoString → Option (Except GoString Bool)
  | 0, _ => none
  | rounds + 1, remaining =>
      if trimSpace remaining = [] then some (.ok false)
      else
        match parse remaining with
        | .error err =>
            some (.error (str "parse authorized keys for " ++ username ++ str ": " ++ err))
        | .ok (parsed, rest) =>
            if marshal parsed = marshal key then some (.ok true)
            else search username key rounds rest

def isAuthorized (rounds : Nat) (s : Option Store) (username : GoString) (key : Option K) :
    Script KeyAsk KeyAsk.Answer (Option (Except GoString Bool)) :=
  match s, key with
  | none, _ => .ret (some (.error (str "authorized keys store is nil")))
  | some _, none => .ret (some (.error (str "public key is nil")))
  | some s, some key =>
      match s.pathForUser username with
      | .error err => .ret (some (.error err))
      | .ok path =>
          .ask (.readFile path) fun (raw : Except ReadError GoString) =>
            match raw with
            | .error err =>
                if err.notExist then .ret (some (.ok false))
                else .ret (some (.error
                  (str "read authorized keys for " ++ username ++ str ": " ++ err.text)))
            | .ok raw => .ret (search parse marshal username key rounds raw)

end Search

/-! ## The file of a user -/

/-- The names that get a path, and the path. -/
theorem pathForUser_eq_ok_iff (s : Store) (username path : GoString) :
    s.pathForUser username = .ok path ↔
      s.dir ≠ [] ∧ trimSpace username ≠ [] ∧ slash ∉ trimSpace username ∧
        path = join s.dir (trimSpace username) := by
  unfold Store.pathForUser
  by_cases noDir : s.dir = []
  · simp [noDir]
  · by_cases noUser : trimSpace username = []
    · simp [noDir, noUser]
    · by_cases inside : slash ∈ trimSpace username
      · simp [noDir, noUser, inside]
      · have last : base (trimSpace username) = trimSpace username :=
          GoPath.base_leading false [] noUser inside
        simp [noDir, noUser, inside, last, eq_comm]

/-- The path is a child of the directory, and every file that is read is that child. -/
structure Confined (s : Store) (username path : GoString) : Prop where
  parent : dir path = clean s.dir
  last : base path = trimSpace username
  reads : ∀ (K : Type) (parse : GoString → Except GoString (K × GoString))
    (marshal : K → GoString) (rounds : Nat) (key : Option K),
    (isAuthorized parse marshal rounds (some s) username key).Asks fun
      | .readFile file => ∀ wd, isAbs wd = true →
          elements (absolute wd file) = elements (absolute wd s.dir) ++ [trimSpace username]

/-- The only file that is read is that of the user. -/
theorem isAuthorized_asks {K : Type} (parse : GoString → Except GoString (K × GoString))
    (marshal : K → GoString) (rounds : Nat) (s : Store) (username : GoString) (key : Option K)
    {path : GoString} (accepted : s.pathForUser username = .ok path) :
    (isAuthorized parse marshal rounds (some s) username key).Asks (· = .readFile path) := by
  cases key with
  | none => trivial
  | some key =>
      simp only [isAuthorized, accepted]
      refine ⟨rfl, fun raw => ?_⟩
      rcases raw with err | raw
      · simp only
        split <;> trivial
      · trivial

/-- **The file of a user is a child of the directory unless the name is `.` or `..`.** -/
theorem confined_iff (s : Store) (username path : GoString)
    (accepted : s.pathForUser username = .ok path) :
    Confined s username path ↔
      trimSpace username ≠ str "." ∧ trimSpace username ≠ str ".." := by
  obtain ⟨hasDir, nonempty, noSlash, rfl⟩ := (pathForUser_eq_ok_iff s username path).1 accepted
  constructor
  · intro confined
    have reads := confined.reads Unit (fun _ => .error []) (fun _ => []) 0 (some ())
    simp only [isAuthorized, accepted] at reads
    have child := reads.1 (str "/") rfl
    have name := (GoPath.elements_absolute_join_iff rfl hasDir noSlash).1 child
    exact ⟨name.notDot, name.notUp⟩
  · rintro ⟨notDot, notUp⟩
    have name : Name (trimSpace username) := ⟨nonempty, notDot, notUp, noSlash⟩
    refine ⟨?_, ?_, fun K parse marshal rounds key => ?_⟩
    · rw [GoPath.join_name hasDir name]
      exact GoPath.dir_leading s.dir noSlash
    · rw [GoPath.join_name hasDir name]
      exact GoPath.base_leading _ _ nonempty noSlash
    · refine (isAuthorized_asks parse marshal rounds s username key accepted).mono ?_
      rintro _ rfl wd rooted
      exact (GoPath.elements_absolute_join_iff rooted hasDir noSlash).2 name

/-- A name that only starts with two dots has a file like any other. -/
theorem confined_dotted :
    (newStore (str "keys/")).pathForUser (str " ..admin") = .ok (str "keys/..admin") ∧
      Confined (newStore (str "keys/")) (str " ..admin") (str "keys/..admin") :=
  ⟨by decide, (confined_iff _ _ _ (by decide)).2 (by decide)⟩

/-- The name `..` has the parent of the directory for its file, the name `.` the directory. -/
theorem parent_read :
    (newStore (str "/srv/keys")).pathForUser (str "..") = .ok (str "/srv") ∧
      (newStore (str "/srv/keys")).pathForUser (str ".") = .ok (str "/srv/keys") ∧
      ¬ Confined (newStore (str "/srv/keys")) (str "..") (str "/srv") ∧
      ¬ Confined (newStore (str "/srv/keys")) (str ".") (str "/srv/keys") := by
  refine ⟨by decide, by decide, fun confined => ?_, fun confined => ?_⟩
  · exact absurd confined.last (by decide)
  · exact absurd confined.parent (by decide)

/-! ## The keys of a file -/

def newline : UInt8 := 0x0A

/-- A comment, behind any white space. -/
def Comment (line : GoString) : Prop := (trimSpace line).head? = some 0x23

section Parser

variable {K : Type} (keyOf : GoString → Option K)

/-- The first key of these lines and the text behind its line. -/
def firstKey : List GoString → Option (K × GoString)
  | [] => none
  | line :: rest =>
      match keyOf line with
      | some key => some (key, [newline].intercalate rest)
      | none => firstKey rest

/-- The lines behind the last key, all of them if there is none. -/
def tail (lines : List GoString) : List GoString :=
  (lines.reverse.takeWhile fun line => (keyOf line).isNone).reverse

end Parser

/-- What is assumed of `ssh.ParseAuthorizedKey`: it skips lines without a key, blank lines and
comments among them, returns the first key with the bytes behind its line, and fails when no key
is left. -/
structure KeyParser (K : Type) where
  parse : GoString → Except GoString (K × GoString)
  keyOf : GoString → Option K
  blank : ∀ line, Blank line → keyOf line = none
  comment : ∀ line, Comment line → keyOf line = none
  reads : ∀ text, (parse text).toOption = firstKey keyOf (text.splitOn newline)

section Lines

variable {K : Type} {keyOf : GoString → Option K}

/-- There is no key on any line, or there is a first one. -/
theorem firstKey_cases (lines : List GoString) :
    ((∀ line ∈ lines, keyOf line = none) ∧ firstKey keyOf lines = none) ∨
      ∃ before line key after, lines = before ++ line :: after ∧
        (∀ l ∈ before, keyOf l = none) ∧ keyOf line = some key ∧
        firstKey keyOf lines = some (key, [newline].intercalate after) := by
  induction lines with
  | nil => exact .inl ⟨by simp, rfl⟩
  | cons line lines ih =>
      rw [firstKey]
      cases found : keyOf line with
      | some key => exact .inr ⟨[], line, key, lines, rfl, by simp, found, rfl⟩
      | none =>
          rcases ih with ⟨none_, first⟩ | ⟨before, line', key, after, rfl, none_, found', first⟩
          · exact .inl ⟨List.forall_mem_cons.2 ⟨found, none_⟩, first⟩
          · exact .inr ⟨line :: before, line', key, after, rfl,
              List.forall_mem_cons.2 ⟨found, none_⟩, found', first⟩

theorem tail_of_keyless {lines : List GoString} (none_ : ∀ line ∈ lines, keyOf line = none) :
    tail keyOf lines = lines := by
  have all : ∀ line ∈ lines.reverse, (keyOf line).isNone = true := fun line member => by
    rw [none_ line (List.mem_reverse.1 member)]
    rfl
  rw [tail, List.takeWhile_eq_self_iff.2 all, List.reverse_reverse]

theorem tail_append_cons (before : List GoString) {line : GoString} {key : K}
    (found : keyOf line = some key) (after : List GoString) :
    tail keyOf (before ++ line :: after) = tail keyOf after := by
  have stops : (keyOf line).isNone = false := by rw [found]; rfl
  rw [tail, tail, List.reverse_append, List.reverse_cons, List.append_assoc,
    List.takeWhile_append]
  split
  · next all =>
      rw [List.singleton_append, List.takeWhile_cons_of_neg (by simp [stops]), List.append_nil,
        (List.takeWhile_prefix _).eq_of_length all]
  · rfl

end Lines

theorem error_of_toOption {R : Type} {outcome : Except GoString R}
    (failed : outcome.toOption = none) : ∃ err, outcome = .error err := by
  cases outcome with
  | error err => exact ⟨err, rfl⟩
  | ok result => cases failed

theorem ok_of_toOption {R : Type} {outcome : Except GoString R} {result : R}
    (succeeded : outcome.toOption = some result) : outcome = .ok result := by
  cases outcome with
  | error err => cases succeeded
  | ok result' =>
      cases succeeded
      rfl

section File

variable {K : Type} (parser : KeyParser K) (marshal : K → GoString)

/-- A line of a file of keys. -/
def Wellformed (line : GoString) : Prop :=
  newline ∉ line ∧ ((∃ key, parser.keyOf line = some key) ∨ Comment line ∨ Blank line)

/-- Some line carries the key. -/
def Carries (lines : List GoString) (key : K) : Prop :=
  ∃ line ∈ lines, ∃ parsed, parser.keyOf line = some parsed ∧ marshal parsed = marshal key

variable {parser marshal}

theorem not_carries_of_keyless {lines : List GoString} {key : K}
    (none_ : ∀ line ∈ lines, parser.keyOf line = none) : ¬ Carries parser marshal lines key := by
  rintro ⟨line, member, parsed, found, -⟩
  rw [none_ line member] at found
  cases found

/-- Behind a first key that is another one. -/
theorem carries_append_cons {before after : List GoString} {line : GoString} {parsed key : K}
    (none_ : ∀ l ∈ before, parser.keyOf l = none) (found : parser.keyOf line = some parsed)
    (other : marshal parsed ≠ marshal key) :
    Carries parser marshal (before ++ line :: after) key ↔ Carries parser marshal after key := by
  constructor
  · rintro ⟨l, member, parsed', found', same⟩
    rcases List.mem_append.1 member with early | late
    · rw [none_ l early] at found'
      cases found'
    · rcases List.mem_cons.1 late with rfl | later
      · rw [found] at found'
        cases found'
        exact absurd same other
      · exact ⟨l, later, parsed', found', same⟩
  · rintro ⟨l, member, rest⟩
    exact ⟨l, by simp [member], rest⟩

variable (parser marshal) in
/-- **How the loop ends**: it finds the key on a line that carries it; otherwise it ends without
an error if the lines behind the last key are blank. -/
theorem search_lines (username : GoString) (key : K) {lines : List GoString} {rounds : Nat}
    (unbroken : ∀ line ∈ lines, newline ∉ line) (enough : lines.length < rounds) :
    ∃ result, search parser.parse marshal username key rounds ([newline].intercalate lines) =
        some result ∧
      (result = .ok true ↔ Carries parser marshal lines key) ∧
      (result = .ok false ↔ ¬ Carries parser marshal lines key ∧
        ∀ line ∈ tail parser.keyOf lines, Blank line) := by
  induction rounds generalizing lines with
  | zero => cases enough
  | succ rounds ih =>
      have blankText :
          trimSpace ([newline].intercalate lines) = [] ↔ ∀ line ∈ lines, Blank line := by
        rw [← GoText.blank_iff]
        exact GoText.blank_intercalate (by decide) (by decide) lines
      rw [search]
      by_cases blank : ∀ line ∈ lines, Blank line
      · have keyless : ∀ line ∈ lines, parser.keyOf line = none :=
          fun line member => parser.blank line (blank line member)
        have missing : ¬ Carries parser marshal lines key := not_carries_of_keyless keyless
        rw [if_pos (blankText.2 blank)]
        refine ⟨_, rfl, iff_of_false (by simp) missing, iff_of_true rfl ⟨missing, ?_⟩⟩
        rwa [tail_of_keyless keyless]
      · have nonempty : lines ≠ [] := by
          rintro rfl
          exact blank (by simp)
        have read := parser.reads ([newline].intercalate lines)
        rw [List.splitOn_intercalate newline unbroken nonempty] at read
        rw [if_neg (mt blankText.1 blank)]
        rcases firstKey_cases lines with
          ⟨keyless, first⟩ | ⟨before, line, parsed, after, rfl, none_, found, first⟩
        · -- Something is left, and no key in it.
          obtain ⟨err, failed⟩ := error_of_toOption (read.trans first)
          have missing : ¬ Carries parser marshal lines key := not_carries_of_keyless keyless
          rw [failed]
          refine ⟨_, rfl, iff_of_false (by simp) missing, iff_of_false (by simp) ?_⟩
          rw [tail_of_keyless keyless]
          exact fun ends => blank ends.2
        · have parsedFirst := ok_of_toOption (read.trans first)
          rw [parsedFirst]
          by_cases same : marshal parsed = marshal key
          · have carried : Carries parser marshal (before ++ line :: after) key :=
              ⟨line, by simp, parsed, found, same⟩
            simp only [same, if_true]
            exact ⟨_, rfl, iff_of_true rfl carried,
              iff_of_false (by simp) fun ends => ends.1 carried⟩
          · simp only [same, if_false]
            rw [tail_append_cons before found, carries_append_cons none_ found same]
            refine ih (fun l member => unbroken l (by simp [member])) ?_
            simp only [List.length_append, List.length_cons] at enough
            omega

theorem search_mono (parse : GoString → Except GoString (K × GoString)) (username : GoString)
    (key : K) {rounds rounds' : Nat} {remaining : GoString} {result : Except GoString Bool}
    (ended : search parse marshal username key rounds remaining = some result)
    (more : rounds ≤ rounds') :
    search parse marshal username key rounds' remaining = some result := by
  induction rounds generalizing rounds' remaining with
  | zero => cases ended
  | succ rounds ih =>
      obtain ⟨rounds', rfl⟩ : ∃ m, rounds' = m + 1 := ⟨rounds' - 1, by omega⟩
      rw [search] at ended ⊢
      by_cases blank : trimSpace remaining = []
      · rw [if_pos blank] at ended ⊢
        exact ended
      · rw [if_neg blank] at ended ⊢
        generalize parse remaining = outcome at ended ⊢
        rcases outcome with err | ⟨parsed, rest⟩
        · exact ended
        · dsimp only at ended ⊢
          by_cases same : marshal parsed = marshal key
          · rw [if_pos same] at ended ⊢
            exact ended
          · rw [if_neg same] at ended ⊢
            exact ih ended (Nat.le_of_succ_le_succ more)

end File

/-- What the files answer. -/
def readsFrom (files : GoString → Except ReadError GoString) : (ask : KeyAsk) → ask.Answer
  | .readFile path => files path

/-- **`IsAuthorized` ends, and says whether the key is on a line of the file exactly when it is,
or when nothing but blank lines stand behind the last key.** -/
theorem isAuthorized_iff {K : Type} (parser : KeyParser K) (marshal : K → GoString) (s : Store)
    (username path : GoString) (accepted : s.pathForUser username = .ok path)
    (files : GoString → Except ReadError GoString) (lines : List GoString)
    (wellformed : ∀ line ∈ lines, Wellformed parser line)
    (held : files path = .ok ([newline].intercalate lines)) (key : K) :
    ∃ result,
      (∀ rounds, lines.length < rounds →
        (isAuthorized parser.parse marshal rounds (some s) username (some key)).eval
          (readsFrom files) = some result) ∧
      ((result = .ok true ↔ Carries parser marshal lines key) ∧
          (result = .ok false ↔ ¬ Carries parser marshal lines key) ↔
        Carries parser marshal lines key ∨ ∀ line ∈ tail parser.keyOf lines, Blank line) := by
  obtain ⟨result, ended, found, missed⟩ := search_lines parser marshal username key
    (fun line member => (wellformed line member).1) (Nat.lt_succ_self lines.length)
  refine ⟨result, fun rounds enough => ?_, ?_⟩
  · simp only [isAuthorized, accepted, Script.eval, readsFrom, held]
    exact search_mono parser.parse username key ended enough
  · rw [found, missed]
    by_cases carried : Carries parser marshal lines key
    · refine iff_of_true ⟨Iff.rfl, ?_⟩ (.inl carried)
      exact iff_of_false (fun both => both.1 carried) fun none_ => none_ carried
    · constructor
      · rintro ⟨-, same⟩
        exact .inr (same.2 carried).2
      · rintro (carried' | blank)
        · exact absurd carried' carried
        · exact ⟨Iff.rfl, fun both => both.1, fun none_ => ⟨none_, blank⟩⟩

/-- A parser that takes every line beginning with `s` for a key, which is the line. -/
def plainParser : KeyParser GoString :=
  let keyOf (line : GoString) : Option GoString :=
    if (trimSpace line).head? = some 0x73 then some (trimSpace line) else none
  { parse := fun text =>
      match firstKey keyOf (text.splitOn newline) with
      | some found => .ok found
      | none => .error (str "ssh: no key found")
    keyOf := keyOf
    blank := fun line blank => by simp [keyOf, (GoText.blank_iff line).1 blank]
    comment := fun line comment => by
      have marked : (trimSpace line).head? = some 0x23 := comment
      simp [keyOf, marked]
    reads := fun text => by
      cases firstKey keyOf (text.splitOn newline) <;> rfl }

/-- A line of that parser: a key, a comment or blank. -/
theorem wellformed_plain {line : GoString} (unbroken : newline ∉ line)
    (kind : (trimSpace line).head? = some 0x73 ∨ (trimSpace line).head? = some 0x23 ∨
      trimSpace line = []) : Wellformed plainParser line := by
  refine ⟨unbroken, ?_⟩
  rcases kind with key | comment | blank
  · exact .inl ⟨_, if_pos key⟩
  · exact .inr (.inl comment)
  · exact .inr (.inr ((GoText.blank_iff line).2 blank))

/-- The lines of two Ed25519 keys. -/
def anaKey : GoString :=
  str "ssh-ed25519 AAAAC3NzaC1lZDI1NTE5AAAAIAECAwQFBgcICQoLDA0ODxAREhMUFRYXGBkaGxwdHh8g ana"

def kimKey : GoString :=
  str "ssh-ed25519 AAAAC3NzaC1lZDI1NTE5AAAAIGVmZ2hpamtsbW5vcHFyc3R1dnd4eXp7fH1+f4CBgoOE kim"

/-- A comment, a key, a blank line and another key: the second one is found. -/
theorem key_found :
    let lines := [str "# team keys", anaKey, str "", kimKey]
    let files (_ : GoString) : Except ReadError GoString := .ok ([newline].intercalate lines)
    (isAuthorized plainParser.parse id 5 (some (newStore (str "/srv/keys"))) (str "kim")
      (some kimKey)).eval (readsFrom files) = some (.ok true) := by
  intro lines files
  have wellformed : ∀ line ∈ lines, Wellformed plainParser line := by
    have kinds : ∀ line ∈ lines, newline ∉ line ∧ ((trimSpace line).head? = some 0x73 ∨
        (trimSpace line).head? = some 0x23 ∨ trimSpace line = []) := by decide +kernel
    exact fun line member => wellformed_plain (kinds line member).1 (kinds line member).2
  have carried : Carries plainParser id lines kimKey :=
    ⟨kimKey, by simp [lines], kimKey, by decide +kernel, rfl⟩
  obtain ⟨result, ended, said⟩ := isAuthorized_iff plainParser id (newStore (str "/srv/keys"))
    (str "kim") (str "/srv/keys/kim") (by decide) files lines wellformed rfl kimKey
  rw [ended 5 (by decide), (said.2 (.inl carried)).1.2 carried]

/-- A comment behind the last key: asked for another key, the file is an error. -/
theorem comment_last :
    let lines := [anaKey, str "# end"]
    let files (_ : GoString) : Except ReadError GoString := .ok ([newline].intercalate lines)
    (∀ line ∈ lines, Wellformed plainParser line) ∧ ¬ Carries plainParser id lines kimKey ∧
      (isAuthorized plainParser.parse id 5 (some (newStore (str "/srv/keys"))) (str "kim")
        (some kimKey)).eval (readsFrom files) =
          some (.error (str "parse authorized keys for kim: ssh: no key found")) := by
  intro lines files
  refine ⟨fun line member => ?_, ?_, by decide +kernel⟩
  · have kinds : ∀ line ∈ lines, newline ∉ line ∧ ((trimSpace line).head? = some 0x73 ∨
        (trimSpace line).head? = some 0x23 ∨ trimSpace line = []) := by decide +kernel
    exact wellformed_plain (kinds line member).1 (kinds line member).2
  · have others : ∀ line ∈ lines, plainParser.keyOf line ≠ some kimKey := by decide +kernel
    rintro ⟨line, member, parsed, found, same⟩
    exact others line member (found.trans (congrArg some same))

end SentinelOps.Crypto
