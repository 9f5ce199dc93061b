/-
# Client.KnownHosts — trust on first use over a table that is read once

`knownhostscb.New` builds the host key callback of the SSH client.  With unknown hosts
accepted, the callback asks the callback of the known-hosts library and, when that one does
not know the host, appends a line for it to the file.  The library reads the file once, when
its callback is built: a line that was appended is in the file and never in the table.

So a host that was unknown at the start stays unknown to the callback.  A second call for it,
with any key, is accepted and gains the host a second line.  `pins_iff` says which runs keep
the promise of the first use.

The library is a parameter (`Lookup`) with the behaviour its documentation gives.
-/
import SentinelOps.Theory.GoText
import SentinelOps.Theory.Transducer

namespace SentinelOps.Client

open Theory Transducer
open GoText (GoString str trimSpace)

set_option autoImplicit false

/-! ## Building the callback -/

/-- What the callback returns when it is not nil: a `knownhosts.KeyError` with the keys it
wanted, or any other error with its text. -/
inductive HostKeyError (Key : Type) where
  | keyError (want : List Key)
  | other (text : GoString)
deriving DecidableEq

/-- The three callbacks `New` may return. -/
inductive Callback where
  | insecureIgnoreHostKey
  | base
  | acceptUnknown
deriving DecidableEq

inductive Stat where
  | found
  | notExist
  | failed (err : GoString)

/-- What the file system and the library answer while `New` runs; an error is its text. -/
structure Setup where
  validateFilesystemPath : Except GoString GoString
  mkdirAll : Option GoString
  stat : Stat
  writeFile : Option GoString
  load : Option GoString

def wrapped (context : String) : Option GoString → Except GoString Unit
  | none => .ok ()
  | some err => .error (str context ++ str ": " ++ err)

/-- A file that does not exist is created empty. -/
def ensureFile (setup : Setup) : Except GoString Unit :=
  match setup.stat with
  | .notExist => wrapped "crear archivo known_hosts" setup.writeFile
  | .failed err => wrapped "consultar archivo known_hosts" (some err)
  | .found => .ok ()

def new (path : GoString) (strict acceptUnknown : Bool) (setup : Setup) :
    Except GoString Callback :=
  if !strict then .ok .insecureIgnoreHostKey
  else if trimSpace path = [] then .error (str "la ruta de known_hosts está vacía")
  else do
    let _ ← setup.validateFilesystemPath
    wrapped "crear directorio known_hosts" setup.mkdirAll
    ensureFile setup
    wrapped "cargar callback de known_hosts" setup.load
    return if !acceptUnknown then .base else .acceptUnknown

/-! ## One call -/

/-- The known-hosts library over the file it read: the host a name stands for, the keys the
file has for a host, and the check.  It reports an error that wants no key exactly for a host
the file does not have, and accepts only a key the file has for the host. -/
structure Lookup (Host Key : Type) where
  host : GoString → Host
  known : Host → List Key
  check : GoString → Key → Option (HostKeyError Key)
  unknown_iff : ∀ hostname key,
    check hostname key = some (.keyError []) ↔ known (host hostname) = []
  accepts : ∀ hostname key, check hostname key = none → key ∈ known (host hostname)

/-- How the file takes the line. -/
inductive Append where
  | done
  | openFailed (err : GoString)
  | writeFailed (err : GoString)
deriving DecidableEq

structure Call (Key : Type) where
  hostname : GoString
  key : Key
  append : Append := .done

/-- The lines appended to the file since it was read. -/
abbrev Lines (Key : Type) := List (GoString × Key)

section Calls

variable {Host Key : Type} (lookup : Lookup Host Key)

/-- The call of the accepting callback, given what the library says of it: what it returns
and the lines after it.  A write that fails gains no line. -/
def acceptUnknownHost (lines : Lines Key) (c : Call Key) :
    Option (HostKeyError Key) → Option (HostKeyError Key) × Lines Key
  | none => (none, lines)
  | some (.keyError []) =>
      match c.append with
      | .openFailed err => (some (.other (str "abrir known_hosts para anexar: " ++ err)), lines)
      | .writeFailed err => (some (.other (str "agregar entrada a known_hosts: " ++ err)), lines)
      | .done => (none, lines ++ [(c.hostname, c.key)])
  | some err => (some err, lines)

def callback (cb : Callback) (lines : Lines Key) (c : Call Key) :
    Option (HostKeyError Key) × Lines Key :=
  match cb with
  | .insecureIgnoreHostKey => (none, lines)
  | .base => (lookup.check c.hostname c.key, lines)
  | .acceptUnknown => acceptUnknownHost lines c (lookup.check c.hostname c.key)

/-- The keys known for a host: those of the file as read and of the lines appended since. -/
def keysOf [DecidableEq Host] (lines : Lines Key) (h : Host) : List Key :=
  lookup.known h ++ (lines.filter fun line => lookup.host line.1 = h).map Prod.snd

end Calls

section Runs

variable {Host Key : Type} [DecidableEq Host] (lookup : Lookup Host Key) (cb : Callback)

/-- The file has a line for the host. -/
def Pinned (lines : Lines Key) (h : Host) : Prop := keysOf lookup lines h ≠ []

/-- The lines after a run of calls. -/
def linesAfter (calls : List (Call Key)) : Lines Key := final (callback lookup cb) [] calls

/-- After a call for a host returned nil, no call for that host with a key that is not known
for it returns nil. -/
def RejectsOtherKeys (calls : List (Call Key)) : Prop :=
  ∀ before first between call rest, calls = before ++ first :: between ++ call :: rest →
    lookup.host first.hostname = lookup.host call.hostname →
    (callback lookup cb (linesAfter lookup cb before) first).1 = none →
    call.key ∉ keysOf lookup (linesAfter lookup cb (before ++ first :: between))
      (lookup.host call.hostname) →
    (callback lookup cb (linesAfter lookup cb (before ++ first :: between)) call).1 ≠ none

/-- No call for a host that has a line gains the file a line. -/
def PinsOnce (calls : List (Call Key)) : Prop :=
  ∀ before call rest, calls = before ++ call :: rest →
    Pinned lookup (linesAfter lookup cb before) (lookup.host call.hostname) →
    (callback lookup cb (linesAfter lookup cb before) call).2 = linesAfter lookup cb before

/-- The call is for a host the library does not have but the file does, and the file takes a
line. -/
def Repeats (lines : Lines Key) (c : Call Key) : Prop :=
  lookup.known (lookup.host c.hostname) = [] ∧ Pinned lookup lines (lookup.host c.hostname) ∧
    c.append = .done

instance [DecidableEq Key] (lines : Lines Key) (c : Call Key) :
    Decidable (Repeats lookup lines c) :=
  inferInstanceAs (Decidable (_ = [] ∧ keysOf lookup lines _ ≠ [] ∧ _ = _))

end Runs

/-! ## What a call does -/

section Step

variable {Host Key : Type} {lookup : Lookup Host Key} {lines : Lines Key} {c : Call Key}

theorem new_acceptUnknown {path : GoString} {setup : Setup} {cb : Callback}
    (built : new path true true setup = .ok cb) : cb = .acceptUnknown := by
  have last : ∀ {A : Type} {x : Except GoString A} {f : A → Except GoString Callback},
      (x >>= f) = .ok cb → ∃ a, f a = .ok cb := by
    intro A x f bound
    cases x with
    | error err => cases bound
    | ok a => exact ⟨a, bound⟩
  rw [new, if_neg (by decide)] at built
  split at built
  · cases built
  · obtain ⟨_, built⟩ := last built
    obtain ⟨_, built⟩ := last built
    obtain ⟨_, built⟩ := last built
    obtain ⟨_, built⟩ := last built
    cases built
    rfl

/-- The three ends of a call: a key the library has, a line for a host it does not have, and
an error. -/
theorem callback_cases (lookup : Lookup Host Key) (lines : Lines Key) (c : Call Key) :
    (callback lookup .acceptUnknown lines c = (none, lines) ∧
      c.key ∈ lookup.known (lookup.host c.hostname)) ∨
    (callback lookup .acceptUnknown lines c = (none, lines ++ [(c.hostname, c.key)]) ∧
      lookup.known (lookup.host c.hostname) = [] ∧ c.append = .done) ∨
    (∃ err, callback lookup .acceptUnknown lines c = (some err, lines)) := by
  simp only [callback]
  cases checked : lookup.check c.hostname c.key with
  | none => exact .inl ⟨rfl, lookup.accepts _ _ checked⟩
  | some err =>
      cases err with
      | other text => exact .inr (.inr ⟨_, rfl⟩)
      | keyError want =>
          cases want with
          | cons key want => exact .inr (.inr ⟨_, rfl⟩)
          | nil =>
              have unknown := (lookup.unknown_iff _ _).1 checked
              simp only [acceptUnknownHost]
              cases taken : c.append with
              | done => exact .inr (.inl ⟨rfl, unknown, rfl⟩)
              | openFailed err => exact .inr (.inr ⟨_, rfl⟩)
              | writeFailed err => exact .inr (.inr ⟨_, rfl⟩)

theorem callback_of_unknown (unknown : lookup.known (lookup.host c.hostname) = [])
    (taken : c.append = .done) :
    callback lookup .acceptUnknown lines c = (none, lines ++ [(c.hostname, c.key)]) := by
  simp only [callback, (lookup.unknown_iff _ c.key).2 unknown, acceptUnknownHost, taken]

variable [DecidableEq Host]

theorem keysOf_append (more : Lines Key) (h : Host) :
    keysOf lookup (lines ++ more) h =
      keysOf lookup lines h ++ (more.filter fun line => lookup.host line.1 = h).map Prod.snd := by
  simp [keysOf]

theorem known_subset_keysOf (h : Host) : lookup.known h ⊆ keysOf lookup lines h :=
  List.subset_append_left ..

/-- A call only adds lines. -/
theorem Pinned.callback {h : Host} (pinned : Pinned lookup lines h) :
    Pinned lookup (callback lookup .acceptUnknown lines c).2 h := by
  rcases callback_cases lookup lines c with ⟨ran, -⟩ | ⟨ran, -⟩ | ⟨err, ran⟩
  · rw [ran]
    exact pinned
  · rw [ran, Pinned, keysOf_append]
    simp [show keysOf lookup lines h ≠ [] from pinned]
  · rw [ran]
    exact pinned

/-- A host for which a call returned nil has a line from then on. -/
theorem pinned_of_accepted (accepted : (callback lookup .acceptUnknown lines c).1 = none) :
    Pinned lookup (callback lookup .acceptUnknown lines c).2 (lookup.host c.hostname) := by
  rcases callback_cases lookup lines c with ⟨ran, key⟩ | ⟨ran, -⟩ | ⟨err, ran⟩
  · rw [ran]
    exact List.ne_nil_of_mem (known_subset_keysOf _ key)
  · rw [ran, Pinned, keysOf_append]
    simp
  · rw [ran] at accepted
    cases accepted

/-- A call that does not repeat a first use, for a host with a line, gains none and accepts
only a key that is known. -/
theorem callback_of_pinned (pinned : Pinned lookup lines (lookup.host c.hostname))
    (fresh : ¬ Repeats lookup lines c) :
    (callback lookup .acceptUnknown lines c).2 = lines ∧
      ((callback lookup .acceptUnknown lines c).1 = none →
        c.key ∈ keysOf lookup lines (lookup.host c.hostname)) := by
  rcases callback_cases lookup lines c with ⟨ran, key⟩ | ⟨ran, unknown, taken⟩ | ⟨err, ran⟩
  · rw [ran]
    exact ⟨rfl, fun _ => known_subset_keysOf _ key⟩
  · exact absurd ⟨unknown, pinned, taken⟩ fresh
  · rw [ran]
    exact ⟨rfl, fun accepted => by cases accepted⟩

end Step

/-! ## Runs -/

section Trust

variable {Host Key : Type} [DecidableEq Host] (lookup : Lookup Host Key)

/-- **The first use of a host is trusted for good exactly in the runs in which no call repeats
it.**  The callback that `New` builds with unknown hosts accepted rejects every other key and
pins every host once if and only if no call names a host that the file lacked when it was read
and has gained since, with the file taking the line. -/
theorem pins_iff {path : GoString} {setup : Setup} {cb : Callback}
    (built : new path true true setup = .ok cb) (calls : List (Call Key)) :
    RejectsOtherKeys lookup cb calls ∧ PinsOnce lookup cb calls ↔
      Throughout (callback lookup cb) (fun lines c => ¬ Repeats lookup lines c) [] calls := by
  cases new_acceptUnknown built
  rw [throughout_iff]
  constructor
  · rintro ⟨-, once⟩ before call rest split ⟨unknown, pinned, taken⟩
    have unchanged := once before call rest split pinned
    rw [callback_of_unknown unknown taken] at unchanged
    simp at unchanged
  · intro fresh
    constructor
    · intro before first between call rest split same accepted other returned
      have pinned : Pinned lookup (linesAfter lookup .acceptUnknown (before ++ first :: between))
          (lookup.host call.hostname) := by
        rw [← same, linesAfter, final_append, final_cons]
        exact final_invariant (I := fun lines => Pinned lookup lines (lookup.host first.hostname))
          (fun _ _ _ pinned => pinned.callback) (pinned_of_accepted accepted)
      exact other ((callback_of_pinned pinned (fresh _ call rest split)).2 returned)
    · intro before call rest split pinned
      exact (callback_of_pinned pinned (fresh before call rest split)).1

end Trust

/-- A library whose file lists the keys of every host, one name a host. -/
def tableLookup {Key : Type} [DecidableEq Key] (known : GoString → List Key) :
    Lookup GoString Key where
  host := id
  known := known
  check hostname key :=
    if known hostname = [] then some (.keyError [])
    else if key ∈ known hostname then none
    else some (.keyError (known hostname))
  unknown_iff hostname key := by
    dsimp only [id]
    split_ifs with empty member
    · simp [empty]
    · simp [empty]
    · simp [empty]
  accepts hostname key accepted := by
    dsimp only [id]
    split_ifs at accepted with empty member
    exact member

/-- A file system on which everything succeeds. -/
def plainSetup : Setup where
  validateFilesystemPath := .ok (str "known_hosts")
  mkdirAll := none
  stat := .notExist
  writeFile := none
  load := none

/-- A host of the file, with two keys, and the first use of another host. -/
theorem pins_two_hosts :
    let lookup := tableLookup fun h => if h = str "a:22" then [(1 : Nat)] else []
    let calls : List (Call Nat) :=
      [⟨str "a:22", 1, .done⟩, ⟨str "b:22", 2, .done⟩, ⟨str "a:22", 3, .done⟩]
    new (str "known_hosts") true true plainSetup = .ok .acceptUnknown ∧
      RejectsOtherKeys lookup .acceptUnknown calls ∧ PinsOnce lookup .acceptUnknown calls ∧
      replies (callback lookup .acceptUnknown) [] calls =
        [none, none, some (.keyError [1])] := by
  intro lookup calls
  have built : new (str "known_hosts") true true plainSetup = .ok .acceptUnknown := by decide
  have law := (pins_iff lookup built calls).2 ⟨by decide, by decide, by decide, trivial⟩
  exact ⟨built, law.1, law.2, by decide⟩

/-- Two keys for one new host: both are accepted and the file gains two lines. -/
theorem first_use_repeated :
    let lookup := tableLookup fun _ => ([] : List Nat)
    let calls : List (Call Nat) := [⟨str "b:22", 1, .done⟩, ⟨str "b:22", 2, .done⟩]
    replies (callback lookup .acceptUnknown) [] calls = [none, none] ∧
      linesAfter lookup .acceptUnknown calls = [(str "b:22", 1), (str "b:22", 2)] := by
  decide

end SentinelOps.Client
