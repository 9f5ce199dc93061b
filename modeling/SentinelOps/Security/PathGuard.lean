/-
# Security.PathGuard — paths and executables before they are used

What a check answers depends on the process's surroundings only through the working directory
and the search path of executables (`Environment`).

`validatePathInsideBase` looks at the text of a relative path to decide whether a path is below
a directory.  `validatePathInsideBase_eq_ok_iff` says that it decides by elements: the normalised
base is the beginning of the normalised candidate.
-/
import SentinelOps.Theory.GoLower
import SentinelOps.Theory.GoPath

namespace SentinelOps.Security

open Theory
open GoPath (slash isAbs clean join rel elements rooted LeadsUp)
open GoText (GoString str trimSpace)

set_option autoImplicit false

/-- What `os.Getwd` and `exec.LookPath` answer; an error is its text. -/
structure Environment where
  getwd : Except GoString GoString
  lookPath : GoString → Except GoString GoString

def validateFilesystemPath (getwd : Except GoString GoString) (path field : GoString) :
    Except GoString GoString :=
  let cleaned := clean (trimSpace path)
  if cleaned = str "." ∨ cleaned = [] then .error (field ++ str " está vacío")
  else if 0 ∈ cleaned then .error (field ++ str " contiene caracteres no válidos")
  else
    match GoPath.abs getwd cleaned with
    | .error err => .error (str "normalizar " ++ field ++ str ": " ++ err)
    | .ok abs => .ok abs

/-- The path that a candidate stands for: itself if it is absolute, otherwise the one below the
base. -/
def normalisedCandidate (getwd : Except GoString GoString) (baseAbs path field : GoString) :
    Except GoString GoString :=
  let candidate := trimSpace path
  if candidate = [] then .error (field ++ str " está vacío")
  else
    let candidate := if isAbs candidate then candidate else join baseAbs candidate
    validateFilesystemPath getwd candidate field

def validatePathInsideBase (getwd : Except GoString GoString) (base path field : GoString) :
    Except GoString GoString := do
  let baseAbs ← validateFilesystemPath getwd base (str "directorio base")
  let candidateAbs ← normalisedCandidate getwd baseAbs path field
  match GoPath.rel baseAbs candidateAbs with
  | .error err => .error (str "comparar " ++ field ++ str " con directorio base: " ++ err)
  | .ok rel =>
      if LeadsUp rel then .error (field ++ str " queda fuera del directorio permitido")
      else .ok candidateAbs

def validateExecutable (env : Environment) (binary : GoString) : Except GoString GoString :=
  let value := trimSpace binary
  if value = [] then .error (str "el ejecutable está vacío")
  else if 0 ∈ value then .error (str "el ejecutable contiene caracteres no válidos")
  else if value.any fun b => b = 0x2F || b = 0x5C then
    validateFilesystemPath env.getwd value (str "ejecutable")
  else
    match env.lookPath value with
    | .error err => .error (str "resolver ejecutable " ++ value ++ str ": " ++ err)
    | .ok resolved => .ok resolved

/-! ## Normalised paths -/

section Normalised

variable {wd path field result : GoString}

/-- Trimming leaves the separator that a path starts with. -/
theorem isAbs_trimSpace (absolute : isAbs path = true) : isAbs (trimSpace path) = true := by
  obtain ⟨rest, rfl⟩ : ∃ rest, path = slash :: rest := by
    cases path with
    | nil => cases absolute
    | cons b rest => exact ⟨rest, by simpa [isAbs] using absolute⟩
  have first : GoText.pieces (slash :: rest) = (0x2F, [slash]) :: GoText.pieces rest :=
    GoText.pieces_of_encoded (.one (by decide)) rest
  obtain ⟨left, kept⟩ := GoText.trimPieces_cons (p := (0x2F, [slash])) (GoText.pieces rest) rfl
  rw [GoText.trimSpace_eq, first, kept]
  rfl

theorem join_of_isAbs (absolute : isAbs wd = true) :
    join wd path = clean (wd ++ slash :: path) := by
  rw [join, if_neg]
  rintro rfl
  cases absolute

theorem isAbs_append (absolute : isAbs wd = true) : isAbs (wd ++ path) = true := by
  cases wd with
  | nil => cases absolute
  | cons b wd => exact absolute

/-- A normalised path is absolute and clean. -/
theorem validateFilesystemPath_ok (absolute : isAbs wd = true)
    (ok : validateFilesystemPath (.ok wd) path field = .ok result) :
    isAbs result = true ∧ clean result = result := by
  unfold validateFilesystemPath GoPath.abs at ok
  dsimp only at ok
  split_ifs at ok with empty nul rooted
  · cases ok
    exact ⟨GoPath.isAbs_clean rooted, GoPath.clean_clean rooted⟩
  · cases ok
    have slashed : isAbs (wd ++ slash :: clean (trimSpace path)) = true := isAbs_append absolute
    dsimp only
    rw [join_of_isAbs absolute]
    exact ⟨GoPath.isAbs_clean slashed, GoPath.clean_clean slashed⟩

/-- What becomes of an absolute path has no NUL. -/
theorem nul_not_mem_of_ok (absolute : isAbs path = true)
    (ok : validateFilesystemPath (.ok wd) path field = .ok result) : 0 ∉ result := by
  have trimmed := isAbs_trimSpace absolute
  unfold validateFilesystemPath GoPath.abs at ok
  dsimp only at ok
  rw [if_pos (GoPath.isAbs_clean trimmed), GoPath.clean_clean trimmed] at ok
  split_ifs at ok with empty nul
  cases ok
  exact nul

/-- The candidate is absolute before it is normalised, so what becomes of it has no NUL. -/
theorem normalisedCandidate_ok {baseAbs : GoString} (absolute : isAbs wd = true)
    (rooted : isAbs baseAbs = true)
    (ok : normalisedCandidate (.ok wd) baseAbs path field = .ok result) :
    isAbs result = true ∧ clean result = result ∧ 0 ∉ result := by
  unfold normalisedCandidate at ok
  dsimp only at ok
  split at ok
  · cases ok
  · have candidate : isAbs (if isAbs (trimSpace path) = true then trimSpace path
        else join baseAbs (trimSpace path)) = true := by
      split
      · assumption
      · rw [join_of_isAbs rooted]
        exact GoPath.isAbs_clean (isAbs_append rooted)
    obtain ⟨above, cleaned⟩ := validateFilesystemPath_ok absolute ok
    exact ⟨above, cleaned, nul_not_mem_of_ok candidate ok⟩

/-- The check on the relative path of two normalised paths is a check on their elements. -/
theorem leadsUp_rel_iff {baseAbs : GoString} (rooted : isAbs baseAbs = true)
    (cleaned : clean baseAbs = baseAbs) (rooted' : isAbs path = true)
    (cleaned' : clean path = path) :
    ∃ answer, rel baseAbs path = .ok answer ∧
      (LeadsUp answer ↔ ¬ elements baseAbs <+: elements path) := by
  have leads :=
    GoPath.leadsUp_rel_iff (GoPath.names_elements rooted) (GoPath.names_elements rooted')
  rwa [← GoPath.clean_of_isAbs rooted, ← GoPath.clean_of_isAbs rooted', cleaned, cleaned'] at leads

end Normalised

/-! ## Inside a base -/

/-- The candidates that are accepted: those that normalise to something below the normalised
base. -/
theorem validatePathInsideBase_eq_ok_iff {wd base path field result : GoString}
    (absolute : isAbs wd = true) :
    validatePathInsideBase (.ok wd) base path field = .ok result ↔
      ∃ root, validateFilesystemPath (.ok wd) base (str "directorio base") = .ok root ∧
        normalisedCandidate (.ok wd) root path field = .ok result ∧
        elements root <+: elements result := by
  have unfolded : validatePathInsideBase (.ok wd) base path field = .ok result ↔
      ∃ root, validateFilesystemPath (.ok wd) base (str "directorio base") = .ok root ∧
        ∃ candidate, normalisedCandidate (.ok wd) root path field = .ok candidate ∧
          ∃ answer, rel root candidate = .ok answer ∧ ¬ LeadsUp answer ∧ candidate = result := by
    unfold validatePathInsideBase
    cases validateFilesystemPath (.ok wd) base (str "directorio base") with
    | error err => simp [bind, Except.bind]
    | ok root =>
        cases named : normalisedCandidate (.ok wd) root path field with
        | error err => simp [bind, Except.bind, named]
        | ok candidate =>
            simp only [bind, Except.bind, named, Except.ok.injEq, exists_eq_left']
            cases rel root candidate with
            | error err => simp
            | ok answer => by_cases up : LeadsUp answer <;> simp [up]
  rw [unfolded]
  refine exists_congr fun root => and_congr_right fun normalised => ?_
  obtain ⟨rooted, cleaned⟩ := validateFilesystemPath_ok absolute normalised
  constructor
  · rintro ⟨candidate, named, answer, related, inside, rfl⟩
    obtain ⟨rooted', cleaned', -⟩ := normalisedCandidate_ok absolute rooted named
    obtain ⟨answer', related', leads⟩ := leadsUp_rel_iff rooted cleaned rooted' cleaned'
    cases related.symm.trans related'
    exact ⟨named, not_not.1 fun outside => inside (leads.2 outside)⟩
  · rintro ⟨named, inside⟩
    obtain ⟨rooted', cleaned', -⟩ := normalisedCandidate_ok absolute rooted named
    obtain ⟨answer, related, leads⟩ := leadsUp_rel_iff rooted cleaned rooted' cleaned'
    exact ⟨result, named, answer, related, fun up => leads.1 up inside, rfl⟩

/-- **What is accepted is below the base, and what is below the base is accepted.**  A path that
is returned is absolute, clean and without NUL, and the elements of the normalised base are its
first ones; and a candidate that normalises to such a path is returned. -/
theorem path_inside_base (wd : GoString) (absolute : isAbs wd = true)
    (base path field : GoString) :
    (∀ result, validatePathInsideBase (.ok wd) base path field = .ok result →
      isAbs result = true ∧ clean result = result ∧ 0 ∉ result ∧
        ∃ root, validateFilesystemPath (.ok wd) base (str "directorio base") = .ok root ∧
          elements root <+: elements result) ∧
    ∀ root candidate, validateFilesystemPath (.ok wd) base (str "directorio base") = .ok root →
      normalisedCandidate (.ok wd) root path field = .ok candidate →
      elements root <+: elements candidate →
      validatePathInsideBase (.ok wd) base path field = .ok candidate := by
  constructor
  · intro result ok
    obtain ⟨root, normalised, named, inside⟩ := (validatePathInsideBase_eq_ok_iff absolute).1 ok
    have rooted := (validateFilesystemPath_ok absolute normalised).1
    obtain ⟨above, cleaned, noNul⟩ := normalisedCandidate_ok absolute rooted named
    exact ⟨above, cleaned, noNul, root, normalised, inside⟩
  · intro root candidate normalised named inside
    exact (validatePathInsideBase_eq_ok_iff absolute).2 ⟨root, normalised, named, inside⟩

/-- A child whose name starts with two dots, below a base that is given relative to the working
directory. -/
theorem path_inside_base_dots :
    validatePathInsideBase (.ok (str "/srv")) (str " ./data ") (str " x/../..logs//a ")
        (str "ruta") = .ok (str "/srv/data/..logs/a") ∧
      elements (str "/srv/data") <+: elements (str "/srv/data/..logs/a") := by
  have inside : elements (str "/srv/data") <+: elements (str "/srv/data/..logs/a") := by
    decide
  exact ⟨(path_inside_base (str "/srv") (by decide) _ _ _).2 (str "/srv/data") _ (by decide)
    (by decide) inside, inside⟩

end SentinelOps.Security
