/-
# Transport.KeyLogin — a public key over SSH

The keys of a user are in a file named after them, so the file a login is checked against goes by
the trimmed name as it was sent.  What the session may do goes by the name in lower case: its role
(`defaultRoleFor`) and the tunnels it owns (`normalize`).  Two names that differ in nothing but
case have two files and are one owner, and `Admin` is an administrator by the keys in the file
`Admin`.  `keyLaw_iff` says which pairs of names are kept apart.

Poles: `names_apart` and `capital_admin`.
-/
import SentinelOps.Commands.Tunnels
import SentinelOps.Crypto.AuthorizedKeys
import SentinelOps.Transport.PasswordLogin

namespace SentinelOps.Transport

open Theory
open GoText (GoString str trimSpace toLower)
open GoTime (Time)
open GoPath (Name slash join)
open Auth (Identity Role)
open Commands (normalize)
open Crypto (Store KeyAsk isAuthorized pathForUser_eq_ok_iff)
open Session (Session)
open Server (identityOf)

set_option autoImplicit false

/-! ## The callback -/

def defaultRoleFor (username : GoString) : Role :=
  let name := toLower (trimSpace username)
  if name = str "student" then str "student"
  else if name = str "teacher" then str "teacher"
  else if name = str "auditor" then str "auditor"
  else if name = str "admin" then str "admin"
  else str "student"

/-- What an authorized key is given. -/
def keyPermissions (user : GoString) : Permissions :=
  ⟨((GoMap.set ∅ (str "username") user).set (str "role") (defaultRoleFor user)).set
    (str "authn") (str "publickey")⟩

section Callback

variable {K : Type} (parse : GoString → Except GoString (K × GoString)) (marshal : K → GoString)

/-- The `PublicKeyCallback` of `handleConnection`; nothing when the rounds over the file are used
up. -/
def publicKeyCallback (rounds : Nat) (authorizedKeys : Option Store) (user : GoString)
    (key : Option K) : Script KeyAsk KeyAsk.Answer (Option (Except GoString Permissions)) :=
  match authorizedKeys with
  | none =>
      .ret (some (.error
        (str "el almacén de autenticación por clave pública no está configurado")))
  | some store =>
      (isAuthorized parse marshal rounds (some store) user key).map fun outcome =>
        outcome.map fun
          | .error err => .error err
          | .ok ok =>
              if !ok then
                .error (str "la clave pública no está autorizada para el usuario " ++ user)
              else .ok (keyPermissions user)

/-- Who the session belongs to, if the callback accepts. -/
def keyLogin (rounds : Nat) (s : Store) (files : (ask : KeyAsk) → ask.Answer) (created : Session)
    (now : Time) (user : GoString) (key : Option K) : Option Identity :=
  match (publicKeyCallback parse marshal rounds (some s) user key).eval files with
  | some (.ok permissions) => some (identityOf (establish created user (some permissions) now))
  | _ => none

end Callback

/-- Some key, found in some file, opens a session of this identity under this name. -/
def LogsInAs (s : Store) (user : GoString) (identity : Identity) : Prop :=
  ∃ (K : Type) (parse : GoString → Except GoString (K × GoString)) (marshal : K → GoString)
    (rounds : Nat) (files : (ask : KeyAsk) → ask.Answer) (created : Session) (now : Time)
    (key : Option K), keyLogin parse marshal rounds s files created now user key = some identity

theorem defaultRoleFor_ne_nil (user : GoString) : defaultRoleFor user ≠ [] := by
  unfold defaultRoleFor
  simp only
  split_ifs <;> decide

theorem ne_nil_of_accepted {s : Store} {user path : GoString}
    (accepted : s.pathForUser user = .ok path) : user ≠ [] := by
  rintro rfl
  exact ((pathForUser_eq_ok_iff s [] path).1 accepted).2.1 rfl

/-- The callback accepts with the permissions of the name. -/
theorem eval_publicKeyCallback {K : Type} {parse : GoString → Except GoString (K × GoString)}
    {marshal : K → GoString} {rounds : Nat} {s : Store} {user : GoString} {key : Option K}
    {files : (ask : KeyAsk) → ask.Answer} {permissions : Permissions} :
    (publicKeyCallback parse marshal rounds (some s) user key).eval files =
        some (.ok permissions) ↔
      (isAuthorized parse marshal rounds (some s) user key).eval files = some (.ok true) ∧
        permissions = keyPermissions user := by
  rw [publicKeyCallback, Script.eval_map]
  generalize (isAuthorized parse marshal rounds (some s) user key).eval files = outcome
  have refused (other : outcome ≠ some (.ok true)) :
      outcome.map (fun
        | .error err => .error err
        | .ok ok =>
            if !ok then
              .error (str "la clave pública no está autorizada para el usuario " ++ user)
            else .ok (keyPermissions user)) ≠ some (Except.ok permissions) := by
    rcases outcome with _ | err | _ | _
    · intro accepts
      cases accepts
    · intro accepts
      cases accepts
    · intro accepts
      cases accepts
    · exact absurd rfl other
  by_cases found : outcome = some (.ok true)
  · subst found
    constructor
    · intro accepts
      cases accepts
      exact ⟨rfl, rfl⟩
    · rintro ⟨-, rfl⟩
      rfl
  · exact iff_of_false (refused found) fun both => found both.1

/-- Under an accepted name there is one identity to log in as. -/
theorem logsInAs_iff {s : Store} {user path : GoString}
    (accepted : s.pathForUser user = .ok path) (identity : Identity) :
    LogsInAs s user identity ↔ identity = ⟨user, defaultRoleFor user⟩ := by
  have named := ne_nil_of_accepted accepted
  have established : ∀ (created : Session) (now : Time),
      identityOf (establish created user (some (keyPermissions user)) now) =
        ⟨user, defaultRoleFor user⟩ := by
    intro created now
    have given := @identityOf_establish created user ⟨user, defaultRoleFor user⟩ now
      (str "publickey") named (defaultRoleFor_ne_nil user)
    simpa only [keyPermissions] using given
  constructor
  · rintro ⟨K, parse, marshal, rounds, files, created, now, key, login⟩
    unfold keyLogin at login
    split at login
    · next permissions accepts =>
        obtain ⟨-, rfl⟩ := eval_publicKeyCallback.1 accepts
        rw [established, Option.some.injEq] at login
        exact login.symm
    · cases login
  · rintro rfl
    -- Any file will do whose first key is the one offered.
    let parse (_ : GoString) : Except GoString (Unit × GoString) := .ok ((), [])
    let files : (ask : KeyAsk) → ask.Answer := Crypto.readsFrom fun _ => .ok (str "key")
    have solid : trimSpace (str "key") ≠ [] := by decide
    have found : (isAuthorized parse (fun _ => []) 1 (some s) user (some ())).eval files =
        some (.ok true) := by
      simp only [isAuthorized, accepted, Script.eval, files, Crypto.readsFrom, Crypto.search,
        if_neg solid, parse, if_true]
    refine ⟨Unit, parse, fun _ => [], 1, files, ⟨[], [], [], [], 0, 0, [], [], 0⟩, 0, some (), ?_⟩
    rw [keyLogin, eval_publicKeyCallback.2 ⟨found, rfl⟩]
    dsimp only
    rw [established]

/-! ## Files, owners and roles -/

/-- The roles with more rights than a student. -/
def privileged : List Role := [str "teacher", str "auditor", str "admin"]

/-- Two names with different files have different owners, and a role with more rights goes with
the file that is named like the role. -/
structure KeyLaw (s : Store) (u v : GoString) : Prop where
  owners : s.pathForUser u ≠ s.pathForUser v → ∀ i j, LogsInAs s u i → LogsInAs s v j →
    normalize i.username ≠ normalize j.username
  roles : ∀ user ∈ [u, v], ∀ i, LogsInAs s user i → i.role ∈ privileged →
    s.pathForUser user = .ok (join s.dir i.role)

/-- Apart from white space, a name that is a role in some case is that role. -/
def RoleSpelled (user : GoString) : Prop :=
  toLower (trimSpace user) ∈ privileged → trimSpace user = toLower (trimSpace user)

theorem defaultRoleFor_privileged (user : GoString) :
    (defaultRoleFor user ∈ privileged ↔ toLower (trimSpace user) ∈ privileged) ∧
      (toLower (trimSpace user) ∈ privileged → defaultRoleFor user = toLower (trimSpace user)) := by
  unfold defaultRoleFor
  generalize toLower (trimSpace user) = name
  have student : str "student" ∉ privileged := by decide
  simp only
  split_ifs with isStudent isTeacher isAuditor isAdmin
  · subst isStudent
    exact ⟨Iff.rfl, fun _ => rfl⟩
  · subst isTeacher
    exact ⟨Iff.rfl, fun _ => rfl⟩
  · subst isAuditor
    exact ⟨Iff.rfl, fun _ => rfl⟩
  · subst isAdmin
    exact ⟨Iff.rfl, fun _ => rfl⟩
  · have other : name ∉ privileged := by simp [privileged, isTeacher, isAuditor, isAdmin]
    exact ⟨iff_of_false student other, fun member => absurd member other⟩

theorem name_of_privileged {role : Role} (member : role ∈ privileged) : Name role := by
  have all : ∀ role ∈ privileged, role ≠ [] ∧ role ≠ str "." ∧ role ≠ str ".." ∧ slash ∉ role := by
    decide
  obtain ⟨nonempty, notDot, notUp, noSlash⟩ := all role member
  exact ⟨nonempty, notDot, notUp, noSlash⟩

section Accepted

variable {s : Store} {u v path path' : GoString} (accepted : s.pathForUser u = .ok path)
include accepted

/-- The file is the one named like the role exactly when the name is the role. -/
theorem role_file_iff :
    (∀ i, LogsInAs s u i → i.role ∈ privileged → s.pathForUser u = .ok (join s.dir i.role)) ↔
      RoleSpelled u := by
  obtain ⟨hasDir, -, noSlash, rfl⟩ := (pathForUser_eq_ok_iff s u path).1 accepted
  obtain ⟨same, given⟩ := defaultRoleFor_privileged u
  simp only [logsInAs_iff accepted, forall_eq, same, accepted, Except.ok.injEq]
  refine imp_congr_right fun member => ?_
  rw [given member]
  constructor
  · exact GoPath.eq_of_join_eq hasDir noSlash (name_of_privileged member)
  · intro spelled
    rw [← spelled]

/-- Names of one lower case have one file exactly when they are one name. -/
theorem same_file_iff (accepted' : s.pathForUser v = .ok path')
    (alike : toLower (trimSpace u) = toLower (trimSpace v)) :
    s.pathForUser u = s.pathForUser v ↔ trimSpace u = trimSpace v := by
  obtain ⟨hasDir, nonempty, noSlash, rfl⟩ := (pathForUser_eq_ok_iff s u path).1 accepted
  obtain ⟨-, nonempty', noSlash', rfl⟩ := (pathForUser_eq_ok_iff s v path').1 accepted'
  rw [accepted, accepted', Except.ok.injEq]
  constructor
  · intro same
    by_cases name : Name (trimSpace v)
    · exact GoPath.eq_of_join_eq hasDir noSlash name same
    · by_cases name' : Name (trimSpace u)
      · exact (GoPath.eq_of_join_eq hasDir noSlash' name' same.symm).symm
      · -- Two names of dots, and lowering leaves dots alone.
        rcases GoPath.dots_of_not_name nonempty noSlash name' with dots | dots <;>
          rcases GoPath.dots_of_not_name nonempty' noSlash' name with dots' | dots' <;>
          rw [dots, dots'] at alike ⊢
        · exact absurd alike (by decide)
        · exact absurd alike (by decide)
  · intro same
    rw [same]

end Accepted

/-- **Which pairs of names are kept apart**: those that, apart from white space, are one name or
differ in more than case, if neither is a role in another case. -/
theorem keyLaw_iff (s : Store) (u v path path' : GoString)
    (accepted : s.pathForUser u = .ok path) (accepted' : s.pathForUser v = .ok path') :
    KeyLaw s u v ↔
      (trimSpace u = trimSpace v ∨ toLower (trimSpace u) ≠ toLower (trimSpace v)) ∧
        RoleSpelled u ∧ RoleSpelled v := by
  have owners : (s.pathForUser u ≠ s.pathForUser v → ∀ i j, LogsInAs s u i → LogsInAs s v j →
      normalize i.username ≠ normalize j.username) ↔
      (trimSpace u = trimSpace v ∨ toLower (trimSpace u) ≠ toLower (trimSpace v)) := by
    simp only [logsInAs_iff accepted, logsInAs_iff accepted']
    by_cases alike : toLower (trimSpace u) = toLower (trimSpace v)
    · rw [Ne, same_file_iff accepted accepted' alike]
      simp [Commands.normalize, alike]
    · simp [Commands.normalize, alike]
  constructor
  · intro law
    refine ⟨owners.1 law.owners, ?_, ?_⟩
    · exact (role_file_iff accepted).1 (law.roles u (by simp))
    · exact (role_file_iff accepted').1 (law.roles v (by simp))
  · rintro ⟨apart, spelled, spelled'⟩
    refine ⟨owners.2 apart, fun user member => ?_⟩
    rcases List.mem_pair.1 member with rfl | rfl
    · exact (role_file_iff accepted).2 spelled
    · exact (role_file_iff accepted').2 spelled'

/-- Two names in lower case, one of them a role, with blanks around it. -/
theorem names_apart :
    let s := Crypto.newStore (str "/srv/keys")
    s.pathForUser (str " admin ") = .ok (str "/srv/keys/admin") ∧
      s.pathForUser (str "kim") = .ok (str "/srv/keys/kim") ∧
      KeyLaw s (str " admin ") (str "kim") := by
  intro s
  have file : s.pathForUser (str " admin ") = .ok (str "/srv/keys/admin") := by decide
  have file' : s.pathForUser (str "kim") = .ok (str "/srv/keys/kim") := by decide
  refine ⟨file, file', (keyLaw_iff s _ _ _ _ file file').2 ⟨.inr (by decide), ?_, ?_⟩⟩
  · intro _
    decide
  · intro _
    decide

/-- `Admin` has a file of its own, and its keys open the sessions of the administrator. -/
theorem capital_admin :
    let s := Crypto.newStore (str "/srv/keys")
    s.pathForUser (str "Admin") = .ok (str "/srv/keys/Admin") ∧
      s.pathForUser (str "admin") = .ok (str "/srv/keys/admin") ∧
      defaultRoleFor (str "Admin") = str "admin" ∧
      normalize (str "Admin") = normalize (str "admin") ∧
      ¬ KeyLaw s (str "Admin") (str "admin") := by
  intro s
  have file : s.pathForUser (str "Admin") = .ok (str "/srv/keys/Admin") := by decide
  have file' : s.pathForUser (str "admin") = .ok (str "/srv/keys/admin") := by decide
  have owner : normalize (str "Admin") = normalize (str "admin") := by decide
  refine ⟨file, file', by decide, owner, fun law => ?_⟩
  have other : s.pathForUser (str "Admin") ≠ s.pathForUser (str "admin") := by
    rw [file, file']
    decide
  exact law.owners other _ _ ((logsInAs_iff file _).2 rfl) ((logsInAs_iff file' _).2 rfl) owner

end SentinelOps.Transport
