/-
# Auth.Service — accounts, passwords and the key of a login attempt

Four accounts, each with a password from the environment or a generated one.  A username is
lowered and trimmed before it is looked up; a password is compared as it is.
-/
import SentinelOps.Theory.GoMap
import SentinelOps.Theory.GoNet

namespace SentinelOps.Auth

open Theory
open GoText (GoString str trimSpace toLower)

set_option autoImplicit false

abbrev Role := GoString

structure Identity where
  username : GoString
  role : Role
  deriving DecidableEq

structure UserRecord where
  password : GoString
  role : Role

structure Service where
  users : GoMap GoString UserRecord

def alphabet : GoString := str "ABCDEFGHIJKLMNOPQRSTUVWXYZabcdefghijklmnopqrstuvwxyz0123456789"

/-- `secrets.GeneratePassword`, on the bytes the random source filled the buffer with. -/
def generatePassword {length : Nat} (buffer : Vector UInt8 length) : GoString :=
  buffer.toList.map fun b => alphabet.getD (b.toNat % alphabet.length) 0

/-- The first of the variables that is set and not empty; otherwise a generated password. -/
def newUserRecord (lookupEnv : GoString → Option GoString) (buffer : Vector UInt8 20) (role : Role)
    (envKeys : List GoString) : UserRecord where
  password := ((envKeys.filterMap lookupEnv).find? fun secret => secret ≠ []).getD
    (generatePassword buffer)
  role := role

/-- `random` is what the random source gives each account. -/
def newDefaultService (lookupEnv : GoString → Option GoString)
    (random : GoString → Vector UInt8 20) : Service where
  users :=
    let record (username : GoString) (role : Role) (envKeys : List GoString) :=
      newUserRecord lookupEnv (random username) role envKeys
    (((GoMap.set ∅ (str "student") (record (str "student") (str "student")
        [str "LAB_PASSWORD_STUDENT", str "APP_AUTH_STUDENT_PASSWORD"])).set
      (str "teacher") (record (str "teacher") (str "teacher")
        [str "LAB_PASSWORD_TEACHER", str "APP_AUTH_TEACHER_PASSWORD"])).set
      (str "auditor") (record (str "auditor") (str "auditor")
        [str "LAB_PASSWORD_AUDITOR", str "APP_AUTH_AUDITOR_PASSWORD"])).set
      (str "admin") (record (str "admin") (str "admin")
        [str "LAB_PASSWORD_ADMIN", str "APP_AUTH_ADMIN_PASSWORD"])

/-- An account without a password accepts none. -/
def securePasswordEqual (actual expected : GoString) : Bool :=
  if expected = [] then false
  else if actual.length ≠ expected.length then false
  else actual = expected

/-- The name under which an account is found. -/
def tableName (username : GoString) : GoString := trimSpace (toLower username)

def Service.authenticate (s : Service) (username password : GoString) : Except GoString Identity :=
  let user := tableName username
  match s.users.get user with
  | none => .error (str "invalid credentials")
  | some record =>
      if !securePasswordEqual password record.password then .error (str "invalid credentials")
      else .ok ⟨user, record.role⟩

/-- The host an address is counted for: without its port, if it has one. -/
def hostPart (remoteAddr : GoString) : GoString :=
  (GoNet.splitHost remoteAddr).getD remoteAddr

/-- `Key`: the host the client connects from and the name it gives. -/
def key (remoteAddr username : GoString) : GoString :=
  toLower (trimSpace (hostPart remoteAddr)) ++ str "|" ++ toLower (trimSpace username)

theorem securePasswordEqual_iff (actual expected : GoString) :
    securePasswordEqual actual expected = true ↔ expected ≠ [] ∧ actual = expected := by
  unfold securePasswordEqual
  by_cases empty : expected = []
  · simp [empty]
  · rw [if_neg empty]
    by_cases same : actual = expected
    · simp [same, empty]
    · simp [same]

theorem newUserRecord_password_ne_nil (lookupEnv : GoString → Option GoString)
    (buffer : Vector UInt8 20) (role : Role) (envKeys : List GoString) :
    (newUserRecord lookupEnv buffer role envKeys).password ≠ [] := by
  simp only [newUserRecord]
  cases found : (envKeys.filterMap lookupEnv).find? fun secret => secret ≠ [] with
  | some secret => simpa using List.find?_some found
  | none =>
      intro empty
      have length : (generatePassword buffer).length = 20 := by simp [generatePassword]
      rw [Option.getD_none] at empty
      rw [empty] at length
      cases length

/-- Every account of the default service has a name, a role and a password. -/
theorem newDefaultService_account {lookupEnv : GoString → Option GoString}
    {random : GoString → Vector UInt8 20} {user : GoString} {record : UserRecord}
    (found : (newDefaultService lookupEnv random).users.get user = some record) :
    user ≠ [] ∧ record.role ≠ [] ∧ record.password ≠ [] := by
  have account : ∃ name role envKeys, name ≠ [] ∧ role ≠ [] ∧ user = name ∧
      record = newUserRecord lookupEnv (random name) role envKeys := by
    simp only [newDefaultService, GoMap.get_set] at found
    split_ifs at found with admin auditor teacher student
    · exact ⟨str "admin", str "admin", _, by decide, by decide, admin, (Option.some.inj found).symm⟩
    · exact ⟨str "auditor", str "auditor", _, by decide, by decide, auditor,
        (Option.some.inj found).symm⟩
    · exact ⟨str "teacher", str "teacher", _, by decide, by decide, teacher,
        (Option.some.inj found).symm⟩
    · exact ⟨str "student", str "student", _, by decide, by decide, student,
        (Option.some.inj found).symm⟩
    · rw [GoMap.get_empty] at found
      cases found
  obtain ⟨name, role, envKeys, named, hasRole, rfl, rfl⟩ := account
  exact ⟨named, hasRole, newUserRecord_password_ne_nil lookupEnv (random user) role envKeys⟩

/-- An account lets in who gives its name, up to case and surrounding white space, and exactly
its password. -/
theorem Service.authenticate_toOption (s : Service) (username password : GoString) :
    (s.authenticate username password).toOption =
      (s.users.get (tableName username)).bind fun record =>
        if record.password ≠ [] ∧ password = record.password then
          some ⟨tableName username, record.role⟩
        else none := by
  simp only [Service.authenticate]
  cases s.users.get (tableName username) with
  | none => rfl
  | some record =>
      rw [Option.bind_some]
      by_cases right : record.password ≠ [] ∧ password = record.password
      · have equal := (securePasswordEqual_iff password record.password).2 right
        simp only [equal, if_pos right, Bool.not_true, Bool.false_eq_true, if_false]
        rfl
      · have differ := mt (securePasswordEqual_iff password record.password).1 right
        simp only [Bool.eq_false_of_not_eq_true differ, if_neg right, Bool.not_false, if_true]
        rfl

end SentinelOps.Auth
