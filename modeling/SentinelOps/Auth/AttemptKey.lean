/-
# Auth.AttemptKey — who shares a budget of failed logins

Failed logins are counted under `key`, accounts are found under `tableName`.  The key is built of
the host and the name with a bar between them, each trimmed and then lowered; the account is found
by the name lowered and then trimmed.  The two orders agree (`trimSpace_toLower`), and lowering
makes no bar (`mem_toLower_caseless`), so behind a host without a bar the key says exactly which
host and which account it counts for (`key_eq_iff`).
-/
import SentinelOps.Auth.Service

namespace SentinelOps.Auth

open Theory
open GoNet (joinHostPort)
open GoText (GoString str trimSpace toLower)

set_option autoImplicit false

def bar : UInt8 := 0x7C

theorem key_eq (remoteAddr username : GoString) :
    key remoteAddr username =
      toLower (trimSpace (hostPart remoteAddr)) ++ bar :: tableName username := by
  have separator : str "|" = [bar] := by decide
  rw [tableName, GoText.trimSpace_toLower, key, separator, List.append_assoc,
    List.singleton_append]

/-- The address of a client is a host and a port, so the host can be read off it. -/
theorem hostPart_joinHostPort {host port : GoString}
    (plain : GoNet.openBracket ∉ host ∧ GoNet.closeBracket ∉ host)
    (number : GoNet.colon ∉ port ∧ GoNet.openBracket ∉ port ∧ GoNet.closeBracket ∉ port) :
    hostPart (joinHostPort host port) = host := by
  rw [hostPart, GoNet.splitHost_joinHostPort plain number, Option.getD_some]

/-- **No port has a budget of its own**: from one host, two attempts share a budget exactly when
they name one account. -/
theorem key_joinHostPort {host port port' : GoString}
    (plain : GoNet.openBracket ∉ host ∧ GoNet.closeBracket ∉ host)
    (number : GoNet.colon ∉ port ∧ GoNet.openBracket ∉ port ∧ GoNet.closeBracket ∉ port)
    (number' : GoNet.colon ∉ port' ∧ GoNet.openBracket ∉ port' ∧ GoNet.closeBracket ∉ port')
    (u v : GoString) :
    key (joinHostPort host port) u = key (joinHostPort host port') v ↔
      tableName u = tableName v := by
  rw [key_eq, key_eq, hostPart_joinHostPort plain number, hostPart_joinHostPort plain number',
    List.append_cancel_left_eq, List.cons.injEq]
  exact and_iff_right rfl

end SentinelOps.Auth
