/-
# Forwarding.Policy — which targets and binds a role may use

A target is compared as text: host and port joined, lower case (`normalizeTarget`).  The sets
of a policy are read from comma-separated lists, with the same normalisation of each item.
-/
import SentinelOps.Theory.GoNet

namespace SentinelOps.Forwarding

open Theory.GoNet (joinHostPort)
open Theory.GoText (GoString str trimSpace toLower decimal)

set_option autoImplicit false

def normalize (value : GoString) : GoString := toLower (trimSpace value)

/-- `map[string]struct{}`, as the list of its keys. -/
abbrev StringSet := List GoString

def parseCSVSet (value : GoString) : StringSet :=
  ((value.splitOn 0x2C).map normalize).filter fun item => item ≠ []

def sortedKeys (input : StringSet) : List GoString := input.dedup.insertionSort (· ≤ ·)

def normalizeTarget (host : GoString) (port : UInt32) : GoString :=
  toLower (joinHostPort (trimSpace host) (decimal port.toNat))

structure Policy where
  localEnabled : Bool
  localAllowlist : StringSet
  localAllowedRoles : StringSet
  remoteEnabled : Bool
  remoteBindAllow : StringSet
  remoteAllowedRoles : StringSet

def newPolicy (localEnabled : Bool) (localAllowlistCSV localRolesCSV : GoString)
    (remoteEnabled : Bool) (remoteBindAllowlistCSV remoteRolesCSV : GoString) : Policy where
  localEnabled := localEnabled
  localAllowlist := parseCSVSet localAllowlistCSV
  localAllowedRoles := parseCSVSet localRolesCSV
  remoteEnabled := remoteEnabled
  remoteBindAllow := parseCSVSet remoteBindAllowlistCSV
  remoteAllowedRoles := parseCSVSet remoteRolesCSV

/-- One direction of a policy.  No roles means every role. -/
def admits (enabled : Bool) (roles targets : StringSet) (role host : GoString) (port : UInt32) :
    Bool :=
  enabled && (roles.isEmpty || normalize role ∈ roles) && normalizeTarget host port ∈ targets

def Policy.allowLocalTarget (p : Policy) (role host : GoString) (port : UInt32) : Bool :=
  admits p.localEnabled p.localAllowedRoles p.localAllowlist role host port

def Policy.allowRemoteBind (p : Policy) (role host : GoString) (port : UInt32) : Bool :=
  admits p.remoteEnabled p.remoteAllowedRoles p.remoteBindAllow role host port

def Policy.allowedLocalTargets (p : Policy) : List GoString := sortedKeys p.localAllowlist

example :
    (newPolicy false [] [] true (str "Localhost:8080, [::1]:0,") []).allowRemoteBind (str "admin")
      (str " ::1 ") 0 = true := by
  decide

end SentinelOps.Forwarding
