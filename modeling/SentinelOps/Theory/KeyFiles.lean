/-
# Theory.KeyFiles — certificates, private keys, and the files that hold them

What `crypto/x509`, `encoding/pem` and `tls.LoadX509KeyPair` do for a server that keeps its
certificate and its key in two files.  A PEM file is the list of its blocks; `pem.Decode` skips
what stands between them.  The bytes of a block are DER, and only the parsers look into it.  They
and the functions that write DER are the fields of `X509`, whose two laws say that what was written
is read back, with times cut to whole seconds.

`loadX509KeyPair` checks that the two files parse and match.  It looks at neither dates nor names.

Several paths may lead to one file (`Files.locate`), and then the second write undoes the first:
`loadX509KeyPair_set_of_ne` and `loadX509KeyPair_set_of_eq`.
-/
import SentinelOps.Theory.GoTime

namespace SentinelOps.Theory.KeyFiles

open GoText (GoString str)
open GoTime (Time)

set_option autoImplicit false

variable {D K P I E F : Type}

/-! ## Certificates -/

/-- The parts of an `x509.Certificate` that say whose it is, for whom and for how long. -/
structure Certificate (P I : Type) where
  publicKey : P
  notBefore : Time
  notAfter : Time
  dnsNames : List GoString
  ipAddresses : List I
deriving DecidableEq

/-- Within the validity period, whose ends belong to it. -/
def Certificate.ValidAt (cert : Certificate P I) (t : Time) : Prop :=
  cert.notBefore ≤ t ∧ t ≤ cert.notAfter

inductive KeyUsage where
  | digitalSignature
  | keyEncipherment
deriving DecidableEq

inductive ExtKeyUsage where
  | serverAuth
deriving DecidableEq

/-- What `x509.CreateCertificate` takes from its template. -/
structure Template (I : Type) where
  serialNumber : Nat
  commonName : GoString
  organization : List GoString
  notBefore : Time
  notAfter : Time
  keyUsage : List KeyUsage
  extKeyUsage : List ExtKeyUsage
  basicConstraintsValid : Bool
  dnsNames : List GoString := []
  ipAddresses : List I := []
deriving DecidableEq

/-- ASN.1 times have no fractions of a second. -/
def wholeSeconds (t : Time) : Time := t - t % 1000000000

theorem wholeSeconds_le (t : Time) : wholeSeconds t ≤ t := by
  unfold wholeSeconds
  lia

theorem lt_wholeSeconds (t : Time) : t - 1000000000 < wholeSeconds t := by
  unfold wholeSeconds
  lia

/-- The DER of certificates and RSA keys, and how `net` tells an address from a name. -/
structure X509 (D K P I E : Type) where
  publicKey : K → P
  parseIP : GoString → Option I
  createCertificate : Template I → P → K → Except E D
  marshalPKCS1PrivateKey : K → D
  parseCertificate : D → Option (Certificate P I)
  parsePrivateKey : D → Option K
  created : ∀ tpl pub priv der, createCertificate tpl pub priv = .ok der →
    parseCertificate der =
      some ⟨pub, wholeSeconds tpl.notBefore, wholeSeconds tpl.notAfter, tpl.dnsNames,
        tpl.ipAddresses⟩
  marshalled : ∀ priv, parsePrivateKey (marshalPKCS1PrivateKey priv) = some priv

/-- A host is named as an address if it is one, and as a DNS name otherwise. -/
def Certificate.Names (cert : Certificate P I) (x : X509 D K P I E) (host : GoString) : Prop :=
  match x.parseIP host with
  | some ip => ip ∈ cert.ipAddresses
  | none => host ∈ cert.dnsNames

/-! ## Pairs -/

/-- A `pem.Block`. -/
structure Block (D : Type) where
  type : GoString
  bytes : D
deriving DecidableEq

def certificateType : GoString := str "CERTIFICATE"

def rsaPrivateKeyType : GoString := str "RSA PRIVATE KEY"

def Block.isPrivateKey (block : Block D) : Bool :=
  block.type = str "PRIVATE KEY" ∨ str " PRIVATE KEY" <:+ block.type

theorem isPrivateKey_rsa (der : D) : (⟨rsaPrivateKeyType, der⟩ : Block D).isPrivateKey = true := by
  show decide (rsaPrivateKeyType = str "PRIVATE KEY" ∨ str " PRIVATE KEY" <:+ rsaPrivateKeyType) = _
  decide

/-- `tls.X509KeyPair`: the first certificate, the first key, and whether they belong together. -/
def x509KeyPair [DecidableEq P] (x : X509 D K P I E) (certPEM keyPEM : List (Block D)) :
    Option (Certificate P I × K) := do
  let certBlock ← certPEM.find? fun block => block.type = certificateType
  let keyBlock ← keyPEM.find? Block.isPrivateKey
  let cert ← x.parseCertificate certBlock.bytes
  let priv ← x.parsePrivateKey keyBlock.bytes
  if cert.publicKey = x.publicKey priv then some (cert, priv) else none

section Pairs

variable [DecidableEq P] (x : X509 D K P I E)

/-- A certificate for a key goes with that key. -/
theorem x509KeyPair_created {tpl : Template I} {priv : K} {der : D}
    (made : x.createCertificate tpl (x.publicKey priv) priv = .ok der) :
    x509KeyPair x [⟨certificateType, der⟩]
        [⟨rsaPrivateKeyType, x.marshalPKCS1PrivateKey priv⟩] =
      some (⟨x.publicKey priv, wholeSeconds tpl.notBefore, wholeSeconds tpl.notAfter,
        tpl.dnsNames, tpl.ipAddresses⟩, priv) := by
  have key : (⟨rsaPrivateKeyType, x.marshalPKCS1PrivateKey priv⟩ : Block D).isPrivateKey = true :=
    isPrivateKey_rsa _
  simp [x509KeyPair, List.find?_cons_of_pos, key, x.created _ _ _ _ made, x.marshalled]

/-- A key is no certificate. -/
theorem x509KeyPair_key_only (der : D) (keyPEM : List (Block D)) :
    x509KeyPair x [⟨rsaPrivateKeyType, der⟩] keyPEM = none := by
  have other : rsaPrivateKeyType ≠ certificateType := by decide
  simp [x509KeyPair, other]

end Pairs

/-! ## Files -/

/-- What is found at a path: nothing, something that cannot be read, or a file. -/
inductive Node (D : Type) where
  | absent
  | unreadable
  | pem (blocks : List (Block D))
deriving DecidableEq

/-- Where paths lead, and what is there. -/
structure Files (F D : Type) where
  locate : GoString → F
  node : F → Node D

namespace Files

/-- `os.ReadFile`. -/
def read (files : Files F D) (path : GoString) : Option (List (Block D)) :=
  match files.node (files.locate path) with
  | .pem blocks => some blocks
  | _ => none

/-- `os.Stat` finds something. -/
def found (files : Files F D) (path : GoString) : Bool :=
  match files.node (files.locate path) with
  | .absent => false
  | _ => true

/-- `tls.LoadX509KeyPair`. -/
def loadX509KeyPair [DecidableEq P] (files : Files F D) (x : X509 D K P I E)
    (certPath keyPath : GoString) : Option (Certificate P I × K) := do
  x509KeyPair x (← files.read certPath) (← files.read keyPath)

theorem read_eq_some_iff {files : Files F D} {path : GoString} {blocks : List (Block D)} :
    files.read path = some blocks ↔ files.node (files.locate path) = .pem blocks := by
  unfold read
  cases files.node (files.locate path) <;> simp

/-- A pair that can be read is there. -/
theorem found_of_loadX509KeyPair [DecidableEq P] {files : Files F D} {x : X509 D K P I E}
    {certPath keyPath : GoString} (loads : (files.loadX509KeyPair x certPath keyPath).isSome) :
    files.found certPath = true ∧ files.found keyPath = true := by
  obtain ⟨pair, loaded⟩ := Option.isSome_iff_exists.1 loads
  obtain ⟨certPEM, readCert, rest⟩ := Option.bind_eq_some_iff.1 loaded
  obtain ⟨keyPEM, readKey, -⟩ := Option.bind_eq_some_iff.1 rest
  have there : ∀ {path : GoString} {blocks : List (Block D)},
      files.read path = some blocks → files.found path = true := by
    intro path blocks read
    rw [found, read_eq_some_iff.1 read]
  exact ⟨there readCert, there readKey⟩

variable [DecidableEq F]

def set (files : Files F D) (path : GoString) (node : Node D) : Files F D :=
  { files with node := Function.update files.node (files.locate path) node }

theorem read_set_self {files : Files F D} {path path' : GoString}
    (same : files.locate path' = files.locate path) (blocks : List (Block D)) :
    (files.set path (.pem blocks)).read path' = some blocks := by
  simp [read, set, same]

theorem read_set_other {files : Files F D} {path path' : GoString}
    (different : files.locate path' ≠ files.locate path) (node : Node D) :
    (files.set path node).read path' = files.read path' := by
  simp [read, set, different]

section Both

variable [DecidableEq P] {files : Files F D} {certPath keyPath : GoString}

/-- The two files of different paths are read back. -/
theorem loadX509KeyPair_set_of_ne (x : X509 D K P I E)
    (different : files.locate certPath ≠ files.locate keyPath) (certPEM keyPEM : List (Block D)) :
    ((files.set certPath (.pem certPEM)).set keyPath (.pem keyPEM)).loadX509KeyPair x certPath
        keyPath = x509KeyPair x certPEM keyPEM := by
  have apart : (files.set certPath (.pem certPEM)).locate certPath ≠
      (files.set certPath (.pem certPEM)).locate keyPath := different
  rw [loadX509KeyPair, read_set_other apart, read_set_self rfl certPEM, read_set_self rfl keyPEM]
  rfl

/-- In one file, only what was written last is left. -/
theorem loadX509KeyPair_set_of_eq (x : X509 D K P I E)
    (same : files.locate certPath = files.locate keyPath) (certPEM keyPEM : List (Block D)) :
    ((files.set certPath (.pem certPEM)).set keyPath (.pem keyPEM)).loadX509KeyPair x certPath
        keyPath = x509KeyPair x keyPEM keyPEM := by
  have shared : (files.set certPath (.pem certPEM)).locate certPath =
      (files.set certPath (.pem certPEM)).locate keyPath := same
  rw [loadX509KeyPair, read_set_self shared, read_set_self rfl]
  rfl

end Both

end Files

end SentinelOps.Theory.KeyFiles
