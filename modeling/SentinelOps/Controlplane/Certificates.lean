/-
# Controlplane.Certificates — the certificate of the control API

`ensureCertificatePair` runs when the control API starts.  It returns without an error in two
ways: the two files load as a pair, and are kept as they are; or they do not, and a new pair is
written, valid from an hour ago for a year, with every host in it.

The first way asks nothing of the certificate.  An expired one, or one for other hosts, is kept by
every later call (`never_renewed`).  `ensured_iff` says when a call that returned no error has left
a pair that is valid now and names the hosts.
-/
import SentinelOps.Theory.GoPathJoin
import SentinelOps.Theory.KeyFiles

namespace SentinelOps.Controlplane

open Theory KeyFiles
open GoText (GoString str trimSpace)
open GoTime (Time Duration)

set_option autoImplicit false

/-! ## Hosts -/

def comma : UInt8 := 0x2C

def parseHosts (value : GoString) : List GoString :=
  let out := ((value.splitOn comma).map trimSpace).filter fun v => v ≠ []
  if out = [] then [str "localhost", str "127.0.0.1"] else out

/-- There is always a host, and none is empty. -/
theorem parseHosts_spec (value : GoString) :
    parseHosts value ≠ [] ∧ ∀ host ∈ parseHosts value, host ≠ [] := by
  unfold parseHosts
  dsimp only
  split
  · exact ⟨List.cons_ne_nil _ _, by decide⟩
  · exact ⟨‹_›, fun host listed => of_decide_eq_true (List.mem_filter.1 listed).2⟩

/-! ## The pair -/

section Pair

variable {D K P I E F : Type}

inductive CertError (E : Type) where
  | text (message : GoString)
  | system (e : E)
deriving DecidableEq

/-- What a call takes from outside: the clock, the random source, and how the file system
answers.  A write that fails leaves something of the file. -/
structure Call (D K E : Type) where
  now : Time
  mkdirAll : GoString → Option E
  generateKey : Except E K
  serial : Except E Nat
  writeCert : Option (E × Node D)
  writeKey : Option (E × Node D)

def hour : Duration := 3600000000000

def year : Duration := 365 * 24 * hour

def template (now : Time) (serial : Nat) : Template I where
  serialNumber := serial
  commonName := str "SentinelOps Control API"
  organization := [str "SentinelOps Lab"]
  notBefore := now.add (-1 * hour)
  notAfter := now.add year
  keyUsage := [.digitalSignature, .keyEncipherment]
  extKeyUsage := [.serverAuth]
  basicConstraintsValid := true

/-- One turn of the loop over the hosts. -/
def addHost (x : X509 D K P I E) (tpl : Template I) (h : GoString) : Template I :=
  match x.parseIP h with
  | some ip => { tpl with ipAddresses := tpl.ipAddresses ++ [ip] }
  | none => { tpl with dnsNames := tpl.dnsNames ++ [h] }

/-- From the new key to the two texts. -/
def newPair (x : X509 D K P I E) (call : Call D K E) (hosts : List GoString) :
    Except E (List (Block D) × List (Block D)) := do
  let priv ← call.generateKey
  let serial ← call.serial
  let tpl := hosts.foldl (addHost x) (template call.now serial)
  let der ← x.createCertificate tpl (x.publicKey priv) priv
  return ([⟨certificateType, der⟩], [⟨rsaPrivateKeyType, x.marshalPKCS1PrivateKey priv⟩])

variable {x : X509 D K P I E} {call : Call D K E} {hosts : List GoString}

theorem newPair_ok {certPEM keyPEM : List (Block D)}
    (made : newPair x call hosts = .ok (certPEM, keyPEM)) :
    ∃ priv serial der, call.generateKey = .ok priv ∧
      x.createCertificate (hosts.foldl (addHost x) (template call.now serial))
        (x.publicKey priv) priv = .ok der ∧
      certPEM = [⟨certificateType, der⟩] ∧
      keyPEM = [⟨rsaPrivateKeyType, x.marshalPKCS1PrivateKey priv⟩] := by
  unfold newPair at made
  cases generated : call.generateKey with
  | error e =>
      rw [generated] at made
      cases made
  | ok priv =>
      cases numbered : call.serial with
      | error e =>
          rw [generated, numbered] at made
          cases made
      | ok serial =>
          rw [generated, numbered] at made
          cases signed : x.createCertificate
              (hosts.foldl (addHost x) (template call.now serial)) (x.publicKey priv) priv with
          | error e =>
              simp only [bind, Except.bind, signed] at made
              cases made
          | ok der =>
              simp only [bind, Except.bind, signed] at made
              cases made
              exact ⟨priv, serial, der, rfl, signed, rfl, rfl⟩

theorem foldl_addHost (x : X509 D K P I E) (hosts : List GoString) (tpl : Template I) :
    hosts.foldl (addHost x) tpl =
      { tpl with
        ipAddresses := tpl.ipAddresses ++ hosts.filterMap x.parseIP
        dnsNames := tpl.dnsNames ++ hosts.filter fun h => (x.parseIP h).isNone } := by
  induction hosts generalizing tpl with
  | nil => simp
  | cons h hosts ih =>
      rw [List.foldl_cons, ih]
      unfold addHost
      cases address : x.parseIP h <;> simp [address]

/-- A certificate with every host among its addresses or names. -/
theorem names_of_hosts {cert : Certificate P I}
    (addresses : cert.ipAddresses = hosts.filterMap x.parseIP)
    (names : cert.dnsNames = hosts.filter fun h => (x.parseIP h).isNone) {host : GoString}
    (listed : host ∈ hosts) : cert.Names x host := by
  unfold Certificate.Names
  cases address : x.parseIP host with
  | some ip =>
      show ip ∈ cert.ipAddresses
      rw [addresses]
      exact List.mem_filterMap.2 ⟨host, listed, address⟩
  | none =>
      show host ∈ cert.dnsNames
      rw [names]
      exact List.mem_filter.2 ⟨listed, by rw [address]; rfl⟩

/-- The hour before and the year after make up for the fractions of a second. -/
theorem validAt_template (pub : P) (now : Time) (serial : Nat) (names : List GoString)
    (addresses : List I) :
    Certificate.ValidAt ⟨pub, wholeSeconds (template (I := I) now serial).notBefore,
      wholeSeconds (template (I := I) now serial).notAfter, names, addresses⟩ now := by
  have early := wholeSeconds_le (template (I := I) now serial).notBefore
  have late := lt_wholeSeconds (template (I := I) now serial).notAfter
  have opened : (template (I := I) now serial).notBefore = now - 3600000000000 := rfl
  have closed : (template (I := I) now serial).notAfter = now + 31536000000000000 := rfl
  constructor
  · show wholeSeconds _ ≤ now
    lia
  · show now ≤ wholeSeconds _
    lia

variable [DecidableEq F] [DecidableEq P]

/-- `os.WriteFile`, with the answer `failure` of the file system. -/
def writeFile (failure : Option (E × Node D)) (files : Files F D) (path : GoString)
    (blocks : List (Block D)) : Except (CertError E) Unit × Files F D :=
  match failure with
  | some (e, left) => (.error (.system e), files.set path left)
  | none => (.ok (), files.set path (.pem blocks))

def fileExists (files : Files F D) (path : GoString) : Bool := files.found path

def ensureCertificatePair (x : X509 D K P I E) (call : Call D K E) (files : Files F D)
    (certPath keyPath : GoString) (hosts : List GoString) :
    Except (CertError E) Unit × Files F D :=
  if certPath = [] ∨ keyPath = [] then
    (.error (.text (str "la ruta del certificado está vacía")), files)
  else
    match call.mkdirAll (GoPath.dir certPath), call.mkdirAll (GoPath.dir keyPath) with
    | some e, _ => (.error (.system e), files)
    | none, some e => (.error (.system e), files)
    | none, none =>
        if fileExists files certPath && fileExists files keyPath &&
            (files.loadX509KeyPair x certPath keyPath).isSome then
          (.ok (), files)
        else
          match newPair x call hosts with
          | .error e => (.error (.system e), files)
          | .ok (certPEM, keyPEM) =>
              match writeFile call.writeCert files certPath certPEM with
              | (.error e, files) => (.error e, files)
              | (.ok (), files) => writeFile call.writeKey files keyPath keyPEM

/-! ## What a call can do -/

variable {files files' : Files F D} {certPath keyPath : GoString}

/-- The files load as a pair. -/
def Loads (x : X509 D K P I E) (files : Files F D) (certPath keyPath : GoString) : Prop :=
  (files.loadX509KeyPair x certPath keyPath).isSome

omit [DecidableEq F] in
/-- What loads is there, so the two tests for existence change nothing. -/
theorem reuse_iff :
    (fileExists files certPath && fileExists files keyPath &&
      (files.loadX509KeyPair x certPath keyPath).isSome) = true ↔
      Loads x files certPath keyPath := by
  rw [Bool.and_eq_true, Bool.and_eq_true]
  refine ⟨fun all => all.2, fun loads => ⟨?_, loads⟩⟩
  exact Files.found_of_loadX509KeyPair loads

/-- A pair that loads is left alone, whatever the call returns. -/
theorem kept_of_loads (loads : Loads x files certPath keyPath) (call : Call D K E)
    (hosts : List GoString) :
    (ensureCertificatePair x call files certPath keyPath hosts).2 = files := by
  unfold ensureCertificatePair
  split
  · rfl
  · split
    · rfl
    · rfl
    · rw [if_pos (reuse_iff.2 loads)]

/-- The two ways to return no error. -/
theorem ensureCertificatePair_ok
    (ok : ensureCertificatePair x call files certPath keyPath hosts = (.ok (), files')) :
    (Loads x files certPath keyPath ∧ files' = files) ∨
      (¬ Loads x files certPath keyPath ∧ ∃ certPEM keyPEM,
        newPair x call hosts = .ok (certPEM, keyPEM) ∧
        files' = (files.set certPath (.pem certPEM)).set keyPath (.pem keyPEM)) := by
  by_cases loads : Loads x files certPath keyPath
  · refine .inl ⟨loads, ?_⟩
    rw [← kept_of_loads loads call hosts, ok]
  · refine .inr ⟨loads, ?_⟩
    unfold ensureCertificatePair at ok
    split at ok
    · cases ok
    · split at ok
      · cases ok
      · cases ok
      · rw [if_neg (fun reuse => loads (reuse_iff.1 reuse))] at ok
        cases made : newPair x call hosts with
        | error e =>
            rw [made] at ok
            cases ok
        | ok pair =>
            obtain ⟨certPEM, keyPEM⟩ := pair
            rw [made] at ok
            dsimp only [writeFile] at ok
            cases first : call.writeCert with
            | some failure =>
                rw [first] at ok
                cases ok
            | none =>
                cases second : call.writeKey with
                | some failure =>
                    rw [first, second] at ok
                    cases ok
                | none =>
                    rw [first, second] at ok
                    cases ok
                    exact ⟨certPEM, keyPEM, rfl, rfl⟩

/-! ## The promise -/

/-- The files hold a pair whose certificate is valid at `t` and names the hosts. -/
def Ensured (x : X509 D K P I E) (files : Files F D) (certPath keyPath : GoString)
    (hosts : List GoString) (t : Time) : Prop :=
  ∃ cert priv, files.loadX509KeyPair x certPath keyPath = some (cert, priv) ∧
    cert.ValidAt t ∧ ∀ host ∈ hosts, cert.Names x host

/-- A new pair in two files keeps the promise. -/
theorem ensured_of_newPair {certPEM keyPEM : List (Block D)}
    (made : newPair x call hosts = .ok (certPEM, keyPEM))
    (different : files.locate certPath ≠ files.locate keyPath) :
    Ensured x ((files.set certPath (.pem certPEM)).set keyPath (.pem keyPEM)) certPath keyPath
      hosts call.now := by
  obtain ⟨priv, serial, der, -, signed, rfl, rfl⟩ := newPair_ok made
  have loaded := Files.loadX509KeyPair_set_of_ne x different
    [⟨certificateType, der⟩] [⟨rsaPrivateKeyType, x.marshalPKCS1PrivateKey priv⟩]
  rw [x509KeyPair_created x signed, foldl_addHost] at loaded
  refine ⟨_, priv, loaded, validAt_template _ call.now serial _ _, fun host listed => ?_⟩
  exact names_of_hosts (List.nil_append _) (List.nil_append _) listed

/-- A new pair in one file does not load. -/
theorem not_ensured_of_shared {certPEM keyPEM : List (Block D)} {t : Time}
    (made : newPair x call hosts = .ok (certPEM, keyPEM))
    (same : files.locate certPath = files.locate keyPath) :
    ¬ Ensured x ((files.set certPath (.pem certPEM)).set keyPath (.pem keyPEM)) certPath keyPath
      hosts t := by
  rintro ⟨cert, priv, loaded, -⟩
  obtain ⟨priv', serial, der, -, -, rfl, rfl⟩ := newPair_ok made
  rw [Files.loadX509KeyPair_set_of_eq x same, x509KeyPair_key_only] at loaded
  cases loaded

/-- **When a call that returns no error keeps its promise.**  If the files loaded as a pair, their
certificate has to be valid now and to name the hosts already; if they did not, the two paths have
to lead to different files. -/
theorem ensured_iff (x : X509 D K P I E) (call : Call D K E) (files files' : Files F D)
    (certPath keyPath : GoString) (hosts : List GoString)
    (ok : ensureCertificatePair x call files certPath keyPath hosts = (.ok (), files')) :
    Ensured x files' certPath keyPath hosts call.now ↔
      (∀ cert priv, files.loadX509KeyPair x certPath keyPath = some (cert, priv) →
        cert.ValidAt call.now ∧ ∀ host ∈ hosts, cert.Names x host) ∧
      (files.loadX509KeyPair x certPath keyPath = none →
        files.locate certPath ≠ files.locate keyPath) := by
  rcases ensureCertificatePair_ok ok with ⟨loads, rfl⟩ | ⟨unloaded, certPEM, keyPEM, made, rfl⟩
  · obtain ⟨⟨cert, priv⟩, loaded⟩ := Option.isSome_iff_exists.1 loads
    constructor
    · rintro ⟨cert', priv', loaded', good⟩
      refine ⟨fun cert'' priv'' loaded'' => ?_, fun missing => ?_⟩
      · cases loaded'.symm.trans loaded''
        exact good
      · cases missing.symm.trans loaded
    · exact fun good => ⟨cert, priv, loaded, good.1 cert priv loaded⟩
  · have missing := Option.not_isSome_iff_eq_none.1 unloaded
    constructor
    · refine fun good => ⟨fun cert priv loaded => ?_, fun _ same => ?_⟩
      · cases missing.symm.trans loaded
      · exact not_ensured_of_shared made same good
    · exact fun condition => ensured_of_newPair made (condition.2 missing)

/-- **A certificate is never renewed.**  Once the files load as a pair, no run of calls changes
them, whatever the dates and the hosts. -/
theorem never_renewed (loads : Loads x files certPath keyPath)
    (calls : List (Call D K E × List GoString)) :
    calls.foldl (fun files call =>
      (ensureCertificatePair x call.1 files certPath keyPath call.2).2) files = files := by
  induction calls with
  | nil => rfl
  | cons call calls ih => rw [List.foldl_cons, kept_of_loads loads, ih]

end Pair

/-! ## Poles -/

/-- The DER of the samples: a certificate or a key. -/
inductive SampleDer where
  | certificate (cert : Certificate Nat Nat)
  | key (priv : Nat)

/-- Keys that are their own public keys, and no addresses. -/
def sampleX509 : X509 SampleDer Nat Nat Nat Unit where
  publicKey := id
  parseIP _ := none
  createCertificate tpl pub _ :=
    .ok (.certificate ⟨pub, wholeSeconds tpl.notBefore, wholeSeconds tpl.notAfter, tpl.dnsNames,
      tpl.ipAddresses⟩)
  marshalPKCS1PrivateKey := .key
  parseCertificate
    | .certificate cert => some cert
    | .key _ => none
  parsePrivateKey
    | .certificate _ => none
    | .key priv => some priv
  created := by
    rintro tpl pub priv der made
    cases made
    rfl
  marshalled _ := rfl

def sampleCall : Call SampleDer Nat Unit where
  now := 2000000000
  mkdirAll _ := none
  generateKey := .ok 7
  serial := .ok 1
  writeCert := none
  writeKey := none

/-- A directory of files, each under one path. -/
def sampleFiles (cert key : Node SampleDer) : Files GoString SampleDer where
  locate := id
  node path := if path = str "api.crt" then cert else if path = str "api.key" then key else .absent

/-- Into an empty directory a pair is written. -/
theorem ensured_empty :
    Ensured sampleX509
      (ensureCertificatePair sampleX509 sampleCall (sampleFiles .absent .absent) (str "api.crt")
        (str "api.key") [str "localhost"]).2
      (str "api.crt") (str "api.key") [str "localhost"] 2000000000 := by
  refine (ensured_iff sampleX509 sampleCall (sampleFiles .absent .absent) _ _ _ _ rfl).2 ⟨?_, ?_⟩
  · intro cert priv loaded
    cases loaded
  · exact fun _ => by decide

/-- A certificate that ended a second ago is kept. -/
theorem expired_kept :
    let files := sampleFiles
      (.pem [⟨certificateType, .certificate ⟨3, 0, 1000000000, [str "localhost"], []⟩⟩])
      (.pem [⟨rsaPrivateKeyType, .key 3⟩])
    ensureCertificatePair sampleX509 sampleCall files (str "api.crt") (str "api.key")
        [str "localhost"] = (.ok (), files) ∧
      ¬ Ensured sampleX509 files (str "api.crt") (str "api.key") [str "localhost"] 2000000000 := by
  intro files
  refine ⟨rfl, ?_⟩
  rintro ⟨cert, priv, loaded, ⟨-, late⟩, -⟩
  have same : files.loadX509KeyPair sampleX509 (str "api.crt") (str "api.key") =
      some (⟨3, 0, 1000000000, [str "localhost"], []⟩, 3) := rfl
  cases same.symm.trans loaded
  exact absurd late (by decide)

end SentinelOps.Controlplane
