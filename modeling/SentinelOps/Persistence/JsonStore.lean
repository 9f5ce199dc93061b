/-
# Persistence.JsonStore — what `LoadSessions` and `LoadTunnels` read of what was saved

`internal/persistence/jsonstore.go` from the records to the bytes on the disk and back: the tags of
`session.Snapshot`, `forwarding.Tunnel` and `SnapshotFile`, `json.MarshalIndent` and
`json.Unmarshal`, `ValidateFilesystemPath`, and the temporary file that is renamed.  One call runs
at a time here; `Persistence.WriteSnapshot` has concurrent ones, and the disk that a failed call
leaves.  `now` and the errors of the system calls are arguments of a call.

A save that succeeds is read back with its times and counters as they were and its strings coerced
to UTF-8 (`load_write`).  So the items come back exactly when all their strings are UTF-8, and a
disabled store, whose saves succeed and write nothing, leaves what the file held
(`reloaded_iff`).  An SSH client chooses the origin of a tunnel, and it need not be UTF-8
(`origin_replaced`).
-/
import SentinelOps.Forwarding.Manager
import SentinelOps.Persistence.WriteSnapshot
import SentinelOps.Security.PathGuard
import SentinelOps.Session.Registry
import SentinelOps.Theory.JsonRecord

namespace SentinelOps.Persistence

open Forwarding (Tunnel)
open Security (validateFilesystemPath)
open Session (Session Snapshot)
open Theory.FileSystem (Disk)
open Theory.GoJson (foldName)
open Theory.GoText (GoString str coerce validString coerce_eq_self_iff)
open Theory.GoTime (Time)
open Theory.JsonRecord

set_option autoImplicit false

/-! ## Records -/

def sessionFields : List (Tagged Snapshot) :=
  [⟨str "id", Codec.text.on Session.id fun x v => { x with id := v }⟩,
    ⟨str "remote_addr", Codec.text.on Session.remoteAddr fun x v => { x with remoteAddr := v }⟩,
    ⟨str "transport", Codec.text.on Session.transport fun x v => { x with transport := v }⟩,
    ⟨str "authn", Codec.text.on Session.authn fun x v => { x with authn := v }⟩,
    ⟨str "connected_at",
      Codec.instant.on Session.connectedAt fun x v => { x with connectedAt := v }⟩,
    ⟨str "authenticated_at",
      Codec.instant.on Session.authenticatedAt fun x v => { x with authenticatedAt := v }⟩,
    ⟨str "username", Codec.text.on Session.username fun x v => { x with username := v }⟩,
    ⟨str "role", Codec.text.on Session.role fun x v => { x with role := v }⟩,
    ⟨str "command_count",
      Codec.integer.on Session.commandCount fun x v => { x with commandCount := v }⟩]

theorem sessionFields_distinct : (sessionFields.map Tagged.tag).Nodup := by decide

theorem sessionFields_plain : ∀ f ∈ sessionFields, foldName (coerce f.tag) = f.tag := by
  decide

def sessionCodec : Codec Snapshot :=
  Schema.codec ⟨sessionFields, sessionFields_distinct, sessionFields_plain⟩

def zeroSession : Snapshot := { id := [], connectedAt := 0 }

/-- `forwarding.Tunnel` as it is written and read, where any text can be a direction. -/
structure TunnelRecord where
  id : GoString
  sessionID : GoString
  username : GoString
  direction : GoString
  target : GoString
  bind : GoString
  origin : GoString
  startedAt : Time
  deriving DecidableEq

def tunnelRecord (t : Tunnel) : TunnelRecord where
  id := t.id
  sessionID := t.sessionID
  username := t.username
  direction := t.direction.text
  target := t.target
  bind := t.bind
  origin := t.origin
  startedAt := t.startedAt

def tunnelFields : List (Tagged TunnelRecord) :=
  [⟨str "id", Codec.text.on TunnelRecord.id fun x v => { x with id := v }⟩,
    ⟨str "session_id", Codec.text.on TunnelRecord.sessionID fun x v => { x with sessionID := v }⟩,
    ⟨str "username", Codec.text.on TunnelRecord.username fun x v => { x with username := v }⟩,
    ⟨str "direction", Codec.text.on TunnelRecord.direction fun x v => { x with direction := v }⟩,
    ⟨str "target", Codec.text.on TunnelRecord.target fun x v => { x with target := v }⟩,
    ⟨str "bind", Codec.text.on TunnelRecord.bind fun x v => { x with bind := v }⟩,
    ⟨str "origin", Codec.text.on TunnelRecord.origin fun x v => { x with origin := v }⟩,
    ⟨str "started_at",
      Codec.instant.on TunnelRecord.startedAt fun x v => { x with startedAt := v }⟩]

theorem tunnelFields_distinct : (tunnelFields.map Tagged.tag).Nodup := by decide

theorem tunnelFields_plain : ∀ f ∈ tunnelFields, foldName (coerce f.tag) = f.tag := by
  decide

def tunnelCodec : Codec TunnelRecord :=
  Schema.codec ⟨tunnelFields, tunnelFields_distinct, tunnelFields_plain⟩

def zeroTunnel : TunnelRecord where
  id := []
  sessionID := []
  username := []
  direction := []
  target := []
  bind := []
  origin := []
  startedAt := 0

section Snapshots

variable {T : Type}

structure SnapshotFile (T : Type) where
  version : GoString
  kind : GoString
  generated : Time
  items : List T

def fileFields (c : Codec T) (zero : T) : List (Tagged (SnapshotFile T)) :=
  [⟨str "version", Codec.text.on SnapshotFile.version fun x v => { x with version := v }⟩,
    ⟨str "kind", Codec.text.on SnapshotFile.kind fun x v => { x with kind := v }⟩,
    ⟨str "generated_at",
      Codec.instant.on SnapshotFile.generated fun x v => { x with generated := v }⟩,
    ⟨str "items", (c.list zero).on SnapshotFile.items fun x v => { x with items := v }⟩]

theorem tags_fileFields (c : Codec T) (zero : T) : (fileFields c zero).map Tagged.tag =
    [str "version", str "kind", str "generated_at", str "items"] := rfl

theorem fileFields_distinct (c : Codec T) (zero : T) :
    ((fileFields c zero).map Tagged.tag).Nodup := by
  rw [tags_fileFields]
  decide

theorem fileFields_plain (c : Codec T) (zero : T) :
    ∀ f ∈ fileFields c zero, foldName (coerce f.tag) = f.tag := by
  have plain : ∀ tag ∈ (fileFields c zero).map Tagged.tag, foldName (coerce tag) = tag := by
    rw [tags_fileFields]
    decide
  exact fun f member => plain f.tag (List.mem_map_of_mem member)

def fileCodec (c : Codec T) (zero : T) : Codec (SnapshotFile T) :=
  Schema.codec ⟨fileFields c zero, fileFields_distinct c zero, fileFields_plain c zero⟩

def zeroFile : SnapshotFile T := ⟨[], [], 0, []⟩

/-! ## Files -/

/-- What the system calls of a save return, `none` being no error. -/
structure System where
  mkdirAll : Option GoString
  writeFile : Option GoString
  rename : Option GoString

/-- The error of `json.MarshalIndent`, which only a time can cause. -/
def yearError : GoString :=
  str "json: error calling MarshalJSON for type time.Time: " ++
    str "Time.MarshalJSON: year outside of range [0,9999]"

/-- The disk after a call that returns nil. -/
def writeSnapshot (getwd : Except GoString GoString) (sys : System) (c : Codec (SnapshotFile T))
    (path : GoString) (snapshot : SnapshotFile T) (disk : Disk GoString) :
    Except GoString (Disk GoString) :=
  if path = [] then .error (str "ruta de persistencia vacía")
  else
    match validateFilesystemPath getwd path (str "snapshot de persistencia"), sys.mkdirAll,
        c.marshalIndent snapshot with
    | .error err, _, _ => .error err
    | .ok _, some err, _ => .error err
    | .ok _, none, none => .error yearError
    | .ok safePath, none, some data =>
        match sys.writeFile, sys.rename with
        | some err, _ => .error err
        | none, some err => .error err
        | none, none =>
            -- The temporary file was just written, so the rename finds it.
            let written := disk.writeFile (tmpPath safePath) (data ++ [0x0A])
            match written.rename (tmpPath safePath) safePath with
            | none => .error (str "no such file or directory")
            | some disk' => .ok disk'

/-- Why a snapshot is not loaded.  The texts are those of the library. -/
inductive LoadError where
  | path (err : GoString)
  | notExist (path : GoString)
  | json
  deriving DecidableEq

def loadSnapshot (getwd : Except GoString GoString) (c : Codec (SnapshotFile T)) (path : GoString)
    (disk : Disk GoString) : Except LoadError (SnapshotFile T) :=
  match validateFilesystemPath getwd path (str "snapshot de persistencia") with
  | .error err => .error (.path err)
  | .ok safePath =>
      match disk.readFile safePath with
      | none => .error (.notExist safePath)
      | some data =>
          match c.unmarshal zeroFile data with
          | none => .error .json
          | some file => .ok file

variable {getwd : Except GoString GoString} {sys : System} {path safePath data : GoString}
  {disk disk' : Disk GoString}

/-- What a save that succeeds has done. -/
theorem writeSnapshot_cases {c : Codec (SnapshotFile T)} {snapshot : SnapshotFile T}
    (saved : writeSnapshot getwd sys c path snapshot disk = .ok disk') :
    ∃ safePath data,
      validateFilesystemPath getwd path (str "snapshot de persistencia") = .ok safePath ∧
      c.marshalIndent snapshot = some data ∧
      (disk.writeFile (tmpPath safePath) (data ++ [0x0A])).rename (tmpPath safePath) safePath =
        some disk' := by
  unfold writeSnapshot at saved
  split at saved
  · cases saved
  · split at saved
    · cases saved
    · cases saved
    · cases saved
    · rename_i safePath data valid made marshalled
      split at saved
      · cases saved
      · cases saved
      · dsimp only at saved
        split at saved
        · cases saved
        · rename_i renamed
          cases saved
          exact ⟨safePath, data, valid, marshalled, renamed⟩

/-- Without an error of the system, what can be written is saved. -/
theorem exists_writeSnapshot {c : Codec (SnapshotFile T)} {snapshot : SnapshotFile T}
    (nonempty : path ≠ [])
    (valid : validateFilesystemPath getwd path (str "snapshot de persistencia") = .ok safePath)
    (marshalled : (c.marshalIndent snapshot).isSome = true) (disk : Disk GoString) :
    ∃ disk', writeSnapshot getwd ⟨none, none, none⟩ c path snapshot disk = .ok disk' := by
  obtain ⟨data, text⟩ := Option.isSome_iff_exists.1 marshalled
  obtain ⟨disk', renamed⟩ := Disk.exists_rename
    (disk.readFile_writeFile (tmpPath safePath) (data ++ [0x0A])) safePath
  refine ⟨disk', ?_⟩
  rw [writeSnapshot, if_neg nonempty, valid, text]
  dsimp only
  rw [renamed]

theorem load_write {c : Codec (SnapshotFile T)} {snapshot : SnapshotFile T}
    (saved : writeSnapshot getwd sys c path snapshot disk = .ok disk') :
    loadSnapshot getwd c path disk' = .ok (c.back zeroFile snapshot) := by
  obtain ⟨safePath, data, valid, marshalled, renamed⟩ := writeSnapshot_cases saved
  have read : disk'.readFile safePath = some (data ++ [0x0A]) := by
    rw [Disk.readFile_rename (tmpPath_ne safePath) renamed, Disk.readFile_writeFile]
  rw [loadSnapshot, valid]
  dsimp only
  rw [read]
  dsimp only
  rw [c.unmarshal_marshalIndent zeroFile marshalled]

/-- The disk holds a snapshot file with these items under the path. -/
def Holds (getwd : Except GoString GoString) (c : Codec T) (zero : T) (path : GoString)
    (disk : Disk GoString) (items : List T) : Prop :=
  ∃ safePath data file,
    validateFilesystemPath getwd path (str "snapshot de persistencia") = .ok safePath ∧
    disk.readFile safePath = some data ∧
    (fileCodec c zero).unmarshal zeroFile data = some file ∧ file.items = items

/-- The load returns these items. -/
def Returns (outcome : Except LoadError (SnapshotFile T)) (items : List T) : Prop :=
  ∃ file, outcome = .ok file ∧ file.items = items

theorem returns_load_iff (c : Codec T) (zero : T) (items : List T) :
    Returns (loadSnapshot getwd (fileCodec c zero) path disk) items ↔
      Holds getwd c zero path disk items := by
  constructor
  · rintro ⟨file, loaded, same⟩
    unfold loadSnapshot at loaded
    split at loaded
    · cases loaded
    · rename_i safePath valid
      split at loaded
      · cases loaded
      · rename_i data read
        split at loaded
        · cases loaded
        · rename_i decoded
          cases loaded
          exact ⟨safePath, data, file, valid, read, decoded, same⟩
  · rintro ⟨safePath, data, file, valid, read, decoded, same⟩
    refine ⟨file, ?_, same⟩
    simp only [loadSnapshot, valid, read, decoded]

/-- Items that were saved come back if the codec gives each of them back. -/
theorem returns_write_iff {c : Codec T} {zero : T} {version kind : GoString} {now : Time}
    {items : List T}
    (saved : writeSnapshot getwd sys (fileCodec c zero) path ⟨version, kind, now, items⟩ disk =
      .ok disk') :
    Returns (loadSnapshot getwd (fileCodec c zero) path disk') items ↔
      ∀ item ∈ items, c.back zero item = item := by
  have back : ((fileCodec c zero).back zeroFile ⟨version, kind, now, items⟩).items =
      items.map (c.back zero) := c.back_list_nil zero items
  have same : Returns (loadSnapshot getwd (fileCodec c zero) path disk') items ↔
      items.map (c.back zero) = items.map id := by
    rw [load_write saved, List.map_id, ← back]
    constructor
    · rintro ⟨file, loaded, same⟩
      cases loaded
      exact same
    · exact fun same => ⟨_, rfl, same⟩
  rw [same, List.map_inj_left]
  rfl

/-- A save of an enabled store, and one of a disabled store. -/
theorem returns_save_iff {c : Codec T} {zero : T} {version kind : GoString} {now : Time}
    {items : List T} {on : Bool}
    (saved : (if on = true then
        writeSnapshot getwd sys (fileCodec c zero) path ⟨version, kind, now, items⟩ disk
      else .ok disk) = .ok disk') :
    Returns (loadSnapshot getwd (fileCodec c zero) path disk') items ↔
      if on = true then ∀ item ∈ items, c.back zero item = item
      else Holds getwd c zero path disk items := by
  cases on with
  | true => exact returns_write_iff saved
  | false =>
      cases saved
      exact returns_load_iff c zero items

end Snapshots

/-! ## The store -/

/-- A `*Store` is `none` when it is nil. -/
structure Store where
  enabled : Bool
  sessionsPath : GoString
  tunnelsPath : GoString

def enabled : Option Store → Bool
  | none => false
  | some s => s.enabled

def sessionsPathOf : Option Store → GoString
  | none => []
  | some s => s.sessionsPath

def tunnelsPathOf : Option Store → GoString
  | none => []
  | some s => s.tunnelsPath

section Calls

variable (getwd : Except GoString GoString) (sys : System) (now : Time) (s : Option Store)

def saveSessions (items : List Snapshot) (disk : Disk GoString) : Except GoString (Disk GoString) :=
  if enabled s then
    writeSnapshot getwd sys (fileCodec sessionCodec zeroSession) (sessionsPathOf s)
      ⟨str "2.4.1", str "sessions", now, items⟩ disk
  else .ok disk

def saveTunnels (items : List TunnelRecord) (disk : Disk GoString) :
    Except GoString (Disk GoString) :=
  if enabled s then
    writeSnapshot getwd sys (fileCodec tunnelCodec zeroTunnel) (tunnelsPathOf s)
      ⟨str "2.4.1", str "tunnels", now, items⟩ disk
  else .ok disk

def loadSessions (path : GoString) (disk : Disk GoString) :
    Except LoadError (SnapshotFile Snapshot) :=
  loadSnapshot getwd (fileCodec sessionCodec zeroSession) path disk

def loadTunnels (path : GoString) (disk : Disk GoString) :
    Except LoadError (SnapshotFile TunnelRecord) :=
  loadSnapshot getwd (fileCodec tunnelCodec zeroTunnel) path disk

end Calls

/-! ## What comes back -/

def sessionTexts (x : Snapshot) : List GoString :=
  [x.id, x.remoteAddr, x.transport, x.authn, x.username, x.role]

def tunnelTexts (t : Tunnel) : List GoString :=
  [t.id, t.sessionID, t.username, t.target, t.bind, t.origin]

theorem back_session_iff (x : Snapshot) :
    sessionCodec.back zeroSession x = x ↔ ∀ text ∈ sessionTexts x, validString text = true := by
  have back : sessionCodec.back zeroSession x =
      { x with
        id := coerce x.id, remoteAddr := coerce x.remoteAddr, transport := coerce x.transport
        authn := coerce x.authn, username := coerce x.username, role := coerce x.role } := rfl
  rw [back]
  cases x
  simp only [Session.mk.injEq, coerce_eq_self_iff, sessionTexts, List.forall_mem_cons, true_and,
    and_true, List.not_mem_nil, false_implies, implies_true]

/-- A direction is plain text, so it is not among the texts that matter. -/
theorem back_tunnel_iff (t : Tunnel) :
    tunnelCodec.back zeroTunnel (tunnelRecord t) = tunnelRecord t ↔
      ∀ text ∈ tunnelTexts t, validString text = true := by
  have back : tunnelCodec.back zeroTunnel (tunnelRecord t) =
      { tunnelRecord t with
        id := coerce t.id, sessionID := coerce t.sessionID, username := coerce t.username
        direction := coerce t.direction.text, target := coerce t.target, bind := coerce t.bind
        origin := coerce t.origin } := rfl
  have direction : validString t.direction.text = true := by
    cases t.direction <;> decide
  rw [back]
  simp only [tunnelRecord, TunnelRecord.mk.injEq, coerce_eq_self_iff, direction, tunnelTexts,
    List.forall_mem_cons, true_and, and_true, List.not_mem_nil, false_implies, implies_true]

/-- **What was saved is loaded exactly when it is all UTF-8.**  The save of a disabled store
succeeds as well, and leaves the file as it was. -/
theorem reloaded_iff (getwd : Except GoString GoString) (sys : System) (now : Time)
    (s : Option Store) (disk disk' : Disk GoString) :
    (∀ items : List Snapshot, saveSessions getwd sys now s items disk = .ok disk' →
      (Returns (loadSessions getwd (sessionsPathOf s) disk') items ↔
        if enabled s then ∀ item ∈ items, ∀ text ∈ sessionTexts item, validString text = true
        else Holds getwd sessionCodec zeroSession (sessionsPathOf s) disk items)) ∧
    ∀ items : List Tunnel,
      saveTunnels getwd sys now s (items.map tunnelRecord) disk = .ok disk' →
        (Returns (loadTunnels getwd (tunnelsPathOf s) disk') (items.map tunnelRecord) ↔
          if enabled s then ∀ item ∈ items, ∀ text ∈ tunnelTexts item, validString text = true
          else Holds getwd tunnelCodec zeroTunnel (tunnelsPathOf s) disk
            (items.map tunnelRecord)) := by
  constructor
  · intro items saved
    have back := returns_save_iff saved
    simp only [back_session_iff] at back
    exact back
  · intro items saved
    have back := returns_save_iff saved
    simp only [List.forall_mem_map, back_tunnel_iff] at back
    exact back

/-! ## Saves that succeed -/

/-- A UTC time of the years 0 to 9999. -/
def Dated (t : Time) : Prop := 0 ≤ t.year ∧ t.year ≤ 9999

instance (t : Time) : Decidable (Dated t) := inferInstanceAs (Decidable (_ ∧ _))

theorem isSome_write_session (x : Snapshot) : (sessionCodec.write x).isSome = true ↔
    Dated x.connectedAt ∧ Dated x.authenticatedAt ∧ Codec.InInt x.commandCount := by
  rw [sessionCodec, Schema.isSome_write_codec]
  simp only [sessionFields, List.forall_mem_cons, Codec.isSome_write_on, Codec.isSome_write_text,
    Codec.isSome_write_instant, Codec.isSome_write_integer, List.not_mem_nil, false_implies,
    implies_true, true_and, and_true]
  rfl

theorem isSome_write_tunnel (t : TunnelRecord) :
    (tunnelCodec.write t).isSome = true ↔ Dated t.startedAt := by
  rw [tunnelCodec, Schema.isSome_write_codec]
  simp only [tunnelFields, List.forall_mem_cons, Codec.isSome_write_on, Codec.isSome_write_text,
    Codec.isSome_write_instant, List.not_mem_nil, false_implies, implies_true, true_and, and_true]
  rfl

theorem isSome_marshal_file {T : Type} (c : Codec T) (zero : T) (file : SnapshotFile T) :
    ((fileCodec c zero).marshalIndent file).isSome = true ↔
      Dated file.generated ∧ ∀ item ∈ file.items, (c.write item).isSome = true := by
  rw [Codec.marshalIndent, Option.isSome_map, fileCodec, Schema.isSome_write_codec]
  simp only [fileFields, List.forall_mem_cons, Codec.isSome_write_on, Codec.isSome_write_text,
    Codec.isSome_write_instant, Codec.isSome_write_list, List.not_mem_nil, false_implies,
    implies_true, true_and, and_true]
  rfl

section Success

variable {getwd : Except GoString GoString} {now : Time} {store : Store} {safePath : GoString}
  (on : enabled (some store) = true) (current : Dated now)

include on current

theorem exists_saveSessions {items : List Snapshot} (nonempty : store.sessionsPath ≠ [])
    (valid : validateFilesystemPath getwd store.sessionsPath (str "snapshot de persistencia") =
      .ok safePath)
    (held : ∀ x ∈ items,
      Dated x.connectedAt ∧ Dated x.authenticatedAt ∧ Codec.InInt x.commandCount)
    (disk : Disk GoString) :
    ∃ disk', saveSessions getwd ⟨none, none, none⟩ now (some store) items disk = .ok disk' := by
  have written := (isSome_marshal_file sessionCodec zeroSession
    ⟨str "2.4.1", str "sessions", now, items⟩).2
      ⟨current, fun x member => (isSome_write_session x).2 (held x member)⟩
  obtain ⟨disk', saved⟩ := exists_writeSnapshot nonempty valid written disk
  exact ⟨disk', (if_pos on).trans saved⟩

theorem exists_saveTunnels {items : List TunnelRecord} (nonempty : store.tunnelsPath ≠ [])
    (valid : validateFilesystemPath getwd store.tunnelsPath (str "snapshot de persistencia") =
      .ok safePath)
    (held : ∀ t ∈ items, Dated t.startedAt) (disk : Disk GoString) :
    ∃ disk', saveTunnels getwd ⟨none, none, none⟩ now (some store) items disk = .ok disk' := by
  have written := (isSome_marshal_file tunnelCodec zeroTunnel
    ⟨str "2.4.1", str "tunnels", now, items⟩).2
      ⟨current, fun t member => (isSome_write_tunnel t).2 (held t member)⟩
  obtain ⟨disk', saved⟩ := exists_writeSnapshot nonempty valid written disk
  exact ⟨disk', (if_pos on).trans saved⟩

end Success

/-! ## Two runs -/

def stateStore : Store where
  enabled := true
  sessionsPath := str "/var/lib/sessions.json"
  tunnelsPath := str "/var/lib/tunnels.json"

/-- Noon of May 18, 2026. -/
def noon : Time := 63914702400000000000

def studentSession : Snapshot where
  id := str "sess-000001"
  remoteAddr := str "[::1]:40000"
  transport := str "ssh"
  authn := str "contraseña"
  connectedAt := noon
  authenticatedAt := noon + 1500
  username := str "student"
  role := str "student"
  commandCount := 3

def tunnelFrom (origin : GoString) : Tunnel where
  id := str "tun-000001"
  sessionID := str "sess-000001"
  username := str "student"
  direction := .localDir
  target := str "127.0.0.1:8080"
  bind := []
  origin := origin
  startedAt := noon

theorem dated_noon : Dated noon := by decide

theorem stateStore_enabled : enabled (some stateStore) = true := rfl

theorem savedTunnel (origin : GoString) :
    ∃ disk', saveTunnels (.ok (str "/")) ⟨none, none, none⟩ noon (some stateStore)
      [tunnelRecord (tunnelFrom origin)] emptyDisk = .ok disk' := by
  have valid : validateFilesystemPath (.ok (str "/")) stateStore.tunnelsPath
      (str "snapshot de persistencia") = .ok (str "/var/lib/tunnels.json") := by decide
  have held : ∀ t ∈ [tunnelRecord (tunnelFrom origin)], Dated t.startedAt := by
    intro t member
    rw [List.mem_singleton.1 member]
    exact dated_noon
  exact exists_saveTunnels stateStore_enabled dated_noon (by decide) valid held emptyDisk

/-- A session and a tunnel are saved, and both are loaded. -/
theorem reloaded_student :
    (∃ disk', saveSessions (.ok (str "/")) ⟨none, none, none⟩ noon (some stateStore)
        [studentSession] emptyDisk = .ok disk' ∧
      Returns (loadSessions (.ok (str "/")) stateStore.sessionsPath disk') [studentSession]) ∧
    ∃ disk', saveTunnels (.ok (str "/")) ⟨none, none, none⟩ noon (some stateStore)
        [tunnelRecord (tunnelFrom (str "127.0.0.1:50000"))] emptyDisk = .ok disk' ∧
      Returns (loadTunnels (.ok (str "/")) stateStore.tunnelsPath disk')
        [tunnelRecord (tunnelFrom (str "127.0.0.1:50000"))] := by
  constructor
  · have valid : validateFilesystemPath (.ok (str "/")) stateStore.sessionsPath
        (str "snapshot de persistencia") = .ok (str "/var/lib/sessions.json") := by decide
    have held : ∀ x ∈ [studentSession],
        Dated x.connectedAt ∧ Dated x.authenticatedAt ∧ Codec.InInt x.commandCount := by
      decide
    obtain ⟨disk', saved⟩ :=
      exists_saveSessions stateStore_enabled dated_noon (by decide) valid held emptyDisk
    refine ⟨disk', saved, ((reloaded_iff _ _ _ _ _ _).1 _ saved).2 ?_⟩
    rw [if_pos stateStore_enabled]
    decide
  · obtain ⟨disk', saved⟩ := savedTunnel (str "127.0.0.1:50000")
    refine ⟨disk', saved,
      ((reloaded_iff _ _ _ _ _ _).2 [tunnelFrom (str "127.0.0.1:50000")] saved).2 ?_⟩
    rw [if_pos stateStore_enabled]
    decide

/-- The origin of the tunnel is `h`, the byte FF and `:1`; it is loaded with U+FFFD in its place. -/
theorem origin_replaced :
    ∃ disk' file, saveTunnels (.ok (str "/")) ⟨none, none, none⟩ noon (some stateStore)
        [tunnelRecord (tunnelFrom ([0x68, 0xFF] ++ str ":1"))] emptyDisk = .ok disk' ∧
      loadTunnels (.ok (str "/")) stateStore.tunnelsPath disk' = .ok file ∧
      file.items = [tunnelRecord (tunnelFrom ([0x68, 0xEF, 0xBF, 0xBD] ++ str ":1"))] ∧
      file.items ≠ [tunnelRecord (tunnelFrom ([0x68, 0xFF] ++ str ":1"))] := by
  obtain ⟨disk', saved⟩ := savedTunnel ([0x68, 0xFF] ++ str ":1")
  have written := (if_pos stateStore_enabled).symm.trans saved
  refine ⟨disk', _, saved, load_write written, ?_, ?_⟩
  · decide
  · decide

end SentinelOps.Persistence
