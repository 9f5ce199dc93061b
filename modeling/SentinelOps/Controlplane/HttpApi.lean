/-
# Controlplane.HttpApi — the handlers of the control API

`internal/controlplane/httpapi/server.go` between a request and its reply: the table of routes that
`Start` registers, `withAuth`, and the handlers.  A handler is a `Script`: it reads the clock, asks
the registry of sessions and the tunnel controller, and loads the two snapshot files.

`Theory.GoHttp` says which handler a request reaches.  A request whose path cannot be decoded is
answered before that.  The document and the page under `/api/v1/docs` are constants, and their bytes
are left out, as are the headers that every reply has and the tracing middleware.

A server without a registry or a controller has `false` in their place.
-/
import SentinelOps.Persistence.JsonStore
import SentinelOps.Theory.GoHttp

namespace SentinelOps.Controlplane

open Theory GoHttp
open Forwarding (Tunnel ManagedTunnel Manager Controller)
open Persistence (LoadError SnapshotFile TunnelRecord)
open Session (Session Snapshot Registry)
open FileSystem (Disk)
open GoPath (slash)
open GoText (GoString str trimSpace)
open GoTime (Time)

set_option autoImplicit false

/-! ## Replies -/

/-- The values of a JSON payload. -/
inductive Payload where
  | text (s : GoString)
  | bool (b : Bool)
  | number (n : ℕ)
  | time (t : Time)
  | sessions (items : List Snapshot)
  | tunnel (t : Tunnel)
  | tunnels (items : List Tunnel)
  | records (items : List TunnelRecord)
  | object (fields : List (GoString × Payload))

inductive Body where
  | json (fields : List (GoString × Payload))
  | openAPISpec
  | swaggerHTML
  | plain

/-- `challenge` is the `WWW-Authenticate` header and `location` the target of a redirect. -/
structure HttpReply where
  status : ℕ
  body : Body
  challenge : Option GoString := none
  location : Option GoString := none

def writeJSON (status : ℕ) (payload : List (GoString × Payload)) : HttpReply where
  status := status
  body := .json payload

def errorReply (status : ℕ) (error : GoString) : HttpReply :=
  writeJSON status [(str "error", .text error)]

/-! ## Questions -/

inductive ApiAsk where
  | now
  | sessions
  | sessionCount
  | controller (q : Controller)
  | loadSessions (path : GoString)
  | loadTunnels (path : GoString)

@[reducible] def ApiAsk.Answer : ApiAsk → Type
  | .now => Time
  | .sessions => List Snapshot
  | .sessionCount => ℕ
  | .controller q => q.Answer
  | .loadSessions _ => Except LoadError (SnapshotFile Snapshot)
  | .loadTunnels _ => Except LoadError (SnapshotFile TunnelRecord)

abbrev ApiScript := Script ApiAsk ApiAsk.Answer HttpReply

/-! ## The server -/

/-- The fields of `config.Config` that the handlers read, and which components are there. -/
structure Server where
  appName : GoString
  profile : GoString
  transport : GoString
  controlAPIEnabled : Bool
  controlAPIAddr : GoString
  controlAPIUser : GoString
  controlAPIPassword : GoString
  policyEnabled : Bool
  policyMode : GoString
  telemetryEnabled : Bool
  statePersistenceEnabled : Bool
  stateSessionsPath : GoString
  stateTunnelsPath : GoString
  sesiones : Bool
  tuneles : Bool

/-- `rawPath` is the path of the request line, without the query; an absent header is empty. -/
structure Request where
  method : GoString
  rawPath : GoString
  authorization : GoString

def apiVersion : GoString := str "v1"

/-- `strings.TrimPrefix`. -/
def trimPrefix (start s : GoString) : GoString :=
  if start <+: s then s.drop start.length else s

def methodNotAllowed : ApiScript := .ret (errorReply 405 (str "metodo_no_permitido"))

def getOnly (method : GoString) (next : ApiScript) : ApiScript :=
  if method ≠ str "GET" then methodNotAllowed else next

section Handlers

variable (s : Server) (method : GoString)

def handleHealthz : ApiScript :=
  getOnly method <| .ask .now fun now => .ret <| writeJSON 200
    [(str "status", .text (str "ok")), (str "servicio", .text s.appName),
      (str "profile", .text s.profile), (str "transporte", .text s.transport),
      (str "version_api", .text apiVersion), (str "marca_tiempo", .time now)]

def handleReady : ApiScript :=
  getOnly method <| .ask .now fun now => .ret <| writeJSON 200
    [(str "status", .text (str "ready")), (str "servicio", .text s.appName),
      (str "version_api", .text apiVersion),
      (str "componentes", .object
        [(str "control_api", .bool s.controlAPIEnabled), (str "sesiones", .bool s.sesiones),
          (str "tuneles", .bool s.tuneles), (str "opa_habilitado", .bool s.policyEnabled),
          (str "opa_modo", .text s.policyMode),
          (str "persistencia", .bool s.statePersistenceEnabled),
          (str "telemetria_trazas", .bool s.telemetryEnabled)]),
      (str "marca_tiempo", .time now)]

def handleStartup : ApiScript :=
  getOnly method <| .ask .now fun now => .ret <| writeJSON 200
    [(str "status", .text (str "started")), (str "servicio", .text s.appName),
      (str "version_api", .text apiVersion), (str "marca_tiempo", .time now)]

def handleOpenAPIJSON : ApiScript :=
  getOnly method <| .ret { status := 200, body := .openAPISpec }

def handleSwaggerUI : ApiScript :=
  getOnly method <| .ret { status := 200, body := .swaggerHTML }

def sessionCount (next : ℕ → ApiScript) : ApiScript :=
  if s.sesiones then .ask .sessionCount next else next 0

def tunelCount (next : ℕ → ApiScript) : ApiScript :=
  if s.tuneles then .ask (.controller .count) next else next 0

def handleStatus : ApiScript :=
  getOnly method <| sessionCount s fun sesiones => tunelCount s fun tuneles =>
    .ask .now fun now => .ret <| writeJSON 200
      [(str "status", .text (str "ok")), (str "servicio", .text s.appName),
        (str "profile", .text s.profile), (str "transporte", .text s.transport),
        (str "version_api", .text apiVersion), (str "sesiones_activas", .number sesiones),
        (str "tuneles_activos", .number tuneles),
        (str "control_api", .object
          [(str "habilitado", .bool true), (str "direccion", .text s.controlAPIAddr),
            (str "tls", .bool true)]),
        (str "persistencia", .object
          [(str "habilitada", .bool s.statePersistenceEnabled),
            (str "archivo_sesiones", .text s.stateSessionsPath),
            (str "archivo_tuneles", .text s.stateTunnelsPath)]),
        (str "marca_tiempo", .time now)]

def sessionsReply (items : List Snapshot) : HttpReply :=
  writeJSON 200 [(str "cantidad", .number items.length), (str "sesiones", .sessions items)]

def handleSessions : ApiScript :=
  getOnly method <|
    if s.sesiones then .ask .sessions fun items => .ret (sessionsReply items)
    else .ret (sessionsReply [])

def tunnelsReply (items : List Tunnel) : HttpReply :=
  writeJSON 200 [(str "cantidad", .number items.length), (str "tuneles", .tunnels items)]

def handleTunnels : ApiScript :=
  getOnly method <|
    if s.tuneles then .ask (.controller .snapshot) fun items => .ret (tunnelsReply items)
    else .ret (tunnelsReply [])

/-- What is read of a snapshot file. -/
def persistedReply {α : Type} (name : GoString) (items : List α → Payload) (error : GoString) :
    Except LoadError (SnapshotFile α) → HttpReply
  | .error (.notExist _) =>
      writeJSON 200 [(str "habilitada", .bool true), (str "cantidad", .number 0), (name, items [])]
  | .error _ => errorReply 500 error
  | .ok snapshot =>
      writeJSON 200 [(str "habilitada", .bool true), (str "generado_en", .time snapshot.generated),
        (str "cantidad", .number snapshot.items.length), (name, items snapshot.items)]

def persistenceOff (name : GoString) (items : Payload) : HttpReply :=
  writeJSON 200 [(str "habilitada", .bool false), (str "cantidad", .number 0), (name, items)]

def handlePersistedSessions : ApiScript :=
  getOnly method <|
    if !s.statePersistenceEnabled then .ret (persistenceOff (str "sesiones") (.sessions []))
    else .ask (.loadSessions s.stateSessionsPath) fun snapshot => .ret <|
      persistedReply (str "sesiones") .sessions (str "persistencia_sesiones_no_disponible") snapshot

def handlePersistedTunnels : ApiScript :=
  getOnly method <|
    if !s.statePersistenceEnabled then .ret (persistenceOff (str "tuneles") (.records []))
    else .ask (.loadTunnels s.stateTunnelsPath) fun snapshot => .ret <|
      persistedReply (str "tuneles") .records (str "persistencia_tuneles_no_disponible") snapshot

def unavailable : HttpReply := errorReply 503 (str "reenvio_no_disponible")

def tunnelNotFound (id : GoString) : HttpReply :=
  writeJSON 404 [(str "error", .text (str "tunel_no_encontrado")), (str "id", .text id)]

/-- The ID in the path of a legacy route. -/
def legacyID (path : GoString) : GoString :=
  trimSpace (trimPrefix (str "/api/admin/tuneles/") (trimPrefix (str "/api/admin/tunnels/") path))

/-- The tunnel is looked up and closed, in this order. -/
def closing (id : GoString) (reply : Tunnel → Bool → ApiScript) : ApiScript :=
  if !s.tuneles then .ret unavailable
  else
    .ask (.controller (.get id)) fun
      | none => .ret (tunnelNotFound id)
      | some tunel => .ask (.controller (.close id)) fun cerrado => reply tunel cerrado

def handleTunnelByID (path : GoString) : ApiScript :=
  let id := legacyID path
  if id = [] then .ret (errorReply 400 (str "falta_id_tunel"))
  else if method = str "DELETE" then
    closing s id fun tunel cerrado =>
      .ret <| writeJSON 200 [(str "cerrado", .bool cerrado), (str "tunel", .tunnel tunel)]
  else methodNotAllowed

def closeTunnelByID (id : GoString) : ApiScript :=
  closing s id fun tunel cerrado => .ask .now fun now => .ret <| writeJSON 200
    [(str "cerrado", .bool cerrado), (str "id", .text id), (str "version_api", .text apiVersion),
      (str "marca_tiempo", .time now), (str "tunel", .tunnel tunel)]

/-- The ID in the path of a version 1 route, and the action after it. -/
def v1Parts (path : GoString) : GoString × Option GoString :=
  let rest := trimSpace (trimPrefix (str "/api/v1/admin/tunnels/") path)
  match cutAt slash rest with
  | some (id, action) => (trimSpace id, some action)
  | none => (trimSpace rest, none)

def handleV1TunnelByID (path : GoString) : ApiScript :=
  match v1Parts path with
  | (id, action) =>
      if id = [] then .ret (errorReply 400 (str "falta_id_tunel"))
      else
        match action with
        | some action =>
            if action ≠ str "close" then .ret (errorReply 404 (str "endpoint_no_encontrado"))
            else if method ≠ str "POST" then methodNotAllowed
            else closeTunnelByID s id
        | none =>
            if method ≠ str "DELETE" then methodNotAllowed else closeTunnelByID s id

end Handlers

/-! ## Routes -/

inductive Endpoint where
  | healthz
  | ready
  | startup
  | openAPIJSON
  | swaggerUI
  | status
  | sessions
  | tunnels
  | tunnelByID
  | v1TunnelByID
  | persistedSessions
  | persistedTunnels
  deriving DecidableEq

/-- What is registered: a handler as it is, or inside `withAuth`. -/
inductive Registered where
  | open_ (e : Endpoint)
  | withAuth (e : Endpoint)
  deriving DecidableEq

def routes : List (Route Registered) :=
  [.of (str "/healthz") (.open_ .healthz),
    .of (str "/healthz/live") (.open_ .healthz),
    .of (str "/healthz/ready") (.open_ .ready),
    .of (str "/healthz/startup") (.open_ .startup),
    .of (str "/api/v1/docs/swagger.json") (.open_ .openAPIJSON),
    .of (str "/api/v1/docs/openapi.json") (.open_ .openAPIJSON),
    .of (str "/api/v1/docs/swagger/") (.open_ .swaggerUI),
    .of (str "/api/v1/docs/swagger") (.open_ .swaggerUI),
    .of (str "/api/v1/admin/status") (.withAuth .status),
    .of (str "/api/v1/admin/sessions") (.withAuth .sessions),
    .of (str "/api/v1/admin/tunnels") (.withAuth .tunnels),
    .of (str "/api/v1/admin/tunnels/") (.withAuth .v1TunnelByID),
    .of (str "/api/admin/status") (.withAuth .status),
    .of (str "/api/admin/sessions") (.withAuth .sessions),
    .of (str "/api/admin/sesiones") (.withAuth .sessions),
    .of (str "/api/admin/tunnels") (.withAuth .tunnels),
    .of (str "/api/admin/tuneles") (.withAuth .tunnels),
    .of (str "/api/admin/tunnels/") (.withAuth .tunnelByID),
    .of (str "/api/admin/tuneles/") (.withAuth .tunnelByID),
    .of (str "/api/admin/state/sessions") (.withAuth .persistedSessions),
    .of (str "/api/admin/state/tunnels") (.withAuth .persistedTunnels)]

/-- The handler of an endpoint; `path` is `r.URL.Path`. -/
def Endpoint.handle (s : Server) (method path : GoString) : Endpoint → ApiScript
  | .healthz => handleHealthz s method
  | .ready => handleReady s method
  | .startup => handleStartup s method
  | .openAPIJSON => handleOpenAPIJSON method
  | .swaggerUI => handleSwaggerUI method
  | .status => handleStatus s method
  | .sessions => handleSessions s method
  | .tunnels => handleTunnels s method
  | .tunnelByID => handleTunnelByID s method path
  | .v1TunnelByID => handleV1TunnelByID s method path
  | .persistedSessions => handlePersistedSessions s method
  | .persistedTunnels => handlePersistedTunnels s method

def constantTimeEqual (actual expected : GoString) : Bool :=
  if expected = [] then false
  else if actual.length ≠ expected.length then false
  else actual == expected

/-- The condition of `withAuth`. -/
def authorised (s : Server) (authorization : GoString) : Bool :=
  match basicAuth authorization with
  | none => false
  | some (usuario, pass) =>
      constantTimeEqual usuario s.controlAPIUser && constantTimeEqual pass s.controlAPIPassword

def unauthorised : HttpReply :=
  { errorReply 401 (str "no_autorizado") with
    challenge := some (str "Basic realm=\"sentinelops-control\"") }

def Registered.handle (s : Server) (r : Request) (path : GoString) : Registered → ApiScript
  | .open_ e => e.handle s r.method path
  | .withAuth e =>
      if authorised s r.authorization then e.handle s r.method path else .ret unauthorised

/-- One request, from its line to the reply. -/
def serve (s : Server) (r : Request) : ApiScript :=
  match unescape r.rawPath with
  | none => .ret { status := 400, body := .plain }
  | some path =>
      match findHandler routes r.method path (escapedPath r.rawPath path) with
      | .redirect location => .ret { status := 301, body := .plain, location := some location }
      | .notFound => .ret { status := 404, body := .plain }
      | .handler registered => registered.handle s r path

theorem serve_of_found {s : Server} {r : Request} {path : GoString} {e : Endpoint}
    (decoded : unescape r.rawPath = some path)
    (found : findHandler routes r.method path (escapedPath r.rawPath path) =
      .handler (.withAuth e)) :
    serve s r =
      if authorised s r.authorization then e.handle s r.method path else .ret unauthorised := by
  simp only [serve, decoded, found, Registered.handle]

/-! ## The components -/

/-- What the handlers ask. -/
structure ApiState where
  registry : Registry
  manager : Manager
  disk : Disk GoString

/-- What an answer takes from outside: the clock, the orders in which the two maps are iterated,
and the working directory. -/
structure Reading where
  now : Time
  sessionOrder : List (GoString × Session)
  tunnelOrder : List (GoString × ManagedTunnel)
  getwd : Except GoString GoString

def ApiState.answer (reading : Reading) (st : ApiState) : (q : ApiAsk) → q.Answer × ApiState
  | .now => (reading.now, st)
  | .sessions => (Registry.snapshot reading.sessionOrder, st)
  | .sessionCount => (st.registry.sessions.len, st)
  | .controller q =>
      let (a, manager) := st.manager.answer reading.tunnelOrder q
      (a, { st with manager := manager })
  | .loadSessions path => (Persistence.loadSessions reading.getwd path st.disk, st)
  | .loadTunnels path => (Persistence.loadTunnels reading.getwd path st.disk, st)

end SentinelOps.Controlplane
