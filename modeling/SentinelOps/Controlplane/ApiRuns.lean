/-
# Controlplane.ApiRuns — what a client of the control API can see and do

`serve` over whole runs.  Requests of different connections are served at the same time, and the
rest of the program changes the sessions, the tunnels and the files meanwhile.

* Without the credentials a client learns nothing of them and changes none of them, whatever else
  goes on (`strangers_separated`).
* The credentials are in the header exactly when it is `Basic`, in any case, with a text that
  decodes to `user:password`; a configured user with a colon, or an empty user or password, shuts
  everybody out (`authorised_iff`).

What a client with the credentials does is the subject of `ApiTunnels`.
-/
import SentinelOps.Controlplane.HttpApi
import SentinelOps.Theory.Connections

namespace SentinelOps.Controlplane

open Theory GoHttp
open Forwarding (ManagedTunnel Manager)
open Connections (Step Blind Asking only start)
open GoText (GoString str)
open Schedule (exec)

set_option autoImplicit false

variable {s : Server} {r : Request} {st : ApiState} {reading : Reading}

/-! ## Without credentials -/

/-- The endpoints that are registered without `withAuth`. -/
def Endpoint.isOpen : Endpoint → Bool
  | .healthz | .ready | .startup | .openAPIJSON | .swaggerUI => true
  | _ => false

def Registered.isSafe : Registered → Bool
  | .open_ e => e.isOpen
  | .withAuth _ => true

theorem isSafe_of_mem : ∀ route ∈ routes, route.handler.isSafe = true := by decide

theorem blind_now : Blind ApiState.answer .now := ⟨Reading.now, fun _ _ => rfl⟩

theorem asks_getOnly {P : ApiAsk → Prop} {method : GoString} {next : ApiScript}
    (asks : next.Asks P) : (getOnly method next).Asks P := by
  unfold getOnly
  split
  · trivial
  · exact asks

/-- An open endpoint asks for the time, if anything. -/
theorem asks_open {e : Endpoint} (open_ : e.isOpen = true) (s : Server) (method path : GoString) :
    (e.handle s method path).Asks (Blind ApiState.answer) := by
  cases e with
  | healthz | ready | startup => exact asks_getOnly ⟨blind_now, fun _ => trivial⟩
  | openAPIJSON | swaggerUI => exact asks_getOnly trivial
  | _ => cases open_

theorem asks_stranger (stranger : authorised s r.authorization = false) :
    (serve s r).Asks (Blind ApiState.answer) := by
  unfold serve
  split
  · trivial
  · split
    · trivial
    · trivial
    · next registered found =>
        obtain ⟨-, route, member, rfl, -⟩ := findHandler_eq_handler found
        have safe := isSafe_of_mem route member
        cases kind : route.handler with
        | open_ e =>
            rw [kind] at safe
            exact asks_open safe s r.method _
        | withAuth e =>
            rw [Registered.handle, stranger]
            trivial

/-- **Clients without the credentials are separated from the rest.**  Take their connections out
of a run: everybody else gets the same replies, and the sessions, tunnels and files are the same.
Let them run alone, on other sessions, tunnels and files: they get the same replies. -/
theorem strangers_separated (s : Server) (u : ℕ → Bool) (st st' : ApiState)
    {steps : List (Step ApiState Request Reading)}
    {final : Connections.Server ApiState ApiAsk ApiAsk.Answer HttpReply}
    (strangers : ∀ i r, Step.request i r ∈ steps → u i = true →
      authorised s r.authorization = false)
    (ran : exec (Connections.step (serve s) ApiState.answer) (start st) steps = some final) :
    exec (Connections.step (serve s) ApiState.answer) (start st) (steps.filter fun l => !l.on u) =
        some (only (fun i => !u i) final.shared final) ∧
      exec (Connections.step (serve s) ApiState.answer) (start st') (steps.filter (Step.on u)) =
        some (only u st' final) := by
  have asking : ∀ l ∈ steps, Asking (serve s) ApiState.answer u l := by
    rintro l member i r rfl on
    exact asks_stranger (strangers i r member on)
  exact ⟨Connections.exec_without asking ran, Connections.exec_alone asking ran st'⟩

def adminServer : Server where
  appName := str "sentinelops"
  profile := str "dev"
  transport := str "ssh"
  controlAPIEnabled := true
  controlAPIAddr := str "127.0.0.1:8443"
  controlAPIUser := str "admin"
  controlAPIPassword := str "secret"
  policyEnabled := false
  policyMode := str "off"
  telemetryEnabled := false
  statePersistenceEnabled := false
  stateSessionsPath := []
  stateTunnelsPath := []
  sesiones := true
  tuneles := true

def listing (authorization : GoString) : Request :=
  ⟨str "GET", str "/api/admin/tunnels", authorization⟩

theorem serve_listing (s : Server) (authorization : GoString) :
    serve s (listing authorization) =
      if authorised s authorization then handleTunnels s (str "GET") else .ret unauthorised := by
  have decoded : unescape (str "/api/admin/tunnels") = some (str "/api/admin/tunnels") := by decide
  have found : findHandler routes (str "GET") (str "/api/admin/tunnels")
      (escapedPath (str "/api/admin/tunnels") (str "/api/admin/tunnels")) =
        .handler (.withAuth .tunnels) := by decide
  exact serve_of_found (r := listing authorization) decoded found

def emptyState : ApiState := ⟨Session.newRegistry, Forwarding.newManager, Persistence.emptyDisk⟩

/-- One tunnel is open. -/
def openedTunnel : ManagedTunnel × Manager :=
  Forwarding.newManager.openLocal (str "sess-000001") (str "ana") (str "127.0.0.1:80")
    (str "10.0.0.9:4000") none 5

def tunnelState : ApiState := ⟨Session.newRegistry, openedTunnel.2, Persistence.emptyDisk⟩

def tunnelReading : Reading := ⟨9, [], [(openedTunnel.1.id, openedTunnel.1)], .ok []⟩

/-- Connection 1 asks for the tunnels without the credentials, while connection 2 has them. -/
def twoListings : List (Step ApiState Request Reading) :=
  [.request 1 (listing []), .request 2 (listing (basicHeader (str "admin") (str "secret"))),
    .move 2 tunnelReading, .move 1 tunnelReading, .move 2 tunnelReading]

theorem strangers_separated_listing :
    tunnelState.manager.tunnels.Iterates tunnelReading.tunnelOrder ∧
    ∃ final, exec (Connections.step (serve adminServer) ApiState.answer) (start tunnelState)
        twoListings = some final ∧
      final.replies = [(1, unauthorised), (2, tunnelsReply [openedTunnel.1.toTunnel])] ∧
      exec (Connections.step (serve adminServer) ApiState.answer) (start tunnelState)
          (twoListings.filter fun l => !l.on (· == 1)) =
        some (only (fun i => !(i == 1)) final.shared final) ∧
      exec (Connections.step (serve adminServer) ApiState.answer) (start emptyState)
          (twoListings.filter (Step.on (· == 1))) = some (only (· == 1) emptyState final) := by
  have strangers : ∀ i r, Step.request i r ∈ twoListings → (i == 1) = true →
      authorised adminServer r.authorization = false := by
    intro i r member first
    simp only [twoListings, List.mem_cons, Step.request.injEq, reduceCtorEq, List.not_mem_nil,
      or_false] at member
    rcases member with ⟨rfl, rfl⟩ | ⟨rfl, rfl⟩
    · decide
    · cases first
  have ran : ∃ final, exec (Connections.step (serve adminServer) ApiState.answer)
      (start tunnelState) twoListings = some final ∧
      final.replies = [(1, unauthorised), (2, tunnelsReply [openedTunnel.1.toTunnel])] := by
    have one : serve adminServer (listing []) = .ret unauthorised :=
      (serve_listing _ _).trans (if_neg (by decide))
    have two : serve adminServer (listing (basicHeader (str "admin") (str "secret"))) =
        .ask (.controller .snapshot) fun items => .ret (tunnelsReply items) :=
      (serve_listing _ _).trans (if_pos (by decide))
    generalize serve adminServer = handler at one two
    simp only [twoListings, Schedule.exec_cons, Connections.step, Connections.start, one, two]
    exact ⟨_, rfl, rfl⟩
  obtain ⟨final, ran, replies⟩ := ran
  exact ⟨by decide, final, ran, replies,
    strangers_separated adminServer (· == 1) tunnelState emptyState strangers ran⟩

/-! ## The credentials -/

theorem constantTimeEqual_iff {actual expected : GoString} :
    constantTimeEqual actual expected = true ↔ expected ≠ [] ∧ actual = expected := by
  unfold constantTimeEqual
  by_cases empty : expected = []
  · simp [empty]
  · by_cases same : actual = expected
    · simp [empty, same]
    · simp [empty, same]

/-- The configured credentials can be sent at all. -/
structure Server.Sendable (s : Server) : Prop where
  user : s.controlAPIUser ≠ []
  password : s.controlAPIPassword ≠ []
  noColon : colon ∉ s.controlAPIUser

/-- The text that the header has to decode to. -/
def Server.secret (s : Server) : GoString := s.controlAPIUser ++ colon :: s.controlAPIPassword

theorem cutAt_secret_iff {text : GoString} :
    (∃ usuario pass, cutAt colon text = some (usuario, pass) ∧
        constantTimeEqual usuario s.controlAPIUser = true ∧
        constantTimeEqual pass s.controlAPIPassword = true) ↔
      s.Sendable ∧ text = s.secret := by
  simp only [constantTimeEqual_iff]
  constructor
  · rintro ⟨_, _, cut, ⟨user, rfl⟩, password, rfl⟩
    obtain ⟨rfl, noColon⟩ := cutAt_eq_some_iff.1 cut
    exact ⟨⟨user, password, noColon⟩, rfl⟩
  · rintro ⟨sendable, rfl⟩
    exact ⟨_, _, cutAt_append _ sendable.noColon, ⟨sendable.user, rfl⟩, sendable.password, rfl⟩

theorem authorised_eq_true_iff {authorization : GoString} :
    authorised s authorization = true ↔ ∃ usuario pass,
      basicAuth authorization = some (usuario, pass) ∧
      constantTimeEqual usuario s.controlAPIUser = true ∧
      constantTimeEqual pass s.controlAPIPassword = true := by
  unfold authorised
  split
  · next none_ => simp [none_]
  · next usuario pass read => simp [read]

theorem basicAuth_eq_some_iff {authorization usuario pass : GoString} :
    basicAuth authorization = some (usuario, pass) ↔ ∃ scheme text decoded,
      authorization = scheme ++ text ∧ scheme.map asciiLower = str "basic " ∧
      Base64.decode text = some decoded ∧ cutAt colon decoded = some (usuario, pass) := by
  have lower : basic.map asciiLower = str "basic " := by decide
  unfold basicAuth
  constructor
  · intro read
    split at read
    · cases read
    · next spelled =>
        obtain ⟨-, same⟩ := not_or.1 spelled
        obtain ⟨decoded, decodes, cut⟩ := Option.bind_eq_some_iff.1 read
        exact ⟨_, _, decoded, (List.take_append_drop basic.length authorization).symm,
          (not_not.1 same).trans lower, decodes, cut⟩
  · rintro ⟨scheme, text, decoded, rfl, spelled, decodes, cut⟩
    have size : scheme.length = basic.length := by
      rw [← List.length_map asciiLower, spelled, ← lower, List.length_map]
    rw [if_neg, ← size, List.drop_left, decodes]
    · exact cut
    · rw [← size, List.take_left, List.length_append, lower, spelled]
      simp

/-- **The header is accepted exactly when it carries the credentials.**  The scheme is read in any
case, and the text in any spelling that decodes to `user:password`; credentials that cannot be
sent are never accepted.  For a header that a client makes of a user and a password, the two texts
must be the same, wherever their colons are. -/
theorem authorised_iff (s : Server) :
    (∀ authorization, authorised s authorization = true ↔ s.Sendable ∧
      ∃ scheme text, authorization = scheme ++ text ∧ scheme.map asciiLower = str "basic " ∧
        Base64.decode text = some s.secret) ∧
    ∀ usuario pass, authorised s (basicHeader usuario pass) = true ↔
      s.Sendable ∧ usuario ++ colon :: pass = s.secret := by
  constructor
  · intro authorization
    simp only [authorised_eq_true_iff, basicAuth_eq_some_iff]
    constructor
    · rintro ⟨usuario, pass, ⟨scheme, text, decoded, split, spelled, decodes, cut⟩, equal⟩
      obtain ⟨sendable, rfl⟩ := cutAt_secret_iff.1 ⟨usuario, pass, cut, equal⟩
      exact ⟨sendable, scheme, text, split, spelled, decodes⟩
    · rintro ⟨sendable, scheme, text, split, spelled, decodes⟩
      obtain ⟨usuario, pass, cut, equal⟩ := cutAt_secret_iff.2 ⟨sendable, rfl⟩
      exact ⟨usuario, pass, ⟨scheme, text, s.secret, split, spelled, decodes, cut⟩, equal⟩
  · intro usuario pass
    rw [authorised_eq_true_iff, basicAuth_basicHeader]
    exact cutAt_secret_iff

end SentinelOps.Controlplane
