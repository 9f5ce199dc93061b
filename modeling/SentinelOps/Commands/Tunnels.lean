/-
# Commands.Tunnels — the `tunnels` command and what it tells an ordinary user

`internal/commands/tunnels.go` with the role checks of `internal/access/roles.go`.  The
command reaches the table only through the `Controller` interface, so it is a script: its
`Get` and its `Close` are separate calls.  `time.Since` is read once per line; `clock k` is
the reading for line `k`.

A user who may not see all tunnels still sees one bit of other users' tunnels: `tunnels
close <id>` answers differently for an ID that nobody holds and for one that somebody else
holds.  `reply_eq_iff` says that this is all: nothing else about them reaches a reply.
-/
import SentinelOps.Forwarding.Manager
import SentinelOps.Session.Registry

namespace SentinelOps.Commands

open Theory GoText GoTime Forwarding
open Session (Session)

set_option autoImplicit false

/-! ## `access/roles.go` -/

def normalize (value : GoString) : GoString := toLower (trimSpace value)

def canViewAllTunnels (role : GoString) : Bool :=
  normalize role = str "teacher" || normalize role = str "auditor" || normalize role = str "admin"

def canCloseTunnel (role requester owner : GoString) : Bool :=
  if normalize role = str "admin" then true
  else normalize requester ≠ [] && normalize requester = normalize owner

/-! ## The command -/

/-- One line of `renderTunnels`, at the clock reading `now`. -/
def tunnelLine (now : Time) (t : Tunnel) : GoString :=
  str "- id=" ++ t.id ++ str " direction=" ++ t.direction.text ++ str " session_id=" ++
    t.sessionID ++ str " username=" ++ t.username ++ str " bind=" ++ t.bind ++ str " target=" ++
    t.target ++ str " origin=" ++ t.origin ++ str " started_at=" ++ formatRFC3339 t.startedAt ++
    str " uptime=" ++ durationString (round (now.sub t.startedAt) second) ++ str "\n"

def renderTunnels (clock : ℕ → Time) (items : List Tunnel) : GoString :=
  if items.length = 0 then str "active_tunnels=0"
  else
    trimRightByte 0x0A
      (str "active_tunnels=" ++ decimal items.length ++ str "\n" ++
        (items.mapIdx fun k t => tunnelLine (clock k) t).flatten)

structure Runtime where
  session : Session
  /-- `rt.Forwarding != nil`. -/
  forwarding : Bool

/-- `TunnelsCommand.Execute`; its error is always nil. -/
def execute (rt : Runtime) (clock : ℕ → Time) (args : List GoString) :
    Script Controller Controller.Answer GoString :=
  let mine := Script.ask (.snapshotByUsername rt.session.username) fun items =>
    .ret (renderTunnels clock items)
  let all := Script.ask .snapshot fun items => .ret (renderTunnels clock items)
  if !rt.forwarding then .ret (str "active_tunnels=0\nforwarding=disabled")
  else
    match args with
    | [] => if canViewAllTunnels rt.session.role then all else mine
    | arg :: rest =>
        if toLower (trimSpace arg) = str "mine" then mine
        else if toLower (trimSpace arg) = str "all" then
          if !canViewAllTunnels rt.session.role then
            .ret (str "Acceso denegado: tu rol no puede ver todos los túneles.")
          else all
        else if toLower (trimSpace arg) = str "close" then
          match rest with
          | [] => .ret (str "Uso: tunnels close <id>")
          | arg₁ :: _ =>
              let id := trimSpace arg₁
              .ask (.get id) fun
                | none => .ret (str "Túnel no encontrado: " ++ id)
                | some tunnel =>
                    if !canCloseTunnel rt.session.role rt.session.username tunnel.username then
                      .ret (str "Acceso denegado: no puedes cerrar este túnel.")
                    else
                      .ask (.close id) fun closed =>
                        if !closed then .ret (str "No se pudo cerrar el túnel: " ++ id)
                        else .ret (str "Túnel cerrado: " ++ id)
        else .ret (str "Uso: tunnels [mine|all|close <id>]")

/-- The reply to a session of a server with forwarding, when the map is iterated in the given
order and nobody else uses the manager meanwhile. -/
def reply (sess : Session) (clock : ℕ → Time) (args : List GoString) (m : Manager)
    (order : List (GoString × ManagedTunnel)) : GoString :=
  ((execute ⟨sess, true⟩ clock args).run (Manager.answer order) m).1

/-! ## What an ordinary user learns -/

/-- `args` asks to close `id`. -/
def Probes (args : List GoString) (id : GoString) : Prop :=
  ∃ arg arg₁ rest, args = arg :: arg₁ :: rest ∧ toLower (trimSpace arg) = str "close" ∧
    trimSpace arg₁ = id

/-- A tunnel of another user holds `id`. -/
def HeldByOther (sess : Session) (m : Manager) (id : GoString) : Prop :=
  ∃ t, m.get id = some t ∧ normalize t.username ≠ normalize sess.username

/-- No two tunnels started at one instant. -/
def DistinctStarts (m : Manager) : Prop :=
  ∀ t u, m.get t.id = some t → m.get u.id = some u → t.startedAt = u.startedAt → t = u

/-- The two tables agree on the user's own tunnels. -/
def SameOwn (sess : Session) (m₁ m₂ : Manager) : Prop :=
  ∀ t : Tunnel, normalize t.username = normalize sess.username →
    (m₁.get t.id = some t ↔ m₂.get t.id = some t)

section OrdinaryUser

variable {sess : Session} {m₁ m₂ : Manager} {order₁ order₂ : List (GoString × ManagedTunnel)}

/-- What `SnapshotByUsername` returns depends on the user's own tunnels only: both results
are sorted, and distinct starts leave one way to sort. -/
theorem snapshotByUsername_eq (iterates₁ : m₁.tunnels.Iterates order₁)
    (iterates₂ : m₂.tunnels.Iterates order₂) (distinct : DistinctStarts m₁)
    (own : SameOwn sess m₁ m₂) :
    Manager.snapshotByUsername order₁ sess.username =
      Manager.snapshotByUsername order₂ sess.username := by
  have sorted : ∀ order, (Manager.snapshotByUsername order sess.username).Pairwise
      fun a b => a.startedAt ≤ b.startedAt := fun order => (Manager.sorted_snapshot order).filter _
  have members : ∀ t, t ∈ Manager.snapshotByUsername order₁ sess.username ↔
      t ∈ Manager.snapshotByUsername order₂ sess.username := by
    intro t
    simp only [Manager.snapshotByUsername, List.mem_filter, Manager.mem_snapshot iterates₁,
      Manager.mem_snapshot iterates₂, decide_eq_true_eq]
    exact and_congr_left fun owner => own t owner
  have nodup₁ : (Manager.snapshotByUsername order₁ sess.username).Nodup :=
    ((Manager.nodup_snapshot iterates₁).of_map Tunnel.id).filter _
  have nodup₂ : (Manager.snapshotByUsername order₂ sess.username).Nodup :=
    ((Manager.nodup_snapshot iterates₂).of_map Tunnel.id).filter _
  refine ((List.perm_ext_iff_of_nodup nodup₁ nodup₂).2 members).eq_of_pairwise ?_
    (sorted order₁) (sorted order₂)
  intro t u listed listed' first second
  have inTable : ∀ t, t ∈ Manager.snapshotByUsername order₁ sess.username →
      m₁.get t.id = some t := by
    intro t listed
    exact (Manager.mem_snapshot iterates₁ t).1 (List.mem_of_mem_filter listed)
  exact distinct t u (inTable t listed) (inTable u ((members u).2 listed'))
    (Int.le_antisymm first second)

theorem canViewAllTunnels_eq_false (ordinary : normalize sess.role ≠ str "teacher" ∧
    normalize sess.role ≠ str "auditor" ∧ normalize sess.role ≠ str "admin") :
    canViewAllTunnels sess.role = false := by
  simp [canViewAllTunnels, ordinary]

/-- Without an ID to close, an ordinary user gets a fixed text or their own tunnels. -/
theorem reply_eq_of_not_probes (clock : ℕ → Time) (args : List GoString)
    (hidden : canViewAllTunnels sess.role = false) (quiet : ∀ id, ¬ Probes args id)
    (own : Manager.snapshotByUsername order₁ sess.username =
      Manager.snapshotByUsername order₂ sess.username) :
    reply sess clock args m₁ order₁ = reply sess clock args m₂ order₂ := by
  cases args with
  | nil => simp [reply, execute, hidden, Script.run, Manager.answer, own]
  | cons arg rest =>
      by_cases close : toLower (trimSpace arg) = str "close"
      · cases rest with
        | nil =>
            have notMine : str "close" ≠ str "mine" := by decide
            have notAll : str "close" ≠ str "all" := by decide
            simp [reply, execute, close, notMine, notAll, Script.run]
        | cons arg₁ rest => exact absurd ⟨arg, arg₁, rest, rfl, close, rfl⟩ (quiet (trimSpace arg₁))
      · by_cases mine : toLower (trimSpace arg) = str "mine"
        · simp [reply, execute, mine, Script.run, Manager.answer, own]
        · by_cases all : toLower (trimSpace arg) = str "all"
          · have notMine : str "all" ≠ str "mine" := by decide
            simp [reply, execute, all, notMine, hidden, Script.run]
          · simp [reply, execute, mine, all, close, Script.run]

/-- The reply to `close <id>` for anyone who is not an administrator. -/
theorem reply_of_probes (clock : ℕ → Time) {args : List GoString} {id : GoString}
    (plain : normalize sess.role ≠ str "admin") (probes : Probes args id) (m : Manager)
    (order : List (GoString × ManagedTunnel)) :
    reply sess clock args m order =
      match m.get id with
      | none => str "Túnel no encontrado: " ++ id
      | some t =>
          if normalize sess.username ≠ [] ∧ normalize sess.username = normalize t.username then
            str "Túnel cerrado: " ++ id
          else str "Acceso denegado: no puedes cerrar este túnel." := by
  obtain ⟨arg, arg₁, rest, rfl, close, rfl⟩ := probes
  have notMine : str "close" ≠ str "mine" := by decide
  have notAll : str "close" ≠ str "all" := by decide
  cases found : m.get (trimSpace arg₁) with
  | none => simp [reply, execute, close, notMine, notAll, Script.run, Manager.answer, found]
  | some t =>
      -- The tunnel just found is still there when `Close` looks for it.
      have removed : (m.remove (trimSpace arg₁)).1.isSome := by
        obtain ⟨item, filed, -⟩ := Manager.get_eq_some_iff.1 found
        rw [(m.remove_spec _).1, filed]
        rfl
      by_cases mayClose : normalize sess.username ≠ [] ∧
          normalize sess.username = normalize t.username
      · simp [reply, execute, close, notMine, notAll, Script.run, Manager.answer, found, plain,
          canCloseTunnel, mayClose.1, ← mayClose.2, removed]
      · have refused : canCloseTunnel sess.role sess.username t.username = false := by
          simpa [canCloseTunnel, plain] using mayClose
        simp only [if_neg mayClose]
        simp [reply, execute, close, notMine, notAll, Script.run, Manager.answer, found, refused]

/-- An ID that is none of the user's own: refused if somebody holds it, unknown if not. -/
theorem reply_of_not_own (clock : ℕ → Time) {args : List GoString} {id : GoString}
    (plain : normalize sess.role ≠ str "admin") (probes : Probes args id) (m : Manager)
    (order : List (GoString × ManagedTunnel))
    (foreign : ∀ t, m.get id = some t → normalize t.username ≠ normalize sess.username) :
    (HeldByOther sess m id ∧
        reply sess clock args m order = str "Acceso denegado: no puedes cerrar este túnel.") ∨
      (¬ HeldByOther sess m id ∧
        reply sess clock args m order = str "Túnel no encontrado: " ++ id) := by
  rw [reply_of_probes clock plain probes m order]
  cases found : m.get id with
  | none =>
      refine .inr ⟨?_, rfl⟩
      rintro ⟨t, held, -⟩
      rw [found] at held
      cases held
  | some t =>
      have other := foreign t found
      refine .inl ⟨⟨t, found, other⟩, if_neg ?_⟩
      rintro ⟨-, same⟩
      exact other same.symm

/-- What `close <id>` tells is whether somebody else holds the ID. -/
theorem reply_probes_eq_iff (clock : ℕ → Time) {args : List GoString} {id : GoString}
    (plain : normalize sess.role ≠ str "admin") (probes : Probes args id)
    (own : SameOwn sess m₁ m₂) :
    reply sess clock args m₁ order₁ = reply sess clock args m₂ order₂ ↔
      (HeldByOther sess m₁ id ↔ HeldByOther sess m₂ id) := by
  have transfer : ∀ t, normalize t.username = normalize sess.username →
      (m₁.get id = some t ↔ m₂.get id = some t) := by
    intro t owner
    constructor
    · intro found
      have filed := Manager.id_of_get found
      exact filed ▸ (own t owner).1 (filed.symm ▸ found)
    · intro found
      have filed := Manager.id_of_get found
      exact filed ▸ (own t owner).2 (filed.symm ▸ found)
  by_cases mine : ∃ t, m₁.get id = some t ∧ normalize t.username = normalize sess.username
  · obtain ⟨t, found₁, owner⟩ := mine
    have found₂ := (transfer t owner).1 found₁
    have notOther : ∀ m : Manager, m.get id = some t → ¬ HeldByOther sess m id := by
      rintro m found ⟨u, held, other⟩
      cases found.symm.trans held
      exact other owner
    rw [reply_of_probes clock plain probes, reply_of_probes clock plain probes, found₁, found₂]
    simp [notOther m₁ found₁, notOther m₂ found₂]
  · have foreign₁ : ∀ t, m₁.get id = some t → normalize t.username ≠ normalize sess.username :=
      fun t found owner => mine ⟨t, found, owner⟩
    have foreign₂ : ∀ t, m₂.get id = some t → normalize t.username ≠ normalize sess.username :=
      fun t found owner => mine ⟨t, (transfer t owner).2 found, owner⟩
    -- The two texts differ in their first byte.
    have texts : str "Acceso denegado: no puedes cerrar este túnel." ≠
        str "Túnel no encontrado: " ++ id := by
      intro same
      have heads := congrArg List.head? same
      rw [List.head?_append_of_ne_nil _ (by decide)] at heads
      exact absurd heads (by decide)
    rcases reply_of_not_own clock plain probes m₁ order₁ foreign₁ with
        ⟨held₁, told₁⟩ | ⟨free₁, told₁⟩ <;>
      rcases reply_of_not_own clock plain probes m₂ order₂ foreign₂ with
        ⟨held₂, told₂⟩ | ⟨free₂, told₂⟩ <;>
      rw [told₁, told₂]
    · simp [held₁, held₂]
    · simp [held₁, free₂, texts]
    · simp [free₁, held₂, texts.symm]
    · simp [free₁, free₂]

/-- **A reply to an ordinary user depends on other users' tunnels in one bit**: two tables
that agree on the user's own tunnels give the same reply, unless the command closes an ID
that another user's tunnel holds in exactly one of them. -/
theorem reply_eq_iff (sess : Session) (clock : ℕ → Time) (args : List GoString)
    (ordinary : normalize sess.role ≠ str "teacher" ∧ normalize sess.role ≠ str "auditor" ∧
      normalize sess.role ≠ str "admin")
    (m₁ m₂ : Manager) (order₁ order₂ : List (GoString × ManagedTunnel))
    (iterates₁ : m₁.tunnels.Iterates order₁) (iterates₂ : m₂.tunnels.Iterates order₂)
    (distinct : DistinctStarts m₁) (own : SameOwn sess m₁ m₂) :
    reply sess clock args m₁ order₁ = reply sess clock args m₂ order₂ ↔
      ∀ id, Probes args id → (HeldByOther sess m₁ id ↔ HeldByOther sess m₂ id) := by
  by_cases probing : ∃ id, Probes args id
  · obtain ⟨id, probes⟩ := probing
    rw [reply_probes_eq_iff clock ordinary.2.2 probes own]
    constructor
    · intro agree id' probes'
      obtain ⟨arg, arg₁, rest, rfl, -, rfl⟩ := probes
      obtain ⟨_, _, _, ⟨⟩, -, rfl⟩ := probes'
      exact agree
    · intro agree
      exact agree id probes
  · have quiet : ∀ id, ¬ Probes args id := fun id probes => probing ⟨id, probes⟩
    have same := snapshotByUsername_eq iterates₁ iterates₂ distinct own
    have equal : reply sess clock args m₁ order₁ = reply sess clock args m₂ order₂ :=
      reply_eq_of_not_probes clock args (canViewAllTunnels_eq_false ordinary) quiet same
    simp only [equal, true_iff]
    intro id probes
    exact absurd probes (quiet id)

/-- A student's session, and a table with one tunnel of somebody else. -/
def student : Session :=
  { id := str "sess-000001", connectedAt := 1, username := str "student", role := str "student" }

def othersTunnel : ManagedTunnel × Manager :=
  newManager.openLocal (str "sess-000002") (str "teacher") (str "127.0.0.1:80")
    (str "10.0.0.9:4000") none 5

theorem get_othersTunnel {id : GoString} {t : Tunnel} (found : othersTunnel.2.get id = some t) :
    t = othersTunnel.1.toTunnel := by
  obtain ⟨item, filed, rfl⟩ := Manager.get_eq_some_iff.1 found
  rw [show othersTunnel.2.tunnels = newManager.tunnels.set (tunnelID 1) othersTunnel.1 from rfl,
    GoMap.get_set] at filed
  split at filed
  · cases filed
    rfl
  · simp [newManager] at filed

theorem newManager_get (id : GoString) : newManager.get id = none := by
  simp [Manager.get, newManager]

theorem sameOwn_othersTunnel : SameOwn student newManager othersTunnel.2 := by
  intro t owner
  rw [newManager_get]
  refine ⟨nofun, fun found => ?_⟩
  rw [get_othersTunnel found] at owner
  exact absurd owner (by decide)

theorem distinctStarts_newManager : DistinctStarts newManager := by
  intro t u found
  rw [newManager_get] at found
  cases found

theorem distinctStarts_othersTunnel : DistinctStarts othersTunnel.2 := by
  intro t u found found' _
  rw [get_othersTunnel found, get_othersTunnel found']

theorem reply_eq_iff_student : reply student (fun _ => 9) [] newManager [] =
    reply student (fun _ => 9) [] othersTunnel.2 [(tunnelID 1, othersTunnel.1)] := by
  refine (reply_eq_iff student (fun _ => 9) [] (by decide) newManager othersTunnel.2 []
    [(tunnelID 1, othersTunnel.1)] (by decide) (by decide) distinctStarts_newManager
    sameOwn_othersTunnel).2 ?_
  rintro id ⟨_, _, _, ⟨⟩, -⟩

/-- The student holds no tunnel in either table, and `close tun-000001` tells them apart. -/
theorem close_tells_others_tunnel :
    canViewAllTunnels student.role = false ∧
    (newManager.tunnels.Iterates [] ∧
      othersTunnel.2.tunnels.Iterates [(tunnelID 1, othersTunnel.1)]) ∧
    (DistinctStarts newManager ∧ DistinctStarts othersTunnel.2) ∧
    SameOwn student newManager othersTunnel.2 ∧
    reply student (fun _ => 9) [str "close", str "tun-000001"] newManager [] ≠
      reply student (fun _ => 9) [str "close", str "tun-000001"] othersTunnel.2
        [(tunnelID 1, othersTunnel.1)] :=
  ⟨by decide, by decide, ⟨distinctStarts_newManager, distinctStarts_othersTunnel⟩,
    sameOwn_othersTunnel, by decide⟩

end OrdinaryUser

end SentinelOps.Commands
