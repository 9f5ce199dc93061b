/-
# Store.TunnelRace — the tunnels of a session are deleted while others create some

In memory `DeleteTunnelsBySession` is one step.  In Postgres it is a `SELECT` and a `DELETE`, and
in Redis an `SMEMBERS` and a transaction that deletes what was listed, so a tunnel may be created
in between.  `CreateTunnel` is one step everywhere.  A run is any interleaving of one deletion
with any number of creates for the same session (`Sweep.step`), the clock of the server going
forward.

`Safe` is what should hold once the IDs are returned: they are the tunnels that were removed, and
whatever tunnel of the session can be looked up is listed as well.  `tunnel_race_safe` says which
runs are: all of them in memory; in Postgres those in which nothing is inserted in between; in
Redis those that find the index right, in which a create in between only replaces a tunnel of the
session, and none of the tunnels expires.
-/
import SentinelOps.Store.Backends

namespace SentinelOps.Store

open Theory GoText Schedule Script
open GoTime (Time)

set_option autoImplicit false

/-! ## The race -/

/-- A store as the two calls use it. -/
structure Arena where
  State : Type
  Question : Type
  Reply : Question → Type
  /-- What the server chooses by itself when it answers. -/
  Order : Type
  answer : State → Time → Order → (q : Question) → Option (Reply q × State)
  delete : GoString → Script Question Reply (Except StoreError (List GoString))
  create : State → Tunnel → Stamp → Time → State
  stored : State → Time → GoString → Option Tunnel
  view : State → Time → View

/-- A step of a run: the next question of the deletion, or a create. -/
inductive Turn (Order : Type) where
  | delete (now : Time) (order : Order)
  | create (tunnel : Tunnel) (stamp : Stamp) (now : Time)

def Turn.now {Order : Type} : Turn Order → Time
  | delete now _ => now
  | create _ _ now => now

/-- The store, the deletion as far as it has come, the IDs of the tunnels that its steps have
removed, and the clock. -/
structure Sweep (a : Arena) where
  store : a.State
  script : Script a.Question a.Reply (Except StoreError (List GoString))
  removed : GoString → Bool
  clock : Time

namespace Sweep

variable {a : Arena} {sessionID : GoString} {t t' : Sweep a}

def start (a : Arena) (sessionID : GoString) (store : a.State) (clock : Time) : Sweep a :=
  { store, script := a.delete sessionID, removed := fun _ => false, clock }

/-- The deletion after an answer. -/
def resume (t : Sweep a) (now : Time)
    (script : Script a.Question a.Reply (Except StoreError (List GoString))) (store : a.State) :
    Sweep a where
  store := store
  script := script
  removed := fun id =>
    t.removed id || ((a.stored t.store now id).isSome && (a.stored store now id).isNone)
  clock := now

def step (sessionID : GoString) (t : Sweep a) (turn : Turn a.Order) : Option (Sweep a) :=
  if t.clock ≤ turn.now then
    match turn with
    | .delete now order =>
        match t.script with
        | .ret _ => none
        | .ask q next =>
            (a.answer t.store now order q).map fun out => t.resume now (next out.1) out.2
    | .create tunnel stamp now =>
        if tunnel.sessionID = sessionID then
          some { t with store := a.create t.store tunnel stamp now, clock := now }
        else none
  else none

/-- The IDs that the deletion has returned. -/
def returned (t : Sweep a) : Option (List GoString) :=
  match t.script with
  | .ret (.ok ids) => some ids
  | _ => none

/-- **Nothing is lost on the way.**  Once the deletion has returned, its IDs are those of the
tunnels that it removed, and from then on every tunnel of the session that a client can look up is
in every listing of that session. -/
def Safe (sessionID : GoString) (t : Sweep a) : Prop :=
  ∀ ids, t.returned = some ids →
    (∀ id, id ∈ ids ↔ t.removed id = true) ∧
    ∀ now, t.clock ≤ now → ∀ id tunnel reply,
      (a.view t.store now).tunnel id = .ok tunnel → tunnel.sessionID = sessionID →
        (a.view t.store now).tunnelsOf sessionID reply →
          ∃ listed, reply = .tunnels listed ∧ tunnel ∈ listed

theorem step_delete_eq_some {now : Time} {order : a.Order}
    (moved : step sessionID t (.delete now order) = some t') :
    t.clock ≤ now ∧ ∃ q next reply store, t.script = .ask q next ∧
      a.answer t.store now order q = some (reply, store) ∧
      t' = t.resume now (next reply) store := by
  obtain ⟨forward, moved⟩ := Option.ite_none_right_eq_some.1 moved
  refine ⟨forward, ?_⟩
  dsimp only at moved
  split at moved
  · cases moved
  · next q next asks =>
      obtain ⟨⟨reply, store⟩, answered, rfl⟩ := Option.map_eq_some_iff.1 moved
      exact ⟨q, next, reply, store, asks, answered, rfl⟩

theorem step_create_eq_some {tunnel : Tunnel} {stamp : Stamp} {now : Time}
    (moved : step sessionID t (.create tunnel stamp now) = some t') :
    t.clock ≤ now ∧ tunnel.sessionID = sessionID ∧
      t' = { t with store := a.create t.store tunnel stamp now, clock := now } := by
  obtain ⟨forward, moved⟩ := Option.ite_none_right_eq_some.1 moved
  obtain ⟨mine, same⟩ := Option.ite_none_right_eq_some.1 moved
  exact ⟨forward, mine, (Option.some.inj same).symm⟩

/-- A step that removes nothing. -/
theorem removed_resume_of_same (t : Sweep a) (now : Time)
    (script : Script a.Question a.Reply (Except StoreError (List GoString))) (id : GoString) :
    (t.resume now script t.store).removed id = t.removed id := by
  show (t.removed id || _) = _
  cases a.stored t.store now id <;> simp

end Sweep

/-! ## The three stores -/

/-- The whole deletion is one question. -/
def memoryArena : Arena where
  State := Memory
  Question := GoString
  Reply := fun _ => List GoString
  Order := List Tunnel
  answer := fun m _ order sessionID =>
    if m.records.tunnels.Lists order then
      let (ids, records) := m.records.deleteTunnelsBySession sessionID order
      some (ids, { m with records })
    else none
  delete := fun sessionID => .ask sessionID fun ids => .ret (.ok ids)
  create := fun m tunnel stamp _ =>
    { m with records := (m.records.createTunnel tunnel stamp.fresh stamp.now).2 }
  stored := fun m _ => m.records.tunnels.get
  view := fun m _ => m.view

def postgresArena (server : RecordServer) : Arena where
  State := PostgresRecords
  Question := Statement
  Reply := Result
  Order := List Tunnel
  answer := fun p _ order q =>
    if p.tunnels.Lists order then some (PostgresRecords.answer server order p q) else none
  delete := PostgresRecords.deleteTunnelsBySession
  create := fun p tunnel stamp _ => (p.createTunnel server tunnel stamp.fresh stamp.now).2
  stored := fun p _ => p.tunnels.get
  view := fun p _ => p.view server

/-- What `CreateTunnel` leaves; one that `json.Marshal` refuses sends nothing. -/
def RedisStore.createTunnelAt (r : RedisStore) (tunnel : Tunnel) (stamp : Stamp) (now : Time) :
    RedisStore :=
  ((play answer (createTunnel tunnel stamp.fresh stamp.now) r [⟨now, []⟩]).map Prod.snd).getD r

def redisArena : Arena where
  State := RedisStore
  Question := Command
  Reply := Answer
  Order := List GoString
  answer := fun r now order => r.answer ⟨now, order⟩
  delete := RedisStore.deleteTunnelsBySession
  create := RedisStore.createTunnelAt
  stored := RedisStore.readTunnel
  view := RedisStore.view

def Engine.arena : Engine → Arena
  | memory => memoryArena
  | postgres server => postgresArena server
  | redis => redisArena

/-! ## Conditions -/

namespace PostgresRecords

variable (server : RecordServer)

/-- The row is taken: its values are accepted, its ID is free and its session is there. -/
def Inserts (p : PostgresRecords) (tunnel : Tunnel) (stamp : Stamp) : Prop :=
  ∃ metadata row, marshalJSONMap tunnel.metadata = some metadata ∧
    server.tunnelRow (tunnel.stamped stamp.fresh stamp.now) metadata = some row ∧
    p.tunnels.get row.id = none ∧ (p.sessions.get row.sessionID).isSome = true

/-- The IDs are selected and the rows are not yet deleted. -/
def between {R : Type} : Script Statement Result R → Bool
  | .ask (.deleteTunnels _) _ => true
  | _ => false

def Undisturbed (t : Sweep (postgresArena server)) : Turn (List Tunnel) → Prop
  | .create tunnel stamp _ => between t.script = true → ¬ Inserts server t.store tunnel stamp
  | .delete _ _ => True

end PostgresRecords

namespace RedisStore

/-- A tunnel of the session can be read under this ID. -/
def Names (r : RedisStore) (sessionID : GoString) (now : Time) (id : GoString) : Prop :=
  ∃ tunnel, r.readTunnel now id = some tunnel ∧ tunnel.sessionID = sessionID

/-- The index of the session is about to be read. -/
def before {R : Type} : RedisScript R → Bool
  | .ask (.sMembers _) _ => true
  | _ => false

/-- The index is read and the tunnels are not yet deleted. -/
def between {R : Type} : RedisScript R → Bool
  | .ask (.txPipeline _) _ => true
  | _ => false

/-- The index is right when it is read, and no tunnel of the store has expired when they are
deleted.  A create in between that stores something replaces a tunnel of the session, and a later
one is not for the empty session ID, for which nothing is ever listed. -/
def Undisturbed (sessionID : GoString) (t : Sweep redisArena) : Turn (List GoString) → Prop
  | .delete now _ =>
      (before t.script = true → ∀ id,
        id ∈ liveMembers t.store (sessionTunnelsKey sessionID) now ↔
          Names t.store sessionID now id) ∧
      (between t.script = true → ∀ id tunnel, storedTunnel t.store id = some tunnel →
        readTunnel t.store now id = some tunnel)
  | .create tunnel stamp now => (tunnel.stamped stamp.fresh stamp.now).marshals = true →
      (between t.script = true →
        Names t.store sessionID now (identified tunnel.id stamp.fresh)) ∧
      (t.returned.isSome = true → sessionID ≠ [])

end RedisStore

/-- When a step of a run does no harm. -/
def Engine.Undisturbed :
    (e : Engine) → GoString → Sweep e.arena → Turn e.arena.Order → Prop
  | .memory, _, _, _ => True
  | .postgres server, _, t, turn => PostgresRecords.Undisturbed server t turn
  | .redis, sessionID, t, turn => RedisStore.Undisturbed sessionID t turn

/-! ## Tables -/

section Tables

variable {tunnels : Table Tunnel.id} {sessionID : GoString}

/-- The rows that are selected are the tunnels of the session. -/
theorem mem_selected {order : List Tunnel} (lists : tunnels.Lists order) (id : GoString) :
    id ∈ (order.filter fun tunnel => tunnel.sessionID == sessionID).map Tunnel.id ↔
      ∃ row, tunnels.get id = some row ∧ row.sessionID = sessionID := by
  simp only [List.mem_map, List.mem_filter, lists.mem_iff, beq_iff_eq]
  constructor
  · rintro ⟨row, ⟨found, mine⟩, rfl⟩
    exact ⟨row, found, mine⟩
  · rintro ⟨row, found, mine⟩
    obtain rfl := Table.key_of_get found
    exact ⟨row, ⟨found, mine⟩, rfl⟩

/-- And so are the rows that are deleted. -/
theorem removed_iff (id : GoString) :
    ((tunnels.get id).isSome &&
        ((tunnels.keep fun tunnel => tunnel.sessionID != sessionID).get id).isNone) = true ↔
      ∃ row, tunnels.get id = some row ∧ row.sessionID = sessionID := by
  rw [Table.get_keep]
  cases tunnels.get id with
  | none => simp
  | some row => simp [Option.filter_some]

end Tables

namespace Sweep

variable {a : Arena} {sessionID : GoString} {t : Sweep a}

theorem returned_eq_some {ids : List GoString} :
    t.returned = some ids ↔ t.script = .ret (.ok ids) := by
  unfold returned
  split
  · next ids' same => simp [same]
  · next other => simpa using fun same => other _ same

end Sweep

/-! ## Memory -/

section InMemory

variable {sessionID : GoString} {t t' : Sweep memoryArena}

/-- How far the deletion in memory has come. -/
inductive MemoryStage (sessionID : GoString) (t : Sweep memoryArena) : Prop where
  | begun (script : t.script = memoryArena.delete sessionID) (none : ∀ id, t.removed id = false)
  | swept (ids : List GoString) (script : t.script = .ret (.ok ids))
      (exact : ∀ id, id ∈ ids ↔ t.removed id = true)

theorem memoryStage_step {turn : Turn (List Tunnel)} (stage : MemoryStage sessionID t)
    (moved : Sweep.step sessionID t turn = some t') : MemoryStage sessionID t' := by
  cases turn with
  | delete now order =>
      obtain ⟨-, q, next, ids, m, asks, answered, rfl⟩ := Sweep.step_delete_eq_some moved
      cases stage with
      | begun script none_ =>
          cases script.symm.trans asks
          obtain ⟨lists, same⟩ := Option.ite_none_right_eq_some.1 answered
          cases same
          refine .swept _ rfl fun id => ?_
          show _ ↔ (t.removed id || _) = true
          rw [none_, Bool.false_or]
          exact (mem_selected lists id).trans (removed_iff id).symm
      | swept ids' script exact => cases script.symm.trans asks
  | create tunnel stamp now =>
      obtain ⟨-, -, rfl⟩ := Sweep.step_create_eq_some moved
      cases stage with
      | begun script none_ => exact .begun script none_
      | swept ids script exact => exact .swept ids script exact

theorem MemoryStage.safe (stage : MemoryStage sessionID t) : t.Safe sessionID := by
  intro ids returned
  rw [Sweep.returned_eq_some] at returned
  cases stage with
  | begun script none_ => cases script.symm.trans returned
  | swept ids' script exact =>
      cases script.symm.trans returned
      refine ⟨exact, fun now _ id tunnel reply seen mine replied => ?_⟩
      obtain ⟨listed, rfl, mem⟩ := memory_tunnelsOf replied
      obtain ⟨-, found⟩ := looked_eq_ok.1 ((memory_tunnel _ id).symm.trans seen)
      obtain rfl := Table.key_of_get found
      exact ⟨listed, rfl, (mem tunnel).2 ⟨found, .inr mine⟩⟩

end InMemory

/-! ## Postgres -/

namespace PostgresRecords

variable {server : RecordServer} {sessionID : GoString} {t t' : Sweep (postgresArena server)}

/-- The deletion once it has the IDs. -/
def afterSelect (sessionID : GoString) (ids : List GoString) :
    Script Statement Result (Except StoreError (List GoString)) :=
  .ask (.deleteTunnels sessionID) fun
    | .error e => .ret (.error e)
    | .ok () => .ret (.ok ids)

/-- How far the deletion has come. -/
inductive Stage (sessionID : GoString) (t : Sweep (postgresArena server)) : Prop where
  | begun (script : t.script = deleteTunnelsBySession sessionID) (none : ∀ id, t.removed id = false)
  | selected (ids : List GoString) (text : server.text sessionID = true)
      (script : t.script = afterSelect sessionID ids) (none : ∀ id, t.removed id = false)
      (same : ∀ id, id ∈ ids ↔
        ∃ row, Table.get t.store.tunnels id = some row ∧ row.sessionID = sessionID)
  | failed (e : StoreError) (script : t.script = .ret (.error e))
  | swept (ids : List GoString) (text : server.text sessionID = true)
      (script : t.script = .ret (.ok ids)) (exact : ∀ id, id ∈ ids ↔ t.removed id = true)

/-- A create that does not insert changes nothing. -/
theorem createTunnel_of_not_inserts {p : PostgresRecords} {tunnel : Tunnel} {stamp : Stamp}
    (refused : ¬ Inserts server p tunnel stamp) :
    (p.createTunnel server tunnel stamp.fresh stamp.now).2 = p := by
  rcases @createTunnel_cases server p tunnel stamp.fresh stamp.now with
    ⟨e, -, done⟩ | ⟨metadata, row, referenced, marshalled, accepted, absent, -⟩
  · rw [done]
  · exact absurd ⟨metadata, row, marshalled, accepted, absent, referenced⟩ refused

theorem stage_step {turn : Turn (List Tunnel)} (stage : Stage sessionID t)
    (undisturbed : Undisturbed server t turn) (moved : Sweep.step sessionID t turn = some t') :
    Stage sessionID t' := by
  cases turn with
  | delete now order =>
      obtain ⟨-, q, next, reply, p, asks, answered, rfl⟩ := Sweep.step_delete_eq_some moved
      obtain ⟨lists, same⟩ := Option.ite_none_right_eq_some.1 answered
      cases stage with
      | begun script none_ =>
          cases script.symm.trans asks
          cases text : server.text sessionID with
          | false =>
              simp only [answer, text, Bool.false_eq_true, if_false] at same
              cases same
              exact .failed .driver rfl
          | true =>
              simp only [answer, text, if_true] at same
              cases same
              refine .selected _ text rfl (fun id => ?_) (mem_selected lists)
              exact (Sweep.removed_resume_of_same t now _ id).trans (none_ id)
      | selected ids text script none_ rows =>
          cases script.symm.trans asks
          simp only [answer, text, if_true] at same
          cases same
          refine .swept ids text rfl fun id => ?_
          show _ ↔ (t.removed id || _) = true
          rw [none_, Bool.false_or]
          exact (rows id).trans (removed_iff id).symm
      | failed e script => cases script.symm.trans asks
      | swept ids text script exact => cases script.symm.trans asks
  | create tunnel stamp now =>
      obtain ⟨-, -, rfl⟩ := Sweep.step_create_eq_some moved
      cases stage with
      | begun script none_ => exact .begun script none_
      | selected ids text script none_ rows =>
          -- The one stage in which a create matters: the rows must stay those that were selected.
          have refused := undisturbed (by rw [script]; rfl)
          have kept : (postgresArena server).create t.store tunnel stamp now = t.store :=
            createTunnel_of_not_inserts refused
          refine .selected ids text script none_ fun id => ?_
          show _ ↔ ∃ row, Table.get (PostgresRecords.tunnels
            ((postgresArena server).create t.store tunnel stamp now)) id = some row ∧ _
          rw [kept]
          exact rows id
      | failed e script => exact .failed e script
      | swept ids text script exact => exact .swept ids text script exact

theorem Stage.safe (stage : Stage sessionID t) : t.Safe sessionID := by
  intro ids returned
  rw [Sweep.returned_eq_some] at returned
  cases stage with
  | begun script none_ => cases script.symm.trans returned
  | selected ids' text script none_ rows => cases script.symm.trans returned
  | failed e script => cases script.symm.trans returned
  | swept ids' text script exact =>
      cases script.symm.trans returned
      refine ⟨exact, fun now _ id tunnel reply seen mine replied => ?_⟩
      obtain ⟨listed, rfl, mem⟩ := postgres_tunnelsOf replied text
      obtain ⟨-, found⟩ := looked_eq_ok.1 ((postgres_tunnel server _ id).symm.trans seen)
      obtain rfl := Table.key_of_get found
      exact ⟨listed, rfl, (mem tunnel).2 ⟨found, .inr mine⟩⟩

end PostgresRecords

/-! ## Redis -/

namespace RedisStore

variable {r r' : RedisStore} {sessionID id : GoString} {now now' : Time} {tunnel : Tunnel}
variable {stamp : Stamp}

/-! ### Reading later -/

theorem live_of_later {k : GoString} {e : RedisEntry} (later : now ≤ now')
    (here : r.live k now' = some e) : r.live k now = some e := by
  obtain ⟨found, unexpired⟩ := Option.filter_eq_some_iff.1 here
  refine live_of_unexpired found ?_
  rw [Bool.not_eq_true'] at unexpired
  obtain ⟨value, expireAt⟩ := e
  cases expireAt with
  | none => rfl
  | some end_ =>
      have after : ¬ end_ < now' := of_decide_eq_false unexpired
      exact decide_eq_false fun ended => after (lt_of_lt_of_le ended later)

theorem readTunnel_eq_some :
    r.readTunnel now id = some tunnel ↔
      ∃ doc expireAt, r.live (tunnelKey id) now = some ⟨.document doc, expireAt⟩ ∧
        doc.unmarshalTunnel = some tunnel := by
  refine view_tunnel_eq_ok.symm.trans (tunnelOf_eq_ok.trans ?_)
  constructor
  · rintro ⟨doc, read, decoded⟩
    obtain ⟨expireAt, found⟩ := readString_eq_document read
    exact ⟨doc, expireAt, found, decoded⟩
  · rintro ⟨doc, expireAt, found, decoded⟩
    exact ⟨doc, by rw [readString, found], decoded⟩

theorem readTunnel_congr (same : r'.keys.get (tunnelKey id) = r.keys.get (tunnelKey id))
    (now : Time) : r'.readTunnel now id = r.readTunnel now id := by
  rw [readTunnel, readTunnel, readString, readString, live_congr same]

theorem readTunnel_of_get_none (absent : r.keys.get (tunnelKey id) = none) (now : Time) :
    r.readTunnel now id = none := by
  rw [readTunnel, readString, live_of_get_none absent]
  rfl

theorem storedTunnel_of_readTunnel (read : r.readTunnel now id = some tunnel) :
    r.storedTunnel id = some tunnel := by
  obtain ⟨doc, expireAt, found, decoded⟩ := readTunnel_eq_some.1 read
  rw [storedTunnel, document, (Option.filter_eq_some_iff.1 found).1]
  exact decoded

theorem Names.earlier (later : now ≤ now') (names : r.Names sessionID now' id) :
    r.Names sessionID now id := by
  obtain ⟨tunnel, read, mine⟩ := names
  obtain ⟨doc, expireAt, found, decoded⟩ := readTunnel_eq_some.1 read
  exact ⟨tunnel, readTunnel_eq_some.2 ⟨doc, expireAt, live_of_later later found, decoded⟩, mine⟩

theorem Names.congr (same : r'.keys.get (tunnelKey id) = r.keys.get (tunnelKey id))
    (names : r'.Names sessionID now id) : r.Names sessionID now id := by
  obtain ⟨tunnel, read, mine⟩ := names
  exact ⟨tunnel, (readTunnel_congr same now).symm.trans read, mine⟩

/-! ### What a create leaves -/

/-- The transaction of a create. -/
def creation (tunnel : Tunnel) (stamp : Stamp) : List Write :=
  [.set (tunnelKey (identified tunnel.id stamp.fresh))
      (.document (tunnel.stamped stamp.fresh stamp.now).document) day,
    .sAdd (sessionTunnelsKey tunnel.sessionID) (identified tunnel.id stamp.fresh)]

theorem createTunnelAt_cases (r : RedisStore) (tunnel : Tunnel) (stamp : Stamp) (now : Time) :
    (¬ (tunnel.stamped stamp.fresh stamp.now).marshals = true ∧
        r.createTunnelAt tunnel stamp now = r) ∨
      ((tunnel.stamped stamp.fresh stamp.now).marshals = true ∧
        r.createTunnelAt tunnel stamp now = (r.commit now (creation tunnel stamp)).2) := by
  unfold createTunnelAt createTunnel
  dsimp only
  cases data : (tunnel.stamped stamp.fresh stamp.now).marshal with
  | none => exact .inl ⟨Tunnel.marshal_eq_none.1 data, rfl⟩
  | some doc =>
      obtain ⟨marshals, rfl⟩ := Tunnel.marshal_eq_some.1 data
      exact .inr ⟨marshals, rfl⟩

/-- A create leaves the tunnels under other IDs as they are. -/
theorem get_createTunnelAt (r : RedisStore) (now : Time)
    (apart : id ≠ identified tunnel.id stamp.fresh) :
    (r.createTunnelAt tunnel stamp now).keys.get (tunnelKey id) = r.keys.get (tunnelKey id) := by
  rcases r.createTunnelAt_cases tunnel stamp now with ⟨-, same⟩ | ⟨-, same⟩
  · rw [same]
  · rw [same]
    exact get_commit_pair r now (fun same => apart (tunnelKey_inj.1 same))
      (tunnelKey_ne_sessionTunnelsKey _ _)

/-- What is stored before a create is stored after it, if not as it was. -/
theorem isSome_storedTunnel_create (r : RedisStore) (tunnel : Tunnel) (stamp : Stamp) (now : Time)
    (stored : (r.storedTunnel id).isSome = true) :
    ((r.createTunnelAt tunnel stamp now).storedTunnel id).isSome = true := by
  by_cases same : id = identified tunnel.id stamp.fresh
  · rcases r.createTunnelAt_cases tunnel stamp now with ⟨-, kept⟩ | ⟨-, written⟩
    · rw [kept]
      exact stored
    · have apart := tunnelKey_ne_sessionTunnelsKey (identified tunnel.id stamp.fresh)
        tunnel.sessionID
      have found : (r.commit now (creation tunnel stamp)).2.keys.get
          (tunnelKey (identified tunnel.id stamp.fresh)) = some ⟨.document _, _⟩ :=
        get_commit_set r now (tunnel.stamped stamp.fresh stamp.now).document apart
      rw [written, same, storedTunnel, document, found]
      show (Document.unmarshalTunnel _).isSome = true
      rw [Tunnel.unmarshal_document]
      rfl
  · rw [storedTunnel, document_congr (r.get_createTunnelAt now same)]
    exact stored

/-- What can be read after a create could be read before, or is the tunnel it stored. -/
theorem names_create
    (names : (r.createTunnelAt tunnel stamp now).Names sessionID now' id) :
    r.Names sessionID now' id ∨
      ((tunnel.stamped stamp.fresh stamp.now).marshals = true ∧
        id = identified tunnel.id stamp.fresh) := by
  by_cases same : id = identified tunnel.id stamp.fresh
  · rcases r.createTunnelAt_cases tunnel stamp now with ⟨-, kept⟩ | ⟨marshals, -⟩
    · rw [kept] at names
      exact .inl names
    · exact .inr ⟨marshals, same⟩
  · exact .inl (names.congr (r.get_createTunnelAt now same))

/-- The key holds a set without an end, or nothing. -/
def Lasting (r : RedisStore) (k : GoString) : Prop :=
  ∀ e, r.keys.get k = some e → ∃ set, e = ⟨.members set, none⟩

theorem Lasting.live {k : GoString} (lasting : r.Lasting k) (now : Time) :
    r.live k now = r.keys.get k := by
  cases here : r.keys.get k with
  | none => exact live_of_get_none here now
  | some e =>
      obtain ⟨set, rfl⟩ := lasting e here
      exact live_of_unexpired here rfl

theorem Lasting.liveMembers {k : GoString} (lasting : r.Lasting k) (now : Time) :
    r.listable k now = true ∧ r.liveMembers k now = r.members k := by
  unfold listable RedisStore.liveMembers members
  rw [lasting.live]
  cases here : r.keys.get k with
  | none => exact ⟨rfl, rfl⟩
  | some e =>
      obtain ⟨set, rfl⟩ := lasting e here
      exact ⟨rfl, rfl⟩

theorem get_sAdd_of_lasting {k : GoString} (lasting : r.Lasting k) (now : Time)
    (member : GoString) :
    (r.write now (.sAdd k member)).2.keys.get k =
      some ⟨.members (insert member (r.members k)), none⟩ := by
  have set : r.IsSet k := fun e here => by
    obtain ⟨set, rfl⟩ := lasting e here
    exact ⟨set, rfl⟩
  have endless : (r.keys.get k).bind RedisEntry.expireAt = none := by
    cases here : r.keys.get k with
    | none => rfl
    | some e =>
        obtain ⟨set, rfl⟩ := lasting e here
        rfl
  rw [get_sAdd set (lasting.live now), endless]

/-- A create adds its ID to the index. -/
theorem index_creation (now : Time) (lasting : r.Lasting (sessionTunnelsKey tunnel.sessionID)) :
    (r.commit now (creation tunnel stamp)).2.keys.get (sessionTunnelsKey tunnel.sessionID) =
      some ⟨.members (insert (identified tunnel.id stamp.fresh)
        (r.members (sessionTunnelsKey tunnel.sessionID))), none⟩ := by
  let set := Write.set (tunnelKey (identified tunnel.id stamp.fresh))
    (.document (tunnel.stamped stamp.fresh stamp.now).document) day
  have apart : sessionTunnelsKey tunnel.sessionID ≠ set.key :=
    (tunnelKey_ne_sessionTunnelsKey _ _).symm
  have kept := r.get_write now apart
  have lasting' : (r.write now set).2.Lasting (sessionTunnelsKey tunnel.sessionID) :=
    fun e here => lasting e (kept.symm.trans here)
  rw [← members_congr kept]
  exact get_sAdd_of_lasting lasting' now _

/-- A create keeps the index a set without an end, and what it lists. -/
theorem Lasting.create (lasting : r.Lasting (sessionTunnelsKey tunnel.sessionID)) (stamp : Stamp)
    (now : Time) :
    (r.createTunnelAt tunnel stamp now).Lasting (sessionTunnelsKey tunnel.sessionID) ∧
      (∀ id ∈ r.members (sessionTunnelsKey tunnel.sessionID),
        id ∈ (r.createTunnelAt tunnel stamp now).members (sessionTunnelsKey tunnel.sessionID)) ∧
      ((tunnel.stamped stamp.fresh stamp.now).marshals = true →
        identified tunnel.id stamp.fresh ∈
          (r.createTunnelAt tunnel stamp now).members (sessionTunnelsKey tunnel.sessionID)) := by
  rcases r.createTunnelAt_cases tunnel stamp now with ⟨refused, kept⟩ | ⟨-, written⟩
  · rw [kept]
    exact ⟨lasting, fun _ member => member, fun marshals => absurd marshals refused⟩
  · have index := @index_creation r tunnel stamp now lasting
    rw [written]
    refine ⟨fun e here => ⟨_, Option.some.inj (here.symm.trans index)⟩, fun id member => ?_, ?_⟩
    · rw [members, index]
      exact Finset.mem_insert_of_mem member
    · intro
      rw [members, index]
      exact Finset.mem_insert_self ..

/-! ### The stages of the deletion -/

/-- The deletion once it has the IDs. -/
def afterMembers (sessionID : GoString) (ids : List GoString) :
    RedisScript (Except StoreError (List GoString)) :=
  .ask (.txPipeline (ids.map (fun id => .del (tunnelKey id)) ++
    [.del (sessionTunnelsKey sessionID)])) fun
    | .error e => .ret (.error e)
    | .ok () => .ret (.ok ids)

variable {t t' : Sweep redisArena}

/-- How far the deletion has come. -/
inductive Stage (sessionID : GoString) (t : Sweep redisArena) : Prop where
  | begun (script : t.script = deleteTunnelsBySession sessionID) (none : ∀ id, t.removed id = false)
  | listed (ids : List GoString) (script : t.script = afterMembers sessionID ids)
      (none : ∀ id, t.removed id = false)
      (held : ∀ id ∈ ids, (storedTunnel t.store id).isSome = true)
      (all : ∀ now, t.clock ≤ now → ∀ id, Names t.store sessionID now id → id ∈ ids)
  | failed (e : StoreError) (script : t.script = .ret (.error e))
  | swept (ids : List GoString) (script : t.script = .ret (.ok ids))
      (exact : ∀ id, id ∈ ids ↔ t.removed id = true)
      (lasting : Lasting t.store (sessionTunnelsKey sessionID))
      (indexed : ∀ now, t.clock ≤ now → ∀ id, Names t.store sessionID now id →
        sessionID ≠ [] ∧ id ∈ members t.store (sessionTunnelsKey sessionID))

theorem tunnelKey_mem_sweptKeys {ids : List GoString} :
    tunnelKey id ∈ sweptKeys sessionID ids ↔ id ∈ ids := by
  simp [sweptKeys, tunnelKey_inj, tunnelKey_ne_sessionTunnelsKey]

/-- The transaction leaves the tunnels that were not listed as they are, and no others. -/
theorem commit_sweep (r : RedisStore) (now : Time) (sessionID : GoString) (ids : List GoString) :
    ∃ r', r.commit now (ids.map (fun id => .del (tunnelKey id)) ++
        [.del (sessionTunnelsKey sessionID)]) = (.ok (), r') ∧
      r'.keys.get (sessionTunnelsKey sessionID) = none ∧
      ∀ id, r'.keys.get (tunnelKey id) = if id ∈ ids then none else r.keys.get (tunnelKey id) := by
  rw [← map_del_sweptKeys]
  refine ⟨_, commit_del r now _, ?_, fun id => ?_⟩
  · rw [get_writeAll_del, if_pos (by simp [sweptKeys])]
  · rw [get_writeAll_del]
    simp only [tunnelKey_mem_sweptKeys]

theorem stage_delete {order : List GoString} (stage : Stage sessionID t)
    (undisturbed : Undisturbed sessionID t (.delete now order))
    (moved : Sweep.step sessionID t (.delete now order) = some t') : Stage sessionID t' := by
  obtain ⟨forward, q, next, reply, store, asks, answered, rfl⟩ := Sweep.step_delete_eq_some moved
  cases stage with
  | begun script none_ =>
      have right := undisturbed.1 (by rw [script]; rfl)
      cases script.symm.trans asks
      obtain ⟨read, found, same⟩ := Option.map_eq_some_iff.1 answered
      cases same
      rcases readMembers_eq_some found with ⟨-, rfl⟩ | ⟨ids, rfl, -, mem⟩
      · exact .failed .driver rfl
      · refine .listed ids rfl (fun id => ?_) (fun id member => ?_)
          fun later forward' id names => ?_
        · exact (Sweep.removed_resume_of_same t now _ id).trans (none_ id)
        · obtain ⟨tunnel, read, -⟩ := (right id).1 ((mem id).1 member)
          show (storedTunnel t.store id).isSome = true
          rw [storedTunnel_of_readTunnel read]
          rfl
        · exact (mem id).2 ((right id).2 (names.earlier forward'))
  | listed ids script none_ held all =>
      have unexpired := undisturbed.2 (by rw [script]; rfl)
      cases script.symm.trans asks
      obtain ⟨r', done, index, tunnels⟩ := commit_sweep t.store now sessionID ids
      cases done.symm.trans (Option.some.inj answered)
      -- What was listed is gone at every instant, and all else is as it was.
      have gone : ∀ id, id ∈ ids → ∀ now, readTunnel store now id = none := by
        intro id member now
        have absent := (tunnels id).trans (if_pos member)
        exact readTunnel_of_get_none absent now
      refine .swept ids rfl (fun id => ?_) (fun e here => ?_) fun later forward' id names => ?_
      · show _ ↔ (t.removed id ||
          ((readTunnel t.store now id).isSome && (readTunnel store now id).isNone)) = true
        rw [none_, Bool.false_or]
        by_cases member : id ∈ ids
        · obtain ⟨tunnel, stored⟩ := Option.isSome_iff_exists.1 (held id member)
          rw [unexpired id tunnel stored, gone id member now]
          exact iff_of_true member rfl
        · rw [readTunnel_congr ((tunnels id).trans (if_neg member))]
          refine iff_of_false member ?_
          cases readTunnel t.store now id <;> simp
      · cases index.symm.trans here
      · -- A tunnel of the session that is left could be read before, and so was listed.
        exfalso
        obtain ⟨tunnel, read, mine⟩ := names
        by_cases member : id ∈ ids
        · cases (gone id member later).symm.trans read
        · have kept := (tunnels id).trans (if_neg member)
          exact member (all later (forward.trans forward') id
            ⟨tunnel, (readTunnel_congr kept later).symm.trans read, mine⟩)
  | failed e script => cases script.symm.trans asks
  | swept ids script exact lasting indexed => cases script.symm.trans asks

theorem stage_create (stage : Stage sessionID t)
    (undisturbed : Undisturbed sessionID t (.create tunnel stamp now))
    (moved : Sweep.step sessionID t (.create tunnel stamp now) = some t') :
    Stage sessionID t' := by
  obtain ⟨forward, rfl, rfl⟩ := Sweep.step_create_eq_some moved
  cases stage with
  | begun script none_ => exact .begun script none_
  | failed e script => exact .failed e script
  | listed ids script none_ held all =>
      refine .listed ids script none_ (fun id member => ?_) fun later forward' id names => ?_
      · exact isSome_storedTunnel_create t.store tunnel stamp now (held id member)
      · rcases names_create names with names | ⟨marshals, same⟩
        · exact all later (forward.trans forward') id names
        · -- The new tunnel takes the place of one that was listed.
          rw [same]
          exact all now forward _ ((undisturbed marshals).1 (by rw [script]; rfl))
  | swept ids script exact lasting indexed =>
      obtain ⟨lasting', kept, added⟩ := lasting.create stamp now
      refine .swept ids script exact lasting' fun later forward' id names => ?_
      rcases names_create names with names | ⟨marshals, same⟩
      · obtain ⟨named, member⟩ := indexed later (forward.trans forward') id names
        exact ⟨named, kept id member⟩
      · refine ⟨(undisturbed marshals).2 (by rw [Sweep.returned_eq_some.2 script]; rfl), ?_⟩
        rw [same]
        exact added marshals

theorem stage_step {turn : Turn (List GoString)} (stage : Stage sessionID t)
    (undisturbed : Undisturbed sessionID t turn) (moved : Sweep.step sessionID t turn = some t') :
    Stage sessionID t' := by
  cases turn with
  | delete now order => exact stage_delete stage undisturbed moved
  | create tunnel stamp now => exact stage_create stage undisturbed moved

theorem Stage.safe (stage : Stage sessionID t) : t.Safe sessionID := by
  intro ids returned
  rw [Sweep.returned_eq_some] at returned
  cases stage with
  | begun script none_ => cases script.symm.trans returned
  | listed ids' script none_ held all => cases script.symm.trans returned
  | failed e script => cases script.symm.trans returned
  | swept ids' script exact lasting indexed =>
      cases script.symm.trans returned
      refine ⟨exact, fun now forward id tunnel reply seen mine replied => ?_⟩
      obtain ⟨listable, live⟩ := lasting.liveMembers now
      have read := view_tunnel_eq_ok.1 seen
      obtain ⟨named, member⟩ := indexed now forward id ⟨tunnel, read, mine⟩
      rcases redis_tunnelsOf named replied with ⟨unlistable, -⟩ | ⟨listed, rfl, -, mem⟩
      · cases listable.symm.trans unlistable
      · refine ⟨listed, rfl, (mem tunnel).2 ⟨id, ?_, read⟩⟩
        rw [live]
        exact member

end RedisStore

/-! ## All three -/

/-- **The deletion against any number of creates.**  In every run whose steps all meet the
condition of their store, the deletion returns what it removed, and no tunnel of the session is
left that can be looked up and is not listed. -/
theorem tunnel_race_safe (e : Engine) (sessionID : GoString) (s : e.arena.State) (clock : Time)
    (turns : List (Turn e.arena.Order)) (t : Sweep e.arena)
    (undisturbed : Along (Sweep.step sessionID) (e.Undisturbed sessionID)
      (Sweep.start e.arena sessionID s clock) turns)
    (ran : exec (Sweep.step sessionID) (Sweep.start e.arena sessionID s clock) turns = some t) :
    t.Safe sessionID := by
  cases e with
  | memory =>
      refine MemoryStage.safe (exec_invariant (fun s l s' => memoryStage_step) ?_ ran)
      exact .begun rfl fun _ => rfl
  | postgres server =>
      refine PostgresRecords.Stage.safe (exec_invariant_along
        (fun s l s' => PostgresRecords.stage_step) ?_ undisturbed ran)
      exact .begun rfl fun _ => rfl
  | redis =>
      refine RedisStore.Stage.safe (exec_invariant_along (fun s l s' => RedisStore.stage_step) ?_
        undisturbed ran)
      exact .begun rfl fun _ => rfl

/-- One tunnel in Redis is deleted, and then another one is created. -/
theorem tunnel_race_quiet :
    let r := newRedisStore.createTunnelAt sampleTunnel ⟨default, 1⟩ 1
    let later : Tunnel := { sampleTunnel with id := str "t2" }
    ∃ t, exec (Sweep.step (str "s1")) (Sweep.start redisArena (str "s1") r 1)
        [.delete 2 [str "t1"], .delete 3 [], .create later ⟨default, 4⟩ 4] = some t ∧
      t.returned = some [str "t1"] ∧ t.Safe (str "s1") := by
  intro r later
  let t₀ := Sweep.start redisArena (str "s1") r 1
  let t₁ := (Sweep.step (str "s1") t₀ (.delete 2 [str "t1"])).get (by decide)
  let t₂ := (Sweep.step (str "s1") t₁ (.delete 3 [])).get (by decide)
  let t₃ := (Sweep.step (str "s1") t₂ (.create later ⟨default, 4⟩ 4)).get (by decide)
  have first : Sweep.step (str "s1") t₀ (.delete 2 [str "t1"]) = some t₁ :=
    (Option.some_get _).symm
  have second : Sweep.step (str "s1") t₁ (.delete 3 []) = some t₂ := (Option.some_get _).symm
  have third : Sweep.step (str "s1") t₂ (.create later ⟨default, 4⟩ 4) = some t₃ :=
    (Option.some_get _).symm
  have ran : exec (Sweep.step (str "s1")) t₀
      [.delete 2 [str "t1"], .delete 3 [], .create later ⟨default, 4⟩ 4] = some t₃ :=
    exec_cons_eq_some.2 ⟨t₁, first, exec_cons_eq_some.2 ⟨t₂, second,
      exec_cons_eq_some.2 ⟨t₃, third, rfl⟩⟩⟩
  have right : ∀ id, id ∈ r.liveMembers (sessionTunnelsKey (str "s1")) 2 ↔
      r.Names (str "s1") 2 id := by
    have live : r.liveMembers (sessionTunnelsKey (str "s1")) 2 = {str "t1"} := by decide
    have read : (r.readTunnel 2 (str "t1")).map Tunnel.sessionID = some (str "s1") := by
      decide
    intro id
    rw [live, Finset.mem_singleton]
    constructor
    · rintro rfl
      exact Option.map_eq_some_iff.1 read
    · intro names
      rcases RedisStore.names_create names with ⟨tunnel, found, -⟩ | ⟨-, same⟩
      · have nothing := RedisStore.readTunnel_of_get_none (GoMap.get_empty (tunnelKey id)) 2
        cases nothing.symm.trans found
      · exact same
  have unexpired : ∀ id tunnel, RedisStore.storedTunnel t₁.store id = some tunnel →
      RedisStore.readTunnel t₁.store 3 id = some tunnel := by
    let r₁ : RedisStore := t₁.store
    have fresh : r₁.NoneExpired 3 := by
      show ∀ e ∈ r₁.keys.entries, e.2.expired 3 = false
      decide
    exact fun id tunnel stored =>
      RedisStore.view_tunnel_eq_ok.1 (RedisStore.read_of_storedTunnel fresh stored)
  have undisturbed : Along (Sweep.step (str "s1")) (Engine.redis.Undisturbed (str "s1")) t₀
      [.delete 2 [str "t1"], .delete 3 [], .create later ⟨default, 4⟩ 4] := by
    refine along_cons_of_eq first ⟨fun _ => right, ?_⟩
      (along_cons_of_eq second ⟨?_, fun _ => unexpired⟩ (along_cons_of_eq third ?_ trivial))
    · intro between
      cases between
    · intro before
      have past : RedisStore.before t₁.script = false := by decide
      cases past.symm.trans before
    · refine fun _ => ⟨fun between => ?_, fun _ => by decide⟩
      have past : RedisStore.between t₂.script = false := by decide
      cases past.symm.trans between
  exact ⟨t₃, ran, by decide,
    tunnel_race_safe .redis (str "s1") r 1 _ t₃ undisturbed ran⟩

/-- A tunnel is created between the two statements.  In Postgres it is deleted and not returned.
In Redis it stays and is not listed. -/
theorem tunnel_race_lost :
    let p := (newPostgresRecords.createSession sampleServer sampleSession default 1000).2
    let row : Tunnel := { sampleTunnel.stamped default 3000 with metadata := some ∅ }
    (∃ t, exec (Sweep.step (str "s1")) (Sweep.start (postgresArena sampleServer) (str "s1") p 1000)
        [.delete 2000 [], .create sampleTunnel ⟨default, 3000⟩ 3000, .delete 4000 [row]] = some t ∧
      t.returned = some [] ∧ t.removed (str "t1") = true ∧ ¬ t.Safe (str "s1")) ∧
    (∃ t, exec (Sweep.step (str "s1")) (Sweep.start redisArena (str "s1") newRedisStore 1000)
        [.delete 2000 [], .create sampleTunnel ⟨default, 3000⟩ 3000, .delete 4000 []] = some t ∧
      t.returned = some [] ∧
      (RedisStore.readTunnel t.store 5000 (str "t1")).map Tunnel.sessionID = some (str "s1") ∧
      RedisStore.liveMembers t.store (sessionTunnelsKey (str "s1")) 5000 = ∅ ∧
      ¬ t.Safe (str "s1")) := by
  intro p row
  constructor
  · have ended : (exec (Sweep.step (str "s1"))
        (Sweep.start (postgresArena sampleServer) (str "s1") p 1000)
        [.delete 2000 [], .create sampleTunnel ⟨default, 3000⟩ 3000, .delete 4000 [row]]).map
          (fun t => (t.returned, t.removed (str "t1"))) = some (some [], true) := by
      decide +kernel
    obtain ⟨t, ran, seen⟩ := Option.map_eq_some_iff.1 ended
    obtain ⟨returned, removed⟩ := Prod.ext_iff.1 seen
    refine ⟨t, ran, returned, removed, fun safe => ?_⟩
    cases ((safe [] returned).1 (str "t1")).2 removed
  · have ended : (exec (Sweep.step (str "s1"))
        (Sweep.start redisArena (str "s1") newRedisStore 1000)
        [.delete 2000 [], .create sampleTunnel ⟨default, 3000⟩ 3000, .delete 4000 []]).map
          (fun t => (t.returned, decide (t.clock = 4000),
            (RedisStore.readTunnel t.store 5000 (str "t1")).map Tunnel.sessionID,
            RedisStore.liveMembers t.store (sessionTunnelsKey (str "s1")) 5000)) =
        some (some [], true, some (str "s1"), ∅) := by
      decide
    obtain ⟨t, ran, seen⟩ := Option.map_eq_some_iff.1 ended
    simp only [Prod.mk.injEq, decide_eq_true_eq] at seen
    obtain ⟨returned, clock, read, unlisted⟩ := seen
    refine ⟨t, ran, returned, read, unlisted, fun safe => ?_⟩
    obtain ⟨tunnel, found, mine⟩ := Option.map_eq_some_iff.1 read
    obtain ⟨reply, replied⟩ := RedisStore.exists_tunnelsOf t.store 5000 (str "s1")
    obtain ⟨listed, rfl, member⟩ := (safe [] returned).2 5000 (by rw [clock]; decide) (str "t1")
      tunnel reply (RedisStore.view_tunnel_eq_ok.2 found) mine replied
    rcases RedisStore.redis_tunnelsOf (by decide) replied with ⟨-, same⟩ | ⟨listed', same, -, mem⟩
    · cases same
    · cases same
      obtain ⟨id, indexed, -⟩ := (mem tunnel).1 member
      rw [unlisted] at indexed
      cases indexed

end SentinelOps.Store
