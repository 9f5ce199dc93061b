/-
# Store.Backends — the three stores behind one interface

`Store` is an interface with three implementations.  `Backend` is what they have in common: the
states, how the store can move from one to another, what a call on sessions and tunnels may
return, and what a client sees of a state at an instant (`View`).  A statement about all three is
a statement about `Engine.backend`.

What a client sees of `ListTunnels` for one session is spelled out for each store
(`memory_tunnelsOf`, `postgres_tunnelsOf`, `redis_tunnelsOf`).
-/
import SentinelOps.Store.PostgresRecords
import SentinelOps.Store.RedisKeys
import SentinelOps.Store.Windows

namespace SentinelOps.Store

open Theory GoText Script
open GoTime (Time Duration)
open MemoryRecords (Reading)

set_option autoImplicit false

/-- What a client sees of the sessions and tunnels of a store at one instant. -/
structure View where
  session : GoString → Except StoreError Session
  tunnel : GoString → Except StoreError Tunnel
  /-- The replies that `ListTunnels` may give when only the session ID filters. -/
  tunnelsOf : GoString → RecordReply → Prop

/-- What the client of a call brings along besides its arguments: a UUID for a record without an
ID, and its clock. -/
structure Stamp where
  fresh : Uuid
  now : Time

structure Backend where
  State : Type
  start : State
  /-- What any call of the store may leave. -/
  moves : State → State → Prop
  /-- What a call on sessions and tunnels may return and leave. -/
  calls : State → Stamp → RecordCall → RecordReply → State → Prop
  view : State → Time → View

def Backend.Reachable (b : Backend) (s : b.State) : Prop := Relation.ReflTransGen b.moves b.start s

/-- What every move keeps holds in every reachable state. -/
theorem Backend.Reachable.invariant {b : Backend} {I : b.State → Prop} (start : I b.start)
    (keep : ∀ s s', I s → b.moves s s' → I s') {s : b.State} (reachable : b.Reachable s) : I s := by
  induction reachable with
  | refl => exact start
  | tail _ moved held => exact keep _ _ held moved

/-! ## The three stores -/

namespace Memory

def calls (m : Memory) (stamp : Stamp) (call : RecordCall) (reply : RecordReply) (m' : Memory) :
    Prop :=
  ∃ reading : Reading, stamp = ⟨reading.fresh, reading.now⟩ ∧ reading.Fits m.records ∧
    m.apply reading (.record call) = (.record reply, m')

def view (m : Memory) : View where
  session := m.records.getSession
  tunnel := m.records.getTunnel
  tunnelsOf := fun sessionID reply => ∃ order, m.records.tunnels.Lists order ∧
    reply = .ofWindow .tunnels (MemoryRecords.listTunnels { sessionID } order)

end Memory

namespace PostgresRecords

variable (server : RecordServer)

def calls (p : PostgresRecords) (stamp : Stamp) (call : RecordCall) (reply : RecordReply)
    (p' : PostgresRecords) : Prop :=
  ∃ reading : Reading, stamp = ⟨reading.fresh, reading.now⟩ ∧ Fits reading p call ∧
    p.apply server reading call = (reply, p')

/-- Calls on the other tables leave these two as they are. -/
inductive Moves (p : PostgresRecords) : PostgresRecords → Prop where
  | record {stamp : Stamp} {call : RecordCall} {reply : RecordReply} {p' : PostgresRecords}
      (called : p.calls server stamp call reply p') : Moves p p'
  | cleanup (maxInactive : Duration) (cutoffAt now : Time) :
      Moves p (p.cleanupInactiveSessions server maxInactive cutoffAt now)

def view (p : PostgresRecords) : View where
  session := p.getSession server
  tunnel := p.getTunnel server
  tunnelsOf := fun sessionID reply => ∃ order, p.tunnels.Lists order ∧
    NewestFirst Tunnel.createdAt order ∧
    reply = .ofExcept .tunnels (listTunnels server { sessionID } order)

end PostgresRecords

namespace RedisStore

def calls (r : RedisStore) (stamp : Stamp) (call : RecordCall) (reply : RecordReply)
    (r' : RedisStore) : Prop :=
  ∃ moments, play answer (script call stamp.fresh stamp.now) r moments = some (reply, r')

/-- What is read when all commands are answered at the instant `now`. -/
def view (r : RedisStore) (now : Time) : View where
  session := fun id => sessionOf (r.readString (sessionKey id) now)
  tunnel := fun id => tunnelOf (r.readString (tunnelKey id) now)
  tunnelsOf := fun sessionID reply => ∃ moments : List Moment, (∀ m ∈ moments, m.now = now) ∧
    play answer ((listTunnels { sessionID }).map (.ofExcept (.ofWindow .tunnels))) r moments =
      some (reply, r)

end RedisStore

/-- The implementations of `Store`. -/
inductive Engine where
  | memory
  | postgres (server : RecordServer)
  | redis

def Engine.backend : Engine → Backend
  | memory =>
      { State := Memory
        start := newMemory
        moves := fun m m' => ∃ l, m.step l = some m'
        calls := Memory.calls
        view := fun m _ => m.view }
  | postgres server =>
      { State := PostgresRecords
        start := newPostgresRecords
        moves := PostgresRecords.Moves server
        calls := PostgresRecords.calls server
        view := fun p _ => p.view server }
  | redis =>
      { State := RedisStore
        start := newRedisStore
        moves := fun r r' => ∃ call, r.step call = some r'
        calls := RedisStore.calls
        view := RedisStore.view }

/-! ## Lookups -/

/-- What a lookup by an ID returns; the server refuses some IDs. -/
def looked {T : Type} (given : Bool) (row : Option T) : Except StoreError T :=
  if given then row.elim (.error .errNotFound) .ok else .error .driver

theorem looked_eq_ok {T : Type} {given : Bool} {row : Option T} {v : T} :
    looked given row = .ok v ↔ given = true ∧ row = some v := by
  unfold looked
  cases given with
  | false => simp
  | true => cases row <;> simp

theorem memory_session (m : Memory) (id : GoString) :
    m.view.session id = looked true (m.records.sessions.get id) := by
  show m.records.getSession id = _
  unfold MemoryRecords.getSession
  cases m.records.sessions.get id <;> rfl

theorem memory_tunnel (m : Memory) (id : GoString) :
    m.view.tunnel id = looked true (m.records.tunnels.get id) := by
  show m.records.getTunnel id = _
  unfold MemoryRecords.getTunnel
  cases m.records.tunnels.get id <;> rfl

theorem postgres_session (server : RecordServer) (p : PostgresRecords) (id : GoString) :
    (p.view server).session id = looked (server.text id) (p.sessions.get id) := by
  show p.getSession server id = _
  unfold PostgresRecords.getSession
  cases p.sessions.get id <;> rfl

theorem postgres_tunnel (server : RecordServer) (p : PostgresRecords) (id : GoString) :
    (p.view server).tunnel id = looked (server.text id) (p.tunnels.get id) := by
  show p.getTunnel server id = _
  unfold PostgresRecords.getTunnel
  cases p.tunnels.get id <;> rfl

/-! ## Listings by session -/

theorem accepts_sessionID (sessionID : GoString) (tunnel : Tunnel) :
    TunnelFilter.accepts { sessionID } tunnel = true ↔
      sessionID = [] ∨ tunnel.sessionID = sessionID := by
  simp [TunnelFilter.accepts, matchesField]

/-- Without a limit and an offset the window is the whole. -/
theorem memory_tunnelsOf {m : Memory} {sessionID : GoString} {reply : RecordReply}
    (replied : m.view.tunnelsOf sessionID reply) :
    ∃ listed, reply = .tunnels listed ∧ ∀ tunnel, tunnel ∈ listed ↔
      m.records.tunnels.get tunnel.id = some tunnel ∧
        (sessionID = [] ∨ tunnel.sessionID = sessionID) := by
  obtain ⟨order, lists, rfl⟩ := replied
  refine ⟨order.filter (TunnelFilter.accepts { sessionID }), ?_, fun tunnel => ?_⟩
  · rw [MemoryRecords.listTunnels, applyTunnelWindow, applyWindow_zero]
    rfl
  · rw [List.mem_filter, lists.mem_iff, accepts_sessionID]

theorem postgres_tunnelsOf {server : RecordServer} {p : PostgresRecords} {sessionID : GoString}
    {reply : RecordReply} (replied : (p.view server).tunnelsOf sessionID reply)
    (text : server.text sessionID = true) :
    ∃ listed, reply = .tunnels listed ∧ ∀ tunnel, tunnel ∈ listed ↔
      p.tunnels.get tunnel.id = some tunnel ∧
        (sessionID = [] ∨ tunnel.sessionID = sessionID) := by
  obtain ⟨order, lists, -, rfl⟩ := replied
  refine ⟨order.filter (TunnelFilter.accepts { sessionID }), ?_, fun tunnel => ?_⟩
  · have taken : (server.takes sessionID && server.takes [] && server.takes []) = true := by
      simp [RecordServer.takes, text]
    rw [PostgresRecords.listTunnels, if_pos taken]
    rfl
  · rw [List.mem_filter, lists.mem_iff, accepts_sessionID]

namespace RedisStore

variable {r r' : RedisStore} {now : Time}

/-- The tunnel that is read under an ID, if one is. -/
def readTunnel (r : RedisStore) (now : Time) (id : GoString) : Option Tunnel :=
  (tunnelOf (r.readString (tunnelKey id) now)).toOption

/-- A lookup finds what `readTunnel` reads. -/
theorem view_tunnel_eq_ok {id : GoString} {tunnel : Tunnel} :
    (r.view now).tunnel id = .ok tunnel ↔ r.readTunnel now id = some tunnel := by
  show tunnelOf (r.readString (tunnelKey id) now) = .ok tunnel ↔
    (tunnelOf (r.readString (tunnelKey id) now)).toOption = some tunnel
  cases tunnelOf (r.readString (tunnelKey id) now) with
  | error e => simp [Except.toOption]
  | ok other => simp [Except.toOption]

/-- The loop of `ListTunnels` when every tunnel is read at the same instant. -/
theorem play_collectTunnels {filter : TunnelFilter} {ids : List GoString} {result : List Tunnel}
    {moments : List Moment} {out : List Tunnel × RedisStore}
    (instant : ∀ m ∈ moments, m.now = now)
    (played : play answer (collectTunnels filter ids result) r moments = some out) :
    out = (result ++ (ids.filterMap (r.readTunnel now)).filter (fun tunnel =>
      matchesField filter.type tunnel.type && matchesField filter.status tunnel.status), r) := by
  induction ids generalizing result moments with
  | nil =>
      obtain ⟨-, rfl⟩ := play_ret_eq_some.1 played
      simp
  | cons id ids ih =>
      obtain ⟨first, rest, read, s, rfl, before, after⟩ := play_bind_eq_some.1 played
      obtain ⟨m, rfl, same⟩ := play_getTunnel before
      obtain rfl : m.now = now := instant m (by simp)
      cases same
      have later : ∀ m' ∈ rest, m'.now = m.now := fun m' member =>
        instant m' (List.mem_append_right _ member)
      cases found : tunnelOf (r.readString (tunnelKey id) m.now) with
      | error e =>
          rw [found] at after
          have nothing : r.readTunnel m.now id = none := by rw [readTunnel, found]; rfl
          rw [List.filterMap_cons_none nothing]
          exact ih later after
      | ok tunnel =>
          rw [found] at after
          have something : r.readTunnel m.now id = some tunnel := by rw [readTunnel, found]; rfl
          rw [List.filterMap_cons_some something, List.filter_cons]
          dsimp only at after
          split at after
          · next matched =>
              rw [if_pos matched, ih later after, List.append_assoc]
              rfl
          · next unmatched =>
              rw [if_neg unmatched]
              exact ih later after

/-- The key holds a set at this instant, or nothing. -/
def listable (r : RedisStore) (k : GoString) (now : Time) : Bool :=
  match r.live k now with
  | none => true
  | some ⟨.members _, _⟩ => true
  | some _ => false

/-- The members that `SMEMBERS` finds at an instant. -/
def liveMembers (r : RedisStore) (k : GoString) (now : Time) : Finset GoString :=
  match r.live k now with
  | some ⟨.members set, _⟩ => set
  | _ => ∅

theorem readMembers_eq_some {k : GoString} {m : Moment} {ids : Except StoreError (List GoString)}
    (read : r.readMembers k m = some ids) :
    (r.listable k m.now = false ∧ ids = .error .driver) ∨
      ∃ order, ids = .ok order ∧ r.listable k m.now = true ∧
        ∀ id, id ∈ order ↔ id ∈ r.liveMembers k m.now := by
  unfold readMembers at read
  unfold listable liveMembers
  cases here : r.live k m.now with
  | none =>
      rw [here] at read
      obtain ⟨empty, same⟩ := Option.ite_none_right_eq_some.1 read
      cases same
      exact .inr ⟨[], rfl, rfl, fun id => by simp⟩
  | some e =>
      rw [here] at read
      obtain ⟨value, expireAt⟩ := e
      cases value with
      | members set =>
          obtain ⟨listed, same⟩ := Option.ite_none_right_eq_some.1 read
          cases same
          refine .inr ⟨m.order, rfl, rfl, fun id => ?_⟩
          show id ∈ (m.order : Multiset GoString) ↔ id ∈ set.val
          rw [listed]
      | _ =>
          cases read
          exact .inl ⟨rfl, rfl⟩

theorem tunnelsOf_nil {reply : RecordReply} (replied : (r.view now).tunnelsOf [] reply) :
    reply = .tunnels [] := by
  obtain ⟨moments, -, played⟩ := replied
  obtain ⟨result, rfl, sent⟩ := play_map_eq_some.1 played
  obtain ⟨-, same⟩ := play_ret_eq_some.1 sent
  cases same
  rfl

/-- A session's tunnels are those of its index that can be read. -/
theorem redis_tunnelsOf {sessionID : GoString} {reply : RecordReply} (named : sessionID ≠ [])
    (replied : (r.view now).tunnelsOf sessionID reply) :
    (r.listable (sessionTunnelsKey sessionID) now = false ∧ reply = .failed .driver) ∨
      ∃ listed, reply = .tunnels listed ∧
        r.listable (sessionTunnelsKey sessionID) now = true ∧ ∀ tunnel, tunnel ∈ listed ↔
          ∃ id ∈ r.liveMembers (sessionTunnelsKey sessionID) now,
            r.readTunnel now id = some tunnel := by
  obtain ⟨moments, instant, played⟩ := replied
  obtain ⟨result, rfl, sent⟩ := play_map_eq_some.1 played
  rw [listTunnels, if_neg named] at sent
  obtain ⟨m, rest, ids, s, rfl, answered, later⟩ := play_ask_eq_some.1 sent
  obtain rfl : m.now = now := instant m List.mem_cons_self
  obtain ⟨read, found, same⟩ := Option.map_eq_some_iff.1 answered
  cases same
  rcases readMembers_eq_some found with ⟨unlistable, rfl⟩ | ⟨order, rfl, fits, mem⟩
  · obtain ⟨-, same⟩ := play_ret_eq_some.1 later
    cases same
    exact .inl ⟨unlistable, rfl⟩
  · obtain ⟨collected, rfl, looped⟩ := play_map_eq_some.1 later
    have all := play_collectTunnels
      (fun m' member => instant m' (List.mem_cons_of_mem _ member)) looped
    refine .inr ⟨order.filterMap (r.readTunnel m.now), ?_, fits, fun tunnel => ?_⟩
    · have same : collected = order.filterMap (r.readTunnel m.now) := by
        refine (congrArg Prod.fst all).trans ?_
        simp [matchesField]
      rw [same, applyTunnelWindow, applyWindow_zero]
      rfl
    · simp only [List.mem_filterMap, mem]

theorem exists_play_collectTunnels (r : RedisStore) (now : Time) (filter : TunnelFilter)
    (ids : List GoString) (result : List Tunnel) :
    ∃ moments : List Moment, (∀ m ∈ moments, m.now = now) ∧
      ∃ listed, play answer (collectTunnels filter ids result) r moments = some (listed, r) := by
  induction ids generalizing result with
  | nil => exact ⟨[], by simp, result, rfl⟩
  | cons id ids ih =>
      have one : play answer (getTunnel id) r [⟨now, []⟩] =
          some (tunnelOf (r.readString (tunnelKey id) now), r) := rfl
      have at_ : ∀ {rest : List Moment}, (∀ m ∈ rest, m.now = now) →
          ∀ m ∈ [(⟨now, []⟩ : Moment)] ++ rest, m.now = now := by
        intro rest instant
        simpa using instant
      cases found : tunnelOf (r.readString (tunnelKey id) now) with
      | error e =>
          obtain ⟨rest, instant, listed, played⟩ := ih result
          refine ⟨_, at_ instant, listed, play_bind_eq_some.2 ⟨_, rest, _, r, rfl, one, ?_⟩⟩
          rw [found]
          exact played
      | ok tunnel =>
          by_cases matched : (matchesField filter.type tunnel.type &&
              matchesField filter.status tunnel.status) = true
          · obtain ⟨rest, instant, listed, played⟩ := ih (result ++ [tunnel])
            refine ⟨_, at_ instant, listed, play_bind_eq_some.2 ⟨_, rest, _, r, rfl, one, ?_⟩⟩
            rw [found]
            dsimp only
            rw [if_pos matched]
            exact played
          · obtain ⟨rest, instant, listed, played⟩ := ih result
            refine ⟨_, at_ instant, listed, play_bind_eq_some.2 ⟨_, rest, _, r, rfl, one, ?_⟩⟩
            rw [found]
            dsimp only
            rw [if_neg matched]
            exact played

/-- Tunnels can be listed at every instant. -/
theorem exists_tunnelsOf (r : RedisStore) (now : Time) (sessionID : GoString) :
    ∃ reply, (r.view now).tunnelsOf sessionID reply := by
  by_cases named : sessionID = []
  · refine ⟨.tunnels [], [], by simp, ?_⟩
    rw [named]
    rfl
  · obtain ⟨order, found⟩ : ∃ order read, r.readMembers (sessionTunnelsKey sessionID)
        ⟨now, order⟩ = some read := by
      simp only [readMembers]
      cases r.live (sessionTunnelsKey sessionID) now with
      | none => exact ⟨[], .ok [], rfl⟩
      | some e =>
          obtain ⟨value, expireAt⟩ := e
          cases value with
          | members set => exact ⟨set.toList, .ok set.toList, if_pos (Finset.coe_toList set)⟩
          | _ => exact ⟨[], _, rfl⟩
    obtain ⟨read, found⟩ := found
    have asked : r.answer ⟨now, order⟩ (.sMembers (sessionTunnelsKey sessionID)) =
        some (read, r) := by
      show (r.readMembers _ _).map _ = _
      rw [found]
      rfl
    have script : listTunnels { sessionID } = .ask (.sMembers (sessionTunnelsKey sessionID)) _ :=
      if_neg named
    cases read with
    | error e =>
        refine ⟨_, [⟨now, order⟩], by simp, play_map_eq_some.2 ⟨.error e, rfl, ?_⟩⟩
        rw [script]
        exact play_ask_eq_some.2 ⟨_, [], _, r, rfl, asked, rfl⟩
    | ok ids =>
        obtain ⟨rest, instant, listed, played⟩ :=
          exists_play_collectTunnels r now { sessionID } ids []
        refine ⟨_, ⟨now, order⟩ :: rest, by simpa using instant,
          play_map_eq_some.2 ⟨.ok (applyTunnelWindow listed 0 0), rfl, ?_⟩⟩
        rw [script]
        exact play_ask_eq_some.2 ⟨_, rest, _, r, rfl, asked,
          play_map_eq_some.2 ⟨listed, rfl, played⟩⟩

end RedisStore

end SentinelOps.Store
