/-
# Store.RedisListing — listings of the Redis store against those of the in-memory store

A listing of the Redis store reads an index and then a record for each ID (`Collects`).  A
filter without a username, and a tunnel filter without a session ID, is answered from a store
that holds nothing, and the listing of sessions leaves `RemoteAddr` and `Since` aside.

`listing_iff` says which filters the two stores answer alike after a run in step.
-/
import SentinelOps.Store.Mirror
import SentinelOps.Store.Windows

namespace SentinelOps.Store

open Theory GoText Schedule Script
open GoTime (Time)

set_option autoImplicit false

/-! ## A listing over an index -/

namespace RedisStore

variable {r : RedisStore} {now : Time}

theorem toOption_sessionOf (unexpired : r.NoneExpired now) (id : GoString) :
    (sessionOf (r.readString (sessionKey id) now)).toOption = r.storedSession id := by
  cases read : sessionOf (r.readString (sessionKey id) now) with
  | ok sess => exact (storedSession_of_read read).symm
  | error e => exact (storedSession_of_failed unexpired read).symm

theorem toOption_tunnelOf (unexpired : r.NoneExpired now) (id : GoString) :
    (tunnelOf (r.readString (tunnelKey id) now)).toOption = r.storedTunnel id := by
  cases read : tunnelOf (r.readString (tunnelKey id) now) with
  | ok tunnel => exact (storedTunnel_of_read read).symm
  | error e => exact (storedTunnel_of_failed unexpired read).symm

section Loop

variable {V : Type} {collect : List GoString → List V → RedisScript (List V)}
variable {key : GoString → GoString} {p : V → Bool} {found : GoString → Option V}
variable {decode : Except StoreError (Option RedisValue) → Except StoreError V}

/-- The loop reads a record for every ID, passes over those it cannot read and appends those
that meet `p`. -/
structure Collects (r : RedisStore) (collect : List GoString → List V → RedisScript (List V))
    (key : GoString → GoString)
    (decode : Except StoreError (Option RedisValue) → Except StoreError V) (p : V → Bool)
    (found : GoString → Option V) : Prop where
  nil : ∀ result, collect [] result = .ret result
  cons : ∀ id ids result, collect (id :: ids) result = .ask (.get (key id)) fun answer =>
    match decode answer with
    | .error _ => collect ids result
    | .ok v => if p v then collect ids (result ++ [v]) else collect ids result
  reads : ∀ id now, r.NoneExpired now → (decode (r.readString (key id) now)).toOption = found id

/-- One read for every ID, and the result. -/
theorem Collects.play (loop : Collects r collect key decode p found) {ls : List Moment}
    (unexpired : ∀ m ∈ ls, r.NoneExpired m.now) (ids : List GoString) (result : List V) :
    play answer (collect ids result) r ls =
      if ls.length = ids.length then some (result ++ (ids.filterMap found).filter p, r)
      else none := by
  induction ids generalizing ls result with
  | nil =>
      rw [loop.nil]
      cases ls with
      | nil => simp [Script.play]
      | cons m ls => simp [Script.play]
  | cons id ids ih =>
      rw [loop.cons]
      cases ls with
      | nil => simp [Script.play]
      | cons m ls =>
          have rest := fun result => ih (fun m' later => unexpired m' (.tail m later)) result
          have read := loop.reads id m.now (unexpired m List.mem_cons_self)
          simp only [Script.play, answer, Option.bind_some, List.length_cons,
            Nat.add_right_cancel_iff]
          rw [List.filterMap_cons, ← read]
          cases decode (r.readString (key id) m.now) with
          | error e => exact rest result
          | ok v =>
              simp only [Except.toOption, List.filter_cons]
              split
              · rw [rest, List.append_assoc]
                rfl
              · exact rest result

/-- `SMEMBERS`, the loop and the window. -/
def listing (k : GoString) (collect : List GoString → List V → RedisScript (List V))
    (window : List V → Option (List V)) : RedisScript (Except StoreError (Option (List V))) :=
  .ask (.sMembers k) fun
    | .error e => .ret (.error e)
    | .ok ids => (collect ids []).map fun result => .ok (window result)

/-- What a call that only reads may return here while no key is expired. -/
def MayReturn {R : Type} (r : RedisStore) (script : RedisScript R) (reply : R) : Prop :=
  ∃ ls, (∀ m ∈ ls, r.NoneExpired m.now) ∧ play answer script r ls = some (reply, r)

theorem mayReturn_ret {R : Type} {result reply : R} :
    r.MayReturn (.ret result) reply ↔ reply = result := by
  constructor
  · rintro ⟨ls, -, played⟩
    exact congrArg Prod.fst (play_ret_eq_some.1 played).2
  · rintro rfl
    exact ⟨[], List.forall_mem_nil _, rfl⟩

variable {window : List V → Option (List V)} {k : GoString}
variable {reply : Except StoreError (Option (List V))}

/-- A listing returns, and what it returns is the records of the members in some order. -/
theorem Collects.mayReturn_listing (loop : Collects r collect key decode p found)
    (set : r.IsSet k) (unexpired : r.NoneExpired now) :
    r.MayReturn (listing k collect window) reply ↔
      ∃ order : List GoString, (order : Multiset GoString) = (r.members k).val ∧
        reply = .ok (window ((order.filterMap found).filter p)) := by
  constructor
  · rintro ⟨ls, fresh, played⟩
    obtain ⟨m, rest, members, r₁, rfl, answered, later⟩ := play_ask_eq_some.1 played
    obtain ⟨result, read, same⟩ := Option.map_eq_some_iff.1 answered
    rw [readMembers_of_isSet set (fresh m List.mem_cons_self)] at read
    obtain ⟨order, listed⟩ := Option.ite_none_right_eq_some.1 read
    cases listed
    cases same
    obtain ⟨collected, rfl, sent⟩ := play_map_eq_some.1 later
    rw [loop.play fun m' later => fresh m' (.tail m later)] at sent
    cases (Option.ite_none_right_eq_some.1 sent).2
    exact ⟨m.order, order, rfl⟩
  · rintro ⟨order, members, rfl⟩
    let reads : List Moment := order.map fun _ => ⟨now, []⟩
    refine ⟨⟨now, order⟩ :: reads, ?_, ?_⟩
    · intro m member
      rcases List.mem_cons.1 member with rfl | later
      · exact unexpired
      · obtain ⟨id, -, rfl⟩ := List.mem_map.1 later
        exact unexpired
    · have read : r.readMembers k ⟨now, order⟩ = some (.ok order) :=
        (readMembers_of_isSet set unexpired).trans (if_pos members)
      refine play_ask_eq_some.2 ⟨⟨now, order⟩, reads, .ok order, r, rfl, ?_, ?_⟩
      · simp only [answer, read, Option.map_some]
      · refine play_map_eq_some.2 ⟨(order.filterMap found).filter p, rfl, ?_⟩
        rw [loop.play, if_pos (List.length_map _)]
        · rfl
        · intro m later
          obtain ⟨id, -, rfl⟩ := List.mem_map.1 later
          exact unexpired

/-- When the index is right for the records of a table, a listing returns those that meet the
index and the loop, each once. -/
theorem Collects.listing_spec {name : V → GoString} {t : Table name}
    (loop : Collects r collect key decode p t.get) (set : r.IsSet k)
    (unexpired : r.NoneExpired now) {q : V → Bool}
    (index : ∀ id, id ∈ r.members k ↔ ∃ v, t.get id = some v ∧ q v = true) :
    (∃ reply, r.MayReturn (listing k collect window) reply) ∧
      ∀ reply, r.MayReturn (listing k collect window) reply →
        ∃ listed, reply = .ok (window listed) ∧ listed.Nodup ∧
          ∀ v, v ∈ listed ↔ t.get (name v) = some v ∧ (q v && p v) = true := by
  constructor
  · exact ⟨_, (loop.mayReturn_listing set unexpired).2
      ⟨(r.members k).toList, Finset.coe_toList _, rfl⟩⟩
  · intro reply returned
    obtain ⟨order, members, rfl⟩ := (loop.mayReturn_listing set unexpired).1 returned
    have nodup : order.Nodup := by
      rw [← Multiset.coe_nodup, members]
      exact (r.members k).nodup
    have listed : ∀ id, id ∈ order ↔ ∃ v, t.get id = some v ∧ q v = true := by
      intro id
      rw [← Multiset.mem_coe, members]
      exact index id
    exact ⟨_, rfl, t.read_index nodup listed p⟩

end Loop

/-- The loop of `ListSessions`. -/
theorem collects_sessions (r : RedisStore) (status : GoString) :
    Collects r (collectSessions status) sessionKey sessionOf
      (fun sess => matchesField status sess.status) r.storedSession where
  nil := fun _ => rfl
  cons := by
    intro id ids result
    refine congrArg (Script.ask _) (funext fun answer => ?_)
    show Script.bind (.ret (sessionOf answer)) _ = _
    cases sessionOf answer <;> rfl
  reads := fun id _ unexpired => toOption_sessionOf unexpired id

/-- The loop of `ListTunnels`. -/
theorem collects_tunnels (r : RedisStore) (filter : TunnelFilter) :
    Collects r (collectTunnels filter) tunnelKey tunnelOf
      (fun tunnel => matchesField filter.type tunnel.type &&
        matchesField filter.status tunnel.status) r.storedTunnel where
  nil := fun _ => rfl
  cons := by
    intro id ids result
    refine congrArg (Script.ask _) (funext fun answer => ?_)
    show Script.bind (.ret (tunnelOf answer)) _ = _
    cases tunnelOf answer <;> rfl
  reads := fun id _ unexpired => toOption_tunnelOf unexpired id

theorem listSessions_of_username {filter : SessionFilter} (named : filter.username ≠ []) :
    listSessions filter = listing (userSessionsKey filter.username)
      (collectSessions filter.status)
      (fun result => applySessionWindow result filter.limit filter.offset) := by
  rw [listSessions, if_neg named]
  refine congrArg (Script.ask _) (funext fun members => ?_)
  cases members <;> rfl

theorem listTunnels_of_sessionID {filter : TunnelFilter} (named : filter.sessionID ≠ []) :
    listTunnels filter = listing (sessionTunnelsKey filter.sessionID) (collectTunnels filter)
      (fun result => applyTunnelWindow result filter.limit filter.offset) := by
  rw [listTunnels, if_neg named]
  refine congrArg (Script.ask _) (funext fun members => ?_)
  cases members <;> rfl

end RedisStore

/-! ## What the two stores list -/

/-- The sessions that the Redis store lists for a filter. -/
def SessionFilter.indexed (filter : SessionFilter) (sess : Session) : Bool :=
  filter.username != [] &&
    (sess.username == filter.username && matchesField filter.status sess.status)

def TunnelFilter.indexed (filter : TunnelFilter) (tunnel : Tunnel) : Bool :=
  filter.sessionID != [] &&
    (tunnel.sessionID == filter.sessionID &&
      (matchesField filter.type tunnel.type && matchesField filter.status tunnel.status))

namespace Mirrored

open RedisStore (listSessions listTunnels)

variable {s : Mirrored} {now : Time}

/-- **What `ListSessions` of the Redis store returns**, in some order. -/
theorem listSessions_spec (alike : s.Alike) (unexpired : s.redis.NoneExpired now)
    (filter : SessionFilter) :
    (∃ reply, s.redis.MayReturn (listSessions filter) reply) ∧
      ∀ reply, s.redis.MayReturn (listSessions filter) reply →
        ∃ listed, reply = .ok (applySessionWindow listed filter.limit filter.offset) ∧
          listed.Nodup ∧ ∀ sess, sess ∈ listed ↔
            s.memory.sessions.get sess.id = some sess ∧ filter.indexed sess = true := by
  unfold SessionFilter.indexed
  by_cases unnamed : filter.username = []
  · simp only [listSessions, unnamed, if_true, RedisStore.mayReturn_ret]
    refine ⟨⟨_, rfl⟩, ?_⟩
    rintro reply rfl
    exact ⟨[], rfl, List.nodup_nil, fun sess => by simp⟩
  · have held : s.redis.storedSession = s.memory.sessions.get :=
      congrArg Holdings.sessions alike.holds
    have loop := s.redis.collects_sessions filter.status
    rw [held] at loop
    rw [RedisStore.listSessions_of_username unnamed, bne_iff_ne.2 unnamed]
    simp only [Bool.true_and]
    refine loop.listing_spec (alike.typed.sets .sessions filter.username) unexpired fun id => ?_
    simp only [beq_iff_eq, ← held]
    exact alike.indexed.1 filter.username id

theorem listTunnels_spec (alike : s.Alike) (unexpired : s.redis.NoneExpired now)
    (filter : TunnelFilter) :
    (∃ reply, s.redis.MayReturn (listTunnels filter) reply) ∧
      ∀ reply, s.redis.MayReturn (listTunnels filter) reply →
        ∃ listed, reply = .ok (applyTunnelWindow listed filter.limit filter.offset) ∧
          listed.Nodup ∧ ∀ tunnel, tunnel ∈ listed ↔
            s.memory.tunnels.get tunnel.id = some tunnel ∧ filter.indexed tunnel = true := by
  unfold TunnelFilter.indexed
  by_cases unnamed : filter.sessionID = []
  · simp only [listTunnels, unnamed, if_true, RedisStore.mayReturn_ret]
    refine ⟨⟨_, rfl⟩, ?_⟩
    rintro reply rfl
    exact ⟨[], rfl, List.nodup_nil, fun tunnel => by simp⟩
  · have held : s.redis.storedTunnel = s.memory.tunnels.get :=
      congrArg Holdings.tunnels alike.holds
    have loop := s.redis.collects_tunnels filter
    rw [held] at loop
    rw [RedisStore.listTunnels_of_sessionID unnamed, bne_iff_ne.2 unnamed]
    simp only [Bool.true_and]
    refine loop.listing_spec (alike.typed.sets .tunnels filter.sessionID) unexpired fun id => ?_
    simp only [beq_iff_eq, ← held]
    exact alike.indexed.2 filter.sessionID id

/-! ### The same set -/

section Agree

variable {V : Type} {name : V → GoString} {r : RedisStore} {t : Table name}
variable {script : RedisStore.RedisScript (Except StoreError (Option (List V)))}
variable {list : List V → Option (List V)}

/-- A listing of the Redis store returns, and always the records that the in-memory store lists,
in whatever order this one meets its map. -/
def Agree (r : RedisStore) (script : RedisStore.RedisScript (Except StoreError (Option (List V))))
    (t : Table name) (list : List V → Option (List V)) : Prop :=
  (∃ reply, r.MayReturn script reply) ∧
    ∀ reply order, r.MayReturn script reply → t.Lists order →
      ∃ listed expected, reply = .ok (some listed) ∧ list order = some expected ∧
        listed.Perm expected

theorem agree_iff {p q : V → Bool} (returns : ∃ reply, r.MayReturn script reply)
    (spec : ∀ reply, r.MayReturn script reply → ∃ listed, reply = .ok (some listed) ∧
      listed.Nodup ∧ ∀ v, v ∈ listed ↔ t.get (name v) = some v ∧ p v = true)
    (expects : ∀ order, list order = some (order.filter q)) :
    Agree r script t list ↔ ∀ k v, t.get k = some v → p v = q v := by
  constructor
  · rintro ⟨⟨reply, returned⟩, agree⟩
    obtain ⟨order, lists⟩ := t.exists_lists
    obtain ⟨listed, expected, rfl, expects', perm⟩ := agree reply order returned lists
    obtain ⟨listed', same, nodup, read⟩ := spec _ returned
    cases same
    cases (expects order).symm.trans expects'
    exact (lists.perm_filter_iff nodup read q).1 perm
  · intro same
    refine ⟨returns, fun reply order returned lists => ?_⟩
    obtain ⟨listed, rfl, nodup, read⟩ := spec reply returned
    exact ⟨listed, order.filter q, rfl, expects order, (lists.perm_filter_iff nodup read q).2 same⟩

/-- How many records a reply lists. -/
def lengthOf (reply : Except StoreError (Option (List V))) : Option Nat :=
  reply.toOption.join.map List.length

theorem not_agree {ls : List Moment} {order : List V} {n n' : Nat}
    (unexpired : ∀ m ∈ ls, r.NoneExpired m.now) (reads : RedisStore.Reads script)
    (played : (play RedisStore.answer script r ls).map (fun out => lengthOf out.1) = some (some n))
    (lists : t.Lists order) (expects : (list order).map List.length = some n') (apart : n ≠ n') :
    ¬ Agree r script t list := by
  rintro ⟨-, agree⟩
  obtain ⟨⟨reply, r'⟩, returned, length⟩ := Option.map_eq_some_iff.1 played
  obtain rfl : r' = r := reads.store returned
  obtain ⟨listed, expected, rfl, expects', perm⟩ :=
    agree reply order ⟨ls, unexpired, returned⟩ lists
  rw [expects'] at expects
  have counted : listed.length = n := Option.some.inj length
  have counted' : expected.length = n' := Option.some.inj expects
  exact apart (counted.symm.trans (perm.length_eq.trans counted'))

end Agree

def SessionsAgree (s : Mirrored) (filter : SessionFilter) : Prop :=
  Agree s.redis (listSessions filter) s.memory.sessions (MemoryRecords.listSessions filter)

def TunnelsAgree (s : Mirrored) (filter : TunnelFilter) : Prop :=
  Agree s.redis (listTunnels filter) s.memory.tunnels (MemoryRecords.listTunnels filter)

/-- With a username, every session of that user and status meets the rest of the filter, too;
without, there is no session to list. -/
def SessionsExact (s : Mirrored) (filter : SessionFilter) : Prop :=
  ∀ id sess, s.memory.sessions.get id = some sess →
    if filter.username = [] then filter.accepts sess = false
    else sess.username = filter.username → matchesField filter.status sess.status = true →
      matchesField filter.remoteAddr sess.remoteAddr = true ∧
        (filter.since.all fun since => !sess.createdAt.before since) = true

/-- There is a session ID, or no tunnel to list. -/
def TunnelsExact (s : Mirrored) (filter : TunnelFilter) : Prop :=
  filter.sessionID = [] →
    ∀ id tunnel, s.memory.tunnels.get id = some tunnel → filter.accepts tunnel = false

theorem indexed_eq_accepts_iff (filter : SessionFilter) (sess : Session) :
    filter.indexed sess = filter.accepts sess ↔
      if filter.username = [] then filter.accepts sess = false
      else sess.username = filter.username → matchesField filter.status sess.status = true →
        matchesField filter.remoteAddr sess.remoteAddr = true ∧
          (filter.since.all fun since => !sess.createdAt.before since) = true := by
  unfold SessionFilter.indexed
  by_cases unnamed : filter.username = []
  · simp only [unnamed, bne_self_eq_false, Bool.false_and, if_true, eq_comm]
  · have field : matchesField filter.username sess.username =
        (sess.username == filter.username) := by
      rw [matchesField, beq_eq_false_iff_ne.2 unnamed, Bool.false_or]
    rw [if_neg unnamed, bne_iff_ne.2 unnamed, Bool.true_and, SessionFilter.accepts, field,
      ← beq_iff_eq (a := sess.username)]
    generalize (sess.username == filter.username) = named
    generalize matchesField filter.status sess.status = status
    generalize matchesField filter.remoteAddr sess.remoteAddr = addr
    generalize (filter.since.all fun since => !sess.createdAt.before since) = recent
    revert named status addr recent
    decide

theorem tunnel_indexed_eq_accepts_iff (filter : TunnelFilter) (tunnel : Tunnel) :
    filter.indexed tunnel = filter.accepts tunnel ↔
      (filter.sessionID = [] → filter.accepts tunnel = false) := by
  unfold TunnelFilter.indexed
  by_cases unnamed : filter.sessionID = []
  · simp only [unnamed, bne_self_eq_false, Bool.false_and, true_implies, eq_comm]
  · have field : matchesField filter.sessionID tunnel.sessionID =
        (tunnel.sessionID == filter.sessionID) := by
      rw [matchesField, beq_eq_false_iff_ne.2 unnamed, Bool.false_or]
    rw [bne_iff_ne.2 unnamed, Bool.true_and, TunnelFilter.accepts, field, Bool.and_assoc]
    exact iff_of_true rfl fun empty => absurd empty unnamed

theorem sessionsAgree_iff (alike : s.Alike) (unexpired : s.redis.NoneExpired now)
    {filter : SessionFilter} (limit : filter.limit = 0) (offset : filter.offset = 0) :
    s.SessionsAgree filter ↔ s.SessionsExact filter := by
  obtain ⟨returns, spec⟩ := listSessions_spec alike unexpired filter
  have whole : ∀ listed : List Session,
      applySessionWindow listed filter.limit filter.offset = some listed := by
    intro listed
    rw [limit, offset]
    exact applyWindow_zero listed
  simp only [whole] at spec
  refine (agree_iff returns spec fun order => whole (order.filter filter.accepts)).trans ?_
  simp only [indexed_eq_accepts_iff, SessionsExact]

theorem tunnelsAgree_iff (alike : s.Alike) (unexpired : s.redis.NoneExpired now)
    {filter : TunnelFilter} (limit : filter.limit = 0) (offset : filter.offset = 0) :
    s.TunnelsAgree filter ↔ s.TunnelsExact filter := by
  obtain ⟨returns, spec⟩ := listTunnels_spec alike unexpired filter
  have whole : ∀ listed : List Tunnel,
      applyTunnelWindow listed filter.limit filter.offset = some listed := by
    intro listed
    rw [limit, offset]
    exact applyWindow_zero listed
  simp only [whole] at spec
  refine (agree_iff returns spec fun order => whole (order.filter filter.accepts)).trans ?_
  simp only [tunnel_indexed_eq_accepts_iff, TunnelsExact]
  exact ⟨fun held empty id tunnel found => held id tunnel found empty,
    fun held id tunnel found empty => held empty id tunnel found⟩

/-- **Which listings agree.**  After a run in which no update changes an owner and every call is
in step, a listing without a window returns the records that the in-memory store lists exactly
when the filter is one that `SessionsExact` or `TunnelsExact` takes. -/
theorem listing_iff {calls : List MirroredCall} (ran : exec step start calls = some s)
    (owners : Along step KeepsOwner start calls) (inStep : Along step InStep start calls)
    (unexpired : s.redis.NoneExpired now) :
    (∀ filter : SessionFilter, filter.limit = 0 → filter.offset = 0 →
      (s.SessionsAgree filter ↔ s.SessionsExact filter)) ∧
    (∀ filter : TunnelFilter, filter.limit = 0 → filter.offset = 0 →
      (s.TunnelsAgree filter ↔ s.TunnelsExact filter)) := by
  have alike := alike_run owners inStep ran
  exact ⟨fun filter => sessionsAgree_iff alike unexpired,
    fun filter => tunnelsAgree_iff alike unexpired⟩

/-- A call at an instant to both, with these orders of the maps. -/
def sent (now : Time) (call : RecordCall) (plain : call.PlainID) (moments : List Moment)
    (sessionOrder : List Session) (tunnelOrder : List Tunnel) : MirroredCall where
  call := call
  plain := plain
  fresh := default
  now := now
  moments := moments
  sessionOrder := sessionOrder
  tunnelOrder := tunnelOrder

theorem plainID_login : (RecordCall.createSession sampleSession).PlainID := by decide

theorem plainID_forward : (RecordCall.createTunnel sampleTunnel).PlainID := by decide

def login : MirroredCall :=
  sent 0 (.createSession sampleSession) plainID_login [⟨0, []⟩] [] []

def forward : MirroredCall :=
  sent 0 (.createTunnel sampleTunnel) plainID_forward [⟨0, []⟩] [sampleSession] []

/-- A session and its tunnel are listed by both stores. -/
theorem listing_tunnel :
    ∃ s, exec step start [login, forward] = some s ∧
      s.SessionsAgree { username := str "ana" } ∧ s.TunnelsAgree { sessionID := str "s1" } := by
  obtain ⟨middle, moved⟩ : ∃ middle, step start login = some middle :=
    Option.isSome_iff_exists.1 (by decide)
  obtain ⟨s, ran⟩ : ∃ s, exec step start [login, forward] = some s :=
    Option.isSome_iff_exists.1 (by decide)
  have unexpired : ((exec step start [login, forward]).map fun s =>
      decide (s.redis.NoneExpired 0)) = some true := by decide
  rw [ran] at unexpired
  have free : ((step start login).map fun s => (s.memory.tunnels.get (str "t1")).isNone) =
      some true := by decide
  rw [moved] at free
  have first : start.InStep login := ⟨by decide, fun _ => by decide⟩
  have second : middle.InStep forward := by
    refine ⟨?_, fun _ => by decide⟩
    have stores : (middle.memory.holds.tunnels (identified sampleTunnel.id default)).isNone =
        true := Option.some.inj free
    have marshals : (sampleTunnel.stamped default 0).marshals = true := by decide
    exact marshals.trans stores.symm
  have inStep : Along step InStep start [login, forward] :=
    along_cons_of_eq moved first ⟨second, fun _ _ => trivial⟩
  have owners : Along step KeepsOwner start [login, forward] :=
    along_cons_of_eq moved trivial ⟨trivial, fun _ _ => trivial⟩
  obtain ⟨sessions, tunnels⟩ := listing_iff ran owners inStep
    (of_decide_eq_true (Option.some.inj unexpired))
  refine ⟨s, ran, (sessions _ rfl rfl).2 fun id sess found => ?_, (tunnels _ rfl rfl).2 ?_⟩
  · rw [if_neg (by decide)]
    exact fun _ _ => ⟨rfl, rfl⟩
  · exact fun empty => absurd empty (by decide)

def logout : MirroredCall :=
  sent 1 (.deleteSession (str "s1")) trivial [⟨1, []⟩, ⟨1, []⟩] [sampleSession] [sampleTunnel]

/-- The one session is missing from a listing of all sessions and is listed as one since a later
instant; its tunnel is listed after it is deleted. -/
theorem listing_wrong :
    (∃ s, exec step start [login] = some s ∧ ¬ s.SessionsAgree { } ∧
      ¬ s.SessionsAgree { username := str "ana", since := some 1 }) ∧
    ∃ s, exec step start [login, forward, logout] = some s ∧
      ¬ s.TunnelsAgree { sessionID := str "s1" } := by
  let late : SessionFilter := { username := str "ana", since := some 1 }
  let own : TunnelFilter := { sessionID := str "s1" }
  let reads : List Moment := [⟨0, [str "s1"]⟩, ⟨0, []⟩]
  let reads' : List Moment := [⟨1, [str "t1"]⟩, ⟨1, []⟩]
  constructor
  · have facts : ((exec step start [login]).map fun s =>
        (decide (s.memory.sessions.Lists [sampleSession]),
          decide (∀ m ∈ reads, s.redis.NoneExpired m.now),
          (play RedisStore.answer (listSessions { }) s.redis []).map fun out => lengthOf out.1,
          (play RedisStore.answer (listSessions late) s.redis reads).map
            fun out => lengthOf out.1)) =
        some (true, true, some (some 0), some (some 1)) := by decide
    obtain ⟨s, ran, facts⟩ := Option.map_eq_some_iff.1 facts
    simp only [Prod.mk.injEq, decide_eq_true_eq] at facts
    obtain ⟨lists, unexpired, all, since⟩ := facts
    refine ⟨s, ran, ?_, ?_⟩
    · have one : (MemoryRecords.listSessions { } [sampleSession]).map List.length = some 1 := by
        decide
      exact not_agree (List.forall_mem_nil _) (RedisStore.reads_listSessions _) all lists one
        (by decide)
    · have none_since : (MemoryRecords.listSessions late [sampleSession]).map List.length =
          some 0 := by decide
      exact not_agree unexpired (RedisStore.reads_listSessions _) since lists none_since (by decide)
  · have facts : ((exec step start [login, forward, logout]).map fun s =>
        (decide (s.memory.tunnels.Lists []), decide (∀ m ∈ reads', s.redis.NoneExpired m.now),
          (play RedisStore.answer (listTunnels own) s.redis reads').map
            fun out => lengthOf out.1)) =
        some (true, true, some (some 1)) := by decide
    obtain ⟨s, ran, facts⟩ := Option.map_eq_some_iff.1 facts
    simp only [Prod.mk.injEq, decide_eq_true_eq] at facts
    obtain ⟨lists, unexpired, still⟩ := facts
    have gone : (MemoryRecords.listTunnels own []).map List.length = some 0 := by decide
    exact ⟨s, ran,
      not_agree unexpired (RedisStore.reads_listTunnels _) still lists gone (by decide)⟩

end Mirrored

end SentinelOps.Store
