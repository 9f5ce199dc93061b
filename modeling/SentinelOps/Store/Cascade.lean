/-
# Store.Cascade — what goes with a session

Deleting a session should delete its tunnels and nothing else (`Cascades`).  In memory a loop over
the tunnels does so and in Postgres the foreign key.  In both, the filter of a listing takes an
empty session ID for no filter at all; that a session never has an empty ID is an invariant
(`memory_unnamed`, `postgres_unnamed`).

The Redis store deletes the session and its entry in the index of its user, and leaves the
tunnels and their index alone.  So the tunnels are gone after a delete exactly when there were
none before it: `cascade_iff`.
-/
import SentinelOps.Store.Backends

namespace SentinelOps.Store

open Theory GoText Script
open GoTime (Time Duration)
open MemoryRecords (Reading)

set_option autoImplicit false

/-- What a client sees before and after a session was deleted: its tunnels are gone, none is
listed for it, and every other session and tunnel is as it was. -/
def Cascades (id : GoString) (before after : View) : Prop :=
  (∀ tid tunnel, before.tunnel tid = .ok tunnel → tunnel.sessionID = id →
    after.tunnel tid = .error .errNotFound) ∧
  (∀ reply, after.tunnelsOf id reply → reply = .tunnels []) ∧
  (∀ sid, sid ≠ id → after.session sid = before.session sid) ∧
  (∀ tid, (∀ tunnel, before.tunnel tid = .ok tunnel → tunnel.sessionID ≠ id) →
    after.tunnel tid = before.tunnel tid)

/-- When it does.  A store of the other two kinds always does. -/
def Engine.CascadeCondition : (e : Engine) → e.backend.State → GoString → Time → Prop
  | .memory, _, _, _ => True
  | .postgres _, _, _, _ => True
  | .redis, r, id, now =>
      (∀ tid tunnel, RedisStore.readTunnel r now tid = some tunnel → tunnel.sessionID ≠ id) ∧
      (id = [] ∨ (RedisStore.listable r (sessionTunnelsKey id) now = true ∧
        ∀ tid ∈ RedisStore.liveMembers r (sessionTunnelsKey id) now,
          RedisStore.readTunnel r now tid = none))

/-! ## No session without an ID -/

/-- No row has an empty ID. -/
def Unnamed (sessions : Table Session.id) : Prop := sessions.get [] = none

namespace Unnamed

variable {sessions : Table Session.id}

theorem put (unnamed : Unnamed sessions) {sess : Session} (named : sess.id ≠ []) :
    Unnamed (sessions.put sess) :=
  (Table.get_put ..).trans ((if_neg named.symm).trans unnamed)

/-- A row that is found has an ID, so it can be written again. -/
theorem put_found (unnamed : Unnamed sessions) {id : GoString} {old sess : Session}
    (found : sessions.get id = some old) (same : sess.id = id) : Unnamed (sessions.put sess) := by
  refine unnamed.put fun empty => ?_
  rw [← same, empty, unnamed] at found
  cases found

theorem remove (unnamed : Unnamed sessions) (id : GoString) : Unnamed (sessions.remove id) := by
  rw [Unnamed, Table.get_remove, unnamed, ite_self]

theorem amend (unnamed : Unnamed sessions) (f : Session → Session)
    (same : ∀ sess, (f sess).id = sess.id) : Unnamed (sessions.amend f same) := by
  rw [Unnamed, Table.get_amend, unnamed]
  rfl

end Unnamed

theorem memory_unnamed_apply {m : MemoryRecords} (unnamed : Unnamed m.sessions) (reading : Reading)
    (call : RecordCall) : Unnamed (m.apply reading call).2.sessions := by
  cases call with
  | createSession sess =>
      simp only [MemoryRecords.apply, MemoryRecords.createSession]
      split
      · exact unnamed
      · exact unnamed.put (identified_ne_nil sess.id reading.fresh)
  | updateSession sess =>
      simp only [MemoryRecords.apply, MemoryRecords.updateSession]
      split
      · exact unnamed
      · next old found => exact unnamed.put_found found rfl
  | deleteSession id =>
      simp only [MemoryRecords.apply, MemoryRecords.deleteSession]
      split
      · exact unnamed
      · exact unnamed.remove id
  | touchSession id =>
      simp only [MemoryRecords.apply, MemoryRecords.touchSession]
      split
      · exact unnamed
      · next old found =>
          have key : old.id = id := Table.key_of_get found
          exact unnamed.put_found found key
  | createTunnel tunnel =>
      simp only [MemoryRecords.apply, MemoryRecords.createTunnel]
      split <;> exact unnamed
  | updateTunnel tunnel =>
      simp only [MemoryRecords.apply, MemoryRecords.updateTunnel]
      split <;> exact unnamed
  | deleteTunnel id =>
      simp only [MemoryRecords.apply, MemoryRecords.deleteTunnel]
      split <;> exact unnamed
  | deleteTunnelsBySession sessionID => exact unnamed
  | getSession id => exact unnamed
  | listSessions filter => exact unnamed
  | countActiveSessions username => exact unnamed
  | getTunnel id => exact unnamed
  | listTunnels filter => exact unnamed

theorem memory_unnamed {m : Memory} (reachable : Engine.memory.backend.Reachable m) :
    Unnamed m.records.sessions := by
  refine reachable.invariant (b := Engine.memory.backend)
    (I := fun m : Memory => Unnamed m.records.sessions) rfl ?_
  rintro m m' unnamed ⟨⟨reading, call⟩, moved⟩
  obtain ⟨-, same⟩ := Option.ite_none_right_eq_some.1 moved
  cases same
  cases call with
  | record call => exact memory_unnamed_apply unnamed reading call
  | cleanupInactiveSessions maxInactive cutoffAt => exact unnamed.amend _ (Session.cleaned_id _ _)
  | limit op => exact unnamed
  | appendAuditLog entry => exact unnamed
  | queryAuditLog filter => exact unnamed
  | cleanupOldAuditLogs maxAge => exact unnamed
  | health => exact unnamed
  | close => exact unnamed

theorem postgres_unnamed_apply (server : RecordServer) {p : PostgresRecords}
    (unnamed : Unnamed p.sessions) (reading : Reading) (call : RecordCall) :
    Unnamed (p.apply server reading call).2.sessions := by
  cases call with
  | createSession sess =>
      simp only [PostgresRecords.apply]
      rcases PostgresRecords.createSession_cases sess reading.fresh reading.now with
        ⟨e, -, done⟩ | ⟨metadata, row, -, accepted, -, done⟩
      · rw [done]
        exact unnamed
      · rw [done]
        refine unnamed.put ?_
        rw [RecordServer.sessionRow_id accepted]
        exact identified_ne_nil sess.id reading.fresh
  | updateSession sess =>
      simp only [PostgresRecords.apply]
      rcases PostgresRecords.updateSession_cases sess reading.now with
        ⟨e, -, -, done⟩ | ⟨metadata, set, -, accepted, ⟨-, done⟩ | ⟨row, found, done⟩⟩
      · rw [done]
        exact unnamed
      · rw [done]
        exact unnamed
      · rw [done]
        refine unnamed.put_found found ?_
        rw [RecordServer.sessionSet_id accepted]
        exact Table.key_of_get found
  | deleteSession id =>
      simp only [PostgresRecords.apply, PostgresRecords.deleteSession]
      split
      · split
        · exact unnamed
        · exact unnamed.remove id
      · exact unnamed
  | touchSession id =>
      simp only [PostgresRecords.apply, PostgresRecords.touchSession]
      split
      · split
        · exact unnamed
        · next old found =>
            have key : old.id = id := Table.key_of_get found
            exact unnamed.put_found found key
      · exact unnamed
  | createTunnel tunnel =>
      simp only [PostgresRecords.apply]
      rcases PostgresRecords.createTunnel_cases tunnel reading.fresh reading.now with
        ⟨e, -, done⟩ | ⟨metadata, row, referenced, -, -, -, done⟩
      · rw [done]
        exact unnamed
      · rw [done]
        exact unnamed
  | updateTunnel tunnel =>
      simp only [PostgresRecords.apply]
      rcases PostgresRecords.updateTunnel_cases tunnel with
        ⟨e, -, -, done⟩ | ⟨metadata, set, -, -, ⟨-, done⟩ | ⟨row, referenced, -, done⟩⟩
      · rw [done]
        exact unnamed
      · rw [done]
        exact unnamed
      · rw [done]
        exact unnamed
  | deleteTunnel id =>
      simp only [PostgresRecords.apply, PostgresRecords.deleteTunnel]
      split
      · split <;> exact unnamed
      · exact unnamed
  | deleteTunnelsBySession sessionID =>
      simp only [PostgresRecords.apply, PostgresRecords.run_deleteTunnelsBySession]
      split <;> exact unnamed
  | getSession id => exact unnamed
  | listSessions filter => exact unnamed
  | countActiveSessions username => exact unnamed
  | getTunnel id => exact unnamed
  | listTunnels filter => exact unnamed

theorem postgres_unnamed_cleanup (server : RecordServer) {p : PostgresRecords}
    (unnamed : Unnamed p.sessions) (maxInactive : Duration) (cutoffAt now : Time) :
    Unnamed (p.cleanupInactiveSessions server maxInactive cutoffAt now).sessions := by
  unfold PostgresRecords.cleanupInactiveSessions
  dsimp only
  split
  · exact unnamed.amend _ (Session.cleaned_id _ _)
  · exact unnamed

theorem postgres_unnamed {server : RecordServer} {p : PostgresRecords}
    (reachable : (Engine.postgres server).backend.Reachable p) : Unnamed p.sessions := by
  refine reachable.invariant (b := (Engine.postgres server).backend)
    (I := fun p : PostgresRecords => Unnamed p.sessions) rfl ?_
  intro p p' unnamed moved
  cases moved with
  | @record stamp call reply p' called =>
      obtain ⟨reading, -, -, applied⟩ := called
      have left := postgres_unnamed_apply server unnamed reading call
      rwa [applied] at left
  | cleanup maxInactive cutoffAt now =>
      exact postgres_unnamed_cleanup server unnamed maxInactive cutoffAt now

/-! ## Memory and Postgres -/

/-- The tunnels that are left when those of a session go. -/
theorem get_kept (tunnels : Table Tunnel.id) (id tid : GoString) :
    (∃ tunnel, tunnels.get tid = some tunnel ∧ tunnel.sessionID = id ∧
        (tunnels.keep fun tunnel => tunnel.sessionID != id).get tid = none) ∨
      ((∀ tunnel, tunnels.get tid = some tunnel → tunnel.sessionID ≠ id) ∧
        (tunnels.keep fun tunnel => tunnel.sessionID != id).get tid = tunnels.get tid) := by
  rw [Table.get_keep]
  cases found : tunnels.get tid with
  | none => exact .inr ⟨fun tunnel same => (by cases same), rfl⟩
  | some tunnel =>
      by_cases mine : tunnel.sessionID = id
      · refine .inl ⟨tunnel, rfl, mine, ?_⟩
        rw [Option.filter_some, if_neg (by simp [mine])]
      · refine .inr ⟨fun tunnel' same => ?_, ?_⟩
        · cases same
          exact mine
        · rw [Option.filter_some, if_pos (by simp [mine])]

/-- No tunnel that is left is listed for the session. -/
theorem kept_not_listed {tunnels : Table Tunnel.id} {id : GoString} (named : id ≠ [])
    {listed : List Tunnel} (mem : ∀ tunnel, tunnel ∈ listed ↔
      (tunnels.keep fun tunnel => tunnel.sessionID != id).get tunnel.id = some tunnel ∧
        (id = [] ∨ tunnel.sessionID = id)) : listed = [] := by
  refine List.eq_nil_iff_forall_not_mem.2 fun tunnel member => ?_
  obtain ⟨found, empty | mine⟩ := (mem tunnel).1 member
  · exact named empty
  · rw [Table.get_keep, Option.filter_eq_some_iff, bne_iff_ne] at found
    exact found.2 mine

/-- A store that keeps the tunnels of the other sessions cascades. -/
theorem cascades_of_kept {before after : View} {id : GoString} {tunnels : Table Tunnel.id}
    (given : GoString → Bool) (named : id ≠ [])
    (old : ∀ tid, before.tunnel tid = looked (given tid) (tunnels.get tid))
    (left : ∀ tid, after.tunnel tid = looked (given tid)
      ((tunnels.keep fun tunnel => tunnel.sessionID != id).get tid))
    (listing : ∀ reply, after.tunnelsOf id reply → ∃ listed, reply = .tunnels listed ∧
      ∀ tunnel, tunnel ∈ listed ↔
        (tunnels.keep fun tunnel => tunnel.sessionID != id).get tunnel.id = some tunnel ∧
          (id = [] ∨ tunnel.sessionID = id))
    (sessions : ∀ sid, sid ≠ id → after.session sid = before.session sid) :
    Cascades id before after := by
  refine ⟨fun tid tunnel seen mine => ?_, fun reply replied => ?_, sessions, fun tid others => ?_⟩
  · rw [old] at seen
    obtain ⟨readable, here⟩ := looked_eq_ok.1 seen
    rw [left, readable]
    rcases get_kept tunnels id tid with ⟨-, -, -, gone⟩ | ⟨apart, -⟩
    · rw [gone]
      rfl
    · exact absurd mine (apart tunnel here)
  · obtain ⟨listed, rfl, mem⟩ := listing reply replied
    rw [kept_not_listed named mem]
  · rw [old, left]
    cases readable : given tid with
    | false => rfl
    | true =>
        rcases get_kept tunnels id tid with ⟨tunnel, here, mine, -⟩ | ⟨-, same⟩
        · refine absurd mine (others tunnel ?_)
          rw [old]
          exact looked_eq_ok.2 ⟨readable, here⟩
        · rw [same]

theorem memory_cascades {m m' : Memory} {id : GoString} {stamp : Stamp}
    (unnamed : Unnamed m.records.sessions)
    (deleted : m.calls stamp (.deleteSession id) .done m') : Cascades id m.view m'.view := by
  obtain ⟨reading, -, -, applied⟩ := deleted
  simp only [Memory.apply, MemoryRecords.apply, MemoryRecords.deleteSession] at applied
  cases found : m.records.sessions.get id with
  | none =>
      rw [found] at applied
      cases applied
  | some sess =>
      rw [found] at applied
      cases applied
      have named : id ≠ [] := by
        rintro rfl
        rw [unnamed] at found
        cases found
      refine cascades_of_kept (fun _ => true) named (memory_tunnel m) (memory_tunnel _)
        (fun reply replied => memory_tunnelsOf replied) fun sid apart => ?_
      rw [memory_session, memory_session]
      exact congrArg _ ((Table.get_remove ..).trans (if_neg apart))

theorem postgres_cascades {server : RecordServer} {p p' : PostgresRecords} {id : GoString}
    {stamp : Stamp} (unnamed : Unnamed p.sessions)
    (deleted : p.calls server stamp (.deleteSession id) .done p') :
    Cascades id (p.view server) (p'.view server) := by
  obtain ⟨reading, -, -, applied⟩ := deleted
  simp only [PostgresRecords.apply, PostgresRecords.deleteSession] at applied
  cases text : server.text id with
  | false =>
      rw [text] at applied
      cases applied
  | true =>
      rw [if_pos text] at applied
      cases found : p.sessions.get id with
      | none =>
          rw [found] at applied
          cases applied
      | some sess =>
          rw [found] at applied
          cases applied
          have named : id ≠ [] := by
            rintro rfl
            rw [unnamed] at found
            cases found
          refine cascades_of_kept server.text named (postgres_tunnel server p)
            (postgres_tunnel server _) (fun reply replied => postgres_tunnelsOf replied text)
            fun sid apart => ?_
          rw [postgres_session, postgres_session]
          exact congrArg _ ((Table.get_remove ..).trans (if_neg apart))

/-! ## Redis -/

namespace RedisStore

variable {r r' : RedisStore} {id : GoString} {stamp : Stamp}

/-- A delete that succeeds changes the session and the index of a user. -/
theorem get_of_deleteSession (deleted : r.calls stamp (.deleteSession id) .done r') {a : RedisKey}
    (other : a.render ≠ sessionKey id) (record : ∀ u, a.render ≠ userSessionsKey u) :
    r'.keys.get a.render = r.keys.get a.render := by
  obtain ⟨moments, played⟩ := deleted
  obtain ⟨result, -, sent⟩ := play_map_eq_some.1 played
  obtain ⟨m, ⟨e, -, -, same⟩ | ⟨sess, m', -, -, done⟩⟩ := play_deleteSession sent
  · cases same
    rfl
  · rw [show r' = _ from congrArg Prod.snd done, commit_snd]
    refine get_writeAll m'.now ?_ r
    simp only [List.forall_mem_cons, List.not_mem_nil, false_implies, implies_true, and_true]
    exact ⟨other, record sess.username⟩

theorem readString_congr {k : GoString} (same : r'.keys.get k = r.keys.get k) (now : Time) :
    r'.readString k now = r.readString k now := by
  rw [readString, readString, live_congr same]

/-- A tunnel, and the index of a session's tunnels, have keys of their own. -/
theorem kept_of_deleteSession (deleted : r.calls stamp (.deleteSession id) .done r') (now : Time) :
    (∀ tid, (r'.view now).tunnel tid = (r.view now).tunnel tid) ∧
      (∀ sid, sid ≠ id → (r'.view now).session sid = (r.view now).session sid) ∧
      r'.keys.get (sessionTunnelsKey id) = r.keys.get (sessionTunnelsKey id) := by
  refine ⟨fun tid => ?_, fun sid apart => ?_, ?_⟩
  · have same := get_of_deleteSession deleted (a := .tunnel tid)
      (fun same => ?_) fun u same => ?_
    · exact congrArg tunnelOf (readString_congr same now)
    · rcases (RedisKey.render_eq_iff (.tunnel tid) (.session id)).1 same with h | h | h <;> cases h
    · rcases (RedisKey.render_eq_iff (.tunnel tid) (.userSessions u)).1 same with
        h | h | h <;> cases h
  · have same := get_of_deleteSession deleted (a := .session sid)
      (fun same => ?_) fun u same => ?_
    · exact congrArg sessionOf (readString_congr same now)
    · exact apart (List.append_cancel_left same)
    · rcases (RedisKey.render_eq_iff (.session sid) (.userSessions u)).1 same with
        h | h | h <;> cases h
  · refine get_of_deleteSession deleted (a := .sessionTunnels id) (fun same => ?_)
      fun u same => ?_
    · change sessionTunnelsKey id = sessionKey id at same
      rw [RedisKey.sessionTunnelsKey_eq] at same
      have longer := congrArg List.length (List.append_cancel_left same)
      rw [List.length_append, show (str "tunnels:").length = 8 from by decide] at longer
      omega
    · rcases (RedisKey.render_eq_iff (.sessionTunnels id) (.userSessions u)).1 same with
        h | h | h <;> cases h

theorem redis_cascades_iff
    (deleted : r.calls stamp (.deleteSession id) .done r') (now : Time) :
    Cascades id (r.view now) (r'.view now) ↔ Engine.redis.CascadeCondition r id now := by
  -- The delete leaves every tunnel and the index, so both sides speak of the store before it.
  obtain ⟨tunnels, sessions, index⟩ := kept_of_deleteSession deleted now
  have read : ∀ tid, r'.readTunnel now tid = r.readTunnel now tid := by
    intro tid
    exact congrArg Except.toOption (tunnels tid)
  have listable : r'.listable (sessionTunnelsKey id) now =
      r.listable (sessionTunnelsKey id) now := by
    rw [RedisStore.listable, RedisStore.listable, live_congr index]
  have members : r'.liveMembers (sessionTunnelsKey id) now =
      r.liveMembers (sessionTunnelsKey id) now := by
    rw [liveMembers, liveMembers, live_congr index]
  constructor
  · rintro ⟨gone, listed, -, -⟩
    refine ⟨fun tid tunnel found mine => ?_, ?_⟩
    · have seen := view_tunnel_eq_ok.2 found
      have missing := gone tid tunnel seen mine
      rw [tunnels tid, seen] at missing
      cases missing
    · by_cases named : id = []
      · exact .inl named
      · obtain ⟨reply, replied⟩ := exists_tunnelsOf r' now id
        obtain rfl := listed reply replied
        rcases redis_tunnelsOf named replied with ⟨-, failed⟩ | ⟨none_, same, fits, mem⟩
        · cases failed
        · cases same
          refine .inr ⟨listable ▸ fits, fun tid member => ?_⟩
          rw [← read, Option.eq_none_iff_forall_ne_some]
          intro tunnel found
          exact List.not_mem_nil ((mem tunnel).2 ⟨tid, members ▸ member, found⟩)
  · rintro ⟨gone, empty⟩
    refine ⟨fun tid tunnel seen mine => ?_, fun reply replied => ?_, sessions,
      fun tid _ => tunnels tid⟩
    · exact absurd mine (gone tid tunnel (view_tunnel_eq_ok.1 seen))
    · by_cases named : id = []
      · subst named
        exact tunnelsOf_nil replied
      · obtain ⟨fits, unread⟩ := empty.resolve_left named
        rcases redis_tunnelsOf named replied with ⟨unlistable, -⟩ | ⟨listed, rfl, -, mem⟩
        · rw [listable, fits] at unlistable
          cases unlistable
        · have none_listed : listed = [] := by
            refine List.eq_nil_iff_forall_not_mem.2 fun tunnel member => ?_
            obtain ⟨tid, indexed, found⟩ := (mem tunnel).1 member
            rw [read, unread tid (members ▸ indexed)] at found
            cases found
          rw [none_listed]

end RedisStore

/-! ## All three -/

/-- **When a delete takes the tunnels along.**  In memory and in Postgres always.  In Redis
exactly when there is nothing to take: no tunnel that can be read names the session, and its
index, which holds nothing but a set, lists none that can be read. -/
theorem cascade_iff (e : Engine) (s s' : e.backend.State) (id : GoString) (stamp : Stamp)
    (now : Time) (reachable : e.backend.Reachable s)
    (deleted : e.backend.calls s stamp (.deleteSession id) .done s') :
    Cascades id (e.backend.view s now) (e.backend.view s' now) ↔ e.CascadeCondition s id now := by
  cases e with
  | memory => exact iff_of_true (memory_cascades (memory_unnamed reachable) deleted) trivial
  | postgres server =>
      exact iff_of_true (postgres_cascades (postgres_unnamed reachable) deleted) trivial
  | redis => exact RedisStore.redis_cascades_iff deleted now

/-- A session and its tunnel in memory: both go. -/
theorem cascade_memory :
    ∃ m m' : Memory, Engine.memory.backend.Reachable m ∧
      m.calls ⟨default, 3⟩ (.deleteSession (str "s1")) .done m' ∧
      m.view.tunnel (str "t1") = .ok (sampleTunnel.stamped default 2) ∧
      Cascades (str "s1") m.view m'.view := by
  let sess := sampleSession.stamped default 1
  let tunnel := sampleTunnel.stamped default 2
  let one := (newMemory.apply ⟨default, 1, [], []⟩ (.record (.createSession sampleSession))).2
  let two := (one.apply ⟨default, 2, [sess], []⟩ (.record (.createTunnel sampleTunnel))).2
  let three := two.apply ⟨default, 3, [sess], [tunnel]⟩ (.record (.deleteSession (str "s1")))
  have first : newMemory.step (⟨default, 1, [], []⟩, .record (.createSession sampleSession)) =
      some one := Memory.step_of_fits _ (by decide)
  have next : one.step (⟨default, 2, [sess], []⟩, .record (.createTunnel sampleTunnel)) =
      some two := Memory.step_of_fits _ (by decide)
  have reachable : Engine.memory.backend.Reachable two :=
    (Relation.ReflTransGen.refl.tail ⟨_, first⟩).tail ⟨_, next⟩
  have replied : (two.records.apply ⟨default, 3, [sess], [tunnel]⟩
      (.deleteSession (str "s1"))).1 = .done := by decide
  have deleted : two.calls ⟨default, 3⟩ (.deleteSession (str "s1")) .done three.2 :=
    ⟨⟨default, 3, [sess], [tunnel]⟩, rfl, by decide,
      Prod.ext (congrArg MemoryReply.record replied) rfl⟩
  have seen : two.records.getTunnel (str "t1") = .ok tunnel := by
    have found : two.records.tunnels.get (str "t1") = some tunnel := by decide
    rw [MemoryRecords.getTunnel, found]
  exact ⟨two, three.2, reachable, deleted, seen,
    (cascade_iff .memory two three.2 (str "s1") ⟨default, 3⟩ 4 reachable deleted).2 trivial⟩

/-- A session and its tunnel in Redis: the session goes and the tunnel stays. -/
theorem cascade_redis :
    ∃ r r' : RedisStore, Engine.redis.backend.Reachable r ∧
      r.calls ⟨default, 3⟩ (.deleteSession (str "s1")) .done r' ∧
      (r'.readTunnel 4 (str "t1")).map Tunnel.sessionID = some (str "s1") ∧
      ¬ Cascades (str "s1") (r.view 4) (r'.view 4) := by
  let create := RedisCall.record (.createSession sampleSession) default 1 [⟨1, []⟩]
  let link := RedisCall.record (.createTunnel sampleTunnel) default 2 [⟨2, []⟩]
  let one := (newRedisStore.step create).get (by decide)
  let two := (one.step link).get (by decide)
  let script := RedisStore.script (.deleteSession (str "s1")) default 3
  have reachable : Engine.redis.backend.Reachable two :=
    (Relation.ReflTransGen.refl.tail ⟨create, (Option.some_get _).symm⟩).tail
      ⟨link, (Option.some_get _).symm⟩
  have before : (two.readTunnel 4 (str "t1")).map Tunnel.sessionID = some (str "s1") := by
    decide
  have left : (play RedisStore.answer script two [⟨3, []⟩, ⟨3, []⟩]).map (fun out =>
      (out.1, (out.2.readTunnel 4 (str "t1")).map Tunnel.sessionID)) =
        some (.done, some (str "s1")) := by decide
  obtain ⟨⟨reply, r'⟩, played, same⟩ := Option.map_eq_some_iff.1 left
  obtain ⟨rfl, after⟩ := Prod.ext_iff.1 same
  have deleted : two.calls ⟨default, 3⟩ (.deleteSession (str "s1")) .done r' :=
    ⟨[⟨3, []⟩, ⟨3, []⟩], played⟩
  refine ⟨two, r', reachable, deleted, after, ?_⟩
  rw [RedisStore.redis_cascades_iff deleted 4]
  rintro ⟨others, -⟩
  obtain ⟨tunnel, found, mine⟩ := Option.map_eq_some_iff.1 before
  exact others (str "t1") tunnel found mine

end SentinelOps.Store
