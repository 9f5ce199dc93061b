/-
# Store.Sentinels — the two errors a caller is promised

`ErrAlreadyExists` is for a create whose ID is taken and `ErrNotFound` for an update whose ID is
not, and neither is to change anything.  In memory a lookup decides, and both hold.  Postgres
refuses a second row of the same ID, but what it returns is the error of the driver; it counts the
rows of an update, once the server has taken the parameters.  Redis looks at nothing and writes.
`sentinels_iff` has all twelve combinations.
-/
import SentinelOps.Store.Backends

namespace SentinelOps.Store

open Theory GoText Script
open GoTime (Time)
open MemoryRecords (Reading)

set_option autoImplicit false

/-- A client sees the same sessions and tunnels. -/
def SameRecords (before after : View) : Prop :=
  (∀ id, after.session id = before.session id) ∧ ∀ id, after.tunnel id = before.tunnel id

/-- A call that deserves one of the two errors: a create with an ID that is taken, or an update
with one that is not. -/
inductive Offends (e : Engine) (s : e.backend.State) : RecordCall → StoreError → Prop where
  | createSession {sess : Session} (named : sess.id ≠ []) (now : Time) {old : Session}
      (stored : (e.backend.view s now).session sess.id = .ok old) :
      Offends e s (.createSession sess) .errAlreadyExists
  | createTunnel {tunnel : Tunnel} (named : tunnel.id ≠ []) (now : Time) {old : Tunnel}
      (stored : (e.backend.view s now).tunnel tunnel.id = .ok old) :
      Offends e s (.createTunnel tunnel) .errAlreadyExists
  | updateSession {sess : Session}
      (absent : ∀ now old, (e.backend.view s now).session sess.id ≠ .ok old) :
      Offends e s (.updateSession sess) .errNotFound
  | updateTunnel {tunnel : Tunnel}
      (absent : ∀ now old, (e.backend.view s now).tunnel tunnel.id ≠ .ok old) :
      Offends e s (.updateTunnel tunnel) .errNotFound

/-- The calls that get the error they deserve: in memory all, in Postgres the updates whose
parameters the server takes, in Redis none. -/
def Engine.Reports : Engine → Stamp → RecordCall → Prop
  | .memory, _, _ => True
  | .postgres server, stamp, .updateSession sess => ∃ metadata set,
      marshalJSONMap sess.metadata = some metadata ∧
        server.sessionSet (sess.touched stamp.now) metadata = some set
  | .postgres server, _, .updateTunnel tunnel => ∃ metadata set,
      marshalJSONMap tunnel.metadata = some metadata ∧ server.tunnelSet tunnel metadata = some set
  | .postgres _, _, _ => False
  | .redis, _, _ => False

/-! ## Memory -/

theorem identified_of_ne_nil {id : GoString} (named : id ≠ []) (fresh : Uuid) :
    identified id fresh = id :=
  if_neg named

/-- In memory the call is refused with the error it deserves. -/
theorem memory_refuses {m m' : Memory} {stamp : Stamp} {call : RecordCall} {error : StoreError}
    {reply : RecordReply} (offends : Offends .memory m call error)
    (called : m.calls stamp call reply m') : reply = .failed error ∧ m' = m := by
  obtain ⟨reading, -, -, applied⟩ := called
  cases offends with
  | createSession named t stored =>
      have seen := looked_eq_ok.1 ((memory_session m _).symm.trans stored)
      simp only [Memory.apply, MemoryRecords.apply, MemoryRecords.createSession,
        identified_of_ne_nil named, seen.2] at applied
      cases applied
      exact ⟨rfl, rfl⟩
  | createTunnel named t stored =>
      have seen := looked_eq_ok.1 ((memory_tunnel m _).symm.trans stored)
      simp only [Memory.apply, MemoryRecords.apply, MemoryRecords.createTunnel,
        identified_of_ne_nil named, seen.2] at applied
      cases applied
      exact ⟨rfl, rfl⟩
  | @updateSession sess absent =>
      have gone : m.records.sessions.get sess.id = none := by
        rw [Option.eq_none_iff_forall_ne_some]
        intro old found
        exact absent 0 old ((memory_session m _).trans (looked_eq_ok.2 ⟨rfl, found⟩))
      simp only [Memory.apply, MemoryRecords.apply, MemoryRecords.updateSession, gone] at applied
      cases applied
      exact ⟨rfl, rfl⟩
  | @updateTunnel tunnel absent =>
      have gone : m.records.tunnels.get tunnel.id = none := by
        rw [Option.eq_none_iff_forall_ne_some]
        intro old found
        exact absent 0 old ((memory_tunnel m _).trans (looked_eq_ok.2 ⟨rfl, found⟩))
      simp only [Memory.apply, MemoryRecords.apply, MemoryRecords.updateTunnel, gone] at applied
      cases applied
      exact ⟨rfl, rfl⟩

/-! ## Postgres -/

theorem sameRecords_refl (v : View) : SameRecords v v := ⟨fun _ => rfl, fun _ => rfl⟩

/-- A refused statement leaves the tables, and only an update reports a sentinel. -/
theorem postgres_refuses_iff {server : RecordServer} {p p' : PostgresRecords} {stamp : Stamp}
    {call : RecordCall} {error : StoreError} {reply : RecordReply}
    (offends : Offends (.postgres server) p call error)
    (called : p.calls server stamp call reply p') :
    (reply = .failed error ∧ SameRecords (p.view server) (p'.view server)) ↔
      (Engine.postgres server).Reports stamp call := by
  obtain ⟨reading, rfl, -, applied⟩ := called
  cases offends with
  | @createSession sess named t old stored =>
      refine iff_of_false ?_ id
      rintro ⟨replied, -⟩
      simp only [PostgresRecords.apply] at applied
      rcases PostgresRecords.createSession_cases sess reading.fresh reading.now with
        ⟨e, rfl | rfl, done⟩ | ⟨metadata, row, -, -, -, done⟩
      all_goals
        rw [done] at applied
        cases applied
        cases replied
  | @createTunnel tunnel named t old stored =>
      refine iff_of_false ?_ id
      rintro ⟨replied, -⟩
      simp only [PostgresRecords.apply] at applied
      rcases PostgresRecords.createTunnel_cases tunnel reading.fresh reading.now with
        ⟨e, rfl | rfl, done⟩ | ⟨metadata, row, referenced, -, -, -, done⟩
      all_goals
        rw [done] at applied
        cases applied
        cases replied
  | @updateSession sess absent =>
      simp only [PostgresRecords.apply] at applied
      rcases PostgresRecords.updateSession_cases sess reading.now with
        ⟨e, which, refused, done⟩ |
        ⟨metadata, set, marshalled, accepted, ⟨-, done⟩ | ⟨row, found, done⟩⟩
      · rw [done] at applied
        cases applied
        refine iff_of_false ?_ ?_
        · rintro ⟨replied, -⟩
          cases replied
          rcases which with h | h <;> cases h
        · rintro ⟨metadata, set, marshalled, accepted⟩
          rw [refused metadata marshalled] at accepted
          cases accepted
      · rw [done] at applied
        cases applied
        exact iff_of_true ⟨rfl, sameRecords_refl _⟩ ⟨metadata, set, marshalled, accepted⟩
      · have given := RecordServer.sessionSet_text accepted
        exact absurd ((postgres_session ..).trans (looked_eq_ok.2 ⟨given, found⟩))
          (absent reading.now row)
  | @updateTunnel tunnel absent =>
      simp only [PostgresRecords.apply] at applied
      rcases PostgresRecords.updateTunnel_cases tunnel with
        ⟨e, which, refused, done⟩ |
        ⟨metadata, set, marshalled, accepted, ⟨-, done⟩ | ⟨row, referenced, found, done⟩⟩
      · rw [done] at applied
        cases applied
        refine iff_of_false ?_ ?_
        · rintro ⟨replied, -⟩
          cases replied
          rcases which with h | h <;> cases h
        · rintro ⟨metadata, set, marshalled, accepted⟩
          rw [refused metadata marshalled] at accepted
          cases accepted
      · rw [done] at applied
        cases applied
        exact iff_of_true ⟨rfl, sameRecords_refl _⟩ ⟨metadata, set, marshalled, accepted⟩
      · have given := RecordServer.tunnelSet_text accepted
        exact absurd ((postgres_tunnel ..).trans (looked_eq_ok.2 ⟨given, found⟩))
          (absent reading.now row)

/-! ## Redis -/

/-- A transaction fails with the error of the driver. -/
theorem commit_not_sentinel {r : RedisStore} {now : Time} {ws : List Write} {error : StoreError}
    {result : Except StoreError Unit} {r' : RedisStore} (done : (result, r') = r.commit now ws)
    (shown : RecordReply.failed error = .ofError result) : error = .driver := by
  obtain rfl : result = (r.commit now ws).1 := congrArg Prod.fst done
  rcases r.commit_fst now ws with ok | failed
  · rw [ok] at shown
    cases shown
  · rw [failed] at shown
    cases shown
    rfl

/-- Redis answers no such call with a sentinel. -/
theorem redis_never_refuses {r r' : RedisStore} {stamp : Stamp} {call : RecordCall}
    {error : StoreError} {reply : RecordReply} (offends : Offends .redis r call error)
    (called : r.calls stamp call reply r') : reply ≠ .failed error := by
  obtain ⟨moments, played⟩ := called
  rintro rfl
  cases offends with
  | createSession named t stored =>
      obtain ⟨result, shown, sent⟩ := play_map_eq_some.1 played
      rcases RedisStore.play_createSession sent with ⟨-, -, same⟩ | ⟨doc, m, -, -, done⟩
      · cases same
        cases shown
      · cases commit_not_sentinel done shown
  | createTunnel named t stored =>
      obtain ⟨result, shown, sent⟩ := play_map_eq_some.1 played
      rcases RedisStore.play_createTunnel sent with ⟨-, -, same⟩ | ⟨doc, m, -, -, done⟩
      · cases same
        cases shown
      · cases commit_not_sentinel done shown
  | updateSession absent =>
      obtain ⟨result, shown, sent⟩ := play_map_eq_some.1 played
      rcases RedisStore.play_updateSession sent with ⟨-, -, same⟩ | ⟨doc, m, -, -, same⟩
      · cases same
        cases shown
      · cases same
        cases shown
  | updateTunnel absent =>
      obtain ⟨result, shown, sent⟩ := play_map_eq_some.1 played
      rcases RedisStore.play_updateTunnel sent with ⟨-, -, same⟩ | ⟨doc, m, -, -, same⟩
      · cases same
        cases shown
      · cases same
        cases shown

/-! ## All three -/

/-- **Who gets the error they deserve.**  A create with an ID that is taken, or an update with
one that is not, returns its sentinel and changes nothing exactly when the store is the one in
memory, or it is an update in Postgres whose parameters the server takes. -/
theorem sentinels_iff (e : Engine) (s s' : e.backend.State) (stamp : Stamp) (call : RecordCall)
    (error : StoreError) (reply : RecordReply) (offends : Offends e s call error)
    (called : e.backend.calls s stamp call reply s') :
    (reply = .failed error ∧
        ∀ t, SameRecords (e.backend.view s t) (e.backend.view s' t)) ↔ e.Reports stamp call := by
  cases e with
  | memory =>
      obtain ⟨rfl, rfl⟩ := memory_refuses offends called
      exact iff_of_true ⟨rfl, fun _ => sameRecords_refl _⟩ trivial
  | postgres server =>
      refine Iff.trans ?_ (postgres_refuses_iff offends called)
      exact and_congr_right fun _ => ⟨fun same => same 0, fun same _ => same⟩
  | redis =>
      refine iff_of_false ?_ id
      rintro ⟨replied, -⟩
      exact redis_never_refuses offends called replied

/-- The same session twice in memory. -/
theorem sentinels_memory :
    ∃ (m m' : Memory) (reply : RecordReply),
      m.calls ⟨default, 2⟩ (.createSession sampleSession) reply m' ∧
      reply = .failed .errAlreadyExists ∧
      ∀ t, SameRecords (Engine.memory.backend.view m t) (Engine.memory.backend.view m' t) := by
  let m := (newMemory.apply ⟨default, 1, [], []⟩ (.record (.createSession sampleSession))).2
  let again : Reading := ⟨default, 2, [sampleSession.stamped default 1], []⟩
  let out := m.records.apply again (.createSession sampleSession)
  have stored : m.records.sessions.get sampleSession.id =
      some (sampleSession.stamped default 1) := by decide
  have offends : Offends .memory m (.createSession sampleSession) .errAlreadyExists :=
    .createSession (by decide) 0 ((memory_session m _).trans (looked_eq_ok.2 ⟨rfl, stored⟩))
  let m' : Memory := { m with records := out.2 }
  have called : m.calls ⟨default, 2⟩ (.createSession sampleSession) out.1 m' :=
    ⟨again, rfl, by decide, rfl⟩
  have refused := (sentinels_iff .memory m m' ⟨default, 2⟩ _ _ out.1 offends called).2 trivial
  exact ⟨m, _, out.1, called, refused.1, refused.2⟩

/-- In Postgres a second create fails with the error of the driver.  In Redis it succeeds and
replaces the session, and an update stores a session that was never created. -/
theorem sentinels_lost :
    let renamed : Session := { sampleSession with username := str "bob" }
    let p := (newPostgresRecords.createSession sampleServer sampleSession default 1).2
    let create := RedisCall.record (.createSession sampleSession) default 1 [⟨1, []⟩]
    let seen := fun out : RecordReply × RedisStore =>
      (out.1, (out.2.storedSession (str "s1")).map Session.username)
    (p.sessions.get (str "s1")).map Session.username = some (str "ana") ∧
    (p.createSession sampleServer renamed default 2).1 = .error .driver ∧
    ((newRedisStore.step create).bind fun r =>
      (play RedisStore.answer (RedisStore.script (.createSession renamed) default 2) r
        [⟨2, []⟩]).map seen) = some (.done, some (str "bob")) ∧
    (play RedisStore.answer (RedisStore.script (.updateSession sampleSession) default 1)
      newRedisStore [⟨1, []⟩]).map seen = some (.done, some (str "ana")) := by
  decide

end SentinelOps.Store
