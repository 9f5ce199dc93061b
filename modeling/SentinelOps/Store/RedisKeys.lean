/-
# Store.RedisKeys — six families of keys in one name space

The keys of the Redis store are built from six prefixes and arbitrary strings.  Two of the
prefixes extend another one: the index of a session's tunnels lies among the sessions, and the
lock of a rate-limit key among the counters.  `render_eq_iff` says which keys coincide: the
session whose ID is `tunnels:x` and the tunnels of `x`, and the counter of `lock:x` and the lock
of `x`.

A call changes only the keys of its own objects (`get_of_play`, `get_limit`).  So an object is
safe from the calls on others exactly as far as its key is its own (`others_untouched_iff`).
-/
import SentinelOps.Store.AttemptRace
import SentinelOps.Store.RedisEffects

namespace SentinelOps.Store

open Theory GoText Schedule Script
open GoTime (Time second minute)

set_option autoImplicit false

/-! ## Keys -/

/-- An object of the store, by the function that builds its key. -/
inductive RedisKey where
  | session (id : GoString)
  | userSessions (username : GoString)
  | tunnel (id : GoString)
  | sessionTunnels (id : GoString)
  | rateLimit (key : GoString)
  | rateLimitLock (key : GoString)
deriving DecidableEq

namespace RedisKey

def render : RedisKey → GoString
  | session id => sessionKey id
  | userSessions username => userSessionsKey username
  | tunnel id => tunnelKey id
  | sessionTunnels id => sessionTunnelsKey id
  | rateLimit key => rateLimitKey key
  | rateLimitLock key => rateLimitLockKey key

/-- The prefix of the family. -/
def label : RedisKey → GoString
  | session _ => str "session:"
  | userSessions _ => str "user:sessions:"
  | tunnel _ => str "tunnel:"
  | sessionTunnels _ => str "session:tunnels:"
  | rateLimit _ => str "ratelimit:"
  | rateLimitLock _ => str "ratelimit:lock:"

/-- Two objects of different families that have the same key. -/
inductive Collide : RedisKey → RedisKey → Prop where
  | index (id : GoString) : Collide (session (str "tunnels:" ++ id)) (sessionTunnels id)
  | lock (key : GoString) : Collide (rateLimit (str "lock:" ++ key)) (rateLimitLock key)

theorem label_prefix (a : RedisKey) : a.label <+: a.render := by
  cases a <;> exact List.prefix_append _ _

theorem sessionTunnelsKey_eq (id : GoString) :
    sessionTunnelsKey id = sessionKey (str "tunnels:" ++ id) := by
  have split : str "session:tunnels:" = str "session:" ++ str "tunnels:" := by decide
  rw [sessionTunnelsKey, split, List.append_assoc]
  rfl

theorem rateLimitLockKey_eq (key : GoString) :
    rateLimitLockKey key = rateLimitKey (str "lock:" ++ key) := by
  have split : str "ratelimit:lock:" = str "ratelimit:" ++ str "lock:" := by decide
  rw [rateLimitLockKey, split, List.append_assoc]
  rfl

theorem Collide.render_eq {a b : RedisKey} (collide : Collide a b) : a.render = b.render := by
  cases collide with
  | index id => exact (sessionTunnelsKey_eq id).symm
  | lock key => exact (rateLimitLockKey_eq key).symm

theorem Collide.ne {a b : RedisKey} (collide : Collide a b) : a ≠ b := by
  cases collide <;> simp

/-- When the prefix of one key starts that of the other, equal keys are one object or collide. -/
theorem eq_or_collide {a b : RedisKey} (same : a.render = b.render)
    (shorter : a.label <+: b.label) :
    a = b ∨ Collide a b := by
  cases a with
  | session id =>
      cases b with
      | session id' => exact .inl (congrArg session (List.append_cancel_left same))
      | sessionTunnels id' =>
          change sessionKey id = sessionTunnelsKey id' at same
          rw [sessionTunnelsKey_eq] at same
          rw [List.append_cancel_left same]
          exact .inr (.index id')
      | _ =>
          dsimp only [label] at shorter
          exact absurd shorter (by decide)
  | userSessions username =>
      cases b with
      | userSessions username' => exact .inl (congrArg userSessions (List.append_cancel_left same))
      | _ =>
          dsimp only [label] at shorter
          exact absurd shorter (by decide)
  | tunnel id =>
      cases b with
      | tunnel id' => exact .inl (congrArg tunnel (List.append_cancel_left same))
      | _ =>
          dsimp only [label] at shorter
          exact absurd shorter (by decide)
  | sessionTunnels id =>
      cases b with
      | sessionTunnels id' => exact .inl (congrArg sessionTunnels (List.append_cancel_left same))
      | _ =>
          dsimp only [label] at shorter
          exact absurd shorter (by decide)
  | rateLimit key =>
      cases b with
      | rateLimit key' => exact .inl (congrArg rateLimit (List.append_cancel_left same))
      | rateLimitLock key' =>
          change rateLimitKey key = rateLimitLockKey key' at same
          rw [rateLimitLockKey_eq] at same
          rw [List.append_cancel_left same]
          exact .inr (.lock key')
      | _ =>
          dsimp only [label] at shorter
          exact absurd shorter (by decide)
  | rateLimitLock key =>
      cases b with
      | rateLimitLock key' => exact .inl (congrArg rateLimitLock (List.append_cancel_left same))
      | _ =>
          dsimp only [label] at shorter
          exact absurd shorter (by decide)

/-- **Two objects share a key exactly when they are one or collide.** -/
theorem render_eq_iff (a b : RedisKey) :
    a.render = b.render ↔ a = b ∨ Collide a b ∨ Collide b a := by
  constructor
  · intro same
    rcases List.prefix_or_prefix_of_prefix a.label_prefix (same ▸ b.label_prefix) with
      shorter | longer
    · exact (eq_or_collide same shorter).imp id .inl
    · exact (eq_or_collide same.symm longer).imp Eq.symm .inr
  · rintro (rfl | collide | collide)
    · rfl
    · exact collide.render_eq
    · exact collide.render_eq.symm

end RedisKey

/-- No session is kept where the sessions of a user are listed. -/
theorem sessionKey_ne_userSessionsKey (id username : GoString) :
    sessionKey id ≠ userSessionsKey username := by
  intro same
  rcases ((RedisKey.session id).render_eq_iff (.userSessions username)).1 same with
    same | collide | collide
  · cases same
  · cases collide
  · cases collide

theorem tunnelKey_inj {id id' : GoString} : tunnelKey id = tunnelKey id' ↔ id = id' :=
  List.append_right_inj _

/-- No tunnel is kept where the tunnels of a session are listed. -/
theorem tunnelKey_ne_sessionTunnelsKey (id sessionID : GoString) :
    tunnelKey id ≠ sessionTunnelsKey sessionID := by
  intro same
  rcases ((RedisKey.tunnel id).render_eq_iff (.sessionTunnels sessionID)).1 same with
    same | collide | collide
  · cases same
  · cases collide
  · cases collide

/-! ## The objects of a call -/

namespace RedisStore

/-- The objects a call is about: its record, and the index the record is entered in or taken
out of. -/
def Owns (r : RedisStore) (fresh : Uuid) : RecordCall → RedisKey → Prop
  | .createSession sess, own =>
      own = .session (identified sess.id fresh) ∨ own = .userSessions sess.username
  | .updateSession sess, own => own = .session sess.id
  | .deleteSession id, own =>
      own = .session id ∨ ∃ sess, r.storedSession id = some sess ∧ own = .userSessions sess.username
  | .touchSession id, own => own = .session id
  | .createTunnel tunnel, own =>
      own = .tunnel (identified tunnel.id fresh) ∨ own = .sessionTunnels tunnel.sessionID
  | .updateTunnel tunnel, own => own = .tunnel tunnel.id
  | .deleteTunnel id, own =>
      own = .tunnel id ∨
        ∃ tunnel, r.storedTunnel id = some tunnel ∧ own = .sessionTunnels tunnel.sessionID
  | .deleteTunnelsBySession sessionID, own =>
      own = .sessionTunnels sessionID ∨
        ∃ id ∈ r.members (sessionTunnelsKey sessionID), own = .tunnel id
  | _, _ => False

/-- A session that is touched reads back under the ID it is stored under. -/
def NamedByID (r : RedisStore) : RecordCall → Prop
  | .touchSession id => ∀ sess, r.storedSession id = some sess → sess.id = id
  | _ => True

variable {r r' : RedisStore} {fresh : Uuid} {now : Time} {ls : List Moment} {call : RecordCall}
variable {reply : RecordReply}

/-- A call on sessions or tunnels changes only the keys of its own objects. -/
theorem get_of_play (played : play answer (script call fresh now) r ls = some (reply, r'))
    (named : r.NamedByID call) {k : GoString}
    (others : ∀ own, r.Owns fresh call own → k ≠ own.render) : r'.keys.get k = r.keys.get k := by
  cases call with
  | createSession sess =>
      obtain ⟨result, -, sent⟩ := play_map_eq_some.1 played
      rcases play_createSession sent with ⟨-, -, same⟩ | ⟨doc, l, -, -, done⟩
      · cases same
        rfl
      · rw [show r' = _ from congrArg Prod.snd done]
        exact get_commit_pair r l.now (others _ (.inl rfl)) (others _ (.inr rfl))
  | updateSession sess =>
      obtain ⟨result, -, sent⟩ := play_map_eq_some.1 played
      rcases play_updateSession sent with ⟨-, -, same⟩ | ⟨doc, l, -, -, done⟩
      · cases same
        rfl
      · rw [show r' = _ from congrArg Prod.snd done]
        exact (get_setKey ..).trans (if_neg (others _ rfl))
  | deleteSession id =>
      obtain ⟨result, -, sent⟩ := play_map_eq_some.1 played
      obtain ⟨l, ⟨e, -, -, same⟩ | ⟨sess, l', read, -, done⟩⟩ := play_deleteSession sent
      · cases same
        rfl
      · rw [show r' = _ from congrArg Prod.snd done]
        exact get_commit_pair r l'.now (others _ (.inl rfl))
          (others _ (.inr ⟨sess, storedSession_of_read read, rfl⟩))
  | touchSession id =>
      obtain ⟨result, -, sent⟩ := play_map_eq_some.1 played
      obtain ⟨l, ⟨e, -, -, same⟩ | ⟨sess, rest, read, -, later⟩⟩ := play_touchSession sent
      · cases same
        rfl
      · rcases play_updateSession later with ⟨-, -, same⟩ | ⟨doc, l', -, -, done⟩
        · cases same
          rfl
        · have same := named sess (storedSession_of_read read)
          rw [show r' = _ from congrArg Prod.snd done]
          exact (get_setKey ..).trans (if_neg (same ▸ others _ rfl))
  | createTunnel tunnel =>
      obtain ⟨result, -, sent⟩ := play_map_eq_some.1 played
      rcases play_createTunnel sent with ⟨-, -, same⟩ | ⟨doc, l, -, -, done⟩
      · cases same
        rfl
      · rw [show r' = _ from congrArg Prod.snd done]
        exact get_commit_pair r l.now (others _ (.inl rfl)) (others _ (.inr rfl))
  | updateTunnel tunnel =>
      obtain ⟨result, -, sent⟩ := play_map_eq_some.1 played
      rcases play_updateTunnel sent with ⟨-, -, same⟩ | ⟨doc, l, -, -, done⟩
      · cases same
        rfl
      · rw [show r' = _ from congrArg Prod.snd done]
        exact (get_setKey ..).trans (if_neg (others _ rfl))
  | deleteTunnel id =>
      obtain ⟨result, -, sent⟩ := play_map_eq_some.1 played
      obtain ⟨l, ⟨e, -, -, same⟩ | ⟨tunnel, l', read, -, done⟩⟩ := play_deleteTunnel sent
      · cases same
        rfl
      · rw [show r' = _ from congrArg Prod.snd done]
        exact get_commit_pair r l'.now (others _ (.inl rfl))
          (others _ (.inr ⟨tunnel, storedTunnel_of_read read, rfl⟩))
  | deleteTunnelsBySession sessionID =>
      obtain ⟨result, -, sent⟩ := play_map_eq_some.1 played
      obtain ⟨l, ⟨e, -, -, same⟩ | ⟨ids, l', read, -, done⟩⟩ := play_deleteTunnelsBySession sent
      · cases same
        rfl
      · rw [show r' = _ from congrArg Prod.snd done]
        refine (get_writeAll_del ..).trans (if_neg fun swept => ?_)
        rcases List.mem_append.1 swept with tunnels | index
        · obtain ⟨id, member, same⟩ := List.mem_map.1 tunnels
          exact others _ (.inr ⟨id, mem_of_readMembers read member, rfl⟩) same.symm
        · exact others _ (.inl rfl) (List.mem_singleton.1 index)
  | getSession id => exact congrArg (·.keys.get k) (((reads_getSession id).map _).store played)
  | listSessions filter =>
      exact congrArg (·.keys.get k) (((reads_listSessions filter).map _).store played)
  | countActiveSessions username =>
      exact congrArg (·.keys.get k) ((((reads_listSessions _).map _).map _).store played)
  | getTunnel id => exact congrArg (·.keys.get k) (((reads_getTunnel id).map _).store played)
  | listTunnels filter =>
      exact congrArg (·.keys.get k) (((reads_listTunnels filter).map _).store played)

/-- A rate-limit call changes only the counter and the lock of its key. -/
theorem get_limit (r : RedisStore) (now : Time) (call : LimitCall) {k : GoString}
    (counter : k ≠ rateLimitKey call.key) (lock : k ≠ rateLimitLockKey call.key) :
    (r.limit now call).2.keys.get k = r.keys.get k := by
  cases call with
  | incrementAttempts key window =>
      simp only [limit, incrementAttempts]
      split
      · split
        · exact (get_setKey ..).trans (if_neg counter)
        · rfl
      · split
        · split
          · rfl
          · exact (get_setKey ..).trans (if_neg counter)
        · rfl
  | resetAttempts key =>
      exact (get_delKey ..).trans ((if_neg lock).trans ((get_delKey ..).trans (if_neg counter)))
  | lock key duration => exact (get_setKey ..).trans (if_neg lock)
  | getAttempts key => rfl
  | isLocked key lockout => rfl

end RedisStore

/-! ## Runs -/

/-- A call of the store: on records, with the moments of its commands, or on attempts. -/
inductive RedisCall where
  | record (call : RecordCall) (fresh : Uuid) (now : Time) (moments : List Moment)
  | limit (call : LimitCall) (now : Time)

namespace RedisStore

def step (r : RedisStore) : RedisCall → Option RedisStore
  | .record call fresh now moments => (play answer (script call fresh now) r moments).map Prod.snd
  | .limit call now => some (r.limit now call).2

def Reachable (r : RedisStore) : Prop := ∃ calls, exec step newRedisStore calls = some r

theorem reachable_limit (call : LimitCall) (now : Time) :
    Reachable (newRedisStore.limit now call).2 :=
  ⟨[.limit call now], rfl⟩

/-- What callers of `k` see of the attempts at every instant. -/
def SameAttempts (k : GoString) (r r' : RedisStore) : Prop :=
  ∀ t, r'.getAttempts k t = r.getAttempts k t ∧ r'.isLocked k t = r.isLocked k t

theorem sameAttempts_of_get {k : GoString} {r r' : RedisStore}
    (counter : r'.keys.get (rateLimitKey k) = r.keys.get (rateLimitKey k))
    (lock : r'.keys.get (rateLimitLockKey k) = r.keys.get (rateLimitLockKey k)) :
    SameAttempts k r r' := by
  intro t
  rw [getAttempts, getAttempts, live_congr counter, isLocked, isLocked, ttl, ttl, live_congr lock]
  exact ⟨rfl, rfl⟩

/-- A key that is not `lock:` before the other, nor the other way round, is left alone. -/
theorem sameAttempts_limit {k : GoString} (r : RedisStore) (now : Time) {call : LimitCall}
    (apart : call.key ≠ k) (below : k ≠ str "lock:" ++ call.key)
    (above : call.key ≠ str "lock:" ++ k) : SameAttempts k r (r.limit now call).2 := by
  have cancel : ∀ {a b : GoString}, rateLimitKey a = rateLimitKey b → a = b :=
    fun same => List.append_cancel_left same
  refine sameAttempts_of_get (r.get_limit now call ?_ ?_) (r.get_limit now call ?_ ?_)
  · exact fun same => apart (cancel same).symm
  · rw [RedisKey.rateLimitLockKey_eq]
    exact fun same => below (cancel same)
  · rw [RedisKey.rateLimitLockKey_eq]
    exact fun same => above (cancel same).symm
  · intro same
    exact apart (List.append_cancel_left same).symm

theorem getAttempts_after_increment (k : GoString) :
    (newRedisStore.limit 0 (.incrementAttempts k minute)).2.getAttempts k 0 = some 1 := by
  have gone : newRedisStore.live (rateLimitKey k) 0 = none := live_of_get_none rfl 0
  have long : second ≤ minute := by decide
  have opened := incrementAttempts_of_not_live long gone
  simp only [limit, opened]
  have here : (newRedisStore.setKey (rateLimitKey k)
      { value := .number 1, expireAt := some (0 + ttlSeconds minute * second.toInt) }).live
        (rateLimitKey k) 0 =
      some { value := .number 1, expireAt := some (0 + ttlSeconds minute * second.toInt) } :=
    live_of_unexpired ((get_setKey ..).trans (if_pos rfl)) (by decide +kernel)
  rw [getAttempts, here]
  rfl

theorem isLocked_after_lock (k : GoString) :
    (newRedisStore.limit 0 (.lock k minute)).2.isLocked k 0 = true := by
  have here : (newRedisStore.limit 0 (.lock k minute)).2.live (rateLimitLockKey k) 0 =
      some { value := .text (str "locked"), expireAt := some 60000000000 } :=
    live_of_unexpired ((get_setKey ..).trans (if_pos rfl)) (by decide)
  rw [isLocked, ttl, here]
  decide

theorem getAttempts_of_get_none {k : GoString} {r : RedisStore}
    (gone : r.keys.get (rateLimitKey k) = none) (t : Time) : r.getAttempts k t = some 0 := by
  rw [getAttempts, live_of_get_none gone]

theorem isLocked_of_get_none {k : GoString} {r : RedisStore}
    (gone : r.keys.get (rateLimitLockKey k) = none) (t : Time) : r.isLocked k t = false := by
  rw [isLocked, ttl, live_of_get_none gone]
  rfl

/-- Resetting a key ends the counter of the key with `lock:` in front. -/
theorem reset_ends_counter (k : GoString) :
    ¬ SameAttempts (str "lock:" ++ k)
      (newRedisStore.limit 0 (.incrementAttempts (str "lock:" ++ k) minute)).2
      ((newRedisStore.limit 0 (.incrementAttempts (str "lock:" ++ k) minute)).2.limit 0
        (.resetAttempts k)).2 := by
  intro same
  have counted := (same 0).1
  rw [getAttempts_after_increment, getAttempts_of_get_none] at counted
  · cases counted
  · rw [← RedisKey.rateLimitLockKey_eq]
    exact (get_delKey ..).trans (if_pos rfl)

/-- Resetting a key that starts with `lock:` ends the lock of the rest. -/
theorem reset_ends_lock (k : GoString) :
    ¬ SameAttempts k (newRedisStore.limit 0 (.lock k minute)).2
      ((newRedisStore.limit 0 (.lock k minute)).2.limit 0
        (.resetAttempts (str "lock:" ++ k))).2 := by
  intro same
  have locked := (same 0).2
  rw [isLocked_after_lock, isLocked_of_get_none] at locked
  · cases locked
  · refine (get_delKey ..).trans ?_
    split
    · rfl
    · exact (get_delKey ..).trans (if_pos (RedisKey.rateLimitLockKey_eq k))

/-- The calls that change attempts. -/
def Changes (k : GoString) (call : LimitCall) : Prop :=
  (∃ window, call = .incrementAttempts k window) ∨ call = .resetAttempts k ∨
    ∃ duration, call = .lock k duration

theorem Changes.key_eq {k : GoString} {call : LimitCall} (changes : Changes k call) :
    call.key = k := by
  rcases changes with ⟨window, rfl⟩ | rfl | ⟨duration, rfl⟩
  · rfl
  · rfl
  · rfl

/-- **How far the objects of the store are apart.**  Two keys are equal only for one object,
except for the two collisions.  The attempts of `k'` survive every call on `k`, from every
reachable state, exactly when neither key is the other one behind `lock:`.  And a call changes
no key but those of its own objects, as long as a session it touches reads back under its own
ID. -/
theorem others_untouched_iff (a b : RedisKey) (k k' : GoString) (apart : k ≠ k') :
    ((a.render = b.render → a = b) ↔ ¬ (RedisKey.Collide a b ∨ RedisKey.Collide b a)) ∧
    ((∀ r, Reachable r → ∀ call, Changes k call → ∀ now,
        SameAttempts k' r (r.limit now call).2) ↔
      k' ≠ str "lock:" ++ k ∧ k ≠ str "lock:" ++ k') ∧
    (∀ (r : RedisStore) (call : LimitCall) (now : Time),
      a.render ≠ rateLimitKey call.key → a.render ≠ rateLimitLockKey call.key →
        (r.limit now call).2.keys.get a.render = r.keys.get a.render) ∧
    (∀ (r r' : RedisStore) (call : RecordCall) (fresh : Uuid) (now : Time) (ls : List Moment)
        (reply : RecordReply),
      play answer (script call fresh now) r ls = some (reply, r') → r.NamedByID call →
      (∀ own, r.Owns fresh call own →
        a ≠ own ∧ ¬ RedisKey.Collide a own ∧ ¬ RedisKey.Collide own a) →
      r'.keys.get a.render = r.keys.get a.render) := by
  refine ⟨?_, ⟨fun kept => ⟨?_, ?_⟩, ?_⟩, ?_, ?_⟩
  · rw [RedisKey.render_eq_iff]
    constructor
    · rintro one (collide | collide)
      · exact collide.ne (one (.inr (.inl collide)))
      · exact collide.ne (one (.inr (.inr collide))).symm
    · exact fun none_ same => same.resolve_right none_
  · rintro rfl
    exact reset_ends_counter k
      (kept _ (reachable_limit _ 0) (.resetAttempts k) (.inr (.inl rfl)) 0)
  · rintro rfl
    exact reset_ends_lock k'
      (kept _ (reachable_limit _ 0) (.resetAttempts _) (.inr (.inl rfl)) 0)
  · rintro ⟨below, above⟩ r - call changes now
    have same := changes.key_eq
    exact r.sameAttempts_limit now (same ▸ apart) (same ▸ below) (same ▸ above)
  · exact fun r call now counter lock => r.get_limit now call counter lock
  · intro r r' call fresh now ls reply played named others
    refine get_of_play played named fun own owned same => ?_
    obtain ⟨differ, front, back⟩ := others own owned
    rcases (RedisKey.render_eq_iff a own).1 same with one | collide | collide
    · exact differ one
    · exact front collide
    · exact back collide

/-- Two hosts: a reset of one leaves the lock of the other. -/
theorem others_untouched_hosts :
    let r := (newRedisStore.limit 0 (.lock (str "host2|ana") minute)).2
    SameAttempts (str "host2|ana") r (r.limit 5 (.resetAttempts (str "host1|ana"))).2 := by
  intro r
  have untouched := (others_untouched_iff (.rateLimit (str "host1|ana"))
    (.rateLimitLock (str "host1|ana")) (str "host1|ana") (str "host2|ana") (by decide)).2.1
  exact untouched.2 (by decide) r (reachable_limit _ 0) _ (.inr (.inl rfl)) 5

/-- A reset of `ana` ends the counter of `lock:ana`; a reset of `lock:ana` ends the lock of
`ana`; and a session with the ID `tunnels:s1` takes the place of the tunnels of `s1`. -/
theorem others_touched :
    let counted := (newRedisStore.limit 0 (.incrementAttempts (str "lock:ana") minute)).2
    let locked := (newRedisStore.limit 0 (.lock (str "ana") minute)).2
    let clash : Session := { sampleSession with id := str "tunnels:s1" }
    counted.getAttempts (str "lock:ana") 1 = some 1 ∧
    (counted.limit 1 (.resetAttempts (str "ana"))).2.getAttempts (str "lock:ana") 1 = some 0 ∧
    locked.isLocked (str "ana") 1 = true ∧
    (locked.limit 1 (.resetAttempts (str "lock:ana"))).2.isLocked (str "ana") 1 = false ∧
    ((exec step newRedisStore [.record (.createTunnel sampleTunnel) default 0 [⟨0, []⟩]]).map
      fun r => r.members (sessionTunnelsKey (str "s1"))) = some {str "t1"} ∧
    ((exec step newRedisStore [.record (.createTunnel sampleTunnel) default 0 [⟨0, []⟩],
        .record (.createSession clash) default 1 [⟨1, []⟩]]).map
      fun r => r.members (sessionTunnelsKey (str "s1"))) = some ∅ := by
  decide +kernel

end RedisStore

end SentinelOps.Store
