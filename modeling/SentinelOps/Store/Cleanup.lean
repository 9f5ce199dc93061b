/-
# Store.Cleanup — which sessions a cleanup expires, by the history of the store

`CleanupInactiveSessions` looks at one field, `LastActive`.  What the field stands for is in the
history: the latest create, update or touch of the session that returned no error.
`lastActive_eq_latest` says that the two agree in every state a run reaches.  It looks at the
order of the calls and not at their clock readings, so it needs no clock that never goes back;
with such a clock the last activity of a run is also the latest in time.

`cleanup_loop` is the other half: the loop expires the entries one by one and counts them, in
whatever order the map is iterated, and comes out where `cleanupInactiveSessions` says.
-/
import Mathlib.Algebra.BigOperators.Finprod
import SentinelOps.Store.MemoryRecords

namespace SentinelOps.Store

open Theory GoText Schedule
open GoTime (Time Duration)

set_option autoImplicit false

/-! ## One session -/

namespace Session

theorem inactive_iff {sess : Session} {cutoff : Time} :
    sess.inactive cutoff = true ↔ sess.status = str "active" ∧ sess.lastActive < cutoff := by
  simp [inactive, Theory.GoTime.Time.before]

theorem cleaned_of_inactive {sess : Session} {cutoff : Time} (now : Time)
    (idle : sess.inactive cutoff = true) :
    sess.cleaned cutoff now = { sess with status := str "expired", closedAt := some now } :=
  if_pos idle

theorem cleaned_of_not_inactive {sess : Session} {cutoff : Time} (now : Time)
    (busy : ¬ sess.inactive cutoff = true) : sess.cleaned cutoff now = sess :=
  if_neg busy

theorem expired_ne_active : str "expired" ≠ str "active" := by decide

/-- A cleaned session is not cleaned again. -/
theorem not_inactive_cleaned (sess : Session) (cutoff now : Time) :
    ¬ (sess.cleaned cutoff now).inactive cutoff = true := by
  by_cases idle : sess.inactive cutoff = true
  · rw [cleaned_of_inactive now idle, inactive_iff]
    exact fun again => expired_ne_active again.1
  · rwa [cleaned_of_not_inactive now idle]

theorem cleaned_eq_self_iff {sess : Session} {cutoff now : Time} :
    sess.cleaned cutoff now = sess ↔ ¬ sess.inactive cutoff = true := by
  refine ⟨fun same idle => ?_, cleaned_of_not_inactive now⟩
  have again := not_inactive_cleaned sess cutoff now
  rw [same] at again
  exact again idle

end Session

/-! ## The loop -/

namespace MemoryRecords

/-- One turn of the loop, at the entry of `id`, as the entry is when the turn comes. -/
def cleanupTurn (cutoff now : Time) (acc : Nat × Table Session.id) (id : GoString) :
    Nat × Table Session.id :=
  match acc.2.get id with
  | none => acc
  | some sess =>
      if sess.inactive cutoff then
        (acc.1 + 1, acc.2.put { sess with status := str "expired", closedAt := some now })
      else acc

variable {cutoff now : Time}

theorem cleanupTurn_fst (n : Nat) (t : Table Session.id) (id : GoString) :
    (cleanupTurn cutoff now (n, t) id).1 =
      n + ((t.get id).any fun sess => sess.inactive cutoff).toNat := by
  unfold cleanupTurn
  cases t.get id with
  | none => rfl
  | some sess =>
      dsimp only [Option.any_some]
      cases sess.inactive cutoff <;> rfl

theorem get_cleanupTurn (n : Nat) (t : Table Session.id) (id k : GoString) :
    (cleanupTurn cutoff now (n, t) id).2.get k =
      if k = id then (t.get k).map (Session.cleaned cutoff now) else t.get k := by
  unfold cleanupTurn
  dsimp only
  cases found : t.get id with
  | none =>
      dsimp only
      split
      · rename_i same
        rw [same, found, Option.map_none]
      · rfl
  | some sess =>
      dsimp only
      obtain rfl : sess.id = id := Table.key_of_get found
      by_cases idle : sess.inactive cutoff = true
      · rw [← Session.cleaned_of_inactive now idle, if_pos idle, Table.get_put, Session.cleaned_id]
        split
        · rename_i same
          rw [same, found, Option.map_some]
        · rfl
      · rw [if_neg idle]
        split
        · rename_i same
          rw [same, found, Option.map_some, Session.cleaned_of_not_inactive now idle]
        · rfl

/-- The loop from any state: it visits each entry once, so every turn finds its entry as it was
before the loop. -/
theorem cleanupTurns (ids : List GoString) (distinct : ids.Nodup) (n : Nat)
    (t : Table Session.id) :
    (ids.foldl (cleanupTurn cutoff now) (n, t)).1 =
        n + (ids.filter fun id => (t.get id).any fun sess => sess.inactive cutoff).length ∧
      ∀ k, (ids.foldl (cleanupTurn cutoff now) (n, t)).2.get k =
        if k ∈ ids then (t.get k).map (Session.cleaned cutoff now) else t.get k := by
  induction ids generalizing n t with
  | nil => exact ⟨rfl, fun k => (if_neg List.not_mem_nil).symm⟩
  | cons id ids ih =>
      obtain ⟨fresh, distinct⟩ := List.nodup_cons.1 distinct
      obtain ⟨counted, read⟩ :=
        ih distinct (cleanupTurn cutoff now (n, t) id).1 (cleanupTurn cutoff now (n, t) id).2
      have apart : ∀ k ∈ ids, (cleanupTurn cutoff now (n, t) id).2.get k = t.get k := by
        intro k member
        have different : k ≠ id := fun same => fresh (same ▸ member)
        rw [get_cleanupTurn, if_neg different]
      rw [List.foldl_cons]
      constructor
      · rw [counted, cleanupTurn_fst, List.filter_congr fun k member => by rw [apart k member],
          List.filter_cons]
        cases (t.get id).any fun sess => sess.inactive cutoff with
        | false => simp
        | true => simp [Nat.add_assoc, Nat.add_comm 1]
      · intro k
        rw [read, get_cleanupTurn]
        by_cases same : k = id
        · rw [if_neg (same ▸ fresh), if_pos same, if_pos (same ▸ List.mem_cons_self)]
        · simp [same]

/-- **The loop of `CleanupInactiveSessions` in any order of the map.** -/
theorem cleanup_loop (m : MemoryRecords) (maxInactive : Duration) (cutoffAt now : Time)
    (order : List Session) (lists : m.sessions.Lists order) :
    (order.map Session.id).foldl (cleanupTurn (cutoffAt.add (-maxInactive)) now)
        (0, m.sessions) =
      ((m.cleanupInactiveSessions maxInactive cutoffAt now order).1,
        (m.cleanupInactiveSessions maxInactive cutoffAt now order).2.sessions) := by
  obtain ⟨counted, read⟩ := @cleanupTurns (cutoffAt.add (-maxInactive)) now
    (order.map Session.id) lists.nodup_keys 0 m.sessions
  refine Prod.ext ?_ (Table.ext_get fun k => ?_)
  · rw [counted, List.filter_map, List.length_map, Nat.zero_add]
    refine congrArg List.length (List.filter_congr fun sess listed => ?_)
    rw [Function.comp_apply, (lists.mem_iff sess).1 listed, Option.any_some]
  · rw [read, cleanupInactiveSessions, Table.get_amend]
    split
    · rfl
    · rename_i missing
      cases found : m.sessions.get k with
      | none => rfl
      | some sess =>
          have named : sess.id = k := Table.key_of_get found
          refine absurd (List.mem_map.2 ⟨sess, (lists.mem_iff sess).2 ?_, named⟩) missing
          rw [named, found]

/-- Three sessions, met in another order than they were created in; the second was active last. -/
theorem cleanup_loop_three :
    let named (id : GoString) : Session := { sampleSession with id }
    let create (m : Memory) (id : GoString) (now : Time) : Memory :=
      (m.apply ⟨default, now, [], []⟩ (.record (.createSession (named id)))).2
    let m := create (create (create newMemory (str "s1") 1) (str "s2") 9) (str "s3") 2
    let order := [(named (str "s3")).stamped default 2, (named (str "s1")).stamped default 1,
      (named (str "s2")).stamped default 9]
    let out := (order.map Session.id).foldl (cleanupTurn 7 10) (0, m.records.sessions)
    out.1 = 2 ∧ ([str "s1", str "s2", str "s3"].map fun id => (out.2.get id).map Session.status) =
      [some (str "expired"), some (str "active"), some (str "expired")] := by
  intro named create m order out
  have looped : out = _ := cleanup_loop m.records 3 10 10 order (by decide)
  rw [looped]
  decide

end MemoryRecords

/-! ## The history -/

/-- The session that a call makes active when it returns no error. -/
def RecordCall.activates (reading : MemoryRecords.Reading) : RecordCall → Option GoString
  | .createSession sess => some (identified sess.id reading.fresh)
  | .updateSession sess => some sess.id
  | .touchSession id => some id
  | _ => none

/-- The time of the last activity of a session. -/
def latest (events : List (GoString × Time)) (id : GoString) : Option Time :=
  (events.reverse.find? fun event => event.1 = id).map Prod.snd

theorem latest_append_toList (events : List (GoString × Time)) (last : Option (GoString × Time))
    (id : GoString) :
    latest (events ++ last.toList) id =
      ((last.filter fun event => event.1 = id).map Prod.snd).or (latest events id) := by
  unfold latest
  cases last with
  | none => simp
  | some event => by_cases same : event.1 = id <;> simp [same, Option.filter_some]

namespace Memory

/-- The activity of one call: a session and the time. -/
def activity (m : Memory) (l : MemoryRecords.Reading × MemoryCall) : Option (GoString × Time) :=
  match l.2 with
  | .record call =>
      if (m.records.apply l.1 call).1 = .done then
        (call.activates l.1).map fun id => (id, l.1.now)
      else none
  | _ => none

/-- The activities of a run, in their order. -/
def activities (m : Memory) : List (MemoryRecords.Reading × MemoryCall) → List (GoString × Time)
  | [] => []
  | l :: ls => (m.activity l).toList ++ ((m.step l).map fun m' => m'.activities ls).getD []

theorem activities_concat {m m' : Memory} {ls : List (MemoryRecords.Reading × MemoryCall)}
    (ran : exec step m ls = some m') (l : MemoryRecords.Reading × MemoryCall) :
    m.activities (ls ++ [l]) = m.activities ls ++ (m'.activity l).toList := by
  induction ls generalizing m with
  | nil =>
      cases ran
      cases moved : m'.step l <;> simp [activities, moved]
  | cons first ls ih =>
      obtain ⟨middle, moved, rest⟩ := exec_cons_eq_some.1 ran
      simp [activities, moved, ih rest]

end Memory

namespace MemoryRecords

theorem lastActive_put {t : Table Session.id} {new sess : Session} {now : Time} {id : GoString}
    (stamp : new.lastActive = now) (found : (t.put new).get id = some sess) :
    (some new.id = some id ∧ sess.lastActive = now) ∨
      (some new.id ≠ some id ∧ t.get id = some sess) := by
  rw [Table.get_put] at found
  split at found
  · rename_i same
    cases found
    exact .inl ⟨congrArg some same.symm, stamp⟩
  · rename_i different
    exact .inr ⟨fun same => different (Option.some.inj same).symm, found⟩

/-- What a call can do to `LastActive`: a session that is stored after it was either made active
by it, now, or was stored before with the same value. -/
theorem lastActive_apply {m : MemoryRecords} {reading : Reading} {call : RecordCall}
    {id : GoString} {sess : Session}
    (found : (m.apply reading call).2.sessions.get id = some sess) :
    ((m.apply reading call).1 = .done ∧ call.activates reading = some id ∧
        sess.lastActive = reading.now) ∨
      (¬ ((m.apply reading call).1 = .done ∧ call.activates reading = some id) ∧
        ∃ old, m.sessions.get id = some old ∧ old.lastActive = sess.lastActive) := by
  cases call with
  | createSession created =>
      simp only [apply, createSession] at found ⊢
      cases taken : m.sessions.get (identified created.id reading.fresh) with
      | some other =>
          rw [taken] at found
          exact .inr ⟨fun both => (by cases both.1), sess, found, rfl⟩
      | none =>
          rw [taken] at found
          change (m.sessions.put (created.stamped reading.fresh reading.now)).get id = _ at found
          rcases lastActive_put rfl found with ⟨same, stamped⟩ | ⟨different, found⟩
          · exact .inl ⟨rfl, same, stamped⟩
          · exact .inr ⟨fun both => different both.2, sess, found, rfl⟩
  | updateSession updated =>
      simp only [apply, updateSession] at found ⊢
      cases stored : m.sessions.get updated.id with
      | none =>
          rw [stored] at found
          exact .inr ⟨fun both => (by cases both.1), sess, found, rfl⟩
      | some old =>
          rw [stored] at found
          change (m.sessions.put (updated.touched reading.now)).get id = _ at found
          rcases lastActive_put rfl found with ⟨same, stamped⟩ | ⟨different, found⟩
          · exact .inl ⟨rfl, same, stamped⟩
          · exact .inr ⟨fun both => different both.2, sess, found, rfl⟩
  | touchSession touched =>
      simp only [apply, touchSession] at found ⊢
      cases stored : m.sessions.get touched with
      | none =>
          rw [stored] at found
          exact .inr ⟨fun both => (by cases both.1), sess, found, rfl⟩
      | some old =>
          rw [stored] at found
          change (m.sessions.put (old.touched reading.now)).get id = _ at found
          have named : old.id = touched := Table.key_of_get stored
          rw [RecordCall.activates, ← named]
          rcases lastActive_put rfl found with ⟨same, stamped⟩ | ⟨different, found⟩
          · exact .inl ⟨rfl, same, stamped⟩
          · exact .inr ⟨fun both => different both.2, sess, found, rfl⟩
  | deleteSession deleted =>
      refine .inr ⟨fun both => (by cases both.2), sess, ?_, rfl⟩
      simp only [apply, deleteSession] at found
      split at found
      · exact found
      · change (m.sessions.remove deleted).get id = _ at found
        rw [Table.get_remove] at found
        split at found
        · cases found
        · exact found
  | createTunnel tunnel =>
      refine .inr ⟨fun both => (by cases both.2), sess, ?_, rfl⟩
      simp only [apply, createTunnel] at found
      split at found <;> exact found
  | updateTunnel tunnel =>
      refine .inr ⟨fun both => (by cases both.2), sess, ?_, rfl⟩
      simp only [apply, updateTunnel] at found
      split at found <;> exact found
  | deleteTunnel tunnel =>
      refine .inr ⟨fun both => (by cases both.2), sess, ?_, rfl⟩
      simp only [apply, deleteTunnel] at found
      split at found <;> exact found
  | getSession _ => exact .inr ⟨fun both => (by cases both.2), sess, found, rfl⟩
  | listSessions _ => exact .inr ⟨fun both => (by cases both.2), sess, found, rfl⟩
  | countActiveSessions _ => exact .inr ⟨fun both => (by cases both.2), sess, found, rfl⟩
  | getTunnel _ => exact .inr ⟨fun both => (by cases both.2), sess, found, rfl⟩
  | listTunnels _ => exact .inr ⟨fun both => (by cases both.2), sess, found, rfl⟩
  | deleteTunnelsBySession _ => exact .inr ⟨fun both => (by cases both.2), sess, found, rfl⟩

end MemoryRecords

namespace Memory

/-- What one call of the store can do to `LastActive`. -/
theorem lastActive_step {m m' : Memory} {l : MemoryRecords.Reading × MemoryCall} {id : GoString}
    {sess : Session} (moved : m.step l = some m')
    (found : m'.records.sessions.get id = some sess) :
    m.activity l = some (id, sess.lastActive) ∨
      (∀ event, m.activity l = some event → event.1 ≠ id) ∧
        ∃ old, m.records.sessions.get id = some old ∧ old.lastActive = sess.lastActive := by
  obtain ⟨reading, call⟩ := l
  obtain ⟨-, written⟩ := Option.ite_none_right_eq_some.1 moved
  cases written
  cases call with
  | record call =>
      rcases MemoryRecords.lastActive_apply found with ⟨done, named, stamped⟩ | ⟨other, kept⟩
      · refine .inl ?_
        simp only [activity, done, if_true, named, Option.map_some, stamped]
      · refine .inr ⟨fun event active same => other ?_, kept⟩
        obtain ⟨done, active⟩ := Option.ite_none_right_eq_some.1 active
        obtain ⟨made, named, rfl⟩ := Option.map_eq_some_iff.1 active
        exact ⟨done, named.trans (congrArg some same)⟩
  | cleanupInactiveSessions maxInactive cutoffAt =>
      refine .inr ⟨fun event active => (by cases active), ?_⟩
      change (m.records.sessions.amend _ (Session.cleaned_id _ _)).get id = some sess at found
      rw [Table.get_amend, Option.map_eq_some_iff] at found
      obtain ⟨old, stored, rfl⟩ := found
      refine ⟨old, stored, ?_⟩
      unfold Session.cleaned
      split <;> rfl
  | limit op => exact .inr ⟨fun event active => (by cases active), sess, found, rfl⟩
  | appendAuditLog entry => exact .inr ⟨fun event active => (by cases active), sess, found, rfl⟩
  | queryAuditLog filter => exact .inr ⟨fun event active => (by cases active), sess, found, rfl⟩
  | cleanupOldAuditLogs maxAge =>
      exact .inr ⟨fun event active => (by cases active), sess, found, rfl⟩
  | health => exact .inr ⟨fun event active => (by cases active), sess, found, rfl⟩
  | close => exact .inr ⟨fun event active => (by cases active), sess, found, rfl⟩

/-- **`LastActive` is the time of the latest activity**, for every stored session in every state
that a run reaches. -/
theorem lastActive_eq_latest {ls : List (MemoryRecords.Reading × MemoryCall)} {m : Memory}
    (ran : exec step newMemory ls = some m) {id : GoString} {sess : Session}
    (found : m.records.sessions.get id = some sess) :
    latest (newMemory.activities ls) id = some sess.lastActive := by
  -- from the right: the last call decides, or leaves the question to the calls before it
  induction ls using List.reverseRecOn generalizing m sess with
  | nil =>
      cases ran
      cases found
  | append_singleton ls l ih =>
      obtain ⟨before, earlier, moved⟩ := exec_append_eq_some.1 ran
      obtain ⟨after, moved, same⟩ := exec_cons_eq_some.1 moved
      cases same
      rw [activities_concat earlier, latest_append_toList]
      rcases lastActive_step moved found with active | ⟨other, old, stored, kept⟩
      · simp [active, Option.filter_some]
      · have none_ : (before.activity l).filter (fun event => event.1 = id) = none := by
          rw [Option.filter_eq_none_iff]
          exact fun event active same => other event active (of_decide_eq_true same)
        rw [none_, ih earlier stored, kept]
        rfl

end Memory

/-! ## The count -/

namespace MemoryRecords

/-- The active sessions of all usernames together. -/
theorem sum_countActiveSessions (order : List Session) (usernames : Finset GoString)
    (every : ∀ sess ∈ order, sess.username ∈ usernames) :
    ∑ username ∈ usernames, (countActiveSessions username order : Int) =
      (order.filter fun sess => sess.status == str "active").length := by
  induction order with
  | nil => simp [countActiveSessions]
  | cons sess order ih =>
      have split : ∀ username, (countActiveSessions username (sess :: order) : Int) =
          (if sess.username = username then
            if sess.status == str "active" then 1 else 0 else 0) +
            countActiveSessions username order := by
        intro username
        unfold countActiveSessions
        rw [List.filter_cons]
        by_cases same : sess.username = username <;>
          cases active : sess.status == str "active" <;> simp [same, add_comm]
      simp only [split, Finset.sum_add_distrib,
        ih fun other member => every other (List.mem_cons_of_mem sess member)]
      rw [Finset.sum_ite_eq, if_pos (every sess List.mem_cons_self), List.filter_cons]
      split <;> simp [add_comm]

theorem active_cleaned (sess : Session) (cutoff now : Time) :
    ((sess.cleaned cutoff now).status == str "active") =
      (sess.status == str "active" && !sess.inactive cutoff) := by
  by_cases idle : sess.inactive cutoff = true
  · rw [Session.cleaned_of_inactive now idle, idle, Bool.not_true, Bool.and_false]
    exact beq_false_of_ne Session.expired_ne_active
  · rw [Session.cleaned_of_not_inactive now idle, Bool.eq_false_iff.2 idle, Bool.not_false,
      Bool.and_true]

/-- The cleaned sessions are those that are no longer active. -/
theorem length_active_cleaned (order : List Session) (cutoff now : Time) :
    ((order.map (Session.cleaned cutoff now)).filter
        fun sess => sess.status == str "active").length +
      (order.filter fun sess => sess.inactive cutoff).length =
      (order.filter fun sess => sess.status == str "active").length := by
  induction order with
  | nil => rfl
  | cons sess order ih =>
      rw [List.map_cons, List.filter_cons, List.filter_cons, List.filter_cons, active_cleaned]
      cases idle : sess.inactive cutoff with
      | true =>
          have active := beq_iff_eq.2 (Session.inactive_iff.1 idle).1
          simp only [active, Bool.not_true, Bool.and_false, if_true, List.length_cons]
          simpa using by omega
      | false =>
          cases active : sess.status == str "active" with
          | true => simpa using by omega
          | false => simpa using ih

/-- None is left to clean. -/
theorem length_inactive_cleaned {t : Table Session.id} {cutoff now : Time} {order : List Session}
    (lists : (t.amend (Session.cleaned cutoff now) (Session.cleaned_id _ _)).Lists order) :
    (order.filter fun sess => sess.inactive cutoff).length = 0 := by
  refine List.length_eq_zero_iff.2 (List.filter_eq_nil_iff.2 fun sess listed => ?_)
  have found := (lists.mem_iff sess).1 listed
  rw [Table.get_amend, Option.map_eq_some_iff] at found
  obtain ⟨old, -, rfl⟩ := found
  exact Session.not_inactive_cleaned old cutoff now

theorem amend_cleaned (t : Table Session.id) (cutoff now : Time) :
    (t.amend (Session.cleaned cutoff now) (Session.cleaned_id _ _)).amend
        (Session.cleaned cutoff now) (Session.cleaned_id _ _) =
      t.amend (Session.cleaned cutoff now) (Session.cleaned_id _ _) := by
  refine Table.ext_get fun id => ?_
  rw [Table.get_amend, Table.get_amend, Option.map_map]
  congr 1
  funext sess
  exact Session.cleaned_of_not_inactive now (Session.not_inactive_cleaned sess cutoff now)

end MemoryRecords

/-! ## The cleanup -/

namespace Memory

/-- Active, and last active before the cutoff, as the history of the store has it. -/
def Stale (events : List (GoString × Time)) (cutoff : Time) (sess : Session) : Prop :=
  sess.status = str "active" ∧ ∃ time, latest events sess.id = some time ∧ time < cutoff

/-- What a cleanup at `t` of the sessions inactive for `maxInactive` does to the store `m` with
the history `events`, when it returns `n`. -/
structure Cleanup (events : List (GoString × Time)) (maxInactive : Duration) (t : Time)
    (m : Memory) (n : Nat) (m' : Memory) : Prop where
  expired : ∀ id sess, m.records.sessions.get id = some sess →
    Stale events (t - maxInactive.toInt) sess →
      m'.records.sessions.get id =
        some { sess with status := str "expired", closedAt := some t }
  kept : ∀ id sess, m.records.sessions.get id = some sess →
    ¬ Stale events (t - maxInactive.toInt) sess → m'.records.sessions.get id = some sess
  absent : ∀ id, m.records.sessions.get id = none → m'.records.sessions.get id = none
  counted : ∀ order, m.records.sessions.Lists order →
    (order.filter fun sess => m'.records.sessions.get sess.id ≠ some sess).length = n
  dropped : ∀ order order', m.records.sessions.Lists order → m'.records.sessions.Lists order' →
    ∑ᶠ username, ((MemoryRecords.countActiveSessions username order : Int) -
      MemoryRecords.countActiveSessions username order') = n
  tunnels : m'.records.tunnels = m.records.tunnels
  auditLog : m'.auditLog = m.auditLog
  limits : m'.limits = m.limits

theorem apply_cleanup (m : Memory) (reading : MemoryRecords.Reading) (maxInactive : Duration)
    (cutoffAt : Time) :
    m.apply reading (.cleanupInactiveSessions maxInactive cutoffAt) =
      (.removed (reading.sessionOrder.filter
          fun sess => sess.inactive (cutoffAt.add (-maxInactive))).length,
        { m with records := { m.records with
          sessions := m.records.sessions.amend
            (Session.cleaned (cutoffAt.add (-maxInactive)) reading.now)
            (Session.cleaned_id _ _) } }) :=
  rfl

/-- The field that the loop compares and the history that it stands for. -/
theorem stale_iff_inactive {ls : List (MemoryRecords.Reading × MemoryCall)} {m : Memory}
    (ran : exec step newMemory ls = some m) {id : GoString} {sess : Session}
    (found : m.records.sessions.get id = some sess) (cutoff : Time) :
    Stale (newMemory.activities ls) cutoff sess ↔ sess.inactive cutoff = true := by
  have named : sess.id = id := Table.key_of_get found
  rw [Stale, named, lastActive_eq_latest ran found, Session.inactive_iff]
  refine and_congr_right fun _ => ⟨?_, fun early => ⟨_, rfl, early⟩⟩
  rintro ⟨time, same, early⟩
  cases same
  exact early

/-- The drop of the counts, over the usernames of both readings of the map. -/
theorem finsum_dropped {t : Table Session.id} {cutoff now : Time} {order order' : List Session}
    (lists : t.Lists order)
    (lists' : (t.amend (Session.cleaned cutoff now) (Session.cleaned_id _ _)).Lists order') :
    ∑ᶠ username, ((MemoryRecords.countActiveSessions username order : Int) -
      MemoryRecords.countActiveSessions username order') =
      (order.filter fun sess => sess.inactive cutoff).length := by
  have perm : order'.Perm (order.map (Session.cleaned cutoff now)) :=
    lists'.perm (lists.amend _ _)
  let usernames := ((order ++ order').map Session.username).toFinset
  have known : ∀ sess ∈ order ++ order', sess.username ∈ usernames :=
    fun sess listed => List.mem_toFinset.2 (List.mem_map_of_mem listed)
  have unknown : ∀ username, username ∉ usernames → ∀ items : List Session,
      (∀ sess ∈ items, sess ∈ order ++ order') →
        MemoryRecords.countActiveSessions username items = 0 := by
    intro username missing items inside
    refine List.length_eq_zero_iff.2 (List.filter_eq_nil_iff.2 fun sess listed both => missing ?_)
    rw [Bool.and_eq_true, beq_iff_eq] at both
    exact both.1 ▸ known sess (inside sess listed)
  rw [finsum_eq_sum_of_support_subset (s := usernames), Finset.sum_sub_distrib,
    MemoryRecords.sum_countActiveSessions order usernames
      fun sess listed => known sess (List.mem_append_left _ listed),
    MemoryRecords.sum_countActiveSessions order' usernames
      fun sess listed => known sess (List.mem_append_right _ listed),
    (perm.filter _).length_eq, ← MemoryRecords.length_active_cleaned order cutoff now]
  · omega
  · intro username changed
    by_contra missing
    refine changed ?_
    show (_ : Int) - _ = 0
    rw [unknown username missing order fun _ => List.mem_append_left _,
      unknown username missing order' fun _ => List.mem_append_right _, sub_self]

/-- **A cleanup expires exactly the stale sessions.**  After any run, a cleanup that reads the
time `t` sets the status and the closing time of the active sessions whose latest create, update
or touch was before `t - maxInactive`, and of no other; it returns how many there were, which is
by how much the active counts of all usernames drop together; and a second cleanup at `t` does
nothing. -/
theorem cleanup_expires_stale (ls : List (MemoryRecords.Reading × MemoryCall)) (m : Memory)
    (ran : exec step newMemory ls = some m) (maxInactive : Duration) (nonneg : 0 ≤ maxInactive)
    (reading : MemoryRecords.Reading) (fits : reading.Fits m.records) :
    ∃ n m', m.apply reading (.cleanupInactiveSessions maxInactive reading.now) =
        (.removed n, m') ∧
      Cleanup (newMemory.activities ls) maxInactive reading.now m n m' ∧
      ∀ again : MemoryRecords.Reading, again.now = reading.now → again.Fits m'.records →
        m'.apply again (.cleanupInactiveSessions maxInactive again.now) = (.removed 0, m') := by
  have negatable : maxInactive ≠ Int64.minValue := by
    rintro rfl
    exact absurd nonneg (by decide)
  have cutoff : reading.now.add (-maxInactive) = reading.now - maxInactive.toInt :=
    Theory.GoTime.Time.add_neg negatable
  have stale : ∀ {id sess}, m.records.sessions.get id = some sess →
      (Stale (newMemory.activities ls) (reading.now - maxInactive.toInt) sess ↔
        sess.inactive (reading.now.add (-maxInactive)) = true) := by
    intro id sess found
    rw [stale_iff_inactive ran found, cutoff]
  refine ⟨_, _, apply_cleanup .., ⟨?_, ?_, ?_, ?_, ?_, rfl, rfl, rfl⟩, ?_⟩
  · intro id sess found idle
    rw [Table.get_amend, found, Option.map_some,
      Session.cleaned_of_inactive _ ((stale found).1 idle)]
  · intro id sess found busy
    rw [Table.get_amend, found, Option.map_some,
      Session.cleaned_of_not_inactive _ fun idle => busy ((stale found).2 idle)]
  · intro id missing
    rw [Table.get_amend, missing, Option.map_none]
  · intro order lists
    rw [← ((fits.1.perm lists).filter _).length_eq]
    refine congrArg List.length (List.filter_congr fun sess listed => ?_)
    rw [Table.get_amend, (fits.1.mem_iff sess).1 listed, Option.map_some]
    simp [Session.cleaned_eq_self_iff]
  · intro order order' lists lists'
    rw [finsum_dropped lists lists']
    exact congrArg Nat.cast ((lists.perm fits.1).filter _).length_eq
  · intro again same fits'
    rw [apply_cleanup, same, MemoryRecords.length_inactive_cleaned fits'.1,
      MemoryRecords.amend_cleaned]

/-- A session that was touched at 5 is expired at 10 when three nanoseconds are too long. -/
theorem cleanup_expires_idle :
    let sess := (sampleSession.stamped default 1).touched 5
    ∃ m m', exec step newMemory
        [(⟨default, 1, [], []⟩, .record (.createSession sampleSession)),
          (⟨default, 5, [sampleSession.stamped default 1], []⟩,
            .record (.touchSession sampleSession.id))] = some m ∧
      m.apply ⟨default, 10, [sess], []⟩ (.cleanupInactiveSessions 3 10) = (.removed 1, m') ∧
      m'.records.sessions.get sess.id =
        some { sess with status := str "expired", closedAt := some 10 } := by
  intro sess
  let one := (newMemory.apply ⟨default, 1, [], []⟩ (.record (.createSession sampleSession))).2
  let two := (one.apply ⟨default, 5, [sampleSession.stamped default 1], []⟩
    (.record (.touchSession sampleSession.id))).2
  have ran : exec step newMemory
      [(⟨default, 1, [], []⟩, .record (.createSession sampleSession)),
        (⟨default, 5, [sampleSession.stamped default 1], []⟩,
          .record (.touchSession sampleSession.id))] = some two :=
    exec_cons_eq_some.2 ⟨one, step_of_fits _ (by decide),
      exec_cons_eq_some.2 ⟨two, step_of_fits _ (by decide), rfl⟩⟩
  have fits : MemoryRecords.Reading.Fits ⟨default, 10, [sess], []⟩ two.records := by
    decide
  obtain ⟨n, m', applied, law, -⟩ := cleanup_expires_stale _ two ran 3 (by decide) _ fits
  have expired := law.expired sess.id sess (by decide)
    ⟨by decide, 5, by decide, by decide⟩
  have counted := law.counted [sess] fits.1
  have changed : m'.records.sessions.get sess.id ≠ some sess := by
    rw [expired]
    decide
  rw [List.filter_cons_of_pos (by exact decide_eq_true changed)] at counted
  exact ⟨two, m', ran, applied.trans (counted ▸ rfl), expired⟩

end Memory

end SentinelOps.Store
