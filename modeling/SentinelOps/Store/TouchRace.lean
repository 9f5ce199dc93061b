/-
# Store.TouchRace — a touch against a delete or an update

`TouchSession` reads a session and then writes all of it.  `DeleteSession` reads it and then
deletes it in a transaction, and `UpdateSession` writes all of it at once.  A run here is any
interleaving of the commands of one touch with those of one of the others.

A touch that has read and not yet written carries a copy of the session (`pending`).  What the
session will be when both have returned is that copy if there is one, and what is stored
otherwise (`outcome`).  Only the write of the other call can make a difference between the two,
so it decides the race: `touch_race_iff`.
-/
import SentinelOps.Store.RedisKeys

namespace SentinelOps.Store

open Theory GoText Schedule
open GoTime (Time)
open RedisStore (sessionOf document touchSession deleteSession updateSession day)

set_option autoImplicit false

/-- The two calls of a race. -/
inductive Role where
  | touch
  | other
deriving DecidableEq

/-- The store and the two calls, each as far as it has come. -/
abbrev Race := Team Role RedisStore Command Answer fun _ => Except StoreError Unit

/-- A touch of `id` and another call, both before their first command. -/
def race (r : RedisStore) (id : GoString) (now : Time)
    (other : RedisStore.RedisScript (Except StoreError Unit)) : Race where
  store := r
  script := fun
    | .touch => touchSession id now
    | .other => other

/-- The session that a call is about to write under `id`. -/
def pending (id : GoString) :
    RedisStore.RedisScript (Except StoreError Unit) → Option Document
  | .ask (.set k (.document doc) _) _ => if k = sessionKey id then some doc else none
  | _ => none

namespace Race

variable {t t' : Race} {id : GoString} {now : Time} {m : Moment}

/-- One command of one of the calls, at a moment at which the session is not expired. -/
def step (id : GoString) (t : Race) (l : Role × Moment) : Option Race :=
  if (t.store.keys.get (sessionKey id)).all (fun e => !e.expired l.2.now) then
    Team.step RedisStore.answer t l
  else none

/-- The session under `id` once the touch has returned, when the other call makes no move. -/
def outcome (t : Race) (id : GoString) : Option Document :=
  (pending id (t.script .touch)).or (t.store.document (sessionKey id))

/-- What stands under the key of the session, if anything does, reads as a session. -/
def Readable (r : RedisStore) (id : GoString) : Prop :=
  ∀ e, r.keys.get (sessionKey id) = some e →
    ∃ doc sess, e.value = .document doc ∧ doc.unmarshalSession = some sess

/-- How far a touch has come: not begun, about to write, or returned. -/
def Touching (id : GoString) (now : Time)
    (script : RedisStore.RedisScript (Except StoreError Unit)) : Prop :=
  script = touchSession id now ∨
    (∃ sess doc, (Session.touched sess now).marshal = some doc ∧
      script = .ask (.set (sessionKey sess.id) (.document doc) day) .ret) ∨
    ∃ result, script = .ret result

theorem touching_updateSession (id : GoString) (now : Time) (sess : Session) :
    Touching id now (updateSession sess now) := by
  cases data : (sess.touched now).marshal with
  | none =>
      rw [updateSession, data]
      exact .inr (.inr ⟨_, rfl⟩)
  | some doc =>
      rw [updateSession, data]
      exact .inr (.inl ⟨sess, doc, data, rfl⟩)

/-- A read at a moment at which the session is not expired. -/
theorem read_of_readable {r : RedisStore} (readable : Readable r id)
    (unexpired : (r.keys.get (sessionKey id)).all (fun e => !e.expired m.now) = true) :
    (r.keys.get (sessionKey id) = none ∧
        sessionOf (r.readString (sessionKey id) m.now) = .error .errNotFound) ∨
      ∃ doc sess, r.document (sessionKey id) = some doc ∧ doc.unmarshalSession = some sess ∧
        sessionOf (r.readString (sessionKey id) m.now) = .ok sess := by
  cases here : r.keys.get (sessionKey id) with
  | none =>
      refine .inl ⟨rfl, ?_⟩
      rw [RedisStore.readString, RedisStore.live_of_get_none here]
      rfl
  | some e =>
      obtain ⟨value, expireAt⟩ := e
      obtain ⟨doc, sess, same, decoded⟩ := readable _ here
      cases same
      rw [here, Option.all_some, Bool.not_eq_true'] at unexpired
      refine .inr ⟨doc, sess, by rw [document, here], decoded, ?_⟩
      rw [RedisStore.readString, RedisStore.live_of_unexpired here unexpired]
      exact RedisStore.sessionOf_eq_ok.2 ⟨doc, rfl, decoded⟩

/-- A call that has read the session, or found none. -/
def afterRead (next : Session → RedisStore.RedisScript (Except StoreError Unit)) :
    Except StoreError Session → RedisStore.RedisScript (Except StoreError Unit)
  | .error e => .ret (.error e)
  | .ok sess => next sess

theorem touchSession_eq (id : GoString) (now : Time) :
    touchSession id now = .ask (.get (sessionKey id)) fun a =>
      afterRead (fun sess => updateSession sess now) (sessionOf a) := by
  show Script.ask _ _ = Script.ask _ _
  congr 1
  funext a
  show Script.bind _ _ = _
  cases read : sessionOf a <;> simp only [Script.bind, afterRead, read]

theorem sessionKey_inj {id id' : GoString} : sessionKey id = sessionKey id' ↔ id = id' :=
  List.append_right_inj _

/-- A call that read the session is about to write it under the ID that it carries. -/
theorem pending_updateSession (id : GoString) (sess : Session) (now : Time) :
    pending id (updateSession sess now) =
      if sess.id = id then (sess.touched now).marshal else none := by
  cases data : (sess.touched now).marshal with
  | none =>
      rw [updateSession, data, ite_self]
      rfl
  | some doc =>
      rw [updateSession, data]
      show (if sessionKey sess.id = sessionKey id then some doc else none) = _
      simp only [sessionKey_inj]

theorem Readable.setValue {r : RedisStore} (readable : Readable r id) {sess : Session}
    {doc : Document} (data : sess.marshal = some doc) (k : GoString) (now : Time) :
    Readable (r.setValue k (.document doc) day now) id := by
  intro e here
  rw [RedisStore.setValue, RedisStore.get_setKey] at here
  split at here
  · cases here
    obtain ⟨-, rfl⟩ := Session.marshal_eq_some.1 data
    exact ⟨sess.document, sess.readBack, rfl, Session.unmarshal_document sess⟩
  · exact readable e here

/-- **What a command of the touch does.**  It leaves the other call as it is, and the outcome
too, except that reading the session makes a copy with another time of last activity. -/
theorem touch_step (touching : Touching id now (t.script .touch))
    (readable : Readable t.store id) (moved : step id t (.touch, m) = some t') :
    t'.script .other = t.script .other ∧ Touching id now (t'.script .touch) ∧
      Readable t'.store id ∧
      (t.store.document (sessionKey id) ≠ none → t'.store.document (sessionKey id) ≠ none) ∧
      (t'.outcome id = t.outcome id ∨
        ∃ doc sess copy, t.outcome id = some doc ∧ doc.unmarshalSession = some sess ∧
          (sess.touched now).marshal = some copy ∧ t'.outcome id = some copy) := by
  obtain ⟨unexpired, moved⟩ := Option.ite_none_right_eq_some.1 moved
  obtain ⟨q, next, a, s, asks, answered, rfl⟩ := Team.step_eq_some.1 moved
  have apart : Role.other ≠ Role.touch := by decide
  dsimp only [outcome] at asks answered unexpired ⊢
  rw [Function.update_self, Function.update_of_ne apart]
  refine ⟨rfl, ?_⟩
  rcases touching with reading | ⟨sess, doc, data, writing⟩ | ⟨result, returned⟩
  · rw [reading, touchSession_eq] at asks
    cases asks
    cases answered
    have before : pending id (t.script .touch) = none := by
      rw [reading, touchSession_eq]
      rfl
    rw [before, Option.none_or]
    dsimp only
    rcases read_of_readable readable unexpired with ⟨-, read⟩ | ⟨doc, sess, here, decoded, read⟩
    · rw [read]
      exact ⟨.inr (.inr ⟨_, rfl⟩), readable, fun present => present, .inl rfl⟩
    · rw [read]
      refine ⟨touching_updateSession id now sess, readable, fun present => present, ?_⟩
      show (pending id (updateSession sess now)).or _ = _ ∨
        ∃ doc sess' copy, _ ∧ _ ∧ _ ∧ (pending id (updateSession sess now)).or _ = _
      rw [pending_updateSession, here]
      -- A session that carries another ID is written under that one, and is no copy of this one.
      by_cases mine : sess.id = id
      · cases data : (sess.touched now).marshal with
        | none => exact .inl (by rw [ite_self, Option.none_or])
        | some copy =>
            refine .inr ⟨doc, sess, copy, rfl, decoded, data, ?_⟩
            rw [if_pos mine, Option.some_or]
      · exact .inl (by rw [if_neg mine, Option.none_or])
  · rw [writing] at asks
    cases asks
    cases answered
    refine ⟨.inr (.inr ⟨_, rfl⟩), readable.setValue data _ _, fun present => ?_, .inl ?_⟩
    · rw [RedisStore.document_setValue]
      split
      · exact Option.some_ne_none doc
      · exact present
    have before : pending id (t.script .touch) =
        if sessionKey sess.id = sessionKey id then some doc else none := by
      rw [writing]
      rfl
    rw [before, RedisStore.document_setValue]
    by_cases mine : sessionKey sess.id = sessionKey id
    · rw [if_pos mine, if_pos mine.symm]
      rfl
    · rw [if_neg mine, if_neg (Ne.symm mine)]
      rfl
  · rw [returned] at asks
    cases asks

theorem readable_of_stored {r : RedisStore} {sess : Session}
    (stored : r.storedSession id = some sess) : Readable r id := by
  obtain ⟨doc, found, decoded⟩ := Option.bind_eq_some_iff.1 stored
  intro e here
  rw [document, here] at found
  obtain ⟨value, expireAt⟩ := e
  cases value with
  | document doc' =>
      cases found
      exact ⟨doc, sess, rfl, decoded⟩
  | _ => cases found

theorem get_eq_none_iff {r : RedisStore} (readable : Readable r id) :
    r.keys.get (sessionKey id) = none ↔ r.document (sessionKey id) = none := by
  constructor
  · intro gone
    rw [document, gone]
  · intro none_here
    by_contra present
    obtain ⟨⟨value, expireAt⟩, here⟩ := Option.ne_none_iff_exists'.1 present
    obtain ⟨doc, sess, same, -⟩ := readable _ here
    cases same
    rw [document, here] at none_here
    cases none_here

/-- When both calls have returned, the outcome is what is stored. -/
theorem outcome_of_finished (finished : t.Finished) (id : GoString) :
    t.outcome id = t.store.document (sessionKey id) := by
  obtain ⟨result, returned⟩ := finished .touch
  rw [outcome, returned]
  rfl

/-! ## Against a delete -/

/-- How far a delete has come: not begun, about to delete, or returned. -/
def Deleting (id : GoString) (script : RedisStore.RedisScript (Except StoreError Unit)) : Prop :=
  script = deleteSession id ∨
    (∃ username, script = .ask (.txPipeline
      [.del (sessionKey id), .sRem (userSessionsKey username) id]) .ret) ∨
    ∃ result, script = .ret result

/-- When the transaction of the delete is sent, the touch holds no copy of the session. -/
def NoCopy (id : GoString) (t : Race) (l : Role × Moment) : Prop :=
  l.1 = .other → (∃ ws next, t.script .other = .ask (.txPipeline ws) next) →
    pending id (t.script .touch) = none

/-- Until the delete returns, the session is stored. -/
structure DeleteInv (id : GoString) (now : Time) (t : Race) : Prop where
  touching : Touching id now (t.script .touch)
  readable : Readable t.store id
  deleting : Deleting id (t.script .other)
  stored : (∀ result, t.script .other ≠ .ret result) → t.store.document (sessionKey id) ≠ none

theorem deleteSession_eq (id : GoString) :
    deleteSession id = .ask (.get (sessionKey id)) fun a =>
      afterRead (fun sess => .ask (.txPipeline
        [.del (sessionKey id), .sRem (userSessionsKey sess.username) id]) .ret) (sessionOf a) := by
  show Script.ask _ _ = Script.ask _ _
  congr 1
  funext a
  show Script.bind _ _ = _
  cases read : sessionOf a <;> simp only [Script.bind, afterRead, read]

theorem get_commit_delete (r : RedisStore) (id username : GoString) (now : Time) :
    (r.commit now [.del (sessionKey id), .sRem (userSessionsKey username) id]).2.keys.get
      (sessionKey id) = none := by
  have apart := sessionKey_ne_userSessionsKey id username
  have other : sessionKey id ≠ Write.key (.sRem (userSessionsKey username) id) := apart
  exact (RedisStore.get_write _ now other).trans ((RedisStore.get_delKey ..).trans (if_pos rfl))

/-- **What a command of the delete does.**  It reads, and goes on because the session is stored,
or it deletes the session and returns. -/
theorem delete_step (inv : DeleteInv id now t) (moved : step id t (.other, m) = some t') :
    t'.script .touch = t.script .touch ∧
      ((t.script .other = deleteSession id ∧ t'.store = t.store ∧ ∃ username,
          t'.script .other = .ask (.txPipeline
            [.del (sessionKey id), .sRem (userSessionsKey username) id]) .ret) ∨
        ∃ ws result, t.script .other = .ask (.txPipeline ws) .ret ∧
          t'.store.keys.get (sessionKey id) = none ∧ t'.script .other = .ret result) := by
  obtain ⟨unexpired, moved⟩ := Option.ite_none_right_eq_some.1 moved
  obtain ⟨q, next, a, s, asks, answered, rfl⟩ := Team.step_eq_some.1 moved
  have apart : Role.touch ≠ Role.other := by decide
  dsimp only at asks answered unexpired ⊢
  rw [Function.update_self, Function.update_of_ne apart]
  refine ⟨rfl, ?_⟩
  rcases inv.deleting with reading | ⟨username, committing⟩ | ⟨result, returned⟩
  · have present := inv.stored fun result same => by
      rw [reading, deleteSession_eq] at same
      cases same
    rw [reading, deleteSession_eq] at asks
    cases asks
    cases answered
    refine .inl ⟨reading, rfl, ?_⟩
    dsimp only
    rcases read_of_readable inv.readable unexpired with ⟨gone, -⟩ | ⟨doc, sess, -, -, read⟩
    · exact absurd ((get_eq_none_iff inv.readable).1 gone) present
    · rw [read]
      exact ⟨sess.username, rfl⟩
  · rw [committing] at asks
    cases asks
    obtain ⟨rfl, rfl⟩ := Prod.ext_iff.1 (Option.some.inj answered)
    exact .inr ⟨_, _, committing, get_commit_delete .., rfl⟩
  · rw [returned] at asks
    cases asks

/-- The delete has not returned, or the session is gone for good. -/
def Deleted (id : GoString) (t : Race) : Prop :=
  ∀ result, t.script .other = .ret result → t.outcome id = none

theorem deleted_step {l : Role × Moment} (inv : DeleteInv id now t)
    (moved : step id t l = some t') :
    DeleteInv id now t' ∧ (Deleted id t' ↔ Deleted id t ∧ NoCopy id t l) := by
  obtain ⟨role, m⟩ := l
  cases role with
  | touch =>
      obtain ⟨same, touching, readable, stored, outcomes⟩ :=
        touch_step inv.touching inv.readable moved
      refine ⟨⟨touching, readable, same ▸ inv.deleting, fun open_ => stored (inv.stored ?_)⟩, ?_⟩
      · rwa [same] at open_
      · have gone : t'.outcome id = none ↔ t.outcome id = none := by
          rcases outcomes with equal | ⟨doc, sess, copy, before, -, -, after⟩
          · rw [equal]
          · rw [before, after]
            exact iff_of_false (Option.some_ne_none _) (Option.some_ne_none _)
        have free : NoCopy id t (.touch, m) := fun other => by cases other
        simp only [Deleted, same, gone, and_iff_left free]
  | other =>
      obtain ⟨same, ⟨reading, kept, username, committing⟩ |
        ⟨ws, result, committing, gone, returned⟩⟩ := delete_step inv moved
      · refine ⟨⟨same ▸ inv.touching, kept ▸ inv.readable, .inr (.inl ⟨username, committing⟩),
          fun _ => ?_⟩, ?_⟩
        · rw [kept]
          refine inv.stored fun result returned => ?_
          rw [reading, deleteSession_eq] at returned
          cases returned
        · refine iff_of_true (fun result returned => ?_) ⟨fun result returned => ?_, ?_⟩
          · rw [committing] at returned
            cases returned
          · rw [reading, deleteSession_eq] at returned
            cases returned
          · rintro - ⟨ws, next, sends⟩
            rw [reading, deleteSession_eq] at sends
            cases sends
      · have absent : t'.store.document (sessionKey id) = none := by rw [document, gone]
        have readable : Readable t'.store id := fun e here => by
          rw [gone] at here
          cases here
        refine ⟨⟨same ▸ inv.touching, readable, .inr (.inr ⟨result, returned⟩),
          fun open_ => absurd returned (open_ result)⟩, ?_⟩
        have left : t'.outcome id = pending id (t.script .touch) := by
          rw [outcome, same, absent, Option.or_none]
        have deleted : Deleted id t' ↔ pending id (t.script .touch) = none := by
          rw [← left]
          exact ⟨fun deleted => deleted result returned, fun gone _ _ => gone⟩
        rw [deleted]
        constructor
        · refine fun free => ⟨fun result' returned' => ?_, fun _ _ => free⟩
          rw [committing] at returned'
          cases returned'
        · exact fun both => both.2 rfl ⟨ws, .ret, committing⟩

/-! ## Against an update -/

def statusOf (doc : Document) : Option GoString := doc.unmarshalSession.map Session.status

/-- When the update is sent, its status is UTF-8 and a copy that the touch holds has the same. -/
def SameStatus (id status : GoString) (t : Race) (l : Role × Moment) : Prop :=
  l.1 = .other → validString status = true ∧
    ∀ copy, pending id (t.script .touch) = some copy → statusOf copy = some status

theorem statusOf_of_marshal {sess : Session} {doc : Document} (data : sess.marshal = some doc) :
    statusOf doc = some (coerce sess.status) := by
  obtain ⟨-, rfl⟩ := Session.marshal_eq_some.1 data
  rw [statusOf, Session.unmarshal_document]
  rfl

/-- A copy that the touch holds has been marshalled. -/
theorem status_of_pending (touching : Touching id now (t.script .touch)) {copy : Document}
    (holds : pending id (t.script .touch) = some copy) :
    ∃ status, statusOf copy = some (coerce status) := by
  rcases touching with reading | ⟨sess, doc, data, writing⟩ | ⟨result, returned⟩
  · rw [reading, touchSession_eq] at holds
    cases holds
  · rw [writing] at holds
    obtain ⟨-, same⟩ := Option.ite_none_right_eq_some.1 holds
    cases same
    exact ⟨_, statusOf_of_marshal data⟩
  · rw [returned] at holds
    cases holds

/-- The update has not been sent, or what is stored has a status that is UTF-8. -/
structure UpdateInv (id : GoString) (now : Time) (upd : Session) (later : Time) (t : Race) :
    Prop where
  touching : Touching id now (t.script .touch)
  readable : Readable t.store id
  updating : t.script .other = updateSession upd later ∨
    (t.script .other = .ret (.ok ()) ∧
      ∀ status, (t.outcome id).bind statusOf = some status → validString status = true)

/-- The update has not succeeded, or its status is there for good. -/
def Updated (id status : GoString) (t : Race) : Prop :=
  t.script .other = .ret (.ok ()) → (t.outcome id).bind statusOf = some status

theorem updateSession_ne_ok (upd : Session) (later : Time) :
    updateSession upd later ≠ .ret (.ok ()) := by
  unfold updateSession
  cases (upd.touched later).marshal with
  | none => exact fun same => by cases same
  | some doc => exact fun same => by cases same

/-- **What the command of the update does.**  It writes the session and returns. -/
theorem update_step {upd : Session} {later : Time} (mine : upd.id = id)
    (inv : UpdateInv id now upd later t) (moved : step id t (.other, m) = some t') :
    ∃ doc, (upd.touched later).marshal = some doc ∧
      t.script .other ≠ .ret (.ok ()) ∧ t'.script .other = .ret (.ok ()) ∧
      t'.script .touch = t.script .touch ∧ Readable t'.store id ∧
      t'.outcome id = (pending id (t.script .touch)).or (some doc) := by
  obtain ⟨-, moved⟩ := Option.ite_none_right_eq_some.1 moved
  obtain ⟨q, next, a, s, asks, answered, rfl⟩ := Team.step_eq_some.1 moved
  have apart : Role.touch ≠ Role.other := by decide
  dsimp only [outcome] at asks answered ⊢
  rw [Function.update_self, Function.update_of_ne apart]
  rcases inv.updating with before | ⟨sent, -⟩
  · have unsent : t.script .other ≠ .ret (.ok ()) := before ▸ updateSession_ne_ok upd later
    rw [before, updateSession] at asks
    cases data : (upd.touched later).marshal with
    | none =>
        rw [data] at asks
        cases asks
    | some doc =>
        rw [data] at asks
        cases asks
        cases answered
        refine ⟨doc, rfl, unsent, rfl, rfl, inv.readable.setValue data _ _, ?_⟩
        rw [RedisStore.document_setValue, mine, if_pos rfl]
  · rw [sent] at asks
    cases asks

theorem updated_step {upd : Session} {later : Time} {l : Role × Moment} (mine : upd.id = id)
    (inv : UpdateInv id now upd later t) (moved : step id t l = some t') :
    UpdateInv id now upd later t' ∧
      (Updated id upd.status t' ↔ Updated id upd.status t ∧ SameStatus id upd.status t l) := by
  obtain ⟨role, m⟩ := l
  cases role with
  | touch =>
      obtain ⟨same, touching, readable, -, outcomes⟩ :=
        touch_step inv.touching inv.readable moved
      have free : SameStatus id upd.status t (.touch, m) := fun other => by cases other
      rcases inv.updating with before | ⟨sent, valid⟩
      · refine ⟨⟨touching, readable, .inl (same.trans before)⟩, ?_⟩
        have unsent : t.script .other ≠ .ret (.ok ()) :=
          before ▸ updateSession_ne_ok upd later
        rw [and_iff_left free]
        exact iff_of_true (fun ok => absurd (same ▸ ok) unsent) fun ok => absurd ok unsent
      · have kept : (t'.outcome id).bind statusOf = (t.outcome id).bind statusOf := by
          rcases outcomes with equal | ⟨doc, sess, copy, here, decoded, data, after⟩
          · rw [equal]
          · have status : statusOf doc = some sess.status := by
              rw [statusOf, decoded]
              rfl
            have utf8 := valid sess.status (by rw [here]; exact status)
            rw [after, here]
            refine (statusOf_of_marshal data).trans (Eq.trans ?_ status.symm)
            exact congrArg some ((coerce_eq_self_iff _).2 utf8)
        refine ⟨⟨touching, readable, .inr ⟨same.trans sent, kept ▸ valid⟩⟩, ?_⟩
        simp only [Updated, same, kept, and_iff_left free]
  | other =>
      obtain ⟨doc, data, unsent, sent, same, readable, after⟩ := update_step mine inv moved
      have written : statusOf doc = some (coerce (upd.touched later).status) :=
        statusOf_of_marshal data
      change statusOf doc = some (coerce upd.status) at written
      refine ⟨⟨same ▸ inv.touching, readable, .inr ⟨sent, fun status found => ?_⟩⟩, ?_⟩
      · rw [after] at found
        cases holds : pending id (t.script .touch) with
        | none =>
            rw [holds] at found
            cases written.symm.trans found
            exact validString_coerce _
        | some copy =>
            rw [holds] at found
            obtain ⟨original, read⟩ := status_of_pending inv.touching holds
            cases read.symm.trans found
            exact validString_coerce _
      · have unsaid : Updated id upd.status t := fun ok => absurd ok unsent
        have decided : Updated id upd.status t' ↔
            ((pending id (t.script .touch)).or (some doc)).bind statusOf = some upd.status := by
          rw [← after]
          exact ⟨fun updated => updated sent, fun found _ => found⟩
        rw [decided, and_iff_right unsaid]
        -- What the update has written is overwritten by a copy that the touch holds.
        cases holds : pending id (t.script .touch) with
        | none =>
            show statusOf doc = _ ↔ _
            rw [written, Option.some.injEq, coerce_eq_self_iff]
            refine ⟨fun utf8 _ => ⟨utf8, fun copy held => ?_⟩, fun keeps => (keeps rfl).1⟩
            cases holds.symm.trans held
        | some copy =>
            show statusOf copy = _ ↔ _
            refine ⟨fun read _ => ⟨?_, fun copy' held => ?_⟩, fun keeps => (keeps rfl).2 copy holds⟩
            · obtain ⟨original, read'⟩ := status_of_pending inv.touching holds
              rw [Option.some.inj (read.symm.trans read')]
              exact validString_coerce original
            · cases holds.symm.trans held
              exact read

/-! ## Both races -/

/-- **Who wins the race.**  On a stored session that does not expire meanwhile, whatever the
interleaving: after a touch and a delete the session is gone exactly when the touch held no copy
of it as the transaction of the delete was sent; and after a touch and an update that succeeded
the session has the status of the update exactly when this is UTF-8 and a copy that the touch
held as the update was sent has the same status. -/
theorem touch_race_iff (r : RedisStore) (id : GoString)
    (stored : ∃ sess, r.storedSession id = some sess) (now : Time) (ls : List (Role × Moment))
    (t : Race) (finished : t.Finished) :
    (exec (step id) (race r id now (deleteSession id)) ls = some t →
      (t.store.keys.get (sessionKey id) = none ↔
        Along (step id) (NoCopy id) (race r id now (deleteSession id)) ls)) ∧
    (∀ (upd : Session) (later : Time), upd.id = id →
      exec (step id) (race r id now (updateSession upd later)) ls = some t →
      ((t.script .other = .ret (.ok ()) →
          ∃ sess, t.store.storedSession id = some sess ∧ sess.status = upd.status) ↔
        Along (step id) (SameStatus id upd.status)
          (race r id now (updateSession upd later)) ls)) := by
  obtain ⟨sess, stored⟩ := stored
  have readable := readable_of_stored stored
  obtain ⟨doc, here, -⟩ := Option.bind_eq_some_iff.1 stored
  constructor
  · intro ran
    have start : DeleteInv id now (race r id now (deleteSession id)) :=
      ⟨.inl rfl, readable, .inl rfl, fun _ => here ▸ Option.some_ne_none doc⟩
    have unsaid : Deleted id (race r id now (deleteSession id)) := fun result returned => by
      rw [race, deleteSession_eq] at returned
      cases returned
    have inv := exec_invariant (fun s l s' inv moved => (deleted_step inv moved).1) start ran
    have exact := final_iff_along (fun s l s' inv moved => deleted_step inv moved) start ran
    rw [and_iff_right unsaid] at exact
    rw [← exact, get_eq_none_iff inv.readable, ← outcome_of_finished finished]
    obtain ⟨result, returned⟩ := finished .other
    exact ⟨fun gone _ _ => gone, fun deleted => deleted result returned⟩
  · intro upd later mine ran
    have start : UpdateInv id now upd later (race r id now (updateSession upd later)) :=
      ⟨.inl rfl, readable, .inl rfl⟩
    have unsaid : Updated id upd.status (race r id now (updateSession upd later)) :=
      fun ok => absurd ok (updateSession_ne_ok upd later)
    have exact := final_iff_along (fun s l s' inv moved => updated_step mine inv moved) start ran
    rw [and_iff_right unsaid] at exact
    rw [← exact, Updated, outcome_of_finished finished]
    refine imp_congr_right fun _ => ?_
    have read : (t.store.document (sessionKey id)).bind statusOf =
        (t.store.storedSession id).map Session.status := by
      rw [RedisStore.storedSession]
      cases t.store.document (sessionKey id) <;> rfl
    rw [read, Option.map_eq_some_iff]

/-- The state of the races below: one session, stored at instant 0. -/
def oneSession : RedisStore :=
  ⟨(∅ : GoMap GoString RedisEntry).set (sessionKey (str "s1"))
    { value := .document sampleSession.document }⟩

theorem oneSession_stored : ∃ sess, oneSession.storedSession (str "s1") = some sess :=
  Option.isSome_iff_exists.1 (by decide)

/-- Both calls have returned. -/
def returned (t : Race) : Bool := (t.result .touch).isSome && (t.result .other).isSome

theorem finished_of_returned (done : t.returned = true) : t.Finished := by
  obtain ⟨first, second⟩ := Bool.and_eq_true_iff.1 done
  refine Team.finished_of_result t fun role => ?_
  cases role with
  | touch => exact first
  | other => exact second

/-- One after the other: the touch holds no copy when the transaction is sent, so the session is
gone. -/
theorem touch_race_serial :
    let start := race oneSession (str "s1") 1 (deleteSession (str "s1"))
    let ls : List (Role × Moment) :=
      [(.touch, ⟨1, []⟩), (.touch, ⟨2, []⟩), (.other, ⟨3, []⟩), (.other, ⟨4, []⟩)]
    ∃ t, exec (step (str "s1")) start ls = some t ∧ t.Finished ∧
      t.store.keys.get (sessionKey (str "s1")) = none := by
  intro start ls
  have seen : (exec (step (str "s1")) start ls).map Race.returned = some true := by decide
  obtain ⟨t, ran, done⟩ := Option.map_eq_some_iff.1 seen
  have finished := finished_of_returned done
  have apart : Along (step (str "s1")) (NoCopy (str "s1")) start ls := by
    exact along_cons_of_eq rfl nofun (along_cons_of_eq rfl nofun
      (along_cons_of_eq rfl (fun _ _ => rfl) (along_cons_of_eq rfl (fun _ _ => rfl) trivial)))
  exact ⟨t, ran, finished,
    ((touch_race_iff oneSession (str "s1") oneSession_stored 1 ls t finished).1 ran).2 apart⟩

/-- The touch reads, the delete reads and deletes, the touch writes: the session is back.  The
touch reads, the update closes the session, the touch writes: the session is active. -/
theorem touch_race_lost :
    let s1 := str "s1"
    let closed : Session := { sampleSession with status := str "closed" }
    let readable := fun t : Race =>
      (t.returned, (t.store.storedSession s1).map Session.status)
    (exec (step s1) (race oneSession s1 1 (deleteSession s1))
      [(.touch, ⟨1, []⟩), (.other, ⟨2, []⟩), (.other, ⟨3, []⟩), (.touch, ⟨4, []⟩)]).map readable =
        some (true, some (str "active")) ∧
    (exec (step s1) (race oneSession s1 1 (updateSession closed 1))
      [(.touch, ⟨1, []⟩), (.other, ⟨2, []⟩), (.touch, ⟨3, []⟩)]).map readable =
        some (true, some (str "active")) := by
  decide

end Race

end SentinelOps.Store
