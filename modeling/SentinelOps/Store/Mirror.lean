/-
# Store.Mirror — the Redis store and the in-memory store under the same calls

`Holdings` is what a store holds, whichever it is, and `Holdings.after` what a call makes of
it: the records created and not deleted.  `MemoryRecords` does that with every call
(`holds_apply`); `RedisStore` does it with the calls that meet `InStep` (`holds_play`).  The two
differ where a create finds its ID taken, an update finds none, a session goes with tunnels
that name it, and where a record does not come back from JSON as it was sent.

`alike_run` is the refinement over whole runs: two stores that are sent the same calls in step
hold the same records, and the indexes of the Redis store are right.
-/
import SentinelOps.Store.RedisIndex

namespace SentinelOps.Store

open Theory GoText Schedule Script
open GoTime (Time)

set_option autoImplicit false

/-! ## What a store holds -/

/-- The sessions and tunnels of a store by their IDs. -/
@[ext] structure Holdings where
  sessions : GoString → Option Session
  tunnels : GoString → Option Tunnel

/-- `v` under `id`, if `stores`. -/
def stored {V : Type} (stores : Bool) (held : GoString → Option V) (id : GoString) (v : V) :
    GoString → Option V :=
  if stores then Function.update held id (some v) else held

namespace Holdings

variable (h : Holdings)

/-- The tunnels that do not name this session. -/
def without (sessionID : GoString) : GoString → Option Tunnel :=
  fun id => (h.tunnels id).filter fun tunnel => tunnel.sessionID != sessionID

/-- What a call makes of the records: a create adds one unless its ID is taken, an update
replaces one that is there, and the tunnels of a session go with it. -/
def after (fresh : Uuid) (now : Time) : RecordCall → Holdings
  | .createSession sess =>
      let id := identified sess.id fresh
      { h with sessions := stored (h.sessions id).isNone h.sessions id (sess.stamped fresh now) }
  | .updateSession sess =>
      let id := sess.id
      { h with sessions := stored (h.sessions id).isSome h.sessions id (sess.touched now) }
  | .touchSession id =>
      let touched := (h.sessions id).map fun sess => sess.touched now
      { h with sessions := Function.update h.sessions id touched }
  | .deleteSession id =>
      match h.sessions id with
      | none => h
      | some _ => { sessions := Function.update h.sessions id none, tunnels := h.without id }
  | .createTunnel tunnel =>
      let id := identified tunnel.id fresh
      { h with tunnels := stored (h.tunnels id).isNone h.tunnels id (tunnel.stamped fresh now) }
  | .updateTunnel tunnel =>
      { h with tunnels := stored (h.tunnels tunnel.id).isSome h.tunnels tunnel.id tunnel }
  | .deleteTunnel id => { h with tunnels := Function.update h.tunnels id none }
  | .deleteTunnelsBySession sessionID => { h with tunnels := h.without sessionID }
  | _ => h

end Holdings

theorem stored_eq_self {V : Type} {held : GoString → Option V} {id : GoString} {v : V} :
    stored false held id v = held := rfl

theorem filter_eq_self {V : Type} {found : Option V} {p : V → Bool}
    (meets : ∀ v, found = some v → p v = true) : found.filter p = found := by
  cases found with
  | none => rfl
  | some v => rw [Option.filter_some, if_pos (meets v rfl)]

namespace MemoryRecords

def holds (m : MemoryRecords) : Holdings := ⟨m.sessions.get, m.tunnels.get⟩

variable {K V : Type} [DecidableEq K] {key : V → K}

theorem get_put_eq_update (t : Table key) (v : V) :
    (t.put v).get = Function.update t.get (key v) (some v) := by
  funext k
  rw [Table.get_put, Function.update_apply]

theorem get_remove_eq_update (t : Table key) (k : K) :
    (t.remove k).get = Function.update t.get k none := by
  funext k'
  rw [Table.get_remove, Function.update_apply]

/-- **The in-memory store holds the records created and not deleted.** -/
theorem holds_apply (m : MemoryRecords) (reading : Reading) (call : RecordCall) :
    (m.apply reading call).2.holds = m.holds.after reading.fresh reading.now call := by
  cases call with
  | createSession sess =>
      simp only [apply, createSession, Holdings.after, holds]
      cases found : m.sessions.get (identified sess.id reading.fresh) with
      | some old => rfl
      | none => exact Holdings.ext (get_put_eq_update m.sessions _) rfl
  | updateSession sess =>
      simp only [apply, updateSession, Holdings.after, holds]
      cases found : m.sessions.get sess.id with
      | none => rfl
      | some old => exact Holdings.ext (get_put_eq_update m.sessions _) rfl
  | touchSession id =>
      simp only [apply, touchSession, Holdings.after, holds]
      cases found : m.sessions.get id with
      | none => exact Holdings.ext (Function.update_eq_self_iff.2 found.symm).symm rfl
      | some sess =>
          have same : sess.id = id := Table.key_of_get found
          subst same
          refine Holdings.ext ?_ rfl
          exact get_put_eq_update m.sessions (sess.touched reading.now)
  | deleteSession id =>
      simp only [apply, deleteSession, Holdings.after, holds]
      cases found : m.sessions.get id with
      | none => rfl
      | some sess =>
          exact Holdings.ext (get_remove_eq_update m.sessions id)
            (funext fun _ => Table.get_keep ..)
  | createTunnel tunnel =>
      simp only [apply, createTunnel, Holdings.after, holds]
      cases found : m.tunnels.get (identified tunnel.id reading.fresh) with
      | some old => rfl
      | none => exact Holdings.ext rfl (get_put_eq_update m.tunnels _)
  | updateTunnel tunnel =>
      simp only [apply, updateTunnel, Holdings.after, holds]
      cases found : m.tunnels.get tunnel.id with
      | none => rfl
      | some old => exact Holdings.ext rfl (get_put_eq_update m.tunnels _)
  | deleteTunnel id =>
      simp only [apply, deleteTunnel, Holdings.after, holds]
      cases found : m.tunnels.get id with
      | none => exact Holdings.ext rfl (Function.update_eq_self_iff.2 found.symm).symm
      | some tunnel => exact Holdings.ext rfl (get_remove_eq_update m.tunnels id)
  | deleteTunnelsBySession sessionID =>
      exact Holdings.ext rfl (funext fun _ => Table.get_keep ..)
  | getSession id => rfl
  | listSessions filter => rfl
  | countActiveSessions username => rfl
  | getTunnel id => rfl
  | listTunnels filter => rfl

end MemoryRecords

/-! ## Calls in step -/

/-- `json.Marshal` takes the session exactly when it is to be stored, and then what is read
back is what was sent. -/
def Session.SentAlike (sess : Session) (stores : Bool) : Prop :=
  sess.marshals = stores ∧ (stores = true → sess.readBack = sess)

def Tunnel.SentAlike (tunnel : Tunnel) (stores : Bool) : Prop :=
  tunnel.marshals = stores ∧ (stores = true → tunnel.readBack = tunnel)

section Sent

variable {sess : Session} {tunnel : Tunnel} {stores : Bool} {doc : Document}

theorem Session.SentAlike.refused (alike : sess.SentAlike stores) (refused : sess.marshal = none) :
    stores = false := by
  rw [← alike.1]
  exact Bool.eq_false_of_not_eq_true (Session.marshal_eq_none.1 refused)

theorem Session.SentAlike.sent (alike : sess.SentAlike stores) (data : sess.marshal = some doc) :
    stores = true ∧ doc.unmarshalSession = some sess := by
  obtain ⟨marshals, rfl⟩ := Session.marshal_eq_some.1 data
  have stores_eq := alike.1.symm.trans marshals
  rw [Session.unmarshal_document, alike.2 stores_eq]
  exact ⟨stores_eq, rfl⟩

theorem Tunnel.SentAlike.refused (alike : tunnel.SentAlike stores)
    (refused : tunnel.marshal = none) : stores = false := by
  rw [← alike.1]
  exact Bool.eq_false_of_not_eq_true (Tunnel.marshal_eq_none.1 refused)

theorem Tunnel.SentAlike.sent (alike : tunnel.SentAlike stores) (data : tunnel.marshal = some doc) :
    stores = true ∧ doc.unmarshalTunnel = some tunnel := by
  obtain ⟨marshals, rfl⟩ := Tunnel.marshal_eq_some.1 data
  have stores_eq := alike.1.symm.trans marshals
  rw [Tunnel.unmarshal_document, alike.2 stores_eq]
  exact ⟨stores_eq, rfl⟩

end Sent

namespace Holdings

/-- An update leaves the username of a session and the session ID of a tunnel. -/
def KeepsOwner (h : Holdings) (l : PlainCall) : Prop :=
  match l.call with
  | .updateSession sess => ∀ old, h.sessions sess.id = some old → sess.username = old.username
  | .updateTunnel tunnel => ∀ old, h.tunnels tunnel.id = some old → tunnel.sessionID = old.sessionID
  | _ => True

/-- The calls that both stores carry out alike.  A create on a free ID and an update of a
record that is there send one that JSON keeps; on a taken ID and of an unknown record, one that
`json.Marshal` refuses.  A session is deleted after its tunnels. -/
def InStep (h : Holdings) (l : PlainCall) : Prop :=
  match l.call with
  | .createSession sess =>
      (sess.stamped l.fresh l.now).SentAlike (h.sessions (identified sess.id l.fresh)).isNone
  | .updateSession sess => (sess.touched l.now).SentAlike (h.sessions sess.id).isSome
  | .touchSession id =>
      ∀ sess, h.sessions id = some sess → (sess.touched l.now).SentAlike true
  | .deleteSession id =>
      h.sessions id ≠ none → ∀ tid tunnel, h.tunnels tid = some tunnel → tunnel.sessionID ≠ id
  | .createTunnel tunnel =>
      (tunnel.stamped l.fresh l.now).SentAlike (h.tunnels (identified tunnel.id l.fresh)).isNone
  | .updateTunnel tunnel => tunnel.SentAlike (h.tunnels tunnel.id).isSome
  | _ => True

/-- Every session is held under its own ID. -/
def Keyed (h : Holdings) : Prop := ∀ id sess, h.sessions id = some sess → sess.id = id

end Holdings

namespace RedisStore

def holds (r : RedisStore) : Holdings := ⟨r.storedSession, r.storedTunnel⟩

variable {r r' : RedisStore} {l : PlainCall}

/-! ### What a write does to the records -/

/-- The records when one of them is written or deleted. -/
theorem document_record {kind : Kind} {id : GoString} {value : Option Document}
    (documents : ∀ k, r'.document k =
      if k = (kind.record id).render then value else r.document k) (kind' : Kind) (id' : GoString) :
    r'.document (kind'.record id').render =
      if kind' = kind ∧ id' = id then value else r.document (kind'.record id').render := by
  rw [documents]
  simp only [Kind.record_eq_iff]

theorem holds_of_session {id : GoString} {value : Option Document}
    (documents : ∀ k, r'.document k =
      if k = (Kind.record .sessions id).render then value else r.document k) :
    r'.holds = { r.holds with
      sessions := Function.update r.holds.sessions id (value.bind Document.unmarshalSession) } := by
  refine Holdings.ext (funext fun id' => ?_) (funext fun id' => ?_)
  · show (r'.document (Kind.record .sessions id').render).bind _ =
      Function.update r.storedSession id _ id'
    rw [document_record documents, Function.update_apply]
    by_cases mine : id' = id
    · rw [if_pos ⟨rfl, mine⟩, if_pos mine]
    · rw [if_neg fun both => mine both.2, if_neg mine]
      rfl
  · show (r'.document (Kind.record .tunnels id').render).bind _ = _
    rw [document_record documents, if_neg fun both => by cases both.1]
    rfl

theorem holds_of_tunnel {id : GoString} {value : Option Document}
    (documents : ∀ k, r'.document k =
      if k = (Kind.record .tunnels id).render then value else r.document k) :
    r'.holds = { r.holds with
      tunnels := Function.update r.holds.tunnels id (value.bind Document.unmarshalTunnel) } := by
  refine Holdings.ext (funext fun id' => ?_) (funext fun id' => ?_)
  · show (r'.document (Kind.record .sessions id').render).bind _ = _
    rw [document_record documents, if_neg fun both => by cases both.1]
    rfl
  · show (r'.document (Kind.record .tunnels id').render).bind _ =
      Function.update r.storedTunnel id _ id'
    rw [document_record documents, Function.update_apply]
    by_cases mine : id' = id
    · rw [if_pos ⟨rfl, mine⟩, if_pos mine]
    · rw [if_neg fun both => mine both.2, if_neg mine]
      rfl

/-- A reply to `SMEMBERS` on a key that holds a set. -/
theorem readMembers_of_isSet {k : GoString} (set : r.IsSet k) {moment : Moment}
    (unexpired : r.NoneExpired moment.now) :
    r.readMembers k moment =
      if (moment.order : Multiset GoString) = (r.members k).val then some (.ok moment.order)
      else none := by
  unfold readMembers members
  rw [live_eq_get unexpired]
  cases here : r.keys.get k with
  | none =>
      simp only [Finset.empty_val, Multiset.coe_eq_zero]
      split
      · next none_listed => rw [none_listed]
      · rfl
  | some e =>
      obtain ⟨value, expireAt⟩ := e
      obtain ⟨members, rfl⟩ := set _ here
      rfl

section Methods

variable {sess : Session} {tunnel : Tunnel} {id : GoString} {fresh : Uuid} {t : Time}
variable {ls : List Moment} {out : Except StoreError Unit × RedisStore}

theorem holds_updateSession
    (alike : (sess.touched t).SentAlike (r.storedSession sess.id).isSome)
    (played : play answer (updateSession sess t) r ls = some out) :
    out.2.holds = r.holds.after fresh t (.updateSession sess) := by
  rcases play_updateSession played with ⟨refused, -, rfl⟩ | ⟨doc, m, data, -, rfl⟩
  · have absent : (r.holds.sessions sess.id).isSome = false := alike.refused refused
    simp only [Holdings.after, absent, stored_eq_self]
  · obtain ⟨here, decoded⟩ := alike.sent data
    have present : (r.holds.sessions sess.id).isSome = true := here
    refine (holds_of_session fun k => document_setValue ..).trans ?_
    rw [Option.bind_some, decoded]
    simp only [Holdings.after, present, stored, if_true]

theorem holds_updateTunnel (alike : tunnel.SentAlike (r.storedTunnel tunnel.id).isSome)
    (played : play answer (updateTunnel tunnel) r ls = some out) :
    out.2.holds = r.holds.after fresh t (.updateTunnel tunnel) := by
  rcases play_updateTunnel played with ⟨refused, -, rfl⟩ | ⟨doc, m, data, -, rfl⟩
  · have absent : (r.holds.tunnels tunnel.id).isSome = false := alike.refused refused
    simp only [Holdings.after, absent, stored_eq_self]
  · obtain ⟨here, decoded⟩ := alike.sent data
    have present : (r.holds.tunnels tunnel.id).isSome = true := here
    refine (holds_of_tunnel fun k => document_setValue ..).trans ?_
    rw [Option.bind_some, decoded]
    simp only [Holdings.after, present, stored, if_true]

variable (typed : r.Typed) (unexpired : ∀ m ∈ ls, r.NoneExpired m.now)
include typed unexpired

theorem holds_createSession (plain : 0x3A ∉ sess.id)
    (alike : (sess.stamped fresh t).SentAlike
      (r.storedSession (identified sess.id fresh)).isNone)
    (played : play answer (createSession sess fresh t) r ls = some out) :
    out.2.holds = r.holds.after fresh t (.createSession sess) := by
  rcases play_createSession played with ⟨refused, -, rfl⟩ | ⟨doc, m, data, rfl, rfl⟩
  · have taken : (r.holds.sessions (identified sess.id fresh)).isNone = false :=
      alike.refused refused
    simp only [Holdings.after, taken, stored_eq_self]
  · obtain ⟨here, decoded⟩ := alike.sent data
    have free : (r.holds.sessions (identified sess.id fresh)).isNone = true := here
    refine (holds_of_session (typed.document_create (unexpired m List.mem_cons_self) .sessions
      (identified_plain plain fresh) doc sess.username day)).trans ?_
    rw [Option.bind_some, decoded]
    simp only [Holdings.after, free, stored, if_true]

theorem holds_createTunnel (plain : 0x3A ∉ tunnel.id)
    (alike : (tunnel.stamped fresh t).SentAlike
      (r.storedTunnel (identified tunnel.id fresh)).isNone)
    (played : play answer (createTunnel tunnel fresh t) r ls = some out) :
    out.2.holds = r.holds.after fresh t (.createTunnel tunnel) := by
  rcases play_createTunnel played with ⟨refused, -, rfl⟩ | ⟨doc, m, data, rfl, rfl⟩
  · have taken : (r.holds.tunnels (identified tunnel.id fresh)).isNone = false :=
      alike.refused refused
    simp only [Holdings.after, taken, stored_eq_self]
  · obtain ⟨here, decoded⟩ := alike.sent data
    have free : (r.holds.tunnels (identified tunnel.id fresh)).isNone = true := here
    refine (holds_of_tunnel (typed.document_create (unexpired m List.mem_cons_self) .tunnels
      (identified_plain plain fresh) doc tunnel.sessionID day)).trans ?_
    rw [Option.bind_some, decoded]
    simp only [Holdings.after, free, stored, if_true]

theorem holds_deleteSession
    (alone : r.holds.sessions id ≠ none →
      ∀ tid tunnel, r.holds.tunnels tid = some tunnel → tunnel.sessionID ≠ id)
    (played : play answer (deleteSession id) r ls = some out) :
    out.2.holds = r.holds.after fresh t (.deleteSession id) := by
  obtain ⟨m, ⟨e, read, rfl, rfl⟩ | ⟨sess, m', read, rfl, rfl⟩⟩ := play_deleteSession played
  · have absent : r.holds.sessions id = none :=
      storedSession_of_failed (unexpired m List.mem_cons_self) read
    simp only [Holdings.after, absent]
  · have found : r.holds.sessions id = some sess := storedSession_of_read read
    obtain ⟨doc, here, -⟩ := Option.bind_eq_some_iff.1 (storedSession_of_read read)
    refine (holds_of_session (typed.document_delete (unexpired m' (by simp)) .sessions here
      sess.username)).trans ?_
    simp only [Holdings.after, found]
    refine Holdings.ext rfl (funext fun tid => ?_)
    refine (filter_eq_self fun tunnel there => ?_).symm
    exact bne_iff_ne.2 (alone (by rw [found]; exact Option.some_ne_none sess) tid tunnel there)

theorem holds_deleteTunnel (played : play answer (deleteTunnel id) r ls = some out) :
    out.2.holds = r.holds.after fresh t (.deleteTunnel id) := by
  obtain ⟨m, ⟨e, read, rfl, rfl⟩ | ⟨tunnel, m', read, rfl, rfl⟩⟩ := play_deleteTunnel played
  · have absent : r.holds.tunnels id = none :=
      storedTunnel_of_failed (unexpired m List.mem_cons_self) read
    exact Holdings.ext rfl (Function.update_eq_self_iff.2 absent.symm).symm
  · obtain ⟨doc, here, -⟩ := Option.bind_eq_some_iff.1 (storedTunnel_of_read read)
    exact holds_of_tunnel (typed.document_delete (unexpired m' (by simp)) .tunnels here
      tunnel.sessionID)

theorem holds_deleteTunnelsBySession (indexed : r.Indexed) {sessionID : GoString}
    {out : Except StoreError (List GoString) × RedisStore}
    (played : play answer (deleteTunnelsBySession sessionID) r ls = some out) :
    out.2.holds = r.holds.after fresh t (.deleteTunnelsBySession sessionID) := by
  obtain ⟨m, ⟨e, read, rfl, rfl⟩ | ⟨ids, m', read, rfl, rfl⟩⟩ := play_deleteTunnelsBySession played
  · have set : r.IsSet (sessionTunnelsKey sessionID) := typed.sets .tunnels sessionID
    rw [readMembers_of_isSet set (unexpired m List.mem_cons_self)] at read
    cases (Option.ite_none_right_eq_some.1 read).2
  · have swept : ∀ id, id ∈ ids ↔ ∃ tunnel, r.storedTunnel id = some tunnel ∧
        tunnel.sessionID = sessionID := fun id =>
      (mem_iff_of_readMembers (unexpired m List.mem_cons_self) read id).trans
        (indexed.2 sessionID id)
    refine Holdings.ext (funext fun id => ?_) (funext fun id => ?_)
    · show (document _ (Kind.record .sessions id).render).bind _ = _
      rw [typed.document_sweep, if_neg fun both => by cases both.1]
      rfl
    · show (document _ (Kind.record .tunnels id).render).bind _ =
        (r.storedTunnel id).filter _
      rw [typed.document_sweep]
      by_cases member : id ∈ ids
      · obtain ⟨tunnel, here, same⟩ := (swept id).1 member
        rw [if_pos ⟨rfl, member⟩, here, Option.filter_some, same, bne_self_eq_false]
        rfl
      · rw [if_neg fun both => member both.2]
        refine (filter_eq_self fun tunnel here => ?_).symm
        exact bne_iff_ne.2 fun same => member ((swept id).2 ⟨tunnel, here, same⟩)

omit typed in
theorem holds_touchSession (keyed : r.holds.Keyed)
    (alike : ∀ sess, r.holds.sessions id = some sess → (sess.touched t).SentAlike true)
    (played : play answer (touchSession id t) r ls = some out) :
    out.2.holds = r.holds.after fresh t (.touchSession id) := by
  obtain ⟨m, ⟨e, read, rfl, rfl⟩ | ⟨sess, rest, read, rfl, later⟩⟩ := play_touchSession played
  · have absent : r.holds.sessions id = none :=
      storedSession_of_failed (unexpired m List.mem_cons_self) read
    refine Holdings.ext (Function.update_eq_self_iff.2 ?_).symm rfl
    rw [absent]
    rfl
  · have found : r.holds.sessions id = some sess := storedSession_of_read read
    obtain rfl : sess.id = id := keyed id sess found
    have present : (r.storedSession sess.id).isSome = true := Option.isSome_of_eq_some found
    have sent : (sess.touched t).SentAlike (r.storedSession sess.id).isSome := by
      rw [present]
      exact alike sess found
    have updated : out.2.holds = r.holds.after fresh t (.updateSession sess) :=
      holds_updateSession sent later
    rw [updated]
    simp only [Holdings.after, stored, found, Option.map_some, Option.isSome_some, if_true]

end Methods

/-- **The Redis store in step.**  A call that meets `InStep` leaves the records created and not
deleted. -/
theorem holds_play (typed : r.Typed) (indexed : r.Indexed) (keyed : r.holds.Keyed)
    (inStep : r.holds.InStep l) (moved : r.plainStep l = some r') :
    r'.holds = r.holds.after l.fresh l.now l.call := by
  obtain ⟨unexpired, moved⟩ := Option.ite_none_right_eq_some.1 moved
  obtain ⟨⟨reply, last⟩, played, same⟩ := Option.map_eq_some_iff.1 moved
  obtain rfl : last = r' := same
  obtain ⟨call, plain, fresh, now, moments⟩ := l
  dsimp only at unexpired played ⊢
  have reads : last = r → last.holds = r.holds := congrArg holds
  cases call with
  | createSession sess =>
      obtain ⟨result, -, sent⟩ := play_map_eq_some.1 played
      exact holds_createSession typed unexpired plain inStep sent
  | updateSession sess =>
      obtain ⟨result, -, sent⟩ := play_map_eq_some.1 played
      exact holds_updateSession inStep sent
  | deleteSession id =>
      obtain ⟨result, -, sent⟩ := play_map_eq_some.1 played
      exact holds_deleteSession typed unexpired inStep sent
  | touchSession id =>
      obtain ⟨result, -, sent⟩ := play_map_eq_some.1 played
      exact holds_touchSession unexpired keyed inStep sent
  | createTunnel tunnel =>
      obtain ⟨result, -, sent⟩ := play_map_eq_some.1 played
      exact holds_createTunnel typed unexpired plain inStep sent
  | updateTunnel tunnel =>
      obtain ⟨result, -, sent⟩ := play_map_eq_some.1 played
      exact holds_updateTunnel inStep sent
  | deleteTunnel id =>
      obtain ⟨result, -, sent⟩ := play_map_eq_some.1 played
      exact holds_deleteTunnel typed unexpired sent
  | deleteTunnelsBySession sessionID =>
      obtain ⟨result, -, sent⟩ := play_map_eq_some.1 played
      exact holds_deleteTunnelsBySession typed unexpired indexed sent
  | getSession id => exact reads (((reads_getSession id).map _).store played)
  | listSessions filter => exact reads (((reads_listSessions filter).map _).store played)
  | countActiveSessions username =>
      exact reads ((((reads_listSessions _).map _).map _).store played)
  | getTunnel id => exact reads (((reads_getTunnel id).map _).store played)
  | listTunnels filter => exact reads (((reads_listTunnels filter).map _).store played)

/-- Such a call leaves the indexes right, too. -/
theorem keepsIndex_of_inStep (keyed : r.holds.Keyed) (owner : r.holds.KeepsOwner l)
    (inStep : r.holds.InStep l) : r.KeepsIndex l := by
  obtain ⟨call, plain, fresh, now, moments⟩ := l
  cases call with
  | createSession sess =>
      intro marshals
      have free := inStep.1.symm.trans marshals
      have kept : coerce sess.username = sess.username := congrArg Session.username (inStep.2 free)
      refine ⟨(coerce_eq_self_iff _).1 kept, fun old found => ?_⟩
      cases (Option.isNone_iff_eq_none.1 free).symm.trans found
  | updateSession sess =>
      intro marshals
      have there := inStep.1.symm.trans marshals
      have kept : coerce sess.username = sess.username := congrArg Session.username (inStep.2 there)
      obtain ⟨old, found⟩ := Option.isSome_iff_exists.1 there
      exact ⟨old, found, (owner old found).symm.trans kept.symm⟩
  | touchSession id =>
      intro sess found marshals
      have kept : coerce sess.username = sess.username :=
        congrArg Session.username ((inStep sess found).2 rfl)
      have same : sess.id = id := keyed id sess found
      exact ⟨sess, same ▸ found, kept.symm⟩
  | createTunnel tunnel =>
      intro marshals
      have free := inStep.1.symm.trans marshals
      have kept : coerce tunnel.sessionID = tunnel.sessionID :=
        congrArg Tunnel.sessionID (inStep.2 free)
      refine ⟨(coerce_eq_self_iff _).1 kept, fun old found => ?_⟩
      cases (Option.isNone_iff_eq_none.1 free).symm.trans found
  | updateTunnel tunnel =>
      intro marshals
      have there := inStep.1.symm.trans marshals
      have kept : coerce tunnel.sessionID = tunnel.sessionID :=
        congrArg Tunnel.sessionID (inStep.2 there)
      obtain ⟨old, found⟩ := Option.isSome_iff_exists.1 there
      exact ⟨old, found, (owner old found).symm.trans kept.symm⟩
  | deleteSession id => trivial
  | deleteTunnel id => trivial
  | deleteTunnelsBySession sessionID => trivial
  | getSession id => trivial
  | listSessions filter => trivial
  | countActiveSessions username => trivial
  | getTunnel id => trivial
  | listTunnels filter => trivial

end RedisStore

/-! ## Both stores in one run -/

/-- A call with the orders in which `MemoryStore` meets its maps. -/
structure MirroredCall extends PlainCall where
  sessionOrder : List Session
  tunnelOrder : List Tunnel

def MirroredCall.reading (l : MirroredCall) : MemoryRecords.Reading where
  fresh := l.fresh
  now := l.now
  sessionOrder := l.sessionOrder
  tunnelOrder := l.tunnelOrder

/-- A Redis store and an in-memory store that are sent the same calls. -/
structure Mirrored where
  redis : RedisStore
  memory : MemoryRecords

namespace Mirrored

variable {s s' : Mirrored} {l : MirroredCall}

def start : Mirrored := ⟨newRedisStore, newMemoryRecords⟩

/-- One call to each. -/
def step (s : Mirrored) (l : MirroredCall) : Option Mirrored :=
  if l.reading.Fits s.memory then
    (s.redis.plainStep l.toPlainCall).map fun redis =>
      ⟨redis, (s.memory.apply l.reading l.call).2⟩
  else none

/-- Both hold the same records, and the indexes are right. -/
structure Alike (s : Mirrored) : Prop where
  holds : s.redis.holds = s.memory.holds
  indexed : s.redis.Indexed
  typed : s.redis.Typed

def KeepsOwner (s : Mirrored) (l : MirroredCall) : Prop :=
  s.memory.holds.KeepsOwner l.toPlainCall

def InStep (s : Mirrored) (l : MirroredCall) : Prop := s.memory.holds.InStep l.toPlainCall

theorem keyed_memory (m : MemoryRecords) : m.holds.Keyed := fun _ _ found => Table.key_of_get found

theorem alike_start : start.Alike where
  holds := rfl
  indexed := RedisStore.indexed_new
  typed := RedisStore.typed_new

theorem alike_step (alike : s.Alike) (held : s.KeepsOwner l ∧ s.InStep l)
    (moved : s.step l = some s') : s'.Alike := by
  obtain ⟨owner, inStep⟩ := held
  obtain ⟨-, moved⟩ := Option.ite_none_right_eq_some.1 moved
  obtain ⟨redis, played, rfl⟩ := Option.map_eq_some_iff.1 moved
  have keyed := keyed_memory s.memory
  rw [KeepsOwner, ← alike.holds] at owner
  rw [InStep, ← alike.holds] at inStep
  rw [← alike.holds] at keyed
  obtain ⟨typed, right⟩ := RedisStore.indexed_step alike.indexed alike.typed played
  refine ⟨?_, right.2 (RedisStore.keepsIndex_of_inStep keyed owner inStep), typed⟩
  have after := RedisStore.holds_play alike.typed alike.indexed keyed inStep played
  rw [after, alike.holds]
  exact (s.memory.holds_apply l.reading l.call).symm

/-- **Runs in step.** -/
theorem alike_run {calls : List MirroredCall} (owners : Along step KeepsOwner start calls)
    (inStep : Along step InStep start calls) (ran : exec step start calls = some s) : s.Alike :=
  exec_invariant_along (fun _ _ _ => alike_step) alike_start (owners.and inStep) ran

end Mirrored

end SentinelOps.Store
