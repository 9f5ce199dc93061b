/-
# Store.RedisIndex — the two indexes that the Redis store keeps by hand

`user:sessions:u` should list the sessions of `u` and `session:tunnels:s` the tunnels of `s`.
Both are a `Filing` over the keys (`filing`), one for each `Kind` of record, and every call does
one of four things to one of them: it files a record (`filing_create`), writes it again without
the index (`filing_update`), removes it (`filing_delete`) or sweeps all that are listed for a
session (`filing_sweep`).

`indexed_iff` says exactly which runs keep both indexes right: those in which a create meets no
record of that ID with another owner, an update meets the record it updates and leaves the
owner, and every owner is UTF-8.
-/
import SentinelOps.Store.RedisKeys
import SentinelOps.Theory.Filing

namespace SentinelOps.Store

open Theory GoText Schedule Script
open GoTime (Time Duration)

set_option autoImplicit false

/-! ## Kinds of records -/

/-- The records that have an index. -/
inductive Kind where
  | sessions
  | tunnels
deriving DecidableEq

namespace Kind

def record : Kind → GoString → RedisKey
  | sessions, id => .session id
  | tunnels, id => .tunnel id

def index : Kind → GoString → RedisKey
  | sessions, username => .userSessions username
  | tunnels, sessionID => .sessionTunnels sessionID

/-- The field that is indexed. -/
def owner : Kind → Document → Option GoString
  | sessions, doc => doc.unmarshalSession.map Session.username
  | tunnels, doc => doc.unmarshalTunnel.map Tunnel.sessionID

theorem record_eq_iff {kind kind' : Kind} {id id' : GoString} :
    (kind.record id).render = (kind'.record id').render ↔ kind = kind' ∧ id = id' := by
  rw [RedisKey.render_eq_iff]
  constructor
  · rintro (same | collide | collide)
    · cases kind <;> cases kind' <;> cases same <;> exact ⟨rfl, rfl⟩
    · cases kind <;> cases kind' <;> cases collide
    · cases kind <;> cases kind' <;> cases collide
  · rintro ⟨rfl, rfl⟩
    exact .inl rfl

theorem index_eq_iff {kind kind' : Kind} {o o' : GoString} :
    (kind.index o).render = (kind'.index o').render ↔ kind = kind' ∧ o = o' := by
  rw [RedisKey.render_eq_iff]
  constructor
  · rintro (same | collide | collide)
    · cases kind <;> cases kind' <;> cases same <;> exact ⟨rfl, rfl⟩
    · cases kind <;> cases kind' <;> cases collide
    · cases kind <;> cases kind' <;> cases collide
  · rintro ⟨rfl, rfl⟩
    exact .inl rfl

/-- Without a colon in its ID, a record has a key that is no index. -/
theorem record_ne_index {kind kind' : Kind} {id o : GoString} (plain : 0x3A ∉ id) :
    (kind.record id).render ≠ (kind'.index o).render := by
  rw [Ne, RedisKey.render_eq_iff]
  rintro (same | collide | collide)
  · cases kind <;> cases kind' <;> cases same
  · cases kind <;> cases kind' <;> cases collide
    exact plain (List.mem_append_left _ (by decide))
  · cases kind <;> cases kind' <;> cases collide

theorem tunnels_ne_index {kind : Kind} {id o : GoString} :
    (tunnels.record id).render ≠ (kind.index o).render := by
  rw [Ne, RedisKey.render_eq_iff]
  rintro (same | collide | collide)
  · cases kind <;> cases same
  · cases kind <;> cases collide
  · cases kind <;> cases collide

end Kind

namespace RedisStore

variable {r r' : RedisStore} {now : Time} {kind : Kind} {id o : GoString} {doc : Document}

/-- The owners and the lists of one kind of record. -/
def filing (r : RedisStore) (kind : Kind) : Filing GoString GoString where
  owner := fun id => (r.document (kind.record id).render).bind kind.owner
  members := fun o => {id | id ∈ r.members (kind.index o).render}

/-- **The indexes are right.**  A session is listed for a user exactly when it is stored with
that username, and a tunnel for a session exactly when it is stored with that session ID. -/
def Indexed (r : RedisStore) : Prop :=
  (∀ u id, id ∈ r.members (userSessionsKey u) ↔
    ∃ sess, r.storedSession id = some sess ∧ sess.username = u) ∧
  (∀ s id, id ∈ r.members (sessionTunnelsKey s) ↔
    ∃ tunnel, r.storedTunnel id = some tunnel ∧ tunnel.sessionID = s)

theorem owner_sessions (r : RedisStore) (id : GoString) :
    (r.filing .sessions).owner id = (r.storedSession id).map Session.username := by
  show (r.document (sessionKey id)).bind _ = ((r.document (sessionKey id)).bind _).map _
  cases r.document (sessionKey id) <;> rfl

theorem owner_tunnels (r : RedisStore) (id : GoString) :
    (r.filing .tunnels).owner id = (r.storedTunnel id).map Tunnel.sessionID := by
  show (r.document (tunnelKey id)).bind _ = ((r.document (tunnelKey id)).bind _).map _
  cases r.document (tunnelKey id) <;> rfl

theorem indexed_iff_exact : r.Indexed ↔ ∀ kind, (r.filing kind).Exact := by
  constructor
  · rintro ⟨sessions, tunnels⟩ kind o id
    cases kind with
    | sessions =>
        rw [owner_sessions, Option.map_eq_some_iff]
        exact sessions o id
    | tunnels =>
        rw [owner_tunnels, Option.map_eq_some_iff]
        exact tunnels o id
  · intro exact
    constructor
    · intro u id
      rw [← Option.map_eq_some_iff, ← owner_sessions]
      exact exact .sessions u id
    · intro s id
      rw [← Option.map_eq_some_iff, ← owner_tunnels]
      exact exact .tunnels s id

/-! ## What a write does to a filing -/

/-- The keys of the indexes hold sets, and no session that is stored has a colon in its ID. -/
structure Typed (r : RedisStore) : Prop where
  sets : ∀ kind o, r.IsSet (Kind.index kind o).render
  plain : ∀ id sess, r.storedSession id = some sess → 0x3A ∉ sess.id

theorem Typed.ne_index (typed : r.Typed) {k : GoString} (here : r.document k = some doc) :
    k ≠ (kind.index o).render := by
  rintro rfl
  rw [(typed.sets kind o).document] at here
  cases here

/-- The filings after a write to the records and the lists of one kind. -/
theorem filing_eq_update {x : Filing GoString GoString}
    (owner : ∀ kind' id', (r'.filing kind').owner id' =
      if kind' = kind then x.owner id' else (r.filing kind').owner id')
    (members : ∀ kind' o, (r'.filing kind').members o =
      if kind' = kind then x.members o else (r.filing kind').members o) :
    r'.filing = Function.update r.filing kind x := by
  funext kind'
  by_cases same : kind' = kind
  · subst same
    rw [Function.update_self]
    exact Filing.ext (funext fun id' => (owner kind' id').trans (if_pos rfl))
      (funext fun o => (members kind' o).trans (if_pos rfl))
  · rw [Function.update_of_ne same]
    exact Filing.ext (funext fun id' => (owner kind' id').trans (if_neg same))
      (funext fun o => (members kind' o).trans (if_neg same))

/-- The owners when one record is written or deleted. -/
theorem owner_of_document {value : Option Document}
    (documents : ∀ k, r'.document k =
      if k = (kind.record id).render then value else r.document k) (kind' : Kind) (id' : GoString) :
    (r'.filing kind').owner id' =
      if kind' = kind then
        Function.update (r.filing kind).owner id (value.bind kind.owner) id'
      else (r.filing kind').owner id' := by
  show (r'.document _).bind _ = _
  rw [documents]
  by_cases same : kind' = kind
  · subst same
    by_cases mine : id' = id
    · subst mine
      rw [if_pos rfl, if_pos rfl, Function.update_self]
    · rw [if_neg fun h => mine (Kind.record_eq_iff.1 h).2, if_pos rfl, Function.update_of_ne mine]
      rfl
  · rw [if_neg fun h => same (Kind.record_eq_iff.1 h).1, if_neg same]
    rfl

/-- The lists when one of them is written or deleted. -/
theorem members_of_list {listed : GoString} (set : Finset GoString)
    (members : ∀ (kind' : Kind) (o : GoString), r'.members (kind'.index o).render =
      if (kind'.index o).render = (kind.index listed).render then set
      else r.members (kind'.index o).render) (kind' : Kind) (o : GoString) :
    (r'.filing kind').members o =
      if kind' = kind then Function.update (r.filing kind).members listed ↑set o
      else (r.filing kind').members o := by
  show {id | id ∈ r'.members _} = _
  rw [members]
  by_cases same : kind' = kind
  · subst same
    by_cases mine : o = listed
    · subst mine
      rw [if_pos rfl, if_pos rfl, Function.update_self]
      rfl
    · rw [if_neg fun h => mine (Kind.index_eq_iff.1 h).2, if_pos rfl, Function.update_of_ne mine]
      rfl
  · rw [if_neg fun h => same (Kind.index_eq_iff.1 h).1, if_neg same]
    rfl

theorem members_unlisted
    (members : ∀ kind' o, r'.members (Kind.index kind' o).render =
      r.members (Kind.index kind' o).render) (kind' : Kind) (o : GoString) :
    (r'.filing kind').members o =
      if kind' = kind then (r.filing kind).members o else (r.filing kind').members o := by
  have same : (r'.filing kind').members o = (r.filing kind').members o := by
    show {id | id ∈ r'.members _} = {id | id ∈ r.members _}
    rw [members]
  split
  · next mine => exact mine ▸ same
  · exact same

/-- A record is written and its list is left. -/
theorem filing_update (kind : Kind) (plain : 0x3A ∉ id) {said : GoString}
    (names : kind.owner doc = some said) (e : Duration) (now : Time) :
    (r.setValue (kind.record id).render (.document doc) e now).filing =
      Function.update r.filing kind ((r.filing kind).refile id said) := by
  refine filing_eq_update (fun kind' id' => ?_) (fun kind' o => ?_)
  · refine (owner_of_document (fun k => document_setValue ..) kind' id').trans ?_
    rw [Option.bind_some, names]
    rfl
  · refine (members_unlisted (fun kind' o => ?_) kind' o)
    exact (members_setValue ..).trans (if_neg (Kind.record_ne_index plain).symm)

/-- The lists after a write to a record are as they were. -/
theorem Typed.list_of_kept (typed : r.Typed) (unexpired : r.NoneExpired now)
    (kept : ∀ kind o, r'.keys.get (Kind.index kind o).render =
      r.keys.get (Kind.index kind o).render) (kind : Kind) (o : GoString) :
    r'.IsSet (kind.index o).render ∧
      r'.live (kind.index o).render now = r'.keys.get (kind.index o).render := by
  constructor
  · intro entry here
    rw [kept] at here
    exact typed.sets kind o entry here
  · rw [live_congr (kept kind o), live_eq_get unexpired, kept]

theorem index_after_set (r : RedisStore) (kind : Kind) (plain : 0x3A ∉ id) (doc : Document)
    (e : Duration) (now : Time) (kind' : Kind) (o : GoString) :
    (r.setValue (kind.record id).render (.document doc) e now).keys.get (kind'.index o).render =
      r.keys.get (kind'.index o).render :=
  (get_setKey ..).trans (if_neg (Kind.record_ne_index plain).symm)

theorem Typed.index_after_del (typed : r.Typed)
    (here : r.document (kind.record id).render = some doc) (kind' : Kind) (o : GoString) :
    (r.delKey (kind.record id).render).keys.get (kind'.index o).render =
      r.keys.get (kind'.index o).render :=
  (get_delKey ..).trans (if_neg (typed.ne_index here).symm)

/-- The documents after a record is written and listed. -/
theorem Typed.document_create (typed : r.Typed) (unexpired : r.NoneExpired now) (kind : Kind)
    (plain : 0x3A ∉ id) (doc : Document) (listed : GoString) (e : Duration) (k : GoString) :
    (r.commit now [.set (kind.record id).render (.document doc) e,
      .sAdd (kind.index listed).render id]).2.document k =
    if k = (kind.record id).render then some doc else r.document k := by
  have kept := index_after_set r kind plain doc e now
  obtain ⟨set, live⟩ := typed.list_of_kept unexpired kept kind listed
  exact (document_sAdd set live id k).trans (document_setValue ..)

/-- The documents after a record is deleted and taken from its list. -/
theorem Typed.document_delete (typed : r.Typed) (unexpired : r.NoneExpired now) (kind : Kind)
    (here : r.document (kind.record id).render = some doc) (listed k : GoString) :
    (r.commit now [.del (kind.record id).render,
      .sRem (kind.index listed).render id]).2.document k =
    if k = (kind.record id).render then none else r.document k := by
  obtain ⟨set, live⟩ := typed.list_of_kept unexpired (typed.index_after_del here) kind listed
  exact (document_sRem set live id k).trans (document_delKey ..)

/-- A record is written and listed. -/
theorem filing_create (kind : Kind) (typed : r.Typed) (unexpired : r.NoneExpired now)
    (plain : 0x3A ∉ id) {said : GoString} (names : kind.owner doc = some said) (listed : GoString)
    (e : Duration) :
    (r.commit now [.set (kind.record id).render (.document doc) e,
      .sAdd (kind.index listed).render id]).2.filing =
    Function.update r.filing kind ((r.filing kind).file id said listed) := by
  refine filing_eq_update (fun kind' id' => ?_) (fun kind' o => ?_)
  · refine (owner_of_document (typed.document_create unexpired kind plain doc listed e)
      kind' id').trans ?_
    rw [Option.bind_some, names]
    rfl
  · have kept := index_after_set r kind plain doc e now
    obtain ⟨set, live⟩ := typed.list_of_kept unexpired kept kind listed
    have lists : ∀ (kind' : Kind) (o : GoString),
        (r.commit now [.set (kind.record id).render (.document doc) e,
          .sAdd (kind.index listed).render id]).2.members (kind'.index o).render =
          if (kind'.index o).render = (kind.index listed).render then
            insert id (r.members (kind.index listed).render)
          else r.members (kind'.index o).render := by
      intro kind' o
      refine (members_sAdd set live id _).trans ?_
      rw [members_congr (kept kind listed), members_congr (kept kind' o)]
    rw [members_of_list _ lists, Finset.coe_insert]
    rfl

/-- A record is deleted and taken from its list. -/
theorem filing_delete (kind : Kind) (typed : r.Typed) (unexpired : r.NoneExpired now)
    (here : r.document (kind.record id).render = some doc) (listed : GoString) :
    (r.commit now [.del (kind.record id).render, .sRem (kind.index listed).render id]).2.filing =
      Function.update r.filing kind ((r.filing kind).remove id listed) := by
  refine filing_eq_update (fun kind' id' => ?_) (fun kind' o => ?_)
  · exact owner_of_document (typed.document_delete unexpired kind here listed) kind' id'
  · have kept := typed.index_after_del here
    obtain ⟨set, live⟩ := typed.list_of_kept unexpired kept kind listed
    have lists : ∀ (kind' : Kind) (o : GoString),
        (r.commit now [.del (kind.record id).render,
          .sRem (kind.index listed).render id]).2.members (kind'.index o).render =
          if (kind'.index o).render = (kind.index listed).render then
            (r.members (kind.index listed).render).erase id
          else r.members (kind'.index o).render := by
      intro kind' o
      refine (members_sRem set live id _).trans ?_
      rw [members_congr (kept kind listed), members_congr (kept kind' o)]
    rw [members_of_list _ lists, Finset.coe_erase]
    rfl

theorem mem_sweptKeys_record {ids : List GoString} (sessionID : GoString) (kind : Kind)
    (id : GoString) :
    (kind.record id).render ∈ sweptKeys sessionID ids ↔
      (kind = .tunnels ∧ id ∈ ids) ∨ (kind.record id).render = sessionTunnelsKey sessionID := by
  rw [sweptKeys, List.mem_append, List.mem_singleton, List.mem_map]
  refine or_congr_left ⟨?_, ?_⟩
  · rintro ⟨id', member, same⟩
    have one : (Kind.record .tunnels id').render = (kind.record id).render := same
    obtain ⟨rfl, rfl⟩ := Kind.record_eq_iff.1 one
    exact ⟨rfl, member⟩
  · rintro ⟨rfl, member⟩
    exact ⟨id, member, rfl⟩

theorem mem_sweptKeys_index {ids : List GoString} (sessionID : GoString) (kind : Kind)
    (o : GoString) :
    (kind.index o).render ∈ sweptKeys sessionID ids ↔
      (kind.index o).render = (Kind.index .tunnels sessionID).render := by
  rw [sweptKeys, List.mem_append, List.mem_singleton, List.mem_map]
  refine ⟨?_, .inr⟩
  rintro (⟨id, -, same⟩ | same)
  · exact absurd same Kind.tunnels_ne_index
  · exact same

/-- The records after every tunnel that is listed for a session is deleted, and the list. -/
theorem Typed.document_sweep (typed : r.Typed) (sessionID : GoString) (ids : List GoString)
    (now : Time) (kind : Kind) (id : GoString) :
    (writeAll now r ((sweptKeys sessionID ids).map .del)).2.document (kind.record id).render =
      if kind = .tunnels ∧ id ∈ ids then none else r.document (kind.record id).render := by
  have get := get_writeAll_del now (sweptKeys sessionID ids) (kind.record id).render r
  by_cases swept : (kind.record id).render ∈ sweptKeys sessionID ids
  · rw [RedisStore.document, get, if_pos swept]
    rcases (mem_sweptKeys_record ..).1 swept with tunnel | index
    · rw [if_pos tunnel]
    · -- a session in the place of the index holds no document
      have none_here : r.document (kind.record id).render = none :=
        index ▸ (typed.sets .tunnels sessionID).document
      rw [none_here, ite_self]
  · rw [document_congr (get.trans (if_neg swept)), if_neg]
    exact fun tunnel => swept ((mem_sweptKeys_record ..).2 (.inl tunnel))

/-- Every tunnel that is listed for a session is deleted, and the list. -/
theorem filing_sweep (typed : r.Typed) (sessionID : GoString) {ids : List GoString}
    (listed : ∀ id, id ∈ ids ↔ id ∈ r.members (sessionTunnelsKey sessionID)) (now : Time) :
    (writeAll now r ((sweptKeys sessionID ids).map .del)).2.filing =
      Function.update r.filing .tunnels ((r.filing .tunnels).sweep sessionID) := by
  have get := fun k => get_writeAll_del now (sweptKeys sessionID ids) k r
  refine filing_eq_update (fun kind id => ?_) (fun kind o => ?_)
  · show ((RedisStore.document _ _).bind _) = _
    rw [typed.document_sweep]
    by_cases same : kind = .tunnels
    · subst same
      simp only [true_and, if_true, Filing.sweep]
      have mem : id ∈ (r.filing .tunnels).members sessionID ↔ id ∈ ids := (listed id).symm
      by_cases member : id ∈ ids
      · rw [if_pos member, if_pos (mem.2 member)]
        rfl
      · rw [if_neg member, if_neg fun h => member (mem.1 h)]
        rfl
    · rw [if_neg fun tunnel => same tunnel.1, if_neg same]
      rfl
  · have lists : ∀ (kind : Kind) (o : GoString),
        (writeAll now r ((sweptKeys sessionID ids).map .del)).2.members (kind.index o).render =
          if (kind.index o).render = (Kind.index .tunnels sessionID).render then ∅
          else r.members (kind.index o).render := by
      intro kind o
      split
      · next same =>
          rw [members, get, if_pos ((mem_sweptKeys_index ..).2 same)]
      · next apart =>
          exact members_congr ((get _).trans
            (if_neg fun swept => apart ((mem_sweptKeys_index ..).1 swept)))
    rw [members_of_list _ lists, Finset.coe_empty]
    rfl

/-! ## The types of the keys -/

/-- A write that stores a session does so under a key that is no index and with a plain ID. -/
def PlainWrite : Write → Prop
  | .set k value _ => (∀ kind o, k ≠ (Kind.index kind o).render) ∧
      ∃ doc, value = .document doc ∧
        ∀ id sess, k = sessionKey id → doc.unmarshalSession = some sess → 0x3A ∉ sess.id
  | _ => True

/-- What a write can leave under its own key. -/
theorem get_write_self (r : RedisStore) (now : Time) (w : Write) :
    (r.write now w).2.keys.get w.key = r.keys.get w.key ∨
      (r.write now w).2.keys.get w.key = none ∨
      (∃ set expireAt, (r.write now w).2.keys.get w.key = some ⟨.members set, expireAt⟩) ∨
      ∃ value e expireAt, w = .set w.key value e ∧
        (r.write now w).2.keys.get w.key = some ⟨value, expireAt⟩ := by
  cases w with
  | set k value e =>
      exact .inr (.inr (.inr ⟨value, e, _, rfl, (get_setKey ..).trans (if_pos rfl)⟩))
  | del k => exact .inr (.inl ((get_delKey ..).trans (if_pos rfl)))
  | sAdd k member =>
      simp only [RedisStore.write]
      split
      · exact .inr (.inr (.inl ⟨_, _, (get_setKey ..).trans (if_pos rfl)⟩))
      · split
        · exact .inr (.inr (.inl ⟨_, _, (get_setKey ..).trans (if_pos rfl)⟩))
        · exact .inl rfl
  | sRem k member =>
      simp only [RedisStore.write]
      split
      · exact .inl rfl
      · split
        · split
          · exact .inr (.inl ((get_delKey ..).trans (if_pos rfl)))
          · exact .inr (.inr (.inl ⟨_, _, (get_setKey ..).trans (if_pos rfl)⟩))
        · exact .inl rfl

/-- A set that is written to stays a set. -/
theorem IsSet.write {k : GoString} (set : r.IsSet k) {w : Write}
    (other : ∀ value e, w ≠ .set k value e) : (r.write now w).2.IsSet k := by
  intro entry here
  by_cases same : k = w.key
  · subst same
    rcases r.get_write_self now w with kept | gone | ⟨members, e, left⟩ | ⟨value, e, -, written, -⟩
    · exact set entry (kept ▸ here)
    · rw [gone] at here
      cases here
    · rw [left] at here
      cases here
      exact ⟨members, rfl⟩
    · exact absurd written (other value e)
  · rw [get_write _ _ same] at here
    exact set entry here

/-- A document found after a write was there before it, or is the one that was written. -/
theorem document_write {k : GoString} {w : Write}
    (found : (r.write now w).2.document k = some doc) :
    r.document k = some doc ∨ ∃ e, w = .set k (.document doc) e := by
  by_cases same : k = w.key
  · subst same
    rcases r.get_write_self now w with kept | gone | ⟨members, e, left⟩ |
      ⟨value, e, expireAt, written, left⟩
    · exact .inl ((document_congr kept).symm.trans found)
    · rw [document, gone] at found
      cases found
    · rw [document, left] at found
      cases found
    · rw [document, left] at found
      cases value with
      | document doc' =>
          cases found
          exact .inr ⟨e, written⟩
      | _ => cases found
  · exact .inl ((document_congr (get_write _ _ same)).symm.trans found)

theorem Typed.write (typed : r.Typed) {w : Write} (plain : PlainWrite w) :
    (r.write now w).2.Typed := by
  constructor
  · intro kind o
    refine (typed.sets kind o).write fun value e same => ?_
    subst same
    exact plain.1 kind o rfl
  · intro id sess stored
    obtain ⟨doc, found, decoded⟩ := Option.bind_eq_some_iff.1 stored
    rcases document_write found with before | ⟨e, rfl⟩
    · exact typed.plain id sess (Option.bind_eq_some_iff.2 ⟨doc, before, decoded⟩)
    · obtain ⟨-, doc', same, ids⟩ := plain
      cases same
      exact ids id sess rfl decoded

theorem Typed.commit_pair (typed : r.Typed) {first second : Write} (plain : PlainWrite first)
    (plain' : PlainWrite second) : (r.commit now [first, second]).2.Typed :=
  (typed.write plain).write plain'

theorem Typed.writeAll_del (typed : r.Typed) (ks : List GoString) :
    (writeAll now r (ks.map .del)).2.Typed := by
  induction ks generalizing r with
  | nil => exact typed
  | cons k ks ih =>
      have next : (r.write now (.del k)).2.Typed := typed.write trivial
      exact ih next

theorem plainWrite_session (sess : Session) (plain : 0x3A ∉ sess.id) {data : Document}
    (marshalled : sess.marshal = some data) (e : Duration) :
    PlainWrite (.set (sessionKey sess.id) (.document data) e) := by
  have apart : ∀ kind o, (Kind.record .sessions sess.id).render ≠ (Kind.index kind o).render :=
    fun kind o => Kind.record_ne_index plain
  refine ⟨apart, data, rfl, fun id sess' _ decoded => ?_⟩
  obtain ⟨-, rfl⟩ := Session.marshal_eq_some.1 marshalled
  rw [Session.unmarshal_document] at decoded
  cases decoded
  exact fun member => plain (mem_of_mem_coerce member (by decide))

theorem plainWrite_tunnel (id : GoString) (data : Document) (e : Duration) :
    PlainWrite (.set (tunnelKey id) (.document data) e) := by
  refine ⟨fun kind o => Kind.tunnels_ne_index, data, rfl, fun id' sess same => ?_⟩
  have one : (Kind.record .tunnels id).render = (Kind.record .sessions id').render := same
  cases (Kind.record_eq_iff.1 one).1

end RedisStore

/-! ## Runs -/

/-- The ID of a record that is written has no colon. -/
def RecordCall.PlainID : RecordCall → Prop
  | .createSession sess => 0x3A ∉ sess.id
  | .updateSession sess => 0x3A ∉ sess.id
  | .createTunnel tunnel => 0x3A ∉ tunnel.id
  | .updateTunnel tunnel => 0x3A ∉ tunnel.id
  | _ => True

instance (call : RecordCall) : Decidable call.PlainID := by
  cases call <;> unfold RecordCall.PlainID <;> infer_instance

/-- A call with such an ID, the UUID and the clock of the client, and the moments of its
commands. -/
structure PlainCall where
  call : RecordCall
  plain : call.PlainID
  fresh : Uuid
  now : Time
  moments : List Moment

theorem identified_plain {id : GoString} (plain : 0x3A ∉ id) (fresh : Uuid) :
    0x3A ∉ identified id fresh := by
  unfold identified
  split
  · exact fun member => (fresh.ascii member).2 rfl
  · exact plain

namespace RedisStore

variable {l : PlainCall}

/-- One call of a sequential run, at no moment of which a key is expired. -/
def plainStep (r : RedisStore) (l : PlainCall) : Option RedisStore :=
  if ∀ m ∈ l.moments, r.NoneExpired m.now then
    (play answer (script l.call l.fresh l.now) r l.moments).map Prod.snd
  else none

/-- An update of a session meets it, and with the same username. -/
def UpdateKeeps (r : RedisStore) (sess : Session) (now : Time) : Prop :=
  (sess.touched now).marshals = true →
    ∃ old, r.storedSession sess.id = some old ∧ old.username = coerce sess.username

/-- What it takes for a call to leave the indexes right: a create writes an owner that reads
back as it was written and meets no record of another owner; an update meets the record, and
with the same owner.  A record that `json.Marshal` refuses is not written. -/
def KeepsIndex (r : RedisStore) (l : PlainCall) : Prop :=
  match l.call with
  | .createSession sess => (sess.stamped l.fresh l.now).marshals = true →
      validString sess.username = true ∧
        ∀ old, r.storedSession (identified sess.id l.fresh) = some old →
          old.username = sess.username
  | .updateSession sess => r.UpdateKeeps sess l.now
  | .touchSession id => ∀ sess, r.storedSession id = some sess → r.UpdateKeeps sess l.now
  | .createTunnel tunnel => (tunnel.stamped l.fresh l.now).marshals = true →
      validString tunnel.sessionID = true ∧
        ∀ old, r.storedTunnel (identified tunnel.id l.fresh) = some old →
          old.sessionID = tunnel.sessionID
  | .updateTunnel tunnel => tunnel.marshals = true →
      ∃ old, r.storedTunnel tunnel.id = some old ∧ old.sessionID = coerce tunnel.sessionID
  | _ => True

variable {r r' : RedisStore} {kind : Kind} {doc : Document}

theorem owner_of_marshal_session {sess : Session} (marshalled : sess.marshal = some doc) :
    Kind.sessions.owner doc = some (coerce sess.username) := by
  obtain ⟨-, rfl⟩ := Session.marshal_eq_some.1 marshalled
  rw [Kind.owner, Session.unmarshal_document]
  rfl

theorem owner_of_marshal_tunnel {tunnel : Tunnel} (marshalled : tunnel.marshal = some doc) :
    Kind.tunnels.owner doc = some (coerce tunnel.sessionID) := by
  obtain ⟨-, rfl⟩ := Tunnel.marshal_eq_some.1 marshalled
  rw [Kind.owner, Tunnel.unmarshal_document]
  rfl

theorem forall_map_eq_some {T U : Type} {o : Option T} {f : T → U} {b : U} :
    (∀ u, o.map f = some u → u = b) ↔ ∀ v, o = some v → f v = b := by
  cases o with
  | none => simp
  | some v => simp

/-- The indexes after a write to one filing are right when that filing is. -/
theorem indexed_of_filing {x : Filing GoString GoString} (indexed : r.Indexed)
    (after : r'.filing = Function.update r.filing kind x) : r'.Indexed ↔ x.Exact := by
  rw [indexed_iff_exact, after]
  have others := indexed_iff_exact.1 indexed
  constructor
  · intro every
    have mine := every kind
    rwa [Function.update_self] at mine
  · intro exact kind'
    by_cases same : kind' = kind
    · subst same
      rwa [Function.update_self]
    · rw [Function.update_of_ne same]
      exact others kind'

/-! ### One call -/

section Step

variable (indexed : r.Indexed)
include indexed

/-- A record that is written again. -/
theorem indexed_set (kind : Kind) {id said : GoString} (plain : 0x3A ∉ id)
    (names : kind.owner doc = some said) (now : Time) :
    (r.setValue (kind.record id).render (.document doc) day now).Indexed ↔
      (r.filing kind).owner id = some said := by
  rw [indexed_of_filing indexed (filing_update kind plain names day now)]
  exact Filing.exact_refile_iff (indexed_iff_exact.1 indexed kind)

variable (typed : r.Typed)
include typed

/-- A record that is written and listed. -/
theorem indexed_create (kind : Kind) {now : Time} (unexpired : r.NoneExpired now)
    {id listed : GoString} (plain : 0x3A ∉ id) (names : kind.owner doc = some (coerce listed)) :
    (r.commit now [.set (kind.record id).render (.document doc) day,
        .sAdd (kind.index listed).render id]).2.Indexed ↔
      validString listed = true ∧ ∀ old, (r.filing kind).owner id = some old → old = listed := by
  rw [indexed_of_filing indexed (filing_create kind typed unexpired plain names listed day),
    Filing.exact_file_iff (indexed_iff_exact.1 indexed kind), coerce_eq_self_iff]

/-- A record that is deleted with its entry in the list of its owner. -/
theorem indexed_delete (kind : Kind) {now : Time} (unexpired : r.NoneExpired now)
    {id listed : GoString} (here : r.document (kind.record id).render = some doc)
    (names : kind.owner doc = some listed) :
    (r.commit now [.del (kind.record id).render,
        .sRem (kind.index listed).render id]).2.Indexed := by
  rw [indexed_of_filing indexed (filing_delete kind typed unexpired here listed)]
  refine (indexed_iff_exact.1 indexed kind).remove ?_
  show (r.document _).bind _ = _
  rw [here]
  exact names

section Methods

variable {sess : Session} {tunnel : Tunnel} {id : GoString} {fresh : Uuid} {t : Time}
variable {ls : List Moment} {out : Except StoreError Unit × RedisStore}

theorem indexed_createSession (unexpired : ∀ m ∈ ls, r.NoneExpired m.now) (plain : 0x3A ∉ sess.id)
    (played : play answer (createSession sess fresh t) r ls = some out) :
    out.2.Typed ∧ (out.2.Indexed ↔ ((sess.stamped fresh t).marshals = true →
      validString sess.username = true ∧
        ∀ old, r.storedSession (identified sess.id fresh) = some old →
          old.username = sess.username)) := by
  rcases play_createSession played with ⟨refused, -, rfl⟩ | ⟨doc, m, data, rfl, rfl⟩
  · exact ⟨typed, iff_of_true indexed fun marshals =>
      absurd marshals (Session.marshal_eq_none.1 refused)⟩
  · have named := identified_plain plain fresh
    have filed := indexed_create indexed typed .sessions (unexpired m List.mem_cons_self) named
      (owner_of_marshal_session data)
    rw [owner_sessions, forall_map_eq_some] at filed
    refine ⟨typed.commit_pair (plainWrite_session _ named data day) trivial, filed.trans ?_⟩
    exact ⟨fun keeps _ => keeps, fun keeps => keeps (Session.marshal_eq_some.1 data).1⟩

theorem indexed_updateSession (plain : 0x3A ∉ sess.id)
    (played : play answer (updateSession sess t) r ls = some out) :
    out.2.Typed ∧ (out.2.Indexed ↔ r.UpdateKeeps sess t) := by
  rcases play_updateSession played with ⟨refused, -, rfl⟩ | ⟨doc, m, data, -, rfl⟩
  · exact ⟨typed, iff_of_true indexed fun marshals =>
      absurd marshals (Session.marshal_eq_none.1 refused)⟩
  · refine ⟨typed.write (plainWrite_session (sess.touched t) plain data day),
      (indexed_set indexed .sessions plain (owner_of_marshal_session data) m.now).trans ?_⟩
    rw [owner_sessions, Option.map_eq_some_iff]
    exact ⟨fun stored _ => stored, fun keeps => keeps (Session.marshal_eq_some.1 data).1⟩

theorem indexed_touchSession (unexpired : ∀ m ∈ ls, r.NoneExpired m.now)
    (played : play answer (touchSession id t) r ls = some out) :
    out.2.Typed ∧ (out.2.Indexed ↔
      ∀ sess, r.storedSession id = some sess → r.UpdateKeeps sess t) := by
  obtain ⟨m, ⟨e, read, rfl, rfl⟩ | ⟨sess, rest, read, rfl, later⟩⟩ := play_touchSession played
  · have absent := storedSession_of_failed (unexpired m List.mem_cons_self) read
    refine ⟨typed, iff_of_true indexed fun sess stored => ?_⟩
    cases absent.symm.trans stored
  · have stored := storedSession_of_read read
    have plain := typed.plain id sess stored
    obtain ⟨still, keeps⟩ := indexed_updateSession indexed typed plain later
    refine ⟨still, keeps.trans ⟨fun keeps sess' stored' => ?_, fun keeps => keeps sess stored⟩⟩
    cases stored.symm.trans stored'
    exact keeps

theorem indexed_deleteSession (unexpired : ∀ m ∈ ls, r.NoneExpired m.now)
    (played : play answer (deleteSession id) r ls = some out) : out.2.Typed ∧ out.2.Indexed := by
  obtain ⟨m, ⟨e, -, -, rfl⟩ | ⟨sess, m', read, rfl, rfl⟩⟩ := play_deleteSession played
  · exact ⟨typed, indexed⟩
  · obtain ⟨doc, here, decoded⟩ := Option.bind_eq_some_iff.1 (storedSession_of_read read)
    have names : Kind.sessions.owner doc = some sess.username := by
      rw [Kind.owner, decoded]
      rfl
    exact ⟨typed.commit_pair trivial trivial,
      indexed_delete indexed typed .sessions (unexpired m' (by simp)) here names⟩

theorem indexed_createTunnel (unexpired : ∀ m ∈ ls, r.NoneExpired m.now) (plain : 0x3A ∉ tunnel.id)
    (played : play answer (createTunnel tunnel fresh t) r ls = some out) :
    out.2.Typed ∧ (out.2.Indexed ↔ ((tunnel.stamped fresh t).marshals = true →
      validString tunnel.sessionID = true ∧
        ∀ old, r.storedTunnel (identified tunnel.id fresh) = some old →
          old.sessionID = tunnel.sessionID)) := by
  rcases play_createTunnel played with ⟨refused, -, rfl⟩ | ⟨doc, m, data, rfl, rfl⟩
  · exact ⟨typed, iff_of_true indexed fun marshals =>
      absurd marshals (Tunnel.marshal_eq_none.1 refused)⟩
  · have filed := indexed_create indexed typed .tunnels (unexpired m List.mem_cons_self)
      (identified_plain plain fresh) (owner_of_marshal_tunnel data)
    rw [owner_tunnels, forall_map_eq_some] at filed
    refine ⟨typed.commit_pair (plainWrite_tunnel _ doc day) trivial, filed.trans ?_⟩
    exact ⟨fun keeps _ => keeps, fun keeps => keeps (Tunnel.marshal_eq_some.1 data).1⟩

theorem indexed_updateTunnel (plain : 0x3A ∉ tunnel.id)
    (played : play answer (updateTunnel tunnel) r ls = some out) :
    out.2.Typed ∧ (out.2.Indexed ↔ (tunnel.marshals = true →
      ∃ old, r.storedTunnel tunnel.id = some old ∧ old.sessionID = coerce tunnel.sessionID)) := by
  rcases play_updateTunnel played with ⟨refused, -, rfl⟩ | ⟨doc, m, data, -, rfl⟩
  · exact ⟨typed, iff_of_true indexed fun marshals =>
      absurd marshals (Tunnel.marshal_eq_none.1 refused)⟩
  · refine ⟨typed.write (plainWrite_tunnel _ doc day),
      (indexed_set indexed .tunnels plain (owner_of_marshal_tunnel data) m.now).trans ?_⟩
    rw [owner_tunnels, Option.map_eq_some_iff]
    exact ⟨fun stored _ => stored, fun keeps => keeps (Tunnel.marshal_eq_some.1 data).1⟩

theorem indexed_deleteTunnel (unexpired : ∀ m ∈ ls, r.NoneExpired m.now)
    (played : play answer (deleteTunnel id) r ls = some out) : out.2.Typed ∧ out.2.Indexed := by
  obtain ⟨m, ⟨e, -, -, rfl⟩ | ⟨tunnel, m', read, rfl, rfl⟩⟩ := play_deleteTunnel played
  · exact ⟨typed, indexed⟩
  · obtain ⟨doc, here, decoded⟩ := Option.bind_eq_some_iff.1 (storedTunnel_of_read read)
    have names : Kind.tunnels.owner doc = some tunnel.sessionID := by
      rw [Kind.owner, decoded]
      rfl
    exact ⟨typed.commit_pair trivial trivial,
      indexed_delete indexed typed .tunnels (unexpired m' (by simp)) here names⟩

theorem indexed_deleteTunnelsBySession {sessionID : GoString}
    {out : Except StoreError (List GoString) × RedisStore}
    (unexpired : ∀ m ∈ ls, r.NoneExpired m.now)
    (played : play answer (deleteTunnelsBySession sessionID) r ls = some out) :
    out.2.Typed ∧ out.2.Indexed := by
  obtain ⟨m, ⟨e, -, -, rfl⟩ | ⟨ids, m', read, rfl, rfl⟩⟩ := play_deleteTunnelsBySession played
  · exact ⟨typed, indexed⟩
  · have listed := mem_iff_of_readMembers (unexpired m List.mem_cons_self) read
    refine ⟨typed.writeAll_del _, ?_⟩
    rw [indexed_of_filing indexed (filing_sweep typed sessionID listed m'.now)]
    exact (indexed_iff_exact.1 indexed .tunnels).sweep sessionID

end Methods

/-- **What one call does to the indexes.**  They stay right exactly when the call meets
`KeepsIndex`. -/
theorem indexed_step (moved : r.plainStep l = some r') :
    r'.Typed ∧ (r'.Indexed ↔ r.KeepsIndex l) := by
  obtain ⟨unexpired, moved⟩ := Option.ite_none_right_eq_some.1 moved
  obtain ⟨⟨reply, last⟩, played, same⟩ := Option.map_eq_some_iff.1 moved
  obtain rfl : last = r' := same
  obtain ⟨call, plain, fresh, now, moments⟩ := l
  dsimp only at unexpired played
  have reads : last = r → last.Typed ∧ (last.Indexed ↔ True) := by
    rintro rfl
    exact ⟨typed, iff_of_true indexed trivial⟩
  have keeps : last.Typed ∧ last.Indexed → last.Typed ∧ (last.Indexed ↔ True) :=
    fun kept => ⟨kept.1, iff_of_true kept.2 trivial⟩
  cases call with
  | createSession sess =>
      obtain ⟨result, -, sent⟩ := play_map_eq_some.1 played
      exact indexed_createSession indexed typed unexpired plain sent
  | updateSession sess =>
      obtain ⟨result, -, sent⟩ := play_map_eq_some.1 played
      exact indexed_updateSession indexed typed plain sent
  | deleteSession id =>
      obtain ⟨result, -, sent⟩ := play_map_eq_some.1 played
      exact keeps (indexed_deleteSession indexed typed unexpired sent)
  | touchSession id =>
      obtain ⟨result, -, sent⟩ := play_map_eq_some.1 played
      exact indexed_touchSession indexed typed unexpired sent
  | createTunnel tunnel =>
      obtain ⟨result, -, sent⟩ := play_map_eq_some.1 played
      exact indexed_createTunnel indexed typed unexpired plain sent
  | updateTunnel tunnel =>
      obtain ⟨result, -, sent⟩ := play_map_eq_some.1 played
      exact indexed_updateTunnel indexed typed plain sent
  | deleteTunnel id =>
      obtain ⟨result, -, sent⟩ := play_map_eq_some.1 played
      exact keeps (indexed_deleteTunnel indexed typed unexpired sent)
  | deleteTunnelsBySession sessionID =>
      obtain ⟨result, -, sent⟩ := play_map_eq_some.1 played
      exact keeps (indexed_deleteTunnelsBySession indexed typed unexpired sent)
  | getSession id => exact reads (((reads_getSession id).map _).store played)
  | listSessions filter => exact reads (((reads_listSessions filter).map _).store played)
  | countActiveSessions username =>
      exact reads ((((reads_listSessions _).map _).map _).store played)
  | getTunnel id => exact reads (((reads_getTunnel id).map _).store played)
  | listTunnels filter => exact reads (((reads_listTunnels filter).map _).store played)

end Step

/-! ### Whole runs -/

theorem typed_new : newRedisStore.Typed := by
  constructor
  · intro kind o entry here
    cases here
  · intro id sess stored
    cases stored

theorem indexed_new : newRedisStore.Indexed := by
  constructor
  · intro u id
    refine iff_of_false (Finset.notMem_empty id) ?_
    rintro ⟨sess, stored, -⟩
    cases stored
  · intro s id
    refine iff_of_false (Finset.notMem_empty id) ?_
    rintro ⟨tunnel, stored, -⟩
    cases stored

/-- **Which runs keep the indexes right.**  In a run of calls on records whose IDs have no
colon, at no moment of which a key is expired, both indexes are right in every state that is
reached exactly when every call meets `KeepsIndex` where it is made. -/
theorem indexed_iff {calls : List PlainCall} {final : RedisStore}
    (ran : exec plainStep newRedisStore calls = some final) :
    (∀ before after r, calls = before ++ after → exec plainStep newRedisStore before = some r →
      r.Indexed) ↔ Along plainStep KeepsIndex newRedisStore calls :=
  reached_iff_along Typed (fun _ _ _ typed indexed moved => indexed_step indexed typed moved)
    typed_new indexed_new ran

/-- A session that is listed for `u` and stored for another user. -/
theorem not_indexed {r : RedisStore} {u id user : GoString}
    (listed : id ∈ r.members (userSessionsKey u))
    (stored : (r.storedSession id).map Session.username = some user) (apart : user ≠ u) :
    ¬ r.Indexed := by
  intro indexed
  obtain ⟨sess, found, same⟩ := (indexed.1 u id).1 listed
  rw [found] at stored
  exact apart ((Option.some.inj stored).symm.trans same)

/-- A call at an instant, all its commands at the same. -/
def callAt (now : Time) (call : RecordCall) (plain : call.PlainID) : PlainCall where
  call := call
  plain := plain
  fresh := default
  now := now
  moments := [⟨now, []⟩]

/-- A session is stored and closed by an update. -/
theorem indexed_closed :
    let create := callAt 0 (.createSession sampleSession) (by decide)
    let close := callAt 1 (.updateSession { sampleSession with status := str "closed" })
      (by decide)
    ∃ final, exec plainStep newRedisStore [create, close] = some final ∧ final.Indexed := by
  intro create close
  obtain ⟨final, ran⟩ : ∃ final, exec plainStep newRedisStore [create, close] = some final :=
    Option.isSome_iff_exists.1 (by decide)
  obtain ⟨middle, moved⟩ : ∃ middle, plainStep newRedisStore create = some middle :=
    Option.isSome_iff_exists.1 (by decide)
  have stored : ((plainStep newRedisStore create).bind fun r => r.storedSession (str "s1")).map
      Session.username = some (coerce (str "ana")) := by decide
  rw [moved] at stored
  have keeps : newRedisStore.KeepsIndex create :=
    fun _ => ⟨by decide, fun old found => by cases found⟩
  have keeps' : middle.KeepsIndex close := fun _ => Option.map_eq_some_iff.1 stored
  have along : Along plainStep KeepsIndex newRedisStore [create, close] :=
    along_cons_of_eq moved keeps ⟨keeps', fun _ _ => trivial⟩
  exact ⟨final, ran, (indexed_iff ran).2 along [create, close] [] final rfl ran⟩

/-- An update with another username leaves the session listed for the old one, and a create
that finds its ID taken leaves it listed for both. -/
theorem indexed_broken :
    let create := callAt 0 (.createSession sampleSession) (by decide)
    let renamed : Session := { sampleSession with username := str "bob" }
    ∃ r r',
      exec plainStep newRedisStore
        [create, callAt 1 (.updateSession renamed) (by decide)] = some r ∧ ¬ r.Indexed ∧
      exec plainStep newRedisStore
        [create, callAt 1 (.createSession renamed) (by decide)] = some r' ∧
      ¬ r'.Indexed := by
  intro create renamed
  let view := fun r : RedisStore =>
    (decide (str "s1" ∈ r.members (userSessionsKey (str "ana"))),
      (r.storedSession (str "s1")).map Session.username)
  have updated : (exec plainStep newRedisStore
      [create, callAt 1 (.updateSession renamed) (by decide)]).map view =
      some (true, some (str "bob")) := by decide
  have recreated : (exec plainStep newRedisStore
      [create, callAt 1 (.createSession renamed) (by decide)]).map view =
      some (true, some (str "bob")) := by decide
  obtain ⟨r, ran, same⟩ := Option.map_eq_some_iff.1 updated
  obtain ⟨r', ran', same'⟩ := Option.map_eq_some_iff.1 recreated
  have stale := not_indexed (of_decide_eq_true (congrArg Prod.fst same)) (congrArg Prod.snd same)
    (by decide)
  have stale' := not_indexed (of_decide_eq_true (congrArg Prod.fst same'))
    (congrArg Prod.snd same') (by decide)
  exact ⟨r, r', ran, stale, ran', stale'⟩

end RedisStore

end SentinelOps.Store
