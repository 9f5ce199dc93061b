/-
# Store.RedisEffects — what a call on sessions or tunnels reads and writes

Every method of the Redis store on sessions and tunnels reads, and then sends at most one
command that writes.  There is one lemma for each method (`play_createSession`, …), and later
modules go through these and never unfold a script.

What a reader finds under a key is `storedSession`, `storedTunnel` and `members`; a write
changes only what stands under its own key (`get_writeAll`).
-/
import SentinelOps.Store.Redis

namespace SentinelOps.Store

open Theory GoText Script
open GoTime (Time Duration)

set_option autoImplicit false

namespace Write

/-- The key a write is about. -/
def key : Write → GoString
  | set k _ _ => k
  | del k => k
  | sAdd k _ => k
  | sRem k _ => k

end Write

namespace RedisStore

variable {r r' : RedisStore} {now : Time} {ls : List Moment}

/-! ## Writes -/

theorem get_write (r : RedisStore) (now : Time) {w : Write} {k : GoString} (apart : k ≠ w.key) :
    (r.write now w).2.keys.get k = r.keys.get k := by
  cases w with
  | set k' value expiration => exact (get_setKey ..).trans (if_neg apart)
  | del k' => exact (get_delKey ..).trans (if_neg apart)
  | sAdd k' member =>
      simp only [write]
      split
      · exact (get_setKey ..).trans (if_neg apart)
      · split
        · exact (get_setKey ..).trans (if_neg apart)
        · rfl
  | sRem k' member =>
      simp only [write]
      split
      · rfl
      · split
        · split
          · exact (get_delKey ..).trans (if_neg apart)
          · exact (get_setKey ..).trans (if_neg apart)
        · rfl

/-- A transaction changes only the keys it names. -/
theorem get_writeAll (now : Time) {ws : List Write} {k : GoString}
    (apart : ∀ w ∈ ws, k ≠ w.key) (r : RedisStore) :
    (writeAll now r ws).2.keys.get k = r.keys.get k := by
  induction ws generalizing r with
  | nil => rfl
  | cons w ws ih =>
      exact (ih (fun w member => apart w (List.mem_cons_of_mem _ member)) _).trans
        (r.get_write now (apart w List.mem_cons_self))

theorem commit_snd (r : RedisStore) (now : Time) (ws : List Write) :
    (r.commit now ws).2 = (writeAll now r ws).2 := rfl

theorem commit_fst (r : RedisStore) (now : Time) (ws : List Write) :
    (r.commit now ws).1 = .ok () ∨ (r.commit now ws).1 = .error .driver := by
  cases ok : (writeAll now r ws).1 with
  | true => exact .inl (if_pos ok)
  | false => exact .inr (if_neg (by simp [ok]))

/-- A transaction of two writes changes only the two keys. -/
theorem get_commit_pair (r : RedisStore) (now : Time) {w w' : Write} {k : GoString}
    (apart : k ≠ w.key) (apart' : k ≠ w'.key) :
    (r.commit now [w, w']).2.keys.get k = r.keys.get k :=
  (get_write _ now apart').trans (r.get_write now apart)

/-- Deleting keys always succeeds. -/
theorem writeAll_del (now : Time) {ks : List GoString} (r : RedisStore) :
    (writeAll now r (ks.map .del)).1 = true := by
  induction ks generalizing r with
  | nil => rfl
  | cons k ks ih => exact ih _

theorem commit_del (r : RedisStore) (now : Time) (ks : List GoString) :
    r.commit now (ks.map .del) = (.ok (), (writeAll now r (ks.map .del)).2) :=
  Prod.ext (if_pos (writeAll_del now r)) rfl

theorem get_writeAll_del (now : Time) (ks : List GoString) (k : GoString) (r : RedisStore) :
    (writeAll now r (ks.map .del)).2.keys.get k = if k ∈ ks then none else r.keys.get k := by
  induction ks generalizing r with
  | nil => rfl
  | cons k' ks ih =>
      refine (ih _).trans ?_
      by_cases later : k ∈ ks
      · rw [if_pos later, if_pos (List.mem_cons_of_mem _ later)]
      · rw [if_neg later]
        by_cases here : k = k'
        · rw [if_pos (here ▸ List.mem_cons_self)]
          exact (get_delKey ..).trans (if_pos here)
        · rw [if_neg (by simp [here, later])]
          exact (get_delKey ..).trans (if_neg here)

/-- A record is kept for a day. -/
theorem get_setValue_day (r : RedisStore) (k : GoString) (doc : Document) (now : Time) :
    (r.setValue k (.document doc) day now).keys.get k =
      some ⟨.document doc, some (now + day.toInt)⟩ :=
  (get_setKey ..).trans (if_pos rfl)

/-- The first of two writes that are about different keys stands. -/
theorem get_commit_set (r : RedisStore) (now : Time) {k : GoString} (doc : Document) {w : Write}
    (apart : k ≠ w.key) :
    (r.commit now [.set k (.document doc) day, w]).2.keys.get k =
      some ⟨.document doc, some (now + day.toInt)⟩ :=
  (get_write _ now apart).trans (get_setValue_day ..)

/-! ## What a reader finds -/

/-- The document under a key; any other value is none. -/
def document (r : RedisStore) (k : GoString) : Option Document :=
  match r.keys.get k with
  | some ⟨.document doc, _⟩ => some doc
  | _ => none

def storedSession (r : RedisStore) (id : GoString) : Option Session :=
  (r.document (sessionKey id)).bind Document.unmarshalSession

def storedTunnel (r : RedisStore) (id : GoString) : Option Tunnel :=
  (r.document (tunnelKey id)).bind Document.unmarshalTunnel

/-- The set under a key; any other value has no members. -/
def members (r : RedisStore) (k : GoString) : Finset GoString :=
  match r.keys.get k with
  | some ⟨.members set, _⟩ => set
  | _ => ∅

/-- A document that is read is live under its key. -/
theorem readString_eq_document {k : GoString} {doc : Document}
    (read : r.readString k now = .ok (some (.document doc))) :
    ∃ expireAt, r.live k now = some ⟨.document doc, expireAt⟩ := by
  unfold readString at read
  cases found : r.live k now with
  | none =>
      rw [found] at read
      cases read
  | some e =>
      obtain ⟨value, expireAt⟩ := e
      rw [found] at read
      cases value with
      | document doc' =>
          cases read
          exact ⟨expireAt, rfl⟩
      | members set => cases read
      | number n => cases read
      | text s => cases read

theorem document_of_read {k : GoString} {doc : Document}
    (read : r.readString k now = .ok (some (.document doc))) : r.document k = some doc := by
  obtain ⟨expireAt, found⟩ := readString_eq_document read
  rw [document, (Option.filter_eq_some_iff.1 found).1]

/-- A record that is read is a document that decodes to it. -/
theorem sessionOf_eq_ok {answer : Except StoreError (Option RedisValue)} {sess : Session} :
    sessionOf answer = .ok sess ↔
      ∃ doc, answer = .ok (some (.document doc)) ∧ doc.unmarshalSession = some sess := by
  unfold sessionOf
  split
  · simp
  · simp
  · next doc =>
      cases decoded : doc.unmarshalSession with
      | none => simp [decoded]
      | some sess' => simp [decoded]
  · next value other => simpa using fun doc same => absurd same (other doc)

theorem tunnelOf_eq_ok {answer : Except StoreError (Option RedisValue)} {tunnel : Tunnel} :
    tunnelOf answer = .ok tunnel ↔
      ∃ doc, answer = .ok (some (.document doc)) ∧ doc.unmarshalTunnel = some tunnel := by
  unfold tunnelOf
  split
  · simp
  · simp
  · next doc =>
      cases decoded : doc.unmarshalTunnel with
      | none => simp [decoded]
      | some tunnel' => simp [decoded]
  · next value other => simpa using fun doc same => absurd same (other doc)

theorem storedSession_of_read {id : GoString} {sess : Session}
    (read : sessionOf (r.readString (sessionKey id) now) = .ok sess) :
    r.storedSession id = some sess := by
  obtain ⟨doc, found, decoded⟩ := sessionOf_eq_ok.1 read
  rw [storedSession, document_of_read found]
  exact decoded

theorem storedTunnel_of_read {id : GoString} {tunnel : Tunnel}
    (read : tunnelOf (r.readString (tunnelKey id) now) = .ok tunnel) :
    r.storedTunnel id = some tunnel := by
  obtain ⟨doc, found, decoded⟩ := tunnelOf_eq_ok.1 read
  rw [storedTunnel, document_of_read found]
  exact decoded

/-- The members that are read are those of the set. -/
theorem mem_of_readMembers {k : GoString} {l : Moment} {ids : List GoString}
    (read : r.readMembers k l = some (.ok ids)) {id : GoString} (member : id ∈ ids) :
    id ∈ r.members k := by
  unfold readMembers at read
  split at read
  · obtain ⟨-, same⟩ := Option.ite_none_right_eq_some.1 read
    cases same
    cases member
  · next e found =>
      obtain ⟨value, expireAt⟩ := e
      have here := (Option.filter_eq_some_iff.1 found).1
      cases value with
      | members set =>
          obtain ⟨listed, same⟩ := Option.ite_none_right_eq_some.1 read
          cases same
          rw [members, here]
          show id ∈ set.val
          rw [← listed]
          exact member
      | number n => cases read
      | text s => cases read
      | document doc => cases read

/-! ## When no key is expired -/

/-- No key of the store is expired at this instant. -/
def NoneExpired (r : RedisStore) (now : Time) : Prop :=
  ∀ e ∈ r.keys.entries, e.2.expired now = false

instance (r : RedisStore) (now : Time) : Decidable (r.NoneExpired now) :=
  inferInstanceAs (Decidable (∀ e ∈ r.keys.entries, e.2.expired now = false))

theorem live_eq_get (fresh : r.NoneExpired now) (k : GoString) : r.live k now = r.keys.get k := by
  cases here : r.keys.get k with
  | none => exact live_of_get_none here now
  | some e => exact live_of_unexpired here (fresh ⟨k, e⟩ (GoMap.get_eq_some_iff.1 here))

theorem readString_of_document (fresh : r.NoneExpired now) {k : GoString} {doc : Document}
    (here : r.document k = some doc) : r.readString k now = .ok (some (.document doc)) := by
  unfold document at here
  split at here
  · next doc' expireAt found =>
      cases here
      rw [readString, live_eq_get fresh, found]
  · cases here

theorem read_of_storedSession (fresh : r.NoneExpired now) {id : GoString} {sess : Session}
    (stored : r.storedSession id = some sess) :
    sessionOf (r.readString (sessionKey id) now) = .ok sess := by
  obtain ⟨doc, here, decoded⟩ := Option.bind_eq_some_iff.1 stored
  exact sessionOf_eq_ok.2 ⟨doc, readString_of_document fresh here, decoded⟩

theorem read_of_storedTunnel (fresh : r.NoneExpired now) {id : GoString} {tunnel : Tunnel}
    (stored : r.storedTunnel id = some tunnel) :
    tunnelOf (r.readString (tunnelKey id) now) = .ok tunnel := by
  obtain ⟨doc, here, decoded⟩ := Option.bind_eq_some_iff.1 stored
  exact tunnelOf_eq_ok.2 ⟨doc, readString_of_document fresh here, decoded⟩

/-- Nothing is expired, so a read that fails meets no stored record. -/
theorem storedSession_of_failed (fresh : r.NoneExpired now) {id : GoString} {e : StoreError}
    (failed : sessionOf (r.readString (sessionKey id) now) = .error e) :
    r.storedSession id = none := by
  refine Option.eq_none_iff_forall_ne_some.2 fun sess stored => ?_
  rw [read_of_storedSession fresh stored] at failed
  cases failed

theorem storedTunnel_of_failed (fresh : r.NoneExpired now) {id : GoString} {e : StoreError}
    (failed : tunnelOf (r.readString (tunnelKey id) now) = .error e) :
    r.storedTunnel id = none := by
  refine Option.eq_none_iff_forall_ne_some.2 fun tunnel stored => ?_
  rw [read_of_storedTunnel fresh stored] at failed
  cases failed

theorem mem_iff_of_readMembers {k : GoString} {l : Moment} {ids : List GoString}
    (fresh : r.NoneExpired l.now) (read : r.readMembers k l = some (.ok ids)) (id : GoString) :
    id ∈ ids ↔ id ∈ r.members k := by
  refine ⟨mem_of_readMembers read, fun member => ?_⟩
  unfold members at member
  split at member
  · next set expireAt here =>
      rw [readMembers, live_eq_get fresh, here] at read
      obtain ⟨listed, same⟩ := Option.ite_none_right_eq_some.1 read
      cases same
      have counted : id ∈ set.val := member
      rw [← listed] at counted
      exact counted
  · cases member

/-! ## Documents and sets after a write -/

/-- The key holds a set, or nothing. -/
def IsSet (r : RedisStore) (k : GoString) : Prop :=
  ∀ e, r.keys.get k = some e → ∃ set, e.value = .members set

theorem document_congr {k : GoString} (same : r'.keys.get k = r.keys.get k) :
    r'.document k = r.document k := by
  rw [document, document, same]

theorem members_congr {k : GoString} (same : r'.keys.get k = r.keys.get k) :
    r'.members k = r.members k := by
  rw [members, members, same]

theorem IsSet.document {k : GoString} (set : r.IsSet k) : r.document k = none := by
  unfold RedisStore.document
  split
  · next doc expireAt here =>
      obtain ⟨members, same⟩ := set _ here
      cases same
  · rfl

theorem document_setValue (r : RedisStore) (k k' : GoString) (doc : Document)
    (expiration : Duration) (now : Time) :
    (r.setValue k (.document doc) expiration now).document k' =
      if k' = k then some doc else r.document k' := by
  split
  · next same => rw [document, setValue, get_setKey, if_pos same]
  · next apart => exact document_congr ((get_setKey ..).trans (if_neg apart))

theorem members_setValue (r : RedisStore) (k k' : GoString) (doc : Document)
    (expiration : Duration) (now : Time) :
    (r.setValue k (.document doc) expiration now).members k' =
      if k' = k then ∅ else r.members k' := by
  split
  · next same => rw [members, setValue, get_setKey, if_pos same]
  · next apart => exact members_congr ((get_setKey ..).trans (if_neg apart))

theorem document_delKey (r : RedisStore) (k k' : GoString) :
    (r.delKey k).document k' = if k' = k then none else r.document k' := by
  split
  · next same => rw [document, get_delKey, if_pos same]
  · next apart => exact document_congr ((get_delKey ..).trans (if_neg apart))

/-- What `SADD` leaves under its own key. -/
theorem get_sAdd {k : GoString} (set : r.IsSet k) (live : r.live k now = r.keys.get k)
    (member : GoString) :
    (r.write now (.sAdd k member)).2.keys.get k =
      some ⟨.members (insert member (r.members k)),
        (r.keys.get k).bind RedisEntry.expireAt⟩ := by
  unfold write members
  dsimp only
  rw [live]
  cases here : r.keys.get k with
  | none => exact (get_setKey ..).trans (if_pos rfl)
  | some e =>
      obtain ⟨value, expireAt⟩ := e
      obtain ⟨members, rfl⟩ := set _ here
      exact (get_setKey ..).trans (if_pos rfl)

theorem members_sAdd {k : GoString} (set : r.IsSet k) (live : r.live k now = r.keys.get k)
    (member k' : GoString) :
    (r.write now (.sAdd k member)).2.members k' =
      if k' = k then insert member (r.members k) else r.members k' := by
  split
  · next same =>
      subst same
      rw [members, get_sAdd set live]
  · next apart => exact members_congr (r.get_write now apart)

theorem document_sAdd {k : GoString} (set : r.IsSet k) (live : r.live k now = r.keys.get k)
    (member k' : GoString) : (r.write now (.sAdd k member)).2.document k' = r.document k' := by
  by_cases same : k' = k
  · subst same
    rw [document, get_sAdd set live, set.document]
  · exact document_congr (r.get_write now same)

/-- What `SREM` leaves under its own key. -/
theorem get_sRem {k : GoString} (set : r.IsSet k) (live : r.live k now = r.keys.get k)
    (member : GoString) :
    ((r.write now (.sRem k member)).2.keys.get k = none ∧ (r.members k).erase member = ∅) ∨
      ∃ expireAt, (r.write now (.sRem k member)).2.keys.get k =
        some ⟨.members ((r.members k).erase member), expireAt⟩ := by
  unfold write members
  dsimp only
  rw [live]
  cases here : r.keys.get k with
  | none => exact .inl ⟨here, rfl⟩
  | some e =>
      obtain ⟨value, expireAt⟩ := e
      obtain ⟨members, rfl⟩ := set _ here
      by_cases last : members.erase member = ∅
      · left
        simp only [last, if_true]
        exact ⟨(get_delKey ..).trans (if_pos rfl), trivial⟩
      · right
        simp only [last, if_false]
        exact ⟨expireAt, (get_setKey ..).trans (if_pos rfl)⟩

theorem members_sRem {k : GoString} (set : r.IsSet k) (live : r.live k now = r.keys.get k)
    (member k' : GoString) :
    (r.write now (.sRem k member)).2.members k' =
      if k' = k then (r.members k).erase member else r.members k' := by
  split
  · next same =>
      subst same
      rcases get_sRem set live member with ⟨here, empty⟩ | ⟨expireAt, here⟩
      · rw [empty, members, here]
      · conv_lhs => rw [members, here]
  · next apart => exact members_congr (r.get_write now apart)

theorem document_sRem {k : GoString} (set : r.IsSet k) (live : r.live k now = r.keys.get k)
    (member k' : GoString) : (r.write now (.sRem k member)).2.document k' = r.document k' := by
  by_cases same : k' = k
  · subst same
    rcases get_sRem set live member with ⟨here, -⟩ | ⟨expireAt, here⟩
    · rw [document, here, set.document]
    · rw [document, here, set.document]
  · exact document_congr (r.get_write now same)

/-! ## Scripts that only read -/

/-- No command of the script writes. -/
def Reads {R : Type} : RedisScript R → Prop
  | .ret _ => True
  | .ask (.get _) next => ∀ a, Reads (next a)
  | .ask (.sMembers _) next => ∀ a, Reads (next a)
  | .ask (.set _ _ _) _ => False
  | .ask (.txPipeline _) _ => False

theorem Reads.store {R : Type} {script : RedisScript R} (reads : Reads script)
    {out : R × RedisStore} (played : play answer script r ls = some out) : out.2 = r := by
  induction script generalizing ls with
  | ret result =>
      obtain ⟨-, rfl⟩ := play_ret_eq_some.1 played
      rfl
  | ask q next ih =>
      obtain ⟨l, rest, a, s, rfl, answered, later⟩ := play_ask_eq_some.1 played
      cases q with
      | get k =>
          cases answered
          exact ih _ (reads _) later
      | sMembers k =>
          obtain ⟨found, -, same⟩ := Option.map_eq_some_iff.1 answered
          cases same
          exact ih _ (reads _) later
      | set k value expiration => exact reads.elim
      | txPipeline writes => exact reads.elim

theorem Reads.bind {R R' : Type} {script : RedisScript R} {f : R → RedisScript R'}
    (reads : Reads script) (later : ∀ result, Reads (f result)) : Reads (script.bind f) := by
  induction script with
  | ret result => exact later result
  | ask q next ih =>
      cases q with
      | get k => exact fun a => ih a (reads a)
      | sMembers k => exact fun a => ih a (reads a)
      | set k value expiration => exact reads.elim
      | txPipeline writes => exact reads.elim

theorem Reads.map {R R' : Type} {script : RedisScript R} (f : R → R') (reads : Reads script) :
    Reads (script.map f) := by
  induction script with
  | ret result => trivial
  | ask q next ih =>
      cases q with
      | get k => exact fun a => ih a (reads a)
      | sMembers k => exact fun a => ih a (reads a)
      | set k value expiration => exact reads.elim
      | txPipeline writes => exact reads.elim

theorem reads_getSession (id : GoString) : Reads (getSession id) := fun _ => trivial

theorem reads_getTunnel (id : GoString) : Reads (getTunnel id) := fun _ => trivial

theorem reads_collectSessions (status : GoString) (ids : List GoString) (result : List Session) :
    Reads (collectSessions status ids result) := by
  induction ids generalizing result with
  | nil => trivial
  | cons id ids ih =>
      refine (reads_getSession id).bind fun read => ?_
      cases read with
      | error e => exact ih result
      | ok sess =>
          dsimp only
          split
          · exact ih _
          · exact ih _

theorem reads_listSessions (filter : SessionFilter) : Reads (listSessions filter) := by
  unfold listSessions
  split
  · trivial
  · intro a
    cases a with
    | error e => trivial
    | ok ids => exact (reads_collectSessions _ ids []).map _

theorem reads_collectTunnels (filter : TunnelFilter) (ids : List GoString) (result : List Tunnel) :
    Reads (collectTunnels filter ids result) := by
  induction ids generalizing result with
  | nil => trivial
  | cons id ids ih =>
      refine (reads_getTunnel id).bind fun read => ?_
      cases read with
      | error e => exact ih result
      | ok tunnel =>
          dsimp only
          split
          · exact ih _
          · exact ih _

theorem reads_listTunnels (filter : TunnelFilter) : Reads (listTunnels filter) := by
  unfold listTunnels
  split
  · trivial
  · intro a
    cases a with
    | error e => trivial
    | ok ids => exact (reads_collectTunnels filter ids []).map _

/-! ## The parts of a script -/

theorem play_withData {T : Type} {data : Option Document}
    {next : Document → RedisScript (Except StoreError T)} {out : Except StoreError T × RedisStore}
    (played : play answer (withData data next) r ls = some out) :
    (data = none ∧ ls = [] ∧ out = (.error .encoding, r)) ∨
      ∃ doc, data = some doc ∧ play answer (next doc) r ls = some out := by
  cases data with
  | none => exact .inl ⟨rfl, play_ret_eq_some.1 played⟩
  | some doc => exact .inr ⟨doc, rfl, played⟩

theorem play_andThen {T U : Type} {script : RedisScript (Except StoreError T)}
    {next : T → RedisScript (Except StoreError U)} {out : Except StoreError U × RedisStore}
    (played : play answer (andThen script next) r ls = some out) :
    ∃ first rest result r₁, ls = first ++ rest ∧ play answer script r first = some (result, r₁) ∧
      ((∃ e, result = .error e ∧ rest = [] ∧ out = (.error e, r₁)) ∨
        ∃ v, result = .ok v ∧ play answer (next v) r₁ rest = some out) := by
  obtain ⟨first, rest, result, r₁, split, before, after⟩ := play_bind_eq_some.1 played
  refine ⟨first, rest, result, r₁, split, before, ?_⟩
  cases result with
  | error e => exact .inl ⟨e, rfl, play_ret_eq_some.1 after⟩
  | ok v => exact .inr ⟨v, rfl, after⟩

theorem play_commit {ws : List Write} {out : Except StoreError Unit × RedisStore}
    (played : play answer (.ask (.txPipeline ws) .ret) r ls = some out) :
    ∃ l, ls = [l] ∧ out = r.commit l.now ws := by
  obtain ⟨l, a, s, rfl, answered, rfl⟩ := play_single_eq_some.1 played
  exact ⟨l, rfl, (Option.some.inj answered).symm⟩

theorem play_set {k : GoString} {value : RedisValue} {expiration : Duration}
    {out : Except StoreError Unit × RedisStore}
    (played : play answer (.ask (.set k value expiration) .ret) r ls = some out) :
    ∃ l, ls = [l] ∧ out = (.ok (), r.setValue k value expiration l.now) := by
  obtain ⟨l, a, s, rfl, answered, rfl⟩ := play_single_eq_some.1 played
  exact ⟨l, rfl, (Option.some.inj answered).symm⟩

/-! ## Sessions -/

section Sessions

variable {sess : Session} {id : GoString} {fresh : Uuid} {t : Time}
variable {out : Except StoreError Unit × RedisStore}

theorem play_createSession (played : play answer (createSession sess fresh t) r ls = some out) :
    ((sess.stamped fresh t).marshal = none ∧ ls = [] ∧ out = (.error .encoding, r)) ∨
      ∃ doc l, (sess.stamped fresh t).marshal = some doc ∧ ls = [l] ∧ out = r.commit l.now
        [.set (sessionKey (identified sess.id fresh)) (.document doc) day,
          .sAdd (userSessionsKey sess.username) (identified sess.id fresh)] := by
  rcases play_withData played with refused | ⟨doc, data, sent⟩
  · exact .inl refused
  · obtain ⟨l, single, done⟩ := play_commit sent
    exact .inr ⟨doc, l, data, single, done⟩

theorem play_getSession {out : Except StoreError Session × RedisStore}
    (played : play answer (getSession id) r ls = some out) :
    ∃ l, ls = [l] ∧ out = (sessionOf (r.readString (sessionKey id) l.now), r) := by
  obtain ⟨l, a, s, rfl, answered, rfl⟩ := play_single_eq_some.1 played
  cases answered
  exact ⟨l, rfl, rfl⟩

theorem play_updateSession (played : play answer (updateSession sess t) r ls = some out) :
    ((sess.touched t).marshal = none ∧ ls = [] ∧ out = (.error .encoding, r)) ∨
      ∃ doc l, (sess.touched t).marshal = some doc ∧ ls = [l] ∧
        out = (.ok (), r.setValue (sessionKey sess.id) (.document doc) day l.now) := by
  rcases play_withData played with refused | ⟨doc, data, sent⟩
  · exact .inl refused
  · obtain ⟨l, single, done⟩ := play_set sent
    exact .inr ⟨doc, l, data, single, done⟩

theorem play_deleteSession (played : play answer (deleteSession id) r ls = some out) :
    ∃ l, (∃ e, sessionOf (r.readString (sessionKey id) l.now) = .error e ∧ ls = [l] ∧
        out = (.error e, r)) ∨
      ∃ sess l', sessionOf (r.readString (sessionKey id) l.now) = .ok sess ∧ ls = [l, l'] ∧
        out = r.commit l'.now
          [.del (sessionKey id), .sRem (userSessionsKey sess.username) id] := by
  obtain ⟨first, rest, result, r₁, rfl, before, after⟩ := play_andThen played
  obtain ⟨l, rfl, same⟩ := play_getSession before
  cases same
  refine ⟨l, ?_⟩
  rcases after with ⟨e, failed, rfl, done⟩ | ⟨sess, read, sent⟩
  · exact .inl ⟨e, failed, rfl, done⟩
  · obtain ⟨l', rfl, done⟩ := play_commit sent
    exact .inr ⟨sess, l', read, rfl, done⟩

theorem play_touchSession (played : play answer (touchSession id t) r ls = some out) :
    ∃ l, (∃ e, sessionOf (r.readString (sessionKey id) l.now) = .error e ∧ ls = [l] ∧
        out = (.error e, r)) ∨
      ∃ sess rest, sessionOf (r.readString (sessionKey id) l.now) = .ok sess ∧ ls = l :: rest ∧
        play answer (updateSession sess t) r rest = some out := by
  obtain ⟨first, rest, result, r₁, rfl, before, after⟩ := play_andThen played
  obtain ⟨l, rfl, same⟩ := play_getSession before
  cases same
  refine ⟨l, ?_⟩
  rcases after with ⟨e, failed, rfl, done⟩ | ⟨sess, read, sent⟩
  · exact .inl ⟨e, failed, rfl, done⟩
  · exact .inr ⟨sess, rest, read, rfl, sent⟩

end Sessions

/-! ## Tunnels -/

section Tunnels

variable {tunnel : Tunnel} {id sessionID : GoString} {fresh : Uuid} {t : Time}
variable {out : Except StoreError Unit × RedisStore}

theorem play_createTunnel (played : play answer (createTunnel tunnel fresh t) r ls = some out) :
    ((tunnel.stamped fresh t).marshal = none ∧ ls = [] ∧ out = (.error .encoding, r)) ∨
      ∃ doc l, (tunnel.stamped fresh t).marshal = some doc ∧ ls = [l] ∧ out = r.commit l.now
        [.set (tunnelKey (identified tunnel.id fresh)) (.document doc) day,
          .sAdd (sessionTunnelsKey tunnel.sessionID) (identified tunnel.id fresh)] := by
  rcases play_withData played with refused | ⟨doc, data, sent⟩
  · exact .inl refused
  · obtain ⟨l, single, done⟩ := play_commit sent
    exact .inr ⟨doc, l, data, single, done⟩

theorem play_getTunnel {out : Except StoreError Tunnel × RedisStore}
    (played : play answer (getTunnel id) r ls = some out) :
    ∃ l, ls = [l] ∧ out = (tunnelOf (r.readString (tunnelKey id) l.now), r) := by
  obtain ⟨l, a, s, rfl, answered, rfl⟩ := play_single_eq_some.1 played
  cases answered
  exact ⟨l, rfl, rfl⟩

theorem play_updateTunnel (played : play answer (updateTunnel tunnel) r ls = some out) :
    (tunnel.marshal = none ∧ ls = [] ∧ out = (.error .encoding, r)) ∨
      ∃ doc l, tunnel.marshal = some doc ∧ ls = [l] ∧
        out = (.ok (), r.setValue (tunnelKey tunnel.id) (.document doc) day l.now) := by
  rcases play_withData played with refused | ⟨doc, data, sent⟩
  · exact .inl refused
  · obtain ⟨l, single, done⟩ := play_set sent
    exact .inr ⟨doc, l, data, single, done⟩

theorem play_deleteTunnel (played : play answer (deleteTunnel id) r ls = some out) :
    ∃ l, (∃ e, tunnelOf (r.readString (tunnelKey id) l.now) = .error e ∧ ls = [l] ∧
        out = (.error e, r)) ∨
      ∃ tunnel l', tunnelOf (r.readString (tunnelKey id) l.now) = .ok tunnel ∧ ls = [l, l'] ∧
        out = r.commit l'.now
          [.del (tunnelKey id), .sRem (sessionTunnelsKey tunnel.sessionID) id] := by
  obtain ⟨first, rest, result, r₁, rfl, before, after⟩ := play_andThen played
  obtain ⟨l, rfl, same⟩ := play_getTunnel before
  cases same
  refine ⟨l, ?_⟩
  rcases after with ⟨e, failed, rfl, done⟩ | ⟨tunnel, read, sent⟩
  · exact .inl ⟨e, failed, rfl, done⟩
  · obtain ⟨l', rfl, done⟩ := play_commit sent
    exact .inr ⟨tunnel, l', read, rfl, done⟩

/-- The keys that `DeleteTunnelsBySession` deletes. -/
def sweptKeys (sessionID : GoString) (ids : List GoString) : List GoString :=
  ids.map tunnelKey ++ [sessionTunnelsKey sessionID]

theorem map_del_sweptKeys (sessionID : GoString) (ids : List GoString) :
    (sweptKeys sessionID ids).map Write.del =
      ids.map (fun id => .del (tunnelKey id)) ++ [.del (sessionTunnelsKey sessionID)] := by
  simp [sweptKeys]

theorem play_deleteTunnelsBySession {out : Except StoreError (List GoString) × RedisStore}
    (played : play answer (deleteTunnelsBySession sessionID) r ls = some out) :
    ∃ l, (∃ e, r.readMembers (sessionTunnelsKey sessionID) l = some (.error e) ∧ ls = [l] ∧
        out = (.error e, r)) ∨
      ∃ ids l', r.readMembers (sessionTunnelsKey sessionID) l = some (.ok ids) ∧ ls = [l, l'] ∧
        out = (.ok ids, (writeAll l'.now r ((sweptKeys sessionID ids).map .del)).2) := by
  obtain ⟨l, rest, members, s, rfl, answered, later⟩ := play_ask_eq_some.1 played
  refine ⟨l, ?_⟩
  obtain ⟨result, read, same⟩ := Option.map_eq_some_iff.1 answered
  cases same
  cases members with
  | error e =>
      obtain ⟨rfl, done⟩ := play_ret_eq_some.1 later
      exact .inl ⟨e, read, rfl, done⟩
  | ok ids =>
      refine .inr ⟨ids, ?_⟩
      obtain ⟨l', rest', a, s', rfl, answered', last⟩ := play_ask_eq_some.1 later
      have sent : r.commit l'.now ((sweptKeys sessionID ids).map .del) = (a, s') := by
        rw [map_del_sweptKeys]
        exact Option.some.inj answered'
      rw [commit_del] at sent
      cases sent
      obtain ⟨rfl, rfl⟩ := play_ret_eq_some.1 last
      exact ⟨l', read, rfl, rfl⟩

end Tunnels

end RedisStore

end SentinelOps.Store
