/-
# Store.Redis — the keys of the Redis store and the commands it sends

A Redis server is a map from keys to values, some with the instant after which they are gone.
The store keeps counters and locks as plain strings, sessions and tunnels as JSON documents,
and two families of sets that index them: the sessions of a user and the tunnels of a session.

Each rate-limit method is one command and is a function here.  The methods on sessions and
tunnels send one to several commands, between which others may send theirs, so each of them is
a script over `Command`.  A transaction (`TxPipeline`) is one command: its writes are applied
in order, those that find a value of the wrong type fail by themselves, and the first failure
is what the caller gets.

The store's own `memory` is never written: a listing without its indexed field reads an empty
store.
-/
import SentinelOps.Store.Documents
import SentinelOps.Store.MemoryRecords
import SentinelOps.Theory.Clients
import SentinelOps.Theory.Float64

namespace SentinelOps.Store

open Theory GoText
open GoTime (Time Duration second)

set_option autoImplicit false

/-! ## Keys and values -/

inductive RedisValue where
  | number (n : Int64)
  | text (s : GoString)
  | document (doc : Document)
  | members (set : Finset GoString)
deriving DecidableEq

/-- A key of Redis, with the instant after which it is gone. -/
structure RedisEntry where
  value : RedisValue
  expireAt : Option Time := none
deriving DecidableEq

structure RedisStore where
  keys : GoMap GoString RedisEntry

def newRedisStore : RedisStore := ⟨∅⟩

def sessionKey (id : GoString) : GoString := str "session:" ++ id

def userSessionsKey (username : GoString) : GoString := str "user:sessions:" ++ username

def tunnelKey (id : GoString) : GoString := str "tunnel:" ++ id

def sessionTunnelsKey (id : GoString) : GoString := str "session:tunnels:" ++ id

def rateLimitKey (key : GoString) : GoString := str "ratelimit:" ++ key

def rateLimitLockKey (key : GoString) : GoString := str "ratelimit:lock:" ++ key

/-- `int(window.Seconds())`. -/
def ttlSeconds (window : Duration) : Int := Float64.truncate (Float64.seconds window)

/-- An integer that a script returns.  A number of Lua is a `float64`, and the server cuts it to a
`long long`, 2⁶³ to the lowest one. -/
def luaInteger (n : Int64) : Int :=
  (Int64.ofInt (Float64.truncate (Float64.nearest n.toInt))).toInt

theorem luaInteger_of_small {n : Int64} (small : |n.toInt| ≤ 2 ^ 53) : luaInteger n = n.toInt := by
  rw [luaInteger, Float64.nearest_intCast small, Float64.truncate_intCast, Int64.ofInt_toInt]

example : luaInteger 9007199254740993 = 9007199254740992 := by decide +kernel

namespace RedisEntry

def expired (e : RedisEntry) (now : Time) : Bool :=
  match e.expireAt with
  | none => false
  | some expireAt => expireAt < now

end RedisEntry

namespace RedisStore

def setKey (r : RedisStore) (k : GoString) (e : RedisEntry) : RedisStore :=
  { r with keys := r.keys.set k e }

def delKey (r : RedisStore) (k : GoString) : RedisStore := { r with keys := r.keys.delete k }

/-- What `GET` finds. -/
def live (r : RedisStore) (k : GoString) (now : Time) : Option RedisEntry :=
  (r.keys.get k).filter fun e => !e.expired now

theorem get_setKey (r : RedisStore) (k k' : GoString) (e : RedisEntry) :
    (r.setKey k e).keys.get k' = if k' = k then some e else r.keys.get k' :=
  GoMap.get_set ..

theorem get_delKey (r : RedisStore) (k k' : GoString) :
    (r.delKey k).keys.get k' = if k' = k then none else r.keys.get k' :=
  GoMap.get_delete ..

theorem live_of_get_none {r : RedisStore} {k : GoString} (absent : r.keys.get k = none)
    (now : Time) : r.live k now = none := by
  rw [live, absent]
  rfl

theorem live_of_unexpired {r : RedisStore} {k : GoString} {e : RedisEntry} {now : Time}
    (here : r.keys.get k = some e) (unexpired : e.expired now = false) :
    r.live k now = some e := by
  rw [live, here, Option.filter_some, unexpired]
  rfl

theorem live_of_expired {r : RedisStore} {k : GoString} {e : RedisEntry} {now : Time}
    (here : r.keys.get k = some e) (expired : e.expired now = true) : r.live k now = none := by
  rw [live, here, Option.filter_some, expired]
  rfl

theorem live_congr {r r' : RedisStore} {k : GoString} (same : r'.keys.get k = r.keys.get k)
    (now : Time) : r'.live k now = r.live k now := by
  rw [live, live, same]

end RedisStore

/-! ## Commands -/

/-- The part of an expiration that `SET` is sent: whole milliseconds, at least one. -/
def expirationMillis (expiration : Duration) : Int := max 1 (expiration.toInt / 1000000)

/-- The commands that write. -/
inductive Write where
  | set (k : GoString) (value : RedisValue) (expiration : Duration)
  | del (k : GoString)
  | sAdd (k member : GoString)
  | sRem (k member : GoString)

inductive Command where
  | get (k : GoString)
  | set (k : GoString) (value : RedisValue) (expiration : Duration)
  | txPipeline (writes : List Write)
  | sMembers (k : GoString)

/-- What the client gets back; `ok none` of a `get` is `redis.Nil`. -/
abbrev Answer : Command → Type
  | .get _ => Except StoreError (Option RedisValue)
  | .set _ _ _ => Except StoreError Unit
  | .txPipeline _ => Except StoreError Unit
  | .sMembers _ => Except StoreError (List GoString)

/-- What one command takes from outside: the clock of the server, and the order in which it
happens to list a set. -/
structure Moment where
  now : Time
  order : List GoString := []

/-- The rate-limit calls without their clock. -/
inductive LimitCall where
  | incrementAttempts (key : GoString) (window : Duration)
  | getAttempts (key : GoString)
  | resetAttempts (key : GoString)
  | isLocked (key : GoString) (lockout : Duration)
  | lock (key : GoString) (duration : Duration)

namespace LimitCall

def key : LimitCall → GoString
  | incrementAttempts key _ => key
  | getAttempts key => key
  | resetAttempts key => key
  | isLocked key _ => key
  | lock key _ => key

end LimitCall

namespace RedisStore

variable (r : RedisStore)

/-- `SET`, which replaces a value of any type.  The client sends no expiration below zero,
except that -1 keeps the one there is. -/
def setValue (k : GoString) (value : RedisValue) (expiration : Duration) (now : Time) :
    RedisStore :=
  let expireAt :=
    if 0 < expiration then some (now + expirationMillis expiration * 1000000)
    else if expiration = -1 then (r.live k now).bind (·.expireAt)
    else none
  r.setKey k { value, expireAt }

/-- One write of a transaction, and whether it succeeds.  A set whose last member goes is a
key that goes. -/
def write (now : Time) : Write → Bool × RedisStore
  | .set k value expiration => (true, r.setValue k value expiration now)
  | .del k => (true, r.delKey k)
  | .sAdd k member =>
      match r.live k now with
      | none => (true, r.setKey k { value := .members {member} })
      | some e =>
          match e.value with
          | .members set => (true, r.setKey k { e with value := .members (insert member set) })
          | _ => (false, r)
  | .sRem k member =>
      match r.live k now with
      | none => (true, r)
      | some e =>
          match e.value with
          | .members set =>
              if set.erase member = ∅ then (true, r.delKey k)
              else (true, r.setKey k { e with value := .members (set.erase member) })
          | _ => (false, r)

/-- The writes in order, and whether all of them succeeded. -/
def writeAll (now : Time) : RedisStore → List Write → Bool × RedisStore
  | r, [] => (true, r)
  | r, w :: ws =>
      let (ok, r) := r.write now w
      let (oks, r) := writeAll now r ws
      (ok && oks, r)

/-- `MULTI`, the writes, `EXEC`. -/
def commit (now : Time) (writes : List Write) : Except StoreError Unit × RedisStore :=
  let (ok, r) := r.writeAll now writes
  (if ok then .ok () else .error .driver, r)

/-- A value that is a string, in the sense of Redis. -/
def readString (k : GoString) (now : Time) : Except StoreError (Option RedisValue) :=
  match r.live k now with
  | none => .ok none
  | some e =>
      match e.value with
      | .members _ => .error .driver
      | value => .ok (some value)

/-- The members of a set, in the order of the moment; `none` when that is not an order of it. -/
def readMembers (k : GoString) (l : Moment) : Option (Except StoreError (List GoString)) :=
  match r.live k l.now with
  | none => if l.order = [] then some (.ok []) else none
  | some e =>
      match e.value with
      | .members set => if (l.order : Multiset GoString) = set.val then some (.ok l.order) else none
      | _ => some (.error .driver)

def answer (r : RedisStore) (l : Moment) : (c : Command) → Option (Answer c × RedisStore)
  | .get k => some (r.readString k l.now, r)
  | .set k value expiration => some (.ok (), r.setValue k value expiration l.now)
  | .txPipeline writes => some (r.commit l.now writes)
  | .sMembers k => (r.readMembers k l).map fun members => (members, r)

/-! ## Attempts -/

/-- The script, which the server runs as one command at the instant `now`; `none` is an
error.  `SET` refuses a life that is not positive, `INCR` a value that is no number and the
largest number; what `INCR` answers is returned by way of Lua. -/
def incrementAttempts (r : RedisStore) (key : GoString) (window : Duration) (now : Time) :
    Option Int × RedisStore :=
  match r.live (rateLimitKey key) now with
  | none =>
      if 0 < ttlSeconds window then
        (some 1, r.setKey (rateLimitKey key)
          { value := .number 1, expireAt := some (now + ttlSeconds window * second.toInt) })
      else (none, r)
  | some e =>
      match e.value with
      | .number count =>
          if count = Int64.maxValue then (none, r)
          else (some (luaInteger (count + 1)),
            r.setKey (rateLimitKey key) { e with value := .number (count + 1) })
      | _ => (none, r)

/-- A value that is no number is an error. -/
def getAttempts (key : GoString) (now : Time) : Option Int :=
  match r.live (rateLimitKey key) now with
  | none => some 0
  | some e =>
      match e.value with
      | .number count => some count.toInt
      | _ => none

def resetAttempts (key : GoString) : RedisStore :=
  (r.delKey (rateLimitKey key)).delKey (rateLimitLockKey key)

/-- `TTL` in seconds, rounded to the nearest; negative for a key without an end and for none. -/
def ttl (k : GoString) (now : Time) : Int :=
  match r.live k now with
  | none => -2
  | some e =>
      match e.expireAt with
      | none => -1
      | some expireAt => ((expireAt - now) / 1000000 + 500) / 1000

def isLocked (key : GoString) (now : Time) : Bool := 0 < r.ttl (rateLimitLockKey key) now

def lock (key : GoString) (duration : Duration) (now : Time) : RedisStore :=
  r.setValue (rateLimitLockKey key) (.text (str "locked")) duration now

/-- One rate-limit call, which the server answers at the instant `now`. -/
def limit (now : Time) : LimitCall → Reply × RedisStore
  | .incrementAttempts key window =>
      let (count, r) := r.incrementAttempts key window now
      (count.elim .failed .attempts, r)
  | .getAttempts key => ((r.getAttempts key now).elim .failed .attempts, r)
  | .resetAttempts key => (.done, r.resetAttempts key)
  | .isLocked key _ => (.locked (r.isLocked key now), r)
  | .lock key duration => (.done, r.lock key duration now)

/-! ## Sessions -/

/-- `24*time.Hour`. -/
def day : Duration := 86400000000000

abbrev RedisScript := Script Command Answer

/-- What `GetSession` makes of the answer. -/
def sessionOf : Except StoreError (Option RedisValue) → Except StoreError Session
  | .error e => .error e
  | .ok none => .error .errNotFound
  | .ok (some (.document doc)) => doc.unmarshalSession.elim (.error .encoding) .ok
  | .ok (some _) => .error .encoding

def tunnelOf : Except StoreError (Option RedisValue) → Except StoreError Tunnel
  | .error e => .error e
  | .ok none => .error .errNotFound
  | .ok (some (.document doc)) => doc.unmarshalTunnel.elim (.error .encoding) .ok
  | .ok (some _) => .error .encoding

/-- Go on with a value, or return the error. -/
def andThen {T U : Type} (script : RedisScript (Except StoreError T))
    (next : T → RedisScript (Except StoreError U)) : RedisScript (Except StoreError U) :=
  script.bind fun
    | .error e => .ret (.error e)
    | .ok v => next v

/-- Go on with the text of a record, or return the error of `json.Marshal`. -/
def withData {T : Type} (data : Option Document)
    (next : Document → RedisScript (Except StoreError T)) : RedisScript (Except StoreError T) :=
  match data with
  | none => .ret (.error .encoding)
  | some data => next data

def createSession (sess : Session) (fresh : Uuid) (now : Time) :
    RedisScript (Except StoreError Unit) :=
  let sess := sess.stamped fresh now
  withData sess.marshal fun data =>
    .ask (.txPipeline [.set (sessionKey sess.id) (.document data) day,
      .sAdd (userSessionsKey sess.username) sess.id]) .ret

def getSession (id : GoString) : RedisScript (Except StoreError Session) :=
  .ask (.get (sessionKey id)) fun a => .ret (sessionOf a)

def updateSession (sess : Session) (now : Time) : RedisScript (Except StoreError Unit) :=
  withData (sess.touched now).marshal fun data =>
    .ask (.set (sessionKey sess.id) (.document data) day) .ret

def deleteSession (id : GoString) : RedisScript (Except StoreError Unit) :=
  andThen (getSession id) fun sess =>
    .ask (.txPipeline [.del (sessionKey id), .sRem (userSessionsKey sess.username) id]) .ret

/-- The loop of `ListSessions` over the IDs of the index; a session that cannot be read is
left out. -/
def collectSessions (status : GoString) :
    List GoString → List Session → RedisScript (List Session)
  | [], result => .ret result
  | id :: ids, result =>
      (getSession id).bind fun
        | .error _ => collectSessions status ids result
        | .ok sess =>
            if matchesField status sess.status then
              collectSessions status ids (result ++ [sess])
            else collectSessions status ids result

/-- The window of the listing may panic. -/
def listSessions (filter : SessionFilter) :
    RedisScript (Except StoreError (Option (List Session))) :=
  if filter.username = [] then .ret (.ok (MemoryRecords.listSessions filter []))
  else
    .ask (.sMembers (userSessionsKey filter.username)) fun
      | .error e => .ret (.error e)
      | .ok ids =>
          (collectSessions filter.status ids []).map fun result =>
            .ok (applySessionWindow result filter.limit filter.offset)

def countActiveSessions (username : GoString) :
    RedisScript (Except StoreError (Option Nat)) :=
  (listSessions { username, status := str "active" }).map fun listed =>
    listed.map fun sessions => sessions.map List.length

def touchSession (id : GoString) (now : Time) : RedisScript (Except StoreError Unit) :=
  andThen (getSession id) fun sess => updateSession sess now

/-! ## Tunnels -/

def createTunnel (tunnel : Tunnel) (fresh : Uuid) (now : Time) :
    RedisScript (Except StoreError Unit) :=
  let tunnel := tunnel.stamped fresh now
  withData tunnel.marshal fun data =>
    .ask (.txPipeline [.set (tunnelKey tunnel.id) (.document data) day,
      .sAdd (sessionTunnelsKey tunnel.sessionID) tunnel.id]) .ret

def getTunnel (id : GoString) : RedisScript (Except StoreError Tunnel) :=
  .ask (.get (tunnelKey id)) fun a => .ret (tunnelOf a)

def updateTunnel (tunnel : Tunnel) : RedisScript (Except StoreError Unit) :=
  withData tunnel.marshal fun data => .ask (.set (tunnelKey tunnel.id) (.document data) day) .ret

def deleteTunnel (id : GoString) : RedisScript (Except StoreError Unit) :=
  andThen (getTunnel id) fun tunnel =>
    .ask (.txPipeline [.del (tunnelKey id), .sRem (sessionTunnelsKey tunnel.sessionID) id]) .ret

def collectTunnels (filter : TunnelFilter) :
    List GoString → List Tunnel → RedisScript (List Tunnel)
  | [], result => .ret result
  | id :: ids, result =>
      (getTunnel id).bind fun
        | .error _ => collectTunnels filter ids result
        | .ok tunnel =>
            if matchesField filter.type tunnel.type && matchesField filter.status tunnel.status then
              collectTunnels filter ids (result ++ [tunnel])
            else collectTunnels filter ids result

def listTunnels (filter : TunnelFilter) :
    RedisScript (Except StoreError (Option (List Tunnel))) :=
  if filter.sessionID = [] then .ret (.ok (MemoryRecords.listTunnels filter []))
  else
    .ask (.sMembers (sessionTunnelsKey filter.sessionID)) fun
      | .error e => .ret (.error e)
      | .ok ids =>
          (collectTunnels filter ids []).map fun result =>
            .ok (applyTunnelWindow result filter.limit filter.offset)

def deleteTunnelsBySession (sessionID : GoString) :
    RedisScript (Except StoreError (List GoString)) :=
  .ask (.sMembers (sessionTunnelsKey sessionID)) fun
    | .error e => .ret (.error e)
    | .ok ids =>
        .ask (.txPipeline (ids.map (fun id => .del (tunnelKey id)) ++
          [.del (sessionTunnelsKey sessionID)])) fun
          | .error e => .ret (.error e)
          | .ok () => .ret (.ok ids)

/-- A call on sessions or tunnels, with the UUID and the clock of the client. -/
def script (call : RecordCall) (fresh : Uuid) (now : Time) : RedisScript RecordReply :=
  match call with
  | .createSession sess => (createSession sess fresh now).map .ofError
  | .getSession id => (getSession id).map (.ofExcept .session)
  | .updateSession sess => (updateSession sess now).map .ofError
  | .deleteSession id => (deleteSession id).map .ofError
  | .listSessions filter => (listSessions filter).map (.ofExcept (.ofWindow .sessions))
  | .countActiveSessions username =>
      (countActiveSessions username).map (.ofExcept (.ofWindow .count))
  | .touchSession id => (touchSession id now).map .ofError
  | .createTunnel tunnel => (createTunnel tunnel fresh now).map .ofError
  | .getTunnel id => (getTunnel id).map (.ofExcept .tunnel)
  | .updateTunnel tunnel => (updateTunnel tunnel).map .ofError
  | .deleteTunnel id => (deleteTunnel id).map .ofError
  | .listTunnels filter => (listTunnels filter).map (.ofExcept (.ofWindow .tunnels))
  | .deleteTunnelsBySession sessionID =>
      (deleteTunnelsBySession sessionID).map (.ofExcept .ids)

end RedisStore

end SentinelOps.Store
