/-
# Transport.RemoteForwards — the listeners of a connection and its teardown

A connection serves its global requests in one goroutine: `tcpip-forward` opens a listener and
then registers it under its bind, `cancel-tcpip-forward` takes a listener out of the registry
and then closes it.  `handleConnection` returns when the connection dies and closes whatever
the registry holds at that moment.  Nothing orders the two: `Listen` and `Put` are two steps,
and requests that were received before the connection died are served after the teardown.

`listeners_accounted` is what the registry promises (`Accounted`) in every run that keeps
three rules (`Orderly`): the teardown does not fall between a `Listen` and its `Put`, no
listener is opened after it, and none is opened under a bind that the registry holds.  The
operating system never gives two open listeners one address, which rules the last case out
only as long as a host keeps its address.

Poles: `listeners_accounted_two_forwards` and `listener_leaked` (the teardown between `Listen`
and `Put`; a request served after it; a bind whose host has moved).
-/
import SentinelOps.Forwarding.Policy
import SentinelOps.Theory.GoMap
import SentinelOps.Theory.Schedule

namespace SentinelOps.Transport

open Theory Schedule
open GoText (GoString str)
open Forwarding (Policy newPolicy normalizeTarget)

set_option autoImplicit false

/-! ## Listeners -/

/-- `net.Addr`. -/
inductive Addr where
  | tcp (ip : GoString) (port : Int)
  | other (text : GoString)
deriving DecidableEq

/-- The port as a `uint32`, if the address is a TCP one and the port fits. -/
def Addr.actualPort : Addr → Option UInt32
  | .tcp _ port => if port < 0 ∨ port > 4294967295 then none else some (UInt32.ofNat port.toNat)
  | .other _ => none

/-- A listener is open, or it was closed by the request that opened it, by a cancel request or
by the teardown. -/
inductive Life where
  | listening
  | refused
  | cancelled
  | tornDown
deriving DecidableEq, Repr

structure Listener where
  bindAddr : GoString
  addr : Addr
  life : Life
deriving DecidableEq

namespace Listener

/-- The bind a listener is registered under: the host as requested, the port as opened. -/
def bind (l : Listener) : Option GoString := l.addr.actualPort.map (normalizeTarget l.bindAddr)

/-- `Close`; a second one does nothing. -/
def close (how : Life) (l : Listener) : Listener :=
  if l.life = .listening then { l with life := how } else l

end Listener

/-! ## The two goroutines -/

/-- Where the request goroutine is: between two requests, between `Listen` and `Put`, between
`Remove` and `Close`, or returned. -/
inductive Phase where
  | idle
  | listened (l : ℕ)
  | removed (l : Option ℕ)
  | finished
deriving DecidableEq

structure RemoteState where
  registry : GoMap GoString ℕ
  listeners : List Listener
  phase : Phase
  tornDown : Bool

/-- The payload of a request, if it unmarshals. -/
abbrev Payload := Option (GoString × UInt32)

/-- `tcpip-forward` comes with what `net.Listen` answers, `closeAll` with the order in which
the registry is ranged over. -/
inductive RemoteStep where
  | forward (payload : Payload) (listen : Option Addr)
  | register
  | cancel (payload : Payload)
  | close
  | otherRequest
  | finish
  | closeAll (order : List (GoString × ℕ))

namespace RemoteState

def init : RemoteState where
  registry := ∅
  listeners := []
  phase := .idle
  tornDown := false

/-- No open listener has this address. -/
def Vacant (s : RemoteState) (addr : Addr) : Prop :=
  ∀ l ∈ s.listeners, l.life = .listening → l.addr ≠ addr

instance (s : RemoteState) (addr : Addr) : Decidable (s.Vacant addr) :=
  inferInstanceAs (Decidable (∀ l ∈ s.listeners, _))

def closeListener (how : Life) (listeners : List Listener) (l : ℕ) : List Listener :=
  listeners.modify l (Listener.close how)

/-- The request up to `net.Listen`: the host it asked for and the address it got, if it came
that far. -/
def opening (policy : Option Policy) (role : GoString) (payload : Payload) (answer : Option Addr) :
    Option (GoString × Addr) :=
  match payload, policy with
  | some (bindAddr, bindPort), some policy =>
      if policy.allowRemoteBind role bindAddr bindPort then answer.map (bindAddr, ·) else none
  | _, _ => none

/-- `net.Listen`; the operating system does not answer with an address in use. -/
def listen (s : RemoteState) (bindAddr : GoString) (addr : Addr) : Option RemoteState :=
  if s.Vacant addr then
    some { s with
      listeners := s.listeners ++ [⟨bindAddr, addr, .listening⟩]
      phase := .listened s.listeners.length }
  else none

/-- What follows `net.Listen`: the listener is registered, or closed if its port is of no use. -/
def put (s : RemoteState) (l : ℕ) : RemoteState :=
  match s.listeners[l]?.bind Listener.bind with
  | some bind => { s with registry := s.registry.set bind l, phase := .idle }
  | none => { s with listeners := closeListener .refused s.listeners l, phase := .idle }

def step (policy : Option Policy) (role : GoString) (s : RemoteState) :
    RemoteStep → Option RemoteState
  | .forward payload answer =>
      match s.phase, opening policy role payload answer with
      | .idle, none => some s
      | .idle, some (bindAddr, addr) => s.listen bindAddr addr
      | _, _ => none
  | .register =>
      match s.phase with
      | .listened l => some (s.put l)
      | _ => none
  | .cancel payload =>
      match s.phase, payload with
      | .idle, none => some s
      | .idle, some (bindAddr, bindPort) =>
          let bind := normalizeTarget bindAddr bindPort
          some
            { s with registry := s.registry.delete bind, phase := .removed (s.registry.get bind) }
      | _, _ => none
  | .close =>
      match s.phase with
      | .removed none => some { s with phase := .idle }
      | .removed (some l) =>
          some { s with listeners := closeListener .cancelled s.listeners l, phase := .idle }
      | _ => none
  | .otherRequest =>
      match s.phase with
      | .idle => some s
      | _ => none
  | .finish =>
      match s.phase with
      | .idle => some { s with phase := .finished }
      | _ => none
  | .closeAll order =>
      if s.tornDown = false ∧ s.registry.Iterates order then
        some { s with
          listeners := (order.map Prod.snd).foldl (closeListener .tornDown) s.listeners
          registry := ∅
          tornDown := true }
      else none

/-! ## What is promised -/

/-- Listener number `l` is open. -/
def Open (listeners : List Listener) (l : ℕ) (listener : Listener) : Prop :=
  listeners[l]? = some listener ∧ listener.life = .listening

/-- The goroutine is not in the middle of a request. -/
def Between (s : RemoteState) : Prop := s.phase = .idle ∨ s.phase = .finished

/-- The registry holds exactly the open listeners, each under its bind. -/
structure Exact (s : RemoteState) : Prop where
  entries : ∀ bind l, s.registry.get bind = some l ↔
    ∃ listener, Open s.listeners l listener ∧ listener.bind = some bind
  bound : ∀ l listener, Open s.listeners l listener → ∃ bind, s.registry.get bind = some l

/-- A cancel request that names the bind of an open listener closes it. -/
def Cancellable (policy : Option Policy) (role : GoString) (s : RemoteState) : Prop :=
  ∀ l listener bindAddr bindPort, Open s.listeners l listener →
    listener.bind = some (normalizeTarget bindAddr bindPort) →
    ∃ s', exec (step policy role) s [.cancel (some (bindAddr, bindPort)), .close] = some s' ∧
      s'.listeners[l]? = some { listener with life := .cancelled }

/-- Once both goroutines are done no listener is open; before the teardown, between two
requests, the registry is exact and a cancel request works. -/
structure Accounted (policy : Option Policy) (role : GoString) (s : RemoteState) : Prop where
  allClosed : s.phase = .finished → s.tornDown = true → ∀ l ∈ s.listeners, l.life ≠ .listening
  registered : s.tornDown = false → s.Between → s.Exact
  cancellable : s.tornDown = false → s.phase = .idle → Cancellable policy role s

/-- The rules of `listeners_accounted`. -/
def Orderly (policy : Option Policy) (role : GoString) (s : RemoteState) : RemoteStep → Prop
  | .forward payload answer =>
      ∀ bindAddr addr, opening policy role payload answer = some (bindAddr, addr) →
        s.tornDown = false ∧
          ∀ port, addr.actualPort = some port →
            s.registry.get (normalizeTarget bindAddr port) = none
  | .closeAll _ => ∀ l, s.phase ≠ .listened l
  | _ => True

/-! ## What happens to the open listeners -/

section Listeners

variable {listeners : List Listener} {l : ℕ} {listener : Listener} {how : Life}

theorem Open.lt (opened : Open listeners l listener) : l < listeners.length :=
  (List.getElem?_eq_some_iff.1 opened.1).1

theorem Open.unique {other : Listener} (opened : Open listeners l listener)
    (opened' : Open listeners l other) : other = listener :=
  Option.some.inj (opened'.1.symm.trans opened.1)

theorem open_append (bindAddr : GoString) (addr : Addr) :
    Open (listeners ++ [⟨bindAddr, addr, .listening⟩]) l listener ↔
      Open listeners l listener ∨
        l = listeners.length ∧ listener = ⟨bindAddr, addr, .listening⟩ := by
  unfold Open
  rcases Nat.lt_trichotomy l listeners.length with below | rfl | above
  · rw [List.getElem?_append_left below]
    simp [below.ne]
  · simp only [List.getElem?_concat_length, Option.some.injEq, List.getElem?_eq_none (le_refl _),
      reduceCtorEq, false_and, false_or, true_and]
    constructor
    · rintro ⟨rfl, -⟩
      rfl
    · rintro rfl
      exact ⟨rfl, rfl⟩
  · have none : (listeners ++ [⟨bindAddr, addr, .listening⟩])[l]? = none := by
      apply List.getElem?_eq_none
      simp only [List.length_append, List.length_singleton]
      omega
    simp [none, List.getElem?_eq_none above.le, above.ne']

theorem open_closeListener (closes : how ≠ .listening) (target : ℕ) :
    Open (closeListener how listeners target) l listener ↔
      Open listeners l listener ∧ l ≠ target := by
  unfold Open closeListener
  rw [List.getElem?_modify]
  by_cases same : target = l
  · subst same
    simp only [ne_eq, not_true_eq_false, and_false, iff_false, not_and]
    intro found
    cases before : listeners[target]? with
    | none => simp [before] at found
    | some old =>
        simp only [before, if_true, Option.map_eq_map, Option.map_some, Option.some.injEq] at found
        rw [← found, Listener.close]
        by_cases listening : old.life = .listening
        · rw [if_pos listening]
          exact closes
        · rw [if_neg listening]
          exact listening
  · simp only [same, if_false, Option.map_eq_map, Option.map_id', ne_eq, Ne.symm same,
      not_false_eq_true, and_true]

/-- Closing a list of listeners leaves the others open. -/
theorem open_closeListeners (closes : how ≠ .listening) (targets : List ℕ) :
    Open (targets.foldl (closeListener how) listeners) l listener ↔
      Open listeners l listener ∧ l ∉ targets := by
  induction targets generalizing listeners with
  | nil => simp
  | cons target targets ih =>
      rw [List.foldl_cons, ih, open_closeListener closes, List.mem_cons, not_or, and_assoc]

end Listeners

/-! ## What a step does -/

section Steps

variable {policy : Option Policy} {role : GoString} {s s' : RemoteState} {label : RemoteStep}

inductive Moves (policy : Option Policy) (role : GoString) (s : RemoteState) :
    RemoteStep → RemoteState → Prop
  | stays {label : RemoteStep} : Moves policy role s label s
  | listen {payload : Payload} {answer : Option Addr} {bindAddr : GoString} {addr : Addr}
      (at_ : s.phase = .idle) (opens : opening policy role payload answer = some (bindAddr, addr)) :
      Moves policy role s (.forward payload answer)
        { s with
          listeners := s.listeners ++ [⟨bindAddr, addr, .listening⟩]
          phase := .listened s.listeners.length }
  | register {l : ℕ} (at_ : s.phase = .listened l) : Moves policy role s .register (s.put l)
  | cancel {bindAddr : GoString} {bindPort : UInt32} (at_ : s.phase = .idle) :
      Moves policy role s (.cancel (some (bindAddr, bindPort)))
        { s with
          registry := s.registry.delete (normalizeTarget bindAddr bindPort)
          phase := .removed (s.registry.get (normalizeTarget bindAddr bindPort)) }
  | closeNothing (at_ : s.phase = .removed none) :
      Moves policy role s .close { s with phase := .idle }
  | close {l : ℕ} (at_ : s.phase = .removed (some l)) :
      Moves policy role s .close
        { s with listeners := closeListener .cancelled s.listeners l, phase := .idle }
  | finish (at_ : s.phase = .idle) : Moves policy role s .finish { s with phase := .finished }
  | closeAll {order : List (GoString × ℕ)} (up : s.tornDown = false)
      (iterates : s.registry.Iterates order) :
      Moves policy role s (.closeAll order)
        { s with
          listeners := (order.map Prod.snd).foldl (closeListener .tornDown) s.listeners
          registry := ∅
          tornDown := true }

theorem moves_of_step (moved : s.step policy role label = some s') :
    Moves policy role s label s' := by
  cases label with
  | forward payload answer =>
      simp only [step] at moved
      split at moved
      next => cases moved; exact .stays
      next bindAddr addr at_ opens =>
        rw [RemoteState.listen] at moved
        split_ifs at moved with vacant
        cases moved
        exact .listen at_ opens
      next => cases moved
  | register =>
      simp only [step] at moved
      split at moved
      next l at_ => cases moved; exact .register at_
      next => cases moved
  | cancel payload =>
      simp only [step] at moved
      split at moved
      next => cases moved; exact .stays
      next at_ => cases moved; exact .cancel at_
      next => cases moved
  | close =>
      simp only [step] at moved
      split at moved
      next at_ => cases moved; exact .closeNothing at_
      next l at_ => cases moved; exact .close at_
      next => cases moved
  | otherRequest =>
      simp only [step] at moved
      split at moved
      next => cases moved; exact .stays
      next => cases moved
  | finish =>
      simp only [step] at moved
      split at moved
      next at_ => cases moved; exact .finish at_
      next => cases moved
  | closeAll order =>
      simp only [step] at moved
      split_ifs at moved with possible
      cases moved
      exact .closeAll possible.1 possible.2

end Steps

/-! ## The account -/

/-- The listener the request goroutine is about to register or to close. -/
def InHand (s : RemoteState) (l : ℕ) : Prop := s.phase = .listened l ∨ s.phase = .removed (some l)

/-- Before the teardown the registry accounts for every open listener that is not in the
goroutine's hand; after it, an open listener is one that is about to be closed. -/
structure Account (s : RemoteState) : Prop where
  entries : s.tornDown = false → ∀ bind l, s.registry.get bind = some l ↔
    ∃ listener, Open s.listeners l listener ∧ listener.bind = some bind ∧ ¬ s.InHand l
  bound : ∀ l listener, Open s.listeners l listener → ¬ s.InHand l →
    ∃ bind, listener.bind = some bind
  fresh : ∀ l, s.phase = .listened l → s.tornDown = false ∧
    ∃ listener, Open s.listeners l listener ∧
      ∀ bind, listener.bind = some bind → s.registry.get bind = none
  down : s.tornDown = true → (∀ bind, s.registry.get bind = none) ∧
    ∀ l listener, Open s.listeners l listener → s.phase = .removed (some l)

theorem account_init : Account init where
  entries _ bind l := by simp [init, Open]
  bound l listener opened := by simp [init, Open] at opened
  fresh l at_ := by cases at_
  down torn := by cases torn

section Account

variable {policy : Option Policy} {role : GoString} {s s' : RemoteState} {label : RemoteStep}

theorem not_inHand_of_idle (at_ : s.phase = .idle) (l : ℕ) : ¬ s.InHand l := by
  rintro (held | held) <;> rw [at_] at held <;> cases held

/-- After the teardown, a goroutine without a listener to close leaves none open. -/
theorem Account.closed_of_down (account : Account s) (torn : s.tornDown = true)
    (empty : ∀ l, s.phase ≠ .removed (some l)) {l : ℕ} {listener : Listener} :
    ¬ Open s.listeners l listener :=
  fun opened => empty l ((account.down torn).2 l listener opened)

theorem Account.listen (account : Account s) {bindAddr : GoString} {addr : Addr}
    (at_ : s.phase = .idle) (up : s.tornDown = false)
    (vacantBind : ∀ port, addr.actualPort = some port →
      s.registry.get (normalizeTarget bindAddr port) = none) :
    Account { s with
      listeners := s.listeners ++ [⟨bindAddr, addr, .listening⟩]
      phase := .listened s.listeners.length } where
  entries _ bind l := by
    rw [account.entries up]
    constructor
    · rintro ⟨listener, opened, named, -⟩
      refine ⟨listener, (open_append _ _).2 (.inl opened), named, ?_⟩
      rintro (held | held)
      · -- The new listener's number is not one of the old.
        cases held
        exact absurd opened.lt (lt_irrefl _)
      · cases held
    · rintro ⟨listener, opened, named, notHeld⟩
      rcases (open_append _ _).1 opened with opened | ⟨rfl, -⟩
      · exact ⟨listener, opened, named, not_inHand_of_idle at_ l⟩
      · exact absurd (.inl rfl) notHeld
  bound l listener opened notHeld := by
    rcases (open_append _ _).1 opened with opened | ⟨rfl, -⟩
    · exact account.bound l listener opened (not_inHand_of_idle at_ l)
    · exact absurd (.inl rfl) notHeld
  fresh l held := by
    cases held
    refine ⟨up, _, (open_append _ _).2 (.inr ⟨rfl, rfl⟩), fun bind named => ?_⟩
    obtain ⟨port, fits, rfl⟩ := Option.map_eq_some_iff.1 named
    exact vacantBind port fits
  down torn := by
    rw [up] at torn
    cases torn

/-- Closing the listener in hand. -/
theorem Account.closeHeld (account : Account s) {l : ℕ} {how : Life} (closes : how ≠ .listening)
    (handOnly : ∀ l', s.InHand l' ↔ l' = l) :
    Account { s with listeners := closeListener how s.listeners l, phase := .idle } := by
  refine ⟨fun up bind l' => ?_, fun l' listener opened _ => ?_, fun l' held => ?_, fun torn => ?_⟩
  · rw [account.entries up]
    constructor
    · rintro ⟨listener, opened, named, notHeld⟩
      have different : l' ≠ l := fun same => notHeld ((handOnly l').2 same)
      exact ⟨listener, (open_closeListener closes l).2 ⟨opened, different⟩, named,
        not_inHand_of_idle rfl _⟩
    · rintro ⟨listener, opened, named, -⟩
      obtain ⟨opened, different⟩ := (open_closeListener closes l).1 opened
      exact ⟨listener, opened, named, fun held => different ((handOnly l').1 held)⟩
  · obtain ⟨opened, different⟩ := (open_closeListener closes l).1 opened
    exact account.bound l' listener opened fun held => different ((handOnly l').1 held)
  · cases held
  · obtain ⟨empty, closing⟩ := account.down torn
    refine ⟨empty, fun l' listener opened => ?_⟩
    obtain ⟨opened, different⟩ := (open_closeListener closes l).1 opened
    exact absurd ((handOnly l').1 (.inr (closing l' listener opened))) different

/-- Registering the listener in hand under a bind that is free. -/
theorem Account.register (account : Account s) {l : ℕ} {listener : Listener} {bind : GoString}
    (up : s.tornDown = false) (handOnly : ∀ l', s.InHand l' ↔ l' = l)
    (opened : Open s.listeners l listener) (named : listener.bind = some bind)
    (free : s.registry.get bind = none) :
    Account { s with registry := s.registry.set bind l, phase := .idle } where
  entries _ bind' l' := by
    show (s.registry.set bind l).get bind' = some l' ↔ _
    rw [GoMap.get_set]
    constructor
    · intro found
      by_cases same : bind' = bind
      · rw [if_pos same, Option.some.injEq] at found
        subst found same
        exact ⟨listener, opened, named, not_inHand_of_idle rfl _⟩
      · rw [if_neg same] at found
        obtain ⟨other, opened', named', -⟩ := (account.entries up bind' l').1 found
        exact ⟨other, opened', named', not_inHand_of_idle rfl _⟩
    · rintro ⟨other, opened', named', -⟩
      by_cases same : l' = l
      · subst same
        rw [opened.unique opened', named, Option.some.injEq] at named'
        rw [if_pos named'.symm]
      · have found := (account.entries up bind' l').2
          ⟨other, opened', named', fun held => same ((handOnly l').1 held)⟩
        have different : bind' ≠ bind := by
          rintro rfl
          rw [free] at found
          cases found
        rwa [if_neg different]
  bound l' other opened' _ := by
    by_cases same : l' = l
    · subst same
      exact ⟨bind, opened.unique opened' ▸ named⟩
    · exact account.bound l' other opened' fun held => same ((handOnly l').1 held)
  fresh l' held := by cases held
  down torn := by
    rw [show s.tornDown = true from torn] at up
    cases up

theorem Account.put (account : Account s) {l : ℕ} (at_ : s.phase = .listened l) :
    Account (s.put l) := by
  obtain ⟨up, listener, opened, fresh⟩ := account.fresh l at_
  have handOnly (l' : ℕ) : s.InHand l' ↔ l' = l := by
    simp [InHand, at_, eq_comm]
  unfold RemoteState.put
  rw [opened.1, Option.bind_some]
  cases named : listener.bind with
  | some bind => exact account.register up handOnly opened named (fresh bind named)
  | none => exact account.closeHeld (by decide) handOnly

theorem Account.cancel (account : Account s) (at_ : s.phase = .idle) (bind : GoString) :
    Account { s with
      registry := s.registry.delete bind, phase := .removed (s.registry.get bind) } where
  entries up bind' l := by
    show (s.registry.delete bind).get bind' = some l ↔ _
    have known := account.entries up
    rw [GoMap.get_delete]
    constructor
    · intro found
      by_cases same : bind' = bind
      · rw [if_pos same] at found
        cases found
      · rw [if_neg same] at found
        obtain ⟨listener, opened, named, -⟩ := (known bind' l).1 found
        refine ⟨listener, opened, named, ?_⟩
        rintro (held | held)
        · cases held
        · -- A listener has one bind, so the one taken out is another.
          obtain ⟨other, opened', named', -⟩ := (known bind l).1 (Phase.removed.inj held)
          rw [opened.unique opened', named, Option.some.injEq] at named'
          exact same named'
    · rintro ⟨listener, opened, named, notHeld⟩
      have found := (known bind' l).2 ⟨listener, opened, named, not_inHand_of_idle at_ l⟩
      have different : bind' ≠ bind := by
        rintro rfl
        exact notHeld (.inr (congrArg Phase.removed found))
      rwa [if_neg different]
  bound l listener opened _ := account.bound l listener opened (not_inHand_of_idle at_ l)
  fresh l held := by cases held
  down torn := by
    obtain ⟨empty, -⟩ := account.down torn
    refine ⟨fun bind' => ?_, fun l listener opened => ?_⟩
    · show (s.registry.delete bind).get bind' = none
      rw [GoMap.get_delete, empty bind', ite_self]
    · exact absurd opened (account.closed_of_down torn (by simp [at_]))

theorem Account.close (account : Account s) {l : ℕ} (at_ : s.phase = .removed (some l)) :
    Account { s with listeners := closeListener .cancelled s.listeners l, phase := .idle } := by
  have handOnly (l' : ℕ) : s.InHand l' ↔ l' = l := by
    simp [InHand, at_, eq_comm]
  exact account.closeHeld (by decide) handOnly

/-- A step of the goroutine that touches no listener and ends with empty hands. -/
theorem Account.leave (account : Account s) {phase : Phase}
    (before : ∀ l, ¬ s.InHand l) (after : ∀ l, phase ≠ .listened l ∧ phase ≠ .removed (some l)) :
    Account { s with phase := phase } := by
  have notHeld (l : ℕ) : ¬ InHand { s with phase := phase } l := by
    rintro (held | held)
    · exact (after l).1 held
    · exact (after l).2 held
  refine ⟨fun up bind l => ?_, fun l listener opened _ => ?_, fun l held => ?_, fun torn => ?_⟩
  · rw [account.entries up]
    simp only [before l, notHeld l]
  · exact account.bound l listener opened (before l)
  · exact absurd held (after l).1
  · obtain ⟨empty, closing⟩ := account.down torn
    exact ⟨empty, fun l listener opened => absurd (.inr (closing l listener opened)) (before l)⟩

theorem Account.closeAll (account : Account s) {order : List (GoString × ℕ)}
    (up : s.tornDown = false) (iterates : s.registry.Iterates order)
    (notListened : ∀ l, s.phase ≠ .listened l) :
    Account { s with
      listeners := (order.map Prod.snd).foldl (closeListener .tornDown) s.listeners
      registry := ∅
      tornDown := true } := by
  have closes : Life.tornDown ≠ .listening := by decide
  -- What stays open is the listener in the goroutine's hand: the registry has all others.
  have held {l : ℕ} {listener : Listener}
      (opened :
        Open ((order.map Prod.snd).foldl (closeListener .tornDown) s.listeners) l listener) :
      s.phase = .removed (some l) := by
    obtain ⟨opened, spared⟩ := (open_closeListeners closes _).1 opened
    by_contra notRemoved
    have notHeld : ¬ s.InHand l := by
      rintro (held | held)
      · exact notListened l held
      · exact notRemoved held
    obtain ⟨bind, named⟩ := account.bound l listener opened notHeld
    have found := (account.entries up bind l).2 ⟨listener, opened, named, notHeld⟩
    exact spared (List.mem_map.2 ⟨(bind, l), (iterates.mem_iff bind l).2 found, rfl⟩)
  refine ⟨fun up => ?_, fun l listener opened notHeld => ?_, fun l at_ => ?_, fun _ => ?_⟩
  · cases up
  · exact absurd (.inr (held opened)) notHeld
  · exact absurd at_ (notListened l)
  · exact ⟨fun bind => GoMap.get_empty bind, fun l listener opened => held opened⟩

/-- An orderly step keeps the account. -/
theorem Account.step (account : Account s) (orderly : Orderly policy role s label)
    (moved : s.step policy role label = some s') : Account s' := by
  cases moves_of_step moved with
  | stays => exact account
  | listen at_ opens =>
      obtain ⟨up, vacantBind⟩ := orderly _ _ opens
      exact account.listen at_ up vacantBind
  | register at_ => exact account.put at_
  | cancel at_ => exact account.cancel at_ _
  | closeNothing at_ =>
      exact account.leave (fun l => by simp [InHand, at_]) (fun l => by simp)
  | close at_ => exact account.close at_
  | finish at_ => exact account.leave (not_inHand_of_idle at_) (fun l => by simp)
  | closeAll up iterates => exact account.closeAll up iterates orderly

theorem Account.exact_ (account : Account s) (up : s.tornDown = false) (between : s.Between) :
    s.Exact := by
  have notHeld (l : ℕ) : ¬ s.InHand l := by
    rcases between with at_ | at_
    · exact not_inHand_of_idle at_ l
    · simp [InHand, at_]
  have entries (bind : GoString) (l : ℕ) : s.registry.get bind = some l ↔
      ∃ listener, Open s.listeners l listener ∧ listener.bind = some bind := by
    rw [account.entries up]
    simp only [notHeld l, not_false_eq_true, and_true]
  refine ⟨entries, fun l listener opened => ?_⟩
  obtain ⟨bind, named⟩ := account.bound l listener opened (notHeld l)
  exact ⟨bind, (entries bind l).2 ⟨listener, opened, named⟩⟩

theorem Account.cancellable (account : Account s) (up : s.tornDown = false)
    (at_ : s.phase = .idle) : Cancellable policy role s := by
  intro l listener bindAddr bindPort opened named
  have found := ((account.exact_ up (.inl at_)).entries _ l).2 ⟨listener, opened, named⟩
  refine ⟨{ s with
    registry := s.registry.delete (normalizeTarget bindAddr bindPort)
    listeners := closeListener .cancelled s.listeners l
    phase := .idle }, ?_, ?_⟩
  · simp [exec, RemoteState.step, at_, found]
  · simp [closeListener, opened.1, Listener.close, opened.2]

theorem Account.accounted (account : Account s) : Accounted policy role s where
  allClosed done torn listener member open_ := by
    obtain ⟨l, found⟩ := List.mem_iff_getElem?.1 member
    exact account.closed_of_down torn (by simp [done]) ⟨found, open_⟩
  registered up between := account.exact_ up between
  cancellable up at_ := account.cancellable up at_

end Account

/-- **Listeners are accounted for in every orderly run**: any requests, any answers of the
operating system, any moment of the teardown that keeps the rules. -/
theorem listeners_accounted (policy : Option Policy) (role : GoString) (steps : List RemoteStep)
    (s : RemoteState) (ran : exec (step policy role) init steps = some s)
    (orderly : Along (step policy role) (Orderly policy role) init steps) :
    Accounted policy role s := by
  have account : Account s :=
    exec_invariant_along (fun _ _ _ account meets moved => account.step meets moved) account_init
      orderly ran
  exact account.accounted

/-! ## Poles -/

/-- One bind with a fixed port and one with a port of the system's choice. -/
def localPolicy : Policy := newPolicy false [] [] true (str "localhost:8080,localhost:0") []

def forwardLocal (bindPort : UInt32) (addr : Addr) : RemoteStep :=
  .forward (some (str "localhost", bindPort)) (some addr)

theorem step_forwardLocal {s : RemoteState} {bindPort : UInt32} {addr : Addr}
    (allowed : localPolicy.allowRemoteBind (str "admin") (str "localhost") bindPort = true)
    (at_ : s.phase = .idle) (vacant : s.Vacant addr) :
    s.step (some localPolicy) (str "admin") (forwardLocal bindPort addr) = some { s with
      listeners := s.listeners ++ [⟨str "localhost", addr, .listening⟩]
      phase := .listened s.listeners.length } := by
  simp only [step, forwardLocal, at_, opening, allowed, if_true, Option.map_some, listen, vacant]

/-- A request that nothing comes in between of. -/
theorem exec_forwardLocal {s : RemoteState} {bindPort port : UInt32} {addr : Addr}
    (allowed : localPolicy.allowRemoteBind (str "admin") (str "localhost") bindPort = true)
    (at_ : s.phase = .idle) (vacant : s.Vacant addr) (fits : addr.actualPort = some port)
    (rest : List RemoteStep) :
    exec (step (some localPolicy) (str "admin")) s
        (forwardLocal bindPort addr :: .register :: rest) =
      exec (step (some localPolicy) (str "admin")) { s with
        registry := s.registry.set (normalizeTarget (str "localhost") port) s.listeners.length
        listeners := s.listeners ++ [⟨str "localhost", addr, .listening⟩]
        phase := .idle } rest := by
  rw [exec_cons, step_forwardLocal allowed at_ vacant, Option.bind_some, exec_cons]
  simp only [step, put, List.getElem?_concat_length, Option.bind_some, Listener.bind, fits,
    Option.map_some]

theorem orderly_forwardLocal {s : RemoteState} {bindPort port : UInt32} {addr : Addr}
    (up : s.tornDown = false) (fits : addr.actualPort = some port)
    (vacantBind : s.registry.get (normalizeTarget (str "localhost") port) = none) :
    Orderly (some localPolicy) (str "admin") s (forwardLocal bindPort addr) := by
  intro bindAddr addr' opens
  simp only [opening] at opens
  split_ifs at opens
  cases opens
  refine ⟨up, fun port' fits' => ?_⟩
  rw [fits, Option.some.injEq] at fits'
  rw [← fits']
  exact vacantBind

theorem allowed_fixed :
    localPolicy.allowRemoteBind (str "admin") (str "localhost") 8080 = true := by decide

theorem allowed_any :
    localPolicy.allowRemoteBind (str "admin") (str "localhost") 0 = true := by decide

def fixedBind : GoString := normalizeTarget (str "localhost") 8080

def chosenBind : GoString := normalizeTarget (str "localhost") 40000

def fixedAddr : Addr := .tcp (str "127.0.0.1") 8080

def chosenAddr : Addr := .tcp (str "127.0.0.1") 40000

/-- Two listeners, the second on a port the system chose; the client cancels that one and the
teardown closes the other. -/
def twoForwards : List RemoteStep :=
  [forwardLocal 8080 fixedAddr, .register, forwardLocal 0 chosenAddr, .register,
    .cancel (some (str " LOCALHOST", 40000)), .close, .closeAll [(fixedBind, 0)], .finish]

/-- The state after both listeners are registered, when the client is about to cancel. -/
def twoRegistered : RemoteState where
  registry := (GoMap.set ∅ fixedBind 0).set chosenBind 1
  listeners := [⟨str "localhost", fixedAddr, .listening⟩, ⟨str "localhost", chosenAddr, .listening⟩]
  phase := .idle
  tornDown := false

theorem different_binds : chosenBind ≠ fixedBind := by decide

theorem named_chosen : normalizeTarget (str " LOCALHOST") 40000 = chosenBind := by decide

/-- The state after the cancel request took the second listener out. -/
def cancelling : RemoteState :=
  { twoRegistered with
    registry := twoRegistered.registry.delete chosenBind, phase := .removed (some 1) }

/-- The state after it closed the listener. -/
def oneCancelled : RemoteState :=
  { cancelling with listeners := closeListener .cancelled cancelling.listeners 1, phase := .idle }

theorem step_cancelling :
    twoRegistered.step (some localPolicy) (str "admin") (.cancel (some (str " LOCALHOST", 40000))) =
      some cancelling := by
  have taken : twoRegistered.registry.get chosenBind = some 1 := by
    rw [twoRegistered, GoMap.get_set, if_pos rfl]
  simp only [step, show twoRegistered.phase = .idle from rfl, named_chosen, taken]
  rfl

theorem iterates_fixed : oneCancelled.registry.Iterates [(fixedBind, 0)] := by decide

theorem exec_twoForwards :
    exec (step (some localPolicy) (str "admin")) init twoForwards = some {
      registry := ∅
      listeners :=
        [⟨str "localhost", fixedAddr, .tornDown⟩, ⟨str "localhost", chosenAddr, .cancelled⟩]
      phase := .finished
      tornDown := true } := by
  have closed : cancelling.step (some localPolicy) (str "admin") .close = some oneCancelled := rfl
  rw [twoForwards, exec_forwardLocal allowed_fixed rfl (by decide) rfl,
    exec_forwardLocal allowed_any rfl (by decide) rfl]
  show exec _ twoRegistered _ = _
  rw [exec_cons, step_cancelling, Option.bind_some, exec_cons, closed, Option.bind_some, exec_cons,
    step, if_pos ⟨rfl, iterates_fixed⟩]
  rfl

theorem orderly_twoForwards :
    Along (step (some localPolicy) (str "admin")) (Orderly (some localPolicy) (str "admin")) init
      twoForwards := by
  have free : GoMap.get (GoMap.set ∅ fixedBind 0) chosenBind = none := by
    rw [GoMap.get_set, if_neg different_binds, GoMap.get_empty]
  refine along_cons_of_eq (step_forwardLocal allowed_fixed rfl (by decide))
    (orderly_forwardLocal rfl rfl (GoMap.get_empty _)) (along_cons_of_eq rfl trivial ?_)
  refine along_cons_of_eq (step_forwardLocal allowed_any rfl (by decide))
    (orderly_forwardLocal rfl rfl free) (along_cons_of_eq rfl trivial ?_)
  refine along_cons_of_eq step_cancelling trivial (along_cons_of_eq rfl trivial ⟨?_, ?_⟩)
  · intro l listened
    cases listened
  · exact fun s' _ => ⟨trivial, fun _ _ => trivial⟩

/-- The run is orderly, and what it ends with is accounted for. -/
theorem listeners_accounted_two_forwards :
    ∃ s, exec (step (some localPolicy) (str "admin")) init twoForwards = some s ∧
      s.listeners.length = 2 ∧ Accounted (some localPolicy) (str "admin") s :=
  ⟨_, exec_twoForwards, rfl,
    listeners_accounted _ _ twoForwards _ exec_twoForwards orderly_twoForwards⟩

/-- The listener is leaked when the teardown comes before `Put`, whether before or after
`Listen`; and when the host of a bind has moved, its first listener is lost to the registry. -/
theorem listener_leaked :
    (∃ s, exec (step (some localPolicy) (str "admin")) init
        [forwardLocal 8080 fixedAddr, .closeAll [], .register, .finish] = some s ∧
      s.phase = .finished ∧ s.tornDown = true ∧ ∃ l ∈ s.listeners, l.life = .listening) ∧
    (∃ s, exec (step (some localPolicy) (str "admin")) init
        [.closeAll [], forwardLocal 8080 fixedAddr, .register, .finish] = some s ∧
      s.phase = .finished ∧ s.tornDown = true ∧ ∃ l ∈ s.listeners, l.life = .listening) ∧
    (∃ s, exec (step (some localPolicy) (str "admin")) init
        [forwardLocal 8080 fixedAddr, .register, forwardLocal 8080 (.tcp (str "::1") 8080),
          .register] = some s ∧
      s.phase = .idle ∧ s.tornDown = false ∧ ¬ s.Exact) := by
  refine ⟨⟨{ registry := GoMap.set ∅ fixedBind 0
             listeners := [⟨str "localhost", fixedAddr, .listening⟩]
             phase := .finished
             tornDown := true }, ?_, rfl, rfl, _, List.mem_cons_self, rfl⟩,
    ⟨{ registry := GoMap.set ∅ fixedBind 0
       listeners := [⟨str "localhost", fixedAddr, .listening⟩]
       phase := .finished
       tornDown := true }, ?_, rfl, rfl, _, List.mem_cons_self, rfl⟩,
    ⟨{ registry := (GoMap.set ∅ fixedBind 0).set fixedBind 1
       listeners := [⟨str "localhost", fixedAddr, .listening⟩,
         ⟨str "localhost", .tcp (str "::1") 8080, .listening⟩]
       phase := .idle
       tornDown := false }, ?_, rfl, rfl, ?_⟩⟩
  · rw [exec_cons, step_forwardLocal allowed_fixed rfl (by decide)]
    rfl
  · have down : init.step (some localPolicy) (str "admin") (.closeAll []) =
        some { init with tornDown := true } := rfl
    rw [exec_cons, down, Option.bind_some, exec_cons,
      step_forwardLocal allowed_fixed rfl (by decide)]
    rfl
  · rw [exec_forwardLocal allowed_fixed rfl (by decide) rfl,
      exec_forwardLocal allowed_fixed rfl (by decide) rfl]
    rfl
  · intro exact_
    obtain ⟨bind, found⟩ := exact_.bound 0 ⟨str "localhost", fixedAddr, .listening⟩ ⟨rfl, rfl⟩
    have lost : ((GoMap.set ∅ fixedBind 0).set fixedBind 1).get bind = some 0 := found
    rw [GoMap.get_set, GoMap.get_set] at lost
    by_cases same : bind = fixedBind
    · simp [same] at lost
    · simp [same] at lost

end RemoteState

end SentinelOps.Transport
