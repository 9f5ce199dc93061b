/-
# Transport.DirectForward — a local forward: the address that is checked and the one dialled

A client asks for a `direct-tcpip` channel and names a host and a port.  The handler checks them
against the policy and then dials them.  The check trims white space off the host and the dial
does not, so what is dialled, and recorded as the tunnel's target, need not be an entry of the
allow list.

`dialled_iff` says for which hosts it always is one: for those without white space around them,
and for those with a comma, which no allow list can name.

Pole: `dialled_unlisted` (a blank before the host).
-/
import SentinelOps.Forwarding.AllowList
import SentinelOps.Theory.Script

namespace SentinelOps.Transport

open Theory GoText Forwarding
open GoNet (joinHostPort mem_joinHostPort)

set_option autoImplicit false

/-! ## The handler -/

structure DirectPayload where
  hostToConnect : GoString
  portToConnect : UInt32
  originatorHost : GoString
  originatorPort : UInt32

/-- `ssh.RejectionReason`. -/
inductive RejectionReason where
  | prohibited
  | connectionFailed
deriving DecidableEq, Repr

/-- What the handler does; `copy` is both directions of the traffic until they end, and `stop`
closes the channel and the upstream connection. -/
inductive ForwardAsk where
  | reject (reason : RejectionReason) (message : GoString)
  | observeTunnelRejected (direction reason : GoString)
  | dial (target : GoString)
  | accept
  | closeUpstream
  | openLocal (target origin : GoString)
  | copy
  | stop
  | closeTunnel (id : GoString)
deriving DecidableEq

/-- Errors are given by their texts; `openLocal` answers with the ID of the tunnel. -/
def ForwardAsk.Answer : ForwardAsk → Type
  | .dial _ => Option GoString
  | .accept => Option GoString
  | .openLocal _ _ => GoString
  | _ => Unit

/-- An outside where everything succeeds. -/
def answering : (ask : ForwardAsk) → ask.Answer
  | .dial _ => (none : Option GoString)
  | .accept => (none : Option GoString)
  | .openLocal _ _ => str "tun-000001"
  | .reject _ _ | .observeTunnelRejected _ _ | .closeUpstream | .copy | .stop | .closeTunnel _ => ()

abbrev ForwardScript := Script ForwardAsk ForwardAsk.Answer Unit

def refuse (reason : RejectionReason) (message label : GoString) : ForwardScript :=
  .ask (.reject reason message) fun _ =>
    .ask (.observeTunnelRejected (str "local") label) fun _ => .ret ()

/-- The traffic of an accepted channel, and what follows it. -/
def relay (tunnelID : GoString) : ForwardScript :=
  .ask .copy fun _ =>
    .ask .stop fun _ =>
      if tunnelID ≠ [] then .ask (.closeTunnel tunnelID) fun _ => .ret () else .ret ()

/-- What follows the check; `managed` says whether there is a tunnel manager. -/
def forward (managed : Bool) (target origin : GoString) : ForwardScript :=
  .ask (.dial target) fun (err : Option GoString) =>
    match err with
    | some _ => refuse .connectionFailed (str "falló la conexión al destino") (str "dial_failed")
    | none =>
        .ask .accept fun (err : Option GoString) =>
          match err with
          | some _ =>
              .ask .closeUpstream fun _ =>
                .ask (.observeTunnelRejected (str "local") (str "channel_accept_failed"))
                  fun _ => .ret ()
          | none =>
              if managed then .ask (.openLocal target origin) fun id => relay id else relay []

/-- `payload` is what the extra data unmarshals to. -/
def handleDirectTCPIP (policy : Option Policy) (managed : Bool) (role : GoString)
    (payload : Option DirectPayload) : ForwardScript :=
  let disabled :=
    refuse .prohibited (str "el reenvío local está deshabilitado") (str "disabled")
  match policy with
  | none => disabled
  | some policy =>
      if !policy.localEnabled then disabled
      else
        match payload with
        | none =>
            refuse .connectionFailed (str "payload direct-tcpip inválido") (str "bad_payload")
        | some payload =>
            if !policy.allowLocalTarget role payload.hostToConnect payload.portToConnect then
              refuse .prohibited (str "el destino del reenvío no está permitido")
                (str "politica_denegada")
            else
              forward managed
                (joinHostPort payload.hostToConnect (decimal payload.portToConnect.toNat))
                (joinHostPort payload.originatorHost (decimal payload.originatorPort.toNat))

/-! ## The address that is used -/

/-- The address that is dialled, or recorded as the target of a tunnel. -/
def ForwardAsk.target? : ForwardAsk → Option GoString
  | .dial target => some target
  | .openLocal target _ => some target
  | _ => none

/-- The question uses this address or none. -/
def Uses (target : GoString) (ask : ForwardAsk) : Prop :=
  ask.target? = none ∨ ask.target? = some target

theorem asks_refuse (reason : RejectionReason) (message label : GoString) :
    (refuse reason message label).Asks fun ask => ask.target? = none :=
  ⟨rfl, fun _ => ⟨rfl, fun _ => trivial⟩⟩

theorem asks_relay (target tunnelID : GoString) : (relay tunnelID).Asks (Uses target) := by
  refine ⟨.inl rfl, fun _ => ⟨.inl rfl, fun _ => ?_⟩⟩
  split
  · exact ⟨.inl rfl, fun _ => trivial⟩
  · trivial

/-- One address is used from the dial on. -/
theorem asks_forward (managed : Bool) (target origin : GoString) :
    (forward managed target origin).Asks (Uses target) := by
  refine ⟨.inr rfl, fun (err : Option GoString) => ?_⟩
  cases err with
  | some err => exact (asks_refuse _ _ _).mono fun ask => .inl
  | none =>
      refine ⟨.inl rfl, fun (err : Option GoString) => ?_⟩
      cases err with
      | some err => exact ⟨.inl rfl, fun _ => ⟨.inl rfl, fun _ => trivial⟩⟩
      | none =>
          dsimp only
          split
          · exact ⟨.inr rfl, fun id => asks_relay target id⟩
          · exact asks_relay target []

namespace DirectPayload

variable (payload : DirectPayload)

/-- The address of the payload, as it is dialled. -/
def target : GoString :=
  joinHostPort payload.hostToConnect (decimal payload.portToConnect.toNat)

/-- The payload is let through. -/
def Admitted (policy : Policy) (role : GoString) : Prop :=
  policy.localEnabled = true ∧
    policy.allowLocalTarget role payload.hostToConnect payload.portToConnect = true

end DirectPayload

section Handler

variable {policy : Policy} {managed : Bool} {role : GoString} {payload : DirectPayload}

theorem handle_of_admitted (admitted : payload.Admitted policy role) :
    handleDirectTCPIP (some policy) managed role (some payload) =
      forward managed payload.target
        (joinHostPort payload.originatorHost (decimal payload.originatorPort.toNat)) := by
  unfold handleDirectTCPIP
  simp only [admitted.1, admitted.2, Bool.not_true, Bool.false_eq_true, if_false]
  rfl

/-- Any outside will do: the first thing that an admitted payload leads to is the dial. -/
theorem dials_of_admitted (managed : Bool) (admitted : payload.Admitted policy role) :
    ∃ trace, (handleDirectTCPIP (some policy) managed role (some payload)).Runs trace () ∧
      ∃ answer, ⟨.dial payload.target, answer⟩ ∈ trace := by
  have ran := Script.runs_transcript answering
    (handleDirectTCPIP (some policy) managed role (some payload))
  refine ⟨_, ran, none, ?_⟩
  rw [handle_of_admitted admitted]
  exact List.mem_cons_self

theorem asks_handle (policy : Policy) (managed : Bool) (role : GoString) (payload : DirectPayload) :
    (handleDirectTCPIP (some policy) managed role (some payload)).Asks fun ask =>
      ask.target? = none ∨ (payload.Admitted policy role ∧ ask.target? = some payload.target) := by
  by_cases admitted : payload.Admitted policy role
  · rw [handle_of_admitted admitted]
    exact (asks_forward _ _ _).mono fun ask uses => uses.imp_right fun same => ⟨admitted, same⟩
  · refine Script.Asks.mono (P := fun ask => ask.target? = none) ?_ fun ask => .inl
    unfold handleDirectTCPIP
    dsimp only
    split_ifs with disabled refused
    · exact asks_refuse _ _ _
    · exact asks_refuse _ _ _
    · exact absurd ⟨by simpa using disabled, by simpa using refused⟩ admitted

end Handler

/-! ## What is checked and what is dialled -/

/-- In every run, an address that is dialled or recorded is, lowered, an entry of the allow
list. -/
def DialsListed (policy : Policy) (payload : DirectPayload) : Prop :=
  ∀ managed role trace,
    (handleDirectTCPIP (some policy) managed role (some payload)).Runs trace () →
      ∀ e ∈ trace, ∀ used, e.1.target? = some used →
        toLower used ∈ policy.allowedLocalTargets

theorem mem_allowedLocalTargets {policy : Policy} {target : GoString} :
    target ∈ policy.allowedLocalTargets ↔ target ∈ policy.localAllowlist := by
  rw [Policy.allowedLocalTargets, sortedKeys, List.mem_insertionSort, List.mem_dedup]

/-- It is enough to look at what the policy admits. -/
theorem dialsListed_iff (policy : Policy) (payload : DirectPayload) :
    DialsListed policy payload ↔ ∀ role, payload.Admitted policy role →
      address payload.hostToConnect payload.portToConnect.toNat ∈ policy.localAllowlist := by
  constructor
  · intro listed role admitted
    obtain ⟨trace, ran, answer, member⟩ := dials_of_admitted false admitted
    exact mem_allowedLocalTargets.1 (listed false role trace ran _ member _ rfl)
  · intro listed managed role trace ran e member used uses
    rcases (asks_handle policy managed role payload).of_runs ran e member with
      none_ | ⟨admitted, same⟩
    · rw [none_] at uses
      cases uses
    · rw [same, Option.some.injEq] at uses
      rw [← uses]
      exact mem_allowedLocalTargets.2 (listed role admitted)

/-- A policy that a configuration builds admits no host with a comma. -/
theorem not_admitted_of_comma {payload : DirectPayload} (inside : comma ∈ payload.hostToConnect)
    (localEnabled remoteEnabled : Bool) (locals localRoles remotes remoteRoles role : GoString) :
    ¬ payload.Admitted
      (newPolicy localEnabled locals localRoles remoteEnabled remotes remoteRoles) role := by
  rintro ⟨-, allowed⟩
  unfold Policy.allowLocalTarget admits at allowed
  rw [Bool.and_eq_true, decide_eq_true_eq] at allowed
  obtain ⟨item, part, -, same⟩ := mem_parseCSVSet_iff.1 allowed.2
  have mark : Mark comma := by decide
  have solid : isSpace comma.toNat = false := by decide
  have within : comma ∈ normalizeTarget payload.hostToConnect payload.portToConnect := by
    rw [normalizeTarget_eq, address, mem_toLower_iff mark]
    exact mem_joinHostPort _ ((mem_trimSpace_iff mark.ascii solid _).2 inside)
  rw [← same, Forwarding.normalize, mem_toLower_iff mark,
    mem_trimSpace_iff mark.ascii solid] at within
  exact not_mem_of_mem_splitOn part within

/-- The policy that lists one target. -/
def listing (host : GoString) (port : Nat) : Policy :=
  newPolicy true (renderList [.pair [] host port []]) [] false [] []

theorem mem_listing {host target : GoString} {port : Nat} (trimmed : trimSpace host = host)
    (noComma : comma ∉ host) :
    target ∈ (listing host port).localAllowlist ↔ address host port = target := by
  have blank : Blank [] := fun p none_ => by cases none_
  have wellFormed : ∀ item ∈ [AllowItem.pair [] host port []], item.WellFormed := by
    intro item member
    rw [List.mem_singleton.1 member]
    exact ⟨blank, blank, trimmed, noComma⟩
  show target ∈ parseCSVSet _ ↔ _
  rw [mem_parseCSVSet_renderList wellFormed]
  simp [listed, AllowItem.pair?]

/-- A payload is admitted by the policy that lists its trimmed host. -/
theorem admitted_listing (payload : DirectPayload)
    (noComma : comma ∉ trimSpace payload.hostToConnect) (role : GoString) :
    payload.Admitted
      (listing (trimSpace payload.hostToConnect) payload.portToConnect.toNat) role := by
  refine ⟨rfl, ?_⟩
  have target : normalizeTarget payload.hostToConnect payload.portToConnect ∈
      (listing (trimSpace payload.hostToConnect) payload.portToConnect.toNat).localAllowlist :=
    (mem_listing (trimSpace_trimSpace _) noComma).2 rfl
  unfold Policy.allowLocalTarget admits
  rw [Bool.and_eq_true, decide_eq_true_eq]
  exact ⟨rfl, target⟩

/-- **When what is checked is what is dialled.**  For a host and a port, every policy that a
configuration builds has the address that is dialled, lowered, in its allow list, exactly when the
host has no white space around it, or has a comma and is admitted by none. -/
theorem dialled_iff (payload : DirectPayload) :
    (∀ localEnabled locals localRoles remoteEnabled remotes remoteRoles,
      DialsListed (newPolicy localEnabled locals localRoles remoteEnabled remotes remoteRoles)
        payload) ↔
      trimSpace payload.hostToConnect = payload.hostToConnect ∨ comma ∈ payload.hostToConnect := by
  constructor
  · intro listed
    by_contra other
    obtain ⟨untrimmed, noComma⟩ := not_or.1 other
    have noComma' : comma ∉ trimSpace payload.hostToConnect := fun member =>
      noComma ((mem_trimSpace_iff (by decide) (by decide) _).1 member)
    have dialled := (dialsListed_iff _ payload).1 (listed _ _ _ _ _ _) []
      (admitted_listing payload noComma' [])
    have same := (mem_listing (trimSpace_trimSpace _) noComma').1 dialled
    exact untrimmed ((toLower_trimSpace_eq_iff _).1 ((address_eq_iff _ _ _ _).1 same).1)
  · rintro (trimmed | inside) localEnabled locals localRoles remoteEnabled remotes remoteRoles
    · rw [dialsListed_iff]
      rintro role ⟨-, allowed⟩
      unfold Policy.allowLocalTarget admits at allowed
      rw [Bool.and_eq_true, decide_eq_true_eq, normalizeTarget_eq, trimmed] at allowed
      exact allowed.2
    · rw [dialsListed_iff]
      intro role admitted
      exact absurd admitted (not_admitted_of_comma inside _ _ _ _ _ _ _)

/-- With a blank before the host, the policy that lists `localhost:80` lets the request through,
and what is dialled is not in its list. -/
theorem dialled_unlisted :
    let policy := newPolicy true (str "localhost:80") [] false [] []
    let payload : DirectPayload := ⟨str " localhost", 80, str "127.0.0.1", 40000⟩
    ∃ trace, (handleDirectTCPIP (some policy) true (str "student") (some payload)).Runs trace () ∧
      (∃ answer, ⟨.dial (str " localhost:80"), answer⟩ ∈ trace) ∧
      toLower (str " localhost:80") ∉ policy.allowedLocalTargets := by
  intro policy payload
  have admitted : payload.Admitted policy (str "student") := ⟨rfl, by decide⟩
  have dialled : payload.target = str " localhost:80" := by decide
  have unlisted : toLower (str " localhost:80") ∉ policy.allowedLocalTargets := by
    decide
  obtain ⟨trace, ran, answer, member⟩ := dials_of_admitted true admitted
  rw [dialled] at member
  exact ⟨trace, ran, ⟨answer, member⟩, unlisted⟩

end SentinelOps.Transport
