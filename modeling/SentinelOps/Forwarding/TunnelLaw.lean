/-
# Forwarding.TunnelLaw — every tunnel is opened once and closed once

`tunnel_law` is what the manager promises its callers, over every interleaving of opens,
closes and commands: IDs are issued once, one `Close` of an ID succeeds and that call alone
runs the stop function and `OnClose`, every open runs `OnOpen` once, and the reading methods
describe the tunnels opened and not yet closed.

It does not promise that `OnOpen` comes first.  A tunnel can be found and closed before the
goroutine that published it has run the hook, and then the gauge of its direction goes
below zero (`gauge_below_zero`).  `gauge_law` says that this is the only way.
-/
import SentinelOps.Forwarding.History

namespace SentinelOps.Forwarding

open Theory Schedule Jobs
open GoText (GoString str)

set_option autoImplicit false

/-- `Close(id)` returns true. -/
def Event.returnsTrue (id : GoString) : Event → Bool
  | .closeReturned _ id' true => id' = id
  | _ => false

def Event.runsStop (id : GoString) : Event → Bool
  | .stop _ t _ => t.id = id
  | _ => false

def Event.runsOnClose (id : GoString) : Event → Bool
  | .onClose _ t => t.id = id
  | _ => false

def Event.runsOnOpen (id : GoString) : Event → Bool
  | .onOpen _ t => t.id = id
  | _ => false

/-! Each of these is a question to one job. -/

section

variable {id : GoString} {e : Event}

theorem Event.job_of_returnsTrue (holds : e.returnsTrue id = true) :
    e.job = some (.closing id) := by
  unfold Event.returnsTrue at holds
  split at holds
  · simpa [Event.job] using holds
  · cases holds

theorem Event.job_of_runsStop (holds : e.runsStop id = true) : e.job = some (.closing id) := by
  unfold Event.runsStop at holds
  split at holds
  · simpa [Event.job] using holds
  · cases holds

theorem Event.job_of_runsOnClose (holds : e.runsOnClose id = true) :
    e.job = some (.closing id) := by
  unfold Event.runsOnClose at holds
  split at holds
  · simpa [Event.job] using holds
  · cases holds

theorem Event.job_of_runsOnOpen (holds : e.runsOnOpen id = true) : e.job = some (.opening id) := by
  unfold Event.runsOnOpen at holds
  split at holds
  · simpa [Event.job] using holds
  · cases holds

end

/-- The tunnels opened and not yet closed. -/
def live (log : List Event) : List Tunnel :=
  ((issued log).filter fun item => item ∉ closed log).map ManagedTunnel.toTunnel

structure TunnelLaw (s : CallState) : Prop where
  /-- Issued IDs are pairwise distinct. -/
  distinct : ((issued s.log).map fun item => item.id).Nodup
  /-- At most one `Close` of an ID returned true. -/
  closedOnce : ∀ id, (s.log.filter (Event.returnsTrue id)).length ≤ 1
  /-- That call ran the stop function and `OnClose`, once each. -/
  closer : ∀ i id, .closeReturned i id true ∈ s.log → ∃ item ∈ issued s.log, item.id = id ∧
    s.log.filter (Event.runsStop id) = item.stop.toList.map (.stop i item.toTunnel) ∧
    s.log.filter (Event.runsOnClose id) = [.onClose i item.toTunnel]
  /-- Nobody else did: who runs them returns true, or is still at that `Close`. -/
  noOther : ∀ i t, (.onClose i t ∈ s.log ∨ ∃ f, .stop i t f ∈ s.log) →
    .closeReturned i t.id true ∈ s.log ∨
      ∃ client item next stage, s.phase i = .closing client item next stage ∧ item.toTunnel = t
  /-- An open runs `OnOpen` once, unless it has yet to. -/
  openedOnce : ∀ i item, .opened i item ∈ s.log →
    s.log.filter (Event.runsOnOpen item.id) = [.onOpen i item.toTunnel] ∨
      (s.log.filter (Event.runsOnOpen item.id) = [] ∧ s.phase i = .opening item .published)
  /-- `OnOpen` runs for nothing else. -/
  onOpenOpened : ∀ i t, .onOpen i t ∈ s.log → ∃ item, .opened i item ∈ s.log ∧ item.toTunnel = t
  get : ∀ id t, s.manager.get id = some t ↔ t ∈ live s.log ∧ t.id = id
  count : s.manager.count = (live s.log).length
  snapshot : ∀ order, s.manager.tunnels.Iterates order →
    (Manager.snapshot order).Perm (live s.log) ∧
      (Manager.snapshot order).Pairwise fun a b => a.startedAt ≤ b.startedAt

namespace Consistent

variable {m : Manager} {phase : ℕ → Phase} {log : List Event}

theorem removed_issued (c : Consistent m phase log) {i : ℕ} {item : ManagedTunnel}
    (member : .removed i item ∈ log) : item ∈ issued log :=
  c.closedIssued item (mem_closed.2 ⟨i, member⟩)

/-- A `Close` that returned true has a complete trace. -/
theorem events_of_returned (c : Consistent m phase log) {i : ℕ} {id : GoString}
    (returned : .closeReturned i id true ∈ log) :
    ∃ item, item.id = id ∧ events Event.job log (.closing id) = closeTrace i item := by
  have member : .closeReturned i id true ∈ events Event.job log (.closing id) :=
    mem_events.2 ⟨returned, rfl⟩
  rcases c.closing_cases id with empty | ⟨j, _, item, _, stage, -, -, same⟩ | ⟨j, item, named, same⟩
  · rw [empty] at member
    cases member
  · rw [same] at member
    cases stage <;> simp [CloseStage.trace, stops] at member
  · rw [same] at member
    refine ⟨item, named, ?_⟩
    simp only [closeTrace, stops, List.mem_cons, List.mem_append, List.mem_map, reduceCtorEq,
      and_false, exists_false, Event.closeReturned.injEq, false_or, List.not_mem_nil,
      or_false] at member
    rw [same, member.1]

theorem closedOnce (c : Consistent m phase log) (id : GoString) :
    (log.filter (Event.returnsTrue id)).length ≤ 1 := by
  rw [filter_eq_filter_events log fun _ => Event.job_of_returnsTrue]
  rcases c.closing_cases id with empty | ⟨i, _, item, _, stage, -, -, same⟩ | ⟨i, item, -, same⟩
  · rw [empty]
    exact Nat.zero_le 1
  · rw [same]
    cases stage <;> cases stop : item.stop <;>
      simp [CloseStage.trace, stops, stop, Event.returnsTrue]
  · rw [same]
    cases stop : item.stop <;>
      simp [closeTrace, stops, stop, Event.returnsTrue, List.filter_cons] <;> split <;> simp

theorem closer (c : Consistent m phase log) {i : ℕ} {id : GoString}
    (returned : .closeReturned i id true ∈ log) : ∃ item ∈ issued log, item.id = id ∧
      log.filter (Event.runsStop id) = item.stop.toList.map (.stop i item.toTunnel) ∧
      log.filter (Event.runsOnClose id) = [.onClose i item.toTunnel] := by
  obtain ⟨item, rfl, same⟩ := c.events_of_returned returned
  have taken : .removed i item ∈ log := by
    have member : .removed i item ∈ events Event.job log (.closing item.id) := by
      rw [same]
      exact List.mem_cons_self
    exact (mem_events.1 member).1
  refine ⟨item, c.removed_issued taken, rfl, ?_, ?_⟩
  · rw [filter_eq_filter_events log fun _ => Event.job_of_runsStop, same]
    cases stop : item.stop <;> simp [closeTrace, stops, stop, Event.runsStop]
  · rw [filter_eq_filter_events log fun _ => Event.job_of_runsOnClose, same]
    cases stop : item.stop <;> simp [closeTrace, stops, stop, Event.runsOnClose]

/-- Who records an event of a close that found its tunnel is at that close, or returned true. -/
theorem closing_owner (c : Consistent m phase log) {i : ℕ} {t : Tunnel}
    (ran : .onClose i t ∈ log ∨ ∃ f, .stop i t f ∈ log) :
    .closeReturned i t.id true ∈ log ∨
      ∃ client item next stage, phase i = .closing client item next stage ∧ item.toTunnel = t := by
  have member : .onClose i t ∈ events Event.job log (.closing t.id) ∨
      ∃ f, .stop i t f ∈ events Event.job log (.closing t.id) := by
    rcases ran with hook | ⟨f, stop⟩
    · exact .inl (mem_events.2 ⟨hook, rfl⟩)
    · exact .inr ⟨f, mem_events.2 ⟨stop, rfl⟩⟩
  rcases c.closing_cases t.id with empty | ⟨j, client, item, next, stage, here, -, same⟩ |
    ⟨j, item, -, same⟩
  · rw [empty] at member
    simp at member
  · have mine : i = j ∧ item.toTunnel = t := by
      rw [same] at member
      cases stage <;> cases stop : item.stop <;>
        simp [CloseStage.trace, stops, stop] at member <;> grind
    exact .inr ⟨client, item, next, stage, mine.1 ▸ here, mine.2⟩
  · have mine : i = j ∧ item.toTunnel = t := by
      rw [same] at member
      cases stop : item.stop <;> simp [closeTrace, stops, stop] at member <;> grind
    obtain ⟨rfl, rfl⟩ := mine
    have returned : .closeReturned i item.id true ∈ events Event.job log (.closing item.id) := by
      rw [same]
      simp [closeTrace]
    exact .inl (mem_events.1 returned).1

theorem openedOnce (c : Consistent m phase log) {i : ℕ} {item : ManagedTunnel}
    (opened : .opened i item ∈ log) :
    log.filter (Event.runsOnOpen item.id) = [.onOpen i item.toTunnel] ∨
      (log.filter (Event.runsOnOpen item.id) = [] ∧ phase i = .opening item .published) := by
  have member : .opened i item ∈ events Event.job log (.opening item.id) :=
    mem_events.2 ⟨opened, rfl⟩
  rw [filter_eq_filter_events log fun _ => Event.job_of_runsOnOpen]
  rcases c.opening_cases item.id with empty | ⟨j, item', stage, here, -, same⟩ |
    ⟨j, item', -, same⟩
  · rw [empty] at member
    cases member
  · rw [same] at member ⊢
    cases stage with
    | published =>
        simp only [OpenStage.trace, List.mem_singleton, Event.opened.injEq] at member
        obtain ⟨rfl, rfl⟩ := member
        exact .inr ⟨by simp [OpenStage.trace, Event.runsOnOpen], here⟩
    | observed | snapped =>
        simp only [OpenStage.trace, List.mem_cons, Event.opened.injEq, reduceCtorEq,
          List.not_mem_nil, or_false] at member
        obtain ⟨rfl, rfl⟩ := member
        exact .inl (by simp [OpenStage.trace, Event.runsOnOpen])
  · rw [same] at member ⊢
    simp only [openTrace, List.mem_cons, Event.opened.injEq, reduceCtorEq, List.not_mem_nil,
      or_false] at member
    obtain ⟨rfl, rfl⟩ := member
    exact .inl (by simp [openTrace, Event.runsOnOpen])

theorem onOpenOpened (c : Consistent m phase log) {i : ℕ} {t : Tunnel}
    (ran : .onOpen i t ∈ log) : ∃ item, .opened i item ∈ log ∧ item.toTunnel = t := by
  have member : .onOpen i t ∈ events Event.job log (.opening t.id) := mem_events.2 ⟨ran, rfl⟩
  have openedOf : ∀ j item, .opened j item ∈ events Event.job log (.opening t.id) →
      .opened j item ∈ log := fun j item listed => (mem_events.1 listed).1
  rcases c.opening_cases t.id with empty | ⟨j, item, stage, -, -, same⟩ | ⟨j, item, -, same⟩
  · rw [empty] at member
    cases member
  · rw [same] at member openedOf
    cases stage with
    | published => simp [OpenStage.trace] at member
    | observed | snapped =>
        simp only [OpenStage.trace, List.mem_cons, Event.onOpen.injEq, reduceCtorEq,
          List.not_mem_nil, or_false, false_or] at member
        obtain ⟨rfl, rfl⟩ := member
        exact ⟨item, openedOf i item (by simp [OpenStage.trace]), rfl⟩
  · rw [same] at member openedOf
    simp only [openTrace, List.mem_cons, Event.onOpen.injEq, reduceCtorEq, List.not_mem_nil,
      or_false, false_or] at member
    obtain ⟨rfl, rfl⟩ := member
    exact ⟨item, openedOf i item (by simp [openTrace]), rfl⟩

/-! ## The table -/

theorem mem_live (c : Consistent m phase log) (t : Tunnel) :
    t ∈ live log ↔ m.get t.id = some t := by
  simp only [live, List.mem_map, List.mem_filter, decide_eq_true_eq, Manager.get_eq_some_iff,
    c.table]
  constructor
  · rintro ⟨item, ⟨member, there⟩, rfl⟩
    refine ⟨item, ⟨member, rfl, fun item' gone same => there ?_⟩, rfl⟩
    exact c.eq_of_id (c.closedIssued item' gone) member same ▸ gone
  · rintro ⟨item, ⟨member, -, there⟩, rfl⟩
    exact ⟨item, ⟨member, fun gone => there item gone rfl⟩, rfl⟩

theorem snapshot_perm_live (c : Consistent m phase log) {order : List (GoString × ManagedTunnel)}
    (iterates : m.tunnels.Iterates order) : (Manager.snapshot order).Perm (live log) := by
  have nodup : (Manager.snapshot order).Nodup := (Manager.nodup_snapshot iterates).of_map Tunnel.id
  have nodup' : (live log).Nodup := by
    refine List.Nodup.of_map Tunnel.id ?_
    have sub : ((live log).map Tunnel.id).Sublist ((issued log).map fun item => item.id) := by
      rw [live, List.map_map]
      exact List.filter_sublist.map _
    exact c.nodup_ids.sublist sub
  refine (List.perm_ext_iff_of_nodup nodup nodup').2 fun t => ?_
  rw [Manager.mem_snapshot iterates, c.mem_live]

theorem law {s : CallState} (c : Consistent s.manager s.phase s.log) : TunnelLaw s where
  distinct := c.nodup_ids
  closedOnce := c.closedOnce
  closer _ _ returned := c.closer returned
  noOther _ _ ran := c.closing_owner ran
  openedOnce _ _ opened := c.openedOnce opened
  onOpenOpened _ _ ran := c.onOpenOpened ran
  get id t := by
    rw [c.mem_live]
    constructor
    · intro found
      have named := Manager.id_of_get found
      exact ⟨named.symm ▸ found, named⟩
    · rintro ⟨found, rfl⟩
      exact found
  count := by
    obtain ⟨order, iterates⟩ := s.manager.tunnels.exists_iterates
    rw [← Manager.length_snapshot iterates, (c.snapshot_perm_live iterates).length_eq]
  snapshot order iterates := ⟨c.snapshot_perm_live iterates, Manager.sorted_snapshot order⟩

end Consistent

/-- **Every tunnel is opened once and closed once**, in every interleaving with fewer than
2⁶⁴ opens. -/
theorem tunnel_law (steps : List CallStep) (s : CallState)
    (ran : exec CallState.step CallState.init steps = some s)
    (few : steps.countP CallStep.opens < 2 ^ 64) : TunnelLaw s := by
  have start : CallState.init.manager.seq.toNat = 0 := rfl
  exact (CallState.consistent_of_run (CallState.noWrap_of_count (by omega)) ran).law

/-- A local tunnel with a stop function. -/
def someCall : OpenCall :=
  .openLocal (str "sess-000002") (str "teacher") (str "127.0.0.1:80") (str "10.0.0.9:4000") (some 7)

/-- The tunnel is published; an API call closes it while its `OnOpen` still waits. -/
def closedEarly : List CallStep :=
  [.openTunnel 0 someCall 5, .start 1 (.api true 9 (tunnelID 1)), .move 1 [], .move 1 [],
    .move 1 [], .move 1 []]

/-- After that the `Close` returns and the `OnOpen` is executed. -/
def closedEarlyOpened : List CallStep :=
  closedEarly ++ [.move 1 [], .move 1 [], .move 1 [], .move 0 [], .move 0 [], .move 0 []]

theorem tunnel_law_closedEarly :
    ∃ s, exec CallState.step CallState.init closedEarlyOpened = some s ∧ TunnelLaw s ∧
      .closeReturned 1 (tunnelID 1) true ∈ s.log ∧
      .openReturned 0 (someCall.run newManager 5).1.toTunnel ∈ s.log ∧
      (s.log.filter (Event.runsOnOpen (tunnelID 1))).length = 1 := by
  refine ⟨_, rfl, tunnel_law closedEarlyOpened _ rfl (by decide), ?_⟩
  decide

/-! ## The gauge -/

/-- The tunnels whose `OnOpen`, and whose `OnClose`, has been executed. -/
def hookOpened (log : List Event) : List Tunnel :=
  log.filterMap fun
    | .onOpen _ t => some t
    | _ => none

def hookClosed (log : List Event) : List Tunnel :=
  log.filterMap fun
    | .onClose _ t => some t
    | _ => none

/-- How many of them have a direction. -/
def inDirection (d : Direction) (ts : List Tunnel) : ℕ := ts.countP fun t => t.direction = d

/-- For each tunnel `OnOpen` is executed before `OnClose`. -/
def OnOpenFirst (log : List Event) : Prop :=
  ∀ (n i : ℕ) (t : Tunnel), log[n]? = some (Event.onClose i t) →
    ∃ k < n, ∃ j, log[k]? = some (Event.onOpen j t)

structure GaugeLaw (s : CallState) : Prop where
  counted : ∀ d, inDirection d (hookClosed s.log) ≤ inDirection d (hookOpened s.log)
  ordered : OnOpenFirst s.log
  gauge : ∀ d, 0 ≤ s.gauge d

namespace CallState

/-- A `Close` that takes a tunnel out comes after the `OnOpen` of that tunnel. -/
def AfterOnOpen (s : CallState) : CallStep → Prop
  | .move i _ => ∀ client id next item, s.phase i = .running client (.ask (.close id) next) →
      s.manager.tunnels.get id = some item → item.toTunnel ∈ hookOpened s.log
  | _ => True

/-- What a run keeps in which every removal comes after `OnOpen`. -/
structure Ordered (s : CallState) : Prop where
  consistent : Consistent s.manager s.phase s.log
  closers : ∀ i client item next stage, s.phase i = .closing client item next stage →
    item.toTunnel ∈ hookOpened s.log
  ordered : OnOpenFirst s.log
  nodup : (hookClosed s.log).Nodup
  gauge : ∀ d, s.gauge d = inDirection d (hookOpened s.log) - inDirection d (hookClosed s.log)

end CallState

theorem mem_hookOpened {log : List Event} {t : Tunnel} :
    t ∈ hookOpened log ↔ ∃ i, .onOpen i t ∈ log := by
  simp only [hookOpened, List.mem_filterMap]
  constructor
  · rintro ⟨e, member, same⟩
    cases e with
    | onOpen i t' =>
        cases same
        exact ⟨i, member⟩
    | opened | openReturned | removed | stop | onClose | closeReturned => cases same
  · rintro ⟨i, member⟩
    exact ⟨_, member, rfl⟩

theorem mem_hookClosed {log : List Event} {t : Tunnel} :
    t ∈ hookClosed log ↔ ∃ i, .onClose i t ∈ log := by
  simp only [hookClosed, List.mem_filterMap]
  constructor
  · rintro ⟨e, member, same⟩
    cases e with
    | onClose i t' =>
        cases same
        exact ⟨i, member⟩
    | opened | openReturned | removed | stop | onOpen | closeReturned => cases same
  · rintro ⟨i, member⟩
    exact ⟨_, member, rfl⟩

theorem hookOpened_append (log es : List Event) :
    hookOpened (log ++ es) = hookOpened log ++ hookOpened es := List.filterMap_append ..

theorem hookClosed_append (log es : List Event) :
    hookClosed (log ++ es) = hookClosed log ++ hookClosed es := List.filterMap_append ..

theorem inDirection_append (d : Direction) (ts us : List Tunnel) :
    inDirection d (ts ++ us) = inDirection d ts + inDirection d us := List.countP_append

theorem inDirection_singleton (d : Direction) (t : Tunnel) :
    inDirection d [t] = if d = t.direction then 1 else 0 := by
  simp only [inDirection, List.countP_singleton, decide_eq_true_eq, @eq_comm _ t.direction]

/-- The order survives new events, if each `OnClose` among them had its `OnOpen` before. -/
theorem OnOpenFirst.append {log es : List Event} (before : OnOpenFirst log)
    (new : ∀ t ∈ hookClosed es, t ∈ hookOpened log) : OnOpenFirst (log ++ es) := by
  intro n i t here
  rw [List.getElem?_append] at here
  split at here
  · obtain ⟨k, earlier, j, opened⟩ := before n i t here
    refine ⟨k, earlier, j, ?_⟩
    rw [List.getElem?_append_left (by omega), opened]
  · rename_i beyond
    have closing : t ∈ hookClosed es := mem_hookClosed.2 ⟨i, List.mem_of_getElem? here⟩
    obtain ⟨j, opened⟩ := mem_hookOpened.1 (new t closing)
    obtain ⟨k, short, at_⟩ := List.mem_iff_getElem.1 opened
    refine ⟨k, by omega, j, ?_⟩
    rw [List.getElem?_append_left short, List.getElem?_eq_getElem short, at_]

namespace CallState

theorem ordered_init : Ordered init where
  consistent := consistent_init
  closers _ _ _ _ _ := nofun
  ordered n i t here := by simp [init] at here
  nodup := List.nodup_nil
  gauge _ := rfl

/-- A step that moves one goroutine to `p` and records `es`: the gauges follow its hooks, an
`OnClose` among them is new and comes after its `OnOpen`, and so does a close that starts. -/
theorem Ordered.extend {s : CallState} (o : Ordered s) {i : ℕ} {p : Phase} {es : List Event}
    {s' : CallState} (consistent : Consistent s'.manager s'.phase s'.log)
    (phase : s'.phase = Function.update s.phase i p) (log : s'.log = s.log ++ es)
    (gauge : ∀ d, s'.gauge d =
      s.gauge d + inDirection d (hookOpened es) - inDirection d (hookClosed es))
    (closers : ∀ client item next stage, p = .closing client item next stage →
      item.toTunnel ∈ hookOpened s.log)
    (first : ∀ t ∈ hookClosed es, t ∈ hookOpened s.log) (once : (hookClosed es).Nodup)
    (new : ∀ t ∈ hookClosed es, t ∉ hookClosed s.log) : Ordered s' := by
  refine ⟨consistent, fun j client item next stage at_ => ?_, ?_, ?_, fun d => ?_⟩
  · rw [log, hookOpened_append]
    refine List.mem_append_left _ ?_
    rw [phase, Function.update_apply] at at_
    split at at_
    · exact closers client item next stage at_
    · exact o.closers j client item next stage at_
  · rw [log]
    exact o.ordered.append first
  · rw [log, hookClosed_append]
    refine List.nodup_append.2 ⟨o.nodup, once, ?_⟩
    rintro t member _ member' rfl
    exact new t member' member
  · rw [gauge d, o.gauge d, log, hookOpened_append, hookClosed_append, inDirection_append,
      inDirection_append]
    omega

/-- A step that runs neither hook. -/
theorem Ordered.quiet {s : CallState} (o : Ordered s) {i : ℕ} {p : Phase} {es : List Event}
    {s' : CallState} (consistent : Consistent s'.manager s'.phase s'.log)
    (phase : s'.phase = Function.update s.phase i p) (log : s'.log = s.log ++ es)
    (gauge : s'.gauge = s.gauge) (noOpen : hookOpened es = []) (noClose : hookClosed es = [])
    (closers : ∀ client item next stage, p = .closing client item next stage →
      item.toTunnel ∈ hookOpened s.log) : Ordered s' := by
  refine o.extend consistent phase log (fun d => ?_) closers ?_ ?_ ?_
  · simp [gauge, noOpen, noClose, inDirection]
  · simp [noClose]
  · simp [noClose]
  · simp [noClose]

/-- A close that is about to run `OnClose` has not run it. -/
theorem Ordered.not_hookClosed {s : CallState} (o : Ordered s) {i : ℕ} {client : Client}
    {item : ManagedTunnel} {next : Bool → ClientScript}
    (at_ : s.phase i = .closing client item next .stopped) :
    item.toTunnel ∉ hookClosed s.log := by
  intro ran
  obtain ⟨j, member⟩ := mem_hookClosed.1 ran
  have recorded := (o.consistent.tracked.running i _ _ (by rw [at_]; rfl)).2
  have listed : Event.onClose j item.toTunnel ∈
      events Event.job s.log (.closing item.id) := mem_events.2 ⟨member, rfl⟩
  rw [recorded] at listed
  simp [CloseStage.trace, stops] at listed

/-- The stop function is no hook. -/
theorem hooks_stops (i : ℕ) (item : ManagedTunnel) :
    hookOpened (stops i item) = [] ∧ hookClosed (stops i item) = [] := by
  cases stop : item.stop <;> simp [stops, stop, hookOpened, hookClosed]

/-- The gauge after a hook that moves it by `delta` for one tunnel. -/
theorem moveGauge_apply (s : CallState) (t : Tunnel) (delta : Int) (d : Direction) :
    (s.moveGauge t.direction delta).gauge d = s.gauge d + delta * inDirection d [t] := by
  rw [inDirection_singleton]
  simp only [moveGauge, Function.update_apply]
  split
  · rename_i same
    rw [same]
    simp
  · simp

theorem Ordered.onOpen {s : CallState} (o : Ordered s) {i : ℕ} {item : ManagedTunnel}
    {s' : CallState} (consistent : Consistent s'.manager s'.phase s'.log)
    (moved : s' = (s.moveGauge item.direction 1).goto i (.opening item .observed)
      [.onOpen i item.toTunnel]) : Ordered s' := by
  have nowOpened : hookOpened [.onOpen i item.toTunnel] = [item.toTunnel] := rfl
  have noneClosed : hookClosed [.onOpen i item.toTunnel] = [] := rfl
  subst moved
  refine o.extend consistent rfl rfl (fun d => ?_) ?_ ?_ List.nodup_nil ?_
  · rw [nowOpened, noneClosed]
    have gauge := s.moveGauge_apply item.toTunnel 1 d
    simp only [goto, gauge, inDirection, List.countP_nil]
    omega
  · rintro _ _ _ _ ⟨⟩
  · rintro t ⟨⟩
  · rintro t ⟨⟩

theorem Ordered.onClose {s : CallState} (o : Ordered s) {i : ℕ} {client : Client}
    {item : ManagedTunnel} {next : Bool → ClientScript} {s' : CallState}
    (consistent : Consistent s'.manager s'.phase s'.log)
    (at_ : s.phase i = .closing client item next .stopped)
    (moved : s' = (s.moveGauge item.direction (-1)).goto i (.closing client item next .observed)
      [.onClose i item.toTunnel]) : Ordered s' := by
  have noneOpened : hookOpened [.onClose i item.toTunnel] = [] := rfl
  have nowClosed : hookClosed [.onClose i item.toTunnel] = [item.toTunnel] := rfl
  have opened := o.closers i client item next _ at_
  subst moved
  refine o.extend consistent rfl rfl (fun d => ?_) ?_ ?_ (List.nodup_singleton _) ?_
  · rw [noneOpened, nowClosed]
    have gauge := s.moveGauge_apply item.toTunnel (-1) d
    simp only [goto, gauge, inDirection, List.countP_nil]
    omega
  · rintro _ _ _ _ ⟨⟩
    exact opened
  · intro t member
    cases List.mem_singleton.1 member
    exact opened
  · intro t member
    cases List.mem_singleton.1 member
    exact o.not_hookClosed at_

theorem Ordered.step {s s' : CallState} {l : CallStep} (o : Ordered s) (room : NoWrap s l)
    (after : AfterOnOpen s l) (moved : s.step l = some s') : Ordered s' := by
  have consistent := consistent_step o.consistent room moved
  cases move_of_step moved with
  | openTunnel _ => exact o.quiet consistent rfl rfl rfl rfl rfl (fun _ _ _ _ => nofun)
  | start _ => exact o.quiet consistent rfl rfl rfl rfl rfl (fun _ _ _ _ => nofun)
  | onOpen _ => exact o.onOpen consistent rfl
  | openSnapshot _ _ => exact o.quiet consistent rfl rfl rfl rfl rfl (fun _ _ _ _ => nofun)
  | openReturn _ => exact o.quiet consistent rfl rfl rfl rfl rfl (fun _ _ _ _ => nofun)
  | finish _ => exact o.quiet consistent rfl rfl rfl rfl rfl (fun _ _ _ _ => nofun)
  | read _ _ => exact o.quiet consistent rfl rfl rfl rfl rfl (fun _ _ _ _ => nofun)
  | miss _ _ => exact o.quiet consistent rfl rfl rfl rfl rfl (fun _ _ _ _ => nofun)
  | remove at_ found =>
      refine o.quiet consistent rfl rfl rfl rfl rfl ?_
      rintro _ _ _ _ ⟨⟩
      exact after _ _ _ _ at_ found
  | @stop i order client item next at_ =>
      obtain ⟨noOpen, noClose⟩ := hooks_stops i item
      refine o.quiet consistent rfl rfl rfl noOpen noClose ?_
      rintro _ _ _ _ ⟨⟩
      exact o.closers _ _ _ _ _ at_
  | onClose at_ => exact o.onClose consistent at_ rfl
  | closeSnapshot at_ _ =>
      refine o.quiet consistent rfl rfl rfl rfl rfl ?_
      rintro _ _ _ _ ⟨⟩
      exact o.closers _ _ _ _ _ at_
  | closeReturn _ => exact o.quiet consistent rfl rfl rfl rfl rfl (fun _ _ _ _ => nofun)

theorem Ordered.law {s : CallState} (o : Ordered s) : GaugeLaw s := by
  have opened : hookClosed s.log ⊆ hookOpened s.log := by
    intro t member
    obtain ⟨i, ran⟩ := mem_hookClosed.1 member
    obtain ⟨n, short, at_⟩ := List.mem_iff_getElem.1 ran
    obtain ⟨k, -, j, before⟩ := o.ordered n i t (by rw [List.getElem?_eq_getElem short, at_])
    exact mem_hookOpened.2 ⟨j, List.mem_of_getElem? before⟩
  have counted : ∀ d, inDirection d (hookClosed s.log) ≤ inDirection d (hookOpened s.log) :=
    fun d => (o.nodup.subperm opened).countP_le _
  refine ⟨counted, o.ordered, fun d => ?_⟩
  have := counted d
  rw [o.gauge d]
  omega

end CallState

/-- **The gauge never goes below zero**, in every run that takes a tunnel out only after its
`OnOpen`. -/
theorem gauge_law (steps : List CallStep) (s : CallState)
    (ran : exec CallState.step CallState.init steps = some s)
    (room : Along CallState.step CallState.NoWrap CallState.init steps)
    (after : Along CallState.step CallState.AfterOnOpen CallState.init steps) : GaugeLaw s := by
  have ordered : CallState.Ordered s :=
    exec_invariant_along (fun _ _ _ o held moved => o.step held.1 held.2 moved)
      CallState.ordered_init (room.and after) ran
  exact ordered.law

/-- The tunnel is closed after its `OnOpen`. -/
def closedLate : List CallStep :=
  [.openTunnel 0 someCall 5, .move 0 [], .start 1 (.copyEnd (tunnelID 1)), .move 1 [],
    .move 1 [], .move 1 []]

theorem gauge_law_closedLate :
    ∃ s, exec CallState.step CallState.init closedLate = some s ∧ GaugeLaw s := by
  refine ⟨_, rfl, gauge_law closedLate _ rfl (CallState.noWrap_of_count (by decide)) ?_⟩
  refine along_cons_of_eq rfl trivial (along_cons_of_eq rfl nofun (along_cons_of_eq rfl trivial
    (along_cons_of_eq rfl ?_ (along_cons_of_eq rfl nofun (along_cons_of_eq rfl nofun trivial)))))
  rintro client id next item ⟨⟩ found
  have same : some (someCall.run newManager 5).1 = some item := found
  cases same
  decide

/-- An API call closes the tunnel between its publication and its `OnOpen`. -/
theorem gauge_below_zero :
    ∃ s, exec CallState.step CallState.init closedEarly = some s ∧
      s.gauge .localDir = -1 ∧ hookOpened s.log = [] ∧ (hookClosed s.log).length = 1 ∧
      ¬ GaugeLaw s := by
  refine ⟨_, rfl, by decide, by decide, by decide, fun law => ?_⟩
  exact absurd (law.gauge .localDir) (by decide)

end SentinelOps.Forwarding
