/-
# Forwarding.History — what the log of the calls says about the table

Opening a tunnel and closing it are two jobs in the sense of `Theory.Jobs`, each done once
by one goroutine.  `Consistent` ties the three parts of a state together: the log read at one
job is what its goroutine has recorded, the counter is the number of tunnels issued, and the
table holds the tunnels issued and not yet taken out.

All of it rests on IDs not being issued twice, that is on the counter not wrapping.
`noWrap_of_count` gets that from a bound on the number of opens.
-/
import SentinelOps.Forwarding.Calls

namespace SentinelOps.Forwarding

open Theory Schedule Jobs
open GoText (GoString)

set_option autoImplicit false

/-! ## Jobs -/

/-- The two jobs of a tunnel, by its ID. -/
inductive Job where
  | opening (id : GoString)
  | closing (id : GoString)
  deriving DecidableEq

/-- The job an event belongs to; a `Close` that finds nothing does none. -/
def Event.job : Event → Option Job
  | .opened _ item => some (.opening item.id)
  | .onOpen _ t => some (.opening t.id)
  | .openReturned _ t => some (.opening t.id)
  | .removed _ item => some (.closing item.id)
  | .stop _ t _ => some (.closing t.id)
  | .onClose _ t => some (.closing t.id)
  | .closeReturned _ id true => some (.closing id)
  | .closeReturned _ _ false => none

/-- What goroutine `i` has recorded of an `open`. -/
def OpenStage.trace (i : ℕ) (item : ManagedTunnel) : OpenStage → List Event
  | .published => [.opened i item]
  | _ => [.opened i item, .onOpen i item.toTunnel]

def openTrace (i : ℕ) (item : ManagedTunnel) : List Event :=
  [.opened i item, .onOpen i item.toTunnel, .openReturned i item.toTunnel]

/-- The runs of the stop function: one, or none if it is nil. -/
def stops (i : ℕ) (item : ManagedTunnel) : List Event :=
  item.stop.toList.map (.stop i item.toTunnel)

def CloseStage.trace (i : ℕ) (item : ManagedTunnel) : CloseStage → List Event
  | .removed => [.removed i item]
  | .stopped => .removed i item :: stops i item
  | _ => .removed i item :: (stops i item ++ [.onClose i item.toTunnel])

def closeTrace (i : ℕ) (item : ManagedTunnel) : List Event :=
  .removed i item :: (stops i item ++ [.onClose i item.toTunnel, .closeReturned i item.id true])

def Whole : Job → List Event → Prop
  | .opening id, trace => ∃ i item, item.id = id ∧ trace = openTrace i item
  | .closing id, trace => ∃ i item, item.id = id ∧ trace = closeTrace i item

/-- The job goroutine `i` is at. -/
def Phase.job (i : ℕ) : Phase → Option (Job × List Event)
  | .opening item stage => some (.opening item.id, stage.trace i item)
  | .closing _ item _ stage => some (.closing item.id, stage.trace i item)
  | _ => none

theorem Phase.of_job_opening {i : ℕ} {phase : Phase} {id : GoString} {trace : List Event}
    (at_ : phase.job i = some (.opening id, trace)) :
    ∃ item stage, phase = .opening item stage ∧ item.id = id ∧ trace = stage.trace i item := by
  cases phase with
  | opening item stage =>
      cases at_
      exact ⟨item, stage, rfl, rfl, rfl⟩
  | idle | running | closing => cases at_

theorem Phase.of_job_closing {i : ℕ} {phase : Phase} {id : GoString} {trace : List Event}
    (at_ : phase.job i = some (.closing id, trace)) :
    ∃ client item next stage, phase = .closing client item next stage ∧ item.id = id ∧
      trace = stage.trace i item := by
  cases phase with
  | closing client item next stage =>
      cases at_
      exact ⟨client, item, next, stage, rfl, rfl, rfl⟩
  | idle | running | opening => cases at_

/-! ## Consistency -/

/-- The tunnels published so far, and those taken out so far. -/
def issued (log : List Event) : List ManagedTunnel :=
  log.filterMap fun
    | .opened _ item => some item
    | _ => none

def closed (log : List Event) : List ManagedTunnel :=
  log.filterMap fun
    | .removed _ item => some item
    | _ => none

theorem issued_append (log es : List Event) : issued (log ++ es) = issued log ++ issued es :=
  List.filterMap_append ..

theorem closed_append (log es : List Event) : closed (log ++ es) = closed log ++ closed es :=
  List.filterMap_append ..

theorem mem_issued {log : List Event} {item : ManagedTunnel} :
    item ∈ issued log ↔ ∃ i, .opened i item ∈ log := by
  simp only [issued, List.mem_filterMap]
  constructor
  · rintro ⟨e, member, same⟩
    cases e with
    | opened i item' =>
        cases same
        exact ⟨i, member⟩
    | onOpen | openReturned | removed | stop | onClose | closeReturned => cases same
  · rintro ⟨i, member⟩
    exact ⟨_, member, rfl⟩

theorem mem_closed {log : List Event} {item : ManagedTunnel} :
    item ∈ closed log ↔ ∃ i, .removed i item ∈ log := by
  simp only [closed, List.mem_filterMap]
  constructor
  · rintro ⟨e, member, same⟩
    cases e with
    | removed i item' =>
        cases same
        exact ⟨i, member⟩
    | opened | onOpen | openReturned | stop | onClose | closeReturned => cases same
  · rintro ⟨i, member⟩
    exact ⟨_, member, rfl⟩

structure Consistent (manager : Manager) (phase : ℕ → Phase) (log : List Event) : Prop where
  tracked : Tracked Event.job Whole (fun i => (phase i).job i) log
  numbered : manager.seq.toNat = (issued log).length
  named : (issued log).map (fun item => item.id) =
    (List.range (issued log).length).map fun k => tunnelID (k + 1)
  closedIssued : ∀ item ∈ closed log, item ∈ issued log
  table : ∀ id item, manager.tunnels.get id = some item ↔
    item ∈ issued log ∧ item.id = id ∧ ∀ item' ∈ closed log, item'.id ≠ id

variable {m : Manager} {phase : ℕ → Phase} {log es : List Event}

theorem consistent_init : Consistent newManager (fun _ => .idle) [] where
  tracked := tracked_nil
  numbered := rfl
  named := rfl
  closedIssued := by simp [closed]
  table := by simp [newManager, issued]

namespace Consistent

/-- The next ID is new. -/
theorem id_ne_next (c : Consistent m phase log) {item : ManagedTunnel} (member : item ∈ issued log)
    {n : ℕ} (beyond : (issued log).length < n) : item.id ≠ tunnelID n := by
  intro same
  have listed : item.id ∈ (issued log).map fun item => item.id := List.mem_map_of_mem member
  rw [c.named, List.mem_map] at listed
  obtain ⟨k, below, named⟩ := listed
  have := tunnelID_injective (named.trans same)
  have := List.mem_range.1 below
  omega

theorem nodup_ids (c : Consistent m phase log) : ((issued log).map fun item => item.id).Nodup := by
  rw [c.named]
  refine List.nodup_range.map ?_
  intro a b same
  have := tunnelID_injective same
  omega

/-- An ID determines its tunnel. -/
theorem eq_of_id (c : Consistent m phase log) {item item' : ManagedTunnel}
    (member : item ∈ issued log) (member' : item' ∈ issued log) (same : item.id = item'.id) :
    item = item' :=
  List.inj_on_of_nodup_map c.nodup_ids member member' same

/-- What the log holds of one close. -/
theorem closing_cases (c : Consistent m phase log) (id : GoString) :
    events Event.job log (.closing id) = [] ∨
      (∃ i client item next stage, phase i = .closing client item next stage ∧ item.id = id ∧
        events Event.job log (.closing id) = stage.trace i item) ∨
      (∃ i item, item.id = id ∧ events Event.job log (.closing id) = closeTrace i item) := by
  rcases c.tracked.every (.closing id) with empty | ⟨i, trace, at_⟩ | whole
  · exact .inl empty
  · obtain ⟨client, item, next, stage, here, named, rfl⟩ := Phase.of_job_closing at_
    exact .inr (.inl ⟨i, client, item, next, stage, here, named, (c.tracked.running _ _ _ at_).2⟩)
  · exact .inr (.inr whole)

/-- What the log holds of one open. -/
theorem opening_cases (c : Consistent m phase log) (id : GoString) :
    events Event.job log (.opening id) = [] ∨
      (∃ i item stage, phase i = .opening item stage ∧ item.id = id ∧
        events Event.job log (.opening id) = stage.trace i item) ∨
      (∃ i item, item.id = id ∧ events Event.job log (.opening id) = openTrace i item) := by
  rcases c.tracked.every (.opening id) with empty | ⟨i, trace, at_⟩ | whole
  · exact .inl empty
  · obtain ⟨item, stage, here, named, rfl⟩ := Phase.of_job_opening at_
    exact .inr (.inl ⟨i, item, stage, here, named, (c.tracked.running _ _ _ at_).2⟩)
  · exact .inr (.inr whole)

/-- A close has events only once its tunnel was taken out. -/
theorem closing_eq_nil (c : Consistent m phase log) {id : GoString}
    (there : ∀ item ∈ closed log, item.id ≠ id) : events Event.job log (.closing id) = [] := by
  have impossible : ∀ i item, item.id = id →
      .removed i item ∈ events Event.job log (.closing id) → False := by
    intro i item named member
    exact there item (mem_closed.2 ⟨i, (mem_events.1 member).1⟩) named
  rcases c.closing_cases id with empty | ⟨i, _, item, _, stage, -, named, same⟩ |
    ⟨i, item, named, same⟩
  · exact empty
  · refine (impossible i item named ?_).elim
    rw [same]
    cases stage <;> simp [CloseStage.trace]
  · refine (impossible i item named ?_).elim
    rw [same]
    simp [closeTrace]

/-- An open has events only once its tunnel was published. -/
theorem opening_eq_nil (c : Consistent m phase log) {id : GoString}
    (fresh : ∀ item ∈ issued log, item.id ≠ id) : events Event.job log (.opening id) = [] := by
  have impossible : ∀ i item, item.id = id →
      .opened i item ∈ events Event.job log (.opening id) → False := by
    intro i item named member
    exact fresh item (mem_issued.2 ⟨i, (mem_events.1 member).1⟩) named
  rcases c.opening_cases id with empty | ⟨i, item, stage, -, named, same⟩ | ⟨i, item, named, same⟩
  · exact empty
  · refine (impossible i item named ?_).elim
    rw [same]
    cases stage <;> simp [OpenStage.trace]
  · refine (impossible i item named ?_).elim
    rw [same]
    simp [openTrace]

/-! ## What the steps keep -/

theorem update_job (phase : ℕ → Phase) (i : ℕ) (p : Phase) {j : ℕ} (other : j ≠ i) :
    (Function.update phase i p j).job j = (phase j).job j := by
  rw [Function.update_of_ne other]

/-- The part of consistency that only publishing and taking out touch. -/
theorem of_tracked (c : Consistent m phase log) {phase' : ℕ → Phase}
    (tracked : Tracked Event.job Whole (fun i => (phase' i).job i) (log ++ es))
    (none_ : issued es = []) (none' : closed es = []) : Consistent m phase' (log ++ es) := by
  have sameIssued : issued (log ++ es) = issued log := by rw [issued_append, none_, List.append_nil]
  have sameClosed : closed (log ++ es) = closed log := by rw [closed_append, none', List.append_nil]
  refine ⟨tracked, ?_, ?_, ?_, ?_⟩
  · rw [sameIssued]; exact c.numbered
  · rw [sameIssued]; exact c.named
  · rw [sameIssued, sameClosed]; exact c.closedIssued
  · rw [sameIssued, sameClosed]; exact c.table

/-- A step that records nothing of a job and stays at its job. -/
theorem quiet (c : Consistent m phase log) {i : ℕ} {p : Phase}
    (stays : p.job i = (phase i).job i) (jobless : ∀ e ∈ es, e.job = none)
    (none_ : issued es = []) (none' : closed es = []) :
    Consistent m (Function.update phase i p) (log ++ es) := by
  refine c.of_tracked (c.tracked.quiet jobless fun j => ?_) none_ none'
  by_cases same : j = i
  · subst same
    rw [Function.update_self, stays]
  · rw [update_job phase i p same]

/-- A step that goes on with a job, or ends it. -/
theorem advance (c : Consistent m phase log) {i : ℕ} {p : Phase} {k : Job} {trace : List Event}
    (at_ : (phase i).job i = some (k, trace)) (own : ∀ e ∈ es, e.job = some k)
    (none_ : issued es = []) (none' : closed es = [])
    (next : p.job i = some (k, trace ++ es) ∨ (p.job i = none ∧ Whole k (trace ++ es))) :
    Consistent m (Function.update phase i p) (log ++ es) := by
  obtain ⟨nonempty, recorded⟩ := c.tracked.running i k trace at_
  refine c.of_tracked (c.tracked.emit (i := i) (k := k) (.inl ⟨trace, at_⟩) own
    (fun j other => update_job phase i p other) ?_) none_ none'
  rw [Function.update_self, recorded]
  rcases next with still | ended
  · exact .inl ⟨still, by simp [nonempty]⟩
  · exact .inr ended

/-- Publishing a tunnel. -/
theorem publish (c : Consistent m phase log) (call : OpenCall) (now : GoTime.Time) {i : ℕ}
    (at_ : (phase i).job i = none) (room : m.seq.toNat + 1 < 2 ^ 64) :
    Consistent (call.run m now).2
      (Function.update phase i (.opening (call.run m now).1 .published))
      (log ++ [.opened i (call.run m now).1]) := by
  obtain ⟨named, counted, filed⟩ := call.run_spec m now
  have counted' := call.run_seq_toNat m now room
  rw [← counted, counted', c.numbered] at named filed
  rw [c.numbered] at counted'
  generalize call.run m now = opened at *
  have fresh : ∀ item ∈ issued log, item.id ≠ opened.1.id := by
    intro item member
    rw [named]
    exact c.id_ne_next member (Nat.lt_succ_self _)
  have nowIssued : issued (log ++ [.opened i opened.1]) = issued log ++ [opened.1] := by
    rw [issued_append]
    rfl
  have sameClosed : closed (log ++ [.opened i opened.1]) = closed log := by
    rw [closed_append]
    exact List.append_nil _
  have empty := c.opening_eq_nil fresh
  refine ⟨?_, ?_, ?_, ?_, ?_⟩
  · refine c.tracked.emit (i := i) (k := .opening opened.1.id) (.inr ⟨at_, empty⟩)
      (by simp [Event.job]) (fun j other => update_job phase i _ other) (.inl ?_)
    rw [Function.update_self, empty]
    exact ⟨rfl, by simp⟩
  · rw [nowIssued, counted', List.length_append]
    rfl
  · rw [nowIssued, List.length_append, List.map_append, c.named]
    simp [List.range_succ, named]
  · intro item member
    rw [sameClosed] at member
    rw [nowIssued]
    exact List.mem_append_left _ (c.closedIssued item member)
  · intro id item
    rw [filed, nowIssued, sameClosed, List.mem_append, List.mem_singleton]
    split
    · rename_i new
      rw [new, ← named]
      constructor
      · rintro ⟨⟩
        exact ⟨.inr rfl, rfl, fun item' member => fresh item' (c.closedIssued item' member)⟩
      · rintro ⟨old | rfl, same, -⟩
        · exact absurd same (fresh item old)
        · rfl
    · rename_i old
      rw [c.table]
      constructor
      · rintro ⟨member, same, there⟩
        exact ⟨.inl member, same, there⟩
      · rintro ⟨member | rfl, same, there⟩
        · exact ⟨member, same, there⟩
        · exact absurd (same.symm.trans named) old

/-- Taking a tunnel out. -/
theorem takeOut (c : Consistent m phase log) {i : ℕ} {id : GoString} {item : ManagedTunnel}
    (client : Client) (next : Bool → ClientScript) (at_ : (phase i).job i = none)
    (found : m.tunnels.get id = some item) :
    Consistent (m.remove id).2 (Function.update phase i (.closing client item next .removed))
      (log ++ [.removed i item]) := by
  obtain ⟨-, counted, left⟩ := m.remove_spec id
  obtain ⟨member, named, there⟩ := (c.table id item).1 found
  have sameIssued : issued (log ++ [.removed i item]) = issued log := by
    rw [issued_append]
    exact List.append_nil _
  have nowClosed : closed (log ++ [.removed i item]) = closed log ++ [item] := by
    rw [closed_append]
    rfl
  have empty := c.closing_eq_nil there
  rw [← named] at empty
  refine ⟨?_, ?_, ?_, ?_, ?_⟩
  · refine c.tracked.emit (i := i) (k := .closing item.id) (.inr ⟨at_, empty⟩) (by simp [Event.job])
      (fun j other => update_job phase i _ other) (.inl ?_)
    rw [Function.update_self, empty]
    exact ⟨rfl, by simp⟩
  · rw [counted, sameIssued]
    exact c.numbered
  · rw [sameIssued]
    exact c.named
  · intro item' member'
    rw [nowClosed, List.mem_append, List.mem_singleton] at member'
    rw [sameIssued]
    rcases member' with before | rfl
    · exact c.closedIssued item' before
    · exact member
  · intro id' item'
    rw [left, sameIssued, nowClosed]
    simp only [List.mem_append, List.mem_singleton]
    split
    · rename_i same
      constructor
      · nofun
      · rintro ⟨-, -, there'⟩
        exact absurd (named.trans same.symm) (there' item (.inr rfl))
    · rename_i other
      rw [c.table]
      refine and_congr_right fun _ => and_congr_right fun _ => ⟨?_, ?_⟩
      · rintro there' item'' (before | rfl)
        · exact there' item'' before
        · exact fun same => other (same.symm.trans named)
      · intro there' item'' before
        exact there' item'' (.inl before)

end Consistent

/-! ## Runs -/

namespace CallState

/-- The counter does not wrap at this step. -/
def NoWrap (s : CallState) : CallStep → Prop
  | .openTunnel _ _ _ => s.manager.seq.toNat + 1 < 2 ^ 64
  | _ => True

theorem consistent_step {s s' : CallState} {l : CallStep}
    (c : Consistent s.manager s.phase s.log) (room : NoWrap s l) (moved : s.step l = some s') :
    Consistent s'.manager s'.phase s'.log := by
  cases move_of_step moved with
  | openTunnel at_ => exact c.publish _ _ (by rw [at_]; rfl) room
  | start at_ => exact c.quiet (by rw [at_]; rfl) (by simp) rfl rfl
  | onOpen at_ =>
      refine c.advance (by rw [at_]; rfl) ?_ rfl rfl (.inl rfl)
      simp [Event.job]
  | openSnapshot at_ _ => exact c.quiet (by rw [at_]; rfl) (by simp) rfl rfl
  | @openReturn i order item stamp items at_ =>
      have whole : Whole (.opening item.id) (openTrace i item) := ⟨i, item, rfl, rfl⟩
      refine c.advance (by rw [at_]; rfl) ?_ rfl rfl (.inr ⟨rfl, whole⟩)
      simp [Event.job]
  | finish at_ => exact c.quiet (by rw [at_]; rfl) (by simp) rfl rfl
  | read at_ _ => exact c.quiet (by rw [at_]; rfl) (by simp) rfl rfl
  | miss at_ _ => exact c.quiet (by rw [at_]; rfl) (by simp [Event.job]) rfl rfl
  | remove at_ found => exact c.takeOut _ _ (by rw [at_]; rfl) found
  | @stop i order client item next at_ =>
      have nothing : issued (stops i item) = [] ∧ closed (stops i item) = [] := by
        cases h : item.stop <;> simp [stops, h, issued, closed]
      refine c.advance (by rw [at_]; rfl) ?_ nothing.1 nothing.2 (.inl rfl)
      simp [Event.job]
  | onClose at_ =>
      refine c.advance (by rw [at_]; rfl) ?_ rfl rfl (.inl rfl)
      simp [Event.job]
  | closeSnapshot at_ _ => exact c.quiet (by rw [at_]; rfl) (by simp) rfl rfl
  | @closeReturn i order client item next stamp items at_ =>
      have whole : Whole (.closing item.id) ((CloseStage.snapped stamp items).trace i item ++
          [.closeReturned i item.id true]) :=
        ⟨i, item, rfl, by simp [CloseStage.trace, closeTrace]⟩
      refine c.advance (by rw [at_]; rfl) ?_ rfl rfl (.inr ⟨rfl, whole⟩)
      simp [Event.job]

end CallState

/-- The opens of a schedule. -/
def CallStep.opens : CallStep → Bool
  | .openTunnel _ _ _ => true
  | _ => false

namespace CallState

theorem seq_step {s s' : CallState} {l : CallStep} (room : NoWrap s l)
    (moved : s.step l = some s') :
    s'.manager.seq.toNat = s.manager.seq.toNat + [l].countP CallStep.opens := by
  cases move_of_step moved with
  | @openTunnel i call now at_ => exact call.run_seq_toNat s.manager now room
  | @remove i order client id next item at_ found =>
      exact congrArg UInt64.toNat (s.manager.remove_spec id).2.1
  | start | onOpen | openSnapshot | openReturn | finish | read | miss | stop | onClose |
    closeSnapshot | closeReturn => rfl

/-- Fewer than 2⁶⁴ opens never wrap the counter. -/
theorem noWrap_of_count {s : CallState} {steps : List CallStep}
    (few : s.manager.seq.toNat + steps.countP CallStep.opens < 2 ^ 64) :
    Along CallState.step NoWrap s steps := by
  induction steps generalizing s with
  | nil => trivial
  | cons l ls ih =>
      rw [show l :: ls = [l] ++ ls from rfl, List.countP_append] at few
      have room : NoWrap s l := by
        cases l with
        | openTunnel i call now =>
            have one : [CallStep.openTunnel i call now].countP CallStep.opens = 1 := rfl
            show s.manager.seq.toNat + 1 < 2 ^ 64
            omega
        | start | move => trivial
      refine ⟨room, fun s' moved => ih ?_⟩
      have counted := seq_step room moved
      omega

theorem consistent_of_run {steps : List CallStep} {s : CallState}
    (held : Along CallState.step NoWrap init steps)
    (ran : exec CallState.step init steps = some s) : Consistent s.manager s.phase s.log :=
  exec_invariant_along (fun _ _ _ c room moved => consistent_step c room moved) consistent_init
    held ran

end CallState

end SentinelOps.Forwarding
