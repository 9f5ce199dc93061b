/-
# Theory.Journal — what a team of scripts asked, in order

A `Journal` is a team that writes down every exchange: who asked, what the server took from
outside, the question and its answer.  Nothing reads the log, so a run of the journal is a run of
the team, and statements about who did what before whom are statements about the log.

`Keeps` is a rule of pre- and postconditions whose assertions are about what the script itself has
asked and been answered so far.  What holds of each script alone holds in every interleaving:
`exec_keeps` at the end of a run, `exec_each` at each entry of the log.
-/
import SentinelOps.Theory.Clients

namespace SentinelOps.Theory

set_option autoImplicit false

/-! ## Assertions about a script's own past -/

namespace Script

variable {Q : Type} {A : Q → Type} {R R' : Type}
variable {pre : List (Σ q, A q) → Q → Prop} {post : R → List (Σ q, A q) → Prop}

/-- Whatever it is answered, the script asks only what its past allows, and what it returns fits
its past. -/
def Keeps (pre : List (Σ q, A q) → Q → Prop) (post : R → List (Σ q, A q) → Prop) :
    Script Q A R → List (Σ q, A q) → Prop
  | .ret result, past => post result past
  | .ask q next, past => pre past q ∧ ∀ a, Keeps pre post (next a) (past ++ [⟨q, a⟩])

theorem Keeps.bind {script : Script Q A R} {f : R → Script Q A R'} {past : List (Σ q, A q)}
    {post' : R' → List (Σ q, A q) → Prop} (first : Keeps pre post script past)
    (later : ∀ result past', post result past' → Keeps pre post' (f result) past') :
    Keeps pre post' (script.bind f) past := by
  induction script generalizing past with
  | ret result => exact later result past first
  | ask q next ih => exact ⟨first.1, fun a => ih a (first.2 a)⟩

end Script

/-! ## Logs -/

structure Entry (ι L Q : Type) (A : Q → Type) where
  client : ι
  label : L
  event : Σ q, A q

section Log

variable {ι L Q : Type} {A : Q → Type} [DecidableEq ι]

/-- What one client asked and was answered. -/
def events (i : ι) (log : List (Entry ι L Q A)) : List (Σ q, A q) :=
  (log.filter fun e => e.client = i).map Entry.event

theorem events_concat (i : ι) (log : List (Entry ι L Q A)) (e : Entry ι L Q A) :
    events i (log ++ [e]) = events i log ++ if e.client = i then [e.event] else [] := by
  unfold events
  rw [List.filter_append, List.map_append]
  by_cases own : e.client = i
  · simp [own]
  · simp [own]

theorem mem_events {i : ι} {log : List (Entry ι L Q A)} {event : Σ q, A q} :
    event ∈ events i log ↔ ∃ e ∈ log, e.client = i ∧ e.event = event := by
  simp [events, and_assoc]

omit [DecidableEq ι] in
/-- Each entry is related to what is before it. -/
def Each (P : List (Entry ι L Q A) → Entry ι L Q A → Prop) (log : List (Entry ι L Q A)) : Prop :=
  ∀ before e after, log = before ++ e :: after → P before e

omit [DecidableEq ι] in
theorem Each.concat {P : List (Entry ι L Q A) → Entry ι L Q A → Prop}
    {log : List (Entry ι L Q A)} {e : Entry ι L Q A} (each : Each P log) (last : P log e) :
    Each P (log ++ [e]) := by
  intro before e' after split
  rcases List.eq_nil_or_concat after with rfl | ⟨after', e'', rfl⟩
  · obtain ⟨rfl, same⟩ := List.append_inj' split rfl
    cases same
    exact last
  · have longer : log ++ [e] = (before ++ e' :: after') ++ [e''] := by simpa using split
    obtain ⟨shorter, -⟩ := List.append_inj' longer rfl
    exact each before e' after' shorter

end Log

/-! ## The team that keeps a log -/

structure Journal (ι S L Q : Type) (A : Q → Type) (R : ι → Type) extends Team ι S Q A R where
  log : List (Entry ι L Q A)

namespace Journal

variable {ι S L Q : Type} {A : Q → Type} {R : ι → Type} [DecidableEq ι]
variable {answer : S → L → (q : Q) → Option (A q × S)} {t t' : Journal ι S L Q A R}

def step (answer : S → L → (q : Q) → Option (A q × S)) (t : Journal ι S L Q A R)
    (label : ι × L) : Option (Journal ι S L Q A R) :=
  match t.script label.1 with
  | .ret _ => none
  | .ask q next =>
      (answer t.store label.2 q).map fun p =>
        { store := p.2
          script := Function.update t.script label.1 (next p.1)
          log := t.log ++ [⟨label.1, label.2, q, p.1⟩] }

theorem step_eq_some {label : ι × L} :
    step answer t label = some t' ↔
      ∃ q next a s, t.script label.1 = .ask q next ∧ answer t.store label.2 q = some (a, s) ∧
        t' = { store := s
               script := Function.update t.script label.1 (next a)
               log := t.log ++ [⟨label.1, label.2, q, a⟩] } := by
  unfold step
  cases t.script label.1 with
  | ret result => simp
  | ask q next =>
      simp only [Option.map_eq_some_iff]
      constructor
      · rintro ⟨⟨a, s⟩, answered, rfl⟩
        exact ⟨q, next, a, s, rfl, answered, rfl⟩
      · rintro ⟨q', next', a, s, same, answered, rfl⟩
        cases same
        exact ⟨(a, s), answered, rfl⟩

variable {pre : ι → List (Σ q, A q) → Q → Prop}
variable {post : (i : ι) → R i → List (Σ q, A q) → Prop}

/-- Every script keeps its assertions from where it is. -/
def Keeps (pre : ι → List (Σ q, A q) → Q → Prop) (post : (i : ι) → R i → List (Σ q, A q) → Prop)
    (t : Journal ι S L Q A R) : Prop :=
  ∀ i, (t.script i).Keeps (pre i) (post i) (events i t.log)

theorem keeps_step {label : ι × L} (keeps : t.Keeps pre post)
    (moved : step answer t label = some t') : t'.Keeps pre post := by
  obtain ⟨q, next, a, s, asks, -, rfl⟩ := step_eq_some.1 moved
  intro i
  show (Function.update t.script label.1 (next a) i).Keeps _ _ (events i (t.log ++ [_]))
  rw [events_concat]
  by_cases own : label.1 = i
  · subst own
    have before := keeps label.1
    rw [asks] at before
    rw [Function.update_self, if_pos rfl]
    exact before.2 a
  · rw [Function.update_of_ne (Ne.symm own), if_neg own, List.append_nil]
    exact keeps i

theorem exec_keeps {labels : List (ι × L)} (keeps : t.Keeps pre post)
    (ran : Schedule.exec (step answer) t labels = some t') : t'.Keeps pre post :=
  Schedule.exec_invariant (fun _ _ _ => keeps_step) keeps ran

/-- In a reached state, every question in the log was one its client's past allowed. -/
theorem exec_each_pre {labels : List (ι × L)} (keeps : t.Keeps pre post)
    (start : Each (fun before e => pre e.client (events e.client before) e.event.1) t.log)
    (ran : Schedule.exec (step answer) t labels = some t') :
    Each (fun before e => pre e.client (events e.client before) e.event.1) t'.log := by
  refine (Schedule.exec_invariant (I := fun t : Journal ι S L Q A R => t.Keeps pre post ∧
    Each (fun before e => pre e.client (events e.client before) e.event.1) t.log)
    ?_ ⟨keeps, start⟩ ran).2
  rintro s label s' ⟨keeps, each⟩ moved
  refine ⟨keeps_step keeps moved, ?_⟩
  obtain ⟨q, next, a, store, asks, -, rfl⟩ := step_eq_some.1 moved
  have allowed := keeps label.1
  rw [asks] at allowed
  exact each.concat allowed.1

end Journal

end SentinelOps.Theory
