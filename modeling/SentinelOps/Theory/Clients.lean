/-
# Theory.Clients — scripts against a server, one alone or several at once

A server answers one question at a time: `answer s l q` is the answer to `q` in state `s` with
the state after it, `l` being what the server takes from outside (its clock, an order it is
free to choose), and `none` when it could not have answered so.

`play` is one script alone with the server, one label for each question.  Its rules go by the
shape of the script.  `Team` is several scripts at once: a step is one question of one of them,
so a run is an interleaving of their questions.
-/
import SentinelOps.Theory.Script

namespace SentinelOps.Theory

set_option autoImplicit false

namespace Script

variable {Q : Type} {A : Q → Type} {R R' S L : Type}
variable {answer : S → L → (q : Q) → Option (A q × S)}

/-- The script alone with the server: its result and the state it leaves. -/
def play (answer : S → L → (q : Q) → Option (A q × S)) : Script Q A R → S → List L → Option (R × S)
  | .ret result, s, [] => some (result, s)
  | .ret _, _, _ :: _ => none
  | .ask _ _, _, [] => none
  | .ask q next, s, l :: ls => (answer s l q).bind fun p => play answer (next p.1) p.2 ls

theorem play_ret_eq_some {result : R} {s : S} {ls : List L} {out : R × S} :
    play answer (.ret result) s ls = some out ↔ ls = [] ∧ out = (result, s) := by
  cases ls with
  | nil => simp [play, eq_comm]
  | cons l ls => simp [play]

theorem play_ask_eq_some {q : Q} {next : A q → Script Q A R} {s : S} {ls : List L} {out : R × S} :
    play answer (.ask q next) s ls = some out ↔
      ∃ l rest a s', ls = l :: rest ∧ answer s l q = some (a, s') ∧
        play answer (next a) s' rest = some out := by
  cases ls with
  | nil => simp [play]
  | cons l ls =>
      simp only [play, Option.bind_eq_some_iff]
      constructor
      · rintro ⟨⟨a, s'⟩, answered, later⟩
        exact ⟨l, ls, a, s', rfl, answered, later⟩
      · rintro ⟨l', rest, a, s', same, answered, later⟩
        cases same
        exact ⟨(a, s'), answered, later⟩

/-- One question, and the result. -/
theorem play_single_eq_some {q : Q} {f : A q → R} {s : S} {ls : List L} {out : R × S} :
    play answer (.ask q fun a => .ret (f a)) s ls = some out ↔
      ∃ l a s', ls = [l] ∧ answer s l q = some (a, s') ∧ out = (f a, s') := by
  rw [play_ask_eq_some]
  constructor
  · rintro ⟨l, rest, a, s', rfl, answered, later⟩
    obtain ⟨rfl, rfl⟩ := play_ret_eq_some.1 later
    exact ⟨l, a, s', rfl, answered, rfl⟩
  · rintro ⟨l, a, s', rfl, answered, rfl⟩
    exact ⟨l, [], a, s', rfl, answered, play_ret_eq_some.2 ⟨rfl, rfl⟩⟩

theorem play_bind_eq_some {script : Script Q A R} {f : R → Script Q A R'} {s : S} {ls : List L}
    {out : R' × S} :
    play answer (script.bind f) s ls = some out ↔
      ∃ first rest middle s', ls = first ++ rest ∧ play answer script s first = some (middle, s') ∧
        play answer (f middle) s' rest = some out := by
  induction script generalizing s ls with
  | ret result =>
      constructor
      · exact fun later => ⟨[], ls, result, s, rfl, rfl, later⟩
      · rintro ⟨first, rest, middle, s', rfl, first', later⟩
        obtain ⟨rfl, same⟩ := play_ret_eq_some.1 first'
        cases same
        exact later
  | ask q next ih =>
      constructor
      · intro played
        obtain ⟨l, tail, a, s₁, rfl, answered, later⟩ := play_ask_eq_some.1 played
        obtain ⟨first, rest, middle, s', rfl, first', last⟩ := (ih a).1 later
        exact ⟨l :: first, rest, middle, s', rfl,
          play_ask_eq_some.2 ⟨l, first, a, s₁, rfl, answered, first'⟩, last⟩
      · rintro ⟨first, rest, middle, s', rfl, first', last⟩
        obtain ⟨l, tail, a, s₁, rfl, answered, later⟩ := play_ask_eq_some.1 first'
        exact play_ask_eq_some.2 ⟨l, tail ++ rest, a, s₁, rfl, answered,
          (ih a).2 ⟨tail, rest, middle, s', rfl, later, last⟩⟩

theorem play_map_eq_some {script : Script Q A R} {f : R → R'} {s s' : S} {ls : List L}
    {shown : R'} :
    play answer (script.map f) s ls = some (shown, s') ↔
      ∃ result, shown = f result ∧ play answer script s ls = some (result, s') := by
  induction script generalizing s ls with
  | ret result =>
      simp only [Script.map, play_ret_eq_some, Prod.mk.injEq]
      constructor
      · rintro ⟨rfl, rfl, rfl⟩
        exact ⟨result, rfl, rfl, rfl, rfl⟩
      · rintro ⟨_, rfl, rfl, rfl, rfl⟩
        exact ⟨rfl, rfl, rfl⟩
  | ask q next ih =>
      simp only [Script.map, play_ask_eq_some, ih]
      constructor
      · rintro ⟨l, rest, a, s₁, split, answered, result, same, later⟩
        exact ⟨result, same, l, rest, a, s₁, split, answered, later⟩
      · rintro ⟨result, same, l, rest, a, s₁, split, answered, later⟩
        exact ⟨l, rest, a, s₁, split, answered, result, same, later⟩

end Script

/-! ## Several scripts at once -/

/-- Scripts that share a server, each as far as it has come. -/
structure Team (ι : Type) (S Q : Type) (A : Q → Type) (R : ι → Type) where
  store : S
  script : (i : ι) → Script Q A (R i)

namespace Team

variable {ι S L Q : Type} {A : Q → Type} {R : ι → Type} [DecidableEq ι]
variable {answer : S → L → (q : Q) → Option (A q × S)} {t t' : Team ι S Q A R}

/-- The next question of one script. -/
def step (answer : S → L → (q : Q) → Option (A q × S)) (t : Team ι S Q A R) (label : ι × L) :
    Option (Team ι S Q A R) :=
  match t.script label.1 with
  | .ret _ => none
  | .ask q next =>
      (answer t.store label.2 q).map fun p =>
        { store := p.2, script := Function.update t.script label.1 (next p.1) }

theorem step_eq_some {label : ι × L} :
    step answer t label = some t' ↔
      ∃ q next a s, t.script label.1 = .ask q next ∧ answer t.store label.2 q = some (a, s) ∧
        t' = { store := s, script := Function.update t.script label.1 (next a) } := by
  unfold step
  cases t.script label.1 with
  | ret result => simp
  | ask q next =>
      simp only [Option.map_eq_some_iff]
      constructor
      · rintro ⟨⟨a, s⟩, answered, rfl⟩
        exact ⟨q, next, a, s, rfl, answered, rfl⟩
      · rintro ⟨q', next', a, s, same, answered, rfl⟩
        cases same
        exact ⟨(a, s), answered, rfl⟩

/-- What a script has returned. -/
def result (t : Team ι S Q A R) (i : ι) : Option (R i) :=
  match t.script i with
  | .ret result => some result
  | .ask _ _ => none

/-- Every script has returned. -/
def Finished (t : Team ι S Q A R) : Prop := ∀ i, ∃ result, t.script i = .ret result

omit [DecidableEq ι] in
theorem finished_of_result (t : Team ι S Q A R) (returned : ∀ i, (t.result i).isSome = true) :
    t.Finished := by
  intro i
  have some_ := returned i
  unfold result at some_
  split at some_
  · next result same => exact ⟨result, same⟩
  · cases some_

end Team

end SentinelOps.Theory
