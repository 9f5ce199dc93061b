/-
# Security.InputLanguage — what the Rust rules accept, and that the Go rules accept it too

The Rust rules check a length, control characters, forbidden tokens and, last, an alphabet.  The
alphabet decides: every control character and every forbidden token has a character outside of
it, and a string over it has one byte for each character (`validateInput_ok_iff`).  The Go rules
have the length and a part of the tokens, so they reject nothing that the Rust rules accept, and
a hybrid of both accepts what its external part accepts (`rules_agree`).
-/
import SentinelOps.Security.InputGuard

namespace SentinelOps.Security

open Theory GoText

set_option autoImplicit false

/-- The letters from `A` and from `a`, the digits from `0`, and space, `-`, `_` and `.`. -/
def alphabet : List Rune :=
  List.range' 0x41 26 ++ List.range' 0x61 26 ++ List.range' 0x30 10 ++ [0x20, 0x2D, 0x5F, 0x2E]

/-- The trimmed input has from 1 to 120 characters, all of them in the alphabet. -/
def InLanguage (input : GoString) : Prop :=
  1 ≤ (Guard.chars (trimSpace input)).length ∧ (Guard.chars (trimSpace input)).length ≤ 120 ∧
    ∀ c ∈ Guard.chars (trimSpace input), c ∈ alphabet

/-! ## The alphabet -/

theorem isAllowed_iff (c : Nat) : Guard.isAllowed c = true ↔ c ∈ alphabet := by
  simp only [Guard.isAllowed, Guard.isAsciiAlphanumeric, alphabet, Bool.or_eq_true,
    Bool.and_eq_true, decide_eq_true_eq, beq_iff_eq, List.mem_append, List.mem_range'_1,
    List.mem_cons, List.not_mem_nil, or_false]
  lia

theorem lt_of_mem_alphabet {c : Nat} (member : c ∈ alphabet) : c < 0x80 := by
  have small : ∀ c ∈ alphabet, c < 0x80 := by decide
  exact small c member

/-- No control character is in the alphabet. -/
theorem isAsciiControl_of_mem {c : Nat} (member : c ∈ alphabet) :
    Guard.isAsciiControl c = false := by
  have printable : ∀ c ∈ alphabet, Guard.isAsciiControl c = false := by decide
  exact printable c member

/-- Every forbidden token has a byte that is not in the alphabet. -/
theorem forbidden_outside :
    ∀ token ∈ Guard.forbidden, ∃ b ∈ token, b < 0x80 ∧ b.toNat ∉ alphabet := by
  decide

/-! ## Strings over the alphabet -/

section Strings

variable {s : GoString}

theorem length_chars (spelled : ∀ c ∈ Guard.chars s, c ∈ alphabet) :
    (Guard.chars s).length = s.length := by
  have ascii : ∀ p ∈ pieces s, p.1 < 0x80 := fun p member =>
    lt_of_mem_alphabet (spelled p.1 (List.mem_map_of_mem member))
  rw [Guard.chars, List.length_map, length_of_ascii ascii]

/-- A string over the alphabet contains no token with a byte outside of it. -/
theorem not_contains (spelled : ∀ c ∈ Guard.chars s, c ∈ alphabet) {token : GoString} {b : UInt8}
    (member : b ∈ token) (ascii : b < 0x80) (outside : b.toNat ∉ alphabet) :
    contains s token = false := by
  rw [contains, decide_eq_false_iff_not]
  intro found
  have piece : (b.toNat, [b]) ∈ pieces s := mem_pieces_of_ascii (found.subset member) ascii
  exact outside (spelled b.toNat (List.mem_map_of_mem piece))

end Strings

/-- **The language of the Rust rules.** -/
theorem validateInput_ok_iff (input : GoString) :
    Guard.validateInput input = .ok () ↔ InLanguage input := by
  constructor
  · intro ok
    obtain ⟨nonempty, short, -, -, allowed⟩ := validateInput_ok ok
    have spelled : ∀ c ∈ Guard.chars (trimSpace input), c ∈ alphabet := fun c member =>
      (isAllowed_iff c).1 (List.all_eq_true.1 allowed c member)
    have length := length_chars spelled
    have some_ := List.length_pos_of_ne_nil nonempty
    exact ⟨by omega, by omega, spelled⟩
  · rintro ⟨some_, short, spelled⟩
    have length := length_chars spelled
    have nonempty : trimSpace input ≠ [] := List.ne_nil_of_length_pos (by omega)
    have printable : (Guard.chars (trimSpace input)).any Guard.isAsciiControl = false := by
      rw [List.any_eq_false]
      intro c member
      rw [isAsciiControl_of_mem (spelled c member)]
      exact Bool.false_ne_true
    have clean : Guard.forbidden.find? (contains (trimSpace input)) = none := by
      rw [List.find?_eq_none]
      intro token member
      obtain ⟨b, inside, ascii, outside⟩ := forbidden_outside token member
      rw [not_contains spelled inside ascii outside]
      exact Bool.false_ne_true
    have allowed : (Guard.chars (trimSpace input)).all Guard.isAllowed = true :=
      List.all_eq_true.2 fun c member => (isAllowed_iff c).2 (spelled c member)
    have notLong : ¬ (trimSpace input).length > 120 := by omega
    simp only [Guard.validateInput, nonempty, notLong, printable, clean, allowed, if_true, if_false,
      Bool.false_eq_true]

/-! ## The hybrid -/

/-- On this input the validator decides by the Rust rules. -/
def DecidesByRules (external : Validator) (world : (q : Question) → Answer q) (input : GoString) :
    Prop :=
  (Guard.validateInput input = .ok () → (external.validate input).eval world = none) ∧
    (Guard.validateInput input ≠ .ok () →
      ∃ message, (external.validate input).eval world = some (.rejected message))

/-- **The Go rules take nothing away.**  The Rust rules accept exactly the language; the static
rules accept all of it; and a hybrid of the static rules and a validator that decides by the Rust
rules accepts what that validator accepts, fail-open or not. -/
theorem rules_agree (input : GoString) :
    (Guard.validateInput input = .ok () ↔ InLanguage input) ∧
    (InLanguage input → newDefaultValidator.validate input = .ret none) ∧
    ∀ external world failOpen, DecidesByRules external world input →
      (((Validator.hybrid newDefaultValidator external failOpen).validate input).eval world = none ↔
        (external.validate input).eval world = none) := by
  have included : Guard.validateInput input = .ok () →
      staticRuleValidate 120 defaultForbidden input = none := fun ok =>
    (staticRuleValidate_eq_none_iff input).2 (meetsStaticRules_of_ok ok)
  refine ⟨validateInput_ok_iff input,
    fun inside => congrArg Script.ret (included ((validateInput_ok_iff input).2 inside)), ?_⟩
  rintro external world failOpen ⟨accepts, rejects⟩
  simp only [Validator.validate, newDefaultValidator, Script.eval_bind, Script.eval]
  by_cases ok : Guard.validateInput input = .ok ()
  · rw [included ok]
    simp only [Script.eval_bind, Script.eval, accepts ok, hybridVerdict]
  · obtain ⟨message, rejected⟩ := rejects ok
    cases staticRuleValidate 120 defaultForbidden input with
    | some err => simp [rejected, Script.eval]
    | none => simp [Script.eval_bind, Script.eval, rejected, hybridVerdict]

/-- The installed guard decides a command by the Rust rules, so the hybrid accepts it. -/
theorem rules_agree_command :
    let input := str " status-all 2 "
    let guard := Validator.externalProcess (str "input-guard")
    InLanguage input ∧
      ((Validator.hybrid newDefaultValidator guard true).validate input).eval installedGuard.world =
        none := by
  intro input guard
  obtain ⟨language, -, hybrid⟩ := rules_agree input
  have ok : Guard.validateInput input = .ok () := by decide
  have accepted : (guard.validate input).eval installedGuard.world = none := by
    decide
  have decides : DecidesByRules guard installedGuard.world input :=
    ⟨fun _ => accepted, fun refused => absurd ok refused⟩
  exact ⟨language.1 ok, (hybrid guard installedGuard.world true decides).2 accepted⟩

end SentinelOps.Security
