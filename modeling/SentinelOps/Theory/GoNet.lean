/-
# Theory.GoNet — addresses with a port, as `net` joins and splits them

The port starts after the last colon.  A host with a colon in it stands in brackets, so host and
port can be read back from what `JoinHostPort` writes, in upper or lower case
(`joinHostPort_inj`, `toLower_joinHostPort`).
-/
import SentinelOps.Theory.GoConcat

namespace SentinelOps.Theory.GoNet

open GoText

set_option autoImplicit false

def colon : UInt8 := 0x3A

def openBracket : UInt8 := 0x5B

def closeBracket : UInt8 := 0x5D

/-- `net.JoinHostPort`: a host with a colon is taken for an IPv6 address. -/
def joinHostPort (host port : GoString) : GoString :=
  if colon ∈ host then str "[" ++ host ++ str "]:" ++ port else host ++ str ":" ++ port

def indexByte (s : GoString) (b : UInt8) : Option Nat := s.findIdx? (· == b)

def lastIndexByte (s : GoString) (b : UInt8) : Option Nat :=
  (indexByte s.reverse b).map fun i => s.length - 1 - i

/-- The host of `net.SplitHostPort`, if it does not return an error. -/
def splitHost (hostport : GoString) : Option GoString :=
  match lastIndexByte hostport colon with
  | none => none
  | some i =>
      if hostport.head? = some openBracket then
        match indexByte hostport closeBracket with
        | none => none
        | some close =>
            -- The first closing bracket stands right before the last colon.
            if close + 1 ≠ i then none
            else if openBracket ∈ hostport.drop 1 ∨
                closeBracket ∈ hostport.drop (close + 1) then none
            else some ((hostport.take close).drop 1)
      else if colon ∈ hostport.take i then none
      else if openBracket ∈ hostport ∨ closeBracket ∈ hostport then none
      else some (hostport.take i)

example : splitHost (str "10.0.0.5:49152") = some (str "10.0.0.5") ∧
    splitHost (str "[::1]:22") = some (str "::1") ∧ splitHost (str "::1") = none ∧
    splitHost (str "pipe") = none := by
  decide

/-! ## Joined addresses -/

/-- The host as it stands before the last colon. -/
def bracketed (host : GoString) : GoString :=
  if colon ∈ host then openBracket :: (host ++ [closeBracket]) else host

theorem joinHostPort_eq (host port : GoString) :
    joinHostPort host port = bracketed host ++ colon :: port := by
  have opened : str "[" = [openBracket] := by decide
  have closed : str "]:" = [closeBracket, colon] := by decide
  have separator : str ":" = [colon] := by decide
  unfold joinHostPort bracketed
  split
  · rw [opened, closed]
    simp
  · rw [separator]
    simp

theorem mem_joinHostPort {host : GoString} {b : UInt8} (port : GoString) (member : b ∈ host) :
    b ∈ joinHostPort host port := by
  unfold joinHostPort
  split <;> simp [member]

theorem bracketed_injective : Function.Injective bracketed := by
  intro h h' same
  unfold bracketed at same
  by_cases inside : colon ∈ h
  · by_cases inside' : colon ∈ h'
    · rw [if_pos inside, if_pos inside', List.cons.injEq] at same
      exact List.append_cancel_right same.2
    · rw [if_pos inside, if_neg inside'] at same
      exact absurd (same ▸ by simp [inside]) inside'
  · by_cases inside' : colon ∈ h'
    · rw [if_neg inside, if_pos inside'] at same
      exact absurd (same ▸ by simp [inside']) inside
    · rwa [if_neg inside, if_neg inside'] at same

/-- What stands before and behind the last colon. -/
theorem append_colon_inj {x x' p p' : GoString} (last : colon ∉ p) (last' : colon ∉ p')
    (same : x ++ colon :: p = x' ++ colon :: p') : x = x' ∧ p = p' := by
  rcases List.append_eq_append_iff.1 same with ⟨more, rfl, rest⟩ | ⟨more, rfl, rest⟩
  · cases more with
    | nil => exact ⟨(List.append_nil x).symm, (List.cons.inj rest).2⟩
    | cons b more =>
        rw [(List.cons.inj rest).2] at last
        exact absurd (by simp) last
  · cases more with
    | nil => exact ⟨List.append_nil x', (List.cons.inj rest).2.symm⟩
    | cons b more =>
        rw [(List.cons.inj rest).2] at last'
        exact absurd (by simp) last'

/-- **Host and port can be read back.** -/
theorem joinHostPort_inj {h h' p p' : GoString} (last : colon ∉ p) (last' : colon ∉ p')
    (same : joinHostPort h p = joinHostPort h' p') : h = h' ∧ p = p' := by
  rw [joinHostPort_eq, joinHostPort_eq] at same
  obtain ⟨hosts, ports⟩ := append_colon_inj last last' same
  exact ⟨bracketed_injective hosts, ports⟩

theorem indexByte_append {x : GoString} {b : UInt8} (first : b ∉ x) (p : GoString) :
    indexByte (x ++ b :: p) b = some x.length := by
  have none_ : x.findIdx? (· == b) = none := by
    rw [List.findIdx?_eq_none_iff]
    intro c member
    have other : c ≠ b := fun same => first (same ▸ member)
    simpa using other
  simp [indexByte, List.findIdx?_append, none_, List.findIdx?_cons]

theorem lastIndexByte_append (x : GoString) {b : UInt8} {p : GoString} (last : b ∉ p) :
    lastIndexByte (x ++ b :: p) b = some x.length := by
  have backwards : (x ++ b :: p).reverse = p.reverse ++ b :: x.reverse := by simp
  rw [lastIndexByte, backwards, indexByte_append (by simpa using last)]
  simp

/-- **The host is read back**, if there are no brackets in the host and the port. -/
theorem splitHost_joinHostPort {host port : GoString}
    (plain : openBracket ∉ host ∧ closeBracket ∉ host)
    (number : colon ∉ port ∧ openBracket ∉ port ∧ closeBracket ∉ port) :
    splitHost (joinHostPort host port) = some host := by
  have openClose : openBracket ≠ closeBracket := by decide
  have openColon : openBracket ≠ colon := by decide
  have closeColon : closeBracket ≠ colon := by decide
  rw [joinHostPort_eq, splitHost, lastIndexByte_append _ number.1]
  dsimp only
  by_cases inside : colon ∈ host
  · have close : indexByte (openBracket :: (host ++ [closeBracket]) ++ colon :: port) closeBracket
        = some (host.length + 1) := by
      have first : closeBracket ∉ openBracket :: host := by simp [plain, openClose.symm]
      simpa using indexByte_append first (colon :: port)
    rw [bracketed, if_pos inside, close]
    simp [plain, number, openClose, openColon, closeColon]
  · have unbracketed : (host ++ colon :: port).head? ≠ some openBracket := by
      intro head
      have member := List.mem_of_head? head
      simp [plain, number, openColon] at member
    rw [bracketed, if_neg inside, if_neg unbracketed]
    simp [inside, plain, number, openColon, closeColon]

theorem toLower_bracketed (host : GoString) :
    toLower (bracketed host) = bracketed (toLower host) := by
  have mark : Mark colon := by decide
  unfold bracketed
  by_cases inside : colon ∈ host
  · rw [if_pos inside, if_pos ((mem_toLower_iff mark host).2 inside), toLower_cons (by decide),
      toLower_append host (starts_cons (by decide)), toLower_cons (by decide)]
    rfl
  · rw [if_neg inside, if_neg fun member => inside ((mem_toLower_iff mark host).1 member)]

/-- Lowering an address lowers its host, if the port has no letters. -/
theorem toLower_joinHostPort (host : GoString) {port : GoString} (marks : ∀ b ∈ port, Mark b) :
    toLower (joinHostPort host port) = joinHostPort (toLower host) port := by
  rw [joinHostPort_eq, joinHostPort_eq, toLower_append _ (starts_cons (by decide)),
    toLower_bracketed, toLower_cons (by decide), toLower_marks marks]

/-- A trimmed host starts with no space, in brackets or not. -/
theorem dropWhile_bracketed {host : GoString} (trimmed : trimSpace host = host) :
    ((pieces (bracketed host)).dropWhile fun p => isSpace p.1) = pieces (bracketed host) := by
  unfold bracketed
  split
  · rw [pieces_cons_ascii (by decide)]
    rfl
  · rw [← trimmed, pieces_trimSpace]
    exact dropWhile_trimPieces _

/-- An address with a trimmed host and a port of digits is trimmed. -/
theorem trimSpace_joinHostPort {host port : GoString} (trimmed : trimSpace host = host)
    (nonempty : port ≠ []) (digits : ∀ b ∈ port, 0x30 ≤ b ∧ b ≤ 0x39) :
    trimSpace (joinHostPort host port) = joinHostPort host port := by
  obtain ⟨init, last, rfl⟩ : ∃ init last, port = init ++ [last] :=
    ⟨_, _, (List.dropLast_append_getLast nonempty).symm⟩
  have digit := digits last (by simp)
  have ascii : last < 0x80 := by grind
  have solid : isSpace last.toNat = false := by
    have every : ∀ r < 0x3A, 0x30 ≤ r → isSpace r = false := by decide
    rw [UInt8.le_iff_toNat_le, UInt8.le_iff_toNat_le] at digit
    exact every last.toNat (Nat.lt_succ_of_le digit.2) digit.1
  have whole : joinHostPort host (init ++ [last]) =
      (bracketed host ++ colon :: init) ++ [last] := by
    rw [joinHostPort_eq, List.append_assoc, List.cons_append]
  rw [whole]
  refine trimSpace_concat ascii solid ?_
  rw [pieces_append _ (starts_cons (by decide)), List.dropWhile_append,
    dropWhile_bracketed trimmed, pieces_cons_ascii (by decide)]
  cases pieces (bracketed host) with
  | nil => rfl
  | cons p ps => rfl

end SentinelOps.Theory.GoNet
