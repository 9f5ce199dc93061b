/-
# Theory.Trim — cutting what is unwanted off both ends of a list

`trimEnds p` takes the elements that satisfy `p` off the front and off the back.  What is left
begins and ends with an element that does not (`clean_trimEnds`); a list that already does is left
alone (`trimEnds_eq_self_iff`), and more of the unwanted around a list changes nothing
(`trimEnds_surrounded`).
-/
import Mathlib.Data.List.DropRight

namespace SentinelOps.Theory.Trim

set_option autoImplicit false

variable {α : Type} (p : α → Bool)

def trimEnds (l : List α) : List α := (l.dropWhile p).rdropWhile p

/-- Nothing unwanted at either end. -/
structure Clean (l : List α) : Prop where
  first : ∀ a ∈ l.head?, p a = false
  last : ∀ a ∈ l.getLast?, p a = false

variable {p}

theorem clean_trimEnds (l : List α) : Clean p (trimEnds p l) := by
  have short : trimEnds p l <+: l.dropWhile p := List.rdropWhile_prefix _ _
  refine ⟨fun a first => ?_, fun a last => ?_⟩
  · obtain ⟨rest, shape⟩ := short
    obtain ⟨tail, shape'⟩ := List.head?_eq_some_iff.1 first
    rw [shape', List.cons_append] at shape
    have head := List.head?_dropWhile_not p l
    rw [← shape] at head
    exact head
  · have nonempty : trimEnds p l ≠ [] := by
      intro none_
      rw [none_] at last
      cases last
    have final := List.rdropWhile_last_not p (l.dropWhile p) nonempty
    rw [List.getLast?_eq_some_getLast nonempty, Option.mem_some_iff] at last
    rw [← last]
    exact Bool.eq_false_iff.2 final

theorem trimEnds_eq_self_iff (l : List α) : trimEnds p l = l ↔ Clean p l := by
  constructor
  · intro same
    rw [← same]
    exact clean_trimEnds l
  · intro clean
    have front : l.dropWhile p = l := by
      cases l with
      | nil => rfl
      | cons a l => exact List.dropWhile_cons_of_neg (by simp [clean.first a rfl])
    rw [trimEnds, front, List.rdropWhile_eq_self_iff]
    intro nonempty
    rw [clean.last _ (List.getLast?_eq_some_getLast nonempty)]
    exact Bool.false_ne_true

/-- **More of the unwanted around a list is cut off with it.** -/
theorem trimEnds_surrounded {before after : List α} (front : ∀ a ∈ before, p a = true)
    (back : ∀ a ∈ after, p a = true) (l : List α) :
    trimEnds p (before ++ l ++ after) = trimEnds p l := by
  have behind : ∀ l, trimEnds p (l ++ after) = trimEnds p l := by
    intro l
    induction after using List.reverseRecOn with
    | nil => rw [List.append_nil]
    | append_singleton after a ih =>
        have last : p a = true := back a (by simp)
        rw [← List.append_assoc]
        have one : trimEnds p (l ++ after ++ [a]) = trimEnds p (l ++ after) := by
          unfold trimEnds
          rw [List.dropWhile_append]
          cases (l ++ after).dropWhile p with
          | nil => simp [last]
          | cons b rest => exact List.rdropWhile_concat_pos _ _ _ last
        rw [one]
        exact ih fun b member => back b (by simp [member])
  rw [behind, trimEnds, List.dropWhile_append_of_pos front, trimEnds]

end SentinelOps.Theory.Trim
