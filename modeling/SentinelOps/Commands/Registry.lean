/-
# Commands.Registry — the names of commands, `internal/commands/registry.go`

A registry has a table from names and aliases to commands, and a list for `help`.  A later command
takes a name away from an earlier one in the table (`find_newRegistry`), but not in the list, which
keeps the first command of every name (`mem_list_iff`).  So a command may be listed while its name
runs another one; `sound_iff` says when it is not so.

Poles: `sound_example` and `taken_name`.
-/
import SentinelOps.Theory.GoMap
import SentinelOps.Theory.GoText

namespace SentinelOps.Commands

open Theory
open GoText (GoString str toLower pieces)

set_option autoImplicit false

/-- A command; `E` is what `Execute` does. -/
structure Command (E : Type) where
  name : GoString
  aliases : List GoString
  description : GoString
  usage : GoString
  execute : E
  deriving DecidableEq

structure Registry (E : Type) where
  lookup : GoMap GoString (Command E)
  ordered : List (Command E)

/-- `NewRegistry` on the way. -/
structure Building (E : Type) extends Registry E where
  seenPrimary : GoMap GoString Bool

section

variable {E : Type}

def Command.primary (cmd : Command E) : GoString := toLower cmd.name

/-- One command. -/
def register (b : Building E) (cmd : Command E) : Building E :=
  let primary := cmd.primary
  let b : Building E :=
    if !(b.seenPrimary.get primary).getD false then
      { b with ordered := b.ordered ++ [cmd], seenPrimary := b.seenPrimary.set primary true }
    else b
  { b with
    lookup := cmd.aliases.foldl (fun lookup alias_ => lookup.set (toLower alias_) cmd)
      (b.lookup.set primary cmd) }

def build (cmds : List (Command E)) : Building E :=
  cmds.foldl register { lookup := ∅, ordered := [], seenPrimary := ∅ }

def newRegistry (cmds : List (Command E)) : Registry E := (build cmds).toRegistry

def Registry.find (r : Registry E) (name : GoString) : Option (Command E) :=
  r.lookup.get (toLower name)

def Registry.list (r : Registry E) : List (Command E) := r.ordered

/-! ## Help -/

/-- `%-8s`: blanks behind the text, up to eight runes. -/
def padded (text : GoString) : GoString :=
  text ++ List.replicate (8 - (pieces text).length) 0x20

/-- `HelpCommand.Execute`; its error is always nil. -/
def help (r : Registry E) : GoString :=
  str "Comandos de SentinelOps:\n" ++
    (r.list.flatMap fun cmd =>
      str "- " ++ padded cmd.name ++ str " " ++ cmd.description ++ str "\n" ++
        str "  uso: " ++ cmd.usage ++ str "\n") ++
    str "- quit     Cierra la sesión\n" ++ str "  uso: quit"

/-! ## What is built -/

/-- The names a command is found under. -/
def Command.keys (cmd : Command E) : List GoString := cmd.primary :: cmd.aliases.map toLower

theorem get_foldl_set (cmd : Command E) (aliases : List GoString)
    (lookup : GoMap GoString (Command E)) (key : GoString) :
    (aliases.foldl (fun lookup alias_ => lookup.set (toLower alias_) cmd) lookup).get key =
      if key ∈ aliases.map toLower then some cmd else lookup.get key := by
  induction aliases generalizing lookup with
  | nil => simp
  | cons alias_ aliases ih =>
      rw [List.foldl_cons, ih, GoMap.get_set, List.map_cons]
      by_cases later : key ∈ aliases.map toLower
      · simp [later]
      · by_cases same : key = toLower alias_
        · simp [same]
        · simp [later, same]

theorem get_register (b : Building E) (cmd : Command E) (key : GoString) :
    (register b cmd).lookup.get key = if key ∈ cmd.keys then some cmd else b.lookup.get key := by
  have table : (register b cmd).lookup =
      cmd.aliases.foldl (fun lookup alias_ => lookup.set (toLower alias_) cmd)
        (b.lookup.set cmd.primary cmd) := by
    unfold register
    dsimp only
    split <;> rfl
  rw [table, get_foldl_set, GoMap.get_set, Command.keys]
  by_cases alias_ : key ∈ cmd.aliases.map toLower
  · simp [alias_]
  · simp [alias_]

theorem build_concat (cmds : List (Command E)) (cmd : Command E) :
    build (cmds ++ [cmd]) = register (build cmds) cmd := by
  rw [build, List.foldl_append]
  rfl

/-- **The last command that claims a name has it.** -/
theorem find_newRegistry (cmds : List (Command E)) (name : GoString) :
    (newRegistry cmds).find name = cmds.reverse.find? (toLower name ∈ ·.keys) := by
  show (build cmds).lookup.get (toLower name) = _
  induction cmds using List.reverseRecOn with
  | nil => exact GoMap.get_empty _
  | append_singleton cmds cmd ih =>
      rw [build_concat, get_register, ih, List.reverse_append, List.reverse_singleton,
        List.singleton_append, List.find?_cons]
      by_cases claimed : toLower name ∈ cmd.keys
      · simp [claimed]
      · simp [claimed]

/-- A name is marked as seen, and its first command is listed. -/
theorem register_list (b : Building E) (cmd : Command E) :
    (register b cmd).ordered =
        b.ordered ++ (if (b.seenPrimary.get cmd.primary).getD false then [] else [cmd]) ∧
      ∀ key, ((register b cmd).seenPrimary.get key).getD false =
        if key = cmd.primary then true else (b.seenPrimary.get key).getD false := by
  unfold register
  dsimp only
  cases seen : (b.seenPrimary.get cmd.primary).getD false with
  | true =>
      refine ⟨(List.append_nil _).symm, fun key => ?_⟩
      by_cases same : key = cmd.primary
      · subst same
        simpa using seen
      · simp [same]
  | false =>
      refine ⟨rfl, fun key => ?_⟩
      show ((b.seenPrimary.set cmd.primary true).get key).getD false = _
      rw [GoMap.get_set]
      split <;> rfl

theorem seenPrimary_build (cmds : List (Command E)) (key : GoString) :
    ((build cmds).seenPrimary.get key).getD false = true ↔ ∃ cmd ∈ cmds, cmd.primary = key := by
  induction cmds using List.reverseRecOn with
  | nil =>
      have none_ : (build ([] : List (Command E))).seenPrimary.get key = none := GoMap.get_empty key
      simp [none_]
  | append_singleton cmds cmd ih =>
      rw [build_concat, (register_list _ cmd).2]
      by_cases same : key = cmd.primary
      · simp [same]
      · rw [if_neg same, ih]
        simp [Ne.symm same]

/-- The first command of its name. -/
def First (cmds : List (Command E)) (cmd : Command E) : Prop :=
  ∃ before after, cmds = before ++ cmd :: after ∧ ∀ other ∈ before, other.primary ≠ cmd.primary

theorem list_concat (cmds : List (Command E)) (cmd : Command E) :
    ((∃ other ∈ cmds, other.primary = cmd.primary) ∧
        (newRegistry (cmds ++ [cmd])).list = (newRegistry cmds).list) ∨
      ((∀ other ∈ cmds, other.primary ≠ cmd.primary) ∧
        (newRegistry (cmds ++ [cmd])).list = (newRegistry cmds).list ++ [cmd]) := by
  have listed : (newRegistry (cmds ++ [cmd])).list = (newRegistry cmds).list ++
      (if ((build cmds).seenPrimary.get cmd.primary).getD false then [] else [cmd]) := by
    show (build (cmds ++ [cmd])).ordered = _
    rw [build_concat, (register_list _ cmd).1]
    rfl
  by_cases seen : ∃ other ∈ cmds, other.primary = cmd.primary
  · rw [if_pos ((seenPrimary_build cmds _).2 seen), List.append_nil] at listed
    exact .inl ⟨seen, listed⟩
  · rw [if_neg fun marked => seen ((seenPrimary_build cmds _).1 marked)] at listed
    exact .inr ⟨fun other member same => seen ⟨other, member, same⟩, listed⟩

theorem first_concat (cmds : List (Command E)) (cmd last : Command E) :
    First (cmds ++ [last]) cmd ↔
      First cmds cmd ∨ (cmd = last ∧ ∀ other ∈ cmds, other.primary ≠ last.primary) := by
  constructor
  · rintro ⟨before, after, split, first⟩
    rcases List.eq_nil_or_concat after with rfl | ⟨init, final, rfl⟩
    · obtain ⟨rfl, same⟩ := List.append_inj' split rfl
      cases same
      exact .inr ⟨rfl, first⟩
    · have whole : cmds ++ [last] = (before ++ cmd :: init) ++ [final] := by simpa using split
      obtain ⟨rfl, -⟩ := List.append_inj' whole rfl
      exact .inl ⟨before, init, rfl, first⟩
  · rintro (⟨before, after, rfl, first⟩ | ⟨rfl, first⟩)
    · exact ⟨before, after ++ [last], by simp, first⟩
    · exact ⟨cmds, [], rfl, first⟩

/-- **The list has the first command of every name.** -/
theorem mem_list_iff (cmds : List (Command E)) (cmd : Command E) :
    cmd ∈ (newRegistry cmds).list ↔ First cmds cmd := by
  induction cmds using List.reverseRecOn with
  | nil =>
      refine iff_of_false (fun member => ?_) ?_
      · cases member
      · rintro ⟨before, after, split, -⟩
        simp at split
  | append_singleton cmds last ih =>
      rw [first_concat, ← ih]
      rcases list_concat cmds last with ⟨seen, listed⟩ | ⟨unseen, listed⟩
      · rw [listed]
        obtain ⟨other, member, same⟩ := seen
        exact (or_iff_left fun ⟨_, none_⟩ => none_ other member same).symm
      · rw [listed, List.mem_append, List.mem_singleton]
        exact or_congr_right (and_iff_left unseen).symm

/-- **No two listed commands have one name.** -/
theorem nodup_list (cmds : List (Command E)) :
    ((newRegistry cmds).list.map Command.primary).Nodup := by
  induction cmds using List.reverseRecOn with
  | nil => exact List.nodup_nil
  | append_singleton cmds last ih =>
      rcases list_concat cmds last with ⟨seen, listed⟩ | ⟨unseen, listed⟩
      · rw [listed]
        exact ih
      · rw [listed, List.map_append, List.map_singleton, ← List.concat_eq_append,
          List.nodup_concat]
        refine ⟨fun member => ?_, ih⟩
        obtain ⟨other, listed', same⟩ := List.mem_map.1 member
        obtain ⟨before, after, rfl, -⟩ := (mem_list_iff cmds other).1 listed'
        exact unseen other (by simp) same

/-! ## When the list and the table agree -/

/-- The last command to claim a name. -/
def Last (cmds : List (Command E)) (key : GoString) (cmd : Command E) : Prop :=
  ∃ before after, cmds = before ++ cmd :: after ∧ key ∈ cmd.keys ∧ ∀ other ∈ after, key ∉ other.keys

theorem find_eq_some_iff (cmds : List (Command E)) (name : GoString) (cmd : Command E) :
    (newRegistry cmds).find name = some cmd ↔ Last cmds (toLower name) cmd := by
  rw [find_newRegistry, List.find?_eq_some_iff_append]
  constructor
  · rintro ⟨claims, after, before, split, others⟩
    refine ⟨before.reverse, after.reverse, ?_, by simpa using claims, fun other member => ?_⟩
    · rw [← List.reverse_reverse cmds, split]
      simp
    · simpa using others other (List.mem_reverse.1 member)
  · rintro ⟨before, after, rfl, claims, others⟩
    refine ⟨by simpa using claims, after.reverse, before.reverse, by simp, fun other member => ?_⟩
    simpa using others other (List.mem_reverse.1 member)

/-- The listed names are distinct, each runs the command it is listed with, and every name of a
listed command runs a listed one. -/
structure Sound (r : Registry E) : Prop where
  distinct : (r.list.map Command.primary).Nodup
  own : ∀ cmd ∈ r.list, r.find cmd.name = some cmd
  resolves : ∀ cmd ∈ r.list, ∀ name ∈ cmd.name :: cmd.aliases,
    ∃ other ∈ r.list, r.find name = some other

/-- The names of a list of commands clash nowhere: the first command of a name is the last to
claim it, and the last to claim one of its aliases is a first command too. -/
def Unclashing (cmds : List (Command E)) : Prop :=
  ∀ cmd, First cmds cmd → Last cmds cmd.primary cmd ∧
    ∀ alias_ ∈ cmd.aliases, ∃ other, First cmds other ∧ Last cmds (toLower alias_) other

theorem sound_iff_unclashing (cmds : List (Command E)) :
    Sound (newRegistry cmds) ↔ Unclashing cmds := by
  constructor
  · intro sound cmd first
    have listed := (mem_list_iff cmds cmd).2 first
    refine ⟨(find_eq_some_iff cmds cmd.name cmd).1 (sound.own cmd listed), fun alias_ member => ?_⟩
    obtain ⟨other, listed', found⟩ :=
      sound.resolves cmd listed alias_ (List.mem_cons_of_mem _ member)
    exact ⟨other, (mem_list_iff cmds other).1 listed', (find_eq_some_iff cmds _ _).1 found⟩
  · intro unclashing
    have own : ∀ cmd ∈ (newRegistry cmds).list, (newRegistry cmds).find cmd.name = some cmd :=
      fun cmd listed => (find_eq_some_iff cmds cmd.name cmd).2
        (unclashing cmd ((mem_list_iff cmds cmd).1 listed)).1
    refine ⟨nodup_list cmds, own, fun cmd listed name member => ?_⟩
    rcases List.mem_cons.1 member with rfl | alias_
    · exact ⟨cmd, listed, own cmd listed⟩
    · obtain ⟨other, first, last⟩ :=
        (unclashing cmd ((mem_list_iff cmds cmd).1 listed)).2 name alias_
      exact ⟨other, (mem_list_iff cmds other).2 first, (find_eq_some_iff cmds _ _).2 last⟩

/-- Every name has a first command. -/
theorem exists_first {cmds : List (Command E)} {cmd : Command E} (member : cmd ∈ cmds) :
    ∃ first, First cmds first ∧ first.primary = cmd.primary := by
  have found : (cmds.find? fun other => other.primary = cmd.primary).isSome := by
    rw [List.find?_isSome]
    exact ⟨cmd, member, by simp⟩
  obtain ⟨first, found⟩ := Option.isSome_iff_exists.1 found
  obtain ⟨same, before, after, split, others⟩ := List.find?_eq_some_iff_append.1 found
  have same : first.primary = cmd.primary := by simpa using same
  refine ⟨first, ⟨before, after, split, fun other member => ?_⟩, same⟩
  rw [same]
  simpa using others other member

/-- Every claimed name has a last command to claim it. -/
theorem exists_last {cmds : List (Command E)} {cmd : Command E} (member : cmd ∈ cmds)
    {name : GoString} (claims : toLower name ∈ cmd.keys) :
    ∃ last, Last cmds (toLower name) last := by
  have found : ((newRegistry cmds).find name).isSome := by
    rw [find_newRegistry, List.find?_isSome]
    exact ⟨cmd, List.mem_reverse.2 member, by simpa using claims⟩
  obtain ⟨last, found⟩ := Option.isSome_iff_exists.1 found
  exact ⟨last, (find_eq_some_iff cmds name last).1 found⟩

/-- A command behind one of a name is behind the first one of this name. -/
theorem mem_behind_first {before after : List (Command E)} {first cmd later : Command E}
    (others : ∀ other ∈ before, other.primary ≠ first.primary)
    (sub : [cmd, later].Sublist (before ++ first :: after)) (same : first.primary = cmd.primary) :
    later ∈ after := by
  have behind : [cmd, later].Sublist (first :: after) := by
    obtain ⟨early, late, split, left, right⟩ := List.sublist_append_iff.1 sub
    cases early with
    | nil =>
        rw [split]
        exact right
    | cons head tail =>
        obtain ⟨rfl, -⟩ := List.cons.inj split
        exact absurd same.symm (others cmd (left.subset List.mem_cons_self))
  cases behind with
  | cons _ both => exact both.subset (by simp)
  | cons_cons _ one => exact one.subset (by simp)

theorem pairwise_of_unclashing {cmds : List (Command E)} (nodup : cmds.Nodup)
    (unclashing : Unclashing cmds) :
    cmds.Pairwise fun cmd later => cmd.primary ∉ later.keys := by
  rw [List.pairwise_iff_forall_sublist]
  intro cmd later sub claims
  obtain ⟨first, isFirst, same⟩ := exists_first (sub.subset List.mem_cons_self)
  obtain ⟨before', after', split', -, unclaimed⟩ := (unclashing first isFirst).1
  obtain ⟨before, after, rfl, others⟩ := isFirst
  -- The command stands in the list once, so the two splits are one.
  obtain ⟨outside, outside'⟩ : first ∉ before ∧ first ∉ after := by
    rw [List.nodup_middle, List.nodup_cons, List.mem_append, not_or] at nodup
    exact nodup.1
  obtain ⟨rfl, -, rfl⟩ := (List.append_cons_inj_of_notMem outside outside').1 split'
  exact unclaimed later (mem_behind_first others sub same) (same ▸ claims)

theorem unclashing_of_pairwise {cmds : List (Command E)}
    (apart : cmds.Pairwise fun cmd later => cmd.primary ∉ later.keys) : Unclashing cmds := by
  intro cmd first
  have isFirst : ∀ other ∈ cmds, First cmds other := by
    intro other member
    obtain ⟨before, after, rfl⟩ := List.append_of_mem member
    refine ⟨before, after, rfl, fun earlier early same => ?_⟩
    have unclaimed := (List.pairwise_append.1 apart).2.2 earlier early other List.mem_cons_self
    exact unclaimed (same ▸ List.mem_cons_self)
  obtain ⟨before, after, rfl, -⟩ := first
  constructor
  · refine ⟨before, after, rfl, List.mem_cons_self, ?_⟩
    exact (List.pairwise_cons.1 (List.pairwise_append.1 apart).2.1).1
  · intro alias_ member
    have claims : toLower alias_ ∈ cmd.keys :=
      List.mem_cons_of_mem _ (List.mem_map_of_mem member)
    have whole : cmd ∈ before ++ cmd :: after := by simp
    obtain ⟨last, isLast⟩ := exists_last whole claims
    have within : last ∈ before ++ cmd :: after := by
      obtain ⟨before', after', split, -⟩ := isLast
      rw [split]
      simp
    exact ⟨last, isFirst last within, isLast⟩

/-- Without repetitions, nothing clashes exactly when no command's name is claimed by a later
one. -/
theorem unclashing_iff_pairwise {cmds : List (Command E)} (nodup : cmds.Nodup) :
    Unclashing cmds ↔ cmds.Pairwise fun cmd later => cmd.primary ∉ later.keys :=
  ⟨pairwise_of_unclashing nodup, unclashing_of_pairwise⟩

/-- **List and table agree exactly when no names clash**; for commands without repetitions that
is: when no command's name is a name or an alias of a later command, in any case. -/
theorem sound_iff (cmds : List (Command E)) :
    (Sound (newRegistry cmds) ↔ Unclashing cmds) ∧
      (cmds.Nodup → (Sound (newRegistry cmds) ↔
        cmds.Pairwise fun cmd later => cmd.primary ∉ later.keys)) :=
  ⟨sound_iff_unclashing cmds, fun nodup =>
    (sound_iff_unclashing cmds).trans (unclashing_iff_pairwise nodup)⟩

end

/-! ## Poles -/

/-- A command that is told from others by a number. -/
def sampleCommand (name : GoString) (aliases : List GoString) (n : ℕ) : Command ℕ :=
  ⟨name, aliases, [], name, n⟩

/-- Aliases may be shared: the later command has them. -/
theorem sound_example :
    Sound (newRegistry [sampleCommand (str "status") [str "s"] 0,
      sampleCommand (str "audit") [str "S", str "log"] 1]) := by
  refine ((sound_iff _).2 ?_).2 ?_
  · simp [sampleCommand]
  · rw [List.pairwise_pair]
    decide

/-- The second command has the name of the first for an alias: `help` shows `status`, and `status`
runs `audit`. -/
theorem taken_name :
    let status := sampleCommand (str "status") [] 0
    let audit := sampleCommand (str "audit") [str "STATUS"] 1
    let r := newRegistry [status, audit]
    str "Comandos de SentinelOps:\n- status   \n  uso: status\n" <+: help r ∧
      r.list = [status, audit] ∧ r.find (str "status") = some audit ∧ ¬ Sound r := by
  intro status audit r
  have listed : r.list = [status, audit] := by decide
  have found : r.find (str "status") = some audit := by decide
  refine ⟨by decide, listed, found, fun sound => ?_⟩
  have own : r.find (str "status") = some status := sound.own status (by simp [listed])
  rw [found] at own
  exact absurd own (by decide)

end SentinelOps.Commands
