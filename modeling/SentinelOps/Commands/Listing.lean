/-
# Commands.Listing — the lines of a tunnel listing

`renderTunnels` writes a line with the count and one line for each tunnel, and puts the fields of
the tunnel into it as they are.  The name a client logs in with and the address it says the
connection comes from are bytes of its choice, so a field may have a newline in it and the rest of
it stands on a line of its own, which may look like any other.  `split_back_iff` says that nothing
else can go wrong: without a newline in them the listing falls apart into its tunnels.

Poles: `listing_of_two` and `forged_entry`.
-/
import SentinelOps.Commands.Tunnels
import SentinelOps.Theory.GoNet

namespace SentinelOps.Commands

open Theory GoText GoTime Forwarding

set_option autoImplicit false

def newline : UInt8 := 0x0A

/-! ## An entry -/

/-- What the line of a tunnel is put together from, up to its end. -/
def entryParts (now : Time) (t : Tunnel) : List GoString :=
  [str "- id=", t.id, str " direction=", t.direction.text, str " session_id=", t.sessionID,
    str " username=", t.username, str " bind=", t.bind, str " target=", t.target, str " origin=",
    t.origin, str " started_at=", formatRFC3339 t.startedAt, str " uptime=",
    durationString (round (now.sub t.startedAt) second)]

def entry (now : Time) (t : Tunnel) : GoString := (entryParts now t).flatten

theorem tunnelLine_eq (now : Time) (t : Tunnel) : tunnelLine now t = entry now t ++ [newline] := by
  have line : [newline] = str "\n" := by decide
  unfold tunnelLine
  simp only [line, entry, entryParts, List.flatten_cons, List.flatten_nil, List.append_nil,
    List.append_assoc]

theorem id_of_entry (now : Time) (t : Tunnel) : str "- id=" ++ t.id <+: entry now t :=
  ⟨((entryParts now t).drop 2).flatten, List.append_assoc _ _ _⟩

/-- The last byte of an entry is that of a duration. -/
theorem entry_ends (now : Time) (t : Tunnel) :
    ∃ front b, entry now t = front ++ [b] ∧ b ≠ newline := by
  obtain ⟨visible, nonempty⟩ := visible_durationString (round (now.sub t.startedAt) second)
  obtain ⟨init, b, ends⟩ : ∃ init b,
      durationString (round (now.sub t.startedAt) second) = init ++ [b] :=
    ⟨_, _, (List.dropLast_append_getLast nonempty).symm⟩
  refine ⟨((entryParts now t).dropLast).flatten ++ init, b, ?_, ?_⟩
  · simp only [entry, entryParts, ends, List.dropLast_cons_cons, List.dropLast_singleton,
      List.flatten_cons, List.flatten_nil, List.append_nil, List.append_assoc]
  · rintro rfl
    have last : newline ∈ init ++ [newline] := by simp
    exact absurd (visible newline (ends ▸ last)) (by decide)

/-! ## The tunnels of clients -/

/-- The IDs are issued by the server. -/
structure Issued (t : Tunnel) : Prop where
  tunnel : ∃ n, t.id = tunnelID n
  session : ∃ n, t.sessionID = str "sess-" ++ zeroPadded 6 n

/-- No newline in what is left to the client. -/
structure Unbroken (t : Tunnel) : Prop where
  username : newline ∉ t.username
  bind : newline ∉ t.bind
  target : newline ∉ t.target
  origin : newline ∉ t.origin

theorem newline_not_mem_of_visible {s : GoString} (visible : Visible s) : newline ∉ s := by
  intro member
  exact absurd (visible newline member) (by decide)

theorem newline_not_mem_entry (now : Time) {t : Tunnel} (issued : Issued t) :
    newline ∉ entry now t ↔ Unbroken t := by
  obtain ⟨n, tunnel⟩ := issued.tunnel
  obtain ⟨m, session⟩ := issued.session
  have id_ : newline ∉ t.id := by
    rw [tunnel]
    exact newline_not_mem_of_visible (Visible.append (by decide +kernel) (visible_zeroPadded 6 n))
  have sessionID : newline ∉ t.sessionID := by
    rw [session]
    exact newline_not_mem_of_visible (Visible.append (by decide +kernel) (visible_zeroPadded 6 m))
  have direction : newline ∉ t.direction.text := by
    cases t.direction <;> decide
  have started := newline_not_mem_of_visible (visible_formatRFC3339 t.startedAt)
  have uptime := newline_not_mem_of_visible
    (visible_durationString (round (now.sub t.startedAt) second)).1
  have labels : newline ∉ str "- id=" ∧ newline ∉ str " direction=" ∧
      newline ∉ str " session_id=" ∧ newline ∉ str " username=" ∧ newline ∉ str " bind=" ∧
      newline ∉ str " target=" ∧ newline ∉ str " origin=" ∧ newline ∉ str " started_at=" ∧
      newline ∉ str " uptime=" := by decide
  have parts : newline ∉ entry now t ↔ ∀ part ∈ entryParts now t, newline ∉ part := by
    rw [entry, List.mem_flatten]
    exact ⟨fun out part member inside => out ⟨part, member, inside⟩,
      fun out ⟨part, member, inside⟩ => out part member inside⟩
  rw [parts]
  simp only [entryParts, List.forall_mem_cons, labels, id_, sessionID, direction, started, uptime,
    not_false_eq_true, true_and]
  constructor
  · rintro ⟨username, bind, target, origin, -⟩
    exact ⟨username, bind, target, origin⟩
  · rintro ⟨username, bind, target, origin⟩
    exact ⟨username, bind, target, origin, fun part none_ => by cases none_⟩

/-! ## The listing -/

/-- The entries in order, each at its reading of the clock. -/
def entries (clock : ℕ → Time) (items : List Tunnel) : List GoString :=
  items.mapIdx fun k t => entry (clock k) t

def header (items : List Tunnel) : GoString := str "active_tunnels=" ++ decimal items.length

theorem mapIdx_tunnelLine (clock : ℕ → Time) (items : List Tunnel) :
    (items.mapIdx fun k t => tunnelLine (clock k) t) =
      (entries clock items).map (· ++ [newline]) := by
  rw [List.mapIdx_eq_iff]
  intro i
  rw [List.getElem?_map, entries, List.getElem?_mapIdx, Option.map_map]
  exact congrArg (Option.map · items[i]?) (funext fun t => (tunnelLine_eq (clock i) t).symm)

/-- **The listing is its lines, joined.** -/
theorem renderTunnels_eq (clock : ℕ → Time) {items : List Tunnel} (nonempty : items ≠ []) :
    renderTunnels clock items = [newline].intercalate (header items :: entries clock items) := by
  have line : str "\n" = [newline] := by decide
  have written : str "active_tunnels=" ++ decimal items.length ++ str "\n" ++
      (items.mapIdx fun k t => tunnelLine (clock k) t).flatten =
      (header items :: entries clock items).flatMap (· ++ [newline]) := by
    rw [mapIdx_tunnelLine, List.flatMap_cons, header, line, List.flatMap_def]
  have some_ : items.length ≠ 0 := fun none_ => nonempty (List.length_eq_zero_iff.1 none_)
  rw [renderTunnels, if_neg some_, written]
  -- The last entry ends in something other than a newline, so one newline is trimmed.
  obtain ⟨init, t, rfl⟩ : ∃ init t, items = init ++ [t] :=
    ⟨_, _, (List.dropLast_append_getLast nonempty).symm⟩
  obtain ⟨front, b, ends, other⟩ := entry_ends (clock init.length) t
  have last : entries clock (init ++ [t]) = entries clock init ++ [front ++ [b]] := by
    simp [entries, List.mapIdx_append, ends]
  have newline_ : newline = 0x0A := rfl
  rw [last, ← List.cons_append, List.flatMap_append, intercalate_concat]
  simp [trimRightByte, newline_ ▸ other, newline_]

/-- A line with the count, and for each tunnel in order one line that starts with its ID. -/
def Listed (items : List Tunnel) (text : GoString) : Prop :=
  ∃ lines, text.splitOn newline = header items :: lines ∧
    List.Forall₂ (fun line t => str "- id=" ++ t.id <+: line) lines items

theorem forall₂_entries (clock : ℕ → Time) (items : List Tunnel) :
    List.Forall₂ (fun line t => str "- id=" ++ t.id <+: line) (entries clock items) items := by
  induction items generalizing clock with
  | nil => exact .nil
  | cons t items ih =>
      rw [entries, List.mapIdx_cons]
      exact .cons (id_of_entry (clock 0) t) (ih fun k => clock (k + 1))

theorem newline_not_mem_entries (clock : ℕ → Time) {items : List Tunnel}
    (issued : ∀ t ∈ items, Issued t) :
    (∀ e ∈ entries clock items, newline ∉ e) ↔ ∀ t ∈ items, Unbroken t := by
  induction items generalizing clock with
  | nil => simp [entries]
  | cons t items ih =>
      rw [entries, List.mapIdx_cons, List.forall_mem_cons, List.forall_mem_cons,
        newline_not_mem_entry (clock 0) (issued t List.mem_cons_self)]
      exact and_congr_right fun _ =>
        ih (fun k => clock (k + 1)) fun t member => issued t (List.mem_cons_of_mem _ member)

/-- **A listing can be split back into its tunnels exactly when no field of theirs has a newline
in it.** -/
theorem split_back_iff (clock : ℕ → Time) (items : List Tunnel) (nonempty : items ≠ [])
    (issued : ∀ t ∈ items, Issued t) :
    Listed items (renderTunnels clock items) ↔ ∀ t ∈ items, Unbroken t := by
  have counted : newline ∉ header items :=
    newline_not_mem_of_visible (Visible.append (by decide +kernel) (visible_decimal _))
  have length : (entries clock items).length = items.length := by simp [entries]
  have unbroken : (∀ line ∈ header items :: entries clock items, newline ∉ line) ↔
      ∀ t ∈ items, Unbroken t := by
    rw [List.forall_mem_cons, newline_not_mem_entries clock issued]
    exact and_iff_right counted
  rw [renderTunnels_eq clock nonempty, ← unbroken]
  constructor
  · rintro ⟨lines, split, forall₂⟩
    refine (length_splitOn_intercalate (List.cons_ne_nil _ _)).1 ?_
    rw [split, List.length_cons, List.length_cons, forall₂.length_eq, length]
  · intro out
    exact ⟨entries clock items, List.splitOn_intercalate newline out (List.cons_ne_nil _ _),
      forall₂_entries clock items⟩

/-! ## Poles -/

/-- What `OpenLocal` lists for the first session of a new server, whose client says that the
connection comes from this host. -/
def openedFrom (username originatorHost : GoString) : Tunnel :=
  (newManager.openLocal (str "sess-000001") username (str "10.0.0.5:80")
    (GoNet.joinHostPort originatorHost (str "50000")) none 0).1.toTunnel

theorem issued_openedFrom (username originatorHost : GoString) :
    Issued (openedFrom username originatorHost) := by
  have session : str "sess-000001" = str "sess-" ++ zeroPadded 6 1 := by decide
  exact ⟨⟨1, rfl⟩, ⟨1, session⟩⟩

/-- Blanks and dashes in the fields do no harm. -/
theorem listing_of_two :
    Listed [openedFrom (str "kim") (str "10.9.9.9"), openedFrom (str "- id=x") (str "::1")]
      (renderTunnels (fun _ => 0)
        [openedFrom (str "kim") (str "10.9.9.9"), openedFrom (str "- id=x") (str "::1")]) := by
  refine (split_back_iff _ _ (by simp) ?_).2 ?_
  · intro t member
    rcases List.mem_pair.1 member with rfl | rfl
    · exact issued_openedFrom _ _
    · exact issued_openedFrom _ _
  · intro t member
    rcases List.mem_pair.1 member with rfl | rfl
    · exact ⟨by decide, by decide, by decide, by decide⟩
    · exact ⟨by decide, by decide, by decide, by decide⟩

/-- The host of a client, with a line of its own. -/
def forgedHost : GoString := str "10.9.9.9\n- id=tun-000777 username=admin"

/-- The listing of a tunnel from there. -/
def forgedListing : List GoString :=
  [str "active_tunnels=1",
    str "- id=tun-000001 direction=local session_id=sess-000001 username=kim bind= " ++
      str "target=10.0.0.5:80 origin=10.9.9.9",
    str "- id=tun-000777 username=admin:50000 started_at=0001-01-01T00:00:00Z uptime=0s"]

/-- One tunnel, and a listing with two entries. -/
theorem forged_entry :
    let items := [openedFrom (str "kim") forgedHost]
    (renderTunnels (fun _ => 0) items).splitOn newline = forgedListing ∧
      ¬ Listed items (renderTunnels (fun _ => 0) items) := by
  intro items
  have split : (renderTunnels (fun _ => 0) items).splitOn newline = forgedListing := by
    simp only [forgedListing, GoText.str_eq_bytes]
    decide +kernel
  refine ⟨split, ?_⟩
  rintro ⟨lines, split', forall₂⟩
  have length := congrArg List.length (split.symm.trans split')
  rw [List.length_cons, forall₂.length_eq] at length
  exact absurd length (by decide)

end SentinelOps.Commands
