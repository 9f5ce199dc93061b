/-
# Forwarding.AllowList — an allow list admits the pairs it was written from

An allow list is configured as text: addresses as `JoinHostPort` writes them, separated by
commas, with white space around them and empty items between them.  `AllowItem` is one item of
such a text.

`allow_exact` says what a policy makes of it: in each direction, a request is admitted exactly
when the direction is enabled, the role is among the configured ones, and one of the pairs that
were written has the requested port and, but for white space around it and the case of its
letters, the requested host.  Nothing else gets through, because an address can be split again
into its host and its port (`address_eq_iff`).
-/
import SentinelOps.Forwarding.Policy

namespace SentinelOps.Forwarding

open Theory GoNet GoText

set_option autoImplicit false

def comma : UInt8 := 0x2C

/-- An item of an allow list: white space, or an address with white space around it. -/
inductive AllowItem where
  | blank (text : GoString)
  | pair (before host : GoString) (port : Nat) (after : GoString)

namespace AllowItem

def render : AllowItem → GoString
  | blank text => text
  | pair before host port after => before ++ joinHostPort host (decimal port) ++ after

/-- White space is white space, and the host is trimmed and has no comma. -/
def WellFormed : AllowItem → Prop
  | blank text => Blank text
  | pair before host _ after => Blank before ∧ Blank after ∧ trimSpace host = host ∧ comma ∉ host

instance (item : AllowItem) : Decidable item.WellFormed :=
  match item with
  | blank text => inferInstanceAs (Decidable (Blank text))
  | pair _ _ _ _ => inferInstanceAs (Decidable (_ ∧ _))

def pair? : AllowItem → Option (GoString × Nat)
  | blank _ => none
  | pair _ host port _ => some (host, port)

end AllowItem

/-- The text of an allow list. -/
def renderList (items : List AllowItem) : GoString :=
  [comma].intercalate (items.map AllowItem.render)

/-- The pairs an allow list was written from. -/
def listed (items : List AllowItem) : List (GoString × Nat) := items.filterMap AllowItem.pair?

/-- The list of roles has no item but white space, or one of its items is the role. -/
def RoleListed (csv role : GoString) : Prop :=
  (∀ item ∈ csv.splitOn comma, Blank item) ∨
    ∃ item ∈ csv.splitOn comma, ¬ Blank item ∧ normalize item = normalize role

/-! ## Addresses -/

section Addresses

theorem mark_of_mem_decimal {n : Nat} {b : UInt8} (member : b ∈ decimal n) : Mark b := by
  have digit := digit_of_mem_zeroPadded member
  grind [Mark]

theorem colon_not_mem_decimal (n : Nat) : colon ∉ decimal n := by
  intro member
  have digit := digit_of_mem_zeroPadded member
  exact absurd digit (by decide)

/-- The address of a pair, as a policy holds it. -/
def address (host : GoString) (port : Nat) : GoString := toLower (joinHostPort host (decimal port))

/-- **Two addresses are the same text exactly when they are the same pair**, up to the case of
the host. -/
theorem address_eq_iff (host host' : GoString) (port port' : Nat) :
    address host port = address host' port' ↔ toLower host = toLower host' ∧ port = port' := by
  unfold address
  rw [toLower_joinHostPort host fun b => mark_of_mem_decimal,
    toLower_joinHostPort host' fun b => mark_of_mem_decimal]
  constructor
  · intro same
    obtain ⟨hosts, ports⟩ :=
      joinHostPort_inj (colon_not_mem_decimal port) (colon_not_mem_decimal port') same
    exact ⟨hosts, zeroPadded_injective 1 ports⟩
  · rintro ⟨hosts, rfl⟩
    rw [hosts]

end Addresses

/-! ## Items -/

theorem normalize_eq_nil_iff (item : GoString) : normalize item = [] ↔ Blank item := by
  rw [normalize, toLower_eq_nil_iff, blank_iff]

theorem mem_parseCSVSet_iff {csv target : GoString} :
    target ∈ parseCSVSet csv ↔
      ∃ item ∈ csv.splitOn comma, ¬ Blank item ∧ normalize item = target := by
  unfold parseCSVSet
  rw [List.mem_filter, List.mem_map, decide_eq_true_eq]
  constructor
  · rintro ⟨⟨item, member, rfl⟩, some_⟩
    exact ⟨item, member, fun blank => some_ ((normalize_eq_nil_iff item).2 blank), rfl⟩
  · rintro ⟨item, member, solid, rfl⟩
    exact ⟨⟨item, member, rfl⟩, fun none_ => solid ((normalize_eq_nil_iff item).1 none_)⟩

theorem parseCSVSet_eq_nil_iff (csv : GoString) :
    parseCSVSet csv = [] ↔ ∀ item ∈ csv.splitOn comma, Blank item := by
  rw [List.eq_nil_iff_forall_not_mem]
  constructor
  · intro none_ item member
    by_contra solid
    exact none_ _ (mem_parseCSVSet_iff.2 ⟨item, member, solid, rfl⟩)
  · intro blank target member
    obtain ⟨item, member, solid, -⟩ := mem_parseCSVSet_iff.1 member
    exact solid (blank item member)

namespace AllowItem

variable {item : AllowItem}

theorem comma_not_mem_address {host : GoString} (noComma : comma ∉ host) (port : Nat) :
    comma ∉ joinHostPort host (decimal port) := by
  have digits : comma ∉ decimal port := by
    intro member
    have digit := digit_of_mem_zeroPadded member
    exact absurd digit (by decide)
  have front : comma ∉ bracketed host := by
    unfold bracketed
    split
    · simpa [noComma] using (by decide : comma ≠ openBracket ∧ comma ≠ closeBracket)
    · exact noComma
  rw [joinHostPort_eq, List.mem_append, List.mem_cons]
  rintro (member | same | member)
  · exact front member
  · exact absurd same (by decide)
  · exact digits member

theorem comma_not_mem_render (wellFormed : item.WellFormed) : comma ∉ item.render := by
  have solid : isSpace comma.toNat = false := by decide
  cases item with
  | blank text => exact Blank.not_mem wellFormed (by decide) solid
  | pair before host port after =>
      obtain ⟨blank, blank', -, noComma⟩ := wellFormed
      unfold render
      rw [List.mem_append, List.mem_append]
      rintro ((member | member) | member)
      · exact blank.not_mem (by decide) solid member
      · exact comma_not_mem_address noComma port member
      · exact blank'.not_mem (by decide) solid member

/-- What is left of an item. -/
theorem normalize_render (wellFormed : item.WellFormed) :
    normalize item.render = (item.pair?.map fun pair => address pair.1 pair.2).getD [] := by
  cases item with
  | blank text => exact (normalize_eq_nil_iff text).2 wellFormed
  | pair before host port after =>
      obtain ⟨blank, blank', trimmed, -⟩ := wellFormed
      show toLower (trimSpace (before ++ _ ++ after)) = address host port
      rw [trimSpace_surrounded blank blank',
        trimSpace_joinHostPort trimmed (decimal_ne_nil port) fun b => digit_of_mem_zeroPadded]
      rfl

end AllowItem

theorem address_ne_nil (host : GoString) (port : Nat) : address host port ≠ [] := by
  rw [address, ne_eq, toLower_eq_nil_iff, joinHostPort_eq]
  simp

/-- An allow list of no items reads as one empty item. -/
theorem mem_splitOn_renderList {items : List AllowItem}
    (wellFormed : ∀ item ∈ items, item.WellFormed) {text : GoString} :
    text ∈ (renderList items).splitOn comma ↔
      (∃ item ∈ items, item.render = text) ∨ (items = [] ∧ text = []) := by
  cases items with
  | nil =>
      show text ∈ [[]] ↔ _
      simp
  | cons item items =>
      have split : (renderList (item :: items)).splitOn comma =
          (item :: items).map AllowItem.render := by
        refine List.splitOn_intercalate comma ?_ (by simp)
        intro text member
        obtain ⟨item', listed, rfl⟩ := List.mem_map.1 member
        exact AllowItem.comma_not_mem_render (wellFormed item' listed)
      rw [split, List.mem_map]
      simp only [reduceCtorEq, false_and, or_false]

/-- The set that is read from an allow list: the addresses of its pairs. -/
theorem mem_parseCSVSet_renderList {items : List AllowItem}
    (wellFormed : ∀ item ∈ items, item.WellFormed) {target : GoString} :
    target ∈ parseCSVSet (renderList items) ↔
      ∃ pair ∈ listed items, address pair.1 pair.2 = target := by
  rw [mem_parseCSVSet_iff]
  constructor
  · rintro ⟨text, member, solid, rfl⟩
    rcases (mem_splitOn_renderList wellFormed).1 member with ⟨item, inside, rfl⟩ | ⟨-, rfl⟩
    · rw [AllowItem.normalize_render (wellFormed item inside)]
      cases item with
      | blank text => exact absurd (wellFormed _ inside) solid
      | pair before host port after =>
          exact ⟨(host, port), List.mem_filterMap.2 ⟨_, inside, rfl⟩, rfl⟩
    · exact absurd ((blank_iff []).2 rfl) solid
  · rintro ⟨pair, member, rfl⟩
    obtain ⟨item, inside, shown⟩ := List.mem_filterMap.1 member
    have left := AllowItem.normalize_render (wellFormed item inside)
    rw [shown] at left
    refine ⟨item.render, (mem_splitOn_renderList wellFormed).2 (.inl ⟨item, inside, rfl⟩), ?_, left⟩
    rw [← normalize_eq_nil_iff, left]
    exact address_ne_nil pair.1 pair.2

/-! ## One direction -/

theorem normalizeTarget_eq (host : GoString) (port : UInt32) :
    normalizeTarget host port = address (trimSpace host) port.toNat := rfl

theorem admits_iff {enabled : Bool} {roles : GoString} {items : List AllowItem}
    (wellFormed : ∀ item ∈ items, item.WellFormed) (role host : GoString) (port : UInt32) :
    admits enabled (parseCSVSet roles) (parseCSVSet (renderList items)) role host port = true ↔
      enabled = true ∧ RoleListed roles role ∧
        ∃ pair ∈ listed items, pair.2 = port.toNat ∧
          toLower pair.1 = toLower (trimSpace host) := by
  have role_iff :
      ((parseCSVSet roles).isEmpty || decide (normalize role ∈ parseCSVSet roles)) = true ↔
        RoleListed roles role := by
    rw [Bool.or_eq_true, decide_eq_true_eq, List.isEmpty_iff, parseCSVSet_eq_nil_iff,
      mem_parseCSVSet_iff, RoleListed]
  unfold admits
  rw [Bool.and_eq_true, Bool.and_eq_true, role_iff, decide_eq_true_eq,
    mem_parseCSVSet_renderList wellFormed, and_assoc]
  refine and_congr_right fun _ => and_congr_right fun _ => exists_congr fun pair =>
    and_congr_right fun _ => ?_
  rw [normalizeTarget_eq, address_eq_iff, and_comm]

/-! ## Both directions -/

/-- **A policy admits exactly what was listed.** -/
theorem allow_exact (localEnabled remoteEnabled : Bool) (locals remotes : List AllowItem)
    (wellFormed : ∀ item ∈ locals, item.WellFormed)
    (wellFormed' : ∀ item ∈ remotes, item.WellFormed) (localRoles remoteRoles role host : GoString)
    (port : UInt32) :
    let policy := newPolicy localEnabled (renderList locals) localRoles remoteEnabled
      (renderList remotes) remoteRoles
    (policy.allowLocalTarget role host port = true ↔
      localEnabled = true ∧ RoleListed localRoles role ∧
        ∃ pair ∈ listed locals, pair.2 = port.toNat ∧
          toLower pair.1 = toLower (trimSpace host)) ∧
    (policy.allowRemoteBind role host port = true ↔
      remoteEnabled = true ∧ RoleListed remoteRoles role ∧
        ∃ pair ∈ listed remotes, pair.2 = port.toNat ∧
          toLower pair.1 = toLower (trimSpace host)) :=
  ⟨admits_iff wellFormed role host port, admits_iff wellFormed' role host port⟩

/-- An IPv6 address in capitals and an empty item. -/
def sampleItems : List AllowItem :=
  [.pair (str " ") (str "FE80::1") 22 [], .blank (str " "), .pair [] (str "db") 5432 (str "\t")]

/-- The listed address is admitted in lower case, and another port of it is not. -/
theorem allow_exact_listed :
    let policy := newPolicy true (renderList sampleItems) (str "Admin, ") false [] []
    policy.allowLocalTarget (str "ADMIN") (str " fe80::1") 22 = true ∧
      policy.allowLocalTarget (str "admin") (str "fe80::1") 5432 = false := by
  intro policy
  have wellFormed : ∀ item ∈ sampleItems, item.WellFormed := by decide
  have role : RoleListed (str "Admin, ") (str "ADMIN") :=
    .inr ⟨str "Admin", by decide, by decide, by decide⟩
  have exact_ (role host port) := (allow_exact true false sampleItems [] wellFormed
    (fun item none_ => by cases none_) (str "Admin, ") [] role host port).1
  refine ⟨(exact_ _ _ _).2 ⟨rfl, role, (str "FE80::1", 22), by decide, rfl,
    by decide⟩, ?_⟩
  refine Bool.eq_false_iff.2 fun admitted => ?_
  obtain ⟨-, -, found⟩ := (exact_ _ _ _).1 admitted
  exact absurd found (by decide)

end SentinelOps.Forwarding
