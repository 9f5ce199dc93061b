/-
# Theory.Table — records stored under a key of their own

A table keeps each record under a key that the record carries, as a map from identifiers to
records and a relation with a primary key both do.  The agreement of the two is a field of
`Table`, so a record is never found under the key of another, and two rows are never the same
record.

`Lists` is one reading of the whole table, each record once, in an order of its own.
-/
import SentinelOps.Theory.GoMap

namespace SentinelOps.Theory

set_option autoImplicit false

/-- Records of type `V` by their `key`. -/
structure Table {K V : Type*} [DecidableEq K] (key : V → K) where
  rows : GoMap K V
  keyed : ∀ k v, rows.get k = some v → key v = k

namespace Table

variable {K V : Type*} [DecidableEq K] {key : V → K}

def empty : Table key where
  rows := ∅
  keyed := fun k v found => by rw [GoMap.get_empty] at found; cases found

def get (t : Table key) (k : K) : Option V := t.rows.get k

/-- Store a record, in the place of the one that has its key. -/
def put (t : Table key) (v : V) : Table key where
  rows := t.rows.set (key v) v
  keyed := by
    intro k w found
    rw [GoMap.get_set] at found
    split at found
    · cases found
      exact Eq.symm ‹_›
    · exact t.keyed k w found

def remove (t : Table key) (k : K) : Table key where
  rows := t.rows.delete k
  keyed := by
    intro k' w found
    rw [GoMap.get_delete] at found
    split at found
    · cases found
    · exact t.keyed k' w found

/-- The records that meet `p`. -/
def keep (t : Table key) (p : V → Bool) : Table key where
  rows := t.rows.filter fun _ v => p v
  keyed := by
    intro k w found
    rw [GoMap.get_filter, Option.filter_eq_some_iff] at found
    exact t.keyed k w found.1

/-- Change every record by `f`, which leaves the key alone. -/
def amend (t : Table key) (f : V → V) (same : ∀ v, key (f v) = key v) : Table key where
  rows := t.rows.mapValues fun _ v => f v
  keyed := by
    intro k w found
    rw [GoMap.get_mapValues, Option.map_eq_some_iff] at found
    obtain ⟨v, found, rfl⟩ := found
    exact (same v).trans (t.keyed k v found)

theorem key_of_get {t : Table key} {k : K} {v : V} (found : t.get k = some v) : key v = k :=
  t.keyed k v found

/-- A table is what is found in it. -/
theorem ext_get {t t' : Table key} (same : ∀ k, t.get k = t'.get k) : t = t' := by
  have rows : t.rows = t'.rows := Finmap.ext_lookup same
  cases t
  cases t'
  cases rows
  rfl

theorem get_put (t : Table key) (v : V) (k : K) :
    (t.put v).get k = if k = key v then some v else t.get k :=
  GoMap.get_set ..

@[simp] theorem get_put_self (t : Table key) (v : V) : (t.put v).get (key v) = some v := by
  rw [get_put, if_pos rfl]

theorem get_remove (t : Table key) (k k' : K) :
    (t.remove k).get k' = if k' = k then none else t.get k' :=
  GoMap.get_delete ..

@[simp] theorem get_keep (t : Table key) (p : V → Bool) (k : K) :
    (t.keep p).get k = (t.get k).filter p :=
  GoMap.get_filter ..

@[simp] theorem get_amend (t : Table key) (f : V → V) (same : ∀ v, key (f v) = key v) (k : K) :
    (t.amend f same).get k = (t.get k).map f :=
  GoMap.get_mapValues ..

/-! ## Reading the whole table -/

/-- `items` are the records of the table, each once, in some order. -/
def Lists (t : Table key) (items : List V) : Prop :=
  t.rows.Iterates (items.map fun v => (key v, v))

instance [DecidableEq V] (t : Table key) (items : List V) : Decidable (Lists t items) :=
  inferInstanceAs (Decidable (t.rows.Iterates _))

namespace Lists

variable {t : Table key} {items : List V}

theorem mem_iff (lists : t.Lists items) (v : V) : v ∈ items ↔ t.get (key v) = some v := by
  have read := GoMap.Iterates.mem_iff lists (key v) v
  rw [get, ← read]
  constructor
  · exact fun member => List.mem_map.2 ⟨v, member, rfl⟩
  · intro member
    obtain ⟨w, listed, same⟩ := List.mem_map.1 member
    obtain rfl : w = v := congrArg Prod.snd same
    exact listed

theorem nodup_keys (lists : t.Lists items) : (items.map key).Nodup := by
  have distinct := GoMap.Iterates.nodup_keys lists
  rwa [List.map_map] at distinct

theorem nodup (lists : t.Lists items) : items.Nodup := lists.nodup_keys.of_map

theorem perm (lists : t.Lists items) {items' : List V} (lists' : t.Lists items') :
    items.Perm items' := by
  refine (List.perm_ext_iff_of_nodup lists.nodup lists'.nodup).2 fun v => ?_
  rw [lists.mem_iff, lists'.mem_iff]

theorem of_perm (lists : t.Lists items) {items' : List V} (perm : items'.Perm items) :
    t.Lists items' := by
  have same := Multiset.coe_eq_coe.2 ((perm.map fun v => (key v, v)).map
    fun p => (⟨p.1, p.2⟩ : Σ _ : K, V))
  exact same.trans lists

/-- The records of a listing that meet `p` list the records of the table that do. -/
theorem keep (lists : t.Lists items) (p : V → Bool) : (t.keep p).Lists (items.filter p) := by
  show _ = Multiset.filter _ t.rows.entries
  rw [← show _ = t.rows.entries from lists, Multiset.filter_coe, List.map_map, List.map_map,
    List.filter_map]
  congr 2
  exact List.filter_congr fun v _ => (Bool.decide_eq_true (b := p v)).symm

theorem amend (lists : t.Lists items) (f : V → V) (same : ∀ v, key (f v) = key v) :
    (t.amend f same).Lists (items.map f) := by
  show _ = Multiset.map _ t.rows.entries
  rw [← show _ = t.rows.entries from lists, Multiset.map_coe]
  simp only [List.map_map, Function.comp_def, same]

/-- A reading of the records that meet `p` is one of those that meet `q` exactly when the two
agree on the table. -/
theorem perm_filter_iff (lists : t.Lists items) {listed : List V} {p : V → Bool}
    (nodup : listed.Nodup) (read : ∀ v, v ∈ listed ↔ t.get (key v) = some v ∧ p v = true)
    (q : V → Bool) :
    listed.Perm (items.filter q) ↔ ∀ k v, t.get k = some v → p v = q v := by
  rw [List.perm_ext_iff_of_nodup nodup (lists.nodup.filter q)]
  simp only [read, List.mem_filter, lists.mem_iff, and_congr_right_iff, ← Bool.eq_iff_iff]
  constructor
  · intro agree k v found
    have same := key_of_get found
    exact agree v (same ▸ found)
  · exact fun agree v found => agree (key v) v found

end Lists

/-- The records of the keys that an index lists for `q`, as far as they meet `p`. -/
theorem read_index (t : Table key) {order : List K} {q : V → Bool} (nodup : order.Nodup)
    (index : ∀ k, k ∈ order ↔ ∃ v, t.get k = some v ∧ q v = true) (p : V → Bool) :
    ((order.filterMap t.get).filter p).Nodup ∧
      ∀ v, v ∈ (order.filterMap t.get).filter p ↔
        t.get (key v) = some v ∧ (q v && p v) = true := by
  constructor
  · refine (nodup.filterMap fun k k' v found found' => ?_).filter p
    exact (key_of_get found).symm.trans (key_of_get found')
  · intro v
    rw [List.mem_filter, List.mem_filterMap, Bool.and_eq_true, ← and_assoc]
    refine and_congr_left' ⟨?_, ?_⟩
    · rintro ⟨k, listed, found⟩
      obtain ⟨w, found', meets⟩ := (index k).1 listed
      cases found.symm.trans found'
      exact ⟨key_of_get found ▸ found, meets⟩
    · rintro ⟨found, meets⟩
      exact ⟨key v, (index _).2 ⟨v, found, meets⟩, found⟩

/-- How many records meet `p`. -/
def count (t : Table key) (p : V → Bool) : Nat := (t.keep p).rows.len

theorem Lists.length_filter {t : Table key} {items : List V} (lists : t.Lists items)
    (p : V → Bool) : (items.filter p).length = t.count p := by
  rw [count, ← GoMap.Iterates.length_eq (lists.keep p), List.length_map]

theorem exists_lists (t : Table key) : ∃ items, t.Lists items := by
  obtain ⟨entries, iterates⟩ := t.rows.exists_iterates
  refine ⟨entries.map Prod.snd, ?_⟩
  have same : (entries.map Prod.snd).map (fun v => (key v, v)) = entries := by
    rw [List.map_map]
    conv_rhs => rw [← List.map_id entries]
    refine List.map_congr_left fun p member => ?_
    exact Prod.ext (t.keyed p.1 p.2 ((iterates.mem_iff p.1 p.2).1 member)) rfl
  rw [Lists, same]
  exact iterates

end Table

end SentinelOps.Theory
