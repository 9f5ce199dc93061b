/-
# Theory.GoMap — Go maps

A Go map is a finite map whose iteration order is chosen afresh by every `range`: the
statements quantify over the order instead of fixing one (`Iterates`).  The carrier is
Mathlib's `Finmap`, at a constant value type.
-/
import Mathlib.Data.Finmap

namespace SentinelOps.Theory

set_option autoImplicit false

/-- `map[K]V`. -/
abbrev GoMap (K V : Type*) := Finmap fun _ : K => V

namespace GoMap

variable {K V : Type*} [DecidableEq K]

/-- `m[k]` with its presence. -/
def get (m : GoMap K V) (k : K) : Option V := Finmap.lookup k m

/-- `m[k] = v`. -/
def set (m : GoMap K V) (k : K) (v : V) : GoMap K V := Finmap.insert k v m

/-- `delete(m, k)`. -/
def delete (m : GoMap K V) (k : K) : GoMap K V := Finmap.erase k m

omit [DecidableEq K] in
/-- `len(m)`. -/
def len (m : GoMap K V) : Nat := Multiset.card m.entries

/-- `items` lists the entries of `m`, each once, in some order. -/
def Iterates (m : GoMap K V) (items : List (K × V)) : Prop :=
  (items.map fun p => (⟨p.1, p.2⟩ : Σ _ : K, V) : Multiset (Σ _ : K, V)) = m.entries

instance [DecidableEq V] (m : GoMap K V) (items : List (K × V)) : Decidable (Iterates m items) :=
  inferInstanceAs (Decidable (_ = _))

@[simp] theorem get_empty (k : K) : get (∅ : GoMap K V) k = none := Finmap.lookup_empty k

theorem get_set (m : GoMap K V) (k k' : K) (v : V) :
    (m.set k v).get k' = if k' = k then some v else m.get k' := by
  split
  · rename_i same
    subst same
    exact Finmap.lookup_insert m
  · rename_i different
    exact Finmap.lookup_insert_of_ne m different

theorem get_delete (m : GoMap K V) (k k' : K) :
    (m.delete k).get k' = if k' = k then none else m.get k' := by
  split
  · rename_i same
    subst same
    exact Finmap.lookup_erase k' m
  · rename_i different
    exact Finmap.lookup_erase_ne different

/-! ## Changing every entry -/

omit [DecidableEq K] in
/-- What a `range` that deletes the entries failing `p` leaves. -/
def filter (m : GoMap K V) (p : K → V → Bool) : GoMap K V where
  entries := m.entries.filter fun e => p e.1 e.2
  nodupKeys :=
    Multiset.nodup_keys.1 <|
      Multiset.nodup_of_le (Multiset.map_le_map (Multiset.filter_le _ _))
        (Multiset.nodup_keys.2 m.nodupKeys)

omit [DecidableEq K] in
/-- What a `range` that replaces every value leaves. -/
def mapValues {W : Type*} (m : GoMap K V) (f : K → V → W) : GoMap K W where
  entries := m.entries.map fun e => ⟨e.1, f e.1 e.2⟩
  nodupKeys := by
    have same : (m.entries.map fun e => (⟨e.1, f e.1 e.2⟩ : Σ _ : K, W)).keys = m.entries.keys :=
      (Multiset.map_map ..).trans rfl
    rw [← Multiset.nodup_keys, same]
    exact Multiset.nodup_keys.2 m.nodupKeys

theorem get_eq_some_iff {m : GoMap K V} {k : K} {v : V} :
    m.get k = some v ↔ (⟨k, v⟩ : Σ _ : K, V) ∈ m.entries :=
  Finmap.lookup_eq_some_iff

theorem get_filter (m : GoMap K V) (p : K → V → Bool) (k : K) :
    (m.filter p).get k = (m.get k).filter (p k) := by
  ext v
  rw [get_eq_some_iff, Option.filter_eq_some_iff, get_eq_some_iff]
  exact Multiset.mem_filter

theorem get_mapValues {W : Type*} (m : GoMap K V) (f : K → V → W) (k : K) :
    (m.mapValues f).get k = (m.get k).map (f k) := by
  ext w
  rw [get_eq_some_iff, Option.map_eq_some_iff]
  simp only [get_eq_some_iff, mapValues, Multiset.mem_map]
  constructor
  · rintro ⟨⟨k', v⟩, member, same⟩
    cases same
    exact ⟨v, member, rfl⟩
  · rintro ⟨v, member, rfl⟩
    exact ⟨⟨k, v⟩, member, rfl⟩

/-! ## What every iteration has in common -/

namespace Iterates

variable {m : GoMap K V} {items : List (K × V)}

theorem mem_iff (iterates : m.Iterates items) (k : K) (v : V) :
    (k, v) ∈ items ↔ m.get k = some v := by
  rw [get_eq_some_iff, ← iterates]
  simp

omit [DecidableEq K] in
theorem nodup_keys (iterates : m.Iterates items) : (items.map Prod.fst).Nodup := by
  have distinct := m.nodupKeys
  rw [← iterates, Multiset.coe_nodupKeys, List.NodupKeys, List.keys, List.map_map] at distinct
  exact distinct

omit [DecidableEq K] in
theorem length_eq (iterates : m.Iterates items) : items.length = m.len := by
  rw [len, ← iterates]
  simp

end Iterates

omit [DecidableEq K] in
theorem exists_iterates (m : GoMap K V) : ∃ items, m.Iterates items := by
  obtain ⟨entries, same⟩ := Quot.exists_rep m.entries
  refine ⟨entries.map fun p => (p.1, p.2), ?_⟩
  rw [Iterates, List.map_map, ← same]
  exact congrArg _ (List.map_id _)

end GoMap

end SentinelOps.Theory
