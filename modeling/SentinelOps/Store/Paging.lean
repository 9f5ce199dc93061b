/-
# Store.Paging — reading a listing page by page

`ListSessions` and `ListTunnels` of the in-memory store walk a map, in an order that is new on
every call, and cut a window out of what they find.  A caller who reads page after page, `n`
records at a time, cuts each page out of another order.

`Paged` is what the caller collects, and `paged_once_iff` says when that is every matching record
once, whatever the orders are: only when the first page already holds them all.
-/
import SentinelOps.Store.MemoryRecords
import SentinelOps.Store.Windows

namespace SentinelOps.Store

open Theory GoText

set_option autoImplicit false

/-! ## Page after page -/

section Pages

variable {α : Type}

/-- What a caller collects who asks for page `k`, `k + 1`, … until one is empty. -/
inductive Paged (page : Nat → Option (List α)) : Nat → List α → Prop where
  | stop {k : Nat} (empty : page k = some []) : Paged page k []
  | more {k : Nat} {xs rest : List α} (here : page k = some xs) (some_ : xs ≠ [])
      (later : Paged page (k + 1) rest) : Paged page k (xs ++ rest)

/-- The pages of size `n`, call `k` finding the records in the order `found k`. -/
def pageOf (found : Nat → List α) (n : Int64) (k : Nat) : Option (List α) :=
  applyWindow (found k) n (Int64.ofNat k * n)

variable {found : Nat → List α} {n : Int64} {items : List α}

/-- All records on the first page: the second is empty, and the caller stops. -/
theorem paged_of_le (perm : ∀ k, (found k).Perm items) (positive : 0 < n.toInt)
    (few : (items.length : Int) ≤ n.toInt) : Paged (pageOf found n) 0 (found 0) := by
  have size : ∀ k, (found k).length = items.length := fun k => (perm k).length_eq
  by_cases none_ : found 0 = []
  · rw [none_]
    refine .stop ?_
    rw [pageOf, none_]
    exact window_of_le (by simp)
  · have nonempty : 0 < (found 0).length := List.length_pos_of_ne_nil none_
    have first : pageOf found n 0 = some (found 0) := by
      have zero : Int64.ofNat 0 * n = 0 := by simp
      have top := n.toInt_le
      rw [pageOf, zero, window_of_lt positive (by simp) (by simpa using nonempty),
        Int64.toInt_zero, zero_add, if_pos top, Int.toNat_zero, List.drop_zero,
        List.take_of_length_le (by rw [size]; omega)]
    have last : pageOf found n 1 = some [] := by
      have one : Int64.ofNat 1 * n = n := by simp
      rw [pageOf, one]
      exact window_of_le (by rw [size]; exact few)
    have collected := Paged.more first none_ (.stop last)
    rwa [List.append_nil] at collected

/-- If the second order has at place `n` the record that the first one starts with, the caller
gets that record twice. -/
theorem not_paged_once {x : α} {rest front back : List α} (first : found 0 = x :: rest)
    (second : found 1 = front ++ x :: back) (place : (front.length : Int) = n.toInt)
    (positive : 0 < n.toInt) (longer : n.toInt < (found 0).length) {out : List α}
    (paged : Paged (pageOf found n) 0 out) : ¬ out.Nodup := by
  have zero : Int64.ofNat 0 * n = 0 := by simp
  have one : Int64.ofNat 1 * n = n := by simp
  have top := n.toInt_le
  have page0 : pageOf found n 0 = some ((x :: rest).take n.toInt.toNat) := by
    rw [pageOf, zero, window_of_lt positive (by simp) (by simp; omega), Int64.toInt_zero, zero_add,
      if_pos top, first]
    rfl
  have page1 : ∀ ys, pageOf found n 1 = some ys → x ∈ ys := by
    intro ys here
    have inside : n.toInt < (found 1).length := by
      rw [second, List.length_append, List.length_cons]
      omega
    rw [pageOf, one, window_of_lt positive positive.le inside] at here
    obtain ⟨-, here⟩ := Option.ite_none_right_eq_some.1 here
    cases here
    have start : n.toInt.toNat = front.length := by omega
    obtain ⟨p, size⟩ : ∃ p, n.toInt.toNat = p + 1 := ⟨n.toInt.toNat - 1, by omega⟩
    rw [second, List.drop_append_of_le_length (by omega), start, List.drop_length,
      List.nil_append, ← start, size, List.take_succ_cons]
    exact List.mem_cons_self
  have onFirst : x ∈ (x :: rest).take n.toInt.toNat := by
    obtain ⟨p, size⟩ : ∃ p, n.toInt.toNat = p + 1 := ⟨n.toInt.toNat - 1, by omega⟩
    rw [size, List.take_succ_cons]
    exact List.mem_cons_self
  cases paged with
  | stop empty =>
      rw [page0] at empty
      rw [Option.some.inj empty] at onFirst
      cases onFirst
  | @more _ xs tail here some_ later =>
      rw [page0] at here
      have shown := Option.some.inj here
      subst shown
      have onSecond : x ∈ tail := by
        cases later with
        | stop empty => exact absurd (page1 _ empty) List.not_mem_nil
        | more here' some' later' => exact List.mem_append_left _ (page1 _ here')
      exact fun nodup => List.disjoint_of_nodup_append nodup onFirst onSecond

end Pages

/-! ## Pages of a table -/

section Tables

variable {V : Type} {key : V → GoString} {t : Table key} {p : V → Bool}

/-- Any order of the matching records is the order in which some iteration meets them. -/
theorem exists_order {items found : List V} (lists : t.Lists items)
    (perm : found.Perm (items.filter p)) : ∃ order, t.Lists order ∧ order.filter p = found := by
  refine ⟨found ++ items.filter fun v => !p v, lists.of_perm ?_, ?_⟩
  · exact (perm.append_right _).trans (List.filter_append_perm p items)
  · have matching : found.filter p = found :=
      List.filter_eq_self.2 fun v member => (List.mem_filter.1 (perm.mem_iff.1 member)).2
    have others : (items.filter fun v => !p v).filter p = [] := by
      rw [List.filter_filter, List.filter_eq_nil_iff]
      simp
    rw [List.filter_append, matching, others, List.append_nil]

/-- The pages of a table list every matching record once, whatever the orders, exactly when
one page holds them all. -/
theorem paged_once_iff (t : Table key) (p : V → Bool) {n : Int64} (positive : 0 < n.toInt) :
    (∀ orders : Nat → List V, (∀ k, t.Lists (orders k)) →
        ∃ out, Paged (pageOf (fun k => (orders k).filter p) n) 0 out ∧ (t.keep p).Lists out) ↔
      (t.count p : Int) ≤ n.toInt := by
  obtain ⟨items, lists⟩ := t.exists_lists
  rw [← lists.length_filter p]
  constructor
  · intro once
    by_contra many
    obtain ⟨x, rest, split⟩ : ∃ x rest, items.filter p = x :: rest :=
      List.exists_cons_of_ne_nil fun none_ => by simp [none_] at many; omega
    have size : n.toInt < (x :: rest).length := by
      rw [← split]
      omega
    -- The second call meets the first record behind `n` others.
    have moved : (rest.take n.toInt.toNat ++ x :: rest.drop n.toInt.toNat).Perm
        (items.filter p) := by
      rw [split]
      refine List.perm_middle.trans ?_
      rw [List.take_append_drop]
    obtain ⟨order, lists', met⟩ := exists_order lists moved
    obtain ⟨out, paged, listed⟩ := once (fun k => if k = 0 then items else order) fun k => by
      split
      · exact lists
      · exact lists'
    refine not_paged_once (x := x) split met ?_ positive ?_ paged listed.nodup
    · rw [List.length_take]
      rw [List.length_cons] at size
      omega
    · rw [if_pos rfl, split]
      exact size
  · intro few orders listed
    have perm : ∀ k, ((orders k).filter p).Perm (items.filter p) := fun k =>
      ((listed k).perm lists).filter p
    exact ⟨(orders 0).filter p, paged_of_le perm positive few, (listed 0).keep p⟩

end Tables

/-! ## Sessions and tunnels -/

namespace MemoryRecords

/-- **When page after page yields every matching record once.**  With a fresh order on every
call, the pages of size `n` are right for every choice of orders exactly when at most `n`
records match, so that the first page is the whole answer. -/
theorem pages_complete_iff (m : MemoryRecords) (n : Int64) (positive : 0 < n) :
    (∀ filter : SessionFilter,
      (∀ orders : Nat → List Session, (∀ k, m.sessions.Lists (orders k)) →
        ∃ out, Paged (fun k => listSessions
            { filter with limit := n, offset := Int64.ofNat k * n } (orders k)) 0 out ∧
          (m.sessions.keep filter.accepts).Lists out) ↔
        (m.sessions.count filter.accepts : Int) ≤ n.toInt) ∧
    (∀ filter : TunnelFilter,
      (∀ orders : Nat → List Tunnel, (∀ k, m.tunnels.Lists (orders k)) →
        ∃ out, Paged (fun k => listTunnels
            { filter with limit := n, offset := Int64.ofNat k * n } (orders k)) 0 out ∧
          (m.tunnels.keep filter.accepts).Lists out) ↔
        (m.tunnels.count filter.accepts : Int) ≤ n.toInt) := by
  have above : 0 < n.toInt := by
    rwa [Int64.lt_iff_toInt_lt, Int64.toInt_zero] at positive
  exact ⟨fun filter => paged_once_iff m.sessions filter.accepts above,
    fun filter => paged_once_iff m.tunnels filter.accepts above⟩

/-- Two sessions of one user. -/
def twoSessions : MemoryRecords :=
  { newMemoryRecords with
    sessions := (Table.empty.put sampleSession).put { sampleSession with id := str "s2" } }

/-- With a page for both sessions, the pages are right in every order. -/
theorem pages_complete_two :
    let filter : SessionFilter := { username := str "ana" }
    ∀ orders : Nat → List Session, (∀ k, twoSessions.sessions.Lists (orders k)) →
      ∃ out, Paged (fun k => listSessions
          { filter with limit := 2, offset := Int64.ofNat k * 2 } (orders k)) 0 out ∧
        (twoSessions.sessions.keep filter.accepts).Lists out := by
  intro filter
  exact ((pages_complete_iff twoSessions 2 (by decide)).1 filter).2 (by decide)

/-- One session a page, and the map iterated the other way round on every second call: the
caller gets the first session twice and the second one never. -/
theorem pages_repeat :
    let second : Session := { sampleSession with id := str "s2" }
    let orders := fun k => if k % 2 = 0 then [sampleSession, second] else [second, sampleSession]
    (∀ k, twoSessions.sessions.Lists (orders k)) ∧
      Paged (fun k => listSessions { limit := 1, offset := Int64.ofNat k * 1 } (orders k)) 0
        [sampleSession, sampleSession] := by
  intro second orders
  refine ⟨fun k => ?_, ?_⟩
  · have both : twoSessions.sessions.Lists [sampleSession, second] ∧
        twoSessions.sessions.Lists [second, sampleSession] := by decide
    show twoSessions.sessions.Lists (if k % 2 = 0 then _ else _)
    split
    · exact both.1
    · exact both.2
  · have first : listSessions { limit := 1, offset := Int64.ofNat 0 * 1 } (orders 0) =
        some [sampleSession] := by decide
    have next : listSessions { limit := 1, offset := Int64.ofNat 1 * 1 } (orders 1) =
        some [sampleSession] := by decide
    have last : listSessions { limit := 1, offset := Int64.ofNat 2 * 1 } (orders 2) = some [] := by
      decide
    have some_ : [sampleSession] ≠ [] := List.cons_ne_nil _ _
    exact Paged.more first some_ (.more next some_ (.stop last))

end MemoryRecords

end SentinelOps.Store
