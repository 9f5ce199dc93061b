/-
# Policy.Findings — what becomes of the elements of a rule set

A rule of OPA that lists findings may produce a set of texts, of objects, of anything.
`normalizeOPAValue` keeps the strings of an array and the keys of an object, so an object in an
array is no finding to it.  `findings_kept_iff` says for which values every element is kept, and
what a call that read the value for `deny` then reports.

Poles: `strings_fail` and `objects_pass` (one finding in the deny set, as a text and as an object).
-/
import SentinelOps.Policy.Service

namespace SentinelOps.Policy

open Theory
open GoText (GoString str)

set_option autoImplicit false

/-- How many elements an array or an object has. -/
def elementCount : Json → Option Nat
  | .arr items => some items.length
  | .obj fields => some (fields.map Prod.fst).dedup.length
  | _ => none

def HasElements (value : Json) : Prop := ∃ n, elementCount value = some (n + 1)

/-- No element is lost: nothing is left only of a value without elements, and an entry is left of
every element. -/
structure Lossless (value : Json) : Prop where
  empty : normalizeOPAValue value = [] → value = .null ∨ EmptyCollection value
  entries : ∀ n, elementCount value = some n → (normalizeOPAValue value).length = n

/-- Nothing but strings in the array, if it is one. -/
def StringsOnly : Json → Prop
  | .arr items => ∀ item ∈ items, (asString item).isSome
  | _ => True

/-! ## One value -/

theorem length_sortStrings (items : List GoString) : (sortStrings items).length = items.length :=
  List.length_insertionSort _ items

/-- An array leaves as many entries as it has elements exactly when they are strings. -/
theorem length_normalizeOPAValue_arr (items : List Json) :
    (normalizeOPAValue (.arr items)).length = items.length ↔ StringsOnly (.arr items) := by
  rw [normalizeOPAValue, length_sortStrings, List.filterMap_length_eq_length]
  rfl

theorem length_normalizeOPAValue_obj (fields : List (GoString × Json)) :
    (normalizeOPAValue (.obj fields)).length = (fields.map Prod.fst).dedup.length :=
  length_sortStrings _

/-- A value without elements that is reported loses none. -/
theorem lossless_of_scalar {value : Json} (uncounted : elementCount value = none)
    (reported : normalizeOPAValue value ≠ []) : Lossless value := by
  refine ⟨fun none => absurd none reported, fun n count => ?_⟩
  rw [uncounted] at count
  cases count

theorem lossless_iff (value : Json) : Lossless value ↔ StringsOnly value := by
  constructor
  · intro lossless
    cases value with
    | arr items => exact (length_normalizeOPAValue_arr items).1 (lossless.entries _ rfl)
    | _ => trivial
  · intro strings
    cases value with
    | null =>
        refine ⟨fun _ => .inl rfl, fun n count => ?_⟩
        cases count
    | bool value => exact lossless_of_scalar rfl (List.cons_ne_nil _ _)
    | num printed => exact lossless_of_scalar rfl (List.cons_ne_nil _ _)
    | str text => exact lossless_of_scalar rfl (List.cons_ne_nil _ _)
    | arr items =>
        have length := (length_normalizeOPAValue_arr items).2 strings
        refine ⟨fun none => .inr ?_, fun n count => length.trans (Option.some.inj count)⟩
        rw [none, List.length_nil] at length
        exact List.length_eq_zero_iff.1 length.symm
    | obj fields =>
        refine ⟨fun none => .inr ((normalizeOPAValue_eq_nil_iff _).1 none), fun n count => ?_⟩
        exact (length_normalizeOPAValue_obj fields).trans (Option.some.inj count)

/-! ## The call that reads it -/

theorem report_fail_iff {profile : GoString} {timestamp : GoTime.Time}
    {outcome : Except GoString Decision} :
    (report profile timestamp outcome).status = .fail ↔
      ∃ decision, outcome = .ok decision ∧ decision.denies ≠ [] := by
  cases outcome with
  | error err => simp [report]
  | ok decision =>
      simp only [report, Except.ok.injEq, exists_eq_left']
      by_cases denied : decision.denies = []
      · by_cases warned : decision.warnings = []
        · simp [denied, warned]
        · simp [denied, warned]
      · simp [denied]

/-- A call that read a value for `deny` fails exactly when something is reported of the value and
the query for `warn` was answered too. -/
theorem fail_iff {digest : GoString → GoString} {s : Service} {profile : GoString}
    {trace : List Event} {result : Result} (ran : (s.check digest profile).Runs trace result)
    {value : Json} (read : (Query.deny, value) ∈ readings trace) :
    result.status = .fail ↔ ¬ Silent value ∧ ∃ warn, (Query.warn, warn) ∈ readings trace := by
  rcases service_check_ends ran with ⟨-, -, unread⟩ | ⟨runner, outcome, stamp, -, rfl, ends⟩
  · rw [unread] at read
    cases read
  · rw [report_fail_iff]
    cases ends with
    | skipped idle quiet unread =>
        rw [unread] at read
        cases read
    | hit decision touched unread =>
        rw [unread] at read
        cases read
    | failed err unread touched =>
        constructor
        · rintro ⟨decision, none, -⟩
          cases none
        · rintro ⟨-, warn, answered⟩
          exact absurd answered (unread warn)
    | evaluated deny warn both touched =>
        have same : value = deny := by simpa [both] using read
        subst same
        rw [← normalizeOPAValue_eq_nil_iff]
        constructor
        · rintro ⟨decision, same, denied⟩
          cases same
          exact ⟨denied, warn, by simp [both]⟩
        · rintro ⟨denied, -⟩
          exact ⟨_, rfl, denied⟩

/-- **Every element is kept exactly when an array holds nothing but strings**, and a call that
reads a value with elements for `deny` fails exactly when one of them is reported and the query
for `warn` is answered too. -/
theorem findings_kept_iff (value : Json) :
    (Lossless value ↔ StringsOnly value) ∧
      ∀ (digest : GoString → GoString) (s : Service) (profile : GoString) (trace : List Event)
        (result : Result), (s.check digest profile).Runs trace result →
        (Query.deny, value) ∈ readings trace →
        ((HasElements value → result.status = .fail) ↔
          (HasElements value → ¬ Silent value ∧ ∃ warn, (Query.warn, warn) ∈ readings trace)) := by
  refine ⟨lossless_iff value, fun digest s profile trace result ran read => ?_⟩
  exact imp_congr_right fun _ => fail_iff ran read

/-! ## Poles -/

/-- A sidecar without a cache. -/
def plainSidecar : HTTPRunner := newHTTPRunner (str "http://opa:8181/") 0 false 0

/-- A call at instant 1 that posts the two queries and gets these answers. -/
def postedTrace (deny warn : HttpReply) : List Event :=
  let post (query : Query) (reply : HttpReply) : Event :=
    ⟨.post query plainSidecar.timeout (plainSidecar.baseURL ++ str "/v1/data/" ++ query.path)
      (Input.map [(str "input", buildDeploymentInput (str "hardened"))]).marshal, reply⟩
  [⟨.now, (1 : GoTime.Time)⟩, post .deny deny, post .warn warn]

theorem runs_postedTrace {deny warn : HttpReply} {denies warnings : List GoString}
    (denied : HTTPRunner.replyOutcome .deny deny = .ok denies)
    (warned : HTTPRunner.replyOutcome .warn warn = .ok warnings) :
    (Service.check id ⟨some (.http (some plainSidecar))⟩ (str "hardened")).Runs
      (postedTrace deny warn) (report (str "hardened") 1 (.ok ⟨denies, warnings⟩)) := by
  have addressed : plainSidecar.baseURL ≠ [] := by decide
  have off : plainSidecar.cacheEnabled = false := rfl
  have first := runs_querySet plainSidecar (buildDeploymentInput (str "hardened")) .deny deny
  have second := runs_querySet plainSidecar (buildDeploymentInput (str "hardened")) .warn warn
  rw [denied] at first
  rw [warned] at second
  have both : (bothQueries (plainSidecar.querySet (buildDeploymentInput (str "hardened")))).Runs
      ((postedTrace deny warn).drop 1) (.ok ⟨denies, warnings⟩) :=
    first.bind (second.bind (.ret _))
  simp only [Service.check, ExternalRunner.check, HTTPRunner.check, if_neg addressed, off,
    Bool.false_eq_true, if_false]
  have evaluated : (plainSidecar.evaluate (id (buildDeploymentInput (str "hardened")).marshal)
      (buildDeploymentInput (str "hardened"))).Runs ((postedTrace deny warn).drop 1)
      (.ok ⟨denies, warnings⟩) := both.bind (.ret _)
  exact .ask _ (evaluated.bind (.ret _))

/-- The sidecar's answer with a rule set. -/
def answerWith (text : GoString) (value : Json) : HttpReply :=
  .answered 200
    ⟨str "\x7b\"result\":" ++ text ++ str "\x7d", some (.obj [(str "result", value)]), []⟩

/-- A finding as a text, and the call fails. -/
theorem strings_fail :
    let finding := Json.arr [.str (str "privileged container")]
    Lossless finding ∧
      ∃ trace result,
        (Service.check id ⟨some (.http (some plainSidecar))⟩ (str "hardened")).Runs trace result ∧
        (Query.deny, finding) ∈ readings trace ∧ result.status = .fail := by
  intro finding
  obtain ⟨kept, reported⟩ := findings_kept_iff finding
  have strings : StringsOnly finding := by simp [StringsOnly, finding, asString]
  have ran := @runs_postedTrace (answerWith (str "[\"privileged container\"]") finding)
    (answerWith (str "[]") (.arr [])) _ _ rfl rfl
  refine ⟨kept.2 strings, _, _, ran, List.mem_cons_self, ?_⟩
  refine (reported _ _ _ _ _ ran List.mem_cons_self).2 (fun _ => ⟨?_, ?_⟩) ⟨0, rfl⟩
  · simp [Silent, finding, asString]
  · exact ⟨_, List.mem_cons_of_mem _ List.mem_cons_self⟩

/-- The finding as an object `{"msg":"privileged container"}`, and the deployment passes. -/
theorem objects_pass :
    let finding := Json.arr [.obj [(str "msg", .str (str "privileged container"))]]
    elementCount finding = some 1 ∧ normalizeOPAValue finding = [] ∧
      ∃ trace result,
        (Service.check id ⟨some (.http (some plainSidecar))⟩ (str "hardened")).Runs trace result ∧
        (Query.deny, finding) ∈ readings trace ∧ (Query.warn, .arr []) ∈ readings trace ∧
        result.status = .pass := by
  intro finding
  have ran := @runs_postedTrace
    (answerWith (str "[\x7b\"msg\":\"privileged container\"\x7d]") finding)
    (answerWith (str "[]") (.arr [])) _ _ rfl rfl
  exact ⟨rfl, rfl, _, _, ran, List.mem_cons_self, List.mem_cons_of_mem _ List.mem_cons_self, rfl⟩

end SentinelOps.Policy
