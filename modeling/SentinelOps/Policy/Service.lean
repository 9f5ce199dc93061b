/-
# Policy.Service — a deployment passes when both rule sets came back empty

`Service.check` turns the end of a runner's check into a status.  A service is used again and
again and its runner may keep decisions, so the statements are about a history of calls on one
service (`History`): each call is a run of `check`, and the cache answers as the calls before
it left it.

A call that passes should be `Backed`: its own two queries, or those of the earlier call whose
decision the cache returned, were answered with empty collections.  `pass_backed_iff` says when
that is so.  Two things break it, since no layer tells an absent value from an empty one: a
sidecar address that is nothing but slashes, which skips the evaluation, and an answer without
a value, or with a list of things that are not strings, next to one without findings.

Poles: `pass_from_cache` (two calls, the second one backed by the first through the cache) and
`pass_without_evaluation` (no query sent; a query answered without a result).
-/
import SentinelOps.Policy.Opa

namespace SentinelOps.Policy

open Theory
open GoText (GoString str trimSpace toLower trimRightByte)
open GoTime (Time)

set_option autoImplicit false

/-! ## The service -/

inductive Status where
  | pass
  | warn
  | fail
deriving DecidableEq, Repr

structure Result where
  status : Status
  profile : GoString
  evaluatedRules : Nat
  denies : List GoString
  warnings : List GoString
  timestamp : Time
deriving DecidableEq

structure Service where
  externalRunner : Option ExternalRunner

/-- What the end of the runner's check is reported as. -/
def report (profile : GoString) (timestamp : Time) : Except GoString Decision → Result
  | .error err =>
      { status := .warn, profile, evaluatedRules := 4, denies := [],
        warnings := [str "No se pudo evaluar Rego/OPA: " ++ err], timestamp }
  | .ok decision =>
      { status := if decision.denies ≠ [] then .fail
          else if decision.warnings ≠ [] then .warn else .pass,
        profile, evaluatedRules := 4, denies := decision.denies, warnings := decision.warnings,
        timestamp }

def unconfigured (profile : GoString) (timestamp : Time) : Result :=
  { status := .warn, profile, evaluatedRules := 4, denies := [],
    warnings := [str "OPA runner no configurado; no se evaluaron políticas externas"], timestamp }

def Service.check (digest : GoString → GoString) (s : Service) (profile : GoString) :
    Script Question Answer Result :=
  .ask .now fun timestamp =>
    match s.externalRunner with
    | none => .ret (unconfigured profile timestamp)
    | some runner =>
        (runner.check digest (buildDeploymentInput profile)).bind fun outcome =>
          .ret (report profile timestamp outcome)

theorem report_pass_iff {profile : GoString} {timestamp : Time}
    {outcome : Except GoString Decision} :
    (report profile timestamp outcome).status = .pass ↔ outcome = .ok ⟨[], []⟩ := by
  cases outcome with
  | error err => simp [report]
  | ok decision =>
      obtain ⟨denies, warnings⟩ := decision
      simp only [report, Except.ok.injEq, Decision.mk.injEq]
      by_cases denied : denies = []
      · by_cases warned : warnings = []
        · simp [denied, warned]
        · simp [denied, warned]
      · simp [denied]

/-! ## The cache -/

abbrev Cache := GoMap GoString CachedDecision

/-- An entry is returned up to the instant it expires at, and deleted when found later. -/
def Cache.getCached (cache : Cache) (now : Time) (key : GoString) : Option CachedDecision × Cache :=
  match GoMap.get cache key with
  | none => (none, cache)
  | some decision =>
      if decision.expiresAt.before now then (none, GoMap.delete cache key)
      else (some decision, cache)

/-- The operation, at some instant, is answered so and leaves this cache. -/
def CacheOp.Step (cache : Cache) (next : Cache) : CacheOp → Prop
  | .get key hit => ∃ now, cache.getCached now key = (hit, next)
  | .set key decision => next = GoMap.set cache key decision

def Serves : Cache → List CacheOp → Cache → Prop
  | cache, [], next => next = cache
  | cache, op :: ops, next => ∃ middle, op.Step cache middle ∧ Serves middle ops next

/-- Reading adds no entry, and a hit changes nothing. -/
theorem get_of_getCached {cache next : Cache} {now : Time} {key k : GoString}
    {hit : Option CachedDecision} {decision : CachedDecision}
    (answered : cache.getCached now key = (hit, next)) (held : GoMap.get next k = some decision) :
    GoMap.get cache k = some decision := by
  unfold Cache.getCached at answered
  cases found : GoMap.get cache key with
  | none =>
      rw [found] at answered
      cases answered
      exact held
  | some entry =>
      rw [found] at answered
      by_cases expired : entry.expiresAt.before now
      · simp only [expired, if_true] at answered
        cases answered
        rw [GoMap.get_delete] at held
        by_cases same : k = key
        · rw [if_pos same] at held
          cases held
        · rwa [if_neg same] at held
      · simp only [expired] at answered
        cases answered
        exact held

theorem getCached_hit {cache next : Cache} {now : Time} {key : GoString}
    {decision : CachedDecision} (answered : cache.getCached now key = (some decision, next)) :
    GoMap.get cache key = some decision := by
  unfold Cache.getCached at answered
  cases found : GoMap.get cache key with
  | none =>
      rw [found] at answered
      cases answered
  | some entry =>
      rw [found] at answered
      by_cases expired : entry.expiresAt.before now
      · simp only [expired, if_true] at answered
        cases answered
      · simp only [expired] at answered
        cases answered
        rfl

/-! ## Calls on one service -/

structure Call where
  profile : GoString
  trace : List Event
  result : Result

/-- The key under which the decision for a profile is kept. -/
def cacheKey (digest : GoString → GoString) (profile : GoString) : GoString :=
  digest (buildDeploymentInput profile).marshal

/-- The calls are runs of `check`, one after the other, over this cache. -/
def History (digest : GoString → GoString) (s : Service) : Cache → List Call → Prop
  | _, [] => True
  | cache, call :: calls =>
      (s.check digest call.profile).Runs call.trace call.result ∧
        ∃ next, Serves cache (cacheOps call.trace) next ∧ History digest s next calls

/-- Both queries were sent, and each was answered with an empty collection. -/
def Evaluated (trace : List Event) : Prop :=
  ∃ deny warn, (Query.deny, deny) ∈ readings trace ∧ EmptyCollection deny ∧
    (Query.warn, warn) ∈ readings trace ∧ EmptyCollection warn

/-- The call evaluated both rule sets, or the cache returned to it the decision of an earlier
call on the same input that did. -/
def Backed (digest : GoString → GoString) (before : List Call) (call : Call) : Prop :=
  Evaluated call.trace ∨
    ∃ decision, CacheOp.get (cacheKey digest call.profile) (some decision) ∈ cacheOps call.trace ∧
      ∃ earlier ∈ before, cacheKey digest earlier.profile = cacheKey digest call.profile ∧
        Evaluated earlier.trace

/-- Every call that passes is backed. -/
def PassesBacked (digest : GoString → GoString) (calls : List Call) : Prop :=
  ∀ before call after, calls = before ++ call :: after → call.result.status = .pass →
    Backed digest before call

/-- The sidecar's address is made of slashes only. -/
def Unaddressed (cfg : Config) : Prop :=
  cfg.policyEnabled = true ∧
    (toLower (trimSpace cfg.policyMode) = str "http" ∨
      toLower (trimSpace cfg.policyMode) = str "sidecar") ∧
    trimSpace cfg.policyURL ≠ [] ∧ ∀ b ∈ trimSpace cfg.policyURL, b = 0x2F

/-- The two queries were answered, neither with a finding, and not both with an empty
collection. -/
def Overlooked (trace : List Event) : Prop :=
  ∃ deny warn, (Query.deny, deny) ∈ readings trace ∧ (Query.warn, warn) ∈ readings trace ∧
    Silent deny ∧ Silent warn ∧ ¬ (EmptyCollection deny ∧ EmptyCollection warn)

theorem trimRightByte_eq_nil_iff (b : UInt8) (s : GoString) :
    trimRightByte b s = [] ↔ ∀ x ∈ s, x = b := by
  simp [trimRightByte, List.dropWhile_eq_nil_iff]

/-- The only idle runner a configuration builds is one for an address of slashes. -/
theorem idle_iff_unaddressed (cfg : Config) :
    (∃ runner, newExternalRunner cfg = some runner ∧ runner.Idle) ↔ Unaddressed cfg := by
  unfold newExternalRunner Unaddressed
  by_cases enabled : cfg.policyEnabled = true
  · by_cases http : toLower (trimSpace cfg.policyMode) = str "http" ∨
        toLower (trimSpace cfg.policyMode) = str "sidecar"
    · by_cases blank : trimSpace cfg.policyURL = []
      · simp [enabled, http, blank]
      · simp [enabled, http, blank, ExternalRunner.Idle, newHTTPRunner, trimRightByte_eq_nil_iff]
    · constructor
      · rintro ⟨runner, built, idle⟩
        simp only [enabled, Bool.not_true, Bool.false_eq_true, if_false, http] at built
        split_ifs at built
        cases built
        cases idle
      · rintro ⟨-, mode, -⟩
        exact absurd mode http
  · simp [enabled]

/-! ## One call -/

/-- How a call on a service ends. -/
theorem service_check_ends {digest : GoString → GoString} {s : Service} {profile : GoString}
    {trace : List Event} {result : Result} (ran : (s.check digest profile).Runs trace result) :
    (result.status = .warn ∧ cacheOps trace = [] ∧ readings trace = []) ∨
    ∃ runner outcome timestamp, s.externalRunner = some runner ∧
      result = report profile timestamp outcome ∧
      Ends runner (cacheKey digest profile) (cacheOps trace) (readings trace) outcome := by
  obtain ⟨timestamp, rest, rfl, ran'⟩ := Script.runs_ask ran
  cases built : s.externalRunner with
  | none =>
      simp only [built] at ran'
      cases ran'
      exact .inl ⟨rfl, rfl, rfl⟩
  | some runner =>
      simp only [built] at ran'
      obtain ⟨first, outcome, last, checked, ended, rfl⟩ := Script.runs_bind ran'
      cases ended
      have ends := check_ends digest runner _ checked
      rw [List.append_nil]
      exact .inr ⟨runner, outcome, timestamp, rfl, rfl, ends⟩

/-- A call that neither finds its runner idle nor overlooks an answer. -/
def Heard (cfg : Config) (call : Call) : Prop := ¬ Unaddressed cfg ∧ ¬ Overlooked call.trace

/-- An evaluation without findings, of answers that were not overlooked, is an empty one. -/
theorem evaluated_of_silent {trace : List Event} {deny warn : Json}
    (both : readings trace = [(.deny, deny), (.warn, warn)]) (heard : ¬ Overlooked trace)
    (noDeny : normalizeOPAValue deny = []) (noWarn : normalizeOPAValue warn = []) :
    Evaluated trace := by
  have first : (Query.deny, deny) ∈ readings trace := by simp [both]
  have second : (Query.warn, warn) ∈ readings trace := by simp [both]
  have empty : EmptyCollection deny ∧ EmptyCollection warn := by
    by_contra other
    exact heard ⟨deny, warn, first, second, (normalizeOPAValue_eq_nil_iff deny).1 noDeny,
      (normalizeOPAValue_eq_nil_iff warn).1 noWarn, other⟩
  exact ⟨deny, warn, first, empty.1, second, empty.2⟩

/-- Every decision without findings in the cache is that of a call that evaluated both rule
sets. -/
def Provenance (digest : GoString → GoString) (before : List Call) (cache : Cache) : Prop :=
  ∀ key decision, GoMap.get cache key = some decision → decision.toDecision = ⟨[], []⟩ →
    ∃ earlier ∈ before, cacheKey digest earlier.profile = key ∧ Evaluated earlier.trace

theorem Provenance.mono {digest : GoString → GoString} {before : List Call} {cache next : Cache}
    (known : Provenance digest before cache) (call : Call)
    (within : ∀ key decision, GoMap.get next key = some decision →
      GoMap.get cache key = some decision) : Provenance digest (before ++ [call]) next := by
  intro key decision held clean
  obtain ⟨earlier, member, same, evaluated⟩ := known key decision (within key decision held) clean
  exact ⟨earlier, List.mem_append_left _ member, same, evaluated⟩

/-- A miss of the cache leaves nothing new in it. -/
theorem within_of_serves_get {cache next : Cache} {key : GoString} {hit : Option CachedDecision}
    (served : Serves cache [.get key hit] next) :
    ∀ k decision, GoMap.get next k = some decision → GoMap.get cache k = some decision := by
  obtain ⟨middle, ⟨now, answered⟩, rfl⟩ := served
  exact fun k decision held => get_of_getCached answered held

section Calls

variable {digest : GoString → GoString} {cfg : Config} {before : List Call} {call : Call}
  {cache next : Cache}

/-- The service a configuration starts. -/
def configured (cfg : Config) : Service := ⟨newExternalRunner cfg⟩

section Heard

variable (ran : ((configured cfg).check digest call.profile).Runs call.trace call.result)
  (served : Serves cache (cacheOps call.trace) next) (heard : Heard cfg call)
  (known : Provenance digest before cache)

include ran served heard known

/-- One call keeps the provenance of the cache. -/
theorem provenance_step : Provenance digest (before ++ [call]) next := by
  have untouched (quiet : cacheOps call.trace = []) :
      Provenance digest (before ++ [call]) next := by
    rw [quiet] at served
    cases served
    exact known.mono call fun _ _ held => held
  rcases service_check_ends ran with ⟨-, quiet, -⟩ | ⟨runner, outcome, _, -, -, ends⟩
  · exact untouched quiet
  · cases ends with
    | skipped idle quiet unread => exact untouched quiet
    | hit decision touched unread =>
        rw [touched] at served
        exact known.mono call (within_of_serves_get served)
    | failed err unread touched =>
        rcases touched with quiet | missed
        · exact untouched quiet
        · rw [missed] at served
          exact known.mono call (within_of_serves_get served)
    | evaluated deny warn both touched =>
        rcases touched with quiet | ⟨expiresAt, stored⟩
        · exact untouched quiet
        · rw [stored] at served
          obtain ⟨middle, ⟨now, missed⟩, last, rfl, rfl⟩ := served
          intro key decision held clean
          rw [GoMap.get_set] at held
          by_cases same : key = cacheKey digest call.profile
          · -- The entry is this call's own decision.
            rw [if_pos same, Option.some.injEq] at held
            subst held
            rw [Decision.mk.injEq] at clean
            exact ⟨call, List.mem_append_right _ List.mem_cons_self, same.symm,
              evaluated_of_silent both heard.2 clean.1 clean.2⟩
          · rw [if_neg same] at held
            exact known.mono call (fun _ _ => get_of_getCached missed) key decision held clean

/-- A call that passes, and was heard, is backed. -/
theorem backed_of_pass (passed : call.result.status = .pass) : Backed digest before call := by
  rcases service_check_ends ran with ⟨warned, -⟩ | ⟨runner, outcome, stamp, built, result, ends⟩
  · rw [warned] at passed
    cases passed
  · rw [result, report_pass_iff] at passed
    cases ends with
    | skipped idle quiet unread =>
        exact absurd ((idle_iff_unaddressed cfg).1 ⟨runner, built, idle⟩) heard.1
    | hit decision touched unread =>
        rw [touched] at served
        obtain ⟨middle, ⟨now, answered⟩, -⟩ := served
        obtain ⟨earlier, member, same, evaluated⟩ :=
          known _ decision (getCached_hit answered) (by simpa using passed)
        exact .inr ⟨decision, by simp [touched], earlier, member, same, evaluated⟩
    | failed err unread touched => cases passed
    | evaluated deny warn both touched =>
        rw [Except.ok.injEq, Decision.mk.injEq] at passed
        exact .inl (evaluated_of_silent both heard.2 passed.1 passed.2)

end Heard

/-- A call to an idle runner passes, backed by nothing. -/
theorem not_backed_of_unaddressed (before : List Call) (unaddressed : Unaddressed cfg)
    (ran : ((configured cfg).check digest call.profile).Runs call.trace call.result) :
    call.result.status = .pass ∧ ¬ Backed digest before call := by
  obtain ⟨runner, built, idle⟩ := (idle_iff_unaddressed cfg).2 unaddressed
  obtain ⟨stamp, rest, split, ran'⟩ := Script.runs_ask ran
  simp only [configured, built, check_of_idle digest _ idle] at ran'
  generalize rest = tail at split ran'
  generalize reported : call.result = result at ran'
  cases ran'
  refine ⟨rfl, ?_⟩
  rintro (⟨deny, warn, read, -⟩ | ⟨decision, touched, -⟩)
  · rw [split] at read
    cases read
  · rw [split] at touched
    cases touched

/-- A call that overlooks an answer passes, backed by nothing. -/
theorem not_backed_of_overlooked (before : List Call) (overlooked : Overlooked call.trace)
    (ran : ((configured cfg).check digest call.profile).Runs call.trace call.result) :
    call.result.status = .pass ∧ ¬ Backed digest before call := by
  obtain ⟨deny, warn, first, second, noDeny, noWarn, other⟩ := overlooked
  rcases service_check_ends ran with ⟨-, -, unread⟩ | ⟨runner, outcome, stamp, -, result, ends⟩
  · rw [unread] at first
    cases first
  · cases ends with
    | skipped idle quiet unread =>
        rw [unread] at first
        cases first
    | hit decision touched unread =>
        rw [unread] at first
        cases first
    | failed err unread touched => exact absurd second (unread warn)
    | evaluated deny' warn' both touched =>
        -- The trace has one reading for each query, so these are the values overlooked.
        have sameDeny : deny' = deny := by simpa [both, eq_comm] using first
        have sameWarn : warn' = warn := by simpa [both, eq_comm] using second
        subst sameDeny sameWarn
        constructor
        · rw [result, report_pass_iff, (normalizeOPAValue_eq_nil_iff _).2 noDeny,
            (normalizeOPAValue_eq_nil_iff _).2 noWarn]
        · rintro (⟨deny, warn, first, emptyDeny, second, emptyWarn⟩ | ⟨decision, hit, -⟩)
          · have sameDeny : deny' = deny := by simpa [both, eq_comm] using first
            have sameWarn : warn' = warn := by simpa [both, eq_comm] using second
            subst sameDeny sameWarn
            exact other ⟨emptyDeny, emptyWarn⟩
          · rcases touched with quiet | ⟨expiresAt, stored⟩
            · rw [quiet] at hit
              cases hit
            · simp [stored] at hit

end Calls

/-! ## Whole histories -/

theorem History.runs {digest : GoString → GoString} {s : Service} {cache : Cache}
    {calls : List Call} (history : History digest s cache calls) {call : Call}
    (member : call ∈ calls) : (s.check digest call.profile).Runs call.trace call.result := by
  induction calls generalizing cache with
  | nil => cases member
  | cons first calls ih =>
      obtain ⟨ran, next, -, later⟩ := history
      rcases List.mem_cons.1 member with rfl | member
      · exact ran
      · exact ih later member

/-- The induction behind `pass_backed_iff`: `before` are the calls that led to this cache. -/
theorem backed_along {digest : GoString → GoString} {cfg : Config} {before calls : List Call}
    {cache : Cache} (history : History digest (configured cfg) cache calls)
    (heard : ∀ call ∈ calls, Heard cfg call) (known : Provenance digest before cache) :
    ∀ first call after, calls = first ++ call :: after → call.result.status = .pass →
      Backed digest (before ++ first) call := by
  induction calls generalizing before cache with
  | nil =>
      intro first call after split
      cases first <;> cases split
  | cons head calls ih =>
      obtain ⟨ran, next, served, later⟩ := history
      have headHeard := heard head List.mem_cons_self
      intro first call after split passed
      cases first with
      | nil =>
          cases split
          rw [List.append_nil]
          exact backed_of_pass ran served headHeard known passed
      | cons head' first =>
          cases split
          have kept := provenance_step ran served headHeard known
          have backed := ih later (fun call member => heard call (List.mem_cons_of_mem _ member))
            kept first call after rfl passed
          rwa [List.append_assoc] at backed

/-- **Every pass is backed by an evaluation exactly when no call is overlooked**: the sidecar's
address is not made of slashes, and no call gets two answers without a finding of which one is
not an empty collection. -/
theorem pass_backed_iff (digest : GoString → GoString) (cfg : Config) (calls : List Call)
    (history : History digest (configured cfg) ∅ calls) :
    PassesBacked digest calls ↔ ∀ call ∈ calls, Heard cfg call := by
  constructor
  · intro backed call member
    obtain ⟨before, after, split⟩ := List.append_of_mem member
    have ran := history.runs member
    constructor
    · intro unaddressed
      obtain ⟨passed, unbacked⟩ := not_backed_of_unaddressed before unaddressed ran
      exact unbacked (backed before call after split passed)
    · intro overlooked
      obtain ⟨passed, unbacked⟩ := not_backed_of_overlooked before overlooked ran
      exact unbacked (backed before call after split passed)
  · intro heard before call after split passed
    have known : Provenance digest [] ∅ := by
      intro key decision held
      rw [GoMap.get_empty] at held
      cases held
    exact backed_along history heard known before call after split passed

/-! ## Poles -/

/-- A sidecar with a cache of thirty seconds. -/
def sidecarConfig (url : GoString) : Config where
  policyEnabled := true
  policyMode := str "http"
  policyBinary := []
  policyDir := []
  policyURL := url
  policyTimeout := 0
  policyCacheEnabled := true
  policyCacheTTL := 0

/-- The answer `{"result":[]}`. -/
def emptyAnswer : HttpReply :=
  .answered 200 ⟨str "\x7b\"result\":[]\x7d", some (.obj [(str "result", .arr [])]), []⟩

/-- The answer `{}`, of a server that does not have the package. -/
def undefinedAnswer : HttpReply := .answered 200 ⟨str "\x7b\x7d", some (.obj []), []⟩

def sidecar : HTTPRunner := newHTTPRunner (str "http://opa:8181/") 0 true 0

def passed (timestamp : Time) : Result := report (str "hardened") timestamp (.ok ⟨[], []⟩)

/-- The query as the sidecar's runner posts it for the profile `hardened`. -/
def posted (query : Query) (reply : HttpReply) : Event :=
  ⟨.post query sidecar.timeout (sidecar.baseURL ++ str "/v1/data/" ++ query.path)
    (Input.map [(str "input", buildDeploymentInput (str "hardened"))]).marshal, reply⟩

/-- A call at instant 1 that evaluates, with these two answers, and keeps the decision. -/
def evaluatingCall (deny warn : HttpReply) : Call where
  profile := str "hardened"
  trace := [⟨.now, (1 : Time)⟩, ⟨.getCached (cacheKey id (str "hardened")), none⟩,
    posted .deny deny, posted .warn warn, ⟨.now, (2 : Time)⟩,
    ⟨.setCached (cacheKey id (str "hardened")) ⟨⟨[], []⟩, Time.add 2 sidecar.cacheTTL⟩, ()⟩]
  result := passed 1

/-- A call at instant 3 that the cache answers. -/
def cachedCall : Call where
  profile := str "hardened"
  trace := [⟨.now, (3 : Time)⟩, ⟨.getCached (cacheKey id (str "hardened")),
    (some ⟨⟨[], []⟩, Time.add 2 sidecar.cacheTTL⟩ : Option CachedDecision)⟩]
  result := passed 3

theorem newExternalRunner_sidecar :
    newExternalRunner (sidecarConfig (str "http://opa:8181/")) = some (.http (some sidecar)) := by
  have addressed : trimSpace (str "http://opa:8181/") ≠ [] := by decide
  have mode : toLower (trimSpace (str "http")) = str "http" := by decide
  simp only [newExternalRunner, sidecarConfig, mode, addressed]
  rfl

theorem sidecar_addressed : sidecar.baseURL ≠ [] := by decide

theorem runs_querySet (r : HTTPRunner) (input : Input) (query : Query) (reply : HttpReply) :
    (r.querySet input query).Runs
      [⟨.post query r.timeout (r.baseURL ++ str "/v1/data/" ++ query.path)
        (Input.map [(str "input", input)]).marshal, reply⟩]
      (HTTPRunner.replyOutcome query reply) := by
  unfold HTTPRunner.querySet
  exact .ask _ (.ret _)

theorem runs_posted (query : Query) (reply : HttpReply) :
    (sidecar.querySet (buildDeploymentInput (str "hardened")) query).Runs [posted query reply]
      (HTTPRunner.replyOutcome query reply) := runs_querySet sidecar _ query reply

theorem runs_remember (key : GoString) (decision : Decision) (now : Time) :
    (sidecar.remember key decision).Runs
      [⟨.now, now⟩, ⟨.setCached key ⟨decision, Time.add now sidecar.cacheTTL⟩, ()⟩]
      (.ok decision) := by
  have enabled : sidecar.cacheEnabled = true := rfl
  simp only [HTTPRunner.remember, enabled, if_true]
  exact .ask _ (.ask _ (.ret _))

/-- The sidecar's service on two answers without a finding. -/
theorem runs_evaluatingCall {deny warn : HttpReply}
    (noDeny : HTTPRunner.replyOutcome .deny deny = .ok [])
    (noWarn : HTTPRunner.replyOutcome .warn warn = .ok []) :
    ((configured (sidecarConfig (str "http://opa:8181/"))).check id (str "hardened")).Runs
      (evaluatingCall deny warn).trace (evaluatingCall deny warn).result := by
  have first := runs_posted .deny deny
  have second := runs_posted .warn warn
  rw [noDeny] at first
  rw [noWarn] at second
  have both : (bothQueries (sidecar.querySet (buildDeploymentInput (str "hardened")))).Runs
      [posted .deny deny, posted .warn warn] (.ok ⟨[], []⟩) := first.bind (second.bind (.ret _))
  have kept : (sidecar.evaluate (cacheKey id (str "hardened"))
      (buildDeploymentInput (str "hardened"))).Runs
      ((evaluatingCall deny warn).trace.drop 2) (.ok ⟨[], []⟩) :=
    both.bind (runs_remember _ _ 2)
  simp only [Service.check, configured, newExternalRunner_sidecar, ExternalRunner.check,
    HTTPRunner.check, if_neg sidecar_addressed]
  have ended := kept.bind (f := fun outcome => .ret (report (str "hardened") 1 outcome)) (.ret _)
  unfold evaluatingCall
  exact .ask _ (.ask _ ended)

theorem runs_cachedCall :
    ((configured (sidecarConfig (str "http://opa:8181/"))).check id (str "hardened")).Runs
      cachedCall.trace cachedCall.result := by
  simp only [Service.check, configured, newExternalRunner_sidecar, ExternalRunner.check,
    HTTPRunner.check, if_neg sidecar_addressed]
  exact .ask _ (.ask _ (.ret _))

/-- The cache after the evaluating call. -/
def keptCache : Cache :=
  GoMap.set ∅ (cacheKey id (str "hardened")) ⟨⟨[], []⟩, Time.add 2 sidecar.cacheTTL⟩

theorem serves_evaluatingCall (deny warn : HttpReply) :
    Serves ∅ (cacheOps (evaluatingCall deny warn).trace) keptCache := by
  have missed : Cache.getCached ∅ 1 (cacheKey id (str "hardened")) = (none, ∅) := by
    simp only [Cache.getCached, GoMap.get_empty]
  exact ⟨∅, ⟨1, missed⟩, keptCache, rfl, rfl⟩

theorem serves_cachedCall : Serves keptCache (cacheOps cachedCall.trace) keptCache := by
  have fresh : (Time.add 2 sidecar.cacheTTL).before 3 = false := by decide
  have found : keptCache.getCached 3 (cacheKey id (str "hardened")) =
      (some ⟨⟨[], []⟩, Time.add 2 sidecar.cacheTTL⟩, keptCache) := by
    simp only [Cache.getCached, keptCache, GoMap.get_set, if_true, fresh, Bool.false_eq_true,
      if_false]
  exact ⟨keptCache, ⟨3, found⟩, rfl⟩

/-- A call that evaluates and one that the cache answers, both passing, both backed. -/
theorem pass_from_cache :
    let calls := [evaluatingCall emptyAnswer emptyAnswer, cachedCall]
    History id (configured (sidecarConfig (str "http://opa:8181/"))) ∅ calls ∧
      (∀ call ∈ calls, call.result.status = .pass) ∧ PassesBacked id calls := by
  intro calls
  have history : History id (configured (sidecarConfig (str "http://opa:8181/"))) ∅ calls :=
    ⟨runs_evaluatingCall rfl rfl, keptCache, serves_evaluatingCall _ _, runs_cachedCall, keptCache,
      serves_cachedCall, trivial⟩
  have addressed : ¬ Unaddressed (sidecarConfig (str "http://opa:8181/")) := by
    rintro ⟨-, -, -, slashes⟩
    exact absurd (slashes 0x68 (by decide)) (by decide)
  have heard : ∀ call ∈ calls, Heard (sidecarConfig (str "http://opa:8181/")) call := by
    intro call member
    refine ⟨addressed, ?_⟩
    rintro ⟨deny, warn, first, second, -, -, other⟩
    rcases List.mem_cons.1 member with rfl | member
    · have read : readings (evaluatingCall emptyAnswer emptyAnswer).trace =
          [(.deny, .arr []), (.warn, .arr [])] := rfl
      have noDeny : deny = .arr [] := by simpa [read] using first
      have noWarn : warn = .arr [] := by simpa [read] using second
      subst noDeny noWarn
      exact other ⟨rfl, rfl⟩
    · rw [List.mem_singleton] at member
      subst member
      cases first
  refine ⟨history, ?_, (pass_backed_iff id _ calls history).2 heard⟩
  intro call member
  rcases List.mem_cons.1 member with rfl | member
  · rfl
  · rw [List.mem_singleton] at member
    subst member
    rfl

/-- With the address `/` no query is sent and the deployment passes; with a proper one it
passes on two answers that have no result. -/
theorem pass_without_evaluation :
    (∃ call, History id (configured (sidecarConfig (str "/"))) ∅ [call] ∧
      call.result.status = .pass ∧ readings call.trace = [] ∧ cacheOps call.trace = []) ∧
    (let call := evaluatingCall undefinedAnswer undefinedAnswer
     History id (configured (sidecarConfig (str "http://opa:8181/"))) ∅ [call] ∧
       call.result.status = .pass ∧
       readings call.trace = [(.deny, .null), (.warn, .null)] ∧ ¬ Evaluated call.trace) := by
  constructor
  · refine ⟨⟨str "hardened", [⟨.now, (1 : Time)⟩], passed 1⟩, ⟨?_, ∅, rfl, trivial⟩, rfl, rfl, rfl⟩
    have unaddressed : Unaddressed (sidecarConfig (str "/")) := by
      exact ⟨rfl, .inl (by decide), by decide +kernel, by decide +kernel⟩
    obtain ⟨runner, built, idle⟩ := (idle_iff_unaddressed _).2 unaddressed
    simp only [Service.check, configured, built, check_of_idle id _ idle]
    exact .ask _ (.ret _)
  · intro call
    have history : History id (configured (sidecarConfig (str "http://opa:8181/"))) ∅ [call] :=
      ⟨runs_evaluatingCall rfl rfl, keptCache, serves_evaluatingCall _ _, trivial⟩
    refine ⟨history, rfl, rfl, ?_⟩
    rintro ⟨deny, warn, first, empty, -⟩
    have read : readings call.trace = [(.deny, .null), (.warn, .null)] := rfl
    have absent : deny = .null := by simpa [read] using first
    subst absent
    exact empty

end SentinelOps.Policy
