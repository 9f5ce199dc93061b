/-
# Policy.CacheRuns — many checks at once over one cache

Checks of one `HTTPRunner` share its cache, which a mutex guards: a call looks up and stores in one
step each, and everything else of other calls may come in between.  The calls are a team of scripts
that keeps a log, the server is the cache with a clock that does not go back, and what the sidecar
answers comes with each step.

A check sees its input only through `json.Marshal`, so `checkOf` takes what that makes of the input
(`check_eq` says that it is `check` on a deployment).

`Ended` and `Stores` say what one call, alone, can have done when it returns and when it stores
(`checkOf_keeps`).  With what the cache does (`Served`) they give, for every interleaving, where an
answer comes from (`Sourced`).
-/
import SentinelOps.Policy.Service
import SentinelOps.Theory.Journal

namespace SentinelOps.Policy

open Theory
open GoJson (quote)
open GoText (GoString str)
open GoTime (Time)

set_option autoImplicit false

/-! ## A check of an input by its encoding -/

/-- The body of a query for an input with this encoding. -/
def payload (body : GoString) : GoString :=
  str "\x7b" ++ (quote (str "input") ++ str ":" ++ body) ++ str "\x7d"

namespace HTTPRunner

def url (r : HTTPRunner) (query : Query) : GoString := r.baseURL ++ str "/v1/data/" ++ query.path

def querySetOf (r : HTTPRunner) (body : GoString) (query : Query) : Asking (List GoString) :=
  .ask (.post query r.timeout (r.url query) (payload body)) fun reply =>
    .ret (replyOutcome query reply)

def evaluateOf (r : HTTPRunner) (key body : GoString) : Asking Decision :=
  (bothQueries (r.querySetOf body)).bind fun outcome =>
    match outcome with
    | .error err => .ret (.error err)
    | .ok decision => r.remember key decision

/-- `Check`, given what `json.Marshal` makes of the input. -/
def checkOf (digest : GoString → GoString) (r : HTTPRunner) (encoded : Except GoString GoString) :
    Asking Decision :=
  if r.baseURL = [] then .ret (.ok ⟨[], []⟩)
  else
    match wrap (str "serializar cache key de política") encoded with
    | .error err => .ret (.error err)
    | .ok body =>
        let key := digest body
        if r.cacheEnabled then
          .ask (.getCached key) fun hit =>
            match hit with
            | some decision => .ret (.ok (CachedDecision.toDecision decision))
            | none => r.evaluateOf key body
        else r.evaluateOf key body

theorem payload_marshal (input : Input) :
    (Input.map [(str "input", input)]).marshal = payload input.marshal := by
  simp [Input.marshal, Input.marshalFields, payload, List.intercalate]

theorem check_eq (digest : GoString → GoString) (r : HTTPRunner) (input : Input) :
    r.check digest input = r.checkOf digest (.ok input.marshal) := by
  have same : r.querySet input = r.querySetOf input.marshal := by
    funext query
    unfold querySet querySetOf
    rw [payload_marshal]
    rfl
  unfold check checkOf evaluate evaluateOf
  rw [same]
  rfl

end HTTPRunner

/-! ## What one call does -/

/-- The exchanges with the sidecar. -/
def posts (trace : List Event) : List Event :=
  trace.filter fun e => match e with
    | ⟨.post _ _ _ _, _⟩ => true
    | _ => false

section Call

variable (digest : GoString → GoString) (r : HTTPRunner) (encoded : Except GoString GoString)

def postOf (body : GoString) (query : Query) (reply : HttpReply) : Event :=
  ⟨.post query r.timeout (r.url query) (payload body), reply⟩

/-- The sidecar was asked for both rule sets of this input, and this is what it returned. -/
def Answered (body : GoString) (trace : List Event) (decision : Decision) : Prop :=
  ∃ reply reply', posts trace = [postOf r body .deny reply, postOf r body .warn reply'] ∧
    HTTPRunner.replyOutcome .deny reply = .ok decision.denies ∧
    HTTPRunner.replyOutcome .warn reply' = .ok decision.warnings

/-- The first of the two queries that failed, and its error. -/
def Failed (body : GoString) (trace : List Event) (err : GoString) : Prop :=
  (∃ reply, posts trace = [postOf r body .deny reply] ∧
    HTTPRunner.replyOutcome .deny reply = .error err) ∨
  ∃ reply reply' denies, posts trace = [postOf r body .deny reply, postOf r body .warn reply'] ∧
    HTTPRunner.replyOutcome .deny reply = .ok denies ∧
    HTTPRunner.replyOutcome .warn reply' = .error err

/-- The call has stored nothing. -/
def NothingStored (trace : List Event) : Prop :=
  ∀ e ∈ trace, ∀ key decision, e.1 ≠ .setCached key decision

/-- The ways a call ends, by what it asked. -/
inductive Ended (trace : List Event) : Except GoString Decision → Prop where
  | idle (blank : r.baseURL = []) (nothing : NothingStored trace) : Ended trace (.ok ⟨[], []⟩)
  | unencoded (err : GoString) (addressed : r.baseURL ≠ []) (failed : encoded = .error err)
      (nothing : NothingStored trace) :
      Ended trace (.error (str "serializar cache key de política" ++ str ": " ++ err))
  | hit (body : GoString) (decision : CachedDecision) (addressed : r.baseURL ≠ [])
      (encoding : encoded = .ok body)
      (found : ⟨.getCached (digest body), some decision⟩ ∈ trace) :
      Ended trace (.ok decision.toDecision)
  | answered (body : GoString) (decision : Decision) (addressed : r.baseURL ≠ [])
      (encoding : encoded = .ok body) (both : Answered r body trace decision) :
      Ended trace (.ok decision)
  | failed (body err : GoString) (addressed : r.baseURL ≠ []) (encoding : encoded = .ok body)
      (some_ : Failed r body trace err) (nothing : NothingStored trace) : Ended trace (.error err)

/-- What a call stores is what its own two queries returned, for the time to live from an instant it
has read. -/
def Stores (trace : List Event) : Question → Prop
  | .setCached key decision => ∃ body now, encoded = .ok body ∧ key = digest body ∧
      Answered r body trace decision.toDecision ∧ ⟨.now, now⟩ ∈ trace ∧
      decision.expiresAt = Time.add now r.cacheTTL
  | _ => True

variable {digest r encoded} {body : GoString} {past : List Event}

theorem posts_append (first rest : List Event) :
    posts (first ++ rest) = posts first ++ posts rest :=
  List.filter_append ..

theorem posts_concat_post (query : Query) (reply : HttpReply) :
    posts (past ++ [postOf r body query reply]) = posts past ++ [postOf r body query reply] :=
  posts_append past _

theorem NothingStored.concat {e : Event} (nothing : NothingStored past)
    (other : ∀ key decision, e.1 ≠ .setCached key decision) : NothingStored (past ++ [e]) := by
  intro e' member
  rcases List.mem_append.1 member with old | new
  · exact nothing e' old
  · rw [List.mem_singleton.1 new]
    exact other

/-- Both queries, and nothing stored yet. -/
def Queried (r : HTTPRunner) (body : GoString) (outcome : Except GoString Decision)
    (trace : List Event) : Prop :=
  NothingStored trace ∧
    match outcome with
    | .ok decision => Answered r body trace decision
    | .error err => Failed r body trace err

theorem bothQueries_keeps (fresh : posts past = []) (nothing : NothingStored past) :
    (bothQueries (r.querySetOf body)).Keeps (Stores digest r encoded) (Queried r body) past := by
  refine ⟨trivial, fun (reply : HttpReply) => ?_⟩
  have nothing' : NothingStored (past ++ [postOf r body .deny reply]) :=
    nothing.concat fun _ _ same => by cases same
  have asked : posts (past ++ [postOf r body .deny reply]) = [postOf r body .deny reply] := by
    rw [posts_concat_post, fresh, List.nil_append]
  cases denied : HTTPRunner.replyOutcome .deny reply with
  | error err =>
      simp only [Script.bind, denied]
      exact ⟨nothing', .inl ⟨reply, asked, denied⟩⟩
  | ok denies =>
      simp only [Script.bind, denied]
      refine ⟨trivial, fun (reply' : HttpReply) => ?_⟩
      have nothing'' : NothingStored
          (past ++ [postOf r body .deny reply] ++ [postOf r body .warn reply']) :=
        nothing'.concat fun _ _ same => by cases same
      have asked' : posts (past ++ [postOf r body .deny reply] ++ [postOf r body .warn reply']) =
          [postOf r body .deny reply, postOf r body .warn reply'] := by
        rw [posts_concat_post, asked]
        rfl
      cases warned : HTTPRunner.replyOutcome .warn reply' with
      | error err =>
          simp only [Script.bind, warned]
          exact ⟨nothing'', .inr ⟨reply, reply', denies, asked', denied, warned⟩⟩
      | ok warnings =>
          simp only [Script.bind, warned]
          exact ⟨nothing'', reply, reply', asked', denied, warned⟩

theorem Answered.append {trace rest : List Event} {decision : Decision}
    (answered : Answered r body trace decision) (other : posts rest = []) :
    Answered r body (trace ++ rest) decision := by
  obtain ⟨reply, reply', asked, outcomes⟩ := answered
  exact ⟨reply, reply', by rw [posts_append, asked, other, List.append_nil], outcomes⟩

theorem evaluateOf_keeps (addressed : r.baseURL ≠ []) (encoding : encoded = .ok body)
    (fresh : posts past = []) (nothing : NothingStored past) :
    (r.evaluateOf (digest body) body).Keeps (Stores digest r encoded)
      (fun outcome trace => Ended digest r encoded trace outcome) past := by
  refine (bothQueries_keeps fresh nothing).bind fun outcome trace queried => ?_
  cases outcome with
  | error err => exact .failed body err addressed encoding queried.2 queried.1
  | ok decision =>
      have both : Answered r body trace decision := queried.2
      show (r.remember (digest body) decision).Keeps _ _ trace
      unfold HTTPRunner.remember
      by_cases cached : r.cacheEnabled = true
      · rw [if_pos cached]
        refine ⟨trivial, fun now => ⟨⟨body, now, encoding, rfl, both.append rfl, ?_, rfl⟩, ?_⟩⟩
        · exact List.mem_append_right _ List.mem_cons_self
        · intro stored
          rw [List.append_assoc]
          exact .answered body decision addressed encoding (both.append rfl)
      · rw [if_neg cached]
        exact .answered body decision addressed encoding both

/-- What a call can have done, when it stores and when it returns. -/
theorem checkOf_keeps :
    (r.checkOf digest encoded).Keeps (Stores digest r encoded)
      (fun outcome trace => Ended digest r encoded trace outcome) [] := by
  have nothing : NothingStored [] := fun e none_ => by cases none_
  unfold HTTPRunner.checkOf
  by_cases blank : r.baseURL = []
  · rw [if_pos blank]
    exact .idle blank nothing
  · rw [if_neg blank]
    cases encoding : encoded with
    | error err => exact .unencoded err blank rfl nothing
    | ok body =>
        simp only [wrap]
        by_cases cached : r.cacheEnabled = true
        · rw [if_pos cached]
          refine ⟨trivial, fun hit => ?_⟩
          cases hit with
          | some decision => exact .hit body decision blank rfl List.mem_cons_self
          | none =>
              exact evaluateOf_keeps blank rfl rfl (nothing.concat fun _ _ same => by cases same)
        · rw [if_neg cached]
          exact evaluateOf_keeps blank rfl rfl nothing

end Call

/-! ## The cache between the calls -/

/-- The cache, and the last instant anything was answered at. -/
structure Shared where
  cache : Cache
  clock : Time

/-- What a step takes from outside: the instant, and the reply if it is a request. -/
structure Outside where
  now : Time
  reply : HttpReply

/-- The clock does not go back.  A call asks nothing but these four things. -/
def Shared.answer (s : Shared) (l : Outside) (q : Question) : Option (Answer q × Shared) :=
  if l.now < s.clock then none
  else
    match q with
    | .now => some (l.now, ⟨s.cache, l.now⟩)
    | .post _ _ _ _ => some (l.reply, ⟨s.cache, l.now⟩)
    | .getCached key =>
        some ((s.cache.getCached l.now key).1, ⟨(s.cache.getCached l.now key).2, l.now⟩)
    | .setCached key decision => some ((), ⟨GoMap.set s.cache key decision, l.now⟩)
    | _ => none

/-- Calls of `Check`, each with its result once it has returned. -/
abbrev Checks (ι : Type) :=
  Journal ι Shared Outside Question Answer fun _ => Except GoString Decision

abbrev Exchange (ι : Type) := Entry ι Outside Question Answer

/-! ### One answer -/

theorem getCached_fresh {cache next : Cache} {now : Time} {key : GoString}
    {decision : CachedDecision} (answered : cache.getCached now key = (some decision, next)) :
    now ≤ decision.expiresAt := by
  have found := getCached_hit answered
  unfold Cache.getCached at answered
  rw [found] at answered
  by_cases expired : decision.expiresAt.before now = true
  · simp only [expired, if_true] at answered
    cases answered
  · exact not_lt.1 fun later => expired (decide_eq_true later)

/-- What an answer tells about the cache and the clock. -/
structure AnswerSpec (s : Shared) (l : Outside) (e : Event) (s' : Shared) : Prop where
  forward : s.clock ≤ l.now
  clock : s'.clock = l.now
  kept : ∀ key decision, GoMap.get s'.cache key = some decision →
    GoMap.get s.cache key = some decision ∨ e = ⟨.setCached key decision, ()⟩
  read : ∀ now, e = ⟨.now, now⟩ → now = l.now
  hit : ∀ key decision, e = ⟨.getCached key, some decision⟩ →
    l.now ≤ decision.expiresAt ∧ GoMap.get s.cache key = some decision

theorem answer_spec {s s' : Shared} {l : Outside} {q : Question} {a : Answer q}
    (answered : s.answer l q = some (a, s')) : AnswerSpec s l ⟨q, a⟩ s' := by
  unfold Shared.answer at answered
  by_cases early : l.now < s.clock
  · rw [if_pos early] at answered
    cases answered
  · rw [if_neg early] at answered
    have forward : s.clock ≤ l.now := not_lt.1 early
    cases q with
    | now =>
        cases answered
        exact ⟨forward, rfl, fun _ _ held => .inl held, fun now same => (by cases same; rfl),
          fun _ _ other => by cases other⟩
    | post query timeout url body =>
        cases answered
        exact ⟨forward, rfl, fun _ _ held => .inl held, fun _ other => (by cases other),
          fun _ _ other => by cases other⟩
    | getCached key =>
        cases answered
        have looked : s.cache.getCached l.now key =
            ((s.cache.getCached l.now key).1, (s.cache.getCached l.now key).2) := rfl
        refine ⟨forward, rfl, fun _ _ held => .inl (get_of_getCached looked held),
          fun _ other => (by cases other), fun key' decision same => ?_⟩
        injection same with question reply
        cases question
        rw [reply] at looked
        exact ⟨getCached_fresh looked, getCached_hit looked⟩
    | setCached key decision =>
        cases answered
        refine ⟨forward, rfl, fun key' decision' held => ?_, fun _ other => (by cases other),
          fun _ _ other => by cases other⟩
        rw [GoMap.get_set] at held
        by_cases same : key' = key
        · rw [if_pos same, Option.some.injEq] at held
          subst same held
          exact .inr rfl
        · rw [if_neg same] at held
          exact .inl held
    | createTemp pattern => cases answered
    | encode file body => cases answered
    | close file => cases answered
    | remove file => cases answered
    | environment => cases answered
    | run query binary args => cases answered

/-! ### All calls -/

section Checks

variable {ι : Type} [DecidableEq ι]

/-- No call has asked anything, and nothing is cached. -/
def Checks.start (digest : GoString → GoString) (r : HTTPRunner)
    (encoded : ι → Except GoString GoString) (clock : Time) : Checks ι where
  store := ⟨∅, clock⟩
  script i := r.checkOf digest (encoded i)
  log := []

def Checks.step : Checks ι → ι × Outside → Option (Checks ι) := Journal.step Shared.answer

/-- What the clock and the cache answer, by what was asked before. -/
structure Served (before : List (Exchange ι)) (e : Exchange ι) : Prop where
  later : ∀ e' ∈ before, e'.label.now ≤ e.label.now
  read : ∀ now, e.event = ⟨.now, now⟩ → now = e.label.now
  hit : ∀ key decision, e.event = ⟨.getCached key, some decision⟩ →
    e.label.now ≤ decision.expiresAt ∧ ∃ e' ∈ before, e'.event = ⟨.setCached key decision, ()⟩

/-- The log explains the cache. -/
structure Explained (t : Checks ι) : Prop where
  served : Each Served t.log
  past : ∀ e ∈ t.log, e.label.now ≤ t.store.clock
  held : ∀ key decision, GoMap.get t.store.cache key = some decision →
    ∃ e ∈ t.log, e.event = ⟨.setCached key decision, ()⟩

theorem explained_step {t t' : Checks ι} {label : ι × Outside} (known : Explained t)
    (moved : t.step label = some t') : Explained t' := by
  obtain ⟨q, next, a, s, -, answered, rfl⟩ := Journal.step_eq_some.1 moved
  have spec := answer_spec answered
  have later : ∀ e ∈ t.log, e.label.now ≤ label.2.now := fun e member =>
    (known.past e member).trans spec.forward
  refine ⟨known.served.concat ⟨later, spec.read, fun key decision same => ?_⟩, ?_, ?_⟩
  · obtain ⟨fresh, held⟩ := spec.hit key decision same
    exact ⟨fresh, known.held key decision held⟩
  · intro e member
    rw [spec.clock]
    rcases List.mem_append.1 member with old | new
    · exact later e old
    · rw [List.mem_singleton.1 new]
  · intro key decision held
    rcases spec.kept key decision held with old | stored
    · obtain ⟨e, member, same⟩ := known.held key decision old
      exact ⟨e, List.mem_append_left _ member, same⟩
    · exact ⟨_, List.mem_append_right _ List.mem_cons_self, stored⟩

/-! ## Where an answer comes from -/

section Runs

variable (digest : GoString → GoString) (r : HTTPRunner) (encoded : ι → Except GoString GoString)

/-- The decision that an earlier call stored under the same encoding after both its queries had
succeeded, looked up no later than the time to live after it was stored. -/
def FromCache (log : List (Exchange ι)) (i : ι) (body : GoString) (decision : Decision) : Prop :=
  ∃ before lookup after earlier store later hit,
    log = before ++ lookup :: after ∧ before = earlier ++ store :: later ∧
    lookup.client = i ∧ lookup.event = ⟨.getCached (digest body), some hit⟩ ∧
    store.event = ⟨.setCached (digest body) hit, ()⟩ ∧ hit.toDecision = decision ∧
    encoded store.client = .ok body ∧
    Answered r body (events store.client earlier) decision ∧
    lookup.label.now ≤ store.label.now.add r.cacheTTL

/-- The answer is what the sidecar returned to the call's own two queries, or it is from the
cache. -/
def Sourced (log : List (Exchange ι)) (i : ι) (decision : Decision) : Prop :=
  ∃ body, encoded i = .ok body ∧
    (Answered r body (events i log) decision ∨ FromCache digest r encoded log i body decision)

/-- No two of the encodings have one digest. -/
def CollisionFree : Prop :=
  ∀ i j body body', encoded i = .ok body → encoded j = .ok body' → digest body = digest body' →
    body = body'

variable {digest r encoded} {clock : Time} {schedule : List (ι × Outside)} {final : Checks ι}

section Reached

variable (ran : Schedule.exec Checks.step (.start digest r encoded clock) schedule = some final)

include ran

/-- What every reached state has: each call has done what a call does, everything stored was to be
stored, and the log explains the cache. -/
theorem reached :
    final.Keeps (fun i => Stores digest r (encoded i))
        (fun i outcome trace => Ended digest r (encoded i) trace outcome) ∧
      Each (fun before e => Stores digest r (encoded e.client) (events e.client before) e.event.1)
        final.log ∧
      Explained final := by
  have keeps : (Checks.start digest r encoded clock).Keeps (fun i => Stores digest r (encoded i))
      (fun i outcome trace => Ended digest r (encoded i) trace outcome) := fun i => checkOf_keeps
  have nothing : ∀ {P : List (Exchange ι) → Exchange ι → Prop}, Each P [] := by
    intro P before e after split
    cases before <;> cases split
  refine ⟨Journal.exec_keeps keeps ran, Journal.exec_each_pre keeps nothing ran, ?_⟩
  refine Schedule.exec_invariant (fun _ _ _ => explained_step) ?_ ran
  refine ⟨nothing, fun e none_ => (by cases none_), fun key decision held => ?_⟩
  rw [show GoMap.get (Checks.start digest r encoded clock).store.cache key = none from
    GoMap.get_empty key] at held
  cases held

/-- What a call returned fits what it asked. -/
theorem ended_of_result {i : ι} {outcome : Except GoString Decision}
    (returned : final.result i = some outcome) :
    Ended digest r (encoded i) (events i final.log) outcome := by
  have keeps := (reached ran).1 i
  unfold Team.result at returned
  cases script : final.script i with
  | ask q next =>
      rw [script] at returned
      cases returned
  | ret result =>
      rw [script] at returned keeps
      cases returned
      exact keeps

/-- A hit is a decision from the cache. -/
theorem fromCache_of_hit (collisionFree : CollisionFree digest encoded) {i : ι} {body : GoString}
    {hit : CachedDecision} (encoding : encoded i = .ok body)
    (found : ⟨.getCached (digest body), some hit⟩ ∈ events i final.log) :
    FromCache digest r encoded final.log i body hit.toDecision := by
  obtain ⟨-, stores, explained⟩ := reached ran
  obtain ⟨lookup, member, client, looked⟩ := mem_events.1 found
  obtain ⟨before, after, split⟩ := List.append_of_mem member
  obtain ⟨fresh, store, member', stored⟩ :=
    (explained.served before lookup after split).hit _ _ looked
  obtain ⟨earlier, later, split'⟩ := List.append_of_mem member'
  have whole : final.log = earlier ++ store :: (later ++ lookup :: after) := by
    rw [split, split', List.append_assoc, List.cons_append]
  have allowed : Stores digest r (encoded store.client) (events store.client earlier)
      store.event.1 := stores earlier store _ whole
  rw [stored] at allowed
  obtain ⟨body', now, encoding', same, answered, read, expires⟩ := allowed
  obtain rfl := collisionFree _ _ _ _ encoding encoding' same
  refine ⟨before, lookup, after, earlier, store, later, hit, split, split', client, looked, stored,
    rfl, encoding', answered, ?_⟩
  -- The instant that was read is no later than that of the store.
  obtain ⟨clock', member'', -, read'⟩ := mem_events.1 read
  obtain ⟨first, rest, split''⟩ := List.append_of_mem member''
  have instant : now = clock'.label.now := (explained.served first clock' _ (by
    rw [whole, split'', List.append_assoc, List.cons_append])).read now read'
  have ordered : clock'.label.now ≤ store.label.now :=
    (explained.served earlier store _ whole).later clock' member''
  rw [expires] at fresh
  calc lookup.label.now ≤ now.add r.cacheTTL := fresh
    _ ≤ store.label.now.add r.cacheTTL := by
        rw [instant]
        exact Int.add_le_add_right ordered _

end Reached

/-! ## A sidecar that is a function -/

/-- Every reply is this function of the query and the body. -/
def Obeys (sidecar : Query → GoString → HttpReply) (log : List (Exchange ι)) : Prop :=
  ∀ e ∈ log, ∀ query timeout url body reply,
    e.event = ⟨.post query timeout url body, reply⟩ → reply = sidecar query body

/-- What the two queries come to. -/
def concluded (sidecar : Query → GoString → HttpReply) (body : GoString) :
    Except GoString Decision :=
  match HTTPRunner.replyOutcome .deny (sidecar .deny (payload body)) with
  | .error err => .error err
  | .ok denies =>
      match HTTPRunner.replyOutcome .warn (sidecar .warn (payload body)) with
      | .error err => .error err
      | .ok warnings => .ok ⟨denies, warnings⟩

/-- What a check comes to. -/
def decided (r : HTTPRunner) (sidecar : Query → GoString → HttpReply)
    (encoded : Except GoString GoString) : Except GoString Decision :=
  if r.baseURL = [] then .ok ⟨[], []⟩
  else
    match wrap (str "serializar cache key de política") encoded with
    | .error err => .error err
    | .ok body => concluded sidecar body

section Function

variable {sidecar : Query → GoString → HttpReply} {log : List (Exchange ι)} {i : ι}
  {body : GoString}

omit [DecidableEq ι] in
theorem Obeys.append {rest : List (Exchange ι)} (obeys : Obeys sidecar (log ++ rest)) :
    Obeys sidecar log := fun e member => obeys e (List.mem_append_left _ member)

theorem Obeys.reply (obeys : Obeys sidecar log) {query : Query} {reply : HttpReply}
    (asked : postOf r body query reply ∈ posts (events i log)) :
    reply = sidecar query (payload body) := by
  obtain ⟨e, member, -, same⟩ := mem_events.1 (List.mem_of_mem_filter asked)
  exact obeys e member _ _ _ _ _ same

theorem concluded_of_answered (obeys : Obeys sidecar log) {decision : Decision}
    (answered : Answered r body (events i log) decision) :
    concluded sidecar body = .ok decision := by
  obtain ⟨reply, reply', asked, denied, warned⟩ := answered
  obtain rfl := obeys.reply (asked ▸ List.mem_cons_self)
  obtain rfl := obeys.reply (asked ▸ List.mem_cons_of_mem _ List.mem_cons_self)
  simp only [concluded, denied, warned]

theorem concluded_of_failed (obeys : Obeys sidecar log) {err : GoString}
    (failed : Failed r body (events i log) err) : concluded sidecar body = .error err := by
  rcases failed with ⟨reply, asked, denied⟩ | ⟨reply, reply', denies, asked, denied, warned⟩
  · obtain rfl := obeys.reply (asked ▸ List.mem_cons_self)
    simp only [concluded, denied]
  · obtain rfl := obeys.reply (asked ▸ List.mem_cons_self)
    obtain rfl := obeys.reply (asked ▸ List.mem_cons_of_mem _ List.mem_cons_self)
    simp only [concluded, denied, warned]

end Function

/-- With such a sidecar every call returns what its own queries come to, cached or not. -/
theorem result_eq_decided
    (ran : Schedule.exec Checks.step (.start digest r encoded clock) schedule = some final)
    (collisionFree : CollisionFree digest encoded) {sidecar : Query → GoString → HttpReply}
    (obeys : Obeys sidecar final.log) {i : ι} {outcome : Except GoString Decision}
    (returned : final.result i = some outcome) : outcome = decided r sidecar (encoded i) := by
  unfold decided
  cases ended_of_result ran returned with
  | idle blank nothing => rw [if_pos blank]
  | unencoded err addressed failed nothing => rw [if_neg addressed, failed, wrap]
  | answered body decision addressed encoding both =>
      rw [if_neg addressed, encoding]
      exact (concluded_of_answered obeys both).symm
  | failed body err addressed encoding some_ nothing =>
      rw [if_neg addressed, encoding]
      exact (concluded_of_failed obeys some_).symm
  | hit body decision addressed encoding found =>
      obtain ⟨before, lookup, after, earlier, store, later, hit, split, split', -, -, -, -, -,
        answered, -⟩ := fromCache_of_hit ran collisionFree encoding found
      rw [if_neg addressed, encoding]
      rw [split, split'] at obeys
      exact (concluded_of_answered obeys.append.append answered).symm

/-! ## Any interleaving -/

/-- **What a cached check answers.**  In every interleaving of calls, whatever the sidecar does: an
answer without error of a runner that has an address is what the sidecar returned to the call's own
two queries, or the decision of an earlier call on the same encoding whose queries both succeeded
and that was stored at most the time to live before; a call that failed has stored nothing; and if
the sidecar is a function of the request, a call with the cache and one without it return the
same. -/
theorem cached_checks (collisionFree : CollisionFree digest encoded)
    (ran : Schedule.exec Checks.step (.start digest r encoded clock) schedule = some final) :
    (r.baseURL ≠ [] → ∀ i decision, final.result i = some (.ok decision) →
      Sourced digest r encoded final.log i decision) ∧
    (∀ i err, final.result i = some (.error err) → NothingStored (events i final.log)) ∧
    ∀ clock' schedule' final', Schedule.exec Checks.step
        (.start digest { r with cacheEnabled := false } encoded clock') schedule' = some final' →
      ∀ sidecar, Obeys sidecar final.log → Obeys sidecar final'.log →
        ∀ i outcome outcome', final.result i = some outcome → final'.result i = some outcome' →
          outcome = outcome' := by
  refine ⟨fun addressed i decision returned => ?_, fun i err returned => ?_, ?_⟩
  · cases ended_of_result ran returned with
    | idle blank nothing => exact absurd blank addressed
    | hit body hit addressed encoding found =>
        exact ⟨body, encoding, .inr (fromCache_of_hit ran collisionFree encoding found)⟩
    | answered body decision addressed encoding both => exact ⟨body, encoding, .inl both⟩
  · cases ended_of_result ran returned with
    | unencoded err addressed failed nothing => exact nothing
    | failed body err addressed encoding some_ nothing => exact nothing
  · intro clock' schedule' final' ran' sidecar obeys obeys' i outcome outcome' returned returned'
    rw [result_eq_decided ran collisionFree obeys returned,
      result_eq_decided ran' collisionFree obeys' returned']
    rfl

end Runs

end Checks

/-! ## Two calls on one input -/

def sidecarRunner : HTTPRunner where
  baseURL := str "http://opa:8181"
  timeout := 2 * GoTime.second
  cacheEnabled := true
  cacheTTL := 30 * GoTime.second

/-- A reply with this one finding. -/
def finding (text : GoString) : HttpReply :=
  .answered 200 ⟨[], some (.obj [(str "result", .arr [.str text])]), []⟩

/-- The first call evaluates, with the clock at 4 when it reads it, and stores; the second one
looks up at the last instant at which the entry is good, when the sidecar is gone. -/
def twoChecks : List (Bool × Outside) :=
  [(false, ⟨1, finding []⟩), (false, ⟨2, finding (str "privileged")⟩),
    (false, ⟨3, finding (str "latest")⟩), (false, ⟨4, finding []⟩), (false, ⟨5, finding []⟩),
    (true, ⟨30000000004, .unreachable (str "refused")⟩)]

theorem cached_checks_two :
    ∃ final, Schedule.exec Checks.step
        (.start id sidecarRunner (fun _ : Bool => .ok (str "\x7b\x7d")) 0) twoChecks = some final ∧
      final.result true = some (.ok ⟨[str "privileged"], [str "latest"]⟩) ∧
      Sourced id sidecarRunner (fun _ : Bool => .ok (str "\x7b\x7d")) final.log true
        ⟨[str "privileged"], [str "latest"]⟩ := by
  have seen : (Schedule.exec Checks.step
      (.start id sidecarRunner (fun _ : Bool => .ok (str "\x7b\x7d")) 0) twoChecks).map
        (fun final : Checks Bool => (final.result true).bind Except.toOption) =
      some (some ⟨[str "privileged"], [str "latest"]⟩) := by decide
  obtain ⟨final, ran, same⟩ := Option.map_eq_some_iff.1 seen
  obtain ⟨outcome, returned, ok⟩ := Option.bind_eq_some_iff.1 same
  cases outcome with
  | error err => cases ok
  | ok decision =>
      cases ok
      have free : CollisionFree id (fun _ : Bool => .ok (str "\x7b\x7d")) :=
        fun _ _ _ _ _ _ same => same
      exact ⟨final, ran, returned,
        (cached_checks free ran).1 (by decide) true _ returned⟩

/-- A runner without an address answers that there is nothing to report, and asks nobody. -/
theorem unaddressed_answer :
    let r : HTTPRunner := { sidecarRunner with baseURL := [] }
    let encoded : Unit → Except GoString GoString := fun _ => .ok (str "\x7b\x7d")
    ∃ final, Schedule.exec Checks.step (.start id r encoded 0) [] = some final ∧
      final.result () = some (.ok ⟨[], []⟩) ∧ ¬ Sourced id r encoded final.log () ⟨[], []⟩ := by
  intro r encoded
  refine ⟨_, rfl, rfl, ?_⟩
  rintro ⟨body, -, ⟨reply, reply', asked, -⟩ | ⟨before, lookup, after, _, _, _, _, split, -⟩⟩
  · cases asked
  · cases before <;> cases split

end SentinelOps.Policy
