import DnsConsole.Proofs.Session.History

/-!
# Steps that overlap

Nothing orders the calls of a browser tab: a step reads the storage and sends its request, and when
the request comes out the storage may have changed.  `Traffic` is the state between such moments,
and `Event` is what happens next, either that a step starts or that one of the calls in flight is
answered, with any outcome.  The steps of a run done one after the other are one order of events
(`Traffic.after_eventsOf`).

In every order the stored server and the stored token come from one login, and a token that is sent
goes to the server that gave it: `stored_pair_of_one_login`.
-/

namespace DnsConsole.Session

variable {σ τ : Type} [Storage σ]

/-! ### Events -/

/-- A call in flight, and the step that made it. -/
structure Flight (σ : Type) where
  step : Step
  call : Api.Call (Change σ Answer)

/-- The state between two events: the storage, the calls in flight, what was done so far, and the
calls that were answered with their outcomes. -/
structure Traffic (σ : Type) where
  storage : σ
  inFlight : List (Flight σ)
  trace : Trace
  answered : List (Step × Api.Outcome)

/-- What may happen next: a step starts, or the call in flight at an index is answered. -/
inductive Event
  | start (step : Step)
  | answer (index : Nat) (outcome : Api.Outcome)

namespace Traffic

/-- A storage before anything has happened. -/
def idle (s : σ) : Traffic σ := ⟨s, [], ∅, []⟩

/-- The start of an action that belongs to a step. -/
def started (t : Traffic σ) (step : Step) : Action σ Answer → Traffic σ
  | .now change =>
    let r := change t.storage
    { t with storage := r.value.2, trace := t.trace ++ r.trace }
  | .call call =>
    { t with
      inFlight := t.inFlight ++ [⟨step, call⟩]
      trace := t.trace ++ ⟨[call.request], [], []⟩ }

/-- The answer to a call, in the storage of this moment. -/
def received (t : Traffic σ) (f : Flight σ) (o : Api.Outcome) (others : List (Flight σ)) :
    Traffic σ :=
  let r := f.call.receive o
  let changed := r.value t.storage
  ⟨changed.value.2, others, t.trace ++ (r.trace ++ changed.trace), t.answered ++ [(f.step, o)]⟩

/-- The state after an event; a call that is not in flight cannot be answered. -/
def next (t : Traffic σ) : Event → Traffic σ
  | .start step => t.started step (Session.start t.storage step)
  | .answer i o =>
    match t.inFlight[i]? with
    | none => t
    | some f => t.received f o (t.inFlight.eraseIdx i)

/-- The state after events. -/
def after (t : Traffic σ) (events : List Event) : Traffic σ := events.foldl next t

end Traffic

/-! ### One step after the other -/

/-- The events of a step that is done without a break. -/
def Step.events [Api.Transport τ] (step : Step) (c : Client σ τ) : List Event :=
  .start step :: ((start c.storage step).outcome? c.transport).toList.map (Event.answer 0)

/-- The events of a run. -/
def eventsOf [Api.Transport τ] : Client σ τ → List Step → List Event
  | _, [] => []
  | c, step :: steps => step.events c ++ eventsOf (step.run c).value.2 steps

namespace Traffic

theorem after_append (t : Traffic σ) (xs ys : List Event) :
    t.after (xs ++ ys) = (t.after xs).after ys :=
  List.foldl_append

theorem after_events [Api.Transport τ] (step : Step) {c : Client σ τ} {t : Traffic σ}
    (hstorage : t.storage = c.storage) (hidle : t.inFlight = []) :
    (t.after (step.events c)).storage = (step.run c).value.2.storage ∧
      (t.after (step.events c)).inFlight = [] ∧
      (t.after (step.events c)).trace = t.trace ++ (step.run c).trace := by
  obtain ⟨s, flights, trace, answered⟩ := t
  cases hstorage
  cases hidle
  unfold Step.events Step.run
  cases ha : start c.storage step with
  | now change =>
    rw [trace_run_now, value_run_now]
    simp [Action.outcome?, after, next, ha, started]
  | call call =>
    rw [trace_run_call, value_run_call]
    simp [Action.outcome?, after, next, ha, started, received, Trace.append_assoc]

theorem after_eventsOf_of_idle [Api.Transport τ] (steps : List Step) : ∀ {c : Client σ τ}
    {t : Traffic σ}, t.storage = c.storage → t.inFlight = [] →
      (t.after (eventsOf c steps)).storage = (Session.after c steps).storage ∧
      (t.after (eventsOf c steps)).trace.requests =
        t.trace.requests ++ (Session.run c steps).flatMap fun sight => sight.trace.requests := by
  induction steps with
  | nil =>
    intro c t hstorage _
    exact ⟨hstorage, (List.append_nil _).symm⟩
  | cons step steps ih =>
    intro c t hstorage hidle
    obtain ⟨hs, hi, htrace⟩ := after_events step hstorage hidle
    obtain ⟨ihs, iht⟩ := ih hs hi
    rw [eventsOf, after_append]
    refine ⟨ihs, ?_⟩
    rw [iht, htrace, Session.run, List.flatMap_cons, Trace.requests_append, List.append_assoc]

/-- **A run is one order of events.** -/
theorem after_eventsOf [Api.Transport τ] (c : Client σ τ) (steps : List Step) :
    ((idle c.storage).after (eventsOf c steps)).storage = (Session.after c steps).storage ∧
      ((idle c.storage).after (eventsOf c steps)).trace.requests =
        (Session.run c steps).flatMap fun sight => sight.trace.requests :=
  after_eventsOf_of_idle steps rfl rfl

end Traffic

/-! ### Grants -/

/-- The call is a login to the server, and it was answered with the token. -/
def Grants (server token : String) (a : Step × Api.Outcome) : Prop :=
  a.1.server? = some server ∧ ∃ response, a.2 = .ok response ∧ response.status = 200 ∧
    Api.decodeToken response.body = .ok token

theorem grants_of_turn? {step : Step} {o : Api.Outcome} {server token : String}
    (h : step.turn? (some o) = some (.login server token)) : Grants server token (step, o) := by
  cases hs : step.server? with
  | none => cases step <;> simp [Step.turn?, hs] at h
  | some server' =>
    rw [Step.turn?_of_server? hs, Option.bind_some] at h
    obtain ⟨token', ht, hturn⟩ := Option.map_eq_some_iff.mp h
    obtain ⟨rfl, rfl⟩ := Turn.login.inj hturn
    exact ⟨hs, Api.token?_eq_some_iff.mp ht⟩

theorem turn?_none_ne_login (step : Step) (server token : String) :
    step.turn? none ≠ some (.login server token) := by
  intro h
  cases hs : step.server? with
  | none => cases step <;> simp [Step.turn?, hs] at h
  | some server' =>
    rw [Step.turn?_of_server? hs] at h
    cases h

/-! ### The request of a step -/

theorem basicHeader_ne_bearer (username password token : String) :
    Api.basicHeader username password ≠ "Bearer " ++ token := by
  intro h
  have hchars := congrArg String.toList h
  simp [Api.basicHeader] at hchars

theorem bearer_of_livenessCheck {s : σ} {r : Api.Request} {token : String}
    (hr : (livenessCheck s).request? = some r) (ha : r.authorization = some ("Bearer " ++ token)) :
    ∃ server, server? s = some server ∧ token? s = some token ∧
      r.url = Api.endpoint server "/1/run" := by
  rcases livenessCheck_cases s with ⟨token', server, ht, hs, hc⟩ | ⟨-, message, hc⟩
  · rw [hc] at hr
    cases Option.some.inj hr
    have htoken : token' = token := String.append_right_inj _ |>.mp (Option.some.inj ha)
    exact ⟨server, hs, htoken ▸ ht, rfl⟩
  · rw [hc] at hr
    cases hr

/-- A step that sends a token has read it in the storage, together with the server that it goes to.
-/
theorem bearer_of_start {step : Step} (h : step.Ordinary) {s : σ} {r : Api.Request}
    {token : String} (hr : (start s step).request? = some r)
    (ha : r.authorization = some ("Bearer " ++ token)) :
    ∃ server, server? s = some server ∧ token? s = some token ∧
      r.url = Api.endpoint server "/1/run" := by
  have hlogin (k : Login.Credentials) : (start s (.login k)).request? ≠ some r := by
    intro hk
    cases Option.some.inj hk
    exact basicHeader_ne_bearer _ _ _ (Option.some.inj ha)
  cases h with
  | isLoggedIn => exact bearer_of_livenessCheck ((request?_map _ _).symm.trans hr) ha
  | screen => exact bearer_of_livenessCheck ((request?_map _ _).symm.trans hr) ha
  | login k => exact absurd hr (hlogin k)
  | submit server username password =>
    rcases start_submit s server username password with ⟨e, hs⟩ | hs
    · rw [hs] at hr
      cases hr
    · rw [hs] at hr
      exact absurd hr (hlogin _)
  | logout => cases hr
  | lookup url page =>
    cases Option.some.inj hr
    cases ha
  | discover settings page =>
    cases Option.some.inj hr
    cases ha

/-! ### The stored pair -/

/-- What is stored of a session is of one piece: nothing, or the server and the token of one login.
-/
def OfOneLogin (e : Entries) (answered : List (Step × Api.Outcome)) : Prop :=
  (e.get? "server" = none ∧ e.get? "authToken" = none) ∨
    ∃ a ∈ answered, ∃ server token, Grants server token a ∧
      e.get? "server" = some server ∧ e.get? "authToken" = some token

/-- A token in a request comes from a login to the server that the request goes to. -/
def TokenAtHome (r : Api.Request) (answered : List (Step × Api.Outcome)) : Prop :=
  ∀ token, r.authorization = some ("Bearer " ++ token) →
    ∃ a ∈ answered, ∃ server, Grants server token a ∧ r.url = Api.endpoint server "/1/run"

theorem OfOneLogin.apply {e : Entries} {old new : List (Step × Api.Outcome)} {turn : Option Turn}
    (h : OfOneLogin e old) (hsub : old ⊆ new)
    (hturn : ∀ server token, turn = some (.login server token) → ∃ a ∈ new, Grants server token a) :
    OfOneLogin (Turn.apply e turn) new := by
  unfold OfOneLogin
  rw [get?_apply, get?_apply]
  rcases turn with _ | ⟨server, token⟩ | _
  · rcases h with hnone | ⟨a, ha, hpair⟩
    · exact Or.inl hnone
    · exact Or.inr ⟨a, hsub ha, hpair⟩
  · obtain ⟨a, ha, hgrants⟩ := hturn server token rfl
    exact Or.inr ⟨a, ha, server, token, hgrants, rfl, rfl⟩
  · exact Or.inl ⟨rfl, rfl⟩

theorem TokenAtHome.mono {r : Api.Request} {old new : List (Step × Api.Outcome)}
    (h : TokenAtHome r old) (hsub : old ⊆ new) : TokenAtHome r new := by
  intro token hr
  obtain ⟨a, ha, hgrants⟩ := h token hr
  exact ⟨a, hsub ha, hgrants⟩

/-- The request of a step that starts on such a storage. -/
theorem tokenAtHome_start {e : Entries} {answered : List (Step × Api.Outcome)} {step : Step}
    {r : Api.Request} (h : OfOneLogin e answered) (hstep : step.Ordinary)
    (hr : (start e step).request? = some r) : TokenAtHome r answered := by
  intro token ha
  obtain ⟨server, hs, ht, hurl⟩ := bearer_of_start hstep hr ha
  have htoken : e.get? "authToken" = some token := (Option.filter_eq_some_iff.mp ht).1
  rcases h with ⟨hnone, -⟩ | ⟨a, hmem, server', token', hgrants, hs', ht'⟩
  · cases hnone.symm.trans hs
  · cases Option.some.inj (hs'.symm.trans hs)
    cases Option.some.inj (ht'.symm.trans htoken)
    exact ⟨a, hmem, _, hgrants, hurl⟩

/-! ### What every event preserves -/

namespace Traffic

theorem mem_inFlight_started {σ : Type} {t : Traffic σ} {step : Step} {a : Action σ Answer}
    {f : Flight σ} (hf : f ∈ (t.started step a).inFlight) :
    f ∈ t.inFlight ∨ (f.step = step ∧ a = .call f.call) := by
  cases a with
  | now change => exact Or.inl hf
  | call call =>
    rcases List.mem_append.mp hf with hf | hf
    · exact Or.inl hf
    · cases List.mem_singleton.mp hf
      exact Or.inr ⟨rfl, rfl⟩

section started

variable {t : Traffic σ} {step : Step} {a : Action σ Answer} {turn : Option Api.Outcome → Option Turn}

/-- A step that sends a request leaves the storage as it is; any other has its turn at once. -/
theorem storage_started (h : a.Does turn) :
    (t.started step a).storage = t.storage ∨
      (t.started step a).storage = Turn.apply t.storage (turn none) := by
  cases a with
  | now change => exact Or.inr (h.storage t.storage)
  | call call => exact Or.inl rfl

theorem requests_started (h : a.Does turn) :
    (t.started step a).trace.requests = t.trace.requests ++ a.request?.toList := by
  cases a with
  | now change =>
    show t.trace.requests ++ (change t.storage).trace.requests = _
    rw [h.requests]
    rfl
  | call call => rfl

end started

section received

variable {t : Traffic σ} {f : Flight σ} {s : σ} (hstep : f.step.Ordinary)
  (hs : Session.start s f.step = .call f.call) (o : Api.Outcome) (others : List (Flight σ))

include hstep hs

/-- A call that is answered has its turn on the storage of this moment. -/
theorem storage_received :
    (t.received f o others).storage = Turn.apply t.storage (f.step.turn? (some o)) := by
  have hdoes := does_start hstep s
  rw [hs] at hdoes
  exact (hdoes o).2.2.storage t.storage

theorem requests_received : (t.received f o others).trace.requests = t.trace.requests := by
  have hdoes := does_start hstep s
  rw [hs] at hdoes
  obtain ⟨hrequests, -, hmakes⟩ := hdoes o
  simp [received, hrequests, hmakes.requests]

end received

/-- The calls in flight are those of steps of the console, what is stored is of one piece, and no
token was sent to another server than its own. -/
structure Unmixed (t : Traffic Entries) : Prop where
  flights : ∀ f ∈ t.inFlight, f.step.Ordinary ∧ ∃ s : Entries, Session.start s f.step = .call f.call
  stored : OfOneLogin t.storage t.answered
  sent : ∀ r ∈ t.trace.requests, TokenAtHome r t.answered

theorem unmixed_idle {e : Entries} (hserver : e.get? "server" = none)
    (htoken : e.get? "authToken" = none) : (idle e).Unmixed where
  flights f hf := by cases hf
  stored := Or.inl ⟨hserver, htoken⟩
  sent r hr := by cases hr

-- A step that starts reads both keys in the same moment, so what it sends belongs together even if
-- the storage is another one when the answer comes.
theorem unmixed_started {t : Traffic Entries} (h : t.Unmixed) {step : Step}
    (hstep : step.Ordinary) : (t.started step (Session.start t.storage step)).Unmixed := by
  have hdoes := does_start hstep t.storage
  have hanswered : (t.started step (Session.start t.storage step)).answered = t.answered := by
    cases Session.start t.storage step <;> rfl
  refine ⟨fun f hf => ?_, ?_, fun r hr => ?_⟩
  · rcases mem_inFlight_started hf with hf | ⟨rfl, hcall⟩
    · exact h.flights f hf
    · exact ⟨hstep, t.storage, hcall⟩
  · rw [hanswered]
    rcases storage_started hdoes with hs | hs
    · rw [hs]
      exact h.stored
    · rw [hs]
      exact h.stored.apply (List.Subset.refl _) fun server token hturn =>
        absurd hturn (turn?_none_ne_login step server token)
  · rw [hanswered]
    rw [requests_started hdoes] at hr
    rcases List.mem_append.mp hr with hr | hr
    · exact h.sent r hr
    · exact tokenAtHome_start h.stored hstep (Option.mem_toList.mp hr)

theorem unmixed_received {t : Traffic Entries} (h : t.Unmixed) {f : Flight Entries}
    (hf : f ∈ t.inFlight) (o : Api.Outcome) {others : List (Flight Entries)}
    (hothers : others ⊆ t.inFlight) : (t.received f o others).Unmixed := by
  obtain ⟨hstep, s, hs⟩ := h.flights f hf
  have hsub : t.answered ⊆ (t.received f o others).answered := List.subset_append_left _ _
  refine ⟨fun f' hf' => h.flights f' (hothers hf'), ?_, fun r hr => ?_⟩
  · rw [storage_received hstep hs]
    exact h.stored.apply hsub fun server token hturn =>
      ⟨(f.step, o), List.mem_append_right _ List.mem_cons_self, grants_of_turn? hturn⟩
  · rw [requests_received hstep hs] at hr
    exact (h.sent r hr).mono hsub

theorem unmixed_next {t : Traffic Entries} (h : t.Unmixed) {event : Event}
    (hevent : ∀ step, event = .start step → step.Ordinary) : (t.next event).Unmixed := by
  cases event with
  | start step => exact unmixed_started h (hevent step rfl)
  | answer i o =>
    cases hf : t.inFlight[i]? with
    | none =>
      simp only [next, hf]
      exact h
    | some f =>
      simp only [next, hf]
      exact unmixed_received h (List.mem_of_getElem? hf) o List.eraseIdx_subset

theorem unmixed_after (events : List Event) : ∀ {t : Traffic Entries}, t.Unmixed →
    (∀ step, Event.start step ∈ events → step.Ordinary) → (t.after events).Unmixed := by
  induction events with
  | nil => exact fun h _ => h
  | cons event events ih =>
    intro t h hevents
    refine ih (unmixed_next h fun step hstep => hevents step ?_) fun step hstep =>
      hevents step (List.mem_cons_of_mem _ hstep)
    rw [hstep]
    exact List.mem_cons_self

end Traffic

/-- **The stored pair is never mixed.**  From a storage without a session and after any events,
either no server and no token is stored, or one login has been answered whose server and token these
are; and every token that was sent went to a server that a login was answered at with this token. -/
theorem stored_pair_of_one_login {e : Entries} (hserver : e.get? "server" = none)
    (htoken : e.get? "authToken" = none) {events : List Event}
    (h : ∀ step, Event.start step ∈ events → step.Ordinary) :
    OfOneLogin ((Traffic.idle e).after events).storage ((Traffic.idle e).after events).answered ∧
      ∀ r ∈ ((Traffic.idle e).after events).trace.requests,
        TokenAtHome r ((Traffic.idle e).after events).answered := by
  have hunmixed := Traffic.unmixed_after events (Traffic.unmixed_idle hserver htoken) h
  exact ⟨hunmixed.stored, hunmixed.sent⟩

/-- Two logins that overlap, and a check between their answers: the one that was sent first is
answered last. -/
def lateLogin : List Event :=
  [.start (.login ⟨"http://a.test", "admin", "secret"⟩),
    .start (.login ⟨"http://b.test", "admin", "secret"⟩),
    .answer 1 (.ok ⟨200, "\x7b\"token\":\"u\"\x7d"⟩),
    .start .isLoggedIn,
    .answer 0 (.ok ⟨200, "\x7b\"token\":\"t\"\x7d"⟩)]

/-- The late login replaces both the server and the token of the other, and the check in between
has asked the other server about its own token. -/
theorem stored_pair_of_late_login :
    (∀ step, Event.start step ∈ lateLogin → step.Ordinary) ∧
    (∃ a ∈ ((Traffic.idle Entries.empty).after lateLogin).answered,
      Grants "http://a.test" "t" a ∧
      ((Traffic.idle Entries.empty).after lateLogin).storage.get? "server" = some "http://a.test" ∧
      ((Traffic.idle Entries.empty).after lateLogin).storage.get? "authToken" = some "t") ∧
    ∃ a ∈ ((Traffic.idle Entries.empty).after lateLogin).answered, ∃ server,
      Grants server "u" a ∧ "http://b.test/1/run" = Api.endpoint server "/1/run" := by
  have h : ∀ step, Event.start step ∈ lateLogin → step.Ordinary := by
    intro step hstep
    simp only [lateLogin, List.mem_cons, Event.start.injEq, List.not_mem_nil, or_false,
      reduceCtorEq, false_or] at hstep
    rcases hstep with rfl | rfl | rfl
    · exact .login _
    · exact .login _
    · exact .isLoggedIn
  have hserver : ((Traffic.idle Entries.empty).after lateLogin).storage.get? "server" =
    some "http://a.test" := by decide +kernel
  have htoken : ((Traffic.idle Entries.empty).after lateLogin).storage.get? "authToken" =
    some "t" := by decide +kernel
  have hsent : (⟨"http://b.test/1/run", some "Bearer u"⟩ : Api.Request) ∈
    ((Traffic.idle Entries.empty).after lateLogin).trace.requests := by decide +kernel
  obtain ⟨hstored, hhome⟩ := stored_pair_of_one_login (e := Entries.empty) rfl rfl h
  refine ⟨h, ?_, hhome _ hsent "u" rfl⟩
  rcases hstored with ⟨hnone, -⟩ | ⟨a, ha, server, token, hgrants, hs, ht⟩
  · cases hnone.symm.trans hserver
  · cases Option.some.inj (hs.symm.trans hserver)
    cases Option.some.inj (ht.symm.trans htoken)
    exact ⟨a, ha, hgrants, hs, ht⟩

end DnsConsole.Session
