import DnsConsole.Session.Step

/-!
# What a step does to a session

The steps of the console itself are liveness checks, logins, logouts and discoveries (`Ordinary`).
Each is an action that makes at most one request, so two questions settle what it does: which
request (`Action.request?`), and what the step makes of the outcome and of the storage of that
moment.

* The storage changes in two ways only: a login whose outcome grants a token writes the session, a
  logout erases it (`Step.turn?`, `storage_run`).
* A login succeeds exactly when its outcome grants a token (`exchangeResult_ok_iff`).
* What is made of an outcome makes no request of its own, so that the requests of a step are the
  request of its action (`requests_run`).
-/

namespace DnsConsole

/-! ### Outcomes -/

namespace Api

/-- The token that an outcome grants: the one in the body of a response of status 200. -/
def token? : Outcome → Option String
  | .error _ => none
  | .ok response => if response.status = 200 then (decodeToken response.body).toOption else none

theorem token?_eq_some_iff {o : Outcome} {token : String} :
    token? o = some token ↔
      ∃ response, o = .ok response ∧ response.status = 200 ∧
        decodeToken response.body = .ok token := by
  rcases o with e | response
  · simp [token?]
  · by_cases h : response.status = 200
    · cases hd : decodeToken response.body <;> simp [token?, h, hd, Except.toOption]
    · simp [token?, h]

/-- An exchange succeeds exactly with the token that its outcome grants. -/
theorem exchangeResult_ok_iff {server token : String} {o : Outcome} :
    (exchangeResult server o).value = .ok token ↔ token? o = some token := by
  rcases o with e | response
  · simp [exchangeResult, token?]
  · by_cases h : response.status = 200
    · have hok : response.isOk = true := by simp [Response.isOk, h]
      cases hd : decodeToken response.body <;>
        simp [exchangeResult, token?, h, hok, hd, Except.toOption]
    · have hok : response.isOk = false := by simp [Response.isOk, h]
      simp [exchangeResult, token?, h, hok]

theorem token?_of_exchangeResult_error {server : String} {o : Outcome} {e : LoginError}
    (h : (exchangeResult server o).value = .error e) : token? o = none := by
  refine Option.eq_none_iff_forall_not_mem.mpr fun token ht => ?_
  have hok : (exchangeResult server o).value = .ok token := exchangeResult_ok_iff.mpr ht
  rw [h] at hok
  cases hok

theorem exchangeResult_trace (server : String) (o : Outcome) :
    (exchangeResult server o).trace.requests = [] ∧
      (exchangeResult server o).trace.navigated = [] := by
  rcases o with e | response
  · exact ⟨rfl, rfl⟩
  · cases hok : response.isOk
    · simp [exchangeResult, hok, record]
    · cases hd : decodeToken response.body <;> simp [exchangeResult, hok, hd, record]

theorem livenessResult_trace (server : String) (o : Outcome) :
    (livenessResult server o).trace.requests = [] ∧
      (livenessResult server o).trace.navigated = [] := by
  rcases o with e | response <;> simp [livenessResult, record]

theorem livenessResult_true_iff {server : String} {o : Outcome} :
    (livenessResult server o).value = true ↔
      ∃ response, o = .ok response ∧ response.status = 200 := by
  rcases o with e | response <;> simp [livenessResult, Response.isOk]

end Api

namespace Session

variable {σ τ : Type} {α : Type}

/-! ### Running an action -/

/-- The request of an action, if it makes one. -/
def Action.request? : Action σ α → Option Api.Request
  | .now _ => none
  | .call c => some c.request

/-- What comes of the request of an action, if it makes one. -/
def Action.outcome? [Api.Transport τ] (t : τ) : Action σ α → Option Api.Outcome
  | .now _ => none
  | .call c => some (Api.Transport.get t c.request).1

theorem request?_map {β : Type} (f : α → β) (a : Action σ α) : (a.map f).request? = a.request? := by
  cases a <;> rfl

section run
variable [Api.Transport τ]

/-- What comes of an action is settled by its request. -/
theorem outcome?_eq_map (t : τ) (a : Action σ α) :
    a.outcome? t = a.request?.map fun r => (Api.Transport.get t r).1 := by
  cases a <;> rfl

/-- So is the transport after it. -/
theorem transport_run (a : Action σ α) (c : Client σ τ) :
    (a.run c).value.2.transport =
      (a.request?.map fun r => (Api.Transport.get c.transport r).2).getD c.transport := by
  cases a <;> rfl

theorem value_run_now (change : Change σ α) (c : Client σ τ) :
    ((Action.now change).run c).value =
      ((change c.storage).value.1, ⟨(change c.storage).value.2, c.transport⟩) := rfl

theorem trace_run_now (change : Change σ α) (c : Client σ τ) :
    ((Action.now change).run c).trace = (change c.storage).trace := by
  simp [Action.run]

theorem value_run_call (call : Api.Call (Change σ α)) (c : Client σ τ) :
    ((Action.call call).run c).value =
      let o := Api.Transport.get c.transport call.request
      let r := (call.receive o.1).value c.storage
      (r.value.1, ⟨r.value.2, o.2⟩) := rfl

theorem trace_run_call (call : Api.Call (Change σ α)) (c : Client σ τ) :
    ((Action.call call).run c).trace =
      let o := Api.Transport.get c.transport call.request
      let r := call.receive o.1
      ⟨[call.request], [], []⟩ ++ (r.trace ++ (r.value c.storage).trace) := by
  simp [Action.run, Api.Call.run, send, Trace.append_assoc]

end run

/-! ### Turns of a session -/

/-- What happens to a session: it begins with a login or ends with a logout. -/
inductive Turn
  | login (server token : String)
  | logout
  deriving DecidableEq, Repr

variable [Storage σ]

/-- The storage after a turn, if there is one. -/
def Turn.apply (s : σ) : Option Turn → σ
  | none => s
  | some (.login server token) => save s server token
  | some .logout => clear s

/-- The pages that the browser is sent to at a turn. -/
def Turn.pages : Option Turn → List String
  | some (.login _ _) => ["/"]
  | _ => []

/-- What is made of the storage is a turn of the session, and no request is made. -/
structure Change.Makes (change : Change σ α) (turn : Option Turn) : Prop where
  requests : ∀ s, (change s).trace.requests = []
  navigated : ∀ s, (change s).trace.navigated = Turn.pages turn
  storage : ∀ s, (change s).value.2 = Turn.apply s turn

/-- **What an action does**: the turn that belongs to the outcome of its request, and no other
request. -/
def Action.Does (turn : Option Api.Outcome → Option Turn) : Action σ α → Prop
  | .now change => change.Makes (turn none)
  | .call c => ∀ o, (c.receive o).trace.requests = [] ∧ (c.receive o).trace.navigated = [] ∧
      (c.receive o).value.Makes (turn (some o))

theorem Change.Makes.map {β : Type} {change : Change σ α} {turn : Option Turn} (f : α → β)
    (h : change.Makes turn) : (change.map f).Makes turn where
  requests s := by simp [Change.map, h.requests]
  navigated s := by simp [Change.map, h.navigated]
  storage s := h.storage s

theorem Action.Does.map {β : Type} {a : Action σ α} {turn : Option Api.Outcome → Option Turn}
    (f : α → β) (h : a.Does turn) : (a.map f).Does turn := by
  cases a with
  | now change => exact Change.Makes.map f h
  | call c =>
    intro o
    obtain ⟨hr, hn, hm⟩ := h o
    exact ⟨by simp [Api.Call.andThen, hr], by simp [Api.Call.andThen, hn], hm.map f⟩

/-- A change that only answers is no turn. -/
theorem makes_pure (a : α) :
    Change.Makes (fun s : σ => (pure (a, s) : Traced (α × σ))) none :=
  ⟨fun _ => rfl, fun _ => rfl, fun _ => rfl⟩

/-- A call that is only answered is no turn. -/
theorem does_ofCall {c : Api.Call α}
    (h : ∀ o, (c.receive o).trace.requests = [] ∧ (c.receive o).trace.navigated = []) :
    (Action.ofCall c : Action σ α).Does fun _ => none := by
  intro o
  obtain ⟨hr, hn⟩ := h o
  exact ⟨by simp [Api.Call.andThen, hr], by simp [Api.Call.andThen, hn], makes_pure _⟩

/-! ### The actions of a session -/

/-- A liveness check asks the stored server about the stored token, or says at once that the session
is not alive if one of them is missing. -/
theorem livenessCheck_cases (s : σ) :
    (∃ token server, token? s = some token ∧ server? s = some server ∧
      livenessCheck s = .ofCall ((Api.liveness server token).andThen (verdict server))) ∨
    ((token? s = none ∨ server? s = none) ∧ ∃ message, livenessCheck s = .now fun s => do
      record .debug .session message
      return (false, s)) := by
  unfold livenessCheck
  cases ht : token? s with
  | none => exact Or.inr ⟨Or.inl rfl, _, rfl⟩
  | some token =>
    cases hs : server? s with
    | none => exact Or.inr ⟨Or.inr rfl, _, rfl⟩
    | some server => exact Or.inl ⟨token, server, rfl, rfl, rfl⟩

theorem livenessCheck_of_some {s : σ} {server token : String} (hs : server? s = some server)
    (ht : token? s = some token) :
    livenessCheck s = .ofCall ((Api.liveness server token).andThen (verdict server)) := by
  rcases livenessCheck_cases s with ⟨token', server', ht', hs', hc⟩ | ⟨hnone, -⟩
  · cases ht.symm.trans ht'
    cases hs.symm.trans hs'
    exact hc
  · rcases hnone with h | h
    · cases ht.symm.trans h
    · cases hs.symm.trans h

theorem livenessCheck_of_none {s : σ} (h : token? s = none) :
    ∃ message, livenessCheck s = .now fun s => do
      record .debug .session message
      return (false, s) := by
  rcases livenessCheck_cases s with ⟨token, server, ht, -, -⟩ | ⟨-, hc⟩
  · cases ht.symm.trans h
  · exact hc

theorem verdict_trace (server : String) (alive : Bool) :
    (verdict server alive).trace.requests = [] ∧ (verdict server alive).trace.navigated = [] := by
  cases alive <;> simp [verdict, record]

theorem does_livenessCheck (s : σ) : (livenessCheck s).Does fun _ => none := by
  rcases livenessCheck_cases s with ⟨token, server, -, -, hc⟩ | ⟨-, message, hc⟩
  · rw [hc]
    refine does_ofCall fun o => ?_
    obtain ⟨hr, hn⟩ := Api.livenessResult_trace server o
    obtain ⟨hvr, hvn⟩ := verdict_trace server (Api.livenessResult server o).value
    simp [Api.Call.andThen, Api.liveness, hr, hn, hvr, hvn]
  · rw [hc]
    exact ⟨fun _ => rfl, fun _ => rfl, fun _ => rfl⟩

theorem established_makes (server : String) (o : Api.Outcome) :
    (established server (Api.exchangeResult server o).value : Change σ _).Makes
      ((Api.token? o).map (Turn.login server)) := by
  cases h : (Api.exchangeResult server o).value with
  | error e =>
    rw [Api.token?_of_exchangeResult_error h]
    exact makes_pure _
  | ok token =>
    rw [Api.exchangeResult_ok_iff.mp h]
    exact ⟨fun _ => rfl, fun _ => rfl, fun _ => rfl⟩

theorem established_answer (server : String) (r : Except Api.LoginError String) (s : σ) :
    (established server r s).value.1 = r.map fun _ => () := by
  cases r <;> rfl

theorem does_login (k : Login.Credentials) :
    (login k : Action σ _).Does fun o => (o.bind Api.token?).map (Turn.login k.server) := by
  intro o
  obtain ⟨hr, hn⟩ := Api.exchangeResult_trace k.server o
  exact ⟨by simp [Api.Call.andThen, Api.exchange, hr], by simp [Api.Call.andThen, Api.exchange, hn],
    established_makes k.server o⟩

theorem does_logout : (logout : Action σ Unit).Does fun _ => some .logout :=
  ⟨fun _ => rfl, fun _ => rfl, fun _ => rfl⟩

theorem does_lookup (url page : String) :
    (Action.ofCall (Discovery.lookup url page) : Action σ _).Does fun _ => none :=
  does_ofCall fun _ => ⟨rfl, rfl⟩

theorem does_discover (settings : Discovery.Settings) (page : String) :
    (Action.ofCall (Discovery.discover settings page) : Action σ _).Does fun _ => none := by
  refine does_ofCall fun o => ?_
  cases h : Discovery.lookupResult page o <;>
    simp [Discovery.discover, Discovery.lookup, Api.Call.andThen, Discovery.proposal, h, record]

/-! ### Steps of the console -/

/-- The steps that the console does by itself; the others look at the storage, write to it or call a
server directly. -/
inductive Step.Ordinary : Step → Prop
  | isLoggedIn : Ordinary .isLoggedIn
  | screen : Ordinary .screen
  | login (credentials : Login.Credentials) : Ordinary (.login credentials)
  | submit (server username password : String) : Ordinary (.submit server username password)
  | logout : Ordinary .logout
  | lookup (discoveryUrl pageUrl : String) : Ordinary (.lookup discoveryUrl pageUrl)
  | discover (settings : Discovery.Settings) (pageUrl : String) :
    Ordinary (.discover settings pageUrl)

/-- The server that a step logs in to. -/
def Step.server? : Step → Option String
  | .login credentials => some credentials.server
  | .submit typed _ _ => some (Text.trim typed)
  | _ => none

/-- The turn that a step gives the session when its request has come out as told. -/
def Step.turn? (step : Step) (o : Option Api.Outcome) : Option Turn :=
  match step with
  | .logout => some .logout
  | _ => step.server?.bind fun server => (o.bind Api.token?).map (Turn.login server)

theorem Step.turn?_of_server? {step : Step} {o : Option Api.Outcome} {server : String}
    (h : step.server? = some server) :
    step.turn? o = (o.bind Api.token?).map (Turn.login server) := by
  cases step with
  | logout => cases h
  | _ => simp only [Step.turn?, h, Option.bind_some]

theorem validate_eq (server username password : String) :
    Login.validate server username password =
      if Text.trim server = "" ∨ Text.trim username = "" ∨ password = "" then .error .missingFields
      else .ok ⟨Text.trim server, Text.trim username, password⟩ := by
  unfold Login.validate
  dsimp only
  by_cases h : Text.trim server = "" ∨ Text.trim username = "" ∨ password = ""
  · rw [if_pos h, if_pos (by simpa [or_assoc] using h)]
  · rw [if_neg h, if_neg (by simpa [or_assoc] using h)]

theorem validate_ok {server username password : String} {k : Login.Credentials}
    (h : Login.validate server username password = .ok k) :
    k = ⟨Text.trim server, Text.trim username, password⟩ := by
  rw [validate_eq] at h
  split at h
  · cases h
  · exact (Except.ok.inj h).symm

/-- **Every step of the console does its turn and nothing else.** -/
theorem does_start {step : Step} (h : step.Ordinary) (s : σ) : (start s step).Does step.turn? := by
  cases h with
  | isLoggedIn => exact (does_livenessCheck s).map _
  | screen => exact (does_livenessCheck s).map _
  | login k => exact (does_login k).map _
  | submit server username password =>
    cases hv : Login.validate server username password with
    | error e =>
      simp only [start, hv]
      exact makes_pure _
    | ok k =>
      simp only [start, hv]
      cases validate_ok hv
      exact (does_login _).map _
  | logout => exact does_logout.map _
  | lookup url page => exact (does_lookup url page).map _
  | discover settings page => exact (does_discover settings page).map _

section run
variable [Api.Transport τ]

/-- **The storage after an action is that after its turn.** -/
theorem storage_run {a : Action σ α} {turn : Option Api.Outcome → Option Turn} (h : a.Does turn)
    (c : Client σ τ) :
    (a.run c).value.2.storage = Turn.apply c.storage (turn (a.outcome? c.transport)) := by
  cases a with
  | now change => exact h.storage c.storage
  | call call => exact (h _).2.2.storage c.storage

/-- **The requests of an action are its own.** -/
theorem requests_run {a : Action σ α} {turn : Option Api.Outcome → Option Turn} (h : a.Does turn)
    (c : Client σ τ) : (a.run c).trace.requests = a.request?.toList := by
  cases a with
  | now change =>
    rw [trace_run_now]
    exact h.requests c.storage
  | call call =>
    obtain ⟨hr, -, hm⟩ := h (Api.Transport.get c.transport call.request).1
    rw [trace_run_call]
    simp [hr, hm.requests, Action.request?]

/-- **The browser is sent where the turn of an action sends it.** -/
theorem navigated_run {a : Action σ α} {turn : Option Api.Outcome → Option Turn} (h : a.Does turn)
    (c : Client σ τ) :
    (a.run c).trace.navigated = Turn.pages (turn (a.outcome? c.transport)) := by
  cases a with
  | now change =>
    rw [trace_run_now]
    exact h.navigated c.storage
  | call call =>
    obtain ⟨-, hn, hm⟩ := h (Api.Transport.get c.transport call.request).1
    rw [trace_run_call]
    simp [hn, hm.navigated, Action.outcome?]

/-- A login answers what its exchange comes to. -/
theorem answer_login (k : Login.Credentials) (c : Client σ τ) :
    ((login k).run c).value.1 =
      (Api.exchangeResult k.server (Api.Transport.get c.transport
        (Api.exchangeRequest k.server k.username k.password)).1).value.map fun _ => () :=
  established_answer k.server _ c.storage

/-- A login succeeds exactly when its outcome grants a token. -/
theorem login_ok_iff {k : Login.Credentials} {c : Client σ τ} :
    ((login k).run c).value.1 = .ok () ↔
      ∃ token, Api.token? (Api.Transport.get c.transport
        (Api.exchangeRequest k.server k.username k.password)).1 = some token := by
  rw [answer_login]
  cases h : (Api.exchangeResult k.server _).value with
  | error e => simp [Except.map, Api.token?_of_exchangeResult_error h]
  | ok token => simp [Except.map, Api.exchangeResult_ok_iff.mp h]

end run

end Session

end DnsConsole
