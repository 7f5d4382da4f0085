import DnsConsole.Proofs.Session.Liveness
import Mathlib.Data.List.Forall2

/-!
# Slashes at the end of a server

A server is stored as it was given, with the slashes at its end, and they are dropped when a URL is
made of it (`endpoint_of_slashed`).  So two runs whose servers differ in such slashes hold different
storages throughout and log different texts, but they ask the same of the same servers.

* `Storage.Slashed`: what the storages of the two runs have in common.
* `alike_start`: the actions of related steps make the same request, and of its outcome the same
  answer.
* `alike_step`: done by related clients, they leave related clients.
* `alike_run`: the runs look alike step by step.
-/

namespace DnsConsole

/-! ### Servers -/

namespace Api

/-- The second text is the first one with any number of slashes put behind it. -/
def Slashed (a b : String) : Prop :=
  ∃ n, b = a ++ String.ofList (List.replicate n '/')

theorem Slashed.refl (a : String) : Slashed a a :=
  ⟨0, by simp⟩

theorem dropSlashes_append_replicate (cs : List Char) (n : ℕ) :
    dropSlashes (cs ++ List.replicate n '/') = dropSlashes cs := by
  have hslashes : (List.replicate n '/').dropWhile (· == '/') = [] := by simp
  unfold dropSlashes
  rw [List.reverse_append, List.reverse_replicate, List.dropWhile_append, hslashes]
  rfl

/-- **Slashes behind a server are lost in every URL that is made of it.** -/
theorem endpoint_of_slashed {a b : String} (h : Slashed a b) (path : String) :
    endpoint b path = endpoint a path := by
  obtain ⟨n, rfl⟩ := h
  unfold endpoint
  rw [String.toList_append, String.toList_ofList, dropSlashes_append_replicate]

theorem exchangeRequest_of_slashed {a b : String} (h : Slashed a b) (username password : String) :
    exchangeRequest b username password = exchangeRequest a username password := by
  rw [exchangeRequest, exchangeRequest, endpoint_of_slashed h]

theorem livenessRequest_of_slashed {a b : String} (h : Slashed a b) (token : String) :
    livenessRequest b token = livenessRequest a token := by
  rw [livenessRequest, livenessRequest, endpoint_of_slashed h]

/-- Of the server an exchange makes nothing but log records. -/
theorem value_exchangeResult (a b : String) (o : Outcome) :
    (exchangeResult a o).value = (exchangeResult b o).value := by
  rcases o with e | response
  · simp [exchangeResult]
  · cases hok : response.isOk
    · simp [exchangeResult, hok]
    · cases hd : decodeToken response.body <;> simp [exchangeResult, hok, hd]

theorem value_livenessResult (a b : String) (o : Outcome) :
    (livenessResult a o).value = (livenessResult b o).value := by
  rw [Bool.eq_iff_iff, livenessResult_true_iff, livenessResult_true_iff]

end Api

namespace Session

variable {α τ : Type} [Api.Transport τ]

/-! ### Storages -/

/-- Two storages hold the same token, and the servers in them differ in slashes at their ends, if
there are servers. -/
structure Storage.Slashed (s t : Entries) : Prop where
  token : s.get? "authToken" = t.get? "authToken"
  server : Option.Rel Api.Slashed (s.get? "server") (t.get? "server")

namespace Storage.Slashed

variable {s t : Entries}

theorem token? (h : Storage.Slashed s t) : token? s = token? t := by
  show (s.get? "authToken").filter _ = (t.get? "authToken").filter _
  rw [h.token]

theorem server? (h : Storage.Slashed s t) : Option.Rel Api.Slashed (server? s) (server? t) :=
  h.server

theorem save {a b : String} (hab : Api.Slashed a b) (token : String) :
    Storage.Slashed (save s a token) (save t b token) where
  token := by
    have hne : "authToken" ≠ "server" := by decide
    rw [get?_save, get?_save, if_neg hne, if_neg hne, if_pos rfl, if_pos rfl]
  server := by
    rw [get?_save, get?_save, if_pos rfl, if_pos rfl]
    exact .some hab

theorem clear : Storage.Slashed (clear s) (clear t) where
  token := by rw [get?_clear, get?_clear, if_pos (Or.inr rfl), if_pos (Or.inr rfl)]
  server := by
    rw [get?_clear, get?_clear, if_pos (Or.inl rfl), if_pos (Or.inl rfl)]
    exact .none

end Storage.Slashed

/-! ### Actions -/

/-- Two actions make the same request, if they make one, and come to the same answer with its outcome,
on whatever storages. -/
inductive Action.Alike : Action Entries α → Action Entries α → Prop
  | now {f g : Change Entries α} (h : ∀ s t, (f s).value.1 = (g t).value.1) :
    Alike (.now f) (.now g)
  | call {c d : Api.Call (Change Entries α)} (hrequest : c.request = d.request)
    (h : ∀ o s t, ((c.receive o).value s).value.1 = ((d.receive o).value t).value.1) :
    Alike (.call c) (.call d)

namespace Action.Alike

variable {a b : Action Entries α}

theorem map {β : Type} (k : α → β) (h : a.Alike b) : (a.map k).Alike (b.map k) := by
  cases h with
  | now h => exact .now fun s t => congrArg k (h s t)
  | call hrequest h => exact .call hrequest fun o s t => congrArg k (h o s t)

theorem request? (h : a.Alike b) : a.request? = b.request? := by
  cases h with
  | now => rfl
  | call hrequest => exact congrArg some hrequest

theorem answer (h : a.Alike b) {c d : Client Entries τ} (htransport : c.transport = d.transport) :
    (a.run c).value.1 = (b.run d).value.1 := by
  cases h with
  | now h => exact h c.storage d.storage
  | call hrequest h =>
    rw [value_run_call, value_run_call, hrequest, htransport]
    exact h _ c.storage d.storage

end Action.Alike

theorem alike_ofCall (c : Api.Call α) : (Action.ofCall c).Alike (.ofCall c) :=
  .call rfl fun _ _ _ => rfl

theorem alike_login {a b : String} (h : Api.Slashed a b) (username password : String) :
    Action.Alike (login ⟨a, username, password⟩) (login ⟨b, username, password⟩) := by
  refine .call (Api.exchangeRequest_of_slashed h username password).symm fun o s t => ?_
  show (established a (Api.exchangeResult a o).value s).value.1 =
    (established b (Api.exchangeResult b o).value t).value.1
  rw [established_answer, established_answer, Api.value_exchangeResult a b]

theorem alike_livenessCheck {s t : Entries} (h : Storage.Slashed s t) :
    (livenessCheck s).Alike (livenessCheck t) := by
  have hserver := h.server?
  unfold livenessCheck
  rw [h.token?]
  generalize server? s = stored at hserver ⊢
  generalize server? t = stored' at hserver ⊢
  cases token? t with
  | none => exact .now fun _ _ => rfl
  | some token =>
    cases hserver with
    | none => exact .now fun _ _ => rfl
    | @some a b hab =>
      refine .call (Api.livenessRequest_of_slashed hab token).symm fun o s t => ?_
      show (verdict a (Api.livenessResult a o).value).value =
        (verdict b (Api.livenessResult b o).value).value
      rw [verdict_value, verdict_value, Api.value_livenessResult a b]

/-! ### Steps -/

/-- Two steps of the console are the same, or they are logins whose servers differ in slashes at their
ends. -/
inductive Step.Slashed : Step → Step → Prop
  | login {a b : String} (h : Api.Slashed a b) (username password : String) :
    Slashed (.login ⟨a, username, password⟩) (.login ⟨b, username, password⟩)
  | same {step : Step} (h : step.Ordinary) : Slashed step step

theorem Step.Slashed.ordinary {step step' : Step} (h : step.Slashed step') :
    step.Ordinary ∧ step'.Ordinary := by
  cases h with
  | login => exact ⟨.login _, .login _⟩
  | same h => exact ⟨h, h⟩

theorem alike_start {step step' : Step} (h : step.Slashed step') {s t : Entries}
    (hst : Storage.Slashed s t) : (start s step).Alike (start t step') := by
  cases h with
  | login h username password => exact (alike_login h username password).map _
  | same h =>
    cases h with
    | isLoggedIn => exact (alike_livenessCheck hst).map _
    | screen => exact (alike_livenessCheck hst).map _
    | login k => exact (alike_login (.refl k.server) k.username k.password).map _
    | submit server username password =>
      cases hv : Login.validate server username password with
      | error e =>
        simp only [start, hv]
        exact .now fun _ _ => rfl
      | ok k =>
        simp only [start, hv]
        exact (alike_login (.refl k.server) k.username k.password).map _
    | logout => exact .now fun _ _ => rfl
    | lookup url page => exact (alike_ofCall _).map _
    | discover settings page => exact (alike_ofCall _).map _

/-- Two turns of a session are the same, or they are logins whose servers differ in slashes at their
ends. -/
inductive Turn.Slashed : Option Turn → Option Turn → Prop
  | login {a b : String} (h : Api.Slashed a b) (token : String) :
    Slashed (some (.login a token)) (some (.login b token))
  | same (turn : Option Turn) : Slashed turn turn

theorem Step.Slashed.turn {step step' : Step} (h : step.Slashed step') (o : Option Api.Outcome) :
    Turn.Slashed (step.turn? o) (step'.turn? o) := by
  cases h with
  | @login a b h username password =>
    have ha : (Step.login ⟨a, username, password⟩).server? = some a := rfl
    have hb : (Step.login ⟨b, username, password⟩).server? = some b := rfl
    rw [Step.turn?_of_server? ha, Step.turn?_of_server? hb]
    cases o.bind Api.token? with
    | none => exact .same none
    | some token => exact .login h token
  | same => exact .same _

namespace Turn.Slashed

variable {turn turn' : Option Turn}

theorem apply (h : Turn.Slashed turn turn') {s t : Entries} (hst : Storage.Slashed s t) :
    Storage.Slashed (Turn.apply s turn) (Turn.apply t turn') := by
  cases h with
  | login h token => exact .save h token
  | same =>
    match turn with
    | none => exact hst
    | some (.login server token) => exact .save (.refl server) token
    | some .logout => exact .clear

theorem pages (h : Turn.Slashed turn turn') : Turn.pages turn = Turn.pages turn' := by
  cases h <;> rfl

end Turn.Slashed

/-! ### Runs -/

/-- Two clients differ at most in slashes behind the stored server, and in entries that are not of the
session. -/
structure Client.Slashed (c d : Client Entries τ) : Prop where
  storage : Storage.Slashed c.storage d.storage
  transport : c.transport = d.transport

/-- What is seen of two steps is the same answer, the same requests and the same pages, over storages
that differ at most in slashes behind the server and in entries that are not of the session. -/
structure Sight.Alike (a b : Sight Entries) : Prop where
  answer : a.answer = b.answer
  requests : a.trace.requests = b.trace.requests
  navigated : a.trace.navigated = b.trace.navigated
  storage : Storage.Slashed a.storage b.storage

/-- **Related steps of related clients look alike and leave related clients.** -/
theorem alike_step {step step' : Step} (h : step.Slashed step') {c d : Client Entries τ}
    (hcd : c.Slashed d) :
    Sight.Alike (Moment.sight ⟨c, step⟩) (Moment.sight ⟨d, step'⟩) ∧
      (step.run c).value.2.Slashed (step'.run d).value.2 := by
  obtain ⟨hstep, hstep'⟩ := h.ordinary
  have halike := alike_start h hcd.storage
  have hrequest := halike.request?
  have houtcome : Moment.outcome? ⟨c, step⟩ = Moment.outcome? ⟨d, step'⟩ := by
    unfold Moment.outcome?
    rw [outcome?_eq_map, outcome?_eq_map, hrequest, hcd.transport]
  have hturn : Turn.Slashed (Moment.turn? ⟨c, step⟩) (Moment.turn? ⟨d, step'⟩) := by
    rw [turn?_eq hstep, turn?_eq hstep', houtcome]
    exact h.turn _
  have hsight : Sight.Alike (Moment.sight ⟨c, step⟩) (Moment.sight ⟨d, step'⟩) := by
    refine ⟨halike.answer hcd.transport, ?_, ?_, ?_⟩
    · rw [requests_sight hstep, requests_sight hstep']
      exact congrArg Option.toList hrequest
    · rw [navigated_sight hstep, navigated_sight hstep']
      exact hturn.pages
    · rw [storage_sight hstep, storage_sight hstep']
      exact hturn.apply hcd.storage
  refine ⟨hsight, hsight.storage, ?_⟩
  unfold Step.run
  rw [transport_run, transport_run, hrequest, hcd.transport]

/-- **Slashes at the end of a server never matter.**  Two runs of the console's steps over the same
transport, whose logins and whose initially stored servers differ only in slashes at the ends of the
servers, make the same requests and give the same answers, step by step. -/
theorem alike_run {steps steps' : List Step} (hsteps : List.Forall₂ Step.Slashed steps steps')
    {c d : Client Entries τ} (hcd : c.Slashed d) :
    List.Forall₂ Sight.Alike (run c steps) (run d steps') := by
  induction hsteps generalizing c d with
  | nil => exact .nil
  | cons hstep _ ih =>
    obtain ⟨hsight, hclient⟩ := alike_step hstep hcd
    exact .cons hsight (ih hclient)

theorem requests_eq_of_alike {xs ys : List (Sight Entries)} (h : List.Forall₂ Sight.Alike xs ys) :
    xs.map (fun sight => sight.trace.requests) = ys.map fun sight => sight.trace.requests := by
  rw [← List.forall₂_eq_eq_eq, List.forall₂_map_left_iff, List.forall₂_map_right_iff]
  exact h.imp fun _ _ h => h.requests

/-- A client that holds a token of a server, and the responses that it will be given. -/
def signedIn (server : String) : Client Entries Api.Script :=
  ⟨Session.save .empty server "t",
    ⟨[.ok ⟨200, ""⟩, .ok ⟨200, "\x7b\"token\":\"u\"\x7d"⟩, .ok ⟨403, ""⟩]⟩⟩

/-- A check, a login to another server, a check there and a logout, with slashes behind both servers. -/
theorem alike_run_with_slashes :
    (run (signedIn "http://b.test///")
      [.isLoggedIn, .login ⟨"http://a.test//", "admin", "secret"⟩, .isLoggedIn, .logout]).map
        (fun sight => sight.trace.requests) =
      [[⟨"http://b.test/1/run", some "Bearer t"⟩],
        [⟨"http://a.test/1/auth_token", some "Basic YWRtaW46c2VjcmV0"⟩],
        [⟨"http://a.test/1/run", some "Bearer u"⟩], []] := by
  have hserver : Api.Slashed "http://b.test/" "http://b.test///" := ⟨2, by decide⟩
  have hserver' : Api.Slashed "http://a.test" "http://a.test//" := ⟨2, by decide⟩
  have hclient : (signedIn "http://b.test/").Slashed (signedIn "http://b.test///") :=
    ⟨.save hserver "t", rfl⟩
  have hsteps : List.Forall₂ Step.Slashed
      [.isLoggedIn, .login ⟨"http://a.test", "admin", "secret"⟩, .isLoggedIn, .logout]
      [.isLoggedIn, .login ⟨"http://a.test//", "admin", "secret"⟩, .isLoggedIn, .logout] :=
    .cons (.same .isLoggedIn) (.cons (.login hserver' "admin" "secret")
      (.cons (.same .isLoggedIn) (.cons (.same .logout) .nil)))
  rw [← requests_eq_of_alike (alike_run hsteps hclient)]
  decide +kernel

end Session

end DnsConsole
