import DnsConsole.Proofs.Session.History
import Mathlib.Data.List.Forall2

/-!
# What a session gives away

A username, a password and a token leave a session in two places only: in the `Authorization` header
of a request, and in the entry under which the token is stored.  So two runs that differ in nothing
but such secrets cannot be told apart by the rest of what they do.

* `Outcome.Matches` and `Step.Matches`: outcomes and steps that are the same but for secrets.
* `Trace.Matches` and `Sight.Matches`: what may then be seen to differ.
* `matches_start`: the actions of matching steps match, on storages that match (`Storage.Matches`).
* `matches_run`: the runs match step by step, carried by the relation on the storages.
-/

namespace DnsConsole

/-! ### Outcomes and traces -/

namespace Api

/-- Two outcomes are the same, or both are responses of status 200 that hold a token which is not
empty. -/
inductive Outcome.Matches : Outcome → Outcome → Prop
  | same (o : Outcome) : Matches o o
  | tokens {body body' token token' : String} (h : decodeToken body = .ok token)
    (h' : decodeToken body' = .ok token') (hne : token ≠ "") (hne' : token' ≠ "") :
    Matches (.ok ⟨200, body⟩) (.ok ⟨200, body'⟩)

/-- Two tokens are both empty or both not. -/
def TokensMatch (token token' : String) : Prop :=
  token = "" ↔ token' = ""

/-- Two exchanges fail for the same reason, or both give a token. -/
inductive Exchanged.Matches : Except LoginError String → Except LoginError String → Prop
  | error (e : LoginError) : Matches (.error e) (.error e)
  | ok {token token' : String} (h : TokensMatch token token') : Matches (.ok token) (.ok token')

end Api

/-- Two traces differ at most in the `Authorization` headers of their requests. -/
structure Trace.Matches (a b : Trace) : Prop where
  urls : a.requests.map Api.Request.url = b.requests.map Api.Request.url
  log : a.log = b.log
  navigated : a.navigated = b.navigated

namespace Trace.Matches

theorem refl (a : Trace) : a.Matches a :=
  ⟨rfl, rfl, rfl⟩

theorem append {a a' b b' : Trace} (ha : a.Matches a') (hb : b.Matches b') :
    (a ++ b).Matches (a' ++ b') where
  urls := by simp [ha.urls, hb.urls]
  log := by simp [ha.log, hb.log]
  navigated := by simp [ha.navigated, hb.navigated]

theorem request {r r' : Api.Request} (h : r.url = r'.url) :
    Trace.Matches ⟨[r], [], []⟩ ⟨[r'], [], []⟩ where
  urls := by simp [h]
  log := rfl
  navigated := rfl

end Trace.Matches

namespace Api

theorem exchangeResult_of_decodeToken {server body token : String}
    (h : decodeToken body = .ok token) :
    exchangeResult server (.ok ⟨200, body⟩) = pure (.ok token) := by
  simp [exchangeResult, Response.isOk, h]

/-- The token is the only thing that an exchange makes of the body that holds it. -/
theorem matches_exchangeResult (server : String) {o o' : Outcome} (h : Outcome.Matches o o') :
    (exchangeResult server o).trace.Matches (exchangeResult server o').trace ∧
      Exchanged.Matches (exchangeResult server o).value (exchangeResult server o').value := by
  cases h with
  | same =>
    refine ⟨.refl _, ?_⟩
    cases (exchangeResult server o).value with
    | error e => exact .error e
    | ok token => exact .ok Iff.rfl
  | tokens ht ht' hne hne' =>
    rw [exchangeResult_of_decodeToken ht, exchangeResult_of_decodeToken ht']
    exact ⟨.refl _, .ok ⟨fun h => absurd h hne, fun h => absurd h hne'⟩⟩

/-- A check of a token looks at no body. -/
theorem livenessResult_eq (server : String) {o o' : Outcome} (h : Outcome.Matches o o') :
    livenessResult server o = livenessResult server o' := by
  cases h <;> rfl

end Api

namespace Session

variable {α : Type}

/-! ### Storages -/

/-- Two storages differ at most in the token, which is empty in both of them or in neither. -/
structure Storage.Matches (s t : Entries) : Prop where
  others : ∀ key, key ≠ "authToken" → s.get? key = t.get? key
  token : Option.Rel Api.TokensMatch (s.get? "authToken") (t.get? "authToken")

namespace Storage.Matches

theorem refl (s : Entries) : Storage.Matches s s where
  others _ _ := rfl
  token := by
    generalize s.get? "authToken" = token
    cases token with
    | none => exact .none
    | some token => exact .some Iff.rfl

theorem server? {s t : Entries} (h : Storage.Matches s t) : server? s = server? t :=
  h.others "server" (by decide)

theorem token? {s t : Entries} (h : Storage.Matches s t) :
    (token? s = none ∧ token? t = none) ∨
      ∃ token token', token? s = some token ∧ token? t = some token' := by
  have hs : Session.token? s = (s.get? "authToken").filter fun token => !token.isEmpty := rfl
  have ht : Session.token? t = (t.get? "authToken").filter fun token => !token.isEmpty := rfl
  have hrel := h.token
  rw [hs, ht]
  generalize s.get? "authToken" = stored at hrel
  generalize t.get? "authToken" = stored' at hrel
  cases hrel with
  | none => exact Or.inl ⟨rfl, rfl⟩
  | @some token token' hrel =>
    by_cases hempty : token = ""
    · have hempty' : token' = "" := hrel.mp hempty
      subst hempty hempty'
      exact Or.inl ⟨rfl, rfl⟩
    · have hempty' : token' ≠ "" := fun h => hempty (hrel.mpr h)
      refine Or.inr ⟨token, token', ?_, ?_⟩
      · simp [Option.filter, hempty]
      · simp [Option.filter, hempty']

theorem save {s t : Entries} (h : Storage.Matches s t) (server : String) {token token' : String}
    (ht : Api.TokensMatch token token') :
    Storage.Matches (save s server token) (save t server token') where
  others key hkey := by
    rw [get?_save, get?_save, if_neg hkey, if_neg hkey, h.others key hkey]
  token := by
    have hne : "authToken" ≠ "server" := by decide
    rw [get?_save, get?_save, if_neg hne, if_neg hne, if_pos rfl, if_pos rfl]
    exact .some ht

theorem clear {s t : Entries} (h : Storage.Matches s t) :
    Storage.Matches (clear s) (clear t) where
  others key hkey := by rw [get?_clear, get?_clear, h.others key hkey]
  token := by
    rw [get?_clear, get?_clear, if_pos (Or.inr rfl), if_pos (Or.inr rfl)]
    exact .none

theorem isSome {s t : Entries} (h : Storage.Matches s t) :
    (s.get? "authToken").isSome = (t.get? "authToken").isSome := by
  have hrel := h.token
  generalize s.get? "authToken" = stored at hrel ⊢
  generalize t.get? "authToken" = stored' at hrel ⊢
  cases hrel <;> rfl

end Storage.Matches

/-! ### Actions -/

/-- On storages that match, two changes give the same answer, traces that match and storages that
match. -/
def Change.Matches (f g : Change Entries α) : Prop :=
  ∀ s t, Storage.Matches s t →
    (f s).trace.Matches (g t).trace ∧ (f s).value.1 = (g t).value.1 ∧
      Storage.Matches (f s).value.2 (g t).value.2

/-- Two actions ask the same URL, if they ask at all, and make matching changes of outcomes that
match. -/
inductive Action.Matches : Action Entries α → Action Entries α → Prop
  | now {f g : Change Entries α} (h : f.Matches g) : Matches (.now f) (.now g)
  | call {c d : Api.Call (Change Entries α)} (hurl : c.request.url = d.request.url)
    (h : ∀ o o', Api.Outcome.Matches o o' →
      (c.receive o).trace.Matches (d.receive o').trace ∧
        (c.receive o).value.Matches (d.receive o').value) :
    Matches (.call c) (.call d)

theorem Change.Matches.map {β : Type} {f g : Change Entries α} (k : α → β) (h : f.Matches g) :
    (f.map k).Matches (g.map k) := by
  intro s t hst
  obtain ⟨htrace, hanswer, hstorage⟩ := h s t hst
  refine ⟨?_, congrArg k hanswer, hstorage⟩
  simpa [Change.map] using htrace

theorem Action.Matches.map {β : Type} {a b : Action Entries α} (k : α → β) (h : a.Matches b) :
    (a.map k).Matches (b.map k) := by
  cases h with
  | now h => exact .now (h.map k)
  | call hurl h =>
    refine .call hurl fun o o' ho => ?_
    obtain ⟨htrace, hchange⟩ := h o o' ho
    exact ⟨by simpa [Api.Call.andThen] using htrace, hchange.map k⟩

/-- A change that only answers. -/
theorem matches_pure (a : α) :
    Change.Matches (fun s => (pure (a, s) : Traced (α × Entries))) fun s => pure (a, s) :=
  fun _ _ hst => ⟨.refl _, rfl, hst⟩

/-- A change that writes a record and answers. -/
theorem matches_record (level : Log.Level) (source : Log.Source) (message : String) (a : α) :
    Change.Matches
      (fun s => (do record level source message; return (a, s) : Traced (α × Entries)))
      fun s => do record level source message; return (a, s) :=
  fun _ _ hst => ⟨.refl _, rfl, hst⟩

theorem matches_established (server : String) {r r' : Except Api.LoginError String}
    (h : Api.Exchanged.Matches r r') :
    Change.Matches (established server r) (established server r') := by
  cases h with
  | error e => exact matches_pure _
  | ok ht => exact fun s t hst => ⟨.refl _, rfl, hst.save server ht⟩

/-- Logins to the same server match, whatever the username and the password are. -/
theorem matches_login {k k' : Login.Credentials} (h : k.server = k'.server) :
    Action.Matches (login k) (login k') := by
  refine .call (congrArg (Api.endpoint · Api.tokenPath) h) fun o o' ho => ?_
  obtain ⟨htrace, hvalue⟩ := Api.matches_exchangeResult k.server ho
  rw [h] at htrace hvalue
  have hchange := matches_established k'.server hvalue
  simp only [Api.Call.andThen, Api.exchange, h, Traced.trace_bind, Traced.value_bind,
    Traced.trace_pure, Traced.value_pure, Trace.append_empty]
  exact ⟨htrace, hchange⟩

/-- Checks match when both storages hold a token or neither does. -/
theorem matches_livenessCheck {s t : Entries} (h : Storage.Matches s t) :
    Action.Matches (livenessCheck s) (livenessCheck t) := by
  unfold livenessCheck
  rw [h.server?]
  rcases h.token? with ⟨hs, ht⟩ | ⟨token, token', hs, ht⟩
  · rw [hs, ht]
    exact .now (matches_record _ _ _ false)
  · rw [hs, ht]
    cases server? t with
    | none => exact .now (matches_record _ _ _ false)
    | some server =>
      refine .call rfl fun o o' ho => ?_
      simp only [Api.Call.andThen, Api.liveness, Api.livenessResult_eq server ho]
      exact ⟨.refl _, matches_pure _⟩

theorem matches_logout : Action.Matches logout logout :=
  .now fun _ _ hst => ⟨.refl _, rfl, hst.clear⟩

/-! ### Steps -/

/-- Two steps of a session that differ at most in the usernames and passwords that they are given; if
forms differ, both are accepted. -/
inductive Step.Matches : Step → Step → Prop
  | isLoggedIn : Matches .isLoggedIn .isLoggedIn
  | screen : Matches .screen .screen
  | login {k k' : Login.Credentials} (h : k.server = k'.server) : Matches (.login k) (.login k')
  | submit {server username password server' username' password' : String}
    {k k' : Login.Credentials} (hk : Login.validate server username password = .ok k)
    (hk' : Login.validate server' username' password' = .ok k') (h : k.server = k'.server) :
    Matches (.submit server username password) (.submit server' username' password')
  | again (server username password : String) :
    Matches (.submit server username password) (.submit server username password)
  | logout : Matches .logout .logout

/-- **The actions of matching steps match.** -/
theorem matches_start {step step' : Step} (h : step.Matches step') {s t : Entries}
    (hst : Storage.Matches s t) : Action.Matches (start s step) (start t step') := by
  cases h with
  | isLoggedIn => exact (matches_livenessCheck hst).map _
  | screen => exact (matches_livenessCheck hst).map _
  | login h => exact (matches_login h).map _
  | submit hk hk' h =>
    simp only [start, hk, hk']
    exact (matches_login h).map _
  | again server username password =>
    cases hv : Login.validate server username password with
    | error e =>
      simp only [start, hv]
      exact .now (matches_pure _)
    | ok k =>
      simp only [start, hv]
      exact (matches_login rfl).map _
  | logout => exact matches_logout.map _

/-! ### Runs -/

/-- Scripts whose outcomes match one by one. -/
def Script.Matches (a b : Api.Script) : Prop :=
  List.Forall₂ Api.Outcome.Matches a.outcomes b.outcomes

/-- Two clients match in their storages and in what their transports will answer. -/
structure Client.Matches (c d : Client Entries Api.Script) : Prop where
  storage : Storage.Matches c.storage d.storage
  transport : Script.Matches c.transport d.transport

/-- What is seen of two steps is the same, but for `Authorization` headers and for the stored token,
which is there in both or in neither. -/
structure Sight.Matches (a b : Sight Entries) : Prop where
  answer : a.answer = b.answer
  log : a.trace.log = b.trace.log
  navigated : a.trace.navigated = b.trace.navigated
  urls : a.trace.requests.map Api.Request.url = b.trace.requests.map Api.Request.url
  others : ∀ key, key ≠ "authToken" → a.storage.get? key = b.storage.get? key
  token : (a.storage.get? "authToken").isSome = (b.storage.get? "authToken").isSome

theorem matches_get {a b : Api.Script} (h : Script.Matches a b) (r r' : Api.Request) :
    Api.Outcome.Matches (Api.Transport.get a r).1 (Api.Transport.get b r').1 ∧
      Script.Matches (Api.Transport.get a r).2 (Api.Transport.get b r').2 := by
  obtain ⟨outcomes⟩ := a
  obtain ⟨outcomes'⟩ := b
  have hs : List.Forall₂ Api.Outcome.Matches outcomes outcomes' := h
  cases hs with
  | nil => exact ⟨.same _, .nil⟩
  | cons ho hrest => exact ⟨ho, hrest⟩

/-- **Matching actions done by matching clients look the same and leave matching clients.** -/
theorem matches_run_action {a b : Action Entries α} (h : a.Matches b)
    {c d : Client Entries Api.Script} (hcd : c.Matches d) :
    (a.run c).trace.Matches (b.run d).trace ∧ (a.run c).value.1 = (b.run d).value.1 ∧
      (a.run c).value.2.Matches (b.run d).value.2 := by
  cases h with
  | now h =>
    obtain ⟨htrace, hanswer, hstorage⟩ := h _ _ hcd.storage
    rw [trace_run_now, trace_run_now]
    exact ⟨htrace, hanswer, hstorage, hcd.transport⟩
  | @call x y hurl h =>
    obtain ⟨ho, htransport⟩ := matches_get hcd.transport x.request y.request
    obtain ⟨hreceived, hchange⟩ := h _ _ ho
    obtain ⟨htrace, hanswer, hstorage⟩ := hchange _ _ hcd.storage
    rw [trace_run_call, trace_run_call]
    exact ⟨(Trace.Matches.request hurl).append (hreceived.append htrace), hanswer, hstorage,
      htransport⟩

theorem matches_run_of_client {steps steps' : List Step}
    (h : List.Forall₂ Step.Matches steps steps') : ∀ {c d : Client Entries Api.Script},
      c.Matches d → List.Forall₂ Sight.Matches (run c steps) (run d steps') := by
  induction h with
  | nil => exact fun _ => .nil
  | cons hstep _ ih =>
    intro c d hcd
    obtain ⟨htrace, hanswer, hclient⟩ := matches_run_action (matches_start hstep hcd.storage) hcd
    refine .cons ?_ (ih hclient)
    exact ⟨hanswer, htrace.log, htrace.navigated, htrace.urls, hclient.storage.others,
      hclient.storage.isSome⟩

/-- A client that has stored nothing, and what its transport will answer. -/
def unused (outcomes : List Api.Outcome) : Client Entries Api.Script :=
  ⟨.empty, ⟨outcomes⟩⟩

/-- **Secrets show nowhere but in `Authorization` headers and the stored token.**  Two runs from an
empty storage whose steps differ at most in usernames and passwords, and whose outcomes differ at
most in the tokens that they hold, do the same step by step: the answers, the records, the pages, the
URLs asked and the storage are the same, but for the token, which is stored in both or in neither. -/
theorem matches_run {outcomes outcomes' : List Api.Outcome} {steps steps' : List Step}
    (ho : List.Forall₂ Api.Outcome.Matches outcomes outcomes')
    (hs : List.Forall₂ Step.Matches steps steps') :
    List.Forall₂ Sight.Matches (run (unused outcomes) steps) (run (unused outcomes') steps') :=
  matches_run_of_client hs ⟨.refl _, ho⟩

/-- Another user of the same server, with another token, leaves the same records and asks the same
URLs. -/
theorem matches_run_of_two_users :
    (run (unused [.ok ⟨200, "\x7b\"token\":\"t\"\x7d"⟩, .ok ⟨401, ""⟩])
      [.submit "http://a.test" " admin" "secret", .isLoggedIn]).map
        (fun sight => (sight.trace.log, sight.trace.requests.map Api.Request.url)) =
    (run (unused [.ok ⟨200, "[\"another token\"]"⟩, .ok ⟨401, ""⟩])
      [.submit " http://a.test " "guest" " ", .isLoggedIn]).map
        fun sight => (sight.trace.log, sight.trace.requests.map Api.Request.url) := by
  have ht : Api.decodeToken "\x7b\"token\":\"t\"\x7d" = .ok "t" := by decide +kernel
  have ht' : Api.decodeToken "[\"another token\"]" = .ok "another token" := by decide +kernel
  have hk : Login.validate "http://a.test" " admin" "secret" =
    .ok ⟨"http://a.test", "admin", "secret"⟩ := by decide +kernel
  have hk' : Login.validate " http://a.test " "guest" " " =
    .ok ⟨"http://a.test", "guest", " "⟩ := by decide +kernel
  have ho : List.Forall₂ Api.Outcome.Matches
      [.ok ⟨200, "\x7b\"token\":\"t\"\x7d"⟩, .ok ⟨401, ""⟩]
      [.ok ⟨200, "[\"another token\"]"⟩, .ok ⟨401, ""⟩] :=
    .cons (.tokens ht ht' (by decide) (by decide)) (.cons (.same _) .nil)
  have hs : List.Forall₂ Step.Matches [.submit "http://a.test" " admin" "secret", .isLoggedIn]
      [.submit " http://a.test " "guest" " ", .isLoggedIn] :=
    .cons (.submit hk hk' rfl) (.cons .isLoggedIn .nil)
  have hrun := matches_run ho hs
  rw [← List.forall₂_eq_eq_eq, List.forall₂_map_left_iff, List.forall₂_map_right_iff]
  exact hrun.imp fun a b h => Prod.ext h.log h.urls

end Session

end DnsConsole
