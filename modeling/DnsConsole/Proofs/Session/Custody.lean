import DnsConsole.Proofs.Session.History

/-!
# Whom a session tells what

A username and a password go to the server that they were typed in for, and a token goes to the
server that gave it.  Over a whole run the second is a matter of the past: the server and the token
are stored under two keys, and a liveness check puts together what it finds there.

`dueRequests` says which requests a step may make when the last login that succeeded or logout is
known; `requests_eq_due` says that these are the requests that it makes.
-/

namespace DnsConsole.Session

variable {σ τ : Type} [Storage σ] [Api.Transport τ]

/-- The requests that a step makes when the last login or logout before it, if there was one, is as
told. -/
def dueRequests (turn : Option Turn) : Step → List Api.Request
  | .isLoggedIn | .screen =>
    match turn with
    | some (.login server token) =>
      if token = "" then [] else [⟨Api.endpoint server "/1/run", some ("Bearer " ++ token)⟩]
    | _ => []
  | .login k =>
    [⟨Api.endpoint k.server "/1/auth_token", some (Api.basicHeader k.username k.password)⟩]
  | .submit server username password =>
    if Text.trim server = "" ∨ Text.trim username = "" ∨ password = "" then []
    else [⟨Api.endpoint (Text.trim server) "/1/auth_token",
      some (Api.basicHeader (Text.trim username) password)⟩]
  | .lookup url _ => [⟨url, none⟩]
  | .discover settings _ => [⟨settings.discoveryUrl, none⟩]
  | _ => []

/-! ### The request of a check -/

theorem request?_livenessCheck_some {s : σ} {server token : String} (hs : server? s = some server)
    (ht : token? s = some token) :
    (livenessCheck s).request? = some (Api.livenessRequest server token) := by
  rw [livenessCheck_of_some hs ht]
  rfl

theorem request?_livenessCheck_none {s : σ} (h : token? s = none) :
    (livenessCheck s).request? = none := by
  obtain ⟨message, hc⟩ := livenessCheck_of_none h
  rw [hc]
  rfl

/-- What a check asks when the storage holds what a login or logout left there. -/
theorem request?_livenessCheck {initial e : Entries} {turn : Option Turn}
    (ht : initial.get? "authToken" = none) (h : ∀ key, e.get? key = entryAfter initial turn key) :
    (livenessCheck e).request?.toList = dueRequests turn .isLoggedIn := by
  have hserver : server? e = entryAfter initial turn "server" := h "server"
  have htoken : token? e = (entryAfter initial turn "authToken").filter fun t => !t.isEmpty := by
    rw [← h "authToken"]
    rfl
  rcases turn with _ | ⟨server, token⟩ | _
  · rw [show entryAfter initial none "authToken" = none from ht] at htoken
    rw [request?_livenessCheck_none htoken]
    rfl
  · by_cases hempty : token = ""
    · subst hempty
      rw [request?_livenessCheck_none htoken]
      rfl
    · have hfull : token? e = some token := by
        rw [htoken]
        simp [entryAfter, Option.filter, hempty]
      rw [request?_livenessCheck_some hserver hfull]
      simp [dueRequests, hempty, Api.livenessRequest, Api.runPath, Api.bearerHeader]
  · rw [request?_livenessCheck_none htoken]
    rfl

/-! ### The request of a form -/

theorem request?_submit (s : σ) (turn : Option Turn) (server username password : String) :
    (start s (.submit server username password)).request?.toList =
      dueRequests turn (.submit server username password) := by
  have hv := validate_eq server username password
  simp only [dueRequests]
  by_cases h : Text.trim server = "" ∨ Text.trim username = "" ∨ password = ""
  · rw [if_pos h] at hv ⊢
    simp only [start, hv]
    rfl
  · rw [if_neg h] at hv ⊢
    simp only [start, hv]
    rfl

/-- **Credentials only travel to the server they belong to.**  In a run of the console's steps that
begins without a session, the requests of every step are those that are due after the steps before
it: a token goes, at a liveness check, to the server of the last login that succeeded, as long as no
logout came after it; a username and a password go to the server that they were given with; a
discovery tells nothing. -/
theorem requests_eq_due {c : Client Entries τ} {steps : List Step}
    (htoken : c.storage.get? "authToken" = none) (h : ∀ step ∈ steps, step.Ordinary)
    {past future : List (Moment Entries τ)} {m : Moment Entries τ}
    (hm : moments c steps = past ++ m :: future) :
    m.sight.trace.requests = dueRequests (lastTurn past) m.step := by
  obtain ⟨xs, ys, rfl, rfl, hclient⟩ := moments_eq_append_cons hm
  have hentries := get?_after c xs fun step hs => h step (by simp [hs])
  rw [← hclient] at hentries
  have hcheck := request?_livenessCheck htoken hentries
  have hstep : m.step.Ordinary := h m.step (by simp)
  rw [requests_sight hstep]
  obtain ⟨client, step⟩ := m
  cases hstep with
  | isLoggedIn => exact (congrArg Option.toList (request?_map _ _)).trans hcheck
  | screen => exact (congrArg Option.toList (request?_map _ _)).trans hcheck
  | login k => rfl
  | submit server username password => exact request?_submit _ _ server username password
  | logout => rfl
  | lookup url page => rfl
  | discover settings page => rfl

/-- A rejected login to another server leaves the token with its own. -/
theorem requests_after_rejected_login :
    (Moment.sight ⟨after (⟨.empty, ⟨[.ok ⟨200, "\x7b\"token\":\"t\"\x7d"⟩, .ok ⟨401, ""⟩]⟩⟩ :
        Client Entries Api.Script)
      [.login ⟨"http://a.test", "admin", "secret"⟩, .login ⟨"http://b.test", "admin", "secret"⟩],
        .isLoggedIn⟩).trace.requests = [⟨"http://a.test/1/run", some "Bearer t"⟩] := by
  have hsteps : ∀ step ∈ [Step.login ⟨"http://a.test", "admin", "secret"⟩,
      .login ⟨"http://b.test", "admin", "secret"⟩, .isLoggedIn], step.Ordinary := by
    simp [Step.Ordinary.login, Step.Ordinary.isLoggedIn]
  rw [requests_eq_due rfl hsteps (moments_append_cons _ [_, _] _ [])]
  decide +kernel

end DnsConsole.Session
