import DnsConsole.Proofs.Session.History

/-!
# Checking a session

A liveness check asks the stored server about the stored token and believes a response of status 200
(`requests_check`, `check_true_iff`); without a server, without a token or with an empty one it asks
nobody and says no (`check_of_token?_none`).

A login stores any token that a response holds, also an empty one.  So the session that it begins is
one that a check can ask about (`Live`) exactly when the token is not empty: `live_after_login_iff`.
-/

namespace DnsConsole.Session

variable {σ τ : Type} [Storage σ] [Api.Transport τ]

/-! ### What a check asks and answers -/

/-- A check of a session with a server and a token is one request to the server, with the token. -/
theorem requests_check {c : Client σ τ} {server token : String}
    (hs : server? c.storage = some server) (ht : token? c.storage = some token) :
    ((livenessCheck c.storage).run c).trace.requests = [Api.livenessRequest server token] := by
  rw [requests_run (does_livenessCheck c.storage), livenessCheck_of_some hs ht]
  rfl

theorem verdict_value (server : String) (alive : Bool) : (verdict server alive).value = alive := by
  cases alive <;> rfl

/-- Its answer is yes exactly for a response of status 200. -/
theorem check_true_iff {c : Client σ τ} {server token : String}
    (hs : server? c.storage = some server) (ht : token? c.storage = some token) :
    ((livenessCheck c.storage).run c).value.1 = true ↔
      ∃ response,
        (Api.Transport.get c.transport (Api.livenessRequest server token)).1 = .ok response ∧
          response.status = 200 := by
  rw [livenessCheck_of_some hs ht]
  show (verdict server (Api.livenessResult server _).value).value = true ↔ _
  rw [verdict_value, Api.livenessResult_true_iff]
  rfl

/-- Without a token nobody is asked, and the answer is no. -/
theorem check_of_token?_none {c : Client σ τ} (h : token? c.storage = none) :
    ((livenessCheck c.storage).run c).trace.requests = [] ∧
      ((livenessCheck c.storage).run c).value.1 = false := by
  obtain ⟨message, hc⟩ := livenessCheck_of_none h
  rw [requests_run (does_livenessCheck c.storage), hc]
  exact ⟨rfl, rfl⟩

/-! ### After a login -/

/-- The session of a client can be asked about: its token is read back, and a check is one request
to the server with the token, answered by the status of the response. -/
structure Live (server token : String) (c : Client Entries τ) : Prop where
  read : token? c.storage = some token
  requests : ((livenessCheck c.storage).run c).trace.requests =
    [⟨Api.endpoint server "/1/run", some ("Bearer " ++ token)⟩]
  answer : ((livenessCheck c.storage).run c).value.1 = true ↔
    ∃ response, (Api.Transport.get c.transport
      ⟨Api.endpoint server "/1/run", some ("Bearer " ++ token)⟩).1 = .ok response ∧
        response.status = 200

theorem server?_save (e : Entries) (server token : String) :
    server? (save e server token) = some server := by
  show (save e server token).get? "server" = _
  rw [get?_save, if_pos rfl]

theorem token?_save (e : Entries) (server token : String) :
    token? (save e server token) = if token = "" then none else some token := by
  show ((save e server token).get? "authToken").filter (fun t => !t.isEmpty) = _
  rw [get?_save]
  by_cases h : token = "" <;> simp [Option.filter, h]

theorem live_save_iff {e : Entries} {t : τ} {server token : String} :
    Live server token (⟨save e server token, t⟩ : Client Entries τ) ↔ token ≠ "" := by
  constructor
  · intro hlive hempty
    have htoken := hlive.read
    rw [token?_save, if_pos hempty] at htoken
    cases htoken
  · intro hne
    have hs := server?_save e server token
    have ht := token?_save e server token
    rw [if_neg hne] at ht
    exact ⟨ht, requests_check (c := ⟨save e server token, t⟩) hs ht,
      check_true_iff (c := ⟨save e server token, t⟩) hs ht⟩

/-- The storage after a login that succeeds holds the token of the response. -/
theorem login_ok_cases {c : Client Entries τ} {k : Login.Credentials}
    (h : ((login k).run c).value.1 = .ok ()) :
    ∃ token, Api.token? (Api.Transport.get c.transport
        (Api.exchangeRequest k.server k.username k.password)).1 = some token ∧
      ((login k).run c).value.2.storage = save c.storage k.server token := by
  obtain ⟨token, ht⟩ := login_ok_iff.mp h
  refine ⟨token, ht, ?_⟩
  rw [storage_run (does_login k)]
  show Turn.apply c.storage ((Api.token? (Api.Transport.get c.transport
    (Api.exchangeRequest k.server k.username k.password)).1).map (Turn.login k.server)) = _
  rw [ht]
  rfl

/-- **A login that succeeds begins a session that can be asked about, unless its token is empty.**
With an empty token the login succeeds all the same, and the next check asks nobody and says no. -/
theorem live_after_login_iff {c : Client Entries τ} {k : Login.Credentials}
    (h : ((login k).run c).value.1 = .ok ()) :
    ∃ response token,
      (Api.Transport.get c.transport
        (Api.exchangeRequest k.server k.username k.password)).1 = .ok response ∧
      response.status = 200 ∧ Api.decodeToken response.body = .ok token ∧
      (Live k.server token ((login k).run c).value.2 ↔ token ≠ "") ∧
      (token = "" → token? ((login k).run c).value.2.storage = none ∧
        ((livenessCheck ((login k).run c).value.2.storage).run
          ((login k).run c).value.2).trace.requests = [] ∧
        ((livenessCheck ((login k).run c).value.2.storage).run
          ((login k).run c).value.2).value.1 = false) := by
  obtain ⟨token, ht, hstorage⟩ := login_ok_cases h
  obtain ⟨response, ho, hstatus, hbody⟩ := Api.token?_eq_some_iff.mp ht
  refine ⟨response, token, ho, hstatus, hbody, ?_, ?_⟩
  · have hlive : Live k.server token
        (⟨save c.storage k.server token, ((login k).run c).value.2.transport⟩ : Client Entries τ) ↔
          token ≠ "" := live_save_iff
    rwa [← hstorage] at hlive
  · intro hempty
    have hnone : token? ((login k).run c).value.2.storage = none := by
      rw [hstorage, token?_save, if_pos hempty]
    exact ⟨hnone, check_of_token?_none hnone⟩

/-- A client without a session whose next response has status 200 and the body. -/
def promised (body : String) : Client Entries Api.Script :=
  ⟨.empty, ⟨[.ok ⟨200, body⟩]⟩⟩

/-- A login with a token begins a session that can be asked about. -/
theorem live_after_login_with_token :
    ((login ⟨"http://dns.test", "admin", "secret"⟩).run
      (promised "\x7b\"token\":\"t\"\x7d")).value.1 = .ok () ∧
    Live "http://dns.test" "t" ((login ⟨"http://dns.test", "admin", "secret"⟩).run
      (promised "\x7b\"token\":\"t\"\x7d")).value.2 := by
  have hbody : Api.decodeToken "\x7b\"token\":\"t\"\x7d" = .ok "t" := by decide +kernel
  have h : ((login ⟨"http://dns.test", "admin", "secret"⟩).run
      (promised "\x7b\"token\":\"t\"\x7d")).value.1 = .ok () :=
    login_ok_iff.mpr ⟨"t", Api.token?_eq_some_iff.mpr ⟨_, rfl, rfl, hbody⟩⟩
  obtain ⟨response, token, ho, -, htoken, hlive, -⟩ := live_after_login_iff h
  cases Except.ok.inj ho
  cases Except.ok.inj (hbody.symm.trans htoken)
  exact ⟨h, hlive.mpr (by decide)⟩

/-- A login whose response holds an empty token succeeds, and its session cannot be asked about. -/
theorem not_live_after_empty_token :
    ¬ ∀ (c : Client Entries Api.Script) (k : Login.Credentials),
      ((login k).run c).value.1 = .ok () →
        ∃ token, Live k.server token ((login k).run c).value.2 := by
  intro h
  have hbody : Api.decodeToken "\x7b\"token\":\"\"\x7d" = .ok "" := by decide +kernel
  obtain ⟨token, hlive⟩ := h (promised "\x7b\"token\":\"\"\x7d")
    ⟨"http://dns.test", "admin", "secret"⟩
    (login_ok_iff.mpr ⟨"", Api.token?_eq_some_iff.mpr ⟨_, rfl, rfl, hbody⟩⟩)
  have hnone : token? ((login ⟨"http://dns.test", "admin", "secret"⟩).run
      (promised "\x7b\"token\":\"\"\x7d")).value.2.storage = none := by
    decide +kernel
  cases hnone.symm.trans hlive.read

end DnsConsole.Session
