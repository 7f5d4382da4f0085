import DnsConsole.Proofs.Session.Custody
import DnsConsole.Proofs.Session.Liveness

/-!
# Checks of a session

A storage holds a session if there is a server in it and a token that is not empty.  A check of it is
one request, and the outcome of this request alone decides; without a session nobody is asked and the
answer is no (`request?_livenessCheck_eq`, `check_true_iff_request`).  The storage stays as it is.

So checks do not wear a session out: as long as no login succeeds and nobody logs out, every check of a
run sends the same request, whatever the earlier ones came to (`check_decides_exactly`).
-/

namespace DnsConsole.Session

variable {σ τ : Type} [Storage σ]

/-- The request that checks the session of a storage; none without a server or a token, and none if the
token is empty. -/
def checkRequest? (s : σ) : Option Api.Request :=
  match Storage.get? s "server", Storage.get? s "authToken" with
  | some server, some token =>
    if token = "" then none else some ⟨Api.endpoint server "/1/run", some ("Bearer " ++ token)⟩
  | _, _ => none

theorem checkRequest?_eq_some_iff {s : σ} {request : Api.Request} :
    checkRequest? s = some request ↔
      ∃ server token, Storage.get? s "server" = some server ∧
        Storage.get? s "authToken" = some token ∧ token ≠ "" ∧
        ⟨Api.endpoint server "/1/run", some ("Bearer " ++ token)⟩ = request := by
  unfold checkRequest?
  cases hs : Storage.get? s "server" with
  | none => simp
  | some server =>
    cases ht : Storage.get? s "authToken" with
    | none => simp
    | some token =>
      by_cases hempty : token = ""
      · simp [hempty]
      · simp [hempty]

/-- A check makes the request that is due for its storage. -/
theorem request?_livenessCheck_eq (s : σ) : (livenessCheck s).request? = checkRequest? s := by
  have hserver : server? s = Storage.get? s "server" := rfl
  have htoken : token? s = (Storage.get? s "authToken").filter fun t => !t.isEmpty := rfl
  unfold livenessCheck checkRequest?
  rw [htoken, hserver]
  cases Storage.get? s "authToken" with
  | none => cases Storage.get? s "server" <;> rfl
  | some token =>
    by_cases hempty : token = ""
    · subst hempty
      cases Storage.get? s "server" <;> rfl
    · rw [Option.filter_some_pos (by simpa using hempty)]
      cases Storage.get? s "server" with
      | none => rfl
      | some server => exact (if_neg hempty).symm

/-- The screen after a check is one of the two that it decides between. -/
theorem screen_ofLiveness (alive : Bool) :
    (Status.ofLiveness alive).screen = if alive then .home else .login := by
  cases alive <;> rfl

section run
variable [Api.Transport τ]

/-- A check says yes exactly if the response to its request has status 200. -/
theorem check_true_iff_request {c : Client σ τ} :
    ((livenessCheck c.storage).run c).value.1 = true ↔
      ∃ request response, checkRequest? c.storage = some request ∧
        (Api.Transport.get c.transport request).1 = .ok response ∧ response.status = 200 := by
  rw [← request?_livenessCheck_eq]
  rcases livenessCheck_cases c.storage with ⟨token, server, ht, hs, -⟩ | ⟨-, message, hc⟩
  · rw [check_true_iff hs ht, request?_livenessCheck_some hs ht]
    simp
  · rw [hc]
    constructor
    · intro h
      cases h
    · rintro ⟨request, response, h, -⟩
      cases h

/-- A check uses up the outcome of its request and changes nothing else. -/
theorem client_check (c : Client σ τ) :
    ((livenessCheck c.storage).run c).value.2 = ⟨c.storage,
      (checkRequest? c.storage).elim c.transport fun r => (Api.Transport.get c.transport r).2⟩ := by
  have hstorage : ((livenessCheck c.storage).run c).value.2.storage = c.storage :=
    storage_run (does_livenessCheck c.storage) c
  have htransport := transport_run (livenessCheck c.storage) c
  rw [request?_livenessCheck_eq] at htransport
  rcases hclient : ((livenessCheck c.storage).run c).value.2 with ⟨storage, transport⟩
  rw [hclient] at hstorage htransport
  cases hstorage
  cases htransport
  cases checkRequest? c.storage <;> rfl

/-! ### Checks of a run -/

/-- A step that checks the session. -/
def Step.isCheck : Step → Bool
  | .isLoggedIn | .screen => true
  | _ => false

/-- A moment of the console that is no turn of the session: no login that succeeds, and no logout. -/
def Moment.Uneventful (m : Moment σ τ) : Prop :=
  m.step.Ordinary ∧ m.turn? = none

/-- Nothing touches the storage between two turns. -/
theorem storage_of_uneventful {c : Client σ τ} {steps : List Step}
    (h : ∀ m ∈ moments c steps, m.Uneventful) : ∀ m ∈ moments c steps, m.client.storage = c.storage := by
  induction steps generalizing c with
  | nil => simp [moments]
  | cons step steps ih =>
    rw [moments, List.forall_mem_cons] at h ⊢
    obtain ⟨⟨hordinary, hturn⟩, hrest⟩ := h
    have hstorage : (step.run c).value.2.storage = c.storage := by
      have hsight := storage_sight hordinary
      rwa [hturn] at hsight
    exact ⟨rfl, fun m hm => (ih hrest m hm).trans hstorage⟩

theorem requests_of_isCheck {m : Moment σ τ} (h : m.step.isCheck = true) :
    m.sight.trace.requests = (checkRequest? m.client.storage).toList := by
  rw [← request?_livenessCheck_eq]
  obtain ⟨c, step⟩ := m
  cases step with
  | isLoggedIn => exact (requests_sight .isLoggedIn).trans (congrArg Option.toList (request?_map _ _))
  | screen => exact (requests_sight .screen).trans (congrArg Option.toList (request?_map _ _))
  | _ => cases h

theorem countP_moments (c : Client σ τ) (steps : List Step) :
    (moments c steps).countP (·.step.isCheck) = steps.countP Step.isCheck := by
  induction steps generalizing c with
  | nil => rfl
  | cons step steps ih => rw [moments, List.countP_cons, List.countP_cons, ih]

/-- Between two turns every check asks the same. -/
theorem requests_of_checks {c : Client σ τ} {steps : List Step}
    (h : ∀ m ∈ moments c steps, m.Uneventful) :
    ((moments c steps).filter (·.step.isCheck)).map (·.sight.trace.requests) =
      List.replicate (steps.countP Step.isCheck) (checkRequest? c.storage).toList := by
  rw [← countP_moments c steps, List.countP_eq_length_filter, List.eq_replicate_iff]
  refine ⟨List.length_map _, fun requests hrequests => ?_⟩
  obtain ⟨m, hm, rfl⟩ := List.mem_map.mp hrequests
  obtain ⟨hmem, hcheck⟩ := List.mem_filter.mp hm
  rw [requests_of_isCheck hcheck, storage_of_uneventful h m hmem]

/-- **A check decides exactly and touches nothing.**  It makes the one request that is due for its
storage, or none, and says yes exactly if a response of status 200 comes of it; it uses up no outcome
but that of its request, the storage stays as it is, and it leads to the home screen or the login
screen.  So the checks of a run between two turns of the session send the same request each. -/
theorem check_decides_exactly (c : Client σ τ) :
    (((livenessCheck c.storage).run c).value.1 = true ↔
      ∃ server token response, Storage.get? c.storage "server" = some server ∧
        Storage.get? c.storage "authToken" = some token ∧ token ≠ "" ∧
        (Api.Transport.get c.transport
          ⟨Api.endpoint server "/1/run", some ("Bearer " ++ token)⟩).1 = .ok response ∧
        response.status = 200) ∧
    ((livenessCheck c.storage).run c).trace.requests = (checkRequest? c.storage).toList ∧
    ((livenessCheck c.storage).run c).value.2 = ⟨c.storage,
      (checkRequest? c.storage).elim c.transport fun r => (Api.Transport.get c.transport r).2⟩ ∧
    (Status.ofLiveness ((livenessCheck c.storage).run c).value.1).screen =
      (if ((livenessCheck c.storage).run c).value.1 then .home else .login) ∧
    ∀ before steps : List Step, (∀ m ∈ moments (after c before) steps, m.Uneventful) →
      ((moments (after c before) steps).filter (·.step.isCheck)).map (·.sight.trace.requests) =
        List.replicate (steps.countP Step.isCheck) (checkRequest? (after c before).storage).toList := by
  refine ⟨?_, ?_, client_check c, screen_ofLiveness _, fun before steps h => requests_of_checks h⟩
  · rw [check_true_iff_request]
    constructor
    · rintro ⟨request, response, hrequest, hresponse⟩
      obtain ⟨server, token, hs, ht, hne, rfl⟩ := checkRequest?_eq_some_iff.mp hrequest
      exact ⟨server, token, response, hs, ht, hne, hresponse⟩
    · rintro ⟨server, token, response, hs, ht, hne, hresponse⟩
      exact ⟨_, response, checkRequest?_eq_some_iff.mpr ⟨server, token, hs, ht, hne, rfl⟩, hresponse⟩
  · rw [requests_run (does_livenessCheck c.storage), request?_livenessCheck_eq]

/-- A client with a session, for whose next three requests nothing good comes. -/
def unlucky : Client Entries Api.Script :=
  ⟨.ofList [("server", "http://a.test/"), ("authToken", "t")],
    ⟨[.ok ⟨204, ""⟩, .error .unavailable, .ok ⟨401, ""⟩]⟩⟩

/-- Neither verdicts nor a login that fails change what is asked. -/
theorem check_decides_exactly_after_failures :
    ((moments unlucky [.isLoggedIn, .screen, .login ⟨"http://b.test", "admin", "wrong"⟩,
        .isLoggedIn]).filter (·.step.isCheck)).map (·.sight.trace.requests) =
      List.replicate 3 [⟨"http://a.test/1/run", some "Bearer t"⟩] := by
  have huneventful : ∀ m ∈ moments (after unlucky []) [.isLoggedIn, .screen,
      .login ⟨"http://b.test", "admin", "wrong"⟩, .isLoggedIn], m.Uneventful := by
    simp only [moments, List.forall_mem_cons]
    refine ⟨⟨.isLoggedIn, rfl⟩, ⟨.screen, rfl⟩, ⟨.login _, ?_⟩, ⟨.isLoggedIn, rfl⟩, by simp⟩
    decide +kernel
  have hrequest : checkRequest? (after unlucky []).storage =
      some ⟨"http://a.test/1/run", some "Bearer t"⟩ := by decide +kernel
  have hasked := (check_decides_exactly unlucky).2.2.2.2 [] _ huneventful
  rw [hrequest] at hasked
  exact hasked

end run

end DnsConsole.Session
