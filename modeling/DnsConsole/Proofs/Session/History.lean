import DnsConsole.Proofs.Session.Effect
import Mathlib.Data.List.Induction

/-!
# The history of a run

The moments of a run are the clients before its steps, with the steps (`moments`); what is seen of
the run is what is seen of its moments (`map_sight_moments`).  A moment is a turn of the session if
its step is a login that succeeds or a logout (`Moment.turn?`), and the last turn of the moments so
far (`lastTurn`) is all that a run needs of its past.

* `get?_after`: the entries after a run are the entries before it with the last turn applied.
* `storage_refines_history`: this, and what each login, form and liveness check of the run does.
-/

namespace DnsConsole.Session

variable {σ τ : Type} [Storage σ] [Api.Transport τ]

/-! ### Moments -/

/-- A moment of a run: the client, and the step that it is about to do. -/
structure Moment (σ τ : Type) where
  client : Client σ τ
  step : Step

namespace Moment

/-- What is seen of the step. -/
def sight (m : Moment σ τ) : Sight σ :=
  let r := m.step.run m.client
  ⟨r.value.1, r.trace, r.value.2.storage⟩

/-- What comes of the request of the step, if it makes one. -/
def outcome? (m : Moment σ τ) : Option Api.Outcome :=
  (start m.client.storage m.step).outcome? m.client.transport

/-- The turn of the session at a moment: a login that succeeds begins a session with the token in
the body of its response, and a logout ends it. -/
def turn? (m : Moment σ τ) : Option Turn :=
  match m.step, m.sight.answer with
  | .login k, .login (.ok _) => (m.outcome?.bind Api.token?).map (Turn.login k.server)
  | .submit server _ _, .login (.ok _) =>
    (m.outcome?.bind Api.token?).map (Turn.login (Text.trim server))
  | .logout, _ => some .logout
  | _, _ => none

end Moment

/-- The moments of a run. -/
def moments : Client σ τ → List Step → List (Moment σ τ)
  | _, [] => []
  | c, step :: steps => ⟨c, step⟩ :: moments (step.run c).value.2 steps

/-- The client after a run. -/
def after (c : Client σ τ) (steps : List Step) : Client σ τ :=
  steps.foldl (fun c step => (step.run c).value.2) c

/-- The last login that succeeded or logout among some moments. -/
def lastTurn (ms : List (Moment σ τ)) : Option Turn :=
  (ms.filterMap Moment.turn?).getLast?

/-- **What is seen of a run is what is seen of its moments.** -/
theorem map_sight_moments : ∀ (c : Client σ τ) (steps : List Step),
    (moments c steps).map Moment.sight = run c steps
  | _, [] => rfl
  | c, step :: steps => by
    rw [moments, List.map_cons, map_sight_moments, run]
    rfl

/-- The storage after a run is the last one that is seen. -/
theorem storage_after : ∀ (c : Client σ τ) (steps : List Step),
    (after c steps).storage = ((run c steps).getLast?.map Sight.storage).getD c.storage
  | _, [] => rfl
  | c, step :: steps => by
    have ih := storage_after (step.run c).value.2 steps
    rw [run, List.getLast?_cons]
    show (after (step.run c).value.2 steps).storage = _
    rw [ih]
    cases (run (step.run c).value.2 steps).getLast? <;> rfl

theorem after_append (c : Client σ τ) (xs ys : List Step) :
    after c (xs ++ ys) = after (after c xs) ys :=
  List.foldl_append

theorem moments_append : ∀ (c : Client σ τ) (xs ys : List Step),
    moments c (xs ++ ys) = moments c xs ++ moments (after c xs) ys
  | _, [], _ => rfl
  | c, x :: xs, ys => by
    rw [List.cons_append, moments, moments_append, moments]
    rfl

theorem lastTurn_append_singleton (ms : List (Moment σ τ)) (m : Moment σ τ) :
    lastTurn (ms ++ [m]) = m.turn?.or (lastTurn ms) := by
  unfold lastTurn
  rw [List.filterMap_append, List.getLast?_append]
  cases h : m.turn? <;> simp [h]

theorem moments_append_cons (c : Client σ τ) (xs : List Step) (step : Step) (ys : List Step) :
    moments c (xs ++ step :: ys) =
      moments c xs ++ ⟨after c xs, step⟩ :: moments (after c (xs ++ [step])) ys := by
  rw [moments_append, moments, after_append]
  rfl

/-- A moment of a run stands behind the run of the steps before it. -/
theorem moments_eq_append_cons : ∀ {past future : List (Moment σ τ)} {m : Moment σ τ}
    {c : Client σ τ} {steps : List Step}, moments c steps = past ++ m :: future →
      ∃ xs ys, steps = xs ++ m.step :: ys ∧ past = moments c xs ∧ m.client = after c xs
  | _, _, _, _, [], h => by simp [moments] at h
  | [], _, m, c, step :: steps, h => by
    simp only [moments, List.nil_append, List.cons.injEq] at h
    obtain ⟨rfl, -⟩ := h
    exact ⟨[], steps, rfl, rfl, rfl⟩
  | p :: past, _, m, c, step :: steps, h => by
    simp only [moments, List.cons_append, List.cons.injEq] at h
    obtain ⟨rfl, h⟩ := h
    obtain ⟨xs, ys, rfl, rfl, hc⟩ := moments_eq_append_cons h
    exact ⟨step :: xs, ys, rfl, rfl, hc⟩

/-! ### The turn of a moment -/

/-- A submitted form is refused, or it is a login with what the form holds. -/
theorem start_submit (s : σ) (server username password : String) :
    (∃ e, start s (.submit server username password) = .read (.refused e)) ∨
      start s (.submit server username password) =
        start s (.login ⟨Text.trim server, Text.trim username, password⟩) := by
  cases hv : Login.validate server username password with
  | error e => exact Or.inl ⟨e, by simp only [start, hv]⟩
  | ok k =>
    cases validate_ok hv
    exact Or.inr (by simp only [start, hv])

/-- A login comes out well with a token, or badly without one. -/
theorem login_cases (k : Login.Credentials) (c : Client σ τ) :
    (((start c.storage (.login k)).run c).value.1 = .login (.ok ()) ∧
      ∃ token, ((start c.storage (.login k)).outcome? c.transport).bind Api.token? = some token) ∨
    ((∃ e, ((start c.storage (.login k)).run c).value.1 = .login (.error e)) ∧
      ((start c.storage (.login k)).outcome? c.transport).bind Api.token? = none) := by
  have hanswer : ((start c.storage (.login k)).run c).value.1 =
    .login ((login k).run c).value.1 := rfl
  have houtcome : (start c.storage (.login k)).outcome? c.transport =
    some (Api.Transport.get c.transport
      (Api.exchangeRequest k.server k.username k.password)).1 := rfl
  rw [hanswer, houtcome, answer_login, Option.bind_some]
  cases h : (Api.exchangeResult k.server _).value with
  | error e => exact Or.inr ⟨⟨e, rfl⟩, Api.token?_of_exchangeResult_error h⟩
  | ok token => exact Or.inl ⟨rfl, token, Api.exchangeResult_ok_iff.mp h⟩

/-- The same for every moment at which the console logs in, where also the form may be refused. -/
theorem answer_cases {m : Moment σ τ} {server : String} (h : m.step.server? = some server) :
    (m.sight.answer = .login (.ok ()) ∧ ∃ token, m.outcome?.bind Api.token? = some token) ∨
    (((∃ e, m.sight.answer = .login (.error e)) ∨ ∃ e, m.sight.answer = .refused e) ∧
      m.outcome?.bind Api.token? = none) := by
  obtain ⟨c, step⟩ := m
  cases step with
  | login k =>
    rcases login_cases k c with hok | ⟨herror, hnone⟩
    · exact Or.inl hok
    · exact Or.inr ⟨Or.inl herror, hnone⟩
  | submit typed username password =>
    unfold Moment.sight Moment.outcome? Step.run
    dsimp only
    rcases start_submit c.storage typed username password with ⟨e, hs⟩ | hs
    · rw [hs]
      exact Or.inr ⟨Or.inr ⟨e, rfl⟩, rfl⟩
    · rw [hs]
      rcases login_cases ⟨Text.trim typed, Text.trim username, password⟩ c with
        hok | ⟨herror, hnone⟩
      · exact Or.inl hok
      · exact Or.inr ⟨Or.inl herror, hnone⟩
  | _ => cases h

theorem turn?_of_server? {m : Moment σ τ} {server : String} (h : m.step.server? = some server) :
    m.turn? = (m.outcome?.bind Api.token?).map (Turn.login server) := by
  have hcases := answer_cases h
  obtain ⟨c, step⟩ := m
  cases step with
  | login k | submit typed username password =>
    cases h
    rcases hcases with ⟨ha, -⟩ | ⟨⟨e, ha⟩ | ⟨e, ha⟩, hnone⟩
    · simp only [Moment.turn?, ha]
    · simp only [Moment.turn?, ha, hnone]
      rfl
    · simp only [Moment.turn?, ha, hnone]
      rfl
  | _ => cases h

/-- A login succeeds exactly when a response of status 200 holds a token. -/
theorem answer_ok_iff {m : Moment σ τ} (h : m.step.server?.isSome) :
    m.sight.answer = .login (.ok ()) ↔
      ∃ response token, m.outcome? = some (.ok response) ∧ response.status = 200 ∧
        Api.decodeToken response.body = .ok token := by
  obtain ⟨server, hserver⟩ := Option.isSome_iff_exists.mp h
  rcases answer_cases hserver with ⟨ha, token, htoken⟩ | ⟨ha, hnone⟩
  · refine ⟨fun _ => ?_, fun _ => ha⟩
    obtain ⟨o, ho, ht⟩ := Option.bind_eq_some_iff.mp htoken
    obtain ⟨response, rfl, hstatus, hbody⟩ := Api.token?_eq_some_iff.mp ht
    exact ⟨response, token, ho, hstatus, hbody⟩
  · refine ⟨fun hok => ?_, ?_⟩
    · rcases ha with ⟨e, ha⟩ | ⟨e, ha⟩ <;> rw [ha] at hok <;> cases hok
    · rintro ⟨response, token, ho, hstatus, hbody⟩
      rw [ho, Option.bind_some,
        Api.token?_eq_some_iff.mpr ⟨response, rfl, hstatus, hbody⟩] at hnone
      cases hnone

theorem turn?_of_answer_ok {m : Moment σ τ} (h : m.step.server?.isSome)
    (hok : m.sight.answer = .login (.ok ())) :
    ∃ server token, m.turn? = some (.login server token) := by
  obtain ⟨server, hserver⟩ := Option.isSome_iff_exists.mp h
  rcases answer_cases hserver with ⟨-, token, htoken⟩ | ⟨⟨e, ha⟩ | ⟨e, ha⟩, -⟩
  · exact ⟨server, token, by rw [turn?_of_server? hserver, htoken]; rfl⟩
  · rw [ha] at hok
    cases hok
  · rw [ha] at hok
    cases hok

theorem turn?_of_answer_ne {m : Moment σ τ} (h : m.step.server?.isSome)
    (hne : m.sight.answer ≠ .login (.ok ())) : m.turn? = none := by
  obtain ⟨server, hserver⟩ := Option.isSome_iff_exists.mp h
  rcases answer_cases hserver with ⟨ha, -⟩ | ⟨-, hnone⟩
  · exact absurd ha hne
  · rw [turn?_of_server? hserver, hnone]
    rfl

theorem turn?_of_check {m : Moment σ τ} (h : m.step = .isLoggedIn ∨ m.step = .screen) :
    m.turn? = none := by
  obtain ⟨c, step⟩ := m
  rcases h with rfl | rfl <;> rfl

/-- The turn of a moment is the turn of its step. -/
theorem turn?_eq {m : Moment σ τ} (h : m.step.Ordinary) :
    m.turn? = m.step.turn? m.outcome? := by
  obtain ⟨c, step⟩ := m
  cases h with
  | login k =>
    have hs : (Step.login k).server? = some k.server := rfl
    rw [turn?_of_server? hs, Step.turn?_of_server? hs]
  | submit server username password =>
    have hs : (Step.submit server username password).server? = some (Text.trim server) := rfl
    rw [turn?_of_server? hs, Step.turn?_of_server? hs]
  | _ => rfl

/-- The storage after a moment is that after its turn. -/
theorem storage_sight {m : Moment σ τ} (h : m.step.Ordinary) :
    m.sight.storage = Turn.apply m.client.storage m.turn? := by
  rw [turn?_eq h]
  exact storage_run (does_start h _) m.client

theorem requests_sight {m : Moment σ τ} (h : m.step.Ordinary) :
    m.sight.trace.requests = (start m.client.storage m.step).request?.toList :=
  requests_run (does_start h _) m.client

theorem navigated_sight {m : Moment σ τ} (h : m.step.Ordinary) :
    m.sight.trace.navigated = Turn.pages m.turn? := by
  rw [turn?_eq h]
  exact navigated_run (does_start h _) m.client

/-! ### Entries after a run -/

/-- The entry under a key when the last login or logout, if there was one, is as told: the server
and the token of a login, nothing under their keys after a logout, and otherwise what was there
before. -/
def entryAfter (initial : Entries) : Option Turn → String → Option String
  | none, key => initial.get? key
  | some (.login server token), key =>
    if key = "server" then some server
    else if key = "authToken" then some token
    else initial.get? key
  | some .logout, key => if key = "server" ∨ key = "authToken" then none else initial.get? key

theorem get?_save (e : Entries) (server token key : String) :
    (save e server token).get? key =
      if key = "server" then some server
      else if key = "authToken" then some token
      else e.get? key := by
  show ((e.insert "server" server).insert "authToken" token).get? key = _
  rw [Entries.get?_insert, Entries.get?_insert]
  by_cases hs : key = "server"
  · subst hs
    simp
  · by_cases ht : key = "authToken"
    · subst ht
      simp
    · rw [if_neg hs, if_neg ht, if_neg (fun h => ht h.symm), if_neg (fun h => hs h.symm)]

theorem get?_clear (e : Entries) (key : String) :
    (clear e).get? key = if key = "server" ∨ key = "authToken" then none else e.get? key := by
  show ((e.erase "server").erase "authToken").get? key = _
  rw [Entries.get?_erase, Entries.get?_erase]
  by_cases hs : key = "server"
  · subst hs
    simp
  · by_cases ht : key = "authToken"
    · subst ht
      simp
    · rw [if_neg (fun h => ht h.symm), if_neg (fun h => hs h.symm), if_neg (by simp [hs, ht])]

theorem get?_apply (e : Entries) (turn : Option Turn) (key : String) :
    (Turn.apply e turn).get? key = entryAfter e turn key := by
  match turn with
  | none => rfl
  | some (.login server token) => exact get?_save e server token key
  | some .logout => exact get?_clear e key

theorem entryAfter_of_ne (initial : Entries) (turn : Option Turn) {key : String}
    (hs : key ≠ "server") (ht : key ≠ "authToken") :
    entryAfter initial turn key = initial.get? key := by
  match turn with
  | none => rfl
  | some (.login server token) => rw [entryAfter, if_neg hs, if_neg ht]
  | some .logout => rw [entryAfter, if_neg (not_or.mpr ⟨hs, ht⟩)]

theorem entryAfter_some_of_eq (initial e : Entries) (turn : Turn) {key : String}
    (h : key = "server" ∨ key = "authToken") :
    entryAfter e (some turn) key = entryAfter initial (some turn) key := by
  cases turn with
  | login server token => rcases h with rfl | rfl <;> rfl
  | logout => rcases h with rfl | rfl <;> rfl

/-- One turn after another: the later one settles the entries that it touches. -/
theorem entryAfter_or {initial e : Entries} {first : Option Turn} (second : Option Turn)
    {key : String} (h : e.get? key = entryAfter initial first key) :
    entryAfter e second key = entryAfter initial (second.or first) key := by
  cases second with
  | none => exact h
  | some turn =>
    rw [Option.some_or]
    by_cases hk : key = "server" ∨ key = "authToken"
    · exact entryAfter_some_of_eq initial e turn hk
    · obtain ⟨hs, ht⟩ := not_or.mp hk
      rw [entryAfter_of_ne initial first hs ht] at h
      rw [entryAfter_of_ne e _ hs ht, entryAfter_of_ne initial _ hs ht, h]

/-- **The entries after a run are the entries before it with the last turn applied.** -/
theorem get?_after (c : Client Entries τ) (steps : List Step) (h : ∀ step ∈ steps, step.Ordinary)
    (key : String) :
    (after c steps).storage.get? key =
      entryAfter c.storage (lastTurn (moments c steps)) key := by
  induction steps using List.reverseRecOn with
  | nil => rfl
  | append_singleton steps step ih =>
    have hstep : step.Ordinary := h step (by simp)
    have hlast := ih fun s hs => h s (by simp [hs])
    rw [moments_append, after_append]
    show (Moment.sight ⟨after c steps, step⟩).storage.get? key =
      entryAfter c.storage (lastTurn (moments c steps ++ [⟨after c steps, step⟩])) key
    rw [lastTurn_append_singleton, storage_sight hstep, get?_apply]
    exact entryAfter_or _ hlast

theorem ordinary_of_mem_moments {c : Client σ τ} {steps : List Step} {m : Moment σ τ}
    (h : ∀ step ∈ steps, step.Ordinary) (hm : m ∈ moments c steps) : m.step.Ordinary := by
  obtain ⟨past, future, hsplit⟩ := List.append_of_mem hm
  obtain ⟨xs, ys, rfl, -, -⟩ := moments_eq_append_cons hsplit
  exact h m.step (by simp)

/-- **Storage refines the login history, and failures change nothing.**  After any run of the
console's steps the storage holds what the last login that succeeded or logout left there; a login
or submitted form succeeds exactly when a response of status 200 holds a token, and sends the
browser to the root; one that fails, and every liveness check, leaves the storage as it is. -/
theorem storage_refines_history (c : Client Entries τ) (steps : List Step)
    (h : ∀ step ∈ steps, step.Ordinary) :
    (∀ key, (after c steps).storage.get? key =
      entryAfter c.storage (lastTurn (moments c steps)) key) ∧
    ∀ m ∈ moments c steps,
      (m.step = .isLoggedIn ∨ m.step = .screen → m.sight.storage = m.client.storage) ∧
      (m.step.server?.isSome →
        (m.sight.answer = .login (.ok ()) ↔
          ∃ response token, m.outcome? = some (.ok response) ∧ response.status = 200 ∧
            Api.decodeToken response.body = .ok token) ∧
        (m.sight.answer = .login (.ok ()) → m.sight.trace.navigated = ["/"]) ∧
        (m.sight.answer ≠ .login (.ok ()) →
          m.sight.trace.navigated = [] ∧ m.sight.storage = m.client.storage)) := by
  refine ⟨get?_after c steps h, fun m hm => ?_⟩
  have hstep := ordinary_of_mem_moments h hm
  have hstorage := storage_sight hstep
  have hnavigated := navigated_sight hstep
  refine ⟨fun hcheck => ?_, fun hlogin => ⟨answer_ok_iff hlogin, fun hok => ?_, fun hne => ?_⟩⟩
  · rw [hstorage, turn?_of_check hcheck]
    rfl
  · obtain ⟨server, token, hturn⟩ := turn?_of_answer_ok hlogin hok
    rw [hnavigated, hturn]
    rfl
  · rw [hnavigated, hstorage, turn?_of_answer_ne hlogin hne]
    exact ⟨rfl, rfl⟩

/-- A rejected login leaves the server of the form before it. -/
theorem storage_after_rejected_login :
    (∀ step ∈ [Step.submit " http://a.test/ " "admin" "secret", .isLoggedIn,
      .login ⟨"http://b.test", "admin", "wrong"⟩], step.Ordinary) ∧
    (after (⟨.ofList [("theme", "dark")], ⟨[.ok ⟨200, "\x7b\"token\":\"t\"\x7d"⟩, .ok ⟨401, ""⟩,
        .ok ⟨403, ""⟩]⟩⟩ : Client Entries Api.Script)
      [.submit " http://a.test/ " "admin" "secret", .isLoggedIn,
        .login ⟨"http://b.test", "admin", "wrong"⟩]).storage.get? "server" =
      some "http://a.test/" := by
  have h : ∀ step ∈ [Step.submit " http://a.test/ " "admin" "secret", .isLoggedIn,
      .login ⟨"http://b.test", "admin", "wrong"⟩], step.Ordinary := by
    simp [Step.Ordinary.submit, Step.Ordinary.isLoggedIn, Step.Ordinary.login]
  refine ⟨h, ?_⟩
  rw [(storage_refines_history _ _ h).1 "server"]
  decide +kernel

end DnsConsole.Session
