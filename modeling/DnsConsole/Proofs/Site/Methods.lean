import DnsConsole.Proofs.Site.Redirect

/-!
# Methods

GET and HEAD ask for content.  A request of any other method is answered by `refusal`, in which nothing
that is served has a part: each part of the console refuses such a request before it looks for anything
(`endpointResponse_of_not_asksContent`, `pageResponse_of_not_asksContent`,
`serveFiles_of_not_asksContent`), and an answer without a body is not compressed.  The one method that
is not refused is OPTIONS at an endpoint.  The main statement is `answer_without_content`.
-/

namespace DnsConsole

open Http

/-! ### Answers without content -/

namespace Http

theorem Request.asksContent_eq_false_iff {request : Request} :
    request.asksContent = false ↔ request.method ≠ "GET" ∧ request.method ≠ "HEAD" := by
  simp [asksContent, isHead]

/-- A response that refuses a method, and names the methods that are known. -/
structure Response.Refuses (r : Response) : Prop where
  status : r.status = 405
  body : r.body = []
  allow : r.header? "allow" = some "GET,HEAD"

/-- A response to a preflight by which pages of any origin may send any request. -/
structure Response.Permits (r : Response) : Prop where
  status : r.status = 200
  body : r.body = []
  origin : r.header? "access-control-allow-origin" = some "*"
  methods : r.header? "access-control-allow-methods" = some "*"
  headers : r.header? "access-control-allow-headers" = some "*"

end Http

namespace Site

/-- A path is the path of an endpoint. -/
def AtEndpoint (path : List Char) : Prop :=
  path = "/api-port".toList ∨ path = "/healthz".toList

instance (path : List Char) : Decidable (AtEndpoint path) := by
  unfold AtEndpoint
  infer_instance

theorem endpoint?_eq_none_iff {path : List Char} : endpoint? path = none ↔ ¬ AtEndpoint path := by
  unfold endpoint? AtEndpoint
  by_cases hport : path = "/api-port".toList
  · simp [hport]
  · by_cases hhealth : path = "/healthz".toList
    · simp [hhealth]
    · rw [if_neg hport, if_neg hhealth]
      exact ⟨fun _ => not_or.mpr ⟨hport, hhealth⟩, fun _ => rfl⟩

theorem exists_of_atEndpoint {path : List Char} (h : AtEndpoint path) :
    ∃ e, endpoint? path = some e := by
  rcases h with rfl | rfl
  · exact ⟨.apiPort, rfl⟩
  · exact ⟨.health, rfl⟩

/-- What a route says to a method that it does not know, with some headers in front. -/
def routeRefusal (status : Nat) (headers : List (String × String)) : Response :=
  .empty status (headers ++ Response.knownMethods ++ [("content-length", "0")])

/-- What is said to a request that asks for no content. -/
def refusal (request : Request) : Response :=
  if AtEndpoint request.target.path then
    if request.method = "OPTIONS" then routeRefusal 200 preflightHeaders
    else routeRefusal 405 openHeaders
  else if request.target.path = ['/'] then routeRefusal 405 []
  else .methodNotAllowed

/-! ### The parts of the console -/

theorem endpointResponse_of_not_asksContent (apiPort : UInt16) (e : Endpoint) {request : Request}
    (h : request.asksContent = false) :
    endpointResponse apiPort e request =
      if request.method = "OPTIONS" then routeRefusal 200 preflightHeaders
      else routeRefusal 405 openHeaders := by
  unfold endpointResponse
  rw [Route.answer_of_not_asksContent h, e.refusal_route]
  by_cases hoptions : request.method = "OPTIONS"
  · rw [opening_of_options _ hoptions, if_pos hoptions]
    rfl
  · rw [opening_of_not_options _ hoptions, if_neg hoptions]
    rfl

theorem pageResponse_of_not_asksContent (c : Console) (nonce : String) {request : Request}
    (h : request.asksContent = false) :
    pageResponse c nonce request = routeRefusal 405 [] := by
  have hrefusal : (Route.get (pageContent c nonce)).refusal request = .empty 405 [] := rfl
  unfold pageResponse
  rw [Route.answer_of_not_asksContent h, hrefusal]
  rfl

theorem serveFiles_of_not_asksContent (tree : Tree) (base : List Char) {request : Request}
    (h : request.asksContent = false) :
    serveFiles tree base request = .methodNotAllowed := by
  unfold serveFiles
  rw [h]
  rfl

theorem plainResponse_of_not_asksContent (c : Console) (nonce : String) {request : Request}
    (h : request.asksContent = false) : plainResponse c nonce request = refusal request := by
  unfold refusal
  by_cases hend : AtEndpoint request.target.path
  · obtain ⟨e, he⟩ := exists_of_atEndpoint hend
    rw [if_pos hend, plainResponse_of_endpoint he, endpointResponse_of_not_asksContent c.apiPort e h]
  · rw [if_neg hend]
    by_cases hroot : request.target.path = ['/']
    · rw [if_pos hroot, plainResponse_of_root hroot, pageResponse_of_not_asksContent c nonce h]
    · -- below `/pkg` the path is another one, but not the method
      have hservice : (c.service request).2.asksContent = false := by
        unfold Console.service
        cases packagePath? request.target.path with
        | none => exact h
        | some path => exact h
      rw [if_neg hroot, plainResponse_of_service (endpoint?_eq_none_iff.mpr hend) hroot]
      exact serveFiles_of_not_asksContent c.tree (c.service request).1 hservice

theorem refusal_eq_empty (request : Request) :
    ∃ status headers, refusal request = .empty status headers := by
  unfold refusal
  split_ifs <;> exact ⟨_, _, rfl⟩

theorem consoleResponse_of_not_asksContent (c : Console) (nonce : String) {request : Request}
    (h : request.asksContent = false) : consoleResponse c nonce request = refusal request := by
  obtain ⟨status, headers, hempty⟩ := refusal_eq_empty request
  rw [consoleResponse_eq, plainResponse_of_not_asksContent c nonce h, hempty]
  exact Response.compress_empty request status headers

theorem refusal_permits {request : Request} (hend : AtEndpoint request.target.path)
    (hoptions : request.method = "OPTIONS") : (refusal request).Permits := by
  unfold refusal
  rw [if_pos hend, if_pos hoptions]
  exact ⟨rfl, rfl, rfl, rfl, rfl⟩

theorem refusal_refuses {request : Request}
    (h : ¬ (AtEndpoint request.target.path ∧ request.method = "OPTIONS")) :
    (refusal request).Refuses := by
  unfold refusal
  by_cases hend : AtEndpoint request.target.path
  · rw [if_pos hend, if_neg fun hoptions => h ⟨hend, hoptions⟩]
    exact ⟨rfl, rfl, rfl⟩
  · rw [if_neg hend]
    split_ifs
    · exact ⟨rfl, rfl, rfl⟩
    · exact ⟨rfl, rfl, rfl⟩

/-- **Only GET and HEAD ever obtain content.**  The answer to a request of another method has no body and
is the same from every console, whatever it serves: it refuses the method, but at an endpoint OPTIONS is
answered as a preflight. -/
theorem answer_without_content {request : Request} (hget : request.method ≠ "GET")
    (hhead : request.method ≠ "HEAD") :
    ∃ answer : Response, (∀ c nonce, consoleResponse c nonce request = answer) ∧ answer.body = [] ∧
      (AtEndpoint request.target.path ∧ request.method = "OPTIONS" → answer.Permits) ∧
      (¬ (AtEndpoint request.target.path ∧ request.method = "OPTIONS") → answer.Refuses) := by
  have h : request.asksContent = false := Request.asksContent_eq_false_iff.mpr ⟨hget, hhead⟩
  obtain ⟨status, headers, hempty⟩ := refusal_eq_empty request
  refine ⟨refusal request, fun c nonce => consoleResponse_of_not_asksContent c nonce h, ?_, ?_,
    refusal_refuses⟩
  · rw [hempty]
    rfl
  · rintro ⟨hend, hoptions⟩
    exact refusal_permits hend hoptions

/-- POST is refused where a file is, and OPTIONS is answered at an endpoint with a query, but refused with a
slash behind the path. -/
theorem answer_without_content_of_siteBeside :
    (consoleResponse (siteConsole (siteBeside [0x31])) ""
      ⟨"POST", .ofText "/pkg/console.css", []⟩).Refuses ∧
    consoleResponse (siteConsole (siteBeside [0x31])) "" ⟨"POST", .ofText "/pkg/console.css", []⟩ =
      consoleResponse (siteConsole .empty) "n" ⟨"POST", .ofText "/pkg/console.css", []⟩ ∧
    (consoleResponse (siteConsole .empty) "" ⟨"OPTIONS", .ofText "/healthz?a=1", []⟩).Permits ∧
    (consoleResponse (siteConsole .empty) "" ⟨"OPTIONS", .ofText "/healthz/", []⟩).Refuses := by
  have hposted := @answer_without_content ⟨"POST", .ofText "/pkg/console.css", []⟩
  have hasked := @answer_without_content ⟨"OPTIONS", .ofText "/healthz?a=1", []⟩
  have hbehind := @answer_without_content ⟨"OPTIONS", .ofText "/healthz/", []⟩
  obtain ⟨posted, hposted, -, -, hrefuses⟩ := hposted (by decide) (by decide)
  obtain ⟨asked, hasked, -, hpermits, -⟩ := hasked (by decide) (by decide)
  obtain ⟨behind, hbehind, -, -, hrefuses'⟩ := hbehind (by decide) (by decide)
  rw [hposted, hposted, hasked, hbehind]
  exact ⟨hrefuses (by decide), rfl, hpermits (by decide), hrefuses' (by decide)⟩

end Site

end DnsConsole
