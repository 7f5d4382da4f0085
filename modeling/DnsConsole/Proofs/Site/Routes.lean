import DnsConsole.Proofs.Http.Responses
import DnsConsole.Proofs.Text.Numerals
import DnsConsole.Proofs.Text.Utf8
import DnsConsole.Site.Routes

/-!
# Which part of the console answers

A request is answered by one of three parts: by an endpoint, by the page, or by a service of files.  Which
one it is depends on the path alone (`plainResponse_of_endpoint`, `plainResponse_of_root`,
`plainResponse_of_service`), and compression comes last (`consoleResponse_eq`): what an endpoint answers is
too short for it, and the page is compressed while it is sent.
-/

namespace DnsConsole.Site

open Http

/-! ### The parts -/

/-- The endpoints of the server. -/
inductive Endpoint
  | apiPort
  | health
  deriving DecidableEq, Repr

/-- The endpoint at a path. -/
def endpoint? (path : List Char) : Option Endpoint :=
  if path = "/api-port".toList then some .apiPort
  else if path = "/healthz".toList then some .health
  else none

/-- What an endpoint has to say. -/
def Endpoint.content (apiPort : UInt16) : Endpoint → Service
  | .apiPort => portContent apiPort
  | .health => healthContent

/-- The route of an endpoint. -/
def Endpoint.route (apiPort : UInt16) (e : Endpoint) : Route :=
  (Route.get (e.content apiPort)).layer opening

/-- The answer at an endpoint. -/
def endpointResponse (apiPort : UInt16) (e : Endpoint) (request : Request) : Response :=
  (e.route apiPort).answer request

/-- The answer at the root. -/
def pageResponse (c : Console) (nonce : String) (request : Request) : Response :=
  (Route.get (pageContent c nonce)).answer request

/-- The path below `/pkg` of a path, as a path of its own. -/
def packagePath? (path : List Char) : Option (List Char) :=
  Router.below? "/pkg".toList path

/-- The directory that a request is answered from, and the request as it is seen there. -/
def Console.service (c : Console) (request : Request) : List Char × Request :=
  match packagePath? request.target.path with
  | some path => (c.packageBase, { request with target := { request.target with path := path } })
  | none => (c.base, request)

/-- The answer before it is compressed. -/
def plainResponse (c : Console) (nonce : String) (request : Request) : Response :=
  (plainRouter c nonce).answer request

/-! ### The routes of the routers -/

theorem lookup_apiRouter (apiPort : UInt16) (path : List Char) :
    (apiRouter apiPort).routes.lookup path = (endpoint? path).map (Endpoint.route apiPort) := by
  unfold apiRouter
  rw [Router.lookup_layer]
  unfold endpoint?
  by_cases hport : path = "/api-port".toList
  · subst hport
    rfl
  by_cases hhealth : path = "/healthz".toList
  · subst hhealth
    rfl
  rw [if_neg hport, if_neg hhealth]
  unfold Router.route Router.empty
  dsimp only [List.nil_append, List.cons_append]
  rw [List.lookup_cons, beq_false_of_ne hport, List.lookup_cons, beq_false_of_ne hhealth]
  rfl

theorem lookup_plainRouter (c : Console) (nonce : String) (path : List Char) :
    (plainRouter c nonce).routes.lookup path =
      ((endpoint? path).map (Endpoint.route c.apiPort)).or
        (if path = ['/'] then some (.get (pageContent c nonce)) else none) := by
  have hroutes : (plainRouter c nonce).routes =
      (apiRouter c.apiPort).routes ++ (pageRouter c nonce).routes := rfl
  rw [hroutes, List.lookup_append, lookup_apiRouter]
  congr 1
  by_cases hroot : path = ['/']
  · subst hroot
    rfl
  · have hpage : (pageRouter c nonce).routes = [(['/'], .get (pageContent c nonce))] := rfl
    rw [hpage, if_neg hroot, List.lookup_cons, beq_false_of_ne hroot]
    rfl

/-! ### Which part answers -/

theorem apiResponse_of_endpoint {apiPort : UInt16} {request : Request} {e : Endpoint}
    (h : endpoint? request.target.path = some e) :
    apiResponse apiPort request = endpointResponse apiPort e request := by
  refine Router.answer_of_route ?_
  rw [lookup_apiRouter, h]
  rfl

theorem plainResponse_of_endpoint {c : Console} {nonce : String} {request : Request} {e : Endpoint}
    (h : endpoint? request.target.path = some e) :
    plainResponse c nonce request = endpointResponse c.apiPort e request := by
  refine Router.answer_of_route ?_
  rw [lookup_plainRouter, h]
  rfl

theorem plainResponse_of_root {c : Console} {nonce : String} {request : Request}
    (h : request.target.path = ['/']) :
    plainResponse c nonce request = pageResponse c nonce request := by
  refine Router.answer_of_route ?_
  rw [lookup_plainRouter, h]
  rfl

theorem plainResponse_of_service {c : Console} {nonce : String} {request : Request}
    (hendpoint : endpoint? request.target.path = none) (hroot : request.target.path ≠ ['/']) :
    plainResponse c nonce request = serveFiles c.tree (c.service request).1 (c.service request).2 := by
  have hnone : (plainRouter c nonce).routes.lookup request.target.path = none := by
    rw [lookup_plainRouter, hendpoint, if_neg hroot]
    rfl
  have hnested : (plainRouter c nonce).nested =
      [("/pkg".toList, Router.behind "/pkg".toList (serveFiles c.tree c.packageBase))] := rfl
  have hfallback : (plainRouter c nonce).fallback = serveFiles c.tree c.base := rfl
  unfold plainResponse Router.answer Console.service packagePath?
  rw [hnone, hnested, hfallback]
  cases hpath : Router.below? "/pkg".toList request.target.path with
  | none =>
    rw [List.find?_cons_of_neg (by rw [hpath]; decide)]
    rfl
  | some path =>
    rw [List.find?_cons_of_pos (by rw [hpath]; rfl)]
    unfold Router.behind
    dsimp only
    rw [hpath]

/-- The page has no length that could be told before it is sent. -/
theorem pageResponse_of_asksContent (c : Console) (nonce : String) {request : Request}
    (h : request.asksContent = true) :
    pageResponse c nonce request = (pageContent c nonce request).answering request := by
  have hstreamed : (pageContent c nonce request).streamed = true := rfl
  unfold pageResponse
  rw [Route.answer_of_asksContent h]
  change (pageContent c nonce request).measured.answering request = _
  rw [Response.measured_of_streamed hstreamed]

/-! ### What is opened -/

theorem Endpoint.content_route (apiPort : UInt16) (e : Endpoint) :
    (e.route apiPort).content = opening (e.content apiPort) := rfl

theorem Endpoint.refusal_route (apiPort : UInt16) (e : Endpoint) :
    (e.route apiPort).refusal = opening fun _ => .empty 405 [] := rfl

theorem opening_of_options (service : Service) {request : Request} (h : request.method = "OPTIONS") :
    opening service request = .empty 200 preflightHeaders :=
  if_pos (decide_eq_true h)

theorem opening_of_not_options (service : Service) {request : Request}
    (h : request.method ≠ "OPTIONS") :
    opening service request = (service request).addHeaders openHeaders :=
  if_neg fun hoptions => h (of_decide_eq_true hoptions)

/-! ### Statuses -/

theorem status_opening (service : Service) (request : Request) :
    (opening service request).status =
      if request.method = "OPTIONS" then 200 else (service request).status := by
  by_cases hoptions : request.method = "OPTIONS"
  · rw [opening_of_options service hoptions, if_pos hoptions]
    rfl
  · rw [opening_of_not_options service hoptions, if_neg hoptions]
    rfl

theorem status_endpointResponse (apiPort : UInt16) (e : Endpoint) (request : Request) :
    (endpointResponse apiPort e request).status =
      if request.asksContent = true ∨ request.method = "OPTIONS" then 200 else 405 := by
  have hcontent : (e.content apiPort request).status = 200 := by
    cases e with
    | apiPort => rfl
    | health => rfl
  unfold endpointResponse
  rw [Route.status_answer, e.content_route, e.refusal_route, status_opening, status_opening, hcontent]
  by_cases hasks : request.asksContent = true
  · rw [if_pos hasks, if_pos (Or.inl hasks), ite_self]
  · simp [hasks, Response.empty]

theorem status_pageResponse (c : Console) (nonce : String) (request : Request) :
    (pageResponse c nonce request).status = if request.asksContent then 200 else 405 :=
  Route.status_answer _ request

/-! ### Compression comes last -/

/-- A port has five digits at most. -/
theorem length_portContent_lt (apiPort : UInt16) (request : Request) :
    (portContent apiPort request).body.length < 32 := by
  have htext : (Api.encodePort apiPort).toList =
      "\x7b\"port\":".toList ++ Text.Decimal.digits apiPort.toNat ++ ['}'] :=
    String.toList_ofList
  have hascii : ∀ c ∈ (Api.encodePort apiPort).toList, c.toNat < 128 := by
    rw [htext]
    simp only [List.forall_mem_append, List.forall_mem_singleton]
    refine ⟨⟨by simp, fun c hc => ?_⟩, by decide⟩
    exact Text.Decimal.toNat_lt_of_isDigit (Text.Decimal.isDigit_of_mem_digits hc)
  have hdigits : (Text.Decimal.digits apiPort.toNat).length ≤ 5 :=
    Text.Decimal.length_digits_le (by decide) (Nat.lt_trans apiPort.toNat_lt (by decide))
  have hfront : ("\x7b\"port\":".toList).length = 8 := rfl
  change (Text.Utf8.encode (Api.encodePort apiPort).toList).length < 32
  rw [Text.Utf8.length_encode_ascii hascii, htext, List.length_append, List.length_append, hfront,
    List.length_singleton]
  omega

/-- What is short is short when it is opened, and so is the answer to a preflight. -/
theorem short_opening (service : Service) {request : Request}
    (hstreamed : (service request).streamed = false) (hshort : (service request).body.length < 32) :
    (opening service request).streamed = false ∧ (opening service request).body.length < 32 := by
  unfold opening
  split
  · exact ⟨rfl, (by decide : ([] : List UInt8).length < 32)⟩
  · exact ⟨hstreamed, hshort⟩

theorem isLight_endpoint (apiPort : UInt16) (e : Endpoint) (request : Request) :
    (e.route apiPort).IsLight request := by
  have hnone : ([] : List UInt8).length < 32 := by decide
  have hcontent : (e.content apiPort request).streamed = false ∧
      (e.content apiPort request).body.length < 32 := by
    cases e with
    | apiPort => exact ⟨rfl, length_portContent_lt apiPort request⟩
    | health => exact ⟨rfl, hnone⟩
  obtain ⟨-, hshort⟩ := short_opening (e.content apiPort) hcontent.1 hcontent.2
  obtain ⟨hstreamed, hrefusal⟩ :=
    short_opening (fun _ => .empty 405 []) (rfl : (Response.empty 405 []).streamed = false) hnone
  exact ⟨Or.inr hshort, hstreamed, hrefusal⟩

theorem isLight_page (c : Console) (nonce : String) (request : Request) :
    (Route.get (pageContent c nonce)).IsLight request where
  content := Or.inl rfl
  streamed := rfl
  refusal := (by decide : ([] : List UInt8).length < 32)

/-- **What the console answers is compressed last.** -/
theorem consoleResponse_eq (c : Console) (nonce : String) (request : Request) :
    consoleResponse c nonce request = (plainResponse c nonce request).compress request := by
  refine Router.answer_layer_compressing fun r hr => ?_
  rw [lookup_plainRouter] at hr
  cases hend : endpoint? request.target.path with
  | some e =>
    rw [hend] at hr
    obtain rfl := Option.some.inj hr
    exact isLight_endpoint c.apiPort e request
  | none =>
    rw [hend] at hr
    by_cases hroot : request.target.path = ['/']
    · rw [if_pos hroot] at hr
      obtain rfl := Option.some.inj hr
      exact isLight_page c nonce request
    · rw [if_neg hroot] at hr
      cases hr

theorem status_consoleResponse (c : Console) (nonce : String) (request : Request) :
    (consoleResponse c nonce request).status = (plainResponse c nonce request).status := by
  rw [consoleResponse_eq, Response.status_compress]

theorem body_consoleResponse (c : Console) (nonce : String) (request : Request) :
    (consoleResponse c nonce request).body = (plainResponse c nonce request).body := by
  rw [consoleResponse_eq, Response.body_compress]

theorem values_consoleResponse {name : String} (h : name ∉ Response.codingHeaders) (c : Console)
    (nonce : String) (request : Request) :
    (consoleResponse c nonce request).values name = (plainResponse c nonce request).values name := by
  rw [consoleResponse_eq, Response.values_compress h]

end DnsConsole.Site
