import DnsConsole.Proofs.Api.Replies
import DnsConsole.Proofs.Discovery.Lookup
import DnsConsole.Proofs.Site.Redirect
import DnsConsole.Proofs.Text.Utf8

/-!
# The port that is advertised

The console server advertises the port of the control API, from its endpoints alone (`Site.apiResponse`)
and as a part of the console (`Site.consoleResponse`).  Whatever else a console serves, its answer is the
same in status and body, and one response only can be received of it (`received_iff_of_advertised`).

A client that receives it reads the port that the server was started with.  All that can then go wrong
is that the page has no origin with that port: `lookup_of_advertised`.
-/

namespace DnsConsole

/-! ### Answers and what is received of them -/

namespace Site

/-- A request for the port of the control API. -/
structure AsksPort (request : Http.Request) : Prop where
  method : request.method = "GET"
  path : request.target.path = "/api-port".toList

/-- The answers of a server that advertises a port: that of the endpoints alone, and that of a console,
whatever it serves. -/
inductive Advertised : UInt16 → Http.Response → Prop
  | endpoints {port : UInt16} {request : Http.Request} (h : AsksPort request) :
    Advertised port (apiResponse port request)
  | console {c : Console} {nonce : String} {request : Http.Request} (h : AsksPort request) :
    Advertised c.apiPort (consoleResponse c nonce request)

/-- What a client receives of an answer: its status, and its body as text. -/
structure Received (answer : Http.Response) (response : Api.Response) : Prop where
  status : response.status.toNat = answer.status
  body : Text.Utf8.encode response.body.toList = answer.body

theorem endpoint?_of_asksPort {request : Http.Request} (h : AsksPort request) :
    endpoint? request.target.path = some .apiPort := by
  rw [h.path]
  rfl

theorem endpointResponse_of_asksPort {request : Http.Request} (h : AsksPort request)
    (port : UInt16) :
    (endpointResponse port .apiPort request).status = 200 ∧
      (endpointResponse port .apiPort request).body =
        Text.Utf8.encode (Api.encodePort port).toList := by
  have hhead : request.isHead = false := by simp [Http.Request.isHead, h.method]
  have hasks : request.asksContent = true := by simp [Http.Request.asksContent, h.method]
  have hcontent : opening (Endpoint.apiPort.content port) request =
      (portContent port request).addHeaders openHeaders :=
    opening_of_not_options (portContent port) (by rw [h.method]; decide)
  refine ⟨by rw [status_endpointResponse, if_pos (Or.inl hasks)], ?_⟩
  unfold endpointResponse
  rw [Http.Route.answer_of_asksContent hasks, Endpoint.content_route, hcontent,
    Http.Response.answering, hhead, if_neg Bool.false_ne_true, Http.Response.body_measured]
  rfl

/-- Neither the headers nor the coding of an answer changes the port in it. -/
theorem content_of_advertised {port : UInt16} {answer : Http.Response} (h : Advertised port answer) :
    answer.status = 200 ∧ answer.body = Text.Utf8.encode (Api.encodePort port).toList := by
  cases h with
  | endpoints hasks =>
    rw [apiResponse_of_endpoint (endpoint?_of_asksPort hasks)]
    exact endpointResponse_of_asksPort hasks port
  | console hasks =>
    rw [status_consoleResponse, body_consoleResponse,
      plainResponse_of_endpoint (endpoint?_of_asksPort hasks)]
    exact endpointResponse_of_asksPort hasks _

/-- What is received where a port is advertised is a success with the port in its body. -/
theorem received_iff_of_advertised {port : UInt16} {answer : Http.Response}
    (h : Advertised port answer) {response : Api.Response} :
    Received answer response ↔ response = ⟨200, Api.encodePort port⟩ := by
  obtain ⟨hstatus, hbody⟩ := content_of_advertised h
  constructor
  · rintro ⟨hreceived, htext⟩
    rw [hstatus] at hreceived
    rw [hbody, Text.Utf8.encode_inj] at htext
    obtain ⟨status, body⟩ := response
    obtain rfl : status = 200 := UInt16.toNat_inj.mp hreceived
    obtain rfl : body = Api.encodePort port := String.toList_inj.mp htext
    rfl
  · rintro rfl
    exact ⟨hstatus.symm, hbody.symm⟩

end Site

/-! ### What the client makes of a response -/

namespace Discovery

section run
variable {τ : Type} [Api.Transport τ]

theorem value_lookup (t : τ) (discoveryUrl page : String) :
    ((lookup discoveryUrl page).run t).value.1 =
      lookupResult page (Api.Transport.get t ⟨discoveryUrl, none⟩).1 := rfl

theorem value_discover (t : τ) (settings : Settings) (page : String) :
    ((discover settings page).run t).value.1 =
      (proposal settings
        (lookupResult page (Api.Transport.get t ⟨settings.discoveryUrl, none⟩).1)).value := rfl

theorem log_discover (t : τ) (settings : Settings) (page : String) :
    ((discover settings page).run t).trace.log =
      (proposal settings
        (lookupResult page (Api.Transport.get t ⟨settings.discoveryUrl, none⟩).1)).trace.log := by
  simp [discover, lookup, Api.Call.run, Api.Call.andThen, send]

end run

theorem lookupResult_encodePort (page : String) (port : UInt16) :
    lookupResult page (.ok ⟨200, Api.encodePort port⟩) =
      (Url.originWithPort page port).mapError .origin := by
  have hok : (⟨200, Api.encodePort port⟩ : Api.Response).isOk = true := rfl
  have hport := Api.decodePort_encodePort port
  cases ho : Url.originWithPort page port <;> simp [lookupResult, hok, hport, ho, Except.mapError]

/-- **Server and client agree on the port.**  Where the transport answers a discovery with what a server
advertises, the lookup comes to the origin of the page with the server's port, and it fails only as this
origin does; the discovery proposes the origin, and the default server in its place exactly if there is
none. -/
theorem lookup_of_advertised {port : UInt16} {answer : Http.Response}
    (h : Site.Advertised port answer) :
    (∃ response, Site.Received answer response) ∧
    ∀ {response : Api.Response} {τ : Type} [Api.Transport τ] (t : τ) (settings : Settings)
      (page : String), Site.Received answer response →
      (Api.Transport.get t ⟨settings.discoveryUrl, none⟩).1 = .ok response →
      ((lookup settings.discoveryUrl page).run t).value.1 =
        (Url.originWithPort page port).mapError LookupError.origin ∧
      (∀ origin, Url.originWithPort page port = .ok origin →
        ((discover settings page).run t).value.1 = origin ∧
        ((discover settings page).run t).trace.log =
          [⟨.debug, .discovery, "discovered default server " ++ origin⟩]) ∧
      ∀ e, Url.originWithPort page port = .error e →
        ((discover settings page).run t).value.1 = settings.defaultServer ∧
        ((discover settings page).run t).trace.log =
          [⟨.warn, .discovery, "server discovery failed, using " ++ settings.defaultServer ++ ": " ++
            e.message⟩] := by
  refine ⟨⟨_, (Site.received_iff_of_advertised h).mpr rfl⟩, ?_⟩
  intro response τ _ t settings page hreceived hget
  -- one response only can be received, so that its status and body are known here
  obtain rfl := (Site.received_iff_of_advertised h).mp hreceived
  have hresult : lookupResult page (Api.Transport.get t ⟨settings.discoveryUrl, none⟩).1 =
      (Url.originWithPort page port).mapError .origin := by
    rw [hget]
    exact lookupResult_encodePort page port
  rw [value_lookup, value_discover, log_discover, hresult]
  refine ⟨rfl, fun origin ho => ?_, fun e he => ?_⟩
  · rw [ho]
    exact ⟨rfl, rfl⟩
  · rw [he]
    exact ⟨rfl, rfl⟩

/-- A console that serves a site and compresses its answers, and two pages: one at an address and one
without a host. -/
theorem lookup_of_advertised_by_site :
    Site.Advertised 8080 (Site.consoleResponse (Site.siteConsole (Site.siteBeside [0x31])) ""
      ⟨"GET", .ofText "/api-port?", [("accept-encoding", "gzip")]⟩) ∧
    ((lookup Settings.standard.discoveryUrl "https://user@[1::0:2]:8000/").run
      (⟨[.ok ⟨200, Api.encodePort 8080⟩]⟩ : Api.Script)).value.1 = .ok "https://[1::2]:8080" ∧
    ((discover Settings.standard "about:blank").run
      (⟨[.ok ⟨200, Api.encodePort 8080⟩]⟩ : Api.Script)).value.1 = "http://localhost:8080" := by
  have hadvertised : Site.Advertised 8080
      (Site.consoleResponse (Site.siteConsole (Site.siteBeside [0x31])) ""
        ⟨"GET", .ofText "/api-port?", [("accept-encoding", "gzip")]⟩) :=
    .console (c := Site.siteConsole (Site.siteBeside [0x31])) ⟨rfl, by decide⟩
  have hreceived := (Site.received_iff_of_advertised hadvertised).mpr rfl
  have haddress : Url.originWithPort "https://user@[1::0:2]:8000/" 8080 = .ok "https://[1::2]:8080" := by
    decide +kernel
  have hblank : Url.originWithPort "about:blank" 8080 = .error (.cannotHavePort "about:blank") := by
    decide +kernel
  obtain ⟨-, hclient⟩ := lookup_of_advertised hadvertised
  have hlookup := (hclient (⟨[.ok ⟨200, Api.encodePort 8080⟩]⟩ : Api.Script) Settings.standard
    "https://user@[1::0:2]:8000/" hreceived rfl).1
  have hdiscover := (hclient (⟨[.ok ⟨200, Api.encodePort 8080⟩]⟩ : Api.Script) Settings.standard
    "about:blank" hreceived rfl).2.2 _ hblank
  rw [haddress] at hlookup
  exact ⟨hadvertised, hlookup, hdiscover.1⟩

end Discovery

end DnsConsole
