import DnsConsole.Proofs.Site.Methods

/-!
# Who may read an answer

A page of another origin may read an answer only if a header says so.  The headers of an answer are
followed through the parts that it is made of: what the service of files says is a `FileHeader`, and no
such header opens an answer (`FileHeader.not_opens`), nor does what is said with the page
(`values_pageResponse_of_opens`); at an endpoint the header stands once, whatever the status is
(`values_endpointResponse`).  `open_iff_atEndpoint` joins the parts.
-/

namespace DnsConsole.Site

open Http

/-! ### Headers of files -/

/-- A header that the service of files can say: the type that the name of a file tells, and others that
stand here by name. -/
inductive FileHeader : String × String → Prop
  | type (name : String) : FileHeader ("content-type", ContentType.ofName name)
  | other {name : String} (value : String)
    (h : name ∈ ["allow", "location", "accept-ranges", "last-modified", "content-range",
      "content-length"]) : FileHeader (name, value)

theorem fileHeader_of_fileResponse (request : Request) (name : String) (f : File) :
    ∀ h ∈ (fileResponse request name f).headers, FileHeader h := by
  have hcommon : ∀ h ∈ [("content-type", ContentType.ofName name), ("accept-ranges", "bytes"),
      ("last-modified", Date.text f.modified)], FileHeader h := by
    simp only [List.forall_mem_cons]
    exact ⟨.type name, .other _ (by decide), .other _ (by decide), List.forall_mem_nil _⟩
  have hlength : ∀ value, ∀ h ∈ [("content-length", value)], FileHeader h := fun value =>
    List.forall_mem_singleton.mpr (.other value (by decide))
  have hrange : ∀ value, ∀ h ∈ [("content-range", value)], FileHeader h := fun value =>
    List.forall_mem_singleton.mpr (.other value (by decide))
  unfold fileResponse
  split
  · exact List.forall_mem_nil _
  · dsimp only
    split
    · rw [Response.headers_answering]
      exact List.forall_mem_append.mpr ⟨hcommon, hlength _⟩
    · rw [Response.headers_answering]
      refine List.forall_mem_append.mpr ⟨hcommon, List.forall_mem_cons.mpr ⟨?_, hlength _⟩⟩
      exact .other _ (by decide)
    · exact List.forall_mem_append.mpr ⟨hcommon, hrange _⟩
    · exact List.forall_mem_append.mpr ⟨hcommon, hrange _⟩

theorem fileHeader_of_foundResponse (request : Request) (name : String) (found : Found) :
    ∀ h ∈ (foundResponse request name found).headers, FileHeader h := by
  cases found with
  | file f => exact fileHeader_of_fileResponse request name f
  | directory | missing | nameTooLong => exact List.forall_mem_nil _

/-- **Whatever the service of files finds, it says nothing but what belongs to files.** -/
theorem fileHeader_of_serveFiles (tree : Tree) (base : List Char) (request : Request) :
    ∀ h ∈ (serveFiles tree base request).headers, FileHeader h := by
  cases hasks : request.asksContent with
  | false =>
    rw [serveFiles_of_not_asksContent tree base hasks]
    exact List.forall_mem_singleton.mpr (.other _ (by decide))
  | true =>
    cases hnames : pathNames? request.target.path with
    | none =>
      unfold serveFiles
      rw [hasks, hnames]
      exact List.forall_mem_nil _
    | some names =>
      rw [serveFiles_of_names hasks hnames]
      split
      · split
        · exact fileHeader_of_foundResponse _ _ _
        · exact List.forall_mem_singleton.mpr (.other _ (by decide))
      · exact fileHeader_of_foundResponse _ _ _

/-! ### Headers that open an answer -/

/-- A header by which an answer is opened to other origins. -/
def Opens (name : String) : Prop :=
  "access-control-".toList <+: name.toList

instance (name : String) : Decidable (Opens name) := by
  unfold Opens
  infer_instance

theorem FileHeader.not_opens {h : String × String} (hh : FileHeader h) : ¬ Opens h.1 := by
  cases hh with
  | type name => exact (by decide : ¬ Opens "content-type")
  | other value hname =>
    have hnone : ∀ name ∈ ["allow", "location", "accept-ranges", "last-modified", "content-range",
        "content-length"], ¬ Opens name := by decide
    exact hnone _ hname

theorem Opens.not_mem_codingHeaders {name : String} (h : Opens name) :
    name ∉ Response.codingHeaders := by
  have hnone : ∀ name ∈ Response.codingHeaders, ¬ Opens name := by decide
  exact fun hmem => hnone name hmem h

theorem values_pageResponse_of_opens (c : Console) (nonce : String) (request : Request)
    {name : String} (h : Opens name) : (pageResponse c nonce request).values name = [] := by
  have hnone : ∀ name ∈ ["content-type", "content-length", "allow"], ¬ Opens name := by decide
  obtain ⟨htype, hlength, hallow⟩ :
      name ≠ "content-type" ∧ name ≠ "content-length" ∧ name ≠ "allow" := by
    refine ⟨?_, ?_, ?_⟩ <;> exact fun he => hnone name (by simp [he]) h
  have hcontent : (pageContent c nonce request).values name = [] := by
    have hheaders : (pageContent c nonce request).headers =
        [("content-type", "text/html; charset=utf-8")] := rfl
    simp [Response.values, hheaders, valuesOf, htype.symm]
  unfold pageResponse
  rw [Route.values_answer hlength hallow]
  split
  · exact hcontent
  · rfl

/-- Away from the endpoints no part of the console opens an answer. -/
theorem values_plainResponse_of_opens (c : Console) (nonce : String) {request : Request}
    (h : ¬ AtEndpoint request.target.path) {name : String} (hname : Opens name) :
    (plainResponse c nonce request).values name = [] := by
  by_cases hroot : request.target.path = ['/']
  · rw [plainResponse_of_root hroot]
    exact values_pageResponse_of_opens c nonce request hname
  · rw [plainResponse_of_service (endpoint?_eq_none_iff.mpr h) hroot]
    refine List.eq_nil_iff_forall_not_mem.mpr fun value hvalue => ?_
    exact (fileHeader_of_serveFiles _ _ _ _ (Response.mem_values_iff.mp hvalue)).not_opens hname

/-- What is opened is opened once, if its service says nothing of that. -/
theorem values_opening (service : Service) {request : Request}
    (h : (service request).values "access-control-allow-origin" = []) :
    (opening service request).values "access-control-allow-origin" = ["*"] := by
  unfold opening
  split
  · decide
  · rw [Response.values_addHeaders, h]
    decide

/-- At an endpoint every answer is opened once. -/
theorem values_endpointResponse (apiPort : UInt16) (e : Endpoint) (request : Request) :
    (endpointResponse apiPort e request).values "access-control-allow-origin" = ["*"] := by
  unfold endpointResponse
  rw [Route.values_answer (by decide) (by decide), e.content_route, e.refusal_route]
  split
  · refine values_opening (e.content apiPort) ?_
    cases e with
    | apiPort => rfl
    | health => rfl
  · exact values_opening _ rfl

theorem values_consoleResponse_of_atEndpoint (c : Console) (nonce : String) {request : Request}
    (h : AtEndpoint request.target.path) :
    (consoleResponse c nonce request).values "access-control-allow-origin" = ["*"] := by
  obtain ⟨e, he⟩ := exists_of_atEndpoint h
  rw [values_consoleResponse (by decide), plainResponse_of_endpoint he]
  exact values_endpointResponse c.apiPort e request

theorem status_consoleResponse_of_atEndpoint (c : Console) (nonce : String) {request : Request}
    (h : AtEndpoint request.target.path) :
    (consoleResponse c nonce request).status =
      if request.asksContent = true ∨ request.method = "OPTIONS" then 200 else 405 := by
  obtain ⟨e, he⟩ := exists_of_atEndpoint h
  rw [status_consoleResponse, plainResponse_of_endpoint he]
  exact status_endpointResponse c.apiPort e request

theorem values_consoleResponse_of_opens (c : Console) (nonce : String) {request : Request}
    (h : ¬ AtEndpoint request.target.path) {name : String} (hname : Opens name) :
    (consoleResponse c nonce request).values name = [] := by
  rw [values_consoleResponse hname.not_mem_codingHeaders]
  exact values_plainResponse_of_opens c nonce h hname

/-- **An answer may be read from any origin if it comes from an endpoint, and only then.**  At an endpoint
the header stands once, with every status that there is; anywhere else no header opens the answer. -/
theorem open_iff_atEndpoint (c : Console) (nonce : String) (request : Request) :
    ((∃ value, ("access-control-allow-origin", value) ∈ (consoleResponse c nonce request).headers) ↔
      AtEndpoint request.target.path) ∧
    (AtEndpoint request.target.path →
      (consoleResponse c nonce request).values "access-control-allow-origin" = ["*"] ∧
      (consoleResponse c nonce request).status =
        if request.asksContent = true ∨ request.method = "OPTIONS" then 200 else 405) ∧
    (¬ AtEndpoint request.target.path → ∀ name, Opens name →
      (consoleResponse c nonce request).values name = []) := by
  have hopen (h : AtEndpoint request.target.path) :=
    values_consoleResponse_of_atEndpoint c nonce h
  have hclosed (h : ¬ AtEndpoint request.target.path) (name : String) (hname : Opens name) :=
    values_consoleResponse_of_opens c nonce h hname
  refine ⟨⟨fun ⟨value, hvalue⟩ => ?_, fun h => ⟨"*", ?_⟩⟩,
    fun h => ⟨hopen h, status_consoleResponse_of_atEndpoint c nonce h⟩, hclosed⟩
  · by_contra h
    have hmem := Response.mem_values_iff.mpr hvalue
    rw [hclosed h _ (by decide)] at hmem
    cases hmem
  · rw [← Response.mem_values_iff, hopen h]
    exact List.mem_singleton_self "*"

end DnsConsole.Site
