import DnsConsole.Proofs.Site.CrossOrigin
import DnsConsole.Proofs.Text.Utf8
import DnsConsole.Proofs.Url.Origin
import DnsConsole.Url.Reference

/-!
# Where the page is rendered

Two routers look at a request: the one of the console at the path as it was sent, and the one in the page
at the URL that the page is rendered for.  They agree: the page is rendered for a GET of `/`, and its router
then finds the root (`isRoot_reference`), which shows the checking screen before any script runs.

An answer shows a view if it has the type of the page and holds the view inside the shell of the page
(`Shows`).  No file has that type (`ofName_ne_pageType`), so that `shows_iff` says for every view which
answers show it, and `page_at_root` what follows for the views that are never shown and for the
answers that are not rendered.
-/

namespace DnsConsole

open Http

/-! ### References to the root -/

namespace Url

/-- A question mark ends the path. -/
theorem relativeSegments_query (behind : List Char) :
    relativeSegments ('/' :: '?' :: behind) = [[]] := rfl

/-- **A slash names the root of a server, whatever query is behind it.** -/
theorem referenceSegments_root {behind : List Char} (h : behind = [] ∨ behind.head? = some '?') :
    referenceSegments (String.ofList ('/' :: behind)) = [[]] := by
  unfold referenceSegments
  rw [String.toList_ofList]
  rcases h with rfl | h
  · rfl
  · obtain ⟨query, rfl⟩ := List.head?_eq_some_iff.mp h
    have hinner : ∀ c ∈ ['/', '?'], isOuter c = false := by
      rw [List.forall_mem_cons, List.forall_mem_singleton]
      exact ⟨rfl, rfl⟩
    obtain ⟨rest, hrest⟩ := exists_of_significant_append (List.cons_ne_nil '/' ['?']) hinner query
    have hsignificant : significant ('/' :: '?' :: query) = '/' :: '?' :: rest := hrest
    have hscheme : splitScheme? ('/' :: '?' :: rest) = none := rfl
    rw [hsignificant]
    dsimp only
    rw [hscheme]
    exact relativeSegments_query rest

end Url

/-! ### Types of files -/

namespace Http.ContentType

/-- The type of a file is just bytes, or it begins like a family and goes on like a type of it. -/
theorem ofName_cases (name : String) :
    ofName name = bytes ∨
      ∃ family ∈ families, ∃ type ∈ family.2, ofName name = family.1 ++ type.1 := by
  unfold ofName
  cases extension? name.toList with
  | none => exact Or.inl rfl
  | some e =>
    dsimp only
    cases htype : table.lookup (String.ofList (e.flatMap folded)) with
    | none => exact Or.inl rfl
    | some found =>
      obtain ⟨before, behind, htable, -⟩ := List.lookup_eq_some_iff.mp htype
      have hmem : (String.ofList (e.flatMap folded), found) ∈ table := by
        rw [htable]
        exact List.mem_append_right before List.mem_cons_self
      obtain ⟨family, hfamily, hmem⟩ := List.mem_flatMap.mp hmem
      obtain ⟨type, htype, hmem⟩ := List.mem_flatMap.mp hmem
      obtain ⟨e', -, heq⟩ := List.mem_map.mp hmem
      exact Or.inr ⟨family, hfamily, type, htype, (Prod.mk.inj heq).2.symm⟩

end Http.ContentType

/-! ### Elements -/

namespace Page

theorem htmlOf_append (front behind : List Node) :
    htmlOf (front ++ behind) = htmlOf front ++ htmlOf behind := by
  induction front with
  | nil => simp only [htmlOf, List.nil_append, String.empty_append]
  | cons node front ih => simp only [htmlOf, List.cons_append, ih, String.append_assoc]

/-- Elements are told apart by what is last in them. -/
theorem html_element_inj {name : String} {attributes : List Attribute} (front : List Node)
    {v w : Node} :
    (Node.element name attributes (front ++ [v])).html =
      (Node.element name attributes (front ++ [w])).html ↔ v.html = w.html := by
  simp only [Node.html, htmlOf_append, htmlOf]
  rw [String.append_left_inj, String.append_left_inj, String.append_left_inj,
    String.append_right_inj, String.append_right_inj, String.append_left_inj]

end Page

namespace Site

/-- The type of the page. -/
def pageType : String := "text/html; charset=utf-8"

theorem ofName_ne_pageType (name : String) : ContentType.ofName name ≠ pageType := by
  have hnone : ∀ family ∈ ContentType.families, ∀ type ∈ family.2, family.1 ++ type.1 ≠ pageType := by
    decide +kernel
  rcases ContentType.ofName_cases name with hbytes | ⟨family, hfamily, type, htype, htext⟩
  · rw [hbytes]
    decide
  · rw [htext]
    exact hnone family hfamily type htype

theorem FileHeader.ne_pageType {h : String × String} (hh : FileHeader h) :
    h ≠ ("content-type", pageType) := by
  rintro rfl
  generalize hheader : ("content-type", pageType) = header at hh
  cases hh with
  | type name => exact ofName_ne_pageType name (Prod.mk.inj hheader).2.symm
  | other value hname =>
    rw [← (Prod.mk.inj hheader).1] at hname
    revert hname
    decide

/-! ### The page -/

/-- The shell of the page is the same around every view. -/
theorem shell_inj {o : Server.Options} {nonce : String} {v w : Page.Node} :
    shell o nonce v = shell o nonce w ↔ v.html = w.html := by
  unfold shell
  rw [String.append_left_inj, String.append_left_inj, String.append_right_inj]
  exact (Page.html_element_inj [head o nonce]).trans (Page.html_element_inj [])

theorem shell_ne_empty (o : Server.Options) (nonce : String) (view : Page.Node) :
    shell o nonce view ≠ "" := by
  intro h
  unfold shell at h
  simp only [String.append_eq_empty_iff] at h
  obtain ⟨⟨⟨hdoctype, -⟩, -⟩, -⟩ := h
  exact absurd hdoctype (by decide)

/-! ### The root -/

/-- The router of the page finds the root where the router of the console renders the page. -/
theorem isRoot_reference {target : Target} (h : target.path = ['/']) :
    Page.isRoot (String.ofList target.reference) = true := by
  have hquery : Target.queryText target.query = [] ∨
      (Target.queryText target.query).head? = some '?' := by
    cases target.query with
    | none => exact Or.inl rfl
    | some q => exact Or.inr rfl
  have hsegments := Url.referenceSegments_root hquery
  unfold Page.isRoot Target.reference
  rw [h, List.singleton_append, hsegments]
  rfl

/-- The root before any script runs. -/
def checkingPage : Page.Node :=
  Page.classed "div" "app" [Page.checking]

/-- What the root says before any script runs. -/
theorem html_checkingPage : checkingPage.html =
    "<div class=\"app\"><div class=\"app-checking\">Checking login...</div></div>" := by
  decide

theorem app_reference {target : Target} (h : target.path = ['/']) :
    Page.app (String.ofList target.reference) = checkingPage := by
  unfold Page.app
  rw [isRoot_reference h]
  rfl

/-- A view that the console shows at another path, or when it knows about its login. -/
inductive Elsewhere : Page.Node → Prop
  | notFound {url : String} (h : Page.isRoot url = false) : Elsewhere (Page.app url)
  | screen {status : Session.Status} (h : status.screen ≠ .checking) (tab : Page.Tab) :
    Elsewhere (Page.rootPage status tab)

theorem Elsewhere.html_ne {view : Page.Node} (h : Elsewhere view) : view.html ≠ checkingPage.html := by
  cases h with
  | notFound hurl =>
    unfold Page.app
    rw [hurl]
    decide +kernel
  | @screen status hstatus tab =>
    have hlogin : ∀ tab ∈ Page.Tab.all,
        (Page.rootPage .loggedOut tab).html ≠ checkingPage.html := by decide +kernel
    have hhome : ∀ tab ∈ Page.Tab.all,
        (Page.rootPage .loggedIn tab).html ≠ checkingPage.html := by decide +kernel
    cases status with
    | checking => exact absurd rfl hstatus
    | loggedIn => exact hhome tab tab.mem_all
    | loggedOut => exact hlogin tab tab.mem_all

/-! ### What answers show -/

/-- An answer shows a view: it is the page, with the view inside the shell. -/
structure Shows (c : Console) (nonce : String) (view : Page.Node) (r : Response) : Prop where
  status : r.status = 200
  type : r.values "content-type" = [pageType]
  body : r.body = Text.Utf8.encode (shell c.options nonce view).toList

theorem pageType_not_mem_opening (service : Service) {request : Request}
    (h : pageType ∉ (service request).values "content-type") :
    pageType ∉ (opening service request).values "content-type" := by
  have hopen : valuesOf "content-type" openHeaders = [] := by decide
  unfold opening
  split
  · decide
  · rwa [Response.values_addHeaders, hopen, List.append_nil]

/-- The endpoints do not say the type of the page. -/
theorem pageType_not_mem_endpointResponse (apiPort : UInt16) (e : Endpoint) (request : Request) :
    pageType ∉ (endpointResponse apiPort e request).values "content-type" := by
  unfold endpointResponse
  rw [Route.values_answer (by decide) (by decide), e.content_route, e.refusal_route]
  split
  · refine pageType_not_mem_opening (e.content apiPort) ?_
    cases e with
    | apiPort => exact (by decide : pageType ∉ ["application/json"])
    | health => exact List.not_mem_nil
  · exact pageType_not_mem_opening _ List.not_mem_nil

theorem pageType_not_mem_refusal (request : Request) :
    pageType ∉ (refusal request).values "content-type" := by
  unfold refusal
  split_ifs <;> decide

/-- What has the type of the page comes from the route of the page. -/
theorem root_of_pageType_mem {c : Console} {nonce : String} {request : Request}
    (h : pageType ∈ (plainResponse c nonce request).values "content-type") :
    request.asksContent = true ∧ request.target.path = ['/'] := by
  cases hasks : request.asksContent with
  | false =>
    rw [plainResponse_of_not_asksContent c nonce hasks] at h
    exact absurd h (pageType_not_mem_refusal request)
  | true =>
    refine ⟨rfl, ?_⟩
    by_contra hroot
    cases hend : endpoint? request.target.path with
    | none =>
      rw [plainResponse_of_service hend hroot, Response.mem_values_iff] at h
      exact (fileHeader_of_serveFiles _ _ _ _ h).ne_pageType rfl
    | some e =>
      rw [plainResponse_of_endpoint hend] at h
      exact pageType_not_mem_endpointResponse c.apiPort e request h

/-- The page is answered with the checking screen in it. -/
theorem plainResponse_of_get (c : Console) (nonce : String) {request : Request}
    (hget : request.method = "GET") (hroot : request.target.path = ['/']) :
    plainResponse c nonce request = ⟨200, [("content-type", pageType)],
      Text.Utf8.encode (shell c.options nonce checkingPage).toList, true⟩ := by
  have hasks : request.asksContent = true := by simp [Request.asksContent, hget]
  have hhead : request.isHead = false := by simp [Request.isHead, hget]
  rw [plainResponse_of_root hroot, pageResponse_of_asksContent c nonce hasks]
  unfold pageContent document Response.answering
  rw [hhead, app_reference hroot]
  rfl

/-- HEAD leaves the page out. -/
theorem body_of_head (c : Console) (nonce : String) {request : Request}
    (hhead : request.isHead = true) (hroot : request.target.path = ['/']) :
    (plainResponse c nonce request).body = [] := by
  have hasks : request.asksContent = true := by simp [Request.asksContent, hhead]
  rw [plainResponse_of_root hroot, pageResponse_of_asksContent c nonce hasks]
  unfold Response.answering
  rw [hhead]
  rfl

/-- What is rendered and has a body answers a GET. -/
theorem get_of_body_ne_nil {c : Console} {nonce : String} {request : Request}
    (hasks : request.asksContent = true) (hroot : request.target.path = ['/'])
    (h : (plainResponse c nonce request).body ≠ []) : request.method = "GET" := by
  rcases Bool.eq_false_or_eq_true request.isHead with hhead | hhead
  · exact absurd (body_of_head c nonce hhead hroot) h
  · simpa [Request.asksContent, hhead] using hasks

/-- **An answer shows the checking screen if it answers a GET of the root, and nothing else is shown.** -/
theorem shows_iff {c : Console} {nonce : String} {request : Request} {view : Page.Node} :
    Shows c nonce view (consoleResponse c nonce request) ↔
      request.method = "GET" ∧ request.target.path = ['/'] ∧ view.html = checkingPage.html := by
  have htype : (consoleResponse c nonce request).values "content-type" =
      (plainResponse c nonce request).values "content-type" :=
    values_consoleResponse (by decide) c nonce request
  have hbody := body_consoleResponse c nonce request
  have hstatus := status_consoleResponse c nonce request
  constructor
  · rintro ⟨-, hpage, hshell⟩
    have hmem : pageType ∈ (plainResponse c nonce request).values "content-type" := by
      rw [← htype, hpage]
      exact List.mem_singleton_self pageType
    obtain ⟨hasks, hroot⟩ := root_of_pageType_mem hmem
    rw [hbody] at hshell
    have hne : (plainResponse c nonce request).body ≠ [] := by
      intro hnil
      have hempty : Text.Utf8.encode (shell c.options nonce view).toList = Text.Utf8.encode [] :=
        hshell.symm.trans hnil
      rw [Text.Utf8.encode_inj] at hempty
      exact shell_ne_empty c.options nonce view (String.toList_eq_nil_iff.mp hempty)
    have hget := get_of_body_ne_nil hasks hroot hne
    rw [plainResponse_of_get c nonce hget hroot] at hshell
    dsimp only at hshell
    rw [Text.Utf8.encode_inj, String.toList_inj, shell_inj] at hshell
    exact ⟨hget, hroot, hshell.symm⟩
  · rintro ⟨hget, hroot, hview⟩
    rw [plainResponse_of_get c nonce hget hroot] at htype hbody hstatus
    exact ⟨hstatus, htype, by rw [hbody, shell_inj.mpr hview]⟩

/-- At the root the files have no part in the answer. -/
theorem consoleResponse_of_root (c : Console) (nonce : String) {request : Request}
    (h : request.target.path = ['/']) (tree : Tree) (root : List String) :
    consoleResponse { c with tree := tree, root := root } nonce request =
      consoleResponse c nonce request := by
  rw [consoleResponse_eq, consoleResponse_eq, plainResponse_of_root h, plainResponse_of_root h]
  rfl

/-- Anywhere else nothing of the page has. -/
theorem consoleResponse_of_not_root (c : Console) (nonce nonce' : String) {request : Request}
    (h : request.target.path ≠ ['/']) (options : Server.Options) :
    consoleResponse { c with options := options } nonce' request =
      consoleResponse c nonce request := by
  rw [consoleResponse_eq, consoleResponse_eq]
  cases hend : endpoint? request.target.path with
  | some e => rw [plainResponse_of_endpoint hend, plainResponse_of_endpoint hend]
  | none =>
    rw [plainResponse_of_service hend h, plainResponse_of_service hend h]
    rfl

/-- **The page is at the root, and nowhere else.**  It is rendered for a GET of `/`, whatever the query is,
and says that the login is being checked, because the router of the page finds the root there; no answer
shows what the page has for other paths and other states.  At the root the files have no part in the
answer, and anywhere else nothing of the page has. -/
theorem page_at_root (c : Console) (nonce : String) (request : Request) :
    ((∃ view, Shows c nonce view (consoleResponse c nonce request)) ↔
      request.method = "GET" ∧ request.target.path = ['/']) ∧
    (∀ view, Shows c nonce view (consoleResponse c nonce request) →
      Page.isRoot (String.ofList request.target.reference) = true ∧
      view.html = "<div class=\"app\"><div class=\"app-checking\">Checking login...</div></div>" ∧
      ¬ Elsewhere view) ∧
    (request.target.path = ['/'] → ∀ tree root,
      consoleResponse { c with tree := tree, root := root } nonce request =
        consoleResponse c nonce request) ∧
    (request.target.path ≠ ['/'] → ∀ options nonce',
      consoleResponse { c with options := options } nonce' request =
        consoleResponse c nonce request) := by
  refine ⟨⟨?_, ?_⟩, ?_, consoleResponse_of_root c nonce,
    fun hroot options nonce' => consoleResponse_of_not_root c nonce nonce' hroot options⟩
  · rintro ⟨view, hview⟩
    obtain ⟨hget, hroot, -⟩ := shows_iff.mp hview
    exact ⟨hget, hroot⟩
  · rintro ⟨hget, hroot⟩
    exact ⟨checkingPage, shows_iff.mpr ⟨hget, hroot, rfl⟩⟩
  · intro view hview
    obtain ⟨-, hroot, hhtml⟩ := shows_iff.mp hview
    exact ⟨isRoot_reference hroot, hhtml.trans html_checkingPage, fun helse => helse.html_ne hhtml⟩

end Site

end DnsConsole
