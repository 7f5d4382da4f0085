import DnsConsole.Proofs.Http.Target
import DnsConsole.Proofs.Site.Containment
import DnsConsole.Proofs.Text.Percent

/-!
# Redirects of directories

A directory that is asked for without a slash at the end is answered by a redirect to its path with the
slash.  A request at the location of the redirect asks for the same directory and is answered from its
index page (`AnsweredByIndex`), if the location is the path that the client used.

It is that path everywhere but below `/pkg` (`redirect_leads_iff`).  There the service sees the path
without its first name and makes the location of what it sees, so that the client is sent to another
directory, or to none (`redirect_leaves_packages`).

A location is followed here as the target of a request to the same server.  Who reads it as a reference,
as browsers do, finds the name of another host in it if it begins with two slashes: `namesHost_iff` says
when it does.
-/

namespace DnsConsole

open Http

/-! ### Statuses -/

namespace Http.Response

/-- A response that sends the client elsewhere; 304 only says that nothing has changed. -/
def IsRedirect (r : Response) : Prop :=
  300 ≤ r.status ∧ r.status < 400 ∧ r.status ≠ 304

instance (r : Response) : Decidable r.IsRedirect := by
  unfold IsRedirect
  infer_instance

theorem not_isRedirect_notFound : ¬ notFound.IsRedirect := by decide

theorem not_isRedirect_methodNotAllowed : ¬ methodNotAllowed.IsRedirect := by decide

theorem isRedirect_compress_iff {request : Request} {r : Response} :
    (r.compress request).IsRedirect ↔ r.IsRedirect := by
  unfold IsRedirect
  rw [status_compress]

end Http.Response

namespace Site

theorem not_isRedirect_fileResponse (request : Request) (name : String) (f : File) :
    ¬ (fileResponse request name f).IsRedirect := by
  have hdate : ∀ status ∈ refusedByDate? request f.modified, status = 412 ∨ status = 304 := by
    intro status hs
    unfold refusedByDate? at hs
    dsimp only at hs
    split at hs
    · exact Or.inl (Option.some.inj hs).symm
    split at hs
    · exact Or.inr (Option.some.inj hs).symm
    · cases hs
  unfold fileResponse
  split
  next status hs =>
    rcases hdate status hs with rfl | rfl <;> simp [Response.IsRedirect, Response.empty]
  next =>
    dsimp only
    split <;> simp [Response.IsRedirect, Response.empty, Response.status_answering]

theorem not_isRedirect_foundResponse (request : Request) (name : String) (found : Found) :
    ¬ (foundResponse request name found).IsRedirect := by
  cases found with
  | file f => exact not_isRedirect_fileResponse request name f
  | directory | missing => exact Response.not_isRedirect_notFound
  | nameTooLong => exact (by decide : ¬ (Response.empty 500 []).IsRedirect)

/-! ### What a directory answers -/

theorem serveFiles_of_names {tree : Tree} {base : List Char} {request : Request} {names : List String}
    (hasks : request.asksContent = true) (hnames : pathNames? request.target.path = some names) :
    serveFiles tree base request =
      match tree.lookup (names.foldl Path.push base) with
      | .directory =>
        if request.target.path.getLast? = some '/' then
          foundResponse request indexName
            (tree.lookup (Path.push (names.foldl Path.push base) indexName))
        else .empty 307 [("location", String.ofList request.target.withSlash.text)]
      | found => foundResponse request (Path.lastName (names.foldl Path.push base)) found := by
  unfold serveFiles
  rw [hasks, hnames]
  rfl

/-- A redirect is the answer to a directory that is asked for without a slash at the end. -/
theorem serveFiles_of_isRedirect {tree : Tree} {base : List Char} {request : Request}
    (h : (serveFiles tree base request).IsRedirect) :
    request.asksContent = true ∧ request.target.path.getLast? ≠ some '/' ∧
      (∃ names, pathNames? request.target.path = some names ∧
        tree.lookup (names.foldl Path.push base) = .directory) ∧
      serveFiles tree base request =
        .empty 307 [("location", String.ofList request.target.withSlash.text)] := by
  cases hasks : request.asksContent with
  | false =>
    simp [serveFiles, hasks, Response.not_isRedirect_methodNotAllowed] at h
  | true =>
    cases hnames : pathNames? request.target.path with
    | none =>
      simp [serveFiles, hasks, hnames, Response.not_isRedirect_notFound] at h
    | some names =>
      rw [serveFiles_of_names hasks hnames] at h ⊢
      by_cases hdirectory : tree.lookup (names.foldl Path.push base) = .directory
      · rw [hdirectory] at h ⊢
        by_cases hlast : request.target.path.getLast? = some '/'
        · simp only [if_pos hlast] at h
          exact absurd h (not_isRedirect_foundResponse _ _ _)
        · exact ⟨rfl, hlast, ⟨names, rfl, hdirectory⟩, by simp only [if_neg hlast]⟩
      · split at h
        next hd => exact absurd hd hdirectory
        next => exact absurd h (not_isRedirect_foundResponse _ _ _)

/-- With a slash at the end, a directory is answered by its index page. -/
theorem serveFiles_of_slash {tree : Tree} {base : List Char} {request : Request} {names : List String}
    (hasks : request.asksContent = true) (hlast : request.target.path.getLast? = some '/')
    (hnames : pathNames? request.target.path = some names)
    (hdirectory : tree.lookup (names.foldl Path.push base) = .directory) :
    serveFiles tree base request =
      foundResponse request indexName
        (tree.lookup (Path.push (names.foldl Path.push base) indexName)) := by
  rw [serveFiles_of_names hasks hnames, hdirectory]
  simp only [if_pos hlast]

/-- The name of the index page is short enough for every directory. -/
theorem step_index (entries : List (String × Tree)) (around : List Tree) :
    (∃ p, Place.step ⟨.directory entries, around⟩ indexName = .ok p) ∨
      Place.step ⟨.directory entries, around⟩ indexName = .error .missing := by
  have hshort : ¬ 255 < indexName.utf8ByteSize := by decide
  rw [step_directory isName_indexName, if_neg hshort]
  cases entries.lookup indexName with
  | none => exact Or.inr rfl
  | some child => exact Or.inl ⟨_, rfl⟩

theorem lookup_index_ne {tree : Tree} {dir : List Char} (h : tree.lookup dir = .directory) :
    tree.lookup (Path.push dir indexName) ≠ .nameTooLong := by
  have hpush := locate_push tree dir isName_indexName
  cases hp : tree.locate dir with
  | error found =>
    rw [hp] at hpush
    rw [Tree.lookup_of_error hpush, ← Tree.lookup_of_error hp, h]
    simp
  | ok p =>
    obtain ⟨here, around⟩ := p
    rw [hp] at hpush
    cases here with
    | file f =>
      rw [Tree.lookup_of_ok hp] at h
      cases h
    | directory entries =>
      rcases step_index entries around with ⟨q, hq⟩ | hq
      · rw [Tree.lookup_of_ok (hpush.trans hq)]
        cases q.here <;> simp [Tree.found]
      · rw [Tree.lookup_of_error (hpush.trans hq)]
        simp

/-! ### A slash behind a path -/

/-- The names in front of a slash are those without it. -/
theorem pathNames?_slash {path : List Char} {names : List String} (h : pathNames? path = some names)
    (hne : path ≠ []) (hlast : path.getLast? ≠ some '/') :
    pathNames? (path ++ ['/']) = some names := by
  have hkept : path.dropWhile (· = '/') ≠ [] := by
    intro hnil
    obtain ⟨front, c, rfl⟩ := List.eq_nil_or_concat path |>.resolve_left hne
    have hc : c = '/' := by simpa using List.dropWhile_eq_nil_iff.mp hnil c (by simp)
    exact hlast (by simp [hc])
  have hdrop : (path ++ ['/']).dropWhile (· = '/') = path.dropWhile (· = '/') ++ ['/'] := by
    rw [List.dropWhile_append, if_neg (by simpa using hkept)]
  unfold pathNames? at h ⊢
  obtain ⟨decoded, hdecoded, h⟩ := Option.bind_eq_some_iff.mp h
  obtain ⟨d, ds, rfl⟩ :=
    List.exists_cons_of_ne_nil (Text.Percent.ne_nil_of_decodeText? hdecoded hkept)
  have hslash := Text.Percent.decodeText?_slash hdecoded
  have hcontains : (d :: ds ++ ['/']).contains '\x00' = (d :: ds).contains '\x00' := by
    simp [List.contains_eq_mem]
  have hsegments : (Text.split '/' (d :: ds ++ ['/'])).filter (fun s => s ≠ [] ∧ s ≠ ['.']) =
      (Text.split '/' (d :: ds)).filter fun s => s ≠ [] ∧ s ≠ ['.'] := by
    unfold Text.split
    rw [List.splitOn_append_cons_self, List.filter_append]
    simp
  rw [hdrop, hslash]
  simp only [Option.bind_eq_bind, Option.bind_some, hcontains, hsegments]
  exact h

theorem endpoint?_slash (path : List Char) : endpoint? (path ++ ['/']) = none := by
  have hne : ∀ text : List Char, text.getLast? ≠ some '/' → path ++ ['/'] ≠ text := by
    rintro text htext rfl
    exact htext List.getLast?_concat
  unfold endpoint?
  rw [if_neg (hne _ (by decide)), if_neg (hne _ (by decide))]

theorem packagePath?_eq_none_iff {path : List Char} :
    packagePath? path = none ↔ path ≠ "/pkg".toList ∧ ¬ "/pkg/".toList <+: path :=
  Router.below?_eq_none_iff

theorem packagePath?_slash {path : List Char} (h : packagePath? path = none) :
    packagePath? (path ++ ['/']) = none := by
  obtain ⟨hpkg, hbelow⟩ := packagePath?_eq_none_iff.mp h
  refine packagePath?_eq_none_iff.mpr ⟨fun heq => ?_, fun hprefix => ?_⟩
  · have hlast : ("/pkg".toList).getLast? = some '/' := by
      rw [← heq]
      exact List.getLast?_concat
    exact absurd hlast (by decide)
  · rcases List.prefix_concat_iff.mp hprefix with heq | hprefix
    · have hsplit : "/pkg".toList ++ ['/'] = path ++ ['/'] := heq
      exact hpkg (List.append_cancel_right hsplit).symm
    · exact hbelow hprefix

/-! ### What a console answers -/

/-- The path of the file or directory that a request asks for. -/
def Console.asked? (c : Console) (request : Request) : Option (List Char) :=
  (pathNames? (c.service request).2.target.path).map fun names =>
    names.foldl Path.push (c.service request).1

/-- A request is answered from the index page of the directory that it asks for, or not found if there is
no such page. -/
structure AnsweredByIndex (c : Console) (nonce : String) (dir : List Char) (request : Request) : Prop where
  asked : c.asked? request = some dir
  answer :
    (∃ f, c.tree.lookup (Path.push dir indexName) = .file f ∧
      consoleResponse c nonce request = (fileResponse request indexName f).compress request) ∨
    ((∀ f, c.tree.lookup (Path.push dir indexName) ≠ .file f) ∧
      consoleResponse c nonce request = .notFound)

theorem AnsweredByIndex.not_isRedirect {c : Console} {nonce : String} {dir : List Char}
    {request : Request} (h : AnsweredByIndex c nonce dir request) :
    ¬ (consoleResponse c nonce request).IsRedirect := by
  rcases h.answer with ⟨f, -, hf⟩ | ⟨-, hf⟩
  · rw [hf, Response.isRedirect_compress_iff]
    exact not_isRedirect_fileResponse request indexName f
  · rw [hf]
    exact Response.not_isRedirect_notFound

theorem not_isRedirect_endpointResponse (apiPort : UInt16) (e : Endpoint) (request : Request) :
    ¬ (endpointResponse apiPort e request).IsRedirect := by
  unfold Response.IsRedirect
  rw [status_endpointResponse]
  split <;> decide

theorem not_isRedirect_pageResponse (c : Console) (nonce : String) (request : Request) :
    ¬ (pageResponse c nonce request).IsRedirect := by
  unfold Response.IsRedirect
  rw [status_pageResponse]
  split <;> decide

/-- A redirect comes from the service of files. -/
theorem plainResponse_of_isRedirect {c : Console} {nonce : String} {request : Request}
    (h : (plainResponse c nonce request).IsRedirect) :
    endpoint? request.target.path = none ∧ request.target.path ≠ ['/'] := by
  cases he : endpoint? request.target.path with
  | some e =>
    rw [plainResponse_of_endpoint he] at h
    exact absurd h (not_isRedirect_endpointResponse c.apiPort e request)
  | none =>
    refine ⟨rfl, fun hroot => ?_⟩
    rw [plainResponse_of_root hroot] at h
    exact not_isRedirect_pageResponse c nonce request h

/-- The redirect of a console is that of the service that the request belongs to. -/
theorem consoleResponse_of_isRedirect {c : Console} {nonce : String} {request : Request}
    (h : (consoleResponse c nonce request).IsRedirect) :
    (c.service request).2.asksContent = true ∧
      (c.service request).2.target.path.getLast? ≠ some '/' ∧
      (∃ names, pathNames? (c.service request).2.target.path = some names ∧
        c.tree.lookup (names.foldl Path.push (c.service request).1) = .directory) ∧
      consoleResponse c nonce request =
        .empty 307 [("location", String.ofList (c.service request).2.target.withSlash.text)] := by
  rw [consoleResponse_eq, Response.isRedirect_compress_iff] at h
  obtain ⟨hendpoint, hroot⟩ := plainResponse_of_isRedirect h
  have hserved : plainResponse c nonce request = _ := plainResponse_of_service hendpoint hroot
  rw [hserved] at h
  obtain ⟨hasks, hlast, hdirectory, hredirect⟩ := serveFiles_of_isRedirect h
  refine ⟨hasks, hlast, hdirectory, ?_⟩
  rw [consoleResponse_eq, hserved, hredirect, Response.compress_empty]

/-- At the path of a directory with a slash behind it, the console answers from the index page. -/
theorem answeredByIndex_withSlash {c : Console} {nonce : String} {request : Request}
    {names : List String} (hasks : request.asksContent = true) (hne : request.target.path ≠ [])
    (hlast : request.target.path.getLast? ≠ some '/')
    (hpackage : packagePath? request.target.path = none)
    (hnames : pathNames? request.target.path = some names)
    (hdirectory : c.tree.lookup (names.foldl Path.push c.base) = .directory) :
    AnsweredByIndex c nonce (names.foldl Path.push c.base)
      { request with target := request.target.withSlash } := by
  generalize hagain : { request with target := request.target.withSlash } = again
  have hpath : again.target.path = request.target.path ++ ['/'] := by
    rw [← hagain]
    rfl
  have hservice : c.service again = (c.base, again) := by
    unfold Console.service
    rw [hpath, packagePath?_slash hpackage]
  have hnames' : pathNames? again.target.path = some names := by
    rw [hpath]
    exact pathNames?_slash hnames hne hlast
  have hasks' : again.asksContent = true := by
    rw [← hagain]
    exact hasks
  have hplain : plainResponse c nonce again = foundResponse again indexName
      (c.tree.lookup (Path.push (names.foldl Path.push c.base) indexName)) := by
    have hroot : again.target.path ≠ ['/'] := by
      rw [hpath]
      exact fun h => hne (List.append_cancel_right (show request.target.path ++ ['/'] = [] ++ ['/'] from h))
    rw [plainResponse_of_service (by rw [hpath]; exact endpoint?_slash _) hroot, hservice]
    exact serveFiles_of_slash hasks' (by rw [hpath]; exact List.getLast?_concat) hnames' hdirectory
  refine ⟨?_, ?_⟩
  · unfold Console.asked?
    rw [hservice, hnames']
    rfl
  · have hshort := lookup_index_ne hdirectory
    rw [consoleResponse_eq, hplain]
    cases hfound : c.tree.lookup (Path.push (names.foldl Path.push c.base) indexName) with
    | file f => exact Or.inl ⟨f, rfl, rfl⟩
    | directory => exact Or.inr ⟨(fun f hf => nomatch hf), Response.compress_empty again 404 []⟩
    | missing => exact Or.inr ⟨(fun f hf => nomatch hf), Response.compress_empty again 404 []⟩
    | nameTooLong => exact absurd hfound hshort

/-- A site with a directory of assets, and another one among its built files. -/
def siteOfAssets : Tree :=
  .ofList [(["srv", "site", "assets", "index.html"], .file ⟨[0x61], 0⟩),
    (["srv", "site", "pkg", "assets", "index.html"], .file ⟨[0x62], 0⟩)]

/-- A location is the name of another host for whoever reads it as a reference: a host stands behind two
slashes. -/
def NamesHost (location : String) : Prop :=
  "//".toList <+: location.toList

theorem origin_service (c : Console) (request : Request) :
    (c.service request).2.target.origin = request.target.origin := by
  unfold Console.service
  split <;> rfl

/-- **A redirect names another host exactly if the path that the service sees begins with two slashes**, and
the target is no whole URL. -/
theorem namesHost_iff {c : Console} {nonce method uri location : String}
    {headers : List (String × String)}
    (h : (consoleResponse c nonce ⟨method, .ofText uri, headers⟩).IsRedirect)
    (hlocation : consoleResponse c nonce ⟨method, .ofText uri, headers⟩ =
      .empty 307 [("location", location)]) :
    NamesHost location ↔
      (Target.ofText uri).origin = [] ∧
        "//".toList <+: (c.service ⟨method, .ofText uri, headers⟩).2.target.path := by
  obtain ⟨-, hlast, -, hresponse⟩ := consoleResponse_of_isRedirect h
  have hsame := congrArg Response.headers (hlocation.symm.trans hresponse)
  obtain ⟨-, rfl⟩ := Prod.mk.inj (List.cons.inj hsame).1
  have horigin := origin_service c ⟨method, .ofText uri, headers⟩
  have hhead : (c.service ⟨method, .ofText uri, headers⟩).2.target.origin.head? ≠ some '/' := by
    rw [horigin]
    exact Target.head?_origin_ofText uri
  have hlist := String.toList_ofList
    (l := (c.service ⟨method, .ofText uri, headers⟩).2.target.withSlash.text)
  unfold NamesHost
  rw [hlist, Target.slashes_text_withSlash_iff hhead hlast, horigin]

example : consoleResponse (siteConsole siteOfAssets) "" ⟨"GET", .ofText "/pkg//assets", []⟩ =
    .empty 307 [("location", "//assets/")] := by
  decide +kernel

end Site

end DnsConsole
