import DnsConsole.Proofs.Site.Routes
import DnsConsole.Proofs.Text.Pieces

/-!
# The directory that is served

A path is followed through the whole tree, also upwards, and what is asked for is put behind the path of a
directory.  What is asked for is made of names alone (`isName_of_pathNames?`), and a name leads into a
directory, so that the path of some names behind another path finds what the names find below it
(`lookup_foldl_push`).

* `AgreeBelow base t u`: the same is found in `t` and `u` at and below the path `base`.
* `serveFiles_congr`: then the directory at `base` is served alike from both.
* `consoleResponse_congr`: so a console answers from the directory of its site alone, and below `/pkg` from
  that of the built files.
-/

namespace DnsConsole.Site

/-- A name of a file or a directory: not one of the pieces of a path with a meaning of their own. -/
structure Path.IsName (name : String) : Prop where
  ne_empty : name ≠ ""
  ne_here : name ≠ "."
  ne_up : name ≠ ".."
  not_mem : '/' ∉ name.toList

namespace Tree

/-- What is found in a tree by the names on the way down. -/
def find : Tree → List String → Found
  | t, [] => t.found
  | .file _, _ :: _ => .missing
  | .directory entries, name :: names =>
    if 255 < name.utf8ByteSize then .nameTooLong
    else
      match entries.lookup name with
      | some child => child.find names
      | none => .missing

theorem find_nil (t : Tree) : t.find [] = t.found := by
  cases t <;> rfl

/-- What is found by names below a path. -/
def findBelow (t : Tree) (base : List Char) (names : List String) : Found :=
  match t.locate base with
  | .ok p => p.here.find names
  | .error found => found

theorem lookup_of_ok {t : Tree} {path : List Char} {p : Place} (h : t.locate path = .ok p) :
    t.lookup path = p.here.found := by
  unfold lookup
  rw [h]

theorem lookup_of_error {t : Tree} {path : List Char} {found : Found}
    (h : t.locate path = .error found) : t.lookup path = found := by
  unfold lookup
  rw [h]

/-- The same is at a path and below it in both trees. -/
def AgreeBelow (base : List Char) (t u : Tree) : Prop :=
  ∀ names, (∀ name ∈ names, Path.IsName name) → t.findBelow base names = u.findBelow base names

end Tree

/-! ### Names behind a path -/

theorem pieces_push (path : List Char) {name : String} (h : Path.IsName name) :
    Path.pieces (Path.push path name) = Path.pieces path ++ [name] ∨
      ∃ front, Path.pieces path = front ++ [""] ∧
        Path.pieces (Path.push path name) = front ++ [name] := by
  have hsplit : Text.split '/' name.toList = [name.toList] := List.splitOn_eq_singleton h.not_mem
  have hhead : name.toList.head? ≠ some '/' := fun hs => h.not_mem (List.mem_of_head? hs)
  unfold Path.push
  rw [if_neg hhead]
  rcases List.eq_nil_or_concat path with rfl | ⟨front, c, rfl⟩
  · exact Or.inr ⟨[], rfl, by simp [Path.pieces, hsplit]⟩
  by_cases hc : c = '/'
  · refine Or.inr ⟨Path.pieces front, ?_, ?_⟩
    · simp [Path.pieces, hc, List.splitOn_append_cons_self]
    · simp [Path.pieces, hc, List.splitOn_append_cons_self, hsplit]
  · refine Or.inl ?_
    unfold Path.pieces Text.split at *
    rw [if_neg (by simp [hc]), List.splitOn_append_cons_self, hsplit, List.map_append]
    simp

/-- A slash at the end of a path makes no difference to a name behind it. -/
theorem step_empty_bind_step (p : Place) (name : String) :
    (p.step "").bind (fun q => q.step name) = p.step name := by
  obtain ⟨here, around⟩ := p
  cases here with
  | file f => rfl
  | directory entries => rfl

theorem locate_push (t : Tree) (path : List Char) {name : String} (h : Path.IsName name) :
    t.locate (Path.push path name) = (t.locate path).bind fun p => p.step name := by
  unfold Tree.locate
  rcases pieces_push path h with hname | ⟨front, hpath, hname⟩
  · rw [hname, List.foldlM_append]
    cases (Path.pieces path).foldlM Place.step (⟨t, []⟩ : Place) with
    | error found => rfl
    | ok p => exact bind_pure (p.step name)
  · rw [hname, hpath, List.foldlM_append, List.foldlM_append]
    cases front.foldlM Place.step (⟨t, []⟩ : Place) with
    | error found => rfl
    | ok p =>
      change (p.step name >>= pure) = ((p.step "" >>= pure) >>= fun q => q.step name)
      rw [bind_pure, bind_pure]
      exact (step_empty_bind_step p name).symm

/-- The path of some names behind another path is followed from where the other one leads. -/
theorem locate_foldl_push (t : Tree) {names : List String} (h : ∀ name ∈ names, Path.IsName name)
    (base : List Char) :
    t.locate (names.foldl Path.push base) =
      (t.locate base).bind fun p => names.foldlM Place.step p := by
  induction names generalizing base with
  | nil => exact (bind_pure (t.locate base)).symm
  | cons name names ih =>
    obtain ⟨hname, hnames⟩ := List.forall_mem_cons.mp h
    rw [List.foldl_cons, ih hnames, locate_push t base hname]
    cases t.locate base with
    | error found => rfl
    | ok p => rfl

/-- A name leads out of a directory to its entry of that name. -/
theorem step_directory {name : String} (h : Path.IsName name) (entries : List (String × Tree))
    (around : List Tree) :
    Place.step ⟨.directory entries, around⟩ name =
      if 255 < name.utf8ByteSize then .error .nameTooLong
      else
        match entries.lookup name with
        | some child => .ok ⟨child, .directory entries :: around⟩
        | none => .error .missing := by
  have hdot : ¬ (name = "" ∨ name = ".") := not_or.mpr ⟨h.ne_empty, h.ne_here⟩
  exact (if_neg hdot).trans (if_neg h.ne_up)

/-- The names on the way down find the same whatever is around the place. -/
theorem found_foldlM_step {names : List String} (h : ∀ name ∈ names, Path.IsName name) (p : Place) :
    (match names.foldlM Place.step p with
      | .ok q => q.here.found
      | .error found => found) = p.here.find names := by
  induction names generalizing p with
  | nil => exact (Tree.find_nil p.here).symm
  | cons name names ih =>
    obtain ⟨hname, hnames⟩ := List.forall_mem_cons.mp h
    have ih := ih hnames
    obtain ⟨here, around⟩ := p
    cases here with
    | file f => rfl
    | directory entries =>
      rw [List.foldlM_cons, step_directory hname, Tree.find]
      by_cases hlong : 255 < name.utf8ByteSize
      · rw [if_pos hlong, if_pos hlong]
        rfl
      · rw [if_neg hlong, if_neg hlong]
        cases entries.lookup name with
        | none => rfl
        | some child => exact ih _

/-- **A path of names behind another path finds what lies below the other one.** -/
theorem lookup_foldl_push (t : Tree) (base : List Char) {names : List String}
    (h : ∀ name ∈ names, Path.IsName name) :
    t.lookup (names.foldl Path.push base) = t.findBelow base names := by
  unfold Tree.lookup Tree.findBelow
  rw [locate_foldl_push t h base]
  cases t.locate base with
  | error found => rfl
  | ok p => exact found_foldlM_step h p

/-! ### Trees that agree -/

theorem Tree.findBelow_push (t : Tree) (base : List Char) {name : String} (h : Path.IsName name)
    {names : List String} (hnames : ∀ x ∈ names, Path.IsName x) :
    t.findBelow (Path.push base name) names = t.findBelow base (name :: names) := by
  have hall : ∀ x ∈ name :: names, Path.IsName x := List.forall_mem_cons.mpr ⟨h, hnames⟩
  rw [← lookup_foldl_push t base hall, ← lookup_foldl_push t _ hnames, List.foldl_cons]

/-- Trees that agree below a directory agree below the directories in it. -/
theorem Tree.AgreeBelow.push {base : List Char} {t u : Tree} (h : AgreeBelow base t u)
    {name : String} (hname : Path.IsName name) : AgreeBelow (Path.push base name) t u := by
  intro names hnames
  rw [findBelow_push t base hname hnames, findBelow_push u base hname hnames]
  exact h _ (List.forall_mem_cons.mpr ⟨hname, hnames⟩)

/-- Trees agree below a path that leads to the same in both. -/
theorem Tree.agreeBelow_of_here {base : List Char} {t u : Tree} {p q : Place}
    (ht : t.locate base = .ok p) (hu : u.locate base = .ok q) (h : p.here = q.here) :
    AgreeBelow base t u := by
  intro names _
  unfold findBelow
  rw [ht, hu]
  exact congrArg (fun tree => tree.find names) h

/-! ### What is served -/

theorem isName_indexName : Path.IsName indexName :=
  ⟨by decide, by decide, by decide, by decide⟩

/-- A request path is decoded to names. -/
theorem isName_of_pathNames? {path : List Char} {names : List String}
    (h : pathNames? path = some names) : ∀ name ∈ names, Path.IsName name := by
  unfold pathNames? at h
  obtain ⟨decoded, -, h⟩ := Option.bind_eq_some_iff.mp h
  dsimp only at h
  split at h
  · cases h
  split at h
  · cases h
  next hup =>
    obtain rfl := Option.some.inj h
    intro name hname
    obtain ⟨s, hs, rfl⟩ := List.mem_map.mp hname
    obtain ⟨hsplit, hkept⟩ := List.mem_filter.mp hs
    have hkept : s ≠ [] ∧ s ≠ ['.'] := by simpa using hkept
    have hlist : ∀ text : String, String.ofList s = text → s = text.toList := by
      rintro text rfl
      exact String.toList_ofList.symm
    refine ⟨fun he => hkept.1 (hlist _ he), fun he => hkept.2 (hlist _ he), fun he => hup ?_, ?_⟩
    · have hs' : s = ['.', '.'] := hlist _ he
      rw [List.contains_iff_mem, ← hs']
      exact hs
    · rw [String.toList_ofList]
      exact Text.not_mem_of_mem_splitOn hsplit

theorem serveFiles_congr {base : List Char} {t u : Tree} (h : Tree.AgreeBelow base t u)
    (request : Http.Request) : serveFiles t base request = serveFiles u base request := by
  unfold serveFiles
  split
  · rfl
  split
  · rfl
  next names hnames =>
    have hall := isName_of_pathNames? hnames
    have hpath : t.lookup (names.foldl Path.push base) = u.lookup (names.foldl Path.push base) := by
      rw [lookup_foldl_push t base hall, lookup_foldl_push u base hall]
      exact h names hall
    have hindex : t.lookup (Path.push (names.foldl Path.push base) indexName) =
        u.lookup (Path.push (names.foldl Path.push base) indexName) := by
      have hindexed : ∀ name ∈ names ++ [indexName], Path.IsName name := by
        simpa [or_imp, forall_and] using ⟨hall, isName_indexName⟩
      have hlookup := h (names ++ [indexName]) hindexed
      rw [← lookup_foldl_push t base hindexed, ← lookup_foldl_push u base hindexed,
        List.foldl_append] at hlookup
      exact hlookup
    dsimp only
    rw [hpath, hindex]

theorem isName_pkg : Path.IsName "pkg" :=
  ⟨by decide, by decide, by decide, by decide⟩

theorem packagePath?_below {path : List Char} (h : "/pkg/".toList <+: path) :
    packagePath? path = some (path.drop 4) := by
  have hne : path ≠ "/pkg".toList := by
    rintro rfl
    exact absurd h.length_le (by decide)
  unfold packagePath? Http.Router.below?
  rw [if_neg hne]
  exact if_pos (List.isPrefixOf_iff_prefix.mpr h)

/-- Only the two directories are asked. -/
theorem consoleResponse_of_serveFiles {c : Console} {t u : Tree} {nonce : String}
    {request : Http.Request}
    (hpackage : ∀ r, serveFiles t c.packageBase r = serveFiles u c.packageBase r)
    (hsite : packagePath? request.target.path = none →
      serveFiles t c.base request = serveFiles u c.base request) :
    consoleResponse { c with tree := t } nonce request =
      consoleResponse { c with tree := u } nonce request := by
  rw [consoleResponse_eq, consoleResponse_eq]
  congr 1
  cases hendpoint : endpoint? request.target.path with
  | some e => rw [plainResponse_of_endpoint hendpoint, plainResponse_of_endpoint hendpoint]
  | none =>
    by_cases hroot : request.target.path = ['/']
    · rw [plainResponse_of_root hroot, plainResponse_of_root hroot]
      rfl
    · rw [plainResponse_of_service hendpoint hroot, plainResponse_of_service hendpoint hroot]
      unfold Console.service
      cases hpath : packagePath? request.target.path with
      | some path => exact hpackage _
      | none => exact hsite hpath

/-- **A console answers from the directory of its site alone**, and below `/pkg` from that of the built
files: whatever else there is in the tree, the answers are the same. -/
theorem consoleResponse_congr (c : Console) (t u : Tree) (nonce : String) (request : Http.Request) :
    (Tree.AgreeBelow c.base t u →
      consoleResponse { c with tree := t } nonce request =
        consoleResponse { c with tree := u } nonce request) ∧
    (Tree.AgreeBelow c.packageBase t u → "/pkg/".toList <+: request.target.path →
      consoleResponse { c with tree := t } nonce request =
        consoleResponse { c with tree := u } nonce request) := by
  refine ⟨fun h => ?_, fun h hpkg => ?_⟩
  · exact consoleResponse_of_serveFiles (serveFiles_congr (h.push isName_pkg)) fun _ =>
      serveFiles_congr h request
  · refine consoleResponse_of_serveFiles (serveFiles_congr h) fun hnone => ?_
    rw [packagePath?_below hpkg] at hnone
    cases hnone

/-- A tree with a built file of the site `/srv/site`, and a file beside the site. -/
def siteBeside (secret : List UInt8) : Tree :=
  .ofList [(["srv", "site", "pkg", "console.css"], .file ⟨[0x61], 0⟩),
    (["srv", "secret.txt"], .file ⟨secret, 0⟩)]

/-- A console of the site `/srv/site`. -/
def siteConsole (tree : Tree) : Console :=
  ⟨8080, ⟨"console", "pkg", false⟩, tree, ["srv", "site"]⟩

/-- A file beside the site is in no answer, by whatever way up it is asked for. -/
theorem consoleResponse_congr_of_siteBeside :
    (siteBeside [0x31]).lookup "/srv/secret.txt".toList ≠
      (siteBeside [0x32]).lookup "/srv/secret.txt".toList ∧
    consoleResponse (siteConsole (siteBeside [0x31])) ""
        ⟨"GET", .ofText "/%2e%2e/secret.txt", []⟩ =
      consoleResponse (siteConsole (siteBeside [0x32])) ""
        ⟨"GET", .ofText "/%2e%2e/secret.txt", []⟩ ∧
    consoleResponse (siteConsole (siteBeside [0x31])) ""
        ⟨"GET", .ofText "/pkg/..%2f../secret.txt", []⟩ =
      consoleResponse (siteConsole (siteBeside [0x32])) ""
        ⟨"GET", .ofText "/pkg/..%2f../secret.txt", []⟩ := by
  have hsite : Tree.AgreeBelow (siteConsole .empty).base (siteBeside [0x31]) (siteBeside [0x32]) :=
    Tree.agreeBelow_of_here rfl rfl rfl
  have hpackage := hsite.push isName_pkg
  refine ⟨by decide +kernel, ?_, ?_⟩
  · exact (consoleResponse_congr (siteConsole .empty) _ _ "" _).1 hsite
  · exact (consoleResponse_congr (siteConsole .empty) _ _ "" _).2 hpackage (by decide +kernel)

end DnsConsole.Site
