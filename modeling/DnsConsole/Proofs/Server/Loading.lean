import DnsConsole.Proofs.Environment
import DnsConsole.Proofs.Server.Config
import DnsConsole.Server.Startup

/-!
# The configuration behind an environment file

A start of the server reads the environment file and then the variables of its configuration.  A text that
the environment gives a variable stands whatever the file says, and where it gives none the first setting
of the variable counts (`environment_comes_first`), in a file that is understood to its end as in any
other.

A file that is not understood is not passed over as a whole: it counts as far as it is understood
(`config_of_malformed_file`).  The configuration is the one without the file if nothing in front of the
first line that is not understood sets a variable that has no text, and else may be another one
(`config_of_file_cut_short`).
-/

namespace DnsConsole.Server

open Environment (Stops text?_load exists_front)

/-! ### Settings of a name -/

theorem lookup_eq_none_iff {settings : List (List Char × List Char)} {name : List Char} :
    settings.lookup name = none ↔ name ∉ settings.map Prod.fst := by
  rw [List.lookup_eq_none_iff, List.mem_map]
  constructor
  · rintro h ⟨p, hp, rfl⟩
    exact absurd rfl (bne_iff_ne.mp (h p hp))
  · intro h p hp
    exact bne_iff_ne.mpr fun heq => h ⟨p, hp, heq.symm⟩

/-- The first setting of a name is the one that counts. -/
theorem lookup_of_first {front later : List (List Char × List Char)} {name value : List Char}
    (h : name ∉ front.map Prod.fst) : (front ++ (name, value) :: later).lookup name = some value := by
  rw [List.lookup_append, lookup_eq_none_iff.mpr h, Option.none_or, List.lookup_cons_self]

/-! ### The environment and the file -/

theorem text?_loadFile (env : Environment) (file : String) (name : List Char) :
    (loadFile env (some file)).text? name =
      (env.text? name).or ((env.reading file).settings.lookup name) :=
  text?_load env file name

/-- **The environment comes before the file**: a variable that has a text keeps it, and any other has the
value of the first setting of it in front of the first line that is not understood, or no text if there
is none.  The configuration is that of any environment with these texts. -/
theorem environment_comes_first (env : Environment) (file : String) :
    (∀ (v : Variable) (text : List Char), env.text? v.name.toList = some text →
      (loadFile env (some file)).text? v.name.toList = some text) ∧
    (∀ v : Variable, env.text? v.name.toList = none →
      (∀ front value later, (env.reading file).settings = front ++ (v.name.toList, value) :: later →
        v.name.toList ∉ front.map Prod.fst →
        (loadFile env (some file)).text? v.name.toList = some value) ∧
      (v.name.toList ∉ (env.reading file).settings.map Prod.fst →
        (loadFile env (some file)).text? v.name.toList = none)) ∧
    ∀ env' : Environment,
      (∀ v : Variable,
        env'.text? v.name.toList = (loadFile env (some file)).text? v.name.toList) →
      Config.ofEnvironment (loadFile env (some file)) = Config.ofEnvironment env' := by
  refine ⟨fun v text h => ?_, fun v h => ⟨fun front value later hsettings hfront => ?_, fun hnone => ?_⟩,
    fun env' h => ofEnvironment_congr fun v => (h v).symm⟩
  · rw [text?_loadFile, h, Option.some_or]
  · rw [text?_loadFile, h, Option.none_or, hsettings, lookup_of_first hfront]
  · rw [text?_loadFile, h, Option.none_or, lookup_eq_none_iff.mpr hnone]

/-- An environment in which one variable is blank and another one is no text. -/
def blankPort : Environment :=
  ⟨[(Text.Utf8.encode "PORT".toList, Text.Utf8.encode " ".toList),
    (Text.Utf8.encode "API_PORT".toList, [0xff])]⟩

/-- A file that sets everything twice, and once more behind a line that is no setting. -/
def twofoldFile : String :=
  "PORT=1\nexport API_PORT = '90'\"9\"0 # port\nAPI_PORT=2\nX='a\nSITE_ROOT=b'\nSITE_ROOT=c\n" ++
    "SITE_ROOT=d\nno setting\nSITE_ROOT=e\nPORT=3"

/-- The blank text stands, the bytes give way, and the first settings count. -/
theorem environment_comes_first_of_twofoldFile :
    (loadFile blankPort (some twofoldFile)).text? "PORT".toList = some " ".toList ∧
      (loadFile blankPort (some twofoldFile)).text? "API_PORT".toList = some "9090".toList ∧
      (loadFile blankPort (some twofoldFile)).text? "SITE_ROOT".toList = some "c".toList ∧
      Config.ofEnvironment (loadFile blankPort (some twofoldFile)) = .ok ⟨8000, 9090, "c"⟩ := by
  have hsettings : (blankPort.reading twofoldFile).settings =
      [("PORT".toList, "1".toList), ("API_PORT".toList, "9090".toList),
        ("API_PORT".toList, "2".toList), ("X".toList, "a\nSITE_ROOT=b".toList),
        ("SITE_ROOT".toList, "c".toList), ("SITE_ROOT".toList, "d".toList)] := by
    decide +kernel
  obtain ⟨henv, hfile, -⟩ := environment_comes_first blankPort twofoldFile
  have hapi := (hfile .apiPort (by decide +kernel)).1 [("PORT".toList, "1".toList)] "9090".toList _
    hsettings (by decide)
  have hroot := (hfile .siteRoot (by decide +kernel)).1
    [("PORT".toList, "1".toList), ("API_PORT".toList, "9090".toList),
      ("API_PORT".toList, "2".toList), ("X".toList, "a\nSITE_ROOT=b".toList)] "c".toList _
    hsettings (by decide)
  exact ⟨henv .port " ".toList (by decide +kernel), hapi, hroot, by decide +kernel⟩

/-! ### Files that are not understood -/

/-- What is understood of a file sets no variable of the configuration that has no text. -/
def LeavesAlone (env : Environment) (file : String) : Prop :=
  ∀ v : Variable, env.text? v.name.toList = none →
    v.name.toList ∉ (env.reading file).settings.map Prod.fst

/-- A variable has the text that it had, unless it had none and is set. -/
theorem text?_loadFile_eq_iff {env : Environment} {file : String} {name : List Char} :
    (loadFile env (some file)).text? name = env.text? name ↔
      (env.text? name = none → name ∉ (env.reading file).settings.map Prod.fst) := by
  rw [text?_loadFile]
  cases env.text? name with
  | some text => simp
  | none => simp only [Option.none_or, lookup_eq_none_iff, true_implies]

/-- **A file that is not understood counts as far as it is**: it has a part in front, behind which a line
is not understood, and every variable has the text that it has with this part alone.  The texts of the
configuration are those of the environment exactly if the file leaves them alone, and then the
configuration is the one without the file. -/
theorem config_of_malformed_file {env : Environment} {file : String}
    (h : (env.reading file).complete = false) :
    (∃ (front : String) (back : List Char), file.toList = front.toList ++ back ∧
      (env.reading front).complete = true ∧ Stops (env.meaning (env.reading front).settings) back ∧
      (∀ name, (loadFile env (some file)).text? name = (loadFile env (some front)).text? name) ∧
      Config.ofEnvironment (loadFile env (some file)) =
        Config.ofEnvironment (loadFile env (some front))) ∧
    ((∀ v : Variable,
        (loadFile env (some file)).text? v.name.toList = env.text? v.name.toList) ↔
      LeavesAlone env file) ∧
    (LeavesAlone env file →
      Config.ofEnvironment (loadFile env (some file)) = Config.ofEnvironment env) := by
  obtain ⟨front, back, hfile, hfront, hstop⟩ := exists_front h
  have htext : ∀ name,
      (loadFile env (some file)).text? name = (loadFile env (some front)).text? name := by
    intro name
    rw [text?_loadFile, text?_loadFile, hfront]
  refine ⟨⟨front, back, hfile, ?_, ?_, htext, ofEnvironment_congr fun v => htext _⟩,
    forall_congr' fun v => text?_loadFile_eq_iff,
    fun halone => ofEnvironment_congr fun v => text?_loadFile_eq_iff.mpr (halone v)⟩
  · rw [hfront]
  · rw [hfront]
    exact hstop

/-- A file that is cut short inside of quotes. -/
def unfinishedFile : String :=
  "PORT=9090\nSITE_ROOT=\"srv\nAPI_PORT=9090\n"

/-- In front of the quotes the file sets nothing but a variable that has a text. -/
theorem config_of_unfinished_file :
    (blankPort.reading unfinishedFile).complete = false ∧ LeavesAlone blankPort unfinishedFile ∧
      Config.ofEnvironment (loadFile blankPort (some unfinishedFile)) =
        Config.ofEnvironment blankPort := by
  have hreading : blankPort.reading unfinishedFile = ⟨[("PORT".toList, "9090".toList)], false⟩ := by
    decide +kernel
  have hcomplete : (blankPort.reading unfinishedFile).complete = false := by
    rw [hreading]
  have halone : LeavesAlone blankPort unfinishedFile := by
    intro v hnone
    rw [hreading]
    cases v with
    | port =>
      have hport : blankPort.text? "PORT".toList = some " ".toList := by decide +kernel
      cases hport.symm.trans hnone
    | apiPort | siteRoot => decide
  exact ⟨hcomplete, halone, (config_of_malformed_file hcomplete).2.2 halone⟩

/-- A setting in front of a line that is no setting has its effect. -/
theorem config_of_file_cut_short :
    ¬ ∀ (env : Environment) (file : String), (env.reading file).complete = false →
      Config.ofEnvironment (loadFile env (some file)) = Config.ofEnvironment env := by
  intro h
  have hcomplete : (blankPort.reading "API_PORT=9090\nno setting").complete = false := by
    decide +kernel
  have hwith : Config.ofEnvironment
      (loadFile blankPort (some "API_PORT=9090\nno setting")) =
      .ok ⟨8000, 9090, "target/site"⟩ := by
    decide +kernel
  have hwithout : Config.ofEnvironment blankPort = .ok ⟨8000, 8080, "target/site"⟩ := by
    decide +kernel
  have hsame := h _ _ hcomplete
  rw [hwith, hwithout] at hsame
  cases hsame

end DnsConsole.Server
