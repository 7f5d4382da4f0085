import DnsConsole.Proofs.Environment
import DnsConsole.Proofs.Text.Blank
import DnsConsole.Proofs.Text.Numerals
import DnsConsole.Server.Startup

/-!
# Variables that are heeded

The configuration is made of three variables.  A text that is not blank is read as a port or refused
(`portIn_of_text`) and taken as a path (`pathIn_of_text`); the configuration depends on the texts of the
variables and on nothing else (`ofEnvironment_congr`).

A variable is heeded if no configuration goes over its value (`Heeded`): a port is the number that the
value spells, and a value that spells none is refused.  Just this holds of values that are text, and of no
others but blank ones (`heeded_iff_isText`): bytes that are no text give the default without a word.
-/

namespace DnsConsole.Server

open Environment (text?_of_get? mem_vars_of_get?)
open Number.Unsigned (Spells)
open Text (isBlank trimChars trimChars_eq_nil_iff)

/-! ### What is read of a variable -/

section

variable {env : Environment} {name : String} {default : UInt16}

/-- A value that is not blank is a port number or an error. -/
theorem portIn_of_text {text : List Char} (h : env.text? name.toList = some text)
    (hne : trimChars text ≠ []) :
    (∃ port : UInt16, Spells (trimChars text) port.toNat ∧ portIn env name default = .ok port) ∨
      (∀ port : UInt16, ¬ Spells (trimChars text) port.toNat) ∧
        portIn env name default = .error (.invalidPort name (String.ofList text)) := by
  have hempty : (trimChars text).isEmpty = false := List.isEmpty_eq_false_iff.mpr hne
  unfold portIn
  rw [h]
  dsimp only
  rw [hempty, if_neg Bool.false_ne_true]
  cases hread : Number.Unsigned.read 65535 (trimChars text) with
  | ok n =>
    left
    obtain ⟨hspells, hle⟩ := Number.Unsigned.read_eq_ok_iff.mp hread
    have hn : (UInt16.ofNat n).toNat = n := UInt16.toNat_ofNat_of_lt' (Nat.lt_succ_of_le hle)
    exact ⟨UInt16.ofNat n, hn.symm ▸ hspells, rfl⟩
  | error e =>
    right
    refine ⟨fun port hspells => ?_, rfl⟩
    have hport : port.toNat ≤ 65535 := Nat.le_of_lt_succ port.toNat_lt
    cases hread.symm.trans (Number.Unsigned.read_eq_ok_iff.mpr ⟨hspells, hport⟩)

theorem pathIn_of_text {path : String} {text : List Char} (h : env.text? name.toList = some text)
    (hne : trimChars text ≠ []) : pathIn env name path = String.ofList (trimChars text) := by
  have hempty : (trimChars text).isEmpty = false := List.isEmpty_eq_false_iff.mpr hne
  unfold pathIn
  rw [h]
  dsimp only
  rw [hempty, if_neg Bool.false_ne_true]

end

/-! ### The configuration -/

/-- The variables of the configuration. -/
inductive Variable
  | port
  | apiPort
  | siteRoot
  deriving DecidableEq, Repr

/-- The name of a variable. -/
def Variable.name : Variable → String
  | port => "PORT"
  | apiPort => "API_PORT"
  | siteRoot => "SITE_ROOT"

theorem ofEnvironment_eq_ok_iff {env : Environment} {c : Config} :
    Config.ofEnvironment env = .ok c ↔
      portIn env "PORT" 8000 = .ok c.port ∧ portIn env "API_PORT" 8080 = .ok c.apiPort ∧
        pathIn env "SITE_ROOT" "target/site" = c.siteRoot := by
  unfold Config.ofEnvironment
  cases portIn env "PORT" 8000 with
  | error => simp [bind, Except.bind]
  | ok port =>
    cases portIn env "API_PORT" 8080 with
    | error => simp [bind, Except.bind]
    | ok apiPort =>
      obtain ⟨port', apiPort', siteRoot'⟩ := c
      simp [bind, Except.bind, pure, Except.pure]

theorem ofEnvironment_congr {env env' : Environment}
    (h : ∀ v : Variable, env.text? v.name.toList = env'.text? v.name.toList) :
    Config.ofEnvironment env = Config.ofEnvironment env' := by
  have hport : portIn env "PORT" 8000 = portIn env' "PORT" 8000 := by
    unfold portIn
    rw [show env.text? "PORT".toList = env'.text? "PORT".toList from h .port]
  have hapi : portIn env "API_PORT" 8080 = portIn env' "API_PORT" 8080 := by
    unfold portIn
    rw [show env.text? "API_PORT".toList = env'.text? "API_PORT".toList from h .apiPort]
  have hroot : pathIn env "SITE_ROOT" "target/site" = pathIn env' "SITE_ROOT" "target/site" := by
    unfold pathIn
    rw [show env.text? "SITE_ROOT".toList = env'.text? "SITE_ROOT".toList from h .siteRoot]
  unfold Config.ofEnvironment
  rw [hport, hapi, hroot]

/-! ### Heeded values -/

/-- A value that says nothing: a text of blanks. -/
def IsBlankValue (value : List UInt8) : Prop :=
  ∃ text, Text.Utf8.decode? value = some text ∧ ∀ c ∈ text, isBlank c = true

/-- A value that is a port number, with or without blanks around it. -/
def IsPortNumber (value : List UInt8) (port : UInt16) : Prop :=
  ∃ text, Text.Utf8.decode? value = some text ∧ Spells (trimChars text) port.toNat

/-- What a variable stands for in a configuration is what a value says. -/
def Config.Follows (c : Config) (value : List UInt8) : Variable → Prop
  | .port => IsPortNumber value c.port
  | .apiPort => IsPortNumber value c.apiPort
  | .siteRoot =>
    ∃ text, Text.Utf8.decode? value = some text ∧ c.siteRoot = String.ofList (trimChars text)

/-- The value of a variable is heeded: a configuration follows it, and if it ought to be a port number
and is none, there is an error. -/
structure Heeded (env : Environment) (v : Variable) (value : List UInt8) : Prop where
  followed : ∀ c, Config.ofEnvironment env = .ok c → c.Follows value v
  refused : v ≠ .siteRoot → (∀ port, ¬ IsPortNumber value port) →
    ∃ name text, Config.ofEnvironment env = .error (.invalidPort name text)

/-- There is no error but one about a port, so that what is never followed is refused. -/
theorem heeded_of_followed {env : Environment} {v : Variable} {value : List UInt8}
    (h : ∀ c, Config.ofEnvironment env = .ok c → c.Follows value v) : Heeded env v value where
  followed := h
  refused := by
    intro hv hnone
    cases hconfig : Config.ofEnvironment env with
    | error e =>
      obtain ⟨name, text⟩ := e
      exact ⟨name, text, rfl⟩
    | ok c =>
      have hfollows := h c hconfig
      cases v with
      | port => exact absurd hfollows (hnone c.port)
      | apiPort => exact absurd hfollows (hnone c.apiPort)
      | siteRoot => exact absurd rfl hv

theorem isPortNumber_of_portIn {env : Environment} {name : String} {default port : UInt16}
    {value : List UInt8} {text : List Char} (hset : env.get? name.toList = some value)
    (htext : Text.Utf8.decode? value = some text) (hne : trimChars text ≠ [])
    (h : portIn env name default = .ok port) : IsPortNumber value port := by
  rcases portIn_of_text ((text?_of_get? hset).trans htext) hne with ⟨port', hspells, hok⟩ | ⟨-, herror⟩
  · cases h.symm.trans hok
    exact ⟨text, htext, hspells⟩
  · cases h.symm.trans herror

/-- A value that is text and not blank is heeded, whatever the other variables are. -/
theorem heeded_of_text {env : Environment} {v : Variable} {value : List UInt8} {text : List Char}
    (hset : env.get? v.name.toList = some value) (htext : Text.Utf8.decode? value = some text)
    (hne : trimChars text ≠ []) : Heeded env v value := by
  refine heeded_of_followed fun c hc => ?_
  obtain ⟨hport, hapi, hroot⟩ := ofEnvironment_eq_ok_iff.mp hc
  cases v with
  | port => exact isPortNumber_of_portIn hset htext hne hport
  | apiPort => exact isPortNumber_of_portIn hset htext hne hapi
  | siteRoot =>
    have hpath : pathIn env "SITE_ROOT" "target/site" = String.ofList (trimChars text) :=
      pathIn_of_text ((text?_of_get? hset).trans htext) hne
    exact ⟨text, htext, hroot.symm.trans hpath⟩

/-- With a value that is no text and nothing else set, the configuration is the one without variables. -/
theorem ofEnvironment_of_no_text {name : List Char} {value : List UInt8}
    (h : Text.Utf8.decode? value = none) :
    Config.ofEnvironment ⟨[(Text.Utf8.encode name, value)]⟩ =
      .ok ⟨8000, 8080, "target/site"⟩ := by
  have hnone : ∀ other, Environment.text? ⟨[(Text.Utf8.encode name, value)]⟩ other = none := by
    intro other
    cases hget : Environment.get? ⟨[(Text.Utf8.encode name, value)]⟩ other with
    | none =>
      unfold Environment.text?
      rw [hget]
      rfl
    | some value' =>
      have hmem : (Text.Utf8.encode other, value') ∈ [(Text.Utf8.encode name, value)] :=
        mem_vars_of_get? hget
      obtain ⟨-, rfl⟩ := Prod.mk.inj (List.mem_singleton.mp hmem)
      rw [text?_of_get? hget, h]
  exact (ofEnvironment_congr fun v => hnone v.name.toList).trans
    (show Config.ofEnvironment ⟨[]⟩ = _ from rfl)

/-- **The values that are heeded are those that are text**: of the values that are not blank, a value of
a variable is heeded in all environments exactly if its bytes spell a text. -/
theorem heeded_iff_isText {v : Variable} {value : List UInt8} (h : ¬ IsBlankValue value) :
    (∀ env : Environment, env.get? v.name.toList = some value → Heeded env v value) ↔
      ∃ text, Text.Utf8.decode? value = some text := by
  constructor
  -- where the bytes are no text, the environment that sets nothing else takes the default
  · intro hheeded
    cases htext : Text.Utf8.decode? value with
    | some text => exact ⟨text, rfl⟩
    | none =>
      have hset : Environment.get? ⟨[(Text.Utf8.encode v.name.toList, value)]⟩ v.name.toList =
          some value := by
        unfold Environment.get?
        rw [List.lookup_cons_self]
      have hfollows := (hheeded _ hset).followed _ (ofEnvironment_of_no_text htext)
      cases v with
      | port | apiPort | siteRoot =>
        obtain ⟨text, hsome, -⟩ := hfollows
        exact ⟨text, htext.symm.trans hsome⟩
  · rintro ⟨text, htext⟩ env hset
    exact heeded_of_text hset htext fun hblank => h ⟨text, htext, trimChars_eq_nil_iff.mp hblank⟩

/-- A port that is written with blanks, a sign and a zero. -/
def signedPort : List UInt8 :=
  Text.Utf8.encode " +0443\t".toList

/-- An environment with this port, and with a variable that is no text. -/
def signedPortEnvironment : Environment :=
  ⟨[(Text.Utf8.encode "API_PORT".toList, [0xff]), (Text.Utf8.encode "PORT".toList, signedPort)]⟩

/-- The port is heeded beside the variable that is no text. -/
theorem heeded_beside_no_text :
    ¬ IsBlankValue signedPort ∧
      Config.ofEnvironment signedPortEnvironment = .ok ⟨443, 8080, "target/site"⟩ ∧
      Heeded signedPortEnvironment .port signedPort := by
  have htext : Text.Utf8.decode? signedPort = some " +0443\t".toList := Text.Utf8.decode?_encode _
  have hblank : ¬ IsBlankValue signedPort := by
    rintro ⟨text, hsome, h⟩
    cases htext.symm.trans hsome
    exact absurd (h '+' (by decide)) (by decide)
  exact ⟨hblank, by decide +kernel,
    (heeded_iff_isText hblank).mpr ⟨_, htext⟩ _ (by decide +kernel)⟩

/-- A value that is no text is not heeded: the default is taken and nothing is said. -/
theorem port_of_no_text_not_heeded :
    ¬ ∀ (env : Environment) (v : Variable) (value : List UInt8), env.get? v.name.toList = some value →
      ¬ IsBlankValue value → Heeded env v value := by
  intro h
  have hnone : Text.Utf8.decode? [0xff] = none := by decide +kernel
  have hblank : ¬ IsBlankValue [0xff] := by
    rintro ⟨text, hsome, -⟩
    cases hnone.symm.trans hsome
  have hheeded := h ⟨[(Text.Utf8.encode "PORT".toList, [0xff])]⟩ .port [0xff] (by decide +kernel) hblank
  obtain ⟨text, hsome, -⟩ := hheeded.followed _ (ofEnvironment_of_no_text hnone)
  cases hnone.symm.trans hsome

end DnsConsole.Server
