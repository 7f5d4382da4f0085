import DnsConsole.Environment
import DnsConsole.Server.Options
import DnsConsole.Text.Numerals
import DnsConsole.Text.Pieces
import DnsConsole.Text.Quoted

/-!
# Starting the server

Three variables configure the console server: the port it listens on, the port of the control API that it
tells the login form, and the directory of its files.  A variable that is unset, not UTF-8 or blank gives
the default; a port that is set to anything else but a port number is an error.

The server reads the environment file, its configuration and the options of the page, in this order, and
then takes its port.  `start` says how far it gets: what it logs, what it writes to the error stream, and
whether it listens in the end.
-/

namespace DnsConsole.Server

/-! ### Configuration -/

/-- Why there is no configuration. -/
inductive ConfigError
  | invalidPort (name value : String)
  deriving DecidableEq, Repr

/-- An error in words. -/
def ConfigError.message : ConfigError → String
  | invalidPort name value =>
    "invalid " ++ name ++ ": " ++ Text.Quoted.quote value ++ " is not a port number"

/-- The port in a variable. -/
def portIn (env : Environment) (name : String) (default : UInt16) : Except ConfigError UInt16 :=
  match env.text? name.toList with
  | none => .ok default
  | some value =>
    let trimmed := Text.trimChars value
    if trimmed.isEmpty then .ok default
    else
      match Number.Unsigned.read 65535 trimmed with
      | .ok n => .ok (UInt16.ofNat n)
      | .error _ => .error (.invalidPort name (String.ofList value))

/-- The path in a variable. -/
def pathIn (env : Environment) (name default : String) : String :=
  match env.text? name.toList with
  | none => default
  | some value =>
    let trimmed := Text.trimChars value
    if trimmed.isEmpty then default else String.ofList trimmed

/-- What the variables say. -/
structure Config where
  port : UInt16
  apiPort : UInt16
  siteRoot : String
  deriving DecidableEq, Repr

/-- The configuration in an environment; of two wrong ports the first is reported. -/
def Config.ofEnvironment (env : Environment) : Except ConfigError Config := do
  let port ← portIn env "PORT" 8000
  let apiPort ← portIn env "API_PORT" 8080
  return ⟨port, apiPort, pathIn env "SITE_ROOT" "target/site"⟩

/-! ### The start -/

/-- Why the server does not listen. -/
inductive StartError
  | config (e : ConfigError)
  | options (e : OptionsError)
  | addressInUse
  deriving DecidableEq, Repr

/-- An error as it is reported at the end of the program. -/
def StartError.report : StartError → String
  | config (.invalidPort name value) =>
    "InvalidPort \x7b var: " ++ Text.Quoted.quote name ++ ", value: " ++ Text.Quoted.quote value ++
      " \x7d"
  | options e => Text.Quoted.quote e.message
  | addressInUse =>
    "Os \x7b code: 98, kind: AddrInUse, message: \"Address already in use\" \x7d"

/-- What is written to the error stream if the script of the page has no name. -/
def namelessNotice : String :=
  "It looks like you're trying to compile Leptos without the LEPTOS_OUTPUT_NAME environment " ++
    "variable being set. There are two options\n" ++
  " 1. cargo-leptos is not being used, but get_configuration() is being passed None. This needs to " ++
    "be changed to Some(\"Cargo.toml\")\n" ++
  " 2. You are compiling Leptos without LEPTOS_OUTPUT_NAME being set with cargo-leptos. This " ++
    "shouldn't be possible!\n"

/-- How far the server gets. -/
structure Startup where
  log : List String
  notice : String
  outcome : Except StartError (Config × Options)

/-- What is on the error stream when the program has ended with an error. -/
def Startup.errorText (s : Startup) (e : StartError) : String :=
  s.notice ++ "Error: " ++ e.report ++ "\n"

/-- The record that says which files are served. -/
def servingLine (siteRoot : String) : String :=
  "INFO argo_admin::routes: serving ui assets site_root=" ++ siteRoot

/-- The record that says that the server listens. -/
def listeningLine (c : Config) : String :=
  "INFO argo_admin: argo admin ui listening port=" ++ Text.Decimal.text c.port.toNat ++
    " api_port=" ++ Text.Decimal.text c.apiPort.toNat

/-- The notice about the name of the script: it is written as soon as the name has been read. -/
def noticeFor (env : Environment) : String :=
  match textIn env "LEPTOS_OUTPUT_NAME" "" with
  | .ok [] => namelessNotice
  | _ => ""

/-- The environment after the environment file, if there is one, has been read. -/
def loadFile (env : Environment) (file : Option String) : Environment :=
  match file with
  | some text => env.load text
  | none => env

/-- Starts the server.  `portIsFree` says whether its port can be taken. -/
def start (env : Environment) (file : Option String) (portIsFree : Bool) : Startup :=
  let env := loadFile env file
  match Config.ofEnvironment env with
  | .error e => ⟨[], "", .error (.config e)⟩
  | .ok config =>
    match Options.ofEnvironment env with
    | .error e => ⟨[], noticeFor env, .error (.options e)⟩
    | .ok options =>
      let serving := servingLine config.siteRoot
      if portIsFree then ⟨[serving, listeningLine config], noticeFor env, .ok (config, options)⟩
      else ⟨[serving], noticeFor env, .error .addressInUse⟩

end DnsConsole.Server
