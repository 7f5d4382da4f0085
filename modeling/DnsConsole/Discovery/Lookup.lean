import DnsConsole.Api.Call
import DnsConsole.Text.Pieces
import DnsConsole.Url.Basic

/-!
# Discovering the server

The console server tells the port of the control API, which runs at the host of the page.  `lookup`
asks for the port and puts it into the origin of the page; it fails if no response comes, on any status
but 200, on a body without a port and for a page whose origin cannot carry one.  `discover` takes the
default server in all of these cases, so that there is always a server to propose.

Two texts may be overridden when the console is built: the URL that is asked for the port, and the default
server.  A blank override counts as none, and any other is taken without the blanks around it.
-/

namespace DnsConsole.Discovery

/-! ### Settings -/

/-- Where to ask for the port of the control API, and which server to take without an answer. -/
structure Settings where
  discoveryUrl : String
  defaultServer : String
  deriving DecidableEq, Repr

/-- The settings that hold without overrides. -/
def Settings.standard : Settings where
  discoveryUrl := "http://localhost:8000/api-port"
  defaultServer := "http://localhost:8080"

/-- An override that is given and not blank, trimmed. -/
def nonBlank? (override : Option String) : Option String :=
  (override.map Text.trim).filter fun s => !s.isEmpty

/-- The settings with overrides. -/
def Settings.ofOverrides (discoveryUrl defaultServer : Option String) : Settings where
  discoveryUrl := (nonBlank? discoveryUrl).getD standard.discoveryUrl
  defaultServer := (nonBlank? defaultServer).getD standard.defaultServer

/-! ### The lookup -/

/-- Why no server was discovered. -/
inductive LookupError
  | transport (e : Api.TransportError)
  | status (status : UInt16)
  | body (e : Json.DecodeError)
  | origin (e : Url.OriginError)
  deriving DecidableEq, Repr

/-- An error in words. -/
def LookupError.message : LookupError → String
  | transport e => e.message
  | status n => "discovery endpoint returned status " ++ Text.Decimal.text n.toNat
  | body e => "discovery body unreadable: " ++ e.message
  | origin e => e.message

/-- The server at the host of a page that an answer about the port gives. -/
def lookupResult (pageUrl : String) : Api.Outcome → Except LookupError String
  | .error e => .error (.transport e)
  | .ok response =>
    if !response.isOk then .error (.status response.status)
    else
      match Api.decodePort response.body with
      | .error e => .error (.body e)
      | .ok port =>
        match Url.originWithPort pageUrl port with
        | .error e => .error (.origin e)
        | .ok origin => .ok origin

/-- The call that looks the server up. -/
def lookup (discoveryUrl pageUrl : String) : Api.Call (Except LookupError String) where
  request := ⟨discoveryUrl, none⟩
  receive outcome := pure (lookupResult pageUrl outcome)

/-- The server to propose when a lookup has come out. -/
def proposal (settings : Settings) : Except LookupError String → Traced String
  | .ok origin => do
    record .debug .discovery ("discovered default server " ++ origin)
    return origin
  | .error e => do
    record .warn .discovery
      ("server discovery failed, using " ++ settings.defaultServer ++ ": " ++ e.message)
    return settings.defaultServer

/-- The call that finds the server to propose. -/
def discover (settings : Settings) (pageUrl : String) : Api.Call String :=
  (lookup settings.discoveryUrl pageUrl).andThen (proposal settings)

end DnsConsole.Discovery
