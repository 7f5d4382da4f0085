import DnsConsole.Api.Call
import DnsConsole.Http.Coding
import DnsConsole.Http.Router
import DnsConsole.Site.Document
import DnsConsole.Site.Files

/-!
# Routes

`apiRouter` answers at the two endpoints that a page of any origin may read: the port of the control
API, and a sign of life.  `consoleRouter` adds the page of the console at the root, the built files below
`/pkg`, and the files of the site everywhere else, and compresses what it answers.  What the server logs
of a request is left out.
-/

namespace DnsConsole.Site

open Http

/-! ### Endpoints -/

/-- The port of the control API. -/
def portContent (apiPort : UInt16) : Service := fun _ =>
  ⟨200, [("content-type", "application/json")], Text.Utf8.encode (Api.encodePort apiPort).toList, false⟩

/-- A sign of life. -/
def healthContent : Service := fun _ =>
  .empty 200 []

/-- The headers that let pages of any origin read an answer. -/
def openHeaders : List (String × String) :=
  [("access-control-allow-origin", "*"),
    ("vary", "origin, access-control-request-method, access-control-request-headers")]

/-- The headers that let pages of any origin send any request. -/
def preflightHeaders : List (String × String) :=
  openHeaders ++ [("access-control-allow-methods", "*"), ("access-control-allow-headers", "*")]

/-- A method that asks what may be asked. -/
def isPreflight (request : Request) : Bool :=
  request.method == "OPTIONS"

/-- The layer that lets pages of any origin send any request and read every answer. -/
def opening : Layer := fun service request =>
  if isPreflight request then .empty 200 preflightHeaders
  else (service request).addHeaders openHeaders

/-- The router of the endpoints.  What it does not find may be read from any origin too. -/
def apiRouter (apiPort : UInt16) : Router :=
  ((Router.empty.route "/api-port" (.get (portContent apiPort))).route "/healthz"
    (.get healthContent)).layer opening

/-- The answer of the endpoints alone. -/
def apiResponse (apiPort : UInt16) (request : Request) : Response :=
  (apiRouter apiPort).answer request

/-! ### The console -/

/-- What the server serves: a directory of a tree, and how the page is rendered. -/
structure Console where
  apiPort : UInt16
  options : Server.Options
  tree : Tree
  root : List String

/-- The path of the directory that is served. -/
def Console.base (c : Console) : List Char :=
  c.root.foldl Path.push Path.top

/-- The path of the directory of the built files. -/
def Console.packageBase (c : Console) : List Char :=
  Path.push c.base "pkg"

/-- The page of the console; `nonce` marks what may run in it. -/
def pageContent (c : Console) (nonce : String) : Service := fun request =>
  ⟨200, [("content-type", "text/html; charset=utf-8")],
    Text.Utf8.encode (document c.options nonce (String.ofList request.target.reference)).toList, true⟩

/-- The router of the page. -/
def pageRouter (c : Console) (nonce : String) : Router :=
  Router.empty.route "/" (.get (pageContent c nonce))

/-- The router of everything that is served, before it is compressed. -/
def plainRouter (c : Console) (nonce : String) : Router :=
  (((apiRouter c.apiPort).merge (pageRouter c nonce)).nestService "/pkg"
    (serveFiles c.tree c.packageBase)).fallbackService (serveFiles c.tree c.base)

/-- The router of the console. -/
def consoleRouter (c : Console) (nonce : String) : Router :=
  (plainRouter c nonce).layer compressing

/-- The answer of the console to a request. -/
def consoleResponse (c : Console) (nonce : String) (request : Request) : Response :=
  (consoleRouter c nonce).answer request

end DnsConsole.Site
