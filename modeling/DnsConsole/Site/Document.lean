import DnsConsole.Page.Screen
import DnsConsole.Server.Options
import DnsConsole.Text.Quoted

/-!
# The document

The page that the server renders: the console in its first state, and around it what the browser needs to
go on from there.  The script is found by the options, and everything that may run carries the nonce
of the answer.
-/

namespace DnsConsole.Site

open Page

/-- The text of the script that starts the console in the browser. -/
def startScript : String :=
  "(function (root, pkg_path, output_name, wasm_output_name, defer) \x7b\n" ++
  "\tconst hydrate = () =>\n" ++
  "\t\timport(`$\x7broot\x7d/$\x7bpkg_path\x7d/$\x7boutput_name\x7d.js`)\n" ++
  "\t\t\t.then(mod => \x7b\n" ++
  "\t\t\t\tmod.default(\x7bmodule_or_path: `$\x7broot\x7d/$\x7bpkg_path\x7d/" ++
    "$\x7bwasm_output_name\x7d.wasm`\x7d).then(() => \x7b\n" ++
  "\t\t\t\t\tmod.hydrate();\n" ++
  "\t\t\t\t\x7d);\n" ++
  "\t\t\t\x7d);\n" ++
  "\tif (defer && \"requestIdleCallback\" in window) \x7b\n" ++
  "\t\t// `timeout` is a backstop: a never-idle page would otherwise stay dead\n" ++
  "\t\twindow.requestIdleCallback(hydrate, \x7b timeout: 2000 \x7d);\n" ++
  "\t\x7d else \x7b\n" ++
  "\t\thydrate();\n" ++
  "\t\x7d\n" ++
  "\x7d)\n"

/-- The name of the built program; a build without hashes marks it. -/
def programName (o : Server.Options) : String :=
  if o.hashFiles then o.outputName else o.outputName ++ "_bg"

/-- The line that calls the script. -/
def startCall (o : Server.Options) : String :=
  "(\"\", " ++ Text.Quoted.quote o.packageDir ++ ", " ++ Text.Quoted.quote o.outputName ++ ", " ++
    Text.Quoted.quote (programName o) ++ ", false);"

/-- The head of the page. -/
def head (o : Server.Options) (nonce : String) : Node :=
  .element "head" []
    [.void "meta" [.value "charset" "utf-8"],
      .void "meta" [.value "name" "viewport",
        .value "content" "width=device-width, initial-scale=1"],
      .marker,
      .void "link" [.value "rel" "modulepreload",
        .value "href" ("/" ++ o.packageDir ++ "/" ++ o.outputName ++ ".js"),
        .value "crossorigin" nonce],
      .void "link" [.value "rel" "preload",
        .value "href" ("/" ++ o.packageDir ++ "/" ++ programName o ++ ".wasm"),
        .value "as" "fetch", .value "type" "application/wasm", .value "crossorigin" nonce],
      .element "script" [.value "type" "module", .value "nonce" nonce]
        [.raw (startScript ++ startCall o)],
      .comment "HEAD",
      .void "link" [.value "id" "leptos", .value "rel" "stylesheet",
        .value "href" "/pkg/argo-admin.css"],
      .element "title" [] [.text "Argo DNS"]]

/-- A script that carries the nonce. -/
def script (nonce text : String) : Node :=
  .element "script" [.value "nonce" nonce] [.raw text]

/-- The page around what the console shows, as text. -/
def shell (o : Server.Options) (nonce : String) (view : Node) : String :=
  "<!DOCTYPE html>" ++
    (Node.element "html" [.value "lang" "en"] [head o nonce, .element "body" [] [view]]).html ++
    (script nonce ("__RESOLVED_RESOURCES=[];__SERIALIZED_ERRORS=[];__PENDING_RESOURCES=[];" ++
      "__RESOURCE_RESOLVERS=[];")).html ++
    (script nonce "__INCOMPLETE_CHUNKS=[];").html

/-- The page at a request URL, as text. -/
def document (o : Server.Options) (nonce url : String) : String :=
  shell o nonce (app url)

end DnsConsole.Site
