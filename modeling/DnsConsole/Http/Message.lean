import DnsConsole.Text.Numerals
import DnsConsole.Text.Pieces

/-!
# Requests and responses

The target of a request is a path with an optional query, or a whole URL, of which scheme and authority
are kept apart.  A fragment is dropped, and an empty path of a whole URL is the root.  The path is kept
as it was sent: whoever looks something up by it decodes it.

A request names a method, a target and headers; a response has a status, headers and a body.  Names of
headers are compared in lower case.  A body that is produced while it is sent (`streamed`) has no
length that could be known before.
-/

namespace DnsConsole.Http

/-! ### Targets -/

/-- What a request asks for.  `origin` is the scheme and authority of a whole URL, and empty
otherwise. -/
structure Target where
  origin : List Char
  path : List Char
  query : Option (List Char)
  deriving DecidableEq, Repr

namespace Target

/-- A text cut behind the first `://`, if it has one in front of which there is no slash. -/
def splitScheme? : List Char → Option (List Char × List Char)
  | ':' :: '/' :: '/' :: r => some ([], r)
  | c :: r =>
    if c = '/' ∨ c = '?' ∨ c = '#' then none else (splitScheme? r).map fun p => (c :: p.1, p.2)
  | [] => none

/-- The path and query of a target of which the origin has been read. -/
def ofPath (origin cs : List Char) : Target :=
  let (path, query) := Text.cut '?' (cs.takeWhile (· ≠ '#'))
  ⟨origin, if path.isEmpty then ['/'] else path, query⟩

/-- The name of a scheme as it is kept: the two common ones in lower case. -/
def schemeName (name : List Char) : List Char :=
  let lower := name.map Char.toLower
  if lower = "http".toList ∨ lower = "https".toList then lower else name

/-- The target that a text stands for. -/
def ofText (s : String) : Target :=
  match splitScheme? s.toList with
  | some (scheme, r) =>
    let (authority, rest) := r.span fun c => c != '/' && c != '?' && c != '#'
    ofPath (schemeName scheme ++ "://".toList ++ authority) rest
  | none => ofPath [] s.toList

/-- The query with its question mark. -/
def queryText : Option (List Char) → List Char
  | none => []
  | some q => '?' :: q

/-- The path and query of a target as text. -/
def reference (t : Target) : List Char :=
  t.path ++ queryText t.query

/-- A target as text. -/
def text (t : Target) : List Char :=
  t.origin ++ t.reference

/-- The target with a slash behind its path. -/
def withSlash (t : Target) : Target :=
  { t with path := t.path ++ ['/'] }

end Target

/-! ### Messages -/

/-- A request, as far as answers depend on it. -/
structure Request where
  method : String
  target : Target
  headers : List (String × String)
  deriving DecidableEq, Repr

/-- A response. -/
structure Response where
  status : Nat
  headers : List (String × String)
  body : List UInt8
  streamed : Bool
  deriving DecidableEq, Repr

namespace Request

/-- The values of a header, in order. -/
def all (r : Request) (name : String) : List String :=
  (r.headers.filter fun h => h.1.toLower == name).map (·.2)

/-- Whether a header value is plain text: ASCII without controls, tabs apart. -/
def isPlain (value : String) : Bool :=
  value.toList.all fun c => (0x20 ≤ c.toNat && c.toNat < 0x7F) || c == '\t'

/-- The first value of a header, if it is plain text. -/
def plain? (r : Request) (name : String) : Option (List Char) :=
  ((r.all name).head?.filter isPlain).map String.toList

/-- Whether the body of the response is left out. -/
def isHead (r : Request) : Bool :=
  r.method == "HEAD"

/-- Whether the request asks for content, or for its headers only. -/
def asksContent (r : Request) : Bool :=
  r.method == "GET" || r.isHead

end Request

namespace Response

/-- A response without a body. -/
def empty (status : Nat) (headers : List (String × String)) : Response :=
  ⟨status, headers, [], false⟩

/-- The value of a header. -/
def header? (r : Response) (name : String) : Option String :=
  r.headers.lookup name

/-- The response with headers added. -/
def addHeaders (r : Response) (headers : List (String × String)) : Response :=
  { r with headers := r.headers ++ headers }

/-- The response without its body. -/
def withoutBody (r : Response) : Response :=
  { r with body := [] }

/-- The response as an answer to a request: without its body if only the headers were asked for. -/
def answering (r : Response) (request : Request) : Response :=
  if request.isHead then r.withoutBody else r

/-- The response with its length told, if it is known and not told yet. -/
def measured (r : Response) : Response :=
  if r.streamed || (r.header? "content-length").isSome then r
  else r.addHeaders [("content-length", Text.Decimal.text r.body.length)]

/-- The header that names the methods that are known. -/
def knownMethods : List (String × String) :=
  [("allow", "GET,HEAD")]

/-- A refusal of the method of a request. -/
def methodNotAllowed : Response :=
  empty 405 knownMethods

/-- The answer where nothing was found. -/
def notFound : Response :=
  empty 404 []

end Response

end DnsConsole.Http
