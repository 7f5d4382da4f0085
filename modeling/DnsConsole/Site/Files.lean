import DnsConsole.Http.ContentType
import DnsConsole.Http.Date
import DnsConsole.Http.Message
import DnsConsole.Http.Range
import DnsConsole.Site.Tree
import DnsConsole.Text.Bytes

/-!
# Files

A directory is served by its path in a tree.  The path of a request is decoded, and the names in it are
put behind the path of the directory; `..`, a path that is absolute after decoding and a NUL lead nowhere.
A file is answered with its type, date and length, as far as the conditions of the request and its range
let it; a directory is answered by its index page, or by a redirect if the path does not end in a slash.
-/

namespace DnsConsole.Site

open Http

/-- The names that a request path leads through, if it leads downwards. -/
def pathNames? (path : List Char) : Option (List String) := do
  let decoded ← Text.Percent.decodeText? (path.dropWhile (· = '/'))
  if decoded.head? = some '/' ∨ decoded.contains '\x00' then none
  else
    let segments := (Text.split '/' decoded).filter fun s => s ≠ [] ∧ s ≠ ['.']
    if segments.contains ['.', '.'] then none else some (segments.map String.ofList)

/-- Whether a condition on the date of a file keeps it from being sent, and the status that says so. -/
def refusedByDate? (request : Request) (modified : Nat) : Option Nat :=
  let date? (name : String) : Option Nat :=
    request.plain? name >>= fun value => Date.read? (String.ofList value)
  if (date? "if-unmodified-since").any (· < modified) then some 412
  else if (date? "if-modified-since").any (modified ≤ ·) then some 304
  else none

/-- The answer to a request for several parts at once. -/
def severalParts : String := "Cannot serve multipart range requests"

/-- The answer to a request for a file of some name. -/
def fileResponse (request : Request) (name : String) (f : File) : Response :=
  match refusedByDate? request f.modified with
  | some status => .empty status []
  | none =>
    let size := f.content.length
    let headers :=
      [("content-type", ContentType.ofName name), ("accept-ranges", "bytes"),
        ("last-modified", Date.text f.modified)]
    match Range.select (request.plain? "range") size with
    | .whole =>
      (⟨200, headers ++ [("content-length", Text.Decimal.text size)], f.content, false⟩ :
        Response).answering request
    | .part first last =>
      (⟨206, headers ++
        [("content-range",
            "bytes " ++ Text.Decimal.text first ++ "-" ++ Text.Decimal.text last ++ "/" ++
              Text.Decimal.text size),
          ("content-length", Text.Decimal.text (if size = 0 then 0 else last - first + 1))],
        (f.content.drop first).take (last - first + 1), false⟩ : Response).answering request
    | .several =>
      ⟨416, headers ++ [("content-range", "bytes */" ++ Text.Decimal.text size)],
        Text.Utf8.encode severalParts.toList, false⟩
    | .unsatisfiable =>
      .empty 416 (headers ++ [("content-range", "bytes */" ++ Text.Decimal.text size)])

/-- The answer to a request for what is at a path.  A directory is asked for here only under the name of
the index page of another one.  What a server says of such a directory is left out, and it counts as
missing: a server opens it like a file, tells a length that is up to its file system, and breaks off when
it comes to the content. -/
def foundResponse (request : Request) (name : String) : Found → Response
  | .file f => fileResponse request name f
  | .directory | .missing => .notFound
  | .nameTooLong => .empty 500 []

/-- The page that a directory is answered by. -/
def indexName : String := "index.html"

/-- The answer of a directory of a tree, the one at the path `base`, to a request. -/
def serveFiles (tree : Tree) (base : List Char) (request : Request) : Response :=
  if !request.asksContent then .methodNotAllowed
  else
    match pathNames? request.target.path with
    | none => .notFound
    | some names =>
      let path := names.foldl Path.push base
      match tree.lookup path with
      | .directory =>
        if request.target.path.getLast? = some '/' then
          foundResponse request indexName (tree.lookup (Path.push path indexName))
        else
          .empty 307 [("location", String.ofList request.target.withSlash.text)]
      | found => foundResponse request (Path.lastName path) found

end DnsConsole.Site
