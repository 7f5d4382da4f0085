import DnsConsole.Url.Basic

/-!
# References

The console's own routes are matched against the path of a reference, which is resolved against the root
of a server: a reference may be a whole URL, start at a host, or be just a path.  Segments that are one
dot, plain or percent-encoded, are dropped, and two dots take the segment in front of them away; query and
fragment are no part of the path.
-/

namespace DnsConsole.Url

/-- A text up to its query and fragment. -/
def beforeQuery (cs : List Char) : List Char :=
  cs.takeWhile fun c => c != '?' && c != '#'

/-- A segment with its encoded dots decoded. -/
def decodeDots : List Char → List Char
  | '%' :: '2' :: c :: r => if c = 'e' ∨ c = 'E' then '.' :: decodeDots r else '%' :: '2' :: c :: r
  | c :: r => c :: decodeDots r
  | [] => []

/-- The segments of a path with its dots resolved; `done` holds the segments so far, the last one
first. -/
def resolveDots (done : List (List Char)) : List (List Char) → List (List Char)
  | [] => done.reverse
  | [last] =>
    if decodeDots last = ['.'] then ([] :: done).reverse
    else if decodeDots last = ['.', '.'] then ([] :: done.tail).reverse
    else (last :: done).reverse
  | segment :: rest =>
    if decodeDots segment = ['.'] then resolveDots done rest
    else if decodeDots segment = ['.', '.'] then resolveDots done.tail rest
    else resolveDots (segment :: done) rest

/-- The segments of a path behind a host, without the slash in front. -/
def segments (scheme : Scheme) (path : List Char) : List (List Char) :=
  let path := path.map fun c => if isSlash scheme c then '/' else c
  resolveDots [] (Text.split '/' (if path.head? = some '/' then path.tail else path))

/-- The path behind the authority in front of a text. -/
def behindAuthority (scheme : Scheme) (cs : List Char) : List Char :=
  beforeQuery (cs.dropWhile fun c => !endsAuthority scheme c)

/-- The segments that a reference without a scheme names. -/
def relativeSegments (cs : List Char) : List (List Char) :=
  match cs with
  | a :: b :: r =>
    if isSlash .http a && isSlash .http b then
      segments .http (behindAuthority .http (r.dropWhile (isSlash .http)))
    else segments .http (beforeQuery cs)
  | _ => segments .http (beforeQuery cs)

/-- The segments that a reference names, seen from the root of a server. -/
def referenceSegments (reference : String) : List (List Char) :=
  let cs := significant reference.toList
  match splitScheme? cs with
  | none => relativeSegments cs
  | some (.other name, r) =>
    match r with
    | '/' :: '/' :: r => segments (.other name) (behindAuthority (.other name) r)
    | r => segments (.other name) (beforeQuery r)
  | some (scheme, r) =>
    if scheme = .http ∧ (r.takeWhile (isSlash .http)).length < 2 then relativeSegments r
    else segments scheme (behindAuthority scheme (r.dropWhile (isSlash scheme)))

end DnsConsole.Url
